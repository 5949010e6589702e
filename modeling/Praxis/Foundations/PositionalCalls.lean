import Mathlib

/-!
# Positional calls

The arguments of a call are read by position, and some may be missing: a callee sees no difference
between a missing argument and a position past the end. A text of a call has no missing values. The
missing arguments at its end are dropped, and one that stands before a given argument is written as
a null. So the callee of the text reads what the caller passed except in these gaps
(`received_eq_param_iff`), and there it reads the null (`received_gap`).
-/

universe u

namespace Praxis.Foundations.PositionalCalls

set_option autoImplicit false

variable {α : Type u}

/-- The argument at a position. -/
def param (args : List (Option α)) (position : Nat) : Option α := args[position]?.join

/-- The first so many positions, up to the last argument that is given. -/
def givenLength (args : List (Option α)) : Nat → Nat
  | 0 => 0
  | length + 1 => if (param args length).isNone then givenLength args length else length + 1

/-- The arguments without the missing ones at their end. -/
def compactArgs (args : List (Option α)) : List (Option α) :=
  args.take (givenLength args args.length)

/-- The values that are written. -/
def written (null : α) (args : List (Option α)) : List α :=
  (compactArgs args).map (·.getD null)

/-- What the callee of the text reads at a position. -/
def received (null : α) (args : List (Option α)) (position : Nat) : Option α :=
  (written null args)[position]?

/-- A missing argument before one that is given. -/
def Gap (args : List (Option α)) (position : Nat) : Prop :=
  param args position = none ∧ ∃ later, position < later ∧ param args later ≠ none

/-- The arguments at the first so many positions. -/
def positional (arity : Nat) (args : List (Option α)) : List (Option α) :=
  (List.range arity).map (param args)

section Reading

variable {args : List (Option α)} {position later arity : Nat} {null : α}

theorem lt_length_of_param (given : param args position ≠ none) : position < args.length := by
  by_contra outside
  apply given
  rw [param, List.getElem?_eq_none (Nat.le_of_not_lt outside)]
  rfl

theorem givenLength_le (length : Nat) : givenLength args length ≤ length := by
  induction length with
  | zero => exact Nat.le_refl 0
  | succ length ih =>
    rw [givenLength]
    split
    · exact Nat.le_succ_of_le ih
    · exact Nat.le_refl _

theorem lt_givenLength_iff {length : Nat} :
    position < givenLength args length ↔
      ∃ later, position ≤ later ∧ later < length ∧ param args later ≠ none := by
  induction length with
  | zero =>
    constructor
    · intro absurd
      exact (Nat.not_lt_zero _ absurd).elim
    · rintro ⟨_, _, absurd, _⟩
      exact (Nat.not_lt_zero _ absurd).elim
  | succ length ih =>
    rw [givenLength]
    split
    · rename_i missing
      rw [ih]
      constructor
      · rintro ⟨later, from_, before, given⟩
        exact ⟨later, from_, Nat.lt_succ_of_lt before, given⟩
      · rintro ⟨later, from_, before, given⟩
        rcases Nat.lt_succ_iff_lt_or_eq.mp before with before | rfl
        · exact ⟨later, from_, before, given⟩
        · exact absurd (Option.isNone_iff_eq_none.mp missing) given
    · rename_i given
      constructor
      · intro inside
        exact ⟨length, Nat.lt_succ_iff.mp inside, Nat.lt_succ_self _, by simpa using given⟩
      · rintro ⟨later, from_, before, _⟩
        omega

/-- The callee reads the arguments up to the last one that is given. -/
theorem received_eq :
    received null args position =
      if position < givenLength args args.length then some ((param args position).getD null)
      else none := by
  rw [received, written, compactArgs, List.getElem?_map, List.getElem?_take]
  split
  · rename_i inside
    have bound := Nat.lt_of_lt_of_le inside (givenLength_le args.length)
    rw [param, List.getElem?_eq_getElem bound]
    rfl
  · rfl

theorem received_of_given {value : α} (given : param args position = some value) :
    received null args position = some value := by
  have here : param args position ≠ none := by
    rw [given]
    simp
  rw [received_eq, if_pos, given]
  · rfl
  · exact lt_givenLength_iff.mpr ⟨position, Nat.le_refl _, lt_length_of_param here, here⟩

/-- **In a gap the callee reads a null.** -/
theorem received_gap (gap : Gap args position) : received null args position = some null := by
  obtain ⟨missing, later, before, given⟩ := gap
  rw [received_eq, if_pos, missing]
  · rfl
  · exact lt_givenLength_iff.mpr ⟨later, Nat.le_of_lt before, lt_length_of_param given, given⟩

/-- **Outside the gaps the callee reads what the caller passed.** -/
theorem received_eq_param_iff :
    received null args position = param args position ↔ ¬ Gap args position := by
  constructor
  · intro same gap
    rw [received_gap gap, gap.1] at same
    cases same
  · intro whole
    cases read : param args position with
    | some value => exact received_of_given read
    | none =>
      rw [received_eq, if_neg]
      intro inside
      obtain ⟨later, from_, _, given⟩ := lt_givenLength_iff.mp inside
      rcases Nat.lt_or_eq_of_le from_ with before | rfl
      · exact whole ⟨read, later, before, given⟩
      · exact given read

theorem received_eq_param (whole : ∀ position, ¬ Gap args position) :
    received null args = param args := by
  funext position
  exact received_eq_param_iff.mpr (whole position)

/-- What the callee reads is made from what the caller passed. -/
theorem received_congr {others : List (Option α)} (same : param args = param others) :
    received null args = received null others := by
  funext position
  by_cases gap : Gap args position
  · have other : Gap others position := by
      rw [Gap, ← same]
      exact gap
    rw [received_gap gap, received_gap other]
  · have other : ¬ Gap others position := by
      rw [Gap, ← same]
      exact gap
    rw [received_eq_param_iff.mpr gap, received_eq_param_iff.mpr other, same]

theorem param_positional (inside : args.length ≤ arity) :
    param (positional arity args) = param args := by
  funext position
  by_cases bound : position < arity
  · rw [positional, param, List.getElem?_map, List.getElem?_range bound]
    rfl
  · have outside : param args position = none := by
      by_contra given
      have := lt_length_of_param given
      omega
    rw [outside, positional, param, List.getElem?_map, List.getElem?_eq_none (by simpa using bound)]
    rfl

end Reading

end Praxis.Foundations.PositionalCalls
