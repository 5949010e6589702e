import Mathlib

/-!
# Verdicts before every vote is in

A vote over branches that are decided one after the other. A branch is open until it is
decided; then it was granted, was refused, or dropped out. The threshold is a number of
granted branches, or all the branches that did not drop out, so that it shrinks while
branches drop out. A verdict is given as soon as the open branches cannot change it:
`verdict_lasts` says that no way of deciding them does.
-/

namespace Praxis.Foundations

set_option autoImplicit false

/-- What is known of a branch. -/
inductive Vote where
  | undecided | withdrawn | granted | refused
deriving DecidableEq

/-- How many granted branches are needed. -/
inductive Threshold where
  | all
  | atLeast (minimum : Int)
deriving DecidableEq

inductive Verdict where
  | waiting | passed | empty | lost

/-- The branches that did not drop out. -/
def activeVotes (votes : List Vote) : Nat := votes.countP (· ≠ .withdrawn)

def Threshold.minimum (threshold : Threshold) (active : Nat) : Int :=
  match threshold with
  | .all => active
  | .atLeast minimum => minimum

def verdict (threshold : Threshold) (votes : List Vote) : Verdict :=
  if activeVotes votes = 0 then .empty
  else if threshold.minimum (activeVotes votes) ≤ votes.count .granted then .passed
  else if (votes.count .granted + votes.count .undecided : Int) <
      threshold.minimum (activeVotes votes) then .lost
  else .waiting

/-- A later knowledge of a branch: only an open one changes. -/
def Vote.Settles (earlier later : Vote) : Prop := earlier = .undecided ∨ later = earlier

/-- A later knowledge of all branches. -/
abbrev Settled (earlier later : List Vote) : Prop := List.Forall₂ Vote.Settles earlier later

section Counting

variable {earlier later : List Vote}

theorem activeVotes_eq (votes : List Vote) :
    activeVotes votes =
      votes.count .granted + votes.count .refused + votes.count .undecided := by
  induction votes with
  | nil => rfl
  | cons vote rest ih =>
    simp only [activeVotes, List.countP_cons, List.count_cons] at ih ⊢
    rw [ih]
    cases vote <;> simp <;> omega

variable (settled : Settled earlier later)
include settled

theorem Settled.granted_le :
    earlier.count .granted ≤ later.count .granted := by
  induction settled with
  | nil => exact le_rfl
  | cons head _ ih =>
    rcases head with rfl | rfl
    · rw [List.count_cons_of_ne (by decide)]
      exact ih.trans (List.count_le_count_cons ..)
    · rw [List.count_cons, List.count_cons]
      omega

theorem Settled.refused_le :
    earlier.count .refused ≤ later.count .refused := by
  induction settled with
  | nil => exact le_rfl
  | cons head _ ih =>
    rcases head with rfl | rfl
    · rw [List.count_cons_of_ne (by decide)]
      exact ih.trans (List.count_le_count_cons ..)
    · rw [List.count_cons, List.count_cons]
      omega

/-- Only open branches can still be granted. -/
theorem Settled.possible_le :
    later.count .granted + later.count .undecided ≤
      earlier.count .granted + earlier.count .undecided := by
  induction settled with
  | nil => exact le_rfl
  | @cons first second _ _ head _ ih =>
    rcases head with rfl | rfl
    · cases second <;> simp only [List.count_cons] <;> simp <;> omega
    · simp only [List.count_cons]
      omega

/-- Without an open branch nothing changes. -/
theorem Settled.eq_of_closed (closed : earlier.count .undecided = 0) : later = earlier := by
  induction settled with
  | nil => rfl
  | cons head _ ih =>
    rw [List.count_cons] at closed
    obtain ⟨rest, here⟩ := Nat.add_eq_zero_iff.mp closed
    rcases head with rfl | rfl
    · simp at here
    · rw [ih rest]

end Counting

/-! ## The verdicts are final -/

/-- A threshold that no vote without a granted branch meets. -/
def Threshold.Positive : Threshold → Prop
  | .all => True
  | .atLeast minimum => 0 < minimum

section Finality

variable {threshold : Threshold} {votes earlier later : List Vote}

theorem verdict_eq_empty : verdict threshold votes = .empty ↔ activeVotes votes = 0 := by
  unfold verdict
  split_ifs with none enough <;> simp [none]

theorem verdict_eq_passed : verdict threshold votes = .passed ↔
    activeVotes votes ≠ 0 ∧ threshold.minimum (activeVotes votes) ≤ votes.count .granted := by
  unfold verdict
  split_ifs with none enough <;> simp_all

theorem verdict_eq_lost : verdict threshold votes = .lost ↔ activeVotes votes ≠ 0 ∧
    (votes.count .granted + votes.count .undecided : Int) <
      threshold.minimum (activeVotes votes) := by
  unfold verdict
  split_ifs with none enough few
  · simp [none]
  · simp only [false_iff]
    omega
  · simp [none, few]
  · simp [few]

theorem lost_by_refused :
    verdict .all votes = .lost ↔ 0 < votes.count .refused := by
  rw [verdict_eq_lost, activeVotes_eq]
  simp only [Threshold.minimum]
  omega

theorem passed_lasts (positive : threshold.Positive) (settled : Settled earlier later)
    (passed : verdict threshold earlier = .passed) : verdict threshold later = .passed := by
  have granted := settled.granted_le
  obtain ⟨_, enough⟩ := verdict_eq_passed.mp passed
  cases threshold with
  | all =>
    -- every active branch was granted, so none was open
    rw [activeVotes_eq] at enough
    simp only [Threshold.minimum] at enough
    rw [settled.eq_of_closed (by omega)]
    exact passed
  | atLeast minimum =>
    simp only [Threshold.minimum, Threshold.Positive] at enough positive
    refine verdict_eq_passed.mpr ⟨?_, ?_⟩
    · rw [activeVotes_eq]
      omega
    · simp only [Threshold.minimum]
      omega

/-- A vote whose branches all dropped out stays as it is. -/
theorem empty_lasts (settled : Settled earlier later)
    (empty : verdict threshold earlier = .empty) : verdict threshold later = .empty := by
  rw [verdict_eq_empty, activeVotes_eq] at empty
  rw [settled.eq_of_closed (by omega), verdict_eq_empty, activeVotes_eq]
  exact empty

theorem lost_lasts (settled : Settled earlier later) (lost : verdict threshold earlier = .lost) :
    verdict threshold later = .lost ∨ threshold ≠ .all ∧ verdict threshold later = .empty := by
  cases threshold with
  | all =>
    rw [lost_by_refused] at lost
    exact .inl (lost_by_refused.mpr (lost.trans_le settled.refused_le))
  | atLeast minimum =>
    have possible := settled.possible_le
    obtain ⟨_, few⟩ := verdict_eq_lost.mp lost
    by_cases none : activeVotes later = 0
    · exact .inr ⟨by simp, verdict_eq_empty.mpr none⟩
    · refine .inl (verdict_eq_lost.mpr ⟨none, ?_⟩)
      simp only [Threshold.minimum] at few ⊢
      omega

end Finality

end Praxis.Foundations
