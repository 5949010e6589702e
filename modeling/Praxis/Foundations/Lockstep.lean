import Praxis.Foundations.Fallible
import Praxis.Foundations.Table

/-!
# Two computations in lockstep

Two fallible computations run in lockstep when they accept related values or reject with the
same error. Lockstep is kept by sequencing, so that two runs of one program on related states
are compared statement by statement.

One such relation of states is `Table.Overlay`: a table has all rows of another one and more,
the rows that one owner added. An insertion under a key that the owner did not take runs in
lockstep on both (`Table.Overlay.insert`).
-/

namespace Praxis.Foundations

set_option autoImplicit false

universe u v w

/-- Both accept, with related values, or both reject, with the same error. -/
inductive Lockstep {ε : Type u} {α β : Type v} (Rel : α → β → Prop) :
    Except ε α → Except ε β → Prop
  | ok {a : α} {b : β} (related : Rel a b) : Lockstep Rel (.ok a) (.ok b)
  | error (failure : ε) : Lockstep Rel (.error failure) (.error failure)

namespace Lockstep

variable {ε : Type u} {α β γ δ : Type v} {Rel : α → β → Prop} {Next : γ → δ → Prop}
  {right : Except ε β} {next : α → Except ε γ} {ι : Type v}

theorem bind {left : Except ε α} {next' : β → Except ε δ} (first : Lockstep Rel left right)
    (second : ∀ a b, left = .ok a → right = .ok b → Rel a b → Lockstep Next (next a) (next' b)) :
    Lockstep Next (left >>= next) (right >>= next') := by
  cases first with
  | ok related => exact second _ _ rfl rfl related
  | error failure => exact .error failure

/-- Both computations go on with the same first step. -/
theorem bind_same {step : Except ε α} {next' : α → Except ε δ}
    (second : ∀ a, step = .ok a → Lockstep Next (next a) (next' a)) :
    Lockstep Next (step >>= next) (step >>= next') := by
  cases step with
  | ok a => exact second a rfl
  | error failure => exact .error failure

theorem pure {a : α} {b : β} (related : Rel a b) :
    Lockstep Rel (Pure.pure a : Except ε α) (Pure.pure b) :=
  .ok related

theorem of_error {failure : ε}
    (here : Lockstep Rel (.error failure : Except ε α) right) : right = .error failure := by
  cases here
  rfl

theorem of_ok {a : α} (here : Lockstep Rel (.ok a : Except ε α) right) :
    ∃ b, right = .ok b ∧ Rel a b := by
  cases here with
  | ok related => exact ⟨_, rfl, related⟩

theorem mapM {step : ι → Except ε α} {step' : ι → Except ε β} {items : List ι}
    (each : ∀ item ∈ items, Lockstep Rel (step item) (step' item)) :
    Lockstep (List.Forall₂ Rel) (items.mapM step) (items.mapM step') := by
  induction items with
  | nil => exact .ok .nil
  | cons item rest ih =>
    rw [List.mapM_cons, List.mapM_cons]
    refine (each item (List.mem_cons_self ..)).bind fun a b _ _ related => ?_
    refine (ih fun later member => each later (List.mem_cons_of_mem _ member)).bind
      fun others others' _ _ mapped => ?_
    exact .ok (.cons related mapped)

theorem foldlM {step : α → ι → Except ε α} {step' : β → ι → Except ε β} {items : List ι}
    (each : ∀ item ∈ items, ∀ a b, Rel a b → Lockstep Rel (step a item) (step' b item)) :
    ∀ {a : α} {b : β}, Rel a b →
      Lockstep Rel (items.foldlM step a) (items.foldlM step' b) := by
  induction items with
  | nil => exact fun related => .ok related
  | cons item rest ih =>
    intro a b related
    rw [List.foldlM_cons, List.foldlM_cons]
    refine (each item (List.mem_cons_self ..) a b related).bind fun a' b' _ _ related' => ?_
    exact ih (fun later member => each later (List.mem_cons_of_mem _ member)) related'

end Lockstep

namespace Table

variable {κ : Type u} {ν : Type v}

/-- The wide table has the rows of the narrow one, and rows of its owner that are `added`. -/
structure Overlay (owned : κ → ν → Bool) (added : κ → ν → Prop) (wide narrow : Table κ ν) :
    Prop where
  others : wide.rows.filter (fun row => !owned row.1 row.2) =
    narrow.rows.filter (fun row => !owned row.1 row.2)
  within : ∀ row ∈ narrow.rows, row ∈ wide.rows
  extra : ∀ row ∈ wide.rows, row ∈ narrow.rows ∨ added row.1 row.2

namespace Overlay

variable {owned : κ → ν → Bool} {added more : κ → ν → Prop} {wide narrow : Table κ ν}
  {result : Table κ ν} {key : κ} {value : ν}

theorem refl (table : Table κ ν) : Overlay owned added table table where
  others := rfl
  within := fun _ member => member
  extra := fun _ member => .inl member

section

variable (overlay : Overlay owned added wide narrow)
include overlay

theorem mono (grows : ∀ key value, added key value → more key value) :
    Overlay owned more wide narrow where
  others := overlay.others
  within := overlay.within
  extra := fun row member => (overlay.extra row member).imp id (grows row.1 row.2)

/-- A question about the rows has the same answer unless it asks for an added one. -/
theorem any_eq {asks : ν → Bool} (apart : ∀ key value, added key value → asks value = false) :
    wide.values.any asks = narrow.values.any asks := by
  rw [Bool.eq_iff_iff, List.any_eq_true, List.any_eq_true]
  constructor
  · rintro ⟨value, member, asked⟩
    obtain ⟨row, stored, rfl⟩ := List.mem_map.mp member
    rcases overlay.extra row stored with old | new
    · exact ⟨row.2, List.mem_map.mpr ⟨row, old, rfl⟩, asked⟩
    · rw [apart row.1 row.2 new] at asked
      cases asked
  · rintro ⟨value, member, asked⟩
    obtain ⟨row, stored, rfl⟩ := List.mem_map.mp member
    exact ⟨row.2, List.mem_map.mpr ⟨row, overlay.within row stored, rfl⟩, asked⟩

theorem rows_filter (keep : κ × ν → Bool)
    (apart : ∀ row, keep row = true → owned row.1 row.2 = false) :
    wide.rows.filter keep = narrow.rows.filter keep := by
  have split : ∀ table : Table κ ν, table.rows.filter keep =
      (table.rows.filter fun row => !owned row.1 row.2).filter keep := by
    intro table
    rw [List.filter_filter]
    refine List.filter_congr fun row _ => ?_
    cases kept : keep row with
    | true => rw [apart row kept, Bool.not_false, Bool.and_true]
    | false => rw [Bool.false_and]
  rw [split, split narrow, overlay.others]

theorem values_filter (keep : ν → Bool)
    (apart : ∀ key value, keep value = true → owned key value = false) :
    wide.values.filter keep = narrow.values.filter keep := by
  have rows := overlay.rows_filter (fun row => keep row.2) fun row => apart row.1 row.2
  rw [values, values, List.filter_map, List.filter_map]
  exact congrArg (List.map Prod.snd) rows

theorem extend_left {rows : List (κ × ν)} (extended : result.rows = wide.rows ++ rows)
    (mine : ∀ row ∈ rows, owned row.1 row.2 = true) (new : ∀ row ∈ rows, added row.1 row.2) :
    Overlay owned added result narrow := by
  constructor
  · have hidden : rows.filter (fun row => !owned row.1 row.2) = [] := by
      refine List.filter_eq_nil_iff.mpr fun row member => ?_
      rw [mine row member]
      exact Bool.false_ne_true
    rw [extended, List.filter_append, overlay.others, hidden, List.append_nil]
  · intro row member
    rw [extended]
    exact List.mem_append_left _ (overlay.within row member)
  · intro row member
    rw [extended, List.mem_append] at member
    rcases member with old | fresh
    · exact overlay.extra row old
    · exact .inr (new row fresh)

end

variable [DecidableEq κ]

variable (overlay : Overlay owned added wide narrow)
include overlay

theorem get?_eq (apart : ∀ value, ¬ added key value) : wide.get? key = narrow.get? key := by
  cases found : narrow.get? key with
  | some value =>
    exact wide.mem_rows_iff.mp (overlay.within _ (narrow.mem_rows_iff.mpr found))
  | none =>
    cases present : wide.get? key with
    | none => rfl
    | some value =>
      rcases overlay.extra _ (wide.mem_rows_iff.mpr present) with old | new
      · rw [narrow.mem_rows_iff.mp old] at found
        cases found
      · exact absurd new (apart value)

theorem insert_left (inserted : wide.insert key value = some result) (mine : owned key value = true)
    (new : added key value) :
    Overlay owned added result narrow := by
  obtain ⟨_, rows⟩ := wide.insert_eq_some_iff.mp inserted
  refine overlay.extend_left rows ?_ ?_
  · simpa using mine
  · simpa using new

/-- A row under a key that the owner did not add goes into both tables or into neither. -/
theorem insert (key : κ) (value : ν) (apart : ∀ value, ¬ added key value) :
    (wide.insert key value = none ∧ narrow.insert key value = none) ∨
      ∃ wide' narrow', wide.insert key value = some wide' ∧
        narrow.insert key value = some narrow' ∧ Overlay owned added wide' narrow' := by
  have same := overlay.get?_eq apart
  cases left : wide.insert key value with
  | none =>
    refine .inl ⟨rfl, ?_⟩
    cases right : narrow.insert key value with
    | none => rfl
    | some narrow' =>
      obtain ⟨absent, _⟩ := narrow.insert_eq_some_iff.mp right
      rw [← same, get?_eq_none_iff] at absent
      simp [Table.insert, absent] at left
  | some wide' =>
    obtain ⟨absent, rows⟩ := wide.insert_eq_some_iff.mp left
    rw [same, get?_eq_none_iff] at absent
    refine .inr ⟨wide', _, rfl, by rw [Table.insert, dif_neg absent], ?_⟩
    constructor
    · rw [rows, List.filter_append, List.filter_append, overlay.others]
    · intro row member
      rw [rows]
      rcases List.mem_append.mp member with old | new
      · exact List.mem_append_left _ (overlay.within row old)
      · exact List.mem_append_right _ new
    · intro row member
      rw [rows, List.mem_append] at member
      rcases member with old | new
      · exact (overlay.extra row old).imp (List.mem_append_left _) id
      · exact .inl (List.mem_append_right _ new)

theorem insert_lockstep {ε : Type w} (apart : ∀ value, ¬ added key value) (failure : ε) :
    Lockstep (Overlay owned added) (orError failure (wide.insert key value))
      (orError failure (narrow.insert key value)) := by
  rcases overlay.insert key value apart with ⟨left, right⟩ | ⟨wide', narrow', left, right, overlay'⟩
  · rw [left, right]
    exact .error failure
  · rw [left, right]
    exact .ok overlay'

end Overlay

end Table

end Praxis.Foundations
