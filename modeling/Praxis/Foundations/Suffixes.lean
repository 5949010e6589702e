import Mathlib

/-!
# Parts of a list that fit a room

`greedy` takes items from the front of a list while their weights fit. With weights that are not
negative it takes the longest prefix that fits (`greedy_longest`); on the reversed list that is the
longest suffix.
-/

namespace Praxis.Foundations

set_option autoImplicit false

universe u v

variable {α : Type u} {β : Type v} [AddCommMonoid β] [LinearOrder β] [IsOrderedAddMonoid β]
variable (weight : α → β) (room : β)

/-- The items at the front that fit beside what is used already. -/
def greedy : List α → β → List α
  | [], _ => []
  | item :: rest, used =>
    if room < used + weight item then [] else item :: greedy rest (used + weight item)

variable {weight room}

omit [IsOrderedAddMonoid β] in
theorem greedy_prefix (items : List α) (used : β) : greedy weight room items used <+: items := by
  induction items generalizing used with
  | nil => exact List.prefix_rfl
  | cons item rest ih =>
    rw [greedy]
    split
    · exact List.nil_prefix
    · exact List.prefix_cons_inj item |>.mpr (ih (used + weight item))

omit [IsOrderedAddMonoid β] in
theorem greedy_fits (items : List α) (used : β) (fits : used ≤ room) :
    used + ((greedy weight room items used).map weight).sum ≤ room := by
  induction items generalizing used with
  | nil => simpa [greedy] using fits
  | cons item rest ih =>
    rw [greedy]
    split
    case isTrue => simpa using fits
    case isFalse more =>
      have next := ih (used + weight item) (not_lt.mp more)
      rw [List.map_cons, List.sum_cons, ← add_assoc]
      exact next

/-- **Greedy is longest.** -/
theorem greedy_longest (nonneg : ∀ item, 0 ≤ weight item) {items front : List α} {used : β}
    (inside : front <+: items) (fits : used + (front.map weight).sum ≤ room) :
    front.length ≤ (greedy weight room items used).length := by
  induction items generalizing front used with
  | nil => simp [List.prefix_nil.mp inside]
  | cons item rest ih =>
    cases front with
    | nil => exact Nat.zero_le _
    | cons first front =>
      obtain ⟨rfl, shorter⟩ := List.cons_prefix_cons.mp inside
      rw [List.map_cons, List.sum_cons, ← add_assoc] at fits
      have rest_nonneg : 0 ≤ (front.map weight).sum := by
        apply List.sum_nonneg
        intro value member
        obtain ⟨other, _, rfl⟩ := List.mem_map.mp member
        exact nonneg other
      have here : used + weight first ≤ room :=
        (le_add_of_nonneg_right rest_nonneg).trans fits
      rw [greedy, if_neg (not_lt.mpr here)]
      exact Nat.succ_le_succ (ih shorter fits)

end Praxis.Foundations
