import Mathlib

/-!
# Blocks of a list

The items of a list with some property form a block when no other item stands between them.
Appending items without the property keeps the block, and so does appending the whole block to
a list without any such item.
-/

namespace Praxis.Foundations

set_option autoImplicit false

universe u

variable {α : Type u}

/-- `block` is the part of a list that has the property: nothing before it or after it has. -/
structure BlockOf (inside : α → Prop) (items block : List α) : Prop where
  parts : ∃ front back, items = front ++ block ++ back ∧ (∀ item ∈ front, ¬ inside item) ∧
    ∀ item ∈ back, ¬ inside item
  inside : ∀ item ∈ block, inside item

namespace BlockOf

variable {inside : α → Prop} {items block more : List α}

theorem of_none (clear : ∀ item ∈ items, ¬ inside item) : BlockOf inside items [] where
  parts := ⟨items, [], by simp, clear, by simp⟩
  inside := by simp

theorem append_clear (here : BlockOf inside items block) (clear : ∀ item ∈ more, ¬ inside item) :
    BlockOf inside (items ++ more) block where
  parts := by
    obtain ⟨front, back, rfl, before, after⟩ := here.parts
    refine ⟨front, back ++ more, by simp, before, fun item member => ?_⟩
    rcases List.mem_append.mp member with old | new
    · exact after item old
    · exact clear item new
  inside := here.inside

theorem append_block (clear : ∀ item ∈ items, ¬ inside item)
    (whole : ∀ item ∈ block, inside item) : BlockOf inside (items ++ block) block where
  parts := ⟨items, [], by simp, clear, by simp⟩
  inside := whole

theorem filter_eq [DecidablePred inside] (here : BlockOf inside items block) :
    items.filter (fun item => inside item) = block := by
  obtain ⟨front, back, rfl, before, after⟩ := here.parts
  have first : front.filter (fun item => inside item) = [] :=
    List.filter_eq_nil_iff.mpr (by simpa using before)
  have last : back.filter (fun item => inside item) = [] :=
    List.filter_eq_nil_iff.mpr (by simpa using after)
  have whole : block.filter (fun item => inside item) = block :=
    List.filter_eq_self.mpr (by simpa using here.inside)
  rw [List.filter_append, List.filter_append, first, last, whole, List.nil_append, List.append_nil]

end BlockOf

end Praxis.Foundations
