import Mathlib

/-!
# Pages of a growing list

A list is read in pages: every page holds the items after a place, up to a place that the reader
keeps, and no more of them than a limit. A page is the same in every longer list
(`pageOf_prefix`), the pages read one after the other are the front of the list
(`take_append_pageOf`), and a page that ends before the last place is not empty
(`pageOf_advances`).

The items may carry their places as numbers: then a page is also what a filter on the numbers
selects (`filter_numbered`).
-/

namespace Praxis.Foundations

set_option autoImplicit false

universe u

variable {α : Type u}

/-- The items after a place, up to another, and no more of them than a limit. -/
def pageOf (items : List α) (after through limit : Nat) : List α :=
  ((items.take through).drop after).take limit

variable {items longer : List α} {after through limit : Nat}

@[simp] theorem length_pageOf :
    (pageOf items after through limit).length = min limit (min through items.length - after) := by
  simp [pageOf]

theorem mem_of_mem_pageOf {item : α} (member : item ∈ pageOf items after through limit) :
    item ∈ items :=
  List.mem_of_mem_take (List.mem_of_mem_drop (List.mem_of_mem_take member))

theorem pageOf_split (items : List α) (after through limit : Nat) :
    ∃ back, items = items.take after ++ (pageOf items after through limit ++ back) := by
  obtain ⟨back, split⟩ : pageOf items after through limit <+: items.drop after := by
    refine (List.take_prefix _ _).trans ?_
    exact List.IsPrefix.drop (List.take_prefix through items) after
  exact ⟨back, by rw [split, List.take_append_drop]⟩

/-- **A page stays the same when the list grows.** -/
theorem pageOf_prefix (grows : items <+: longer) (within : through ≤ items.length) :
    pageOf longer after through limit = pageOf items after through limit := by
  have front : longer.take through = items.take through := by
    obtain ⟨rest, rfl⟩ := grows
    exact List.take_append_of_le_length within
  rw [pageOf, pageOf, front]

/-- **The pages read so far and the next page are a front of the list.** -/
theorem take_append_pageOf (order : after ≤ through) (within : through ≤ items.length) :
    items.take after ++ pageOf items after through limit =
      items.take (after + (pageOf items after through limit).length) := by
  have inner : (items.take through).take after = items.take after := by
    rw [List.take_take, Nat.min_eq_left order]
  have sum : after + (pageOf items after through limit).length ≤ through := by
    rw [length_pageOf]
    omega
  have outer : (items.take through).take (after + (pageOf items after through limit).length) =
      items.take (after + (pageOf items after through limit).length) := by
    rw [List.take_take, Nat.min_eq_left sum]
  rw [← inner, ← outer, List.take_add]
  congr 1
  rw [length_pageOf, pageOf, List.take_eq_take_iff]
  rw [List.length_drop, List.length_take]
  omega

/-- A page does not pass the place up to which it reads, and one that ends before it is not
empty. -/
theorem pageOf_advances (positive : 0 < limit) (within : through ≤ items.length)
    (before : after < through) : 0 < (pageOf items after through limit).length ∧
      after + (pageOf items after through limit).length ≤ through := by
  rw [length_pageOf]
  omega

theorem filter_numbered {number : α → Int} (items : List α) (numbered : items.map number =
      (List.range items.length).map fun index : Nat => (index : Int) + 1)
    (after through : Nat) :
    items.filter (fun item => decide ((after : Int) < number item ∧ number item ≤ through)) =
      (items.take through).drop after := by
  induction items using List.reverseRecOn with
  | nil => simp
  | append_singleton items last ih =>
    have split := numbered
    rw [List.map_append, List.length_append, List.length_singleton, List.range_succ,
      List.map_append] at split
    obtain ⟨front, lastNumber⟩ := List.append_inj' split rfl
    have place : number last = (items.length : Int) + 1 := by simpa using lastNumber
    rw [List.filter_append, ih front]
    by_cases inside : through ≤ items.length
    · -- the last item is past the end of the page
      have apart : ¬number last ≤ (through : Int) := by omega
      simp [apart, List.take_append_of_le_length inside]
    · have long : items.length ≤ through := by omega
      have reach : number last ≤ (through : Int) := by omega
      rw [List.take_of_length_le long, List.take_of_length_le (by simp; omega)]
      by_cases skipped : after ≤ items.length
      · have later : (after : Int) < number last := by omega
        simp [later, reach, List.drop_append_of_le_length skipped]
      · have early : ¬(after : Int) < number last := by omega
        simp only [early, false_and, decide_false, Bool.false_eq_true, not_false_eq_true,
          List.filter_cons_of_neg, List.filter_nil, List.append_nil]
        rw [List.drop_eq_nil_of_le (by omega), List.drop_eq_nil_of_le (by simp; omega)]

end Praxis.Foundations
