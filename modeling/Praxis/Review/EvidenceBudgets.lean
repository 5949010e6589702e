import Praxis.Foundations.FairShares

/-!
# Budgets for review evidence

A review shows the contents of its evidence up to a total of bytes. The total is shared in the
order of the sizes, so that what a short content does not need goes to the longer ones
(`allocateReviewEvidenceBudgetsV1`). The budgets are the fair shares of the total
(`allocateReviewEvidenceBudgetsV1_fair`).
-/

namespace Praxis.Review

set_option autoImplicit false

open Praxis.Foundations

/-- The size of a content, and its place in the list. -/
structure SizedEntry where
  bytes : Nat
  index : Nat
deriving DecidableEq

/-- The order of the sort. -/
def SizedEntry.le (a b : SizedEntry) : Bool :=
  decide (a.bytes < b.bytes ∨ a.bytes = b.bytes ∧ a.index ≤ b.index)

def evidenceContentBudgetBytes : Nat := 64 * 1024

/-- The loop over the ordered entries. -/
def allocateEach (perItemBytes : Nat) : List SizedEntry → Nat → List Nat → List Nat
  | [], _, budgets => budgets
  | entry :: rest, remaining, budgets =>
    let budget := min entry.bytes (min perItemBytes (remaining / (rest.length + 1)))
    allocateEach perItemBytes rest (remaining - budget) (budgets.set entry.index budget)

def allocateReviewEvidenceBudgetsV1 (contentBytes : List Nat)
    (totalBytes : Nat := evidenceContentBudgetBytes) (perItemBytes : Nat := totalBytes) :
    List Nat :=
  let budgets := contentBytes.map fun _ => 0
  let ordered := (contentBytes.mapIdx fun index bytes => SizedEntry.mk bytes index).mergeSort
    SizedEntry.le
  allocateEach perItemBytes ordered totalBytes budgets

/-! ## What the budgets satisfy -/

/-- **Max-min fairness** of budgets for contents. -/
structure FairBudgets (contentBytes : List Nat) (totalBytes perItemBytes : Nat)
    (budgets : List Nat) : Prop where
  length : budgets.length = contentBytes.length
  within : ∀ (index bytes budget : Nat), contentBytes[index]? = some bytes →
    budgets[index]? = some budget → budget ≤ bytes ∧ budget ≤ perItemBytes
  total : budgets.sum = min totalBytes (contentBytes.map (min · perItemBytes)).sum
  fair : ∀ (index bytes budget : Nat), contentBytes[index]? = some bytes →
    budgets[index]? = some budget → budget < min bytes perItemBytes →
    ∀ other ∈ budgets, other ≤ budget + 1

theorem allocateEach_eq (perItemBytes : Nat) (ordered : List SizedEntry) (remaining : Nat)
    (budgets : List Nat) :
    allocateEach perItemBytes ordered remaining budgets =
      (ordered.zip (fairShares (ordered.map fun entry => min entry.bytes perItemBytes)
        remaining)).foldl (fun budgets pair => budgets.set pair.1.index pair.2) budgets := by
  induction ordered generalizing remaining budgets with
  | nil => rfl
  | cons entry rest ih =>
    simp only [allocateEach, List.map_cons, fairShares, List.length_map, Nat.min_assoc,
      List.zip_cons_cons, List.foldl_cons]
    exact ih _ _

theorem sum_set {budgets : List Nat} {index : Nat} (unset : budgets[index]? = some 0)
    (budget : Nat) : (budgets.set index budget).sum = budgets.sum + budget := by
  induction budgets generalizing index with
  | nil => cases unset
  | cons first rest ih =>
    cases index with
    | zero =>
      obtain rfl := Option.some.inj unset
      simp [Nat.add_comm]
    | succ index =>
      simp only [List.set_cons_succ, List.sum_cons, ih (by simpa using unset)]
      omega

theorem foldl_set {pairs : List (SizedEntry × Nat)} {budgets : List Nat}
    (distinct : (pairs.map (·.1.index)).Nodup)
    (unset : ∀ pair ∈ pairs, budgets[pair.1.index]? = some 0) :
    let result := pairs.foldl (fun budgets pair => budgets.set pair.1.index pair.2) budgets
    (∀ pair ∈ pairs, result[pair.1.index]? = some pair.2) ∧
      (∀ index ∉ pairs.map (·.1.index), result[index]? = budgets[index]?) ∧
      result.length = budgets.length ∧ result.sum = budgets.sum + (pairs.map (·.2)).sum := by
  induction pairs generalizing budgets with
  | nil => simp
  | cons pair rest ih =>
    rw [List.map_cons, List.nodup_cons] at distinct
    rw [List.forall_mem_cons] at unset
    have others : ∀ other ∈ rest, (budgets.set pair.1.index pair.2)[other.1.index]? = some 0 := by
      intro other member
      have apart : pair.1.index ≠ other.1.index := fun same =>
        distinct.1 (List.mem_map.mpr ⟨other, member, same.symm⟩)
      rw [List.getElem?_set_ne apart]
      exact unset.2 other member
    obtain ⟨holds, kept, length, sum⟩ := ih distinct.2 others
    obtain ⟨inside, -⟩ := List.getElem?_eq_some_iff.mp unset.1
    dsimp only at holds kept length sum ⊢
    rw [List.foldl_cons]
    refine ⟨List.forall_mem_cons.mpr ⟨?_, holds⟩, fun index absent => ?_, ?_, ?_⟩
    · rw [kept _ distinct.1, List.getElem?_set_self inside]
    · rw [List.map_cons, List.mem_cons, not_or] at absent
      rw [kept index absent.2, List.getElem?_set_ne (Ne.symm absent.1)]
    · rw [length, List.length_set]
    · rw [sum, sum_set unset.1, List.map_cons, List.sum_cons, Nat.add_assoc]

/-- **The budgets are fair shares** of the total, for all sizes and bounds. -/
theorem allocateReviewEvidenceBudgetsV1_fair (contentBytes : List Nat)
    (totalBytes perItemBytes : Nat) : FairBudgets contentBytes totalBytes perItemBytes
      (allocateReviewEvidenceBudgetsV1 contentBytes totalBytes perItemBytes) := by
  let entries := contentBytes.mapIdx fun index bytes => SizedEntry.mk bytes index
  let ordered := entries.mergeSort SizedEntry.le
  let caps := ordered.map fun entry => min entry.bytes perItemBytes
  let shares := fairShares caps totalBytes
  have perm : ordered.Perm entries := List.mergeSort_perm _ _
  have ascending : caps.Pairwise (· ≤ ·) := by
    have sorted : ordered.Pairwise fun a b => SizedEntry.le a b = true := by
      refine List.pairwise_mergeSort ?_ ?_ _
      · intro a b c
        simp only [SizedEntry.le, decide_eq_true_eq]
        omega
      · intro a b
        simp only [SizedEntry.le, Bool.or_eq_true, decide_eq_true_eq]
        omega
    refine (List.pairwise_map).mpr (sorted.imp fun {a b} before => ?_)
    simp only [SizedEntry.le, decide_eq_true_eq] at before
    omega
  have lengths : ordered.length = shares.length := by
    rw [length_fairShares, List.length_map]
  have indices : (ordered.zip shares).map (·.1.index) = ordered.map (·.index) := by
    have first := congrArg (List.map SizedEntry.index) (List.map_fst_zip lengths.le)
    rwa [List.map_map] at first
  have distinct : (ordered.map (·.index)).Nodup := by
    have places : entries.map (·.index) = List.range contentBytes.length :=
      List.ext_getElem (by simp [entries]) (by simp [entries])
    rw [(perm.map _).nodup_iff, places]
    exact List.nodup_range
  have unset : ∀ pair ∈ ordered.zip shares,
      (contentBytes.map fun _ => 0)[pair.1.index]? = some 0 := by
    intro pair member
    obtain ⟨index, inside, same⟩ := List.mem_mapIdx.mp (perm.subset (List.of_mem_zip member).1)
    simp [← same, inside]
  have set := foldl_set (indices ▸ distinct) unset
  have result : allocateReviewEvidenceBudgetsV1 contentBytes totalBytes perItemBytes = _ :=
    allocateEach_eq perItemBytes ordered totalBytes _
  dsimp only at set
  rw [← result] at set
  obtain ⟨holds, -, length, sum⟩ := set
  have second : (ordered.zip shares).map (·.2) = shares := List.map_snd_zip lengths.ge
  have share : ∀ (index bytes budget : Nat), contentBytes[index]? = some bytes →
      (allocateReviewEvidenceBudgetsV1 contentBytes totalBytes perItemBytes)[index]? = some budget →
      (budget, min bytes perItemBytes) ∈ shares.zip caps := by
    intro index bytes budget content allocated
    obtain ⟨inside, content⟩ := List.getElem?_eq_some_iff.mp content
    have member : SizedEntry.mk bytes index ∈ ordered :=
      perm.symm.subset (List.mem_mapIdx.mpr ⟨index, inside, by rw [content]⟩)
    obtain ⟨place, there⟩ := List.getElem?_of_mem member
    obtain ⟨inside, -⟩ := List.getElem?_eq_some_iff.mp there
    have shared := List.getElem?_eq_getElem (lengths ▸ inside)
    have given := holds _ (List.mem_of_getElem?
      (List.getElem?_zip_eq_some (z := (SizedEntry.mk bytes index, _)).mpr ⟨there, shared⟩))
    have capped : caps[place]? = some (min bytes perItemBytes) := by simp [caps, there]
    rw [Option.mem_unique allocated given]
    exact List.mem_of_getElem? (List.getElem?_zip_eq_some (z := (_, _)).mpr ⟨shared, capped⟩)
  have budgets : ∀ budget ∈ allocateReviewEvidenceBudgetsV1 contentBytes totalBytes perItemBytes,
      budget ∈ shares := by
    intro budget member
    obtain ⟨index, inside, allocated⟩ := List.getElem_of_mem member
    have content : index < contentBytes.length := by rwa [length, List.length_map] at inside
    exact (List.of_mem_zip (share index _ budget (List.getElem?_eq_getElem content)
      (List.getElem?_eq_some_iff.mpr ⟨inside, allocated⟩))).1
  exact
    { length := by rw [length, List.length_map]
      within := by
        intro index bytes budget content allocated
        have below := (List.forall₂_iff_zip.mp (fairShares_le caps totalBytes)).2
          (share index bytes budget content allocated)
        omega
      total := by
        have capped : entries.map (fun entry => min entry.bytes perItemBytes) =
            contentBytes.map (min · perItemBytes) :=
          List.ext_getElem (by simp [entries]) (by simp [entries])
        rw [sum, second, sum_fairShares ascending, (perm.map _).sum_nat, capped]
        simp
      fair := by
        intro index bytes budget content allocated below other member
        exact fairShares_fair ascending totalBytes _ (share index bytes budget content allocated)
          below other (budgets other member) }

end Praxis.Review
