import Mathlib

/-!
# Fair shares of a total

A total is shared among claimants with caps, one after the other: each gets an equal part of what
is left for it and those behind it, but not more than its cap. In ascending order of the caps this
is fair: the total is used up as far as the caps allow (`sum_fairShares`), and who stays below the
cap has at most one less than anyone else (`fairShares_fair`).
-/

namespace Praxis.Foundations

set_option autoImplicit false

def fairShares : List Nat → Nat → List Nat
  | [], _ => []
  | cap :: rest, total =>
    let share := min cap (total / (rest.length + 1))
    share :: fairShares rest (total - share)

variable {caps : List Nat} {level total : Nat}

theorem length_fairShares (caps : List Nat) (total : Nat) :
    (fairShares caps total).length = caps.length := by
  induction caps generalizing total with
  | nil => rfl
  | cons cap rest ih => simp [fairShares, ih]

theorem mul_length_le_sum (above : ∀ cap ∈ caps, level ≤ cap) :
    level * caps.length ≤ caps.sum := by
  induction caps with
  | nil => exact Nat.zero_le _
  | cons cap rest ih =>
    rw [List.forall_mem_cons] at above
    rw [List.length_cons, Nat.mul_succ, List.sum_cons, Nat.add_comm]
    exact Nat.add_le_add above.1 (ih above.2)

theorem level_mul_le_sub {share length : Nat} (room : level * (length + 1) ≤ total)
    (part : share ≤ total / (length + 1)) : level * length ≤ total - share := by
  have whole : share * (length + 1) ≤ total := (Nat.le_div_iff_mul_le (Nat.succ_pos _)).mp part
  rw [Nat.mul_succ] at room whole
  rcases Nat.le_total share level with below | above
  · omega
  · have more : level * length ≤ share * length := Nat.mul_le_mul_right _ above
    omega

theorem fairShares_le (caps : List Nat) (total : Nat) :
    List.Forall₂ (· ≤ ·) (fairShares caps total) caps := by
  induction caps generalizing total with
  | nil => exact .nil
  | cons cap rest ih => exact .cons (Nat.min_le_left _ _) (ih _)

theorem fairShares_level (room : level * caps.length ≤ total) :
    List.Forall₂ (fun share cap => min cap level ≤ share) (fairShares caps total) caps := by
  induction caps generalizing total with
  | nil => exact .nil
  | cons cap rest ih =>
    have part : level ≤ total / (rest.length + 1) :=
      (Nat.le_div_iff_mul_le (Nat.succ_pos _)).mpr room
    exact .cons (by omega) (ih (level_mul_le_sub room (Nat.min_le_right _ _)))

theorem fairShares_even (above : ∀ cap ∈ caps, level < cap) (room : level * caps.length ≤ total)
    (scarce : total ≤ level * caps.length + caps.length) :
    (∀ share ∈ fairShares caps total, share = level ∨ share = level + 1) ∧
      (fairShares caps total).sum = total := by
  induction caps generalizing total with
  | nil =>
    have none : total = 0 := by simpa using scarce
    simp [fairShares, none]
  | cons cap rest ih =>
    rw [List.forall_mem_cons] at above
    rw [List.length_cons] at room scarce
    have part : level ≤ total / (rest.length + 1) :=
      (Nat.le_div_iff_mul_le (Nat.succ_pos _)).mpr room
    have full : (level + 1) * (rest.length + 1) = level * (rest.length + 1) + (rest.length + 1) :=
      Nat.succ_mul _ _
    have most : total / (rest.length + 1) ≤ level + 1 :=
      Nat.div_le_of_le_mul (by rw [Nat.mul_comm]; omega)
    have share : min cap (total / (rest.length + 1)) = total / (rest.length + 1) := by omega
    have left : total - total / (rest.length + 1) ≤ level * rest.length + rest.length := by
      rw [Nat.mul_succ] at scarce
      rcases Nat.lt_or_ge (total / (rest.length + 1)) (level + 1) with low | high
      · have strict : total < (level + 1) * (rest.length + 1) :=
          (Nat.div_lt_iff_lt_mul (Nat.succ_pos _)).mp low
        rw [full, Nat.mul_succ] at strict
        omega
      · omega
    obtain ⟨even, sum⟩ := ih above.2 (level_mul_le_sub room le_rfl) left
    have within : total / (rest.length + 1) ≤ total := Nat.div_le_self _ _
    simp only [fairShares, share]
    refine ⟨List.forall_mem_cons.mpr ⟨by omega, even⟩, ?_⟩
    rw [List.sum_cons, sum]
    omega

theorem fairShares_cases {cap : Nat} {rest : List Nat}
    (ascending : (cap :: rest).Pairwise (· ≤ ·)) (total : Nat) : (cap * (rest.length + 1) ≤ total ∧
        fairShares (cap :: rest) total = cap :: fairShares rest (total - cap)) ∨
      ∃ level < cap, total < (level + 1) * (rest.length + 1) ∧
        (∀ share ∈ fairShares (cap :: rest) total, share = level ∨ share = level + 1) ∧
        (fairShares (cap :: rest) total).sum = total := by
  rcases Nat.lt_or_ge (total / (rest.length + 1)) cap with scarce | enough
  · have strict : total < (total / (rest.length + 1) + 1) * (rest.length + 1) :=
      (Nat.div_lt_iff_lt_mul (Nat.succ_pos _)).mp (Nat.lt_succ_self _)
    refine .inr ⟨_, scarce, strict, fairShares_even ?_ (Nat.div_mul_le_self _ _) ?_⟩
    · refine List.forall_mem_cons.mpr ⟨scarce, fun other member => scarce.trans_le ?_⟩
      exact List.rel_of_pairwise_cons ascending member
    · rw [Nat.succ_mul] at strict
      exact strict.le
  · refine .inl ⟨(Nat.le_div_iff_mul_le (Nat.succ_pos _)).mp enough, ?_⟩
    simp only [fairShares, Nat.min_eq_left enough]

/-- **The total is used up** as far as the caps allow. -/
theorem sum_fairShares (ascending : caps.Pairwise (· ≤ ·)) (total : Nat) :
    (fairShares caps total).sum = min total caps.sum := by
  induction caps generalizing total with
  | nil => simp [fairShares]
  | cons cap rest ih =>
    rcases fairShares_cases ascending total with ⟨room, shares⟩ | ⟨level, low, scarce, _, sum⟩
    · rw [Nat.mul_succ] at room
      rw [shares, List.sum_cons, List.sum_cons, ih ascending.of_cons]
      omega
    · have caps : (level + 1) * (cap :: rest).length ≤ (cap :: rest).sum := by
        refine mul_length_le_sum (List.forall_mem_cons.mpr ⟨low, fun other later => ?_⟩)
        exact Nat.lt_of_lt_of_le low (List.rel_of_pairwise_cons ascending later)
      rw [sum, Nat.min_eq_left (Nat.le_trans (Nat.le_of_lt scarce) caps)]

/-- **Fairness**: who stays below the cap has at most one less than anyone else. -/
theorem fairShares_fair (ascending : caps.Pairwise (· ≤ ·)) (total : Nat) :
    ∀ one ∈ (fairShares caps total).zip caps, one.1 < one.2 →
      ∀ other ∈ fairShares caps total, other ≤ one.1 + 1 := by
  induction caps generalizing total with
  | nil => simp [fairShares]
  | cons cap rest ih =>
    intro one paired below other member
    rcases fairShares_cases ascending total with ⟨room, shares⟩ | ⟨level, _, _, even, _⟩
    · rw [shares, List.zip_cons_cons, List.mem_cons] at paired
      rcases paired with rfl | paired
      · exact absurd below (Nat.lt_irrefl _)
      · rw [shares, List.mem_cons] at member
        rcases member with rfl | member
        · -- what is left is enough for the first cap, which is the smallest
          have enough : other * rest.length ≤ total - other := by
            rw [Nat.mul_succ] at room
            omega
          have level := (List.forall₂_iff_zip.mp (fairShares_level enough)).2 paired
          have least := List.rel_of_pairwise_cons ascending (List.of_mem_zip paired).2
          omega
        · exact ih ascending.of_cons _ one paired below other member
    · have first := even one.1 (List.of_mem_zip paired).1
      have second := even other member
      omega

end Praxis.Foundations
