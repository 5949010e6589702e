import Mathlib

/-!
# Peeling a graph

A finite directed graph is a list of vertices and a list of edges, in which parallel edges may
occur. Peeling takes away a vertex that no remaining edge enters, with the edges that leave it, and
goes on with the vertices that have become free. `Peeling` is what holds between two such steps.
When no vertex is free any more, all have been taken away exactly if the graph has no cycle
(`Peeling.all_done_iff`).
-/

namespace Praxis.Foundations.Graph

set_option autoImplicit false

universe u

variable {α : Type u} [DecidableEq α]

/-- An edge from the first vertex to the second. -/
def Joins (edges : List (α × α)) (source target : α) : Prop := (source, target) ∈ edges

/-- A path of at least one edge leads from a vertex to itself. -/
def HasCycle (edges : List (α × α)) : Prop := ∃ vertex, Relation.TransGen (Joins edges) vertex vertex

/-- How many edges enter the vertex from outside a list. -/
def entering (edges : List (α × α)) (done : List α) (vertex : α) : Nat :=
  edges.countP fun edge => edge.2 = vertex ∧ edge.1 ∉ done

section Entering

variable {edges : List (α × α)} {done : List α} {vertex : α}

theorem entering_eq_zero : entering edges done vertex = 0 ↔
    ∀ source, Joins edges source vertex → source ∈ done := by
  rw [entering, List.countP_eq_zero]
  constructor
  · intro none source joins
    by_contra outside
    exact none (source, vertex) joins (decide_eq_true ⟨rfl, outside⟩)
  · intro inside edge member entered
    obtain ⟨rfl, outside⟩ := of_decide_eq_true entered
    exact outside (inside edge.1 member)

theorem entering_append {next : α} (new : next ∉ done) (vertex : α) :
    entering edges (done ++ [next]) vertex + edges.count (next, vertex) =
      entering edges done vertex := by
  induction edges with
  | nil => rfl
  | cons edge rest ih =>
    -- the edge counts before, and afterwards unless it leaves the new vertex
    have here : (if edge.2 = vertex ∧ edge.1 ∉ done ++ [next] then 1 else 0) +
        (if edge = (next, vertex) then 1 else 0) =
          if edge.2 = vertex ∧ edge.1 ∉ done then 1 else 0 := by
      obtain ⟨source, target⟩ := edge
      by_cases leaves : source = next <;> by_cases enters : target = vertex <;>
        simp [leaves, enters, new]
    simp only [entering, List.countP_cons, List.count_cons, decide_eq_true_eq, beq_iff_eq]
      at ih ⊢
    omega

end Entering

/-! ## Taking away the edges of one vertex -/

/-- One edge into the vertex is taken away; a vertex without edges is free. -/
def release (state : (α → Int) × List α) (vertex : α) : (α → Int) × List α :=
  let count := state.1 vertex - 1
  (Function.update state.1 vertex count, if count = 0 then state.2 ++ [vertex] else state.2)

theorem foldl_release {counts : α → Int} {queue targets : List α}
    (enough : ∀ vertex, (targets.count vertex : Int) ≤ counts vertex) :
    ∃ freed, targets.foldl release (counts, queue) =
        (fun vertex => counts vertex - targets.count vertex, queue ++ freed) ∧
      freed.Nodup ∧
      ∀ vertex, vertex ∈ freed ↔ vertex ∈ targets ∧ counts vertex = targets.count vertex := by
  induction targets generalizing counts queue with
  | nil => exact ⟨[], by simp, List.nodup_nil, by simp⟩
  | cons target rest ih =>
    let counts' := Function.update counts target (counts target - 1)
    have at_ : counts' target = counts target - 1 := Function.update_self ..
    have other : ∀ vertex, vertex ≠ target → counts' vertex = counts vertex :=
      fun vertex different => Function.update_of_ne different ..
    have left : ∀ vertex, (rest.count vertex : Int) ≤ counts' vertex := by
      intro vertex
      have bound := enough vertex
      by_cases same : vertex = target
      · subst same
        rw [List.count_cons_self] at bound
        rw [at_]
        omega
      · rw [List.count_cons_of_ne (Ne.symm same)] at bound
        rw [other vertex same]
        exact bound
    obtain ⟨freed, folded, apart, members⟩ := @ih counts'
      (if counts target - 1 = 0 then queue ++ [target] else queue) left
    have counted : (fun vertex => counts' vertex - (rest.count vertex : Int)) =
        fun vertex => counts vertex - ((target :: rest).count vertex : Int) := by
      funext vertex
      by_cases same : vertex = target
      · subst same
        rw [List.count_cons_self, at_]
        push_cast
        omega
      · rw [List.count_cons_of_ne (Ne.symm same), other vertex same]
    rw [List.foldl_cons]
    change ∃ _, rest.foldl release (counts', _) = _ ∧ _
    rw [folded, counted]
    have bound := enough target
    rw [List.count_cons_self] at bound
    by_cases last : counts target - 1 = 0
    · -- the last edge: the target does not occur again
      have gone : rest.count target = 0 := by omega
      have absent : target ∉ rest := List.count_eq_zero.mp gone
      refine ⟨target :: freed, ?_, List.nodup_cons.mpr ⟨?_, apart⟩, fun vertex => ?_⟩
      · rw [if_pos last, List.append_assoc]
        rfl
      · exact fun member => absent ((members target).mp member).1
      · by_cases same : vertex = target
        · subst same
          simp only [List.mem_cons, true_or, List.count_cons_self, gone, true_and, true_iff]
          omega
        · simp only [List.mem_cons, same, false_or, members, other vertex same,
            List.count_cons_of_ne (Ne.symm same)]
    · refine ⟨freed, by rw [if_neg last], apart, fun vertex => ?_⟩
      by_cases same : vertex = target
      · subst same
        rw [members, at_, List.count_cons_self, List.mem_cons]
        push_cast
        constructor
        · rintro ⟨_, equal⟩
          exact ⟨.inl rfl, by omega⟩
        · rintro ⟨_, equal⟩
          refine ⟨?_, by omega⟩
          by_contra absent
          have none := List.count_eq_zero.mpr absent
          omega
      · simp only [members, List.mem_cons, same, false_or, other vertex same,
          List.count_cons_of_ne (Ne.symm same)]

/-! ## Peeling -/

/-- The graph with some vertices taken away, in order, and the free ones in a queue. -/
structure Peeling (vertices : List α) (edges : List (α × α)) (done queue : List α)
    (counts : α → Int) : Prop where
  nodup : (done ++ queue).Nodup
  counts : ∀ vertex, counts vertex = entering edges done vertex
  free : ∀ vertex, vertex ∈ done ++ queue ↔ vertex ∈ vertices ∧ entering edges done vertex = 0
  ordered : ∀ front vertex back, done = front ++ vertex :: back →
    ∀ source, Joins edges source vertex → source ∈ front

section Peeling

variable {vertices : List α} {edges : List (α × α)} {done queue : List α} {counts : α → Int}

theorem Peeling.start (apart : vertices.Nodup) :
    Peeling vertices edges [] (vertices.filter fun vertex => entering edges [] vertex = 0)
      fun vertex => entering edges [] vertex where
  nodup := apart.sublist List.filter_sublist
  counts := fun _ => rfl
  free := by simp
  ordered := by simp

/-- **One visit keeps the peeling.** -/
theorem Peeling.visit {next : α} {targets : List α}
    (peeling : Peeling vertices edges done (next :: queue) counts)
    (leaving : ∀ vertex, targets.count vertex = edges.count (next, vertex))
    (known : ∀ vertex ∈ targets, vertex ∈ vertices) :
    Peeling vertices edges (done ++ [next]) (targets.foldl release (counts, queue)).2
      (targets.foldl release (counts, queue)).1 := by
  have split : done ++ next :: queue = (done ++ [next]) ++ queue := by simp
  have apart := peeling.nodup
  rw [split] at apart
  have new : next ∉ done := by
    intro member
    have both := (List.nodup_append.mp (List.nodup_append.mp apart).1).2.2
    exact both next member next (List.mem_singleton_self _) rfl
  have enough : ∀ vertex, (targets.count vertex : Int) ≤ counts vertex := by
    intro vertex
    have total := @entering_append _ _ edges done next new vertex
    rw [peeling.counts, leaving]
    omega
  have zero : ∀ vertex, entering edges (done ++ [next]) vertex = 0 ↔
      entering edges done vertex = targets.count vertex := by
    intro vertex
    have total := @entering_append _ _ edges done next new vertex
    rw [leaving]
    omega
  obtain ⟨freed, folded, once, members⟩ := @foldl_release _ _ _ queue _ enough
  rw [folded]
  have fresh : ∀ vertex ∈ freed, vertex ∉ done ++ next :: queue := by
    intro vertex member old
    obtain ⟨target, equal⟩ := (members vertex).mp member
    rw [peeling.counts, ((peeling.free vertex).mp old).2] at equal
    have present := List.count_pos_iff.mpr target
    omega
  constructor
  case nodup =>
    rw [← List.append_assoc]
    refine List.Nodup.append apart once fun vertex old member => ?_
    rw [← split] at old
    exact fresh vertex member old
  case counts =>
    intro vertex
    have total := @entering_append _ _ edges done next new vertex
    have before := peeling.counts vertex
    change counts vertex - (targets.count vertex : Int) = _
    rw [before, leaving]
    omega
  case free =>
    intro vertex
    rw [← List.append_assoc, ← split, List.mem_append, peeling.free, members, zero, peeling.counts]
    constructor
    · rintro (⟨known, none⟩ | ⟨target, equal⟩)
      · refine ⟨known, ?_⟩
        have bound := enough vertex
        rw [peeling.counts, none] at bound
        omega
      · exact ⟨known vertex target, by exact_mod_cast equal⟩
    · rintro ⟨there, equal⟩
      by_cases target : vertex ∈ targets
      · exact .inr ⟨target, by exact_mod_cast equal⟩
      · rw [List.count_eq_zero.mpr target] at equal
        exact .inl ⟨there, equal⟩
  case ordered =>
    intro front vertex back same source joins
    rcases List.eq_nil_or_concat back with rfl | ⟨others, last, rfl⟩
    · obtain ⟨rfl, lasts⟩ := List.append_inj' same rfl
      obtain rfl : next = vertex := by simpa using lasts
      have none := ((peeling.free next).mp (by simp)).2
      exact entering_eq_zero.mp none source joins
    · rw [List.concat_eq_append, ← List.cons_append, ← List.append_assoc] at same
      obtain ⟨before, _⟩ := List.append_inj' same rfl
      exact peeling.ordered front vertex others before source joins

/-- A vertex that was taken away lies on no cycle: no path leads to it from itself. -/
theorem Peeling.acyclic (peeling : Peeling vertices edges done queue counts) {source target : α}
    (path : Relation.TransGen (Joins edges) source target) :
    ∀ front back, done = front ++ target :: back → source ∈ front := by
  induction path with
  | single joins => exact fun front back same => peeling.ordered front _ back same _ joins
  | tail _ joins ih =>
    intro front back same
    obtain ⟨before, after, rfl⟩ :=
      List.append_of_mem (peeling.ordered front _ back same _ joins)
    have inside := ih before (after ++ _ :: back) (by simpa using same)
    exact List.mem_append_left _ inside

theorem hasCycle_of_entered {rest : List α} (some : rest ≠ [])
    (entered : ∀ vertex ∈ rest, ∃ source ∈ rest, Joins edges source vertex) : HasCycle edges := by
  by_contra none
  have irreflexive : ∀ vertex, ¬ Relation.TransGen (Joins edges) vertex vertex :=
    fun vertex cycle => none ⟨vertex, cycle⟩
  -- among finitely many vertices, one has no other before it
  let before : {vertex // vertex ∈ rest} → {vertex // vertex ∈ rest} → Prop :=
    fun first second => Relation.TransGen (Joins edges) first.1 second.1
  have _ : IsTrans _ before := ⟨fun _ _ _ first second => first.trans second⟩
  have _ : Std.Irrefl before := ⟨fun vertex => irreflexive vertex.1⟩
  have founded : WellFounded before := Finite.wellFounded_of_trans_of_irrefl _
  obtain ⟨vertex, member⟩ := List.exists_mem_of_ne_nil rest some
  obtain ⟨least, _, minimal⟩ := founded.has_min Set.univ ⟨⟨vertex, member⟩, trivial⟩
  obtain ⟨source, there, joins⟩ := entered least.1 least.2
  exact minimal ⟨source, there⟩ trivial (.single joins)

/-- **With no vertex free, all were taken away exactly if there is no cycle.** -/
theorem Peeling.all_done_iff (peeling : Peeling vertices edges done [] counts)
    (apart : vertices.Nodup)
    (known : ∀ source target, Joins edges source target → source ∈ vertices ∧ target ∈ vertices) :
    done.length = vertices.length ↔ ¬ HasCycle edges := by
  have inside : ∀ vertex, vertex ∈ done → vertex ∈ vertices := by
    intro vertex member
    exact ((peeling.free vertex).mp (by simpa using member)).1
  have once : done.Nodup := by simpa using peeling.nodup
  constructor
  · rintro all ⟨vertex, cycle⟩
    have perm : done.Perm vertices :=
      (List.subperm_of_subset once inside).perm_of_length_le all.ge
    have there : vertex ∈ vertices := by
      obtain ⟨last, _, joins⟩ := Relation.TransGen.tail'_iff.mp cycle
      exact (known last vertex joins).2
    obtain ⟨front, back, same⟩ := List.append_of_mem (perm.mem_iff.mpr there)
    have earlier := peeling.acyclic cycle front back same
    rw [same] at once
    exact (List.nodup_append.mp once).2.2 vertex earlier vertex (List.mem_cons_self ..) rfl
  · intro acyclic
    by_contra fewer
    have smaller := (List.subperm_of_subset once inside).length_le
    let rest := vertices.filter fun vertex => vertex ∉ done
    refine acyclic (@hasCycle_of_entered _ _ edges rest ?_ fun vertex member => ?_)
    · intro empty
      have all : vertices ⊆ done := by
        intro vertex member
        by_contra outside
        have listed : vertex ∈ rest := List.mem_filter.mpr ⟨member, decide_eq_true outside⟩
        rw [empty] at listed
        cases listed
      have larger := (List.subperm_of_subset apart all).length_le
      omega
    · obtain ⟨there, outside⟩ := List.mem_filter.mp member
      have entered : entering edges done vertex ≠ 0 := by
        intro zero
        have taken := (peeling.free vertex).mpr ⟨there, zero⟩
        rw [List.append_nil] at taken
        exact of_decide_eq_true outside taken
      rw [ne_eq, entering_eq_zero, not_forall] at entered
      obtain ⟨source, left⟩ := entered
      obtain ⟨joins, left⟩ := Classical.not_imp.mp left
      exact ⟨source, List.mem_filter.mpr ⟨(known source vertex joins).1, decide_eq_true left⟩, joins⟩

end Peeling

end Praxis.Foundations.Graph
