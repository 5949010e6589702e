import Praxis.Foundations.GraphPeeling
import Praxis.Durable.SpecValidation

/-!
# Graphs without cycles

The check of a specification visits the nodes that no edge enters, takes their edges away and goes
on with the nodes that became free. It peels the graph of the nodes and edges, so that it ends
after at most one round for each node, and accepts a graph exactly if it has no cycle.
-/

namespace Praxis.Workflow

set_option autoImplicit false

open Praxis.Foundations Praxis.Foundations.Graph

/-- An edge leads from one node to another. -/
def Precedes (edges : List WorkflowEdgeV1) (first second : String) : Prop :=
  ∃ edge ∈ edges, edge.fromNode = first ∧ edge.toNode = second

/-- Some node is reached from itself along edges. -/
def Cyclic (edges : List WorkflowEdgeV1) : Prop :=
  ∃ nodeId, Relation.TransGen (Precedes edges) nodeId nodeId

/-- The nodes with which the check begins. -/
def sourceNodes (nodes : List WorkflowNodeSpecV1) (edges : List WorkflowEdgeV1) : List String :=
  ((indegrees nodes edges).filter fun entry => entry.2 = 0).map (·.1)

/-- How many nodes the check has visited after so many rounds. -/
def visitedIn (nodes : List WorkflowNodeSpecV1) (edges : List WorkflowEdgeV1) (rounds : Nat) : Nat :=
  countVisited edges rounds (indegrees nodes edges) (sourceNodes nodes edges) 0

/-! ## The graph of a specification -/

def edgePairs (edges : List WorkflowEdgeV1) : List (String × String) :=
  edges.map fun edge => (edge.fromNode, edge.toNode)

/-- The counts of the check, in the order of the nodes. -/
def tabulate (ids : List String) (counts : String → Int) : List (String × Int) :=
  ids.map fun nodeId => (nodeId, counts nodeId)

section Check

variable {nodes : List WorkflowNodeSpecV1} {edges : List WorkflowEdgeV1} {ids : List String}

theorem joins_edgePairs {first second : String} :
    Joins (edgePairs edges) first second ↔ Precedes edges first second := by
  simp [Joins, edgePairs, Precedes]

theorem hasCycle_edgePairs : HasCycle (edgePairs edges) ↔ Cyclic edges := by
  have same : Joins (edgePairs edges) = Precedes edges := by
    funext first second
    exact propext joins_edgePairs
  rw [HasCycle, Cyclic, same]

theorem lookup_tabulate (counts : String → Int) {nodeId : String} (member : nodeId ∈ ids) :
    (tabulate ids counts).lookup nodeId = some (counts nodeId) := by
  induction ids with
  | nil => cases member
  | cons first rest ih =>
    rw [tabulate, List.map_cons, List.lookup_cons]
    by_cases same : nodeId = first
    · rw [same, beq_self_eq_true]
    · rw [beq_eq_false_iff_ne.mpr same]
      exact ih ((List.mem_cons.mp member).resolve_left same)

theorem releaseTarget_tabulate (counts : String → Int) (queue : List String) {next : String}
    (member : next ∈ ids) : releaseTarget (tabulate ids counts, queue) next =
      (tabulate ids (release (counts, queue) next).1, (release (counts, queue) next).2) := by
  have table : (tabulate ids counts).map (fun entry : String × Int =>
      if entry.1 = next then (next, counts next - 1) else entry) =
      tabulate ids (Function.update counts next (counts next - 1)) := by
    rw [tabulate, tabulate, List.map_map]
    refine List.map_congr_left fun nodeId _ => ?_
    by_cases same : nodeId = next
    · subst same
      simp
    · simp [same]
  simp only [releaseTarget, lookup_tabulate counts member, Option.getD_some, release, table]

theorem foldl_releaseTarget (targets : List String) (inside : ∀ target ∈ targets, target ∈ ids)
    (counts : String → Int) (queue : List String) :
    targets.foldl releaseTarget (tabulate ids counts, queue) =
      (tabulate ids (targets.foldl release (counts, queue)).1,
        (targets.foldl release (counts, queue)).2) := by
  induction targets generalizing counts queue with
  | nil => rfl
  | cons target rest ih =>
    obtain ⟨here, others⟩ := List.forall_mem_cons.mp inside
    rw [List.foldl_cons, List.foldl_cons, releaseTarget_tabulate counts queue here]
    exact ih others _ _

theorem count_outgoingTargets (nodeId vertex : String) :
    (outgoingTargets edges nodeId).count vertex = (edgePairs edges).count (nodeId, vertex) := by
  rw [outgoingTargets, edgePairs, List.count_eq_countP, List.count_eq_countP, List.countP_map,
    List.countP_map, List.countP_filter]
  congr 1
  funext edge
  rw [Bool.eq_iff_iff]
  simp [Prod.ext_iff, and_comm]

theorem entering_edgePairs (vertex : String) :
    entering (edgePairs edges) [] vertex =
      (edges.filter fun edge => edge.toNode = vertex).length := by
  rw [entering, edgePairs, List.countP_map, ← List.countP_eq_length_filter]
  congr 1
  funext edge
  simp

/-- **The rounds that are left visit the rest of what can be peeled**, and there are enough of them
when there is one for each node that was not visited. -/
theorem countVisited_peels (known : ∀ edge ∈ edges, edge.toNode ∈ ids) {done queue : List String}
    {counts : String → Int} (peeling : Peeling ids (edgePairs edges) done queue counts) :
    ∃ final rest, Peeling ids (edgePairs edges) final [] rest ∧
      ∀ rounds, ids.length ≤ done.length + rounds →
        countVisited edges rounds (tabulate ids counts) queue done.length = final.length := by
  have inside : ∀ vertex ∈ done ++ queue, vertex ∈ ids := fun vertex member =>
    ((peeling.free vertex).mp member).1
  have few := (List.subperm_of_subset peeling.nodup inside).length_le
  induction left : ids.length - done.length generalizing done queue counts with
  | zero =>
    -- all nodes were visited, and the queue is empty
    rw [List.length_append] at few
    obtain rfl : queue = [] := List.length_eq_zero_iff.mp (by omega)
    refine ⟨done, counts, peeling, fun rounds _ => ?_⟩
    cases rounds <;> rfl
  | succ left ih =>
    cases queue with
    | nil =>
      refine ⟨done, counts, peeling, fun rounds _ => ?_⟩
      cases rounds <;> rfl
    | cons next queue =>
      have targets : ∀ vertex ∈ outgoingTargets edges next, vertex ∈ ids := by
        intro vertex member
        obtain ⟨edge, there, rfl⟩ := List.mem_map.mp member
        exact known edge (List.mem_filter.mp there).1
      have visited := peeling.visit (count_outgoingTargets next) targets
      have still : ∀ vertex ∈ (done ++ [next]) ++
          ((outgoingTargets edges next).foldl release (counts, queue)).2, vertex ∈ ids :=
        fun vertex member => ((visited.free vertex).mp member).1
      obtain ⟨final, rest, peeled, rounds⟩ := ih visited still
        (List.subperm_of_subset visited.nodup still).length_le
        (by rw [List.length_append, List.length_singleton]; omega)
      refine ⟨final, rest, peeled, fun bound enough => ?_⟩
      cases bound with
      | zero => omega
      | succ bound =>
        have later := rounds bound (by
          rw [List.length_append, List.length_singleton]
          omega)
        rw [List.length_append, List.length_singleton] at later
        rw [countVisited, foldl_releaseTarget _ targets]
        exact later

/-- The table with which the check begins. -/
theorem indegrees_eq : indegrees nodes edges =
    tabulate (nodes.map (·.nodeId)) fun vertex => entering (edgePairs edges) [] vertex := by
  rw [indegrees, tabulate, List.map_map]
  refine List.map_congr_left fun node _ => ?_
  rw [Function.comp_apply, entering_edgePairs]

theorem sourceNodes_eq : sourceNodes nodes edges =
    (nodes.map (·.nodeId)).filter fun vertex => entering (edgePairs edges) [] vertex = 0 := by
  rw [sourceNodes, indegrees_eq, tabulate, List.filter_map, List.map_map]
  have first : ((fun entry : String × Int => entry.1) ∘ fun nodeId : String =>
      (nodeId, (entering (edgePairs edges) [] nodeId : Int))) = id := rfl
  rw [first, List.map_id]
  refine List.filter_congr fun vertex _ => ?_
  simp

theorem visitedIn_eq (distinct : (nodes.map (·.nodeId)).Nodup)
    (known : ∀ edge ∈ edges, edge.fromNode ∈ nodes.map (·.nodeId) ∧
      edge.toNode ∈ nodes.map (·.nodeId)) :
    ∃ visited, (∀ rounds, nodes.length ≤ rounds → visitedIn nodes edges rounds = visited) ∧
      (visited = nodes.length ↔ ¬ Cyclic edges) := by
  have start := @Peeling.start _ _ (nodes.map (·.nodeId)) (edgePairs edges) distinct
  obtain ⟨final, rest, peeled, ends⟩ :=
    countVisited_peels (fun edge member => (known edge member).2) start
  have joined : ∀ source target, Joins (edgePairs edges) source target →
      source ∈ nodes.map (·.nodeId) ∧ target ∈ nodes.map (·.nodeId) := by
    intro source target joins
    obtain ⟨edge, member, rfl, rfl⟩ := joins_edgePairs.mp joins
    exact known edge member
  refine ⟨final.length, fun rounds enough => ?_, ?_⟩
  · rw [visitedIn, indegrees_eq, sourceNodes_eq]
    exact ends rounds (by simpa using enough)
  · have all := peeled.all_done_iff distinct joined
    rwa [List.length_map, hasCycle_edgePairs] at all

/-- The check accepts the graphs without a cycle. -/
theorem assertAcyclic_ok_iff (distinct : (nodes.map (·.nodeId)).Nodup)
    (known : ∀ edge ∈ edges, edge.fromNode ∈ nodes.map (·.nodeId) ∧
      edge.toNode ∈ nodes.map (·.nodeId)) :
    assertAcyclic nodes edges = .ok () ↔ ¬ Cyclic edges := by
  obtain ⟨visited, rounds, all⟩ := visitedIn_eq distinct known
  have counted : assertAcyclic nodes edges =
      ensure (visited == nodes.length) .workflowGraphCycle := by
    rw [← rounds (nodes.length + edges.length + 1) (by omega)]
    rfl
  rw [counted, ensure_eq_ok, beq_iff_eq]
  exact all

theorem assertAcyclic_cases (nodes : List WorkflowNodeSpecV1) (edges : List WorkflowEdgeV1) :
    assertAcyclic nodes edges = .ok () ∨
      assertAcyclic nodes edges = .error .workflowGraphCycle := by
  unfold assertAcyclic ensure
  dsimp only
  split
  · exact .inl rfl
  · exact .inr rfl

end Check

/-- **The check ends after as many rounds as there are nodes, and rejects a graph exactly if its
edges lead from some node back to it.** -/
theorem graph_rejected_iff_cyclic {nodes : List WorkflowNodeSpecV1} {edges : List WorkflowEdgeV1}
    (distinct : (nodes.map (·.nodeId)).Nodup)
    (known : ∀ edge ∈ edges, edge.fromNode ∈ nodes.map (·.nodeId) ∧
      edge.toNode ∈ nodes.map (·.nodeId)) : (∀ rounds, nodes.length ≤ rounds →
      visitedIn nodes edges rounds = visitedIn nodes edges nodes.length) ∧
    (assertAcyclic nodes edges = .error .workflowGraphCycle ↔ Cyclic edges) := by
  obtain ⟨visited, rounds, _⟩ := visitedIn_eq distinct known
  refine ⟨fun bound enough => (rounds bound enough).trans (rounds _ le_rfl).symm, ?_⟩
  have accepts := assertAcyclic_ok_iff distinct known
  constructor
  · intro rejected
    rw [rejected] at accepts
    by_contra acyclic
    cases accepts.mpr acyclic
  · intro cycle
    rcases assertAcyclic_cases nodes edges with accepted | rejected
    · exact absurd cycle (accepts.mp accepted)
    · exact rejected

theorem opposite_edges_rejected :
    assertAcyclic [smallNode "a", smallNode "b"]
        [{ fromNode := "a", toNode := "b" }, { fromNode := "b", toNode := "a" }] =
      .error .workflowGraphCycle :=
  (graph_rejected_iff_cyclic (by decide) (by decide)).2.mpr
    ⟨"a", .tail (.single ⟨_, List.mem_cons_self .., rfl, rfl⟩)
      ⟨_, List.mem_cons_of_mem _ (List.mem_cons_self ..), rfl, rfl⟩⟩

end Praxis.Workflow
