import Praxis.Durable.Reducer

/-!
# Well-formed projections

A projection is well formed when its specification carries its identity and revision, its
nodes are the nodes of the specification, and each node lists exactly its own attempts, with
ordinals counting from one.

The reducer establishes this when a workflow is created and keeps it through every event
but two. A `graph.patched` event takes the identity of the new specification as it comes,
and both it and `execution.task_admitted` may add a node under an id whose earlier attempts
are still in the projection. `effect_wellFormed_iff` says that these are the only ways out,
and `reduceWorkflowEventsV1_wellFormed_iff` carries this to all prefixes of a history.
-/

namespace Praxis.Workflow

set_option autoImplicit false

open Praxis.Foundations

/-- The attempts of a node, in the order in which they were created. -/
def WorkflowProjectionV1.attemptsOf (projection : WorkflowProjectionV1) (nodeId : String) :
    List WorkflowAttemptProjectionV1 :=
  projection.attempts.filter fun attempt => attempt.nodeId = nodeId

structure WellFormed (projection : WorkflowProjectionV1) : Prop where
  workflowId : projection.spec.workflowId = projection.workflowId
  runId : projection.spec.runId = projection.runId
  sessionId : projection.spec.sessionId = projection.sessionId
  revision : projection.spec.revision = projection.revision
  nodes : projection.nodes.map (·.nodeId) = projection.spec.nodes.map (·.nodeId)
  distinctNodes : (projection.nodes.map (·.nodeId)).Nodup
  distinctAttempts : (projection.attempts.map (·.attemptId)).Nodup
  owned : ∀ node ∈ projection.nodes,
    node.attemptIds = (projection.attemptsOf node.nodeId).map (·.attemptId)
  ordinals : ∀ node ∈ projection.nodes,
    (projection.attemptsOf node.nodeId).map (·.ordinal) = List.range' 1 node.attemptIds.length

/-- The event keeps the identity of the workflow and adds no node under an id that already
owns attempts. -/
def KeepsGraph (current : WorkflowProjectionV1) : WorkflowEventDataV1 → Prop
  | .graphPatched spec =>
    (spec.workflowId = current.workflowId ∧ spec.runId = current.runId ∧
      spec.sessionId = current.sessionId) ∧
    ∀ node ∈ spec.nodes, node.nodeId ∉ current.nodes.map (·.nodeId) →
      current.attemptsOf node.nodeId = []
  | .executionTaskAdmitted _ _ node _ => current.attemptsOf node.nodeId = []
  | _ => True

section Attempts

variable (current : WorkflowProjectionV1)

theorem attemptsOf_attemptChanged (change : AttemptStateChangedV1) (nodeId : String) :
    ((current.attemptChanged change).attemptsOf nodeId).map
        (fun attempt => (attempt.attemptId, attempt.ordinal)) =
      (current.attemptsOf nodeId).map fun attempt => (attempt.attemptId, attempt.ordinal) := by
  rw [WorkflowProjectionV1.attemptsOf, WorkflowProjectionV1.attemptChanged_attempts,
    changeAttempt, List.filter_map, List.map_map]
  have owner : ((fun attempt : WorkflowAttemptProjectionV1 => decide (attempt.nodeId = nodeId)) ∘
      fun attempt => if attempt.attemptId = change.attemptId then attempt.change change
        else attempt) = fun attempt => decide (attempt.nodeId = nodeId) := by
    funext attempt
    by_cases same : attempt.attemptId = change.attemptId <;>
      simp [same, WorkflowAttemptProjectionV1.change]
  rw [owner]
  refine List.map_congr_left fun attempt _ => ?_
  by_cases same : attempt.attemptId = change.attemptId <;>
    simp [same, WorkflowAttemptProjectionV1.change]

theorem attemptsOf_attemptCreated (attempt : WorkflowAttemptProjectionV1) (nodeId : String) :
    (current.attemptCreated attempt).attemptsOf nodeId =
      current.attemptsOf nodeId ++ if attempt.nodeId = nodeId then [attempt] else [] := by
  by_cases owner : attempt.nodeId = nodeId <;>
    simp [owner, WorkflowProjectionV1.attemptsOf, List.filter_append]

theorem attemptsOf_taskAdmitted (node : WorkflowNodeSpecV1)
    (attempt : WorkflowAttemptProjectionV1) (nodeId : String) :
    (current.taskAdmitted node attempt).attemptsOf nodeId =
      current.attemptsOf nodeId ++ if attempt.nodeId = nodeId then [attempt] else [] := by
  by_cases owner : attempt.nodeId = nodeId <;>
    simp [owner, WorkflowProjectionV1.attemptsOf, List.filter_append]

variable {current}

theorem distinctAttempts_append {attempt : WorkflowAttemptProjectionV1}
    (distinct : (current.attempts.map (·.attemptId)).Nodup)
    (new : ∀ other ∈ current.attempts, other.attemptId ≠ attempt.attemptId) :
    ((current.attempts ++ [attempt]).map (·.attemptId)).Nodup := by
  rw [List.map_append]
  refine List.Nodup.append distinct (List.nodup_singleton _) ?_
  refine List.disjoint_singleton.mpr fun member => ?_
  obtain ⟨other, present, same⟩ := List.mem_map.mp member
  exact new other present same

end Attempts

/-! ## One event -/

section Step

variable {current next : WorkflowProjectionV1} {data : WorkflowEventDataV1}
  {attempt : WorkflowAttemptProjectionV1}

section

variable (wellFormed : WellFormed current)
include wellFormed

theorem WellFormed.of_same
    (identity : next.workflowId = current.workflowId ∧ next.runId = current.runId ∧
      next.sessionId = current.sessionId) (revision : next.revision = current.revision)
    (spec : next.spec.workflowId = current.spec.workflowId ∧
      next.spec.runId = current.spec.runId ∧ next.spec.sessionId = current.spec.sessionId ∧
      next.spec.revision = current.spec.revision ∧ next.spec.nodes = current.spec.nodes)
    (nodes : next.nodes = current.nodes) (attempts : next.attempts = current.attempts) :
    WellFormed next := by
  obtain ⟨workflowId, runId, sessionId⟩ := identity
  obtain ⟨specWorkflow, specRun, specSession, specRevision, specNodes⟩ := spec
  have same : ∀ nodeId, next.attemptsOf nodeId = current.attemptsOf nodeId := fun nodeId => by
    rw [WorkflowProjectionV1.attemptsOf, attempts, WorkflowProjectionV1.attemptsOf]
  constructor
  · rw [specWorkflow, workflowId, wellFormed.workflowId]
  · rw [specRun, runId, wellFormed.runId]
  · rw [specSession, sessionId, wellFormed.sessionId]
  · rw [specRevision, revision, wellFormed.revision]
  · rw [nodes, specNodes, wellFormed.nodes]
  · rw [nodes]
    exact wellFormed.distinctNodes
  · rw [attempts]
    exact wellFormed.distinctAttempts
  · intro node member
    rw [same]
    exact wellFormed.owned node (nodes ▸ member)
  · intro node member
    rw [same]
    exact wellFormed.ordinals node (nodes ▸ member)

/-- A node that the event edits in place keeps its id and its attempts. -/
theorem WellFormed.nodeChanged (change : NodeStateChangedV1) :
    WellFormed (current.nodeChanged change) := by
  have kept : ∀ node ∈ changeNode current.nodes change, ∃ old ∈ current.nodes,
      old.nodeId = node.nodeId ∧ old.attemptIds = node.attemptIds := by
    intro node member
    obtain ⟨old, present, rfl⟩ := List.mem_map.mp member
    refine ⟨old, present, ?_⟩
    by_cases changed : old.nodeId = change.nodeId <;>
      simp [changed, WorkflowNodeProjectionV1.change]
  refine { wellFormed with
    nodes := (changeNode_ids _ _).trans wellFormed.nodes
    distinctNodes := (changeNode_ids current.nodes change) ▸ wellFormed.distinctNodes
    owned := fun node member => ?_
    ordinals := fun node member => ?_ }
  · obtain ⟨old, present, id, attemptIds⟩ := kept node member
    exact attemptIds ▸ id ▸ wellFormed.owned old present
  · obtain ⟨old, present, id, attemptIds⟩ := kept node member
    exact attemptIds ▸ id ▸ wellFormed.ordinals old present

theorem WellFormed.attemptChanged
    (change : AttemptStateChangedV1) : WellFormed (current.attemptChanged change) := by
  have pairs := fun nodeId => attemptsOf_attemptChanged current change nodeId
  refine { wellFormed with
    distinctAttempts := (changeAttempt_ids current.attempts change) ▸ wellFormed.distinctAttempts
    owned := fun node member => ?_
    ordinals := fun node member => ?_ }
  · have ids := congrArg (List.map Prod.fst) (pairs node.nodeId)
    simp only [List.map_map, Function.comp_def] at ids
    rw [ids]
    exact wellFormed.owned node member
  · have ordinals := congrArg (List.map Prod.snd) (pairs node.nodeId)
    simp only [List.map_map, Function.comp_def] at ordinals
    rw [ordinals]
    exact wellFormed.ordinals node member

theorem WellFormed.attemptCreated {node : WorkflowNodeProjectionV1}
    (new : ∀ other ∈ current.attempts, other.attemptId ≠ attempt.attemptId)
    (present : findNode? current.nodes attempt.nodeId = some node)
    (ordinal : attempt.ordinal = node.attemptIds.length + 1) :
    WellFormed (current.attemptCreated attempt) := by
  obtain ⟨member, owner⟩ := findNode?_mem present
  have unique : ∀ other ∈ current.nodes, other.nodeId = attempt.nodeId → other = node :=
    fun other there same =>
      List.inj_on_of_nodup_map wellFormed.distinctNodes there member (same.trans owner.symm)
  have ofNode := fun nodeId => attemptsOf_attemptCreated current attempt nodeId
  refine { wellFormed with
    nodes := (addAttempt_ids _ _ _).trans wellFormed.nodes
    distinctNodes := (addAttempt_ids current.nodes _ _) ▸ wellFormed.distinctNodes
    distinctAttempts := distinctAttempts_append wellFormed.distinctAttempts new
    owned := fun changed there => ?_
    ordinals := fun changed there => ?_ }
  · obtain ⟨old, oldMember, rfl⟩ := List.mem_map.mp there
    have before := wellFormed.owned old oldMember
    by_cases same : old.nodeId = attempt.nodeId
    · simp [ofNode, same, WorkflowNodeProjectionV1.withAttempt, before]
    · have other : ¬ attempt.nodeId = old.nodeId := fun equal => same equal.symm
      simp [ofNode, same, other, before]
  · obtain ⟨old, oldMember, rfl⟩ := List.mem_map.mp there
    have before := wellFormed.ordinals old oldMember
    by_cases same : old.nodeId = attempt.nodeId
    · obtain rfl := unique old oldMember same
      rw [same] at before
      simp [ofNode, same, WorkflowNodeProjectionV1.withAttempt, before, ordinal,
        List.range'_concat, Nat.add_comm]
    · have other : ¬ attempt.nodeId = old.nodeId := fun equal => same equal.symm
      simp [ofNode, same, other, before]

end

theorem findNode?_eq_none {nodes : List WorkflowNodeProjectionV1} {nodeId : String} :
    findNode? nodes nodeId = none ↔ nodeId ∉ nodes.map (·.nodeId) := by
  simp [findNode?, List.find?_eq_none]

variable (wellFormed : WellFormed current)
include wellFormed

theorem WellFormed.graphPatched_iff {spec : WorkflowSpecV1} (valid : ValidSpec spec) :
    WellFormed (current.graphPatched spec) ↔ KeepsGraph current (.graphPatched spec) := by
  constructor
  · intro patched
    refine ⟨⟨patched.workflowId, patched.runId, patched.sessionId⟩, fun node member new => ?_⟩
    have added : proposedNode node.nodeId ∈ patchNodes current.nodes spec :=
      List.mem_map.mpr ⟨node, member, by rw [findNode?_eq_none.mpr new]; rfl⟩
    have owned := patched.owned _ added
    exact List.map_eq_nil_iff.mp owned.symm
  · rintro ⟨⟨workflowId, runId, sessionId⟩, new⟩
    have kept : ∀ node ∈ patchNodes current.nodes spec, node ∈ current.nodes ∨
        (node.attemptIds = [] ∧ current.attemptsOf node.nodeId = []) := by
      intro node member
      obtain ⟨specNode, specified, rfl⟩ := List.mem_map.mp member
      cases found : findNode? current.nodes specNode.nodeId with
      | none => exact .inr ⟨rfl, new specNode specified (findNode?_eq_none.mp found)⟩
      | some node => exact .inl (findNode?_mem found).1
    refine
      { workflowId, runId, sessionId
        revision := rfl
        nodes := patchNodes_ids _ _
        distinctNodes := (patchNodes_ids current.nodes spec) ▸ valid.distinct
        distinctAttempts := wellFormed.distinctAttempts
        owned := fun node member => ?_
        ordinals := fun node member => ?_ }
    · change node.attemptIds = (current.attemptsOf node.nodeId).map _
      rcases kept node member with old | ⟨none, free⟩
      · exact wellFormed.owned node old
      · rw [none, free, List.map_nil]
    · change (current.attemptsOf node.nodeId).map _ = _
      rcases kept node member with old | ⟨none, free⟩
      · exact wellFormed.ordinals node old
      · rw [none, free]
        rfl

theorem WellFormed.taskAdmitted_iff {node : WorkflowNodeSpecV1}
    (newNode : ∀ other ∈ current.nodes, other.nodeId ≠ node.nodeId)
    (newAttempt : ∀ other ∈ current.attempts, other.attemptId ≠ attempt.attemptId)
    (owner : attempt.nodeId = node.nodeId) (ordinal : attempt.ordinal = 1) :
    WellFormed (current.taskAdmitted node attempt) ↔ current.attemptsOf node.nodeId = [] := by
  have ofNode := fun nodeId => attemptsOf_taskAdmitted current node attempt nodeId
  constructor
  · intro admitted
    have owned := admitted.owned (admittedNode node attempt) (List.mem_append_right _ (by simp))
    rw [show (admittedNode node attempt).nodeId = node.nodeId from rfl, ofNode] at owned
    simpa [owner, admittedNode] using owned
  · intro free
    refine { wellFormed with
      nodes := by simp [wellFormed.nodes, admittedNode]
      distinctNodes := ?_
      distinctAttempts := distinctAttempts_append wellFormed.distinctAttempts newAttempt
      owned := fun other member => ?_
      ordinals := fun other member => ?_ }
    · rw [WorkflowProjectionV1.taskAdmitted_nodes, List.map_append]
      refine List.Nodup.append wellFormed.distinctNodes (List.nodup_singleton _) ?_
      refine List.disjoint_singleton.mpr fun member => ?_
      obtain ⟨other, present, same⟩ := List.mem_map.mp member
      exact newNode other present same
    · rcases List.mem_append.mp member with old | added
      · have different : ¬ attempt.nodeId = other.nodeId := fun same =>
          newNode other old (same.symm.trans owner)
        simpa [ofNode, different] using wellFormed.owned other old
      · obtain rfl := List.mem_singleton.mp added
        simp [ofNode, admittedNode, free, owner]
    · rcases List.mem_append.mp member with old | added
      · have different : ¬ attempt.nodeId = other.nodeId := fun same =>
          newNode other old (same.symm.trans owner)
        simpa [ofNode, different] using wellFormed.ordinals other old
      · obtain rfl := List.mem_singleton.mp added
        simp [ofNode, admittedNode, free, owner, ordinal]

/-- **The effect of an event on a well-formed projection is well formed exactly when the
event keeps the graph.** -/
theorem effect_wellFormed_iff (effect : WorkflowEventEffect current data next) :
    WellFormed next ↔ KeepsGraph current data := by
  cases effect with
  | created => exact ⟨fun _ => trivial, fun _ => wellFormed⟩
  | announced announces =>
    have keeps : KeepsGraph current data := by
      cases data <;> trivial
    exact ⟨fun _ => keeps, fun _ =>
      wellFormed.of_same ⟨rfl, rfl, rfl⟩ rfl ⟨rfl, rfl, rfl, rfl, rfl⟩ rfl rfl⟩
  | recorded only =>
    have keeps : KeepsGraph current data := by
      cases data <;> trivial
    exact ⟨fun _ => keeps, fun _ => wellFormed⟩
  | topologyChanged =>
    exact ⟨fun _ => trivial, fun _ =>
      wellFormed.of_same ⟨rfl, rfl, rfl⟩ rfl ⟨rfl, rfl, rfl, rfl, rfl⟩ rfl rfl⟩
  | budgetCharged =>
    exact ⟨fun _ => trivial, fun _ =>
      wellFormed.of_same ⟨rfl, rfl, rfl⟩ rfl ⟨rfl, rfl, rfl, rfl, rfl⟩ rfl rfl⟩
  | graphPatched valid =>
    exact wellFormed.graphPatched_iff (validateWorkflowSpecV1_accepts valid).2
  | taskAdmitted _ _ newNode newAttempt owner ordinal =>
    exact wellFormed.taskAdmitted_iff newNode newAttempt owner ordinal
  | nodeChanged => exact ⟨fun _ => trivial, fun _ => wellFormed.nodeChanged _⟩
  | attemptCreated new present ordinal =>
    exact ⟨fun _ => trivial, fun _ => wellFormed.attemptCreated new present ordinal⟩
  | attemptChanged => exact ⟨fun _ => trivial, fun _ => wellFormed.attemptChanged _⟩

theorem applyWorkflowEventV1_wellFormed_iff
    {event : WorkflowEventV1} (accepted : applyWorkflowEventV1 current event = .ok next) :
    WellFormed next ↔ KeepsGraph current event.data := by
  obtain ⟨_, content, effect, rfl⟩ := applyWorkflowEventV1_iff.mp accepted
  rw [← effect_wellFormed_iff wellFormed effect]
  constructor <;> intro shape <;>
    exact shape.of_same ⟨rfl, rfl, rfl⟩ rfl ⟨rfl, rfl, rfl, rfl, rfl⟩ rfl rfl

end Step

/-! ## Whole histories -/

theorem initial_wellFormed {spec : WorkflowSpecV1} {initial : WorkflowProjectionV1}
    (accepted : initialWorkflowProjectionV1 spec = .ok initial) : WellFormed initial := by
  obtain ⟨valid, rfl⟩ := initialWorkflowProjectionV1_eq_ok accepted
  have ids : (spec.nodes.map fun node => proposedNode node.nodeId).map (·.nodeId) =
      spec.nodes.map (·.nodeId) := by
    rw [List.map_map]
    rfl
  have fresh : ∀ node ∈ spec.nodes.map (fun node => proposedNode node.nodeId),
      node.attemptIds = [] := by
    intro node member
    obtain ⟨_, _, rfl⟩ := List.mem_map.mp member
    rfl
  refine
    { workflowId := rfl
      runId := rfl
      sessionId := rfl
      revision := rfl
      nodes := ids
      distinctNodes := ids ▸ valid.distinct
      distinctAttempts := List.nodup_nil
      owned := fun node member => ?_
      ordinals := fun node member => ?_ }
  · rw [fresh node member]
    rfl
  · rw [fresh node member]
    rfl

/-- Every projection along a history is well formed: after each accepted prefix. -/
def PrefixesWellFormed (events : List WorkflowEventV1) : Prop :=
  ∀ front back projection, events = front ++ back →
    reduceWorkflowEventsV1 front = .ok projection → WellFormed projection

/-- Every event that the history accepts keeps the graph it is applied to. -/
def EventsKeepGraph (events : List WorkflowEventV1) : Prop :=
  ∀ front event back current next, events = front ++ event :: back →
    reduceWorkflowEventsV1 front = .ok current → applyWorkflowEventV1 current event = .ok next →
    KeepsGraph current event.data

/-- **The projections along a history are well formed exactly when every accepted event keeps
the graph.** -/
theorem reduceWorkflowEventsV1_wellFormed_iff (events : List WorkflowEventV1) :
    PrefixesWellFormed events ↔ EventsKeepGraph events := by
  constructor
  · intro wellFormed front event back current next split reduced accepted
    have before := wellFormed front (event :: back) current split reduced
    have extended : reduceWorkflowEventsV1 (front ++ [event]) = .ok next :=
      (reduceWorkflowEventsV1_append reduced).mpr
        (foldlM_cons_eq_ok.mpr ⟨next, accepted, foldlM_nil_eq_ok.mpr rfl⟩)
    have after := wellFormed (front ++ [event]) back next (by simp [split]) extended
    exact (applyWorkflowEventV1_wellFormed_iff before accepted).mp after
  · intro keeps front
    -- The last event of the prefix is the step, the events before it the induction.
    induction front using List.reverseRecOn with
    | nil =>
      intro back projection _ reduced
      simp [reduceWorkflowEventsV1] at reduced
    | append_singleton front event ih =>
      intro back projection split reduced
      rw [List.append_assoc, List.singleton_append] at split
      rcases reduceWorkflowEventsV1_snoc reduced with
        ⟨spec, initial, rfl, created, start, step⟩ | ⟨current, before, step⟩
      · refine (applyWorkflowEventV1_wellFormed_iff (initial_wellFormed start) step).mpr ?_
        rw [created]
        trivial
      · have wellFormed := ih (event :: back) current split before
        exact (applyWorkflowEventV1_wellFormed_iff wellFormed step).mpr
          (keeps front event back current projection split before step)

/-- A history whose last event patches the graph under another run id. -/
def driftingHistory : List WorkflowEventV1 :=
  let event := fun (sequence : Nat) (data : WorkflowEventDataV1) =>
    ({ eventId := "event", workflowId := "workflow", runId := "run", sequence,
       occurredAt := epochStart, data } : WorkflowEventV1)
  [event 1 (.workflowCreated smallSpec), event 2 .workflowStarted,
    event 3 (.graphPatched { smallSpec with revision := 2, runId := "other-run" })]

/-- **A graph patch may change the run id of the specification**, so not every accepted
history has well-formed projections. -/
theorem patched_identity_drifts : ¬ ∀ events, PrefixesWellFormed events := by
  intro always
  have drifted : ((reduceWorkflowEventsV1 driftingHistory).toOption.any fun projection =>
      decide (projection.spec.runId ≠ projection.runId)) = true := by decide +kernel
  obtain ⟨projection, reduced, different⟩ := exists_ok drifted
  have wellFormed := always driftingHistory driftingHistory [] projection (by simp) reduced
  exact of_decide_eq_true different wellFormed.runId

end Praxis.Workflow
