import Praxis.Durable.SpecValidation

/-!
# The event reducer

A workflow is the fold of its events. `applyWorkflowEventV1` checks the envelope of an
event, then applies its data to the projection; the first illegal event rejects the whole
history. `WorkflowEventEffect` says once, for each kind of event, what an accepted event
requires and what it changes, and `applyWorkflowEventV1_effect` reads it off the reducer, so
that invariants of projections are proved by cases on it and never unfold the reducer.
-/

namespace Praxis.Workflow

set_option autoImplicit false

open Praxis.Foundations

/-! ## Transitions -/

def workflowTransitions : WorkflowStateV1 → List WorkflowStateV1
  | .created => [.running, .cancelled, .terminated]
  | .running => [.waiting, .paused, .cancelling, .completed, .failed, .terminated]
  | .waiting => [.running, .paused, .cancelling, .failed, .terminated]
  | .paused => [.running, .cancelling, .terminated]
  | .cancelling => [.cancelled, .failed, .terminated]
  | .cancelled => []
  | .completed => []
  | .failed => []
  | .terminated => []

def nodeTransitions : WorkflowNodeStateV1 → List WorkflowNodeStateV1
  | .proposed => [.admitted, .cancelled, .failed]
  | .admitted => [.scheduled, .waiting, .skipped, .cancelled, .failed]
  | .scheduled => [.leased, .succeeded, .cancelled, .failed]
  | .leased => [.running, .scheduled, .unknown, .cancelled]
  | .running => [.waiting, .verifying, .retryWait, .unknown, .succeeded, .failed, .cancelled]
  | .waiting => [.scheduled, .succeeded, .cancelled, .failed]
  | .verifying => [.succeeded, .retryWait, .failed, .manualIntervention]
  | .retryWait => [.scheduled, .failed, .cancelled]
  | .unknown => [.succeeded, .failed, .manualIntervention]
  | .skipped => []
  | .succeeded => []
  | .failed => [.retryWait]
  | .cancelled => []
  | .manualIntervention => []

def attemptTransitions : WorkflowAttemptStateV1 → List WorkflowAttemptStateV1
  | .scheduled => [.leased, .cancelled]
  | .leased => [.running, .scheduled, .unknown, .cancelled]
  | .running => [.waiting, .verifying, .retryWait, .unknown, .succeeded, .failed, .cancelled]
  | .waiting => [.running, .retryWait, .succeeded, .failed, .cancelled]
  | .verifying => [.succeeded, .retryWait, .failed, .manualIntervention]
  | .retryWait => [.scheduled, .failed, .cancelled]
  | .unknown => [.succeeded, .failed, .manualIntervention]
  | .succeeded => []
  | .failed => []
  | .cancelled => []
  | .manualIntervention => []

def terminalAttempts : List WorkflowAttemptStateV1 :=
  [.succeeded, .failed, .cancelled, .manualIntervention]

def assertWorkflowStateTransitionV1 (before after : WorkflowStateV1) :
    Except WorkflowError Unit :=
  ensure (decide (after ∈ workflowTransitions before)) .workflowTransitionInvalid

def assertWorkflowNodeTransitionV1 (before after : WorkflowNodeStateV1) :
    Except WorkflowError Unit :=
  ensure (decide (after ∈ nodeTransitions before)) .workflowTransitionInvalid

/-! ## Nodes and attempts of a projection -/

def findNode? (nodes : List WorkflowNodeProjectionV1) (nodeId : String) :
    Option WorkflowNodeProjectionV1 :=
  nodes.find? fun node => node.nodeId = nodeId

def findAttempt? (attempts : List WorkflowAttemptProjectionV1) (attemptId : String) :
    Option WorkflowAttemptProjectionV1 :=
  attempts.find? fun attempt => attempt.attemptId = attemptId

def WorkflowNodeProjectionV1.change (node : WorkflowNodeProjectionV1)
    (data : NodeStateChangedV1) : WorkflowNodeProjectionV1 :=
  { node with state := data.state, errorCode := data.errorCode, resultRef := data.resultRef }

def WorkflowAttemptProjectionV1.change (attempt : WorkflowAttemptProjectionV1)
    (data : AttemptStateChangedV1) : WorkflowAttemptProjectionV1 :=
  { attempt with
    state := data.state
    leaseToken := data.leaseToken.or attempt.leaseToken
    workerId := data.workerId.or attempt.workerId
    startedAt := if data.state = .running then some data.changedAt else attempt.startedAt
    lastProgressAt := some data.changedAt
    finishedAt :=
      if data.state ∈ terminalAttempts then some data.changedAt else attempt.finishedAt
    errorCode := data.errorCode
    resultRef := data.resultRef
    receiptRef := data.receiptRef }

def updateNode (nodes : List WorkflowNodeProjectionV1) (data : NodeStateChangedV1) :
    Except WorkflowError (List WorkflowNodeProjectionV1) := do
  let updated ← nodes.mapM fun node =>
    if node.nodeId ≠ data.nodeId then return node
    else do
      assertWorkflowNodeTransitionV1 node.state data.state
      return node.change data
  ensure (nodes.any fun node => node.nodeId = data.nodeId) .workflowNodeNotFound
  return updated

def updateAttempt (attempts : List WorkflowAttemptProjectionV1) (data : AttemptStateChangedV1) :
    Except WorkflowError (List WorkflowAttemptProjectionV1) := do
  let updated ← attempts.mapM fun attempt =>
    if attempt.attemptId ≠ data.attemptId then return attempt
    else do
      ensure (decide (data.state ∈ attemptTransitions attempt.state)) .workflowTransitionInvalid
      return attempt.change data
  ensure (attempts.any fun attempt => attempt.attemptId = data.attemptId) .workflowAttemptNotFound
  return updated

/-- A node as an event adds it to the graph. -/
def proposedNode (nodeId : String) : WorkflowNodeProjectionV1 where
  nodeId := nodeId
  state := .proposed
  attemptIds := []

def WorkflowNodeProjectionV1.withAttempt (node : WorkflowNodeProjectionV1) (attemptId : String) :
    WorkflowNodeProjectionV1 :=
  { node with attemptIds := node.attemptIds ++ [attemptId] }

/-- Usage added up field by field. -/
def WorkflowUsageV1.add (usage charged : WorkflowUsageV1) : WorkflowUsageV1 where
  turns := usage.turns + charged.turns
  toolCalls := usage.toolCalls + charged.toolCalls
  inputTokens := usage.inputTokens + charged.inputTokens
  outputTokens := usage.outputTokens + charged.outputTokens
  agentTasks := usage.agentTasks + charged.agentTasks

/-! ## The reducer -/

def initialWorkflowProjectionV1 (specValue : WorkflowSpecV1) :
    Except WorkflowError WorkflowProjectionV1 := do
  let spec ← validateWorkflowSpecV1 specValue
  return {
      workflowId := spec.workflowId
      runId := spec.runId
      sessionId := spec.sessionId
      revision := spec.revision
      sequence := 0
      state := .created
      spec
      nodes := spec.nodes.map fun node => proposedNode node.nodeId
      attempts := []
      graphMutations := 0
      usage := ⟨0, 0, 0, 0, 0⟩
      updatedAt := spec.createdAt }

/-- What the data of an event makes of a projection, apart from the sequence and the time
that every event sets. -/
def applyWorkflowEventDataV1 (current : WorkflowProjectionV1) :
    WorkflowEventDataV1 → Except WorkflowError WorkflowProjectionV1
  | .workflowCreated spec => do
      ensure (current.sequence == 0 && spec.workflowId == current.workflowId)
        .workflowHistoryInvalid
      return current
  | .workflowStarted | .workflowResumed => do
      assertWorkflowStateTransitionV1 current.state .running
      return { current with state := .running }
  | .workflowWaiting => do
      assertWorkflowStateTransitionV1 current.state .waiting
      return { current with state := .waiting }
  | .workflowPaused => do
      assertWorkflowStateTransitionV1 current.state .paused
      return { current with state := .paused }
  | .workflowCancelling code => do
      assertWorkflowStateTransitionV1 current.state .cancelling
      return { current with state := .cancelling, terminalCode := some code }
  | .workflowTerminal state code => do
      assertWorkflowStateTransitionV1 current.state state.toState
      return { current with state := state.toState, terminalCode := code }
  | .workflowTopologyChanged topology =>
    return { current with spec := { current.spec with topology } }
  | .budgetCharged usage =>
    -- Usage may overshoot a limit: admission checks use the recorded total.
    return { current with usage := current.usage.add usage }
  | .signalReceived .. | .effectReceiptRecorded .. | .effectReserved .. | .effectReplayed ..
  | .executionSnapshotBound .. | .effectCompensated .. | .timerFired ..
  | .humanTaskResolved .. => return current
  | .graphPatched value => do
      let spec ← validateWorkflowSpecV1 value
      ensure (spec.revision == current.revision + 1 &&
        decide ((current.graphMutations : Int) < current.spec.maxGraphMutations))
        .workflowGraphPatchRejected
      return { current with
        revision := spec.revision
        spec
        graphMutations := current.graphMutations + 1
        nodes := spec.nodes.map fun node =>
          (findNode? current.nodes node.nodeId).getD (proposedNode node.nodeId) }
  | .executionTaskAdmitted requestId requestDigest node attempt => do
      ensure (safeId requestId && isSha256 requestDigest &&
        (!current.nodes.any fun other => other.nodeId = node.nodeId) &&
        (!current.attempts.any fun other => other.attemptId = attempt.attemptId) &&
        attempt.nodeId == node.nodeId && attempt.ordinal == 1) .workflowTaskRequestConflict
      let spec ← validateWorkflowSpecV1 { current.spec with nodes := current.spec.nodes ++ [node] }
      return { current with
        spec
        nodes := current.nodes ++
          [{ nodeId := node.nodeId, state := .scheduled, attemptIds := [attempt.attemptId] }]
        attempts := current.attempts ++ [attempt] }
  | .nodeStateChanged change => do
      let nodes ← updateNode current.nodes change
      return { current with nodes }
  | .attemptCreated attempt => do
      ensure (!current.attempts.any fun other => other.attemptId = attempt.attemptId)
        .workflowAttemptDuplicate
      let node ← orError .workflowAttemptInvalid (findNode? current.nodes attempt.nodeId)
      ensure (attempt.ordinal == node.attemptIds.length + 1) .workflowAttemptInvalid
      return { current with
        attempts := current.attempts ++ [attempt]
        nodes := current.nodes.map fun candidate =>
          if candidate.nodeId = node.nodeId then candidate.withAttempt attempt.attemptId
          else candidate }
  | .attemptStateChanged change => do
      let attempts ← updateAttempt current.attempts change
      return { current with attempts }

def applyWorkflowEventV1 (current : WorkflowProjectionV1) (event : WorkflowEventV1) :
    Except WorkflowError WorkflowProjectionV1 := do
  ensure (safeId event.eventId && event.workflowId == current.workflowId &&
    event.runId == current.runId && event.sequence == current.sequence + 1 &&
    event.occurredAt.valid) .workflowHistoryInvalid
  let next ← applyWorkflowEventDataV1 current event.data
  return { next with sequence := event.sequence, updatedAt := event.occurredAt }

def reduceWorkflowEventsV1 : List WorkflowEventV1 → Except WorkflowError WorkflowProjectionV1
  | [] => throw .workflowHistoryInvalid
  | first :: rest =>
    match first.data with
    | .workflowCreated spec => do
        let projection ← initialWorkflowProjectionV1 spec
        (first :: rest).foldlM applyWorkflowEventV1 projection
    | _ => throw .workflowHistoryInvalid

/-! ## What an accepted event does -/

def changeNode (nodes : List WorkflowNodeProjectionV1) (change : NodeStateChangedV1) :
    List WorkflowNodeProjectionV1 :=
  nodes.map fun node => if node.nodeId = change.nodeId then node.change change else node

def changeAttempt (attempts : List WorkflowAttemptProjectionV1)
    (change : AttemptStateChangedV1) : List WorkflowAttemptProjectionV1 :=
  attempts.map fun attempt =>
    if attempt.attemptId = change.attemptId then attempt.change change else attempt

/-- The nodes after an `attempt.created` event. -/
def addAttempt (nodes : List WorkflowNodeProjectionV1) (nodeId attemptId : String) :
    List WorkflowNodeProjectionV1 :=
  nodes.map fun node => if node.nodeId = nodeId then node.withAttempt attemptId else node

/-- The nodes after a `graph.patched` event: a node that stays keeps its projection. -/
def patchNodes (nodes : List WorkflowNodeProjectionV1) (spec : WorkflowSpecV1) :
    List WorkflowNodeProjectionV1 :=
  spec.nodes.map fun node => (findNode? nodes node.nodeId).getD (proposedNode node.nodeId)

/-- The node that an `execution.task_admitted` event adds. -/
def admittedNode (node : WorkflowNodeSpecV1) (attempt : WorkflowAttemptProjectionV1) :
    WorkflowNodeProjectionV1 where
  nodeId := node.nodeId
  state := .scheduled
  attemptIds := [attempt.attemptId]

section Projections

variable (nodes : List WorkflowNodeProjectionV1) (attempts : List WorkflowAttemptProjectionV1)

@[simp] theorem changeNode_ids (change : NodeStateChangedV1) :
    (changeNode nodes change).map (·.nodeId) = nodes.map (·.nodeId) := by
  rw [changeNode, List.map_map]
  refine List.map_congr_left fun node _ => ?_
  by_cases changed : node.nodeId = change.nodeId <;>
    simp [changed, WorkflowNodeProjectionV1.change]

@[simp] theorem addAttempt_ids (nodeId attemptId : String) :
    (addAttempt nodes nodeId attemptId).map (·.nodeId) = nodes.map (·.nodeId) := by
  rw [addAttempt, List.map_map]
  refine List.map_congr_left fun node _ => ?_
  by_cases owner : node.nodeId = nodeId <;> simp [owner, WorkflowNodeProjectionV1.withAttempt]

@[simp] theorem changeAttempt_ids (change : AttemptStateChangedV1) :
    (changeAttempt attempts change).map (·.attemptId) = attempts.map (·.attemptId) := by
  rw [changeAttempt, List.map_map]
  refine List.map_congr_left fun attempt _ => ?_
  by_cases changed : attempt.attemptId = change.attemptId <;>
    simp [changed, WorkflowAttemptProjectionV1.change]

@[simp] theorem patchNodes_ids (spec : WorkflowSpecV1) :
    (patchNodes nodes spec).map (·.nodeId) = spec.nodes.map (·.nodeId) := by
  rw [patchNodes, List.map_map]
  refine List.map_congr_left fun node _ => ?_
  cases found : findNode? nodes node.nodeId with
  | none => simp [found, proposedNode]
  | some kept => simpa [found] using List.find?_some found

end Projections

def WorkflowEventDataV1.announces (current : WorkflowProjectionV1) :
    WorkflowEventDataV1 → Option (WorkflowStateV1 × Option String)
  | .workflowStarted | .workflowResumed => some (.running, current.terminalCode)
  | .workflowWaiting => some (.waiting, current.terminalCode)
  | .workflowPaused => some (.paused, current.terminalCode)
  | .workflowCancelling code => some (.cancelling, some code)
  | .workflowTerminal state code => some (state.toState, code)
  | _ => none

/-- Events that are kept in the log only. -/
def WorkflowEventDataV1.isRecordOnly : WorkflowEventDataV1 → Bool
  | .signalReceived .. | .effectReceiptRecorded .. | .effectReserved .. | .effectReplayed ..
  | .executionSnapshotBound .. | .effectCompensated .. | .timerFired ..
  | .humanTaskResolved .. => true
  | _ => false

namespace WorkflowProjectionV1

variable (current : WorkflowProjectionV1)

@[simps] def announced (state : WorkflowStateV1) (code : Option String) : WorkflowProjectionV1 :=
  { current with state, terminalCode := code }

@[simps] def topologyChanged (topology : WorkflowTopologyV1) : WorkflowProjectionV1 :=
  { current with spec := { current.spec with topology } }

@[simps] def budgetCharged (usage : WorkflowUsageV1) : WorkflowProjectionV1 :=
  { current with usage := current.usage.add usage }

@[simps] def graphPatched (spec : WorkflowSpecV1) : WorkflowProjectionV1 :=
  { current with
    revision := spec.revision
    spec
    graphMutations := current.graphMutations + 1
    nodes := patchNodes current.nodes spec }

@[simps] def taskAdmitted (node : WorkflowNodeSpecV1) (attempt : WorkflowAttemptProjectionV1) :
    WorkflowProjectionV1 :=
  { current with
    spec := { current.spec with nodes := current.spec.nodes ++ [node] }
    nodes := current.nodes ++ [admittedNode node attempt]
    attempts := current.attempts ++ [attempt] }

@[simps] def nodeChanged (change : NodeStateChangedV1) : WorkflowProjectionV1 :=
  { current with nodes := changeNode current.nodes change }

@[simps] def attemptCreated (attempt : WorkflowAttemptProjectionV1) : WorkflowProjectionV1 :=
  { current with
    attempts := current.attempts ++ [attempt]
    nodes := addAttempt current.nodes attempt.nodeId attempt.attemptId }

@[simps] def attemptChanged (change : AttemptStateChangedV1) : WorkflowProjectionV1 :=
  { current with attempts := changeAttempt current.attempts change }

/-- The projection with the sequence and the time of an event. -/
@[simps] def stamped (event : WorkflowEventV1) : WorkflowProjectionV1 :=
  { current with sequence := event.sequence, updatedAt := event.occurredAt }

end WorkflowProjectionV1

/-- What each kind of event requires of a projection, and what it makes of it. -/
inductive WorkflowEventEffect (current : WorkflowProjectionV1) :
    WorkflowEventDataV1 → WorkflowProjectionV1 → Prop
  | created {spec : WorkflowSpecV1} (first : current.sequence = 0)
      (same : spec.workflowId = current.workflowId) :
      WorkflowEventEffect current (.workflowCreated spec) current
  | announced {data : WorkflowEventDataV1} {state : WorkflowStateV1} {code : Option String}
      (announces : data.announces current = some (state, code))
      (legal : state ∈ workflowTransitions current.state) :
      WorkflowEventEffect current data (current.announced state code)
  | recorded {data : WorkflowEventDataV1} (only : data.isRecordOnly = true) :
      WorkflowEventEffect current data current
  | topologyChanged {topology : WorkflowTopologyV1} :
      WorkflowEventEffect current (.workflowTopologyChanged topology)
        (current.topologyChanged topology)
  | budgetCharged {usage : WorkflowUsageV1} :
      WorkflowEventEffect current (.budgetCharged usage) (current.budgetCharged usage)
  | graphPatched {spec : WorkflowSpecV1} (valid : validateWorkflowSpecV1 spec = .ok spec)
      (revision : spec.revision = current.revision + 1)
      (budget : (current.graphMutations : Int) < current.spec.maxGraphMutations) :
      WorkflowEventEffect current (.graphPatched spec) (current.graphPatched spec)
  | taskAdmitted {requestId requestDigest : String} {node : WorkflowNodeSpecV1}
      {attempt : WorkflowAttemptProjectionV1} (request : safeId requestId = true)
      (digest : isSha256 requestDigest = true)
      (newNode : ∀ other ∈ current.nodes, other.nodeId ≠ node.nodeId)
      (newAttempt : ∀ other ∈ current.attempts, other.attemptId ≠ attempt.attemptId)
      (owner : attempt.nodeId = node.nodeId) (ordinal : attempt.ordinal = 1)
      (valid : validateWorkflowSpecV1 { current.spec with nodes := current.spec.nodes ++ [node] } =
        .ok { current.spec with nodes := current.spec.nodes ++ [node] }) :
      WorkflowEventEffect current (.executionTaskAdmitted requestId requestDigest node attempt)
        (current.taskAdmitted node attempt)
  | nodeChanged {change : NodeStateChangedV1}
      (present : ∃ node ∈ current.nodes, node.nodeId = change.nodeId)
      (legal : ∀ node ∈ current.nodes, node.nodeId = change.nodeId →
        change.state ∈ nodeTransitions node.state) :
      WorkflowEventEffect current (.nodeStateChanged change) (current.nodeChanged change)
  | attemptCreated {attempt : WorkflowAttemptProjectionV1} {node : WorkflowNodeProjectionV1}
      (newAttempt : ∀ other ∈ current.attempts, other.attemptId ≠ attempt.attemptId)
      (present : findNode? current.nodes attempt.nodeId = some node)
      (ordinal : attempt.ordinal = node.attemptIds.length + 1) :
      WorkflowEventEffect current (.attemptCreated attempt) (current.attemptCreated attempt)
  | attemptChanged {change : AttemptStateChangedV1}
      (present : ∃ attempt ∈ current.attempts, attempt.attemptId = change.attemptId)
      (legal : ∀ attempt ∈ current.attempts, attempt.attemptId = change.attemptId →
        change.state ∈ attemptTransitions attempt.state) :
      WorkflowEventEffect current (.attemptStateChanged change) (current.attemptChanged change)

section Inversion

variable {current next : WorkflowProjectionV1} {data : WorkflowEventDataV1}

theorem findNode?_mem {nodes : List WorkflowNodeProjectionV1} {nodeId : String}
    {node : WorkflowNodeProjectionV1} (found : findNode? nodes nodeId = some node) :
    node ∈ nodes ∧ node.nodeId = nodeId :=
  ⟨List.mem_of_find?_eq_some found, by simpa using List.find?_some found⟩

theorem checkedMap_eq_ok {α : Type} {selected legal : α → Bool} {edit : α → α} {items : List α}
    {results : List α} :
    (items.mapM fun item =>
      if selected item = false then (pure item : Except WorkflowError α)
      else do ensure (legal item) .workflowTransitionInvalid; return edit item) = .ok results ↔
      (∀ item ∈ items, selected item = true → legal item = true) ∧
        results = items.map fun item => if selected item then edit item else item := by
  rw [mapM_eq_ok]
  induction items generalizing results with
  | nil => simp
  | cons item rest ih =>
    rw [List.forall₂_cons_left_iff]
    by_cases chosen : selected item = true
    · simp only [chosen, Bool.true_eq_false, if_false, bind_eq_ok, ensure_eq_ok, pure_eq_ok, ih]
      simp only [List.forall_mem_cons, chosen, List.map_cons, if_true, forall_true_left]
      constructor
      · rintro ⟨_, _, ⟨_, legal, rfl⟩, ⟨others, rfl⟩, rfl⟩
        exact ⟨⟨legal, others⟩, rfl⟩
      · rintro ⟨⟨legal, others⟩, rfl⟩
        exact ⟨_, _, ⟨(), legal, rfl⟩, ⟨others, rfl⟩, rfl⟩
    · simp only [Bool.not_eq_true] at chosen
      simp only [chosen, if_true, pure_eq_ok, ih]
      simp only [List.forall_mem_cons, chosen, List.map_cons, Bool.false_eq_true, if_false,
        false_implies, true_and]
      constructor
      · rintro ⟨_, _, rfl, ⟨others, rfl⟩, rfl⟩
        exact ⟨others, rfl⟩
      · rintro ⟨others, rfl⟩
        exact ⟨_, _, rfl, ⟨others, rfl⟩, rfl⟩

theorem updateNode_eq_ok {nodes updated : List WorkflowNodeProjectionV1}
    {change : NodeStateChangedV1} : updateNode nodes change = .ok updated ↔
      (∃ node ∈ nodes, node.nodeId = change.nodeId) ∧
        (∀ node ∈ nodes, node.nodeId = change.nodeId → change.state ∈ nodeTransitions node.state) ∧
        updated = changeNode nodes change := by
  have mapped := @checkedMap_eq_ok WorkflowNodeProjectionV1
    (fun node => decide (node.nodeId = change.nodeId))
    (fun node => decide (change.state ∈ nodeTransitions node.state))
    (fun node => node.change change) nodes
  simp only [decide_eq_false_iff_not, decide_eq_true_eq] at mapped
  simp only [updateNode, assertWorkflowNodeTransitionV1, ne_eq, bind_eq_ok, pure_eq_ok,
    ensure_eq_ok, List.any_eq_true, decide_eq_true_eq, mapped, changeNode]
  constructor
  · rintro ⟨_, ⟨legal, rfl⟩, _, present, rfl⟩
    exact ⟨present, legal, rfl⟩
  · rintro ⟨present, legal, rfl⟩
    exact ⟨_, ⟨legal, rfl⟩, (), present, rfl⟩

theorem updateAttempt_eq_ok {attempts updated : List WorkflowAttemptProjectionV1}
    {change : AttemptStateChangedV1} : updateAttempt attempts change = .ok updated ↔
      (∃ attempt ∈ attempts, attempt.attemptId = change.attemptId) ∧
        (∀ attempt ∈ attempts, attempt.attemptId = change.attemptId →
          change.state ∈ attemptTransitions attempt.state) ∧
        updated = changeAttempt attempts change := by
  have mapped := @checkedMap_eq_ok WorkflowAttemptProjectionV1
    (fun attempt => decide (attempt.attemptId = change.attemptId))
    (fun attempt => decide (change.state ∈ attemptTransitions attempt.state))
    (fun attempt => attempt.change change) attempts
  simp only [decide_eq_false_iff_not, decide_eq_true_eq] at mapped
  simp only [updateAttempt, ne_eq, bind_eq_ok, pure_eq_ok, ensure_eq_ok, List.any_eq_true,
    decide_eq_true_eq, mapped, changeAttempt]
  constructor
  · rintro ⟨_, ⟨legal, rfl⟩, _, present, rfl⟩
    exact ⟨present, legal, rfl⟩
  · rintro ⟨present, legal, rfl⟩
    exact ⟨_, ⟨legal, rfl⟩, (), present, rfl⟩

/-- **An event's data is accepted exactly when its effect is legal**, and the result is that
effect. -/
theorem applyWorkflowEventDataV1_iff :
    applyWorkflowEventDataV1 current data = .ok next ↔ WorkflowEventEffect current data next := by
  constructor
  · intro accepted
    cases data with
    | workflowCreated spec =>
      simp only [applyWorkflowEventDataV1, bind_eq_ok, ensure_eq_ok, pure_eq_ok,
        Bool.and_eq_true, beq_iff_eq] at accepted
      obtain ⟨_, ⟨first, same⟩, rfl⟩ := accepted
      exact .created first same
    | workflowStarted | workflowResumed | workflowWaiting | workflowPaused
    | workflowCancelling code | workflowTerminal state code =>
      simp only [applyWorkflowEventDataV1, assertWorkflowStateTransitionV1, bind_eq_ok,
        ensure_eq_ok, pure_eq_ok, decide_eq_true_eq] at accepted
      obtain ⟨_, legal, rfl⟩ := accepted
      exact .announced rfl legal
    | workflowTopologyChanged topology =>
      obtain rfl := pure_eq_ok.mp accepted
      exact .topologyChanged
    | budgetCharged usage =>
      obtain rfl := pure_eq_ok.mp accepted
      exact .budgetCharged
    | signalReceived | effectReceiptRecorded | effectReserved | effectReplayed
    | executionSnapshotBound | effectCompensated | timerFired | humanTaskResolved =>
      obtain rfl := pure_eq_ok.mp accepted
      exact .recorded rfl
    | graphPatched value =>
      simp only [applyWorkflowEventDataV1, bind_eq_ok, ensure_eq_ok, pure_eq_ok,
        Bool.and_eq_true, beq_iff_eq, decide_eq_true_eq] at accepted
      obtain ⟨spec, valid, _, ⟨revision, budget⟩, rfl⟩ := accepted
      obtain rfl := validateWorkflowSpecV1_returns valid
      exact .graphPatched valid revision budget
    | executionTaskAdmitted requestId requestDigest node attempt =>
      simp only [applyWorkflowEventDataV1, bind_eq_ok, ensure_eq_ok, pure_eq_ok,
        Bool.and_eq_true, beq_iff_eq, Bool.not_eq_true', List.any_eq_false,
        decide_eq_true_eq] at accepted
      obtain ⟨_, ⟨⟨⟨⟨⟨request, digest⟩, newNode⟩, newAttempt⟩, owner⟩, ordinal⟩, spec, valid,
        rfl⟩ := accepted
      obtain rfl := validateWorkflowSpecV1_returns valid
      exact .taskAdmitted request digest newNode newAttempt owner ordinal valid
    | nodeStateChanged change =>
      simp only [applyWorkflowEventDataV1, bind_eq_ok, pure_eq_ok, updateNode_eq_ok] at accepted
      obtain ⟨_, ⟨present, legal, rfl⟩, rfl⟩ := accepted
      exact .nodeChanged present legal
    | attemptCreated attempt =>
      simp only [applyWorkflowEventDataV1, bind_eq_ok, ensure_eq_ok, orError_eq_ok, pure_eq_ok,
        beq_iff_eq, Bool.not_eq_true', List.any_eq_false, decide_eq_true_eq] at accepted
      obtain ⟨_, newAttempt, node, present, _, ordinal, rfl⟩ := accepted
      rw [(findNode?_mem present).2]
      exact .attemptCreated newAttempt present ordinal
    | attemptStateChanged change =>
      simp only [applyWorkflowEventDataV1, bind_eq_ok, pure_eq_ok, updateAttempt_eq_ok] at accepted
      obtain ⟨_, ⟨present, legal, rfl⟩, rfl⟩ := accepted
      exact .attemptChanged present legal
  · intro effect
    cases effect with
    | created first same => simp [applyWorkflowEventDataV1, first, same]
    | @announced data state code announces legal =>
      cases data <;> simp only [WorkflowEventDataV1.announces, reduceCtorEq, Option.some.injEq,
        Prod.mk.injEq] at announces <;> obtain ⟨rfl, rfl⟩ := announces <;>
        simp [applyWorkflowEventDataV1, assertWorkflowStateTransitionV1, legal,
          WorkflowProjectionV1.announced]
    | recorded only =>
      cases data <;> simp [WorkflowEventDataV1.isRecordOnly] at only <;>
        simp [applyWorkflowEventDataV1]
    | topologyChanged => rfl
    | budgetCharged => rfl
    | @graphPatched spec valid revision budget =>
      simp only [applyWorkflowEventDataV1, bind_eq_ok, valid, Except.ok.injEq, ensure_eq_ok,
        pure_eq_ok, Bool.and_eq_true, beq_iff_eq, decide_eq_true_eq]
      exact ⟨spec, rfl, (), ⟨revision, budget⟩, rfl⟩
    | @taskAdmitted _ _ node attempt request digest newNode newAttempt owner ordinal valid =>
      simp only [applyWorkflowEventDataV1, bind_eq_ok, valid, Except.ok.injEq, ensure_eq_ok,
        pure_eq_ok, Bool.and_eq_true, beq_iff_eq, Bool.not_eq_true', List.any_eq_false,
        decide_eq_true_eq]
      exact ⟨(), ⟨⟨⟨⟨⟨request, digest⟩, newNode⟩, newAttempt⟩, owner⟩, ordinal⟩, _, rfl, rfl⟩
    | nodeChanged present legal =>
      simp only [applyWorkflowEventDataV1, bind_eq_ok, pure_eq_ok, updateNode_eq_ok]
      exact ⟨_, ⟨present, legal, rfl⟩, rfl⟩
    | @attemptCreated attempt node newAttempt present ordinal =>
      simp only [applyWorkflowEventDataV1, bind_eq_ok, ensure_eq_ok, orError_eq_ok, pure_eq_ok,
        beq_iff_eq, Bool.not_eq_true', List.any_eq_false, decide_eq_true_eq]
      refine ⟨(), newAttempt, node, present, (), ordinal, ?_⟩
      simp only [(findNode?_mem present).2]
      rfl
    | attemptChanged present legal =>
      simp only [applyWorkflowEventDataV1, bind_eq_ok, pure_eq_ok, updateAttempt_eq_ok]
      exact ⟨_, ⟨present, legal, rfl⟩, rfl⟩

/-- What the envelope of an event must say. -/
structure EnvelopeAccepted (current : WorkflowProjectionV1) (event : WorkflowEventV1) : Prop where
  eventId : safeId event.eventId = true
  workflowId : event.workflowId = current.workflowId
  runId : event.runId = current.runId
  sequence : event.sequence = current.sequence + 1
  occurredAt : event.occurredAt.valid = true

/-- **An event is accepted exactly when its envelope continues the projection and its effect
is legal.** -/
theorem applyWorkflowEventV1_iff {event : WorkflowEventV1} :
    applyWorkflowEventV1 current event = .ok next ↔
      EnvelopeAccepted current event ∧ ∃ content, WorkflowEventEffect current event.data content ∧
        next = content.stamped event := by
  simp only [applyWorkflowEventV1, bind_eq_ok, ensure_eq_ok, pure_eq_ok, Bool.and_eq_true,
    beq_iff_eq, applyWorkflowEventDataV1_iff]
  constructor
  · rintro ⟨_, ⟨⟨⟨⟨eventId, workflowId⟩, runId⟩, sequence⟩, occurredAt⟩, content, effect, rfl⟩
    exact ⟨⟨eventId, workflowId, runId, sequence, occurredAt⟩, content, effect, rfl⟩
  · rintro ⟨⟨eventId, workflowId, runId, sequence, occurredAt⟩, content, effect, rfl⟩
    exact ⟨(), ⟨⟨⟨⟨eventId, workflowId⟩, runId⟩, sequence⟩, occurredAt⟩, content, effect, rfl⟩

theorem WorkflowEventEffect.same_identity (effect : WorkflowEventEffect current data next) :
    next.workflowId = current.workflowId ∧ next.runId = current.runId ∧
      next.sessionId = current.sessionId := by
  cases effect <;> exact ⟨rfl, rfl, rfl⟩

end Inversion

/-! ## Histories -/

theorem initialWorkflowProjectionV1_eq_ok {spec : WorkflowSpecV1}
    {initial : WorkflowProjectionV1} (accepted : initialWorkflowProjectionV1 spec = .ok initial) :
    ValidSpec spec ∧ initial =
      { workflowId := spec.workflowId
        runId := spec.runId
        sessionId := spec.sessionId
        revision := spec.revision
        sequence := 0
        state := .created
        spec
        nodes := spec.nodes.map fun node => proposedNode node.nodeId
        attempts := []
        graphMutations := 0
        usage := ⟨0, 0, 0, 0, 0⟩
        updatedAt := spec.createdAt } := by
  simp only [initialWorkflowProjectionV1, bind_eq_ok, pure_eq_ok] at accepted
  obtain ⟨validated, valid, rfl⟩ := accepted
  obtain ⟨rfl, guarantees⟩ := validateWorkflowSpecV1_accepts valid
  exact ⟨guarantees, rfl⟩

variable {events : List WorkflowEventV1} {projection : WorkflowProjectionV1}

theorem reduceWorkflowEventsV1_iff : reduceWorkflowEventsV1 events = .ok projection ↔
      ∃ first rest spec initial, events = first :: rest ∧ first.data = .workflowCreated spec ∧
        initialWorkflowProjectionV1 spec = .ok initial ∧
        events.foldlM applyWorkflowEventV1 initial = .ok projection := by
  cases events with
  | nil => simp [reduceWorkflowEventsV1]
  | cons first rest =>
    simp only [reduceWorkflowEventsV1]
    cases data : first.data <;> simp_all

theorem reduceWorkflowEventsV1_append {more : List WorkflowEventV1} {final : WorkflowProjectionV1}
    (reduced : reduceWorkflowEventsV1 events = .ok projection) :
    reduceWorkflowEventsV1 (events ++ more) = .ok final ↔
      more.foldlM applyWorkflowEventV1 projection = .ok final := by
  obtain ⟨first, rest, spec, initial, rfl, created, start, run⟩ :=
    reduceWorkflowEventsV1_iff.mp reduced
  constructor
  · intro extended
    obtain ⟨_, _, spec', initial', split, created', start', run'⟩ :=
      reduceWorkflowEventsV1_iff.mp extended
    obtain ⟨rfl, rfl⟩ := List.cons.inj split
    obtain rfl : spec = spec' := by simpa [created] using created'
    obtain rfl : initial = initial' := by simpa [start] using start'
    obtain ⟨middle, front, back⟩ := foldlM_append_eq_ok.mp run'
    obtain rfl : projection = middle := by simpa [run] using front
    exact back
  · intro extended
    exact reduceWorkflowEventsV1_iff.mpr ⟨first, rest ++ more, spec, initial, rfl, created, start,
      foldlM_append_eq_ok.mpr ⟨projection, run, extended⟩⟩

theorem reduceWorkflowEventsV1_snoc {event : WorkflowEventV1}
    (reduced : reduceWorkflowEventsV1 (events ++ [event]) = .ok projection) :
    (∃ spec initial, events = [] ∧ event.data = .workflowCreated spec ∧
      initialWorkflowProjectionV1 spec = .ok initial ∧
      applyWorkflowEventV1 initial event = .ok projection) ∨
    ∃ current, reduceWorkflowEventsV1 events = .ok current ∧
      applyWorkflowEventV1 current event = .ok projection := by
  obtain ⟨first, rest, spec, initial, split, created, start, run⟩ :=
    reduceWorkflowEventsV1_iff.mp reduced
  obtain ⟨current, before, last⟩ := foldlM_append_eq_ok.mp run
  obtain ⟨final, step, done⟩ := foldlM_cons_eq_ok.mp last
  obtain rfl := foldlM_nil_eq_ok.mp done
  cases events with
  | nil =>
    obtain ⟨rfl, rfl⟩ := List.cons.inj split
    obtain rfl := foldlM_nil_eq_ok.mp before
    exact .inl ⟨spec, initial, rfl, created, start, step⟩
  | cons head tail =>
    obtain ⟨rfl, rfl⟩ := List.cons.inj split
    exact .inr ⟨current,
      reduceWorkflowEventsV1_iff.mpr ⟨head, tail, spec, initial, rfl, created, start, before⟩,
      step⟩

theorem foldlM_apply_envelopes {current next : WorkflowProjectionV1}
    (accepted : events.foldlM applyWorkflowEventV1 current = .ok next) :
    (next.workflowId = current.workflowId ∧ next.runId = current.runId ∧
      next.sessionId = current.sessionId) ∧
    next.sequence = current.sequence + events.length ∧
    events.map (·.sequence) = List.range' (current.sequence + 1) events.length ∧
    ∀ event ∈ events, event.workflowId = current.workflowId := by
  induction events generalizing current with
  | nil =>
    obtain rfl := foldlM_nil_eq_ok.mp accepted
    simp
  | cons event rest ih =>
    obtain ⟨middle, step, others⟩ := foldlM_cons_eq_ok.mp accepted
    obtain ⟨envelope, content, effect, rfl⟩ := applyWorkflowEventV1_iff.mp step
    obtain ⟨workflowId, runId, sessionId⟩ := effect.same_identity
    obtain ⟨identity, sequence, sequences, owners⟩ := ih others
    simp only [WorkflowProjectionV1.stamped_workflowId, WorkflowProjectionV1.stamped_runId,
      WorkflowProjectionV1.stamped_sessionId, WorkflowProjectionV1.stamped_sequence,
      envelope.sequence, workflowId, runId, sessionId] at identity sequence sequences owners
    refine ⟨identity, ?_, ?_, List.forall_mem_cons.mpr ⟨envelope.workflowId, owners⟩⟩
    · rw [sequence, List.length_cons]
      omega
    · rw [List.map_cons, sequences, envelope.sequence, List.length_cons, List.range'_succ]

/-- An accepted history is numbered from one without gap, and the projection counts it. -/
theorem reduceWorkflowEventsV1_sequences
    (reduced : reduceWorkflowEventsV1 events = .ok projection) :
    events.map (·.sequence) = List.range' 1 events.length ∧
      projection.sequence = events.length := by
  obtain ⟨_, _, _, initial, _, _, start, run⟩ := reduceWorkflowEventsV1_iff.mp reduced
  obtain ⟨_, rfl⟩ := initialWorkflowProjectionV1_eq_ok start
  obtain ⟨_, sequence, sequences, _⟩ := foldlM_apply_envelopes run
  exact ⟨by simpa using sequences, by simpa using sequence⟩

end Praxis.Workflow
