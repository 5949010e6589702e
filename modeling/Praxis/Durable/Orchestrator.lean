import Praxis.Durable.Authority
import Praxis.Durable.Readiness

/-!
# The orchestrator

An operation of the orchestrator reads a projection, and sometimes a list of tasks, decides
on them, and applies at most one transaction. Each is a function from what it read to its
decision; other operations may come between its reads and its transaction. The admission of
new nodes is in `Praxis.Durable.Admission`.
-/

namespace Praxis.Workflow

set_option autoImplicit false

open Praxis.Foundations

/-- What an operation does once it has read. -/
inductive Decision where
  /-- It answers with the projection it read. -/
  | answer (projection : WorkflowProjectionV1)
  /-- It applies a transaction. -/
  | transact (input : WorkflowTransactionV1)

/-- The decision carried out on the store. -/
def Decision.perform (store : AuthorityStore) :
    Decision → Except WorkflowError (WorkflowProjectionV1 × AuthorityStore)
  | .answer projection => return (projection, store)
  | .transact input => Workflow.transact store input

/-- The last instant that is written with a year of four digits. -/
def maxCanonicalInstantMs : Int := 253_402_300_799_999

def canonicalDeadlineAfter (start : Timestamp) (delayMs : Int) :
    Except WorkflowError Timestamp := do
  let startedAt ← orError .rangeError start.parsed
  ensure (nonNegativeInteger delayMs) .rangeError
  orError .rangeError (Timestamp.ofMs? (min maxCanonicalInstantMs (startedAt + delayMs)))

/-! ## Workers -/

def markRunning (projection : WorkflowProjectionV1) (claim : WorkflowTaskClaimV1)
    (at_ : Timestamp) : Decision :=
  if ((findNode? projection.nodes claim.task.nodeId).any fun node => node.state == .running) &&
      (findAttempt? projection.attempts claim.task.attemptId).any fun attempt =>
        attempt.state == .running then
    .answer projection
  else .transact
    { transactionId := "running-" ++ claim.task.taskId ++ "-" ++ claim.lease.token
      workflowId := projection.workflowId
      expectedSequence := projection.sequence
      occurredAt := at_
      events :=
        [.nodeStateChanged { nodeId := claim.task.nodeId, state := .running },
          .attemptStateChanged
            { attemptId := claim.task.attemptId
              state := .running
              leaseToken := some claim.lease.token
              workerId := some claim.lease.workerId
              changedAt := at_ }] }

structure BudgetUsage where
  turns : Int
  toolCalls : Int
  inputTokens : Option Int := none
  outputTokens : Option Int := none

/-- What a worker reports about a claimed task. A flag that is absent is false. -/
structure WorkflowOutcomeV1 where
  ok : Bool
  cancelled : Bool := false
  errorCode : Option String := none
  retryable : Bool := false
  resultRef : Option WorkflowArtifactRefV1 := none
  receiptRef : Option WorkflowArtifactRefV1 := none
  effectReserved : Bool := false
  effectReplayed : Bool := false
  effectKnownFailure : Bool := false
  usage : Option BudgetUsage := none

def workflowRetryCode (code : Option String) : Option String :=
  if code = some "CHILD_CREDENTIAL_RATE_LIMITED" then some "PROVIDER_RATE_LIMITED"
  else if code = some "CHILD_CREDENTIAL_PROVIDER_UNAVAILABLE" then some "PROVIDER_UNAVAILABLE"
  else code

/-- The states in which a claimed node has its outcome. -/
def settledNodes : List WorkflowNodeStateV1 :=
  [.succeeded, .failed, .cancelled, .manualIntervention]

/-- The three ways in which a completion ends an attempt. -/
inductive CompletionV1 where
  | succeeded | cancelled | failed
deriving DecidableEq

namespace CompletionV1

def attemptState : CompletionV1 → WorkflowAttemptStateV1
  | .succeeded => .succeeded
  | .cancelled => .cancelled
  | .failed => .failed

def nodeState : CompletionV1 → WorkflowNodeStateV1
  | .succeeded => .succeeded
  | .cancelled => .cancelled
  | .failed => .failed

def text : CompletionV1 → String
  | .succeeded => "succeeded"
  | .cancelled => "cancelled"
  | .failed => "failed"

end CompletionV1

section Completion

variable (claim : WorkflowTaskClaimV1) (outcome : WorkflowOutcomeV1)

/-- The task performs an external effect, which needs a receipt. -/
def externalEffect : Bool :=
  decide (claim.task.effect.effectClass ∈
    [WorkflowEffectClassV1.externalIdempotent, .externalNonIdempotent])

def receiptMissing : Bool := outcome.ok && externalEffect claim && outcome.receiptRef.isNone

def nodeSucceeded : Bool := outcome.ok && !receiptMissing claim outcome

def completion : CompletionV1 :=
  if nodeSucceeded claim outcome then .succeeded
  else if outcome.cancelled then .cancelled
  else .failed

/-- Results of agent tasks other than the root's are reported to the root. -/
def reportsToRoot : Bool :=
  claim.task.nodeId != "root" && (claim.task.kind == .agent || claim.task.kind == .subworkflow)

def completionErrorCode : Option String :=
  if nodeSucceeded claim outcome then none
  else outcome.errorCode.or
    (if receiptMissing claim outcome then some "WORKFLOW_EFFECT_RECEIPT_REQUIRED" else none)

/-- The failed attempt after which a completion schedules another one. -/
def retriedAttempt (projection : WorkflowProjectionV1) : Option WorkflowAttemptProjectionV1 :=
  (findAttempt? projection.attempts claim.task.attemptId).filter fun attempt =>
    completion claim outcome == .failed && outcome.retryable &&
      ((workflowRetryCode (completionErrorCode claim outcome)).any
        fun code => claim.task.retry.retryableCodes.contains code) &&
      decide ((attempt.ordinal : Int) < claim.task.retry.maxAttempts)

/-- A receipt of an effect that was performed for this outcome. -/
def newReceipt : Option WorkflowArtifactRefV1 :=
  if externalEffect claim && !outcome.effectReplayed then outcome.receiptRef else none

/-- The events that charge the usage and record the receipt. -/
def accountingEvents : List WorkflowEventDataV1 :=
  (outcome.usage.toList.map fun usage => .budgetCharged
    { turns := usage.turns
      toolCalls := usage.toolCalls
      inputTokens := usage.inputTokens.getD 0
      outputTokens := usage.outputTokens.getD 0
      agentTasks := if claim.task.nodeId = "root" then 0 else 1 }) ++
  (newReceipt claim outcome).toList.map fun _ =>
    .effectReceiptRecorded ("receipt-" ++ claim.task.attemptId) claim.task.nodeId
      claim.task.attemptId

/-- The events that end the attempt and its node. -/
def outcomeEvents (at_ : Timestamp) : List WorkflowEventDataV1 :=
  [.attemptStateChanged
      { attemptId := claim.task.attemptId
        state := (completion claim outcome).attemptState
        changedAt := at_
        errorCode := completionErrorCode claim outcome
        resultRef := outcome.resultRef
        receiptRef := outcome.receiptRef },
    .nodeStateChanged
      { nodeId := claim.task.nodeId
        state := (completion claim outcome).nodeState
        errorCode := completionErrorCode claim outcome
        resultRef := outcome.resultRef }]

/-- The events that schedule the node again under a new attempt. -/
def rescheduleEvents (nodeId attemptId : String) (ordinal : Nat) : List WorkflowEventDataV1 :=
  [.nodeStateChanged { nodeId, state := .retryWait },
    .attemptCreated (scheduledAttempt attemptId nodeId ordinal),
    .nodeStateChanged { nodeId, state := .scheduled }]

def rootFailureEvents (retried : Bool) : List WorkflowEventDataV1 :=
  if claim.task.nodeId = "root" ∧ nodeSucceeded claim outcome = false ∧ retried = false then
    [.workflowTerminal (if completion claim outcome = .cancelled then .cancelled else .failed)
      (completionErrorCode claim outcome)]
  else []

/-- What the completion leaves in the reservation of its effect. -/
def reservationOutcome : Option EffectReservationTerminalV1 :=
  if outcome.effectReserved then
    claim.task.effect.idempotencyKey.map fun idempotencyKey =>
      { idempotencyKey
        attemptId := claim.task.attemptId
        state :=
          if nodeSucceeded claim outcome then .committed
          else if outcome.effectKnownFailure then .released
          else .unknown
        receiptRef := outcome.receiptRef }
  else none

/-- The message by which a result reaches the root. -/
def resultMessage (projection : WorkflowProjectionV1) (at_ : Timestamp) :
    WorkflowMessageInputV1 where
  messageId := "result-" ++ claim.task.attemptId
  workflowId := projection.workflowId
  sender := { kind := .node, id := claim.task.nodeId, attemptId := some claim.task.attemptId }
  recipient := { kind := .node, id := "root" }
  type := if nodeSucceeded claim outcome then .result else .error
  payload :=
    [("nodeId", Json.str claim.task.nodeId), ("attemptId", .str claim.task.attemptId),
      ("state", .str (completion claim outcome).text)] ++
      Json.field "errorCode" ((completionErrorCode claim outcome).map .str) ++
      Json.field "resultRef" (outcome.resultRef.map artifactRefJson)
  artifactRefs := outcome.resultRef.map fun ref => [ref]
  causationId := some claim.task.taskId
  correlationId := some projection.runId
  createdAt := at_

def completionReceipt (workflowId : String) (at_ : Timestamp)
    (artifactRef : WorkflowArtifactRefV1) : WorkflowEffectReceiptV1 where
  receiptId := "receipt-" ++ claim.task.attemptId
  workflowId := workflowId
  nodeId := claim.task.nodeId
  attemptId := claim.task.attemptId
  effectClass := claim.task.effect.effectClass
  idempotencyKey := claim.task.effect.idempotencyKey
  state := .committed
  artifactRef := artifactRef
  createdAt := at_

/-- The transaction of a completion; the retry task is there when a retry is scheduled. -/
def completionTransaction (projection : WorkflowProjectionV1) (at_ : Timestamp)
    (retry : Option (WorkflowAttemptProjectionV1 × WorkflowTaskV1)) : WorkflowTransactionV1 where
  transactionId := "terminal-" ++ claim.task.taskId ++ "-" ++ claim.lease.token
  workflowId := projection.workflowId
  expectedSequence := projection.sequence
  occurredAt := at_
  events := accountingEvents claim outcome ++ outcomeEvents claim outcome at_ ++
    (retry.toList.flatMap fun entry =>
      rescheduleEvents claim.task.nodeId entry.2.attemptId (entry.1.ordinal + 1)) ++
    rootFailureEvents claim outcome retry.isSome
  enqueueTasks := retry.toList.map (·.2)
  effectReceipts := (newReceipt claim outcome).toList.map fun artifactRef =>
    completionReceipt claim projection.workflowId at_ artifactRef
  acknowledgeTask := some
    { taskId := claim.task.taskId
      leaseToken := claim.lease.token
      state := if nodeSucceeded claim outcome then .completed else .failed }
  effectReservationTerminal := reservationOutcome claim outcome
  messages :=
    if reportsToRoot claim && retry.isNone then [resultMessage claim outcome projection at_]
    else []

/-- One round of a completion, up to its transaction. -/
def completeOnce (projection : WorkflowProjectionV1) (at_ : Timestamp)
    (attemptUuid taskUuid : Uuid) : Except WorkflowError Decision := do
  if isTerminalWorkflow projection.state then return .answer projection
  else if (findNode? projection.nodes claim.task.nodeId).any fun node =>
      node.state ∈ settledNodes then return .answer projection
  else match retriedAttempt claim outcome projection with
    | none => return .transact (completionTransaction claim outcome projection at_ none)
    | some attempt =>
      let readyAt ← orError .rangeError (retryReadyAt claim.task.retry attempt.ordinal at_)
      let task := retryTaskOf claim.task ("task-" ++ taskUuid.text)
        ("attempt-" ++ attemptUuid.text) readyAt at_
      return .transact (completionTransaction claim outcome projection at_ (some (attempt, task)))

end Completion

def markUnknown (projection : WorkflowProjectionV1) (claim : WorkflowTaskClaimV1)
    (errorCode : String) (effectReserved : Bool) (at_ : Timestamp) : Decision :=
  if (findNode? projection.nodes claim.task.nodeId).any fun node => node.state == .unknown then
    .answer projection
  else .transact
    { transactionId := "unknown-" ++ claim.task.taskId ++ "-" ++ claim.lease.token
      workflowId := projection.workflowId
      expectedSequence := projection.sequence
      occurredAt := at_
      events := settleEvents claim.task .unknown .unknown errorCode at_
      acknowledgeTask := some
        { taskId := claim.task.taskId, leaseToken := claim.lease.token, state := .unknown }
      effectReservationTerminal :=
        if effectReserved then
          claim.task.effect.idempotencyKey.map fun idempotencyKey =>
            { idempotencyKey, attemptId := claim.task.attemptId, state := .unknown }
        else none }

def cancelClaim (projection : WorkflowProjectionV1) (claim : WorkflowTaskClaimV1)
    (errorCode : String) (at_ : Timestamp) : Decision :=
  if ((findNode? projection.nodes claim.task.nodeId).all fun node => node.state ∈ settledNodes) ||
      (findAttempt? projection.attempts claim.task.attemptId).isNone then
    .answer projection
  else .transact
    { transactionId := "cancel-claim-" ++ claim.task.taskId ++ "-" ++ claim.lease.token
      workflowId := projection.workflowId
      expectedSequence := projection.sequence
      occurredAt := at_
      events := settleEvents claim.task .cancelled .cancelled errorCode at_
      acknowledgeTask := some
        { taskId := claim.task.taskId, leaseToken := claim.lease.token, state := .cancelled } }

/-! ## The scheduler -/

/-- The admitted nodes among the targets that are ready, skipped or blocked now. -/
def frontier (current : WorkflowProjectionV1) (nodeIds : List String)
    (readiness : WorkflowNodeReadinessV1) : List WorkflowNodeProjectionV1 :=
  current.nodes.filter fun node =>
    node.nodeId ∈ nodeIds ∧ node.state = .admitted ∧
      workflowNodeReadinessV1 current node.nodeId = readiness

/-- The events that retire an admitted node and the attempt it has. -/
def pruneEvents (state : WorkflowNodeStateV1) (code : String) (at_ : Timestamp)
    (node : WorkflowNodeProjectionV1) : List WorkflowEventDataV1 :=
  (node.attemptIds.getLast?.toList.map fun attemptId => .attemptStateChanged
    { attemptId, state := .cancelled, changedAt := at_, errorCode := some code }) ++
    [.nodeStateChanged { nodeId := node.nodeId, state, errorCode := some code }]

/-- The tasks are read only when a node is pruned. -/
def scheduleReadyNodes (current : WorkflowProjectionV1) (listed : AuthorityStore)
    (workflowId : String) (nodeIds : List String) (at_ : Timestamp) :
    Except WorkflowError Decision := do
  let ready := frontier current nodeIds .ready
  let skipped := frontier current nodeIds .skipped
  let blocked := frontier current nodeIds .blocked
  if isTerminalWorkflow current.state then return .answer current
  else if ready = [] ∧ skipped = [] ∧ blocked = [] then return .answer current
  else do
    let pruned := (skipped ++ blocked).map (·.nodeId)
    let tasks ← if pruned = [] then pure []
      else listTasks listed workflowId .ready maxSafeInteger.toNat
    return .transact
      { transactionId := "schedule-ready-" ++ workflowId ++ "-" ++ toString current.sequence
        workflowId
        expectedSequence := current.sequence
        occurredAt := at_
        events :=
          (ready.map fun node => .nodeStateChanged { nodeId := node.nodeId, state := .scheduled }) ++
            skipped.flatMap (pruneEvents .skipped "WORKFLOW_BRANCH_NOT_SELECTED" at_) ++
            blocked.flatMap (pruneEvents .failed "WORKFLOW_DEPENDENCY_UNSATISFIED" at_)
        cancelReadyTasks := (tasks.filter fun task => task.nodeId ∈ pruned).map (·.taskId) }

/-- The events by which a join that need not wait is resolved. -/
def joinEvents (nodeId : String) : WorkflowNodeReadinessV1 → List WorkflowEventDataV1
  | .ready =>
    [.nodeStateChanged { nodeId, state := .scheduled },
      .nodeStateChanged { nodeId, state := .succeeded }]
  | .skipped =>
    [.nodeStateChanged { nodeId, state := .skipped, errorCode := some "WORKFLOW_JOIN_EMPTY" }]
  | .blocked | .waiting =>
    [.nodeStateChanged
      { nodeId, state := .failed, errorCode := some "WORKFLOW_QUORUM_UNREACHABLE" }]

def resolveJoinNode (current : WorkflowProjectionV1) (workflowId nodeId : String)
    (at_ : Timestamp) : Except WorkflowError Decision := do
  let node ← orError .workflowJoinInvalid (findNode? current.nodes nodeId)
  let spec ← orError .workflowJoinInvalid
    (current.spec.nodes.find? fun candidate => candidate.nodeId = nodeId)
  ensure spec.join.isSome .workflowJoinInvalid
  if node.state ∈ [WorkflowNodeStateV1.succeeded, .failed, .skipped] then return .answer current
  else if workflowNodeReadinessV1 current nodeId = .waiting then return .answer current
  else do
    return .transact
      { transactionId := "resolve-join-" ++ nodeId ++ "-" ++ toString current.sequence
        workflowId
        expectedSequence := current.sequence
        occurredAt := at_
        events := joinEvents nodeId (workflowNodeReadinessV1 current nodeId) }

/-- Search along edges for a join that has succeeded. Every round takes a node from the
queue, and an edge is followed only when its source is first visited, so one round for each
edge and each start is enough. -/
def searchSatisfiedJoin (projection : WorkflowProjectionV1) :
    Nat → List String → List String → Bool
  | 0, _, _ => false
  | _, [], _ => false
  | fuel + 1, candidate :: pending, visited =>
    if candidate ∈ visited then searchSatisfiedJoin projection fuel pending visited
    else if ((projection.spec.nodes.find? fun node => node.nodeId = candidate).any
          fun node => node.join.isSome) &&
        (findNode? projection.nodes candidate).any fun node => node.state == .succeeded then
      true
    else searchSatisfiedJoin projection fuel
      (pending ++ outgoingTargets projection.spec.edges candidate) (candidate :: visited)

def reachesSatisfiedJoin (projection : WorkflowProjectionV1) (nodeId : String) : Bool :=
  let starts := outgoingTargets projection.spec.edges nodeId
  searchSatisfiedJoin projection (starts.length + projection.spec.edges.length) starts []

/-- A node whose state fails an all-required workflow. -/
def failsWorkflow (projection : WorkflowProjectionV1) (node : WorkflowNodeProjectionV1) : Bool :=
  let spec := projection.spec.nodes.find? fun spec => spec.nodeId = node.nodeId
  let lost := node.state == .unknown || node.state == .manualIntervention
  if spec.any fun found => found.required == some false then false
  else if node.state = .succeeded ∨ node.state = .skipped then false
  else if spec.any fun found => found.kind == .toolActivity then lost
  -- A join that succeeded excuses the failed and cancelled branches that lead to it.
  else lost || !reachesSatisfiedJoin projection node.nodeId

def workflowSettlement (projection : WorkflowProjectionV1) :
    Option (WorkflowTerminalStateV1 × Option String) :=
  match findNode? projection.nodes "root" with
  | none => some (.failed, some "WORKFLOW_ROOT_MISSING")
  | some root =>
    let descendants := projection.nodes.filter fun node => node.nodeId ≠ "root"
    if root.state ∈ [WorkflowNodeStateV1.failed, .cancelled, .unknown, .manualIntervention] then
      some (.failed, some (root.errorCode.getD "WORKFLOW_ROOT_FAILED"))
    else if root.state ≠ .succeeded ∨ projection.spec.completion ≠ .allRequired then none
    else if descendants.any fun node => node.state ∉ terminalNodes then none
    else match descendants.find? (failsWorkflow projection) with
      | none => some (.completed, none)
      | some failed => some (.failed, some (failed.errorCode.getD "WORKFLOW_DESCENDANT_FAILED"))

/-- The last step of a reconciliation. -/
def settleWorkflow (current : WorkflowProjectionV1) (workflowId : String) (at_ : Timestamp) :
    Decision :=
  match workflowSettlement current with
  | none => .answer current
  | some (state, code) => .transact
      { transactionId := "settle-" ++ workflowId ++ "-" ++ toString current.sequence
        workflowId
        expectedSequence := current.sequence
        occurredAt := at_
        events := [.workflowTerminal state code] }

/-! ## Operators -/

def cancellableNodes : List WorkflowNodeStateV1 := [.proposed, .admitted, .scheduled, .retryWait]

def cancelNodes (current : WorkflowProjectionV1) (listed : AuthorityStore) (workflowId : String)
    (nodeIds : List String) (code : String) (at_ : Timestamp) : Except WorkflowError Decision := do
  let nodes := current.nodes.filter fun node =>
    node.nodeId ∈ nodeIds ∧ node.state ∈ cancellableNodes
  if nodes = [] then return .answer current
  else do
    let readyTasks ← listTasks listed workflowId .ready 10_000
    return .transact
      { transactionId := "cancel-nodes-" ++ workflowId ++ "-" ++ toString current.sequence
        workflowId
        expectedSequence := current.sequence
        occurredAt := at_
        events := nodes.map fun node => .nodeStateChanged
          { nodeId := node.nodeId, state := .cancelled, errorCode := some code }
        cancelReadyTasks := (readyTasks.filter fun task =>
          nodes.any fun node => node.nodeId = task.nodeId).map (·.taskId) }

def operatorTransaction (name : String) (current : WorkflowProjectionV1) (workflowId : String)
    (at_ : Timestamp) (events : List WorkflowEventDataV1) : Decision :=
  .transact
    { transactionId := name ++ "-" ++ workflowId ++ "-" ++ toString current.sequence
      workflowId
      expectedSequence := current.sequence
      occurredAt := at_
      events }

def pause (current : WorkflowProjectionV1) (workflowId : String) (at_ : Timestamp) :
    Except WorkflowError Decision := do
  ensure (current.state == .running || current.state == .waiting) .workflowPauseInvalidState
  return operatorTransaction "pause" current workflowId at_ [.workflowPaused]

def resume (current : WorkflowProjectionV1) (workflowId : String) (at_ : Timestamp) :
    Except WorkflowError Decision := do
  ensure (current.state == .paused || current.state == .waiting) .workflowResumeInvalidState
  return operatorTransaction "resume" current workflowId at_ [.workflowResumed]

/-- Node states in which `cancel` cancels. -/
def openNodes : List WorkflowNodeStateV1 :=
  [.proposed, .admitted, .scheduled, .leased, .running, .waiting, .retryWait]

def cancel (current : WorkflowProjectionV1) (workflowId code : String) (at_ : Timestamp) :
    Decision :=
  if isTerminalWorkflow current.state then .answer current
  else operatorTransaction "cancel" current workflowId at_
    (.workflowCancelling code ::
      ((current.nodes.filter fun node => node.state ∈ openNodes).map fun node =>
        .nodeStateChanged { nodeId := node.nodeId, state := .cancelled, errorCode := some code }) ++
      [.workflowTerminal .cancelled (some code)])

def terminate (current : WorkflowProjectionV1) (workflowId code : String) (at_ : Timestamp) :
    Decision :=
  if isTerminalWorkflow current.state then .answer current
  else operatorTransaction "terminate" current workflowId at_
    [.workflowTerminal .terminated (some code)]

end Praxis.Workflow
