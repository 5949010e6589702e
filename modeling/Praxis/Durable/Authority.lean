import Praxis.Durable.AuthorityStore

/-!
# Operations of the authority

Every operation of the authority runs as one transaction on the store: it answers with a
result and the next store, or it rejects and the store stays as it was. Operations run one
after the other, as the writer queue of the authority runs them. Random ids and clock
readings are arguments.
-/

namespace Praxis.Workflow

set_option autoImplicit false

open Praxis.Foundations

/-! ## Workflows and transactions -/

/-- What a transaction writes once it is known to be new. -/
def transactFresh [Collation] (store : AuthorityStore) (input : WorkflowTransactionV1) :
    Except WorkflowError (WorkflowProjectionV1 × AuthorityStore) := do
  let current ← store.journal.loadProjection input.workflowId
  ensure ((current.sequence : Int) == input.expectedSequence) .workflowSequenceConflict
  let (projection, journal) ← store.journal.applyEvents current input.transactionId input.events
    input.occurredAt
  let tasks ← input.enqueueTasks.foldlM (insertTask journal) store.tasks
  let outbox ← input.outbox.foldlM insertOutbox store.outbox
  let timers ← input.timers.foldlM insertTimer store.timers
  let humanTasks ← input.humanTasks.foldlM insertHumanTask store.humanTasks
  let (effectReceipts, effectRequests) ← input.effectReceipts.foldlM insertEffectReceipt
    (store.effectReceipts, store.effectRequests)
  let messages ← input.messages.foldlM (fun messages message =>
    return (← insertWorkflowMessage journal messages message).2) store.messages
  let effectReservations ← input.effectReservationTerminal.toList.foldlM
    (settleReservation input.workflowId input.occurredAt) store.effectReservations
  let acknowledged ← input.acknowledgeTask.toList.foldlM
    (fun tasks ack => acknowledgeTask tasks ack input.occurredAt) tasks
  let retired ← input.cancelReadyTasks.foldlM
    (cancelReadyTask input.workflowId input.occurredAt) acknowledged
  let recorded ← (journal.saveProjection projection).recordTransaction input.transactionId projection
  return (projection, { store with
    journal := recorded
    tasks := retired
    outbox, timers, humanTasks, effectReceipts, effectRequests, messages, effectReservations })

/-- A transaction under an id that was applied before answers what it answered then. -/
def transact [Collation] (store : AuthorityStore) (input : WorkflowTransactionV1) :
    Except WorkflowError (WorkflowProjectionV1 × AuthorityStore) := do
  ensure (authoritySafeId input.transactionId && authoritySafeId input.workflowId &&
    nonNegativeInteger input.expectedSequence && input.occurredAt.valid)
    .workflowTransactionInvalid
  match store.journal.transactionProjection input.transactionId with
  | some duplicate => return (duplicate, store)
  | none => transactFresh store input

def createFresh (store : AuthorityStore) (spec : WorkflowSpecV1) (transactionId : String)
    (bootstrap : WorkflowBootstrapV1) :
    Except WorkflowError (WorkflowProjectionV1 × AuthorityStore) := do
  ensure (!store.journal.workflows.contains spec.workflowId) .workflowAlreadyExists
  let initial ← initialWorkflowProjectionV1 spec
  let events := envelopeEvents spec transactionId spec.createdAt initial.sequence
    (.workflowCreated spec :: .workflowStarted :: bootstrap.events)
  let projection ← events.foldlM applyWorkflowEventV1 initial
  let stored ← store.journal.insertWorkflow spec projection
  let journal ← stored.insertEvents events
  let tasks ← bootstrap.tasks.foldlM (insertTask journal) store.tasks
  let outbox ← bootstrap.outbox.foldlM insertOutbox store.outbox
  let timers ← bootstrap.timers.foldlM insertTimer store.timers
  let humanTasks ← bootstrap.humanTasks.foldlM insertHumanTask store.humanTasks
  let (effectReceipts, effectRequests) ← bootstrap.effectReceipts.foldlM insertEffectReceipt
    (store.effectReceipts, store.effectRequests)
  let recorded ← journal.recordTransaction transactionId projection
  return (projection, { store with
    journal := recorded
    tasks, outbox, timers, humanTasks, effectReceipts, effectRequests })

def create (store : AuthorityStore) (specValue : WorkflowSpecV1) (transactionId : String)
    (bootstrap : WorkflowBootstrapV1) :
    Except WorkflowError (WorkflowProjectionV1 × AuthorityStore) := do
  let spec ← validateWorkflowSpecV1 specValue
  match store.journal.transactionProjection transactionId with
  | some duplicate => return (duplicate, store)
  | none => createFresh store spec transactionId bootstrap

def appendEvents (store : AuthorityStore) (workflowId transactionId : String) (at_ : Timestamp)
    (data : List WorkflowEventDataV1) :
    Except WorkflowError (WorkflowProjectionV1 × AuthorityStore) := do
  let (projection, journal) ←
    store.journal.appendInternalEvents workflowId transactionId at_ data
  return (projection, { store with journal })

/-! ## Requested tasks -/

def checkTaskRequest (request : ReviewPlanExecutionRequestV1) (taskSpec : WorkflowTaskSpecV1) :
    Except WorkflowError Unit := do
  ensure request.binding.isValid .planExecutionBindingInvalid
  ensure (safeId request.workflowId && isSha256 request.inputDigest &&
    decide (-maxSafeInteger ≤ taskSpec.priority ∧ taskSpec.priority ≤ maxSafeInteger) &&
    taskSpec.readyAt.valid && taskSpec.deadlineAt.valid && taskSpec.conflictKeys.all safeId)
    .workflowTaskRequestInvalid

def requestedTask (projection : WorkflowProjectionV1) (request : ReviewPlanExecutionRequestV1)
    (taskSpec : WorkflowTaskSpecV1) (taskId attemptId : String) : WorkflowTaskV1 where
  taskId := taskId
  workflowId := projection.workflowId
  runId := projection.runId
  nodeId := taskSpec.node.nodeId
  attemptId := attemptId
  kind := taskSpec.kind
  profileRef := taskSpec.profileRef
  state := .ready
  priority := taskSpec.priority
  readyAt := taskSpec.readyAt
  deadlineAt := taskSpec.deadlineAt
  conflictKeys := taskSpec.conflictKeys
  effect := taskSpec.node.effect
  retry := taskSpec.node.retry
  timeout := taskSpec.node.timeout
  createdAt := taskSpec.readyAt
  updatedAt := taskSpec.readyAt
  executionBinding := some request.binding

/-- A new attempt that waits in the queue. -/
def scheduledAttempt (attemptId nodeId : String) (ordinal : Nat) : WorkflowAttemptProjectionV1 where
  attemptId := attemptId
  nodeId := nodeId
  ordinal := ordinal
  state := .scheduled

def taskReadyMessage (workflowId taskId : String) (at_ : Timestamp) :
    WorkflowOutboxMessageV1 where
  messageId := "outbox-" ++ taskId
  workflowId := workflowId
  topic := "workflow.task.ready"
  key := taskId
  payload := .obj [("taskId", Json.str taskId)]
  availableAt := at_

def admitFreshTask (store : AuthorityStore) (request : ReviewPlanExecutionRequestV1)
    (taskSpec : WorkflowTaskSpecV1) (requestDigest taskId attemptId : String) :
    Except WorkflowError ((WorkflowTaskV1 × Bool) × AuthorityStore) := do
  let current ← store.journal.loadProjection request.workflowId
  ensure (current.sessionId == request.binding.sessionId) .workflowTaskRequestConflict
  let at_ := taskSpec.readyAt
  let task := requestedTask current request taskSpec taskId attemptId
  let transactionId := "execution-admit-" ++ request.binding.requestId
  let (projection, journal) ← store.journal.applyEvents current transactionId
    [.executionTaskAdmitted request.binding.requestId requestDigest taskSpec.node
      (scheduledAttempt attemptId taskSpec.node.nodeId 1)] at_
  let tasks ← insertTask journal store.tasks task
  let outbox ← insertOutbox store.outbox (taskReadyMessage projection.workflowId taskId at_)
  ensure (!store.taskRequests.values.any fun row => row.taskId = taskId) .workflowPersistenceFailed
  let taskRequests ← orError .workflowPersistenceFailed
    (store.taskRequests.insert (projection.workflowId, request.binding.requestId)
      { requestDigest, taskId })
  let recorded ← (journal.saveProjection projection).recordTransaction transactionId projection
  return ((task, false), { store with journal := recorded, tasks, outbox, taskRequests })

/-- The digest of the request is an argument, since the hash function is not modelled. -/
def admitTaskForRequest (store : AuthorityStore) (request : ReviewPlanExecutionRequestV1)
    (taskSpec : WorkflowTaskSpecV1) (requestDigest : String) (taskUuid attemptUuid : Uuid) :
    Except WorkflowError ((WorkflowTaskV1 × Bool) × AuthorityStore) := do
  checkTaskRequest request taskSpec
  match store.taskRequests.get? (request.workflowId, request.binding.requestId) with
  | some prior =>
    ensure (prior.requestDigest == requestDigest) .workflowTaskRequestConflict
    let task ← taskById store.tasks prior.taskId
    return ((task, true), store)
  | none =>
    admitFreshTask store request taskSpec requestDigest ("task-" ++ taskUuid.text)
      ("attempt-" ++ attemptUuid.text)

def holdsLease (task : WorkflowTaskV1) (leaseToken : String) : Bool :=
  task.state == .leased && task.lease.any fun lease => lease.token = leaseToken

def bindTaskCapabilityBundle (store : AuthorityStore) (taskId leaseToken : String)
    (ref : VersionedWorkflowRefV1) (at_ : Timestamp) :
    Except WorkflowError (WorkflowTaskV1 × AuthorityStore) := do
  let snapshotDigest ← orError .workflowExecutionSnapshotInvalid ref.digest
  ensure (authoritySafeId taskId && authoritySafeId leaseToken && authoritySafeId ref.id &&
    ref.version == 1 && isSha256 snapshotDigest && at_.valid) .workflowExecutionSnapshotInvalid
  let row ← orError .workflowTaskNotFound (store.tasks.get? taskId)
  let task ← parseTask row
  ensure (holdsLease task leaseToken) .workflowLeaseLost
  ensure (task.capabilityBundleRef.all fun bound => bound = ref)
    .workflowExecutionSnapshotConflict
  let updated := { task with capabilityBundleRef := some ref, updatedAt := at_ }
  let tasks := store.tasks.update taskId { row with task := updated }
  let (_, bound) ← appendEvents { store with tasks } task.workflowId
    ("execution-snapshot-" ++ task.taskId ++ "-" ++ task.attemptId) at_
    [.executionSnapshotBound task.nodeId task.attemptId
      { artifactId := ref.id
        digest := snapshotDigest
        mediaType := "application/vnd.praxis.workflow-execution-snapshot+json" }]
  return (updated, bound)

/-! ## Leases -/

structure ClaimOptionsV1 where
  workflowId : Option String := none
  nodeId : Option String := none
  kinds : Option (List WorkflowTaskKindV1) := none
  leaseMs : Option Int := none

def defaultLeaseMs : Int := 60_000

def countsCapacity (kind : WorkflowTaskKindV1) : Bool := kind == .agent || kind == .subworkflow

def capacityGroupsOf (projection : WorkflowProjectionV1) : List WorkflowCapacityGroupV1 :=
  (projection.spec.scheduling.map (·.capacityGroups)).getD []

/-- How many active tasks use a capacity group, and the smallest limit their workflows give
it. -/
structure ActiveCapacityGroup where
  count : Int
  limit : Int

def countGroup (groups : List (String × ActiveCapacityGroup)) (group : WorkflowCapacityGroupV1) :
    List (String × ActiveCapacityGroup) :=
  match groups.lookup group.key with
  | none => groups ++ [(group.key, ⟨1, group.limit⟩)]
  | some current =>
    groups.map fun entry =>
      if entry.1 = group.key then (entry.1, ⟨current.count + 1, min current.limit group.limit⟩)
      else entry

def activeCapacityGroups (journal : Journal) (tasks : List WorkflowTaskV1) :
    Except WorkflowError (List (String × ActiveCapacityGroup)) :=
  tasks.foldlM (fun groups task => do
    let projection ← journal.loadProjection task.workflowId
    return (capacityGroupsOf projection).foldl countGroup groups) []

def capacityAvailable (projection : WorkflowProjectionV1)
    (active : List (String × ActiveCapacityGroup)) : Bool :=
  (capacityGroupsOf projection).all fun group =>
    match active.lookup group.key with
    | none => true
    | some occupied => decide (occupied.count < min occupied.limit group.limit)

/-- The lease of the row has not ended by the text of the clock. -/
def isLive (now : Timestamp) (row : TaskRow) : Bool :=
  row.state == .leased && row.leaseExpiresAt.any fun expiresAt => now.textLt expiresAt

/-- The candidate passes the filters of the call, keeps clear of the conflict keys in use,
and has its node scheduled and capacity left. -/
def mayClaim (journal : Journal) (options : ClaimOptionsV1) (occupied : List String)
    (active : List (String × ActiveCapacityGroup)) (candidate : WorkflowTaskV1) :
    Except WorkflowError Bool :=
  if (options.workflowId.all fun id => candidate.workflowId = id) &&
      (options.nodeId.all fun id => candidate.nodeId = id) &&
      (options.kinds.all fun kinds => kinds.contains candidate.kind) &&
      candidate.conflictKeys.all fun key => !occupied.contains key then do
    let projection ← journal.loadProjection candidate.workflowId
    return ((findNode? projection.nodes candidate.nodeId).any fun node =>
        node.state == .scheduled) &&
      (!countsCapacity candidate.kind || capacityAvailable projection active)
  else return false

def findClaimable (journal : Journal) (options : ClaimOptionsV1) (occupied : List String)
    (active : List (String × ActiveCapacityGroup)) :
    List WorkflowTaskV1 → Except WorkflowError (Option WorkflowTaskV1)
  | [] => return none
  | candidate :: rest => do
      if ← mayClaim journal options occupied active candidate then return some candidate
      else findClaimable journal options occupied active rest

/-- The first hundred ready tasks of running workflows, in the order of the claim. -/
def claimCandidates (store : AuthorityStore) (now : Timestamp) : List TaskRow :=
  let ready := store.tasks.values.filter fun row =>
    row.state == .ready && row.task.readyAt.textLe now &&
      (store.journal.workflows.get? row.task.workflowId).any fun workflow =>
        workflow.state == .running
  (ready.insertionSort fun left right => claimBefore store left right).take 100

def selectTask (store : AuthorityStore) (options : ClaimOptionsV1) (now : Timestamp) :
    Except WorkflowError (Option WorkflowTaskV1) := do
  let leasedTasks ← (store.tasks.values.filter (isLive now)).mapM parseTask
  let activeTasks := leasedTasks.filter fun task => countsCapacity task.kind
  let occupied := leasedTasks.flatMap (·.conflictKeys)
  let active ← activeCapacityGroups store.journal activeTasks
  let candidates ← (claimCandidates store now).mapM parseTask
  findClaimable store.journal options occupied active candidates

def leaseEvents (task : WorkflowTaskV1) (lease : WorkflowTaskLeaseV1) (now : Timestamp) :
    List WorkflowEventDataV1 :=
  [.nodeStateChanged { nodeId := task.nodeId, state := .leased },
    .attemptStateChanged
      { attemptId := task.attemptId
        state := .leased
        leaseToken := some lease.token
        workerId := some lease.workerId
        changedAt := now }]

/-- A ready task becomes leased. -/
def leaseTask (store : AuthorityStore) (task : WorkflowTaskV1) (lease : WorkflowTaskLeaseV1)
    (now : Timestamp) : Except WorkflowError (WorkflowTaskClaimV1 × AuthorityStore) := do
  let leased := { task with state := .leased, lease := some lease, updatedAt := now }
  let tasks := store.tasks.update task.taskId
    { task := leased, state := .leased, leaseExpiresAt := some lease.expiresAt }
  let fairness := store.fairness.upsert task.workflowId now
  let (_, claimed) ← appendEvents { store with tasks, fairness } task.workflowId
    ("claim-" ++ task.taskId ++ "-" ++ lease.token) now (leaseEvents task lease now)
  return ({ task := leased, lease }, claimed)

def claim (store : AuthorityStore) (workerId : String) (options : ClaimOptionsV1)
    (now : Timestamp) (uuid : Uuid) :
    Except WorkflowError (Option WorkflowTaskClaimV1 × AuthorityStore) := do
  ensure (authoritySafeId workerId) .workflowWorkerInvalid
  let leaseMs := options.leaseMs.getD defaultLeaseMs
  ensure (now.valid && decide (1000 ≤ leaseMs ∧ leaseMs ≤ maxSafeInteger)) .workflowLeaseInvalid
  match ← selectTask store options now with
  | none => return (none, store)
  | some task =>
    let expiresAt ← orError .workflowPersistenceFailed (now.after? leaseMs)
    let lease : WorkflowTaskLeaseV1 :=
      { token := "lease-" ++ uuid.text
        workerId
        acquiredAt := now
        expiresAt
        lastHeartbeatAt := now
        lastProgressAt := now }
    let (claimed, next) ← leaseTask store task lease now
    return (some claimed, next)

def heartbeat (store : AuthorityStore) (taskId leaseToken : String) (progress : Bool)
    (now : Timestamp) : Except WorkflowError (WorkflowTaskLeaseV1 × AuthorityStore) := do
  let row ← orError .workflowTaskNotFound (store.tasks.get? taskId)
  let task ← parseTask row
  ensure (task.state == .leased) .workflowLeaseLost
  let held ← orError .workflowLeaseLost task.lease
  ensure (held.token == leaseToken && !held.expiresAt.parsedLe now) .workflowLeaseLost
  let expiresAt ← orError .workflowPersistenceFailed
    (now.after? (max 1000 (task.timeout.heartbeatMs * 3)))
  let lease := { held with
    lastHeartbeatAt := now
    lastProgressAt := if progress then now else held.lastProgressAt
    expiresAt }
  let updated := { task with lease := some lease, updatedAt := now }
  return (lease, { store with
    tasks := store.tasks.update taskId
      { row with task := updated, leaseExpiresAt := some expiresAt } })

/-! ## Recovery -/

/-- The random ids that the recovery of one task may use. -/
structure RecoveryIds where
  attempt : Uuid
  task : Uuid
  transaction : Uuid

/-- The delay before a retry; `none` where the source computes zero times infinity. -/
def backoffMs (retry : WorkflowRetryPolicyV1) (ordinal : Nat) : Option Int :=
  if retry.initialBackoffMs = 0 ∧ 1024 ≤ ordinal - 1 then none
  else some (min retry.maxBackoffMs (retry.initialBackoffMs * 2 ^ (ordinal - 1)))

/-- When a retry becomes ready; `none` where that is not a date. -/
def retryReadyAt (retry : WorkflowRetryPolicyV1) (ordinal : Nat) (at_ : Timestamp) :
    Option Timestamp :=
  (backoffMs retry ordinal).bind at_.after?

def retryTaskOf (task : WorkflowTaskV1) (taskId attemptId : String) (readyAt at_ : Timestamp) :
    WorkflowTaskV1 :=
  { task with
    taskId
    attemptId
    state := .ready
    lease := none
    capabilityBundleRef := none
    readyAt
    createdAt := at_
    updatedAt := at_ }

/-- The effects that are safe to repeat. -/
def isReplayable (effectClass : WorkflowEffectClassV1) : Bool :=
  decide (effectClass ∈ [WorkflowEffectClassV1.pure, .read, .externalIdempotent])

def isTerminalWorkflow (state : WorkflowStateV1) : Bool :=
  decide (state ∈ [WorkflowStateV1.cancelled, .completed, .failed, .terminated])

/-- The events that retire the attempt and the node of a task whose workflow has ended. -/
def terminalRecoveryEvents (projection : WorkflowProjectionV1)
    (oldAttempt : WorkflowAttemptProjectionV1) (task : WorkflowTaskV1) (now : Timestamp) :
    List WorkflowEventDataV1 :=
  (if oldAttempt.state ∈ [WorkflowAttemptStateV1.succeeded, .failed, .cancelled, .unknown] then []
    else [.attemptStateChanged
      { attemptId := task.attemptId
        state := .cancelled
        changedAt := now
        errorCode := some "WORKFLOW_PARENT_TERMINAL" }]) ++
  match findNode? projection.nodes task.nodeId with
  | none => []
  | some node =>
    if node.state ∈ [WorkflowNodeStateV1.succeeded, .failed, .cancelled, .skipped, .unknown] then []
    else [.nodeStateChanged
      { nodeId := task.nodeId
        state := .cancelled
        errorCode := some "WORKFLOW_PARENT_TERMINAL" }]

def recoveryDecision (task : WorkflowTaskV1) (oldAttempt : WorkflowAttemptProjectionV1) :
    WorkflowRecoveryDecisionV1 :=
  let safe := isReplayable task.effect.effectClass
  let mayRetry := safe && decide ((oldAttempt.ordinal : Int) < task.retry.maxAttempts)
  { taskId := task.taskId
    attemptId := task.attemptId
    priorState := oldAttempt.state
    decision := if mayRetry then .retry else if safe then .manualIntervention else .unknown
    code :=
      if mayRetry then "LEASE_EXPIRED_RETRYABLE"
      else if safe then "LEASE_EXPIRED_ATTEMPTS_EXHAUSTED"
      else "LEASE_EXPIRED_EFFECT_UNKNOWN" }

def settleEvents (task : WorkflowTaskV1) (attemptState : WorkflowAttemptStateV1)
    (nodeState : WorkflowNodeStateV1) (code : String) (now : Timestamp) :
    List WorkflowEventDataV1 :=
  [.attemptStateChanged
      { attemptId := task.attemptId, state := attemptState, changedAt := now, errorCode := some code },
    .nodeStateChanged { nodeId := task.nodeId, state := nodeState, errorCode := some code }]

/-- The events of a lease that expired before the workflow ended. -/
def recoveryEvents (task : WorkflowTaskV1) (decision : WorkflowRecoveryDecisionV1)
    (retryAttempt : WorkflowAttemptProjectionV1) (now : Timestamp) : List WorkflowEventDataV1 :=
  settleEvents task .unknown .unknown decision.code now ++
    match decision.decision with
    | .retry =>
      settleEvents task .failed .failed decision.code now ++
        [.nodeStateChanged
            { nodeId := task.nodeId, state := .retryWait, errorCode := some decision.code },
          .attemptCreated retryAttempt,
          .nodeStateChanged { nodeId := task.nodeId, state := .scheduled }]
    | .manualIntervention =>
      settleEvents task .manualIntervention .manualIntervention decision.code now
    | .unknown => []

/-- The state in which recovery leaves a task whose workflow has not ended. -/
def recoveredTaskState (decision : WorkflowRecoveryChoiceV1) : WorkflowTaskStateV1 :=
  match decision with
  | .retry | .manualIntervention => .failed
  | .unknown => .unknown

/-- The tasks and the reservations that a retry leaves. -/
def recoverRetry (store : AuthorityStore) (task : WorkflowTaskV1)
    (oldAttempt : WorkflowAttemptProjectionV1) (ids : RecoveryIds) (now : Timestamp) :
    Except WorkflowError AuthorityStore := do
  let readyAt ← orError .workflowPersistenceFailed
    (retryReadyAt task.retry oldAttempt.ordinal now)
  let tasks ← insertTask store.journal store.tasks
    (retryTaskOf task ("task-" ++ ids.task.text) ("attempt-" ++ ids.attempt.text) readyAt now)
  let effectReservations :=
    match task.effect.effectClass, task.effect.idempotencyKey with
    | .externalIdempotent, some key =>
      releaseEffectReservation store.effectReservations task.workflowId key task.attemptId now
    | _, _ => store.effectReservations
  return { store with tasks, effectReservations }

/-- One expired task is retired, and its attempt and node with it. -/
def recoverTask (store : AuthorityStore) (row : TaskRow) (ids : RecoveryIds) (now : Timestamp) :
    Except WorkflowError (Option WorkflowRecoveryDecisionV1 × AuthorityStore) := do
  let task ← parseTask row
  let projection ← store.journal.loadProjection task.workflowId
  let oldAttempt ← orError .workflowAttemptNotFound
    (findAttempt? projection.attempts task.attemptId)
  if isTerminalWorkflow projection.state then do
    let tasks := store.tasks.update task.taskId (retiredRow task .cancelled now)
    let (_, next) ← appendEvents { store with tasks } task.workflowId
      ("recover-terminal-" ++ task.taskId ++ "-" ++ toString projection.sequence) now
      (terminalRecoveryEvents projection oldAttempt task now)
    return (none, next)
  else do
    let decision := recoveryDecision task oldAttempt
    let retired := { store with
      tasks := store.tasks.update task.taskId
        (retiredRow task (recoveredTaskState decision.decision) now) }
    let prepared ← if decision.decision = .retry then recoverRetry retired task oldAttempt ids now
      else pure retired
    let (_, next) ← appendEvents prepared task.workflowId
      ("recover-" ++ task.taskId ++ "-" ++ ids.transaction.text) now
      (recoveryEvents task decision
        (scheduledAttempt ("attempt-" ++ ids.attempt.text) task.nodeId (oldAttempt.ordinal + 1)) now)
    return (some decision, next)

def recoverTasks (ids : Nat → RecoveryIds) (now : Timestamp) :
    Nat → List TaskRow → AuthorityStore →
      Except WorkflowError (List WorkflowRecoveryDecisionV1 × AuthorityStore)
  | _, [], store => return ([], store)
  | index, row :: rest, store => do
      let (decision, next) ← recoverTask store row (ids index) now
      let (decisions, last) ← recoverTasks ids now (index + 1) rest next
      return (decision.toList ++ decisions, last)

/-- The lease of the row has ended by the text of the clock. -/
def isExpired (now : Timestamp) (row : TaskRow) : Bool :=
  row.state == .leased && row.leaseExpiresAt.any fun expiresAt => expiresAt.textLe now

def expiresBefore (left right : TaskRow) : Bool :=
  decide ((left.leaseExpiresAt.map (·.text)).getD "" ≤ (right.leaseExpiresAt.map (·.text)).getD "")

def expiredTasks (store : AuthorityStore) (now : Timestamp) : List TaskRow :=
  (store.tasks.values.filter (isExpired now)).insertionSort fun left right =>
    expiresBefore left right

def recoverExpired (store : AuthorityStore) (now : Timestamp) (ids : Nat → RecoveryIds) :
    Except WorkflowError (List WorkflowRecoveryDecisionV1 × AuthorityStore) :=
  recoverTasks ids now 0 (expiredTasks store now) store

/-! ## Wake-ups -/

def resumeIfWaiting (projection : WorkflowProjectionV1) : List WorkflowEventDataV1 :=
  if projection.state = .waiting then [.workflowResumed] else []

def signal (store : AuthorityStore) (input : WorkflowSignalV1) :
    Except WorkflowError (Bool × AuthorityStore) := do
  ensure (authoritySafeId input.signalId && authoritySafeId input.workflowId &&
    authoritySafeId input.name && input.receivedAt.valid) .workflowSignalInvalid
  let projection ← store.journal.loadProjection input.workflowId
  match store.signals.insert (input.workflowId, input.signalId) input with
  | none => return (false, store)
  | some signals => do
      let (_, next) ← appendEvents { store with signals } input.workflowId
        ("signal-" ++ input.signalId) input.receivedAt
        (.signalReceived input.signalId input.name :: resumeIfWaiting projection)
      return (true, next)

def wakeNodeEvents (projection : WorkflowProjectionV1) (nodeId : String)
    (kind : WorkflowNodeKindV1) (attemptState : WorkflowAttemptStateV1)
    (nodeState : WorkflowNodeStateV1) (code : Option String) (at_ : Timestamp) :
    List WorkflowEventDataV1 :=
  match findNode? projection.nodes nodeId,
    projection.spec.nodes.find? fun spec => spec.nodeId = nodeId with
  | some node, some spec =>
    match node.attemptIds.getLast? with
    | some attemptId =>
      if node.state = .waiting ∧ spec.kind = kind then
        [.attemptStateChanged
            { attemptId, state := attemptState, changedAt := at_, errorCode := code },
          .nodeStateChanged { nodeId, state := nodeState, errorCode := code }]
      else []
    | none => []
  | _, _ => []

def fireTimer (now : Timestamp) (state : List WorkflowTimerV1 × AuthorityStore) (row : TimerRow) :
    Except WorkflowError (List WorkflowTimerV1 × AuthorityStore) := do
  let store := state.2
  let timers := store.timers.update row.timer.timerId { row with firedAt := some now }
  let projection ← store.journal.loadProjection row.timer.workflowId
  let (_, next) ← appendEvents { store with timers } row.timer.workflowId
    ("timer-" ++ row.timer.timerId) now
    (.timerFired row.timer.timerId row.timer.nodeId ::
      (wakeNodeEvents projection row.timer.nodeId .timer .succeeded .succeeded none now ++
        resumeIfWaiting projection))
  return (state.1 ++ [row.timer], next)

def firesBefore (left right : TimerRow) : Bool :=
  if left.timer.fireAt.text ≠ right.timer.fireAt.text then
    decide (left.timer.fireAt.text < right.timer.fireAt.text)
  else decide (left.timer.timerId ≤ right.timer.timerId)

def dueTimers (store : AuthorityStore) (now : Timestamp) : List TimerRow :=
  (store.timers.values.filter fun row =>
    row.firedAt.isNone && row.timer.fireAt.textLe now).insertionSort fun left right =>
      firesBefore left right

def fireDueTimers (store : AuthorityStore) (now : Timestamp) :
    Except WorkflowError (List WorkflowTimerV1 × AuthorityStore) := do
  ensure now.valid .workflowTimerInvalid
  (dueTimers store now).foldlM (fireTimer now) ([], store)

/-- The states in which a human task may be resolved. -/
inductive HumanResolutionV1 where
  | allowed | denied | expired | cancelled

namespace HumanResolutionV1

def toState : HumanResolutionV1 → WorkflowHumanTaskStateV1
  | .allowed => .allowed
  | .denied => .denied
  | .expired => .expired
  | .cancelled => .cancelled

def text : HumanResolutionV1 → String
  | .allowed => "allowed"
  | .denied => "denied"
  | .expired => "expired"
  | .cancelled => "cancelled"

def attemptState : HumanResolutionV1 → WorkflowAttemptStateV1
  | .allowed => .succeeded
  | .cancelled => .cancelled
  | .denied | .expired => .failed

def nodeState : HumanResolutionV1 → WorkflowNodeStateV1
  | .allowed => .succeeded
  | .cancelled => .cancelled
  | .denied | .expired => .failed

def errorCode : HumanResolutionV1 → Option String
  | .allowed => none
  | .denied => some "WORKFLOW_HUMAN_TASK_DENIED"
  | .expired => some "WORKFLOW_HUMAN_TASK_EXPIRED"
  | .cancelled => some "WORKFLOW_HUMAN_TASK_CANCELLED"

end HumanResolutionV1

def resolveHumanTask (store : AuthorityStore) (humanTaskId : String) (state : HumanResolutionV1)
    (resolution : Json) (at_ : Timestamp) :
    Except WorkflowError (WorkflowHumanTaskV1 × AuthorityStore) := do
  ensure (authoritySafeId humanTaskId && at_.valid) .workflowHumanTaskInvalid
  let task ← orError .workflowHumanTaskNotFound (store.humanTasks.get? humanTaskId)
  if task.state ≠ .waiting then return (task, store)
  else do
    let resolved := { task with state := state.toState, resolution := some resolution }
    let humanTasks := store.humanTasks.update humanTaskId resolved
    let projection ← store.journal.loadProjection task.workflowId
    let (_, next) ← appendEvents { store with humanTasks } task.workflowId
      ("human-" ++ humanTaskId ++ "-" ++ state.text) at_
      (.humanTaskResolved humanTaskId task.nodeId state.toState ::
        (wakeNodeEvents projection task.nodeId .humanTask state.attemptState state.nodeState
          state.errorCode at_ ++ resumeIfWaiting projection))
    return (resolved, next)

/-! ## Effects -/

/-- What a reservation answers to another call under its key. -/
def reservationDecision (prior : WorkflowEffectReservationV1) (inputDigest : String) :
    WorkflowEffectDecisionV1 :=
  if prior.inputDigest ≠ inputDigest then .conflict
  else match prior.state with
    | .committed => .replay
    | .released => .execute
    | .reserved | .unknown => .inProgress

/-- The event by which an attempt becomes the owner of a reservation. -/
def recordReservation (store : AuthorityStore)
    (workflowId idempotencyKey inputDigest attemptId : String) (at_ : Timestamp) :
    Except WorkflowError AuthorityStore := do
  let task ← taskForAttempt store.tasks workflowId attemptId
  let (_, next) ← appendEvents store workflowId ("effect-reserved-" ++ attemptId) at_
    [.effectReserved task.nodeId attemptId idempotencyKey inputDigest]
  return next

def reserveEffect (store : AuthorityStore)
    (workflowId idempotencyKey inputDigest attemptId : String) (leaseExpiresAt at_ : Timestamp) :
    Except WorkflowError (WorkflowEffectAdmissionV1 × AuthorityStore) := do
  ensure (authoritySafeId workflowId && authoritySafeId idempotencyKey &&
    authoritySafeId attemptId && isSha256 inputDigest && leaseExpiresAt.valid && at_.valid)
    .workflowEffectReservationInvalid
  match store.effectReservations.get? (workflowId, idempotencyKey) with
  | some prior =>
    match reservationDecision prior inputDigest with
    | .execute => do
        let renewed := { prior with
          attemptId
          state := .reserved
          leaseExpiresAt
          receiptRef := none
          updatedAt := at_ }
        let effectReservations :=
          store.effectReservations.update (workflowId, idempotencyKey) renewed
        let next ← recordReservation { store with effectReservations } workflowId idempotencyKey
          inputDigest attemptId at_
        return ({ decision := .execute, reservation := renewed }, next)
    | .replay => do
        let task ← taskForAttempt store.tasks workflowId attemptId
        let (_, next) ← appendEvents store workflowId ("effect-replayed-" ++ attemptId) at_
          [.effectReplayed task.nodeId attemptId idempotencyKey]
        return ({ decision := .replay, reservation := prior }, next)
    | decision => return ({ decision, reservation := prior }, store)
  | none => do
      let reservation : WorkflowEffectReservationV1 :=
        { workflowId, idempotencyKey, inputDigest, attemptId
          state := .reserved
          leaseExpiresAt
          updatedAt := at_ }
      let effectReservations ← orError .workflowPersistenceFailed
        (store.effectReservations.insert (workflowId, idempotencyKey) reservation)
      let next ← recordReservation { store with effectReservations } workflowId idempotencyKey
        inputDigest attemptId at_
      return ({ decision := .execute, reservation }, next)

def markEffectCompensated (store : AuthorityStore)
    (workflowId sourceReceiptArtifactId compensationReceiptArtifactId : String)
    (at_ : Timestamp) : Except WorkflowError (WorkflowEffectReceiptV1 × AuthorityStore) := do
  ensure (authoritySafeId workflowId && authoritySafeId sourceReceiptArtifactId &&
    authoritySafeId compensationReceiptArtifactId &&
    sourceReceiptArtifactId != compensationReceiptArtifactId && at_.valid)
    .workflowCompensationInvalid
  let receiptOf := fun artifactId : String => store.effectReceipts.values.find? fun receipt =>
    receipt.workflowId = workflowId ∧ receipt.artifactRef.artifactId = artifactId
  let source ← orError .workflowCompensationReceiptNotFound (receiptOf sourceReceiptArtifactId)
  let compensation ← orError .workflowCompensationReceiptNotFound
    (receiptOf compensationReceiptArtifactId)
  ensure (compensation.state == .committed) .workflowCompensationReceiptNotFound
  if source.state = .compensated then do
    ensure (source.compensationReceiptRef.any fun ref =>
      ref.artifactId = compensationReceiptArtifactId) .workflowCompensationConflict
    return (source, store)
  else do
    let updated := { source with
      state := .compensated
      compensatedAt := some at_
      compensationReceiptRef := some compensation.artifactRef }
    let effectReceipts := store.effectReceipts.update source.receiptId updated
    let (_, next) ← appendEvents { store with effectReceipts } workflowId
      ("compensate-" ++ source.receiptId ++ "-" ++ compensation.receiptId) at_
      [.effectCompensated source.receiptId compensation.receiptId source.nodeId]
    return (updated, next)

def reserveEffectRequest (store : AuthorityStore) (request : ReviewPlanExecutionRequestV1)
    (requestDigest : String) (effectKind : WorkflowEffectClassV1)
    (externalIdempotencyKey : Option String) (leaseExpiresAt : Option Timestamp)
    (at_ : Timestamp) :
    Except WorkflowError ((WorkflowEffectRequestV1 × Bool) × AuthorityStore) := do
  ensure request.binding.isValid .planExecutionBindingInvalid
  ensure (authoritySafeId request.workflowId && isSha256 requestDigest &&
    decide (effectKind ∈ [WorkflowEffectClassV1.workspaceWrite, .externalIdempotent,
      .externalNonIdempotent]) &&
    (effectKind != .externalIdempotent || externalIdempotencyKey.any authoritySafeId) &&
    (effectKind == .externalIdempotent || externalIdempotencyKey.isNone) &&
    leaseExpiresAt.all (·.valid) && at_.valid) .workflowEffectRequestInvalid
  let projection ← store.journal.loadProjection request.workflowId
  ensure (projection.sessionId == request.binding.sessionId) .workflowEffectRequestConflict
  match store.effectRequests.get? (request.workflowId, request.binding.requestId) with
  | some prior =>
    ensure (prior.requestDigest == requestDigest && prior.executionBinding == request.binding)
      .workflowEffectRequestConflict
    return ((prior, true), store)
  | none => do
      let reserved : WorkflowEffectRequestV1 :=
        { workflowId := request.workflowId
          requestId := request.binding.requestId
          requestDigest, effectKind
          executionBinding := request.binding
          externalIdempotencyKey
          state := .reserved
          leaseExpiresAt
          createdAt := at_
          updatedAt := at_ }
      let effectRequests ← orError .workflowPersistenceFailed
        (store.effectRequests.insert (request.workflowId, request.binding.requestId) reserved)
      return ((reserved, false), { store with effectRequests })

/-! ## Messages -/

def postMessage [Collation] (store : AuthorityStore) (input : WorkflowMessageInputV1) :
    Except WorkflowError (WorkflowMessageV1 × AuthorityStore) := do
  match store.messages.get? input.messageId with
  | some stored =>
    let prior ← parseWorkflowMessage stored
    ensure (prior.input.workflowId == input.workflowId &&
      (Json.obj (messageInputFields prior.input)).canonical ==
        (Json.obj (messageInputFields input)).canonical) .workflowMessageIdConflict
    return (prior, store)
  | none => do
      let _ ← store.journal.loadProjection input.workflowId
      let (message, messages) ← insertWorkflowMessage store.journal store.messages input
      return (message, { store with messages })

def isUnreadBy (workflowId recipientNodeId : String) (message : WorkflowMessageV1) : Bool :=
  message.input.workflowId == workflowId && message.input.recipient.kind == .node &&
    message.input.recipient.id == recipientNodeId && message.acknowledgedAt.isNone

def acknowledgeOne (at_ : Timestamp) (messages : Table String WorkflowMessageV1)
    (message : WorkflowMessageV1) : Except WorkflowError (Table String WorkflowMessageV1) := do
  let parsed ← parseWorkflowMessage message
  return messages.update parsed.input.messageId { parsed with acknowledgedAt := some at_ }

def acknowledgeMessages (store : AuthorityStore) (workflowId recipientNodeId : String)
    (throughSequence : Int) (at_ : Timestamp) : Except WorkflowError (Nat × AuthorityStore) := do
  ensure (authoritySafeId workflowId && authoritySafeId recipientNodeId &&
    positiveInteger throughSequence && at_.valid) .workflowMessageAckInvalid
  let _ ← store.journal.loadProjection workflowId
  let unread := (store.messages.values.filter fun message =>
    isUnreadBy workflowId recipientNodeId message &&
      decide ((message.sequence : Int) ≤ throughSequence)).insertionSort
        fun left right => left.sequence ≤ right.sequence
  let messages ← unread.foldlM (acknowledgeOne at_) store.messages
  return (unread.length, { store with messages })

def acknowledgeMessage (store : AuthorityStore) (workflowId messageId recipientNodeId : String)
    (at_ : Timestamp) : Except WorkflowError (Bool × AuthorityStore) := do
  ensure (authoritySafeId workflowId && authoritySafeId messageId &&
    authoritySafeId recipientNodeId && at_.valid) .workflowMessageAckInvalid
  let stored ← orError .workflowMessageNotFound ((store.messages.get? messageId).filter
    fun message => message.input.workflowId = workflowId ∧
      message.input.recipient.kind = .node ∧ message.input.recipient.id = recipientNodeId)
  let message ← parseWorkflowMessage stored
  if message.acknowledgedAt.isSome then return (false, store)
  else return (true, { store with
    messages := store.messages.update messageId { message with acknowledgedAt := some at_ } })

/-! ## Operator decisions -/

/-- The attempt that a node created last. -/
def latestAttempt (projection : WorkflowProjectionV1) (node : WorkflowNodeProjectionV1) :
    Option WorkflowAttemptProjectionV1 :=
  node.attemptIds.getLast?.bind (findAttempt? projection.attempts)

def createdAfter (left right : TaskRow) : Bool :=
  decide (right.task.createdAt.text ≤ left.task.createdAt.text)

/-- The task of a node that was created last. -/
def latestTask (store : AuthorityStore) (workflowId nodeId : String) : Option TaskRow :=
  ((store.tasks.values.filter fun row =>
    row.task.workflowId = workflowId ∧ row.task.nodeId = nodeId).insertionSort
      fun left right => createdAfter left right).head?

def retryNode (store : AuthorityStore) (workflowId nodeId : String) (at_ : Timestamp)
    (attemptUuid taskUuid : Uuid) :
    Except WorkflowError (WorkflowProjectionV1 × AuthorityStore) := do
  ensure (authoritySafeId workflowId && authoritySafeId nodeId && at_.valid) .workflowRetryInvalid
  let projection ← store.journal.loadProjection workflowId
  let node ← orError .workflowRetryInvalidState (findNode? projection.nodes nodeId)
  let attempt ← orError .workflowRetryInvalidState (latestAttempt projection node)
  ensure (node.state == .failed && attempt.state == .failed) .workflowRetryInvalidState
  let row ← orError .workflowTaskNotFound (latestTask store workflowId nodeId)
  let prior ← parseTask row
  ensure (decide ((attempt.ordinal : Int) < prior.retry.maxAttempts)) .workflowRetryExhausted
  let attemptId := "attempt-" ++ attemptUuid.text
  let retryAt ← orError .workflowPersistenceFailed (retryReadyAt prior.retry attempt.ordinal at_)
  let task := retryTaskOf prior ("task-" ++ taskUuid.text) attemptId retryAt at_
  let (next, appended) ← appendEvents store workflowId ("retry-" ++ task.taskId) at_
    [.nodeStateChanged { nodeId, state := .retryWait },
      .attemptCreated (scheduledAttempt attemptId nodeId (attempt.ordinal + 1)),
      .nodeStateChanged { nodeId, state := .scheduled }]
  let tasks ← insertTask appended.journal appended.tasks task
  return (next, { appended with tasks })

/-- The states in which an operator may resolve an unknown outcome. -/
inductive UnknownResolutionV1 where
  | succeeded | failed | manualIntervention
deriving DecidableEq

def UnknownResolutionV1.attemptState : UnknownResolutionV1 → WorkflowAttemptStateV1
  | .succeeded => .succeeded
  | .failed => .failed
  | .manualIntervention => .manualIntervention

def UnknownResolutionV1.nodeState : UnknownResolutionV1 → WorkflowNodeStateV1
  | .succeeded => .succeeded
  | .failed => .failed
  | .manualIntervention => .manualIntervention

/-- The transaction by which an unknown outcome is resolved, made from a projection and the
unknown tasks of the workflow as they were read before. -/
def resolveUnknownTransaction (projection : WorkflowProjectionV1) (tasks : List WorkflowTaskV1)
    (nodeId : String) (resolution : UnknownResolutionV1) (code : Option String)
    (at_ : Timestamp) : Except WorkflowError WorkflowTransactionV1 := do
  let node ← orError .workflowResolutionInvalidState (findNode? projection.nodes nodeId)
  let attempt ← orError .workflowResolutionInvalidState (latestAttempt projection node)
  ensure (node.state == .unknown && attempt.state == .unknown) .workflowResolutionInvalidState
  let task := tasks.find? fun candidate => candidate.attemptId = attempt.attemptId
  let key := task.bind fun found => found.effect.idempotencyKey
  ensure (!(resolution == .succeeded && key.isSome && attempt.receiptRef.isNone))
    .workflowEffectReceiptRequired
  return {
      transactionId := "resolve-" ++ projection.workflowId ++ "-" ++ nodeId ++ "-" ++
        toString projection.sequence
      workflowId := projection.workflowId
      expectedSequence := projection.sequence
      occurredAt := at_
      events :=
        [.attemptStateChanged
            { attemptId := attempt.attemptId
              state := resolution.attemptState
              changedAt := at_
              errorCode := code },
          .nodeStateChanged { nodeId, state := resolution.nodeState, errorCode := code }]
      effectReservationTerminal :=
        if resolution = .failed then
          key.map fun idempotencyKey =>
            { idempotencyKey, attemptId := attempt.attemptId, state := .released }
        else none }

/-- The call reads the projection, then the unknown tasks, and then applies its transaction;
other calls may come between, so the three meet three stores. -/
def resolveUnknown [Collation] (read listed store : AuthorityStore) (workflowId nodeId : String)
    (resolution : UnknownResolutionV1) (code : Option String) (at_ : Timestamp) :
    Except WorkflowError (WorkflowProjectionV1 × AuthorityStore) := do
  ensure (authoritySafeId workflowId && authoritySafeId nodeId && at_.valid)
    .workflowResolutionInvalid
  let projection ← read.journal.loadProjection workflowId
  let tasks ← listTasks listed workflowId .unknown maxList
  let input ← resolveUnknownTransaction projection tasks nodeId resolution code at_
  transact store input

end Praxis.Workflow
