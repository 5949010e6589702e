import Praxis.Durable.Journal
import Praxis.Durable.Port

/-!
# The tables of the authority

The store of the authority and the functions that write one table of it. A record that is
kept as JSON is the record itself; beside it stand the columns that a query filters by and
that the code updates separately. The other columns repeat a field of the record that never
changes and are read from there. A write that a constraint of the schema rejects fails as
the database error does.
-/

namespace Praxis.Workflow

set_option autoImplicit false

open Praxis.Foundations

/-- A row of `workflow_tasks`: the task, and its columns `state` and `lease_expires_at`. -/
structure TaskRow where
  task : WorkflowTaskV1
  state : WorkflowTaskStateV1
  leaseExpiresAt : Option Timestamp

structure TimerRow where
  timer : WorkflowTimerV1
  firedAt : Option Timestamp

structure TaskRequestRow where
  requestDigest : String
  taskId : String

structure AuthorityStore where
  journal : Journal
  tasks : Table String TaskRow
  fairness : Table String Timestamp
  outbox : Table String WorkflowOutboxMessageV1
  timers : Table String TimerRow
  signals : Table (String × String) WorkflowSignalV1
  messages : Table String WorkflowMessageV1
  humanTasks : Table String WorkflowHumanTaskV1
  effectReceipts : Table String WorkflowEffectReceiptV1
  effectReservations : Table (String × String) WorkflowEffectReservationV1
  effectRequests : Table (String × String) WorkflowEffectRequestV1
  taskRequests : Table (String × String) TaskRequestRow

/-- A store to which nothing has been written. -/
def AuthorityStore.empty : AuthorityStore where
  journal := .empty
  tasks := .empty
  fairness := .empty
  outbox := .empty
  timers := .empty
  signals := .empty
  messages := .empty
  humanTasks := .empty
  effectReceipts := .empty
  effectReservations := .empty
  effectRequests := .empty
  taskRequests := .empty

/-- An id of at most 256 characters, as the authority requires it. -/
def authoritySafeId (value : String) : Bool := safeIdChars 255 (chars value)

/-! ## Tasks -/

/-- A row under which no other row has the attempt of the task; the workflow exists. -/
def insertTask (journal : Journal) (tasks : Table String TaskRow) (task : WorkflowTaskV1) :
    Except WorkflowError (Table String TaskRow) := do
  ensure (authoritySafeId task.taskId && authoritySafeId task.workflowId &&
    authoritySafeId task.nodeId && authoritySafeId task.attemptId && task.state == .ready)
    .workflowTaskInvalid
  ensure (journal.workflows.contains task.workflowId) .workflowPersistenceFailed
  ensure (!tasks.values.any fun row => row.task.attemptId = task.attemptId)
    .workflowPersistenceFailed
  orError .workflowPersistenceFailed
    (tasks.insert task.taskId { task, state := task.state, leaseExpiresAt := none })

/-- A stored task as it is read back: a binding that is not valid is corrupt. -/
def parseTask (row : TaskRow) : Except WorkflowError WorkflowTaskV1 := do
  ensure (row.task.executionBinding.all (·.isValid)) .workflowTaskCorrupt
  return row.task

def taskById (tasks : Table String TaskRow) (taskId : String) :
    Except WorkflowError WorkflowTaskV1 := do
  let row ← orError .workflowTaskNotFound (tasks.get? taskId)
  parseTask row

def taskForAttempt (tasks : Table String TaskRow) (workflowId attemptId : String) :
    Except WorkflowError WorkflowTaskV1 := do
  let row ← orError .workflowTaskNotFound (tasks.values.find? fun row =>
    row.task.workflowId = workflowId ∧ row.task.attemptId = attemptId)
  parseTask row

/-- The row of a task that leaves the queue in a state, without its lease. -/
def retiredRow (task : WorkflowTaskV1) (state : WorkflowTaskStateV1) (at_ : Timestamp) : TaskRow where
  task := { task with state, lease := none, updatedAt := at_ }
  state := state
  leaseExpiresAt := none

def acknowledgeTask (tasks : Table String TaskRow) (ack : AcknowledgeTaskV1) (at_ : Timestamp) :
    Except WorkflowError (Table String TaskRow) := do
  let task ← taskById tasks ack.taskId
  ensure (task.state == .leased && task.lease.any fun lease => lease.token = ack.leaseToken)
    .workflowLeaseLost
  return tasks.update ack.taskId (retiredRow task ack.state.toState at_)

def cancelReadyTask (workflowId : String) (at_ : Timestamp) (tasks : Table String TaskRow)
    (taskId : String) : Except WorkflowError (Table String TaskRow) := do
  ensure (authoritySafeId taskId) .workflowTaskInvalid
  let task ← taskById tasks taskId
  ensure (task.workflowId == workflowId && task.state == .ready) .workflowTaskCancelInvalidState
  return tasks.update taskId (retiredRow task .cancelled at_)

def insertOutbox (outbox : Table String WorkflowOutboxMessageV1)
    (message : WorkflowOutboxMessageV1) :
    Except WorkflowError (Table String WorkflowOutboxMessageV1) := do
  ensure (!outbox.values.any fun other => other.topic = message.topic ∧ other.key = message.key)
    .workflowPersistenceFailed
  orError .workflowPersistenceFailed (outbox.insert message.messageId message)

def insertTimer (timers : Table String TimerRow) (timer : WorkflowTimerV1) :
    Except WorkflowError (Table String TimerRow) :=
  orError .workflowPersistenceFailed
    (timers.insert timer.timerId { timer, firedAt := none })

def insertHumanTask (humanTasks : Table String WorkflowHumanTaskV1) (task : WorkflowHumanTaskV1) :
    Except WorkflowError (Table String WorkflowHumanTaskV1) :=
  orError .workflowPersistenceFailed (humanTasks.insert task.humanTaskId task)

/-! ## Messages -/

def artifactRefJson (ref : WorkflowArtifactRefV1) : Json :=
  .obj [("artifactId", .str ref.artifactId), ("digest", .str ref.digest),
    ("mediaType", .str ref.mediaType)]

def messageInputFields (input : WorkflowMessageInputV1) : List (String × Json) :=
  [("schemaVersion", Json.num 1), ("messageId", .str input.messageId),
    ("workflowId", .str input.workflowId),
    ("sender", .obj ([("kind", Json.str input.sender.kind.text), ("id", .str input.sender.id)] ++
      Json.field "attemptId" (input.sender.attemptId.map .str))),
    ("recipient", .obj [("kind", .str input.recipient.kind.text), ("id", .str input.recipient.id)]),
    ("type", .str input.type.text), ("payload", .obj input.payload)] ++
    Json.field "artifactRefs" (input.artifactRefs.map fun refs => .arr (refs.map artifactRefJson)) ++
    Json.field "causationId" (input.causationId.map .str) ++
    Json.field "correlationId" (input.correlationId.map .str) ++
    [("createdAt", Json.str input.createdAt.text)]

def messageFields (message : WorkflowMessageV1) : List (String × Json) :=
  messageInputFields message.input ++ [("sequence", Json.num message.sequence)] ++
    Json.field "acknowledgedAt" (message.acknowledgedAt.map fun at_ => .str at_.text)

def maxMessageBytes : Nat := 64 * 1024

/-- The length of a text in UTF-16 code units. -/
def utf16Length (value : String) : Nat :=
  ((chars value).map fun c => if c.toNat < 0x10000 then 1 else 2).sum

/-- The fields of a message, and the size of the JSON object that carries them. -/
def validateWorkflowMessageInput (input : WorkflowMessageInputV1)
    (serialized : List (String × Json)) : Except WorkflowError Unit := do
  ensure (authoritySafeId input.messageId && authoritySafeId input.workflowId &&
    authoritySafeId input.sender.id && input.sender.attemptId.all authoritySafeId &&
    authoritySafeId input.recipient.id && input.causationId.all authoritySafeId &&
    input.correlationId.all authoritySafeId && input.createdAt.valid &&
    decide ((Json.obj serialized).stringify.utf8ByteSize ≤ maxMessageBytes))
    .workflowMessageInvalid
  ensure ((input.artifactRefs.getD []).all fun ref =>
    authoritySafeId ref.artifactId && isSha256 ref.digest &&
      decide (1 ≤ utf16Length ref.mediaType ∧ utf16Length ref.mediaType ≤ 256))
    .workflowMessageInvalid

/-- A stored message as it is read back. -/
def parseWorkflowMessage (message : WorkflowMessageV1) :
    Except WorkflowError WorkflowMessageV1 := do
  validateWorkflowMessageInput message.input (messageFields message)
  ensure (positiveInteger message.sequence && message.acknowledgedAt.all (·.valid))
    .workflowMessageCorrupt
  return message

def nextMessageSequence (messages : Table String WorkflowMessageV1) (workflowId : String) : Nat :=
  ((messages.values.filter fun message => message.input.workflowId = workflowId).map
    (·.sequence)).foldl max 0 + 1

def insertWorkflowMessage [Collation] (journal : Journal) (messages : Table String WorkflowMessageV1)
    (input : WorkflowMessageInputV1) :
    Except WorkflowError (WorkflowMessageV1 × Table String WorkflowMessageV1) := do
  validateWorkflowMessageInput input (messageInputFields input)
  match messages.get? input.messageId with
  | some stored =>
    let prior ← parseWorkflowMessage stored
    ensure ((Json.obj (messageInputFields prior.input)).canonical ==
      (Json.obj (messageInputFields input)).canonical) .workflowMessageIdConflict
    return (prior, messages)
  | none =>
    let sequence := nextMessageSequence messages input.workflowId
    ensure (decide ((sequence : Int) ≤ maxSafeInteger)) .workflowMessageSequenceInvalid
    ensure (journal.workflows.contains input.workflowId) .workflowPersistenceFailed
    let message : WorkflowMessageV1 := { input, sequence }
    let inserted ← orError .workflowPersistenceFailed (messages.insert input.messageId message)
    return (message, inserted)

/-! ## Effects -/

def receiptForKey (receipts : Table String WorkflowEffectReceiptV1)
    (workflowId idempotencyKey : String) : Option WorkflowEffectReceiptV1 :=
  receipts.values.find? fun receipt =>
    receipt.workflowId = workflowId ∧ receipt.idempotencyKey = some idempotencyKey

/-- The row of a new receipt; the request it answers, if any, is committed with it. -/
def storeEffectReceipt (receipts : Table String WorkflowEffectReceiptV1)
    (requests : Table (String × String) WorkflowEffectRequestV1)
    (receipt : WorkflowEffectReceiptV1) :
    Except WorkflowError (Table String WorkflowEffectReceiptV1 ×
      Table (String × String) WorkflowEffectRequestV1) := do
  ensure (receipt.requestId.isNone || !receipts.values.any fun other =>
    other.workflowId = receipt.workflowId ∧ other.requestId = receipt.requestId)
    .workflowPersistenceFailed
  let stored ← orError .workflowPersistenceFailed (receipts.insert receipt.receiptId receipt)
  match receipt.requestId with
  | none => return (stored, requests)
  | some requestId =>
    return (stored, requests.modify (receipt.workflowId, requestId) fun request =>
      { request with
        state := .committed
        receiptId := some receipt.receiptId
        receiptRef := some receipt.artifactRef
        updatedAt := receipt.createdAt })

/-- A receipt under an idempotency key that already has one must repeat its evidence. -/
def insertEffectReceipt (tables : Table String WorkflowEffectReceiptV1 ×
      Table (String × String) WorkflowEffectRequestV1) (receipt : WorkflowEffectReceiptV1) :
    Except WorkflowError (Table String WorkflowEffectReceiptV1 ×
      Table (String × String) WorkflowEffectRequestV1) := do
  ensure (authoritySafeId receipt.receiptId && authoritySafeId receipt.workflowId &&
    authoritySafeId receipt.nodeId && authoritySafeId receipt.attemptId &&
    decide (receipt.effectClass ∈ [WorkflowEffectClassV1.workspaceWrite, .externalIdempotent,
      .externalNonIdempotent]) &&
    receipt.idempotencyKey.all authoritySafeId && receipt.createdAt.valid)
    .workflowEffectReceiptInvalid
  match receipt.idempotencyKey.bind (receiptForKey tables.1 receipt.workflowId) with
  | some prior =>
    ensure (prior.effectClass == receipt.effectClass &&
      prior.artifactRef.digest == receipt.artifactRef.digest)
      .workflowEffectIdempotencyConflict
    return tables
  | none => storeEffectReceipt tables.1 tables.2 receipt

/-- The reservation that a transaction settles, as its owner leaves it. -/
def settleReservation (workflowId : String) (at_ : Timestamp)
    (reservations : Table (String × String) WorkflowEffectReservationV1)
    (terminal : EffectReservationTerminalV1) :
    Except WorkflowError (Table (String × String) WorkflowEffectReservationV1) := do
  let reservation ← orError .workflowEffectReservationNotFound
    (reservations.get? (workflowId, terminal.idempotencyKey))
  ensure (reservation.attemptId == terminal.attemptId) .workflowEffectReservationOwnerMismatch
  return reservations.update (workflowId, terminal.idempotencyKey)
    { reservation with
      state := terminal.state.toState
      receiptRef := terminal.receiptRef.or reservation.receiptRef
      updatedAt := at_ }

/-- A reservation that its owner still holds is released; otherwise nothing happens. -/
def releaseEffectReservation
    (reservations : Table (String × String) WorkflowEffectReservationV1)
    (workflowId idempotencyKey attemptId : String) (at_ : Timestamp) :
    Table (String × String) WorkflowEffectReservationV1 :=
  match reservations.get? (workflowId, idempotencyKey) with
  | none => reservations
  | some reservation =>
    if reservation.attemptId ≠ attemptId ∨ reservation.state ≠ .reserved then reservations
    else reservations.update (workflowId, idempotencyKey)
      { reservation with state := .released, updatedAt := at_ }

/-! ## Queries -/

/-- When the scheduler last claimed a task of the workflow; empty if it never did. -/
def lastClaimedText (store : AuthorityStore) (workflowId : String) : String :=
  ((store.fairness.get? workflowId).map (·.text)).getD ""

/-- The order of the candidates of a claim: priority, fairness, readiness, id. -/
def claimBefore (store : AuthorityStore) (left right : TaskRow) : Bool :=
  let a := left.task
  let b := right.task
  if a.priority ≠ b.priority then decide (b.priority < a.priority)
  else if lastClaimedText store a.workflowId ≠ lastClaimedText store b.workflowId then
    decide (lastClaimedText store a.workflowId < lastClaimedText store b.workflowId)
  else if a.readyAt.text ≠ b.readyAt.text then decide (a.readyAt.text < b.readyAt.text)
  else decide (a.taskId ≤ b.taskId)

/-- The order of a task list: fairness, priority, readiness, id. -/
def listBefore (store : AuthorityStore) (left right : TaskRow) : Bool :=
  let a := left.task
  let b := right.task
  if lastClaimedText store a.workflowId ≠ lastClaimedText store b.workflowId then
    decide (lastClaimedText store a.workflowId < lastClaimedText store b.workflowId)
  else if a.priority ≠ b.priority then decide (b.priority < a.priority)
  else if a.readyAt.text ≠ b.readyAt.text then decide (a.readyAt.text < b.readyAt.text)
  else decide (a.taskId ≤ b.taskId)

def maxList : Nat := 500

def listTasks (store : AuthorityStore) (workflowId : String) (state : WorkflowTaskStateV1)
    (limit : Nat) : Except WorkflowError (List WorkflowTaskV1) := do
  let rows := store.tasks.values.filter fun row =>
    row.task.workflowId = workflowId ∧ row.state = state
  let page := (rows.insertionSort fun left right => listBefore store left right).take (min maxList (max 1 limit))
  let tasks ← page.mapM parseTask
  return tasks.filter fun task => task.state = state

end Praxis.Workflow
