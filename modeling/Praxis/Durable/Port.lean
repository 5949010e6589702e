import Praxis.Durable.SpecValidation

/-!
# Records of the authority port

The records that pass between the orchestrator and the authority: tasks and their leases,
the resources a transaction may write beside its events, and the transaction itself. A
task's payload is opaque to both sides and left out.
-/

namespace Praxis.Workflow

set_option autoImplicit false

open Praxis.Foundations

/-! ## Tasks -/

inductive WorkflowTaskKindV1 where
  | agent | tool | verification | compensation | subworkflow
deriving DecidableEq

inductive WorkflowTaskStateV1 where
  | ready | leased | completed | failed | unknown | cancelled
deriving DecidableEq

structure PlanExecutionBindingV1 where
  sessionId : String
  planId : String
  planRevision : Int
  itemId : String
  itemAttemptId : String
  requestId : String
deriving DecidableEq

/-- The fields of a binding as `validatePlanExecutionBindingV1` checks them. -/
def PlanExecutionBindingV1.isValid (binding : PlanExecutionBindingV1) : Bool :=
  safeId binding.sessionId && safeId binding.planId && positiveInteger binding.planRevision &&
    safeId binding.itemId && safeId binding.itemAttemptId && safeId binding.requestId

structure WorkflowTaskLeaseV1 where
  token : String
  workerId : String
  acquiredAt : Timestamp
  expiresAt : Timestamp
  lastHeartbeatAt : Timestamp
  lastProgressAt : Timestamp

structure WorkflowTaskV1 where
  taskId : String
  workflowId : String
  runId : String
  nodeId : String
  attemptId : String
  kind : WorkflowTaskKindV1
  profileRef : Option VersionedWorkflowRefV1 := none
  capabilityBundleRef : Option VersionedWorkflowRefV1 := none
  state : WorkflowTaskStateV1
  priority : Int
  readyAt : Timestamp
  deadlineAt : Timestamp
  conflictKeys : List String
  effect : EffectContractV1
  retry : WorkflowRetryPolicyV1
  timeout : WorkflowTimeoutPolicyV1
  lease : Option WorkflowTaskLeaseV1 := none
  createdAt : Timestamp
  updatedAt : Timestamp
  executionBinding : Option PlanExecutionBindingV1 := none

structure WorkflowTaskClaimV1 where
  task : WorkflowTaskV1
  lease : WorkflowTaskLeaseV1

structure ReviewPlanExecutionRequestV1 where
  binding : PlanExecutionBindingV1
  workflowId : String
  inputDigest : String

structure WorkflowTaskSpecV1 where
  node : WorkflowNodeSpecV1
  kind : WorkflowTaskKindV1
  profileRef : Option VersionedWorkflowRefV1 := none
  priority : Int
  readyAt : Timestamp
  deadlineAt : Timestamp
  conflictKeys : List String

/-! ## Resources -/

structure WorkflowOutboxMessageV1 where
  messageId : String
  workflowId : String
  topic : String
  key : String
  payload : Json
  availableAt : Timestamp

structure WorkflowTimerV1 where
  timerId : String
  workflowId : String
  nodeId : String
  fireAt : Timestamp
  payload : Json

structure WorkflowSignalV1 where
  signalId : String
  workflowId : String
  name : String
  payload : Json
  receivedAt : Timestamp

inductive WorkflowMessageTypeV1 where
  | instruction | progress | milestone | question | answer | result | error | control
deriving DecidableEq

def WorkflowMessageTypeV1.text : WorkflowMessageTypeV1 → String
  | .instruction => "instruction"
  | .progress => "progress"
  | .milestone => "milestone"
  | .question => "question"
  | .answer => "answer"
  | .result => "result"
  | .error => "error"
  | .control => "control"

inductive WorkflowMessagePartyKindV1 where
  | user | runtime | node
deriving DecidableEq

def WorkflowMessagePartyKindV1.text : WorkflowMessagePartyKindV1 → String
  | .user => "user"
  | .runtime => "runtime"
  | .node => "node"

structure WorkflowMessagePartyV1 where
  kind : WorkflowMessagePartyKindV1
  id : String
  attemptId : Option String := none
deriving DecidableEq

inductive WorkflowMessageRecipientKindV1 where
  | workflow | node
deriving DecidableEq

def WorkflowMessageRecipientKindV1.text : WorkflowMessageRecipientKindV1 → String
  | .workflow => "workflow"
  | .node => "node"

structure WorkflowMessageRecipientV1 where
  kind : WorkflowMessageRecipientKindV1
  id : String
deriving DecidableEq

structure WorkflowMessageInputV1 where
  messageId : String
  workflowId : String
  sender : WorkflowMessagePartyV1
  recipient : WorkflowMessageRecipientV1
  type : WorkflowMessageTypeV1
  /-- The fields of the payload object. -/
  payload : List (String × Json)
  artifactRefs : Option (List WorkflowArtifactRefV1) := none
  causationId : Option String := none
  correlationId : Option String := none
  createdAt : Timestamp
deriving DecidableEq

structure WorkflowMessageV1 where
  input : WorkflowMessageInputV1
  sequence : Nat
  acknowledgedAt : Option Timestamp := none
deriving DecidableEq

structure WorkflowHumanTaskV1 where
  humanTaskId : String
  workflowId : String
  nodeId : String
  state : WorkflowHumanTaskStateV1
  request : Json
  expiresAt : Option Timestamp := none
  resolution : Option Json := none

/-! ## Effects -/

inductive WorkflowReceiptStateV1 where
  | committed | compensated
deriving DecidableEq

structure WorkflowEffectReceiptV1 where
  receiptId : String
  workflowId : String
  nodeId : String
  attemptId : String
  effectClass : WorkflowEffectClassV1
  idempotencyKey : Option String := none
  state : WorkflowReceiptStateV1
  artifactRef : WorkflowArtifactRefV1
  createdAt : Timestamp
  compensatedAt : Option Timestamp := none
  compensationReceiptRef : Option WorkflowArtifactRefV1 := none
  requestId : Option String := none

inductive WorkflowReservationStateV1 where
  | reserved | committed | unknown | released
deriving DecidableEq

structure WorkflowEffectReservationV1 where
  workflowId : String
  idempotencyKey : String
  inputDigest : String
  attemptId : String
  state : WorkflowReservationStateV1
  leaseExpiresAt : Timestamp
  receiptRef : Option WorkflowArtifactRefV1 := none
  updatedAt : Timestamp

inductive WorkflowEffectDecisionV1 where
  | execute | replay | inProgress | conflict
deriving DecidableEq

structure WorkflowEffectAdmissionV1 where
  decision : WorkflowEffectDecisionV1
  reservation : WorkflowEffectReservationV1

inductive WorkflowEffectRequestStateV1 where
  | reserved | committed | unknown | released | failed | cancelled

structure WorkflowEffectRequestV1 where
  workflowId : String
  requestId : String
  requestDigest : String
  effectKind : WorkflowEffectClassV1
  executionBinding : PlanExecutionBindingV1
  externalIdempotencyKey : Option String := none
  state : WorkflowEffectRequestStateV1
  leaseExpiresAt : Option Timestamp := none
  receiptId : Option String := none
  receiptRef : Option WorkflowArtifactRefV1 := none
  createdAt : Timestamp
  updatedAt : Timestamp

/-! ## Transactions -/

/-- The states in which a worker may acknowledge a task. -/
inductive AcknowledgedStateV1 where
  | completed | failed | unknown | cancelled

def AcknowledgedStateV1.toState : AcknowledgedStateV1 → WorkflowTaskStateV1
  | .completed => .completed
  | .failed => .failed
  | .unknown => .unknown
  | .cancelled => .cancelled

structure AcknowledgeTaskV1 where
  taskId : String
  leaseToken : String
  state : AcknowledgedStateV1

/-- The states in which a transaction may leave an effect reservation. -/
inductive ReservationTerminalStateV1 where
  | committed | unknown | released

def ReservationTerminalStateV1.toState :
    ReservationTerminalStateV1 → WorkflowReservationStateV1
  | .committed => .committed
  | .unknown => .unknown
  | .released => .released

structure EffectReservationTerminalV1 where
  idempotencyKey : String
  attemptId : String
  state : ReservationTerminalStateV1
  receiptRef : Option WorkflowArtifactRefV1 := none

structure WorkflowTransactionV1 where
  transactionId : String
  workflowId : String
  expectedSequence : Int
  events : List WorkflowEventDataV1
  enqueueTasks : List WorkflowTaskV1 := []
  outbox : List WorkflowOutboxMessageV1 := []
  timers : List WorkflowTimerV1 := []
  humanTasks : List WorkflowHumanTaskV1 := []
  effectReceipts : List WorkflowEffectReceiptV1 := []
  messages : List WorkflowMessageInputV1 := []
  effectReservationTerminal : Option EffectReservationTerminalV1 := none
  acknowledgeTask : Option AcknowledgeTaskV1 := none
  cancelReadyTasks : List String := []
  occurredAt : Timestamp

/-- What a new workflow may write beside its first events. -/
structure WorkflowBootstrapV1 where
  events : List WorkflowEventDataV1 := []
  tasks : List WorkflowTaskV1 := []
  outbox : List WorkflowOutboxMessageV1 := []
  timers : List WorkflowTimerV1 := []
  humanTasks : List WorkflowHumanTaskV1 := []
  effectReceipts : List WorkflowEffectReceiptV1 := []

inductive WorkflowRecoveryChoiceV1 where
  | retry | unknown | manualIntervention
deriving DecidableEq

structure WorkflowRecoveryDecisionV1 where
  taskId : String
  attemptId : String
  priorState : WorkflowAttemptStateV1
  decision : WorkflowRecoveryChoiceV1
  code : String

/-- A random id: 36 hexadecimal digits and hyphens. -/
structure Uuid where
  text : String
  shape : text.toList.length = 36 ∧ text.toList.all (fun c => isHexDigit c || c == '-') = true

theorem zeroUuid_shape : "00000000-0000-4000-8000-000000000000".toList.length = 36 ∧
    "00000000-0000-4000-8000-000000000000".toList.all (fun c => isHexDigit c || c == '-') = true := by
  decide +kernel

end Praxis.Workflow
