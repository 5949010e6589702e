import Praxis.Foundations.Json
import Praxis.Foundations.Timestamp

/-!
# Workflow contracts

The data of the workflow contracts: specifications, events, projections, and the records
the authority stores beside them. A field that may be undefined is an option, and an option
that is `none` is absent from the JSON copy of a record. Numbers that the contracts check
are integers; the literal schema version of each record is left out.
-/

namespace Praxis.Workflow

set_option autoImplicit false

open Praxis.Foundations

/-! ## Errors -/

/-- Why the workflow contracts, the authority or the orchestrator reject: the code of the
error, of which its message is a rendering. -/
inductive WorkflowError where
  | agentProfileNotFound
  | rangeError
  | modeOverrideIncompatible
  | planExecutionBindingInvalid
  | workflowActivityTaskUnavailable
  | workflowAgentBudgetExhausted
  | workflowAlreadyExists
  | workflowAttemptDuplicate
  | workflowAttemptInvalid
  | workflowAttemptNotFound
  | workflowBudgetInvalid
  | workflowCapabilityInvalid
  | workflowCompensationConflict
  | workflowCompensationInvalid
  | workflowCompensationReceiptNotFound
  | workflowCriterionInvalid
  | workflowDeadlineExceeded
  | workflowDelegationDenied
  | workflowEdgeInvalid
  | workflowEffectIdempotencyConflict
  | workflowEffectIdempotencyKeyMissing
  | workflowEffectInvalid
  | workflowEffectReceiptInvalid
  | workflowEffectReceiptRequired
  | workflowEffectRequestConflict
  | workflowEffectRequestInvalid
  | workflowEffectReservationInvalid
  | workflowEffectReservationNotFound
  | workflowEffectReservationOwnerMismatch
  | workflowExecutionSnapshotConflict
  | workflowExecutionSnapshotInvalid
  | workflowGraphConditionInvalid
  | workflowGraphCycle
  | workflowGraphPatchRejected
  | workflowGraphReferenceInvalid
  | workflowHistoryInvalid
  | workflowHumanTaskInvalid
  | workflowHumanTaskNotFound
  | workflowJoinInvalid
  | workflowLeaseInvalid
  | workflowLeaseLost
  | workflowMessageAckInvalid
  | workflowMessageCorrupt
  | workflowMessageIdConflict
  | workflowMessageInvalid
  | workflowMessageNotFound
  | workflowMessageReadInvalid
  | workflowMessageSequenceInvalid
  | workflowNodeDuplicate
  | workflowNodeInvalid
  | workflowNodeNotFound
  | workflowNodeTaskUnavailable
  | workflowNotFound
  | workflowPauseInvalidState
  | workflowPersistenceFailed
  | workflowProfileDenied
  | workflowProposalDuplicate
  | workflowRefInvalid
  | workflowResolutionInvalid
  | workflowResolutionInvalidState
  | workflowResumeInvalidState
  | workflowRetryExhausted
  | workflowRetryInvalid
  | workflowRetryInvalidState
  | workflowRevisionConflict
  | workflowRootNotFound
  | workflowRootTaskUnavailable
  | workflowSequenceConflict
  | workflowSignalInvalid
  | workflowSpecInvalid
  | workflowSupersessionInvalid
  | workflowTaskCancelInvalidState
  | workflowTaskCorrupt
  | workflowTaskInvalid
  | workflowTaskNotFound
  | workflowTaskRequestConflict
  | workflowTaskRequestInvalid
  | workflowTimeoutInvalid
  | workflowTimerInvalid
  | workflowTokenBudgetExhausted
  | workflowToolBudgetExhausted
  | workflowTransactionInvalid
  | workflowTransitionInvalid
  | workflowWorkerInvalid
deriving DecidableEq

/-! ## States -/

inductive WorkflowModePolicyV1 where
  | auto | solo | workflow
deriving DecidableEq

inductive WorkflowTopologyV1 where
  | singleAgent | delegatedAgents | workflowGraph
deriving DecidableEq

inductive WorkflowStateV1 where
  | created | running | waiting | paused | cancelling | cancelled | completed | failed
  | terminated
deriving DecidableEq

/-- The states a `workflow.terminal` event may announce. -/
inductive WorkflowTerminalStateV1 where
  | cancelled | completed | failed | terminated
deriving DecidableEq

def WorkflowTerminalStateV1.toState : WorkflowTerminalStateV1 → WorkflowStateV1
  | .cancelled => .cancelled
  | .completed => .completed
  | .failed => .failed
  | .terminated => .terminated

inductive WorkflowNodeKindV1 where
  | agentTask | toolActivity | decision | verification | humanTask | timer | signalWait
  | subworkflow | compensation | synthesis
deriving DecidableEq

inductive WorkflowNodeStateV1 where
  | proposed | admitted | scheduled | leased | running | waiting | verifying | retryWait
  | unknown | skipped | succeeded | failed | cancelled | manualIntervention
deriving DecidableEq

/-- A node state as the projection's JSON writes it. -/
def WorkflowNodeStateV1.text : WorkflowNodeStateV1 → String
  | .proposed => "proposed"
  | .admitted => "admitted"
  | .scheduled => "scheduled"
  | .leased => "leased"
  | .running => "running"
  | .waiting => "waiting"
  | .verifying => "verifying"
  | .retryWait => "retry_wait"
  | .unknown => "unknown"
  | .skipped => "skipped"
  | .succeeded => "succeeded"
  | .failed => "failed"
  | .cancelled => "cancelled"
  | .manualIntervention => "manual_intervention"

inductive WorkflowAttemptStateV1 where
  | scheduled | leased | running | waiting | verifying | retryWait | unknown | succeeded
  | failed | cancelled | manualIntervention
deriving DecidableEq

inductive WorkflowEffectClassV1 where
  | pure | read | workspaceWrite | externalIdempotent | externalNonIdempotent
deriving DecidableEq

/-! ## Specifications -/

structure VersionedWorkflowRefV1 where
  id : String
  version : Int
  digest : Option String := none
deriving DecidableEq

structure WorkflowArtifactRefV1 where
  artifactId : String
  digest : String
  mediaType : String
deriving DecidableEq

structure WorkflowBudgetV1 where
  maxWallClockMs : Int
  maxTokens : Int
  maxToolCalls : Int
  maxAgentTasks : Int
  maxParallelTasks : Int
  maxCostUsd : Option Rat := none
deriving DecidableEq

structure WorkflowCapacityGroupV1 where
  key : String
  limit : Int
deriving DecidableEq

/-- Admission limits shared by every worker that claims tasks of the workflow. -/
structure WorkflowSchedulingPolicyV1 where
  capacityGroups : List WorkflowCapacityGroupV1
deriving DecidableEq

inductive WorkflowWorkspaceAccessV1 where
  | none | read | write
deriving DecidableEq

structure CapabilityRequestV1 where
  tools : List String
  skills : List String
  mcpServers : List String
  workspace : WorkflowWorkspaceAccessV1
  network : Bool
  mayDelegate : Bool
deriving DecidableEq

structure EffectContractV1 where
  effectClass : WorkflowEffectClassV1
  idempotencyKey : Option String := none
  receiptSchemaRef : Option VersionedWorkflowRefV1 := none
  compensationRef : Option VersionedWorkflowRefV1 := none
  requiresApproval : Bool
deriving DecidableEq

structure WorkflowRetryPolicyV1 where
  maxAttempts : Int
  initialBackoffMs : Int
  maxBackoffMs : Int
  retryableCodes : List String
deriving DecidableEq

structure WorkflowTimeoutPolicyV1 where
  totalMs : Int
  noProgressMs : Int
  heartbeatMs : Int
deriving DecidableEq

inductive WorkflowCriterionKindV1 where
  | schema | digest | receipt | rule | check | semantic | human
deriving DecidableEq

structure WorkflowVerificationCriterionV1 where
  criterionId : String
  kind : WorkflowCriterionKindV1
  description : String
  ref : Option String := none
deriving DecidableEq

inductive WorkflowJoinPolicyV1 where
  | all
  | any
  | quorum (minimum : Int)
deriving DecidableEq

structure WorkflowNodeSpecV1 where
  nodeId : String
  kind : WorkflowNodeKindV1
  title : String
  /-- Whether the node takes part in the completion contract; it does when undefined. -/
  required : Option Bool := none
  profileRef : Option VersionedWorkflowRefV1 := none
  inputRefs : List WorkflowArtifactRefV1
  outputSchemaRef : Option VersionedWorkflowRefV1 := none
  grantRequest : CapabilityRequestV1
  effect : EffectContractV1
  retry : WorkflowRetryPolicyV1
  timeout : WorkflowTimeoutPolicyV1
  criteria : List WorkflowVerificationCriterionV1
  maxIterations : Option Int := none
  join : Option WorkflowJoinPolicyV1 := none
deriving DecidableEq

inductive WorkflowConditionOperatorV1 where
  | statusIs | isPresent | isEqual | isIn
deriving DecidableEq

structure WorkflowEdgeConditionV1 where
  operator : WorkflowConditionOperatorV1
  pointer : Option String := none
  value : Option Json
deriving DecidableEq

structure WorkflowEdgeV1 where
  fromNode : String
  toNode : String
  condition : Option WorkflowEdgeConditionV1 := none
deriving DecidableEq

inductive WorkflowCompletionV1 where
  | allRequired | firstSuccess | explicitSynthesis
deriving DecidableEq

structure WorkflowExecutionTargetV1 where
  providerId : String
  model : String
deriving DecidableEq

structure WorkflowSpecV1 where
  workflowId : String
  runId : String
  sessionId : String
  parentWorkflowId : Option String := none
  parentNodeId : Option String := none
  executionTarget : Option WorkflowExecutionTargetV1 := none
  scheduling : Option WorkflowSchedulingPolicyV1 := none
  workspace : String
  objective : String
  modePolicy : WorkflowModePolicyV1
  topology : WorkflowTopologyV1
  revision : Int
  nodes : List WorkflowNodeSpecV1
  edges : List WorkflowEdgeV1
  completion : WorkflowCompletionV1
  budget : WorkflowBudgetV1
  maxGraphMutations : Int
  createdAt : Timestamp
deriving DecidableEq

/-! ## Projections -/

structure WorkflowNodeProjectionV1 where
  nodeId : String
  state : WorkflowNodeStateV1
  attemptIds : List String
  resultRef : Option WorkflowArtifactRefV1 := none
  errorCode : Option String := none

structure WorkflowAttemptProjectionV1 where
  attemptId : String
  nodeId : String
  ordinal : Nat
  state : WorkflowAttemptStateV1
  leaseToken : Option String := none
  workerId : Option String := none
  startedAt : Option Timestamp := none
  lastProgressAt : Option Timestamp := none
  finishedAt : Option Timestamp := none
  resultRef : Option WorkflowArtifactRefV1 := none
  receiptRef : Option WorkflowArtifactRefV1 := none
  errorCode : Option String := none
deriving DecidableEq

structure WorkflowUsageV1 where
  turns : Int
  toolCalls : Int
  inputTokens : Int
  outputTokens : Int
  agentTasks : Int
deriving DecidableEq

structure WorkflowProjectionV1 where
  workflowId : String
  runId : String
  sessionId : String
  revision : Int
  sequence : Nat
  state : WorkflowStateV1
  spec : WorkflowSpecV1
  nodes : List WorkflowNodeProjectionV1
  attempts : List WorkflowAttemptProjectionV1
  graphMutations : Nat
  usage : WorkflowUsageV1
  updatedAt : Timestamp
  terminalCode : Option String := none

/-! ## Events -/

inductive WorkflowHumanTaskStateV1 where
  | waiting | allowed | denied | expired | cancelled
deriving DecidableEq

structure NodeStateChangedV1 where
  nodeId : String
  state : WorkflowNodeStateV1
  errorCode : Option String := none
  resultRef : Option WorkflowArtifactRefV1 := none
deriving DecidableEq

structure AttemptStateChangedV1 where
  attemptId : String
  state : WorkflowAttemptStateV1
  leaseToken : Option String := none
  workerId : Option String := none
  changedAt : Timestamp
  errorCode : Option String := none
  resultRef : Option WorkflowArtifactRefV1 := none
  receiptRef : Option WorkflowArtifactRefV1 := none
deriving DecidableEq

inductive WorkflowEventDataV1 where
  | workflowCreated (spec : WorkflowSpecV1)
  | workflowStarted
  | workflowWaiting
  | workflowPaused
  | workflowResumed
  | workflowCancelling (code : String)
  | workflowTerminal (state : WorkflowTerminalStateV1) (code : Option String)
  | workflowTopologyChanged (topology : WorkflowTopologyV1)
  | budgetCharged (usage : WorkflowUsageV1)
  | signalReceived (signalId name : String)
  | effectReceiptRecorded (receiptId nodeId attemptId : String)
  | effectReserved (nodeId attemptId idempotencyKey inputDigest : String)
  | effectReplayed (nodeId attemptId idempotencyKey : String)
  | executionSnapshotBound (nodeId attemptId : String) (snapshotRef : WorkflowArtifactRefV1)
  | effectCompensated (receiptId compensationReceiptId nodeId : String)
  | timerFired (timerId nodeId : String)
  | humanTaskResolved (humanTaskId nodeId : String) (state : WorkflowHumanTaskStateV1)
  | graphPatched (spec : WorkflowSpecV1)
  | executionTaskAdmitted (requestId requestDigest : String) (node : WorkflowNodeSpecV1)
      (attempt : WorkflowAttemptProjectionV1)
  | nodeStateChanged (change : NodeStateChangedV1)
  | attemptCreated (attempt : WorkflowAttemptProjectionV1)
  | attemptStateChanged (change : AttemptStateChangedV1)
deriving DecidableEq

structure WorkflowEventV1 where
  eventId : String
  workflowId : String
  runId : String
  sequence : Nat
  occurredAt : Timestamp
  causationId : Option String := none
  data : WorkflowEventDataV1

end Praxis.Workflow
