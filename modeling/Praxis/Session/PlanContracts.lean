import Praxis.Session.Layers

/-!
# Plan contracts

A plan is a graph of steps with attempts. This module has its data, the transition tables of plans,
steps and attempts, the validators of a projected graph, and the payloads of the entries that the
session reducer builds a plan from.
-/

namespace Praxis.Session

set_option autoImplicit false

open Praxis.Foundations
open Praxis.Workflow (safeId isSha256 positiveInteger nonNegativeInteger)

/-! ## States -/

inductive PlanStateV1 where
  | draft
  | running
  | blocked
  | succeeded
  | failed
  | cancelled
  | interrupted
deriving DecidableEq

inductive PlanStepStateV1 where
  | pending
  | running
  | verifying
  | succeeded
  | failed
  | blocked
  | cancelled
  | interrupted
deriving DecidableEq

inductive PlanAttemptStateV1 where
  | reserved
  | running
  | executionSucceeded
  | executionFailed
  | verifying
  | verified
  | rejected
  | cancelled
  | interrupted
deriving DecidableEq

/-- The states as a graph writes them. -/
def PlanStateV1.text : PlanStateV1 → String
  | .draft => "draft"
  | .running => "running"
  | .blocked => "blocked"
  | .succeeded => "succeeded"
  | .failed => "failed"
  | .cancelled => "cancelled"
  | .interrupted => "interrupted"

def PlanStepStateV1.text : PlanStepStateV1 → String
  | .pending => "pending"
  | .running => "running"
  | .verifying => "verifying"
  | .succeeded => "succeeded"
  | .failed => "failed"
  | .blocked => "blocked"
  | .cancelled => "cancelled"
  | .interrupted => "interrupted"

def PlanAttemptStateV1.text : PlanAttemptStateV1 → String
  | .reserved => "reserved"
  | .running => "running"
  | .executionSucceeded => "execution_succeeded"
  | .executionFailed => "execution_failed"
  | .verifying => "verifying"
  | .verified => "verified"
  | .rejected => "rejected"
  | .cancelled => "cancelled"
  | .interrupted => "interrupted"

def planTransitions : PlanStateV1 → List PlanStateV1
  | .draft => [.running, .cancelled]
  | .running => [.blocked, .succeeded, .failed, .cancelled, .interrupted]
  | .blocked => [.running, .failed, .cancelled, .interrupted]
  | .succeeded => []
  | .failed => []
  | .cancelled => []
  | .interrupted => [.running, .failed, .cancelled]

def stepTransitions : PlanStepStateV1 → List PlanStepStateV1
  | .pending => [.running, .cancelled, .interrupted]
  | .running => [.verifying, .failed, .cancelled, .interrupted]
  | .verifying => [.succeeded, .failed, .blocked, .cancelled, .interrupted]
  | .succeeded => []
  | .failed => []
  | .blocked => []
  | .cancelled => []
  | .interrupted => [.blocked]

def attemptTransitions : PlanAttemptStateV1 → List PlanAttemptStateV1
  | .reserved => [.running, .cancelled, .interrupted]
  | .running => [.executionSucceeded, .executionFailed, .cancelled, .interrupted]
  | .executionSucceeded => [.verifying, .interrupted]
  | .executionFailed => []
  | .verifying => [.verified, .rejected, .cancelled, .interrupted]
  | .verified => []
  | .rejected => []
  | .cancelled => []
  | .interrupted => []

def planStateTransition (current next : PlanStateV1) : Bool := (planTransitions current).contains next

structure PlanStepTransitionOptions where
  retryApproved : Bool
  recoveryRetryApproved : Bool
  externalConditionChanged : Bool
  createsNewAttempt : Bool

def planStepTransition (current next : PlanStepStateV1) (options : PlanStepTransitionOptions) : Bool :=
  match current, next with
  | .failed, .pending => options.retryApproved && options.createsNewAttempt
  | .blocked, .pending => options.externalConditionChanged && options.createsNewAttempt
  | .interrupted, .pending => options.recoveryRetryApproved && options.createsNewAttempt
  | _, _ => (stepTransitions current).contains next

def planAttemptTransition (current next : PlanAttemptStateV1) : Bool :=
  (attemptTransitions current).contains next

/-! ## The graph -/

inductive PlanStepAccessModeV1 where
  | readOnly
  | isolatedProcess
  | workspaceWrite
deriving DecidableEq

def PlanStepAccessModeV1.text : PlanStepAccessModeV1 → String
  | .readOnly => "read_only"
  | .isolatedProcess => "isolated_process"
  | .workspaceWrite => "workspace_write"

structure PlanStepAccessV1 where
  mode : PlanStepAccessModeV1
  paths : List String
deriving DecidableEq

inductive PlanCriterionKindV1 where
  | schema
  | file
  | digest
  | command
  | check
  | rule
  | semantic
deriving DecidableEq

def PlanCriterionKindV1.text : PlanCriterionKindV1 → String
  | .schema => "schema"
  | .file => "file"
  | .digest => "digest"
  | .command => "command"
  | .check => "check"
  | .rule => "rule"
  | .semantic => "semantic"

structure PlanSuccessCriterionV1 where
  criterionId : String
  kind : PlanCriterionKindV1
  description : String
  ref : Option String := none
  expectedDigest : Option String := none
deriving DecidableEq

structure ExecutionBudget where
  maxTurns : Int
  maxToolCalls : Int
  maxTokens : Option Int := none
  maxChildRuns : Int
  maxParallelChildren : Int
  maxDepth : Int
  deadlineAt : Option Timestamp := none
deriving DecidableEq

/-- What a step is to do, as its entry gives it. -/
structure PlanStepDefinitionV1 where
  stepId : String
  title : String
  order : Int
  dependencies : List String
  access : PlanStepAccessV1
  capabilities : List String
  conflictKeys : List String
  criteria : List PlanSuccessCriterionV1
  budget : ExecutionBudget
  maxAttempts : Int
deriving DecidableEq

structure PlanStepV1 extends PlanStepDefinitionV1 where
  state : PlanStepStateV1
  attemptIds : List String
deriving DecidableEq

structure PlanAttemptV1 where
  attemptId : String
  stepId : String
  ordinal : Int
  state : PlanAttemptStateV1
  childRunId : Option String := none
  resultRef : Option String := none
  resultDigest : Option String := none
  verificationRef : Option String := none

structure PlanGraphV1 where
  planId : String
  revision : Int
  objective : String
  state : PlanStateV1
  steps : List PlanStepV1
  attempts : List PlanAttemptV1

/-! ## The text of a graph -/

namespace Plan

def jsonStrings (values : List String) : Json := .arr (values.map .str)

def accessJson (access : PlanStepAccessV1) : Json :=
  .obj [("mode", .str access.mode.text), ("paths", jsonStrings access.paths)]

def criterionJson (criterion : PlanSuccessCriterionV1) : Json :=
  .obj ([("criterionId", Json.str criterion.criterionId), ("kind", .str criterion.kind.text),
      ("description", .str criterion.description)] ++
    Json.field "ref" (criterion.ref.map .str) ++
    Json.field "expectedDigest" (criterion.expectedDigest.map .str))

def budgetJson (budget : ExecutionBudget) : Json :=
  .obj ([("maxTurns", Json.num budget.maxTurns), ("maxToolCalls", .num budget.maxToolCalls)] ++
    Json.field "maxTokens" (budget.maxTokens.map .num) ++
    [("maxChildRuns", Json.num budget.maxChildRuns),
      ("maxParallelChildren", .num budget.maxParallelChildren), ("maxDepth", .num budget.maxDepth)] ++
    Json.field "deadlineAt" (budget.deadlineAt.map fun deadline => .str deadline.text))

def stepJson (step : PlanStepV1) : Json :=
  .obj [("stepId", .str step.stepId), ("title", .str step.title), ("order", .num step.order),
    ("state", .str step.state.text), ("dependencies", jsonStrings step.dependencies),
    ("access", accessJson step.access), ("capabilities", jsonStrings step.capabilities),
    ("conflictKeys", jsonStrings step.conflictKeys),
    ("criteria", .arr (step.criteria.map criterionJson)), ("budget", budgetJson step.budget),
    ("maxAttempts", .num step.maxAttempts), ("attemptIds", jsonStrings step.attemptIds)]

def attemptJson (attempt : PlanAttemptV1) : Json :=
  .obj ([("attemptId", Json.str attempt.attemptId), ("stepId", .str attempt.stepId),
      ("ordinal", .num attempt.ordinal), ("state", .str attempt.state.text)] ++
    Json.field "childRunId" (attempt.childRunId.map .str) ++
    Json.field "resultRef" (attempt.resultRef.map .str) ++
    Json.field "resultDigest" (attempt.resultDigest.map .str) ++
    Json.field "verificationRef" (attempt.verificationRef.map .str))

def jsonBytes (graph : PlanGraphV1) : Nat :=
  (Json.stringify (.obj [("schemaVersion", .num 1), ("planId", .str graph.planId),
    ("revision", .num graph.revision), ("objective", .str graph.objective),
    ("state", .str graph.state.text), ("steps", .arr (graph.steps.map stepJson)),
    ("attempts", .arr (graph.attempts.map attemptJson))])).utf8ByteSize

/-! ## Validation of a graph -/

def maxGraphBytes : Nat := 256 * 1024

def maxReferenceBytes : Nat := 2 * 1024

def boundedText (value : String) (maximumBytes : Nat) : Bool :=
  !value.isEmpty && decide (value.utf8ByteSize ≤ maximumBytes)

def idList (input : List String) (maximum : Nat) : Bool :=
  decide (input.length ≤ maximum) && input.all safeId && decide input.Nodup

def textList (input : List String) (maximum bytes : Nat) : Bool :=
  decide (input.length ≤ maximum) && (input.all fun value => boundedText value bytes) &&
    decide input.Nodup

def validAccess (access : PlanStepAccessV1) : Bool := textList access.paths 64 maxReferenceBytes

def validCriterion (criterion : PlanSuccessCriterionV1) : Bool :=
  safeId criterion.criterionId && boundedText criterion.description maxTextBytes &&
    criterion.ref.all (boundedText · maxReferenceBytes) && criterion.expectedDigest.all isSha256

def validBudget (budget : ExecutionBudget) : Bool :=
  nonNegativeInteger budget.maxTurns && nonNegativeInteger budget.maxToolCalls &&
    budget.maxTokens.all positiveInteger && budget.maxChildRuns == 0 &&
    budget.maxParallelChildren == 0 && budget.maxDepth == 0 &&
    budget.deadlineAt.all fun deadline => decide deadline.Canonical

/-- What `validatePlanStepV1` accepts. -/
def validStep (step : PlanStepV1) : Bool :=
  safeId step.stepId && boundedText step.title maxTextBytes && nonNegativeInteger step.order &&
    positiveInteger step.maxAttempts && decide (step.maxAttempts ≤ 16) &&
    idList step.dependencies 32 && idList step.capabilities 64 &&
    textList step.conflictKeys 64 maxReferenceBytes && idList step.attemptIds 16 &&
    !step.dependencies.contains step.stepId &&
    decide ((step.attemptIds.length : Int) ≤ step.maxAttempts) &&
    decide (1 ≤ step.criteria.length ∧ step.criteria.length ≤ 32) && validAccess step.access &&
    step.criteria.all validCriterion && validBudget step.budget

/-- What `validatePlanAttemptV1` accepts. -/
def validAttempt (attempt : PlanAttemptV1) : Bool :=
  safeId attempt.attemptId && safeId attempt.stepId && positiveInteger attempt.ordinal &&
    attempt.childRunId.all safeId && attempt.resultRef.all (boundedText · maxReferenceBytes) &&
    attempt.resultDigest.all isSha256 && attempt.verificationRef.all (boundedText · maxReferenceBytes) &&
    attempt.resultRef.isSome == attempt.resultDigest.isSome

/-- The attempts that a step names are its own, with different ordinals. -/
def validLinks (attempts : List PlanAttemptV1) (step : PlanStepV1) : Bool :=
  match step.attemptIds.mapM fun attemptId => attempts.find? (·.attemptId == attemptId) with
  | none => false
  | some linked =>
    (linked.all fun attempt => attempt.stepId == step.stepId) &&
      decide (linked.map (·.ordinal)).Nodup

/-- What `validatePlanGraphV1` accepts. -/
def validGraph (graph : PlanGraphV1) : Bool :=
  decide (jsonBytes graph ≤ maxGraphBytes) && safeId graph.planId &&
    positiveInteger graph.revision && boundedText graph.objective maxTextBytes &&
    decide (1 ≤ graph.steps.length ∧ graph.steps.length ≤ 64) &&
    decide (graph.attempts.length ≤ 512) && graph.steps.all validStep &&
    graph.attempts.all validAttempt && decide (graph.steps.map (·.stepId)).Nodup &&
    decide (graph.steps.map (·.order)).Nodup && decide (graph.attempts.map (·.attemptId)).Nodup &&
    decide (graph.attempts.filterMap (·.childRunId)).Nodup &&
    graph.steps.all (validLinks graph.attempts) &&
    graph.attempts.all fun attempt =>
      (graph.steps.flatMap (·.attemptIds)).contains attempt.attemptId

end Plan

inductive SubagentRefKindV1 where
  | contextPacket
  | bootstrapProfile
  | capabilityBundle
  | executionBudget
deriving DecidableEq

structure SubagentVersionedRefV1 where
  kind : SubagentRefKindV1
  id : String
  version : Int
  digest : String
deriving DecidableEq

structure SubagentExecutionRequestV1 where
  parentRunId : String
  childRunId : String
  packetRef : SubagentVersionedRefV1
  profileRef : SubagentVersionedRefV1
  bundleRef : SubagentVersionedRefV1
  budgetRef : SubagentVersionedRefV1
deriving DecidableEq

def versionedRef (input : SubagentVersionedRefV1) (kind : SubagentRefKindV1) (version : Int) : Bool :=
  input.kind == kind && safeId input.id && input.version == version && isSha256 input.digest

/-- What `validateSubagentExecutionRequestV1` accepts. -/
def SubagentExecutionRequestV1.valid (input : SubagentExecutionRequestV1) : Bool :=
  safeId input.parentRunId && safeId input.childRunId && input.parentRunId != input.childRunId &&
    versionedRef input.packetRef .contextPacket 1 &&
    versionedRef input.profileRef .bootstrapProfile 3 &&
    versionedRef input.bundleRef .capabilityBundle 1 &&
    versionedRef input.budgetRef .executionBudget 1

/-! ## The entries of a plan -/

/-- How an execution ended. -/
inductive PlanExecutionStatusV3 where
  | succeeded
  | failed
  | cancelled
deriving DecidableEq

inductive SessionRetrySafetyV3 where
  | readOnlyIdempotent
  | nonIdempotent
  | unknown
deriving DecidableEq

inductive SessionVerifierV3 where
  | mechanical
  | rule
  | model
deriving DecidableEq

inductive SessionVerificationStatusV3 where
  | passed
  | failed
  | blocked
deriving DecidableEq

structure SessionVerificationProjectionV3 where
  verificationId : String
  verifier : SessionVerifierV3
  status : SessionVerificationStatusV3
  evidenceRefs : List String
  code : Option String := none
  retryable : Option Bool := none
deriving DecidableEq

inductive PlanDecisionActionV3 where
  | retry
  | continue_
  | freshWorker
  | replan
  | askUser
deriving DecidableEq

inductive PlanDecisionOutcomeV3 where
  | selected
  | applied
  | noProgress
deriving DecidableEq

structure PlanReuseProofV3 where
  stepId : String
  previousInputDigest : String
  nextInputDigest : String
deriving DecidableEq

inductive PlanStepChangeReasonV3 where
  | retryApproved
  | recoveryRetryApproved
  | externalConditionChanged
deriving DecidableEq

/-- The revision of a plan that an entry is about. -/
structure PlanRefV3 where
  planId : String
  planRevision : Int
deriving DecidableEq

structure StepRefV3 extends PlanRefV3 where
  stepId : String
deriving DecidableEq

structure AttemptRefV3 extends StepRefV3 where
  attemptId : String
deriving DecidableEq

structure PlanDecisionV3 extends PlanRefV3 where
  action : PlanDecisionActionV3
  outcome : PlanDecisionOutcomeV3
  reasonCode : String
  stepId : Option String := none
  attemptId : Option String := none
deriving DecidableEq

structure PlanRevisionV3 where
  planId : String
  fromRevision : Int
  toRevision : Int
  objective : String
  state : PlanStateV1
  reuseProofs : List PlanReuseProofV3
deriving DecidableEq

structure StepChangeV3 extends StepRefV3 where
  state : PlanStepStateV1
  reason : Option PlanStepChangeReasonV3 := none
  newAttemptId : Option String := none
  errorCode : Option String := none
deriving DecidableEq

structure SubagentResultV3 extends AttemptRefV3 where
  childRunId : String
  resultRef : String
  resultDigest : String
  status : PlanExecutionStatusV3
deriving DecidableEq

/-- The entry types that a plan is built from, with their data. -/
inductive PlanEventV3 where
  | planCreated (ref : PlanRefV3) (objective : String) (state : PlanStateV1)
  | planStateChanged (ref : PlanRefV3) (state : PlanStateV1)
  | planDecisionRecorded (data : PlanDecisionV3)
  | planRevised (data : PlanRevisionV3)
  | stepCreated (ref : PlanRefV3) (definition : PlanStepDefinitionV1) (state : PlanStepStateV1)
  | stepStateChanged (data : StepChangeV3)
  | attemptCreated (ref : AttemptRefV3) (ordinal : Int) (state : PlanAttemptStateV1)
      (childRunId : Option String)
  | attemptStateChanged (ref : AttemptRefV3) (state : PlanAttemptStateV1) (errorCode : Option String)
  | attemptExecutionCompleted (ref : AttemptRefV3) (status : PlanExecutionStatusV3)
  | subagentExecutionBound (ref : AttemptRefV3) (childRunId : String)
      (request : SubagentExecutionRequestV1) (retrySafety : SessionRetrySafetyV3)
  | subagentResultRecorded (data : SubagentResultV3)
  | verificationRecorded (ref : AttemptRefV3) (verification : SessionVerificationProjectionV3)
deriving DecidableEq

def PlanRefV3.valid (ref : PlanRefV3) : Bool := safeId ref.planId && positiveInteger ref.planRevision

def StepRefV3.valid (ref : StepRefV3) : Bool := ref.toPlanRefV3.valid && safeId ref.stepId

def AttemptRefV3.valid (ref : AttemptRefV3) : Bool := ref.toStepRefV3.valid && safeId ref.attemptId

def PlanDecisionV3.valid (data : PlanDecisionV3) : Bool :=
  data.toPlanRefV3.valid && safeId data.reasonCode && data.stepId.all safeId &&
    data.attemptId.all safeId && data.attemptId.isSome == data.stepId.isSome &&
    match data.action with
    | .replan => data.outcome != .selected && data.stepId.isNone
    | .askUser => data.outcome == .selected && data.stepId.isNone
    | .retry | .continue_ | .freshWorker => data.outcome == .selected && data.stepId.isSome

/-- What `replanReuseProofs` accepts. -/
def replanReuseProofs (proofs : List PlanReuseProofV3) : Bool :=
  decide (proofs.length ≤ 64) &&
    (proofs.all fun proof => safeId proof.stepId && isSha256 proof.previousInputDigest &&
      isSha256 proof.nextInputDigest) &&
    decide (proofs.map (·.stepId)).Nodup

def PlanRevisionV3.valid (data : PlanRevisionV3) : Bool :=
  safeId data.planId && positiveInteger data.fromRevision && positiveInteger data.toRevision &&
    boundedText data.objective && data.state == .running && replanReuseProofs data.reuseProofs

def StepChangeV3.valid (data : StepChangeV3) : Bool :=
  data.toStepRefV3.valid && data.reason.isSome == data.newAttemptId.isSome &&
    data.newAttemptId.all safeId && data.errorCode.all safeId &&
    (data.errorCode.isNone || [.failed, .blocked, .cancelled, .interrupted].contains data.state)

/-- The checks of the payloads, one entry type after the other. -/
def PlanEventV3.valid : PlanEventV3 → Bool
  | .planCreated ref objective _ => ref.valid && boundedText objective
  | .planStateChanged ref _ => ref.valid
  | .planDecisionRecorded data => data.valid
  | .planRevised data => data.valid
  | .stepCreated ref definition state =>
    ref.valid && Plan.validStep { definition with
      state
      attemptIds := [] }
  | .stepStateChanged data => data.valid
  | .attemptCreated ref ordinal _ childRunId =>
    ref.valid && positiveInteger ordinal && childRunId.all safeId
  | .attemptStateChanged ref state errorCode =>
    ref.valid && errorCode.all safeId &&
      (errorCode.isNone || [.executionFailed, .rejected, .cancelled, .interrupted].contains state)
  | .attemptExecutionCompleted ref _ => ref.valid
  | .subagentExecutionBound ref childRunId request _ =>
    ref.valid && safeId childRunId && request.valid && request.childRunId == childRunId
  | .subagentResultRecorded data =>
    data.toAttemptRefV3.valid && safeId data.childRunId && boundedText data.resultRef &&
      isSha256 data.resultDigest
  | .verificationRecorded ref verification =>
    ref.valid && safeId verification.verificationId && stringList verification.evidenceRefs &&
      verification.code.all safeId

end Praxis.Session
