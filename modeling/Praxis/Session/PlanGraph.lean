import Praxis.Session.PlanContracts
import Praxis.Session.RunDiscipline

/-!
# The plan of a session

The reducer's variables about a plan, what each entry type does to them, and the projection of the
plan as a graph, which checks the whole of it.
-/

namespace Praxis.Session

set_option autoImplicit false

open Praxis.Foundations

/-! ## The variables -/

structure MutableAttempt where
  attemptId : String
  ordinal : Int
  state : PlanAttemptStateV1
  childRunId : Option String := none
  resultRef : Option String := none
  resultDigest : Option String := none
  resultStatus : Option PlanExecutionStatusV3 := none
  verificationRef : Option String := none
  errorCode : Option String := none
  execution : Option (SubagentExecutionRequestV1 × SessionRetrySafetyV3) := none
  verifications : List SessionVerificationProjectionV3 := []

structure MutableStep where
  definition : PlanStepDefinitionV1
  state : PlanStepStateV1
  errorCode : Option String := none
  attempts : Table String MutableAttempt := Table.empty

structure MutablePlan where
  planId : String
  revision : Int
  objective : String
  state : PlanStateV1
  steps : Table String MutableStep := Table.empty

/-- The plan, and the ids of plans, steps, attempts, child runs and verifications so far. -/
structure PlanVariables where
  stableIds : List String := []
  plan : Option MutablePlan := none

def idReused : String := "SESSION_REDUCER_ID_REUSED"

def useLayerId (ids : List String) (kind id : String) : Except String (List String) := do
  ensure (!ids.contains (kind ++ ":" ++ id)) idReused
  return ids ++ [kind ++ ":" ++ id]

variable (own : PlanVariables)

def PlanVariables.useStableId (kind id : String) :
    Except String PlanVariables := do
  let stableIds ← useLayerId own.stableIds kind id
  return { own with stableIds }

/-- The child run that an entry names, if it names one. -/
def PlanVariables.useChildRun : Option String → Except String PlanVariables
  | none => .ok own
  | some childRunId => own.useStableId "child-run" childRunId

/-- The first of the attempts of a step in descending order of their ordinals. -/
def latestStepAttempt (step : MutableStep) : Option MutableAttempt :=
  (step.attempts.values.insertionSort fun left right => right.ordinal ≤ left.ordinal).head?

def requirePlanRevision (plan : Option MutablePlan) (ref : PlanRefV3) : Except String MutablePlan := do
  let current ← orError transitionInvalid plan
  ensure (current.planId == ref.planId) transitionInvalid
  ensure (current.revision == ref.planRevision) transitionInvalid
  return current

def requireStepRevision (plan : Option MutablePlan) (ref : StepRefV3) :
    Except String (MutablePlan × MutableStep) := do
  let current ← requirePlanRevision plan ref.toPlanRefV3
  let step ← orError transitionInvalid (current.steps.get? ref.stepId)
  return (current, step)

def requireAttemptRevision (plan : Option MutablePlan) (ref : AttemptRefV3) :
    Except String (MutablePlan × MutableStep × MutableAttempt) := do
  let (current, step) ← requireStepRevision plan ref.toStepRefV3
  let attempt ← orError transitionInvalid (step.attempts.get? ref.attemptId)
  return (current, step, attempt)

/-- A step as it is now, in place of the step before. -/
def MutablePlan.setStep (plan : MutablePlan) (stepId : String) (step : MutableStep) : MutablePlan :=
  { plan with steps := plan.steps.upsert stepId step }

/-- An attempt as it is now, in place of the attempt before. -/
def MutablePlan.setAttempt (plan : MutablePlan) (ref : AttemptRefV3) (step : MutableStep)
    (attempt : MutableAttempt) : MutablePlan :=
  plan.setStep ref.stepId { step with attempts := step.attempts.upsert ref.attemptId attempt }

/-! ## What the entries do -/

def reducePlanCreated (ref : PlanRefV3) (objective : String)
    (state : PlanStateV1) : Except String PlanVariables := do
  ensure (own.plan.all fun plan =>
    [.succeeded, .failed, .cancelled, .interrupted].contains plan.state) transitionInvalid
  let own ← own.useStableId "plan" ref.planId
  return { own with
    plan := some
      { planId := ref.planId
        revision := ref.planRevision
        objective
        state } }

def reducePlanStateChanged (ref : PlanRefV3) (state : PlanStateV1) :
    Except String PlanVariables := do
  let current ← requirePlanRevision own.plan ref
  ensure (planStateTransition current.state state) transitionInvalid
  ensure (state != .succeeded || current.steps.values.all fun step => step.state == .succeeded)
    transitionInvalid
  return { own with plan := some { current with state } }

def reducePlanDecisionRecorded (data : PlanDecisionV3) :
    Except String PlanVariables := do
  let current ← requirePlanRevision own.plan data.toPlanRefV3
  match data.stepId with
  | none => return own
  | some stepId => do
      let step ← orError transitionInvalid (current.steps.get? stepId)
      ensure (data.attemptId.all step.attempts.contains) transitionInvalid
      return own

/-- Work of a step that a revision must not find. -/
def MutableStep.unsettled (step : MutableStep) : Bool :=
  [.running, .verifying].contains step.state ||
    step.attempts.values.any fun attempt =>
      [.reserved, .running, .executionSucceeded, .verifying].contains attempt.state

/-- What a proof of reuse must name: a succeeded step whose latest attempt was verified for the
same input, and whose dependencies are reused too. -/
def reusedStep (steps : Table String MutableStep) (proofs : List PlanReuseProofV3)
    (proof : PlanReuseProofV3) : Except String MutableStep := do
  let step ← orError transitionInvalid (steps.get? proof.stepId)
  let attempt ← orError transitionInvalid (latestStepAttempt step)
  ensure (step.state == .succeeded && attempt.state == .verified &&
    (attempt.execution.map fun bound => bound.1.packetRef.digest) ==
      some proof.previousInputDigest &&
    proof.previousInputDigest == proof.nextInputDigest &&
    step.definition.dependencies.all fun dependency =>
      proofs.any fun candidate => candidate.stepId == dependency) transitionInvalid
  return step

def reducePlanRevised (data : PlanRevisionV3) :
    Except String PlanVariables := do
  let current ← requirePlanRevision own.plan
    { planId := data.planId
      planRevision := data.fromRevision }
  ensure ([.running, .blocked, .failed].contains current.state &&
    data.toRevision == current.revision + 1 && data.state == .running &&
    current.steps.values.all fun step => !step.unsettled) transitionInvalid
  let reused ← data.reuseProofs.foldlM (fun reused proof => do
    let step ← reusedStep current.steps data.reuseProofs proof
    return reused.upsert proof.stepId step) (Table.empty : Table String MutableStep)
  return { own with
    plan := some { current with
      revision := data.toRevision
      objective := data.objective
      state := data.state
      steps := reused } }

def reduceStepCreated (ref : PlanRefV3) (definition : PlanStepDefinitionV1)
    (state : PlanStepStateV1) : Except String PlanVariables := do
  let current ← requirePlanRevision own.plan ref
  let own ← own.useStableId "step" definition.stepId
  ensure (!current.steps.contains definition.stepId) transitionInvalid
  return { own with plan := some (current.setStep definition.stepId { definition, state }) }

/-- Whether the attempt that a change names is the newest one, reserved for it. -/
def createsNewAttempt (step : MutableStep) (newAttemptId : Option String) : Bool :=
  match newAttemptId.bind step.attempts.get? with
  | none => false
  | some attempt =>
    attempt.ordinal == step.attempts.rows.length && attempt.state == .reserved

def latestAttemptAllows (state : PlanStepStateV1) (latest : Option MutableAttempt) : Bool :=
  match state with
  | .running => latest.any fun attempt => attempt.state == .reserved
  | .verifying => latest.any fun attempt => attempt.state == .verifying
  | .succeeded => latest.any fun attempt => attempt.state == .verified
  | _ => true

def reduceStepStateChanged (data : StepChangeV3) :
    Except String PlanVariables := do
  let (current, step) ← requireStepRevision own.plan data.toStepRefV3
  ensure (planStepTransition step.state data.state
    { retryApproved := data.reason == some .retryApproved
      recoveryRetryApproved := data.reason == some .recoveryRetryApproved
      externalConditionChanged := data.reason == some .externalConditionChanged
      createsNewAttempt := createsNewAttempt step data.newAttemptId }) transitionInvalid
  ensure (latestAttemptAllows data.state (latestStepAttempt step)) transitionInvalid
  return { own with
    plan := some (current.setStep data.stepId { step with
      state := data.state
      errorCode := data.errorCode }) }

def reduceAttemptCreated (ref : AttemptRefV3) (ordinal : Int)
    (state : PlanAttemptStateV1) (childRunId : Option String) : Except String PlanVariables := do
  let (current, step) ← requireStepRevision own.plan ref.toStepRefV3
  ensure (step.attempts.values.all fun attempt => attempt.ordinal != ordinal) transitionInvalid
  ensure (ordinal == (step.attempts.rows.length : Int) + 1 &&
    decide (ordinal ≤ step.definition.maxAttempts)) transitionInvalid
  let own ← own.useStableId "attempt" ref.attemptId
  let own ← own.useChildRun childRunId
  return { own with
    plan := some (current.setAttempt ref step
      { attemptId := ref.attemptId
        ordinal
        state
        childRunId }) }

def SessionVerificationProjectionV3.passes (verification : SessionVerificationProjectionV3) : Bool :=
  verification.status == .passed

def verificationsAllow (state : PlanAttemptStateV1)
    (verifications : List SessionVerificationProjectionV3) : Bool :=
  match state with
  | .executionSucceeded | .executionFailed => false
  | .verified => !verifications.isEmpty && verifications.all (·.passes)
  | .rejected => verifications.any fun verification => !verification.passes
  | _ => true

def reduceAttemptStateChanged (ref : AttemptRefV3)
    (state : PlanAttemptStateV1) (errorCode : Option String) : Except String PlanVariables := do
  let (current, step, attempt) ← requireAttemptRevision own.plan ref
  ensure (planAttemptTransition attempt.state state) transitionInvalid
  ensure (verificationsAllow state attempt.verifications) transitionInvalid
  return { own with
    plan := some (current.setAttempt ref step { attempt with
      state
      errorCode }) }

def PlanExecutionStatusV3.attemptState : PlanExecutionStatusV3 → PlanAttemptStateV1
  | .succeeded => .executionSucceeded
  | .failed => .executionFailed
  | .cancelled => .cancelled

def reduceAttemptExecutionCompleted (ref : AttemptRefV3)
    (status : PlanExecutionStatusV3) : Except String PlanVariables := do
  let (current, step, attempt) ← requireAttemptRevision own.plan ref
  ensure (planAttemptTransition attempt.state status.attemptState) transitionInvalid
  ensure (attempt.resultRef.isSome && attempt.resultStatus == some status) transitionInvalid
  return { own with
    plan := some (current.setAttempt ref step { attempt with state := status.attemptState }) }

def correlatedParentRun {Data : Type} (entry : SessionEntryV3 Data) : Option String :=
  entry.correlation.bind fun parts => (parts.find? (·.1 == .parentRunId)).map (·.2)

def reduceSubagentExecutionBound (parentRunId : Option String)
    (ref : AttemptRefV3) (childRunId : String) (request : SubagentExecutionRequestV1)
    (retrySafety : SessionRetrySafetyV3) : Except String PlanVariables := do
  let (current, step, attempt) ← requireAttemptRevision own.plan ref
  ensure request.valid "SUBAGENT_EXECUTOR_REQUEST_INVALID"
  ensure (attempt.state == .running && attempt.execution.isNone &&
    attempt.childRunId == some childRunId && parentRunId == some request.parentRunId &&
    request.childRunId == childRunId) transitionInvalid
  return { own with
    plan := some (current.setAttempt ref step { attempt with
      execution := some (request, retrySafety) }) }

def reduceSubagentResultRecorded (data : SubagentResultV3) :
    Except String PlanVariables := do
  let (current, step, attempt) ← requireAttemptRevision own.plan data.toAttemptRefV3
  ensure (attempt.state == .running && attempt.resultRef.isNone &&
    attempt.childRunId.all (· == data.childRunId)) transitionInvalid
  let own ← own.useChildRun (if attempt.childRunId.isNone then some data.childRunId else none)
  return { own with
    plan := some (current.setAttempt data.toAttemptRefV3 step { attempt with
      childRunId := some data.childRunId
      resultRef := some data.resultRef
      resultDigest := some data.resultDigest
      resultStatus := some data.status }) }

def reduceVerificationRecorded (ref : AttemptRefV3)
    (verification : SessionVerificationProjectionV3) : Except String PlanVariables := do
  let own ← own.useStableId "verification" verification.verificationId
  let (current, step, attempt) ← requireAttemptRevision own.plan ref
  ensure (attempt.state == .verifying && step.state == .verifying) transitionInvalid
  return { own with
    plan := some (current.setAttempt ref step { attempt with
      verificationRef := some ("journal://verification/" ++ verification.verificationId)
      verifications := attempt.verifications ++ [verification] }) }

/-- The cases of the `switch` that are about the plan. -/
def reducePlanEvent (parentRunId : Option String) :
    PlanEventV3 → Except String PlanVariables
  | .planCreated ref objective state => reducePlanCreated own ref objective state
  | .planStateChanged ref state => reducePlanStateChanged own ref state
  | .planDecisionRecorded data => reducePlanDecisionRecorded own data
  | .planRevised data => reducePlanRevised own data
  | .stepCreated ref definition state => reduceStepCreated own ref definition state
  | .stepStateChanged data => reduceStepStateChanged own data
  | .attemptCreated ref ordinal state childRunId =>
    reduceAttemptCreated own ref ordinal state childRunId
  | .attemptStateChanged ref state errorCode => reduceAttemptStateChanged own ref state errorCode
  | .attemptExecutionCompleted ref status => reduceAttemptExecutionCompleted own ref status
  | .subagentExecutionBound ref childRunId request retrySafety =>
    reduceSubagentExecutionBound own parentRunId ref childRunId request retrySafety
  | .subagentResultRecorded data => reduceSubagentResultRecorded own data
  | .verificationRecorded ref verification => reduceVerificationRecorded own ref verification

/-! ## The projection -/

structure SessionAttemptProjectionV3 where
  attemptId : String
  ordinal : Int
  state : PlanAttemptStateV1
  childRunId : Option String
  errorCode : Option String
  execution : Option (SubagentExecutionRequestV1 × SessionRetrySafetyV3)
  resultRef : Option String
  resultDigest : Option String
  verificationRef : Option String
  verifications : List SessionVerificationProjectionV3
deriving DecidableEq

structure SessionStepProjectionV3 extends PlanStepV1 where
  errorCode : Option String
  attempts : List SessionAttemptProjectionV3
deriving DecidableEq

structure SessionPlanGraphProjectionV3 where
  planId : String
  revision : Int
  objective : String
  state : PlanStateV1
  readyStepIds : List String
  steps : List SessionStepProjectionV3

def MutableStep.orderedAttempts (step : MutableStep) : List MutableAttempt :=
  step.attempts.values.insertionSort fun left right => left.ordinal ≤ right.ordinal

def MutableAttempt.project (attempt : MutableAttempt) : SessionAttemptProjectionV3 where
  attemptId := attempt.attemptId
  ordinal := attempt.ordinal
  state := attempt.state
  childRunId := attempt.childRunId
  errorCode := attempt.errorCode
  execution := attempt.execution
  resultRef := attempt.resultRef
  resultDigest := attempt.resultDigest
  verificationRef := attempt.verificationRef
  verifications := attempt.verifications

def MutableStep.graphStep (step : MutableStep) : PlanStepV1 :=
  { step.definition with
    state := step.state
    attemptIds := step.orderedAttempts.map (·.attemptId) }

def MutableStep.project (step : MutableStep) : SessionStepProjectionV3 :=
  { step.graphStep with
    errorCode := step.errorCode
    attempts := step.orderedAttempts.map (·.project) }

def MutableAttempt.graphAttempt (step : MutableStep) (attempt : MutableAttempt) : PlanAttemptV1 where
  attemptId := attempt.attemptId
  stepId := step.definition.stepId
  ordinal := attempt.ordinal
  state := attempt.state
  childRunId := attempt.childRunId
  resultRef := attempt.resultRef
  resultDigest := attempt.resultDigest
  verificationRef := attempt.verificationRef

section Projection

variable (localeCompare : String → String → Ordering)

/-- Earlier by `order`, then by id. -/
def stepBefore (left right : PlanStepDefinitionV1) : Bool :=
  decide (left.order < right.order) ||
    (left.order == right.order && localeCompare left.stepId right.stepId != .gt)

def MutablePlan.orderedSteps (plan : MutablePlan) : List MutableStep :=
  plan.steps.values.insertionSort fun left right =>
    stepBefore localeCompare left.definition right.definition = true

def MutablePlan.graph (plan : MutablePlan) : PlanGraphV1 where
  planId := plan.planId
  revision := plan.revision
  objective := plan.objective
  state := plan.state
  steps := (plan.orderedSteps localeCompare).map (·.graphStep)
  attempts := (plan.orderedSteps localeCompare).flatMap fun step =>
    step.orderedAttempts.map (·.graphAttempt step)

/-- One visit of the depth-first search. A path repeats no step, so as many levels as there are
steps, and one more, are enough. -/
def visit (steps : List MutableStep) :
    Nat → List String → List String → String → Except String (List String)
  | 0, _, _, _ => .error transitionInvalid
  | depth + 1, visiting, visited, stepId =>
    if visited.contains stepId then .ok visited
    else if visiting.contains stepId then .error transitionInvalid
    else do
      let step ← orError transitionInvalid (steps.find? (·.definition.stepId == stepId))
      let visited ← step.definition.dependencies.foldlM (fun visited dependency => do
        ensure (steps.any (·.definition.stepId == dependency)) transitionInvalid
        visit steps depth (visiting ++ [stepId]) visited dependency) visited
      return visited ++ [stepId]

def assertPlanDependencies (steps : List MutableStep) : Except String Unit := do
  let _ ← steps.foldlM (fun visited step =>
    visit steps (steps.length + 1) [] visited step.definition.stepId) []
  return ()

def resultStates : Option PlanExecutionStatusV3 → List PlanAttemptStateV1
  | some .succeeded => [.verifying, .verified, .rejected, .cancelled, .interrupted]
  | some .failed => [.executionFailed, .interrupted]
  | some .cancelled => [.cancelled, .interrupted]
  | none => []

def assertAttemptResultConsistency (attempt : MutableAttempt) : Except String Unit :=
  ensure (attempt.resultRef.isNone || (resultStates attempt.resultStatus).contains attempt.state)
    transitionInvalid

def readyPlanStepIdsV1 (graph : PlanGraphV1) : List String :=
  if graph.state = .running then
    ((graph.steps.filter fun step =>
        step.state == .pending && decide ((step.attemptIds.length : Int) < step.maxAttempts) &&
          step.dependencies.all fun dependencyId =>
            (graph.steps.find? (·.stepId == dependencyId)).any (·.state == .succeeded)).insertionSort
      fun left right => stepBefore localeCompare left.toPlanStepDefinitionV1
        right.toPlanStepDefinitionV1 = true).map (·.stepId)
  else []

def MutablePlan.project (plan : MutablePlan) : SessionPlanGraphProjectionV3 where
  planId := plan.planId
  revision := plan.revision
  objective := plan.objective
  state := plan.state
  readyStepIds := readyPlanStepIdsV1 localeCompare (plan.graph localeCompare)
  steps := (plan.orderedSteps localeCompare).map (·.project)

def projectPlan (plan : Option MutablePlan) :
    Except String (Option SessionPlanGraphProjectionV3) :=
  match plan with
  | none => .ok none
  | some plan => do
      assertPlanDependencies (plan.orderedSteps localeCompare)
      (plan.orderedSteps localeCompare).forM fun step =>
        step.orderedAttempts.forM assertAttemptResultConsistency
      ensure (Plan.validGraph (plan.graph localeCompare)) transitionInvalid
      return some (plan.project localeCompare)

end Projection

def planGraph {Data : Type} (localeCompare : String → String → Ordering)
    (event? : Data → Option PlanEventV3) : EntryLayer Data PlanEventV3 PlanVariables where
  event? := event?
  validate event _ := ensure event.valid entryInvalid
  start := {}
  apply _ entry own event := reducePlanEvent own (correlatedParentRun entry) event
  finish own := do
    let _ ← projectPlan localeCompare own.plan
    return ()

end Praxis.Session
