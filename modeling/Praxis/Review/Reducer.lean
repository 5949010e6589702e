import Praxis.Review.Contracts

/-!
# The review plan reducer

`reduceReviewPlanEventV1` takes the plan and one event to the next plan, or rejects the event. An
event is checked by itself first, then against the plan, and the plan that comes out is checked as a
whole.
-/

namespace Praxis.Review

set_option autoImplicit false

open Praxis.Foundations
open Praxis.Workflow (safeId isSha256 positiveInteger nonNegativeInteger)

/-! ## Events -/

/-- Who causes an event. -/
inductive ReviewPlanMutationOriginV1 where
  | tool (invocationId payloadDigest : String)
  | runtime (requestId inputDigest : String)
  | host (controlEventId : String) (resolutionRequestId : Option String) (inputDigest : String)
deriving DecidableEq

inductive ReviewPlanEventDataV1 (Check : Type) where
  | created (input : PlanCreateInputV1 Check) (planHash : String)
      (taskContract : Option ReviewPlanTaskContractV1)
  | revised (fromPlanRevision : Int) (input : PlanCreateInputV1 Check) (planHash : String)
  | itemStateChanged (itemId : String) (state : ReviewPlanItemStateV1)
      (block : Option ReviewPlanBlockV1)
  | itemAttemptStarted (itemId itemAttemptId : String) (attemptNumber : Int)
  | itemAttemptFocused (itemId itemAttemptId : String)
  | itemAttemptCarriedForward (itemId itemAttemptId : String) (fromPlanRevision : Int)
      (executionInputDigest : String)
  | itemAttemptClosed (itemId itemAttemptId : String) (attemptState : ReviewAttemptStateV1)
  | executionRequested (itemId itemAttemptId executionRequestId executionInputDigest : String)
  | executionBound (itemId itemAttemptId executionRequestId taskRef : String)
  | rootToolRequested (itemId itemAttemptId requestId invocationId toolName inputDigest : String)
  | rootToolRecorded (itemId itemAttemptId requestId : String)
      (resultRef effectReceiptRef changedFilesDigest : Option String)
  | reviewPrepared (preparedReview : PreparedReviewRefV1)
  | reviewRequested (preparedReviewId reviewRequestId deterministicDigest : String)
      (deterministicAttemptCount providerAttemptCount : Int)
  | reviewRecorded (preparedReviewId reviewRequestId : String) (decision : ReviewDecisionRefV1)
  | noProgressRecorded (noProgressCount : Int)
  | blockResolved (blockId : String)
  | stateChanged (state : ReviewPlanStateV1) (block : Option ReviewPlanBlockV1)

structure ReviewPlanEventV1 (Check : Type) where
  origin : ReviewPlanMutationOriginV1
  mutationDigest : String
  planId : String
  planRevision : Int
  data : ReviewPlanEventDataV1 Check

def eventInvalid : String := "REVIEW_PLAN_EVENT_INVALID"

def transitionInvalid : String := "REVIEW_PLAN_EVENT_TRANSITION_INVALID"

def projectionInvalid : String := "REVIEW_PLAN_PROJECTION_INVALID"

/-! ## Validation of an event -/

def invocationIdChar (c : Char) : Bool := c.isAlphanum || ['.', '_', ':', '+', '-'].contains c

def validInvocationId (value : String) : Bool :=
  match chars value with
  | 'p' :: 't' :: 'i' :: '_' :: rest =>
    decide (1 ≤ rest.length ∧ rest.length ≤ 124) && rest.all invocationIdChar
  | _ => false

def validateReviewPlanMutationOriginV1 : ReviewPlanMutationOriginV1 → Bool
  | .tool invocationId payloadDigest => validInvocationId invocationId && isSha256 payloadDigest
  | .runtime requestId inputDigest => safeId requestId && isSha256 inputDigest
  | .host controlEventId resolutionRequestId inputDigest =>
    safeId controlEventId && isSha256 inputDigest && resolutionRequestId.all safeId

def bounded (value : String) : Bool := boundedText value 2_048

def startsWithBlock (value : String) : Bool := (chars "rpb_").isPrefixOf (chars value)

variable {Check : Type} (digests : ReviewDigests Check)

def validateEventData : ReviewPlanEventDataV1 Check → Bool
  | .created input planHash taskContract =>
    validatePlanCreateInputV1 digests input && isSha256 planHash &&
      taskContract.all (validateTaskContract digests)
  | .revised fromPlanRevision input planHash =>
    positiveInteger fromPlanRevision && validatePlanCreateInputV1 digests input &&
      isSha256 planHash
  | .itemStateChanged itemId _ block => safeId itemId && block.all validateReviewPlanBlockV1
  | .itemAttemptStarted itemId itemAttemptId attemptNumber =>
    safeId itemId && safeId itemAttemptId && positiveInteger attemptNumber
  | .itemAttemptFocused itemId itemAttemptId => safeId itemId && safeId itemAttemptId
  | .itemAttemptCarriedForward itemId itemAttemptId fromPlanRevision executionInputDigest =>
    safeId itemId && safeId itemAttemptId && positiveInteger fromPlanRevision &&
      isSha256 executionInputDigest
  | .itemAttemptClosed itemId itemAttemptId attemptState =>
    safeId itemId && safeId itemAttemptId &&
      [.accepted, .needsFix, .blocked, .cancelled].contains attemptState
  | .executionRequested itemId itemAttemptId executionRequestId executionInputDigest =>
    safeId itemId && safeId itemAttemptId && safeId executionRequestId &&
      isSha256 executionInputDigest
  | .executionBound itemId itemAttemptId executionRequestId taskRef =>
    safeId itemId && safeId itemAttemptId && safeId executionRequestId && bounded taskRef
  | .rootToolRequested itemId itemAttemptId requestId invocationId toolName inputDigest =>
    safeId itemId && safeId itemAttemptId && [requestId, invocationId, toolName].all safeId &&
      isSha256 inputDigest
  | .rootToolRecorded itemId itemAttemptId requestId resultRef effectReceiptRef
      changedFilesDigest =>
      safeId itemId && safeId itemAttemptId && safeId requestId &&
        (resultRef.isSome || effectReceiptRef.isSome) && resultRef.all bounded &&
        effectReceiptRef.all bounded && changedFilesDigest.all isSha256
  | .reviewPrepared preparedReview => validatePreparedReviewRefV1 preparedReview
  | .reviewRequested preparedReviewId reviewRequestId deterministicDigest
      deterministicAttemptCount providerAttemptCount =>
      safeId preparedReviewId && safeId reviewRequestId && isSha256 deterministicDigest &&
        positiveInteger deterministicAttemptCount && nonNegativeInteger providerAttemptCount
  | .reviewRecorded preparedReviewId reviewRequestId decision =>
    safeId preparedReviewId && safeId reviewRequestId && validateReviewDecisionRefV1 decision
  | .noProgressRecorded noProgressCount => positiveInteger noProgressCount
  | .blockResolved blockId => startsWithBlock blockId
  | .stateChanged state block =>
    block.all validateReviewPlanBlockV1 && (state == .blocked) == block.isSome

/-- What `validateReviewPlanEventV1` accepts. -/
def validEvent (event : ReviewPlanEventV1 Check) : Bool :=
  validateReviewPlanMutationOriginV1 event.origin && isSha256 event.mutationDigest &&
    safeId event.planId && positiveInteger event.planRevision &&
    validateEventData digests event.data

/-! ## Parts of the plan -/

variable (plan : ReviewPlanProjectionV1 Check)

def mutableItem (itemId : String) :
    Except String ReviewPlanItemProjectionV1 :=
  orError transitionInvalid (plan.items.find? (·.id == itemId))

def requireAttempt (item : ReviewPlanItemProjectionV1) (itemAttemptId : Option String) :
    Except String ReviewPlanItemAttemptV1 := do
  let attempt ← orError transitionInvalid item.currentAttempt
  ensure (some attempt.itemAttemptId == itemAttemptId) transitionInvalid
  return attempt

/-- The prepared review that an event names: the final one, if there is one. -/
def requirePrepared (preparedReviewId : String) :
    Except String PreparedReviewRefV1 := do
  let prepared ← orError transitionInvalid (plan.finalPreparedReview.or
    ((plan.items.find? fun item =>
      item.preparedReview.any (·.preparedReviewId == preparedReviewId)).bind (·.preparedReview)))
  ensure (prepared.preparedReviewId == preparedReviewId) transitionInvalid
  return prepared

/-- The plan with an item as it is now; the items of a plan have different ids. -/
def ReviewPlanProjectionV1.setItem
    (item : ReviewPlanItemProjectionV1) : ReviewPlanProjectionV1 Check :=
  { plan with items := plan.items.map fun candidate =>
      if candidate.id = item.id then item else candidate }

def appendUnique (values : List String) (value : String) : Except String (List String) := do
  ensure (!values.contains value) transitionInvalid
  return values ++ [value]

def itemStateForVerdict : ReviewVerdictV1 → ReviewPlanItemStateV1
  | .accepted => .accepted
  | .blocked => .blocked
  | .needsFix | .replan => .needsFix

def planStateForVerdict : ReviewVerdictV1 → ReviewPlanStateV1
  | .accepted => .completed
  | .blocked => .blocked
  | .needsFix | .replan => .active

/-! ## What the events do -/

def activeCriterion (criterion : ReviewCriterionV1 Check) : ReviewCriterionProjectionV1 Check :=
  { criterion with
    definitionDigest := digests.criterionDigest criterion
    status := .active }

/-- An item to which nothing has happened. -/
def pendingItem (order : Nat) (item : ReviewPlanItemDefinitionV1) : ReviewPlanItemProjectionV1 :=
  { item with
    order
    state := .pending
    attemptCount := 0 }

def definitionHash (input : PlanCreateInputV1 Check) (policy : ReviewPolicyV1) : String :=
  digests.planHash { input with reviewPolicy := some policy }

def reduceCreated (event : ReviewPlanEventV1 Check) (input : PlanCreateInputV1 Check)
    (planHash : String) (taskContract : Option ReviewPlanTaskContractV1) :
    Except String (ReviewPlanProjectionV1 Check) := do
  let policy := input.reviewPolicy.getD defaultReviewPolicy
  ensure (planHash == definitionHash digests input policy) transitionInvalid
  return {
    planId := event.planId
    revision := 1
    objective := input.objective
    objectiveDigest := digests.textDigest input.objective
    taskContract
    state := .active
    policy
    criteria := input.acceptanceCriteria.map (activeCriterion digests)
    items := input.items.mapIdx pendingItem }

def revisedItem (order : Nat)
    (definition : ReviewPlanItemDefinitionV1) : ReviewPlanItemProjectionV1 :=
  match plan.items.find? (·.id == definition.id) with
  | some prior =>
    if prior.toReviewPlanItemDefinitionV1 = definition ∧ prior.state = .accepted then
      { prior with order }
    else pendingItem order definition
  | none => pendingItem order definition

def reduceRevised (event : ReviewPlanEventV1 Check)
    (fromPlanRevision : Int) (input : PlanCreateInputV1 Check) (planHash : String) :
    Except String (ReviewPlanProjectionV1 Check) := do
  ensure (fromPlanRevision == plan.revision && event.planRevision == plan.revision + 1)
    transitionInvalid
  let policy := input.reviewPolicy.getD plan.policy
  ensure (planHash == definitionHash digests input policy && plan.finalPreparedReview.isNone)
    transitionInvalid
  return { plan with
    revision := event.planRevision
    objective := input.objective
    objectiveDigest := digests.textDigest input.objective
    policy
    criteria := input.acceptanceCriteria.map (activeCriterion digests)
    items := input.items.mapIdx (revisedItem plan)
    replanCount := plan.replanCount + 1
    state := .active
    block := none
    finalPreparedReview := none }

def reduceItemStateChanged (itemId : String)
    (state : ReviewPlanItemStateV1) (block : Option ReviewPlanBlockV1) :
    Except String (ReviewPlanProjectionV1 Check) := do
  let item ← mutableItem plan itemId
  assertReviewPlanItemTransitionV1 item.state state
  return plan.setItem { item with
    state
    block }

def reduceItemAttemptStarted (itemId itemAttemptId : String)
    (attemptNumber : Int) : Except String (ReviewPlanProjectionV1 Check) := do
  let item ← mutableItem plan itemId
  ensure (item.currentAttempt.isNone && [.pending, .needsFix, .blocked].contains item.state)
    transitionInvalid
  ensure (attemptNumber == item.attemptCount + 1) transitionInvalid
  let plan := plan.setItem { item with
    currentAttempt := some
      { itemAttemptId
        attemptNumber
        state := .open_
        evidenceRefs := some [] }
    attemptCount := attemptNumber
    state := .running
    block := none }
  return { plan with
    attemptCount := plan.attemptCount + 1
    focusedRootAttemptId := some itemAttemptId }

/-- The plan whose focus is not on an attempt that is over. -/
def ReviewPlanProjectionV1.unfocus (itemAttemptId : String) :
    ReviewPlanProjectionV1 Check :=
  if plan.focusedRootAttemptId = some itemAttemptId then
    { plan with focusedRootAttemptId := none }
  else plan

def reduceItemAttemptFocused (itemId itemAttemptId : String) :
    Except String (ReviewPlanProjectionV1 Check) := do
  let item ← mutableItem plan itemId
  let _ ← requireAttempt item (some itemAttemptId)
  return { plan with focusedRootAttemptId := some itemAttemptId }

/-- The events that only need the attempt to be the current one. -/
def reduceAttemptNoted (itemId itemAttemptId : String) :
    Except String (ReviewPlanProjectionV1 Check) := do
  let item ← mutableItem plan itemId
  let _ ← requireAttempt item (some itemAttemptId)
  return plan

def reduceItemAttemptCarriedForward
    (event : ReviewPlanEventV1 Check) (itemId itemAttemptId : String) (fromPlanRevision : Int) :
    Except String (ReviewPlanProjectionV1 Check) := do
  let plan ← reduceAttemptNoted plan itemId itemAttemptId
  ensure (fromPlanRevision == plan.revision - 1 && event.planRevision == plan.revision)
    transitionInvalid
  return plan

/-- The attempt leaves the item, so the state that the event gives it is not kept. -/
def reduceItemAttemptClosed (itemId itemAttemptId : String) :
    Except String (ReviewPlanProjectionV1 Check) := do
  let item ← mutableItem plan itemId
  let _ ← requireAttempt item (some itemAttemptId)
  return (plan.setItem { item with currentAttempt := none }).unfocus itemAttemptId

def reduceExecutionBound
    (itemId itemAttemptId taskRef : String) : Except String (ReviewPlanProjectionV1 Check) := do
  let item ← mutableItem plan itemId
  let _ ← requireAttempt item (some itemAttemptId)
  let taskRefs ← appendUnique item.taskRefs taskRef
  return plan.setItem { item with taskRefs }

/-- One reference added to the evidence of an item and of its attempt. -/
def recordEvidence (evidence : List String × List String) (ref : String) :
    Except String (List String × List String) := do
  let item ← appendUnique evidence.1 ref
  let attempt ← appendUnique evidence.2 ref
  return (item, attempt)

def reduceRootToolRecorded (itemId itemAttemptId : String)
    (resultRef effectReceiptRef : Option String) : Except String (ReviewPlanProjectionV1 Check) := do
  let item ← mutableItem plan itemId
  let attempt ← requireAttempt item (some itemAttemptId)
  let (evidenceRefs, attemptEvidence) ← (resultRef.toList ++ effectReceiptRef.toList).foldlM
    recordEvidence (item.evidenceRefs, attempt.evidenceRefs.getD [])
  return plan.setItem { item with
    evidenceRefs
    currentAttempt := some { attempt with evidenceRefs := some attemptEvidence } }

def reduceReviewPrepared (prepared : PreparedReviewRefV1) :
    Except String (ReviewPlanProjectionV1 Check) := do
  ensure (prepared.planRevision == plan.revision) transitionInvalid
  match prepared.scope with
  | .item itemId => do
      let item ← mutableItem plan itemId
      let _ ← requireAttempt item prepared.itemAttemptId
      ensure item.preparedReview.isNone transitionInvalid
      return plan.setItem { item with preparedReview := some prepared }
  | .final => do
      ensure plan.finalPreparedReview.isNone transitionInvalid
      return { plan with finalPreparedReview := some prepared }

def reduceReviewRequested (preparedReviewId : String) :
    Except String (ReviewPlanProjectionV1 Check) := do
  let prepared ← requirePrepared plan preparedReviewId
  match prepared.scope with
  | .item itemId => do
      let item ← mutableItem plan itemId
      let attempt ← requireAttempt item prepared.itemAttemptId
      return plan.setItem { item with
        currentAttempt := some { attempt with state := .reviewRequested }
        state := .reviewRequested }
  | .final => do
      assertReviewPlanTransitionV1 plan.state .reviewing
      return { plan with state := .reviewing }

def decidedItem (item : ReviewPlanItemProjectionV1) (attempt : ReviewPlanItemAttemptV1)
    (prepared : PreparedReviewRefV1) (decision : ReviewDecisionRefV1) :
    ReviewPlanItemProjectionV1 :=
  let decided := { item with
    lastReview := some decision
    state := itemStateForVerdict decision.verdict
    preparedReview := none
    currentAttempt := none }
  if decision.verdict = .accepted then
    { decided with
      acceptedInputDigest := some prepared.reviewInputDigest
      acceptedEvidenceRefs := some prepared.evidenceRefs
      acceptedAttemptId := some attempt.itemAttemptId }
  else decided

def reduceReviewRecorded
    (preparedReviewId reviewRequestId : String) (decision : ReviewDecisionRefV1) :
    Except String (ReviewPlanProjectionV1 Check) := do
  let prepared ← requirePrepared plan preparedReviewId
  ensure (decision.reviewRequestId == reviewRequestId) transitionInvalid
  match prepared.scope with
  | .item itemId => do
      let item ← mutableItem plan itemId
      let attempt ← requireAttempt item prepared.itemAttemptId
      return (plan.setItem (decidedItem item attempt prepared decision)).unfocus
        attempt.itemAttemptId
  | .final => do
      let target := planStateForVerdict decision.verdict
      ensure (plan.state == target || (reviewPlanTransitions plan.state).contains target)
        tableTransitionInvalid
      return { plan with
        lastReview := some decision
        finalPreparedReview := none
        state := target }

def reduceNoProgressRecorded (noProgressCount : Int) :
    Except String (ReviewPlanProjectionV1 Check) := do
  ensure (noProgressCount == plan.noProgressCount + 1) transitionInvalid
  return { plan with noProgressCount }

def reduceBlockResolved (blockId : String) :
    Except String (ReviewPlanProjectionV1 Check) :=
  if plan.block.any (·.blockId == blockId) then
    .ok { plan with
      block := none
      state := .active }
  else do
    let item ← orError transitionInvalid
      (plan.items.find? fun item => item.block.any (·.blockId == blockId))
    return plan.setItem { item with
      block := none
      state := if item.state = .blocked then .pending else item.state }

def reduceStateChanged (state : ReviewPlanStateV1)
    (block : Option ReviewPlanBlockV1) : Except String (ReviewPlanProjectionV1 Check) := do
  assertReviewPlanTransitionV1 plan.state state
  let plan := { plan with
    state
    block }
  if [.abandoned, .cancelled].contains state then
    return { plan with
      finalPreparedReview := none
      items := plan.items.map fun item => { item with preparedReview := none } }
  else return plan

/-- The `switch` over the event types after the first. -/
def reduceEventData (event : ReviewPlanEventV1 Check) :
    Except String (ReviewPlanProjectionV1 Check) :=
  match event.data with
  | .created _ _ _ => .error transitionInvalid
  | .revised fromPlanRevision input planHash =>
    reduceRevised digests plan event fromPlanRevision input planHash
  | .itemStateChanged itemId state block => reduceItemStateChanged plan itemId state block
  | .itemAttemptStarted itemId itemAttemptId attemptNumber =>
    reduceItemAttemptStarted plan itemId itemAttemptId attemptNumber
  | .itemAttemptFocused itemId itemAttemptId => reduceItemAttemptFocused plan itemId itemAttemptId
  | .itemAttemptCarriedForward itemId itemAttemptId fromPlanRevision _ =>
    reduceItemAttemptCarriedForward plan event itemId itemAttemptId fromPlanRevision
  | .itemAttemptClosed itemId itemAttemptId _ => reduceItemAttemptClosed plan itemId itemAttemptId
  | .executionRequested itemId itemAttemptId _ _ => reduceAttemptNoted plan itemId itemAttemptId
  | .executionBound itemId itemAttemptId _ taskRef =>
    reduceExecutionBound plan itemId itemAttemptId taskRef
  | .rootToolRequested itemId itemAttemptId _ _ _ _ => reduceAttemptNoted plan itemId itemAttemptId
  | .rootToolRecorded itemId itemAttemptId _ resultRef effectReceiptRef _ =>
    reduceRootToolRecorded plan itemId itemAttemptId resultRef effectReceiptRef
  | .reviewPrepared prepared => reduceReviewPrepared plan prepared
  | .reviewRequested preparedReviewId _ _ _ _ => reduceReviewRequested plan preparedReviewId
  | .reviewRecorded preparedReviewId reviewRequestId decision =>
    reduceReviewRecorded plan preparedReviewId reviewRequestId decision
  | .noProgressRecorded noProgressCount => reduceNoProgressRecorded plan noProgressCount
  | .blockResolved blockId => reduceBlockResolved plan blockId
  | .stateChanged state block => reduceStateChanged plan state block

/-- Whether an event names the revision that it must: a revision names the next one itself. -/
def namesRevision (event : ReviewPlanEventV1 Check) : Bool :=
  match event.data with
  | .revised _ _ _ => true
  | _ => plan.revision == event.planRevision

def reduceReviewPlanEventV1 (current : Option (ReviewPlanProjectionV1 Check))
    (event : ReviewPlanEventV1 Check) : Except String (ReviewPlanProjectionV1 Check) := do
  ensure (validEvent digests event) eventInvalid
  let next ← match event.data, current with
    | .created input planHash taskContract, current => do
        ensure (current.isNone && event.planRevision == 1) transitionInvalid
        reduceCreated digests event input planHash taskContract
    | _, none => .error transitionInvalid
    | _, some plan => do
        ensure (plan.planId == event.planId) transitionInvalid
        ensure (namesRevision plan event) transitionInvalid
        reduceEventData digests plan event
  ensure (validProjection digests next) projectionInvalid
  return next

def reduceReviewPlanEvents (events : List (ReviewPlanEventV1 Check)) :
    Except String (Option (ReviewPlanProjectionV1 Check)) :=
  events.foldlM (fun current event => do
    let next ← reduceReviewPlanEventV1 digests current event
    return some next) none

end Praxis.Review
