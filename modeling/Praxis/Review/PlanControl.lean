import Praxis.Agent.Messages
import Praxis.Review.Reducer
import Praxis.Session.CommitLog

/-!
# Plan control

The mutations of `PlanControlServiceV1`: the payload of each, the events that it appends to a plan,
and the commit in which it appends them. A mutation has an origin (a tool invocation, a runtime
request or a control of the host); its payload is known by its digest, and the ids of its commit and
of its entries are digests of the origin.

`PlanDigests` has the digests of canonical JSON. `PlanView` says what the reducer of the session
keeps about a review plan.
-/

namespace Praxis.Review

set_option autoImplicit false

open Praxis.Foundations
open Praxis.Agent (ProviderMessage ProviderContent MessageIntent MessageTrust)
open Praxis.Session (SessionProjectionV3 SessionRules SessionEntryV3 SessionEntryDataV3 SessionCommitV3
  CreateSessionCommitInputV3 SessionError SessionPlanPolicyV3 SessionRunStateV3 createSessionCommitV3
  validateSessionEntryV3)

inductive PlanControlError where
  /-- A rejection of the reducer of events. -/
  | plan (code : String)
  /-- An error of the journal. -/
  | session (error : SessionError)
  /-- `SESSION_QUERY_NOT_FOUND`. -/
  | queryNotFound
  /-- `SESSION_QUERY_CONFLICT`. -/
  | queryConflict
  /-- A failure of the storage, the materializer or the validators. -/
  | failed
deriving DecidableEq

def planEnsure (check : Bool) (code : String) : Except PlanControlError Unit :=
  ensure check (.plan code)

/-! ## Requests -/

structure PlanToolInvocationContextV1 where
  invocationId : String
  sessionId : String
  runId : String
  providerTurnId : String
  providerToolCallId : String

inductive PlanProgressActionV1 where
  | start (itemId : String)
  | focus (itemId itemAttemptId : String)
  | block (itemId : String) (itemAttemptId : Option String) (reason : String) (code : Option String)
  | requestSkip (itemId : String)

inductive PlanControlActionV1 where
  | abandon
  | scopeChange
  | resolveBlock
  | cancel
  | sessionClose
deriving DecidableEq

/-- A control of the host; `target` is the plan that it is about, if it is about one. -/
structure VerifiedPlanControlFactV1 where
  controlEventId : String
  sessionId : String
  action : PlanControlActionV1
  target : Option String
  targetDigest : String
  expiresAt : Timestamp
  runId : Option String := none

structure PlanExecutionBindingV1 where
  sessionId : String
  planId : String
  planRevision : Int
  itemId : String
  itemAttemptId : String
  requestId : String
deriving DecidableEq

/-- The mutations of the runtime. -/
inductive RuntimeOperation where
  | requestExecution (itemId itemAttemptId executionInputDigest : String)
  | bindExecution (itemId itemAttemptId executionRequestId taskRef : String)
      (binding : PlanExecutionBindingV1)
  | recordRootToolRequest (itemId itemAttemptId requestId : String)
      (invocation : PlanToolInvocationContextV1) (toolName inputDigest : String)
  | recordRootToolResult (itemId itemAttemptId requestId : String)
      (resultRef effectReceiptRef changedFilesDigest : Option String)
  | requestSemanticReview (preparedReviewId deterministicDigest : String)
      (deterministicAttemptCount providerAttemptCount : Int)
  | applyReviewDecision (preparedReviewId : String) (decision : ReviewDecisionRefV1)

/-- A call of the service on a session. -/
inductive PlanControlRequest (Check : Type) where
  | create (invocation : PlanToolInvocationContextV1) (input : PlanCreateInputV1 Check)
  | update (invocation : PlanToolInvocationContextV1) (expectedPlanRevision : Int)
      (input : PlanCreateInputV1 Check) (carryForwardAttemptIds : List String)
  | progress (invocation : PlanToolInvocationContextV1) (expectedPlanRevision : Int)
      (action : PlanProgressActionV1)
  | prepareReview (origin : ReviewPlanMutationOriginV1) (expectedPlanRevision : Int)
      (preparedReview : PreparedReviewRefV1)
  | abandon (invocation : PlanToolInvocationContextV1) (expectedPlanRevision : Int)
      (explanation : String) (controlFact : VerifiedPlanControlFactV1)
  | runtime (requestId inputDigest planId : String) (expectedPlanRevision : Int)
      (operation : RuntimeOperation)
  | resolveTrustedBlock (controlEventId : String) (resolutionRequestId : Option String)
      (inputDigest planId : String) (expectedPlanRevision : Int) (blockId : String)
      (controlFact : VerifiedPlanControlFactV1)

/-- What the digest of a mutation is of. The id that a runtime operation derives from its request
is part of the payload where it has one. -/
inductive PlanPayload (Check : Type) where
  | create (input : PlanCreateInputV1 Check)
  | update (input : PlanCreateInputV1 Check) (carryForwardAttemptIds : List String)
  | progress (action : PlanProgressActionV1)
  | prepareReview (expectedPlanRevision : Int) (preparedReview : PreparedReviewRefV1)
  | abandon (explanation controlEventId : String)
  | runtime (sessionId planId : String) (expectedPlanRevision : Int) (operation : RuntimeOperation)
      (derivedId : Option String)
  | resolveBlock (planId : String) (expectedPlanRevision : Int) (blockId controlEventId : String)

/-- The digests of canonical JSON that the service takes. -/
structure PlanDigests (Check : Type) extends ReviewDigests Check where
  /-- `canonicalDigestV1` of a payload. -/
  payloadDigest : PlanPayload Check → String
  /-- `stableId`: the prefix, and the values of the object in the order of the source. -/
  stableId : String → List String → String
  factDigest : VerifiedPlanControlFactV1 → String
  /-- `canonicalDigestV1` of the reason of a block. -/
  reasonDigest : String → String
  /-- `canonicalJsonV1` of the content of a message. -/
  contentJson : ProviderContent → String

/-! ## Entries -/

/-- The payloads of the entries of a session that the service reads or writes. -/
inductive PlanEntryData (Check Other : Type) where
  | review (event : ReviewPlanEventV1 Check)
  | controlConsumed (controlEventId : String) (action : PlanControlActionV1) (targetDigest : String)
  | message (message : ProviderMessage)
  | other (payload : Other)

inductive SessionControlStateV3 where
  | authorized
  | turnBound
  | discarded
  | consumed
deriving DecidableEq

/-- What a projection of the session says about its plan. -/
structure PlanView (Check View : Type) where
  reviewPlan : View → Option (ReviewPlanProjectionV1 Check)
  reviewControls : View → List (VerifiedPlanControlFactV1 × SessionControlStateV3)

structure EventDraft (Check Other : Type) where
  data : PlanEntryData Check Other
  runId : Option String := none

section Drafts

variable {Check Other : Type}

def reviewDraft (origin : ReviewPlanMutationOriginV1) (mutationDigest planId : String)
    (planRevision : Int) (data : ReviewPlanEventDataV1 Check) (runId : Option String := none) :
    EventDraft Check Other where
  data := .review { origin, mutationDigest, planId, planRevision, data }
  runId := runId

def consumedDraft (fact : VerifiedPlanControlFactV1) : EventDraft Check Other where
  data := .controlConsumed fact.controlEventId fact.action fact.targetDigest
  runId := fact.runId

end Drafts

def toolOrigin (invocationId payloadDigest : String) : ReviewPlanMutationOriginV1 :=
  .tool invocationId payloadDigest

def ReviewPlanMutationOriginV1.kind : ReviewPlanMutationOriginV1 → String
  | .tool _ _ => "tool"
  | .runtime _ _ => "runtime"
  | .host _ _ _ => "host"

def ReviewPlanMutationOriginV1.digest : ReviewPlanMutationOriginV1 → String
  | .tool _ payloadDigest => payloadDigest
  | .runtime _ inputDigest => inputDigest
  | .host _ _ inputDigest => inputDigest

/-- The origin as a query names it, without the digest. -/
inductive ReviewPlanMutationQuery where
  | tool (invocationId : String)
  | runtime (requestId : String)
  | host (controlEventId : String) (resolutionRequestId : Option String)
deriving DecidableEq

def queryOrigin : ReviewPlanMutationOriginV1 → ReviewPlanMutationQuery
  | .tool invocationId _ => .tool invocationId
  | .runtime requestId _ => .runtime requestId
  | .host controlEventId resolutionRequestId _ => .host controlEventId resolutionRequestId

def originKey : ReviewPlanMutationOriginV1 → String
  | .tool invocationId _ => invocationId
  | .runtime requestId _ => requestId
  | .host controlEventId resolutionRequestId _ =>
    controlEventId ++ ":" ++ resolutionRequestId.getD "-"

def originConflict : ReviewPlanMutationOriginV1 → PlanControlError
  | .tool _ _ => .plan "PLAN_MUTATION_IDEMPOTENCY_CONFLICT"
  | .runtime _ _ => .plan "PLAN_RUNTIME_REQUEST_CONFLICT"
  | .host _ _ _ => .plan "PLAN_CONTROL_REQUEST_CONFLICT"

/-! ## Checks of a plan -/

section Checks

variable {Check : Type}

def requirePlan (plan : Option (ReviewPlanProjectionV1 Check)) (expectedRevision : Int)
    (planId : Option String := none) : Except PlanControlError (ReviewPlanProjectionV1 Check) := do
  let plan ← orError (.plan "PLAN_NOT_FOUND") plan
  planEnsure (plan.revision == expectedRevision && planId.all (· == plan.planId))
    "PLAN_REVISION_CONFLICT"
  return plan

variable (plan : ReviewPlanProjectionV1 Check)

def requireItem (itemId : String) :
    Except PlanControlError ReviewPlanItemProjectionV1 := do
  let item ← orError (.plan "PLAN_ITEM_NOT_FOUND") (plan.items.find? (·.id == itemId))
  planEnsure (item.state != .accepted) "PLAN_ACCEPTED_ITEM_IMMUTABLE"
  return item

def assertAttempt (itemId itemAttemptId : String) :
    Except PlanControlError Unit := do
  let item ← requireItem plan itemId
  planEnsure (item.currentAttempt.any (·.itemAttemptId == itemAttemptId)) "PLAN_ATTEMPT_NOT_FOCUSED"
  planEnsure (item.preparedReview.isNone && plan.finalPreparedReview.isNone)
    "PLAN_REVIEW_FENCE_ACTIVE"

def assertMutable : Except PlanControlError Unit :=
  planEnsure (!plan.state.terminal) "PLAN_TERMINAL"

def hasFence : Bool :=
  plan.finalPreparedReview.isSome || plan.items.any (·.preparedReview.isSome)

def preparedExists (preparedReviewId : String) : Bool :=
  plan.finalPreparedReview.any (·.preparedReviewId == preparedReviewId) ||
    plan.items.any fun item => item.preparedReview.any (·.preparedReviewId == preparedReviewId)

def requiredOnlyHere (itemId criterionId : String) : Bool :=
  (plan.criteria.find? (·.id == criterionId)).any (·.required) &&
    !plan.items.any fun item =>
      item.id != itemId && item.state != .skipped && item.criterionIds.contains criterionId

def planDefinition : PlanCreateInputV1 Check where
  objective := plan.objective
  acceptanceCriteria :=
    (plan.criteria.filter (·.status == .active)).map (·.toReviewCriterionV1)
  items := plan.items.map (·.toReviewPlanItemDefinitionV1)
  reviewPolicy := some plan.policy

end Checks

/-! ## Mutations -/

section Mutations

variable {Check Other View : Type} (digests : PlanDigests Check) (view : PlanView Check View)
variable (sessionId : String)

/-- What a mutation reads besides its request. -/
structure PlanContext (Check Other View : Type) where
  projection : SessionProjectionV3 (PlanEntryData Check Other) View
  /-- The definition that the materializer made of the input, of a `create` or `update`. -/
  materialized : Option (PlanCreateInputV1 Check)
  /-- The task contract of a `create`. -/
  taskContract : Option ReviewPlanTaskContractV1
  now : Timestamp

def requestPayload : PlanControlRequest Check → PlanPayload Check
  | .create _ input => .create input
  | .update _ _ input carryForwardAttemptIds => .update input carryForwardAttemptIds
  | .progress _ _ action => .progress action
  | .prepareReview _ expectedPlanRevision preparedReview =>
    .prepareReview expectedPlanRevision preparedReview
  | .abandon _ _ explanation controlFact => .abandon explanation controlFact.controlEventId
  | .runtime _ _ planId expectedPlanRevision operation =>
    .runtime sessionId planId expectedPlanRevision operation none
  | .resolveTrustedBlock _ _ _ planId expectedPlanRevision blockId controlFact =>
    .resolveBlock planId expectedPlanRevision blockId controlFact.controlEventId

def derivedId (requestId planId : String) : RuntimeOperation → Option String
  | .requestExecution _ itemAttemptId _ =>
    some (digests.stableId "rpe" [planId, itemAttemptId, requestId, "execution"])
  | .requestSemanticReview preparedReviewId deterministicDigest _ _ =>
    some (digests.stableId "rpr" [preparedReviewId, deterministicDigest, requestId])
  | _ => none

/-- The payload whose digest the events have. -/
def mutationPayload : PlanControlRequest Check → PlanPayload Check
  | .runtime requestId _ planId expectedPlanRevision operation =>
    .runtime sessionId planId expectedPlanRevision operation
      (derivedId digests requestId planId operation)
  | request => requestPayload sessionId request

def requestOrigin : PlanControlRequest Check → ReviewPlanMutationOriginV1
  | .create invocation input =>
    toolOrigin invocation.invocationId (digests.payloadDigest (.create input))
  | .update invocation _ input carryForwardAttemptIds =>
    toolOrigin invocation.invocationId
      (digests.payloadDigest (.update input carryForwardAttemptIds))
  | .progress invocation _ action =>
    toolOrigin invocation.invocationId (digests.payloadDigest (.progress action))
  | .prepareReview origin _ _ => origin
  | .abandon invocation _ explanation controlFact =>
    toolOrigin invocation.invocationId
      (digests.payloadDigest (.abandon explanation controlFact.controlEventId))
  | .runtime requestId inputDigest _ _ _ => .runtime requestId inputDigest
  | .resolveTrustedBlock controlEventId resolutionRequestId inputDigest _ _ _ _ =>
    .host controlEventId resolutionRequestId inputDigest

/-- The checks before anything is awaited: the session of the invocation, the definition, and the
digest that an origin names. -/
def assertRequest (request : PlanControlRequest Check) : Except PlanControlError Unit := do
  match request with
  | .create invocation input => do
      planEnsure (invocation.sessionId == sessionId) "PLAN_INVOCATION_SCOPE_INVALID"
      ensure (validatePlanCreateInputV1 digests.toReviewDigests input) .failed
  | .update invocation _ input _ => do
      planEnsure (invocation.sessionId == sessionId) "PLAN_INVOCATION_SCOPE_INVALID"
      ensure (validatePlanCreateInputV1 digests.toReviewDigests input) .failed
  | .progress invocation _ _ | .abandon invocation _ _ _ =>
    planEnsure (invocation.sessionId == sessionId) "PLAN_INVOCATION_SCOPE_INVALID"
  | .prepareReview origin _ _ =>
    ensure (origin.digest == digests.payloadDigest (requestPayload sessionId request))
      (originConflict origin)
  | .runtime _ _ _ _ _ | .resolveTrustedBlock _ _ _ _ _ _ _ =>
    let origin := requestOrigin digests request
    ensure (origin.digest == digests.payloadDigest (requestPayload sessionId request))
      (originConflict origin)

variable (context : PlanContext Check Other View) (origin : ReviewPlanMutationOriginV1)
  (digest : String)

/-- The plan of the session. -/
def PlanContext.plan : Option (ReviewPlanProjectionV1 Check) :=
  view.reviewPlan context.projection.view

def createDrafts (invocation : PlanToolInvocationContextV1) :
    Except PlanControlError (List (EventDraft Check Other)) := do
  planEnsure ((context.plan view).all (·.state.terminal)) "PLAN_ALREADY_ACTIVE"
  let input ← orError .failed context.materialized
  return [reviewDraft origin digest (digests.stableId "rp" [sessionId, invocation.invocationId]) 1
    (.created input (digests.planHash { input with
      reviewPolicy := some (input.reviewPolicy.getD defaultReviewPolicy) })
      context.taskContract) (some invocation.runId)]

def updateDrafts (invocation : PlanToolInvocationContextV1) (expectedPlanRevision : Int) :
    Except PlanControlError (List (EventDraft Check Other)) := do
  let plan ← requirePlan (context.plan view) expectedPlanRevision
  assertMutable plan
  planEnsure (!hasFence plan) "PLAN_UPDATE_INFLIGHT_CONFLICT"
  planEnsure (!plan.items.any fun item => item.currentAttempt.any fun attempt =>
    [.open_, .reviewRequested].contains attempt.state) "PLAN_UPDATE_INFLIGHT_CONFLICT"
  let input ← orError .failed context.materialized
  let nextHash := digests.planHash { input with
    reviewPolicy := some (input.reviewPolicy.getD plan.policy) }
  if digests.planHash (planDefinition plan) = nextHash then
    return [reviewDraft origin digest plan.planId plan.revision
      (.noProgressRecorded (plan.noProgressCount + 1)) (some invocation.runId)]
  planEnsure (decide (plan.replanCount < plan.policy.maxReplans)) "PLAN_REPLAN_BUDGET_EXHAUSTED"
  return [reviewDraft origin digest plan.planId (plan.revision + 1)
    (.revised plan.revision input nextHash) (some invocation.runId)]

def PlanProgressActionV1.itemId : PlanProgressActionV1 → String
  | .start itemId | .focus itemId _ | .block itemId _ _ _ | .requestSkip itemId => itemId

def blockDrafts (invocation : PlanToolInvocationContextV1) (plan : ReviewPlanProjectionV1 Check)
    (item : ReviewPlanItemProjectionV1) (itemAttemptId : Option String) (reason : String)
    (code : Option String) : List (EventDraft Check Other) :=
  let blockedAttemptId := itemAttemptId.or (item.currentAttempt.map (·.itemAttemptId))
  let closed := blockedAttemptId.toList.map fun blocked =>
    reviewDraft origin digest plan.planId plan.revision
      (.itemAttemptClosed item.id blocked .blocked) (some invocation.runId)
  let block : ReviewPlanBlockV1 :=
    { blockId := digests.stableId "rpb" [plan.planId, item.id, invocation.invocationId]
      code := code.getD "MODEL_REPORTED_BLOCK"
      allowedResolver := .planRevision
      detailDigest := digests.reasonDigest reason
      createdAt := context.now }
  closed ++ [reviewDraft origin digest plan.planId plan.revision
    (.itemStateChanged item.id .blocked (some block)) (some invocation.runId)]

def progressDrafts (invocation : PlanToolInvocationContextV1) (expectedPlanRevision : Int)
    (action : PlanProgressActionV1) : Except PlanControlError (List (EventDraft Check Other)) := do
  let plan ← requirePlan (context.plan view) expectedPlanRevision
  assertMutable plan
  planEnsure plan.finalPreparedReview.isNone "PLAN_REVIEW_FENCE_ACTIVE"
  let item ← requireItem plan action.itemId
  planEnsure item.preparedReview.isNone "PLAN_REVIEW_FENCE_ACTIVE"
  let draft := fun data : ReviewPlanEventDataV1 Check =>
    reviewDraft origin digest plan.planId plan.revision data (some invocation.runId)
  match action with
  | .start _ => do
      planEnsure (decide (item.attemptCount < plan.policy.maxRepairAttemptsPerItem + 1))
        "PLAN_REPAIR_BUDGET_EXHAUSTED"
      return [draft (.itemAttemptStarted item.id
        (digests.stableId "rpa" [plan.planId, item.id, invocation.invocationId])
        (item.attemptCount + 1))]
  | .focus _ itemAttemptId => return [draft (.itemAttemptFocused item.id itemAttemptId)]
  | .requestSkip _ => do
      planEnsure (!item.criterionIds.any (requiredOnlyHere plan item.id))
        "PLAN_REQUIRED_CRITERION_UNCOVERED"
      return [draft (.itemStateChanged item.id .skipped none)]
  | .block _ itemAttemptId reason code =>
    return blockDrafts digests context origin digest invocation plan item itemAttemptId reason code

def prepareReviewDrafts (expectedPlanRevision : Int) (preparedReview : PreparedReviewRefV1) :
    Except PlanControlError (List (EventDraft Check Other)) := do
  let plan ← requirePlan (context.plan view) expectedPlanRevision
  assertMutable plan
  planEnsure (!hasFence plan) "PLAN_REVIEW_FENCE_ACTIVE"
  planEnsure (preparedReview.planRevision == plan.revision) "PLAN_REVISION_CONFLICT"
  match preparedReview.scope with
  | .item itemId => do
      let item ← requireItem plan itemId
      planEnsure (item.currentAttempt.map (·.itemAttemptId) == preparedReview.itemAttemptId)
        "PLAN_ATTEMPT_NOT_FOCUSED"
  | .final =>
    planEnsure (plan.items.all (·.state == .accepted)) "PLAN_FINAL_REVIEW_NOT_READY"
  return [reviewDraft origin digest plan.planId plan.revision (.reviewPrepared preparedReview)]

def assertControl (fact : VerifiedPlanControlFactV1) (action : PlanControlActionV1)
    (planId : String) : Except PlanControlError Unit :=
  let durable := (view.reviewControls context.projection.view).find?
    (·.1.controlEventId == fact.controlEventId)
  planEnsure (durable.any (fun control => control.2 == .authorized &&
      digests.factDigest control.1 == digests.factDigest fact) &&
    fact.action == action && fact.sessionId == context.projection.snapshot.sessionId &&
    fact.target == some planId && !fact.expiresAt.textLe context.projection.snapshot.updatedAt)
    "PLAN_CONTROL_AUTHORIZATION_INVALID"

def abandonDrafts (invocation : PlanToolInvocationContextV1) (expectedPlanRevision : Int)
    (controlFact : VerifiedPlanControlFactV1) :
    Except PlanControlError (List (EventDraft Check Other)) := do
  let plan ← requirePlan (context.plan view) expectedPlanRevision
  let run := context.projection.snapshot.runs.find? (·.runId == invocation.runId)
  planEnsure (!run.any (·.planPolicy == .required)) "PLAN_ABANDON_REQUIRED_POLICY"
  assertControl digests view context controlFact .abandon plan.planId
  return [consumedDraft controlFact,
    reviewDraft origin digest plan.planId plan.revision (.stateChanged .abandoned none)
      (some invocation.runId)]

def runtimeData (planId requestId : String) (plan : ReviewPlanProjectionV1 Check) :
    RuntimeOperation → Except PlanControlError (ReviewPlanEventDataV1 Check)
  | .requestExecution itemId itemAttemptId executionInputDigest => do
      assertAttempt plan itemId itemAttemptId
      return .executionRequested itemId itemAttemptId
        (digests.stableId "rpe" [planId, itemAttemptId, requestId, "execution"])
        executionInputDigest
  | .bindExecution itemId itemAttemptId executionRequestId taskRef binding => do
      assertAttempt plan itemId itemAttemptId
      planEnsure (binding == ⟨sessionId, planId, plan.revision, itemId, itemAttemptId,
        executionRequestId⟩) "PLAN_EXECUTION_BINDING_INVALID"
      return .executionBound itemId itemAttemptId executionRequestId taskRef
  | .recordRootToolRequest itemId itemAttemptId toolRequestId invocation toolName inputDigest => do
      assertAttempt plan itemId itemAttemptId
      return .rootToolRequested itemId itemAttemptId toolRequestId invocation.invocationId toolName
        inputDigest
  | .recordRootToolResult itemId itemAttemptId toolRequestId resultRef effectReceiptRef
      changedFilesDigest => do
      assertAttempt plan itemId itemAttemptId
      return .rootToolRecorded itemId itemAttemptId toolRequestId resultRef effectReceiptRef
        changedFilesDigest
  | .requestSemanticReview preparedReviewId deterministicDigest deterministicAttemptCount
      providerAttemptCount => do
      planEnsure (preparedExists plan preparedReviewId) "PLAN_REVIEW_NOT_PREPARED"
      return .reviewRequested preparedReviewId
        (digests.stableId "rpr" [preparedReviewId, deterministicDigest, requestId])
        deterministicDigest deterministicAttemptCount providerAttemptCount
  | .applyReviewDecision preparedReviewId decision => do
      planEnsure (preparedExists plan preparedReviewId) "PLAN_REVIEW_NOT_PREPARED"
      return .reviewRecorded preparedReviewId decision.reviewRequestId decision

def runtimeDrafts (requestId planId : String) (expectedPlanRevision : Int)
    (operation : RuntimeOperation) : Except PlanControlError (List (EventDraft Check Other)) := do
  let plan ← requirePlan (context.plan view) expectedPlanRevision (some planId)
  let data ← runtimeData digests sessionId planId requestId plan operation
  return [reviewDraft origin digest plan.planId plan.revision data]

def resolveBlockDrafts (planId : String) (expectedPlanRevision : Int) (blockId : String)
    (controlFact : VerifiedPlanControlFactV1) :
    Except PlanControlError (List (EventDraft Check Other)) := do
  let plan ← requirePlan (context.plan view) expectedPlanRevision (some planId)
  assertControl digests view context controlFact .resolveBlock plan.planId
  let block :=
    if plan.block.any (·.blockId == blockId) then plan.block
    else (plan.items.find? fun item => item.block.any (·.blockId == blockId)).bind (·.block)
  planEnsure (block.any fun block => [.trustedHost, .userInput].contains block.allowedResolver)
    "PLAN_BLOCK_RESOLUTION_INVALID"
  return [consumedDraft controlFact,
    reviewDraft origin digest plan.planId plan.revision (.blockResolved blockId)]

/-- The events of a request on the projection that an attempt of its commit reads. -/
def buildDrafts (request : PlanControlRequest Check) :
    Except PlanControlError (List (EventDraft Check Other)) :=
  let origin := requestOrigin digests request
  let digest := digests.payloadDigest (mutationPayload digests sessionId request)
  match request with
  | .create invocation _ => createDrafts digests view sessionId context origin digest invocation
  | .update invocation expectedPlanRevision _ _ =>
    updateDrafts digests view context origin digest invocation expectedPlanRevision
  | .progress invocation expectedPlanRevision action =>
    progressDrafts digests view context origin digest invocation expectedPlanRevision action
  | .prepareReview _ expectedPlanRevision preparedReview =>
    prepareReviewDrafts view context origin digest expectedPlanRevision preparedReview
  | .abandon invocation expectedPlanRevision _ controlFact =>
    abandonDrafts digests view context origin digest invocation expectedPlanRevision controlFact
  | .runtime requestId _ planId expectedPlanRevision operation =>
    runtimeDrafts digests view sessionId context origin digest requestId planId
      expectedPlanRevision operation
  | .resolveTrustedBlock _ _ _ planId expectedPlanRevision blockId controlFact =>
    resolveBlockDrafts digests view context origin digest planId expectedPlanRevision blockId
      controlFact

end Mutations

/-! ## The task contract -/

section TaskContract

variable {Check Other View : Type} (digests : PlanDigests Check)

def isUserMessage : ProviderMessage → Bool
  | .user _ _ _ _ => true
  | _ => false

def isTrustedPrompt : ProviderMessage → Bool
  | .user _ intent trust _ =>
    trust == some .user && (intent == some .prompt || intent == some .followUp)
  | _ => false

def contractText : ProviderContent → String
  | .text written => written
  | content => digests.contentJson content

def taskContractFor (projection : SessionProjectionV3 (PlanEntryData Check Other) View)
    (runId : String) : Except PlanControlError ReviewPlanTaskContractV1 := do
  let run := projection.snapshot.runs.find? (·.runId == runId)
  planEnsure (run.any (·.state == .running)) "PLAN_TASK_CONTRACT_NOT_FOUND"
  let userMessages := projection.snapshot.messages.reverse.filterMap fun entry =>
    match entry.2 with
    | .message message => if isUserMessage message then some (entry.1, message) else none
    | _ => none
  let candidate ← orError (.plan "PLAN_TASK_CONTRACT_NOT_FOUND")
    ((userMessages.find? fun entry => isTrustedPrompt entry.2).or userMessages.head?)
  let text := contractText digests candidate.2.content
  planEnsure (text != "") "PLAN_TASK_CONTRACT_NOT_FOUND"
  return {
    runId
    messageId := candidate.1
    text
    digest := digests.textDigest text }

end TaskContract

end Praxis.Review
