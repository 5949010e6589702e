import Praxis.Session.PlanContracts

/-!
# Review plan contracts

A review plan is a definition (criteria and items) with the attempts at its items and the reviews
of them. This module has its data, its transition tables and the validators of its parts.

The mechanical check of a criterion is a parameter `Check`: the reducer validates and digests it and
looks no further. `ReviewDigests` has the digests of canonical JSON.
-/

namespace Praxis.Review

set_option autoImplicit false

open Praxis.Foundations
open Praxis.Workflow (safeId isSha256 positiveInteger nonNegativeInteger)

/-! ## Definitions -/

/-- How a criterion is judged. -/
inductive ReviewCriterionKindV1 (Check : Type) where
  | mechanical (check : Check)
  | semantic

structure ReviewCriterionV1 (Check : Type) where
  id : String
  description : String
  required : Bool
  reviewRequired : Option Bool := none
  kind : ReviewCriterionKindV1 Check

inductive ReviewSemanticsV1 where
  | final
  | finalAndCheckpoints

structure ReviewPolicyV1 where
  semantic : ReviewSemanticsV1
  maxRepairAttemptsPerItem : Int
  maxReplans : Int
  maxReviewAttempts : Int
  maxNoProgressAttempts : Int

def defaultReviewPolicy : ReviewPolicyV1 where
  semantic := .finalAndCheckpoints
  maxRepairAttemptsPerItem := 8
  maxReplans := 8
  maxReviewAttempts := 3
  maxNoProgressAttempts := 3

structure ReviewPlanItemDefinitionV1 where
  id : String
  title : String
  criterionIds : List String
  reviewCheckpoint : Bool
deriving DecidableEq

structure PlanCreateInputV1 (Check : Type) where
  objective : String
  acceptanceCriteria : List (ReviewCriterionV1 Check)
  items : List ReviewPlanItemDefinitionV1
  reviewPolicy : Option ReviewPolicyV1 := none

/-! ## States -/

inductive ReviewPlanStateV1 where
  | active
  | reviewing
  | blocked
  | completed
  | abandoned
  | cancelled
deriving DecidableEq

inductive ReviewPlanItemStateV1 where
  | pending
  | running
  | reviewRequested
  | accepted
  | needsFix
  | blocked
  | skipped
deriving DecidableEq

inductive ReviewAttemptStateV1 where
  | open_
  | reviewRequested
  | accepted
  | needsFix
  | blocked
  | cancelled
deriving DecidableEq

inductive ReviewVerdictV1 where
  | accepted
  | needsFix
  | replan
  | blocked
deriving DecidableEq

/-- The states that a plan does not leave through its table. -/
def ReviewPlanStateV1.terminal : ReviewPlanStateV1 → Bool
  | .completed | .abandoned | .cancelled => true
  | .active | .reviewing | .blocked => false

/-- The table of `assertReviewPlanTransitionV1`. -/
def reviewPlanTransitions : ReviewPlanStateV1 → List ReviewPlanStateV1
  | .active => [.reviewing, .blocked, .abandoned, .cancelled]
  | .reviewing => [.active, .blocked, .completed, .cancelled]
  | .blocked => [.active, .abandoned, .cancelled]
  | .completed => []
  | .abandoned => []
  | .cancelled => []

/-- The table of `assertReviewPlanItemTransitionV1`. -/
def reviewPlanItemTransitions : ReviewPlanItemStateV1 → List ReviewPlanItemStateV1
  | .pending => [.running, .skipped, .blocked]
  | .running => [.reviewRequested, .needsFix, .accepted, .blocked]
  | .reviewRequested => [.accepted, .needsFix, .blocked]
  | .accepted => []
  | .needsFix => [.running, .blocked, .skipped]
  | .blocked => [.pending, .running, .skipped]
  | .skipped => []

def tableTransitionInvalid : String := "REVIEW_PLAN_TRANSITION_INVALID"

def assertReviewPlanTransitionV1 (current next : ReviewPlanStateV1) : Except String Unit :=
  ensure ((reviewPlanTransitions current).contains next) tableTransitionInvalid

def assertReviewPlanItemTransitionV1 (current next : ReviewPlanItemStateV1) : Except String Unit :=
  ensure ((reviewPlanItemTransitions current).contains next) tableTransitionInvalid

/-! ## The plan -/

structure ReviewPlanItemAttemptV1 where
  itemAttemptId : String
  attemptNumber : Int
  state : ReviewAttemptStateV1
  evidenceRefs : Option (List String) := none

structure ReviewPlanTaskContractV1 where
  runId : String
  messageId : String
  text : String
  digest : String

structure PreparedFileRuleInputV1 where
  criterionId : String
  path : String
  exists_ : Bool
  artifactRef : Option String := none
  contentDigest : Option String := none
  contentBytes : Option Int := none
  fileIdentityDigest : Option String := none
  workspaceBaselineDigest : String

inductive ReviewScopeV1 where
  | item (itemId : String)
  | final
deriving DecidableEq

structure PreparedReviewRefV1 where
  preparedReviewId : String
  scope : ReviewScopeV1
  planRevision : Int
  itemAttemptId : Option String := none
  criterionIds : List String
  evidenceRefs : List String
  reviewInputDigest : String
  resultSummaryArtifactRef : String
  resultSummaryDigest : String
  resultSummaryBytes : Int
  preparedFileInputs : List PreparedFileRuleInputV1 := []
  changedFilesArtifactRef : Option String := none
  changedFilesDigest : Option String := none
  triggerReasons : List String

structure ReviewPlanEffectRefV1 where
  workflowId : String
  effectRequestId : String
  requestDigest : String

inductive ReviewBlockResolverV1 where
  | planRevision
  | userInput
  | runtimeHealth
  | trustedHost
deriving DecidableEq

structure ReviewPlanBlockV1 where
  blockId : String
  code : String
  allowedResolver : ReviewBlockResolverV1
  detailDigest : String
  createdAt : Timestamp
  effectRefs : Option (List ReviewPlanEffectRefV1) := none

structure ReviewDecisionRefV1 where
  reviewRequestId : String
  decisionArtifactRef : String
  decisionDigest : String
  verdict : ReviewVerdictV1

inductive ReviewCriterionStatusV1 where
  | active
  | retired
deriving DecidableEq

structure ReviewCriterionProjectionV1 (Check : Type) extends ReviewCriterionV1 Check where
  definitionDigest : String
  definitionArtifactRef : Option String := none
  status : ReviewCriterionStatusV1
  supersedesCriterionId : Option String := none

structure ReviewPlanItemProjectionV1 extends ReviewPlanItemDefinitionV1 where
  order : Nat
  state : ReviewPlanItemStateV1
  attemptCount : Int
  currentAttempt : Option ReviewPlanItemAttemptV1 := none
  block : Option ReviewPlanBlockV1 := none
  preparedReview : Option PreparedReviewRefV1 := none
  taskRefs : List String := []
  evidenceRefs : List String := []
  /-- Evidence frozen for the accepted attempt only. -/
  acceptedEvidenceRefs : Option (List String) := none
  acceptedAttemptId : Option String := none
  acceptedInputDigest : Option String := none
  lastReview : Option ReviewDecisionRefV1 := none

structure ReviewPlanProjectionV1 (Check : Type) where
  planId : String
  revision : Int
  objective : String
  objectiveDigest : String
  taskContract : Option ReviewPlanTaskContractV1 := none
  state : ReviewPlanStateV1
  policy : ReviewPolicyV1
  criteria : List (ReviewCriterionProjectionV1 Check)
  items : List ReviewPlanItemProjectionV1
  attemptCount : Int := 0
  replanCount : Int := 0
  noProgressCount : Int := 0
  focusedRootAttemptId : Option String := none
  block : Option ReviewPlanBlockV1 := none
  finalPreparedReview : Option PreparedReviewRefV1 := none
  lastReview : Option ReviewDecisionRefV1 := none

/-! ## Validators -/

/-- The parts of the contracts that are not spelled out: the check of a mechanical check, and
SHA-256 of canonical JSON. -/
structure ReviewDigests (Check : Type) where
  validCheck : Check → Bool
  /-- `canonicalDigestV1` of a text. -/
  textDigest : String → String
  /-- `reviewCriterionDigestV1`. -/
  criterionDigest : ReviewCriterionV1 Check → String
  /-- `reviewPlanHashV1`, of a definition with its policy. -/
  planHash : PlanCreateInputV1 Check → String

def boundedText (value : String) (maximumBytes : Nat) : Bool :=
  Session.Plan.boundedText value maximumBytes

def stringList (value : List String) (maximum : Nat) : Bool :=
  decide (value.length ≤ maximum) && value.all fun entry => boundedText entry 512

/-- Between one and 128 different safe ids. -/
def uniqueIds (value : List String) : Bool :=
  decide (1 ≤ value.length ∧ value.length ≤ 128) && value.all safeId && decide value.Nodup

def maxDescriptionBytes : Nat := 8_192

def maxObjectiveBytes : Nat := 16_384

def maxReviewEvidenceItems : Nat := 256

def maxDurableAttemptEvidenceRefs : Nat := 65_536

def isSlash (c : Char) : Bool := c == '/' || c == '\\'

/-- A segment `..` of the first line of a path; `boundary` says that a segment starts here. -/
def parentSegment : Bool → List Char → Bool
  | _, [] => false
  | boundary, c :: rest =>
    (boundary && c == '.' &&
      match rest with
      | '.' :: after => after.head?.all isSlash
      | _ => false) ||
    (!(['\n', '\r', '\u2028', '\u2029'].contains c) && parentSegment (isSlash c) rest)

def workspacePath (value : String) : Bool :=
  boundedText value 2_048 && !((chars value).contains '\x00') && !parentSegment true (chars value) &&
    match chars value with
    | c :: ':' :: _ => !c.isAlpha
    | c :: _ => !isSlash c
    | [] => true

variable {Check : Type}

def validateReviewCriterionV1 (digests : ReviewDigests Check) (input : ReviewCriterionV1 Check) :
    Bool :=
  safeId input.id && boundedText input.description maxDescriptionBytes &&
    match input.kind with
    | .mechanical check => digests.validCheck check
    | .semantic => true

def validateItemDefinition (input : ReviewPlanItemDefinitionV1) : Bool :=
  safeId input.id && boundedText input.title maxDescriptionBytes && uniqueIds input.criterionIds

def validateReviewPolicyV1 (input : ReviewPolicyV1) : Bool :=
  [input.maxRepairAttemptsPerItem, input.maxReplans, input.maxReviewAttempts,
    input.maxNoProgressAttempts].all fun value => positiveInteger value && decide (value ≤ 32)

def validatePlanCreateInputV1 (digests : ReviewDigests Check) (input : PlanCreateInputV1 Check) :
    Bool :=
  boundedText input.objective maxObjectiveBytes &&
    decide (1 ≤ input.acceptanceCriteria.length ∧ input.acceptanceCriteria.length ≤ 128) &&
    decide (1 ≤ input.items.length ∧ input.items.length ≤ 128) &&
    input.acceptanceCriteria.all (validateReviewCriterionV1 digests) &&
    decide (input.acceptanceCriteria.map (·.id)).Nodup && input.items.all validateItemDefinition &&
    decide (input.items.map (·.id)).Nodup &&
    (input.items.all fun item => item.criterionIds.all fun id =>
      (input.acceptanceCriteria.map (·.id)).contains id) &&
    (input.acceptanceCriteria.all fun criterion => !criterion.required ||
      input.items.any fun item => item.criterionIds.contains criterion.id) &&
    validateReviewPolicyV1 (input.reviewPolicy.getD defaultReviewPolicy)

def validateTaskContract (digests : ReviewDigests Check) (input : ReviewPlanTaskContractV1) : Bool :=
  safeId input.runId && safeId input.messageId && boundedText input.text (64 * 1024) &&
    isSha256 input.digest && input.digest == digests.textDigest input.text

def validatePreparedFile (input : PreparedFileRuleInputV1) : Bool :=
  safeId input.criterionId && workspacePath input.path && isSha256 input.workspaceBaselineDigest &&
    [input.artifactRef.isSome, input.contentDigest.isSome, input.contentBytes.isSome,
      input.fileIdentityDigest.isSome].all (· == input.exists_) &&
    input.artifactRef.all (boundedText · 512) && input.contentDigest.all isSha256 &&
    input.contentBytes.all nonNegativeInteger && input.fileIdentityDigest.all isSha256

def validateScope : ReviewScopeV1 → Bool
  | .item itemId => safeId itemId
  | .final => true

def validatePreparedReviewRefV1 (input : PreparedReviewRefV1) : Bool :=
  safeId input.preparedReviewId && validateScope input.scope && positiveInteger input.planRevision &&
    input.itemAttemptId.all safeId && (input.scope == .final || input.itemAttemptId.isSome) &&
    uniqueIds input.criterionIds && stringList input.evidenceRefs maxReviewEvidenceItems &&
    isSha256 input.reviewInputDigest && boundedText input.resultSummaryArtifactRef 512 &&
    isSha256 input.resultSummaryDigest && nonNegativeInteger input.resultSummaryBytes &&
    decide (input.preparedFileInputs.length ≤ 64) &&
    input.preparedFileInputs.all validatePreparedFile &&
    input.changedFilesArtifactRef.isSome == input.changedFilesDigest.isSome &&
    input.changedFilesArtifactRef.all (boundedText · 512) &&
    input.changedFilesDigest.all isSha256 && stringList input.triggerReasons 64

def blockIdChar (c : Char) : Bool := c.isAlphanum || ['.', '_', ':', '+', '-'].contains c

def validateBlockId (value : String) : Bool :=
  match value.toList with
  | 'r' :: 'p' :: 'b' :: '_' :: rest =>
    decide (1 ≤ rest.length ∧ rest.length ≤ 124) && rest.all blockIdChar
  | _ => false

def validateEffectRef (input : ReviewPlanEffectRefV1) : Bool :=
  safeId input.workflowId && safeId input.effectRequestId && isSha256 input.requestDigest

def validateReviewPlanBlockV1 (input : ReviewPlanBlockV1) : Bool :=
  validateBlockId input.blockId && safeId input.code && isSha256 input.detailDigest &&
    input.createdAt.parsed.isSome &&
    input.effectRefs.all fun refs =>
      decide (1 ≤ refs.length ∧ refs.length ≤ 64) && refs.all validateEffectRef

def validateReviewDecisionRefV1 (input : ReviewDecisionRefV1) : Bool :=
  safeId input.reviewRequestId && boundedText input.decisionArtifactRef 512 &&
    isSha256 input.decisionDigest

def validateCriterionProjection (digests : ReviewDigests Check)
    (input : ReviewCriterionProjectionV1 Check) : Bool :=
  validateReviewCriterionV1 digests input.toReviewCriterionV1 && isSha256 input.definitionDigest &&
    input.definitionArtifactRef.all (boundedText · 512) && input.supersedesCriterionId.all safeId

def validateItemAttempt (input : ReviewPlanItemAttemptV1) : Bool :=
  safeId input.itemAttemptId && positiveInteger input.attemptNumber &&
    input.evidenceRefs.all (stringList · maxDurableAttemptEvidenceRefs)

def validateItemProjection (input : ReviewPlanItemProjectionV1) : Bool :=
  validateItemDefinition input.toReviewPlanItemDefinitionV1 &&
    nonNegativeInteger (input.order : Int) && nonNegativeInteger input.attemptCount &&
    input.currentAttempt.all validateItemAttempt && input.block.all validateReviewPlanBlockV1 &&
    input.preparedReview.all validatePreparedReviewRefV1 && stringList input.taskRefs 256 &&
    stringList input.evidenceRefs maxDurableAttemptEvidenceRefs &&
    input.acceptedEvidenceRefs.all (stringList · maxReviewEvidenceItems) &&
    input.acceptedAttemptId.all safeId &&
    input.acceptedEvidenceRefs.isSome == input.acceptedAttemptId.isSome &&
    (input.state != .accepted || input.acceptedEvidenceRefs.isSome) &&
    input.acceptedInputDigest.all isSha256 && input.lastReview.all validateReviewDecisionRefV1

/-- What `validateReviewPlanProjectionV1` accepts. -/
def validProjection (digests : ReviewDigests Check) (input : ReviewPlanProjectionV1 Check) : Bool :=
  safeId input.planId && positiveInteger input.revision &&
    boundedText input.objective maxObjectiveBytes && isSha256 input.objectiveDigest &&
    input.taskContract.all (validateTaskContract digests) && validateReviewPolicyV1 input.policy &&
    decide (1 ≤ input.criteria.length ∧ input.criteria.length ≤ 128) &&
    input.criteria.all (validateCriterionProjection digests) &&
    decide (input.criteria.map (·.id)).Nodup &&
    decide (1 ≤ input.items.length ∧ input.items.length ≤ 128) &&
    input.items.all validateItemProjection && decide (input.items.map (·.id)).Nodup &&
    (input.items.all fun item => item.criterionIds.all fun id =>
      (input.criteria.map (·.id)).contains id) &&
    nonNegativeInteger input.attemptCount && nonNegativeInteger input.replanCount &&
    nonNegativeInteger input.noProgressCount && input.focusedRootAttemptId.all safeId &&
    input.block.all validateReviewPlanBlockV1 &&
    input.finalPreparedReview.all validatePreparedReviewRefV1 &&
    input.lastReview.all validateReviewDecisionRefV1

end Praxis.Review
