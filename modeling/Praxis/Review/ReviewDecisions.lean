import Praxis.Foundations.Fallible
import Praxis.Foundations.Json
import Praxis.Foundations.JsonSchema

/-!
# Decisions of the semantic reviewer

`validateSemanticReviewDecisionV1` reads the answer of a model, which is asked to match
`reviewDecisionSchemaV1`. The verdict, the criterion ids and the statuses are compared through
`String`, which also makes a text of an array, and are returned as they stand.

A value has the form of a decision (`Conforms`) if these parts may be read through `String`. Of such
values the validator accepts those within its own bounds (`Bounded`), and the schema has those whose
parts are texts (`Plain`).
-/

namespace Praxis.Review

open Praxis.Foundations JsonValue

set_option autoImplicit false

variable {Number : Type} (numeral : Number → String)

/-! ## Values as texts and in sets -/

/-- `String(value)` of a value without parts. -/
def scalarText : JsonScalar Number → String
  | .null => "null"
  | .bool value => toString value
  | .num value => numeral value
  | .str text => text

mutual

/-- `String(value)`, which throws for an object that has a field `toString`. -/
def coerced : JsonValue Number → Option String
  | .scalar value => some (scalarText numeral value)
  | .arr items => (coercedItems items).map (String.intercalate ",")
  | .obj fields => if (names fields).contains "toString" then none else some "[object Object]"

def coercedItems : List (JsonValue Number) → Option (List String)
  | [] => some []
  | .scalar .null :: rest => (coercedItems rest).map ("" :: ·)
  | item :: rest => do return (← coerced item) :: (← coercedItems rest)

end

/-- `new Set(values).size`. Each array and each object is a value of its own. -/
def setSize [DecidableEq Number] (values : List (JsonValue Number)) : Nat :=
  values.countP (scalar? · |>.isNone) + (values.filterMap scalar?).dedup.length

/-! ## The validator -/

structure ReviewFinding (Number : Type) where
  criterionId : JsonValue Number
  status : JsonValue Number
  reason : String
  evidenceRefs : List String

structure SemanticReviewDecision (Number : Type) where
  verdict : JsonValue Number
  summary : String
  findings : List (ReviewFinding Number)

def verdicts : List String := ["accepted", "needs_fix", "replan", "blocked"]

def statuses : List String := ["passed", "failed", "unverifiable"]

def proofKeys : List String := ["observation", "inference", "unresolvedAssumptions"]

def proofText (observation inference : String) (assumptions : List String) : String :=
  "\nObservation: " ++ observation ++ "\nInference: " ++ inference ++
    "\nUnresolved assumptions: " ++ (Json.arr (assumptions.map .str)).stringify

/-- The reason with the proof behind it. -/
def foldProof (status : JsonValue Number) (reason : String) (proof : JsonValue Number) :
    Except String String := do
  let fields ← orError "findings.proof" (record? proof)
  ensure (exact fields proofKeys) "findings.proof"
  let observation ← orError "findings.proof" (text? (proof.field "observation"))
  let inference ← orError "findings.proof" (text? (proof.field "inference"))
  let assumptions ← orError "findings.proof" (texts? (proof.field "unresolvedAssumptions"))
  ensure (trim observation != "" && trim inference != "" && assumptions.all (trim · != ""))
    "findings.proof"
  ensure (text? status != some "passed" || assumptions.isEmpty)
    "findings.proof.unresolvedAssumptions"
  let folded := reason ++ proofText observation inference assumptions
  ensure (decide (unitLength folded ≤ 8192)) "findings.reason.length"
  return folded

def foldedReason (candidate : JsonValue Number) (reason : String) : Except String String :=
  if candidate.has "proof" then foldProof (candidate.field "status") reason (candidate.field "proof")
  else pure reason

def findingKeys (requireProof : Bool) (candidate : JsonValue Number) : List String :=
  ["criterionId", "status", "reason", "evidenceRefs"] ++
    if requireProof || candidate.has "proof" then ["proof"] else []

variable (criterionIds evidenceRefs : List String) (requireProof : Bool)

def validateFinding (candidate : JsonValue Number) : Except String (ReviewFinding Number) := do
  let fields ← orError "findings.fields" (record? candidate)
  ensure (exact fields (findingKeys requireProof candidate)) "findings.fields"
  let criterionId := candidate.field "criterionId"
  let status := candidate.field "status"
  let named ← orError "TypeError" (coerced numeral criterionId)
  ensure (criterionIds.contains named) "findings.criterionId"
  let given ← orError "TypeError" (coerced numeral status)
  ensure (statuses.contains given) "$"
  let reason ← orError "$" (text? (candidate.field "reason"))
  ensure (decide (1 ≤ unitLength reason ∧ unitLength reason ≤ 8192)) "$"
  let refs ← orError "findings.evidenceRefs" (texts? (candidate.field "evidenceRefs"))
  ensure (refs.all evidenceRefs.contains) "findings.evidenceRefs"
  ensure (text? status != some "passed" || !refs.isEmpty) "findings.evidenceRefs.empty"
  let reason ← foldedReason candidate reason
  return { criterionId, status, reason, evidenceRefs := refs }

def validateSemanticReviewDecisionV1 [DecidableEq Number] (value : JsonValue Number) :
    Except String (SemanticReviewDecision Number) := do
  let fields ← orError "$" (record? value)
  ensure (exact fields ["verdict", "summary", "findings"]) "$"
  let verdict := value.field "verdict"
  let given ← orError "TypeError" (coerced numeral verdict)
  ensure (verdicts.contains given) "$"
  let summary ← orError "$" (text? (value.field "summary"))
  ensure (decide (1 ≤ unitLength summary ∧ unitLength summary ≤ 16384)) "$"
  let candidates ← orError "findings.length" (items? (value.field "findings"))
  ensure (candidates.length == criterionIds.length) "findings.length"
  let findings ← candidates.mapM (validateFinding numeral criterionIds evidenceRefs requireProof)
  ensure (setSize (findings.map (·.criterionId)) == criterionIds.length) "$"
  ensure (text? verdict != some "accepted" ||
    findings.all fun finding => text? finding.status == some "passed") "$"
  return { verdict, summary, findings }

def ReviewFinding.toJson (finding : ReviewFinding Number) : JsonValue Number :=
  .obj [("criterionId", finding.criterionId), ("status", finding.status),
    ("reason", .str finding.reason), ("evidenceRefs", .arr (finding.evidenceRefs.map .str))]

/-- The decision as it is stored. -/
def SemanticReviewDecision.toJson (decision : SemanticReviewDecision Number) : JsonValue Number :=
  .obj [("verdict", decision.verdict), ("summary", .str decision.summary),
    ("findings", .arr (decision.findings.map ReviewFinding.toJson))]

/-! ## The schema -/

def texts : JsonSchema := .list (.text 0 none) none

def proofSchema : JsonSchema :=
  .object proofKeys
    [("observation", .text 0 none), ("inference", .text 0 none), ("unresolvedAssumptions", texts)]

def findingSchema (requireProof : Bool) : JsonSchema :=
  .object (["criterionId", "status", "reason", "evidenceRefs"] ++
      if requireProof then ["proof"] else [])
    ([("criterionId", .text 0 none), ("status", .words statuses), ("reason", .text 0 none),
      ("evidenceRefs", texts)] ++ if requireProof then [("proof", proofSchema)] else [])

def reviewDecisionSchemaV1 (requireProof : Bool) : JsonSchema :=
  .object ["verdict", "summary", "findings"]
    [("verdict", .words verdicts), ("summary", .text 1 (some 16384)),
     ("findings", .list (findingSchema requireProof) (some 129))]

def findingsOf (value : JsonValue Number) : List (JsonValue Number) :=
  (value.field "findings").elements

/-- The value matches `reviewDecisionSchemaV1`, and its findings cover the criteria, cite evidence
and bear out the verdict. -/
structure MatchesSchema (value : JsonValue Number) : Prop where
  schema : (reviewDecisionSchemaV1 requireProof).accepts value = true
  /-- Every criterion has one finding, under its id as a string. -/
  covered : ((findingsOf value).map (·.field "criterionId")).Nodup ∧
    ((findingsOf value).map (·.field "criterionId")).Perm (criterionIds.map .str)
  cited : ∀ finding ∈ findingsOf value, ∀ ref ∈ (finding.field "evidenceRefs").elements,
    ∃ listed ∈ evidenceRefs, ref = .str listed
  supported : ∀ finding ∈ findingsOf value, finding.field "status" = .str "passed" →
    (finding.field "evidenceRefs").elements ≠ [] ∧
      ((finding.field "proof").field "unresolvedAssumptions").elements = []
  passed : value.field "verdict" = .str "accepted" →
    ∀ finding ∈ findingsOf value, finding.field "status" = .str "passed"

/-! ## The form of a decision -/

structure ConformingProof (status proof : JsonValue Number) : Prop where
  keys : ∃ fields, proof = .obj fields ∧ exact fields proofKeys = true
  observation : ∃ text, proof.field "observation" = .str text
  inference : ∃ text, proof.field "inference" = .str text
  assumptions : ∃ texts, proof.field "unresolvedAssumptions" = .arr (texts.map .str) ∧
    (status = .str "passed" → texts = [])

/-- A finding, with or without a proof, whose criterion and status are read through `String`. -/
structure ConformingFinding (finding : JsonValue Number) : Prop where
  keys : ∃ fields, finding = .obj fields ∧ exact fields (findingKeys requireProof finding) = true
  criterion : ∃ id ∈ criterionIds, coerced numeral (finding.field "criterionId") = some id
  status : ∃ status ∈ statuses, coerced numeral (finding.field "status") = some status
  reason : ∃ reason, finding.field "reason" = .str reason
  evidence : ∃ refs, finding.field "evidenceRefs" = .arr (refs.map .str) ∧ refs ⊆ evidenceRefs ∧
    (finding.field "status" = .str "passed" → refs ≠ [])
  proof : finding.has "proof" = true →
    ConformingProof (finding.field "status") (finding.field "proof")

structure Conforms [DecidableEq Number] (value : JsonValue Number) : Prop where
  keys : ∃ fields, value = .obj fields ∧ exact fields ["verdict", "summary", "findings"] = true
  verdict : ∃ verdict ∈ verdicts, coerced numeral (value.field "verdict") = some verdict
  summary : ∃ summary, value.field "summary" = .str summary ∧ 1 ≤ unitLength summary
  listed : ∃ findings, value.field "findings" = .arr findings
  findings : ∀ finding ∈ findingsOf value,
    ConformingFinding numeral criterionIds evidenceRefs requireProof finding
  counted : (findingsOf value).length = criterionIds.length
  distinct : setSize ((findingsOf value).map (·.field "criterionId")) = criterionIds.length
  passed : value.field "verdict" = .str "accepted" →
    ∀ finding ∈ findingsOf value, finding.field "status" = .str "passed"

/-- The bounds on a reason and on the proof that is folded into it. -/
structure BoundedFinding (finding : JsonValue Number) : Prop where
  reason : ∀ reason, finding.field "reason" = .str reason →
    1 ≤ unitLength reason ∧ unitLength reason ≤ 8192
  proof : finding.has "proof" = true → ∀ reason observation inference assumptions,
    finding.field "reason" = .str reason →
    (finding.field "proof").field "observation" = .str observation →
    (finding.field "proof").field "inference" = .str inference →
    (finding.field "proof").field "unresolvedAssumptions" = .arr (assumptions.map .str) →
      ((trim observation ≠ "" ∧ trim inference ≠ "") ∧ ∀ text ∈ assumptions, trim text ≠ "") ∧
        unitLength (reason ++ proofText observation inference assumptions) ≤ 8192

structure Bounded (value : JsonValue Number) : Prop where
  summary : ∀ summary, value.field "summary" = .str summary → unitLength summary ≤ 16384
  findings : ∀ finding ∈ findingsOf value, BoundedFinding finding

/-- The criterion and the status are strings, and there is a proof only where it is asked for. -/
structure PlainFinding (finding : JsonValue Number) : Prop where
  criterion : ∃ text, finding.field "criterionId" = .str text
  status : ∃ text, finding.field "status" = .str text
  asked : finding.has "proof" = true → requireProof = true

structure Plain (value : JsonValue Number) : Prop where
  verdict : ∃ text, value.field "verdict" = .str text
  summary : ∀ summary, value.field "summary" = .str summary → summary.length ≤ 16384
  findings : ∀ finding ∈ findingsOf value, PlainFinding requireProof finding
  few : (findingsOf value).length ≤ 129

/-! ## The validator accepts the bounded values of the form -/

section Validator

variable {numeral : Number → String} {criterionIds evidenceRefs : List String}
  {requireProof : Bool} {value candidate status proof : JsonValue Number}

theorem foldProof_eq_ok {reason folded : String} : foldProof status reason proof = .ok folded ↔
    ∃ fields observation inference assumptions, proof = .obj fields ∧
      exact fields proofKeys = true ∧ proof.field "observation" = .str observation ∧
      proof.field "inference" = .str inference ∧
      proof.field "unresolvedAssumptions" = .arr (assumptions.map .str) ∧
      ((trim observation ≠ "" ∧ trim inference ≠ "") ∧ ∀ text ∈ assumptions, trim text ≠ "") ∧
      (status = .str "passed" → assumptions = []) ∧
      unitLength (reason ++ proofText observation inference assumptions) ≤ 8192 ∧
      reason ++ proofText observation inference assumptions = folded := by
  simp only [foldProof, bind_eq_ok, orError_eq_ok, ensure_eq_ok, pure_eq_ok, record?_eq_some,
    text?_eq_some, texts?_eq_some, Bool.and_eq_true, Bool.or_eq_true, bne_iff_ne, ne_eq,
    List.all_eq_true, List.isEmpty_iff, decide_eq_true_eq, exists_const, ← imp_iff_not_or]
  constructor
  · rintro ⟨fields, is, keys, observation, observed, inference, inferred, assumptions, assumed,
      written, resolved, short, folded⟩
    exact ⟨fields, observation, inference, assumptions, is, keys, observed, inferred, assumed,
      written, resolved, short, folded⟩
  · rintro ⟨fields, observation, inference, assumptions, is, keys, observed, inferred, assumed,
      written, resolved, short, folded⟩
    exact ⟨fields, is, keys, observation, observed, inference, inferred, assumptions, assumed,
      written, resolved, short, folded⟩

theorem validateFinding_eq_ok {finding : ReviewFinding Number} :
    validateFinding numeral criterionIds evidenceRefs requireProof candidate = .ok finding ↔
      (∃ fields, candidate = .obj fields ∧
        exact fields (findingKeys requireProof candidate) = true) ∧
      (∃ id ∈ criterionIds, coerced numeral (candidate.field "criterionId") = some id) ∧
      (∃ status ∈ statuses, coerced numeral (candidate.field "status") = some status) ∧
      (∃ reason, candidate.field "reason" = .str reason ∧
        (1 ≤ unitLength reason ∧ unitLength reason ≤ 8192) ∧
        foldedReason candidate reason = .ok finding.reason) ∧
      (candidate.field "evidenceRefs" = .arr (finding.evidenceRefs.map .str) ∧
        finding.evidenceRefs ⊆ evidenceRefs ∧
        (candidate.field "status" = .str "passed" → finding.evidenceRefs ≠ [])) ∧
      finding.criterionId = candidate.field "criterionId" ∧
      finding.status = candidate.field "status" := by
  simp only [validateFinding, bind_eq_ok, orError_eq_ok, ensure_eq_ok, pure_eq_ok, record?_eq_some,
    text?_eq_some, texts?_eq_some, Bool.or_eq_true, bne_iff_ne, Bool.not_eq_true',
    List.all_eq_true, List.isEmpty_eq_false_iff, List.contains_iff_mem, decide_eq_true_eq,
    exists_const, ne_eq, ← imp_iff_not_or]
  constructor
  · rintro ⟨fields, is, keys, id, named, listed, word, given, known, reason, text, bounds, refs,
      cited, held, some_cited, folded, taken, rfl⟩
    exact ⟨⟨fields, is, keys⟩, ⟨id, listed, named⟩, ⟨word, known, given⟩, ⟨reason, text, bounds, taken⟩,
      ⟨cited, held, some_cited⟩, rfl, rfl⟩
  · obtain ⟨criterionId, status, folded, refs⟩ := finding
    rintro ⟨⟨fields, is, keys⟩, ⟨id, listed, named⟩, ⟨word, known, given⟩,
      ⟨reason, text, bounds, taken⟩, ⟨cited, held, some_cited⟩, rfl, rfl⟩
    exact ⟨fields, is, keys, id, named, listed, word, given, known, reason, text, bounds, _, cited,
      held, some_cited, _, taken, rfl⟩

theorem validateFinding_accepts :
    (∃ finding, validateFinding numeral criterionIds evidenceRefs requireProof candidate =
        .ok finding) ↔
      ConformingFinding numeral criterionIds evidenceRefs requireProof candidate ∧
        BoundedFinding candidate := by
  simp only [validateFinding_eq_ok]
  constructor
  · rintro ⟨finding, keys, criterion, status, ⟨reason, text, bounds, taken⟩, evidence, -, -⟩
    have proved : candidate.has "proof" = true → ∃ folded,
        foldProof (candidate.field "status") reason (candidate.field "proof") = .ok folded :=
      fun present => ⟨_, (if_pos present).symm.trans taken⟩
    refine ⟨⟨keys, criterion, status, ⟨reason, text⟩, ⟨_, evidence⟩, fun present => ?_⟩,
      ⟨fun other is => ?_, fun present other observation inference assumptions is seen concluded
        assumed => ?_⟩⟩
    · obtain ⟨folded, taken⟩ := proved present
      obtain ⟨fields, observation, inference, assumptions, is, keys, observed, inferred, assumed,
        -, resolved, -⟩ := foldProof_eq_ok.mp taken
      exact ⟨⟨fields, is, keys⟩, ⟨_, observed⟩, ⟨_, inferred⟩, _, assumed, resolved⟩
    · obtain rfl := str_inj.mp (text.symm.trans is)
      exact bounds
    · obtain ⟨folded, taken⟩ := proved present
      obtain ⟨_, _, _, texts, -, -, observed, inferred, listed, written, -, short, -⟩ :=
        foldProof_eq_ok.mp taken
      obtain rfl := str_inj.mp (text.symm.trans is)
      obtain rfl := str_inj.mp (observed.symm.trans seen)
      obtain rfl := str_inj.mp (inferred.symm.trans concluded)
      obtain rfl : texts = assumptions := by
        have same := JsonValue.arr.inj (listed.symm.trans assumed)
        exact List.map_injective_iff.mpr (fun _ _ => str_inj.mp) same
      exact ⟨written, short⟩
  · rintro ⟨⟨keys, criterion, status, ⟨reason, text⟩, ⟨refs, evidence⟩, proof⟩, ⟨bounds, short⟩⟩
    have taken : ∃ folded, foldedReason candidate reason = .ok folded := by
      unfold foldedReason
      split
      · next present =>
        obtain ⟨⟨fields, is, keys⟩, ⟨observation, observed⟩, ⟨inference, inferred⟩, assumptions,
          assumed, resolved⟩ := proof present
        obtain ⟨written, short⟩ := short present _ _ _ _ text observed inferred assumed
        exact ⟨_, foldProof_eq_ok.mpr ⟨fields, _, _, _, is, keys, observed, inferred, assumed,
          written, resolved, short, rfl⟩⟩
      · exact ⟨reason, rfl⟩
    obtain ⟨folded, taken⟩ := taken
    exact ⟨⟨_, _, folded, refs⟩, keys, criterion, status, ⟨reason, text, bounds _ text, taken⟩,
      evidence, rfl, rfl⟩

/-- What the findings of a decision keep of the candidates. -/
theorem validated_parts {candidates : List (JsonValue Number)}
    {findings : List (ReviewFinding Number)}
    (each : List.Forall₂ (fun candidate finding => validateFinding numeral criterionIds evidenceRefs
      requireProof candidate = .ok finding) candidates findings) :
    findings.map (·.criterionId) = candidates.map (·.field "criterionId") ∧
      findings.map (·.status) = candidates.map (·.field "status") := by
  induction each with
  | nil => exact ⟨rfl, rfl⟩
  | cons first _ ih =>
    obtain ⟨-, -, -, -, -, criterionId, status⟩ := validateFinding_eq_ok.mp first
    simp [criterionId, status, ih.1, ih.2]

variable [DecidableEq Number] {decision : SemanticReviewDecision Number}

theorem validate_eq_ok :
    validateSemanticReviewDecisionV1 numeral criterionIds evidenceRefs requireProof value =
        .ok decision ↔
      (∃ fields, value = .obj fields ∧ exact fields ["verdict", "summary", "findings"] = true) ∧
      (∃ verdict ∈ verdicts, coerced numeral (value.field "verdict") = some verdict) ∧
      (value.field "summary" = .str decision.summary ∧
        1 ≤ unitLength decision.summary ∧ unitLength decision.summary ≤ 16384) ∧
      (∃ candidates, value.field "findings" = .arr candidates ∧
        candidates.length = criterionIds.length ∧
        List.Forall₂ (fun candidate finding => validateFinding numeral criterionIds evidenceRefs
          requireProof candidate = .ok finding) candidates decision.findings) ∧
      setSize (decision.findings.map (·.criterionId)) = criterionIds.length ∧
      (value.field "verdict" = .str "accepted" →
        ∀ finding ∈ decision.findings, finding.status = .str "passed") ∧
      decision.verdict = value.field "verdict" := by
  simp only [validateSemanticReviewDecisionV1, bind_eq_ok, orError_eq_ok, ensure_eq_ok,
    pure_eq_ok, record?_eq_some, text?_eq_some, items?_eq_some, mapM_eq_ok, Bool.or_eq_true,
    bne_iff_ne, ne_eq, List.all_eq_true, List.contains_iff_mem, beq_iff_eq, decide_eq_true_eq,
    exists_const, ← imp_iff_not_or]
  constructor
  · rintro ⟨fields, is, keys, word, given, known, summary, text, bounds, candidates, listed, counted,
      findings, each, distinct, passed, rfl⟩
    exact ⟨⟨fields, is, keys⟩, ⟨word, known, given⟩, ⟨text, bounds⟩, ⟨candidates, listed, counted, each⟩,
      distinct, passed, rfl⟩
  · obtain ⟨verdict, summary, findings⟩ := decision
    rintro ⟨⟨fields, is, keys⟩, ⟨word, known, given⟩, ⟨text, bounds⟩,
      ⟨candidates, listed, counted, each⟩, distinct, passed, rfl⟩
    exact ⟨fields, is, keys, word, given, known, summary, text, bounds, candidates, listed, counted,
      findings, each, distinct, passed, rfl⟩

theorem validate_accepts :
    (∃ decision, validateSemanticReviewDecisionV1 numeral criterionIds evidenceRefs requireProof
        value = .ok decision) ↔
      Conforms numeral criterionIds evidenceRefs requireProof value ∧ Bounded value := by
  have passing : ∀ {candidates : List (JsonValue Number)} {findings : List (ReviewFinding Number)},
      findings.map (·.status) = candidates.map (·.field "status") →
      ((∀ finding ∈ findings, finding.status = .str "passed") ↔
        ∀ candidate ∈ candidates, candidate.field "status" = .str "passed") := by
    intro candidates findings same
    have all := congrArg (fun states => ∀ status ∈ states, status = str "passed") same
    simpa only [List.forall_mem_map] using Iff.of_eq all
  simp only [validate_eq_ok]
  constructor
  · rintro ⟨decision, keys, verdict, ⟨text, some_text, short⟩, ⟨candidates, listed, counted, each⟩,
      distinct, passed, -⟩
    obtain ⟨ids, states⟩ := validated_parts each
    have here : findingsOf value = candidates := by simp [findingsOf, listed]
    have accepted : ∀ candidate ∈ candidates, ∃ finding,
        validateFinding numeral criterionIds evidenceRefs requireProof candidate = .ok finding :=
      exists_mapM.mp ⟨_, mapM_eq_ok.mpr each⟩
    refine ⟨⟨keys, verdict, ⟨_, text, some_text⟩, ⟨_, listed⟩, ?_, ?_, ?_, ?_⟩, ⟨?_, ?_⟩⟩
    · exact here ▸ fun candidate member => (validateFinding_accepts.mp (accepted candidate member)).1
    · exact here ▸ counted
    · rw [here, ← ids, distinct]
    · rw [here]
      exact fun good => (passing states).mp (passed good)
    · intro summary is
      obtain rfl := str_inj.mp (text.symm.trans is)
      exact short
    · exact here ▸ fun candidate member => (validateFinding_accepts.mp (accepted candidate member)).2
  · rintro ⟨⟨keys, verdict, ⟨summary, text, some_text⟩, ⟨candidates, listed⟩, form, counted, distinct,
      passed⟩, ⟨short, bounded⟩⟩
    have here : findingsOf value = candidates := by simp [findingsOf, listed]
    rw [here] at form counted distinct passed bounded
    have each : ∀ candidate ∈ candidates, ∃ finding,
        validateFinding numeral criterionIds evidenceRefs requireProof candidate = .ok finding :=
      fun candidate member =>
        validateFinding_accepts.mpr ⟨form candidate member, bounded candidate member⟩
    obtain ⟨findings, taken⟩ := exists_mapM.mpr each
    have each := mapM_eq_ok.mp taken
    obtain ⟨ids, states⟩ := validated_parts each
    exact ⟨⟨_, summary, findings⟩, keys, verdict, ⟨text, some_text, short _ text⟩,
      ⟨candidates, listed, counted, each⟩, ids ▸ distinct, fun good => (passing states).mpr (passed good),
      rfl⟩

end Validator

/-! ## The schema has the plain values of the form -/

section Schema

variable {numeral : Number → String} {criterionIds evidenceRefs : List String}
  {requireProof : Bool} {value candidate status proof : JsonValue Number}

theorem length_le_unitLength (text : String) : text.length ≤ unitLength text := by
  have each : ∀ length ∈ text.toList.map (List.length ∘ charUnits), 1 ≤ length := by
    intro length member
    obtain ⟨c, -, rfl⟩ := List.mem_map.mp member
    simp only [Function.comp, charUnits]
    split <;> simp
  have most := List.length_le_sum_of_one_le _ each
  rw [List.length_map, String.length_toList] at most
  simpa [unitLength, codeUnits, List.length_flatMap, Function.comp_def] using most

theorem unitLength_pos {text : String} : 1 ≤ unitLength text ↔ 1 ≤ text.length := by
  refine ⟨fun long => ?_, fun long => long.trans (length_le_unitLength text)⟩
  by_contra short
  have empty : text = "" := String.length_eq_zero_iff.mp (by omega)
  subst empty
  simp [unitLength, codeUnits] at long

theorem forall_str {values : List (JsonValue Number)} :
    (∀ value ∈ values, ∃ text, value = .str text) ↔ ∃ texts : List String, values = texts.map .str := by
  have range := Set.ext_iff.mp (Set.range_list_map (JsonValue.str : String → JsonValue Number)) values
  simpa [eq_comm] using range.symm

theorem texts_accepts : texts.accepts value = true ↔
    ∃ listed : List String, value = .arr (listed.map .str) := by
  simp only [texts, JsonSchema.accepts_list, JsonSchema.accepts_text, Nat.zero_le, Option.mem_def,
    reduceCtorEq, IsEmpty.forall_iff, implies_true, and_true, forall_str]
  constructor
  · rintro ⟨_, rfl, listed, rfl⟩
    exact ⟨listed, rfl⟩
  · rintro ⟨listed, rfl⟩
    exact ⟨_, rfl, listed, rfl⟩

theorem conformingProof_iff : ConformingProof status proof ↔ proofSchema.accepts proof = true ∧
    (status = .str "passed" → (proof.field "unresolvedAssumptions").elements = []) := by
  have closed := @JsonSchema.accepts_closed _ proof
    [("observation", .text 0 none), ("inference", .text 0 none), ("unresolvedAssumptions", texts)] (by decide)
  simp only [List.forall_mem_cons, List.not_mem_nil, JsonSchema.accepts_text, texts_accepts,
    Nat.zero_le, Option.mem_def, reduceCtorEq, IsEmpty.forall_iff, implies_true, and_true] at closed
  rw [proofSchema, show proofKeys = [_, _, _] from rfl]
  refine Iff.trans ?_ (and_congr_left' closed.symm)
  constructor
  · rintro ⟨⟨fields, is, keys⟩, observation, inference, listed, assumed, resolved⟩
    exact ⟨⟨fields, is, keys, observation, inference, listed, assumed⟩, fun passed => by
      simp [assumed, resolved passed]⟩
  · rintro ⟨⟨fields, is, keys, observation, inference, listed, assumed⟩, resolved⟩
    exact ⟨⟨fields, is, keys⟩, observation, inference, listed, assumed, fun passed => by
      simpa [assumed] using resolved passed⟩

theorem findingSchema_accepts : (findingSchema requireProof).accepts candidate = true ↔
    (∃ fields, candidate = .obj fields ∧
      exact fields (["criterionId", "status", "reason", "evidenceRefs"] ++
        if requireProof = true then ["proof"] else []) = true) ∧
    (∃ id, candidate.field "criterionId" = .str id) ∧
    (∃ status ∈ statuses, candidate.field "status" = .str status) ∧
    (∃ reason, candidate.field "reason" = .str reason) ∧
    (∃ refs : List String, candidate.field "evidenceRefs" = .arr (refs.map .str)) ∧
    (requireProof = true → proofSchema.accepts (candidate.field "proof") = true) := by
  have closed := @JsonSchema.accepts_closed _ candidate
    ([("criterionId", .text 0 none), ("status", .words statuses), ("reason", .text 0 none),
      ("evidenceRefs", texts)] ++ if requireProof = true then [("proof", proofSchema)] else [])
    (by cases requireProof <;> decide)
  cases requireProof <;>
    simpa only [findingSchema, List.forall_mem_cons, List.not_mem_nil, false_implies, JsonSchema.accepts_text,
      JsonSchema.accepts_words, texts_accepts, Nat.zero_le, Option.mem_def, reduceCtorEq,
      IsEmpty.forall_iff, implies_true, and_true, Bool.false_eq_true, if_false, if_true,
      List.append_nil, List.cons_append, List.nil_append, List.map_cons, List.map_nil, true_and,
      forall_const, ← exists_and_right, and_assoc] using closed

theorem findingKeys_nodup : (findingKeys requireProof candidate).Nodup := by
  unfold findingKeys
  split <;> decide

theorem plainFinding_iff :
    ConformingFinding numeral criterionIds evidenceRefs requireProof candidate ∧
        PlainFinding requireProof candidate ↔
      (findingSchema requireProof).accepts candidate = true ∧
      (∃ id ∈ criterionIds, candidate.field "criterionId" = .str id) ∧
      (∀ ref ∈ (candidate.field "evidenceRefs").elements, ∃ listed ∈ evidenceRefs,
        ref = .str listed) ∧
      (candidate.field "status" = .str "passed" →
        (candidate.field "evidenceRefs").elements ≠ [] ∧
          ((candidate.field "proof").field "unresolvedAssumptions").elements = []) := by
  rw [findingSchema_accepts]
  constructor
  · rintro ⟨⟨⟨fields, rfl, keys⟩, ⟨id, listed, named⟩, ⟨word, known, given⟩, reason, ⟨refs, cited, held,
      some_cited⟩, proof⟩, ⟨⟨text, criterion⟩, ⟨state, status⟩, asked⟩⟩
    obtain rfl : text = id := by
      rw [criterion] at named
      exact Option.some.inj named
    obtain rfl : state = word := by
      rw [status] at given
      exact Option.some.inj given
    have required : requireProof = true → (obj fields).has "proof" = true := by
      rintro rfl
      exact (has_of_exact findingKeys_nodup keys).mpr (by simp [findingKeys])
    have same : (requireProof || (obj fields).has "proof") = requireProof := by
      cases requireProof
      · simpa using asked
      · rfl
    refine ⟨⟨⟨fields, rfl, ?_⟩, ⟨text, criterion⟩, ⟨state, known, status⟩, reason, ⟨refs, cited⟩,
      fun needed => (conformingProof_iff.mp (proof (required needed))).1⟩,
      ⟨text, listed, criterion⟩, ?_, fun passed => ⟨?_, ?_⟩⟩
    · rwa [findingKeys, same] at keys
    · rw [cited, elements_arr]
      intro ref member
      obtain ⟨text, there, rfl⟩ := List.mem_map.mp member
      exact ⟨text, held there, rfl⟩
    · simpa [cited] using some_cited passed
    · cases present : (obj fields).has "proof" with
      | false =>
        rw [field_of_not_has present]
        rfl
      | true => exact (conformingProof_iff.mp (proof present)).2 passed
  · rintro ⟨⟨⟨fields, rfl, keys⟩, -, ⟨word, known, status⟩, reason, ⟨refs, cited⟩, proof⟩,
      ⟨id, listed, criterion⟩, held, supported⟩
    have absent : requireProof = false → (obj fields).has "proof" = false := by
      rintro rfl
      rw [← Bool.not_eq_true, has_of_exact (by decide) keys]
      decide
    have same : (requireProof || (obj fields).has "proof") = requireProof := by
      cases requireProof
      · exact absent rfl
      · rfl
    have asked : (obj fields).has "proof" = true → requireProof = true := fun present => by
      rwa [present, Bool.or_true, eq_comm] at same
    refine ⟨⟨⟨fields, rfl, ?_⟩, ⟨id, listed, criterion ▸ rfl⟩, ⟨word, known, status ▸ rfl⟩, reason,
      ⟨refs, cited, ?_, fun passed => ?_⟩, fun present => conformingProof_iff.mpr
        ⟨proof (asked present), fun passed => (supported passed).2⟩⟩,
      ⟨⟨id, criterion⟩, ⟨word, status⟩, asked⟩⟩
    · rwa [findingKeys, same]
    · intro text there
      obtain ⟨_, listed, is⟩ := held (.str text) (by
        rw [cited, elements_arr]
        exact List.mem_map_of_mem there)
      rwa [str_inj.mp is]
    · simpa [cited] using (supported passed).1

theorem reviewDecisionSchemaV1_accepts : (reviewDecisionSchemaV1 requireProof).accepts value = true ↔
    (∃ fields, value = .obj fields ∧ exact fields ["verdict", "summary", "findings"] = true) ∧
    (∃ verdict ∈ verdicts, value.field "verdict" = .str verdict) ∧
    (∃ summary, value.field "summary" = .str summary ∧ 1 ≤ summary.length ∧
      summary.length ≤ 16384) ∧
    (∃ findings, value.field "findings" = .arr findings) ∧
    (∀ finding ∈ findingsOf value, (findingSchema requireProof).accepts finding = true) ∧
    (findingsOf value).length ≤ 129 := by
  have closed := @JsonSchema.accepts_closed _ value
    [("verdict", .words verdicts), ("summary", .text 1 (some 16384)),
     ("findings", .list (findingSchema requireProof) (some 129))] (by simp)
  simp only [List.forall_mem_cons, List.not_mem_nil, JsonSchema.accepts_text,
    JsonSchema.accepts_words, JsonSchema.accepts_list, Option.mem_def, Option.some.injEq,
    forall_eq', IsEmpty.forall_iff, implies_true, and_true] at closed
  refine closed.trans ?_
  constructor
  · rintro ⟨fields, is, keys, verdict, summary, findings, listed, each, few⟩
    have here : findingsOf value = findings := by simp [findingsOf, listed]
    exact ⟨⟨fields, is, keys⟩, verdict, summary, ⟨findings, listed⟩, here ▸ each, here ▸ few⟩
  · rintro ⟨⟨fields, is, keys⟩, verdict, summary, ⟨findings, listed⟩, each, few⟩
    have here : findingsOf value = findings := by simp [findingsOf, listed]
    exact ⟨fields, is, keys, verdict, summary, findings, listed, here ▸ each, here ▸ few⟩

variable [DecidableEq Number]

theorem setSize_texts (texts : List String) :
    setSize (texts.map .str : List (JsonValue Number)) = texts.dedup.length := by
  have scalars : (texts.map .str : List (JsonValue Number)).filterMap scalar? =
      texts.map JsonScalar.str := by
    simp [List.filterMap_map, Function.comp_def, scalar?]
  have none : (texts.map .str : List (JsonValue Number)).countP (scalar? · |>.isNone) = 0 := by
    simp [List.countP_eq_zero, scalar?]
  rw [setSize, none, scalars, Nat.zero_add,
    List.dedup_map_of_injective (fun _ _ => JsonScalar.str.inj), List.length_map]

/-- As many ids as criteria, and as many different ones, name every criterion once. -/
theorem covered_iff {ids : List (JsonValue Number)}
    (known : ∀ id ∈ ids, ∃ text ∈ criterionIds, id = .str text) :
    ids.Nodup ∧ ids.Perm (criterionIds.map .str) ↔
      ids.length = criterionIds.length ∧ setSize ids = criterionIds.length := by
  obtain ⟨texts, rfl⟩ := forall_str.mp fun id member => (known id member).imp fun _ => And.right
  have inside : texts ⊆ criterionIds := by
    intro text member
    obtain ⟨_, listed, is⟩ := known _ (List.mem_map_of_mem member)
    rwa [str_inj.mp is]
  have injective : Function.Injective (JsonValue.str : String → JsonValue Number) :=
    fun _ _ => str_inj.mp
  rw [List.nodup_map_iff injective, List.map_perm_map_iff injective, setSize_texts, List.length_map]
  constructor
  · rintro ⟨single, permuted⟩
    rw [single.dedup]
    exact ⟨permuted.length_eq, permuted.length_eq⟩
  · rintro ⟨counted, distinct⟩
    have single : texts.Nodup :=
      List.dedup_eq_self.mp (texts.dedup_sublist.eq_of_length (distinct.trans counted.symm))
    exact ⟨single, (List.subperm_of_subset single inside).perm_of_length_le counted.ge⟩

theorem matchesSchema_iff : MatchesSchema criterionIds evidenceRefs requireProof value ↔
    Conforms numeral criterionIds evidenceRefs requireProof value ∧ Plain requireProof value := by
  constructor
  · rintro ⟨schema, covered, cited, supported, passed⟩
    obtain ⟨keys, ⟨word, known, verdict⟩, ⟨summary, text, long, short⟩, listed, each, few⟩ :=
      reviewDecisionSchemaV1_accepts.mp schema
    have known_ids : ∀ id ∈ (findingsOf value).map (·.field "criterionId"),
        ∃ text ∈ criterionIds, id = .str text := by
      intro id member
      obtain ⟨text, there, rfl⟩ := List.mem_map.mp (covered.2.subset member)
      exact ⟨text, there, rfl⟩
    obtain ⟨counted, distinct⟩ := (covered_iff known_ids).mp covered
    have form := fun finding member => (@plainFinding_iff _ numeral _ _ _ finding).mpr
      ⟨each finding member, known_ids _ (List.mem_map_of_mem member), cited finding member,
        supported finding member⟩
    refine ⟨⟨keys, ⟨word, known, verdict ▸ rfl⟩, ⟨summary, text, unitLength_pos.mpr long⟩, listed,
      fun finding member => (form finding member).1, (List.length_map _).symm.trans counted, distinct,
      passed⟩, ⟨⟨word, verdict⟩, ?_, fun finding member => (form finding member).2, few⟩⟩
    intro other is
    rwa [← str_inj.mp (text.symm.trans is)]
  · rintro ⟨⟨keys, ⟨word, known, given⟩, ⟨summary, text, long⟩, listed, each, counted, distinct,
      passed⟩, ⟨⟨verdict, is⟩, short, plain, few⟩⟩
    obtain rfl : verdict = word := by
      rw [is] at given
      exact Option.some.inj given
    have form := fun finding member => plainFinding_iff.mp ⟨each finding member, plain finding member⟩
    refine ⟨reviewDecisionSchemaV1_accepts.mpr ⟨keys, ⟨verdict, known, is⟩,
        ⟨summary, text, unitLength_pos.mp long, short _ text⟩, listed,
        fun finding member => (form finding member).1, few⟩,
      (covered_iff ?_).mpr ⟨(List.length_map _).trans counted, distinct⟩,
      fun finding member => (form finding member).2.2.1,
      fun finding member => (form finding member).2.2.2, passed⟩
    intro id member
    obtain ⟨finding, there, rfl⟩ := List.mem_map.mp member
    exact (form finding there).2.1

end Schema

/-! ## A stored decision is read again -/

section Replay

variable {numeral : Number → String} {criterionIds evidenceRefs : List String}
  {requireProof : Bool} {value candidate : JsonValue Number}

theorem validateFinding_again {finding : ReviewFinding Number}
    (taken : validateFinding numeral criterionIds evidenceRefs requireProof candidate =
      .ok finding) :
    validateFinding numeral criterionIds evidenceRefs false finding.toJson = .ok finding := by
  obtain ⟨-, criterion, status, ⟨reason, text, bounds, folded⟩, evidence, id, state⟩ :=
    validateFinding_eq_ok.mp taken
  rw [← id] at criterion
  rw [← state] at status evidence
  refine validateFinding_eq_ok.mpr ⟨⟨_, rfl, rfl⟩, criterion, status, ⟨finding.reason, rfl, ?_, rfl⟩,
    ⟨rfl, evidence.2⟩, rfl, rfl⟩
  unfold foldedReason at folded
  split at folded
  · obtain ⟨_, _, _, _, -, -, -, -, -, -, -, short, is⟩ := foldProof_eq_ok.mp folded
    rw [← is]
    refine ⟨bounds.1.trans ?_, short⟩
    simp [unitLength, codeUnits]
  · obtain rfl := pure_eq_ok.mp folded
    exact bounds

theorem validateFindings_again {candidates : List (JsonValue Number)}
    {findings : List (ReviewFinding Number)}
    (each : List.Forall₂ (fun candidate finding => validateFinding numeral criterionIds evidenceRefs
      requireProof candidate = .ok finding) candidates findings) :
    ∀ finding ∈ findings,
      validateFinding numeral criterionIds evidenceRefs false finding.toJson = .ok finding := by
  induction each with
  | nil => exact List.forall_mem_nil _
  | cons first _ ih => exact List.forall_mem_cons.mpr ⟨validateFinding_again first, ih⟩

theorem validate_again [DecidableEq Number] {decision : SemanticReviewDecision Number}
    (taken : validateSemanticReviewDecisionV1 numeral criterionIds evidenceRefs requireProof value =
      .ok decision) :
    validateSemanticReviewDecisionV1 numeral criterionIds evidenceRefs false decision.toJson =
      .ok decision := by
  obtain ⟨-, verdict, ⟨-, bounds⟩, ⟨candidates, -, counted, each⟩, distinct, passed, is⟩ :=
    validate_eq_ok.mp taken
  rw [← is] at verdict passed
  refine validate_eq_ok.mpr ⟨⟨_, rfl, rfl⟩, verdict, ⟨rfl, bounds⟩, ⟨_, rfl, ?_, ?_⟩, distinct, passed,
    rfl⟩
  · rw [List.length_map, ← each.length_eq, counted]
  · rw [List.forall₂_map_left_iff, List.forall₂_same]
    exact validateFindings_again each

end Replay

/-- **Decision grammar**: the validator accepts what matches the schema, and accepts its decision
again, unless a value of the form of a decision is plain or within the bounds but not both. -/
theorem validateSemanticReviewDecisionV1_matches_iff [DecidableEq Number] (numeral : Number → String)
    (criterionIds evidenceRefs : List String) (requireProof : Bool) (value : JsonValue Number) :
    ((∃ decision, validateSemanticReviewDecisionV1 numeral criterionIds evidenceRefs requireProof
        value = .ok decision) ↔ MatchesSchema criterionIds evidenceRefs requireProof value) ∧
      (∀ decision, validateSemanticReviewDecisionV1 numeral criterionIds evidenceRefs requireProof
        value = .ok decision → validateSemanticReviewDecisionV1 numeral criterionIds evidenceRefs
          false decision.toJson = .ok decision) ↔
    (Conforms numeral criterionIds evidenceRefs requireProof value →
      (Plain requireProof value ↔ Bounded value)) := by
  rw [and_iff_left fun _ => validate_again, validate_accepts,
    @matchesSchema_iff _ numeral]
  tauto

/-- An answer whose verdict is a list. -/
def listedVerdict : JsonValue Empty :=
  .obj [("verdict", .arr [.str "needs_fix"]), ("summary", .str "Checked."),
    ("findings", .arr [.obj [("criterionId", .str "behavior"), ("status", .str "failed"),
      ("reason", .str "No evidence."), ("evidenceRefs", .arr [])]])]

theorem listedVerdict_accepted :
    (∃ decision, validateSemanticReviewDecisionV1 Empty.elim ["behavior"] ["report"] false
      listedVerdict = .ok decision) ∧
    ¬MatchesSchema ["behavior"] ["report"] false listedVerdict := by
  refine ⟨?_, fun fits => ?_⟩
  · have accepted : (validateSemanticReviewDecisionV1 Empty.elim ["behavior"] ["report"] false
        listedVerdict).isOk = true := by decide +kernel
    cases validated : validateSemanticReviewDecisionV1 Empty.elim ["behavior"] ["report"] false
        listedVerdict with
    | error error =>
      rw [validated] at accepted
      cases accepted
    | ok decision => exact ⟨decision, rfl⟩
  · have rejected : (reviewDecisionSchemaV1 false).accepts listedVerdict = false := by decide +kernel
    exact Bool.false_ne_true (rejected.symm.trans fits.schema)

end Praxis.Review
