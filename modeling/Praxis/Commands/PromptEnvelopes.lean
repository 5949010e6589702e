import Praxis.Commands.Descriptors

/-!
# Prompt envelopes

The intent of a prompt, with its parts and a digest of all of it. An envelope that
`validatePromptEnvelope` returns is the one that it was given (`validatePromptEnvelope_ok`), and one
that `createPromptEnvelope` returns is validated.
-/

namespace Praxis.Commands

set_option autoImplicit false

open Praxis.Foundations
open Praxis.Workflow (isSha256 safeId)

/-! ## Contracts -/

inductive PromptEnvelopeSource where
  | userText
  | promptTemplate
  | skill
  | workflow
deriving DecidableEq

inductive PromptPartKind where
  | userInput
  | commandArguments
  | templateExpansion
  | skillInvocation
  | workflowContext
deriving DecidableEq

inductive PromptTrust where
  | user
  | low
deriving DecidableEq

structure PromptEnvelopePart where
  kind : PromptPartKind
  trust : PromptTrust
  persistence : PromptPersistence
  origin : String
  digest : String
  text : Option String := none
  ref : Option String := none

/-- An envelope without its digest. -/
structure PromptEnvelopeContent where
  id : String
  source : PromptEnvelopeSource
  effectiveText : String
  rawInput : Option String := none
  rawInputPersistence : PromptPersistence
  parts : List PromptEnvelopePart
  commandInvocationId : Option String := none
  attachmentRefs : List String := []

structure PromptEnvelope extends PromptEnvelopeContent where
  digest : String

structure CreatePromptEnvelopeInput where
  id : String
  source : PromptEnvelopeSource
  effectiveText : String
  rawInput : Option String := none
  rawInputPersistence : Option PromptPersistence := none
  userInputPersistence : Option PromptPersistence := none
  userOrigin : Option String := none
  additionalParts : List PromptEnvelopePart := []
  commandInvocationId : Option String := none
  attachmentRefs : List String := []

/-! ## JSON texts -/

def PromptEnvelopeSource.text : PromptEnvelopeSource → String
  | .userText => "user_text"
  | .promptTemplate => "prompt_template"
  | .skill => "skill"
  | .workflow => "workflow"

def PromptPartKind.text : PromptPartKind → String
  | .userInput => "user_input"
  | .commandArguments => "command_arguments"
  | .templateExpansion => "template_expansion"
  | .skillInvocation => "skill_invocation"
  | .workflowContext => "workflow_context"

def PromptTrust.text : PromptTrust → String
  | .user => "user"
  | .low => "low"

def PromptEnvelopePart.json (part : PromptEnvelopePart) : Json :=
  .obj ([("kind", Json.str part.kind.text), ("trust", .str part.trust.text),
    ("persistence", .str part.persistence.text), ("origin", .str part.origin),
    ("digest", .str part.digest)] ++ Json.field "ref" (part.ref.map .str))

section

variable (platform : CommandPlatform)

def envelopeDigest (input : PromptEnvelopeContent) : String :=
  platform.digest (Json.obj
    ([("schemaVersion", Json.num 1), ("id", .str input.id), ("source", .str input.source.text),
      ("effectiveTextDigest", .str (platform.digest input.effectiveText))] ++
      Json.field "rawInputDigest" (input.rawInput.map fun raw => .str (platform.digest raw)) ++
      [("rawInputPersistence", Json.str input.rawInputPersistence.text),
        ("parts", .arr (input.parts.map (·.json)))] ++
      Json.field "commandInvocationId" (input.commandInvocationId.map .str) ++
      [("attachmentRefs", texts input.attachmentRefs)])).stringify

/-! ## Validation -/

/-- Between 1 and 512 code units without control characters. -/
def safeMetadataValue (value : String) : Bool :=
  decide (1 ≤ unitLength value) && decide (unitLength value ≤ 512) &&
    (chars value).all fun c => decide (31 < c.toNat) && c.toNat != 127

/-- Parts that the user wrote have the user's trust, and no others. -/
def trustFits (kind : PromptPartKind) (trust : PromptTrust) : Bool :=
  match kind with
  | .userInput | .commandArguments => trust == .user
  | _ => trust == .low

def validPromptPart (input : PromptEnvelopePart) : Bool :=
  safeMetadataValue input.origin && isSha256 input.digest &&
  (input.text.all fun text => decide (text.utf8ByteSize ≤ 32_768)) &&
  input.ref.all safeMetadataValue && (input.text.isSome || input.ref.isSome) &&
  (input.text.all fun text => platform.digest text == input.digest) &&
  trustFits input.kind input.trust

/-- `validatePromptPart`; the error has no code. -/
def validatePromptPart (input : PromptEnvelopePart) : Except (Option String) PromptEnvelopePart := do
  ensure (validPromptPart platform input) none
  return input

def validEnvelope (input : PromptEnvelope) : Bool :=
  safeId input.id && !input.effectiveText.isEmpty &&
  decide (input.effectiveText.utf8ByteSize ≤ 32_768) &&
  (input.rawInput.all fun raw => decide (raw.utf8ByteSize ≤ 32_768)) &&
  decide (1 ≤ input.parts.length ∧ input.parts.length ≤ 16) &&
  decide (input.attachmentRefs.length ≤ 32) && input.attachmentRefs.all safeMetadataValue &&
  input.commandInvocationId.all safeId && isSha256 input.digest

def validatePromptEnvelope (input : PromptEnvelope) : Except (Option String) PromptEnvelope := do
  ensure (validEnvelope input) none
  let parts ← input.parts.mapM (validatePromptPart platform)
  ensure (parts.head?.any fun part => part.kind == .userInput && part.trust == .user &&
    part.text == some input.effectiveText) none
  let candidate : PromptEnvelopeContent := { input.toPromptEnvelopeContent with parts }
  ensure (input.digest == envelopeDigest platform candidate) none
  return { candidate with digest := input.digest }

def createPromptEnvelope (input : CreatePromptEnvelopeInput) :
    Except (Option String) PromptEnvelope := do
  ensure (!input.effectiveText.isEmpty && decide (input.effectiveText.utf8ByteSize ≤ 32_768)) none
  ensure (input.rawInput.all fun raw => !raw.isEmpty && decide (raw.utf8ByteSize ≤ 32_768)) none
  let origin := input.userOrigin.getD "user:interactive"
  ensure (safeMetadataValue origin) none
  let userInput : PromptEnvelopePart :=
    { kind := .userInput
      trust := .user
      persistence := input.userInputPersistence.getD .plaintext
      origin
      digest := platform.digest input.effectiveText
      text := some input.effectiveText }
  ensure (safeId input.id) none
  let additional ← input.additionalParts.mapM (validatePromptPart platform)
  ensure (input.commandInvocationId.all safeId) none
  ensure (input.attachmentRefs.all safeMetadataValue) none
  let candidate : PromptEnvelopeContent :=
    { id := input.id
      source := input.source
      effectiveText := input.effectiveText
      rawInput := input.rawInput
      rawInputPersistence := input.rawInputPersistence.getD userInput.persistence
      parts := userInput :: additional
      commandInvocationId := input.commandInvocationId
      attachmentRefs := input.attachmentRefs }
  validatePromptEnvelope platform
    { candidate with digest := envelopeDigest platform candidate }

variable {platform}

theorem validatePromptEnvelope_ok {input envelope : PromptEnvelope}
    (accepted : validatePromptEnvelope platform input = .ok envelope) : envelope = input := by
  simp only [validatePromptEnvelope, bind_eq_ok, pure_eq_ok] at accepted
  obtain ⟨_, _, parts, checked, _, _, _, _, rfl⟩ := accepted
  have unchanged : ∀ {part result : PromptEnvelopePart},
      validatePromptPart platform part = .ok result → result = part := by
    intro part result accepted
    simp only [validatePromptPart, bind_eq_ok, pure_eq_ok] at accepted
    obtain ⟨_, _, rfl⟩ := accepted
    rfl
  obtain ⟨rfl, _⟩ := mapM_returns unchanged checked
  rfl

theorem createPromptEnvelope_ok {input : CreatePromptEnvelopeInput} {envelope : PromptEnvelope}
    (created : createPromptEnvelope platform input = .ok envelope) :
    validatePromptEnvelope platform envelope = .ok envelope := by
  simp only [createPromptEnvelope, bind_eq_ok] at created
  obtain ⟨_, _, _, _, _, _, _, _, additional, _, _, _, _, _, created⟩ := created
  obtain rfl := validatePromptEnvelope_ok created
  exact created

end

end Praxis.Commands
