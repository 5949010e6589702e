import Praxis.Commands.Catalogs
import Praxis.Commands.PromptEnvelopes

/-!
# Input routing

`InputRouterV1.route` makes of a line that a user wrote a prompt, or the invocation of a command of
the catalogs. `validateInputRouteResultV1` is the check of its results, and
`validateCommandInvocationAgainstDescriptorV1` the one that the runtime makes of an invocation.

An error is its code; one without a code is `none`.
-/

namespace Praxis.Commands

set_option autoImplicit false

open Praxis.Foundations
open Praxis.Workflow (isSha256 safeId)

/-! ## Contracts -/

inductive CommandArgumentValueV1 where
  | string (value : String)
  | number (value : Int)
  | boolean (value : Bool)
deriving DecidableEq

structure CommandInvocationV1 where
  invocationId : String
  clientRequestId : String
  descriptorId : String
  descriptorDigest : String
  command : String
  arguments : Table String CommandArgumentValueV1
  body : Option String := none

inductive RuntimeEffect where
  | query
  | mutation

inductive InputRouteResultV1 where
  | uiAction (invocation : CommandInvocationV1)
  | runtimeAction (effect : RuntimeEffect) (invocation : CommandInvocationV1)
  | promptEnvelope (envelope : PromptEnvelope)
  | boundedJob (invocation : CommandInvocationV1) (maxOutputBytes : Int)
  | error (code : String)

/-- The session that a client has, or not. -/
inductive ContextSession where
  | none
  | present
deriving DecidableEq

inductive ContextRun where
  | idle
  | active
deriving DecidableEq

structure InputRouteContextV1 where
  clientRequestId : String
  promptId : String
  catalogs : List CommandCatalogSnapshotV1
  capabilityDigest : String
  workspaceTrusted : Bool
  session : ContextSession
  run : ContextRun

/-- `PromptCommandProducerV1`: an envelope, or the code of an error. -/
abbrev PromptCommandProducerV1 : Type :=
  CommandDescriptorV1 → CommandInvocationV1 → Except (Option String) PromptEnvelope

def maxInputBytes : Nat := 32 * 1024

def maxHeaderBytes : Nat := 4 * 1024

def maxBodyBytes : Nat := 28 * 1024

def maxArguments : Nat := 16

def isErrorCode (code : String) : Bool :=
  match chars code with
  | first :: rest =>
    first.isUpper && decide (2 ≤ rest.length ∧ rest.length ≤ 95) &&
      rest.all fun c => c.isUpper || c.isDigit || c == '_'
  | [] => false

def errorCode (error : Option String) (fallback : String) : String :=
  match error with
  | some code => if isErrorCode code then code else fallback
  | none => fallback

/-! ## Validation of invocations and results -/

def CommandArgumentValueV1.valid : CommandArgumentValueV1 → Bool
  | .string value => decide (value.utf8ByteSize ≤ maxBodyBytes)
  | .number value => isSafeInteger value
  | .boolean _ => true

def validInvocation (input : CommandInvocationV1) : Bool :=
  safeId input.invocationId && safeId input.clientRequestId && isDescriptorId input.descriptorId &&
  isSha256 input.descriptorDigest && isSafeQualifiedCommand input.command &&
  decide (input.arguments.rows.length ≤ maxArguments) &&
  (input.arguments.rows.all fun row => isSafeArgument row.1 && row.2.valid) &&
  input.body.all fun body => decide (body.utf8ByteSize ≤ maxBodyBytes)

def validateCommandInvocationV1 (input : CommandInvocationV1) :
    Except (Option String) CommandInvocationV1 := do
  ensure (validInvocation input) (some "COMMAND_INVOCATION_INVALID")
  return input

section

variable (platform : CommandPlatform)

def validateInputRouteResultV1 (input : InputRouteResultV1) :
    Except (Option String) InputRouteResultV1 := do
  match input with
  | .uiAction invocation =>
    let invocation ← validateCommandInvocationV1 invocation
    return .uiAction invocation
  | .runtimeAction effect invocation =>
    let invocation ← validateCommandInvocationV1 invocation
    return .runtimeAction effect invocation
  | .promptEnvelope envelope =>
    let envelope ← validatePromptEnvelope platform envelope
    return .promptEnvelope envelope
  | .boundedJob invocation maxOutputBytes =>
    ensure (boundedInteger maxOutputBytes 1 (1024 * 1024)) (some "INPUT_ROUTE_RESULT_INVALID")
    let invocation ← validateCommandInvocationV1 invocation
    return .boundedJob invocation maxOutputBytes
  | .error code =>
    ensure (isErrorCode code) (some "INPUT_ROUTE_RESULT_INVALID")
    return .error code

def routeError (code : String) : Except (Option String) InputRouteResultV1 :=
  validateInputRouteResultV1 platform (.error code)

def coded {α : Type} : Except String α → Except (Option String) α
  | .ok value => .ok value
  | .error code => .error (some code)

def validateContext (input : InputRouteContextV1) :
    Except (Option String) InputRouteContextV1 := do
  ensure (safeId input.clientRequestId && safeId input.promptId &&
    decide (input.catalogs.length ≤ 2) && isSha256 input.capabilityDigest)
    (some "INPUT_ROUTE_CONTEXT_INVALID")
  let catalogs ← input.catalogs.mapM fun catalog =>
    coded (validateCommandCatalogSnapshotV1 platform catalog)
  ensure ((catalogs.all fun catalog => catalog.capabilityDigest == input.capabilityDigest &&
      catalog.workspaceTrusted == input.workspaceTrusted &&
      some catalog.workspaceId == catalogs.head?.map (·.workspaceId)) &&
    decide (catalogs.map (·.owner)).Nodup) (some "COMMAND_CAPABILITY_SNAPSHOT_STALE")
  return { input with catalogs }

end

/-! ## Parsing -/

structure ParsedCommand where
  command : String
  arguments : List String
  body : Option String

/-- The characters before the first line end, and those after it, if there is one. -/
def splitHeader : List Char → List Char × Option (List Char)
  | [] => ([], none)
  | '\n' :: rest => ([], some rest)
  | '\r' :: '\n' :: rest => ([], some rest)
  | c :: rest =>
    let split := splitHeader rest
    (c :: split.1, split.2)

inductive Quote where
  | single
  | double
deriving DecidableEq

/-- What the loop over the header has so far. -/
structure HeaderTokens where
  tokens : List String := []
  token : List Char := []
  quote : Option Quote := none
  active : Bool := false

def HeaderTokens.flush (state : HeaderTokens) : HeaderTokens :=
  if state.active then
    { state with
      tokens := state.tokens ++ [String.ofList state.token]
      token := []
      active := false }
  else state

/-- An apostrophe. -/
def singleQuote : Char := Char.ofNat 39

/-- One turn of the loop; `none` for a token that is too long. -/
def HeaderTokens.next (state : HeaderTokens) (character : Char) : Option HeaderTokens :=
  if state.quote = none ∧ (character = ' ' ∨ character = '\t') then some state.flush
  else if character = singleQuote ∧ state.quote ≠ some .double then
    some { state with
      quote := if state.quote = some .single then none else some .single
      active := true }
  else if character = '"' ∧ state.quote ≠ some .single then
    some { state with
      quote := if state.quote = some .double then none else some .double
      active := true }
  else
    let token := state.token ++ [character]
    if (String.ofList token).utf8ByteSize ≤ maxHeaderBytes then
      some { state with
        token
        active := true }
    else none

def tokenizeHeader (input : List Char) : Option (List String) := do
  let state ← input.foldlM HeaderTokens.next {}
  if state.quote.isSome then none else some state.flush.tokens

/-- `parseCommandInput`; the error is the code of the result. -/
def parseCommandInput (input : String) : Except String ParsedCommand := do
  let (headerChars, bodyChars) := splitHeader (chars input)
  let header := String.ofList headerChars
  let body := bodyChars.map String.ofList
  ensure (decide (2 ≤ unitLength header) && decide (header.utf8ByteSize ≤ maxHeaderBytes) &&
    body.all fun text => decide (text.utf8ByteSize ≤ maxBodyBytes)) "COMMAND_INPUT_INVALID"
  let tokens ← orError "COMMAND_HEADER_INVALID" (tokenizeHeader headerChars)
  match tokens with
  | [] => .error "COMMAND_HEADER_INVALID"
  | commandToken :: arguments => do
      ensure (decide (arguments.length ≤ maxArguments)) "COMMAND_HEADER_INVALID"
      ensure (startsWith commandToken "/" && decide (2 ≤ unitLength commandToken))
        "COMMAND_HEADER_INVALID"
      return {
        command := toLowerCase (String.ofList (commandToken.toList.drop 1))
        arguments
        body := body.filter fun text => !text.isEmpty }

/-- A descriptor, with the catalog that has it. -/
structure ResolvedCommand where
  catalog : CommandCatalogSnapshotV1
  entry : CommandCatalogEntryV1

def catalogEntries (catalogs : List CommandCatalogSnapshotV1) : List ResolvedCommand :=
  catalogs.flatMap fun catalog => catalog.entries.map fun entry => ⟨catalog, entry⟩

def resolveDescriptor (command : String) (catalogs : List CommandCatalogSnapshotV1) :
    Except String ResolvedCommand :=
  let entries := catalogEntries catalogs
  match entries.filter fun resolved => resolved.entry.descriptor.command == command with
  | _ :: _ :: _ => .error "COMMAND_CATALOG_CONFLICT"
  | [exact_] => .ok exact_
  | [] =>
    let aliasOwners := entries.filter fun resolved =>
      resolved.entry.descriptor.aliases.contains command
    if 1 < aliasOwners.length then .error "COMMAND_AMBIGUOUS"
    else
      match aliasOwners.filter fun resolved => resolved.entry.availableAliases.contains command with
      | [available] => .ok available
      | _ => .error "COMMAND_UNKNOWN"

def checkAvailability (descriptor : CommandDescriptorV1) (context : InputRouteContextV1) :
    Except String Unit := do
  ensure (!descriptor.availability.requiresWorkspaceTrust || context.workspaceTrusted)
    "COMMAND_WORKSPACE_UNTRUSTED"
  ensure (!(descriptor.availability.session == .required && context.session != .present))
    "COMMAND_SESSION_REQUIRED"
  ensure (!(descriptor.availability.run == .idle && context.run == .active))
    "COMMAND_UNAVAILABLE_ACTIVE_RUN"
  ensure (!(descriptor.availability.run == .active && context.run != .active))
    "COMMAND_ACTIVE_RUN_REQUIRED"

/-! ## Arguments -/

/-- The integer of a text without leading zeros. -/
def parseInteger (input : String) : Option Int :=
  let (negative, digits) :=
    match input.toList with
    | '-' :: rest => (true, rest)
    | chars => (false, chars)
  let canonical :=
    match digits with
    | ['0'] => true
    | first :: rest => first.isDigit && first != '0' && rest.all Char.isDigit
    | [] => false
  if canonical then
    let value : Int := digits.foldl (fun value digit => value * 10 + (digit.toNat - 48 : Nat)) (0 : Nat)
    some (if negative then -value else value)
  else none

/-- The bounds of a text. -/
def textFits (property : CommandArgumentPropertyV1) (value : String) : Bool :=
  (property.minLength.all fun least : Int => decide (least ≤ (value.utf8ByteSize : Int))) &&
  (property.maxLength.all fun most : Int => decide ((value.utf8ByteSize : Int) ≤ most)) &&
  property.enum.all (·.contains value)

/-- The bounds of a number. -/
def numberFits (property : CommandArgumentPropertyV1) (value : Int) : Bool :=
  isSafeInteger value && (property.minimum.all fun least => decide (least ≤ value)) &&
    property.maximum.all fun most => decide (value ≤ most)

/-- `parseArgument`. A member of every object has no type, so that nothing parses as one. -/
def parseArgument (input : String) :
    ObjectMember CommandArgumentPropertyV1 → Option CommandArgumentValueV1
  | .inherited => none
  | .own property =>
    match property.type with
    | .string => if textFits property input then some (.string input) else none
    | .integer =>
      (parseInteger input).bind fun value =>
        if numberFits property value then some (.number value) else none
    | .boolean =>
      if input = "true" then some (.boolean true)
      else if input = "false" then some (.boolean false)
      else none

/-- The loop over the tokens. -/
def positionalArguments (schema : CommandArgumentSchemaV1) :
    List String → List String → Table String CommandArgumentValueV1 →
      Option (Table String CommandArgumentValueV1)
  | [], _, value => some value
  | _ :: _, [], _ => none
  | token :: tokens, name :: names, value => do
      let property ← member? schema.properties name
      let parsed ← parseArgument token property
      positionalArguments schema tokens names (value.upsert name parsed)

def withBody (schema : CommandArgumentSchemaV1) (value : Table String CommandArgumentValueV1) :
    Option String → Except String (Table String CommandArgumentValueV1)
  | none => .ok value
  | some body => do
      let property ← orError "COMMAND_BODY_UNSUPPORTED" (member? schema.properties "body")
      ensure (!schema.positional.contains "body" && !defined value "body") "COMMAND_BODY_UNSUPPORTED"
      let parsed ← orError "COMMAND_ARGUMENTS_INVALID" (parseArgument body property)
      return value.upsert "body" parsed

def validateArguments (descriptor : CommandDescriptorV1) (tokens : List String)
    (body : Option String) : Except String (Table String CommandArgumentValueV1) := do
  let schema := descriptor.schema
  ensure (decide (tokens.length ≤ schema.positional.length)) "COMMAND_ARGUMENTS_INVALID"
  let value ← orError "COMMAND_ARGUMENTS_INVALID"
    (positionalArguments schema tokens schema.positional .empty)
  let value ← withBody schema value body
  ensure (schema.required.all (defined value)) "COMMAND_ARGUMENTS_REQUIRED"
  return value

def invocationOf (descriptor : CommandDescriptorV1) (arguments : Table String CommandArgumentValueV1)
    (body : Option String) (clientRequestId : String) : CommandInvocationV1 where
  invocationId := "command:" ++ clientRequestId
  clientRequestId := clientRequestId
  descriptorId := descriptor.id
  descriptorDigest := descriptor.descriptorDigest
  command := descriptor.command
  arguments := arguments
  body := body

def createInvocation (descriptor : CommandDescriptorV1)
    (arguments : Table String CommandArgumentValueV1) (body : Option String)
    (clientRequestId : String) : Except (Option String) CommandInvocationV1 :=
  validateCommandInvocationV1 (invocationOf descriptor arguments body clientRequestId)

/-! ## Routing -/

/-- The command that a source is in a context, up to its invocation. -/
structure RoutedCommand where
  parsed : ParsedCommand
  descriptor : CommandDescriptorV1
  arguments : Table String CommandArgumentValueV1

/-- What `route` does between the check of the source and `createInvocation`. -/
def routeCommand (source : String) (context : InputRouteContextV1) : Except String RoutedCommand := do
  let parsed ← parseCommandInput source
  let resolved ← resolveDescriptor parsed.command context.catalogs
  let descriptor := resolved.entry.descriptor
  ensure (descriptor.capabilities.all resolved.catalog.capabilityIds.contains)
    "COMMAND_CAPABILITY_DENIED"
  checkAvailability descriptor context
  let arguments ← validateArguments descriptor parsed.arguments parsed.body
  return {
    parsed
    descriptor
    arguments }

section

variable (platform : CommandPlatform) (producer : Option PromptCommandProducerV1)

def producePrompt (descriptor : CommandDescriptorV1) (invocation : CommandInvocationV1) :
    Except (Option String) InputRouteResultV1 :=
  match producer with
  | none => routeError platform "COMMAND_PROMPT_PRODUCER_UNAVAILABLE"
  | some produce =>
    match produce descriptor invocation >>= validatePromptEnvelope platform with
    | .error error => routeError platform (errorCode error "COMMAND_PROMPT_PRODUCER_FAILED")
    | .ok envelope =>
      let expectedSource : PromptEnvelopeSource :=
        if descriptor.kind = .promptTemplate then .promptTemplate else .skill
      if envelope.source ≠ expectedSource ∨
          envelope.commandInvocationId ≠ some invocation.invocationId then
        routeError platform "COMMAND_PROMPT_ENVELOPE_INVALID"
      else .ok (.promptEnvelope envelope)

def dispatch (descriptor : CommandDescriptorV1) (invocation : CommandInvocationV1) :
    Except (Option String) InputRouteResultV1 :=
  match descriptor.kind with
  | .clientLocal => .ok (.uiAction invocation)
  | .runtimeQuery => .ok (.runtimeAction .query invocation)
  | .runtimeMutation => .ok (.runtimeAction .mutation invocation)
  | .workflow => .ok (.boundedJob invocation descriptor.output.maxBytes)
  | .promptTemplate | .skillInvocation => producePrompt platform producer descriptor invocation

/-- `InputRouterV1.route`; an error is a promise that rejects. -/
def route (source : String) (context : InputRouteContextV1) :
    Except (Option String) InputRouteResultV1 :=
  match validateContext platform context with
  | .error error => routeError platform (errorCode error "INPUT_ROUTE_CONTEXT_INVALID")
  | .ok context =>
    if source.isEmpty ∨ maxInputBytes < source.utf8ByteSize then
      routeError platform "INPUT_INVALID"
    else if !startsWith source "/" then
      match createPromptEnvelope platform
        { id := context.promptId
          source := .userText
          effectiveText := source
          rawInput := some source
          rawInputPersistence := some .plaintext } with
      | .ok envelope => .ok (.promptEnvelope envelope)
      | .error _ => routeError platform "INPUT_INVALID"
    else
      match routeCommand source context with
      | .error code => routeError platform code
      | .ok routed => do
          let invocation ← createInvocation routed.descriptor routed.arguments routed.parsed.body
            context.clientRequestId
          dispatch platform producer routed.descriptor invocation

def matchesProperty (value : CommandArgumentValueV1) (property : CommandArgumentPropertyV1) : Bool :=
  match value, property.type with
  | .string value, .string => textFits property value
  | .number value, .integer => numberFits property value
  | .boolean _, .boolean => true
  | _, _ => false

/-- The check of an argument. A member of every object has no type to compare with. -/
def checkArgument (schema : CommandArgumentSchemaV1) (row : String × CommandArgumentValueV1) :
    Except (Option String) Unit :=
  match member? schema.properties row.1 with
  | some (.own property) => ensure (matchesProperty row.2 property) (some "COMMAND_ARGUMENTS_INVALID")
  | _ => .error none

def validateCommandInvocationAgainstDescriptorV1 (invocation : CommandInvocationV1)
    (descriptor : CommandDescriptorV1) : Except (Option String) CommandInvocationV1 := do
  let invocation ← validateCommandInvocationV1 invocation
  let descriptor ← coded (validateCommandDescriptorV1 platform descriptor)
  ensure (invocation.descriptorId == descriptor.id &&
    invocation.descriptorDigest == descriptor.descriptorDigest &&
    invocation.command == descriptor.command) (some "COMMAND_DESCRIPTOR_STALE")
  ensure ((invocation.arguments.rows.all fun row => defined descriptor.schema.properties row.1) &&
    descriptor.schema.required.all (defined invocation.arguments))
    (some "COMMAND_ARGUMENTS_INVALID")
  invocation.arguments.rows.forM (checkArgument descriptor.schema)
  ensure (invocation.body.all fun body => invocation.arguments.get? "body" == some (.string body))
    (some "COMMAND_ARGUMENTS_INVALID")
  return invocation

end

end Praxis.Commands
