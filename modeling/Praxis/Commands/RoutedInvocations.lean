import Praxis.Commands.InputRouter

/-!
# Routed invocations

Every source is routed to a result that is valid, and the invocation in it passes the check of the
runtime against the descriptor it was routed to, exactly if the source is routed faithfully
(`routeSound_iff`). Three things are in the way: the id of an invocation is longer than that of its
request, a body is an argument with the type of its property and a text besides, and a required
argument that is not given may still be found in every object.
-/

namespace Praxis.Commands

set_option autoImplicit false

open Praxis.Foundations
open Praxis.Workflow (isSha256 safeId safeIdChars safeIdChar)

/-! ## Tokens -/

/-- No token is longer than a header may be. -/
def HeaderTokens.Short (state : HeaderTokens) : Prop :=
  (∀ token ∈ state.tokens, token.utf8ByteSize ≤ maxHeaderBytes) ∧
    (String.ofList state.token).utf8ByteSize ≤ maxHeaderBytes

variable {state after : HeaderTokens} {input : List Char}

theorem HeaderTokens.Short.flush (short : state.Short) : state.flush.Short := by
  unfold HeaderTokens.flush
  split_ifs
  · refine ⟨fun token member => ?_, by simp⟩
    rcases List.mem_append.mp member with earlier | last
    · exact short.1 token earlier
    · rw [List.mem_singleton.mp last]
      exact short.2
  · exact short

theorem HeaderTokens.Short.next {character : Char} (short : state.Short)
    (taken : state.next character = some after) : after.Short := by
  unfold HeaderTokens.next at taken
  by_cases blank : state.quote = none ∧ (character = ' ' ∨ character = '\t')
  · rw [if_pos blank] at taken
    cases taken
    exact short.flush
  · rw [if_neg blank] at taken
    by_cases single : character = singleQuote ∧ state.quote ≠ some .double
    · rw [if_pos single] at taken
      cases taken
      exact short
    · rw [if_neg single] at taken
      by_cases double : character = '"' ∧ state.quote ≠ some .single
      · rw [if_pos double] at taken
        cases taken
        exact short
      · rw [if_neg double] at taken
        dsimp only at taken
        split_ifs at taken with fits
        cases taken
        exact ⟨short.1, fits⟩

theorem HeaderTokens.Short.foldlM (short : state.Short)
    (taken : input.foldlM HeaderTokens.next state = some after) : after.Short := by
  induction input generalizing state with
  | nil =>
    cases taken
    exact short
  | cons character rest ih =>
    rw [List.foldlM_cons, Option.bind_eq_bind, Option.bind_eq_some_iff] at taken
    obtain ⟨middle, first, rest⟩ := taken
    exact ih (short.next first) rest

theorem tokenizeHeader_short {tokens : List String}
    (accepted : tokenizeHeader input = some tokens) :
    ∀ token ∈ tokens, token.utf8ByteSize ≤ maxHeaderBytes := by
  simp only [tokenizeHeader, Option.bind_eq_bind, Option.bind_eq_some_iff] at accepted
  obtain ⟨state, taken, accepted⟩ := accepted
  split_ifs at accepted
  cases accepted
  have start : HeaderTokens.Short {} := ⟨by simp, by simp⟩
  exact (start.foldlM taken).flush.1

theorem parseCommandInput_short {input : String} {parsed : ParsedCommand}
    (accepted : parseCommandInput input = .ok parsed) :
    (∀ token ∈ parsed.arguments, token.utf8ByteSize ≤ maxBodyBytes) ∧
      ∀ body ∈ parsed.body, body.utf8ByteSize ≤ maxBodyBytes := by
  simp only [parseCommandInput, bind_eq_ok, ensure_eq_ok, orError_eq_ok, Bool.and_eq_true,
    exists_const] at accepted
  obtain ⟨⟨_, bodyShort⟩, tokens, tokenized, accepted⟩ := accepted
  cases tokens with
  | nil => cases accepted
  | cons commandToken arguments =>
    simp only [bind_eq_ok, ensure_eq_ok, pure_eq_ok, exists_const] at accepted
    obtain ⟨_, _, rfl⟩ := accepted
    refine ⟨fun token member => ?_, fun body present => ?_⟩
    · have short := tokenizeHeader_short tokenized token (List.mem_cons_of_mem _ member)
      exact Nat.le_trans short (by decide)
    · have here := (Option.filter_eq_some_iff.mp present).1
      rw [here] at bodyShort
      simpa using bodyShort

/-! ## Arguments -/

section Arguments

variable {schema : CommandArgumentSchemaV1} {value result : Table String CommandArgumentValueV1}
  {name : String} {argument : CommandArgumentValueV1}

/-- An argument is declared, has the type and the bounds of its property, and is within those of an
invocation. -/
def Typed (schema : CommandArgumentSchemaV1) (value : Table String CommandArgumentValueV1) : Prop :=
  ∀ name argument, value.get? name = some argument → argument.valid = true ∧
    ∃ property, schema.properties.get? name = some property ∧
      matchesProperty argument property = true

theorem member?_eq_own {α : Type} {object : Table String α} {own : α} :
    member? object name = some (.own own) ↔ object.get? name = some own := by
  unfold member?
  cases object.get? name with
  | some value => simp
  | none => split_ifs <;> simp

theorem parseArgument_ok {input : String} {member : ObjectMember CommandArgumentPropertyV1}
    (parsed : parseArgument input member = some argument)
    (short : input.utf8ByteSize ≤ maxBodyBytes) :
    ∃ property, member = .own property ∧ matchesProperty argument property = true ∧
      argument.valid = true ∧ (property.type = .string ↔ argument = .string input) := by
  cases member with
  | inherited => cases parsed
  | own property =>
    refine ⟨property, rfl, ?_⟩
    cases type : property.type with
    | string =>
      simp only [parseArgument, type] at parsed
      split_ifs at parsed with fits
      cases parsed
      simp [matchesProperty, type, fits, CommandArgumentValueV1.valid, short]
    | integer =>
      simp only [parseArgument, type, Option.bind_eq_some_iff] at parsed
      obtain ⟨number, _, parsed⟩ := parsed
      split_ifs at parsed with fits
      cases parsed
      have safe : isSafeInteger number = true := by
        simp only [numberFits, Bool.and_eq_true] at fits
        exact fits.1.1
      simp [matchesProperty, type, fits, CommandArgumentValueV1.valid, safe]
    | boolean =>
      simp only [parseArgument, type] at parsed
      split_ifs at parsed <;> cases parsed <;>
        simp [matchesProperty, type, CommandArgumentValueV1.valid]

theorem Typed.upsert (typed : Typed schema value) {property : CommandArgumentPropertyV1}
    (declared : schema.properties.get? name = some property)
    (fits : matchesProperty argument property = true) (valid : argument.valid = true) :
    Typed schema (value.upsert name argument) := by
  intro other stored found
  rw [Table.get?_upsert] at found
  split_ifs at found with same
  · cases found
    exact ⟨valid, property, same ▸ declared, fits⟩
  · exact typed other stored found

theorem positionalArguments_ok {tokens names : List String} (typed : Typed schema value)
    (short : ∀ token ∈ tokens, token.utf8ByteSize ≤ maxBodyBytes)
    (accepted : positionalArguments schema tokens names value = some result) :
    Typed schema result ∧ ∀ name, (result.get? name).isSome = true ↔
      (value.get? name).isSome = true ∨ name ∈ names.take tokens.length := by
  induction tokens generalizing names value with
  | nil =>
    cases accepted
    simpa using typed
  | cons token tokens ih =>
    obtain ⟨first, others⟩ := List.forall_mem_cons.mp short
    cases names with
    | nil => cases accepted
    | cons name names =>
      simp only [positionalArguments, Option.bind_eq_bind, Option.bind_eq_some_iff] at accepted
      obtain ⟨member, found, argument, parsed, accepted⟩ := accepted
      obtain ⟨property, rfl, fits, valid, _⟩ := parseArgument_ok parsed first
      obtain ⟨after, given⟩ :=
        ih (typed.upsert (member?_eq_own.mp found) fits valid) others accepted
      refine ⟨after, fun other => ?_⟩
      rw [given other, Table.get?_upsert, List.length_cons, List.take_succ_cons, List.mem_cons]
      by_cases same : other = name
      · simp [same]
      · simp [same]

def givenNames (schema : CommandArgumentSchemaV1) (parsed : ParsedCommand) : List String :=
  schema.positional.take parsed.arguments.length ++ parsed.body.toList.map fun _ => "body"

/-- **Arguments that are accepted** are declared and fit, a required one that is not given is a
member of every object, and the body is the argument of its name if that is a text. -/
theorem validateArguments_ok {descriptor : CommandDescriptorV1} {parsed : ParsedCommand}
    (short : ∀ token ∈ parsed.arguments, token.utf8ByteSize ≤ maxBodyBytes)
    (shortBody : ∀ body ∈ parsed.body, body.utf8ByteSize ≤ maxBodyBytes)
    (accepted : validateArguments descriptor parsed.arguments parsed.body = .ok result) :
    Typed descriptor.schema result ∧
    (∀ name, (result.get? name).isSome = true ↔ name ∈ givenNames descriptor.schema parsed) ∧
    descriptor.schema.required.all (defined result) = true ∧
    ∀ body ∈ parsed.body, ∃ property, descriptor.schema.properties.get? "body" = some property ∧
      (property.type = .string ↔ result.get? "body" = some (.string body)) := by
  simp only [validateArguments, bind_eq_ok, ensure_eq_ok, orError_eq_ok, pure_eq_ok,
    exists_const] at accepted
  obtain ⟨_, positional, taken, value, ofBody, required, rfl⟩ := accepted
  have empty : Typed descriptor.schema .empty := by
    intro name argument found
    cases found
  obtain ⟨typed, given⟩ := positionalArguments_ok empty short taken
  simp only [Table.get?_empty, Option.isSome_none, Bool.false_eq_true, false_or] at given
  cases body : parsed.body with
  | none =>
    rw [body] at ofBody
    cases ofBody
    refine ⟨typed, fun name => ?_, required, by simp⟩
    rw [given name, givenNames, body]
    simp
  | some text =>
    rw [body] at ofBody
    simp only [withBody, bind_eq_ok, ensure_eq_ok, orError_eq_ok, pure_eq_ok,
      exists_const] at ofBody
    obtain ⟨member, found, _, argument, parsedBody, rfl⟩ := ofBody
    obtain ⟨property, rfl, fits, valid, text'⟩ :=
      parseArgument_ok parsedBody (shortBody text (by simp [body]))
    have declared := member?_eq_own.mp found
    refine ⟨typed.upsert declared fits valid, fun name => ?_, required, ?_⟩
    · rw [Table.get?_upsert, givenNames, body]
      by_cases same : name = "body"
      · simp [same]
      · simp [same, given name]
    · intro other present
      cases present
      refine ⟨property, declared, ?_⟩
      rw [Table.get?_upsert, if_pos rfl, text', Option.some.injEq]

end Arguments

/-! ## Invocations -/

section Invocations

variable {platform : CommandPlatform} {descriptor : CommandDescriptorV1}
  {arguments : Table String CommandArgumentValueV1}

/-- The longest id of a request whose invocation has an id. -/
def maxRequestId : Nat := 120

variable {clientRequestId : String} {body : Option String} {invocation : CommandInvocationV1}

theorem safeId_command (safe : safeId clientRequestId = true) :
    safeId ("command:" ++ clientRequestId) = decide (clientRequestId.toList.length ≤ maxRequestId) := by
  have added : ("command:" ++ clientRequestId).toList =
      'c' :: (['o', 'm', 'm', 'a', 'n', 'd', ':'] ++ clientRequestId.toList) := by
    rw [String.toList_append]
    rfl
  rw [safeId, chars_eq] at safe ⊢
  rw [added]
  cases id : clientRequestId.toList with
  | nil =>
    rw [id] at safe
    cases safe
  | cons first rest =>
    rw [id] at safe
    simp only [safeIdChars, Bool.and_eq_true] at safe
    obtain ⟨⟨alphanumeric, _⟩, others⟩ := safe
    have seven : ['o', 'm', 'm', 'a', 'n', 'd', ':'].all safeIdChar = true := by decide
    have own : (first :: rest).all safeIdChar = true := by
      rw [List.all_cons, others, safeIdChar, alphanumeric]
      rfl
    have all : (['o', 'm', 'm', 'a', 'n', 'd', ':'] ++ first :: rest).all safeIdChar = true := by
      rw [List.all_append, seven, own]
      rfl
    have same : ((['o', 'm', 'm', 'a', 'n', 'd', ':'] ++ first :: rest).length ≤ 127) ↔
        (first :: rest).length ≤ maxRequestId := by
      rw [List.length_append]
      show 7 + (first :: rest).length ≤ 127 ↔ (first :: rest).length ≤ 120
      omega
    have letter : 'c'.isAlphanum = true := by decide
    simp only [safeIdChars, letter, Bool.true_and, all, Bool.and_true, same]

theorem validateCommandInvocationV1_ok {input : CommandInvocationV1} :
    validateCommandInvocationV1 input = .ok invocation ↔
      validInvocation input = true ∧ invocation = input := by
  simp only [validateCommandInvocationV1, bind_eq_ok, ensure_eq_ok, return_eq_ok, exists_const]

/-- Declared arguments are no more than the properties, and have their names. -/
theorem Typed.valid (validated : ValidatedDescriptor platform descriptor)
    (typed : Typed descriptor.schema arguments) : arguments.rows.length ≤ maxArguments ∧
      ∀ row ∈ arguments.rows, isSafeArgument row.1 = true ∧ row.2.valid = true := by
  obtain ⟨few, safe⟩ := canonicalSchema_names validated.schema
  have declared : ∀ row ∈ arguments.rows, row.2.valid = true ∧
      ∃ property, (row.1, property) ∈ descriptor.schema.properties.rows := by
    intro row member
    obtain ⟨valid, property, found, _⟩ := typed row.1 row.2 (arguments.mem_rows_iff.mp member)
    exact ⟨valid, property, descriptor.schema.properties.mem_rows_iff.mpr found⟩
  constructor
  · have names : arguments.rows.map Prod.fst ⊆ descriptor.schema.properties.rows.map Prod.fst := by
      intro name listed
      obtain ⟨row, member, rfl⟩ := List.mem_map.mp listed
      obtain ⟨_, property, there⟩ := declared row member
      exact List.mem_map.mpr ⟨_, there, rfl⟩
    have fewer := (List.subperm_of_subset arguments.unique names).length_le
    rw [List.length_map, List.length_map] at fewer
    exact Nat.le_trans fewer few
  · intro row member
    obtain ⟨valid, property, there⟩ := declared row member
    exact ⟨safe _ there, valid⟩

/-- **An invocation is created exactly if the id of its request is not too long.** -/
theorem createInvocation_ok (validated : ValidatedDescriptor platform descriptor)
    (typed : Typed descriptor.schema arguments)
    (short : ∀ text ∈ body, text.utf8ByteSize ≤ maxBodyBytes)
    (safe : safeId clientRequestId = true) :
    createInvocation descriptor arguments body clientRequestId = .ok invocation ↔
      clientRequestId.toList.length ≤ maxRequestId ∧
        invocation = invocationOf descriptor arguments body clientRequestId := by
  have valid := validated.valid
  simp only [validDescriptor, Bool.and_eq_true] at valid
  obtain ⟨few, names⟩ := typed.valid validated
  have rows : (arguments.rows.all fun row => isSafeArgument row.1 && row.2.valid) = true := by
    rw [List.all_eq_true]
    intro row member
    rw [Bool.and_eq_true]
    exact names row member
  have bodyFits : (body.all fun text => decide (text.utf8ByteSize ≤ maxBodyBytes)) = true := by
    cases body with
    | none => rfl
    | some text => exact decide_eq_true (short text rfl)
  have id : isDescriptorId descriptor.id = true := by tauto
  have command : isSafeQualifiedCommand descriptor.command = true := by tauto
  rw [createInvocation, validateCommandInvocationV1_ok]
  simp only [validInvocation, invocationOf, safeId_command safe, safe, id, validated.digest, command,
    few, rows, bodyFits, Bool.and_true, decide_eq_true_eq, decide_true]

theorem checkArguments_ok (typed : Typed descriptor.schema arguments) :
    arguments.rows.forM (checkArgument descriptor.schema) = .ok () := by
  refine forM_eq_ok.mpr fun row member => ?_
  obtain ⟨_, property, found, fits⟩ := typed row.1 row.2 (arguments.mem_rows_iff.mp member)
  rw [checkArgument, member?_eq_own.mpr found]
  simp [fits]

/-- **The runtime accepts an invocation exactly if its body is the text of the argument.** -/
theorem validateAgainst_ok
    (validated : validateCommandDescriptorV1 platform descriptor = .ok descriptor)
    (valid : validInvocation (invocationOf descriptor arguments body clientRequestId) = true)
    (typed : Typed descriptor.schema arguments)
    (required : descriptor.schema.required.all (defined arguments) = true) :
    validateCommandInvocationAgainstDescriptorV1 platform
        (invocationOf descriptor arguments body clientRequestId) descriptor =
      .ok (invocationOf descriptor arguments body clientRequestId) ↔
    ∀ text ∈ body, arguments.get? "body" = some (.string text) := by
  have declared : (arguments.rows.all fun row => defined descriptor.schema.properties row.1) = true := by
    rw [List.all_eq_true]
    intro row member
    obtain ⟨_, property, found, _⟩ := typed row.1 row.2 (arguments.mem_rows_iff.mp member)
    rw [defined, member?_eq_own.mpr found]
    rfl
  have checked := validateCommandInvocationV1_ok.mpr ⟨valid, rfl⟩
  have each := checkArguments_ok typed
  simp only [validateCommandInvocationAgainstDescriptorV1, checked, validated, coded, ok_bind]
  simp only [invocationOf, beq_self_eq_true, Bool.and_true, ensure_true, ok_bind, declared, required,
    each, bind_eq_ok, ensure_eq_ok, pure_eq_ok, exists_const, and_true]
  cases body with
  | none => simp
  | some text => simp

end Invocations

/-! ## Results -/

section Results

variable {platform : CommandPlatform} {producer : Option PromptCommandProducerV1}
  {descriptor : CommandDescriptorV1} {invocation : CommandInvocationV1}

def InputRouteResultV1.invocation? : InputRouteResultV1 → Option CommandInvocationV1
  | .uiAction invocation => some invocation
  | .runtimeAction _ invocation => some invocation
  | .boundedJob invocation _ => some invocation
  | .promptEnvelope _ => none
  | .error _ => none

/-- The commands whose result is a prompt. -/
def CommandKindV1.prompts : CommandKindV1 → Bool
  | .promptTemplate | .skillInvocation => true
  | _ => false

def Returns (platform : CommandPlatform) (returned : Except (Option String) InputRouteResultV1)
    (invocation : Option CommandInvocationV1) : Prop :=
  ∃ result, returned = .ok result ∧ validateInputRouteResultV1 platform result = .ok result ∧
    result.invocation? = invocation

theorem routeError_returns {code : String} (coded : isErrorCode code = true) :
    Returns platform (routeError platform code) none :=
  ⟨.error code, by simp [routeError, validateInputRouteResultV1, coded],
    by simp [validateInputRouteResultV1, coded], rfl⟩

theorem isErrorCode_errorCode {error : Option String} {fallback : String}
    (coded : isErrorCode fallback = true) : isErrorCode (errorCode error fallback) = true := by
  unfold errorCode
  split
  · split_ifs with own
    · exact own
    · exact coded
  · exact coded

theorem envelope_returns {envelope : PromptEnvelope}
    (validated : validatePromptEnvelope platform envelope = .ok envelope) :
    Returns platform (.ok (.promptEnvelope envelope)) none :=
  ⟨.promptEnvelope envelope, rfl, by simp [validateInputRouteResultV1, validated], rfl⟩

theorem producePrompt_returns :
    Returns platform (producePrompt platform producer descriptor invocation) none := by
  unfold producePrompt
  cases producer with
  | none => exact routeError_returns (by decide +kernel)
  | some produce =>
    dsimp only
    cases produced : produce descriptor invocation >>= validatePromptEnvelope platform with
    | error error => exact routeError_returns (isErrorCode_errorCode (by decide +kernel))
    | ok envelope =>
      dsimp only
      obtain ⟨input, _, validated⟩ := bind_eq_ok.mp produced
      obtain rfl := validatePromptEnvelope_ok validated
      generalize (if descriptor.kind = .promptTemplate then PromptEnvelopeSource.promptTemplate
        else .skill) = expectedSource
      split_ifs
      · exact routeError_returns (by decide +kernel)
      · exact envelope_returns validated

theorem dispatch_returns
    (validated : ValidatedDescriptor platform descriptor) (valid : validInvocation invocation = true) :
    Returns platform (dispatch platform producer descriptor invocation)
      (if descriptor.kind.prompts then none else some invocation) := by
  have checked := validateCommandInvocationV1_ok.mpr ⟨valid, rfl⟩
  have returns : ∀ {result : InputRouteResultV1},
      validateInputRouteResultV1 platform result = .ok result →
      Returns platform (.ok result) result.invocation? :=
    fun {result} validated => ⟨result, rfl, validated, rfl⟩
  unfold dispatch
  cases kind : descriptor.kind with
  | clientLocal => exact returns (by simp [validateInputRouteResultV1, checked])
  | runtimeQuery => exact returns (by simp [validateInputRouteResultV1, checked])
  | runtimeMutation => exact returns (by simp [validateInputRouteResultV1, checked])
  | promptTemplate => exact producePrompt_returns
  | skillInvocation => exact producePrompt_returns
  | workflow =>
    have bounded := validated.job kind
    refine returns ?_
    simp only [validateInputRouteResultV1, checked, bounded, ensure_true, ok_bind, pure_ok]

/-! ## Errors -/

theorem routeCommand_codes (source : String) (context : InputRouteContextV1) :
    ErrorsIn (fun code => isErrorCode code = true) (routeCommand source context) := by
  have parse : ErrorsIn (fun code => isErrorCode code = true) (parseCommandInput source) := by
    refine (errorsIn_ensure (by decide +kernel)).bind fun _ =>
      (errorsIn_orError (by decide +kernel)).bind ?_
    intro tokens
    cases tokens with
    | nil => exact errorsIn_error.mpr (by decide +kernel)
    | cons commandToken arguments =>
      exact (errorsIn_ensure (by decide +kernel)).bind fun _ =>
        (errorsIn_ensure (by decide +kernel)).bind fun _ => errorsIn_ok
  have resolve : ∀ command, ErrorsIn (fun code => isErrorCode code = true)
      (resolveDescriptor command context.catalogs) := by
    intro command
    unfold resolveDescriptor
    dsimp only
    split
    · exact errorsIn_error.mpr (by decide +kernel)
    · exact errorsIn_ok
    · split_ifs
      · exact errorsIn_error.mpr (by decide +kernel)
      · split
        · exact errorsIn_ok
        · exact errorsIn_error.mpr (by decide +kernel)
  have arguments : ∀ descriptor tokens body, ErrorsIn (fun code => isErrorCode code = true)
      (validateArguments descriptor tokens body) := by
    intro descriptor tokens body
    refine (errorsIn_ensure (by decide +kernel)).bind fun _ =>
      (errorsIn_orError (by decide +kernel)).bind ?_
    intro value
    refine ErrorsIn.bind ?_ fun _ => (errorsIn_ensure (by decide +kernel)).bind fun _ => errorsIn_ok
    cases body with
    | none => exact errorsIn_ok
    | some body =>
      exact (errorsIn_orError (by decide +kernel)).bind fun _ =>
        (errorsIn_ensure (by decide +kernel)).bind fun _ => (errorsIn_orError (by decide +kernel)).bind
          fun _ => errorsIn_ok
  refine parse.bind fun parsed => (resolve parsed.command).bind fun resolved => ?_
  refine (errorsIn_ensure (by decide +kernel)).bind fun _ => ErrorsIn.bind ?_ fun _ =>
    (arguments _ _ _).bind fun _ => errorsIn_ok
  exact (errorsIn_ensure (by decide +kernel)).bind fun _ =>
    (errorsIn_ensure (by decide +kernel)).bind fun _ =>
      (errorsIn_ensure (by decide +kernel)).bind fun _ => errorsIn_ensure (by decide +kernel)

end Results

/-! ## Faithful routes -/

section Routes

variable (platform : CommandPlatform) (producer : Option PromptCommandProducerV1)
  (source : String) (context : InputRouteContextV1)

/-- The invocation passes the check of the runtime, and has every required argument and only
declared ones, each of the declared type and bounds. -/
structure InvocationFits (invocation : CommandInvocationV1) (descriptor : CommandDescriptorV1) :
    Prop where
  validated : validateCommandInvocationAgainstDescriptorV1 platform invocation descriptor =
    .ok invocation
  required : ∀ name ∈ descriptor.schema.required, (invocation.arguments.get? name).isSome = true
  declared : ∀ name argument, invocation.arguments.get? name = some argument →
    ∃ property, descriptor.schema.properties.get? name = some property ∧
      matchesProperty argument property = true

/-- The source is a command of the context, and accepted as it is written. -/
def Routed (routed : RoutedCommand) : Prop :=
  ∃ validated, validateContext platform context = .ok validated ∧
    source.utf8ByteSize ≤ maxInputBytes ∧ startsWith source "/" = true ∧
    routeCommand source validated = .ok routed

/-- `route` resolves to a valid result, and an invocation in it fits the descriptor it was routed
to. -/
def RouteSound : Prop :=
  ∃ result, route platform producer source context = .ok result ∧
    validateInputRouteResultV1 platform result = .ok result ∧
    ∀ invocation, result.invocation? = some invocation →
      ∃ routed, Routed platform source context routed ∧
        InvocationFits platform invocation routed.descriptor

/-- The id of the request has room for the prefix of an invocation; and where the result has the
invocation, a body is that of a text argument, and every required argument whose name is that of a
member of all objects is given. -/
def RoutesFaithfully : Prop :=
  ∀ routed, Routed platform source context routed →
    context.clientRequestId.toList.length ≤ maxRequestId ∧
    (routed.descriptor.kind.prompts = false → (routed.parsed.body.isSome = true → ∀ property,
        routed.descriptor.schema.properties.get? "body" = some property → property.type = .string) ∧
      ∀ name ∈ routed.descriptor.schema.required, Json.objectMembers.contains name = true →
        name ∈ givenNames routed.descriptor.schema routed.parsed)

variable {platform producer source context}

variable {validated : InputRouteContextV1} {routed : RoutedCommand}

theorem validateContext_ok (accepted : validateContext platform context = .ok validated) :
    safeId context.clientRequestId = true ∧ validated.clientRequestId = context.clientRequestId ∧
      ∀ catalog ∈ validated.catalogs, ∀ entry ∈ catalog.entries,
        validateCommandDescriptorV1 platform entry.descriptor = .ok entry.descriptor := by
  simp only [validateContext, bind_eq_ok, ensure_eq_ok, pure_eq_ok, exists_const,
    Bool.and_eq_true] at accepted
  obtain ⟨⟨⟨⟨request, _⟩, _⟩, _⟩, catalogs, checked, agree, rfl⟩ := accepted
  clear agree
  refine ⟨request, rfl, ?_⟩
  have each := mapM_eq_ok.mp checked
  clear checked
  generalize context.catalogs = given at each
  induction each with
  | nil => simp
  | @cons catalog validated _ _ first _ ih =>
    refine List.forall_mem_cons.mpr ⟨?_, ih⟩
    cases result : validateCommandCatalogSnapshotV1 platform catalog with
    | error code =>
      rw [result] at first
      cases first
    | ok snapshot =>
      rw [result] at first
      cases first
      exact validateCommandCatalogSnapshotV1_descriptors result

theorem resolveDescriptor_mem {command : String} {catalogs : List CommandCatalogSnapshotV1}
    {resolved : ResolvedCommand} (found : resolveDescriptor command catalogs = .ok resolved) :
    ∃ catalog ∈ catalogs, resolved.entry ∈ catalog.entries := by
  have listed : resolved ∈ catalogEntries catalogs := by
    unfold resolveDescriptor at found
    dsimp only at found
    split at found
    · cases found
    · rename_i one
      cases found
      have member : resolved ∈ [resolved] := List.mem_singleton_self resolved
      rw [← one] at member
      exact (List.mem_filter.mp member).1
    · split_ifs at found
      split at found
      · rename_i one
        cases found
        have member : resolved ∈ [resolved] := List.mem_singleton_self resolved
        rw [← one] at member
        exact (List.mem_filter.mp (List.mem_filter.mp member).1).1
      · cases found
  simp only [catalogEntries, List.mem_flatMap, List.mem_map] at listed
  obtain ⟨catalog, member, entry, inside, rfl⟩ := listed
  exact ⟨catalog, member, inside⟩

/-- What is routed has a validated descriptor, and arguments that are accepted for it. -/
structure RoutedFacts (platform : CommandPlatform) (routed : RoutedCommand) : Prop where
  validated : validateCommandDescriptorV1 platform routed.descriptor = .ok routed.descriptor
  typed : Typed routed.descriptor.schema routed.arguments
  given : ∀ name, (routed.arguments.get? name).isSome = true ↔
    name ∈ givenNames routed.descriptor.schema routed.parsed
  required : routed.descriptor.schema.required.all (defined routed.arguments) = true
  short : ∀ body ∈ routed.parsed.body, body.utf8ByteSize ≤ maxBodyBytes
  body : ∀ body ∈ routed.parsed.body, ∃ property,
    routed.descriptor.schema.properties.get? "body" = some property ∧
      (property.type = .string ↔ routed.arguments.get? "body" = some (.string body))

theorem routeCommand_facts (checked : validateContext platform context = .ok validated)
    (accepted : routeCommand source validated = .ok routed) : RoutedFacts platform routed := by
  simp only [routeCommand, bind_eq_ok, pure_eq_ok] at accepted
  obtain ⟨parsed, ofSource, resolved, ofCommand, _, _, _, _, arguments, ofTokens, rfl⟩ := accepted
  obtain ⟨short, shortBody⟩ := parseCommandInput_short ofSource
  obtain ⟨typed, given, required, body⟩ := validateArguments_ok short shortBody ofTokens
  obtain ⟨catalog, member, inside⟩ := resolveDescriptor_mem ofCommand
  exact ⟨(validateContext_ok checked).2.2 catalog member resolved.entry inside, typed, given, required,
    shortBody, body⟩

theorem route_of_routed (found : Routed platform source context routed) :
    route platform producer source context =
      createInvocation routed.descriptor routed.arguments routed.parsed.body
        context.clientRequestId >>= dispatch platform producer routed.descriptor := by
  obtain ⟨validated, checked, short, command, accepted⟩ := found
  have nonempty : source.isEmpty = false := by
    cases chars : source.isEmpty with
    | false => rfl
    | true =>
      have never : startsWith "" "/" = false := by decide +kernel
      rw [String.isEmpty_iff.mp chars, never] at command
      cases command
  have fits : ¬(source.isEmpty = true ∨ maxInputBytes < source.utf8ByteSize) := by
    rw [nonempty]
    rintro (empty | long)
    · cases empty
    · omega
  unfold route
  simp only [checked, if_neg fits, command, Bool.not_true, Bool.false_eq_true, if_false, accepted,
    (validateContext_ok checked).2.1]

theorem route_of_unrouted (unrouted : ∀ routed, ¬ Routed platform source context routed) :
    Returns platform (route platform producer source context) none := by
  unfold route
  cases checked : validateContext platform context with
  | error error => exact routeError_returns (isErrorCode_errorCode (by decide +kernel))
  | ok validated =>
    dsimp only
    split_ifs with bounds command
    · exact routeError_returns (by decide +kernel)
    · split
      · rename_i envelope created
        exact envelope_returns (createPromptEnvelope_ok created)
      · exact routeError_returns (by decide +kernel)
    · cases accepted : routeCommand source validated with
      | error code =>
        have coded := routeCommand_codes source validated
        rw [accepted, errorsIn_error] at coded
        exact routeError_returns coded
      | ok routed =>
        refine absurd ⟨validated, checked, ?_, ?_, accepted⟩ (unrouted routed)
        · exact Nat.le_of_not_lt fun long => bounds (.inr long)
        · simpa using command

theorem Routed.unique {other : RoutedCommand} (first : Routed platform source context routed)
    (second : Routed platform source context other) : other = routed := by
  obtain ⟨validated, checked, _, _, accepted⟩ := first
  obtain ⟨validated', checked', _, _, accepted'⟩ := second
  rw [checked] at checked'
  cases checked'
  rw [accepted] at accepted'
  cases accepted'
  rfl

theorem RouteSound.faithful (sound : RouteSound platform producer source context) :
    RoutesFaithfully platform source context := by
  obtain ⟨result, routes, _, fits⟩ := sound
  intro routed found
  have ⟨validated, checked, _, _, accepted⟩ := found
  have facts := routeCommand_facts checked accepted
  have descriptor := validatedDescriptor_of facts.validated
  rw [route_of_routed found] at routes
  obtain ⟨invocation, created, dispatched⟩ := bind_eq_ok.mp routes
  obtain ⟨room, rfl⟩ := (createInvocation_ok descriptor facts.typed facts.short
    (validateContext_ok checked).1).mp created
  have valid := (validateCommandInvocationV1_ok.mp created).1
  refine ⟨room, fun kind => ?_⟩
  obtain ⟨result', same, _, invocation⟩ := @dispatch_returns _ producer _ _ descriptor valid
  rw [dispatched] at same
  cases same
  rw [kind] at invocation
  obtain ⟨other, found', fits⟩ := fits _ invocation
  obtain rfl := found.unique found'
  have text := (validateAgainst_ok facts.validated valid facts.typed facts.required).mp fits.validated
  refine ⟨fun withBody property declared => ?_, fun name listed _ => ?_⟩
  · obtain ⟨body, present⟩ := Option.isSome_iff_exists.mp withBody
    obtain ⟨own, declared', type⟩ := facts.body body present
    rw [declared] at declared'
    cases declared'
    exact type.mpr (text body present)
  · exact (facts.given name).mp (fits.required name listed)

theorem RoutesFaithfully.fits (faithful : RoutesFaithfully platform source context)
    (found : Routed platform source context routed)
    (kind : routed.descriptor.kind.prompts = false) :
    InvocationFits platform (invocationOf routed.descriptor routed.arguments routed.parsed.body
      context.clientRequestId) routed.descriptor := by
  obtain ⟨room, kinds⟩ := faithful routed found
  obtain ⟨bodyFits, given⟩ := kinds kind
  have ⟨validated, checked, _, _, accepted⟩ := found
  have facts := routeCommand_facts checked accepted
  have created := (createInvocation_ok (validatedDescriptor_of facts.validated) facts.typed facts.short
    (validateContext_ok checked).1).mpr ⟨room, rfl⟩
  have valid := (validateCommandInvocationV1_ok.mp created).1
  refine ⟨?_, fun name listed => ?_, fun name argument present => ?_⟩
  · refine (validateAgainst_ok facts.validated valid facts.typed facts.required).mpr ?_
    intro body present
    obtain ⟨property, declared, type⟩ := facts.body body present
    exact type.mp (bodyFits (Option.isSome_of_mem present) property declared)
  · have known := List.all_eq_true.mp facts.required name listed
    rcases defined_iff.mp known with own | inherited
    · have stored : routed.arguments.get? name ≠ none := fun missing =>
        (Table.get?_eq_none_iff _).mp missing own
      exact Option.isSome_iff_ne_none.mpr stored
    · exact (facts.given name).mpr (given name listed inherited)
  · obtain ⟨_, property, declared, fits⟩ := facts.typed name argument present
    exact ⟨property, declared, fits⟩

theorem RoutesFaithfully.sound (faithful : RoutesFaithfully platform source context) :
    RouteSound platform producer source context := by
  by_cases found : ∃ routed, Routed platform source context routed
  · obtain ⟨routed, found⟩ := found
    have ⟨validated, checked, _, _, accepted⟩ := found
    have facts := routeCommand_facts checked accepted
    have descriptor := validatedDescriptor_of facts.validated
    have created := (createInvocation_ok descriptor facts.typed facts.short
      (validateContext_ok checked).1).mpr ⟨(faithful routed found).1, rfl⟩
    have valid := (validateCommandInvocationV1_ok.mp created).1
    obtain ⟨result, dispatched, ok, invocation⟩ := @dispatch_returns _ producer _ _ descriptor valid
    refine ⟨result, ?_, ok, fun present there => ?_⟩
    · rw [route_of_routed found, created]
      exact dispatched
    · rw [invocation] at there
      cases kind : routed.descriptor.kind.prompts with
      | true =>
        rw [kind] at there
        cases there
      | false =>
        rw [kind] at there
        cases there
        exact ⟨routed, found, faithful.fits found kind⟩
  · obtain ⟨result, routes, ok, invocation⟩ := route_of_unrouted (not_exists.mp found)
    refine ⟨result, routes, ok, fun present there => ?_⟩
    rw [invocation] at there
    cases there

/-- **A source is routed to a valid result whose invocation fits, exactly if it is routed
faithfully.** -/
theorem routeSound_iff (platform : CommandPlatform) (producer : Option PromptCommandProducerV1)
    (source : String) (context : InputRouteContextV1) :
    RouteSound platform producer source context ↔ RoutesFaithfully platform source context :=
  ⟨RouteSound.faithful, RoutesFaithfully.sound⟩

end Routes

/-! ## A request with a long id -/

/-- The digests of the three texts of the example, which have different lengths. -/
def copyPlatform : CommandPlatform where
  digest text :=
    match text.utf8ByteSize with
    | 594 => "sha256:7ec24f06ac884b70033f57945caf44a2658bd91b8c64dadffaa5152b8977507e"
    | 70 => "sha256:1ecdd4024dc03d77da5922db3899d11856fc81f60389161c0c8067046f3ea379"
    | 953 => "sha256:6054292f4bcd68de38967025de03f7b290c4346bcb31c4bdc5e2c00321858a2a"
    | _ => ""
  localeLe := unitsLe
  locale_trans := unitsLe_trans
  locale_total := unitsLe_total

/-- A command of the client without arguments. -/
def copyDescriptor : CommandDescriptorV1 where
  id := "client:copy"
  command := "copy"
  aliases := []
  title := "Copy"
  description := "Copy the last answer."
  usage := "/copy"
  kind := .clientLocal
  schema :=
    { properties := .empty
      required := []
      positional := [] }
  source :=
    { kind := .builtin
      origin := "client"
      digest := "sha256:948fe603f61dc036b5c596dc09fe3ce3f3d30dc90f024c85f3c82db2ccab679d" }
  effect := .none
  capabilities := []
  availability :=
    { session := .none
      run := .any
      requiresWorkspaceTrust := false }
  output :=
    { kind := .uiAction
      maxBytes := 1 }
  sensitiveArguments := []
  persistence := .plaintext
  descriptorDigest := "sha256:7ec24f06ac884b70033f57945caf44a2658bd91b8c64dadffaa5152b8977507e"

def copyCatalog : CommandCatalogSnapshotV1 where
  workspaceId := "workspace"
  workspaceTrusted := true
  capabilityIds := []
  owner := .client
  capabilityDigest := "sha256:1ecdd4024dc03d77da5922db3899d11856fc81f60389161c0c8067046f3ea379"
  entries :=
    [{ layer := .builtin
       descriptor := copyDescriptor
       availableAliases := [] }]
  snapshotDigest := "sha256:6054292f4bcd68de38967025de03f7b290c4346bcb31c4bdc5e2c00321858a2a"

/-- A request with an id of 121 characters. -/
def longContext : InputRouteContextV1 where
  clientRequestId := String.ofList (List.replicate 121 'a')
  promptId := "prompt"
  catalogs := [copyCatalog]
  capabilityDigest := copyCatalog.capabilityDigest
  workspaceTrusted := true
  session := .none
  run := .idle

theorem route_longContext : ¬ RouteSound copyPlatform none "/copy" longContext := by
  rintro ⟨result, routes, _⟩
  have rejects : (route copyPlatform none "/copy" longContext).isOk = false := by decide +kernel
  rw [routes] at rejects
  cases rejects

end Praxis.Commands
