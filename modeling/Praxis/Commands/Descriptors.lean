import Praxis.Foundations.SourceText
import Praxis.Foundations.Table
import Praxis.Durable.SpecValidation

/-!
# Command descriptors

The descriptor of a command, and the form in which `validateCommandDescriptorV1` returns it: lists
that are sets are sorted, and so are the properties of the arguments. The digest of a descriptor is
one of its canonical JSON text, so a canonical descriptor is canonical again
(`validateCommandDescriptorV1_again`).

A property of an object is looked up as the source looks it up: a name that the object does not have
may be that of a member of every object.
-/

namespace Praxis.Commands

set_option autoImplicit false

open Praxis.Foundations
open Praxis.Workflow (isSha256 maxSafeInteger)

/-- SHA-256 of a text, and the collation of `localeCompare`. -/
structure CommandPlatform where
  digest : String → String
  /-- `left.localeCompare(right) <= 0`. -/
  localeLe : String → String → Bool
  locale_trans : ∀ a b c, localeLe a b = true → localeLe b c = true → localeLe a c = true
  locale_total : ∀ a b, (localeLe a b || localeLe b a) = true

/-- What a name of an object stands for: a property of its own, or a member of every object. -/
inductive ObjectMember (α : Type) where
  | own (value : α)
  | inherited

def member? {α : Type} (object : Table String α) (name : String) : Option (ObjectMember α) :=
  match object.get? name with
  | some value => some (.own value)
  | none => if Json.objectMembers.contains name then some .inherited else none

def defined {α : Type} (object : Table String α) (name : String) : Bool :=
  (member? object name).isSome

/-! ## Contracts -/

inductive CommandArgumentTypeV1 where
  | string
  | integer
  | boolean
deriving DecidableEq

structure CommandArgumentPropertyV1 where
  type : CommandArgumentTypeV1
  description : Option String := none
  minLength : Option Int := none
  maxLength : Option Int := none
  minimum : Option Int := none
  maximum : Option Int := none
  enum : Option (List String) := none

structure CommandArgumentSchemaV1 where
  properties : Table String CommandArgumentPropertyV1
  required : List String
  positional : List String

inductive CommandSourceKindV1 where
  | builtin
  | prompt
  | skill
  | plugin
  | mcp
deriving DecidableEq

structure CommandSourceV1 where
  kind : CommandSourceKindV1
  origin : String
  «namespace» : Option String := none
  digest : String

inductive CommandKindV1 where
  | clientLocal
  | runtimeQuery
  | runtimeMutation
  | promptTemplate
  | skillInvocation
  | workflow
deriving DecidableEq

inductive CommandEffectV1 where
  | none
  | read
  | mutation
  | prompt
  | job
deriving DecidableEq

inductive CommandOutputKindV1 where
  | none
  | uiAction
  | runtimeResult
  | promptEnvelope
  | boundedJob
deriving DecidableEq

structure CommandOutputV1 where
  kind : CommandOutputKindV1
  maxBytes : Int

inductive SessionAvailability where
  | none
  | optional
  | required
deriving DecidableEq

inductive RunAvailability where
  | any
  | idle
  | active
deriving DecidableEq

structure CommandAvailabilityV1 where
  session : SessionAvailability
  run : RunAvailability
  requiresWorkspaceTrust : Bool

inductive PromptPersistence where
  | plaintext
  | redacted
  | digest
  | none
deriving DecidableEq

structure CommandDescriptorV1 where
  id : String
  command : String
  aliases : List String
  title : String
  description : String
  usage : String
  kind : CommandKindV1
  schema : CommandArgumentSchemaV1
  source : CommandSourceV1
  effect : CommandEffectV1
  capabilities : List String
  availability : CommandAvailabilityV1
  output : CommandOutputV1
  sensitiveArguments : List String
  persistence : PromptPersistence
  descriptorDigest : String

/-! ## Names -/

def maxDescriptorBytes : Nat := 32 * 1024

/-- A lower-case letter or a digit. -/
def isLowerOrDigit (c : Char) : Bool := isLower c || c.isDigit

/-- `SAFE_ID`: a name, a colon, and a path. -/
def isDescriptorId (value : String) : Bool :=
  match (chars value).span (· != ':') with
  | (front, ':' :: back) =>
    matchesName isLower (fun c => isLowerOrDigit c || c == '.' || c == '-') front.length front &&
      matchesName isLowerOrDigit
        (fun c => isLowerOrDigit c || c == '.' || c == '_' || c == '/' || c == '-') 127 back
  | _ => false

def isSafeCommandChars (value : List Char) : Bool :=
  matchesName isLower (fun c => isLowerOrDigit c || c == '-') 47 value

def isSafeCommand (value : String) : Bool := isSafeCommandChars (chars value)

def isSafeNamespaceChars (value : List Char) : Bool :=
  matchesName isLowerOrDigit (fun c => isLowerOrDigit c || c == '.' || c == '_' || c == '-') 63 value

def isSafeNamespace (value : String) : Bool := isSafeNamespaceChars (chars value)

def isSafeCapability (value : String) : Bool :=
  matchesName isLower
    (fun c => isLowerOrDigit c || c == '.' || c == '_' || c == ':' || c == '-') 95 (chars value)

def isSafeArgumentChars (value : List Char) : Bool :=
  matchesName isLower (fun c => c.isAlphanum || c == '_') 63 value

def isSafeArgument (value : String) : Bool := isSafeArgumentChars (chars value)

/-- A command of its own, or one of a prompt, a skill, a plugin or an MCP server. -/
def isSafeQualifiedCommand (value : String) : Bool :=
  isSafeCommand value ||
    match value.toList.span (· != ':') with
    | (kind, ':' :: rest) =>
      ((kind == "prompt".toList || kind == "skill".toList) && isSafeNamespaceChars rest) ||
        ((kind == "plugin".toList || kind == "mcp".toList) &&
          match rest.span (· != '/') with
          | (name, '/' :: command) => isSafeNamespaceChars name && isSafeCommandChars command
          | _ => false)
    | _ => false

/-- A text without control characters other than tabs and line ends. -/
def boundedText (value : String) (maxBytes : Nat) : Bool :=
  !value.isEmpty && decide (value.utf8ByteSize ≤ maxBytes) &&
    value.toList.all fun c =>
      c.toNat == 9 || c.toNat == 10 || c.toNat == 13 || (decide (32 ≤ c.toNat) && c.toNat != 127)

def boundedOrigin (value : String) : Bool :=
  boundedText value 512 && !(chars value).any fun c => c == '\r' || c == '\n'

def isSafeInteger (value : Int) : Bool := decide (-maxSafeInteger ≤ value ∧ value ≤ maxSafeInteger)

def boundedInteger (value minimum maximum : Int) : Bool :=
  isSafeInteger value && decide (minimum ≤ value) && decide (value ≤ maximum)

def argumentFromPointer (value : String) : Option String :=
  match chars value with
  | '/' :: name => if isSafeArgumentChars name then some (String.ofList name) else none
  | _ => none

def validProperty (input : CommandArgumentPropertyV1) : Bool :=
  input.description.all (boundedText · 256) &&
  input.minLength.all (boundedInteger · 0 32_768) &&
  input.maxLength.all (boundedInteger · 1 32_768) &&
  input.minimum.all isSafeInteger && input.maximum.all isSafeInteger &&
  (input.enum.all fun values => decide (1 ≤ values.length) && decide (values.length ≤ 64) &&
    (values.all (boundedText · 256)) && decide values.Nodup) &&
  (input.type == .string ||
    (input.minLength.isNone && input.maxLength.isNone && input.enum.isNone)) &&
  (input.type == .integer || (input.minimum.isNone && input.maximum.isNone)) &&
  (input.minLength.all fun least => input.maxLength.all fun most => decide (least ≤ most)) &&
  (input.minimum.all fun least => input.maximum.all fun most => decide (least ≤ most))

def canonicalProperty (input : CommandArgumentPropertyV1) :
    Except String CommandArgumentPropertyV1 := do
  ensure (validProperty input) "COMMAND_DESCRIPTOR_INVALID"
  return { input with enum := input.enum.map sortTexts }

/-! ## Schemas -/

/-- The check of a property and of its name. -/
def canonicalEntry (entry : String × CommandArgumentPropertyV1) :
    Except String (String × CommandArgumentPropertyV1) := do
  ensure (isSafeArgument entry.1) "COMMAND_DESCRIPTOR_INVALID"
  let property ← canonicalProperty entry.2
  return (entry.1, property)

/-- A required argument comes after one that is not. -/
def requiredAfterOptional (positional required : List String) : Bool :=
  match positional with
  | [] => false
  | name :: rest =>
    if required.contains name then requiredAfterOptional rest required
    else rest.any required.contains

/-- `Object.fromEntries`: a later entry replaces the value of an earlier one. -/
def fromEntries {α : Type} (entries : List (String × α)) : Table String α :=
  entries.foldl (fun table entry => table.upsert entry.1 entry.2) .empty

section

variable (platform : CommandPlatform)

def entryLe (left right : String × CommandArgumentPropertyV1) : Bool :=
  platform.localeLe left.1 right.1

def canonicalSchema (input : CommandArgumentSchemaV1) : Except String CommandArgumentSchemaV1 := do
  ensure (decide (input.properties.rows.length ≤ 16) && input.required.all isSafeArgument &&
    decide input.required.Nodup && input.positional.all isSafeArgument &&
    decide input.positional.Nodup) "COMMAND_DESCRIPTOR_INVALID"
  let entries ← (input.properties.rows.mergeSort (entryLe platform)).mapM canonicalEntry
  let properties := fromEntries entries
  ensure (input.required.all (defined properties) && input.positional.all (defined properties) &&
    !requiredAfterOptional input.positional input.required) "COMMAND_DESCRIPTOR_INVALID"
  return {
    properties
    required := sortTexts input.required
    positional := input.positional }

/-! ## Descriptors -/

def canonicalSource (input : CommandSourceV1) : Except String CommandSourceV1 := do
  ensure (boundedOrigin input.origin && isSha256 input.digest &&
    (if input.kind = .builtin then input.namespace.isNone
     else input.namespace.any isSafeNamespace)) "COMMAND_DESCRIPTOR_INVALID"
  return input

def canonicalAvailability (input : CommandAvailabilityV1) : Except String CommandAvailabilityV1 := do
  ensure (!(input.session == .none && input.run != .any)) "COMMAND_DESCRIPTOR_INVALID"
  return input

def canonicalOutput (input : CommandOutputV1) : Except String CommandOutputV1 := do
  ensure (boundedInteger input.maxBytes 0 (1024 * 1024) &&
    (if input.kind = .none then input.maxBytes == 0 else decide (1 ≤ input.maxBytes)))
    "COMMAND_DESCRIPTOR_INVALID"
  return input

def kindMatchesSource (kind : CommandKindV1) (source : CommandSourceKindV1) : Bool :=
  if kind = .clientLocal then source == .builtin
  else
    match source with
    | .prompt => kind == .promptTemplate
    | .skill => kind == .skillInvocation
    | .plugin | .mcp => kind == .workflow
    | .builtin => true

def kindMatchesEffectAndOutput (kind : CommandKindV1) (effect : CommandEffectV1)
    (output : CommandOutputKindV1) : Bool :=
  match kind with
  | .clientLocal => effect == .none && [.none, .uiAction].contains output
  | .runtimeQuery => effect == .read && [.runtimeResult, .uiAction].contains output
  | .runtimeMutation => effect == .mutation && [.none, .runtimeResult, .uiAction].contains output
  | .promptTemplate | .skillInvocation => effect == .prompt && output == .promptEnvelope
  | .workflow => effect == .job && output == .boundedJob

def CommandSourceKindV1.text : CommandSourceKindV1 → String
  | .builtin => "builtin"
  | .prompt => "prompt"
  | .skill => "skill"
  | .plugin => "plugin"
  | .mcp => "mcp"

def commandMatchesSource (command : String) (source : CommandSourceV1) : Bool :=
  let qualified := source.kind.text ++ ":" ++ source.namespace.getD "undefined"
  match source.kind with
  | .builtin => isSafeCommand command
  | .prompt | .skill => command == qualified
  | .plugin | .mcp =>
    let front := (qualified ++ "/").toList
    front.isPrefixOf command.toList && isSafeCommandChars (command.toList.drop front.length)

/-- What `canonicalDescriptor` checks before it looks at the parts. -/
def validDescriptor (input : CommandDescriptorV1) : Bool :=
  isDescriptorId input.id && isSafeQualifiedCommand input.command &&
  input.aliases.all isSafeCommand && decide input.aliases.Nodup && boundedText input.title 128 &&
  boundedText input.description 1_024 && boundedText input.usage 256 &&
  input.capabilities.all isSafeCapability && decide input.capabilities.Nodup &&
  decide input.sensitiveArguments.Nodup

/-- What it checks of the parts together. -/
def validParts (input : CommandDescriptorV1) (schema : CommandArgumentSchemaV1)
    (source : CommandSourceV1) (output : CommandOutputV1) : Bool :=
  (input.sensitiveArguments.all fun pointer =>
    (argumentFromPointer pointer).any (defined schema.properties)) &&
  (input.sensitiveArguments.isEmpty || input.persistence != .plaintext) &&
  kindMatchesSource input.kind source.kind &&
  kindMatchesEffectAndOutput input.kind input.effect output.kind &&
  commandMatchesSource input.command source

def canonicalDescriptor (input : CommandDescriptorV1) : Except String CommandDescriptorV1 := do
  ensure (validDescriptor input) "COMMAND_DESCRIPTOR_INVALID"
  let schema ← canonicalSchema platform input.schema
  let source ← canonicalSource input.source
  let availability ← canonicalAvailability input.availability
  let output ← canonicalOutput input.output
  ensure (validParts input schema source output) "COMMAND_DESCRIPTOR_INVALID"
  return { input with
    aliases := sortTexts input.aliases
    schema
    source
    capabilities := sortTexts input.capabilities
    availability
    output
    sensitiveArguments := sortTexts input.sensitiveArguments }

/-! ## The JSON text of a descriptor -/

def texts (values : List String) : Json := .arr (values.map .str)

def CommandArgumentTypeV1.text : CommandArgumentTypeV1 → String
  | .string => "string"
  | .integer => "integer"
  | .boolean => "boolean"

def CommandArgumentPropertyV1.json (property : CommandArgumentPropertyV1) : Json :=
  .obj ([("type", Json.str property.type.text)] ++
    Json.field "description" (property.description.map .str) ++
    Json.field "minLength" (property.minLength.map .num) ++
    Json.field "maxLength" (property.maxLength.map .num) ++
    Json.field "minimum" (property.minimum.map .num) ++
    Json.field "maximum" (property.maximum.map .num) ++ Json.field "enum" (property.enum.map texts))

def CommandArgumentSchemaV1.json (schema : CommandArgumentSchemaV1) : Json :=
  .obj [("type", .str "object"), ("additionalProperties", .bool false),
    ("properties", .obj (schema.properties.rows.map fun row => (row.1, row.2.json))),
    ("required", texts schema.required), ("positional", texts schema.positional)]

def CommandSourceV1.json (source : CommandSourceV1) : Json :=
  .obj ([("kind", Json.str source.kind.text), ("origin", .str source.origin)] ++
    Json.field "namespace" (source.namespace.map .str) ++ [("digest", Json.str source.digest)])

def CommandKindV1.text : CommandKindV1 → String
  | .clientLocal => "client_local"
  | .runtimeQuery => "runtime_query"
  | .runtimeMutation => "runtime_mutation"
  | .promptTemplate => "prompt_template"
  | .skillInvocation => "skill_invocation"
  | .workflow => "workflow"

def CommandEffectV1.text : CommandEffectV1 → String
  | .none => "none"
  | .read => "read"
  | .mutation => "mutation"
  | .prompt => "prompt"
  | .job => "job"

def CommandOutputKindV1.text : CommandOutputKindV1 → String
  | .none => "none"
  | .uiAction => "ui_action"
  | .runtimeResult => "runtime_result"
  | .promptEnvelope => "prompt_envelope"
  | .boundedJob => "bounded_job"

def SessionAvailability.text : SessionAvailability → String
  | .none => "none"
  | .optional => "optional"
  | .required => "required"

def RunAvailability.text : RunAvailability → String
  | .any => "any"
  | .idle => "idle"
  | .active => "active"

def PromptPersistence.text : PromptPersistence → String
  | .plaintext => "plaintext"
  | .redacted => "redacted"
  | .digest => "digest"
  | .none => "none"

/-- The fields without the digest. -/
def CommandDescriptorV1.fields (descriptor : CommandDescriptorV1) : List (String × Json) :=
  [("schemaVersion", .num 1), ("id", .str descriptor.id), ("command", .str descriptor.command),
    ("aliases", texts descriptor.aliases), ("title", .str descriptor.title),
    ("description", .str descriptor.description), ("usage", .str descriptor.usage),
    ("kind", .str descriptor.kind.text), ("schema", descriptor.schema.json),
    ("source", descriptor.source.json), ("effect", .str descriptor.effect.text),
    ("capabilities", texts descriptor.capabilities),
    ("availability", .obj [("session", .str descriptor.availability.session.text),
      ("run", .str descriptor.availability.run.text),
      ("requiresWorkspaceTrust", .bool descriptor.availability.requiresWorkspaceTrust)]),
    ("output", .obj [("kind", .str descriptor.output.kind.text),
      ("maxBytes", .num descriptor.output.maxBytes)]),
    ("sensitiveArguments", texts descriptor.sensitiveArguments),
    ("persistence", .str descriptor.persistence.text)]

def CommandDescriptorV1.json (descriptor : CommandDescriptorV1) : Json :=
  .obj (descriptor.fields ++ [("descriptorDigest", Json.str descriptor.descriptorDigest)])

def descriptorDigestFor (descriptor : CommandDescriptorV1) : String :=
  platform.digest (Json.obj descriptor.fields).stringify

def validateCommandDescriptorV1 (input : CommandDescriptorV1) :
    Except String CommandDescriptorV1 := do
  let descriptor ← canonicalDescriptor platform input
  ensure (isSha256 input.descriptorDigest &&
    input.descriptorDigest == descriptorDigestFor platform descriptor &&
    decide (descriptor.json.stringify.utf8ByteSize ≤ maxDescriptorBytes))
    "COMMAND_DESCRIPTOR_INVALID"
  return descriptor

end

/-! ## Sorted properties -/

section Entries

variable {α : Type} {entries other : List (String × α)}

theorem foldl_upsert (entries : List (String × α)) (table : Table String α)
    (fresh : ((table.rows ++ entries).map Prod.fst).Nodup) :
    (entries.foldl (fun table entry => table.upsert entry.1 entry.2) table).rows =
      table.rows ++ entries := by
  induction entries generalizing table with
  | nil => simp
  | cons entry rest ih =>
    have absent : entry.1 ∉ table.rows.map Prod.fst := by
      rw [List.map_append, List.nodup_append] at fresh
      intro present
      exact fresh.2.2 entry.1 present entry.1 (by simp) rfl
    have inserted : (table.upsert entry.1 entry.2).rows = table.rows ++ [entry] := by
      simp [Table.upsert, Table.insert, absent]
    rw [List.foldl_cons, ih, inserted, List.append_assoc, List.singleton_append]
    rwa [inserted, List.append_assoc, List.singleton_append]

theorem rows_fromEntries (unique : (entries.map Prod.fst).Nodup) :
    (fromEntries entries).rows = entries := by
  have rows := foldl_upsert entries .empty (by simpa [Table.empty] using unique)
  simpa [Table.empty, fromEntries] using rows

theorem defined_iff {table : Table String α} {name : String} :
    defined table name = true ↔
      name ∈ table.rows.map Prod.fst ∨ Json.objectMembers.contains name = true := by
  unfold defined member?
  cases found : table.get? name with
  | none =>
    rw [Table.get?_eq_none_iff] at found
    constructor
    · intro known
      split_ifs at known with inherited
      · exact .inr inherited
      · cases known
    · rintro (listed | inherited)
      · exact absurd listed found
      · rw [if_pos inherited, Option.isSome_some]
  | some value =>
    have member := table.mem_rows_iff.mpr found
    simp only [Option.isSome_some, true_iff]
    exact .inl (List.mem_map_of_mem member)

end Entries

/-! ## A canonical form is canonical -/

section Canonical

variable {platform : CommandPlatform} {input descriptor : CommandDescriptorV1}

theorem validProperty_sorted (input : CommandArgumentPropertyV1) :
    validProperty { input with enum := input.enum.map sortTexts } = validProperty input := by
  cases values : input.enum <;> simp [validProperty, values]

theorem canonicalProperty_again {input property : CommandArgumentPropertyV1}
    (accepted : canonicalProperty input = .ok property) :
    canonicalProperty property = .ok property := by
  simp only [canonicalProperty, bind_eq_ok, ensure_eq_ok, pure_eq_ok, exists_const] at accepted ⊢
  obtain ⟨valid, rfl⟩ := accepted
  refine ⟨(validProperty_sorted input).trans valid, ?_⟩
  cases input.enum <;> simp

theorem canonicalEntry_again {entry canonical : String × CommandArgumentPropertyV1}
    (accepted : canonicalEntry entry = .ok canonical) :
    canonical.1 = entry.1 ∧ canonicalEntry canonical = .ok canonical := by
  simp only [canonicalEntry, bind_eq_ok, ensure_eq_ok, pure_eq_ok, exists_const] at accepted ⊢
  obtain ⟨safe, property, checked, rfl⟩ := accepted
  exact ⟨rfl, safe, property, canonicalProperty_again checked, rfl⟩

theorem canonicalEntries_again {entries canonical : List (String × CommandArgumentPropertyV1)}
    (accepted : entries.mapM canonicalEntry = .ok canonical) :
    canonical.map Prod.fst = entries.map Prod.fst ∧
      canonical.mapM canonicalEntry = .ok canonical := by
  have each := mapM_eq_ok.mp accepted
  clear accepted
  rw [mapM_eq_ok]
  induction each with
  | nil => exact ⟨rfl, .nil⟩
  | cons first _ ih =>
    obtain ⟨name, again⟩ := canonicalEntry_again first
    refine ⟨?_, .cons again ih.2⟩
    rw [List.map_cons, List.map_cons, name, ih.1]

theorem mergeSort_entries {sorted entries : List (String × CommandArgumentPropertyV1)}
    (order : sorted.Pairwise fun left right => entryLe platform left right = true)
    (names : entries.map Prod.fst = sorted.map Prod.fst) :
    entries.mergeSort (entryLe platform) = entries := by
  refine List.mergeSort_of_pairwise ?_
  have byName : (sorted.map Prod.fst).Pairwise fun left right => platform.localeLe left right = true :=
    List.pairwise_map.mpr order
  rw [← names] at byName
  exact List.pairwise_map.mp byName

theorem pairwise_entries (entries : List (String × CommandArgumentPropertyV1)) :
    (entries.mergeSort (entryLe platform)).Pairwise fun left right =>
      entryLe platform left right = true := by
  apply List.pairwise_mergeSort
  · intro a b c
    exact platform.locale_trans a.1 b.1 c.1
  · intro a b
    exact platform.locale_total a.1 b.1

theorem requiredAfterOptional_sorted (positional required : List String) :
    requiredAfterOptional positional (sortTexts required) =
      requiredAfterOptional positional required := by
  induction positional with
  | nil => rfl
  | cons name rest ih =>
    have same : (sortTexts required).contains = required.contains :=
      funext (contains_sortTexts required)
    simp only [requiredAfterOptional, contains_sortTexts, same, ih]

theorem canonicalSchema_again {input schema : CommandArgumentSchemaV1}
    (accepted : canonicalSchema platform input = .ok schema) :
    canonicalSchema platform schema = .ok schema := by
  simp only [canonicalSchema, bind_eq_ok, ensure_eq_ok, pure_eq_ok, exists_const,
    Bool.and_eq_true] at accepted
  obtain ⟨⟨⟨⟨⟨few, required⟩, once⟩, positional⟩, once'⟩, entries, checked, ⟨⟨known, known'⟩, order⟩,
    rfl⟩ := accepted
  obtain ⟨names, again⟩ := canonicalEntries_again checked
  have perm := List.mergeSort_perm input.properties.rows (entryLe platform)
  have unique : (entries.map Prod.fst).Nodup := by
    rw [names]
    exact ((perm.map Prod.fst).nodup_iff).mpr input.properties.unique
  have rows := rows_fromEntries unique
  have length : entries.length = input.properties.rows.length := by
    have same := congrArg List.length names
    rw [List.length_map, List.length_map, perm.length_eq] at same
    exact same
  have sorted : entries.mergeSort (entryLe platform) = entries :=
    mergeSort_entries (pairwise_entries input.properties.rows) names
  simp only [canonicalSchema, bind_eq_ok, ensure_eq_ok, pure_eq_ok, exists_const,
    Bool.and_eq_true, rows, sorted, again, all_sortTexts, nodup_sortTexts, sortTexts_sortTexts,
    requiredAfterOptional_sorted, length]
  exact ⟨⟨⟨⟨⟨few, required⟩, once⟩, positional⟩, once'⟩, entries, rfl, ⟨⟨known, known'⟩, order⟩, rfl⟩

theorem canonicalSource_ok {input source : CommandSourceV1}
    (accepted : canonicalSource input = .ok source) : source = input :=
  check_returns accepted

theorem canonicalAvailability_ok {input availability : CommandAvailabilityV1}
    (accepted : canonicalAvailability input = .ok availability) : availability = input :=
  check_returns accepted

theorem canonicalOutput_ok {input output : CommandOutputV1}
    (accepted : canonicalOutput input = .ok output) : output = input :=
  check_returns accepted

theorem canonicalDescriptor_again (accepted : canonicalDescriptor platform input = .ok descriptor) :
    descriptor.descriptorDigest = input.descriptorDigest ∧
      canonicalDescriptor platform descriptor = .ok descriptor := by
  simp only [canonicalDescriptor, bind_eq_ok, ensure_eq_ok, pure_eq_ok, exists_const] at accepted
  obtain ⟨valid, schema, ofSchema, source, ofSource, availability, ofAvailability, output, ofOutput,
    parts, rfl⟩ := accepted
  refine ⟨rfl, ?_⟩
  obtain rfl := canonicalSource_ok ofSource
  obtain rfl := canonicalAvailability_ok ofAvailability
  obtain rfl := canonicalOutput_ok ofOutput
  have schema' := canonicalSchema_again ofSchema
  simp only [canonicalDescriptor, bind_eq_ok, ensure_eq_ok, pure_eq_ok, exists_const, schema',
    ofSource, ofAvailability, ofOutput, sortTexts_sortTexts, Except.ok.injEq, exists_eq_left']
  refine ⟨?_, ?_, trivial⟩
  · simpa [validDescriptor] using valid
  · have none : (sortTexts input.sensitiveArguments).isEmpty = input.sensitiveArguments.isEmpty := by
      rw [Bool.eq_iff_iff, List.isEmpty_iff_length_eq_zero, List.isEmpty_iff_length_eq_zero,
        length_sortTexts]
    simpa only [validParts, all_sortTexts, none] using parts

/-- **A validated descriptor is validated as it stands.** -/
theorem validateCommandDescriptorV1_again
    (accepted : validateCommandDescriptorV1 platform input = .ok descriptor) :
    validateCommandDescriptorV1 platform descriptor = .ok descriptor := by
  simp only [validateCommandDescriptorV1, bind_eq_ok, ensure_eq_ok, pure_eq_ok,
    exists_const] at accepted ⊢
  obtain ⟨descriptor, canonical, checks, rfl⟩ := accepted
  obtain ⟨digest, again⟩ := canonicalDescriptor_again canonical
  exact ⟨descriptor, again, digest ▸ checks, rfl⟩

/-- What a descriptor that is validated as it stands satisfies. -/
structure ValidatedDescriptor (platform : CommandPlatform) (descriptor : CommandDescriptorV1) :
    Prop where
  valid : validDescriptor descriptor = true
  schema : canonicalSchema platform descriptor.schema = .ok descriptor.schema
  output : canonicalOutput descriptor.output = .ok descriptor.output
  parts : validParts descriptor descriptor.schema descriptor.source descriptor.output = true
  digest : isSha256 descriptor.descriptorDigest = true

theorem validatedDescriptor_of
    (validated : validateCommandDescriptorV1 platform descriptor = .ok descriptor) :
    ValidatedDescriptor platform descriptor := by
  simp only [validateCommandDescriptorV1, bind_eq_ok, ensure_eq_ok, pure_eq_ok,
    exists_const, Bool.and_eq_true] at validated
  obtain ⟨canonical, accepted, ⟨⟨digest, _⟩, _⟩, same⟩ := validated
  rw [same] at accepted
  clear same
  simp only [canonicalDescriptor, bind_eq_ok, ensure_eq_ok, pure_eq_ok, exists_const] at accepted
  obtain ⟨valid, schema, ofSchema, source, ofSource, _, _, output, ofOutput, parts, same⟩ := accepted
  have schema' : schema = descriptor.schema := by rw [← same]
  have source' : source = descriptor.source := by rw [← same]
  have output' : output = descriptor.output := by rw [← same]
  rw [schema', source', output'] at parts
  rw [schema'] at ofSchema
  rw [output'] at ofOutput
  exact ⟨valid, ofSchema, ofOutput, parts, digest⟩

theorem ValidatedDescriptor.job
    (validated : ValidatedDescriptor platform descriptor) (workflow : descriptor.kind = .workflow) :
    boundedInteger descriptor.output.maxBytes 1 (1024 * 1024) = true := by
  have parts := validated.parts
  simp only [validParts, Bool.and_eq_true, workflow, kindMatchesEffectAndOutput, beq_iff_eq] at parts
  have some : descriptor.output.kind ≠ .none := by
    rw [parts.1.2.2]
    decide
  have output := validated.output
  simp only [canonicalOutput, bind_eq_ok, ensure_eq_ok, exists_const, Bool.and_eq_true,
    if_neg some, boundedInteger, decide_eq_true_eq] at output
  simp only [boundedInteger, Bool.and_eq_true, decide_eq_true_eq]
  exact ⟨⟨output.1.1.1.1, output.1.2⟩, output.1.1.2⟩

theorem canonicalSchema_names {schema : CommandArgumentSchemaV1}
    (canonical : canonicalSchema platform schema = .ok schema) :
    schema.properties.rows.length ≤ 16 ∧
      ∀ row ∈ schema.properties.rows, isSafeArgument row.1 = true := by
  simp only [canonicalSchema, bind_eq_ok, ensure_eq_ok, pure_eq_ok, exists_const,
    Bool.and_eq_true, decide_eq_true_eq] at canonical
  obtain ⟨⟨⟨⟨⟨few, _⟩, _⟩, _⟩, _⟩, entries, checked, _, _⟩ := canonical
  refine ⟨few, fun row member => ?_⟩
  have listed : row ∈ schema.properties.rows.mergeSort (entryLe platform) :=
    List.mem_mergeSort.mpr member
  obtain ⟨result, _, accepted⟩ := mapM_accepts checked listed
  simp only [canonicalEntry, bind_eq_ok, ensure_eq_ok, exists_const] at accepted
  exact accepted.1

end Canonical

end Praxis.Commands
