import Praxis.Commands.Descriptors

/-!
# Command catalogs

The snapshot of a registry, as a client gets it: the descriptors of an owner that the workspace's
capabilities and trust admit, with the aliases that are free. `validateCommandCatalogSnapshotV1`
checks every descriptor again, so that the descriptors of a snapshot that it returns are validated
(`validateCommandCatalogSnapshotV1_descriptors`).
-/

namespace Praxis.Commands

set_option autoImplicit false

open Praxis.Foundations
open Praxis.Workflow (isSha256)

/-! ## Contracts -/

inductive CommandRegistryOwnerV1 where
  | client
  | runtime
deriving DecidableEq

inductive CommandRegistryLayerV1 where
  | builtin
  | workspace
  | extension
deriving DecidableEq

structure CommandCatalogEntryV1 where
  layer : CommandRegistryLayerV1
  descriptor : CommandDescriptorV1
  availableAliases : List String

structure CommandSnapshotInputV1 where
  workspaceId : String
  workspaceTrusted : Bool
  capabilityIds : List String

structure CommandCatalogSnapshotV1 extends CommandSnapshotInputV1 where
  owner : CommandRegistryOwnerV1
  capabilityDigest : String
  entries : List CommandCatalogEntryV1
  snapshotDigest : String

def reservedCommandNames : List String :=
  ["new", "resume", "session", "provider", "login", "logout", "model", "compact", "context", "plan",
    "artifacts", "copy", "export", "doctor"]

/-! ## Layers -/

def layerFor : CommandSourceKindV1 → CommandRegistryLayerV1
  | .builtin => .builtin
  | .prompt | .skill => .workspace
  | .plugin | .mcp => .extension

def CommandRegistryLayerV1.order : CommandRegistryLayerV1 → Nat
  | .builtin => 0
  | .workspace => 1
  | .extension => 2

/-! ## JSON texts -/

def CommandRegistryOwnerV1.text : CommandRegistryOwnerV1 → String
  | .client => "client"
  | .runtime => "runtime"

def CommandRegistryLayerV1.text : CommandRegistryLayerV1 → String
  | .builtin => "builtin"
  | .workspace => "workspace"
  | .extension => "extension"

def CommandSnapshotInputV1.fields (binding : CommandSnapshotInputV1) : List (String × Json) :=
  [("workspaceId", .str binding.workspaceId), ("workspaceTrusted", .bool binding.workspaceTrusted),
    ("capabilityIds", texts binding.capabilityIds)]

def CommandCatalogEntryV1.json (entry : CommandCatalogEntryV1) : Json :=
  .obj [("layer", .str entry.layer.text), ("descriptor", entry.descriptor.json),
    ("availableAliases", texts entry.availableAliases)]

def CommandCatalogSnapshotV1.json (snapshot : CommandCatalogSnapshotV1) : Json :=
  .obj ([("schemaVersion", Json.num 1), ("owner", .str snapshot.owner.text)] ++
    snapshot.toCommandSnapshotInputV1.fields ++
    [("capabilityDigest", Json.str snapshot.capabilityDigest),
      ("entries", .arr (snapshot.entries.map (·.json)))])

/-! ## Validation -/

def isSafeWorkspace (value : String) : Bool :=
  matchesName Char.isAlphanum
    (fun c => c.isAlphanum || c == '.' || c == '_' || c == ':' || c == '-') 127 (chars value)

def validBinding (input : CommandSnapshotInputV1) : Bool :=
  isSafeWorkspace input.workspaceId && input.capabilityIds.all isSafeCapability &&
    decide input.capabilityIds.Nodup

def canonicalCapabilityBinding (input : CommandSnapshotInputV1) :
    Except String CommandSnapshotInputV1 := do
  ensure (validBinding input) "COMMAND_CAPABILITY_BINDING_INVALID"
  return { input with capabilityIds := sortTexts input.capabilityIds }

section

variable (platform : CommandPlatform)

def capabilityDigestFor (binding : CommandSnapshotInputV1) : String :=
  platform.digest (Json.obj binding.fields).stringify

def catalogDigestFor (snapshot : CommandCatalogSnapshotV1) : String :=
  platform.digest snapshot.json.stringify

def descriptorLe (left right : CommandDescriptorV1) : Bool :=
  let first := (layerFor left.source.kind).order
  let second := (layerFor right.source.kind).order
  if first = second then platform.localeLe left.command right.command else decide (first < second)

/-- An entry among those before it: its descriptor, its layer and its owner. -/
def validateEntry (owner : CommandRegistryOwnerV1) (binding : CommandSnapshotInputV1)
    (before : List CommandCatalogEntryV1) (value : CommandCatalogEntryV1) :
    Except String (List CommandCatalogEntryV1) := do
  ensure (value.availableAliases.all isSafeCommand && decide value.availableAliases.Nodup)
    "COMMAND_CATALOG_SNAPSHOT_INVALID"
  let descriptor ← validateCommandDescriptorV1 platform value.descriptor
  ensure (value.layer == layerFor descriptor.source.kind &&
    !(before.any fun entry => entry.descriptor.id == descriptor.id) &&
    !(before.any fun entry => entry.descriptor.command == descriptor.command) &&
    ((owner == .client) == (descriptor.kind == .clientLocal)) &&
    value.availableAliases.all descriptor.aliases.contains &&
    !value.availableAliases.any reservedCommandNames.contains &&
    descriptor.capabilities.all binding.capabilityIds.contains &&
    (!descriptor.availability.requiresWorkspaceTrust || binding.workspaceTrusted))
    "COMMAND_CATALOG_SNAPSHOT_INVALID"
  return before ++ [{ value with descriptor }]

/-- The entries stand in the order of their descriptors, and every available alias is one of a
single entry. -/
def entriesInOrder (entries : List CommandCatalogEntryV1) : Bool :=
  (entries.zip (entries.mergeSort fun left right =>
    descriptorLe platform left.descriptor right.descriptor)).all
      (fun pair => pair.1.descriptor.id == pair.2.descriptor.id) &&
  decide (entries.flatMap (·.availableAliases)).Nodup &&
  entries.all fun entry => entry.availableAliases.all fun alias_ =>
    entries.countP (fun candidate => candidate.descriptor.aliases.contains alias_) == 1

def validateCommandCatalogSnapshotV1 (input : CommandCatalogSnapshotV1) :
    Except String CommandCatalogSnapshotV1 := do
  ensure (validBinding input.toCommandSnapshotInputV1 && isSha256 input.capabilityDigest &&
    decide (input.entries.length ≤ 512) && isSha256 input.snapshotDigest)
    "COMMAND_CATALOG_SNAPSHOT_INVALID"
  let binding ← canonicalCapabilityBinding input.toCommandSnapshotInputV1
  ensure (input.capabilityDigest == capabilityDigestFor platform binding)
    "COMMAND_CATALOG_SNAPSHOT_INVALID"
  let entries ← input.entries.foldlM (validateEntry platform input.owner binding) []
  ensure (entriesInOrder platform entries) "COMMAND_CATALOG_SNAPSHOT_INVALID"
  let candidate : CommandCatalogSnapshotV1 :=
    { binding with
      owner := input.owner
      capabilityDigest := input.capabilityDigest
      entries
      snapshotDigest := input.snapshotDigest }
  ensure (input.snapshotDigest == catalogDigestFor platform candidate)
    "COMMAND_CATALOG_SNAPSHOT_INVALID"
  return candidate

variable {platform}

/-- **The descriptors of a validated snapshot are validated as they stand.** -/
theorem validateCommandCatalogSnapshotV1_descriptors {input snapshot : CommandCatalogSnapshotV1}
    (accepted : validateCommandCatalogSnapshotV1 platform input = .ok snapshot) :
    ∀ entry ∈ snapshot.entries,
      validateCommandDescriptorV1 platform entry.descriptor = .ok entry.descriptor := by
  simp only [validateCommandCatalogSnapshotV1, bind_eq_ok, pure_eq_ok] at accepted
  obtain ⟨_, _, binding, _, _, _, entries, checked, _, _, _, _, rfl⟩ := accepted
  refine foldlM_invariant (fun entries : List CommandCatalogEntryV1 => ∀ entry ∈ entries,
    validateCommandDescriptorV1 platform entry.descriptor = .ok entry.descriptor) ?step
    (by simp) checked
  case step =>
    intro before value after holds accepted
    simp only [validateEntry, bind_eq_ok, pure_eq_ok] at accepted
    obtain ⟨_, _, descriptor, validated, _, _, rfl⟩ := accepted
    intro entry member
    rcases List.mem_append.mp member with earlier | new
    · exact holds entry earlier
    · rw [List.mem_singleton.mp new]
      exact validateCommandDescriptorV1_again validated

end

end Praxis.Commands
