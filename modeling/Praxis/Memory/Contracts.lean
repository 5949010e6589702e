import Praxis.Foundations.Fallible
import Praxis.Foundations.SourceText
import Praxis.Foundations.Table
import Praxis.Foundations.Timestamp

/-!
# Contracts of the long-term memory

The data of the local memory store: projects with their mode, memories under an owner and a key,
receipts of the operations, and which session was shown which memory. Reading the clock gives an
instant, whose canonical text is what the columns of the store hold.
-/

namespace Praxis.Memory

set_option autoImplicit false

open Praxis.Foundations

/-! ## Errors -/

/-- A rejection, as `fail` throws it. -/
structure MemoryError where
  code : String
  message : String

def unknownProject : MemoryError := ⟨"MEMORY_SCOPE_DENIED", "Unknown memory project."⟩

def accessDisabled : MemoryError :=
  ⟨"MEMORY_DISABLED", "Memory access is disabled or read-only."⟩

def userScopeDenied : MemoryError :=
  ⟨"MEMORY_SCOPE_DENIED",
    "User memory requires a project read grant; use management commands to change it."⟩

def contextRevoked : MemoryError :=
  ⟨"MEMORY_CONTEXT_REVOKED", "Memory used by this session was revoked. Start a new session; old transcripts and sent requests were not erased."⟩

def memoryAbsent : MemoryError :=
  ⟨"MEMORY_NOT_FOUND", "Memory is absent, expired or outside the permitted scope."⟩

def forgottenAbsent : MemoryError :=
  ⟨"MEMORY_NOT_FOUND", "Memory is absent or outside the permitted scope."⟩

def editConflict : MemoryError :=
  ⟨"MEMORY_CONFLICT", "Memory changed. Read its current revision before editing."⟩

def deleteConflict : MemoryError :=
  ⟨"MEMORY_CONFLICT", "Memory changed. Read its current revision before deleting."⟩

def capacityReached : MemoryError :=
  ⟨"MEMORY_CAPACITY", "Local scope limit is 2000 records; remove obsolete memories first."⟩

def operationConflict : MemoryError :=
  ⟨"MEMORY_OPERATION_CONFLICT", "Operation ID was already used for a different request."⟩

def importConflict : MemoryError :=
  ⟨"MEMORY_OPERATION_CONFLICT", "Import operation ID was used for a different batch."⟩

def invalidInput (message : String) : MemoryError := ⟨"MEMORY_INPUT_INVALID", message⟩

def secretRejected : MemoryError :=
  ⟨"MEMORY_SECRET_REJECTED", "Potential secret detected; use the credential store instead."⟩

/-! ## Data -/

inductive MemoryModeV1 where
  | off
  | readOnly
  | explicit
deriving DecidableEq

inductive MemoryScopeV1 where
  | project
  | user
deriving DecidableEq

inductive MemoryKindV1 where
  | preference
  | feedback
  | decision
  | reference
  | experience
deriving DecidableEq

/-- A project, without its id. -/
structure MemoryProjectV1 where
  root : String
  mode : MemoryModeV1
  userAccess : Bool

structure MemoryWriteV1 where
  key : String
  kind : MemoryKindV1
  content : String
  applicability : Option String := none
  expiresAt : Option Timestamp := none
  expectedRevision : Int
deriving DecidableEq

/-- Who wrote a record, if the caller said so. -/
structure MemorySourceV1 where
  sessionId : Option String := none
  runId : Option String := none
  promptId : Option String := none
deriving DecidableEq

structure LongTermMemoryV1 where
  id : String
  revision : Int
  scope : MemoryScopeV1
  projectId : Option String := none
  key : String
  kind : MemoryKindV1
  content : String
  applicability : String
  source : MemorySourceV1
  createdAt : Timestamp
  updatedAt : Timestamp
  expiresAt : Option Timestamp := none
deriving DecidableEq

inductive MemoryActionV1 where
  | upsert
  | forget

structure MemoryReceiptV1 where
  operationId : String
  id : String
  revision : Int
  action : MemoryActionV1

structure MemoryAccessV1 where
  projectId : String
  sessionId : Option String := none
  runId : Option String := none
  promptId : Option String := none
  host : Bool := false
deriving DecidableEq

/-- A text that a truth test lets through: an empty one is none. -/
def given (value : Option String) : Option String := value.filter fun text => !text.isEmpty

def MemoryAccessV1.session? (access : MemoryAccessV1) : Option String := given access.sessionId

/-- A row of `memories`, under its id. -/
structure MemoryRow where
  owner : String
  key : String
  revision : Int
  document : LongTermMemoryV1
  expires : Option Timestamp
deriving DecidableEq

/-- What a digest is taken of. -/
inductive MemoryRequestV1 where
  | upsert (owner : String) (input : MemoryWriteV1) (source : MemoryAccessV1)
  | forget (owner id : String) (expectedRevision : Int)
  | importBatch (owner : String) (memories : List MemoryWriteV1)
deriving DecidableEq

/-- An exposure: a session was shown a memory through a project. -/
structure MemoryExposure where
  sessionId : String
  projectId : String
  memoryId : String
deriving DecidableEq

/-- The tables of the store. -/
structure MemoryStore (Digest : Type) where
  projects : Table String MemoryProjectV1 := Table.empty
  memories : Table String MemoryRow := Table.empty
  receipts : Table String (Digest × MemoryReceiptV1) := Table.empty
  importBatches : Table String (Digest × List MemoryReceiptV1) := Table.empty
  tombstones : List (String × String) := []
  exposures : Table MemoryExposure Int := Table.empty
  blockedSessions : List String := []

/-- What the model leaves open: SHA-256 of the canonical JSON of a request, the texts that the
regular expressions of the service match, and the order of `localeCompare`. -/
structure MemoryRules (Digest : Type) where
  hash : MemoryRequestV1 → Digest
  /-- Different requests have different digests. -/
  hash_injective : Function.Injective hash
  /-- `toLocaleLowerCase()`. -/
  lowerCase : String → String
  /-- The words of a query that has been put in lower case. -/
  queryWords : String → List String
  localeCompare : String → String → Ordering
  /-- The pattern of private keys, tokens and passwords. -/
  holdsSecret : String → Bool

/-! ## The clock -/

/-- The reading of the clock as a canonical timestamp. -/
def stamp (now : Int) : Timestamp := ⟨isoText now, some now⟩

def MemoryRow.expired (row : MemoryRow) (now : Int) : Bool :=
  row.expires.any fun expires => expires.parsed.any fun instant => decide (instant ≤ now)

end Praxis.Memory
