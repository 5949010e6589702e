import Praxis.Memory.Contracts

/-!
# The memory service

The operations of the local memory store. Each runs in one transaction: it answers together with
the tables it leaves, or it rejects and the tables stay as they were.
-/

namespace Praxis.Memory

set_option autoImplicit false

open Praxis.Foundations

variable {Digest : Type} [DecidableEq Digest]

/-- `bounded`: not blank unless it may be, not too long, and without a null character. -/
def bounded (value : String) (maximum : Nat) (empty : Bool := false) : Except MemoryError Unit :=
  ensure ((empty || !(trim value).isEmpty) && decide (value.utf8ByteSize ≤ maximum) &&
    !value.toList.contains (Char.ofNat 0)) (invalidInput "Invalid or oversized memory field.")

def keyCharacter (c : Char) : Bool := isAsciiAlphanumeric c || "._:/-".toList.contains c

/-- What the pattern of a key matches. -/
def validKey (key : String) : Bool := matchesName isAsciiAlphanumeric keyCharacter key.length key.toList

def maxSafeInteger : Int := 9_007_199_254_740_991

variable (rules : MemoryRules Digest)

def validateWrite (now : Int) (input : MemoryWriteV1) :
    Except MemoryError Unit := do
  bounded input.key 128
  bounded input.content 4096
  bounded (input.applicability.getD "") 512 true
  ensure (validKey input.key &&
    decide (0 ≤ input.expectedRevision ∧ input.expectedRevision ≤ maxSafeInteger))
    (invalidInput "Invalid memory key, kind or revision.")
  ensure (input.expiresAt.all fun expiresAt => expiresAt.parsed.any fun instant => decide (now < instant))
    (invalidInput "expiresAt must be a future timestamp.")
  ensure (!rules.holdsSecret (input.content ++ "\n" ++ input.applicability.getD "")) secretRejected

namespace MemoryStore

/-! ## Projects and scopes -/

variable (store : MemoryStore Digest)

def status (projectId : String) : Except MemoryError MemoryProjectV1 :=
  orError unknownProject (store.projects.get? projectId)

/-- A project that is seen for the first time: off, and without access to the memories of the
user. -/
def addProject (projectId root : String) :
    Except MemoryError (MemoryProjectV1 × MemoryStore Digest) := do
  let project : MemoryProjectV1 :=
    { root
      mode := .off
      userAccess := false }
  match store.projects.get? projectId with
  | some known => return (known, store)
  | none => return (project, { store with projects := store.projects.upsert projectId project })

def sessionsOf (shown : MemoryExposure → Bool) : List String :=
  ((store.exposures.rows.map (·.1)).filter shown).map (·.sessionId)

/-- `INSERT OR IGNORE INTO blocked_sessions`. -/
def block (sessions : List String) : MemoryStore Digest :=
  { store with
    blockedSessions := sessions.foldl (fun blocked session =>
      if blocked.contains session then blocked else blocked ++ [session]) store.blockedSessions }

def configure (projectId : String) (mode : Option MemoryModeV1)
    (userAccess : Option Bool) : Except MemoryError (MemoryProjectV1 × MemoryStore Digest) := do
  let previous ← store.status projectId
  let withdrawn := (mode == some .off && previous.mode != .off) ||
    (userAccess == some false && previous.userAccess)
  let store := if withdrawn then store.block (store.sessionsOf (·.projectId == projectId)) else store
  let project : MemoryProjectV1 := { previous with
    mode := mode.getD previous.mode
    userAccess := userAccess.getD previous.userAccess }
  return (project, { store with projects := store.projects.upsert projectId project })

def owner (access : MemoryAccessV1) (scope : MemoryScopeV1) (write : Bool) :
    Except MemoryError String := do
  let project ← store.status access.projectId
  ensure (access.host || !(project.mode == .off || (write && project.mode != .explicit)))
    accessDisabled
  ensure (!(scope == .user && !access.host && (!project.userAccess || write))) userScopeDenied
  return if scope = .user then "user:local" else access.projectId

/-- The session was shown a memory that has expired by the texts of the column and the clock. -/
def showsExpired (now : Int) (sessionId : String) : Bool :=
  (store.exposures.rows.map (·.1)).any fun exposure =>
    exposure.sessionId == sessionId && (store.memories.get? exposure.memoryId).any fun row =>
      row.expires.any (·.textLe (stamp now))

def assertSession (now : Int) (sessionId : String) :
    Except MemoryError Unit :=
  ensure (!store.showsExpired now sessionId && !store.blockedSessions.contains sessionId)
    contextRevoked

/-- `INSERT OR IGNORE INTO exposures`. -/
def inheritExposure (child : String) (exposures : Table MemoryExposure Int)
    (row : MemoryExposure × Int) : Table MemoryExposure Int :=
  (exposures.insert { row.1 with sessionId := child } row.2).getD exposures

def inheritSession (parent child : String) : MemoryStore Digest :=
  let inherited := store.exposures.rows.filter fun row => row.1.sessionId == parent
  let exposed : MemoryStore Digest := { store with
    exposures := inherited.foldl (inheritExposure child) store.exposures }
  if store.blockedSessions.contains parent then exposed.block [child] else exposed

/-- The session of the access, if it carries one, was shown the record. -/
def expose (now : Int) (access : MemoryAccessV1) (record : LongTermMemoryV1) :
    Except MemoryError (MemoryStore Digest) :=
  match access.session? with
  | none => .ok store
  | some sessionId => do
      store.assertSession now sessionId
      return { store with
        exposures := store.exposures.upsert
          { sessionId
            projectId := access.projectId
            memoryId := record.id } record.revision }

/-! ## Reading -/

def get (now : Int) (access : MemoryAccessV1) (scope : MemoryScopeV1)
    (id : String) : Except MemoryError (LongTermMemoryV1 × MemoryStore Digest) := do
  let owner ← store.owner access scope false
  let row ← orError memoryAbsent ((store.memories.get? id).filter fun row =>
    row.owner == owner && !row.expired now)
  let store ← store.expose now access row.document
  return (row.document, store)

/-- How many of the words occur in a record. -/
def score (terms : List String) (record : LongTermMemoryV1) : Nat :=
  let haystack := rules.lowerCase (record.key ++ " " ++ record.content ++ " " ++ record.applicability)
  terms.countP fun term => decide (term.toList <:+: haystack.toList)

/-- The records that answer a query, best first. -/
def rank (query : String) (limit : Nat) (records : List LongTermMemoryV1) :
    List LongTermMemoryV1 :=
  let terms := (rules.queryWords (rules.lowerCase query)).eraseDups
  let scored := records.map fun record => (record, score rules terms record)
  let found := scored.filter fun entry =>
    terms.isEmpty || decide (0 < entry.2) || entry.1.kind == .preference || entry.1.kind == .feedback
  let ordered := found.mergeSort fun left right =>
    decide (right.2 < left.2) ||
      (left.2 == right.2 && rules.localeCompare left.1.id right.1.id != .gt)
  (ordered.take limit).map (·.1)

def search (store : MemoryStore Digest) (now : Int) (access : MemoryAccessV1)
    (scope : MemoryScopeV1) (query : String) (limit : Int) :
    Except MemoryError (List LongTermMemoryV1 × MemoryStore Digest) := do
  bounded query 2_048 true
  ensure (decide (1 ≤ limit ∧ limit ≤ 50)) (invalidInput "limit must be 1..50.")
  let owner ← store.owner access scope false
  let rows := store.memories.rows.filter fun row =>
    row.2.owner == owner && row.2.expires.all fun expires => (stamp now).textLt expires
  let ordered := rows.mergeSort fun left right => decide (left.1 ≤ right.1)
  let ranked := rank rules query limit.toNat (ordered.map (·.2.document))
  let store ← ranked.foldlM (fun store record => store.expose now access record) store
  return (ranked, store)

/-! ## Writing -/

def receipt (operationId : String) (digest : Digest) :
    Except MemoryError (Option MemoryReceiptV1) := do
  bounded operationId 128
  match store.receipts.get? operationId with
  | none => return none
  | some (priorDigest, result) => do
      ensure (priorDigest == digest) operationConflict
      return some result

def saveReceipt (receipt : MemoryReceiptV1) (digest : Digest) : MemoryStore Digest :=
  { store with receipts := store.receipts.upsert receipt.operationId (digest, receipt) }

def rowAt (owner key : String) : Option (String × MemoryRow) :=
  store.memories.rows.find? fun row => row.2.owner == owner && row.2.key == key

/-- The record that an upsert writes over an old one, or anew under a fresh id. -/
def newRecord (now : Int) (access : MemoryAccessV1) (scope : MemoryScopeV1) (input : MemoryWriteV1)
    (newId : String) (old : Option (String × MemoryRow)) : LongTermMemoryV1 where
  id := (old.map (·.1)).getD newId
  revision := (old.map (·.2.revision)).getD 0 + 1
  scope
  projectId := if scope = .project then some access.projectId else none
  key := input.key
  kind := input.kind
  content := input.content
  applicability := input.applicability.getD ""
  source :=
    { sessionId := given access.sessionId
      runId := given access.runId
      promptId := given access.promptId }
  createdAt := (old.map (·.2.document.createdAt)).getD (stamp now)
  updatedAt := stamp now
  expiresAt := input.expiresAt.bind fun expiresAt => expiresAt.parsed.map stamp

/-- `INSERT OR REPLACE INTO memories`: the rows with the id, or with the owner and the key, make
room. -/
def saveRecord (owner : String) (record : LongTermMemoryV1) : MemoryStore Digest :=
  let others := store.memories.filter fun _ row => !(row.owner == owner && row.key == record.key)
  { store with
    memories := others.upsert record.id
      { owner
        key := record.key
        revision := record.revision
        document := record
        expires := record.expiresAt }
    tombstones := store.tombstones.filter (· != (owner, record.key)) }

/-- An upsert whose operation has no receipt yet. -/
def writeNew (now : Int) (access : MemoryAccessV1) (scope : MemoryScopeV1)
    (input : MemoryWriteV1) (operationId newId owner : String) (digest : Digest) :
    Except MemoryError (MemoryReceiptV1 × MemoryStore Digest) := do
  let old := store.rowAt owner input.key
  ensure ((old.map (·.2.revision)).getD 0 == input.expectedRevision) editConflict
  ensure (old.isSome ||
    decide ((store.memories.values.filter fun row => row.owner == owner).length < 2_000))
    capacityReached
  let record := newRecord now access scope input newId old
  let result : MemoryReceiptV1 :=
    { operationId
      id := record.id
      revision := record.revision
      action := .upsert }
  return (result, (store.saveRecord owner record).saveReceipt result digest)

def write (store : MemoryStore Digest) (now : Int) (access : MemoryAccessV1)
    (scope : MemoryScopeV1) (input : MemoryWriteV1) (operationId newId : String) :
    Except MemoryError (MemoryReceiptV1 × MemoryStore Digest) := do
  access.session?.forM (store.assertSession now)
  let owner ← store.owner access scope true
  let digest := rules.hash (.upsert owner input access)
  match ← store.receipt operationId digest with
  | some replay => return (replay, store)
  | none => store.writeNew now access scope input operationId newId owner digest

def upsert (store : MemoryStore Digest) (now : Int) (access : MemoryAccessV1)
    (scope : MemoryScopeV1) (input : MemoryWriteV1) (operationId newId : String) :
    Except MemoryError (MemoryReceiptV1 × MemoryStore Digest) := do
  validateWrite rules now input
  store.write rules now access scope input operationId newId

def forgetNew (now : Int) (access : MemoryAccessV1) (id : String)
    (expectedRevision : Int) (operationId owner : String) (digest : Digest) :
    Except MemoryError (MemoryReceiptV1 × MemoryStore Digest) := do
  access.session?.forM (store.assertSession now)
  let old ← orError forgottenAbsent ((store.memories.get? id).filter fun row => row.owner == owner)
  ensure (old.revision == expectedRevision) deleteConflict
  let blocked := store.block (store.sessionsOf (·.memoryId == id))
  let result : MemoryReceiptV1 :=
    { operationId
      id
      revision := old.revision
      action := .forget }
  let forgotten : MemoryStore Digest := { blocked with
    tombstones :=
      if store.tombstones.contains (owner, old.key) then store.tombstones
      else store.tombstones ++ [(owner, old.key)]
    memories := store.memories.filter fun other _ => other != id }
  return (result, forgotten.saveReceipt result digest)

def forget (store : MemoryStore Digest) (now : Int) (access : MemoryAccessV1)
    (scope : MemoryScopeV1) (id : String) (expectedRevision : Int) (operationId : String) :
    Except MemoryError (MemoryReceiptV1 × MemoryStore Digest) := do
  let owner ← store.owner access scope true
  let digest := rules.hash (.forget owner id expectedRevision)
  match ← store.receipt operationId digest with
  | some replay => return (replay, store)
  | none => store.forgetNew now access id expectedRevision operationId owner digest

/-! ## Import -/

def writeBatch (now : Int) (access : MemoryAccessV1) (scope : MemoryScopeV1)
    (operation : String) (newId : Nat → String) :
    Nat → List MemoryWriteV1 → MemoryStore Digest → Except MemoryError (List MemoryReceiptV1 × MemoryStore Digest)
  | _, [], store => .ok ([], store)
  | place, item :: rest, store => do
      let (first, store) ← store.write rules now access scope item
        (operation ++ ":" ++ toString place) (newId place)
      let (others, store) ← writeBatch now access scope operation newId (place + 1) rest store
      return (first :: others, store)

/-- An import whose operation has no batch yet. -/
def importNew (store : MemoryStore Digest) (now : Int) (access : MemoryAccessV1)
    (scope : MemoryScopeV1) (memories : List MemoryWriteV1) (operation : String) (digest : Digest)
    (newId : Nat → String) : Except MemoryError (List MemoryReceiptV1 × MemoryStore Digest) := do
  let (result, store) ← writeBatch rules now access scope operation newId 0 memories store
  return (result, { store with
    importBatches := store.importBatches.upsert operation (digest, result) })

/-- The action `import` of `manage`, on the project of the caller's workspace. -/
def importMemories (store : MemoryStore Digest) (now : Int) (projectId : String)
    (scope : MemoryScopeV1) (memories : List MemoryWriteV1) (operation : String)
    (newId : Nat → String) : Except MemoryError (List MemoryReceiptV1 × MemoryStore Digest) := do
  let access : MemoryAccessV1 :=
    { projectId
      host := true }
  ensure (decide (memories.length ≤ 50)) (invalidInput "Import must contain at most 50 records.")
  memories.forM fun item => do
    validateWrite rules now item
    ensure (item.expectedRevision == 0) (invalidInput "Import is create-only.")
  ensure (!operation.isEmpty) (invalidInput "Required field is missing.")
  bounded operation 120
  let owner ← store.owner access scope true
  let digest := rules.hash (.importBatch owner memories)
  match store.importBatches.get? operation with
  | some (priorDigest, result) => do
      ensure (priorDigest == digest) importConflict
      return (result, store)
  | none => store.importNew rules now access scope memories operation digest newId

end MemoryStore

/-! ## Calls -/

/-- A call of the service. The id of a new record is what `randomUUID` answers. -/
inductive MemoryCall where
  | addProject (projectId root : String)
  | configure (projectId : String) (mode : Option MemoryModeV1) (userAccess : Option Bool)
  | inheritSession (parent child : String)
  | get (access : MemoryAccessV1) (scope : MemoryScopeV1) (id : String)
  | search (access : MemoryAccessV1) (scope : MemoryScopeV1) (query : String) (limit : Int)
  | upsert (access : MemoryAccessV1) (scope : MemoryScopeV1) (input : MemoryWriteV1)
      (operationId newId : String)
  | forget (access : MemoryAccessV1) (scope : MemoryScopeV1) (id : String)
      (expectedRevision : Int) (operationId : String)
  | importMemories (projectId : String) (scope : MemoryScopeV1) (memories : List MemoryWriteV1)
      (operation : String) (newIds : Nat → String)

inductive MemoryAnswer where
  | project (project : MemoryProjectV1)
  | inherited
  | record (record : LongTermMemoryV1)
  | records (records : List LongTermMemoryV1)
  | receipt (receipt : MemoryReceiptV1)
  | receipts (receipts : List MemoryReceiptV1)

/-- The result of an operation as the answer to a call. -/
def answered {α : Type} (answer : α → MemoryAnswer)
    (result : Except MemoryError (α × MemoryStore Digest)) :
    Except MemoryError (MemoryAnswer × MemoryStore Digest) :=
  result.map fun done => (answer done.1, done.2)

def MemoryStore.call (store : MemoryStore Digest) (now : Int) :
    MemoryCall → Except MemoryError (MemoryAnswer × MemoryStore Digest)
  | .addProject projectId root => answered .project (store.addProject projectId root)
  | .configure projectId mode userAccess =>
    answered .project (store.configure projectId mode userAccess)
  | .inheritSession parent child => .ok (.inherited, store.inheritSession parent child)
  | .get access scope id => answered .record (store.get now access scope id)
  | .search access scope query limit =>
    answered .records (store.search rules now access scope query limit)
  | .upsert access scope input operationId newId =>
    answered .receipt (store.upsert rules now access scope input operationId newId)
  | .forget access scope id expectedRevision operationId =>
    answered .receipt (store.forget rules now access scope id expectedRevision operationId)
  | .importMemories projectId scope memories operation newIds =>
    answered .receipts (store.importMemories rules now projectId scope memories operation newIds)

omit [DecidableEq Digest] in
@[simp] theorem answered_eq_ok {α : Type} {answer : α → MemoryAnswer}
    {result : Except MemoryError (α × MemoryStore Digest)} {reply : MemoryAnswer}
    {after : MemoryStore Digest} : answered answer result = .ok (reply, after) ↔
      ∃ value, result = .ok (value, after) ∧ reply = answer value := by
  cases result with
  | error error => simp [answered, Except.map]
  | ok done =>
    obtain ⟨value, state⟩ := done
    simp only [answered, Except.map, Except.ok.injEq, Prod.mk.injEq]
    constructor
    · rintro ⟨rfl, rfl⟩
      exact ⟨value, ⟨rfl, rfl⟩, rfl⟩
    · rintro ⟨_, ⟨rfl, rfl⟩, rfl⟩
      exact ⟨rfl, rfl⟩

end Praxis.Memory
