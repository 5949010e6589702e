import Praxis.Session.CommitLog

/-!
# The SQLite journal

`SqliteSessionJournalV3` keeps commits and entries in a table each, and for every session a row
with its head and its projection. Primary keys, unique columns, checks and the foreign key are
those of the schema; a statement that breaks one of them fails, and the transaction is rolled back.
-/

namespace Praxis.Session

set_option autoImplicit false

open Praxis.Foundations
open Praxis.Workflow (safeId nonNegativeInteger)

/-! ## The tables -/

structure SessionRow (Data View : Type) where
  revision : Int
  sequence : Int
  projection : SessionProjectionV3 Data View

structure CommitRow (Data : Type) where
  commitId : String
  idempotencyKey : String
  checksum : String
  firstSequence : Int
  lastSequence : Int
  commit : SessionCommitV3 Data

structure EntryRow (Data : Type) where
  revision : Int
  entryId : String
  entry : SessionEntryV3 Data

/-- The tables, by their primary keys: the session, the session and the revision, the session and
the sequence. -/
structure SqliteTables (Data View : Type) where
  sessions : Table String (SessionRow Data View) := Table.empty
  commits : Table (String × Int) (CommitRow Data) := Table.empty
  entries : Table (String × Int) (EntryRow Data) := Table.empty

variable {Data View : Type} (rules : SessionRules Data View)

def commitRow (commit : SessionCommitV3 Data) : CommitRow Data where
  commitId := commit.commitId
  idempotencyKey := commit.idempotencyKey
  checksum := commit.checksum
  firstSequence := commit.firstSequence
  lastSequence := commit.lastSequence
  commit := commit

def entryRow (entry : SessionEntryV3 Data) : EntryRow Data where
  revision := entry.revision
  entryId := entry.entryId
  entry := entry

namespace SqliteTables

variable (tables : SqliteTables Data View)

/-- The rows of a session in a table whose key begins with the session. -/
def rowsOf {ν : Type} (table : Table (String × Int) ν) (sessionId : String) :
    List ((String × Int) × ν) :=
  table.rows.filter fun row => row.1.1 = sessionId

/-- `ORDER BY` the second part of the key. -/
def ordered {ν : Type} (rows : List ((String × Int) × ν)) : List ((String × Int) × ν) :=
  rows.mergeSort fun left right => decide (left.1.2 ≤ right.1.2)

/-! ## Statements -/

def insertCommit (commit : SessionCommitV3 Data) : Except SessionError (SqliteTables Data View) := do
  ensure (decide (0 < commit.revision ∧ 0 < commit.firstSequence ∧
    commit.firstSequence ≤ commit.lastSequence)) .persistenceIoError
  ensure (!(rowsOf tables.commits commit.sessionId).any fun row =>
    row.2.commitId == commit.commitId || row.2.idempotencyKey == commit.idempotencyKey)
    .persistenceIoError
  let commits ← orError .persistenceIoError
    (tables.commits.insert (commit.sessionId, commit.revision) (commitRow commit))
  return { tables with commits }

def insertEntry (entry : SessionEntryV3 Data) : Except SessionError (SqliteTables Data View) := do
  ensure (decide (0 < entry.sequence ∧ 0 < entry.revision)) .persistenceIoError
  ensure (!(rowsOf tables.entries entry.sessionId).any fun row =>
    row.2.entryId == entry.entryId) .persistenceIoError
  ensure (tables.commits.contains (entry.sessionId, entry.revision)) .persistenceIoError
  let entries ← orError .persistenceIoError
    (tables.entries.insert (entry.sessionId, entry.sequence) (entryRow entry))
  return { tables with entries }

/-- `INSERT INTO sessions … ON CONFLICT DO UPDATE`. -/
def upsertSession (sessionId : String) (projection : SessionProjectionV3 Data View) :
    Except SessionError (SqliteTables Data View) := do
  ensure (decide (0 < projection.snapshot.revision ∧ 0 < projection.snapshot.sequence))
    .persistenceIoError
  return { tables with
    sessions := tables.sessions.upsert sessionId
      { revision := projection.snapshot.revision
        sequence := projection.snapshot.sequence
        projection } }

end SqliteTables

/-! ## Reading rows -/

namespace Sqlite

def parseEntry (input : SessionEntryV3 Data) : Except SessionError (SessionEntryV3 Data) :=
  orInvalidData (validateSessionEntryV3 rules input)

def parseProjection (sessionId : String) (projection : SessionProjectionV3 Data View) :
    Except SessionError (SessionProjectionV3 Data View) := do
  ensure (projection.snapshot.sessionId == sessionId && projection.catalog.sessionId == sessionId)
    .persistenceInvalidData
  return projection

variable (tables : SqliteTables Data View)

/-- The lookup with `LIMIT 1` answers one row that shares an id or a key. -/
def findDuplicate (candidate : SessionCommitV3 Data) :
    Except SessionError (Option (SessionCommitV3 Data)) :=
  match (SqliteTables.rowsOf tables.commits candidate.sessionId).find? fun row =>
      row.2.commitId == candidate.commitId || row.2.idempotencyKey == candidate.idempotencyKey with
  | none => .ok none
  | some (_, row) => do
      ensure (row.commitId == candidate.commitId &&
        row.idempotencyKey == candidate.idempotencyKey && row.checksum == candidate.checksum)
        .sessionCommitIdempotencyConflict
      let commit ← orInvalidData (validateSessionCommitV3 rules row.commit)
      return some commit

def loadAllEntries (sessionId : String) : Except SessionError (List (SessionEntryV3 Data)) :=
  (SqliteTables.ordered (SqliteTables.rowsOf tables.entries sessionId)).mapM fun row =>
    parseEntry rules row.2.entry

/-! ## The operations -/

/-- The statements of the transaction. -/
def appendExclusive (commit : SessionCommitV3 Data) :
    Except SessionError (SessionCommitReceiptV3 × SqliteTables Data View) := do
  match ← findDuplicate rules tables commit with
  | some duplicate => return (sessionCommitReceiptV3 duplicate true, tables)
  | none =>
    let current := tables.sessions.get? commit.sessionId
    assertSessionCommitAgainstHeadV3 commit (current.map fun row =>
      { revision := row.revision, sequence := row.sequence })
    let prior ← loadAllEntries rules tables commit.sessionId
    let projection ← reduceSessionEntriesV3 rules (prior ++ commit.entries)
    let recorded ← tables.insertCommit commit
    let filled ← commit.entries.foldlM SqliteTables.insertEntry recorded
    let updated ← filled.upsertSession commit.sessionId projection
    return (sessionCommitReceiptV3 commit false, updated)

/-- A statement that fails rolls the transaction back. -/
def appendCommit (input : SessionCommitV3 Data) :
    Except SessionError SessionCommitReceiptV3 × SqliteTables Data View :=
  match validateSessionCommitV3 rules input with
  | .error error => (.error error, tables)
  | .ok commit =>
    match appendExclusive rules tables commit with
    | .error error => (.error error, tables)
    | .ok (receipt, updated) => (.ok receipt, updated)

def readEntries (input : ReadSessionEntriesInputV3) :
    Except SessionError (SessionEntryPageV3 Data) := do
  validateReadInput input
  let head ← orError .sessionNotFound (tables.sessions.get? input.sessionId)
  let through := input.throughSequence.getD head.sequence
  ensure (decide (through ≤ head.sequence)) .sessionReadInvalid
  let after := input.afterSequence.getD 0
  let rows := (SqliteTables.ordered ((SqliteTables.rowsOf tables.entries input.sessionId).filter
    fun row => decide (after < row.1.2 ∧ row.1.2 ≤ through))).take
      (input.limit.getD maxReadPage).toNat
  let entries ← rows.mapM fun row => parseEntry rules row.2.entry
  let nextAfterSequence := (entries.getLast?.map (·.sequence)).getD after
  return {
      sessionId := input.sessionId
      entries
      nextAfterSequence
      hasMore := decide (nextAfterSequence < through)
      head := { revision := head.revision, sequence := head.sequence } }

def orderedSessions : List (String × SessionRow Data View) :=
  tables.sessions.rows.mergeSort fun left right => decide (left.1 ≤ right.1)

def listSessionIds : Except SessionError (List String) :=
  .ok ((orderedSessions tables).map (·.1))

def listRecoverableSessionIds : Except SessionError (List String) := do
  let projections ← (orderedSessions tables).mapM fun row => do
    let projection ← parseProjection row.1 row.2.projection
    return (row.1, projection)
  return (projections.filter fun row => projectionHasRecoverableRun row.2).map (·.1)

def loadCachedProjection (sessionId : String) :
    Except SessionError (SessionProjectionV3 Data View) := do
  let row ← orError .sessionNotFound (tables.sessions.get? sessionId)
  parseProjection sessionId row.projection

def readCommits (sessionId : String) : Except SessionError (List (SessionCommitV3 Data)) := do
  let rows := SqliteTables.ordered (SqliteTables.rowsOf tables.commits sessionId)
  ensure (!rows.isEmpty) .sessionNotFound
  rows.mapM fun row => orInvalidData (validateSessionCommitV3 rules row.2.commit)

end Sqlite

end Praxis.Session
