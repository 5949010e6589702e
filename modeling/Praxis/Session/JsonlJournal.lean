import Praxis.Foundations.FilePrograms
import Praxis.Session.Stores

/-!
# The JSONL journal

`JsonlSessionJournalV3` keeps the commits of every session in a file of its own, one record a line,
and beside it a cached projection and a catalog of all sessions. The catalog is a base file, a
marker that names the base, and a file of later changes. A marker in `pending` says that a session
may have commits which its projection or the catalog does not know.

Every operation is a program over these files. A file that is replaced by renaming a new file over
it changes in one step; a line is added in one step, of which a crash may leave a part: the last
line of the file is then torn. The lock files are the locks of the programs.
-/

namespace Praxis.Session

set_option autoImplicit false

open Praxis.Foundations
open Praxis.Workflow (safeId nonNegativeInteger)

/-- A file with one JSON value a line. A line that is not a valid record is `none`; the file is
torn when its last line is not terminated. -/
structure LineFile (ρ : Type) where
  lines : List (Option ρ) := []
  torn : Bool := false

namespace LineFile

variable {ρ : Type}

/-- A line added at the end: behind a torn line it becomes a part of that line. -/
def append (file : LineFile ρ) (record : ρ) : LineFile ρ where
  lines := file.lines ++ [if file.torn then none else some record]

/-- A part of a line added at the end. -/
def tear (file : LineFile ρ) : LineFile ρ := { file with torn := true }

/-- Cut off behind a number of lines. -/
def truncate (file : LineFile ρ) (count : Nat) : LineFile ρ where
  lines := file.lines.take count

end LineFile

/-! ## The disk -/

structure ProjectionCacheV3 (Data View : Type) where
  lastCommitId : String
  projection : SessionProjectionV3 Data View

structure CatalogCacheV3 where
  sessions : List SessionCatalogProjectionV3
  recoverableSessionIds : List String

structure CatalogDeltaRecordV3 where
  catalog : SessionCatalogProjectionV3
  recoverable : Bool

/-- The files of the journal. A file that was only ever written whole is `none` or valid; the
files of a directory are named by their session. -/
structure JsonlDisk (Data View : Type) where
  authority : Bool := false
  commits : Table String (LineFile (SessionCommitV3 Data)) := Table.empty
  projections : Table String (ProjectionCacheV3 Data View) := Table.empty
  pending : List String := []
  catalog : Option CatalogCacheV3 := none
  catalogState : Option String := none
  catalogDelta : Option (LineFile CatalogDeltaRecordV3) := none

/-- One change to one file. -/
inductive JsonlWrite (Data View : Type) where
  | authority
  | appendRecord (sessionId : String) (commit : SessionCommitV3 Data)
  | truncateJournal (sessionId : String) (validLines : Nat)
  | projection (sessionId : String) (cache : ProjectionCacheV3 Data View)
  | markPending (sessionId : String)
  | unlinkPending (sessionId : String)
  | catalog (cache : CatalogCacheV3)
  | clearDelta
  | appendDelta (record : CatalogDeltaRecordV3)
  | truncateDelta (validLines : Nat)
  | catalogState (baseCatalogChecksum : String)

variable {Data View : Type}

namespace JsonlDisk

/-- The journal of a session; a file that is missing is read as empty. -/
def journal (disk : JsonlDisk Data View) (sessionId : String) :
    LineFile (SessionCommitV3 Data) :=
  (disk.commits.get? sessionId).getD {}

def withJournal (disk : JsonlDisk Data View) (sessionId : String)
    (file : LineFile (SessionCommitV3 Data)) : JsonlDisk Data View :=
  { disk with commits := disk.commits.upsert sessionId file }

/-- The disk after a change. -/
def perform (disk : JsonlDisk Data View) : JsonlWrite Data View → JsonlDisk Data View
  | .authority => { disk with authority := true }
  | .appendRecord sessionId commit =>
    disk.withJournal sessionId ((disk.journal sessionId).append commit)
  | .truncateJournal sessionId validLines =>
    disk.withJournal sessionId ((disk.journal sessionId).truncate validLines)
  | .projection sessionId cache =>
    { disk with projections := disk.projections.upsert sessionId cache }
  | .markPending sessionId => { disk with pending := disk.pending.insert sessionId }
  | .unlinkPending sessionId => { disk with pending := disk.pending.filter (· ≠ sessionId) }
  | .catalog cache => { disk with catalog := some cache }
  | .clearDelta => { disk with catalogDelta := some {} }
  | .appendDelta record =>
    { disk with catalogDelta := some ((disk.catalogDelta.getD {}).append record) }
  | .truncateDelta validLines =>
    { disk with catalogDelta := disk.catalogDelta.map (·.truncate validLines) }
  | .catalogState baseCatalogChecksum =>
    { disk with catalogState := some baseCatalogChecksum }

end JsonlDisk

/-- A program over the files of the journal. -/
abbrev JsonlProgram (Data View : Type) :=
  FileProgram (JsonlDisk Data View) (JsonlWrite Data View) SessionError

variable (rules : SessionRules Data View)

/-! ## Reading a journal -/

/-- `encodeSessionFile`: the name of a file is defined for safe ids only. -/
def assertSessionFile (value : String) : Except SessionError Unit :=
  ensure (safeId value) .sessionIdInvalid

/-- The records of a journal with the number of their lines, and whether a torn line follows. -/
structure ParsedJournal (Data : Type) where
  records : List (SessionCommitV3 Data)
  validLines : Nat
  torn : Bool

variable (sessionId : String)

def validateRecord (input : Option (SessionCommitV3 Data)) :
    Except SessionError (SessionCommitV3 Data) := do
  let record ← orError .persistenceInvalidData input
  let commit ← orInvalidData (validateSessionCommitV3 rules record)
  ensure (commit.sessionId == sessionId) .persistenceInvalidData
  return commit

/-- One more line: the first record is not compared with a head. -/
def parseLine (records : List (SessionCommitV3 Data))
    (line : Option (SessionCommitV3 Data)) : Except SessionError (List (SessionCommitV3 Data)) := do
  let commit ← validateRecord rules sessionId line
  if !records.isEmpty then
    orInvalidData (assertSessionCommitAgainstHeadV3 commit (head (flattenEntries records)))
  return records ++ [commit]

def parseJournal (source : LineFile (SessionCommitV3 Data)) :
    Except SessionError (ParsedJournal Data) := do
  let records ← source.lines.foldlM (parseLine rules sessionId) []
  if !records.isEmpty then
    let _ ← orInvalidData (reduceSessionEntriesV3 rules (flattenEntries records))
  return { records, validLines := source.lines.length, torn := source.torn }

def readJournal : JsonlProgram Data View (ParsedJournal Data) := do
  .ofExcept (assertSessionFile sessionId)
  .read fun disk => parseJournal rules sessionId (disk.journal sessionId)

def repairTail (parsed : ParsedJournal Data) :
    JsonlProgram Data View Unit :=
  if parsed.torn then .write (.truncateJournal sessionId parsed.validLines) else pure ()

/-! ## The catalog -/

/-- `withLock`, whose lock file must have a name. -/
def withLock {α : Type} (name : String) (action : JsonlProgram Data View α) :
    JsonlProgram Data View α := do
  .ofExcept (assertSessionFile name)
  action.locked name

def catalogLock : String := "journal-v3-catalog"

/-- The prefix of the name of a session's lock. -/
def sessionLock : String := "journal-v3-session-" ++ sessionId

def isCatalogProjection (input : SessionCatalogProjectionV3) : Bool :=
  safeId input.sessionId && safeId input.activeLeafId && input.parentSessionId.all safeId &&
    nonNegativeInteger input.messageCount && decide input.updatedAt.Canonical &&
    nonNegativeInteger input.revision && decide (1 ≤ input.revision)

/-- The newest session first, sessions of one instant by their id. -/
def catalogBefore (left right : SessionCatalogProjectionV3) : Bool :=
  match rules.localeCompare right.updatedAt.text left.updatedAt.text with
  | .lt => true
  | .gt => false
  | .eq => rules.localeCompare left.sessionId right.sessionId != .gt

def sortCatalog (sessions : List SessionCatalogProjectionV3) : List SessionCatalogProjectionV3 :=
  sessions.mergeSort (catalogBefore rules)

def catalogCache (sessions : List SessionCatalogProjectionV3) (recoverableSessionIds : List String) :
    CatalogCacheV3 where
  sessions := sortCatalog rules sessions
  recoverableSessionIds := sortIds recoverableSessionIds.dedup

/-- The checksum that the file of a catalog carries. -/
def CatalogCacheV3.checksum (cache : CatalogCacheV3) : String :=
  rules.catalogChecksum cache.sessions cache.recoverableSessionIds

def catalogDeltaRecord (projection : SessionProjectionV3 Data View) : CatalogDeltaRecordV3 where
  catalog := projection.catalog
  recoverable := projectionHasRecoverableRun projection

/-- The sessions and the recoverable ids while the changes are applied. -/
structure CatalogView where
  sessions : Table String SessionCatalogProjectionV3
  recoverable : List String

def CatalogView.ofCache (cache : CatalogCacheV3) : CatalogView where
  sessions := cache.sessions.foldl
    (fun sessions session => sessions.upsert session.sessionId session) Table.empty
  recoverable := cache.recoverableSessionIds

def CatalogView.apply (view : CatalogView) (record : CatalogDeltaRecordV3) : CatalogView where
  sessions := view.sessions.upsert record.catalog.sessionId record.catalog
  recoverable :=
    if record.recoverable then view.recoverable.insert record.catalog.sessionId
    else view.recoverable.filter (· ≠ record.catalog.sessionId)

def validateCatalogCache (input : CatalogCacheV3) : Except SessionError Unit :=
  ensure (input.sessions.all isCatalogProjection && input.recoverableSessionIds.all safeId)
    .persistenceInvalidData

def validateCatalogDeltaRecord (line : Option CatalogDeltaRecordV3) :
    Except SessionError CatalogDeltaRecordV3 := do
  let record ← orError .persistenceInvalidData line
  ensure (isCatalogProjection record.catalog) .persistenceInvalidData
  return record

/-- The catalog that the base and its changes give. -/
def catalogView (disk : JsonlDisk Data View) : Except SessionError CatalogView := do
  let base ← orError .persistenceIoError disk.catalog
  validateCatalogCache base
  let state ← orError .persistenceIoError disk.catalogState
  ensure (state == base.checksum rules) .persistenceInvalidData
  let delta ← orError .persistenceIoError disk.catalogDelta
  let records ← delta.lines.mapM validateCatalogDeltaRecord
  return records.foldl CatalogView.apply (CatalogView.ofCache base)

/-- A torn last change is cut off. -/
def repairDelta : JsonlProgram Data View Unit :=
  .look fun disk =>
    match disk.catalogDelta with
    | some delta => if delta.torn then .write (.truncateDelta delta.lines.length) else pure ()
    | none => pure ()

def readCatalogUnlocked : JsonlProgram Data View CatalogCacheV3 := do
  let view ← .read (catalogView rules)
  repairDelta
  return catalogCache rules view.sessions.values view.recoverable

def appendCatalogDeltaUnlocked (projection : SessionProjectionV3 Data View) :
    JsonlProgram Data View Unit :=
  .write (.appendDelta (catalogDeltaRecord projection))

def projectionCache (projection : SessionProjectionV3 Data View)
    (records : List (SessionCommitV3 Data)) : ProjectionCacheV3 Data View where
  lastCommitId := (records.getLast?.map (·.commitId)).getD ""
  projection := projection

def validateProjectionCache (input : ProjectionCacheV3 Data View) :
    Except SessionError (ProjectionCacheV3 Data View) := do
  ensure (input.projection.snapshot.sessionId == sessionId &&
    input.projection.catalog.sessionId == sessionId) .persistenceInvalidData
  return input

def refreshProjection (records : List (SessionCommitV3 Data)) :
    JsonlProgram Data View Unit := do
  let projection ← .ofExcept (reduceSessionEntriesV3 rules (flattenEntries records))
  .write (.projection sessionId (projectionCache projection records))
  withLock catalogLock (appendCatalogDeltaUnlocked projection)

/-! ## The operations -/

namespace Jsonl

def appendCommit (input : SessionCommitV3 Data) :
    JsonlProgram Data View SessionCommitReceiptV3 := do
  let commit ← .ofExcept (validateSessionCommitV3 rules input)
  withLock (sessionLock commit.sessionId) do
    let parsed ← readJournal rules commit.sessionId
    repairTail commit.sessionId parsed
    match ← .ofExcept (findDuplicate commit parsed.records) with
    | some duplicate =>
      refreshProjection rules commit.sessionId parsed.records
      return sessionCommitReceiptV3 duplicate true
    | none =>
      let priorEntries := flattenEntries parsed.records
      .ofExcept (assertSessionCommitAgainstHeadV3 commit (head priorEntries))
      let _ ← .ofExcept (reduceSessionEntriesV3 rules (priorEntries ++ commit.entries))
      .write (.markPending commit.sessionId)
      .write (.appendRecord commit.sessionId commit)
      refreshProjection rules commit.sessionId (parsed.records ++ [commit])
      .write (.unlinkPending commit.sessionId)
      return sessionCommitReceiptV3 commit false

def readEntries (input : ReadSessionEntriesInputV3) :
    JsonlProgram Data View (SessionEntryPageV3 Data) := do
  .ofExcept (validateReadInput input)
  let parsed ← readJournal rules input.sessionId
  let entries := flattenEntries parsed.records
  let currentHead ← .ofExcept (orError .sessionNotFound (head entries))
  let through := input.throughSequence.getD currentHead.sequence
  .ofExcept (ensure (decide (through ≤ currentHead.sequence)) .sessionReadInvalid)
  let after := input.afterSequence.getD 0
  let selected := (entries.filter fun entry =>
    decide (after < entry.sequence ∧ entry.sequence ≤ through)).take
      (input.limit.getD maxReadPage).toNat
  let nextAfterSequence := (selected.getLast?.map (·.sequence)).getD after
  return {
      sessionId := input.sessionId
      entries := selected
      nextAfterSequence
      hasMore := decide (nextAfterSequence < through)
      head := currentHead }

def readCommits : JsonlProgram Data View (List (SessionCommitV3 Data)) := do
  let parsed ← readJournal rules sessionId
  .ofExcept (ensure (!parsed.records.isEmpty) .sessionNotFound)
  .ofExcept (parsed.records.mapM (validateSessionCommitV3 rules))

def listCatalog : JsonlProgram Data View (List SessionCatalogProjectionV3) :=
  withLock catalogLock do
    let cache ← readCatalogUnlocked rules
    return sortCatalog rules cache.sessions

def listSessionIds : JsonlProgram Data View (List String) := do
  let sessions ← listCatalog rules
  return sortIds (sessions.map (·.sessionId))

def listRecoverableSessionIds : JsonlProgram Data View (List String) :=
  withLock catalogLock do
    let cache ← readCatalogUnlocked rules
    return sortIds cache.recoverableSessionIds

def loadCachedProjection :
    JsonlProgram Data View (SessionProjectionV3 Data View) := do
  .ofExcept (assertSessionFile sessionId)
  let cache ← .read fun disk => do
    let stored ← orError .sessionNotFound (disk.projections.get? sessionId)
    validateProjectionCache sessionId stored
  return cache.projection

/-! ## Maintenance -/

/-- The marker is taken away once the projection and the catalog know the journal. -/
def recoverPendingSession : JsonlProgram Data View Unit := do
  let parsed ← readJournal rules sessionId
  repairTail sessionId parsed
  if !parsed.records.isEmpty then
    let projection ← .ofExcept (reduceSessionEntriesV3 rules (flattenEntries parsed.records))
    .write (.projection sessionId (projectionCache projection parsed.records))
    appendCatalogDeltaUnlocked projection
  .write (.unlinkPending sessionId)

def recoverPendingUnlocked : JsonlProgram Data View Unit :=
  .look fun disk => .forEach disk.pending (recoverPendingSession rules)

/-- The projection of a session, rewritten; `none` when the journal is empty. -/
def scanProjection :
    JsonlProgram Data View (Option (SessionProjectionV3 Data View)) := do
  let parsed ← readJournal rules sessionId
  if parsed.records.isEmpty then return none
  else do
    let projection ← .ofExcept (reduceSessionEntriesV3 rules (flattenEntries parsed.records))
    .write (.projection sessionId (projectionCache projection parsed.records))
    return some projection

def scanProjections : List String →
    JsonlProgram Data View (List (SessionProjectionV3 Data View))
  | [] => pure []
  | sessionId :: rest => do
      let projection ← scanProjection rules sessionId
      let others ← scanProjections rest
      return projection.toList ++ others

def clearAllPendingUnlocked : JsonlProgram Data View Unit :=
  .look fun disk => .forEach disk.pending fun sessionId => .write (.unlinkPending sessionId)

def rebuildCatalogUnlocked : JsonlProgram Data View (List SessionCatalogProjectionV3) := do
  let sessionIds ← .read fun disk => .ok (sortIds (disk.commits.rows.map (·.1)))
  let projections ← scanProjections rules sessionIds
  let cache := catalogCache rules (projections.map (·.catalog))
    (sortIds ((projections.filter projectionHasRecoverableRun).map (·.snapshot.sessionId)))
  .write (.catalog cache)
  .write .clearDelta
  .write (.catalogState (cache.checksum rules))
  clearAllPendingUnlocked
  return sortCatalog rules (projections.map (·.catalog))

def initializeJournal (deep : Bool) : JsonlProgram Data View Unit :=
  withLock catalogLock do
    let authority ← .read fun disk => .ok disk.authority
    if !authority then .write .authority
    let state ← .read fun disk => .ok disk.catalogState
    if deep || state.isNone then
      let _ ← rebuildCatalogUnlocked rules
    else
      let _ ← readCatalogUnlocked rules
      recoverPendingUnlocked rules

def deepScrub : JsonlProgram Data View Nat :=
  withLock catalogLock do
    let sessions ← rebuildCatalogUnlocked rules
    return sessions.length

end Jsonl

end Praxis.Session
