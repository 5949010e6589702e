import Praxis.Foundations.Actions
import Praxis.Session.JsonlStore
import Praxis.Session.SqliteStore

/-!
# The storage root

The sessions of a root are in one of two backends: the directory of the JSONL journal, or the SQLite
database with its log files. The authority marker says which. `createSessionJournalCompositionV3`
opens the backend it is configured with if the root has it, or if the root has none: then it makes an
empty one.

Any of its file operations may fail. Files that are there only while a call runs, such as the
authority lock, are not part of the root; neither is what a composition does to the leases of others.
-/

namespace Praxis.Session

set_option autoImplicit false

open Praxis.Foundations

/-! ## The files -/

inductive SessionStoreKindV3 where
  | jsonl
  | sqlite
deriving DecidableEq

/-- The files of a directory that make up its backend. -/
structure StorageFiles (Data View : Type) where
  /-- `session-journal-v3`. -/
  journal : Option (JsonlDisk Data View) := none
  /-- `session-journal-v3.sqlite`, without what its log has. -/
  database : Option (SqliteTables Data View) := none
  /-- `session-journal-v3.sqlite-wal`: the tables of its database once the log is applied. -/
  wal : Option (SqliteTables Data View) := none
  /-- `session-journal-v3.sqlite-shm`. -/
  shm : Bool := false
  /-- The store that `session-authority.json` names. -/
  marker : Option SessionStoreKindV3 := none

/-- The directories of a migration: the root itself, and two that it makes below the root. -/
inductive StoragePlace where
  | root
  | staging
  | backup
deriving DecidableEq

structure StorageRoot (Data View V2 : Type) where
  files : StoragePlace → StorageFiles Data View
  /-- `sessions.json`, with the other files of a V2 root. They stay when they were migrated. -/
  index : Option V2
  /-- Whether `session-storage-migration.lock` is there. -/
  migrationLock : Bool
  /-- For each runtime lease, whether its process is alive. -/
  leases : List Bool

/-- What the calls use and the root does not say. -/
structure StorageEnvironment (Data View V2 : Type) where
  rules : SessionRules Data View
  /-- The journal that the migration of a V2 root makes. -/
  migrateV2 : V2 → Except SessionError (JsonlDisk Data View)
  /-- The time of an export. -/
  now : Timestamp
  /-- Whether no other process has the database open, so that closing it applies its log. -/
  lastConnection : Bool

inductive StorageError where
  | sessionStoreMigrationBusy
  | sessionStoreMigrationRuntimeActive
  | sessionStoreMigrationVerifyFailed
  | sessionStoreAuthorityAmbiguous
  | sessionStoreSwitchRequiresImport
  | session (error : SessionError)
  /-- The error of a file operation. -/
  | io

variable {Data View V2 : Type}

/-! ## Stores on the files -/

namespace StorageFiles

def tables (files : StorageFiles Data View) : Option (SqliteTables Data View) :=
  files.database.map fun database => files.wal.getD database

/-- A write to the database goes to its log. -/
def setTables (files : StorageFiles Data View) (tables : SqliteTables Data View) :
    StorageFiles Data View :=
  { files with wal := some tables }

variable (environment : StorageEnvironment Data View V2)

/-- The directory of the journal before it is initialized. -/
def startJournal (index : Option V2) (files : StorageFiles Data View) :
    Except SessionError (JsonlDisk Data View) :=
  match files.journal, index with
  | some disk, _ => .ok disk
  | none, some v2 => environment.migrateV2 v2
  | none, none => .ok {}

def initializeFiles (kind : SessionStoreKindV3) (index : Option V2) (files : StorageFiles Data View) :
    Except StorageError Unit × StorageFiles Data View :=
  match kind with
  | .jsonl =>
    match startJournal environment index files with
    | .error error => (.error (.session error), files)
    | .ok disk =>
      match (Jsonl.initializeJournal environment.rules false).run JsonlDisk.perform disk with
      | (.ok _, opened) => (.ok (), { files with journal := some opened })
      | (.error error, left) => (.error (.session error), { files with journal := some left })
  -- Opening a database makes its log files; a log without its database is not used.
  | .sqlite =>
    (.ok (), { files with
      database := some (files.database.getD {})
      wal := some (files.tables.getD {})
      shm := true })

/-- Closing the last connection to a database applies the log and removes the log files. -/
def close (kind : SessionStoreKindV3) (files : StorageFiles Data View) : StorageFiles Data View :=
  match kind, environment.lastConnection with
  | .sqlite, true =>
    { files with
      database := files.tables
      wal := if files.database.isSome then none else files.wal
      shm := if files.database.isSome then false else files.shm }
  | _, _ => files

def operate {α : Type} (kind : SessionStoreKindV3)
    (operation : {σ : Type} → SessionStore Data View σ → Action SessionError σ α)
    (files : StorageFiles Data View) : Except StorageError α × StorageFiles Data View :=
  let answer : Except SessionError α × StorageFiles Data View :=
    match kind with
    | .jsonl =>
      match files.journal with
      | none => (.error .sessionJournalNotInitialized, files)
      | some disk =>
        let (result, after) := operation (jsonlSessionJournalV3 environment.rules) disk
        (result, { files with journal := some after })
    | .sqlite =>
      match files.tables with
      | none => (.error .sessionJournalNotInitialized, files)
      | some tables =>
        let (result, after) := operation (sqliteSessionJournalV3 environment.rules) tables
        (result, files.setTables after)
  match answer with
  | (.ok value, after) => (.ok value, after)
  | (.error error, after) => (.error (.session error), after)

def detectBackendAuthorities (files : StorageFiles Data View) : List SessionStoreKindV3 :=
  (if files.journal.any (·.authority) then [.jsonl] else []) ++
    if files.database.isSome then [.sqlite] else []

end StorageFiles

/-! ## File operations that may fail -/

/-- The steps in which a file is written whole. -/
inductive WriteStep where
  | mkdir
  | open_
  | write
  | sync
  | close
  | rename
deriving DecidableEq

inductive MovedFile where
  | marker
  | journal
  | database
  | wal
  | shm
deriving DecidableEq

/-- What a migration moves: the marker and the source to the backup, the target to the root. -/
inductive MigrationMove where
  | marker
  | source
  | target
deriving DecidableEq

inductive MoveStep where
  | stat
  | mkdir
  | rename
deriving DecidableEq

/-- The steps of `createSessionJournalCompositionV3`. Operations that follow each other and touch
none of the files are one step. -/
inductive CompositionStep where
  | statMigrationLock
  | lockAuthority
  | statJournal
  | statDatabase
  | readMarker
  | openStore
  | writeMarker (step : WriteStep)
  | unlockAuthority
  | openStoreAgain
  | lockLease
  | readLeases
  | unlinkLease
  | createLease
  | unlockLease
  | statMigrationLockAgain
deriving DecidableEq

/-- The steps of `migrateSessionStorageV3`, apart from those that roll back. -/
inductive StorageStep where
  | compose (step : CompositionStep)
  | exportComposition
  | closeComposition
  | readMarker
  | statIndex
  | makeLock (step : WriteStep)
  | closeLock
  | unlinkLock
  | readLeases
  | unlinkLease
  | initializeSource
  | exportSource
  | mkdirStaging
  | initializeTarget
  | importTarget
  | exportTarget
  | closeTarget
  | closeSource
  | mkdirBackup
  | mkdirMove (move : MigrationMove)
  | moveFile (move : MigrationMove) (file : MovedFile) (step : MoveStep)
  | writeAuthority (step : WriteStep)
  | removeStaging
  | closeSourceAgain
deriving DecidableEq

/-- A call on the root. -/
abbrev StorageAction (Data View V2 : Type) :=
  Action StorageError (StorageRoot Data View V2)

/-- The call has no error at any step. -/
def noFault : StorageStep → Bool := fun _ => false

section Steps

variable (fails : StorageStep → Bool) (step : StorageStep)

def look {α : Type} (view : StorageRoot Data View V2 → α) : StorageAction Data View V2 α :=
  fun root => if fails step then (.error .io, root) else (.ok (view root), root)

/-- A step that changes the root. -/
def touch (effect : StorageRoot Data View V2 → StorageRoot Data View V2) :
    StorageAction Data View V2 Unit :=
  fun root => if fails step then (.error .io, root) else (.ok (), effect root)

/-- A step without an effect on the root. -/
def pass : StorageAction Data View V2 Unit := touch fails step id

end Steps

namespace StorageRoot

def withFiles (root : StorageRoot Data View V2) (place : StoragePlace)
    (files : StorageFiles Data View) : StorageRoot Data View V2 :=
  { root with files := Function.update root.files place files }

def indexAt (root : StorageRoot Data View V2) : StoragePlace → Option V2
  | .root => root.index
  | .staging | .backup => none

end StorageRoot

section Stores

variable (environment : StorageEnvironment Data View V2) (fails : StorageStep → Bool)
  (step : StorageStep) (place : StoragePlace) (kind : SessionStoreKindV3)

/-- A step that works on the files of one place. -/
def workOn {α : Type}
    (work : StorageRoot Data View V2 → StorageFiles Data View →
      Except StorageError α × StorageFiles Data View) : StorageAction Data View V2 α :=
  fun root =>
    if fails step then (.error .io, root)
    else
      let (result, files) := work root (root.files place)
      (result, root.withFiles place files)

def initializeStore : StorageAction Data View V2 Unit :=
  workOn fails step place fun root files =>
    files.initializeFiles environment kind (root.indexAt place)

def operateStore {α : Type}
    (operation : {σ : Type} → SessionStore Data View σ → Action SessionError σ α) :
    StorageAction Data View V2 α :=
  workOn fails step place fun _ files => files.operate environment kind operation

def closeStore : StorageAction Data View V2 Unit :=
  workOn fails step place fun _ files => (.ok (), files.close environment kind)

end Stores

/-! ## The composition -/

section Composition

variable (environment : StorageEnvironment Data View V2) (fails : StorageStep → Bool)
  (requested : SessionStoreKindV3)

def atomicWriteAuthority (site : WriteStep → StorageStep) (marker : SessionStoreKindV3) :
    StorageAction Data View V2 Unit := do
  [.mkdir, .open_, .write, .sync, .close].forM fun step => pass fails (site step)
  touch fails (site .rename) fun root =>
    root.withFiles .root { root.files .root with marker := some marker }

def withAuthorityLock {α : Type} (lock unlock : CompositionStep)
    (action : StorageAction Data View V2 α) : StorageAction Data View V2 α := do
  pass fails (.compose lock)
  Action.ensuring action (pass fails (.compose unlock))

/-- The part of the composition that selects the authority; says whether it initialized the store. -/
def selectAuthority : StorageAction Data View V2 Bool := do
  let journal ← look fails (.compose .statJournal) fun root => (root.files .root).journal
  let database ← look fails (.compose .statDatabase) fun root => (root.files .root).database
  let authorities := StorageFiles.detectBackendAuthorities
    { journal
      database }
  Action.check (ensure (decide (authorities.length ≤ 1)) .sessionStoreAuthorityAmbiguous)
  let existing ← look fails (.compose .readMarker) fun root => (root.files .root).marker
  let detected := authorities.head?
  Action.check (ensure (existing.all (· == requested) && detected.all (· == requested))
    .sessionStoreSwitchRequiresImport)
  let initializes := existing.isNone || detected.isNone
  if initializes then
    Action.catching (initializeStore environment fails (.compose .openStore) .root requested)
      fun error => do
        closeStore environment noFault (.compose .openStore) .root requested
        Action.check (.error error)
  if existing.isNone then atomicWriteAuthority fails (.compose <| .writeMarker ·) requested
  return initializes

/-- `createRuntimeLease`, without what it says about other leases. -/
def createRuntimeLease : StorageAction Data View V2 Unit := do
  pass fails (.compose .readLeases)
  touch fails (.compose .unlinkLease) fun root => { root with leases := root.leases.filter id }
  touch fails (.compose .createLease) fun root => { root with leases := root.leases ++ [true] }

/-- The composition removes its own lease, the last one. -/
def removeLease : StorageAction Data View V2 Unit :=
  touch noFault (.compose .unlinkLease) fun root => { root with leases := root.leases.dropLast }

def createSessionJournalCompositionV3 : StorageAction Data View V2 Unit := do
  let busy ← look fails (.compose .statMigrationLock) (·.migrationLock)
  Action.check (ensure (!busy) .sessionStoreMigrationBusy)
  let initialized ← withAuthorityLock fails .lockAuthority .unlockAuthority
    (selectAuthority environment fails requested)
  if !initialized then
    initializeStore environment fails (.compose .openStoreAgain) .root requested
  Action.catching (withAuthorityLock fails .lockLease .unlockLease (createRuntimeLease fails))
    fun error => do
      closeStore environment noFault (.compose .lockLease) .root requested
      Action.check (.error error)
  let busy ← look fails (.compose .statMigrationLockAgain) (·.migrationLock)
  if busy then do
    removeLease
    closeStore environment noFault (.compose .statMigrationLockAgain) .root requested
    Action.check (.error .sessionStoreMigrationBusy)

def closeComposition : StorageAction Data View V2 Unit :=
  Action.ensuring (closeStore environment fails .closeComposition .root requested) removeLease

end Composition

end Praxis.Session
