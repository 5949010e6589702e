import Praxis.Session.StorageRoot
import Praxis.Session.Transfer

/-!
# Migration of the storage

`migrateSessionStorageV3` copies the sessions of a root into a backend of the other kind below the
root, moves the old backend into a backup and the new one into the root. When the new backend cannot
be moved in, the old one is moved back.
-/

namespace Praxis.Session

set_option autoImplicit false

open Praxis.Foundations

variable {Data View V2 : Type}

/-! ## Moving files -/

namespace MovedFile

def present (files : StorageFiles Data View) : MovedFile → Bool
  | .marker => files.marker.isSome
  | .journal => files.journal.isSome
  | .database => files.database.isSome
  | .wal => files.wal.isSome
  | .shm => files.shm

/-- A directory does not take the place of one that is there; a file does. -/
def blocked (target : StorageFiles Data View) : MovedFile → Bool
  | .journal => target.journal.isSome
  | _ => false

/-- The file leaves its directory. -/
def remove (source : StorageFiles Data View) : MovedFile → StorageFiles Data View
  | .marker => { source with marker := none }
  | .journal => { source with journal := none }
  | .database => { source with database := none }
  | .wal => { source with wal := none }
  | .shm => { source with shm := false }

def arrive (source target : StorageFiles Data View) : MovedFile → StorageFiles Data View
  | .marker => { target with marker := source.marker }
  | .journal => { target with journal := source.journal }
  | .database => { target with database := source.database }
  | .wal => { target with wal := source.wal }
  | .shm => { target with shm := source.shm }

end MovedFile

/-- The files of a backend, in the order in which they are moved. -/
def SessionStoreKindV3.files : SessionStoreKindV3 → List MovedFile
  | .jsonl => [.journal]
  | .sqlite => [.database, .wal, .shm]

section Moves

variable (fails : StorageStep → Bool) (move : MigrationMove) (source target : StoragePlace)

/-- A rename between two directories. -/
def renameFile (file : MovedFile) : StorageAction Data View V2 Unit := fun root =>
  if fails (.moveFile move file .rename) || file.blocked (root.files target) then (.error .io, root)
  else
    (.ok (), (root.withFiles target (file.arrive (root.files source) (root.files target))).withFiles
      source (file.remove (root.files source)))

def moveIfPresent (file : MovedFile) : StorageAction Data View V2 Unit := do
  let present ← look fails (.moveFile move file .stat) fun root => file.present (root.files source)
  if present then do
    pass fails (.moveFile move file .mkdir)
    renameFile fails move source target file

def moveBackend (kind : SessionStoreKindV3) : StorageAction Data View V2 Unit := do
  pass fails (.mkdirMove move)
  kind.files.forM (moveIfPresent fails move source target)

end Moves

/-! ## The migration -/

structure SessionStorageMigrationReportV3 where
  source : SessionStoreKindV3
  target : SessionStoreKindV3
  changed : Bool
  sessionCount : Nat
  commitCount : Nat
  entryCount : Nat
  checksum : String

def report (source target : SessionStoreKindV3) (changed : Bool)
    (archive : PortableSessionJournalV3 Data) : SessionStorageMigrationReportV3 where
  source
  target
  changed
  sessionCount := archive.sessions.length
  commitCount := (archive.sessions.map fun session => session.2.length).sum
  entryCount := (archive.sessions.map fun session =>
    (session.2.map fun commit => commit.entries.length).sum).sum
  checksum := archive.checksum

section Migration

variable [DecidableEq Data] (environment : StorageEnvironment Data View V2)
  (fails : StorageStep → Bool) (left : StorageFiles Data View)

def exportStore (step : StorageStep) (place : StoragePlace) (kind : SessionStoreKindV3)
    (exportedAt : Timestamp) : StorageAction Data View V2 (PortableSessionJournalV3 Data) :=
  operateStore environment fails step place kind fun store =>
    exportSessionJournalV3 environment.rules store exportedAt

/-- The import into the staged store; `left` is what a failure leaves there. -/
def importTarget (target : SessionStoreKindV3) (archive : PortableSessionJournalV3 Data) :
    StorageAction Data View V2 SessionImportReportV3 := fun root =>
  if fails .importTarget then (.error .io, root.withFiles .staging left)
  else operateStore environment fails .importTarget .staging target (fun store =>
    importSessionJournalV3 environment.rules store archive) root

/-- The part that fills the staged store and verifies it. -/
def stageTarget (target : SessionStoreKindV3) (archive : PortableSessionJournalV3 Data) :
    StorageAction Data View V2 Unit := do
  touch fails .mkdirStaging (·.withFiles .staging {})
  initializeStore environment fails .initializeTarget .staging target
  Action.ensuring
    (do
      let _ ← importTarget environment fails left target archive
      let verified ← exportStore environment fails .exportTarget .staging target archive.exportedAt
      Action.check (ensure (verified.checksum == archive.checksum)
        .sessionStoreMigrationVerifyFailed))
    (closeStore environment fails .closeTarget .staging target)

/-- The part that puts the staged store in the place of the source, or the source back. -/
def switchBackend (source target : SessionStoreKindV3) : StorageAction Data View V2 Unit := do
  moveIfPresent fails .marker .root .backup .marker
  moveBackend fails .source .root .backup source
  Action.ensuring
    (Action.catching
      (do
        moveBackend fails .target .staging .root target
        atomicWriteAuthority fails .writeAuthority target)
      fun error => do
        (moveBackend noFault .target .root .staging target).swallow
        (moveBackend noFault .source .backup .root source).swallow
        (moveIfPresent noFault .marker .backup .root .marker).swallow
        Action.check (.error error))
    (touch fails .removeStaging (·.withFiles .staging {}))

def assertNoActiveRuntimeLeases : StorageAction Data View V2 Unit := do
  let leases ← look fails .readLeases (·.leases)
  leases.forM fun alive => do
    Action.check (ensure (!alive) .sessionStoreMigrationRuntimeActive)
    touch fails .unlinkLease fun root => { root with leases := root.leases.erase false }

def migrateLocked (source target : SessionStoreKindV3) :
    StorageAction Data View V2 SessionStorageMigrationReportV3 := do
  assertNoActiveRuntimeLeases fails
  initializeStore environment fails .initializeSource .root source
  Action.ensuring
    (do
      let exported ← exportStore environment fails .exportSource .root source environment.now
      if source = target then return report source target false exported
      else do
        stageTarget environment fails left target exported
        closeStore environment fails .closeSource .root source
        touch fails .mkdirBackup (·.withFiles .backup {})
        switchBackend fails source target
        return report source target true exported)
    (closeStore environment fails .closeSourceAgain .root source)

/-- The lock file is made by the call that finds none. -/
def openMigrationLock : StorageAction Data View V2 Unit := fun root =>
  if fails (.makeLock .open_) then (.error .io, root)
  else if root.migrationLock then (.error .sessionStoreMigrationBusy, root)
  else (.ok (), { root with migrationLock := true })

def withMigrationLock {α : Type} (action : StorageAction Data View V2 α) :
    StorageAction Data View V2 α := do
  pass fails (.makeLock .mkdir)
  openMigrationLock fails
  Action.ensuring
    (do
      pass fails (.makeLock .write)
      pass fails (.makeLock .sync)
      action)
    (do
      pass fails .closeLock
      (touch fails .unlinkLock fun root => { root with migrationLock := false }).swallow)

/-- The kind of the store to migrate; a V2 root without a marker is migrated first. -/
def findSource : StorageAction Data View V2 (Option SessionStoreKindV3) := do
  let marked ← look fails .readMarker fun root => (root.files .root).marker
  if marked.isSome then return marked
  else do
    let indexed ← look fails .statIndex (·.index.isSome)
    if indexed then do
      createSessionJournalCompositionV3 environment fails .jsonl
      closeComposition environment fails .jsonl
      return some .jsonl
    else return none

def migrateSessionStorageV3 (target : SessionStoreKindV3) :
    StorageAction Data View V2 SessionStorageMigrationReportV3 := do
  match ← findSource environment fails with
  | some source => withMigrationLock fails (migrateLocked environment fails left source target)
  | none =>
    createSessionJournalCompositionV3 environment fails target
    let exported ← exportStore environment fails .exportComposition .root target environment.now
    closeComposition environment fails target
    return report target target false exported

end Migration

end Praxis.Session
