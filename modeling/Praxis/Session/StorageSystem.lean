import Praxis.Session.StandingStore

/-!
# Compositions and a migration on one root

Any number of calls of `createSessionJournalCompositionV3` and one of `migrateSessionStorageV3` work
on one root. Each file operation of a call is a step of its own, and the calls take their steps in
any order. A backend is the list of the commits that it holds; the log files of a database move with
it, or the migration fails between the two.
-/

namespace Praxis.Session

set_option autoImplicit false

/-! ## Calls and steps -/

/-- Where a call of `createSessionJournalCompositionV3` stands. -/
inductive CompositionPhase where
  /-- Before it looks for the migration lock. -/
  | starting
  /-- Before it takes the authority lock, to select the authority. -/
  | waiting
  /-- Before it looks for the journal. -/
  | detecting
  /-- Before it looks for the database. -/
  | detectingDatabase (journal : Bool)
  /-- Before it reads the marker. -/
  | reading (detected : Option SessionStoreKindV3)
  /-- Before it initializes the store under the authority lock. -/
  | initializing (marks : Bool)
  /-- Before it writes the marker. -/
  | marking
  /-- Before it releases the authority lock; whether it initialized the store, if it goes on. -/
  | unlocking (initialized : Option Bool)
  /-- Before it initializes the store. -/
  | opening
  /-- Before it takes the authority lock, to make its lease. -/
  | waitingLease
  | leasing
  /-- Before it releases the authority lock again. -/
  | unlockingLease
  /-- Before it looks for the migration lock again. -/
  | checking
  /-- The composition is open. -/
  | returned
  /-- Before it removes its lease, because the migration lock was there. -/
  | refused
  /-- The call was rejected, or the composition is closed. -/
  | ended
deriving DecidableEq

inductive MigrationPhase (Call Commit : Type) where
  /-- Before it reads the marker. -/
  | inspecting
  /-- There was no marker: before it looks for a V2 root. -/
  | indexing
  /-- Its own composition is on its way, for the V2 root if there is one. -/
  | composing (call : Call) (indexed : Bool)
  /-- Before it closes its own composition. -/
  | closing (call : Call) (indexed : Bool)
  /-- Before it makes the migration lock. -/
  | locking (source : SessionStoreKindV3)
  /-- Before it lists the leases. -/
  | scanning (source : SessionStoreKindV3)
  /-- Before it reads the first of the listed leases. -/
  | inspectingLeases (source : SessionStoreKindV3) (found : List Call)
  | initializing (source : SessionStoreKindV3)
  | exporting (source : SessionStoreKindV3)
  /-- Before the staged store is filled and verified. -/
  | staging (source : SessionStoreKindV3) (archive : List Commit)
  | movingMarker (source : SessionStoreKindV3)
  | movingSource (source : SessionStoreKindV3)
  /-- The database has moved: before its log files do. -/
  | movingLogs (source : SessionStoreKindV3)
  | movingTarget (source : SessionStoreKindV3)
  /-- Before it writes the marker. -/
  | marking
  /-- The target could not be moved in: before the source is moved back. -/
  | returningSource (source : SessionStoreKindV3)
  /-- Before the marker is moved back. -/
  | returningMarker
  /-- Before it removes the migration lock. -/
  | unlocking
  | finished

/-- The migration moves files in the root. -/
def MigrationPhase.moves {Call Commit : Type} : MigrationPhase Call Commit → Bool
  | .movingMarker _ | .movingSource _ | .movingLogs _ | .movingTarget _ | .marking
  | .returningSource _ | .returningMarker => true
  | _ => false

/-- What the calls ask for, and what they find of a V2 root. -/
structure StorageCalls (Call Commit : Type) where
  requested : Call → SessionStoreKindV3
  target : SessionStoreKindV3
  /-- The commits of the journal that is made from the V2 root. -/
  index : Option (List Commit)

structure StorageSystem (Call Commit : Type) where
  backend : SessionStoreKindV3 → Option (List Commit)
  marker : Option SessionStoreKindV3
  migrationLock : Bool := false
  authorityLock : Bool := false
  /-- The calls whose lease files are there. -/
  leases : List Call := []
  phase : Call → CompositionPhase := fun _ => .starting
  migration : MigrationPhase Call Commit := .inspecting
  /-- The backend of the target's kind in the staging directory. -/
  staged : Option (List Commit) := none
  /-- The backend and the marker in the backup directory. -/
  backup : Option (List Commit) := none
  backupMarker : Option SessionStoreKindV3 := none
  /-- What was there at first, and all that open compositions have committed. -/
  committed : List Commit

inductive StorageEvent (Call Commit : Type) where
  /-- A composition takes its next step. -/
  | compose (call : Call)
  /-- A composition waits no longer for the authority lock. -/
  | giveUp (call : Call)
  /-- Some call takes the authority lock for stale and removes it. -/
  | stale
  | commit (call : Call) (commit : Commit)
  | close (call : Call)
  /-- The migration takes its next step; its own composition, if it needs one, is the given call.
  The staged store may not be filled, and the log files of a database may not be moved. -/
  | migrate (own : Call) (succeeds : Bool)

variable {Call Commit : Type} [DecidableEq Call] (calls : StorageCalls Call Commit)

/-- What a store holds that was initialized where there was none. -/
def StorageCalls.fresh : SessionStoreKindV3 → List Commit
  | .jsonl => calls.index.getD []
  | .sqlite => []

namespace StorageSystem

variable (system : StorageSystem Call Commit)

def withPhase (call : Call) (phase : CompositionPhase) : StorageSystem Call Commit :=
  { system with phase := Function.update system.phase call phase }

def withBackend (kind : SessionStoreKindV3) (stored : Option (List Commit)) :
    StorageSystem Call Commit :=
  { system with backend := Function.update system.backend kind stored }

def initializeBackend (kind : SessionStoreKindV3) : StorageSystem Call Commit :=
  system.withBackend kind (some ((system.backend kind).getD (calls.fresh kind)))

/-- The next step of a composition. -/
def advance (call : Call) : StorageSystem Call Commit :=
  let requested := calls.requested call
  match system.phase call with
  | .starting => system.withPhase call (if system.migrationLock then .ended else .waiting)
  | .waiting =>
    if system.authorityLock then system
    else { system.withPhase call .detecting with authorityLock := true }
  | .detecting => system.withPhase call (.detectingDatabase (system.backend .jsonl).isSome)
  | .detectingDatabase journal =>
    let database := (system.backend .sqlite).isSome
    if journal && database then system.withPhase call (.unlocking none)
    else system.withPhase call
      (.reading (if journal then some .jsonl else if database then some .sqlite else none))
  | .reading detected =>
    if system.marker.all (· == requested) && detected.all (· == requested) then
      if system.marker.isNone || detected.isNone then
        system.withPhase call (.initializing system.marker.isNone)
      else system.withPhase call (.unlocking (some false))
    else system.withPhase call (.unlocking none)
  | .initializing marks =>
    (system.initializeBackend calls requested).withPhase call
      (if marks then .marking else .unlocking (some true))
  | .marking =>
    { system.withPhase call (.unlocking (some true)) with marker := some requested }
  | .unlocking initialized =>
    { system.withPhase call
        (match initialized with
        | none => .ended
        | some true => .waitingLease
        | some false => .opening) with authorityLock := false }
  | .opening => (system.initializeBackend calls requested).withPhase call .waitingLease
  | .waitingLease =>
    if system.authorityLock then system
    else { system.withPhase call .leasing with authorityLock := true }
  | .leasing =>
    { system.withPhase call .unlockingLease with leases := system.leases ++ [call] }
  | .unlockingLease => { system.withPhase call .checking with authorityLock := false }
  | .checking => system.withPhase call (if system.migrationLock then .refused else .returned)
  | .refused => { system.withPhase call .ended with leases := system.leases.erase call }
  | .returned | .ended => system

def withMigration (migration : MigrationPhase Call Commit) : StorageSystem Call Commit :=
  { system with migration }

/-- The next step of the migration. -/
def advanceMigration (own : Call) (succeeds : Bool) : StorageSystem Call Commit :=
  match system.migration with
  | .inspecting =>
    match system.marker with
    | some source => system.withMigration (.locking source)
    | none => system.withMigration .indexing
  | .indexing =>
    let wanted := if calls.index.isSome then .jsonl else calls.target
    if system.phase own = .starting ∧ calls.requested own = wanted then
      system.withMigration (.composing own calls.index.isSome)
    else system
  | .composing call indexed =>
    match system.phase call with
    | .returned => system.withMigration (.closing call indexed)
    | .ended => system.withMigration .finished
    | _ => system
  | .closing call indexed =>
    { system.withPhase call .ended with
      leases := system.leases.erase call
      migration := if indexed then .locking .jsonl else .finished }
  | .locking source =>
    if system.migrationLock then system.withMigration .finished
    else { system with
      migrationLock := true
      migration := .scanning source }
  | .scanning source => system.withMigration (.inspectingLeases source system.leases)
  | .inspectingLeases source [] => system.withMigration (.initializing source)
  | .inspectingLeases source (call :: rest) =>
    -- A lease that is gone by now is no longer of a live process.
    if call ∈ system.leases then system.withMigration .unlocking
    else system.withMigration (.inspectingLeases source rest)
  | .initializing source =>
    (system.initializeBackend calls source).withMigration (.exporting source)
  | .exporting source =>
    match system.backend source with
    | none => system.withMigration .unlocking
    | some archive =>
      if source = calls.target then system.withMigration .unlocking
      else system.withMigration (.staging source archive)
  | .staging source archive =>
    if succeeds then { system with
      staged := some archive
      migration := .movingMarker source }
    else system.withMigration .unlocking
  | .movingMarker source =>
    { system with
      marker := none
      backupMarker := system.marker
      migration := .movingSource source }
  | .movingSource source =>
    { system.withBackend source none with
      backup := system.backend source
      migration := match source with
        | .jsonl => .movingTarget source
        | .sqlite => .movingLogs source }
  | .movingLogs source =>
    if succeeds then system.withMigration (.movingTarget source)
    else system.withMigration .unlocking
  | .movingTarget source =>
    -- A directory does not take the place of one that is there; a file does.
    if calls.target = .jsonl ∧ (system.backend .jsonl).isSome then
      system.withMigration (.returningSource source)
    else { system.withBackend calls.target system.staged with
      staged := none
      migration := .marking }
  | .marking => { system.withMigration .unlocking with marker := some calls.target }
  | .returningSource source =>
    -- The staged journal is still there, so the journal of the root stays where it is.
    { system.withBackend source (system.backup.or (system.backend source)) with
      backup := none
      migration := .returningMarker }
  | .returningMarker =>
    { system.withMigration .unlocking with
      marker := system.backupMarker.or system.marker
      backupMarker := none }
  | .unlocking =>
    { system with
      migrationLock := false
      migration := .finished }
  | .finished => system

/-- The composition is one that the migration made for itself. -/
def owned (call : Call) : Bool :=
  match system.migration with
  | .composing own _ | .closing own _ => own == call
  | _ => false

def perform : StorageEvent Call Commit → StorageSystem Call Commit
  | .compose call => system.advance calls call
  | .giveUp call =>
    match system.phase call with
    | .waiting | .waitingLease => system.withPhase call .ended
    | _ => system
  | .stale => { system with authorityLock := false }
  | .commit call commit =>
    if system.phase call = .returned ∧ system.owned call = false then
      match system.backend (calls.requested call) with
      | none => system
      | some stored =>
        { system.withBackend (calls.requested call) (some (stored ++ [commit])) with
          committed := system.committed ++ [commit] }
    else system
  | .close call =>
    if system.phase call = .returned ∧ system.owned call = false then
      { system.withPhase call .ended with leases := system.leases.erase call }
    else system
  | .migrate own succeeds => system.advanceMigration calls own succeeds

def run : StorageSystem Call Commit → List (StorageEvent Call Commit) → StorageSystem Call Commit
  | system, [] => system
  | system, event :: rest => run (system.perform calls event) rest

/-- A root that has one backend, with or without its marker. -/
def existing (kind : SessionStoreKindV3) (marked : Bool) (content : List Commit) :
    StorageSystem Call Commit where
  backend := Function.update (fun _ => none) kind (some content)
  marker := if marked then some kind else none
  committed := content

/-! ## Properties -/

/-- What must hold at any time. -/
structure Excludes : Prop where
  /-- No composition is open while the migration moves files. -/
  closed : system.migration.moves = true → ∀ call, system.phase call ≠ .returned
  /-- The store of an open composition has all that was committed. -/
  complete : ∀ call, system.phase call = .returned →
    ∃ stored, system.backend (calls.requested call) = some stored ∧ system.committed ⊆ stored
  named : ∀ call, system.phase call = .returned → system.marker = some (calls.requested call)
  single : ¬((system.backend .jsonl).isSome ∧ (system.backend .sqlite).isSome)

/-- The event is not a step in which a composition initializes a store that is not there, writes
its marker over the other one, or passes the last look at the migration lock without its store. -/
def Sound : StorageEvent Call Commit → Prop
  | .compose call =>
    match system.phase call with
    | .initializing _ | .opening => (system.backend (calls.requested call)).isSome = true
    | .marking => system.marker ≠ some (calls.requested call).other
    | .checking => system.migrationLock = false →
        (system.backend (calls.requested call)).isSome = true
    | _ => True
  | _ => True

def SoundRun : StorageSystem Call Commit → List (StorageEvent Call Commit) → Prop
  | _, [] => True
  | system, event :: rest =>
    system.Sound calls event ∧ SoundRun (system.perform calls event) rest

end StorageSystem

end Praxis.Session
