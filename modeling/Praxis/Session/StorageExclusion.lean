import Praxis.Session.StorageSystem

/-!
# Exclusion by two flags

A composition makes its lease before it looks at the migration lock for the last time; the migration
makes its lock before it lists the leases. So no composition is open while the migration moves files,
in any run (`Guarded`). That the composition opens the right store needs more: see `Placed`.
-/

namespace Praxis.Session

set_option autoImplicit false

variable {Call Commit : Type}

/-! ## Leases and the lock -/

/-- The call has a lease file. -/
def CompositionPhase.leased : CompositionPhase → Bool
  | .unlockingLease | .checking | .returned | .refused => true
  | _ => false

def MigrationPhase.locked : MigrationPhase Call Commit → Bool
  | .inspecting | .indexing | .composing _ _ | .closing _ _ | .locking _ | .finished => false
  | _ => true

/-- The composition may be open, as far as the migration has seen. -/
def MigrationPhase.MayBeOpen (call : Call) : MigrationPhase Call Commit → Prop
  | .inspectingLeases _ found => call ∈ found
  | .initializing _ | .exporting _ | .staging _ _ | .movingMarker _ | .movingSource _
  | .movingLogs _ | .movingTarget _ | .marking | .returningSource _ | .returningMarker => False
  | _ => True

theorem MigrationPhase.mayBeOpen_of_unlocked {migration : MigrationPhase Call Commit}
    (unlocked : migration.locked = false) (call : Call) : migration.MayBeOpen call := by
  cases migration <;> trivial

namespace StorageSystem

variable [DecidableEq Call] {calls : StorageCalls Call Commit} {system : StorageSystem Call Commit}

/-- Every lease has its file, the lock is there while the migration needs it, and only those
compositions are open that the migration has yet to see. -/
structure Guarded (system : StorageSystem Call Commit) : Prop where
  leased : ∀ call, (system.phase call).leased = true → call ∈ system.leases
  locked : system.migration.locked = true → system.migrationLock = true
  seen : ∀ call, system.phase call = .returned → system.migration.MayBeOpen call

variable {after : StorageSystem Call Commit} {phase : CompositionPhase}

theorem Guarded.of_phase (guarded : Guarded system) {call : Call}
    (phases : after.phase = Function.update system.phase call phase)
    (migration : after.migration = system.migration)
    (locks : after.migrationLock = system.migrationLock)
    (leases : ∀ other, other ≠ call → other ∈ system.leases → other ∈ after.leases)
    (own : phase.leased = true → call ∈ after.leases)
    (opens : phase = .returned → system.migration.MayBeOpen call) : Guarded after where
  leased other has := by
    rw [phases] at has
    by_cases same : other = call
    · subst same
      rw [Function.update_self] at has
      exact own has
    · rw [Function.update_of_ne same] at has
      exact leases other same (guarded.leased other has)
  locked held := by
    rw [locks]
    exact guarded.locked (migration ▸ held)
  seen other returned := by
    rw [migration]
    rw [phases] at returned
    by_cases same : other = call
    · subst same
      rw [Function.update_self] at returned
      exact opens returned
    · rw [Function.update_of_ne same] at returned
      exact guarded.seen other returned

omit [DecidableEq Call] in
theorem Guarded.of_migration (guarded : Guarded system) (phases : after.phase = system.phase)
    (leases : after.leases = system.leases)
    (locks : after.migration.locked = true → after.migrationLock = true)
    (seen : ∀ call, system.phase call = .returned → after.migration.MayBeOpen call) :
    Guarded after where
  leased call has := by
    rw [phases] at has
    rw [leases]
    exact guarded.leased call has
  locked := locks
  seen call returned := by
    rw [phases] at returned
    exact seen call returned

omit [DecidableEq Call] in
theorem Guarded.of_unlocked (guarded : Guarded system) (phases : after.phase = system.phase)
    (leases : after.leases = system.leases) (unlocked : after.migration.locked = false) :
    Guarded after := by
  refine guarded.of_migration phases leases (fun held => ?_) fun call _ =>
    MigrationPhase.mayBeOpen_of_unlocked unlocked call
  rw [unlocked] at held
  cases held

theorem Guarded.of_quiet (guarded : Guarded system) {call : Call}
    (phases : after.phase = Function.update system.phase call phase)
    (migration : after.migration = system.migration)
    (locks : after.migrationLock = system.migrationLock)
    (leases : ∀ other, other ≠ call → other ∈ system.leases → other ∈ after.leases)
    (quiet : phase.leased = false) : Guarded after := by
  refine guarded.of_phase phases migration locks leases (fun has => ?_) fun returned => ?_
  · rw [quiet] at has
    cases has
  · subst returned
    cases quiet

theorem Guarded.advance (guarded : Guarded system) (call : Call) :
    Guarded (system.advance calls call) := by
  have erased : ∀ other, other ≠ call → other ∈ system.leases → other ∈ system.leases.erase call :=
    fun other apart member => (List.mem_erase_of_ne apart).mpr member
  have leased := guarded.leased call
  cases phase : system.phase call <;> simp only [StorageSystem.advance, phase]
  case starting =>
    refine guarded.of_quiet rfl rfl rfl (fun _ _ => id) ?_
    split <;> rfl
  case waiting =>
    split
    · exact guarded
    · exact guarded.of_quiet rfl rfl rfl (fun _ _ => id) rfl
  case detecting => exact guarded.of_quiet rfl rfl rfl (fun _ _ => id) rfl
  case detectingDatabase journal =>
    split <;> exact guarded.of_quiet rfl rfl rfl (fun _ _ => id) rfl
  case reading detected =>
    split
    · split <;> exact guarded.of_quiet rfl rfl rfl (fun _ _ => id) rfl
    · exact guarded.of_quiet rfl rfl rfl (fun _ _ => id) rfl
  case initializing marks =>
    refine guarded.of_quiet rfl rfl rfl (fun _ _ => id) ?_
    split <;> rfl
  case marking => exact guarded.of_quiet rfl rfl rfl (fun _ _ => id) rfl
  case unlocking initialized =>
    refine guarded.of_quiet rfl rfl rfl (fun _ _ => id) ?_
    rcases initialized with _ | _ | _ <;> rfl
  case opening => exact guarded.of_quiet rfl rfl rfl (fun _ _ => id) rfl
  case waitingLease =>
    split
    · exact guarded
    · exact guarded.of_quiet rfl rfl rfl (fun _ _ => id) rfl
  case leasing =>
    refine guarded.of_phase rfl rfl rfl (fun _ _ => List.mem_append_left _) (fun _ => ?_) nofun
    simp
  case unlockingLease =>
    rw [phase] at leased
    exact guarded.of_phase rfl rfl rfl (fun _ _ => id) (fun _ => leased rfl) nofun
  case checking =>
    rw [phase] at leased
    refine guarded.of_phase rfl rfl rfl (fun _ _ => id) (fun _ => leased rfl) fun opens => ?_
    -- Only without the lock is the composition returned, and then the migration does not hold it.
    refine MigrationPhase.mayBeOpen_of_unlocked ?_ call
    by_contra held
    rw [guarded.locked (by simpa using held)] at opens
    cases opens
  case returned | ended => exact guarded
  case refused => exact guarded.of_quiet rfl rfl rfl erased rfl

theorem Guarded.advanceMigration (guarded : Guarded system) (own : Call) (succeeds : Bool) :
    Guarded (system.advanceMigration calls own succeeds) := by
  have locked := guarded.locked
  have seen := guarded.seen
  cases migration : system.migration <;> rw [migration] at locked seen <;>
    simp only [StorageSystem.advanceMigration, migration]
  case inspecting => split <;> exact guarded.of_unlocked rfl rfl rfl
  case indexing =>
    generalize (if calls.index.isSome then SessionStoreKindV3.jsonl else calls.target) = wanted
    split
    · exact guarded.of_unlocked rfl rfl rfl
    · exact guarded
  case composing call indexed =>
    split
    · exact guarded.of_unlocked rfl rfl rfl
    · exact guarded.of_unlocked rfl rfl rfl
    · exact guarded
  case closing call indexed =>
    have erased : ∀ other, other ≠ call → other ∈ system.leases →
        other ∈ system.leases.erase call :=
      fun other apart member => (List.mem_erase_of_ne apart).mpr member
    have closed : Guarded
        { system.withPhase call .ended with leases := system.leases.erase call } :=
      guarded.of_quiet rfl rfl rfl erased rfl
    refine closed.of_unlocked rfl rfl ?_
    split <;> rfl
  case locking source =>
    split
    · exact guarded.of_unlocked rfl rfl rfl
    · exact guarded.of_migration rfl rfl (fun _ => rfl) fun _ _ => trivial
  case scanning source =>
    -- Whatever is open has a lease, which is listed.
    refine guarded.of_migration rfl rfl locked fun call returned => guarded.leased call ?_
    rw [returned]
    rfl
  case inspectingLeases source found =>
    cases found with
    | nil => exact guarded.of_migration rfl rfl locked fun call returned => nomatch seen call returned
    | cons first rest =>
      dsimp only
      split
      · exact guarded.of_migration rfl rfl locked fun _ _ => trivial
      · rename_i gone
        refine guarded.of_migration rfl rfl locked fun call returned => ?_
        rcases List.mem_cons.mp (seen call returned) with rfl | later
        · refine absurd (guarded.leased call ?_) gone
          rw [returned]
          rfl
        · exact later
  case initializing source => exact guarded.of_migration rfl rfl locked seen
  case exporting source =>
    split
    · exact guarded.of_migration rfl rfl locked fun _ _ => trivial
    · split
      · exact guarded.of_migration rfl rfl locked fun _ _ => trivial
      · exact guarded.of_migration rfl rfl locked seen
  case staging source archive =>
    split
    · exact guarded.of_migration rfl rfl locked seen
    · exact guarded.of_migration rfl rfl locked fun _ _ => trivial
  case movingMarker source => exact guarded.of_migration rfl rfl locked seen
  case movingSource source =>
    cases source <;> exact guarded.of_migration rfl rfl locked seen
  case movingLogs source =>
    split
    · exact guarded.of_migration rfl rfl locked seen
    · exact guarded.of_migration rfl rfl locked fun _ _ => trivial
  case movingTarget source =>
    split <;> exact guarded.of_migration rfl rfl locked seen
  case marking | returningMarker =>
    exact guarded.of_migration rfl rfl locked fun _ _ => trivial
  case returningSource source => exact guarded.of_migration rfl rfl locked seen
  case unlocking => exact guarded.of_unlocked rfl rfl rfl
  case finished => exact guarded

theorem Guarded.perform (guarded : Guarded system) (event : StorageEvent Call Commit) :
    Guarded (system.perform calls event) := by
  cases event with
  | compose call => exact guarded.advance call
  | giveUp call =>
    simp only [StorageSystem.perform]
    split
    · exact guarded.of_quiet rfl rfl rfl (fun _ _ => id) rfl
    · exact guarded.of_quiet rfl rfl rfl (fun _ _ => id) rfl
    · exact guarded
  | stale => exact ⟨guarded.leased, guarded.locked, guarded.seen⟩
  | commit call commit =>
    simp only [StorageSystem.perform]
    split
    · split
      · exact guarded
      · exact ⟨guarded.leased, guarded.locked, guarded.seen⟩
    · exact guarded
  | close call =>
    simp only [StorageSystem.perform]
    split
    · exact guarded.of_quiet rfl rfl rfl
        (fun other apart member => (List.mem_erase_of_ne apart).mpr member) rfl
    · exact guarded
  | migrate own succeeds => exact guarded.advanceMigration own succeeds

omit [DecidableEq Call] in
/-- **No composition is open while the migration moves files.** -/
theorem Guarded.closed (guarded : Guarded system) (moves : system.migration.moves = true)
    (call : Call) : system.phase call ≠ .returned := by
  intro returned
  have seen := guarded.seen call returned
  cases migration : system.migration <;> rw [migration] at moves seen <;>
    first | exact seen | cases moves

end StorageSystem

end Praxis.Session
