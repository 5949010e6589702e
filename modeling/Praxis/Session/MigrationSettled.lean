import Praxis.Session.MigrationSwitch

/-!
# What a migration leaves

Under its lock, a migration leaves a root that stands, or a `Lost` one if it failed in the middle of
the moves of the source. The lock file is left only if it could not be closed or removed.
-/

namespace Praxis.Session

set_option autoImplicit false

open Praxis.Foundations
open Praxis.Foundations.Action (Triple)

variable {Data View V2 : Type}

/-- A log file of the database cannot be moved; it is there if another process has the database
open. -/
def SplitFault (fails : StorageStep → Bool) (lastConnection : Bool) : Prop :=
  ∃ file ∈ [MovedFile.wal, .shm], MoveFails fails .source file (!lastConnection)

section Locked

variable {environment : StorageEnvironment Data View V2} {fails : StorageStep → Bool}
  {left : StorageFiles Data View} {hard : Prop} {source target : SessionStoreKindV3}
  {content : CommitLog Data} {ids : List String} {lock : Bool} {index : Option V2}
  {leases : List Bool} (easy : ∀ step, splits step = false → hard → fails step = false)

include easy in
theorem assertNoActiveRuntimeLeases_triple (dead : hard → ∀ alive ∈ leases, alive = false) :
    Triple
      (fun root => Rooted environment.rules source content lock index root ∧ root.leases = leases)
      (assertNoActiveRuntimeLeases fails)
      (fun _ root => Rooted environment.rules source content lock index root ∧
        ∀ alive ∈ leases, alive = false)
      fun _ root => Rooted environment.rules source content lock index root ∧ ¬hard := by
  unfold assertNoActiveRuntimeLeases
  have reads : Triple
      (fun root : StorageRoot Data View V2 =>
        Rooted environment.rules source content lock index root ∧ root.leases = leases)
      (look fails .readLeases (·.leases))
      (fun found root => Rooted environment.rules source content lock index root ∧ found = leases)
      fun _ root => Rooted environment.rules source content lock index root ∧ ¬hard :=
    (look_triple (easy _ rfl)).mono (fun _ => id)
      (fun _ _ holds => ⟨holds.1.1, holds.2.trans holds.1.2⟩) fun _ _ holds => ⟨holds.1.1, holds.2⟩
  refine reads.bind fun found => .fact fun same => ?_
  subst same
  refine .forM fun alive member => ?_
  have checks : Triple (Rooted environment.rules source content lock index)
      (Action.check (ensure (!alive) StorageError.sessionStoreMigrationRuntimeActive))
      (fun _ root => Rooted environment.rules source content lock index root ∧ alive = false)
      fun _ root => Rooted environment.rules source content lock index root ∧ ¬hard := by
    refine .check (fun _ root passed rooted => ⟨rooted, ?_⟩) fun _ root failed rooted =>
      ⟨rooted, fun here => ?_⟩
    · simpa using ensure_eq_ok.mp passed
    · rw [dead here alive member] at failed
      cases failed
  refine checks.bind fun _ => .fact fun stale => ?_
  exact touch_triple (easy _ rfl) fun root rooted =>
    ⟨⟨rooted.stands, rooted.lock, rooted.index⟩, stale⟩

/-- The places once the store was closed, with the staged store. -/
structure Ready (environment : StorageEnvironment Data View V2) (source target : SessionStoreKindV3)
    (content : CommitLog Data) (places : StoragePlaces Data View) : Prop where
  stands : (places .root).Stands environment.rules source content
  logged : source = .sqlite → (places .root).wal.isSome = !environment.lastConnection ∧
    (places .root).shm = !environment.lastConnection
  staged : (places .staging).Stands environment.rules target content
  unmarked : (places .staging).marker = none

theorem Ready.log_present {places : StoragePlaces Data View}
    (ready : Ready environment .sqlite target content places) :
    ∀ file ∈ [MovedFile.wal, .shm], file.present (places .root) = !environment.lastConnection := by
  obtain ⟨wal, shm⟩ := ready.logged rfl
  intro file member
  simp only [List.mem_cons, List.not_mem_nil, or_false] at member
  rcases member with rfl | rfl
  · exact wal
  · exact shm

include easy in
theorem closeSource_triple :
    Triple
      (fun root => SourceOpen environment source content lock index root ∧
        (root.files .staging).Stands environment.rules target content ∧
          (root.files .staging).marker = none)
      (closeStore environment fails .closeSource .root source)
      (fun _ root => At root.files lock index root ∧
        Ready environment source target content root.files)
      (Unmoved environment source content lock index hard) := by
  unfold closeStore
  have away : StoragePlace.staging ≠ .root := by decide
  refine (workOn_triple (easy _ rfl) fun root ⟨opened, staged, unmarked⟩ => ?_).mono
    (fun _ => id) (fun _ _ => id) fun _ _ holds => ⟨holds.1.1, holds.2⟩
  have stands := opened.rooted.stands
  refine ⟨(), _, rfl, ⟨rfl, opened.rooted.lock, opened.rooted.index⟩, ?_, ?_, ?_, ?_⟩
  · rw [withFiles_self]
    exact stands.close
  · rintro rfl
    rw [withFiles_self]
    obtain ⟨wal, shm⟩ := opened.logged rfl
    obtain ⟨tables, there, _⟩ := stands.opens
    obtain ⟨database, stored, _⟩ := Option.map_eq_some_iff.mp there
    cases last : environment.lastConnection <;>
      simp [StorageFiles.close, last, stored, wal, shm]
  · rwa [withFiles_of_ne root away]
  · rwa [withFiles_of_ne root away]

include easy in
theorem mkdirBackup_triple :
    Triple
      (fun root => At root.files lock index root ∧
        Ready environment source target content root.files)
      (touch fails .mkdirBackup (·.withFiles .backup {}))
      (fun _ root => ∃ places : StoragePlaces Data View, At places lock index root ∧
        Ready environment source target content places ∧ places .backup = {})
      fun _ => Settled environment.rules content lock index hard := by
  refine (touch_triple (easy _ rfl) fun root ⟨here, ready⟩ => ?_).weaken fun _ _ failed => failed.1.1.settled failed.1.2.stands failed.2
  have away : StoragePlace.root ≠ .backup := by decide
  have away' : StoragePlace.staging ≠ .backup := by decide
  refine ⟨_, ⟨rfl, here.lock, here.index⟩, ⟨?_, ?_, ?_, ?_⟩, withFiles_self root _ _⟩
  · rw [withFiles_of_ne root away]
    exact ready.stands
  · rw [withFiles_of_ne root away]
    exact ready.logged
  · rw [withFiles_of_ne root away']
    exact ready.staged
  · rw [withFiles_of_ne root away']
    exact ready.unmarked

variable [DecidableEq Data] (kept : ∀ id, Kept environment.rules id (content id))
  (lists : Lists content.Present ids) (canonical : environment.now.Canonical)
  (hardness : hard ↔ source = .sqlite ∧ target = .jsonl ∧ (∀ alive ∈ leases, alive = false) ∧
    (∀ id ∈ ids, target.naming.admits id = true) ∧ SplitFault fails environment.lastConnection)

include easy hardness kept lists canonical in
/-- **A migration under its lock** leaves the content in one place, unless it is `hard`. -/
theorem migrateLocked_triple :
    Triple
      (fun root => Rooted environment.rules source content lock index root ∧ root.leases = leases)
      (migrateLocked environment fails left source target)
      (fun _ => Settled environment.rules content lock index hard)
      fun _ => Settled environment.rules content lock index hard := by
  have settles : ∀ error root, Unmoved environment source content lock index hard error root →
      Settled environment.rules content lock index hard root :=
    fun _ _ failed => failed.1.rooted.settled failed.2
  unfold migrateLocked
  refine ((assertNoActiveRuntimeLeases_triple easy fun here => (hardness.mp here).2.2.1).mono
    (fun _ => id) (fun _ _ => id) fun _ _ failed => failed.1.settled failed.2).bind
    fun _ => .fact fun dead => ?_
  refine ((initializeSource_triple (easy _ rfl)).weaken
    fun _ _ failed => failed.1.settled failed.2).bind fun _ => ?_
  refine Triple.ensuring (R := fun _ => Settled environment.rules content lock index hard)
    (E := fun _ => Settled environment.rules content lock index hard) ?_
    (fun _ => Settled.closes) fun _ => Settled.closes
  have exports : Triple (SourceOpen environment source content lock index)
      (exportStore environment fails .exportSource .root source environment.now)
      (fun archive root => SourceOpen environment source content lock index root ∧
        archive = archiveOf environment.rules content ids environment.now)
      fun _ => Settled environment.rules content lock index hard :=
    (exportSource_triple lists canonical (easy _ rfl)).mono (fun _ => id)
      (fun _ _ holds => ⟨holds.2, holds.1⟩) settles
  refine exports.bind fun exported => .fact fun same => ?_
  subst same
  refine .ite (fun same => .pure _ fun root opened => opened.rooted.settled fun here => ?_)
    fun apart => ?_
  · obtain ⟨rfl, other, _⟩ := hardness.mp here
    cases same.trans other
  have stages : Triple (SourceOpen environment source content lock index)
      (stageTarget environment fails left target
        (archiveOf environment.rules content ids environment.now))
      (fun _ root => (SourceOpen environment source content lock index root ∧
        (root.files .staging).Stands environment.rules target content ∧
          (root.files .staging).marker = none) ∧ ∀ id ∈ ids, target.naming.admits id = true)
      fun _ => Settled environment.rules content lock index hard :=
    (stageTarget_triple easy (fun here => (hardness.mp here).2.2.2.1) kept lists canonical).mono
      (fun _ => id) (fun _ _ holds => ⟨⟨holds.1, holds.2.1⟩, holds.2.2⟩) settles
  refine stages.bind fun _ => .fact fun admitted => ?_
  refine ((closeSource_triple easy).weaken settles).bind fun _ => ?_
  refine (mkdirBackup_triple easy).bind fun _ => .of_exists fun places => .fact fun given => ?_
  obtain ⟨ready, empty⟩ := given
  refine (switchBackend_triple easy ready.stands ready.staged ready.unmarked empty ?_).bind
    fun _ => .pure _ fun _ => id
  constructor
  · intro here
    obtain ⟨rfl, _, _, _, file, member, failed⟩ := hardness.mp here
    exact ⟨rfl, file, member, ready.log_present file member ▸ failed⟩
  · rintro ⟨rfl, file, member, failed⟩
    have other : target = .jsonl := by
      cases target with
      | jsonl => rfl
      | sqlite => exact absurd rfl apart
    rw [ready.log_present file member] at failed
    exact hardness.mpr ⟨rfl, other, dead, admitted, file, member, failed⟩

end Locked

/-! ## The lock file -/

section Lock

variable {environment : StorageEnvironment Data View V2} {fails : StorageStep → Bool}
  {hard : Prop} {content : CommitLog Data} {index : Option V2} {kind : SessionStoreKindV3}
  (alone : ∀ step step', fails step = true → fails step' = true → step = step')

/-- The lock file cannot be closed or removed. -/
def lockStays (fails : StorageStep → Bool) : Bool := fails .closeLock || fails .unlinkLock

include alone in
theorem not_lockStays {step : StorageStep} (failed : fails step = true) (other : step ≠ .closeLock)
    (other' : step ≠ .unlinkLock) : lockStays fails = false := by
  by_contra stays
  rcases Bool.or_eq_true_iff.mp (by simpa using stays : lockStays fails = true) with close | unlink
  · exact other (alone _ _ failed close)
  · exact other' (alone _ _ failed unlink)

theorem unlock_triple :
    Triple (Settled environment.rules content true index hard)
      (do
        pass fails .closeLock
        (touch fails .unlinkLock fun root => { root with migrationLock := false }).swallow)
      (fun _ => Settled environment.rules content (lockStays fails) index hard)
      fun (_ : StorageError) => Settled environment.rules content (lockStays fails) index hard := by
  refine .of_run fun root settled => ?_
  obtain ⟨lost, stands, locked, indexed⟩ := settled
  cases close : fails .closeLock with
  | true =>
    have stays : lockStays fails = true := by simp [lockStays, close]
    refine .inr ⟨.io, root, Action.bind_rejects (by simp [pass, touch, close]), ?_⟩
    exact stays ▸ ⟨lost, stands, locked, indexed⟩
  | false =>
    have closed : pass fails .closeLock root = (.ok (), root) := by simp [pass, touch, close]
    cases unlink : fails .unlinkLock with
    | true =>
      have stays : lockStays fails = true := by simp [lockStays, unlink]
      refine .inl ⟨(), root, (Action.bind_run closed).trans ?_, ?_⟩
      · simp [Action.swallow, touch, unlink]
      · exact stays ▸ ⟨lost, stands, locked, indexed⟩
    | false =>
      have gone : lockStays fails = false := by simp [lockStays, close, unlink]
      refine .inl ⟨(), { root with migrationLock := false },
        (Action.bind_run closed).trans ?_, ?_⟩
      · simp [Action.swallow, touch, unlink]
      · exact gone ▸ ⟨lost, stands, rfl, indexed⟩

include alone in
theorem withMigrationLock_triple {α : Type} {action : StorageAction Data View V2 α}
    {P : StorageRoot Data View V2 → Prop}
    (easy : ∀ step, splits step = false → hard → fails step = false)
    (rooted : ∀ root, P root → Rooted environment.rules kind content false index root)
    (locked : Triple
      (fun root => ∃ before, P before ∧ root = { before with migrationLock := true }) action
      (fun _ => Settled environment.rules content true index hard)
      fun _ => Settled environment.rules content true index hard) :
    Triple P (withMigrationLock fails action)
      (fun _ => Settled environment.rules content (lockStays fails) index hard)
      fun _ => Settled environment.rules content (lockStays fails) index hard := by
  unfold withMigrationLock
  have unlocked : ∀ root, P root → ∀ step, splits step = false → step ≠ .closeLock →
      step ≠ .unlinkLock → fails step = true →
      Settled environment.rules content (lockStays fails) index hard root := by
    intro root holds step calm other other' failed
    rw [not_lockStays alone failed other other']
    refine (rooted root holds).settled fun here => ?_
    rw [easy step calm here] at failed
    cases failed
  have mkdir : Triple P (pass fails (.makeLock .mkdir)) (fun _ => P)
      fun _ => Settled environment.rules content (lockStays fails) index hard := by
    have made : fails (.makeLock .mkdir) = false → fails (.makeLock .mkdir) = false := id
    exact (pass_triple made).weaken fun _ root failed =>
      unlocked root failed.1 (.makeLock .mkdir) rfl nofun nofun (by simpa using failed.2)
  have opens : Triple P (openMigrationLock fails)
      (fun _ root => ∃ before, P before ∧ root = { before with migrationLock := true })
      fun _ => Settled environment.rules content (lockStays fails) index hard := by
    refine .of_run fun root holds => ?_
    cases failed : fails (.makeLock .open_) with
    | true =>
      refine .inr ⟨.io, root, by simp [openMigrationLock, failed], ?_⟩
      exact unlocked root holds (.makeLock .open_) rfl nofun nofun failed
    | false =>
      refine .inl ⟨(), { root with migrationLock := true }, ?_, root, holds, rfl⟩
      simp [openMigrationLock, failed, (rooted root holds).lock]
  have writes : ∀ step, splits step = false → Triple
      (fun root => ∃ before, P before ∧ root = { before with migrationLock := true })
      (pass fails step)
      (fun _ root => ∃ before, P before ∧ root = { before with migrationLock := true })
      fun _ => Settled environment.rules content true index hard := by
    intro step calm
    refine (pass_triple (easy step calm)).weaken ?_
    rintro _ _ ⟨⟨before, holds, rfl⟩, survived⟩
    have stands := rooted before holds
    exact ⟨fun here => absurd here survived, fun _ => ⟨kind, stands.stands⟩, rfl, stands.index⟩
  refine mkdir.bind fun _ => opens.bind fun _ => ?_
  exact Triple.ensuring ((writes _ rfl).bind fun _ => (writes _ rfl).bind fun _ => locked)
    (fun _ => unlock_triple) fun _ => unlock_triple

end Lock

end Praxis.Session
