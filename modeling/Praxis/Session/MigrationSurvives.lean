import Praxis.Session.Composing
import Praxis.Session.MigrationSettled

/-!
# Migrations that lose nothing

After a migration in which one file operation fails, exactly one kind of composition opens a store,
and that has all sessions, unless a log file of the database could not be moved or the lock file
could not be removed.
-/

namespace Praxis.Session

set_option autoImplicit false

open Praxis.Foundations
open Praxis.Foundations.Action (Triple)

variable {Data View V2 : Type}

/-! ## What opens afterwards -/

def StorageFiles.Keeps (rules : SessionRules Data View) (kind : SessionStoreKindV3)
    (files : StorageFiles Data View) (content : CommitLog Data) : Prop :=
  ∀ id, content id ≠ [] → ∃ log, files.Has rules kind log ∧ content id <+: log id

def OpensAs (environment : StorageEnvironment Data View V2) (root : StorageRoot Data View V2)
    (kind : SessionStoreKindV3) (opened : StorageRoot Data View V2) : Prop :=
  createSessionJournalCompositionV3 environment noFault kind root = (.ok (), opened)

/-- **The content survives in a root**: one kind of composition opens a store that has it, and none
opens a store that does not. -/
structure Survives (environment : StorageEnvironment Data View V2) (content : CommitLog Data)
    (root : StorageRoot Data View V2) : Prop where
  one : ∃! kind, ∃ opened, OpensAs environment root kind opened ∧
    (opened.files .root).Keeps environment.rules kind content
  never_empty : ∀ kind opened, OpensAs environment root kind opened →
    (opened.files .root).Keeps environment.rules kind content

/-- A journal can be opened where there is none. -/
def JournalStarts (environment : StorageEnvironment Data View V2) (index : Option V2) : Prop :=
  ∃ after, StorageFiles.initializeFiles environment .jsonl index {} = (.ok (), after)

section Opening

variable {environment : StorageEnvironment Data View V2} {root : StorageRoot Data View V2}
  {content : CommitLog Data} {index : Option V2} {kind : SessionStoreKindV3}

/-- No composition opens a store while the lock file is there. -/
theorem not_survives_of_lock (locked : root.migrationLock = true) :
    ¬Survives environment content root := by
  intro survives
  obtain ⟨kind, ⟨opened, opens, _⟩, _⟩ := survives.one
  have busy : createSessionJournalCompositionV3 environment noFault kind root =
      (.error .sessionStoreMigrationBusy, root) := by
    unfold createSessionJournalCompositionV3
    have looked : look noFault (.compose .statMigrationLock) (·.migrationLock) root =
        (.ok true, root) := by simp [look, noFault, locked]
    rw [Action.bind_run looked]
    rfl
  cases busy.symm.trans opens

theorem Rooted.survives (rooted : Rooted environment.rules kind content false index root) :
    Survives environment content root := by
  have composes : ∀ requested, Triple (Rooted environment.rules kind content false index)
      (createSessionJournalCompositionV3 environment noFault requested)
      (fun _ root => SourceOpen environment kind content false index root ∧ requested = kind)
      (Uncomposed environment kind content false index (requested = kind)) :=
    fun _ => compose_triple (fun _ _ => rfl) id
  have only : ∀ requested opened, OpensAs environment root requested opened →
      requested = kind ∧ (opened.files .root).Keeps environment.rules kind content := by
    intro requested opened opens
    obtain ⟨source, same⟩ := (composes requested).accepts rooted opens
    exact ⟨same, fun id _ => ⟨content, source.has, List.prefix_rfl⟩⟩
  refine ⟨⟨kind, ?_, ?_⟩, ?_⟩
  · rcases run : createSessionJournalCompositionV3 environment noFault kind root with
      ⟨error | done, opened⟩
    · exact absurd rfl ((composes kind).rejects rooted run).2
    · exact ⟨opened, run, (only kind opened run).2⟩
  · rintro other ⟨opened, opens, _⟩
    exact (only other opened opens).1
  · intro requested opened opens
    obtain ⟨rfl, keeps⟩ := only requested opened opens
    exact keeps

theorem selectAuthority_lost (lost : Lost (root.files .root)) :
    selectAuthority environment noFault kind root =
      match (root.files .root).initializeFiles environment kind root.index with
      | (.ok _, files) => (.ok true, root.withFiles .root { files with marker := some kind })
      | (.error error, files) =>
        (.error error, root.withFiles .root (files.close environment kind)) := by
  obtain ⟨journal, database, marker⟩ := lost
  have looks : ∀ {α : Type} (step : StorageStep) (view : StorageRoot Data View V2 → α),
      look noFault step view root = (.ok (view root), root) := fun _ _ => rfl
  unfold selectAuthority
  rw [Action.bind_run (looks _ _), Action.bind_run (looks _ _), journal, database]
  dsimp only
  refine (Action.check_bind_run rfl).trans ?_
  rw [Action.bind_run (looks _ _), marker]
  refine (Action.check_bind_run rfl).trans ?_
  rcases run : (root.files .root).initializeFiles environment kind root.index with
    ⟨error | done, files⟩
  · refine Action.bind_rejects ?_
    simp only [Action.catching, initializeStore, workOn, noFault, StorageRoot.indexAt, run]
    simp [Bind.bind, closeStore, workOn, Action.check, StorageRoot.withFiles, noFault]
  · have opens : Action.catching
        (initializeStore environment noFault (.compose .openStore) .root kind)
        (fun error => do
          closeStore environment noFault (.compose .openStore) .root kind
          Action.check (.error error)) root = (.ok (), root.withFiles .root files) := by
      simp [Action.catching, initializeStore, workOn, noFault, StorageRoot.indexAt, run]
    have names : atomicWriteAuthority noFault (.compose <| .writeMarker ·) kind
        (root.withFiles .root files) =
          (.ok (), root.withFiles .root { files with marker := some kind }) := by
      refine (Action.bind_run rfl).trans ?_
      simp [touch, noFault, StorageRoot.withFiles]
    exact (Action.bind_run opens).trans ((Action.bind_run names).trans rfl)

/-- **It opens an empty store** in the place of one that is gone. -/
theorem opens_lost_iff {opened : StorageRoot Data View V2} (lost : Lost (root.files .root))
    (free : root.migrationLock = false) :
    OpensAs environment root kind opened ↔ ∃ files,
      (root.files .root).initializeFiles environment kind root.index = (.ok (), files) ∧
        opened = { root.withFiles .root { files with marker := some kind } with
          leases := root.leases.filter id ++ [true] } := by
  have selects : selectAuthority environment noFault kind root = _ := selectAuthority_lost lost
  unfold OpensAs createSessionJournalCompositionV3
  have looked : look noFault (.compose .statMigrationLock) (·.migrationLock) root =
      (.ok false, root) := by simp [look, noFault, free]
  have locks : ∀ {α : Type} (action : StorageAction Data View V2 α) (state),
      withAuthorityLock noFault .lockAuthority .unlockAuthority action state = action state :=
    fun _ _ => rfl
  rw [Action.bind_run looked]
  refine (Iff.of_eq (congrArg (· = _) (Action.check_bind_run rfl))).trans ?_
  rcases run : (root.files .root).initializeFiles environment kind root.index with
    ⟨error | done, files⟩ <;> rw [run] at selects
  · rw [Action.bind_rejects ((locks _ _).trans selects)]
    exact ⟨by rintro ⟨⟩, by rintro ⟨_, wrong, _⟩; cases wrong⟩
  · rw [Action.bind_run ((locks _ _).trans selects)]
    have leases : Action.catching
        (withAuthorityLock noFault .lockLease .unlockLease (createRuntimeLease noFault))
        (fun error => do
          closeStore environment noFault (.compose .lockLease) .root kind
          Action.check (.error error))
        (root.withFiles .root { files with marker := some kind }) =
          (.ok (), { root.withFiles .root { files with marker := some kind } with
            leases := root.leases.filter id ++ [true] }) := rfl
    have looked : look noFault (.compose .statMigrationLockAgain) (·.migrationLock)
        { root.withFiles .root { files with marker := some kind } with
          leases := root.leases.filter id ++ [true] } =
        (.ok false, { root.withFiles .root { files with marker := some kind } with
          leases := root.leases.filter id ++ [true] }) := by
      simp [look, noFault, StorageRoot.withFiles, free]
    refine (Iff.of_eq (congrArg (· = _) ((Action.bind_run leases).trans
      (Action.bind_run looked)))).trans ?_
    constructor
    · intro opens
      exact ⟨files, rfl, (congrArg Prod.snd opens).symm⟩
    · rintro ⟨_, same, rfl⟩
      cases same
      rfl

theorem journalStarts_iff {files : StorageFiles Data View} (none : files.journal = none) :
    (∃ after, files.initializeFiles environment .jsonl index = (.ok (), after)) ↔
      JournalStarts environment index := by
  have same : StorageFiles.startJournal environment index files =
      StorageFiles.startJournal environment index {} := by
    simp [StorageFiles.startJournal, none]
  unfold JournalStarts StorageFiles.initializeFiles
  dsimp only
  rw [same]
  rcases StorageFiles.startJournal environment index {} with error | disk
  · simp
  · dsimp only
    rcases (Jsonl.initializeJournal environment.rules false).run JsonlDisk.perform disk with
      ⟨error | done, opened⟩ <;> simp

theorem Lost.survives_iff (lost : Lost (root.files .root)) (free : root.migrationLock = false) :
    Survives environment content root ↔
      (∀ id, content id = []) ∧ ¬JournalStarts environment root.index := by
  have database : OpensAs environment root .sqlite { root.withFiles .root { root.files .root with
        database := some {}
        wal := some {}
        shm := true
        marker := some .sqlite } with leases := root.leases.filter id ++ [true] } := by
    refine (opens_lost_iff lost free).mpr ⟨_, rfl, ?_⟩
    simp [StorageFiles.tables, lost.database]
  have journal : (∃ opened, OpensAs environment root .jsonl opened) ↔
      JournalStarts environment root.index := by
    rw [← journalStarts_iff lost.journal]
    constructor
    · rintro ⟨opened, opens⟩
      obtain ⟨files, run, _⟩ := (opens_lost_iff lost free).mp opens
      exact ⟨files, run⟩
    · rintro ⟨files, run⟩
      exact ⟨_, (opens_lost_iff lost free).mpr ⟨files, run, rfl⟩⟩
  constructor
  · intro survives
    have nothing : ∀ id, content id = [] := by
      intro id
      by_contra present
      obtain ⟨log, ⟨tables, there, holds⟩, held⟩ := survives.never_empty _ _ database id present
      have empty : tables = {} := by
        simpa [StorageFiles.tables, StorageRoot.withFiles, eq_comm] using there
      subst empty
      have none : log id = [] := List.map_eq_nil_iff.mp (holds.commits id).symm
      rw [none, List.prefix_nil] at held
      exact present held
    refine ⟨nothing, fun starts => ?_⟩
    obtain ⟨opened, opens⟩ := journal.mpr starts
    obtain ⟨only, _, unique⟩ := survives.one
    have first := unique .jsonl ⟨opened, opens, fun id present => absurd (nothing id) present⟩
    have second := unique .sqlite ⟨_, database, fun id present => absurd (nothing id) present⟩
    cases first.trans second.symm
  · rintro ⟨nothing, never⟩
    have keeps : ∀ kind (files : StorageFiles Data View),
        files.Keeps environment.rules kind content :=
      fun _ _ id present => absurd (nothing id) present
    refine ⟨⟨.sqlite, ⟨_, database, keeps _ _⟩, ?_⟩, fun kind opened _ => keeps _ _⟩
    rintro kind ⟨opened, opens, _⟩
    cases kind with
    | jsonl => exact absurd (journal.mp ⟨opened, opens⟩) never
    | sqlite => rfl

theorem Settled.survives_iff {lock : Bool} {hard : Prop}
    (settled : Settled environment.rules content lock index hard root) :
    Survives environment content root ↔
      lock = false ∧ (hard → (∀ id, content id = []) ∧ ¬JournalStarts environment index) := by
  obtain ⟨lost, stands, locked, rfl⟩ := settled
  subst locked
  cases free : root.migrationLock with
  | true => simp [not_survives_of_lock free]
  | false =>
    by_cases failed : hard
    · simp [failed, (lost failed).survives_iff free]
    · obtain ⟨kind, stands⟩ := stands failed
      have rooted : Rooted environment.rules kind content false root.index root :=
        ⟨stands, free, rfl⟩
      simp [failed, rooted.survives]

end Opening

/-! ## The migration -/

/-- At most one step fails, the given one. -/
def failsAt (fault : Option StorageStep) (step : StorageStep) : Bool := fault == some step

theorem failsAt_alone {fault : Option StorageStep} (step step' : StorageStep)
    (first : failsAt fault step = true) (second : failsAt fault step' = true) : step = step' := by
  simp only [failsAt, beq_iff_eq] at first second
  exact Option.mem_unique first second

/-- The migration moves the database away and then fails at a log file. -/
structure LosesDatabase (environment : StorageEnvironment Data View V2)
    (fault : Option StorageStep) (target : SessionStoreKindV3) (content : CommitLog Data)
    (marker : Option SessionStoreKindV3) (leases : List Bool) : Prop where
  source : marker = some .sqlite
  target : target = .jsonl
  leases : ∀ alive ∈ leases, alive = false
  admits : ∀ id, content id ≠ [] → jsonlNaming.admits id = true
  split : SplitFault (failsAt fault) environment.lastConnection

/-- The lock file is made and not removed. -/
def LeavesLock (fault : Option StorageStep) (kind : SessionStoreKindV3)
    (marker : Option SessionStoreKindV3) (index : Option V2) : Prop :=
  lockStays (failsAt fault) = true ∧
    (marker.isSome = true ∨ index.isSome = true ∧ kind = .jsonl)

section Migration

variable {environment : StorageEnvironment Data View V2} {fault : Option StorageStep}
  {left : StorageFiles Data View} {kind target : SessionStoreKindV3} {content : CommitLog Data}
  {index : Option V2} {marker : Option SessionStoreKindV3} {leases : List Bool} {hard : Prop}
  {lastConnection : Bool} {step : StorageStep}

theorem splits_of_splitFault {fails : StorageStep → Bool}
    (split : SplitFault fails lastConnection) : ∃ step, splits step = true ∧ fails step = true := by
  obtain ⟨file, member, failed⟩ := split
  simp only [List.mem_cons, List.not_mem_nil, or_false] at member
  rcases failed with stat | ⟨_, mkdir | rename⟩
  · exact ⟨_, by rcases member with rfl | rfl <;> rfl, stat⟩
  · exact ⟨_, by rcases member with rfl | rfl <;> rfl, mkdir⟩
  · exact ⟨_, by rcases member with rfl | rfl <;> rfl, rename⟩

theorem SplitFault.easy (split : SplitFault (failsAt fault) lastConnection)
    (calm : splits step = false) : failsAt fault step = false := by
  obtain ⟨step', splitting, failed⟩ := splits_of_splitFault split
  by_contra fails
  have same := failsAt_alone step step' (by simpa using fails) failed
  rw [same, splitting] at calm
  cases calm

theorem listed_of_stands {rules : SessionRules Data View} {files : StorageFiles Data View}
    (stands : files.Stands rules kind content) :
    (∀ id, Kept rules id (content id)) ∧ ∃ ids, Lists content.Present ids := by
  have opens := stands.opens
  cases kind with
  | jsonl =>
    obtain ⟨disk, opened, _, _, ran, holds⟩ := opens
    obtain ⟨ids, _, lists⟩ := jsonl_implements_resting.listSessionIds (JsonlRests.of_opened ran holds)
    exact ⟨holds.kept, ids, lists⟩
  | sqlite =>
    obtain ⟨tables, _, holds⟩ := opens
    obtain ⟨ids, _, lists⟩ := sqlite_implements.listSessionIds holds
    exact ⟨holds.kept, ids, lists⟩

theorem looks_triple {α : Type} {view : StorageRoot Data View V2 → α} {a : α}
    {P : StorageRoot Data View V2 → Prop} {stays : Bool}
    (rooted : ∀ root, P root → Rooted environment.rules kind content false index root)
    (shows : ∀ root, P root → view root = a)
    (unchanged : failsAt fault step = true → stays = false ∧ ¬hard) :
    Triple P (look (failsAt fault) step view) (fun found root => P root ∧ found = a)
      fun _ => Settled environment.rules content stays index hard := by
  have easy : failsAt fault step = false → failsAt fault step = false := id
  refine (look_triple easy).mono (fun _ => id)
    (fun _ root holds => ⟨holds.1, holds.2.trans (shows root holds.1)⟩) fun _ root failed => ?_
  obtain ⟨gone, survived⟩ := unchanged (by simpa using failed.2)
  rw [gone]
  exact (rooted root failed.1).settled survived

section Found

variable [DecidableEq Data] {ids : List String} (kept : ∀ id, Kept environment.rules id (content id))
  (lists : Lists content.Present ids) (canonical : environment.now.Canonical)

include kept lists canonical in
theorem migrateFound_triple {source : SessionStoreKindV3}
    (hardness : hard ↔ source = .sqlite ∧ target = .jsonl ∧ (∀ alive ∈ leases, alive = false) ∧
      (∀ id ∈ ids, target.naming.admits id = true) ∧
        SplitFault (failsAt fault) environment.lastConnection) :
    Triple
      (fun root => Rooted environment.rules source content false index root ∧ root.leases = leases)
      (withMigrationLock (failsAt fault)
        (migrateLocked environment (failsAt fault) left source target))
      (fun _ => Settled environment.rules content (lockStays (failsAt fault)) index hard)
      fun _ => Settled environment.rules content (lockStays (failsAt fault)) index hard := by
  have easy : ∀ step, splits step = false → hard → failsAt fault step = false :=
    fun step calm here => (hardness.mp here).2.2.2.2.easy calm
  refine withMigrationLock_triple failsAt_alone easy (fun _ holds => holds.1) ?_
  refine (migrateLocked_triple easy kept lists canonical hardness).mono ?_ (fun _ _ => id)
    fun _ _ => id
  rintro _ ⟨before, ⟨rooted, leased⟩, rfl⟩
  exact ⟨⟨rooted.stands, rfl, rooted.index⟩, leased⟩

include kept lists canonical in
theorem migrateMarked_triple
    (hardness : hard ↔ LosesDatabase environment fault target content (some kind) leases) :
    Triple
      (fun root => (Rooted environment.rules kind content false index root ∧
        root.leases = leases) ∧ (root.files .root).marker = some kind)
      (migrateSessionStorageV3 environment (failsAt fault) left target)
      (fun _ => Settled environment.rules content (lockStays (failsAt fault)) index hard)
      fun _ => Settled environment.rules content (lockStays (failsAt fault)) index hard := by
  have found : hard ↔ kind = .sqlite ∧ target = .jsonl ∧ (∀ alive ∈ leases, alive = false) ∧
      (∀ id ∈ ids, target.naming.admits id = true) ∧
        SplitFault (failsAt fault) environment.lastConnection := by
    rw [hardness]
    constructor
    · rintro ⟨source, rfl, dead, admits, split⟩
      exact ⟨Option.some.inj source, rfl, dead, fun id member => admits id ((lists.mem id).mp member),
        split⟩
    · rintro ⟨rfl, rfl, dead, admits, split⟩
      exact ⟨rfl, rfl, dead, fun id present => admits id ((lists.mem id).mpr present), split⟩
  have easy : ∀ step, splits step = false → hard → failsAt fault step = false :=
    fun step calm here => (hardness.mp here).split.easy calm
  have finds : Triple
      (fun root => (Rooted environment.rules kind content false index root ∧
        root.leases = leases) ∧ (root.files .root).marker = some kind)
      (findSource environment (failsAt fault))
      (fun source root => (Rooted environment.rules kind content false index root ∧
        root.leases = leases) ∧ source = some kind)
      fun _ => Settled environment.rules content (lockStays (failsAt fault)) index hard := by
    unfold findSource
    have unchanged : failsAt fault .readMarker = true →
        lockStays (failsAt fault) = false ∧ ¬hard := by
      refine fun failed => ⟨not_lockStays failsAt_alone failed nofun nofun, fun here => ?_⟩
      rw [easy _ rfl here] at failed
      cases failed
    have reads : Triple
        (fun root => (Rooted environment.rules kind content false index root ∧
          root.leases = leases) ∧ (root.files .root).marker = some kind)
        (look (failsAt fault) .readMarker fun root => (root.files .root).marker)
        (fun found root => ((Rooted environment.rules kind content false index root ∧
          root.leases = leases) ∧ (root.files .root).marker = some kind) ∧ found = some kind)
        fun _ => Settled environment.rules content (lockStays (failsAt fault)) index hard :=
      looks_triple (fun _ holds => holds.1.1) (fun _ holds => holds.2) unchanged
    refine reads.bind fun marked => .fact fun same => ?_
    subst same
    exact .pure _ fun root holds => ⟨holds.1, rfl⟩
  unfold migrateSessionStorageV3
  refine finds.bind fun source => .fact fun same => ?_
  subst same
  exact migrateFound_triple kept lists canonical found

include kept lists canonical in
theorem migrateUnmarked_triple (stays : Bool)
    (staying : stays = (lockStays (failsAt fault) && (index.isSome && kind == .jsonl))) :
    Triple
      (fun root => Rooted environment.rules kind content false index root ∧
        (root.files .root).marker = none)
      (migrateSessionStorageV3 environment (failsAt fault) left target)
      (fun _ => Settled environment.rules content stays index False)
      fun _ => Settled environment.rules content stays index False := by
  have unlocked : ∀ step, step ≠ .closeLock → step ≠ .unlinkLock →
      failsAt fault step = true → stays = false ∧ ¬False := by
    intro step other other' failed
    rw [staying, not_lockStays failsAt_alone failed other other']
    exact ⟨rfl, id⟩
  have calm : ∀ step, step ≠ .closeLock → step ≠ .unlinkLock → stays = true →
      failsAt fault step = false := by
    intro step other other' locked
    by_contra fails
    rw [(unlocked step other other' (by simpa using fails)).1] at locked
    cases locked
  have settles : ∀ (hard : Prop) (error : StorageError) root, (stays = true → hard) →
      Uncomposed environment kind content false index hard error root →
        Settled environment.rules content stays index False root := by
    rintro hard _ root locks ⟨rooted, survived⟩
    have gone : stays = false := by
      by_contra locked
      exact survived (locks (by simpa using locked))
    rw [gone]
    exact rooted.settled id
  have reads : Triple
      (fun root => Rooted environment.rules kind content false index root ∧
        (root.files .root).marker = none)
      (look (failsAt fault) .readMarker fun root => (root.files .root).marker)
      (fun found root => (Rooted environment.rules kind content false index root ∧
        (root.files .root).marker = none) ∧ found = none)
      fun _ => Settled environment.rules content stays index False :=
    looks_triple (fun _ holds => holds.1) (fun _ holds => holds.2)
      (unlocked .readMarker nofun nofun)
  have indexes : Triple
      (fun root => Rooted environment.rules kind content false index root ∧
        (root.files .root).marker = none)
      (look (failsAt fault) .statIndex (·.index.isSome))
      (fun found root => (Rooted environment.rules kind content false index root ∧
        (root.files .root).marker = none) ∧ found = index.isSome)
      fun _ => Settled environment.rules content stays index False :=
    looks_triple (fun _ holds => holds.1) (fun _ holds => congrArg Option.isSome holds.1.index)
      (unlocked .statIndex nofun nofun)
  have finds : Triple
      (fun root => Rooted environment.rules kind content false index root ∧
        (root.files .root).marker = none)
      (findSource environment (failsAt fault))
      (fun source root => Rooted environment.rules kind content false index root ∧
        source = (if index.isSome then some .jsonl else none) ∧ (index.isSome = true → kind = .jsonl))
      fun _ => Settled environment.rules content stays index False := by
    unfold findSource
    refine reads.bind fun marked => .fact fun same => ?_
    subst same
    refine indexes.bind fun indexed => .fact fun same => ?_
    subst same
    refine .ite (fun present => ?_) fun absent => ?_
    · have wanted : stays = true → SessionStoreKindV3.jsonl = kind := by
        intro locked
        rw [staying, Bool.and_eq_true, Bool.and_eq_true, beq_iff_eq] at locked
        exact locked.2.2.symm
      have composes : Triple (Rooted environment.rules kind content false index)
          (createSessionJournalCompositionV3 environment (failsAt fault) .jsonl)
          (fun _ root => SourceOpen environment kind content false index root ∧ .jsonl = kind)
          fun _ => Settled environment.rules content stays index False :=
        (compose_triple (fun _ => calm _ nofun nofun) wanted).weaken
          fun error root => settles _ error root id
      refine (composes.mono (fun _ holds => holds.1) (fun _ _ => id) fun _ _ => id).bind
        fun _ => .fact fun same => ?_
      subst same
      refine ((closeComposition_triple (calm _ nofun nofun)).weaken
        fun error root => settles _ error root id).bind fun _ => ?_
      exact .pure _ fun root rooted => ⟨rooted, by simp [present], fun _ => rfl⟩
    · exact .pure _ fun root holds =>
        ⟨holds.1, by simp [absent], fun present => absurd present absent⟩
  unfold migrateSessionStorageV3
  refine finds.bind fun source => .fact fun ⟨same, whose⟩ => ?_
  subst same
  cases present : index.isSome with
  | true =>
    obtain rfl := whose present
    have same : stays = lockStays (failsAt fault) := by simp [staying, present]
    subst same
    have never : ∀ leases : List Bool, False ↔ SessionStoreKindV3.jsonl = .sqlite ∧
        target = .jsonl ∧ (∀ alive ∈ leases, alive = false) ∧
          (∀ id ∈ ids, target.naming.admits id = true) ∧
            SplitFault (failsAt fault) environment.lastConnection := by simp
    have migrates : Triple
        (fun root => ∃ leases : List Bool,
          Rooted environment.rules .jsonl content false index root ∧ root.leases = leases)
        (withMigrationLock (failsAt fault)
          (migrateLocked environment (failsAt fault) left .jsonl target))
        (fun _ => Settled environment.rules content (lockStays (failsAt fault)) index False)
        fun _ => Settled environment.rules content (lockStays (failsAt fault)) index False :=
      .of_exists fun leases => migrateFound_triple kept lists canonical (never leases)
    exact migrates.mono (fun root rooted => ⟨root.leases, rooted, rfl⟩) (fun _ _ => id)
      fun _ _ => id
  | false =>
    have gone : stays = false := by simp [staying, present]
    have wanted : stays = true → target = kind := by simp [gone]
    refine ((compose_triple (fun _ => calm _ nofun nofun) wanted).weaken fun error root => settles _ error root id).bind
        fun _ => .fact fun same => ?_
    subst same
    have exports : Triple (SourceOpen environment target content false index)
        (exportStore environment (failsAt fault) .exportComposition .root target environment.now)
        (fun _ => SourceOpen environment target content false index)
        fun _ => Settled environment.rules content stays index False :=
      (exportSource_triple lists canonical (calm .exportComposition nofun nofun)).mono (fun _ => id)
        (fun _ _ holds => holds.2) fun error root failed =>
          settles _ error root id ⟨failed.1.rooted, failed.2⟩
    refine exports.bind fun exported => ?_
    refine ((closeComposition_triple (calm _ nofun nofun)).weaken
      fun error root => settles _ error root id).bind fun _ => .pure _ fun root rooted => ?_
    rw [gone]
    exact rooted.settled id

end Found

theorem migrateSessionStorageV3_settles [DecidableEq Data] {root : StorageRoot Data View V2}
    (stands : (root.files .root).Stands environment.rules kind content)
    (free : root.migrationLock = false) (canonical : environment.now.Canonical)
    (left : StorageFiles Data View) (target : SessionStoreKindV3) (fault : Option StorageStep) :
    ∃ stays, (stays = true ↔ LeavesLock fault kind (root.files .root).marker root.index) ∧
      Settled environment.rules content stays root.index
        (LosesDatabase environment fault target content (root.files .root).marker root.leases)
        (migrateSessionStorageV3 environment (failsAt fault) left target root).2 := by
  obtain ⟨kept, ids, lists⟩ := listed_of_stands stands
  have rooted : Rooted environment.rules kind content false root.index root := ⟨stands, free, rfl⟩
  have ends : ∀ {P Q : StorageRoot Data View V2 → Prop}, P root →
      Triple P (migrateSessionStorageV3 environment (failsAt fault) left target) (fun _ => Q)
        (fun _ => Q) →
      Q (migrateSessionStorageV3 environment (failsAt fault) left target root).2 := by
    intro P Q here triple
    rcases run : migrateSessionStorageV3 environment (failsAt fault) left target root with
      ⟨error | value, after⟩
    · exact triple.rejects here run
    · exact triple.accepts here run
  cases named : (root.files .root).marker with
  | none =>
    have never : LosesDatabase environment fault target content none root.leases ↔ False :=
      iff_false_intro fun lost => nomatch lost.source
    rw [never]
    refine ⟨_, ?_, ends ⟨rooted, named⟩ (migrateUnmarked_triple kept lists canonical _ rfl)⟩
    simp [LeavesLock]
  | some marker =>
    obtain rfl := stands.marker marker named
    refine ⟨_, ?_, ends ⟨⟨rooted, rfl⟩, named⟩ (migrateMarked_triple kept lists canonical Iff.rfl)⟩
    simp [LeavesLock]

/-- **Storage migration is all-or-nothing**, for every content of the store and every failure of one
file operation, except for the moves of the log files of a database and for the end of the lock. -/
theorem migrateSessionStorageV3_survives_iff [DecidableEq Data] {root : StorageRoot Data View V2}
    (stands : (root.files .root).Stands environment.rules kind content)
    (free : root.migrationLock = false) (canonical : environment.now.Canonical)
    (left : StorageFiles Data View) (target : SessionStoreKindV3) (fault : Option StorageStep) :
    Survives environment content
        (migrateSessionStorageV3 environment (failsAt fault) left target root).2 ↔
      ¬LeavesLock fault kind (root.files .root).marker root.index ∧
        (LosesDatabase environment fault target content (root.files .root).marker root.leases →
          (∀ id, content id = []) ∧ ¬JournalStarts environment root.index) := by
  obtain ⟨stays, locks, settled⟩ :=
    migrateSessionStorageV3_settles stands free canonical left target fault
  rw [settled.survives_iff, ← locks, Bool.not_eq_true]

end Migration

/-! ## A database with one session -/

def firstCommit : SessionCommitV3 Unit :=
  { longCommit with
    sessionId := "session-1"
    entries := longCommit.entries.map fun entry => { entry with sessionId := "session-1" } }

theorem firstCommit_kept : Kept longRules "session-1" [firstCommit] := by
  refine Kept.nil.append (by decide +kernel) rfl (by simp) rfl ?_
  have accepted : (reduceSessionEntriesV3 longRules firstCommit.entries).toOption.any
      (fun _ => true) = true := by decide +kernel
  obtain ⟨projection, reduced, _⟩ := exists_ok accepted
  exact ⟨projection, reduced⟩

/-- The log of the session alone. -/
def firstContent : CommitLog Unit := Function.update (fun _ => []) "session-1" [firstCommit]

/-- No other process has the database open. -/
def quietEnvironment : StorageEnvironment Unit Unit Unit where
  rules := longRules
  migrateV2 _ := .ok {}
  now := ⟨"2026-01-01T00:00:00.000Z", some 1_767_225_600_000⟩
  lastConnection := true

/-- A root with a marker and a database that has the session. -/
def databaseRoot : StorageRoot Unit Unit Unit where
  files
    | .root =>
      { database := some ((sqliteSessionJournalV3 longRules).appendCommit {} firstCommit).2
        marker := some .sqlite }
    | .staging | .backup => {}
  index := none
  migrationLock := false
  leases := []

theorem databaseRoot_stands : (databaseRoot.files .root).Stands longRules .sqlite firstContent where
  opens := by
    refine ⟨_, rfl, ?_⟩
    have empty : SqliteHolds longRules {} fun _ => [] := SqliteHolds.empty
    have holds := (sqlite_implements.appendCommit empty firstCommit).2
    have kept : Kept longRules "session-1" ([] ++ firstCommit :: []) := firstCommit_kept
    rwa [CommitLog.appendCommit_next kept rfl rfl] at holds
  alone := StorageFiles.absent_jsonl.mpr rfl
  marker named there := (Option.some.inj there).symm

theorem quietEnvironment_now : quietEnvironment.now.Canonical := by decide +kernel

theorem databaseRoot_survives :
    Survives quietEnvironment firstContent
      (migrateSessionStorageV3 quietEnvironment (failsAt (some (.writeAuthority .rename))) {} .jsonl
        databaseRoot).2 := by
  refine (migrateSessionStorageV3_survives_iff databaseRoot_stands rfl quietEnvironment_now {} .jsonl
    (some (.writeAuthority .rename))).mpr ⟨?_, fun lost => ?_⟩
  · rintro ⟨stays, _⟩
    cases stays
  · obtain ⟨file, _, failed⟩ := lost.split
    simp [MoveFails, failsAt] at failed

theorem databaseRoot_lost :
    ¬Survives quietEnvironment firstContent
      (migrateSessionStorageV3 quietEnvironment (failsAt (some (.moveFile .source .wal .stat))) {}
        .jsonl databaseRoot).2 := by
  obtain ⟨stays, locks, settled⟩ := migrateSessionStorageV3_settles databaseRoot_stands rfl
    quietEnvironment_now {} .jsonl (some (.moveFile .source .wal .stat))
  have loses : LosesDatabase quietEnvironment (some (.moveFile .source .wal .stat)) .jsonl
      firstContent (some .sqlite) [] := by
    refine ⟨rfl, rfl, by simp, fun id present => ?_, .wal, by simp, .inl (by simp [failsAt])⟩
    by_cases same : id = "session-1"
    · subst same
      decide +kernel
    · simp [firstContent, same] at present
  rw [settled.survives_iff]
  rintro ⟨_, nothing⟩
  have none := (nothing loses).1 "session-1"
  simp [firstContent] at none

end Praxis.Session
