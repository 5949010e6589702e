import Praxis.Session.StandingStore

/-!
# The steps of a migration

What each step does to a root that stands: the steps before the switch leave it standing, whether
they succeed or fail. `hard` is a condition under which a step is known not to fail.
-/

namespace Praxis.Session

set_option autoImplicit false

open Praxis.Foundations
open Praxis.Foundations.Action (Triple)

variable {Data View V2 : Type}

/-! ## Single steps -/

section Steps

variable {fails : StorageStep → Bool} {step : StorageStep} {hard : Prop}
  {P : StorageRoot Data View V2 → Prop} {α : Type}

variable (easy : hard → fails step = false)
include easy

theorem look_triple {view : StorageRoot Data View V2 → α} :
    Triple P (look fails step view) (fun a root => P root ∧ a = view root)
      fun _ root => P root ∧ ¬hard := by
  refine .of_run fun root holds => ?_
  cases failed : fails step with
  | false => exact .inl ⟨view root, root, by simp [look, failed], holds, rfl⟩
  | true =>
    refine .inr ⟨.io, root, by simp [look, failed], holds, fun here => ?_⟩
    rw [easy here] at failed
    cases failed

theorem touch_triple {P' : StorageRoot Data View V2 → Prop}
    {effect : StorageRoot Data View V2 → StorageRoot Data View V2}
    (keeps : ∀ root, P root → P' (effect root)) :
    Triple P (touch fails step effect) (fun _ => P') fun _ root => P root ∧ ¬hard := by
  refine .of_run fun root holds => ?_
  cases failed : fails step with
  | false => exact .inl ⟨(), effect root, by simp [touch, failed], keeps root holds⟩
  | true =>
    refine .inr ⟨.io, root, by simp [touch, failed], holds, fun here => ?_⟩
    rw [easy here] at failed
    cases failed

theorem pass_triple :
    Triple P (pass fails step) (fun _ => P) fun _ root => P root ∧ ¬hard :=
  touch_triple easy fun _ => id

theorem workOn_triple {place : StoragePlace}
    {work : StorageRoot Data View V2 → StorageFiles Data View →
      Except StorageError α × StorageFiles Data View} {R : α → StorageRoot Data View V2 → Prop}
    (works : ∀ root, P root → ∃ value files, work root (root.files place) = (.ok value, files) ∧
      R value (root.withFiles place files)) :
    Triple P (workOn fails step place work) R fun _ root => P root ∧ ¬hard := by
  refine .of_run fun root holds => ?_
  cases failed : fails step with
  | false =>
    obtain ⟨value, files, run, ends⟩ := works root holds
    exact .inl ⟨value, root.withFiles place files, by simp [workOn, failed, run], ends⟩
  | true =>
    refine .inr ⟨.io, root, by simp [workOn, failed], holds, fun here => ?_⟩
    rw [easy here] at failed
    cases failed

end Steps

/-! ## Standing roots -/

section Roots

@[simp] theorem withFiles_self (root : StorageRoot Data View V2) (place : StoragePlace)
    (files : StorageFiles Data View) : (root.withFiles place files).files place = files := by
  simp [StorageRoot.withFiles]

theorem withFiles_of_ne (root : StorageRoot Data View V2) {place other : StoragePlace}
    (apart : other ≠ place) (files : StorageFiles Data View) :
    (root.withFiles place files).files other = root.files other := by
  simp [StorageRoot.withFiles, apart]

structure Rooted (rules : SessionRules Data View) (kind : SessionStoreKindV3)
    (log : CommitLog Data) (lock : Bool) (index : Option V2) (root : StorageRoot Data View V2) :
    Prop where
  stands : (root.files .root).Stands rules kind log
  lock : root.migrationLock = lock
  index : root.index = index

variable {rules : SessionRules Data View} {kind : SessionStoreKindV3} {log : CommitLog Data}
  {lock : Bool} {index : Option V2} {root : StorageRoot Data View V2}

theorem Rooted.withFiles (rooted : Rooted rules kind log lock index root)
    {files : StorageFiles Data View} (stands : files.Stands rules kind log) :
    Rooted rules kind log lock index (root.withFiles .root files) :=
  ⟨by rwa [withFiles_self], rooted.lock, rooted.index⟩

theorem Rooted.elsewhere (rooted : Rooted rules kind log lock index root) {place : StoragePlace}
    (away : StoragePlace.root ≠ place) (files : StorageFiles Data View) :
    Rooted rules kind log lock index (root.withFiles place files) :=
  ⟨by rw [withFiles_of_ne root away]; exact rooted.stands, rooted.lock, rooted.index⟩

end Roots

/-! ## The source -/

section Source

variable {environment : StorageEnvironment Data View V2} {fails : StorageStep → Bool}
  {step : StorageStep} {hard : Prop} {kind : SessionStoreKindV3} {log : CommitLog Data}
  {lock : Bool} {index : Option V2} {files : StorageFiles Data View} {ids : List String}
  {exportedAt : Timestamp}

structure SourceOpen (environment : StorageEnvironment Data View V2) (kind : SessionStoreKindV3)
    (log : CommitLog Data) (lock : Bool) (index : Option V2) (root : StorageRoot Data View V2) :
    Prop where
  rooted : Rooted environment.rules kind log lock index root
  has : (root.files .root).Has environment.rules kind log
  /-- An open database has its log files. -/
  logged : kind = .sqlite → (root.files .root).wal.isSome = true ∧ (root.files .root).shm = true

theorem SourceOpen.elsewhere {root : StorageRoot Data View V2}
    (source : SourceOpen environment kind log lock index root) {place : StoragePlace}
    (away : StoragePlace.root ≠ place) (files : StorageFiles Data View) :
    SourceOpen environment kind log lock index (root.withFiles place files) where
  rooted := source.rooted.elsewhere away files
  has := by
    rw [withFiles_of_ne root away]
    exact source.has
  logged := by
    rw [withFiles_of_ne root away]
    exact source.logged

theorem initializeSource_triple (easy : hard → fails step = false) :
    Triple (Rooted environment.rules kind log lock index)
      (initializeStore environment fails step .root kind)
      (fun _ => SourceOpen environment kind log lock index)
      fun _ root => Rooted environment.rules kind log lock index root ∧ ¬hard := by
  refine workOn_triple easy fun root rooted => ?_
  obtain ⟨after, run, stands, has, _, logged⟩ :=
    rooted.stands.initializeFiles (root.indexAt .root)
  refine ⟨(), after, run, ⟨rooted.withFiles stands, ?_, ?_⟩⟩ <;> rw [withFiles_self] <;> assumption

theorem exports (has : files.Has environment.rules kind log) (lists : Lists log.Present ids)
    (canonical : exportedAt.Canonical) :
    ∃ after, files.operate environment kind
        (fun store => exportSessionJournalV3 environment.rules store exportedAt) =
        (.ok (archiveOf environment.rules log ids exportedAt), after) ∧
      (after = files ∨ ∃ tables, kind = .sqlite ∧ files.tables = some tables ∧
        after = files.setTables tables) :=
  has.operate
    (fun _ rests => jsonl_implements_resting.run_exportSessionJournalV3 (fun _ => id) rests lists
      canonical)
    fun _ holds => sqlite_implements.run_exportSessionJournalV3 (fun _ _ => rfl) holds lists
      canonical

theorem Has.setTables {tables : SqliteTables Data View}
    (has : files.Has environment.rules .sqlite log) (shown : files.tables = some tables) :
    (files.setTables tables).Has environment.rules .sqlite log := by
  obtain ⟨tables', there, holds⟩ := has
  obtain rfl := Option.mem_unique there shown
  obtain ⟨database, stored, _⟩ := Option.map_eq_some_iff.mp shown
  refine ⟨tables', ?_, holds⟩
  simp [StorageFiles.tables, StorageFiles.setTables, stored]

theorem exportSource_triple (lists : Lists log.Present ids) (canonical : exportedAt.Canonical)
    (easy : hard → fails step = false) :
    Triple (SourceOpen environment kind log lock index)
      (exportStore environment fails step .root kind exportedAt)
      (fun archive root => archive = archiveOf environment.rules log ids exportedAt ∧
        SourceOpen environment kind log lock index root)
      fun _ root => SourceOpen environment kind log lock index root ∧ ¬hard := by
  unfold exportStore operateStore
  refine workOn_triple easy fun root source => ?_
  obtain ⟨after, run, rfl | ⟨tables, rfl, shown, rfl⟩⟩ := exports source.has lists canonical
  · refine ⟨_, _, run, rfl, ⟨source.rooted.withFiles source.rooted.stands, ?_, ?_⟩⟩ <;>
      rw [withFiles_self]
    · exact source.has
    · exact source.logged
  · have has := Has.setTables source.has shown
    have stands := source.rooted.stands
    have none : (root.files .root).journal = none := StorageFiles.absent_jsonl.mp stands.alone
    refine ⟨_, _, run, rfl, ⟨source.rooted.withFiles ⟨has, ?_, stands.marker⟩, ?_, ?_⟩⟩
    · exact StorageFiles.absent_jsonl.mpr none
    · rw [withFiles_self]
      exact has
    · rw [withFiles_self]
      exact fun same => ⟨rfl, (source.logged same).2⟩

end Source

/-! ## The staged target -/

/-- The sessions that a backend takes. -/
def SessionStoreKindV3.naming : SessionStoreKindV3 → Naming
  | .jsonl => jsonlNaming
  | .sqlite => .all

section Target

variable {environment : StorageEnvironment Data View V2} {fails : StorageStep → Bool}
  {left : StorageFiles Data View} {step : StorageStep} {hard : Prop}
  {target : SessionStoreKindV3} {log content : CommitLog Data} {files : StorageFiles Data View}

/-- The open store of a directory that has nothing else. -/
structure OpenAlone (rules : SessionRules Data View) (kind : SessionStoreKindV3)
    (files : StorageFiles Data View) (log : CommitLog Data) : Prop where
  has : files.Has rules kind log
  alone : files.Absent kind.other
  marker : files.marker = none

theorem OpenAlone.stands {rules : SessionRules Data View} {kind : SessionStoreKindV3}
    (opened : OpenAlone rules kind files log) : files.Stands rules kind log where
  opens := opened.has.opens
  alone := opened.alone
  marker named there := by
    rw [opened.marker] at there
    cases there

theorem initializeFiles_empty (environment : StorageEnvironment Data View V2)
    (target : SessionStoreKindV3) :
    ∃ after, StorageFiles.initializeFiles environment target none {} = (.ok (), after) ∧
      OpenAlone environment.rules target after fun _ => [] := by
  cases target with
  | jsonl =>
    have run : StorageFiles.initializeFiles environment .jsonl none {} =
        (.ok (), { journal := some (.fresh environment.rules) }) := by
      simp [StorageFiles.initializeFiles, StorageFiles.startJournal, run_initializeJournal_empty]
    exact ⟨_, run, ⟨_, rfl, .fresh⟩, StorageFiles.absent_sqlite.mpr ⟨rfl, rfl, rfl⟩, rfl⟩
  | sqlite =>
    exact ⟨_, rfl, ⟨_, rfl, .empty⟩, StorageFiles.absent_jsonl.mpr rfl, rfl⟩

section Import

variable [DecidableEq Data] {ids : List String} {exportedAt : Timestamp}
  (kept : ∀ id, Kept environment.rules id (content id)) (lists : Lists content.Present ids)
  (canonical : exportedAt.Canonical)

include kept lists canonical

theorem import_ok (admits : ∀ id ∈ ids, target.naming.admits id = true)
    (empty : OpenAlone environment.rules target files fun _ => []) :
    ∃ report after, files.operate environment target (fun store =>
        importSessionJournalV3 environment.rules store
          (archiveOf environment.rules content ids exportedAt)) = (.ok report, after) ∧
      OpenAlone environment.rules target after content := by
  obtain ⟨has, alone, marker⟩ := empty
  cases target with
  | jsonl =>
    obtain ⟨disk, there, rests⟩ := has
    obtain ⟨report, after, run, rests', _⟩ :=
      jsonl_implements_resting.run_importSessionJournalV3 (fun _ => id) kept lists canonical admits
        rests fun _ => List.nil_prefix
    have none : files.database = none ∧ files.wal = none ∧ files.shm = false :=
      StorageFiles.absent_sqlite.mp alone
    refine ⟨report, { files with journal := some after }, ?_, ⟨after, rfl, rests'⟩,
      StorageFiles.absent_sqlite.mpr none, marker⟩
    simp only [StorageFiles.operate, there, run]
  | sqlite =>
    obtain ⟨tables, there, holds⟩ := has
    obtain ⟨report, after, run, holds', _⟩ :=
      sqlite_implements.run_importSessionJournalV3 (fun _ _ => rfl) kept lists canonical admits
        holds fun _ => List.nil_prefix
    have none : files.journal = none := StorageFiles.absent_jsonl.mp alone
    obtain ⟨database, stored, _⟩ := Option.map_eq_some_iff.mp there
    refine ⟨report, files.setTables after, ?_, ⟨after, ?_, holds'⟩,
      StorageFiles.absent_jsonl.mpr none, marker⟩
    · simp only [StorageFiles.operate, there, run]
    · simp [StorageFiles.tables, StorageFiles.setTables, stored]

theorem import_rejects {bad : String} (member : bad ∈ ids)
    (refused : target.naming.admits bad = false)
    (empty : OpenAlone environment.rules target files fun _ => []) :
    ∃ error after, files.operate environment target (fun store =>
        importSessionJournalV3 environment.rules store
          (archiveOf environment.rules content ids exportedAt)) = (.error error, after) := by
  cases target with
  | jsonl =>
    obtain ⟨disk, there, rests⟩ := empty.has
    obtain ⟨_, failed⟩ := jsonl_implements_resting.importSessionJournalV3_unadmitted
      (fun _ => id) kept lists canonical member refused rests fun _ => List.nil_prefix
    rcases run : importSessionJournalV3 environment.rules
      (jsonlSessionJournalV3 environment.rules)
      (archiveOf environment.rules content ids exportedAt) disk with ⟨error' | value, after⟩
    · refine ⟨.session error', { files with journal := some after }, ?_⟩
      simp only [StorageFiles.operate, there, run]
    · rw [run] at failed
      cases failed
  | sqlite => cases refused

end Import

theorem export_again {ids : List String} {exportedAt : Timestamp} (lists : Lists content.Present ids)
    (canonical : exportedAt.Canonical) (opened : OpenAlone environment.rules target files content) :
    ∃ after, files.operate environment target
        (fun store => exportSessionJournalV3 environment.rules store exportedAt) =
        (.ok (archiveOf environment.rules content ids exportedAt), after) ∧
      OpenAlone environment.rules target after content := by
  obtain ⟨after, run, rfl | ⟨tables, rfl, shown, rfl⟩⟩ := exports opened.has lists canonical
  · exact ⟨_, run, opened⟩
  · have none : files.journal = none := StorageFiles.absent_jsonl.mp opened.alone
    exact ⟨_, run, Has.setTables opened.has shown, StorageFiles.absent_jsonl.mpr none,
      opened.marker⟩

theorem OpenAlone.close (opened : OpenAlone environment.rules target files content) :
    (files.close environment target).Stands environment.rules target content ∧
      (files.close environment target).marker = none := by
  refine ⟨opened.stands.close, ?_⟩
  have marker := opened.marker
  cases target with
  | jsonl => exact marker
  | sqlite =>
    unfold StorageFiles.close
    cases environment.lastConnection <;> exact marker

end Target

end Praxis.Session
