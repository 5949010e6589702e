import Praxis.Session.JsonlRestart
import Praxis.Session.Migration

/-!
# Stores that stand

A directory stands for a log in a backend if the store of that backend opens there with the log, the
directory has no file of the other backend, and its marker, if there is one, names the backend. The
composition of that kind opens such a root and keeps it standing; the composition of the other kind
rejects (`composes_stands`).
-/

namespace Praxis.Session

set_option autoImplicit false

open Praxis.Foundations

variable {Data View V2 : Type} (rules : SessionRules Data View)

def SessionStoreKindV3.other : SessionStoreKindV3 → SessionStoreKindV3
  | .jsonl => .sqlite
  | .sqlite => .jsonl

theorem SessionStoreKindV3.eq_other {kind kind' : SessionStoreKindV3} (apart : kind' ≠ kind) :
    kind' = kind.other := by
  cases kind <;> cases kind' <;> first | rfl | exact absurd rfl apart

/-! ## Stores in a directory -/

namespace StorageFiles

/-- The opened store of a backend holds the log. -/
def Has (kind : SessionStoreKindV3) (files : StorageFiles Data View) (log : CommitLog Data) : Prop :=
  match kind with
  | .jsonl => ∃ disk, files.journal = some disk ∧ JsonlRests rules disk log
  | .sqlite => ∃ tables, files.tables = some tables ∧ SqliteHolds rules tables log

def Opens (kind : SessionStoreKindV3) (files : StorageFiles Data View) (log : CommitLog Data) :
    Prop :=
  match kind with
  | .jsonl => ∃ disk opened, files.journal = some disk ∧ disk.authority = true ∧
      (Jsonl.initializeJournal rules false).run JsonlDisk.perform disk = (.ok (), opened) ∧
        JsonlHolds rules opened log
  | .sqlite => Has rules .sqlite files log

/-- None of the files of a backend is there. -/
def Absent (kind : SessionStoreKindV3) (files : StorageFiles Data View) : Prop :=
  ∀ file ∈ kind.files, file.present files = false

theorem absent_jsonl {files : StorageFiles Data View} :
    files.Absent .jsonl ↔ files.journal = none := by
  simp [Absent, SessionStoreKindV3.files, MovedFile.present]

theorem absent_sqlite {files : StorageFiles Data View} :
    files.Absent .sqlite ↔ files.database = none ∧ files.wal = none ∧ files.shm = false := by
  simp [Absent, SessionStoreKindV3.files, MovedFile.present]

/-- The directory stands for the log in a backend. -/
structure Stands (kind : SessionStoreKindV3) (files : StorageFiles Data View)
    (log : CommitLog Data) : Prop where
  opens : files.Opens rules kind log
  alone : files.Absent kind.other
  marker : ∀ named, files.marker = some named → named = kind

variable {rules} {environment : StorageEnvironment Data View V2} {kind : SessionStoreKindV3}
  {files : StorageFiles Data View} {log : CommitLog Data}

theorem Has.opens (has : files.Has rules kind log) : files.Opens rules kind log := by
  cases kind with
  | jsonl =>
    obtain ⟨disk, there, rests⟩ := has
    exact ⟨disk, disk, there, rests.authority, rests.run_initializeJournal, rests.holds⟩
  | sqlite => exact has

theorem Stands.detected (stands : files.Stands rules kind log) :
    files.detectBackendAuthorities = [kind] := by
  obtain ⟨opens, alone, _⟩ := stands
  cases kind with
  | jsonl =>
    obtain ⟨disk, _, there, authority, _⟩ := opens
    obtain ⟨database, _⟩ := absent_sqlite.mp alone
    simp [detectBackendAuthorities, there, authority, database]
  | sqlite =>
    obtain ⟨tables, there, _⟩ := opens
    obtain ⟨database, stored, _⟩ := Option.map_eq_some_iff.mp there
    simp [detectBackendAuthorities, absent_jsonl.mp alone, stored]

theorem Stands.mark {rules : SessionRules Data View} (stands : files.Stands rules kind log) :
    Stands rules kind { files with marker := some kind } log := by
  obtain ⟨opens, alone, _⟩ := stands
  cases kind with
  | jsonl =>
    have none : files.database = none ∧ files.wal = none ∧ files.shm = false :=
      absent_sqlite.mp alone
    exact ⟨opens, absent_sqlite.mpr none, by simp⟩
  | sqlite =>
    have none : files.journal = none := absent_jsonl.mp alone
    exact ⟨opens, absent_jsonl.mpr none, by simp⟩

theorem Stands.initializeFiles (stands : files.Stands environment.rules kind log)
    (index : Option V2) : ∃ after, files.initializeFiles environment kind index = (.ok (), after) ∧
      after.Stands environment.rules kind log ∧ after.Has environment.rules kind log ∧
      after.marker = files.marker ∧ (kind = .sqlite → after.wal.isSome = true ∧ after.shm = true) := by
  obtain ⟨opens, alone, marker⟩ := stands
  cases kind with
  | jsonl =>
    obtain ⟨disk, opened, there, authority, ran, holds⟩ := opens
    have run : files.initializeFiles environment .jsonl index =
        (.ok (), { files with journal := some opened }) := by
      simp [StorageFiles.initializeFiles, startJournal, there, ran]
    have none : files.database = none ∧ files.wal = none ∧ files.shm = false :=
      absent_sqlite.mp alone
    have rests := JsonlRests.of_opened ran holds
    exact ⟨_, run, ⟨Has.opens ⟨opened, rfl, rests⟩, absent_sqlite.mpr none, marker⟩,
      ⟨opened, rfl, rests⟩, rfl, nofun⟩
  | sqlite =>
    obtain ⟨tables, there, holds⟩ := opens
    obtain ⟨database, stored, shown⟩ := Option.map_eq_some_iff.mp there
    have has : Has environment.rules .sqlite { files with
        database := some (files.database.getD {})
        wal := some (files.tables.getD {})
        shm := true } log := by
      refine ⟨tables, ?_, holds⟩
      simp [StorageFiles.tables, stored, shown]
    have none : files.journal = none := absent_jsonl.mp alone
    exact ⟨_, rfl, ⟨has, absent_jsonl.mpr none, marker⟩, has, rfl,
      fun _ => ⟨rfl, rfl⟩⟩

theorem Stands.close (stands : files.Stands environment.rules kind log) :
    (files.close environment kind).Stands environment.rules kind log := by
  cases kind with
  | jsonl => exact stands
  | sqlite =>
    obtain ⟨⟨tables, there, holds⟩, alone, marker⟩ := stands
    obtain ⟨database, stored, shown⟩ := Option.map_eq_some_iff.mp there
    have journal : files.journal = none := absent_jsonl.mp alone
    cases last : environment.lastConnection with
    | false =>
      have same : files.close environment .sqlite = files := by simp [StorageFiles.close, last]
      rw [same]
      exact ⟨⟨tables, there, holds⟩, alone, marker⟩
    | true =>
      have closed : files.close environment .sqlite = { files with
          database := some tables
          wal := none
          shm := false } := by
        simp [StorageFiles.close, last, there, stored]
      rw [closed]
      exact ⟨⟨tables, rfl, holds⟩, absent_jsonl.mpr journal, marker⟩

theorem close_other (alone : files.Absent kind) : files.close environment kind = files := by
  cases kind with
  | jsonl => rfl
  | sqlite =>
    obtain ⟨database, wal, shm⟩ := absent_sqlite.mp alone
    obtain ⟨_, _, _, _, _⟩ := files
    obtain rfl : _ = none := database
    cases last : environment.lastConnection <;> simp [StorageFiles.close, last, tables]

theorem Has.operate {α : Type} (has : files.Has environment.rules kind log)
    {operation : {σ : Type} → SessionStore Data View σ → Action SessionError σ α} {value : α}
    (jsonl : ∀ disk, JsonlRests environment.rules disk log →
      operation (jsonlSessionJournalV3 environment.rules) disk = (.ok value, disk))
    (sqlite : ∀ tables, SqliteHolds environment.rules tables log →
      operation (sqliteSessionJournalV3 environment.rules) tables = (.ok value, tables)) :
    ∃ after, files.operate environment kind operation = (.ok value, after) ∧
      (after = files ∨ ∃ tables, kind = .sqlite ∧ files.tables = some tables ∧
        after = files.setTables tables) := by
  cases kind with
  | jsonl =>
    obtain ⟨disk, there, holds⟩ := has
    refine ⟨files, ?_, .inl rfl⟩
    simp only [StorageFiles.operate, there, jsonl disk holds]
    rw [← there]
  | sqlite =>
    obtain ⟨tables, there, holds⟩ := has
    refine ⟨files.setTables tables, ?_, .inr ⟨tables, rfl, there, rfl⟩⟩
    simp only [StorageFiles.operate, there, sqlite tables holds]

end StorageFiles

end Praxis.Session
