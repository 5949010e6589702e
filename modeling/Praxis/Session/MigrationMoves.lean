import Praxis.Session.MigrationSteps

/-!
# Moving backends

A move of files fails at one of them, with those before it moved, or moves all of them
(`moveFiles_triple`).
-/

namespace Praxis.Session

set_option autoImplicit false

open Praxis.Foundations
open Praxis.Foundations.Action (Triple)

variable {Data View V2 : Type}

/-- The files of all places. -/
abbrev StoragePlaces (Data View : Type) := StoragePlace → StorageFiles Data View

/-- The root has these files; the migration lock and the V2 index are as given. -/
structure At (places : StoragePlaces Data View) (lock : Bool) (index : Option V2)
    (root : StorageRoot Data View V2) : Prop where
  files : root.files = places
  lock : root.migrationLock = lock
  index : root.index = index

/-- The places after a file went from one to another. -/
def moving (source target : StoragePlace) (places : StoragePlaces Data View) (file : MovedFile) :
    StoragePlaces Data View :=
  if file.present (places source) then
    Function.update (Function.update places target (file.arrive (places source) (places target)))
      source (file.remove (places source))
  else places

def MoveFails (fails : StorageStep → Bool) (move : MigrationMove) (file : MovedFile)
    (present : Bool) : Prop :=
  fails (.moveFile move file .stat) = true ∨
    present = true ∧
      (fails (.moveFile move file .mkdir) = true ∨ fails (.moveFile move file .rename) = true)

theorem not_moveFails_noFault (move : MigrationMove) (file : MovedFile) (present : Bool) :
    ¬ MoveFails noFault move file present := by
  simp [MoveFails, noFault]

section Moves

variable {fails : StorageStep → Bool} {move : MigrationMove} {source target : StoragePlace}
  {places : StoragePlaces Data View} {lock : Bool} {index : Option V2} {file : MovedFile}
  {files : StorageFiles Data View} {kind : SessionStoreKindV3}

theorem moveIfPresent_triple
    (clear : file.present (places source) = true → file.blocked (places target) = false) :
    Triple (At places lock index) (moveIfPresent fails move source target file)
      (fun _ root => At (moving source target places file) lock index root ∧
        ¬ MoveFails fails move file (file.present (places source)))
      fun _ root => At places lock index root ∧
        MoveFails fails move file (file.present (places source)) := by
  refine .of_run fun root ⟨files, held, indexed⟩ => ?_
  subst files
  cases stat : fails (.moveFile move file .stat) with
  | true =>
    refine .inr ⟨.io, root, ?_, ⟨rfl, held, indexed⟩, .inl stat⟩
    exact Action.bind_rejects (by simp [look, stat])
  | false =>
    have looked : look fails (.moveFile move file .stat)
        (fun root : StorageRoot Data View V2 => file.present (root.files source)) root =
        (.ok (file.present (root.files source)), root) := by
      simp [look, stat]
    cases present : file.present (root.files source) with
    | false =>
      rw [present] at looked
      refine .inl ⟨(), root, ?_, ⟨⟨?_, held, indexed⟩, ?_⟩⟩
      · exact (Action.bind_run looked).trans rfl
      · simp [moving, present]
      · simp [MoveFails, stat]
    | true =>
      rw [present] at looked
      have there := clear present
      cases mkdir : fails (.moveFile move file .mkdir) with
      | true =>
        refine .inr ⟨.io, root, ?_, ⟨rfl, held, indexed⟩, .inr ⟨rfl, .inl mkdir⟩⟩
        refine (Action.bind_run looked).trans ?_
        exact Action.bind_rejects (by simp [pass, touch, mkdir])
      | false =>
        have made : pass fails (.moveFile move file .mkdir) root = (.ok (), root) := by
          simp [pass, touch, mkdir]
        cases rename : fails (.moveFile move file .rename) with
        | true =>
          refine .inr ⟨.io, root, ?_, ⟨rfl, held, indexed⟩, .inr ⟨rfl, .inr rename⟩⟩
          refine (Action.bind_run looked).trans ((Action.bind_run made).trans ?_)
          simp [renameFile, rename]
        | false =>
          refine .inl ⟨(), (root.withFiles target
            (file.arrive (root.files source) (root.files target))).withFiles source
              (file.remove (root.files source)), ?_, ⟨⟨?_, held, indexed⟩, ?_⟩⟩
          · refine (Action.bind_run looked).trans ((Action.bind_run made).trans ?_)
            simp [renameFile, rename, there]
          · simp [moving, present, StorageRoot.withFiles]
          · simp [MoveFails, stat, mkdir, rename]

theorem present_remove {file other : MovedFile}
    (apart : other ≠ file) : other.present (file.remove files) = other.present files := by
  cases file <;> cases other <;> first | rfl | exact absurd rfl apart

theorem blocked_arrive {from_ : StorageFiles Data View} {file other : MovedFile}
    (apart : other ≠ file) : other.blocked (file.arrive from_ files) = other.blocked files := by
  cases file <;> cases other <;> first | rfl | exact absurd rfl apart

theorem remove_absent {file : MovedFile}
    (absent : file.present files = false) : file.remove files = files := by
  obtain ⟨_, _, _, _, _⟩ := files
  cases file <;> simp_all [MovedFile.present, MovedFile.remove]

theorem moving_source :
    moving source target places file source = file.remove (places source) := by
  unfold moving
  split
  · simp
  · rename_i absent
    rw [remove_absent (by simpa using absent)]

theorem moving_target (apart : source ≠ target) :
    moving source target places file target =
      if file.present (places source) then file.arrive (places source) (places target)
      else places target := by
  unfold moving
  split
  · simp [Ne.symm apart]
  · rfl

theorem moving_other {other : StoragePlace} (first : other ≠ source) (second : other ≠ target) :
    moving source target places file other = places other := by
  unfold moving
  split
  · simp [first, second]
  · rfl

/-- **A list of files is moved one after the other**, up to one whose move fails. -/
theorem moveFiles_triple (apart : source ≠ target) (files : List MovedFile) (nodup : files.Nodup)
    (clear : ∀ file ∈ files, file.present (places source) = true →
      file.blocked (places target) = false) :
    Triple (At places lock index) (files.forM (moveIfPresent fails move source target))
      (fun _ root => At (files.foldl (moving source target) places) lock index root ∧
        ∀ file ∈ files, ¬ MoveFails fails move file (file.present (places source)))
      fun _ root => ∃ front file rest, files = front ++ file :: rest ∧
        At (front.foldl (moving source target) places) lock index root ∧
        MoveFails fails move file (file.present (places source)) := by
  induction files generalizing places with
  | nil => exact .pure () fun root here => ⟨here, by simp⟩
  | cons file rest ih =>
    obtain ⟨fresh, distinct⟩ := List.nodup_cons.mp nodup
    have others : ∀ other ∈ rest, other ≠ file := fun other member same => fresh (same ▸ member)
    have stays : ∀ other ∈ rest, other.present (moving source target places file source) =
        other.present (places source) := by
      intro other member
      rw [moving_source, present_remove (others other member)]
    have clear' : ∀ other ∈ rest, other.present (moving source target places file source) = true →
        other.blocked (moving source target places file target) = false := by
      intro other member there
      rw [stays other member] at there
      have free := clear other (List.mem_cons_of_mem _ member) there
      rw [moving_target apart]
      split
      · rw [blocked_arrive (others other member)]
        exact free
      · exact free
    have first : Triple (At places lock index) (moveIfPresent fails move source target file) _ _ :=
      moveIfPresent_triple (clear file List.mem_cons_self)
    refine Triple.bind (first.weaken ?_) fun _ => .fact fun passed => ?_
    · rintro error root ⟨here, failed⟩
      exact ⟨[], file, rest, rfl, here, failed⟩
    · refine (ih distinct clear').mono (fun _ => id) ?_ ?_
      · rintro _ root ⟨here, all⟩
        refine ⟨here, List.forall_mem_cons.mpr ⟨passed, fun other member => ?_⟩⟩
        rw [← stays other member]
        exact all other member
      · rintro error root ⟨front, other, back, rfl, here, failed⟩
        refine ⟨file :: front, other, back, rfl, here, ?_⟩
        rw [← stays other (by simp)]
        exact failed

theorem moveBackend_triple (apart : source ≠ target)
    (clear : ∀ file ∈ kind.files, file.present (places source) = true →
      file.blocked (places target) = false) :
    Triple (At places lock index) (moveBackend fails move source target kind)
      (fun _ root => At (kind.files.foldl (moving source target) places) lock index root ∧
        ∀ file ∈ kind.files, ¬ MoveFails fails move file (file.present (places source)))
      fun _ root => At places lock index root ∧ fails (.mkdirMove move) = true ∨
        ∃ front file rest, kind.files = front ++ file :: rest ∧
          At (front.foldl (moving source target) places) lock index root ∧
          MoveFails fails move file (file.present (places source)) := by
  have nodup : kind.files.Nodup := by cases kind <;> decide
  unfold moveBackend
  have easy : ¬fails (.mkdirMove move) = true → fails (.mkdirMove move) = false := by simp
  have mkdir : Triple (At places lock index) (pass fails (.mkdirMove move))
      (fun _ => At places lock index)
      fun (_ : StorageError) root => At places lock index root ∧ fails (.mkdirMove move) = true ∨
        ∃ front file rest, kind.files = front ++ file :: rest ∧
          At (front.foldl (moving source target) places) lock index root ∧
          MoveFails fails move file (file.present (places source)) :=
    (pass_triple easy).weaken fun _ _ failed =>
      .inl ⟨failed.1, not_not.mp failed.2⟩
  refine mkdir.bind fun _ => ?_
  exact (moveFiles_triple apart kind.files nodup clear).weaken fun _ _ => .inr

theorem moveBackend_noFault (apart : source ≠ target)
    (clear : ∀ file ∈ kind.files, file.present (places source) = true →
      file.blocked (places target) = false) :
    Triple (At places lock index) (moveBackend noFault move source target kind)
      (fun _ => At (kind.files.foldl (moving source target) places) lock index)
      fun _ _ => False := by
  refine (moveBackend_triple apart clear).mono (fun _ => id) (fun _ _ holds => holds.1) ?_
  rintro error root (⟨_, failed⟩ | ⟨_, file, _, _, _, failed⟩)
  · cases failed
  · exact not_moveFails_noFault move file _ failed

/-! ## What the places hold afterwards -/

/-- Two directories after a list of files went from the first to the second. -/
def send (files : List MovedFile) (pair : StorageFiles Data View × StorageFiles Data View) :
    StorageFiles Data View × StorageFiles Data View :=
  files.foldl (fun pair file => (file.remove pair.1,
    if file.present pair.1 then file.arrive pair.1 pair.2 else pair.2)) pair

theorem foldl_moving (places : StoragePlaces Data View) (source target : StoragePlace)
    (apart : source ≠ target) (files : List MovedFile) :
    ((files.foldl (moving source target) places) source,
      (files.foldl (moving source target) places) target) =
      send files (places source, places target) := by
  induction files generalizing places with
  | nil => rfl
  | cons file rest ih =>
    rw [List.foldl_cons, ih, moving_source, moving_target apart]
    rfl

theorem foldl_moving_source (files : List MovedFile) :
    (files.foldl (moving source target) places) source =
      files.foldl (fun files file => file.remove files) (places source) := by
  induction files generalizing places with
  | nil => rfl
  | cons file rest ih => rw [List.foldl_cons, ih, moving_source, List.foldl_cons]

theorem foldl_moving_other {other : StoragePlace} (first : other ≠ source) (second : other ≠ target)
    (files : List MovedFile) : (files.foldl (moving source target) places) other = places other := by
  induction files generalizing places with
  | nil => rfl
  | cons file rest ih => rw [List.foldl_cons, ih, moving_other first second]

end Moves

section Contents

variable {kind : SessionStoreKindV3} {files : StorageFiles Data View}

/-- The files without the marker. -/
def StorageFiles.unmarked (files : StorageFiles Data View) : StorageFiles Data View :=
  { files with marker := none }

theorem send_backup (alone : files.Absent kind.other) :
    send (.marker :: kind.files) (files, {}) = ({}, files) := by
  obtain ⟨journal, database, wal, shm, marker⟩ := files
  cases kind with
  | jsonl =>
    obtain ⟨rfl, rfl, rfl⟩ := StorageFiles.absent_sqlite.mp alone
    cases journal <;> cases marker <;> rfl
  | sqlite =>
    obtain rfl := StorageFiles.absent_jsonl.mp alone
    cases database <;> cases wal <;> cases shm <;> cases marker <;> rfl

theorem send_restore (alone : files.Absent kind.other) :
    send (kind.files ++ [.marker]) (files, {}) = ({}, files) := by
  obtain ⟨journal, database, wal, shm, marker⟩ := files
  cases kind with
  | jsonl =>
    obtain ⟨rfl, rfl, rfl⟩ := StorageFiles.absent_sqlite.mp alone
    cases journal <;> cases marker <;> rfl
  | sqlite =>
    obtain rfl := StorageFiles.absent_jsonl.mp alone
    cases database <;> cases wal <;> cases shm <;> cases marker <;> rfl

/-- What arrived is gone again once its backend is. -/
theorem remove_sent {front : List MovedFile} (inside : ∀ file ∈ front, file ∈ kind.files)
    (pair : StorageFiles Data View × StorageFiles Data View) :
    kind.files.foldl (fun files file => file.remove files) (send front pair).2 =
      kind.files.foldl (fun files file => file.remove files) pair.2 := by
  induction front generalizing pair with
  | nil => rfl
  | cons file rest ih =>
    have here := inside file List.mem_cons_self
    have others := ih (fun other member => inside other (List.mem_cons_of_mem _ member))
    refine (others _).trans ?_
    have arrives : ∀ from_ into : StorageFiles Data View,
        kind.files.foldl (fun files file => file.remove files) (file.arrive from_ into) =
          kind.files.foldl (fun files file => file.remove files) into := by
      intro from_ into
      cases kind <;> cases file <;> simp_all [SessionStoreKindV3.files] <;> rfl
    dsimp only
    split
    · exact arrives _ _
    · rfl

end Contents

end Praxis.Session
