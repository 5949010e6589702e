import Praxis.Session.MigrationMoves
import Praxis.Session.MigrationSafe

/-!
# The switch

Once the staged store is verified, the migration moves the source away and the target in. Until the
first file of the source has moved, and from when the last one has, an error leaves a root that
stands. In between, with the database moved and a log file not, it leaves one that is `Lost`.
-/

namespace Praxis.Session

set_option autoImplicit false

open Praxis.Foundations
open Praxis.Foundations.Action (Triple)

variable {Data View V2 : Type}

/-- The root has no backend and no marker. -/
structure Lost (files : StorageFiles Data View) : Prop where
  journal : files.journal = none
  database : files.database = none
  marker : files.marker = none

/-- What a migration leaves; `hard` says that it failed between the moves of the source. -/
structure Settled (rules : SessionRules Data View) (content : CommitLog Data) (lock : Bool)
    (index : Option V2) (hard : Prop) (root : StorageRoot Data View V2) : Prop where
  lost : hard → Lost (root.files .root)
  stands : ¬hard → ∃ kind, (root.files .root).Stands rules kind content
  lock : root.migrationLock = lock
  index : root.index = index

section Settled

variable {environment : StorageEnvironment Data View V2} {fails : StorageStep → Bool}
  {step : StorageStep} {content : CommitLog Data} {lock : Bool} {index : Option V2}
  {hard : Prop} {kind : SessionStoreKindV3} {root : StorageRoot Data View V2}
  {rules : SessionRules Data View}

theorem Rooted.settled (rooted : Rooted rules kind content lock index root)
    (easy : ¬hard) : Settled rules content lock index hard root where
  lost here := absurd here easy
  stands _ := ⟨kind, rooted.stands⟩
  lock := rooted.lock
  index := rooted.index

theorem At.settled {places : StoragePlaces Data View} (here : At places lock index root)
    (stands : (places .root).Stands rules kind content) (easy : ¬hard) :
    Settled rules content lock index hard root where
  lost failed := absurd failed easy
  stands _ := ⟨kind, here.files ▸ stands⟩
  lock := here.lock
  index := here.index

theorem Lost.close {files : StorageFiles Data View} (lost : Lost files) (kind : SessionStoreKindV3) :
    Lost (files.close environment kind) := by
  obtain ⟨journal, database, marker⟩ := lost
  cases kind with
  | jsonl => exact ⟨journal, database, marker⟩
  | sqlite =>
    unfold StorageFiles.close
    cases environment.lastConnection with
    | false => exact ⟨journal, database, marker⟩
    | true => exact ⟨journal, by simp [StorageFiles.tables, database], marker⟩

theorem Settled.closes :
    Triple (Settled environment.rules content lock index hard)
      (closeStore environment fails step .root kind)
      (fun _ => Settled environment.rules content lock index hard)
      fun _ => Settled environment.rules content lock index hard := by
  unfold closeStore
  have easy : False → fails step = false := False.elim
  refine (workOn_triple easy fun root settled => ?_).weaken fun _ _ holds => holds.1
  refine ⟨(), _, rfl, ⟨fun failed => ?_, fun survived => ?_, settled.lock, settled.index⟩⟩ <;>
    rw [withFiles_self]
  · exact (settled.lost failed).close kind
  · obtain ⟨kind', stands⟩ := settled.stands survived
    by_cases same : kind = kind'
    · subst same
      exact ⟨kind, stands.close⟩
    · have absent : (root.files .root).Absent kind :=
        SessionStoreKindV3.eq_other same ▸ stands.alone
      rw [StorageFiles.close_other absent]
      exact ⟨kind', stands⟩

theorem Settled.removeStaging :
    Triple (Settled rules content lock index hard)
      (touch fails .removeStaging (·.withFiles .staging {}))
      (fun _ => Settled rules content lock index hard)
      fun _ => Settled rules content lock index hard := by
  have easy : False → fails .removeStaging = false := False.elim
  have away : StoragePlace.root ≠ .staging := by decide
  refine (touch_triple easy fun root settled => ?_).weaken fun _ _ holds => holds.1
  refine ⟨?_, ?_, settled.lock, settled.index⟩ <;> rw [withFiles_of_ne root away]
  · exact settled.lost
  · exact settled.stands

end Settled

/-! ## Directories that were moved -/

section Sent

variable {kind : SessionStoreKindV3} {files : StorageFiles Data View}

theorem send_fst (moved : List MovedFile) (pair : StorageFiles Data View × StorageFiles Data View) :
    (send moved pair).1 = moved.foldl (fun files file => file.remove files) pair.1 := by
  induction moved generalizing pair with
  | nil => rfl
  | cons file rest ih => exact ih _

/-- A backend without a marker goes to an empty directory. -/
theorem send_target (alone : files.Absent kind.other) (unmarked : files.marker = none) :
    send kind.files (files, {}) = ({}, files) := by
  have whole : send kind.files (send [.marker] (files, {})) = ({}, files) := send_backup alone
  obtain ⟨journal, database, wal, shm, marker⟩ := files
  obtain rfl : marker = none := unmarked
  exact whole

/-- What arrived at an empty directory can go back. -/
theorem clear_back {kind : SessionStoreKindV3} {front : List MovedFile}
    (first : front <+: kind.files) {files : StorageFiles Data View} :
    ∀ file ∈ kind.files, file.present (send front (files, {})).2 = true →
      file.blocked (send front (files, {})).1 = false := by
  intro file member there
  cases kind with
  | jsonl =>
    obtain rfl : file = .journal := by simpa [SessionStoreKindV3.files] using member
    rw [send_fst]
    rcases List.prefix_cons_iff.mp first with rfl | ⟨rest, rfl, empty⟩
    · cases there
    · obtain rfl := List.prefix_nil.mp empty
      rfl
  | sqlite =>
    simp only [SessionStoreKindV3.files, List.mem_cons, List.not_mem_nil, or_false] at member
    rcases member with rfl | rfl | rfl <;> rfl

end Sent

/-! ## The rollback -/

section Switch

variable {rules : SessionRules Data View} {fails : StorageStep → Bool} {hard : Prop}
  {source target : SessionStoreKindV3} {content : CommitLog Data} {lock : Bool} {index : Option V2}
  {places : StoragePlaces Data View} {move : MigrationMove}

/-- The source is in the backup and nothing is in the root. -/
structure Switching (rules : SessionRules Data View) (source : SessionStoreKindV3)
    (content : CommitLog Data) (places : StoragePlaces Data View) : Prop where
  root : places .root = {}
  backup : (places .backup).Stands rules source content

theorem noFault_swallow {place goal : StoragePlace}
    {kind : SessionStoreKindV3} {E : StorageError → StorageRoot Data View V2 → Prop}
    (apart : place ≠ goal) (clear : ∀ file ∈ kind.files, file.present (places place) = true →
      file.blocked (places goal) = false) :
    Triple (At places lock index) (moveBackend noFault move place goal kind).swallow
      (fun _ => At (kind.files.foldl (moving place goal) places) lock index) E :=
  .swallow ((moveBackend_noFault apart clear).weaken fun _ _ => False.elim)

/-- **The rollback puts the source back**, whatever part of the target had been moved in. -/
theorem rollback_triple {α : Type} (switching : Switching rules source content places)
    {front : List MovedFile} (first : front <+: target.files) (error : StorageError)
    (easy : ¬hard) {R : α → StorageRoot Data View V2 → Prop} :
    Triple (At (front.foldl (moving .staging .root) places) lock index)
      (do
        (moveBackend noFault .target .root .staging target).swallow
        (moveBackend noFault .source .backup .root source).swallow
        (moveIfPresent noFault .marker .backup .root .marker).swallow
        Action.check (.error error))
      R fun _ => Settled rules content lock index hard := by
  obtain ⟨empty, backup⟩ := switching
  have arrived := foldl_moving places .staging .root (by decide) front
  rw [empty] at arrived
  have staged := congrArg Prod.fst arrived
  have inRoot := congrArg Prod.snd arrived
  dsimp only at staged inRoot
  set there := front.foldl (moving .staging .root) places with thereEq
  have stillBackup : there .backup = places .backup :=
    foldl_moving_other (by decide) (by decide) front
  -- The target goes back to the staging directory.
  have clear : ∀ file ∈ target.files, file.present (there .root) = true →
      file.blocked (there .staging) = false := by
    rw [staged, inRoot]
    exact clear_back first
  refine (noFault_swallow (by decide) clear).bind fun _ => ?_
  set emptied := target.files.foldl (moving .root .staging) there with emptiedEq
  have emptyAgain : emptied .root = {} := by
    rw [emptiedEq, foldl_moving_source, inRoot, remove_sent fun file member => first.subset member]
    cases target <;> rfl
  have stillThere : emptied .backup = places .backup :=
    (foldl_moving_other (by decide) (by decide) target.files).trans stillBackup
  -- The source comes back, and then its marker.
  have clear' : ∀ file ∈ source.files, file.present (emptied .backup) = true →
      file.blocked (emptied .root) = false := by
    intro file _ _
    rw [emptyAgain]
    cases file <;> rfl
  refine (noFault_swallow (by decide) clear').bind fun _ => ?_
  set restored := source.files.foldl (moving .backup .root) emptied with restoredEq
  have marker : Triple (At restored lock index)
      (moveIfPresent noFault .marker .backup .root .marker).swallow
      (fun _ => At (moving .backup .root restored .marker) lock index)
      fun _ => Settled rules content lock index hard :=
    .swallow ((moveIfPresent_triple fun _ => rfl).mono (fun _ => id) (fun _ _ holds => holds.1)
      fun _ _ failed => absurd failed.2 (not_moveFails_noFault _ _ _))
  refine marker.bind fun _ => .check (nofun) fun _ root _ here => ?_
  have back : moving .backup .root restored .marker .root = places .backup := by
    have whole := congrArg Prod.snd (foldl_moving emptied .backup .root (by decide)
      (source.files ++ [.marker]))
    rw [List.foldl_append, stillThere, emptyAgain, send_restore backup.alone] at whole
    exact whole
  exact here.settled (back ▸ backup) easy

/-- **Moving the target in**: it stands in the root with its marker, or the source does again. -/
theorem moveIn_triple (switching : Switching rules source content places)
    (staged : (places .staging).Stands rules target content)
    (unmarked : (places .staging).marker = none) (easy : ¬hard) :
    Triple (At places lock index)
      (Action.ensuring (Action.catching
          (do
            moveBackend fails .target .staging .root target
            atomicWriteAuthority fails .writeAuthority target)
          fun error => do
            (moveBackend noFault .target .root .staging target).swallow
            (moveBackend noFault .source .backup .root source).swallow
            (moveIfPresent noFault .marker .backup .root .marker).swallow
            Action.check (.error error))
        (touch fails .removeStaging (·.withFiles .staging {})))
      (fun _ => Settled rules content lock index hard)
      fun _ => Settled rules content lock index hard := by
  have empty := switching.root
  have clear : ∀ file ∈ target.files, file.present (places .staging) = true →
      file.blocked (places .root) = false := by
    intro file _ _
    rw [empty]
    cases file <;> rfl
  -- An error leaves a part of the target in the root.
  let Part (_ : StorageError) (root : StorageRoot Data View V2) : Prop :=
    ∃ front, At (front.foldl (moving .staging .root) places) lock index root ∧
      front <+: target.files
  have moves : Triple (At places lock index) (moveBackend fails .target .staging .root target)
      (fun _ => At (target.files.foldl (moving .staging .root) places) lock index) Part := by
    refine (moveBackend_triple (by decide) clear).mono (fun _ => id) (fun _ _ holds => holds.1) ?_
    rintro error root (⟨here, _⟩ | ⟨front, file, rest, split, here, _⟩)
    · exact ⟨[], here, List.nil_prefix⟩
    · exact ⟨front, here, ⟨file :: rest, split.symm⟩⟩
  have inRoot : (target.files.foldl (moving .staging .root) places) .root = places .staging := by
    have whole := congrArg Prod.snd (foldl_moving places .staging .root (by decide)
      target.files)
    rw [empty, send_target staged.alone unmarked] at whole
    exact whole
  have names : Triple (At (target.files.foldl (moving .staging .root) places) lock index)
      (atomicWriteAuthority fails .writeAuthority target)
      (fun _ => Settled rules content lock index hard) Part := by
    have easy' : False → ∀ step, fails (.writeAuthority step) = false := False.elim
    have passes : Triple (At (target.files.foldl (moving .staging .root) places) lock index)
        ([WriteStep.mkdir, .open_, .write, .sync, .close].forM fun step =>
          pass fails (.writeAuthority step))
        (fun _ root => At (target.files.foldl (moving .staging .root) places) lock index root ∧
          ∀ step ∈ [WriteStep.mkdir, .open_, .write, .sync, .close], True) Part :=
      .forM fun step _ => (pass_triple (easy' · step)).mono (fun _ => id)
        (fun _ _ here => ⟨here, trivial⟩) fun _ _ failed => ⟨_, failed.1, List.prefix_rfl⟩
    refine passes.bind fun _ => (touch_triple (easy' · .rename) fun root here => ?_).mono
      (fun _ holds => holds.1) (fun _ _ => id) fun _ _ failed => ⟨_, failed.1, List.prefix_rfl⟩
    have final : root.files .root = places .staging := by rw [here.files, inRoot]
    refine ⟨fun failed => absurd failed easy, fun _ => ⟨target, ?_⟩, here.lock, here.index⟩
    rw [withFiles_self, final]
    exact staged.mark
  refine Triple.ensuring (R := fun _ => Settled rules content lock index hard)
    (E := fun _ => Settled rules content lock index hard) ?_ (fun _ => Settled.removeStaging)
    fun _ => Settled.removeStaging
  exact (moves.bind fun _ => names).catching fun error => .of_exists fun front =>
    .fact fun first => rollback_triple switching first error easy

theorem MoveFails.easy {file : MovedFile} {present : Bool}
    (easy : ∀ step, splits step = false → hard → fails step = false)
    (calm : ∀ step, splits (.moveFile move file step) = false)
    (failed : MoveFails fails move file present) : ¬hard := by
  intro here
  have none : ∀ step, fails (.moveFile move file step) = false := fun step =>
    easy _ (calm step) here
  simp [MoveFails, none] at failed

theorem lost_of_moved {moved : List MovedFile} (alone : (places .root).Absent .jsonl)
    (named : (places .root).marker = none) (inside : ∀ file ∈ moved, file ∈ [MovedFile.wal, .shm]) :
    Lost ((.database :: moved).foldl (moving .root .backup) places .root) := by
  rw [foldl_moving_source]
  change Lost (moved.foldl (fun files file => file.remove files)
    (MovedFile.database.remove (places .root)))
  have none : (places .root).journal = none := StorageFiles.absent_jsonl.mp alone
  have start : Lost (MovedFile.database.remove (places .root)) :=
    ⟨none, rfl, named⟩
  generalize MovedFile.database.remove (places .root) = files at start
  induction moved generalizing files with
  | nil => exact start
  | cons file rest ih =>
    refine ih (fun other member => inside other (List.mem_cons_of_mem _ member)) _ ?_
    have here := inside file List.mem_cons_self
    simp only [List.mem_cons, List.not_mem_nil, or_false] at here
    rcases here with rfl | rfl <;> exact ⟨start.journal, start.database, start.marker⟩

/-- **The switch**: the root stands for what it held, unless a log file of the database could not be
moved. -/
theorem switchBackend_triple (easy : ∀ step, splits step = false → hard → fails step = false)
    (stands : (places .root).Stands rules source content)
    (staged : (places .staging).Stands rules target content)
    (unmarked : (places .staging).marker = none) (empty : places .backup = {})
    (splitting : hard ↔ source = .sqlite ∧ ∃ file ∈ [MovedFile.wal, .shm],
      MoveFails fails .source file (file.present (places .root))) :
    Triple (At places lock index) (switchBackend fails source target)
      (fun _ => Settled rules content lock index hard)
      fun _ => Settled rules content lock index hard := by
  unfold switchBackend
  have marker : Triple (At places lock index) (moveIfPresent fails .marker .root .backup .marker)
      (fun _ => At (moving .root .backup places .marker) lock index)
      fun _ => Settled rules content lock index hard :=
    (moveIfPresent_triple fun _ => rfl).mono (fun _ => id) (fun _ _ holds => holds.1)
      fun _ _ failed => failed.1.settled stands (failed.2.easy easy fun _ => rfl)
  refine marker.bind fun _ => ?_
  set named := moving .root .backup places .marker with namedEq
  have inRoot : named .root = (places .root).unmarked := moving_source
  have stands' : (named .root).Stands rules source content := by
    rw [inRoot]
    obtain ⟨opens, alone, _⟩ := stands
    cases source with
    | jsonl =>
      have none : (places .root).database = none ∧ (places .root).wal = none ∧
          (places .root).shm = false := StorageFiles.absent_sqlite.mp alone
      exact ⟨opens, StorageFiles.absent_sqlite.mpr none, nofun⟩
    | sqlite =>
      have none : (places .root).journal = none := StorageFiles.absent_jsonl.mp alone
      exact ⟨opens, StorageFiles.absent_jsonl.mpr none, nofun⟩
  have clear : ∀ file ∈ source.files, file.present (named .root) = true →
      file.blocked (named .backup) = false := by
    intro file _ _
    rw [namedEq, moving_target (by decide), empty]
    cases file <;> split <;> rfl
  have stays : ∀ file ≠ MovedFile.marker,
      file.present (named .root) = file.present (places .root) := by
    intro file other
    rw [namedEq, moving_source, present_remove other]
  have moves : Triple (At named lock index) (moveBackend fails .source .root .backup source)
      (fun _ root => At (source.files.foldl (moving .root .backup) named) lock index root ∧ ¬hard)
      fun _ => Settled rules content lock index hard := by
    refine (moveBackend_triple (by decide) clear).mono (fun _ => id) ?_ ?_
    · rintro _ root ⟨here, all⟩
      refine ⟨here, fun failed => ?_⟩
      obtain ⟨rfl, file, member, bad⟩ := splitting.mp failed
      refine all file (List.mem_cons_of_mem _ member) ?_
      rwa [stays file (by rintro rfl; simp at member)]
    · rintro error root (⟨here, failed⟩ | ⟨front, file, rest, split, here, failed⟩)
      · refine here.settled stands' fun wrong => ?_
        rw [easy _ rfl wrong] at failed
        cases failed
      · cases front with
        | nil =>
          have first : ∀ step, splits (.moveFile .source file step) = false := by
            cases source <;> obtain ⟨rfl, _⟩ := List.cons.inj split <;> exact fun _ => rfl
          exact here.settled stands' (failed.easy easy first)
        | cons first moved =>
          -- Only a database has files that move after its first.
          obtain ⟨rfl, rfl, other⟩ : source = .sqlite ∧ first = .database ∧
              [MovedFile.wal, .shm] = moved ++ file :: rest := by
            cases source with
            | jsonl => simp [SessionStoreKindV3.files] at split
            | sqlite =>
              obtain ⟨rfl, other⟩ := List.cons.inj split
              exact ⟨rfl, rfl, other⟩
          have member : file ∈ [MovedFile.wal, .shm] := by
            rw [other]
            simp
          have wrong : hard := by
            refine splitting.mpr ⟨rfl, file, member, ?_⟩
            rwa [← stays file (by rintro rfl; simp at member)]
          refine ⟨fun _ => ?_, fun survived => absurd wrong survived, here.lock, here.index⟩
          rw [here.files]
          exact lost_of_moved stands'.alone (by rw [inRoot]; rfl)
            fun file inside => by rw [other]; simp [inside]
  refine moves.bind fun _ => .fact fun survived => ?_
  have whole := foldl_moving places .root .backup (by decide) (.marker :: source.files)
  rw [empty, send_backup stands.alone] at whole
  have switching : Switching rules source content
      (source.files.foldl (moving .root .backup) named) := by
    refine ⟨congrArg Prod.fst whole, ?_⟩
    have backup : source.files.foldl (moving .root .backup) named .backup = places .root :=
      congrArg Prod.snd whole
    rw [backup]
    exact stands
  have still : source.files.foldl (moving .root .backup) named .staging = places .staging :=
    foldl_moving_other (by decide) (by decide) (.marker :: source.files)
  exact moveIn_triple switching (still ▸ staged) (still ▸ unmarked) survived

end Switch

end Praxis.Session
