import Praxis.Session.MigrationSteps

/-!
# Migrations that lose nothing
-/

namespace Praxis.Session

set_option autoImplicit false

open Praxis.Foundations
open Praxis.Foundations.Action (Triple)

variable {Data View V2 : Type}

/-- The steps between the move of the database and the moves of its log files. -/
def splits : StorageStep → Bool
  | .moveFile .source .wal _ | .moveFile .source .shm _ => true
  | _ => false

section Migration

variable [DecidableEq Data] {environment : StorageEnvironment Data View V2}
  {fails : StorageStep → Bool} {left : StorageFiles Data View} {hard : Prop}
  {source target : SessionStoreKindV3} {content : CommitLog Data} {ids : List String}
  {lock : Bool} {index : Option V2}
  (easy : ∀ step, splits step = false → hard → fails step = false)
  (admits : hard → ∀ id ∈ ids, target.naming.admits id = true)
  (kept : ∀ id, Kept environment.rules id (content id)) (lists : Lists content.Present ids)
  (canonical : environment.now.Canonical)

/-- What the steps before the switch leave when they fail. -/
def Unmoved (environment : StorageEnvironment Data View V2) (source : SessionStoreKindV3)
    (content : CommitLog Data) (lock : Bool) (index : Option V2) (hard : Prop) (_ : StorageError)
    (root : StorageRoot Data View V2) : Prop :=
  SourceOpen environment source content lock index root ∧ ¬hard

include easy admits kept lists canonical in
theorem importTarget_triple :
    Triple
      (fun root => SourceOpen environment source content lock index root ∧
        OpenAlone environment.rules target (root.files .staging) fun _ => [])
      (importTarget environment fails left target
        (archiveOf environment.rules content ids environment.now))
      (fun _ root => SourceOpen environment source content lock index root ∧
        OpenAlone environment.rules target (root.files .staging) content ∧
        ∀ id ∈ ids, target.naming.admits id = true)
      (Unmoved environment source content lock index hard) := by
  refine .of_run fun root ⟨opened, empty⟩ => ?_
  have away : StoragePlace.root ≠ .staging := by decide
  cases failed : fails .importTarget with
  | true =>
    refine .inr ⟨.io, root.withFiles .staging left, by simp [importTarget, failed],
      opened.elsewhere away left, fun here => ?_⟩
    rw [easy _ rfl here] at failed
    cases failed
  | false =>
    by_cases admitted : ∀ id ∈ ids, target.naming.admits id = true
    · obtain ⟨report, after, run, alone⟩ := import_ok kept lists canonical admitted empty
      refine .inl ⟨report, root.withFiles .staging after, ?_, opened.elsewhere away after, ?_,
        admitted⟩
      · simp [importTarget, operateStore, workOn, failed, run]
      · rwa [withFiles_self]
    · obtain ⟨bad, member, refused⟩ : ∃ bad ∈ ids, target.naming.admits bad = false := by
        simpa using admitted
      obtain ⟨error, after, run⟩ := import_rejects kept lists canonical member refused empty
      refine .inr ⟨error, root.withFiles .staging after, ?_, opened.elsewhere away after,
        fun here => admitted (admits here)⟩
      simp [importTarget, operateStore, workOn, failed, run]

include easy admits kept lists canonical in
/-- **The staged store holds what the source holds**, and all of it was admitted. -/
theorem stageTarget_triple :
    Triple (SourceOpen environment source content lock index)
      (stageTarget environment fails left target
        (archiveOf environment.rules content ids environment.now))
      (fun _ root => SourceOpen environment source content lock index root ∧
        ((root.files .staging).Stands environment.rules target content ∧
          (root.files .staging).marker = none) ∧
        ∀ id ∈ ids, target.naming.admits id = true)
      (Unmoved environment source content lock index hard) := by
  have away : StoragePlace.root ≠ .staging := by decide
  unfold stageTarget
  have mkdir : Triple (SourceOpen environment source content lock index)
      (touch fails .mkdirStaging (·.withFiles .staging {}))
      (fun _ root => SourceOpen environment source content lock index root ∧
        root.files .staging = {})
      (Unmoved environment source content lock index hard) :=
    touch_triple (easy _ rfl) fun root opened =>
      ⟨opened.elsewhere away _, withFiles_self root .staging _⟩
  refine mkdir.bind fun _ => ?_
  have opens : Triple
      (fun root => SourceOpen environment source content lock index root ∧
        root.files .staging = {})
      (initializeStore environment fails .initializeTarget .staging target)
      (fun _ root => SourceOpen environment source content lock index root ∧
        OpenAlone environment.rules target (root.files .staging) fun _ => [])
      (Unmoved environment source content lock index hard) := by
    unfold initializeStore
    refine (workOn_triple (easy _ rfl) fun root given => ?_).weaken fun _ _ holds => ⟨holds.1.1, holds.2⟩
    obtain ⟨opened, empty⟩ := given
    obtain ⟨after, run, alone⟩ := initializeFiles_empty environment target
    refine ⟨(), after, ?_, opened.elsewhere away after, ?_⟩
    · rw [empty]
      exact run
    · rwa [withFiles_self]
  refine opens.bind fun _ => ?_
  have fills : Triple
      (fun root => SourceOpen environment source content lock index root ∧
        OpenAlone environment.rules target (root.files .staging) fun _ => [])
      (do
        let _ ← importTarget environment fails left target
          (archiveOf environment.rules content ids environment.now)
        let verified ← exportStore environment fails .exportTarget .staging target
          (archiveOf environment.rules content ids environment.now).exportedAt
        Action.check (ensure (verified.checksum ==
          (archiveOf environment.rules content ids environment.now).checksum)
          .sessionStoreMigrationVerifyFailed))
      (fun _ root => SourceOpen environment source content lock index root ∧
        OpenAlone environment.rules target (root.files .staging) content ∧
        ∀ id ∈ ids, target.naming.admits id = true)
      (Unmoved environment source content lock index hard) := by
    refine (importTarget_triple easy admits kept lists canonical).bind fun _ => ?_
    have verifies : Triple
        (fun root => SourceOpen environment source content lock index root ∧
          OpenAlone environment.rules target (root.files .staging) content ∧
          ∀ id ∈ ids, target.naming.admits id = true)
        (exportStore environment fails .exportTarget .staging target
          (archiveOf environment.rules content ids environment.now).exportedAt)
        (fun archive root => archive = archiveOf environment.rules content ids environment.now ∧
          SourceOpen environment source content lock index root ∧
          OpenAlone environment.rules target (root.files .staging) content ∧
          ∀ id ∈ ids, target.naming.admits id = true)
        (Unmoved environment source content lock index hard) := by
      unfold exportStore operateStore
      refine (workOn_triple (easy _ rfl) fun root given => ?_).mono
        (fun _ => id) (fun _ _ => id) fun _ _ holds => ⟨holds.1.1, holds.2⟩
      obtain ⟨opened, alone, admitted⟩ := given
      obtain ⟨after, run, alone'⟩ := export_again lists canonical alone
      refine ⟨_, after, run, rfl, opened.elsewhere away after, ?_, admitted⟩
      rwa [withFiles_self]
    refine verifies.bind fun archive => .check ?_ ?_
    · exact fun _ root _ holds => holds.2
    · rintro error root rejected ⟨rfl, _⟩
      simp [ensure] at rejected
  refine fills.ensuring (fun _ => ?_) fun error => ?_
  · unfold closeStore
    refine (workOn_triple (easy _ rfl) fun root given => ?_).mono
      (fun _ => id) (fun _ _ => id) fun _ _ holds => ⟨holds.1.1, holds.2⟩
    obtain ⟨opened, alone, admitted⟩ := given
    refine ⟨(), _, rfl, opened.elsewhere away _, ?_, admitted⟩
    rw [withFiles_self]
    exact alone.close
  · unfold closeStore
    refine (workOn_triple (easy _ rfl) fun root given => ?_).mono
      (fun _ => id) (fun _ _ => id) fun _ _ holds => holds.1
    obtain ⟨opened, apart⟩ := given
    exact ⟨(), _, rfl, opened.elsewhere away _, apart⟩

end Migration

end Praxis.Session
