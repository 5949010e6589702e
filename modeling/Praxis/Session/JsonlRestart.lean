import Praxis.Session.JsonlStore

/-!
# Opening the JSONL journal again

A journal that was opened has its authority and its catalog and no pending session: it rests, and
stays as it is when it is opened again. Accepted commits keep it resting, so the journal at rest
implements the commit log (`jsonl_implements_resting`).
-/

namespace Praxis.Session

set_option autoImplicit false

open Praxis.Foundations
open Praxis.Foundations.FileProgram (run_bind run_bind_eq_ok Changes changes_read changes_write changes_ofExcept)

variable {Data View : Type} {rules : SessionRules Data View} {disk opened : JsonlDisk Data View}

/-- A change that marks no session. -/
def JsonlWrite.Settles (step : JsonlWrite Data View) : Prop := ∀ id, step ≠ .markPending id

/-- The authority and the catalog stay, and no session becomes pending. -/
structure Settling (before after : JsonlDisk Data View) : Prop where
  authority : before.authority = true → after.authority = true
  state : before.catalogState.isSome = true → after.catalogState.isSome = true
  pending : ∀ id ∈ after.pending, id ∈ before.pending

theorem Settling.refl (disk : JsonlDisk Data View) : Settling disk disk :=
  ⟨id, id, fun _ => id⟩

theorem Settling.trans {first second third : JsonlDisk Data View} (one : Settling first second)
    (two : Settling second third) : Settling first third :=
  ⟨two.authority ∘ one.authority, two.state ∘ one.state,
    fun id member => one.pending id (two.pending id member)⟩

theorem settling_perform (disk : JsonlDisk Data View) (step : JsonlWrite Data View)
    (settles : step.Settles) : Settling disk (disk.perform step) := by
  cases step with
  | authority => exact ⟨fun _ => rfl, id, fun _ => id⟩
  | markPending sessionId => exact absurd rfl (settles sessionId)
  | unlinkPending sessionId => exact ⟨id, id, fun _ member => (List.mem_filter.mp member).1⟩
  | catalogState => exact ⟨id, fun _ => rfl, fun _ => id⟩
  | appendRecord => exact ⟨id, id, fun _ => id⟩
  | truncateJournal => exact ⟨id, id, fun _ => id⟩
  | projection => exact ⟨id, id, fun _ => id⟩
  | catalog => exact ⟨id, id, fun _ => id⟩
  | clearDelta => exact ⟨id, id, fun _ => id⟩
  | appendDelta => exact ⟨id, id, fun _ => id⟩
  | truncateDelta => exact ⟨id, id, fun _ => id⟩

variable {before after : JsonlDisk Data View} {body : String → JsonlProgram Data View Unit}
  {log : CommitLog Data} {sessionId : String}

theorem settling_run {α : Type} {program : JsonlProgram Data View α}
    (changes : program.Changes JsonlWrite.Settles) {result : Except SessionError α}
    (ran : program.run JsonlDisk.perform before = (result, after)) : Settling before after := by
  have relates := changes.run_relates .refl .trans settling_perform before
  rw [ran] at relates
  exact relates

/-! ## What the programs change -/

section Changes

theorem changes_readJournal (sessionId : String) :
    (readJournal rules sessionId).Changes JsonlWrite.Settles :=
  (changes_ofExcept _).bind fun _ => changes_read _

theorem changes_recoverPendingSession (sessionId : String) :
    (Jsonl.recoverPendingSession rules sessionId).Changes JsonlWrite.Settles := by
  refine (changes_readJournal sessionId).bind fun parsed => ?_
  refine Changes.bind ?_ fun _ => ?_
  · unfold repairTail
    split
    · exact changes_write nofun
    · trivial
  · split
    · refine (changes_ofExcept _).bind fun projection => ?_
      refine (changes_write nofun).bind fun _ => ?_
      exact (changes_write nofun).bind fun _ => changes_write nofun
    · exact changes_write nofun

theorem changes_scanProjections (sessionIds : List String) :
    (Jsonl.scanProjections rules sessionIds).Changes JsonlWrite.Settles := by
  induction sessionIds with
  | nil => trivial
  | cons sessionId rest ih =>
    refine Changes.bind ?_ fun _ => ih.bind fun _ => trivial
    refine (changes_readJournal sessionId).bind fun parsed => ?_
    split
    · trivial
    · refine (changes_ofExcept _).bind fun projection => ?_
      exact (changes_write nofun).bind fun _ => trivial

theorem changes_clearAllPendingUnlocked :
    (Jsonl.clearAllPendingUnlocked : JsonlProgram Data View Unit).Changes JsonlWrite.Settles :=
  fun disk => .forEach (fun _ => changes_write nofun) disk.pending

theorem changes_rebuildCatalogUnlocked :
    (Jsonl.rebuildCatalogUnlocked rules).Changes JsonlWrite.Settles := by
  refine (changes_read _).bind fun sessionIds => ?_
  refine (changes_scanProjections sessionIds).bind fun projections => ?_
  refine (changes_write nofun).bind fun _ => (changes_write nofun).bind fun _ => ?_
  refine (changes_write nofun).bind fun _ => changes_clearAllPendingUnlocked.bind fun _ => trivial

theorem changes_readCatalogUnlocked :
    (readCatalogUnlocked rules).Changes JsonlWrite.Settles := by
  refine (changes_read _).bind fun _ => Changes.bind (fun disk => ?_) fun _ => trivial
  dsimp only
  split
  · split
    · exact changes_write nofun
    · trivial
  · trivial

end Changes

/-! ## Initialization -/

theorem recoverPendingSession_unmarks
    (ran : (Jsonl.recoverPendingSession rules sessionId).run JsonlDisk.perform disk =
      (.ok (), after)) : sessionId ∉ after.pending := by
  have unlinked : ∀ before : JsonlDisk Data View,
      sessionId ∉ (before.perform (.unlinkPending sessionId)).pending := by
    intro before member
    simpa using (List.mem_filter.mp member).2
  obtain ⟨parsed, _, _, ran⟩ := run_bind_eq_ok.mp ran
  obtain ⟨_, _, _, ran⟩ := run_bind_eq_ok.mp ran
  split at ran
  · obtain ⟨_, _, _, ran⟩ := run_bind_eq_ok.mp ran
    obtain ⟨_, _, _, ran⟩ := run_bind_eq_ok.mp ran
    obtain ⟨_, middle, _, ran⟩ := run_bind_eq_ok.mp ran
    obtain rfl := (Prod.mk.inj ran).2
    exact unlinked middle
  · obtain rfl := (Prod.mk.inj ran).2
    exact unlinked _

theorem forEach_unmarks (changes : ∀ id, (body id).Changes JsonlWrite.Settles)
    (unmarks : ∀ {id : String} {before after : JsonlDisk Data View},
      (body id).run JsonlDisk.perform before = (.ok (), after) → id ∉ after.pending)
    (ids : List String)
    (ran : (FileProgram.forEach ids body).run JsonlDisk.perform before = (.ok (), after)) :
    ∀ id ∈ ids, id ∉ after.pending := by
  induction ids generalizing before with
  | nil => simp
  | cons first rest ih =>
    change (body first >>= fun _ => FileProgram.forEach rest body).run JsonlDisk.perform before =
      _ at ran
    obtain ⟨_, middle, one, others⟩ := run_bind_eq_ok.mp ran
    intro id member
    rcases List.mem_cons.mp member with rfl | later
    · have settles := settling_run (.forEach changes rest) others
      exact fun pending => unmarks one (settles.pending id pending)
    · exact ih others id later

/-- The loop over all pending sessions leaves none. -/
theorem look_forEach_unmarks (changes : ∀ id, (body id).Changes JsonlWrite.Settles)
    (unmarks : ∀ {id : String} {before after : JsonlDisk Data View},
      (body id).run JsonlDisk.perform before = (.ok (), after) → id ∉ after.pending)
    (ran : (FileProgram.look fun disk : JsonlDisk Data View =>
      FileProgram.forEach disk.pending body).run JsonlDisk.perform before = (.ok (), after)) :
    after.pending = [] := by
  have gone := forEach_unmarks changes unmarks before.pending ran
  have settles := settling_run (.forEach changes before.pending) ran
  exact List.eq_nil_iff_forall_not_mem.mpr fun id member => gone id (settles.pending id member) member

/-- The part of the initialization after the authority is there. -/
theorem openCatalog_settled (ran : (do
      let state ← FileProgram.read fun disk : JsonlDisk Data View => .ok disk.catalogState
      if false || state.isNone then
        let _ ← Jsonl.rebuildCatalogUnlocked rules
      else
        let _ ← readCatalogUnlocked rules
        Jsonl.recoverPendingUnlocked rules : JsonlProgram Data View Unit).run JsonlDisk.perform
          before = (.ok (), opened)) :
    Settling before opened ∧ opened.catalogState.isSome = true ∧ opened.pending = [] := by
  obtain ⟨state, _, seen, rest⟩ := run_bind_eq_ok.mp ran
  simp only [FileProgram.run_read, Prod.mk.injEq, Except.ok.injEq] at seen
  obtain ⟨rfl, rfl⟩ := seen
  have changes : (Jsonl.recoverPendingUnlocked rules).Changes JsonlWrite.Settles :=
    fun disk => .forEach changes_recoverPendingSession disk.pending
  split at rest
  · obtain ⟨sessions, rebuilt, run, last⟩ := run_bind_eq_ok.mp rest
    obtain rfl := (Prod.mk.inj last).2
    have settles := settling_run changes_rebuildCatalogUnlocked run
    obtain ⟨_, _, _, run⟩ := run_bind_eq_ok.mp run
    obtain ⟨_, _, _, run⟩ := run_bind_eq_ok.mp run
    obtain ⟨_, _, _, run⟩ := run_bind_eq_ok.mp run
    obtain ⟨_, _, _, run⟩ := run_bind_eq_ok.mp run
    obtain ⟨_, written, wrote, run⟩ := run_bind_eq_ok.mp run
    obtain ⟨_, cleared, clears, run⟩ := run_bind_eq_ok.mp run
    obtain rfl := (Prod.mk.inj run).2
    obtain rfl := (Prod.mk.inj wrote).2
    refine ⟨settles, ?_, look_forEach_unmarks ?_ ?_ clears⟩
    · exact (settling_run changes_clearAllPendingUnlocked clears).state rfl
    · exact fun _ => changes_write nofun
    · rintro id _ _ unlinked member
      obtain rfl := (Prod.mk.inj unlinked).2
      simpa using (List.mem_filter.mp member).2
  · rename_i there
    obtain ⟨_, read, seen, run⟩ := run_bind_eq_ok.mp rest
    have first := settling_run changes_readCatalogUnlocked seen
    have second := settling_run changes run
    refine ⟨first.trans second, second.state (first.state ?_), ?_⟩
    · simpa [Option.isSome_iff_ne_none] using there
    · exact look_forEach_unmarks changes_recoverPendingSession recoverPendingSession_unmarks run

theorem run_initializeJournal_settled
    (ran : (Jsonl.initializeJournal rules false).run JsonlDisk.perform disk = (.ok (), opened)) :
    opened.authority = true ∧ opened.catalogState.isSome = true ∧ opened.pending = [] := by
  rw [Jsonl.initializeJournal, run_withLock catalogLock_named] at ran
  obtain ⟨authority, _, seen, rest⟩ := run_bind_eq_ok.mp ran
  simp only [FileProgram.run_read, Prod.mk.injEq, Except.ok.injEq] at seen
  obtain ⟨rfl, rfl⟩ := seen
  split at rest
  · obtain ⟨_, middle, wrote, last⟩ := run_bind_eq_ok.mp rest
    obtain ⟨settles, others⟩ := openCatalog_settled last
    obtain rfl := (Prod.mk.inj wrote).2
    exact ⟨settles.authority rfl, others⟩
  · rename_i there
    obtain ⟨settles, others⟩ := openCatalog_settled rest
    exact ⟨settles.authority (by simpa using there), others⟩

/-! ## Commits -/

theorem changes_refreshProjection (sessionId : String) (records : List (SessionCommitV3 Data)) :
    (refreshProjection rules sessionId records).Changes JsonlWrite.Settles := by
  refine (changes_ofExcept _).bind fun projection => (changes_write nofun).bind fun _ => ?_
  refine (changes_ofExcept _).bind fun _ => Changes.locked ?_ _
  exact changes_write nofun

theorem changes_repairTail (sessionId : String) (parsed : ParsedJournal Data) :
    (repairTail sessionId parsed : JsonlProgram Data View Unit).Changes JsonlWrite.Settles := by
  unfold repairTail
  split
  · exact changes_write nofun
  · trivial

theorem settling_fresh {commit : SessionCommitV3 Data} {records : List (SessionCommitV3 Data)}
    (ran : (refreshProjection rules sessionId records).run JsonlDisk.perform
      ((disk.perform (.markPending sessionId)).perform (.appendRecord sessionId commit)) =
        (.ok (), after)) : Settling disk (after.perform (.unlinkPending sessionId)) := by
  have settles := settling_run (changes_refreshProjection sessionId records) ran
  refine ⟨settles.authority, settles.state, fun id member => ?_⟩
  obtain ⟨there, other⟩ := List.mem_filter.mp member
  have marked : id ∈ disk.pending.insert sessionId := settles.pending id there
  rcases List.mem_insert_iff.mp marked with same | old
  · exact absurd same (by simpa using other)
  · exact old

theorem settling_appendCommit {input : SessionCommitV3 Data} {receipt : SessionCommitReceiptV3}
    (ran : (Jsonl.appendCommit rules input).run JsonlDisk.perform disk = (.ok receipt, opened)) :
    Settling disk opened := by
  obtain ⟨commit, _, valid, rest⟩ := run_bind_eq_ok.mp ran
  obtain rfl := (Prod.mk.inj ((FileProgram.run_ofExcept _ _).symm.trans valid)).2
  obtain ⟨_, _, named, rest⟩ := run_bind_eq_ok.mp rest
  obtain rfl := (Prod.mk.inj ((FileProgram.run_ofExcept _ _).symm.trans named)).2
  rw [FileProgram.run_locked] at rest
  obtain ⟨parsed, read, seen, rest⟩ := run_bind_eq_ok.mp rest
  have first := settling_run (changes_readJournal commit.sessionId) seen
  obtain ⟨_, repaired, repairs, rest⟩ := run_bind_eq_ok.mp rest
  have second := first.trans (settling_run (changes_repairTail commit.sessionId parsed) repairs)
  obtain ⟨found, _, look, rest⟩ := run_bind_eq_ok.mp rest
  obtain rfl := (Prod.mk.inj ((FileProgram.run_ofExcept _ _).symm.trans look)).2
  refine second.trans ?_
  cases found with
  | some duplicate =>
    obtain ⟨_, _, refreshes, last⟩ := run_bind_eq_ok.mp rest
    obtain rfl := (Prod.mk.inj last).2
    exact settling_run (changes_refreshProjection _ _) refreshes
  | none =>
    obtain ⟨_, _, follows, rest⟩ := run_bind_eq_ok.mp rest
    obtain rfl := (Prod.mk.inj ((FileProgram.run_ofExcept _ _).symm.trans follows)).2
    obtain ⟨_, _, reduces, rest⟩ := run_bind_eq_ok.mp rest
    obtain rfl := (Prod.mk.inj ((FileProgram.run_ofExcept _ _).symm.trans reduces)).2
    obtain ⟨_, _, marks, rest⟩ := run_bind_eq_ok.mp rest
    obtain rfl := (Prod.mk.inj marks).2
    obtain ⟨_, _, appends, rest⟩ := run_bind_eq_ok.mp rest
    obtain rfl := (Prod.mk.inj appends).2
    obtain ⟨_, _, refreshes, rest⟩ := run_bind_eq_ok.mp rest
    obtain ⟨_, _, unlinks, last⟩ := run_bind_eq_ok.mp rest
    obtain rfl := (Prod.mk.inj unlinks).2
    obtain rfl := (Prod.mk.inj last).2
    exact settling_fresh refreshes

/-! ## Journals at rest -/

/-- The files stand for the log, and nothing is left to do when they are opened. -/
structure JsonlRests (rules : SessionRules Data View) (disk : JsonlDisk Data View)
    (log : CommitLog Data) : Prop where
  holds : JsonlHolds rules disk log
  authority : disk.authority = true
  pending : disk.pending = []

theorem JsonlRests.of_opened
    (ran : (Jsonl.initializeJournal rules false).run JsonlDisk.perform disk = (.ok (), opened))
    (holds : JsonlHolds rules opened log) : JsonlRests rules opened log := by
  obtain ⟨authority, _, pending⟩ := run_initializeJournal_settled ran
  exact ⟨holds, authority, pending⟩

theorem JsonlRests.fresh : JsonlRests rules (.fresh rules) fun _ => [] :=
  ⟨.fresh, rfl, rfl⟩

theorem JsonlRests.run_initializeJournal (rests : JsonlRests rules disk log) :
    (Jsonl.initializeJournal rules false).run JsonlDisk.perform disk = (.ok (), disk) := by
  obtain ⟨view, seen, _⟩ := rests.holds.catalog
  have state : disk.catalogState ≠ none := by
    obtain ⟨_, state, _, _, _, _, there, _⟩ := catalogView_eq_ok.mp seen
    simp [there]
  have catalog := run_readCatalogUnlocked seen rests.holds.settled
  simp [Jsonl.initializeJournal, run_withLock catalogLock_named, run_bind, rests.authority,
    state, catalog, Jsonl.recoverPendingUnlocked, FileProgram.run, rests.pending,
    FileProgram.forEach]

/-- **The JSONL journal at rest implements the commit log.** -/
theorem jsonl_implements_resting : Implements rules jsonlNaming (jsonlSessionJournalV3 rules)
    (JsonlRests rules) where
  kept rests := rests.holds.kept
  appendCommit := by
    intro disk log rests input
    have appended := run_appendCommit rests.holds input
    have settles : Settling disk ((Jsonl.appendCommit rules input).run JsonlDisk.perform disk).2 := by
      rcases ran : (Jsonl.appendCommit rules input).run JsonlDisk.perform disk with
        ⟨error | receipt, after⟩
      · have same := appended.rejects error (congrArg Prod.fst ran)
        rw [ran] at same
        rw [same]
        exact .refl disk
      · exact settling_appendCommit ran
    refine ⟨appended.result, appended.holds, settles.authority rests.authority, ?_⟩
    refine List.eq_nil_iff_forall_not_mem.mpr fun id member => ?_
    have before := settles.pending id member
    rw [rests.pending] at before
    cases before
  rejects rests input error := (run_appendCommit rests.holds input).rejects error
  readEntries rests := run_readEntries rests.holds
  readCommits rests := run_readCommits rests.holds
  listSessionIds rests := run_listSessionIds rests.holds
  listRecoverableSessionIds rests := run_listRecoverableSessionIds rests.holds
  loadCachedProjection rests := run_loadCachedProjection rests.holds

end Praxis.Session
