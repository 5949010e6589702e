import Praxis.Session.JsonlJournal

/-!
# The JSONL journal implements the commit log

Between two calls, and as long as no call was interrupted, the journal of every session holds its
commits, its projection file the projection of these, and the catalog what that projection says
(`JsonlHolds`). Every operation keeps this and answers as the commit log does
(`jsonl_implements`).

The lock of a session is a file as well: its name is the id behind a prefix, and an id is safe only
up to a length. The journal therefore takes no commits of a session whose id is too long for the
prefix (`jsonlNaming`).
-/

namespace Praxis.Session

set_option autoImplicit false

open Praxis.Foundations
open Praxis.Foundations.FileProgram (run_bind)
open Praxis.Workflow (safeId safeIdChars positiveInteger nonNegativeInteger maxSafeInteger)

variable {Data View : Type}

/-- The lock of a session must have a name, and so must its files. -/
def jsonlNaming : Naming where
  admits sessionId := safeId (sessionLock sessionId)
  names := safeId

/-- The operations, each of them without interruption. -/
def jsonlSessionJournalV3 (rules : SessionRules Data View) :
    SessionStore Data View (JsonlDisk Data View) where
  appendCommit disk input := (Jsonl.appendCommit rules input).run JsonlDisk.perform disk
  readEntries disk input := (Jsonl.readEntries rules input).run JsonlDisk.perform disk
  readCommits disk sessionId := (Jsonl.readCommits rules sessionId).run JsonlDisk.perform disk
  listSessionIds disk := (Jsonl.listSessionIds rules).run JsonlDisk.perform disk
  listRecoverableSessionIds disk :=
    (Jsonl.listRecoverableSessionIds rules).run JsonlDisk.perform disk
  loadCachedProjection disk sessionId :=
    (Jsonl.loadCachedProjection sessionId).run JsonlDisk.perform disk

variable (rules : SessionRules Data View)

def journalFile (commits : List (SessionCommitV3 Data)) (torn : Bool) :
    LineFile (SessionCommitV3 Data) where
  lines := commits.map some
  torn := torn

def projectionFile (commits : List (SessionCommitV3 Data)) : Option (ProjectionCacheV3 Data View) :=
  (projectionOf rules commits).map fun projection => projectionCache projection commits

structure CatalogView.Knows (view : CatalogView) (sessionId : String)
    (commits : List (SessionCommitV3 Data)) : Prop where
  session : view.sessions.get? sessionId = (projectionOf rules commits).map (·.catalog)
  recoverable : sessionId ∈ view.recoverable ↔
    ∃ projection, projectionOf rules commits = some projection ∧
      projectionHasRecoverableRun projection = true

/-- The files stand for the log, except that the projection and the catalog need not know the
commits of some sessions. -/
structure JsonlHoldsFor (known : String → Prop) (disk : JsonlDisk Data View)
    (log : CommitLog Data) : Prop where
  kept : ∀ id, Kept rules id (log id)
  journal : ∀ id, disk.journal id = journalFile (log id) false
  projection : ∀ id, known id → disk.projections.get? id = projectionFile rules (log id)
  catalog : ∃ view, catalogView rules disk = .ok view ∧
    ∀ id, known id → view.Knows rules id (log id)
  settled : ∀ delta, disk.catalogDelta = some delta → delta.torn = false

/-- The files stand for the log. -/
abbrev JsonlHolds : JsonlDisk Data View → CommitLog Data → Prop :=
  JsonlHoldsFor rules fun _ => True

variable {rules} {sessionId : String}

theorem isCatalogProjection_of_reduced {entries : List (SessionEntryV3 Data)}
    {projection : SessionProjectionV3 Data View}
    (accepted : reduceSessionEntriesV3 rules entries = .ok projection) :
    isCatalogProjection projection.catalog = true := by
  obtain ⟨⟨_, short, valid⟩, current, loop, _, rfl⟩ := reduceSessionEntriesV3_ok.mp accepted
  have reduced := reduceEntries_reduced loop
  obtain ⟨leaf, fork⟩ := reduceEntries_safe loop valid
  have first := validateSessionEntryV3_ok (valid _ (List.mem_of_head? reduced.first))
  have last := validateSessionEntryV3_ok (valid _ (List.mem_of_getLast? reduced.previous))
  have revision : 0 < current.1.previous.revision ∧
      current.1.previous.revision ≤ maxSafeInteger := by
    simpa [positiveInteger] using last.2.2.1
  have messages : (current.1.messages.length : Int) ≤ maxSafeInteger := by
    have few := reduced.messages
    have limit : (maxEntries : Int) ≤ maxSafeInteger := by decide
    omega
  have parent : (current.1.fork.map (·.parentSessionId)).all safeId = true := by
    cases origin : current.1.fork with
    | none => rfl
    | some fork' =>
      rw [origin] at fork
      simp only [Option.all_some, SessionForkV3.valid, Bool.and_eq_true] at fork
      simpa using fork.1
  simp only [projectSession, isCatalogProjection, nonNegativeInteger, Bool.and_eq_true]
  exact ⟨⟨⟨⟨⟨⟨first.2.1, leaf⟩, parent⟩, decide_eq_true ⟨by omega, messages⟩⟩,
    decide_eq_true last.2.2.2.1⟩, decide_eq_true ⟨by omega, revision.2⟩⟩,
    decide_eq_true (by omega)⟩

theorem parseLines_kept (front back : List (SessionCommitV3 Data))
    (kept : Kept rules sessionId (front ++ back)) :
    (back.map some).foldlM (parseLine rules sessionId) front = .ok (front ++ back) := by
  induction back generalizing front with
  | nil => simp [pure, Except.pure]
  | cons commit back ih =>
    have member : commit ∈ front ++ commit :: back := by simp
    have record : validateRecord rules sessionId (some commit) = .ok commit := by
      simp [validateRecord, orError, ok_bind, kept.valid commit member,
        kept.session commit member, pure, Except.pure]
    have line : parseLine rules sessionId front (some commit) = .ok (front ++ [commit]) := by
      by_cases empty : front = []
      · simp [parseLine, record, ok_bind, empty, pure, Except.pure]
      · simp [parseLine, record, ok_bind, empty, Kept.continues kept, pure, Except.pure]
    rw [List.map_cons, List.foldlM_cons, line, ok_bind]
    have rest := ih (front ++ [commit]) (by simpa using kept)
    simpa using rest

theorem parseJournal_kept {commits : List (SessionCommitV3 Data)}
    (kept : Kept rules sessionId commits) (torn : Bool) :
    parseJournal rules sessionId (journalFile commits torn) =
      .ok { records := commits, validLines := commits.length, torn } := by
  have lines := parseLines_kept [] commits kept
  by_cases empty : commits = []
  · subst empty
    simp [parseJournal, journalFile, pure, Except.pure, ok_bind]
  · obtain ⟨projection, reduced⟩ := kept.reduced empty
    rw [List.nil_append] at lines
    simp [parseJournal, journalFile, lines, ok_bind, empty, reduced, pure, Except.pure]

/-! ## Writing -/

section Writes

variable {disk : JsonlDisk Data View} {log : CommitLog Data} {known : String → Prop}
  {sessionId : String} {commits : List (SessionCommitV3 Data)}

theorem journal_withJournal (file : LineFile (SessionCommitV3 Data)) (id : String) :
    (disk.withJournal sessionId file).journal id =
      if id = sessionId then file else disk.journal id := by
  rw [JsonlDisk.journal, JsonlDisk.withJournal, Table.get?_upsert]
  by_cases same : id = sessionId <;> simp [same, JsonlDisk.journal]

theorem append_journalFile (commit : SessionCommitV3 Data) :
    (journalFile commits false).append commit = journalFile (commits ++ [commit]) false := by
  simp [journalFile, LineFile.append]

theorem truncate_journalFile (torn : Bool) :
    (journalFile commits torn).truncate commits.length = journalFile commits false := by
  have whole : (commits.map some).take commits.length = commits.map some :=
    List.take_of_length_le (by simp)
  simp [journalFile, LineFile.truncate, whole]

theorem append_delta {disk : JsonlDisk Data View} {delta : LineFile CatalogDeltaRecordV3}
    (stored : disk.catalogDelta = some delta) (settled : delta.torn = false)
    (record : CatalogDeltaRecordV3) : (disk.perform (.appendDelta record)).catalogDelta =
      some { lines := delta.lines ++ [some record], torn := false } := by
  simp [JsonlDisk.perform, stored, LineFile.append, settled]

variable {view : CatalogView} {projection : SessionProjectionV3 Data View}
  {record : CatalogDeltaRecordV3}

theorem catalogView_eq_ok : catalogView rules disk = .ok view ↔
      ∃ base state delta records, disk.catalog = some base ∧ validateCatalogCache base = .ok () ∧
        disk.catalogState = some state ∧ state = base.checksum rules ∧
        disk.catalogDelta = some delta ∧
        delta.lines.mapM validateCatalogDeltaRecord = .ok records ∧
        view = records.foldl CatalogView.apply (CatalogView.ofCache base) := by
  simp only [catalogView, bind_eq_ok, orError_eq_ok, ensure_eq_ok, pure_eq_ok, beq_iff_eq]
  constructor
  · rintro ⟨base, base', ⟨⟩, valid, state, state', _, same, delta, delta', records, read, rfl⟩
    exact ⟨base, state, delta, records, base', valid, state', same, delta', read, rfl⟩
  · rintro ⟨base, state, delta, records, base', valid, state', same, delta', read, rfl⟩
    exact ⟨base, base', (), valid, state, state', (), same, delta, delta', records, read, rfl⟩

theorem catalogView_appendDelta (seen : catalogView rules disk = .ok view)
    (settled : ∀ delta, disk.catalogDelta = some delta → delta.torn = false)
    (valid : isCatalogProjection record.catalog = true) :
    catalogView rules (disk.perform (.appendDelta record)) = .ok (view.apply record) := by
  obtain ⟨base, state, delta, records, base', checked, state', same, delta', read, rfl⟩ :=
    catalogView_eq_ok.mp seen
  have line : validateCatalogDeltaRecord (some record) = .ok record := by
    simp [validateCatalogDeltaRecord, orError, ok_bind, valid, pure, Except.pure]
  refine catalogView_eq_ok.mpr ⟨base, state, _, records ++ [record], base', checked, state', same,
    append_delta delta' (settled delta delta') record, ?_, by simp⟩
  simp [List.mapM_append, read, ok_bind, line, pure, Except.pure]

theorem CatalogView.Knows.apply (kept : Kept rules sessionId commits)
    (reduced : projectionOf rules commits = some projection) :
    (view.apply (catalogDeltaRecord projection)).Knows rules sessionId commits := by
  have session := (kept.projection_session reduced).2
  constructor
  · simp [CatalogView.apply, catalogDeltaRecord, Table.get?_upsert, session, reduced]
  · simp only [CatalogView.apply, catalogDeltaRecord, session, reduced, Option.some.injEq,
      exists_eq_left']
    by_cases running : projectionHasRecoverableRun projection = true
    · simp [running]
    · simp [running]

theorem CatalogView.Knows.apply_other
    (knows : view.Knows rules sessionId commits) (other : record.catalog.sessionId ≠ sessionId) :
    (view.apply record).Knows rules sessionId commits := by
  constructor
  · rw [← knows.session, CatalogView.apply, Table.get?_upsert, if_neg (Ne.symm other)]
  · rw [← knows.recoverable, CatalogView.apply]
    by_cases running : record.recoverable = true
    · simp [running, List.mem_insert_iff, Ne.symm other]
    · simp [running, Ne.symm other]

/-- The projection of a session written, and the catalog told of it. -/
def refreshed (disk : JsonlDisk Data View) (sessionId : String)
    (projection : SessionProjectionV3 Data View) (records : List (SessionCommitV3 Data)) :
    JsonlDisk Data View :=
  (disk.perform (.projection sessionId (projectionCache projection records))).perform
    (.appendDelta (catalogDeltaRecord projection))

theorem JsonlHoldsFor.refresh {known' : String → Prop} {records : List (SessionCommitV3 Data)}
    (holds : JsonlHoldsFor rules known disk log) (here : log sessionId = records)
    (reduced : projectionOf rules records = some projection)
    (others : ∀ id, known' id → id ≠ sessionId → known id) :
    JsonlHoldsFor rules known' (refreshed disk sessionId projection records) log := by
  subst here
  obtain ⟨view, seen, knows⟩ := holds.catalog
  have session := ((holds.kept sessionId).projection_session reduced).2
  have valid := isCatalogProjection_of_reduced (projectionOf_eq_some.mp reduced)
  constructor
  case kept => exact holds.kept
  case journal => exact holds.journal
  case projection =>
    intro id wanted
    have get : (refreshed disk sessionId projection (log sessionId)).projections.get? id =
        if id = sessionId then some (projectionCache projection (log sessionId))
        else disk.projections.get? id :=
      Table.get?_upsert _ _ _ _
    rw [get]
    by_cases same : id = sessionId
    · subst same
      rw [if_pos rfl, projectionFile, reduced, Option.map_some]
    · rw [if_neg same, holds.projection id (others id wanted same)]
  case catalog =>
    have before : catalogView rules
        (disk.perform (.projection sessionId (projectionCache projection (log sessionId)))) =
        .ok view := seen
    refine ⟨view.apply (catalogDeltaRecord projection), ?_, ?_⟩
    · exact catalogView_appendDelta before holds.settled valid
    · intro id wanted
      by_cases same : id = sessionId
      · subst same
        exact .apply (holds.kept id) reduced
      · refine (knows id (others id wanted same)).apply_other ?_
        change projection.catalog.sessionId ≠ id
        rw [session]
        exact Ne.symm same
  case settled =>
    intro delta stored
    obtain ⟨_, _, before, _, _, _, _, _, delta', _⟩ := catalogView_eq_ok.mp seen
    have written := append_delta delta' (holds.settled before delta') (catalogDeltaRecord projection)
    have same := stored.symm.trans written
    rw [Option.some.inj same]

theorem JsonlHoldsFor.append {commit : SessionCommitV3 Data}
    (holds : JsonlHoldsFor rules known disk log)
    (kept : Kept rules sessionId (log sessionId ++ [commit])) :
    JsonlHoldsFor rules (fun id => known id ∧ id ≠ sessionId)
      ((disk.perform (.markPending sessionId)).perform (.appendRecord sessionId commit))
      (Function.update log sessionId (log sessionId ++ [commit])) := by
  obtain ⟨view, seen, knows⟩ := holds.catalog
  constructor
  case kept =>
    intro id
    by_cases same : id = sessionId
    · subst same
      rwa [Function.update_self]
    · rw [Function.update_of_ne same]
      exact holds.kept id
  case journal =>
    intro id
    change ((disk.perform (.markPending sessionId)).withJournal sessionId
      ((disk.journal sessionId).append commit)).journal id = _
    rw [journal_withJournal]
    by_cases same : id = sessionId
    · subst same
      rw [if_pos rfl, Function.update_self, holds.journal, append_journalFile]
    · rw [if_neg same, Function.update_of_ne same]
      exact holds.journal id
  case projection =>
    rintro id ⟨wanted, other⟩
    rw [Function.update_of_ne other]
    exact holds.projection id wanted
  case catalog =>
    refine ⟨view, seen, ?_⟩
    rintro id ⟨wanted, other⟩
    rw [Function.update_of_ne other]
    exact knows id wanted
  case settled => exact holds.settled

/-- A marker taken away. -/
theorem JsonlHoldsFor.unlink (holds : JsonlHoldsFor rules known disk log) (sessionId : String) :
    JsonlHoldsFor rules known (disk.perform (.unlinkPending sessionId)) log :=
  ⟨holds.kept, holds.journal, holds.projection, holds.catalog, holds.settled⟩

end Writes

/-! ## Running the operations -/

section Running

variable {disk : JsonlDisk Data View} {log : CommitLog Data} {known : String → Prop}

variable {torn : Bool} {view : CatalogView} {sessionId name : String} {α : Type}

theorem run_readJournal {commits : List (SessionCommitV3 Data)}
    (kept : Kept rules sessionId commits) (named : safeId sessionId = true)
    (stored : disk.journal sessionId = journalFile commits torn) :
    (readJournal rules sessionId).run JsonlDisk.perform disk =
      (.ok { records := commits, validLines := commits.length, torn }, disk) := by
  simp [readJournal, run_bind, assertSessionFile, named, stored, parseJournal_kept kept]

theorem run_readJournal_unnamed (unnamed : safeId sessionId = false) :
    (readJournal rules sessionId).run JsonlDisk.perform disk = (.error .sessionIdInvalid, disk) := by
  simp [readJournal, run_bind, assertSessionFile, unnamed, ensure]

theorem catalogLock_named : safeId catalogLock = true := by decide +kernel

theorem run_withLock {action : JsonlProgram Data View α} (named : safeId name = true) :
    (withLock name action).run JsonlDisk.perform disk = action.run JsonlDisk.perform disk := by
  simp [withLock, run_bind, assertSessionFile, named]

theorem run_withLock_unnamed {action : JsonlProgram Data View α} (unnamed : safeId name = false) :
    (withLock name action).run JsonlDisk.perform disk = (.error .sessionIdInvalid, disk) := by
  simp [withLock, run_bind, assertSessionFile, unnamed, ensure]

theorem run_refreshProjection {records : List (SessionCommitV3 Data)}
    {projection : SessionProjectionV3 Data View}
    (reduced : projectionOf rules records = some projection) :
    (refreshProjection rules sessionId records).run JsonlDisk.perform disk =
      (.ok (), refreshed disk sessionId projection records) := by
  simp [refreshProjection, run_bind, projectionOf_eq_some.mp reduced,
    run_withLock catalogLock_named, appendCatalogDeltaUnlocked, refreshed]

theorem run_readCatalogUnlocked (seen : catalogView rules disk = .ok view)
    (settled : ∀ delta, disk.catalogDelta = some delta → delta.torn = false) :
    (readCatalogUnlocked rules).run JsonlDisk.perform disk =
      (.ok (catalogCache rules view.sessions.values view.recoverable), disk) := by
  have repair : (repairDelta : JsonlProgram Data View Unit).run JsonlDisk.perform disk =
      (.ok (), disk) := by
    rw [repairDelta, FileProgram.run]
    cases stored : disk.catalogDelta with
    | none => rfl
    | some delta => simp [settled delta stored]
  simp [readCatalogUnlocked, run_bind, seen, repair]

/-! ### A commit -/

section Commit

variable {commit : SessionCommitV3 Data} (holds : JsonlHolds rules disk log)
  (valid : validateSessionCommitV3 rules commit = .ok commit)
  (admitted : jsonlNaming.admits commit.sessionId = true)

include holds valid admitted

theorem run_appendCommit_refused {error : SessionError}
    (refused : appendToLog rules (log commit.sessionId) commit = .error error) :
    (Jsonl.appendCommit rules commit).run JsonlDisk.perform disk = (.error error, disk) := by
  have named := (validateSessionCommitV3_ok valid).2.sessionId
  have read := run_readJournal (holds.kept commit.sessionId) named (holds.journal _)
  rcases appendToLog_refused refused with found | ⟨found, follows | ⟨follows, reduced⟩⟩
  · simp [Jsonl.appendCommit, run_bind, valid, run_withLock admitted, read, repairTail, found]
  · simp [Jsonl.appendCommit, run_bind, valid, run_withLock admitted, read, repairTail, found,
      follows]
  · simp [Jsonl.appendCommit, run_bind, valid, run_withLock admitted, read, repairTail, found,
      follows, reduced]

variable {projection : SessionProjectionV3 Data View}

theorem run_appendCommit_duplicate {existing : SessionCommitV3 Data}
    (found : findDuplicate commit (log commit.sessionId) = .ok (some existing))
    (reduced : projectionOf rules (log commit.sessionId) = some projection) :
    (Jsonl.appendCommit rules commit).run JsonlDisk.perform disk =
      (.ok (sessionCommitReceiptV3 existing true),
        refreshed disk commit.sessionId projection (log commit.sessionId)) := by
  have named := (validateSessionCommitV3_ok valid).2.sessionId
  have read := run_readJournal (holds.kept commit.sessionId) named (holds.journal _)
  simp [Jsonl.appendCommit, run_bind, valid, run_withLock admitted, read, repairTail, found,
    run_refreshProjection reduced]

theorem run_appendCommit_fresh (fresh : findDuplicate commit (log commit.sessionId) = .ok none)
    (follows : assertSessionCommitAgainstHeadV3 commit
      (head (flattenEntries (log commit.sessionId))) = .ok ())
    (reduced : projectionOf rules (log commit.sessionId ++ [commit]) = some projection) :
    (Jsonl.appendCommit rules commit).run JsonlDisk.perform disk =
      (.ok (sessionCommitReceiptV3 commit false),
        (refreshed ((disk.perform (.markPending commit.sessionId)).perform
          (.appendRecord commit.sessionId commit)) commit.sessionId projection
          (log commit.sessionId ++ [commit])).perform (.unlinkPending commit.sessionId)) := by
  have named := (validateSessionCommitV3_ok valid).2.sessionId
  have read := run_readJournal (holds.kept commit.sessionId) named (holds.journal _)
  have accepted := projectionOf_eq_some.mp reduced
  rw [flattenEntries_append, flattenEntries_singleton] at accepted
  simp [Jsonl.appendCommit, run_bind, valid, run_withLock admitted, read, repairTail, fresh,
    follows, accepted, run_refreshProjection reduced]

end Commit

/-- A call answers as the log does, leaves the files as they were if it is rejected, and the files
stand for the log afterwards. -/
structure Appended (rules : SessionRules Data View) (disk : JsonlDisk Data View)
    (log : CommitLog Data) (input : SessionCommitV3 Data)
    (outcome : Except SessionError SessionCommitReceiptV3 × JsonlDisk Data View) : Prop where
  result : outcome.1 = (log.appendCommit rules jsonlNaming input).1
  holds : JsonlHolds rules outcome.2 (log.appendCommit rules jsonlNaming input).2
  rejects : ∀ error, outcome.1 = .error error → outcome.2 = disk

theorem Appended.of_error {input : SessionCommitV3 Data} {error : SessionError}
    (holds : JsonlHolds rules disk log)
    (spec : log.appendCommit rules jsonlNaming input = (.error error, log)) :
    Appended rules disk log input (.error error, disk) where
  result := by rw [spec]
  holds := by rwa [spec]
  rejects _ _ := rfl

/-- **Every call of `appendCommit` answers as the commit log does.** -/
theorem run_appendCommit (holds : JsonlHolds rules disk log) (input : SessionCommitV3 Data) :
    Appended rules disk log input ((Jsonl.appendCommit rules input).run JsonlDisk.perform disk) := by
  cases valid : validateSessionCommitV3 rules input with
  | error error =>
    have ran : (Jsonl.appendCommit rules input).run JsonlDisk.perform disk =
        (.error error, disk) := by
      simp [Jsonl.appendCommit, run_bind, valid]
    rw [ran]
    exact .of_error holds (by simp [CommitLog.appendCommit, valid])
  | ok commit =>
    obtain rfl := (validateSessionCommitV3_ok valid).1
    by_cases admitted : jsonlNaming.admits commit.sessionId = true
    · cases appended : appendToLog rules (log commit.sessionId) commit with
      | error error =>
        rw [run_appendCommit_refused holds valid admitted appended]
        exact .of_error holds (by simp [CommitLog.appendCommit, valid, admitted, appended])
      | ok outcome =>
        obtain ⟨receipt, next⟩ := outcome
        have spec : log.appendCommit rules jsonlNaming commit =
            (.ok receipt, Function.update log commit.sessionId next) := by
          simp [CommitLog.appendCommit, valid, admitted, appended]
        have kept := (holds.kept commit.sessionId).appendToLog valid rfl appended
        rcases appendToLog_ok appended with
          ⟨existing, member, repeated, rfl, rfl⟩ | ⟨fresh, follows, ⟨projection, reduced⟩, rfl, rfl⟩
        · have found := (holds.kept commit.sessionId).distinct.findDuplicate_repeats member repeated
          obtain ⟨projection, reduced⟩ := kept.exists_projection (List.ne_nil_of_mem member)
          rw [run_appendCommit_duplicate holds valid admitted found reduced]
          rw [Function.update_eq_self] at spec
          refine ⟨by rw [spec], ?_, by simp⟩
          rw [spec]
          exact JsonlHoldsFor.refresh holds rfl reduced fun _ _ _ => trivial
        · have longer : projectionOf rules (log commit.sessionId ++ [commit]) =
              some projection := by
            rw [projectionOf_eq_some, flattenEntries_append, flattenEntries_singleton]
            exact reduced
          rw [run_appendCommit_fresh holds valid admitted (findDuplicate_fresh fresh) follows
            longer]
          refine ⟨by rw [spec], ?_, by simp⟩
          rw [spec]
          have appended := JsonlHoldsFor.append holds kept
          exact (appended.refresh (Function.update_self ..) longer
            fun _ _ other => ⟨trivial, other⟩).unlink commit.sessionId
    · rw [Bool.not_eq_true] at admitted
      have ran : (Jsonl.appendCommit rules commit).run JsonlDisk.perform disk =
          (.error .sessionIdInvalid, disk) := by
        simp [Jsonl.appendCommit, run_bind, valid, run_withLock_unnamed admitted]
      rw [ran]
      exact .of_error holds (by simp [CommitLog.appendCommit, valid, admitted])

/-! ### Reading -/

theorem run_readEntries_stored {input : ReadSessionEntriesInputV3}
    (kept : Kept rules input.sessionId (log input.sessionId))
    (stored : disk.journal input.sessionId = journalFile (log input.sessionId) torn) :
    (Jsonl.readEntries rules input).run JsonlDisk.perform disk = (log.readEntries input, disk) := by
  cases checked : validateReadInput input with
  | error error =>
    simp [Jsonl.readEntries, CommitLog.readEntries, run_bind, checked, error_bind]
  | ok =>
    have named : safeId input.sessionId = true := by
      simp only [validateReadInput, ensure_eq_ok, Bool.and_eq_true] at checked
      exact checked.1.1.1
    have read := run_readJournal kept named stored
    cases place : head (flattenEntries (log input.sessionId)) with
    | none =>
      simp [Jsonl.readEntries, CommitLog.readEntries, run_bind, checked, read, place, orError,
        ok_bind, error_bind]
    | some currentHead =>
      by_cases inside : input.throughSequence.getD currentHead.sequence ≤ currentHead.sequence
      · simp [Jsonl.readEntries, CommitLog.readEntries, run_bind, checked, read, place, orError,
          inside, ok_bind, pure_ok]
      · simp [Jsonl.readEntries, CommitLog.readEntries, run_bind, checked, read, place, orError,
          inside, ensure, ok_bind]

theorem run_readEntries (holds : JsonlHolds rules disk log) (input : ReadSessionEntriesInputV3) :
    (Jsonl.readEntries rules input).run JsonlDisk.perform disk = (log.readEntries input, disk) :=
  run_readEntries_stored (holds.kept input.sessionId) (holds.journal input.sessionId)

theorem run_readCommits_stored (kept : Kept rules sessionId (log sessionId))
    (stored : disk.journal sessionId = journalFile (log sessionId) torn) :
    (Jsonl.readCommits rules sessionId).run JsonlDisk.perform disk =
      (log.readCommits jsonlNaming sessionId, disk) := by
  by_cases named : safeId sessionId = true
  · have read := run_readJournal kept named stored
    have names : jsonlNaming.names sessionId = true := named
    by_cases empty : log sessionId = []
    · simp [Jsonl.readCommits, CommitLog.readCommits, run_bind, read, names, empty, ensure, ok_bind]
    · have again : (log sessionId).mapM (validateSessionCommitV3 rules) = .ok (log sessionId) :=
        mapM_eq_ok.mpr (List.forall₂_same.mpr kept.valid)
      have present : (log sessionId).isEmpty = false := List.isEmpty_eq_false_iff.mpr empty
      simp [Jsonl.readCommits, CommitLog.readCommits, run_bind, read, names, present, again,
        ok_bind, pure_ok]
  · rw [Bool.not_eq_true] at named
    have names : jsonlNaming.names sessionId = false := named
    simp [Jsonl.readCommits, CommitLog.readCommits, run_bind, run_readJournal_unnamed named, names,
      ensure, error_bind]

theorem run_readCommits (holds : JsonlHolds rules disk log) (sessionId : String) :
    (Jsonl.readCommits rules sessionId).run JsonlDisk.perform disk =
      (log.readCommits jsonlNaming sessionId, disk) :=
  run_readCommits_stored (holds.kept sessionId) (holds.journal sessionId)

theorem run_loadCachedProjection_stored (kept : Kept rules sessionId (log sessionId))
    (stored : disk.projections.get? sessionId = projectionFile rules (log sessionId)) :
    (Jsonl.loadCachedProjection sessionId).run JsonlDisk.perform disk =
      (log.loadCachedProjection rules jsonlNaming sessionId, disk) := by
  by_cases named : safeId sessionId = true
  · have names : jsonlNaming.names sessionId = true := named
    cases reduced : projectionOf rules (log sessionId) with
    | none =>
      rw [projectionFile, reduced, Option.map_none] at stored
      simp [Jsonl.loadCachedProjection, CommitLog.loadCachedProjection, run_bind,
        assertSessionFile, named, names, stored, reduced, orError, ok_bind, error_bind]
    | some projection =>
      rw [projectionFile, reduced, Option.map_some] at stored
      have session := kept.projection_session reduced
      simp [Jsonl.loadCachedProjection, CommitLog.loadCachedProjection, run_bind,
        assertSessionFile, named, names, stored, reduced, orError, validateProjectionCache,
        projectionCache, session, ok_bind, pure_ok]
  · rw [Bool.not_eq_true] at named
    have names : jsonlNaming.names sessionId = false := named
    simp [Jsonl.loadCachedProjection, CommitLog.loadCachedProjection, run_bind, assertSessionFile,
      named, names, ensure, error_bind]

theorem run_loadCachedProjection (holds : JsonlHolds rules disk log) (sessionId : String) :
    (Jsonl.loadCachedProjection sessionId).run JsonlDisk.perform disk =
      (log.loadCachedProjection rules jsonlNaming sessionId, disk) :=
  run_loadCachedProjection_stored (holds.kept sessionId) (holds.projection sessionId trivial)

/-! ### The lists -/

theorem CatalogView.ids (kept : ∀ id, Kept rules id (log id))
    (knows : ∀ id, view.Knows rules id (log id)) :
    view.sessions.values.map (·.sessionId) = view.sessions.rows.map Prod.fst ∧
      ∀ id, id ∈ view.sessions.rows.map Prod.fst ↔ log.Present id := by
  constructor
  · rw [Table.values, List.map_map]
    refine List.map_congr_left fun row member => ?_
    have stored := view.sessions.mem_rows_iff.mp member
    rw [(knows row.1).session, Option.map_eq_some_iff] at stored
    obtain ⟨projection, reduced, same⟩ := stored
    rw [Function.comp_apply, ← same]
    exact ((kept row.1).projection_session reduced).2
  · intro id
    rw [← not_iff_not, ← Table.get?_eq_none_iff, (knows id).session, Option.map_eq_none_iff,
      CommitLog.Present, not_not]
    constructor
    · intro none
      by_contra nonempty
      obtain ⟨projection, reduced⟩ := (kept id).exists_projection nonempty
      rw [none] at reduced
      cases reduced
    · intro empty
      rw [empty]
      exact projectionOf_nil

theorem run_listCatalog (seen : catalogView rules disk = .ok view)
    (settled : ∀ delta, disk.catalogDelta = some delta → delta.torn = false) :
    (Jsonl.listCatalog rules).run JsonlDisk.perform disk =
      (.ok (sortCatalog rules (sortCatalog rules view.sessions.values)), disk) := by
  simp [Jsonl.listCatalog, run_withLock catalogLock_named, run_bind,
    run_readCatalogUnlocked seen settled, catalogCache]

theorem run_listSessionIds (holds : JsonlHolds rules disk log) :
    ∃ ids, (Jsonl.listSessionIds rules).run JsonlDisk.perform disk = (.ok ids, disk) ∧
      Lists log.Present ids := by
  obtain ⟨view, seen, knows⟩ := holds.catalog
  obtain ⟨keys, present⟩ := CatalogView.ids holds.kept fun id => knows id trivial
  have perm : ((sortCatalog rules (sortCatalog rules view.sessions.values)).map
      (·.sessionId)).Perm (view.sessions.rows.map Prod.fst) := by
    rw [← keys]
    exact ((List.mergeSort_perm _ _).trans (List.mergeSort_perm _ _)).map _
  refine ⟨sortIds ((sortCatalog rules (sortCatalog rules view.sessions.values)).map
    (·.sessionId)), ?_, ?_⟩
  · simp [Jsonl.listSessionIds, run_bind, run_listCatalog seen holds.settled]
  · exact .sortIds (perm.nodup_iff.mpr view.sessions.unique)
      fun id => (perm.mem_iff).trans (present id)

theorem run_listRecoverableSessionIds (holds : JsonlHolds rules disk log) :
    ∃ ids, (Jsonl.listRecoverableSessionIds rules).run JsonlDisk.perform disk = (.ok ids, disk) ∧
      Lists (log.Recoverable rules) ids := by
  obtain ⟨view, seen, knows⟩ := holds.catalog
  have perm := sortIds_perm view.recoverable.dedup
  refine ⟨sortIds (sortIds view.recoverable.dedup), ?_, ?_⟩
  · simp [Jsonl.listRecoverableSessionIds, run_withLock catalogLock_named, run_bind,
      run_readCatalogUnlocked seen holds.settled, catalogCache]
  · refine .sortIds (perm.nodup_iff.mpr (List.nodup_dedup _)) fun id => ?_
    rw [perm.mem_iff, List.mem_dedup]
    exact (knows id trivial).recoverable

end Running

/-! ## The store -/

/-- The files after the first initialization of an empty root. -/
def JsonlDisk.fresh (rules : SessionRules Data View) : JsonlDisk Data View where
  authority := true
  catalog := some (catalogCache rules [] [])
  catalogState := some ((catalogCache rules [] []).checksum rules)
  catalogDelta := some {}

theorem run_initializeJournal_empty (deep : Bool) :
    (Jsonl.initializeJournal rules deep).run JsonlDisk.perform ({} : JsonlDisk Data View) =
      (.ok (), .fresh rules) := by
  cases deep <;>
    simp [Jsonl.initializeJournal, run_withLock catalogLock_named, run_bind, JsonlDisk.perform,
      Jsonl.rebuildCatalogUnlocked, Jsonl.scanProjections, Jsonl.clearAllPendingUnlocked,
      FileProgram.run, FileProgram.forEach, Table.empty, sortIds, JsonlDisk.fresh]

theorem JsonlHolds.fresh : JsonlHolds rules (.fresh rules) (fun _ => []) := by
  constructor
  case kept => exact fun _ => .nil
  case journal => exact fun _ => rfl
  case projection =>
    intro id _
    rw [projectionFile, projectionOf_nil]
    rfl
  case catalog =>
    have sorted : catalogCache rules [] [] = { sessions := [], recoverableSessionIds := [] } := by
      simp [catalogCache, sortCatalog, sortIds]
    refine ⟨{ sessions := Table.empty, recoverable := [] }, ?_, ?_⟩
    · refine catalogView_eq_ok.mpr ⟨_, _, _, [], rfl, ?_, rfl, rfl, rfl, rfl, ?_⟩
      · simp [validateCatalogCache, sorted]
      · simp [CatalogView.ofCache, sorted]
    · intro id _
      constructor <;> simp [projectionOf_nil]
  case settled =>
    intro delta stored
    obtain rfl := Option.some.inj stored
    rfl

/-- **The JSONL journal implements the commit log.** -/
theorem jsonl_implements : Implements rules jsonlNaming (jsonlSessionJournalV3 rules)
    (JsonlHolds rules) where
  kept holds := holds.kept
  appendCommit holds input := ⟨(run_appendCommit holds input).result,
    (run_appendCommit holds input).holds⟩
  rejects holds input error := (run_appendCommit holds input).rejects error
  readEntries := run_readEntries
  readCommits := run_readCommits
  listSessionIds := run_listSessionIds
  listRecoverableSessionIds := run_listRecoverableSessionIds
  loadCachedProjection := run_loadCachedProjection

end Praxis.Session
