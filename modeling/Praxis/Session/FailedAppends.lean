import Praxis.Session.InterruptedRebuilds
import Praxis.Session.PagedReads

/-!
# Appends that fail

A call of `appendCommit` can fail at any of its file steps: behind a number of its changes, or in
the middle of a line that it adds to a journal or to the changes of the catalog. The process lives
on, and it and others call again.

The calls keep a store that stands for a log except for torn lines (`Standing`), unless one of them
stops between the record of a commit and its projection, or adds a whole line behind a torn change
of the catalog. A store that stands for a log answers as it should (`Standing.sound`), and behind
such a call it does not.
-/

namespace Praxis.Session

set_option autoImplicit false

open Praxis.Foundations
open Praxis.Foundations.FileProgram (run_bind writes_bind run_disk)
open Praxis.Workflow (safeId)

variable {Data View : Type} (rules : SessionRules Data View)

/-- What a change leaves that fails in the middle: a part of a line. A file that is replaced is not
changed then. -/
def JsonlDisk.performPartly (disk : JsonlDisk Data View) :
    JsonlWrite Data View → JsonlDisk Data View
  | .appendRecord sessionId _ => disk.withJournal sessionId (disk.journal sessionId).tear
  | .appendDelta _ => { disk with catalogDelta := some (disk.catalogDelta.getD {}).tear }
  | _ => disk

/-- The disk after a number of changes, maybe with a part of the next one. -/
def JsonlDisk.stopped (partly : Bool) :
    List (JsonlWrite Data View) → Nat → JsonlDisk Data View → JsonlDisk Data View
  | [], _, disk => disk
  | step :: _, 0, disk => if partly then disk.performPartly step else disk
  | step :: rest, count + 1, disk => JsonlDisk.stopped partly rest count (disk.perform step)

/-- A call of `appendCommit`. It fails behind a number of its changes, maybe in the middle of the
next one, unless it has made all of them then. -/
structure AppendCall (Data : Type) where
  commit : SessionCommitV3 Data
  changes : Nat
  partly : Bool := false

def AppendCall.run (disk : JsonlDisk Data View) (call : AppendCall Data) : JsonlDisk Data View :=
  disk.stopped call.partly ((Jsonl.appendCommit rules call.commit).writes JsonlDisk.perform disk)
    call.changes

/-- The cached projection is at the head that is read, the catalog is listed, a plain initialization
succeeds, and a commit that the stored commits accept is accepted. -/
structure Sound (disk : JsonlDisk Data View) : Prop where
  head : ∀ input page,
    ((Jsonl.readEntries rules input).run JsonlDisk.perform disk).1 = .ok page →
    ∃ projection : SessionProjectionV3 Data View,
      ((Jsonl.loadCachedProjection input.sessionId).run JsonlDisk.perform disk).1 =
        .ok projection ∧
      projection.snapshot.revision = page.head.revision ∧
      projection.snapshot.sequence = page.head.sequence
  listed : ∃ sessions, ((Jsonl.listCatalog rules).run JsonlDisk.perform disk).1 = .ok sessions
  opened : ((Jsonl.initializeJournal rules false).run JsonlDisk.perform disk).1 = .ok ()
  accepts : ∀ commits commit outcome,
    ((Jsonl.readCommits rules commit.sessionId).run JsonlDisk.perform disk).1 = .ok commits →
    validateSessionCommitV3 rules commit = .ok commit →
    jsonlNaming.admits commit.sessionId = true →
    appendToLog rules commits commit = .ok outcome →
    ((Jsonl.appendCommit rules commit).run JsonlDisk.perform disk).1 = .ok outcome.1

/-- The call does not stop between the record of its commit and the projection, and adds no line
behind a torn change of the catalog. -/
def AppendCall.Harmless (disk : JsonlDisk Data View) (call : AppendCall Data) : Prop :=
  let made :=
    ((Jsonl.appendCommit rules call.commit).writes JsonlDisk.perform disk).take call.changes
  (∀ sessionId commit, made.getLast? ≠ some (.appendRecord sessionId commit)) ∧
    ((∃ delta, disk.catalogDelta = some delta ∧ delta.torn = true) →
      ∀ record, .appendDelta record ∉ made)

/-! ## Stores that stand for a log -/

/-- The store stands for the log, except for torn lines and for what the catalog says of its
sessions. -/
structure Standing (disk : JsonlDisk Data View) (log : CommitLog Data) : Prop
    extends JournalsHold rules disk log where
  projections : ∀ id, disk.projections.get? id = projectionFile rules (log id)
  catalog : ∃ view, catalogView rules disk = .ok view

variable {rules} {projection : SessionProjectionV3 Data View}

section Answers

variable {disk : JsonlDisk Data View} {log : CommitLog Data}

theorem head_of_projection {commits : List (SessionCommitV3 Data)}
    (reduced : projectionOf rules commits = some projection) : head (flattenEntries commits) = some
      { revision := projection.snapshot.revision, sequence := projection.snapshot.sequence } := by
  obtain ⟨last, place, revision, sequence⟩ :=
    (reduceSessionEntriesV3_projected (projectionOf_eq_some.mp reduced)).head
  rw [head, place, Option.map_some, revision, sequence]

theorem head_of_readEntries {input : ReadSessionEntriesInputV3} {page : SessionEntryPageV3 Data}
    (read : log.readEntries input = .ok page) : safeId input.sessionId = true ∧
      head (flattenEntries (log input.sessionId)) = some page.head := by
  simp only [CommitLog.readEntries, bind_eq_ok, orError_eq_ok, pure_eq_ok] at read
  obtain ⟨_, valid, currentHead, place, _, _, rfl⟩ := read
  simp only [validateReadInput, ensure_eq_ok, Bool.and_eq_true] at valid
  exact ⟨valid.1.1.1, place⟩

theorem Standing.readEntries (standing : Standing rules disk log)
    (input : ReadSessionEntriesInputV3) :
    (Jsonl.readEntries rules input).run JsonlDisk.perform disk = (log.readEntries input, disk) := by
  obtain ⟨torn, stored⟩ := standing.journal input.sessionId
  exact run_readEntries_stored (standing.kept input.sessionId) stored

theorem Standing.readCommits (standing : Standing rules disk log) (sessionId : String) :
    (Jsonl.readCommits rules sessionId).run JsonlDisk.perform disk =
      (log.readCommits jsonlNaming sessionId, disk) := by
  obtain ⟨torn, stored⟩ := standing.journal sessionId
  exact run_readCommits_stored (standing.kept sessionId) stored

/-! ### What a call does -/

/-- The change that cuts off a torn tail. -/
def tailRepair (sessionId : String) (commits : List (SessionCommitV3 Data)) (torn : Bool) :
    List (JsonlWrite Data View) :=
  if torn then [.truncateJournal sessionId commits.length] else []

/-- The changes that refresh a projection and the catalog. -/
def refreshWrites (sessionId : String) (commits : List (SessionCommitV3 Data))
    (projection : SessionProjectionV3 Data View) : List (JsonlWrite Data View) :=
  [.projection sessionId (projectionCache projection commits),
    .appendDelta (catalogDeltaRecord projection)]

/-- The changes that append a commit. While the record and what is derived from it are written, the
session is marked. -/
def appendWrites (sessionId : String) (commit : SessionCommitV3 Data)
    (commits : List (SessionCommitV3 Data)) (projection : SessionProjectionV3 Data View) :
    List (JsonlWrite Data View) :=
  .markPending sessionId :: .appendRecord sessionId commit ::
    (refreshWrites sessionId commits projection ++ [.unlinkPending sessionId])

@[simp] theorem writes_refreshProjection {sessionId : String}
    {records : List (SessionCommitV3 Data)}
    (reduced : projectionOf rules records = some projection) :
    (refreshProjection rules sessionId records).writes JsonlDisk.perform disk =
      refreshWrites sessionId records projection := by
  simp [refreshProjection, writes_bind, projectionOf_eq_some.mp reduced,
    writes_withLock catalogLock_named, appendCatalogDeltaUnlocked, refreshWrites]

section Call

variable {commit : SessionCommitV3 Data} {torn : Bool}
  (kept : Kept rules commit.sessionId (log commit.sessionId))
  (stored : disk.journal commit.sessionId = journalFile (log commit.sessionId) torn)
  (valid : validateSessionCommitV3 rules commit = .ok commit)
  (admitted : jsonlNaming.admits commit.sessionId = true)

include kept stored valid admitted

theorem writes_appendCommit_refused {error : SessionError}
    (refused : appendToLog rules (log commit.sessionId) commit = .error error) :
    (Jsonl.appendCommit rules commit).writes JsonlDisk.perform disk =
      tailRepair commit.sessionId (log commit.sessionId) torn := by
  have named := (validateSessionCommitV3_ok valid).2.sessionId
  have read := run_readJournal kept named stored
  rcases appendToLog_refused refused with found | ⟨found, follows | ⟨follows, reduced⟩⟩
  · cases torn <;>
      simp [Jsonl.appendCommit, writes_bind, valid, writes_withLock admitted, read, repairTail,
        found, tailRepair]
  · cases torn <;>
      simp [Jsonl.appendCommit, writes_bind, valid, writes_withLock admitted, read, repairTail,
        found, follows, tailRepair]
  · cases torn <;>
      simp [Jsonl.appendCommit, writes_bind, valid, writes_withLock admitted, read, repairTail,
        found, follows, reduced, tailRepair]

theorem writes_appendCommit_duplicate {existing : SessionCommitV3 Data}
    (found : findDuplicate commit (log commit.sessionId) = .ok (some existing))
    (reduced : projectionOf rules (log commit.sessionId) = some projection) :
    ((Jsonl.appendCommit rules commit).run JsonlDisk.perform disk).1 =
        .ok (sessionCommitReceiptV3 existing true) ∧
      (Jsonl.appendCommit rules commit).writes JsonlDisk.perform disk =
        tailRepair commit.sessionId (log commit.sessionId) torn ++
          refreshWrites commit.sessionId (log commit.sessionId) projection := by
  have named := (validateSessionCommitV3_ok valid).2.sessionId
  have read := run_readJournal kept named stored
  cases torn <;>
    simp [Jsonl.appendCommit, run_bind, writes_bind, valid, run_withLock admitted,
      writes_withLock admitted, read, repairTail, found, tailRepair,
      run_refreshProjection reduced, writes_refreshProjection reduced]

theorem writes_appendCommit_fresh (fresh : findDuplicate commit (log commit.sessionId) = .ok none)
    (follows : assertSessionCommitAgainstHeadV3 commit
      (head (flattenEntries (log commit.sessionId))) = .ok ())
    (reduced : projectionOf rules (log commit.sessionId ++ [commit]) = some projection) :
    ((Jsonl.appendCommit rules commit).run JsonlDisk.perform disk).1 =
        .ok (sessionCommitReceiptV3 commit false) ∧
      (Jsonl.appendCommit rules commit).writes JsonlDisk.perform disk =
        tailRepair commit.sessionId (log commit.sessionId) torn ++
          appendWrites commit.sessionId commit (log commit.sessionId ++ [commit]) projection := by
  have named := (validateSessionCommitV3_ok valid).2.sessionId
  have read := run_readJournal kept named stored
  have accepted := projectionOf_eq_some.mp reduced
  rw [flattenEntries_append, flattenEntries_singleton] at accepted
  cases torn <;>
    simp [Jsonl.appendCommit, run_bind, writes_bind, valid, run_withLock admitted,
      writes_withLock admitted, read, repairTail, fresh, follows, accepted, tailRepair,
      appendWrites, run_refreshProjection reduced, writes_refreshProjection reduced]

end Call

/-! ### A store that stands for a log is sound -/

/-- **A store that stands for a log answers as it should.** -/
theorem Standing.sound (standing : Standing rules disk log) : Sound rules disk := by
  obtain ⟨view, seen⟩ := standing.catalog
  constructor
  case head =>
    intro input page read
    rw [standing.readEntries input] at read
    obtain ⟨named, place⟩ := head_of_readEntries read
    have kept := standing.kept input.sessionId
    have present : log input.sessionId ≠ [] := by
      intro empty
      rw [empty] at place
      cases place
    obtain ⟨projection, reduced⟩ := kept.exists_projection present
    have names : jsonlNaming.names input.sessionId = true := named
    rw [head_of_projection reduced, Option.some.injEq] at place
    refine ⟨projection, ?_, congrArg (·.revision) place, congrArg (·.sequence) place⟩
    rw [run_loadCachedProjection_stored kept (standing.projections input.sessionId)]
    simp [CommitLog.loadCachedProjection, names, reduced, orError, ok_bind]
  case listed =>
    refine ⟨sortCatalog rules (catalogCache rules view.sessions.values view.recoverable).sessions,
      ?_⟩
    simp only [Jsonl.listCatalog, run_withLock catalogLock_named, run_bind,
      run_readCatalogUnlocked_settled, seen, FileProgram.run_pure]
  case opened =>
    have marked : disk.catalogState ≠ none := by
      obtain ⟨_, state, _, _, _, _, there, _⟩ := catalogView_eq_ok.mp seen
      rw [there]
      exact Option.some_ne_none state
    rw [run_initializeJournal_marked marked, seen]
    obtain ⟨after, view', ran, _⟩ := run_recoverPendingSessions
      (⟨standing.kept, standing.journal, standing.named, standing.marked⟩ :
        JournalsHold rules disk.authorized.settled log) disk.pending standing.marked
      (catalogView_settled.trans seen) (by
        intro delta stored
        obtain ⟨_, _, rfl⟩ := Option.map_eq_some_iff.mp stored
        rfl)
    exact congrArg Prod.fst ran
  case accepts =>
    intro commits commit outcome read valid admitted appended
    rw [standing.readCommits commit.sessionId] at read
    obtain ⟨receipt, next⟩ := outcome
    have kept := standing.kept commit.sessionId
    have same : commits = log commit.sessionId := by
      simp only [CommitLog.readCommits, bind_eq_ok, return_eq_ok] at read
      obtain ⟨_, _, _, _, rfl⟩ := read
      rfl
    subst same
    obtain ⟨torn, stored⟩ := standing.journal commit.sessionId
    rcases appendToLog_ok appended with
      ⟨existing, member, repeated, rfl, rfl⟩ | ⟨fresh, follows, ⟨projection, reduced⟩, rfl, rfl⟩
    · have found := kept.distinct.findDuplicate_repeats member repeated
      obtain ⟨projection, reduced⟩ := kept.exists_projection (List.ne_nil_of_mem member)
      exact (writes_appendCommit_duplicate kept stored valid admitted found reduced).1
    · have longer : projectionOf rules (log commit.sessionId ++ [commit]) = some projection := by
        rw [projectionOf_eq_some, flattenEntries_append, flattenEntries_singleton]
        exact reduced
      exact (writes_appendCommit_fresh kept stored valid admitted (findDuplicate_fresh fresh)
        follows longer).1

end Answers

/-! ## One change -/

section Changes

variable {disk : JsonlDisk Data View} {log : CommitLog Data}
  (standing : Standing rules disk log) {id : String} {commit : SessionCommitV3 Data}

include standing

theorem Standing.truncate (named : safeId id = true) {torn : Bool}
    (stored : disk.journal id = journalFile (log id) torn) :
    Standing rules (disk.perform (.truncateJournal id (log id).length)) log ∧
      (disk.perform (.truncateJournal id (log id).length)).journal id =
        journalFile (log id) false := by
  have written : disk.perform (.truncateJournal id (log id).length) =
      disk.withJournal id (journalFile (log id) false) := by
    change disk.withJournal id ((disk.journal id).truncate _) = _
    rw [stored, truncate_journalFile]
  rw [written, journal_withJournal, if_pos rfl]
  exact ⟨⟨standing.toJournalsHold.repair named, standing.projections, standing.catalog⟩, rfl⟩

theorem Standing.mark (named : safeId id = true) :
    Standing rules (disk.perform (.markPending id)) log where
  marked other member := by
    rcases List.mem_insert_iff.mp member with rfl | before
    · exact named
    · exact standing.marked other before
  __ := standing

/-- A mark taken away. -/
theorem Standing.unlink : Standing rules (disk.perform (.unlinkPending id)) log :=
  ⟨standing.toJournalsHold.unlink id, standing.projections, standing.catalog⟩

/-- A part of a record at the end of a journal. -/
theorem Standing.tearJournal (named : safeId id = true) (commit : SessionCommitV3 Data) :
    Standing rules (disk.performPartly (.appendRecord id commit)) log where
  journal other := by
    obtain ⟨torn, stored⟩ := standing.journal other
    change ∃ torn, (disk.withJournal id (disk.journal id).tear).journal other = _
    rw [journal_withJournal]
    by_cases same : other = id
    · subst same
      exact ⟨true, by rw [if_pos rfl, stored]; rfl⟩
    · exact ⟨torn, by rw [if_neg same, stored]⟩
  named other there := by
    rcases (Table.upsert_has _ _ _ _).mp there with before | rfl
    · exact standing.named other before
    · exact named
  __ := standing

theorem Standing.tearDelta (record : CatalogDeltaRecordV3) :
    Standing rules (disk.performPartly (.appendDelta record)) log where
  catalog := by
    obtain ⟨view, seen⟩ := standing.catalog
    obtain ⟨base, state, delta, records, there, valid, marker, same, stored, read, rfl⟩ :=
      catalogView_eq_ok.mp seen
    refine ⟨_, catalogView_eq_ok.mpr ⟨base, state, delta.tear, records, there, valid, marker, same,
      ?_, read, rfl⟩⟩
    simp [JsonlDisk.performPartly, stored]
  __ := standing

theorem Standing.projected (reduced : projectionOf rules (log id) = some projection) :
    Standing rules (disk.perform (.projection id (projectionCache projection (log id)))) log where
  projections other := by
    change (Table.upsert _ _ _).get? other = _
    rw [Table.get?_upsert]
    by_cases same : other = id
    · subst same
      rw [if_pos rfl, projectionFile, reduced, Option.map_some]
    · rw [if_neg same]
      exact standing.projections other
  __ := standing

/-- A change added to the catalog behind whole lines. -/
theorem Standing.delta (reduced : projectionOf rules (log id) = some projection)
    (settled : ∀ delta, disk.catalogDelta = some delta → delta.torn = false) :
    Standing rules (disk.perform (.appendDelta (catalogDeltaRecord projection))) log where
  catalog := by
    obtain ⟨view, seen⟩ := standing.catalog
    exact ⟨_, catalogView_appendDelta seen settled
      (isCatalogProjection_of_reduced (projectionOf_eq_some.mp reduced))⟩
  __ := standing

theorem Standing.record (stored : disk.journal id = journalFile (log id) false)
    (kept : Kept rules id (log id ++ [commit]))
    (reduced : projectionOf rules (log id ++ [commit]) = some projection) :
    Standing rules ((disk.perform (.appendRecord id commit)).perform
      (.projection id (projectionCache projection (log id ++ [commit]))))
      (Function.update log id (log id ++ [commit])) where
  kept other := by
    by_cases same : other = id
    · subst same
      rwa [Function.update_self]
    · rw [Function.update_of_ne same]
      exact standing.kept other
  journal other := by
    obtain ⟨torn, there⟩ := standing.journal other
    change ∃ torn, (disk.withJournal id ((disk.journal id).append commit)).journal other = _
    rw [journal_withJournal]
    by_cases same : other = id
    · subst same
      exact ⟨false, by rw [if_pos rfl, Function.update_self, stored, append_journalFile]⟩
    · exact ⟨torn, by rw [if_neg same, Function.update_of_ne same, there]⟩
  named other there := by
    rcases (Table.upsert_has _ _ _ _).mp there with before | rfl
    · exact standing.named other before
    · exact kept.safe (by simp)
  projections other := by
    change (Table.upsert _ _ _).get? other = _
    rw [Table.get?_upsert]
    by_cases same : other = id
    · subst same
      rw [if_pos rfl, Function.update_self, projectionFile, reduced, Option.map_some]
    · rw [if_neg same, Function.update_of_ne same]
      exact standing.projections other
  __ := standing

/-- **Behind a record without its projection the cached projection is not at the head.** -/
theorem Standing.not_sound_of_record (stored : disk.journal id = journalFile (log id) false)
    (kept : Kept rules id (log id ++ [commit])) :
    ¬Sound rules (disk.perform (.appendRecord id commit)) := by
  intro sound
  have named := kept.safe (by simp)
  have longer : (disk.perform (.appendRecord id commit)).journal id =
      journalFile (log id ++ [commit]) false := by
    change (disk.withJournal id ((disk.journal id).append commit)).journal id = _
    rw [journal_withJournal, if_pos rfl, stored, append_journalFile]
  let later : CommitLog Data := Function.update log id (log id ++ [commit])
  have here : later id = log id ++ [commit] := Function.update_self ..
  have valid : validateReadInput { sessionId := id } = .ok () := by
    simp [validateReadInput, named]
  have kept' : Kept rules id (later id) := by
    rw [here]
    exact kept
  have read : (Jsonl.readEntries rules { sessionId := id }).run JsonlDisk.perform
      (disk.perform (.appendRecord id commit)) = (later.readEntries { sessionId := id }, _) :=
    run_readEntries_stored kept' (by rw [here]; exact longer)
  have present' : later id ≠ [] := by
    rw [here]
    simp
  have page : later.readEntries { sessionId := id } = .ok _ :=
    (CommitLog.readEntries_eq_ok kept').mpr ⟨valid, present', Int.le_refl _, rfl⟩
  obtain ⟨projection, loaded, revision, _⟩ := sound.head { sessionId := id } _
    ((congrArg Prod.fst read).trans page)
  have cached : (Jsonl.loadCachedProjection id).run JsonlDisk.perform
      (disk.perform (.appendRecord id commit)) =
        (log.loadCachedProjection rules jsonlNaming id, _) :=
    run_loadCachedProjection_stored (standing.kept id) (standing.projections id)
  rw [cached] at loaded
  simp only [CommitLog.loadCachedProjection, bind_eq_ok, orError_eq_ok] at loaded
  obtain ⟨_, _, reduced⟩ := loaded
  have present : log id ≠ [] := by
    intro empty
    rw [empty, projectionOf_nil] at reduced
    cases reduced
  have place := (head_of_projection reduced).symm.trans ((standing.kept id).head_eq present)
  rw [Option.some.injEq, SessionJournalHeadV3.mk.injEq] at place
  rw [place.1, pageAt, here] at revision
  simp at revision

end Changes

theorem not_sound_of_line {disk : JsonlDisk Data View} {delta : LineFile CatalogDeltaRecordV3}
    (stored : disk.catalogDelta = some delta) (broken : none ∈ delta.lines) :
    ¬Sound rules disk := by
  intro sound
  obtain ⟨sessions, listed⟩ := sound.listed
  rw [Jsonl.listCatalog, run_withLock catalogLock_named, run_bind,
    run_readCatalogUnlocked_settled] at listed
  cases seen : catalogView rules disk with
  | error error =>
    rw [seen] at listed
    cases listed
  | ok view =>
    obtain ⟨_, _, delta', records, _, _, _, _, stored', read, _⟩ := catalogView_eq_ok.mp seen
    obtain rfl := Option.mem_unique stored stored'
    obtain ⟨_, _, line⟩ := mapM_accepts read broken
    simp [validateCatalogDeltaRecord, orError, error_bind] at line

/-! ## One call -/

section Calls

variable {disk : JsonlDisk Data View} {log : CommitLog Data}

/-- What is made of the changes of a call is harmless: it does not end in a record, and nothing is
added behind a torn change. -/
def HarmlessWrites (disk : JsonlDisk Data View) (made : List (JsonlWrite Data View)) : Prop :=
  (∀ sessionId commit, made.getLast? ≠ some (.appendRecord sessionId commit)) ∧
    ((∃ delta, disk.catalogDelta = some delta ∧ delta.torn = true) →
      ∀ record, .appendDelta record ∉ made)

/-- The store after the first changes of a list stands for a log if these are harmless, and is not
sound otherwise. -/
def Decided (rules : SessionRules Data View) (disk : JsonlDisk Data View)
    (writes : List (JsonlWrite Data View)) (count : Nat) (partly : Bool) : Prop :=
  (HarmlessWrites disk (writes.take count) →
    ∃ log, Standing rules (disk.stopped partly writes count) log) ∧
  (¬HarmlessWrites disk (writes.take count) → ¬Sound rules (disk.stopped partly writes count))

/-- Nothing more is written. -/
theorem Standing.decided_nil (standing : Standing rules disk log) (count : Nat) (partly : Bool) :
    Decided rules disk [] count partly := by
  have harmless : HarmlessWrites disk (([] : List (JsonlWrite Data View)).take count) := by
    simp [HarmlessWrites]
  exact ⟨fun _ => ⟨log, standing⟩, fun harmful => absurd harmless harmful⟩

/-- A change of a file that is replaced, or a cut. -/
def JsonlWrite.Whole (step : JsonlWrite Data View) : Prop :=
  (∀ id commit, step ≠ .appendRecord id commit) ∧ ∀ record, step ≠ .appendDelta record

theorem whole_projection (id : String) (cache : ProjectionCacheV3 Data View) :
    (JsonlWrite.projection id cache).Whole := ⟨nofun, nofun⟩

theorem whole_markPending (id : String) :
    (JsonlWrite.markPending id : JsonlWrite Data View).Whole := ⟨nofun, nofun⟩

theorem whole_truncateJournal (id : String) (validLines : Nat) :
    (JsonlWrite.truncateJournal id validLines : JsonlWrite Data View).Whole := ⟨nofun, nofun⟩

variable {step : JsonlWrite Data View} {rest : List (JsonlWrite Data View)} {partly : Bool}
  {id : String} {commit : SessionCommitV3 Data}

theorem harmlessWrites_cons (whole : step.Whole) (made : List (JsonlWrite Data View)) :
    HarmlessWrites disk (step :: made) ↔ HarmlessWrites disk made := by
  have last : (∀ id commit, (step :: made).getLast? ≠ some (.appendRecord id commit)) ↔
      ∀ id commit, made.getLast? ≠ some (.appendRecord id commit) := by
    rcases List.eq_nil_or_concat' made with rfl | ⟨front, final, rfl⟩
    · simp [whole.1]
    · rw [← List.cons_append]
      simp only [List.getLast?_append, List.getLast?_singleton, Option.some_or]
  have line : ∀ record, (.appendDelta record ∉ step :: made ↔ .appendDelta record ∉ made) := by
    intro record
    rw [List.mem_cons, not_or]
    exact and_iff_right (Ne.symm (whole.2 record))
  simp only [HarmlessWrites, last, line]

theorem harmlessWrites_congr {other : JsonlDisk Data View}
    (same : other.catalogDelta = disk.catalogDelta) (made : List (JsonlWrite Data View)) :
    HarmlessWrites other made ↔ HarmlessWrites disk made := by
  simp only [HarmlessWrites, same]

variable (standing : Standing rules disk log)
include standing

theorem Standing.decided_cons
    (whole : step.Whole) (delta : (disk.perform step).catalogDelta = disk.catalogDelta)
    (next : ∀ count, Decided rules (disk.perform step) rest count partly) (count : Nat) :
    Decided rules disk (step :: rest) count partly := by
  cases count with
  | zero =>
    have same : disk.stopped partly (step :: rest) 0 = disk := by
      have unchanged : disk.performPartly step = disk := by
        cases step with
        | appendRecord id commit => exact absurd rfl (whole.1 id commit)
        | appendDelta record => exact absurd rfl (whole.2 record)
        | _ => rfl
      cases partly with
      | false => rfl
      | true => exact unchanged
    have harmless : HarmlessWrites disk ((step :: rest).take 0) := by simp [HarmlessWrites]
    rw [Decided, same]
    exact ⟨fun _ => ⟨log, standing⟩, fun harmful => absurd harmless harmful⟩
  | succ count =>
    rw [Decided, List.take_succ_cons, harmlessWrites_cons whole, ← harmlessWrites_congr delta]
    exact next count

theorem Standing.decided_record (stored : disk.journal id = journalFile (log id) false)
    (kept : Kept rules id (log id ++ [commit]))
    (next : ∀ count, Decided rules ((disk.perform (.appendRecord id commit)).perform
      (.projection id (projectionCache projection (log id ++ [commit])))) rest count partly)
    (count : Nat) : Decided rules disk (.appendRecord id commit ::
      .projection id (projectionCache projection (log id ++ [commit])) :: rest) count partly := by
  have harmless : HarmlessWrites disk ([] : List (JsonlWrite Data View)) := by
    simp [HarmlessWrites]
  match count with
  | 0 =>
    refine ⟨fun _ => ⟨log, ?_⟩, fun harmful => absurd harmless harmful⟩
    cases partly with
    | false => exact standing
    | true => exact standing.tearJournal (kept.safe (by simp)) commit
  | 1 =>
    have harmful : ¬HarmlessWrites disk [JsonlWrite.appendRecord id commit] := by
      intro harmless'
      exact harmless'.1 id commit rfl
    refine ⟨fun harmless' => absurd harmless' harmful, fun _ => ?_⟩
    have same : disk.stopped partly (.appendRecord id commit ::
        .projection id (projectionCache projection (log id ++ [commit])) :: rest) 1 =
        disk.perform (.appendRecord id commit) := by
      cases partly <;> rfl
    rw [same]
    exact standing.not_sound_of_record stored kept
  | count + 2 =>
    have made : HarmlessWrites disk ((.appendRecord id commit ::
        .projection id (projectionCache projection (log id ++ [commit])) :: rest).take
          (count + 2)) ↔ HarmlessWrites disk (rest.take count) := by
      rw [List.take_succ_cons, List.take_succ_cons]
      have front : HarmlessWrites disk _ ↔ HarmlessWrites disk (rest.take count) :=
        harmlessWrites_cons
          (whole_projection id (projectionCache projection (log id ++ [commit]))) _
      refine Iff.trans ?_ front
      simp [HarmlessWrites, List.getLast?_cons_cons]
    have delta : ((disk.perform (.appendRecord id commit)).perform (.projection id
        (projectionCache projection (log id ++ [commit])))).catalogDelta =
          disk.catalogDelta := rfl
    rw [Decided, made, ← harmlessWrites_congr delta]
    exact next count

theorem Standing.decided_delta (reduced : projectionOf rules (log id) = some projection)
    (marks : rest = [] ∨ rest = [.unlinkPending id]) (count : Nat) :
    Decided rules disk (.appendDelta (catalogDeltaRecord projection) :: rest) count partly := by
  obtain ⟨view, seen⟩ := standing.catalog
  obtain ⟨_, _, delta, _, _, _, _, _, stored, _⟩ := catalogView_eq_ok.mp seen
  cases count with
  | zero =>
    have harmless : HarmlessWrites disk ([] : List (JsonlWrite Data View)) := by
      simp [HarmlessWrites]
    refine ⟨fun _ => ⟨log, ?_⟩, fun harmful => absurd harmless harmful⟩
    cases partly with
    | false => exact standing
    | true => exact standing.tearDelta (catalogDeltaRecord projection)
  | succ count =>
    -- the mark does not matter any more
    have last : ∀ made : List (JsonlWrite Data View), made = [] ∨ made = [.unlinkPending id] →
        (HarmlessWrites disk (.appendDelta (catalogDeltaRecord projection) :: made) ↔
          delta.torn = false) := by
      intro made either
      have line : (.appendDelta (catalogDeltaRecord projection) : JsonlWrite Data View) ∈
          .appendDelta (catalogDeltaRecord projection) :: made := List.mem_cons_self
      constructor
      · intro harmless
        by_contra torn
        exact harmless.2 ⟨delta, stored, by simpa using torn⟩ _ line
      · intro whole
        refine ⟨?_, fun ⟨delta', stored', torn⟩ => ?_⟩
        · rcases either with rfl | rfl <;> simp
        · obtain rfl := Option.mem_unique stored stored'
          rw [whole] at torn
          cases torn
    have taken : rest.take count = [] ∨ rest.take count = [.unlinkPending id] := by
      rcases marks with rfl | rfl
      · simp
      · cases count <;> simp
    have ended : disk.stopped partly (.appendDelta (catalogDeltaRecord projection) :: rest)
          (count + 1) = disk.perform (.appendDelta (catalogDeltaRecord projection)) ∨
        disk.stopped partly (.appendDelta (catalogDeltaRecord projection) :: rest) (count + 1) =
          (disk.perform (.appendDelta (catalogDeltaRecord projection))).perform
            (.unlinkPending id) := by
      rcases marks with rfl | rfl
      · exact .inl rfl
      · cases count with
        | zero => exact .inl (by cases partly <;> rfl)
        | succ count => exact .inr rfl
    rw [Decided, List.take_succ_cons, last _ taken]
    constructor
    · intro whole
      have written := standing.delta reduced fun delta' stored' => by
        obtain rfl := Option.mem_unique stored stored'
        exact whole
      refine ⟨log, ?_⟩
      rcases ended with same | same
      · rw [same]
        exact written
      · rw [same]
        exact written.unlink
    · intro torn
      rw [Bool.not_eq_false] at torn
      have line : (disk.perform (.appendDelta (catalogDeltaRecord projection))).catalogDelta =
          some { lines := delta.lines ++ [none], torn := false } := by
        simp [JsonlDisk.perform, stored, LineFile.append, torn]
      have broken : none ∈ delta.lines ++ [none] := by simp
      rcases ended with same | same
      · rw [same]
        exact not_sound_of_line line broken
      · rw [same]
        exact not_sound_of_line line broken

theorem Standing.decided_refresh
    (reduced : projectionOf rules (log id) = some projection) (count : Nat) (partly : Bool) :
    Decided rules disk (refreshWrites id (log id) projection) count partly :=
  standing.decided_cons (whole_projection id _) rfl
    (fun count => (standing.projected reduced).decided_delta reduced (.inl rfl) count) count

theorem Standing.decided_fresh (stored : disk.journal id = journalFile (log id) false)
    (kept : Kept rules id (log id ++ [commit]))
    (reduced : projectionOf rules (log id ++ [commit]) = some projection) (count : Nat)
    (partly : Bool) :
    Decided rules disk (appendWrites id commit (log id ++ [commit]) projection) count partly := by
  have named := kept.safe (by simp)
  have marked := standing.mark named
  have here : Function.update log id (log id ++ [commit]) id = log id ++ [commit] :=
    Function.update_self ..
  have reduced' : projectionOf rules (Function.update log id (log id ++ [commit]) id) =
      some projection := by
    rw [here]
    exact reduced
  refine standing.decided_cons (whole_markPending id) rfl (fun count => ?_) count
  refine marked.decided_record stored kept (fun count => ?_) count
  exact (marked.record stored kept reduced).decided_delta reduced' (.inr rfl) count

theorem Standing.decided_repair
    (named : safeId id = true) {torn : Bool} (stored : disk.journal id = journalFile (log id) torn)
    (next : ∀ {repaired : JsonlDisk Data View}, Standing rules repaired log →
      repaired.journal id = journalFile (log id) false → ∀ count,
      Decided rules repaired rest count partly) (count : Nat) :
    Decided rules disk (tailRepair id (log id) torn ++ rest) count partly := by
  cases torn with
  | false => exact next standing stored count
  | true =>
    obtain ⟨repaired, whole⟩ := standing.truncate named stored
    exact standing.decided_cons (whole_truncateJournal id _) rfl (next repaired whole) count

/-- **A call that is harmless keeps the store standing for a log, and one that is not leaves a store
that is not sound.** -/
theorem Standing.call (call : AppendCall Data) :
    (call.Harmless rules disk → ∃ later, Standing rules (call.run rules disk) later) ∧
      (¬call.Harmless rules disk → ¬Sound rules (call.run rules disk)) := by
  change Decided rules disk ((Jsonl.appendCommit rules call.commit).writes JsonlDisk.perform disk)
    call.changes call.partly
  obtain ⟨input, count, partly⟩ := call
  dsimp only
  cases valid : validateSessionCommitV3 rules input with
  | error error =>
    have nothing : (Jsonl.appendCommit rules input).writes JsonlDisk.perform disk = [] := by
      simp [Jsonl.appendCommit, writes_bind, valid]
    rw [nothing]
    exact standing.decided_nil count partly
  | ok commit =>
    obtain ⟨rfl, checked⟩ := validateSessionCommitV3_ok valid
    have named := checked.sessionId
    have kept := standing.kept commit.sessionId
    obtain ⟨torn, stored⟩ := standing.journal commit.sessionId
    by_cases admitted : jsonlNaming.admits commit.sessionId = true
    · cases appended : appendToLog rules (log commit.sessionId) commit with
      | error error =>
        rw [writes_appendCommit_refused kept stored valid admitted appended,
          ← List.append_nil (tailRepair _ _ _)]
        exact standing.decided_repair named stored
          (fun repaired _ count => repaired.decided_nil count partly) count
      | ok outcome =>
        obtain ⟨receipt, next⟩ := outcome
        rcases appendToLog_ok appended with
          ⟨existing, member, repeated, _, _⟩ | ⟨fresh, follows, ⟨projection, reduced⟩, _, _⟩
        · have found := kept.distinct.findDuplicate_repeats member repeated
          obtain ⟨projection, reduced⟩ := kept.exists_projection (List.ne_nil_of_mem member)
          rw [(writes_appendCommit_duplicate kept stored valid admitted found reduced).2]
          exact standing.decided_repair named stored
            (fun repaired _ count => repaired.decided_refresh reduced count partly) count
        · have longer : projectionOf rules (log commit.sessionId ++ [commit]) =
              some projection := by
            rw [projectionOf_eq_some, flattenEntries_append, flattenEntries_singleton]
            exact reduced
          have next := kept.append valid rfl fresh
            (kept.assertSessionCommitAgainstHeadV3_ok.mp follows).1 ⟨projection, reduced⟩
          rw [(writes_appendCommit_fresh kept stored valid admitted (findDuplicate_fresh fresh)
            follows longer).2]
          exact standing.decided_repair named stored
            (fun repaired whole count =>
              repaired.decided_fresh whole next longer count partly) count
    · rw [Bool.not_eq_true] at admitted
      have nothing : (Jsonl.appendCommit rules commit).writes JsonlDisk.perform disk = [] := by
        have unnamed : safeId (sessionLock commit.sessionId) = false := admitted
        simp [Jsonl.appendCommit, writes_bind, valid, withLock, assertSessionFile, unnamed, ensure]
      rw [nothing]
      exact standing.decided_nil count partly

end Calls

/-! ## Runs of calls -/

variable (rules) in
/-- The disk after calls, one after the other, each of which may fail. -/
def AppendCall.runAll (disk : JsonlDisk Data View) (calls : List (AppendCall Data)) :
    JsonlDisk Data View :=
  calls.foldl (AppendCall.run rules) disk

/-- **A run of appends that may fail leaves a sound store after each of them exactly if each of them
is harmless**: none stops between the record of its commit and the projection, and none adds a line
behind a torn change of the catalog. -/
theorem failed_appends_sound_iff {disk : JsonlDisk Data View} {log : CommitLog Data}
    (standing : Standing rules disk log) (calls : List (AppendCall Data)) :
    (∀ front, front <+: calls → Sound rules (AppendCall.runAll rules disk front)) ↔
      ∀ front call back, calls = front ++ call :: back →
        call.Harmless rules (AppendCall.runAll rules disk front) := by
  induction calls generalizing disk log with
  | nil =>
    refine iff_of_true (fun front first => ?_) fun front call back split => ?_
    · obtain rfl := List.prefix_nil.mp first
      exact standing.sound
    · simp at split
  | cons first rest ih =>
    by_cases harmless : first.Harmless rules disk
    · obtain ⟨later, standing'⟩ := (standing.call first).1 harmless
      have others := ih standing'
      constructor
      · intro sound front call back split
        rcases List.cons_eq_append_iff.mp split with ⟨rfl, same⟩ | ⟨front', rfl, split'⟩
        · rw [List.cons.injEq] at same
          rw [same.1]
          exact harmless
        · refine others.mp (fun before within => ?_) front' call back split'
          exact sound (first :: before) (List.cons_prefix_cons.mpr ⟨rfl, within⟩)
      · intro each front within
        rcases List.prefix_cons_iff.mp within with rfl | ⟨before, rfl, within'⟩
        · exact standing.sound
        · refine others.mpr (fun front' call back split => ?_) before within'
          exact each (first :: front') call back (by rw [split, List.cons_append])
    · refine iff_of_false (fun sound => ?_) fun each => harmless (each [] first rest rfl)
      have one : [first] <+: first :: rest := ⟨rest, rfl⟩
      exact (standing.call first).2 harmless (sound [first] one)

/-! ## A store that nothing was appended to -/

theorem Standing.fresh : Standing rules (.fresh rules) fun _ => [] where
  kept _ := .nil
  journal _ := ⟨false, rfl⟩
  named id there := absurd rfl there
  marked id member := by cases member
  projections id := by
    rw [projectionFile, projectionOf_nil]
    rfl
  catalog := by
    have holds : JsonlHolds rules (.fresh rules) fun _ => [] := .fresh
    obtain ⟨view, seen, _⟩ := holds.catalog
    exact ⟨view, seen⟩

theorem writes_creatingCommit : ∃ projection : SessionProjectionV3 Unit Unit,
    (Jsonl.appendCommit countingRules creatingCommit).writes JsonlDisk.perform
      (.fresh countingRules) =
        appendWrites "session-1" creatingCommit [creatingCommit] projection := by
  obtain ⟨projection, reduced, _⟩ := createdDisk_eq
  let log : CommitLog Unit := fun _ => []
  have fresh : Standing countingRules (.fresh countingRules) log := .fresh
  have stored : (JsonlDisk.fresh countingRules).journal "session-1" =
    journalFile (log "session-1") false := rfl
  have first : findDuplicate creatingCommit (log creatingCommit.sessionId) = .ok none := rfl
  have written := (writes_appendCommit_fresh (fresh.kept "session-1") stored creatingCommit_valid
    creatingCommit_admitted first creatingCommit_follows reduced).2
  exact ⟨projection, written⟩

/-- An append that fails behind its record leaves a projection behind the head. -/
theorem stopped_append_not_sound :
    ∃ log, Standing countingRules (.fresh countingRules) log ∧
      ¬Sound countingRules (AppendCall.runAll countingRules (.fresh countingRules)
        [{ commit := creatingCommit, changes := 2 }]) := by
  refine ⟨_, Standing.fresh, (Standing.fresh.call _).2 fun harmless => ?_⟩
  obtain ⟨projection, written⟩ := writes_creatingCommit
  have last := harmless.1 "session-1" creatingCommit
  rw [written] at last
  exact last rfl

/-- An append that fails in the middle of its record does no harm, nor does one that fails behind
the projection. -/
theorem torn_append_sound :
    Sound countingRules (AppendCall.runAll countingRules (.fresh countingRules)
      [{ commit := creatingCommit, changes := 1, partly := true }]) := by
  refine (failed_appends_sound_iff Standing.fresh _).mpr (fun front call back split => ?_) _
    List.prefix_rfl
  obtain ⟨rfl, rfl⟩ : front = [] ∧
      call = { commit := creatingCommit, changes := 1, partly := true } := by
    rcases List.cons_eq_append_iff.mp split with ⟨rfl, same⟩ | ⟨front', _, split'⟩
    · rw [List.cons.injEq] at same
      exact ⟨rfl, same.1⟩
    · exact absurd split'.symm (by simp)
  obtain ⟨projection, written⟩ := writes_creatingCommit
  have made : ((Jsonl.appendCommit countingRules creatingCommit).writes JsonlDisk.perform
      (.fresh countingRules)).take 1 = [.markPending "session-1"] := by
    rw [written]
    rfl
  change HarmlessWrites (.fresh countingRules) (((Jsonl.appendCommit countingRules
    creatingCommit).writes JsonlDisk.perform (.fresh countingRules)).take 1)
  rw [made]
  exact ⟨nofun, fun _ _ member => by cases member with | tail _ inside => cases inside⟩

end Praxis.Session
