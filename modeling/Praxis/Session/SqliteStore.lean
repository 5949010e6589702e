import Praxis.Session.SqliteJournal
import Praxis.Session.Stores

/-!
# The SQLite journal implements the commit log

In every reachable state the rows of a session are its commits, their entries and the projection of
these (`SqliteHolds`). No statement of a commit that passes the checks breaks a constraint, the
lookup of a duplicate finds what a scan over the commits finds, and every operation answers as the
commit log does (`sqlite_implements`).
-/

namespace Praxis.Session

set_option autoImplicit false

open Praxis.Foundations
open Praxis.Workflow (safeId)

variable {Data View : Type}

/-- The operations, each of them in one transaction. -/
def sqliteSessionJournalV3 (rules : SessionRules Data View) :
    SessionStore Data View (SqliteTables Data View) where
  appendCommit tables input := Sqlite.appendCommit rules tables input
  readEntries tables input := (Sqlite.readEntries rules tables input, tables)
  readCommits tables sessionId := (Sqlite.readCommits rules tables sessionId, tables)
  listSessionIds tables := (Sqlite.listSessionIds tables, tables)
  listRecoverableSessionIds tables := (Sqlite.listRecoverableSessionIds tables, tables)
  loadCachedProjection tables sessionId :=
    (Sqlite.loadCachedProjection tables sessionId, tables)

variable (rules : SessionRules Data View)

/-- A commit with its key. -/
def keyedCommit (commit : SessionCommitV3 Data) : (String × Int) × CommitRow Data :=
  ((commit.sessionId, commit.revision), commitRow commit)

/-- An entry with its key. -/
def keyedEntry (entry : SessionEntryV3 Data) : (String × Int) × EntryRow Data :=
  ((entry.sessionId, entry.sequence), entryRow entry)

def sessionRow (projection : SessionProjectionV3 Data View) : SessionRow Data View where
  revision := projection.snapshot.revision
  sequence := projection.snapshot.sequence
  projection := projection

structure SqliteHolds (tables : SqliteTables Data View) (log : CommitLog Data) : Prop where
  kept : ∀ id, Kept rules id (log id)
  commits : ∀ id, SqliteTables.rowsOf tables.commits id = (log id).map keyedCommit
  entries : ∀ id, SqliteTables.rowsOf tables.entries id =
    (flattenEntries (log id)).map keyedEntry
  sessions : ∀ id, tables.sessions.get? id = (projectionOf rules (log id)).map sessionRow

variable {rules}

section Rows

variable {ν : Type} {table next : Table (String × Int) ν} {sessionId : String}

theorem rowsOf_insert {key : String × Int} {value : ν}
    (inserted : table.insert key value = some next) (id : String) : SqliteTables.rowsOf next id =
      SqliteTables.rowsOf table id ++ if key.1 = id then [(key, value)] else [] := by
  obtain ⟨_, rows⟩ := table.insert_eq_some_iff.mp inserted
  rw [SqliteTables.rowsOf, SqliteTables.rowsOf, rows, List.filter_append]
  by_cases here : key.1 = id <;> simp [here]

theorem exists_insert {number : Int} (value : ν)
    (absent : ∀ row ∈ SqliteTables.rowsOf table sessionId, row.1.2 ≠ number) :
    ∃ next, table.insert (sessionId, number) value = some next := by
  have none : (sessionId, number) ∉ table.rows.map Prod.fst := by
    rw [List.mem_map]
    rintro ⟨row, member, same⟩
    have here : row ∈ SqliteTables.rowsOf table sessionId := by
      simp [SqliteTables.rowsOf, member, same]
    exact absent row here (by rw [same])
  exact ⟨_, dif_neg none⟩

theorem ordered_eq {rows : List ((String × Int) × ν)}
    (ascending : (rows.map (·.1.2)).Pairwise (· < ·)) : SqliteTables.ordered rows = rows := by
  refine List.mergeSort_of_pairwise ?_
  exact (List.pairwise_map.mp ascending).imp fun less => decide_eq_true (Int.le_of_lt less)

end Rows

section Sessions

variable {sessionId : String} {commits : List (SessionCommitV3 Data)}
  (kept : Kept rules sessionId commits)

include kept

theorem Kept.entryIds : ((flattenEntries commits).map (·.entryId)).Nodup := by
  by_cases empty : commits = []
  · subst empty
    exact List.nodup_nil
  · obtain ⟨projection, reduced⟩ := kept.reduced empty
    exact (reduceSessionEntriesV3_projected reduced).unique

theorem Kept.entry_valid {entry : SessionEntryV3 Data} (member : entry ∈ flattenEntries commits) :
    validateSessionEntryV3 rules entry = .ok entry ∧ entry.sessionId = sessionId := by
  obtain ⟨commit, owner, here⟩ := List.mem_flatMap.mp member
  have valid := kept.validCommit owner
  exact ⟨valid.entries entry here, (valid.session entry here).trans (kept.session commit owner)⟩

theorem Kept.head_of_row :
    ((projectionOf rules commits).map sessionRow).map
        (fun row => ({ revision := row.revision, sequence := row.sequence } : SessionJournalHeadV3)) =
      head (flattenEntries commits) := by
  by_cases empty : commits = []
  · subst empty
    rw [projectionOf_nil]
    rfl
  · obtain ⟨projection, reduced⟩ := kept.exists_projection empty
    obtain ⟨last, place, revision, sequence⟩ :=
      (reduceSessionEntriesV3_projected (projectionOf_eq_some.mp reduced)).head
    simp [reduced, sessionRow, head, place, revision, sequence]

end Sessions

/-! ## The statements of a commit -/

section Statements

variable {tables : SqliteTables Data View} {log : CommitLog Data} {sessionId : String}
  {commit : SessionCommitV3 Data}

/-- The lookup of one row answers as the scan over the commits. -/
theorem SqliteHolds.findDuplicate (holds : SqliteHolds rules tables log)
    (candidate : SessionCommitV3 Data) : Sqlite.findDuplicate rules tables candidate =
      Praxis.Session.findDuplicate candidate (log candidate.sessionId) := by
  rw [findDuplicate_eq, Sqlite.findDuplicate, holds.commits, List.find?_map, Function.comp_def]
  simp only [keyedCommit, commitRow, SessionCommitV3.shares]
  cases first : (log candidate.sessionId).find? fun existing =>
      existing.commitId == candidate.commitId || existing.idempotencyKey == candidate.idempotencyKey with
  | none => rfl
  | some existing =>
    have member := List.mem_of_find?_eq_some first
    have valid := (holds.kept candidate.sessionId).valid existing member
    simp only [Option.map_some, keyedCommit, commitRow, valid, orInvalidData_ok]
    by_cases repeated : candidate.repeats existing = true
    · rw [if_pos repeated]
      simp only [SessionCommitV3.repeats] at repeated
      simp [repeated, ok_bind, pure_ok]
    · rw [if_neg repeated]
      rw [Bool.not_eq_true] at repeated
      simp only [SessionCommitV3.repeats] at repeated
      simp [repeated, ensure, error_bind]

theorem SqliteHolds.loadAllEntries (holds : SqliteHolds rules tables log) (sessionId : String) :
    Sqlite.loadAllEntries rules tables sessionId = .ok (flattenEntries (log sessionId)) := by
  have kept := holds.kept sessionId
  have order : SqliteTables.ordered (SqliteTables.rowsOf tables.entries sessionId) =
      (flattenEntries (log sessionId)).map keyedEntry := by
    rw [holds.entries]
    refine ordered_eq ?_
    rw [List.map_map]
    change ((flattenEntries (log sessionId)).map (·.sequence)).Pairwise (· < ·)
    rw [kept.sequences]
    exact numbersTo_ascending _
  rw [Sqlite.loadAllEntries, order]
  refine mapM_eq_ok.mpr ?_
  rw [List.forall₂_map_left_iff]
  refine List.forall₂_same.mpr fun entry member => ?_
  simp [Sqlite.parseEntry, keyedEntry, entryRow, (kept.entry_valid member).1]

theorem SqliteHolds.insertCommit (holds : SqliteHolds rules tables log)
    (fresh : ∀ existing ∈ log commit.sessionId, commit.shares existing = false)
    (kept : Kept rules commit.sessionId (log commit.sessionId ++ [commit])) :
    ∃ commits, tables.insertCommit commit = .ok { tables with commits } ∧
      tables.commits.insert (commit.sessionId, commit.revision) (commitRow commit) =
        some commits := by
  have revisions := kept.revisions
  rw [List.map_append, List.map_singleton] at revisions
  have revision := numbersTo_next revisions
  rw [List.length_map] at revision
  have member : commit ∈ log commit.sessionId ++ [commit] := by simp
  have positive : 0 < commit.revision ∧ 0 < commit.firstSequence ∧
      commit.firstSequence ≤ commit.lastSequence := by
    have sequences := kept.sequences
    rw [flattenEntries_append, flattenEntries_singleton, List.map_append] at sequences
    obtain ⟨entry, rest, entries⟩ := List.exists_cons_of_ne_nil (kept.validCommit member).nonempty
    have first : commit.firstSequence = entry.sequence := by
      simp [CreateSessionCommitInputV3.firstSequence, entries]
    rw [entries, List.map_cons] at sequences
    have place := numbersTo_next sequences
    have last : entry.sequence ≤ commit.lastSequence := by
      rw [CreateSessionCommitInputV3.lastSequence, entries]
      rcases List.eq_nil_or_concat' rest with rfl | ⟨front, final, rfl⟩
      · simp
      · rw [← List.singleton_append, ← List.append_assoc] at sequences
        have later := numbersTo_after sequences
          (show final.sequence ∈ _ from by simp)
        rw [List.length_append, List.length_singleton] at later
        rw [← List.cons_append, List.getLast?_concat]
        simp only [Option.map_some, Option.getD_some]
        omega
    rw [first]
    omega
  have unique : (SqliteTables.rowsOf tables.commits commit.sessionId).any (fun row =>
      row.2.commitId == commit.commitId || row.2.idempotencyKey == commit.idempotencyKey) =
      false := by
    rw [holds.commits, List.any_map, List.any_eq_false]
    intro existing there
    have apart := fresh existing there
    rw [SessionCommitV3.shares] at apart
    simp [keyedCommit, commitRow, apart]
  have absent : ∀ row ∈ SqliteTables.rowsOf tables.commits commit.sessionId,
      row.1.2 ≠ commit.revision := by
    rw [holds.commits]
    intro row there same
    obtain ⟨existing, before, rfl⟩ := List.mem_map.mp there
    have listed : existing.revision ∈ (log commit.sessionId).map (·.revision) :=
      List.mem_map.mpr ⟨existing, before, rfl⟩
    rw [(holds.kept commit.sessionId).revisions] at listed
    have small := le_of_mem_numbersTo listed
    change existing.revision = commit.revision at same
    omega
  obtain ⟨commits, inserted⟩ := exists_insert (commitRow commit) absent
  refine ⟨commits, ?_, inserted⟩
  simp [SqliteTables.insertCommit, positive, unique, inserted, orError, ok_bind, pure_ok]

theorem insertEntry_ok {entry : SessionEntryV3 Data} {before : List (SessionEntryV3 Data)}
    (rows : SqliteTables.rowsOf tables.entries entry.sessionId = before.map keyedEntry)
    (revision : 0 < entry.revision)
    (recorded : tables.commits.contains (entry.sessionId, entry.revision) = true)
    (sequence : entry.sequence = before.length + 1)
    (numbers : before.map (·.sequence) = numbersTo before.length)
    (fresh : entry.entryId ∉ before.map (·.entryId)) :
    ∃ entries, tables.insertEntry entry = .ok { tables with entries } ∧
      tables.entries.insert (entry.sessionId, entry.sequence) (entryRow entry) = some entries := by
  have unique : (SqliteTables.rowsOf tables.entries entry.sessionId).any (fun row =>
      row.2.entryId == entry.entryId) = false := by
    rw [rows, List.any_map, List.any_eq_false]
    intro other there
    have apart : other.entryId ≠ entry.entryId :=
      fun same => fresh (List.mem_map.mpr ⟨other, there, same⟩)
    simpa [keyedEntry, entryRow] using apart
  have absent : ∀ row ∈ SqliteTables.rowsOf tables.entries entry.sessionId,
      row.1.2 ≠ entry.sequence := by
    rw [rows]
    intro row there same
    obtain ⟨other, earlier, rfl⟩ := List.mem_map.mp there
    have listed : other.sequence ∈ before.map (·.sequence) := List.mem_map.mpr ⟨other, earlier, rfl⟩
    rw [numbers] at listed
    have small := le_of_mem_numbersTo listed
    change other.sequence = entry.sequence at same
    omega
  obtain ⟨entries, inserted⟩ := exists_insert (entryRow entry) absent
  refine ⟨entries, ?_, inserted⟩
  have positive : 0 < entry.sequence ∧ 0 < entry.revision := by omega
  simp [SqliteTables.insertEntry, positive, unique, recorded, inserted, orError, ok_bind, pure_ok]

theorem insertEntries_ok {revision : Int} (positive : 0 < revision)
    (rest before : List (SessionEntryV3 Data))
    (owned : ∀ entry ∈ rest, entry.sessionId = sessionId ∧ entry.revision = revision)
    (rows : SqliteTables.rowsOf tables.entries sessionId = before.map keyedEntry)
    (recorded : tables.commits.contains (sessionId, revision) = true)
    (numbers : (before ++ rest).map (·.sequence) = numbersTo (before ++ rest).length)
    (unique : ((before ++ rest).map (·.entryId)).Nodup) :
    ∃ entries, rest.foldlM SqliteTables.insertEntry tables = .ok { tables with entries } ∧
      ∀ id, SqliteTables.rowsOf entries id =
        if id = sessionId then (before ++ rest).map keyedEntry
        else SqliteTables.rowsOf tables.entries id := by
  induction rest generalizing tables before with
  | nil =>
    refine ⟨tables.entries, rfl, fun id => ?_⟩
    by_cases same : id = sessionId
    · rw [if_pos same, same, rows, List.append_nil]
    · rw [if_neg same]
  | cons entry rest ih =>
    obtain ⟨session, number⟩ := owned entry List.mem_cons_self
    have sequence : entry.sequence = before.length + 1 := by
      rw [List.map_append, List.map_cons] at numbers
      simpa using numbersTo_next numbers
    have earlier : before.map (·.sequence) = numbersTo before.length := by
      rw [List.map_append] at numbers
      simpa using numbersTo_prefix numbers
    have fresh : entry.entryId ∉ before.map (·.entryId) := by
      rw [List.map_append, List.map_cons] at unique
      exact fun there => (List.nodup_append.mp unique).2.2 _ there _ List.mem_cons_self rfl
    obtain ⟨entries, inserted, written⟩ := insertEntry_ok (by rw [session]; exact rows)
      (by rw [number]; exact positive) (by rw [session, number]; exact recorded) sequence earlier
      fresh
    have after : SqliteTables.rowsOf entries sessionId = (before ++ [entry]).map keyedEntry := by
      rw [rowsOf_insert written, if_pos session, rows, List.map_append]
      rfl
    obtain ⟨filled, folded, final⟩ := @ih { tables with entries } (before ++ [entry])
      (fun other member => owned other (List.mem_cons_of_mem _ member)) after recorded
      (by simpa using numbers) (by simpa using unique)
    refine ⟨filled, ?_, fun id => ?_⟩
    · rw [List.foldlM_cons, inserted, ok_bind]
      exact folded
    · rw [final id]
      by_cases same : id = sessionId
      · simp [same]
      · have other : ¬ entry.sessionId = id := fun equal => same (equal.symm.trans session)
        rw [if_neg same, if_neg same, rowsOf_insert written, if_neg other, List.append_nil]

theorem SqliteHolds.write (holds : SqliteHolds rules tables log)
    (fresh : ∀ existing ∈ log commit.sessionId, commit.shares existing = false)
    (kept : Kept rules commit.sessionId (log commit.sessionId ++ [commit]))
    {projection : SessionProjectionV3 Data View}
    (reduced : projectionOf rules (log commit.sessionId ++ [commit]) = some projection) :
    ∃ recorded filled updated, tables.insertCommit commit = .ok recorded ∧
      commit.entries.foldlM SqliteTables.insertEntry recorded = .ok filled ∧
      filled.upsertSession commit.sessionId projection = .ok updated ∧
      SqliteHolds rules updated
        (Function.update log commit.sessionId (log commit.sessionId ++ [commit])) := by
  have member : commit ∈ log commit.sessionId ++ [commit] := by simp
  have valid := kept.validCommit member
  have heads := kept.head_of_row
  rw [reduced, kept.head_eq (by simp), Option.map_some, Option.map_some, Option.some.injEq,
    SessionJournalHeadV3.mk.injEq] at heads
  obtain ⟨commits, inserted, written⟩ := holds.insertCommit fresh kept
  have revision : commit.revision = (log commit.sessionId).length + 1 := by
    have revisions := kept.revisions
    rw [List.map_append, List.map_singleton] at revisions
    simpa using numbersTo_next revisions
  have recorded : commits.contains (commit.sessionId, commit.revision) = true := by
    rw [Table.contains, Table.get?_of_insert written, if_pos rfl]
    rfl
  have sequences := kept.sequences
  have ids := kept.entryIds
  rw [flattenEntries_append, flattenEntries_singleton] at sequences ids
  obtain ⟨entries, filled, rows⟩ := @insertEntries_ok _ _ { tables with commits } commit.sessionId
    commit.revision (by omega) commit.entries (flattenEntries (log commit.sessionId))
    (fun entry there => ⟨valid.session entry there, valid.revision entry there⟩)
    (holds.entries commit.sessionId) recorded sequences ids
  have positive : 0 < projection.snapshot.revision ∧ 0 < projection.snapshot.sequence := by
    have some_entry : flattenEntries (log commit.sessionId ++ [commit]) ≠ [] :=
      kept.flattenEntries_ne_nil (by simp)
    have count := List.length_pos_of_ne_nil some_entry
    obtain ⟨first, second⟩ := heads
    simp only [sessionRow] at first second
    rw [first, second, List.length_append, List.length_singleton]
    omega
  let sessions := tables.sessions.upsert commit.sessionId (sessionRow projection)
  refine ⟨{ tables with commits }, { tables with commits, entries }, { sessions, commits, entries },
    inserted, filled, ?_, ?_⟩
  · simp only [SqliteTables.upsertSession, positive, and_self, decide_true, ensure_true, ok_bind]
    rfl
  · constructor
    case kept =>
      intro id
      by_cases same : id = commit.sessionId
      · subst same
        rwa [Function.update_self]
      · rw [Function.update_of_ne same]
        exact holds.kept id
    case commits =>
      intro id
      change SqliteTables.rowsOf commits id = _
      rw [rowsOf_insert written, holds.commits]
      by_cases same : id = commit.sessionId
      · subst same
        rw [if_pos rfl, Function.update_self, List.map_append]
        rfl
      · rw [if_neg (Ne.symm same), Function.update_of_ne same, List.append_nil]
    case entries =>
      intro id
      change SqliteTables.rowsOf entries id = _
      rw [rows id]
      by_cases same : id = commit.sessionId
      · subst same
        rw [if_pos rfl, Function.update_self, flattenEntries_append, flattenEntries_singleton]
      · rw [if_neg same, Function.update_of_ne same]
        exact holds.entries id
    case sessions =>
      intro id
      change (tables.sessions.upsert commit.sessionId (sessionRow projection)).get? id = _
      rw [Table.get?_upsert]
      by_cases same : id = commit.sessionId
      · subst same
        rw [if_pos rfl, Function.update_self, reduced, Option.map_some]
      · rw [if_neg same, Function.update_of_ne same]
        exact holds.sessions id

end Statements

/-! ## The operations -/

section Operations

variable {tables : SqliteTables Data View} {log : CommitLog Data} {commit : SessionCommitV3 Data}
  {error : SessionError}

theorem SqliteHolds.appendExclusive_refused (holds : SqliteHolds rules tables log)
    (refused : appendToLog rules (log commit.sessionId) commit = .error error) :
    Sqlite.appendExclusive rules tables commit = .error error := by
  have row := (holds.kept commit.sessionId).head_of_row
  rw [← holds.sessions] at row
  rcases appendToLog_refused refused with found | ⟨found, follows | ⟨follows, reduced⟩⟩
  · simp [Sqlite.appendExclusive, holds.findDuplicate, found, error_bind]
  · simp [Sqlite.appendExclusive, holds.findDuplicate, found, ok_bind, row, follows, error_bind]
  · simp [Sqlite.appendExclusive, holds.findDuplicate, found, ok_bind, row, follows,
      holds.loadAllEntries, reduced, error_bind]

theorem SqliteHolds.appendExclusive_accepted (holds : SqliteHolds rules tables log)
    (valid : validateSessionCommitV3 rules commit = .ok commit) {receipt : SessionCommitReceiptV3}
    {next : List (SessionCommitV3 Data)}
    (appended : appendToLog rules (log commit.sessionId) commit = .ok (receipt, next)) :
    ∃ updated, Sqlite.appendExclusive rules tables commit = .ok (receipt, updated) ∧
      SqliteHolds rules updated (Function.update log commit.sessionId next) := by
  have kept := (holds.kept commit.sessionId).appendToLog valid rfl appended
  rcases appendToLog_ok appended with
    ⟨existing, member, repeated, rfl, rfl⟩ | ⟨fresh, follows, ⟨projection, reduced⟩, rfl, rfl⟩
  · have found := (holds.kept commit.sessionId).distinct.findDuplicate_repeats member repeated
    rw [Function.update_eq_self]
    refine ⟨tables, ?_, holds⟩
    simp [Sqlite.appendExclusive, holds.findDuplicate, found, ok_bind, pure_ok]
  · have row := (holds.kept commit.sessionId).head_of_row
    rw [← holds.sessions] at row
    have longer : projectionOf rules (log commit.sessionId ++ [commit]) = some projection := by
      rw [projectionOf_eq_some, flattenEntries_append, flattenEntries_singleton]
      exact reduced
    obtain ⟨recorded, filled, updated, inserted, folded, upserted, after⟩ :=
      holds.write fresh kept longer
    refine ⟨updated, ?_, after⟩
    simp [Sqlite.appendExclusive, holds.findDuplicate, findDuplicate_fresh fresh, ok_bind, row,
      follows, holds.loadAllEntries, reduced, inserted, folded, upserted, pure_ok]

/-- **Every call of `appendCommit` answers as the commit log does.** -/
theorem SqliteHolds.appendCommit (holds : SqliteHolds rules tables log)
    (input : SessionCommitV3 Data) :
    (Sqlite.appendCommit rules tables input).1 = (log.appendCommit rules .all input).1 ∧
      SqliteHolds rules (Sqlite.appendCommit rules tables input).2
        (log.appendCommit rules .all input).2 := by
  cases valid : validateSessionCommitV3 rules input with
  | error error =>
    simp only [Sqlite.appendCommit, CommitLog.appendCommit, valid]
    exact ⟨trivial, holds⟩
  | ok commit =>
    obtain rfl := (validateSessionCommitV3_ok valid).1
    cases appended : appendToLog rules (log commit.sessionId) commit with
    | error error =>
      have refused := holds.appendExclusive_refused appended
      simp only [Sqlite.appendCommit, CommitLog.appendCommit, valid, refused, appended,
        Naming.all, Bool.not_true, Bool.false_eq_true, if_false]
      exact ⟨trivial, holds⟩
    | ok outcome =>
      obtain ⟨receipt, next⟩ := outcome
      obtain ⟨updated, accepted, after⟩ := holds.appendExclusive_accepted valid appended
      simp only [Sqlite.appendCommit, CommitLog.appendCommit, valid, accepted, appended,
        Naming.all, Bool.not_true, Bool.false_eq_true, if_false]
      exact ⟨trivial, after⟩

theorem Sqlite.appendCommit_rejects {input : SessionCommitV3 Data}
    (rejected : (Sqlite.appendCommit rules tables input).1 = .error error) :
    (Sqlite.appendCommit rules tables input).2 = tables := by
  unfold Sqlite.appendCommit at rejected ⊢
  cases valid : validateSessionCommitV3 rules input with
  | error other => rfl
  | ok commit =>
    simp only [valid] at rejected ⊢
    cases taken : Sqlite.appendExclusive rules tables commit with
    | error other => rfl
    | ok outcome =>
      rw [taken] at rejected
      cases rejected

/-! ### Reading -/

theorem SqliteHolds.readEntries (holds : SqliteHolds rules tables log)
    (input : ReadSessionEntriesInputV3) :
    Sqlite.readEntries rules tables input = log.readEntries input := by
  have kept := holds.kept input.sessionId
  have row := kept.head_of_row
  rw [← holds.sessions] at row
  cases checked : validateReadInput input with
  | error error => simp [Sqlite.readEntries, CommitLog.readEntries, checked, error_bind]
  | ok =>
    cases stored : tables.sessions.get? input.sessionId with
    | none =>
      rw [stored, Option.map_none] at row
      simp [Sqlite.readEntries, CommitLog.readEntries, checked, ok_bind, stored, ← row, orError,
        error_bind]
    | some found =>
      rw [stored, Option.map_some] at row
      by_cases inside : input.throughSequence.getD found.sequence ≤ found.sequence
      · let keep := fun number : Int => decide (input.afterSequence.getD 0 < number ∧
          number ≤ input.throughSequence.getD found.sequence)
        let entries := (flattenEntries (log input.sessionId)).filter fun entry =>
          keep entry.sequence
        have rows : SqliteTables.ordered
            ((SqliteTables.rowsOf tables.entries input.sessionId).filter
              fun row => keep row.1.2) = entries.map keyedEntry := by
          rw [holds.entries, List.filter_map]
          change SqliteTables.ordered (entries.map keyedEntry) = _
          refine ordered_eq ?_
          rw [List.map_map]
          change (entries.map (·.sequence)).Pairwise (· < ·)
          have ascending : ((flattenEntries (log input.sessionId)).map (·.sequence)).Pairwise
              (· < ·) := by
            rw [kept.sequences]
            exact numbersTo_ascending _
          exact ascending.sublist (List.filter_sublist.map _)
        have parse : ∀ limit, ((entries.map keyedEntry).take limit).mapM
            (fun row => Sqlite.parseEntry rules row.2.entry) = .ok (entries.take limit) := by
          intro limit
          rw [← List.map_take]
          refine mapM_eq_ok.mpr ?_
          rw [List.forall₂_map_left_iff]
          refine List.forall₂_same.mpr fun entry member => ?_
          have there := List.mem_of_mem_filter (List.mem_of_mem_take member)
          simp [Sqlite.parseEntry, keyedEntry, entryRow, (kept.entry_valid there).1]
        simp only [Sqlite.readEntries, CommitLog.readEntries, checked, ok_bind, stored, ← row,
          orError, inside, decide_true, ensure_true]
        rw [rows, parse]
        rfl
      · simp [Sqlite.readEntries, CommitLog.readEntries, checked, ok_bind, stored, ← row,
          orError, inside, ensure, error_bind]

theorem SqliteHolds.readCommits (holds : SqliteHolds rules tables log) (sessionId : String) :
    Sqlite.readCommits rules tables sessionId = log.readCommits .all sessionId := by
  have kept := holds.kept sessionId
  have rows : SqliteTables.ordered (SqliteTables.rowsOf tables.commits sessionId) =
      (log sessionId).map keyedCommit := by
    rw [holds.commits]
    refine ordered_eq ?_
    rw [List.map_map]
    change ((log sessionId).map (·.revision)).Pairwise (· < ·)
    rw [kept.revisions]
    exact numbersTo_ascending _
  have parse : ((log sessionId).map keyedCommit).mapM
      (fun row => orInvalidData (validateSessionCommitV3 rules row.2.commit)) =
      .ok (log sessionId) := by
    refine mapM_eq_ok.mpr ?_
    rw [List.forall₂_map_left_iff]
    refine List.forall₂_same.mpr fun commit member => ?_
    simp [keyedCommit, commitRow, kept.valid commit member]
  simp only [Sqlite.readCommits, CommitLog.readCommits, Naming.all, ensure_true, ok_bind]
  rw [rows, parse, List.isEmpty_map]
  rfl

theorem SqliteHolds.loadCachedProjection (holds : SqliteHolds rules tables log)
    (sessionId : String) : Sqlite.loadCachedProjection tables sessionId =
      log.loadCachedProjection rules .all sessionId := by
  cases reduced : projectionOf rules (log sessionId) with
  | none =>
    simp [Sqlite.loadCachedProjection, CommitLog.loadCachedProjection, Naming.all,
      holds.sessions, reduced, orError, ok_bind, error_bind]
  | some projection =>
    have session := (holds.kept sessionId).projection_session reduced
    simp [Sqlite.loadCachedProjection, CommitLog.loadCachedProjection, Naming.all,
      holds.sessions, reduced, orError, ok_bind, Sqlite.parseProjection, sessionRow, session,
      pure_ok]

/-! ### The lists -/

theorem orderedSessions_perm : (Sqlite.orderedSessions tables).Perm tables.sessions.rows :=
  List.mergeSort_perm _ _

theorem orderedSessions_sorted :
    ((Sqlite.orderedSessions tables).map (·.1)).Pairwise (· ≤ ·) := by
  have trans : ∀ a b c : String × SessionRow Data View, decide (a.1 ≤ b.1) = true →
      decide (b.1 ≤ c.1) = true → decide (a.1 ≤ c.1) = true :=
    fun _ _ _ first second => decide_eq_true
      (String.le_trans (of_decide_eq_true first) (of_decide_eq_true second))
  have total : ∀ a b : String × SessionRow Data View,
      (decide (a.1 ≤ b.1) || decide (b.1 ≤ a.1)) = true :=
    fun a b => by simpa using String.le_total a.1 b.1
  rw [List.pairwise_map]
  exact (List.pairwise_mergeSort trans total tables.sessions.rows).imp
    fun less => of_decide_eq_true less

variable (holds : SqliteHolds rules tables log)
include holds

theorem SqliteHolds.row
    {row : String × SessionRow Data View} (member : row ∈ tables.sessions.rows) :
    projectionOf rules (log row.1) = some row.2.projection := by
  have stored := tables.sessions.mem_rows_iff.mp member
  rw [holds.sessions, Option.map_eq_some_iff] at stored
  obtain ⟨projection, reduced, same⟩ := stored
  rw [reduced, ← same]
  rfl

theorem SqliteHolds.present (id : String) :
    id ∈ tables.sessions.rows.map Prod.fst ↔ log.Present id := by
  rw [← not_iff_not, ← Table.get?_eq_none_iff, holds.sessions, Option.map_eq_none_iff,
    CommitLog.Present, not_not]
  constructor
  · intro none
    by_contra nonempty
    obtain ⟨projection, reduced⟩ := (holds.kept id).exists_projection nonempty
    rw [none] at reduced
    cases reduced
  · intro empty
    rw [empty]
    exact projectionOf_nil

theorem SqliteHolds.listSessionIds :
    ∃ ids, Sqlite.listSessionIds tables = .ok ids ∧ Lists log.Present ids :=
  ⟨_, rfl, .of_sorted (orderedSessions_perm.map _) orderedSessions_sorted tables.sessions.unique
    holds.present⟩

theorem SqliteHolds.listRecoverableSessionIds :
    ∃ ids, Sqlite.listRecoverableSessionIds tables = .ok ids ∧
      Lists (log.Recoverable rules) ids := by
  let rows := Sqlite.orderedSessions tables
  have stored : ∀ row ∈ rows, row ∈ tables.sessions.rows :=
    fun row member => orderedSessions_perm.mem_iff.mp member
  have parse : rows.mapM (fun row => do
      let projection ← Sqlite.parseProjection row.1 row.2.projection
      return (row.1, projection)) =
      .ok (rows.map fun row => (row.1, row.2.projection)) := by
    refine mapM_eq_ok.mpr ?_
    rw [List.forall₂_map_right_iff]
    refine List.forall₂_same.mpr fun row member => ?_
    have session := (holds.kept row.1).projection_session (holds.row (stored row member))
    simp [Sqlite.parseProjection, session, ok_bind, pure_ok]
  have nodup : (rows.map (·.1)).Nodup :=
    (orderedSessions_perm.map _).nodup_iff.mpr tables.sessions.unique
  let found := (rows.map fun row => (row.1, row.2.projection)).filter fun row =>
    projectionHasRecoverableRun row.2
  have part : (found.map (·.1)).Sublist (rows.map (·.1)) := by
    have whole : (rows.map fun row => (row.1, row.2.projection)).map (·.1) = rows.map (·.1) := by
      rw [List.map_map]
      rfl
    rw [← whole]
    exact List.filter_sublist.map _
  refine ⟨found.map (·.1), ?_, ?_⟩
  · rw [Sqlite.listRecoverableSessionIds, parse, ok_bind]
    rfl
  · refine .of_sorted (List.Perm.refl _) (orderedSessions_sorted.sublist part) (nodup.sublist part)
      fun id => ?_
    simp only [found, List.mem_map, List.mem_filter]
    constructor
    · rintro ⟨_, ⟨⟨row, member, rfl⟩, running⟩, rfl⟩
      exact ⟨row.2.projection, holds.row (stored row member), running⟩
    · rintro ⟨projection, reduced, running⟩
      have get : tables.sessions.get? id = some (sessionRow projection) := by
        rw [holds.sessions, reduced, Option.map_some]
      have member : (id, sessionRow projection) ∈ rows :=
        orderedSessions_perm.mem_iff.mpr (tables.sessions.mem_rows_iff.mpr get)
      exact ⟨(id, projection), ⟨⟨_, member, rfl⟩, running⟩, rfl⟩

end Operations

theorem SqliteHolds.empty : SqliteHolds rules ({} : SqliteTables Data View) (fun _ => []) where
  kept _ := .nil
  commits _ := rfl
  entries _ := rfl
  sessions _ := by rw [projectionOf_nil]; rfl

/-- **The SQLite journal implements the commit log.** -/
theorem sqlite_implements : Implements rules .all (sqliteSessionJournalV3 rules)
    (SqliteHolds rules) where
  kept holds := holds.kept
  appendCommit holds input := holds.appendCommit input
  rejects _ _ _ rejected := Sqlite.appendCommit_rejects rejected
  readEntries holds input := Prod.ext (holds.readEntries input) rfl
  readCommits holds id := Prod.ext (holds.readCommits id) rfl
  listSessionIds holds := by
    obtain ⟨ids, listed, lists⟩ := holds.listSessionIds
    exact ⟨ids, Prod.ext listed rfl, lists⟩
  listRecoverableSessionIds holds := by
    obtain ⟨ids, listed, lists⟩ := holds.listRecoverableSessionIds
    exact ⟨ids, Prod.ext listed rfl, lists⟩
  loadCachedProjection holds id := Prod.ext (holds.loadCachedProjection id) rfl

end Praxis.Session
