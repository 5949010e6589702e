import Praxis.Session.JsonlStore
import Praxis.Session.SqliteStore

/-!
# The laws of the commit log, observed through a store

A run hands commits to a store one after the other, in whatever order its clients do. What the
store accepted, with the receipts it gave, is recorded next to its state (`Submissions`);
`CommitLaws` says what must hold of that record and of the answer to every call of the run.

The laws are proved once for every store that implements the commit log. They hold for a run
exactly if none of its calls opens a session that the store does not admit
(`Implements.commitLaws`). The SQLite journal admits every session, so it always satisfies
them; the JSONL journal does not admit a session whose id is too long for the name of its lock.
-/

namespace Praxis.Session

set_option autoImplicit false

open Praxis.Foundations
open Praxis.Workflow (safeId safeIdChars safeIdChar)

variable {Data View σ : Type}

/-- The state of a store, and the commits that it accepted so far with their receipts. -/
structure Submissions (Data σ : Type) where
  state : σ
  accepted : List (SessionCommitV3 Data × SessionCommitReceiptV3) := []

namespace Submissions

/-- The accepted commits of a session, in the order of their acceptance. -/
def commitsOf (run : Submissions Data σ) (sessionId : String) : List (SessionCommitV3 Data) :=
  (run.accepted.map (·.1)).filter fun commit => commit.sessionId == sessionId

/-- One call: an answer that is no rejection and not marked as a duplicate is an acceptance. -/
def submit (store : SessionStore Data View σ) (run : Submissions Data σ)
    (input : SessionCommitV3 Data) : Submissions Data σ :=
  match store.appendCommit run.state input with
  | (.error _, state) => { run with state }
  | (.ok receipt, state) =>
    { state
      accepted := if receipt.duplicate then run.accepted else run.accepted ++ [(input, receipt)] }

/-- The calls of a run, from a state at which nothing is accepted. -/
def submitAll (store : SessionStore Data View σ) (start : σ)
    (inputs : List (SessionCommitV3 Data)) : Submissions Data σ :=
  inputs.foldl (submit store) { state := start }

end Submissions

open Submissions (submit submitAll)

/-! ## The laws -/

/-- The commit is valid, continues the head of the commits, and the reducer accepts it after
them. -/
structure Acceptable (rules : SessionRules Data View) (commits : List (SessionCommitV3 Data))
    (commit : SessionCommitV3 Data) : Prop where
  valid : validateSessionCommitV3 rules commit = .ok commit
  revision : commit.expectedRevision = commits.length
  sequence : commit.firstSequence = (flattenEntries commits).length + 1
  reduces : ∃ projection, reduceSessionEntriesV3 rules
    (flattenEntries commits ++ commit.entries) = .ok projection

/-- The commits of every session are read in both states alike. -/
def SessionStore.SameCommits (store : SessionStore Data View σ) (before after : σ) : Prop :=
  ∀ sessionId, (store.readCommits after sessionId).1 = (store.readCommits before sessionId).1

/-- What a store must make of one more commit. -/
structure CallLaws (rules : SessionRules Data View) (store : SessionStore Data View σ)
    (run : Submissions Data σ) (input : SessionCommitV3 Data) : Prop where
  /-- An accepted commit that is handed in again gets the receipt of its acceptance. -/
  resubmitted : ∀ receipt, (input, receipt) ∈ run.accepted →
    ∃ state, store.appendCommit run.state input = (.ok { receipt with duplicate := true }, state) ∧
      store.SameCommits run.state state
  /-- So does a valid commit with the ids and the checksum of an accepted one. -/
  repeated : ∀ existing receipt, (existing, receipt) ∈ run.accepted →
    existing.sessionId = input.sessionId → validateSessionCommitV3 rules input = .ok input →
    input.repeats existing = true →
    ∃ state, store.appendCommit run.state input = (.ok { receipt with duplicate := true }, state) ∧
      store.SameCommits run.state state
  /-- A commit that shares an id or a key with an accepted one and differs otherwise is
  rejected. -/
  conflict : ∀ existing ∈ run.commitsOf input.sessionId, input.shares existing = true →
    input.repeats existing = false →
    ∃ error, (store.appendCommit run.state input).1 = .error error
  /-- Every other commit is accepted exactly if it is acceptable. -/
  fresh : (∀ existing ∈ run.commitsOf input.sessionId, input.shares existing = false) →
    AcceptsIff (store.appendCommit run.state input).1
      (Acceptable rules (run.commitsOf input.sessionId) input) (sessionCommitReceiptV3 input false)
  rejected : ∀ error, (store.appendCommit run.state input).1 = .error error →
    (store.appendCommit run.state input).2 = run.state

/-- What must hold of a run and of each of its calls. -/
structure CommitLaws (rules : SessionRules Data View) (store : SessionStore Data View σ)
    (start : σ) (inputs : List (SessionCommitV3 Data)) : Prop where
  revisions : ∀ id, ((submitAll store start inputs).commitsOf id).map (·.revision) =
    numbersTo ((submitAll store start inputs).commitsOf id).length
  sequences : ∀ id,
    (flattenEntries ((submitAll store start inputs).commitsOf id)).map (·.sequence) =
      numbersTo (flattenEntries ((submitAll store start inputs).commitsOf id)).length
  once : ((submitAll store start inputs).accepted.map (·.1)).Nodup
  stored : ∀ id, (submitAll store start inputs).commitsOf id ≠ [] →
    (store.readCommits (submitAll store start inputs).state id).1 =
      .ok ((submitAll store start inputs).commitsOf id)
  calls : ∀ front input back, inputs = front ++ input :: back →
    CallLaws rules store (submitAll store start front) input

/-- The commit opens a session that a store with these names does not admit. -/
structure OpensUnadmitted (rules : SessionRules Data View) (naming : Naming)
    (input : SessionCommitV3 Data) : Prop where
  valid : validateSessionCommitV3 rules input = .ok input
  unadmitted : naming.admits input.sessionId = false
  reduces : ∃ projection, reduceSessionEntriesV3 rules input.entries = .ok projection

/-! ## What a run leaves in the log -/

structure Tracks (naming : Naming) (Holds : σ → CommitLog Data → Prop)
    (run : Submissions Data σ) (log : CommitLog Data) : Prop where
  holds : Holds run.state log
  accepted : ∀ id, run.commitsOf id = log id
  receipts : ∀ {commit receipt}, (commit, receipt) ∈ run.accepted →
    receipt = sessionCommitReceiptV3 commit false
  admitted : ∀ {commit receipt}, (commit, receipt) ∈ run.accepted →
    naming.admits commit.sessionId = true
  once : (run.accepted.map (·.1)).Nodup

section Laws

variable {rules : SessionRules Data View} {naming : Naming} {store : SessionStore Data View σ}
  {Holds : σ → CommitLog Data → Prop} {run : Submissions Data σ} {log : CommitLog Data}
  {input : SessionCommitV3 Data}

theorem CommitLog.appendCommit_valid (valid : validateSessionCommitV3 rules input = .ok input)
    (admits : naming.admits input.sessionId = true) :
    log.appendCommit rules naming input =
      match appendToLog rules (log input.sessionId) input with
      | .error error => (.error error, log)
      | .ok (receipt, commits) =>
        (.ok receipt, Function.update log input.sessionId commits) := by
  cases result : appendToLog rules (log input.sessionId) input <;>
    simp [CommitLog.appendCommit, valid, admits, result]

variable {existing : SessionCommitV3 Data} {receipt : SessionCommitReceiptV3} {sessionId : String}

theorem CommitLog.appendCommit_repeats (kept : Kept rules input.sessionId (log input.sessionId))
    (member : existing ∈ log input.sessionId)
    (valid : validateSessionCommitV3 rules input = .ok input)
    (repeated : input.repeats existing = true) (admits : naming.admits input.sessionId = true) :
    log.appendCommit rules naming input = (.ok (sessionCommitReceiptV3 existing true), log) := by
  have found : appendToLog rules (log input.sessionId) input =
      .ok (sessionCommitReceiptV3 existing true, log input.sessionId) := by
    simp only [appendToLog, kept.distinct.findDuplicate_repeats member repeated, ok_bind]
    rfl
  rw [CommitLog.appendCommit_valid valid admits, found]
  dsimp only
  rw [Function.update_eq_self]

theorem CommitLog.appendCommit_ok
    (accepted : (log.appendCommit rules naming input).1 = .ok receipt) :
    validateSessionCommitV3 rules input = .ok input ∧ naming.admits input.sessionId = true ∧
      ∃ commits, appendToLog rules (log input.sessionId) input = .ok (receipt, commits) ∧
        (log.appendCommit rules naming input).2 =
          Function.update log input.sessionId commits := by
  unfold CommitLog.appendCommit at accepted ⊢
  cases validated : validateSessionCommitV3 rules input with
  | error error => simp [validated] at accepted
  | ok commit =>
    obtain ⟨rfl, _⟩ := validateSessionCommitV3_ok validated
    cases admits : naming.admits commit.sessionId with
    | false => simp [validated, admits] at accepted
    | true =>
      cases appended : appendToLog rules (log commit.sessionId) commit with
      | error error => simp [validated, admits, appended] at accepted
      | ok result =>
        obtain ⟨answer, commits⟩ := result
        simp only [validated, admits, appended, Bool.not_true, Bool.false_eq_true,
          if_false, Except.ok.injEq] at accepted
        subst accepted
        exact ⟨rfl, rfl, commits, rfl, by simp [admits, appended]⟩

theorem CommitLog.appendCommit_error {error : SessionError}
    (rejected : (log.appendCommit rules naming input).1 = .error error) :
    (log.appendCommit rules naming input).2 = log := by
  unfold CommitLog.appendCommit at rejected ⊢
  split at rejected
  · rfl
  · split at rejected
    · simp [*]
    · split at rejected
      · simp [*]
      · cases rejected

theorem Submissions.mem_commitsOf {commit : SessionCommitV3 Data} :
    commit ∈ run.commitsOf sessionId ↔
      (∃ receipt, (commit, receipt) ∈ run.accepted) ∧ commit.sessionId = sessionId := by
  simp [Submissions.commitsOf]

theorem Tracks.unadmitted (tracks : Tracks naming Holds run log)
    (unadmitted : naming.admits sessionId = false) : log sessionId = [] := by
  rw [← tracks.accepted]
  refine List.eq_nil_iff_forall_not_mem.mpr fun commit member => ?_
  obtain ⟨⟨receipt, accepted⟩, rfl⟩ := Submissions.mem_commitsOf.mp member
  rw [tracks.admitted accepted] at unadmitted
  cases unadmitted

theorem opening_numbers {projection : SessionProjectionV3 Data View}
    (valid : ValidCommit rules input)
    (reduced : reduceSessionEntriesV3 rules input.entries = .ok projection) :
    input.expectedRevision = 0 ∧ input.firstSequence = 1 := by
  obtain ⟨first, rest, entries⟩ := List.exists_cons_of_ne_nil valid.nonempty
  obtain ⟨_, current, loop, _⟩ := reduceSessionEntriesV3_ok.mp reduced
  rw [entries] at loop
  simp only [reduceEntries, bind_eq_ok, orError_eq_ok] at loop
  obtain ⟨created, creates, _⟩ := loop
  obtain ⟨_, sequence, revision⟩ := createdData?_eq_some.mp creates
  have number := valid.revision first (by simp [entries])
  rw [revision, CreateSessionCommitInputV3.revision] at number
  refine ⟨by omega, ?_⟩
  simp [CreateSessionCommitInputV3.firstSequence, entries, sequence]

variable (implements : Implements rules naming store Holds)

include implements

theorem Tracks.submit (tracks : Tracks naming Holds run log) (input : SessionCommitV3 Data) :
    ∃ next, Tracks naming Holds (submit store run input) next := by
  obtain ⟨same, holds⟩ := implements.appendCommit tracks.holds input
  refine ⟨(log.appendCommit rules naming input).2, ?_⟩
  unfold Submissions.submit
  rcases answer : store.appendCommit run.state input with ⟨result, state⟩
  rw [answer] at same holds
  dsimp only at same holds
  cases result with
  | error error =>
    rw [CommitLog.appendCommit_error same.symm] at holds ⊢
    exact { tracks with holds }
  | ok receipt =>
    obtain ⟨valid, admits, commits, appended, after⟩ := CommitLog.appendCommit_ok same.symm
    rw [after] at holds ⊢
    rcases appendToLog_ok appended with ⟨existing, _, _, rfl, rfl⟩ | ⟨fresh, _, _, rfl, rfl⟩
    · -- A duplicate: neither the log nor the record changes.
      rw [Function.update_eq_self] at holds ⊢
      exact { tracks with holds }
    · -- A new commit comes last in both.
      have unseen : input ∉ run.accepted.map (·.1) := by
        intro member
        obtain ⟨⟨_, receipt⟩, accepted, rfl⟩ := List.mem_map.mp member
        have listed := Submissions.mem_commitsOf.mpr ⟨⟨receipt, accepted⟩, rfl⟩
        rw [tracks.accepted] at listed
        have apart := fresh _ listed
        rw [← Bool.not_eq_true, shares_iff] at apart
        exact apart (.inl rfl)
      constructor
      case holds => exact holds
      case accepted =>
        intro id
        have before := tracks.accepted id
        unfold Submissions.commitsOf at before ⊢
        by_cases here : input.sessionId = id
        · subst here
          simp [sessionCommitReceiptV3, before, Function.update_self]
        · have other : Function.update log input.sessionId (log input.sessionId ++ [input]) id =
              log id := Function.update_of_ne (Ne.symm here) _ _
          simp [sessionCommitReceiptV3, before, other, here]
      case receipts =>
        intro commit receipt member
        rcases List.mem_append.mp member with earlier | last
        · exact tracks.receipts earlier
        · obtain ⟨rfl, rfl⟩ := Prod.mk.inj (List.mem_singleton.mp last)
          rfl
      case admitted =>
        intro commit receipt member
        rcases List.mem_append.mp member with earlier | last
        · exact tracks.admitted earlier
        · obtain ⟨rfl, rfl⟩ := Prod.mk.inj (List.mem_singleton.mp last)
          exact admits
      case once =>
        simp only [sessionCommitReceiptV3, Bool.false_eq_true, if_false, List.map_append,
          List.map_singleton]
        exact List.Nodup.append tracks.once (List.nodup_singleton _)
          (List.disjoint_singleton.mpr unseen)

theorem tracks_submitAll {start : σ} (empty : Holds start fun _ => [])
    (inputs : List (SessionCommitV3 Data)) :
    ∃ log, Tracks naming Holds (submitAll store start inputs) log := by
  induction inputs using List.reverseRecOn with
  | nil =>
    refine ⟨fun _ => [], ?_⟩
    constructor <;> simp [submitAll, Submissions.commitsOf, empty]
  | append_singleton inputs input ih =>
    obtain ⟨log, tracks⟩ := ih
    rw [submitAll, List.foldl_append]
    exact Tracks.submit implements tracks input

/-! ## The laws of one call -/

theorem Implements.sameCommits {state state' : σ} (holds : Holds state log)
    (holds' : Holds state' log) : store.SameCommits state state' := fun id => by
  rw [implements.readCommits holds, implements.readCommits holds']

section

variable (tracks : Tracks naming Holds run log)
include tracks

theorem Tracks.repeated
    (accepted : (existing, receipt) ∈ run.accepted) (session : existing.sessionId = input.sessionId)
    (valid : validateSessionCommitV3 rules input = .ok input)
    (repeated : input.repeats existing = true) :
    ∃ state, store.appendCommit run.state input = (.ok { receipt with duplicate := true }, state) ∧
      store.SameCommits run.state state := by
  have kept := implements.kept tracks.holds input.sessionId
  have member : existing ∈ log input.sessionId := by
    rw [← tracks.accepted]
    exact Submissions.mem_commitsOf.mpr ⟨⟨receipt, accepted⟩, session⟩
  have admits : naming.admits input.sessionId = true := session ▸ tracks.admitted accepted
  have appended : log.appendCommit rules naming input =
      (.ok { receipt with duplicate := true }, log) := by
    rw [CommitLog.appendCommit_repeats kept member valid repeated admits, tracks.receipts accepted]
    rfl
  obtain ⟨same, holds⟩ := implements.appendCommit tracks.holds input
  rw [appended] at same holds
  exact ⟨(store.appendCommit run.state input).2, Prod.ext same rfl,
    implements.sameCommits tracks.holds holds⟩

theorem Tracks.conflict (member : existing ∈ run.commitsOf input.sessionId)
    (shared : input.shares existing = true) (differs : input.repeats existing = false) :
    ∃ error, (store.appendCommit run.state input).1 = .error error := by
  rw [(implements.appendCommit tracks.holds input).1]
  rw [tracks.accepted] at member
  cases answer : (log.appendCommit rules naming input).1 with
  | error error => exact ⟨error, rfl⟩
  | ok receipt =>
    obtain ⟨_, _, commits, appended, _⟩ := CommitLog.appendCommit_ok answer
    have kept := implements.kept tracks.holds input.sessionId
    rw [appendToLog, kept.distinct.findDuplicate_conflict member shared differs] at appended
    cases appended

theorem Tracks.fresh
    (fresh : ∀ existing ∈ run.commitsOf input.sessionId, input.shares existing = false) :
    AcceptsIff (store.appendCommit run.state input).1
      (naming.admits input.sessionId = true ∧
        Acceptable rules (run.commitsOf input.sessionId) input)
      (sessionCommitReceiptV3 input false) := by
  rw [(implements.appendCommit tracks.holds input).1]
  rw [tracks.accepted] at fresh ⊢
  have kept := implements.kept tracks.holds input.sessionId
  refine acceptsIff_of fun receipt => ⟨fun accepted => ?_, ?_⟩
  · obtain ⟨valid, admits, commits, appended, _⟩ := CommitLog.appendCommit_ok accepted
    rcases appendToLog_ok appended with ⟨existing, member, repeated, _⟩ | ⟨_, asserted, reduces, rfl, _⟩
    · have apart := fresh existing member
      rw [SessionCommitV3.repeats.shares repeated] at apart
      cases apart
    · obtain ⟨revision, sequence⟩ := kept.assertSessionCommitAgainstHeadV3_ok.mp asserted
      exact ⟨⟨admits, valid, revision, sequence, reduces⟩, rfl⟩
  · rintro ⟨⟨admits, acceptable⟩, rfl⟩
    have asserted : assertSessionCommitAgainstHeadV3 input
        (head (flattenEntries (log input.sessionId))) = .ok () :=
      kept.assertSessionCommitAgainstHeadV3_ok.mpr ⟨acceptable.revision, acceptable.sequence⟩
    obtain ⟨projection, reduced⟩ := acceptable.reduces
    rw [CommitLog.appendCommit_valid acceptable.valid admits]
    simp [appendToLog, findDuplicate_fresh fresh, ok_bind, asserted, reduced, pure_ok]

theorem Tracks.callLaws
    (opens : ¬ OpensUnadmitted rules naming input) : CallLaws rules store run input where
  resubmitted receipt accepted := by
    have kept := implements.kept tracks.holds input.sessionId
    have member : input ∈ log input.sessionId := by
      rw [← tracks.accepted]
      exact Submissions.mem_commitsOf.mpr ⟨⟨receipt, accepted⟩, rfl⟩
    exact tracks.repeated implements accepted rfl (kept.valid input member) (by simp)
  repeated _ _ accepted session valid repeated :=
    tracks.repeated implements accepted session valid repeated
  conflict _ member shared differs := tracks.conflict implements member shared differs
  fresh fresh := by
    obtain ⟨accepts, rejects⟩ := tracks.fresh implements fresh
    refine ⟨fun acceptable => ?_, fun fails => rejects fun both => fails both.2⟩
    cases admits : naming.admits input.sessionId with
    | true => exact accepts ⟨admits, acceptable⟩
    | false =>
      have none := tracks.unadmitted admits
      have reduces := acceptable.reduces
      rw [tracks.accepted, none] at reduces
      exact absurd ⟨acceptable.valid, admits, reduces⟩ opens
  rejected error rejected := implements.rejects tracks.holds input error rejected

theorem Tracks.not_callLaws
    (opens : OpensUnadmitted rules naming input) : ¬ CallLaws rules store run input := by
  intro laws
  have none : run.commitsOf input.sessionId = [] :=
    (tracks.accepted _).trans (tracks.unadmitted opens.unadmitted)
  have fresh : ∀ existing ∈ run.commitsOf input.sessionId, input.shares existing = false := by
    simp [none]
  obtain ⟨projection, reduced⟩ := opens.reduces
  have first := opening_numbers (validateSessionCommitV3_ok opens.valid).2 reduced
  have acceptable : Acceptable rules (run.commitsOf input.sessionId) input := by
    rw [none]
    exact ⟨opens.valid, first.1, first.2, projection, reduced⟩
  obtain ⟨error, rejected⟩ := (tracks.fresh implements fresh).2 fun both => by
    rw [opens.unadmitted] at both
    cases both.1
  rw [(laws.fresh fresh).1 acceptable] at rejected
  cases rejected

end

/-- **The laws hold for a run exactly if none of its calls opens a session that the store does not
admit.** -/
theorem Implements.commitLaws {start : σ} (empty : Holds start fun _ => [])
    (names : ∀ id, safeId id = true → naming.names id = true) (inputs : List (SessionCommitV3 Data)) :
    CommitLaws rules store start inputs ↔
      ∀ input ∈ inputs, ¬ OpensUnadmitted rules naming input := by
  constructor
  · intro laws input member opens
    obtain ⟨front, back, split⟩ := List.append_of_mem member
    obtain ⟨log, tracks⟩ := tracks_submitAll implements empty front
    exact tracks.not_callLaws implements opens (laws.calls front input back split)
  · intro admitted
    obtain ⟨log, tracks⟩ := tracks_submitAll implements empty inputs
    have kept := implements.kept tracks.holds
    constructor
    case revisions =>
      intro id
      rw [tracks.accepted]
      exact (kept id).revisions
    case sequences =>
      intro id
      rw [tracks.accepted]
      exact (kept id).sequences
    case once => exact tracks.once
    case stored =>
      intro id nonempty
      rw [tracks.accepted] at nonempty ⊢
      have named := names id ((kept id).safe nonempty)
      simp [implements.readCommits tracks.holds, CommitLog.readCommits, named, nonempty, ok_bind,
        pure_ok]
    case calls =>
      intro front input back split
      obtain ⟨log, tracks⟩ := tracks_submitAll implements empty front
      exact tracks.callLaws implements (admitted input (by simp [split]))

end Laws

/-! ## The two journals -/

theorem jsonlNaming_admits {sessionId : String} (safe : safeId sessionId = true) :
    jsonlNaming.admits sessionId = decide (sessionId.length ≤ 109) := by
  have chars : ∃ first rest, sessionId.toList = first :: rest ∧ first.isAlphanum = true ∧
      rest.all safeIdChar = true := by
    rw [safeId, chars_eq] at safe
    unfold safeIdChars at safe
    split at safe
    · cases safe
    · rename_i first rest chars
      simp only [Bool.and_eq_true] at safe
      exact ⟨first, rest, chars, safe.1.1, safe.2⟩
  obtain ⟨first, rest, chars, alphanum, all⟩ := chars
  have front : "journal-v3-session-".toList = 'j' :: "ournal-v3-session-".toList := by decide
  have frontAll : "ournal-v3-session-".toList.all safeIdChar = true := by decide
  have frontLength : "ournal-v3-session-".toList.length = 18 := by decide
  have letter : ('j').isAlphanum = true := by decide
  have safeFirst : safeIdChar first = true := by simp [safeIdChar, alphanum]
  have length : sessionId.length = rest.length + 1 := by
    rw [← String.length_toList, chars, List.length_cons]
  change safeIdChars 127 (Foundations.chars ("journal-v3-session-" ++ sessionId)) = _
  rw [chars_eq, String.toList_append, front, chars, length]
  simp only [List.cons_append, safeIdChars, letter, List.length_append, frontLength,
    List.length_cons, List.all_append, frontAll, List.all_cons, safeFirst, all, Bool.and_true,
    Bool.true_and]
  congr 1
  simp only [eq_iff_iff]
  omega

/-- The commit opens a session whose id is too long for the name of its lock. -/
structure OpensLong (rules : SessionRules Data View) (input : SessionCommitV3 Data) : Prop where
  valid : validateSessionCommitV3 rules input = .ok input
  long : 109 < input.sessionId.length
  reduces : ∃ projection, reduceSessionEntriesV3 rules input.entries = .ok projection

/-- **Every run of commits of the SQLite journal satisfies the laws, and exactly the runs of the
JSONL journal that do not open a session with an id longer than 109 characters.** -/
theorem commitLaws_iff (rules : SessionRules Data View) (inputs : List (SessionCommitV3 Data)) :
    CommitLaws rules (sqliteSessionJournalV3 rules) {} inputs ∧
      (CommitLaws rules (jsonlSessionJournalV3 rules) (.fresh rules) inputs ↔
        ∀ input ∈ inputs, ¬ OpensLong rules input) := by
  refine ⟨?_, ?_⟩
  · refine (sqlite_implements.commitLaws SqliteHolds.empty (fun _ _ => rfl)
      inputs).mpr fun input _ opens => ?_
    cases opens.unadmitted
  · rw [jsonl_implements.commitLaws JsonlHolds.fresh (fun _ safe => safe)]
    refine forall₂_congr fun input _ => not_congr ?_
    constructor
    · intro opens
      have safe := (validateSessionCommitV3_ok opens.valid).2.sessionId
      have long := opens.unadmitted
      rw [jsonlNaming_admits safe, decide_eq_false_iff_not, Nat.not_le] at long
      exact ⟨opens.valid, long, opens.reduces⟩
    · intro opens
      have safe := (validateSessionCommitV3_ok opens.valid).2.sessionId
      refine ⟨opens.valid, ?_, opens.reduces⟩
      rw [jsonlNaming_admits safe, decide_eq_false_iff_not, Nat.not_le]
      exact opens.long

/-! ## A session with a long id -/

/-- An id of 110 characters. -/
def longId : String :=
  "sssssssssssssssssssssssssssssssssssssssssssssssssssssss" ++
    "sssssssssssssssssssssssssssssssssssssssssssssssssssssss"

def longCommit : SessionCommitV3 Unit where
  sessionId := longId
  commitId := "commit-1"
  expectedRevision := 0
  idempotencyKey := "key-1"
  entries :=
    [{ entryId := "entry-1"
       sessionId := longId
       sequence := 1
       revision := 1
       timestamp := ⟨"2026-01-01T00:00:00.000Z", some 1_767_225_600_000⟩
       data := .sessionCreated
        { cwd := "/work"
          provider := "provider"
          model := "model"
          name := "Session" } }]
  checksum := "sha256:4e738d96a51af564d1d559e62cc2e54ad26f53f7fe5fcb34cff4fd1672542bdd"

/-- Rules under which payloads need nothing more, with the digests of the commit and of an archive
of its session at the instant of its entry. -/
def longRules : SessionRules Unit Unit where
  checksum _ := longCommit.checksum
  catalogChecksum _ _ := "catalog"
  archiveChecksum _ _ :=
    ⟨"sha256:b2523644742062bda38799bbe5ce7bd4dac98af4391e13ed00ea5f2672c52751", by decide +kernel⟩
  localeCompare := compare
  validatePayload _ _ := .ok ()
  start _ := ()
  apply _ view _ := .ok view
  finish _ := .ok ()

theorem longCommit_valid : validateSessionCommitV3 longRules longCommit = .ok longCommit := by
  decide +kernel

theorem longCommit_reduces :
    ∃ projection, reduceSessionEntriesV3 longRules longCommit.entries = .ok projection := by
  have accepted : (reduceSessionEntriesV3 longRules longCommit.entries).toOption.any
      (fun _ => true) = true := by decide +kernel
  obtain ⟨projection, reduced, _⟩ := exists_ok accepted
  exact ⟨projection, reduced⟩

theorem longCommit_opens : OpensUnadmitted longRules jsonlNaming longCommit where
  valid := longCommit_valid
  unadmitted := by decide +kernel
  reduces := longCommit_reduces

theorem commitLaws_longId :
    ¬ CommitLaws longRules (jsonlSessionJournalV3 longRules) (.fresh longRules) [longCommit] := by
  rw [jsonl_implements.commitLaws JsonlHolds.fresh (fun _ safe => safe)]
  intro admitted
  exact admitted longCommit (List.mem_singleton.mpr rfl) longCommit_opens

end Praxis.Session
