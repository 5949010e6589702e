import Praxis.Session.CommitLaws
import Praxis.Session.JsonlRestart

/-!
# Parity of the two journals

A run of calls is answered by both journals from their empty states. As long as every call is
about a session that both can name and admit, each answer is the same, because both implement the
same commit log (`answers_eq`). A call about any other session is answered differently
(`Diverges`), so the runs with equal answers are exactly the runs without such a call
(`answers_eq_iff`).
-/

namespace Praxis.Session

set_option autoImplicit false

open Praxis.Foundations
open Praxis.Workflow (safeId)

variable {Data View : Type} {log : CommitLog Data}

/-! ## Calls and their answers -/

inductive SessionCall (Data : Type) where
  | appendCommit (input : SessionCommitV3 Data)
  | readEntries (input : ReadSessionEntriesInputV3)
  | readCommits (sessionId : String)
  | listSessionIds
  | listRecoverableSessionIds
  | loadCachedProjection (sessionId : String)

/-- What a call resolves to, or the code with which it rejects. -/
inductive SessionAnswer (Data View : Type) where
  | receipt (answer : Except SessionError SessionCommitReceiptV3)
  | page (answer : Except SessionError (SessionEntryPageV3 Data))
  | commits (answer : Except SessionError (List (SessionCommitV3 Data)))
  | ids (answer : Except SessionError (List String))
  | projection (answer : Except SessionError (SessionProjectionV3 Data View))

namespace SessionStore

variable {σ : Type} (store : SessionStore Data View σ)

def call (state : σ) : SessionCall Data → SessionAnswer Data View × σ
  | .appendCommit input =>
    let (answer, state) := store.appendCommit state input
    (.receipt answer, state)
  | .readEntries input =>
    let (answer, state) := store.readEntries state input
    (.page answer, state)
  | .readCommits sessionId =>
    let (answer, state) := store.readCommits state sessionId
    (.commits answer, state)
  | .listSessionIds =>
    let (answer, state) := store.listSessionIds state
    (.ids answer, state)
  | .listRecoverableSessionIds =>
    let (answer, state) := store.listRecoverableSessionIds state
    (.ids answer, state)
  | .loadCachedProjection sessionId =>
    let (answer, state) := store.loadCachedProjection state sessionId
    (.projection answer, state)

/-- The answers to the calls of a run, in order. -/
def answers (state : σ) : List (SessionCall Data) → List (SessionAnswer Data View)
  | [] => []
  | call :: rest =>
    let (answer, next) := store.call state call
    answer :: answers next rest

end SessionStore

theorem SessionStore.call_of_answers_eq {σ τ : Type} {store : SessionStore Data View σ}
    {store' : SessionStore Data View τ} {state : σ} {state' : τ} {call : SessionCall Data}
    {rest : List (SessionCall Data)}
    (same : store.answers state (call :: rest) = store'.answers state' (call :: rest)) :
    (store.call state call).1 = (store'.call state' call).1 ∧
      store.answers (store.call state call).2 rest =
        store'.answers (store'.call state' call).2 rest :=
  List.cons.inj same

/-! ## Calls that both stores answer alike -/

variable {σ τ : Type} {rules : SessionRules Data View} {naming naming' : Naming}

def AnsweredAlike (rules : SessionRules Data View) (naming naming' : Naming) :
    SessionCall Data → Prop
  | .appendCommit input =>
    validateSessionCommitV3 rules input = .ok input →
      naming.admits input.sessionId = naming'.admits input.sessionId
  | .readCommits sessionId | .loadCachedProjection sessionId =>
    naming.names sessionId = naming'.names sessionId
  | _ => True

theorem CommitLog.appendCommit_alike {input : SessionCommitV3 Data}
    (alike : validateSessionCommitV3 rules input = .ok input →
      naming.admits input.sessionId = naming'.admits input.sessionId) :
    log.appendCommit rules naming input = log.appendCommit rules naming' input := by
  unfold CommitLog.appendCommit
  cases validated : validateSessionCommitV3 rules input with
  | error error => rfl
  | ok commit =>
    obtain ⟨rfl, _⟩ := validateSessionCommitV3_ok validated
    simp only [alike validated]

/-! ## Two stores that implement the log -/

section Stores

variable {store : SessionStore Data View σ} {store' : SessionStore Data View τ}
  {Holds : σ → CommitLog Data → Prop} {Holds' : τ → CommitLog Data → Prop}
  (implements : Implements rules naming store Holds)
  (implements' : Implements rules naming' store' Holds')
  {state : σ} {state' : τ} {log : CommitLog Data} {calls : List (SessionCall Data)}

section Answers

include implements

theorem Implements.call_appendCommit (holds : Holds state log) (input : SessionCommitV3 Data) :
    (store.call state (.appendCommit input)).1 =
      .receipt (log.appendCommit rules naming input).1 :=
  congrArg SessionAnswer.receipt (implements.appendCommit holds input).1

theorem Implements.call_readCommits (holds : Holds state log) (sessionId : String) :
    (store.call state (.readCommits sessionId)).1 =
      .commits (log.readCommits naming sessionId) := by
  simp only [SessionStore.call, implements.readCommits holds]

theorem Implements.call_loadCachedProjection (holds : Holds state log) (sessionId : String) :
    (store.call state (.loadCachedProjection sessionId)).1 =
      .projection (log.loadCachedProjection rules naming sessionId) := by
  simp only [SessionStore.call, implements.loadCachedProjection holds]

end Answers

include implements implements'

theorem call_eq (holds : Holds state log) (holds' : Holds' state' log) {call : SessionCall Data}
    (alike : AnsweredAlike rules naming naming' call) :
    (store.call state call).1 = (store'.call state' call).1 ∧
      ∃ next, Holds (store.call state call).2 next ∧ Holds' (store'.call state' call).2 next := by
  cases call with
  | appendCommit input =>
    obtain ⟨same, after⟩ := implements.appendCommit holds input
    obtain ⟨same', after'⟩ := implements'.appendCommit holds' input
    have logs : log.appendCommit rules naming input = log.appendCommit rules naming' input :=
      CommitLog.appendCommit_alike alike
    refine ⟨?_, (log.appendCommit rules naming input).2, after, logs ▸ after'⟩
    exact congrArg SessionAnswer.receipt (by rw [same, same', logs])
  | readEntries input =>
    simp only [SessionStore.call, implements.readEntries holds, implements'.readEntries holds']
    exact ⟨trivial, log, holds, holds'⟩
  | readCommits sessionId =>
    have logs : log.readCommits naming sessionId = log.readCommits naming' sessionId := by
      simp only [CommitLog.readCommits, show naming.names sessionId = _ from alike]
    simp only [SessionStore.call, implements.readCommits holds, implements'.readCommits holds']
    exact ⟨by rw [logs], log, holds, holds'⟩
  | listSessionIds =>
    obtain ⟨ids, listed, lists⟩ := implements.listSessionIds holds
    obtain ⟨ids', listed', lists'⟩ := implements'.listSessionIds holds'
    simp only [SessionStore.call, listed, listed']
    exact ⟨by rw [lists.unique lists'], log, holds, holds'⟩
  | listRecoverableSessionIds =>
    obtain ⟨ids, listed, lists⟩ := implements.listRecoverableSessionIds holds
    obtain ⟨ids', listed', lists'⟩ := implements'.listRecoverableSessionIds holds'
    simp only [SessionStore.call, listed, listed']
    exact ⟨by rw [lists.unique lists'], log, holds, holds'⟩
  | loadCachedProjection sessionId =>
    have logs : log.loadCachedProjection rules naming sessionId =
        log.loadCachedProjection rules naming' sessionId := by
      simp only [CommitLog.loadCachedProjection, show naming.names sessionId = _ from alike]
    simp only [SessionStore.call, implements.loadCachedProjection holds,
      implements'.loadCachedProjection holds']
    exact ⟨by rw [logs], log, holds, holds'⟩

theorem answers_eq (holds : Holds state log)
    (holds' : Holds' state' log) (alike : ∀ call ∈ calls, AnsweredAlike rules naming naming' call) :
    store.answers state calls = store'.answers state' calls := by
  induction calls generalizing state state' log with
  | nil => rfl
  | cons call rest ih =>
    obtain ⟨same, next, after, after'⟩ :=
      call_eq implements implements' holds holds' (alike call List.mem_cons_self)
    have others := ih after after' fun other member => alike other (List.mem_cons_of_mem _ member)
    simp only [SessionStore.answers, same, others]

theorem alike_of_answers_eq
    (differs : ∀ {state state' log call}, Holds state log → Holds' state' log →
      ¬ AnsweredAlike rules naming naming' call →
      (store.call state call).1 ≠ (store'.call state' call).1)
    (holds : Holds state log) (holds' : Holds' state' log)
    (same : store.answers state calls = store'.answers state' calls) :
    ∀ call ∈ calls, AnsweredAlike rules naming naming' call := by
  induction calls generalizing state state' log with
  | nil => simp
  | cons call rest ih =>
    obtain ⟨first, others⟩ := SessionStore.call_of_answers_eq same
    have alike : AnsweredAlike rules naming naming' call := by
      by_contra unlike
      exact differs holds holds' unlike first
    obtain ⟨_, next, after, after'⟩ := call_eq implements implements' holds holds' alike
    exact List.forall_mem_cons.mpr ⟨alike, ih after after' others⟩

end Stores

/-! ## The two journals -/

/-- The call is about a session that the JSONL journal cannot name, or commits to one whose id is
too long for the name of its lock. -/
def Diverges (rules : SessionRules Data View) : SessionCall Data → Prop
  | .appendCommit input =>
    validateSessionCommitV3 rules input = .ok input ∧ 109 < input.sessionId.length
  | .readCommits sessionId | .loadCachedProjection sessionId => safeId sessionId = false
  | _ => False

theorem answeredAlike_iff {call : SessionCall Data} :
    AnsweredAlike rules .all jsonlNaming call ↔ ¬ Diverges rules call := by
  cases call with
  | appendCommit input =>
    simp only [AnsweredAlike, Diverges, Naming.all, not_and, Nat.not_lt]
    refine forall_congr' fun valid => ?_
    rw [jsonlNaming_admits (validateSessionCommitV3_ok valid).2.sessionId]
    simp
  | readCommits sessionId | loadCachedProjection sessionId =>
    cases safe : safeId sessionId <;>
      simp [AnsweredAlike, Diverges, Naming.all, jsonlNaming, safe]
  | readEntries | listSessionIds | listRecoverableSessionIds => simp [AnsweredAlike, Diverges]

section Errors

abbrev NotUnsafeId {α : Type} (result : Except SessionError α) : Prop :=
  ErrorsIn (fun error => error ≠ .sessionIdInvalid) result

variable (rules)

theorem ruled_errors {α : Type} (answer : Except String α) : NotUnsafeId (ruled answer) := by
  cases answer with
  | error code => exact errorsIn_error.mpr (by simp)
  | ok value => exact errorsIn_ok

theorem validateSessionEntryV3_errors (entry : SessionEntryV3 Data) :
    NotUnsafeId (validateSessionEntryV3 rules entry) := by
  refine (errorsIn_ensure (by simp)).bind fun _ => ErrorsIn.bind ?_ fun _ => errorsIn_ok
  exact (errorsIn_ensure (by simp)).bind fun _ => ruled_errors _

theorem useId_errors (ids : List String) (id : String) : NotUnsafeId (useId ids id) :=
  (errorsIn_ensure (by simp)).bind fun _ => errorsIn_ok

theorem assertTransition_errors (allowed : Bool) : NotUnsafeId (assertTransition allowed) :=
  errorsIn_ensure (by simp)

theorem reduceData_errors (state : SessionStateV3 Data) (entry : SessionEntryV3 Data) :
    NotUnsafeId (reduceData state entry) := by
  unfold reduceData
  split
  · exact errorsIn_error.mpr (by simp)
  · exact errorsIn_ok
  · exact (assertTransition_errors _).bind fun _ => errorsIn_ok
  · exact (assertTransition_errors _).bind fun _ => errorsIn_ok
  · exact (assertTransition_errors _).bind fun _ => (useId_errors _ _).bind fun _ => errorsIn_ok
  · exact (assertTransition_errors _).bind fun _ => errorsIn_ok
  · exact (useId_errors _ _).bind fun _ => errorsIn_ok
  · exact (assertTransition_errors _).bind fun _ => (errorsIn_orError (by simp)).bind fun _ =>
      (useId_errors _ _).bind fun _ => (useId_errors _ _).bind fun _ => errorsIn_ok
  · exact (errorsIn_orError (by simp)).bind fun _ => (assertTransition_errors _).bind fun _ =>
      (errorsIn_orError (by simp)).bind fun _ => (assertTransition_errors _).bind fun _ =>
        errorsIn_ok
  · exact errorsIn_ok

theorem reduceEntry_errors (current : SessionStateV3 Data × View) (entry : SessionEntryV3 Data) :
    NotUnsafeId (reduceEntry rules current entry) := by
  have follows : NotUnsafeId (assertFollows current.1 entry) :=
    (errorsIn_ensure (by simp)).bind fun _ => (errorsIn_ensure (by simp)).bind fun _ =>
      (errorsIn_ensure (by simp)).bind fun _ => (errorsIn_ensure (by simp)).bind fun _ =>
        (assertTransition_errors _).bind fun _ => assertTransition_errors _
  exact follows.bind fun _ => (useId_errors _ _).bind fun _ => (reduceData_errors _ _).bind fun _ =>
    (ruled_errors _).bind fun _ => errorsIn_ok

theorem reduceSessionEntriesV3_errors (entries : List (SessionEntryV3 Data)) :
    NotUnsafeId (reduceSessionEntriesV3 rules entries) := by
  refine (errorsIn_ensure (by simp)).bind fun _ => ErrorsIn.bind ?_ fun entries => ?_
  · exact ErrorsIn.mapM (validateSessionEntryV3_errors rules) _
  · refine ErrorsIn.bind ?_ fun _ => (ruled_errors _).bind fun _ => errorsIn_ok
    cases entries with
    | nil => exact errorsIn_error.mpr (by simp)
    | cons first rest =>
      exact (errorsIn_orError (by simp)).bind fun _ =>
        ErrorsIn.foldlM (reduceEntry_errors rules) _ _

theorem appendToLog_errors (commits : List (SessionCommitV3 Data))
    (commit : SessionCommitV3 Data) : NotUnsafeId (appendToLog rules commits commit) := by
  refine ErrorsIn.bind ?_ fun found => ?_
  · rw [findDuplicate_eq]
    split
    · exact errorsIn_ok
    · split
      · exact errorsIn_ok
      · exact errorsIn_error.mpr (by simp)
  · cases found with
    | some duplicate => exact errorsIn_ok
    | none =>
      refine ErrorsIn.bind ?_ fun _ => ?_
      · exact (errorsIn_ensure (by simp)).bind fun _ => errorsIn_ensure (by simp)
      · exact (reduceSessionEntriesV3_errors rules _).bind fun _ => errorsIn_ok

end Errors

theorem Kept.eq_nil_of_unlike {sessionId : String} {commits : List (SessionCommitV3 Data)}
    (kept : Kept rules sessionId commits) (unnamed : safeId sessionId = false) : commits = [] := by
  by_contra nonempty
  have safe := kept.safe nonempty
  rw [unnamed] at safe
  cases safe

theorem call_differs {tables : SqliteTables Data View} {disk : JsonlDisk Data View}
    {call : SessionCall Data} (holds : SqliteHolds rules tables log)
    (holds' : JsonlHolds rules disk log) (unlike : ¬ AnsweredAlike rules .all jsonlNaming call) :
    ((sqliteSessionJournalV3 rules).call tables call).1 ≠
      ((jsonlSessionJournalV3 rules).call disk call).1 := by
  rw [answeredAlike_iff, not_not] at unlike
  cases call with
  | appendCommit input =>
    obtain ⟨valid, long⟩ := unlike
    have unadmitted : jsonlNaming.admits input.sessionId = false := by
      rw [jsonlNaming_admits (validateSessionCommitV3_ok valid).2.sessionId,
        decide_eq_false_iff_not, Nat.not_le]
      exact long
    have refused : (log.appendCommit rules jsonlNaming input).1 = .error .sessionIdInvalid := by
      simp [CommitLog.appendCommit, valid, unadmitted]
    rw [sqlite_implements.call_appendCommit holds, jsonl_implements.call_appendCommit holds',
      refused, CommitLog.appendCommit_valid valid rfl]
    intro same
    have answers := SessionAnswer.receipt.inj same
    cases appended : appendToLog rules (log input.sessionId) input with
    | error error =>
      rw [appended] at answers
      exact appendToLog_errors rules _ _ error appended (Except.error.inj answers)
    | ok result =>
      rw [appended] at answers
      cases answers
  | readCommits sessionId =>
    have unnamed : jsonlNaming.names sessionId = false := unlike
    rw [sqlite_implements.call_readCommits holds, jsonl_implements.call_readCommits holds']
    intro same
    have answers := SessionAnswer.commits.inj same
    have empty := (sqlite_implements.kept holds sessionId).eq_nil_of_unlike unlike
    simp [CommitLog.readCommits, unnamed, Naming.all, empty, ensure, error_bind, ok_bind] at answers
  | loadCachedProjection sessionId =>
    have unnamed : jsonlNaming.names sessionId = false := unlike
    rw [sqlite_implements.call_loadCachedProjection holds,
      jsonl_implements.call_loadCachedProjection holds']
    intro same
    have answers := SessionAnswer.projection.inj same
    have empty := (sqlite_implements.kept holds sessionId).eq_nil_of_unlike unlike
    simp [CommitLog.loadCachedProjection, unnamed, Naming.all, empty, projectionOf_nil, orError,
      ensure, error_bind, ok_bind] at answers
  | readEntries | listSessionIds | listRecoverableSessionIds => exact unlike.elim

/-- **The journals answer the calls of a run alike, from their empty states, exactly if no call
commits to a session with an id longer than 109 characters and none reads the commits or the
projection of a session with an unsafe id.** -/
theorem answers_eq_iff (rules : SessionRules Data View) (calls : List (SessionCall Data)) :
    (sqliteSessionJournalV3 rules).answers {} calls =
        (jsonlSessionJournalV3 rules).answers (.fresh rules) calls ↔
      ∀ call ∈ calls, ¬ Diverges rules call := by
  simp only [← answeredAlike_iff]
  constructor
  · exact alike_of_answers_eq sqlite_implements jsonl_implements call_differs SqliteHolds.empty
      JsonlHolds.fresh
  · exact answers_eq sqlite_implements jsonl_implements SqliteHolds.empty JsonlHolds.fresh

theorem answers_longId :
    (sqliteSessionJournalV3 longRules).answers {} [.appendCommit longCommit] ≠
      (jsonlSessionJournalV3 longRules).answers (.fresh longRules) [.appendCommit longCommit] := by
  have diverges : Diverges longRules (.appendCommit longCommit) :=
    ⟨longCommit_valid, by decide +kernel⟩
  have unlike : ¬ AnsweredAlike longRules .all jsonlNaming (.appendCommit longCommit) := by
    rw [answeredAlike_iff, not_not]
    exact diverges
  intro same
  exact call_differs SqliteHolds.empty JsonlHolds.fresh unlike
    (SessionStore.call_of_answers_eq same).1

/-! ## Opening the journal again -/

/-- The answers of a run in which the journal is opened again at each `none`, as a process that
starts on the files does, or the error with which it does not open. -/
def Jsonl.answersReopening (rules : SessionRules Data View) (disk : JsonlDisk Data View) :
    List (Option (SessionCall Data)) → Except SessionError (List (SessionAnswer Data View))
  | [] => return []
  | none :: rest => do
    let (opened, disk) := (Jsonl.initializeJournal rules false).run JsonlDisk.perform disk
    let _ ← opened
    answersReopening rules disk rest
  | some call :: rest => do
    let (answer, disk) := (jsonlSessionJournalV3 rules).call disk call
    let others ← answersReopening rules disk rest
    return answer :: others

theorem JsonlRests.call {disk : JsonlDisk Data View} {log : CommitLog Data}
    (rests : JsonlRests rules disk log) (call : SessionCall Data) :
    ∃ next, JsonlRests rules ((jsonlSessionJournalV3 rules).call disk call).2 next := by
  have alike : AnsweredAlike rules jsonlNaming jsonlNaming call := by
    cases call <;> simp [AnsweredAlike]
  obtain ⟨_, next, after, _⟩ :=
    call_eq jsonl_implements_resting jsonl_implements_resting rests rests alike
  exact ⟨next, after⟩

theorem JsonlRests.answersReopening {disk : JsonlDisk Data View} {log : CommitLog Data}
    (rests : JsonlRests rules disk log) (calls : List (Option (SessionCall Data))) :
    Jsonl.answersReopening rules disk calls =
      .ok ((jsonlSessionJournalV3 rules).answers disk calls.reduceOption) := by
  induction calls generalizing disk log with
  | nil => rfl
  | cons first rest ih =>
    cases first with
    | none => simp [Jsonl.answersReopening, rests.run_initializeJournal, ok_bind, ih rests]
    | some call =>
      obtain ⟨next, after⟩ := rests.call call
      simp [Jsonl.answersReopening, ih after, ok_bind, SessionStore.answers, pure, Except.pure]

/-- **A process that ends between two calls is not noticed**: the journal opens again wherever
that happens, and every answer is that of the uninterrupted run. -/
theorem answersReopening_eq (rules : SessionRules Data View)
    (calls : List (Option (SessionCall Data))) :
    Jsonl.answersReopening rules (.fresh rules) calls =
      .ok ((jsonlSessionJournalV3 rules).answers (.fresh rules) calls.reduceOption) :=
  JsonlRests.fresh.answersReopening calls

end Praxis.Session
