import Praxis.Foundations.Actions
import Praxis.Session.CommitLaws

/-!
# Transfer of session journals

An archive has the commits of every session of a store. It is exported from one store and imported
into another; an import first checks that the target holds nothing but first commits of the
archive's sessions, appends the others, and verifies the result by exporting it.

Both are modelled over any store, and their results are proved for stores that implement the
commit log (`Journal`). Into a target that holds a prefix of the source an import completes it, and
into any other target it changes nothing (`transferLaws_iff`).

Values are compared as such where the source compares their canonical JSON.
-/

namespace Praxis.Session

set_option autoImplicit false

open Praxis.Foundations
open Praxis.Workflow (safeId isSha256)

variable {Data View σ : Type}

/-! ## Archives -/

structure PortableSessionJournalV3 (Data : Type) where
  exportedAt : Timestamp
  /-- The ids of the sessions with their commits. -/
  sessions : List (String × List (SessionCommitV3 Data))
  checksum : String

structure SessionImportReportV3 where
  sourceChecksum : String
  sessionCount : Nat
  commitCount : Nat
  entryCount : Nat
  acceptedCommits : Nat
  duplicateCommits : Nat

section Validation

variable (rules : SessionRules Data View)

/-- Why a stream of commits is rejected, whatever the reducer found. -/
def orExportInvalid {α : Type} : Except SessionError α → Except SessionError α
  | .ok value => .ok value
  | .error _ => .error .sessionExportInvalid

/-- One turn of the loop over the commits of a session: the revision and the sequence that it has
reached. -/
def validateStreamCommit (sessionId : String) (reached : Int × Int)
    (commit : SessionCommitV3 Data) : Except SessionError (Int × Int) := do
  ensure (commit.sessionId == sessionId && commit.expectedRevision == reached.1 &&
    commit.firstSequence == reached.2 + 1) .sessionExportInvalid
  return (reached.1 + 1, commit.lastSequence)

def validateCommitStream (sessionId : String) (commits : List (SessionCommitV3 Data)) :
    Except SessionError Unit := do
  ensure (!commits.isEmpty) .sessionExportInvalid
  let _ ← commits.foldlM (validateStreamCommit sessionId) (0, 0)
  let _ ← orExportInvalid (reduceSessionEntriesV3 rules (flattenEntries commits))

/-- The validated sessions so far, with one more. -/
def validateSession (sessions : List (String × List (SessionCommitV3 Data)))
    (candidate : String × List (SessionCommitV3 Data)) :
    Except SessionError (List (String × List (SessionCommitV3 Data))) := do
  ensure (safeId candidate.1 && !sessions.any fun session => session.1 == candidate.1)
    .sessionExportInvalid
  let commits ← candidate.2.mapM (validateSessionCommitV3 rules)
  validateCommitStream rules candidate.1 commits
  return sessions ++ [(candidate.1, commits)]

def validatePortableSessionJournalV3 (input : PortableSessionJournalV3 Data) :
    Except SessionError (PortableSessionJournalV3 Data) := do
  ensure (decide input.exportedAt.Canonical && isSha256 input.checksum) .sessionExportInvalid
  let sessions ← input.sessions.foldlM (validateSession rules) []
  ensure (!(sessions.zip sessions.tail).any fun pair => decide (pair.2.1 < pair.1.1))
    .sessionExportInvalid
  ensure (input.checksum == (rules.archiveChecksum input.exportedAt sessions).1)
    .sessionExportChecksumInvalid
  return { input with sessions }

end Validation

/-! ## Export and import -/

section Transfer

variable (rules : SessionRules Data View) (store : SessionStore Data View σ)

def exportSession (sessionId : String) :
    Action SessionError σ (String × List (SessionCommitV3 Data)) := do
  let stored ← Action.of fun state => store.readCommits state sessionId
  let commits ← Action.check (stored.mapM (validateSessionCommitV3 rules))
  Action.check (validateCommitStream rules sessionId commits)
  return (sessionId, commits)

def exportSessionJournalV3 (exportedAt : Timestamp) :
    Action SessionError σ (PortableSessionJournalV3 Data) := do
  Action.check (ensure (decide exportedAt.Canonical) .sessionExportInvalid)
  let listed ← Action.of store.listSessionIds
  let sessionIds := sortIds listed
  Action.check (ensure (decide sessionIds.Nodup && sessionIds.all safeId)
    .sessionBackendContractInvalid)
  let sessions ← sessionIds.mapM (exportSession rules store)
  return {
      exportedAt
      sessions
      checksum := (rules.archiveChecksum exportedAt sessions).1 }

/-- What the target holds of a session is what the archive begins with. -/
def persistedFits [DecidableEq Data] (persisted source : List (SessionCommitV3 Data)) : Bool :=
  decide (persisted.length ≤ source.length) &&
    persisted.zipIdx.all fun place => decide (source[place.2]? = some place.1)

def validateImportTarget [DecidableEq Data] (archive : PortableSessionJournalV3 Data) :
    Action SessionError σ Unit := do
  let listed ← Action.of store.listSessionIds
  let targetSessionIds := sortIds listed
  Action.check (ensure (decide targetSessionIds.Nodup &&
    targetSessionIds.all fun sessionId => (archive.sessions.lookup sessionId).isSome)
    .sessionImportTargetDiverged)
  targetSessionIds.forM fun sessionId => do
    let persisted ← Action.of fun state => store.readCommits state sessionId
    Action.check (ensure ((archive.sessions.lookup sessionId).any (persistedFits persisted))
      .sessionImportTargetDiverged)

structure ImportCounts where
  acceptedCommits : Nat := 0
  duplicateCommits : Nat := 0
  commitCount : Nat := 0
  entryCount : Nat := 0

/-- One commit more, with what its receipt says. -/
def ImportCounts.count (counts : ImportCounts) (commit : SessionCommitV3 Data)
    (duplicate : Bool) : ImportCounts where
  acceptedCommits := counts.acceptedCommits + if duplicate then 0 else 1
  duplicateCommits := counts.duplicateCommits + if duplicate then 1 else 0
  commitCount := counts.commitCount + 1
  entryCount := counts.entryCount + commit.entries.length

def ImportCounts.report (counts : ImportCounts) (archive : PortableSessionJournalV3 Data) :
    SessionImportReportV3 where
  sourceChecksum := archive.checksum
  sessionCount := archive.sessions.length
  commitCount := counts.commitCount
  entryCount := counts.entryCount
  acceptedCommits := counts.acceptedCommits
  duplicateCommits := counts.duplicateCommits

def importCommit (counts : ImportCounts) (commit : SessionCommitV3 Data) :
    Action SessionError σ ImportCounts := do
  let receipt ← Action.of fun state => store.appendCommit state commit
  return counts.count commit receipt.duplicate

def importSession (counts : ImportCounts) (session : String × List (SessionCommitV3 Data)) :
    Action SessionError σ ImportCounts :=
  session.2.foldlM (importCommit store) counts

def importSessionJournalV3 [DecidableEq Data] (input : PortableSessionJournalV3 Data) :
    Action SessionError σ SessionImportReportV3 := do
  let archive ← Action.check (validatePortableSessionJournalV3 rules input)
  validateImportTarget store archive
  let counts ← archive.sessions.foldlM (importSession store) {}
  let verified ← exportSessionJournalV3 rules store archive.exportedAt
  Action.check (ensure (verified.checksum == archive.checksum &&
    decide (verified.sessions = archive.sessions)) .sessionImportVerificationFailed)
  return counts.report archive

end Transfer

/-! ## What the archive of a log is -/

variable {rules : SessionRules Data View}

def archiveOf (rules : SessionRules Data View) (log : CommitLog Data) (ids : List String)
    (exportedAt : Timestamp) : PortableSessionJournalV3 Data where
  exportedAt := exportedAt
  sessions := ids.map fun id => (id, log id)
  checksum := (rules.archiveChecksum exportedAt (ids.map fun id => (id, log id))).1

variable {sessionId : String} {commits : List (SessionCommitV3 Data)}
  {commit : SessionCommitV3 Data}

theorem Kept.mapM_valid (kept : Kept rules sessionId commits) :
    commits.mapM (validateSessionCommitV3 rules) = .ok commits :=
  mapM_eq_ok.mpr (List.forall₂_same.mpr kept.valid)

theorem Kept.lastSequence {front : List (SessionCommitV3 Data)}
    (kept : Kept rules sessionId (front ++ [commit])) :
    commit.lastSequence = (flattenEntries (front ++ [commit])).length := by
  have place := kept.head_eq (by simp)
  obtain ⟨last, final⟩ : ∃ last, commit.entries.getLast? = some last :=
    List.getLast?_isSome.mpr (kept.validCommit (by simp)).nonempty |> Option.isSome_iff_exists.mp
  have whole : (flattenEntries (front ++ [commit])).getLast? = some last := by
    rw [flattenEntries_append, flattenEntries_singleton, List.getLast?_append, final]
    rfl
  rw [head, whole, Option.map_some, Option.some.injEq] at place
  have sequence := congrArg SessionJournalHeadV3.sequence place
  rw [CreateSessionCommitInputV3.lastSequence, final]
  exact sequence

/-- The loop over accepted commits runs through. -/
theorem validateStreamCommit_kept (front back : List (SessionCommitV3 Data))
    (kept : Kept rules sessionId (front ++ back)) :
    ∃ reached, back.foldlM (validateStreamCommit sessionId)
      ((front.length : Int), ((flattenEntries front).length : Int)) = .ok reached := by
  induction back generalizing front with
  | nil => exact ⟨_, rfl⟩
  | cons commit back ih =>
    have longer : Kept rules sessionId ((front ++ [commit]) ++ back) := by simpa using kept
    obtain ⟨reached, rest⟩ := ih (front ++ [commit]) longer
    have session := kept.session commit (by simp)
    have before : Kept rules sessionId front := Kept.prefix_ kept
    obtain ⟨revision, sequence⟩ :=
      before.assertSessionCommitAgainstHeadV3_ok.mp kept.continues
    refine ⟨reached, ?_⟩
    rw [List.foldlM_cons]
    have turn : validateStreamCommit sessionId
        ((front.length : Int), ((flattenEntries front).length : Int)) commit =
        .ok (((front ++ [commit]).length : Int),
          ((flattenEntries (front ++ [commit])).length : Int)) := by
      simp [validateStreamCommit, session, revision, sequence, (Kept.prefix_ longer).lastSequence,
        ok_bind, pure_ok]
    rw [turn]
    exact rest

theorem Kept.validateCommitStream (kept : Kept rules sessionId commits) (nonempty : commits ≠ []) :
    validateCommitStream rules sessionId commits = .ok () := by
  obtain ⟨reached, loop⟩ := validateStreamCommit_kept [] commits kept
  obtain ⟨projection, reduced⟩ := kept.reduced nonempty
  have loop' : commits.foldlM (validateStreamCommit sessionId) ((0 : Int), (0 : Int)) =
      .ok reached := loop
  simp [Praxis.Session.validateCommitStream, nonempty, ok_bind, loop', reduced, orExportInvalid,
    pure_ok]

theorem forall_mem_zip_tail {α : Type} {R : α → α → Prop} {items : List α}
    (pairwise : items.Pairwise R) : ∀ pair ∈ items.zip items.tail, R pair.1 pair.2 := by
  induction items with
  | nil => simp
  | cons first rest ih =>
    cases rest with
    | nil => simp
    | cons second rest =>
      obtain ⟨related, others⟩ := List.pairwise_cons.mp pairwise
      intro pair member
      rcases List.mem_cons.mp member with rfl | later
      · exact related second List.mem_cons_self
      · exact ih others pair later

section Exporting

variable {log : CommitLog Data} {ids : List String} {exportedAt : Timestamp}
  (kept : ∀ id, Kept rules id (log id)) (lists : Lists log.Present ids)

include kept lists

/-- The loop over the sessions of an archive runs through. -/
theorem foldlM_validateSession (front back : List String) (split : ids = front ++ back) :
    (back.map fun id => (id, log id)).foldlM (validateSession rules)
      (front.map fun id => (id, log id)) = .ok (ids.map fun id => (id, log id)) := by
  induction back generalizing front with
  | nil => simp [split, pure_ok]
  | cons id back ih =>
    have present : log id ≠ [] := (lists.mem id).mp (by simp [split])
    have fresh : id ∉ front := by
      have nodup := lists.nodup
      rw [split] at nodup
      intro member
      exact (List.nodup_append.mp nodup).2.2 id member id List.mem_cons_self rfl
    have turn : validateSession rules (front.map fun id => (id, log id)) (id, log id) =
        .ok ((front ++ [id]).map fun id => (id, log id)) := by
      have unseen : (front.map fun id => (id, log id)).any
          (fun session => session.1 == id) = false := by
        refine List.any_eq_false.mpr fun session member => ?_
        obtain ⟨other, there, rfl⟩ := List.mem_map.mp member
        simpa using fun same : other = id => fresh (same ▸ there)
      simp [validateSession, (kept id).safe present, unseen, (kept id).mapM_valid, ok_bind,
        (kept id).validateCommitStream present, pure_ok]
    rw [List.map_cons, List.foldlM_cons, turn, ok_bind]
    exact ih (front ++ [id]) (by simp [split])

theorem validatePortableSessionJournalV3_archiveOf (canonical : exportedAt.Canonical) :
    validatePortableSessionJournalV3 rules (archiveOf rules log ids exportedAt) =
      .ok (archiveOf rules log ids exportedAt) := by
  have loop := foldlM_validateSession kept lists [] ids rfl
  have ordered : ((ids.map fun id => (id, log id)).zip (ids.map fun id => (id, log id)).tail).any
      (fun pair => decide (pair.2.1 < pair.1.1)) = false := by
    have pairs : (ids.map fun id => (id, log id)).Pairwise fun first second =>
        first.1 < second.1 := List.pairwise_map.mpr lists.sorted
    refine List.any_eq_false.mpr fun pair member => ?_
    exact fun before => String.lt_asymm (forall_mem_zip_tail pairs pair member)
      (of_decide_eq_true before)
  have digest := (rules.archiveChecksum exportedAt (ids.map fun id => (id, log id))).2
  rw [List.map_nil] at loop
  simp only [validatePortableSessionJournalV3, archiveOf, canonical, digest, decide_true,
    Bool.and_true, ensure_true, ok_bind, loop, ordered, Bool.not_false, beq_self_eq_true, pure_ok]

end Exporting

/-! ## What a store exports -/

section Stores

variable {naming : Naming} {store : SessionStore Data View σ} {Holds : σ → CommitLog Data → Prop}
  (implements : Implements rules naming store Holds)
  (names : ∀ id, safeId id = true → naming.names id = true)
  {state : σ} {log : CommitLog Data}

include implements names

theorem Implements.readCommits_present (holds : Holds state log) {id : String}
    (present : log id ≠ []) : store.readCommits state id = (.ok (log id), state) := by
  have named := names id ((implements.kept holds id).safe present)
  simp [implements.readCommits holds, CommitLog.readCommits, named, present, ok_bind, pure_ok]

omit names in
theorem Implements.sorted_ids (holds : Holds state log) :
    ∃ listed, store.listSessionIds state = (.ok listed, state) ∧
      Lists log.Present (sortIds listed) := by
  obtain ⟨listed, answer, lists⟩ := implements.listSessionIds holds
  exact ⟨listed, answer, .sortIds lists.nodup lists.mem⟩

/-- **A store that implements the log exports the archive of its log, and stays as it is.** -/
theorem Implements.run_exportSessionJournalV3 (holds : Holds state log) {ids : List String}
    (lists : Lists log.Present ids) {exportedAt : Timestamp} (canonical : exportedAt.Canonical) :
    exportSessionJournalV3 rules store exportedAt state =
      (.ok (archiveOf rules log ids exportedAt), state) := by
  obtain ⟨listed, answer, lists'⟩ := implements.sorted_ids holds
  obtain rfl := lists.unique lists'
  have kept := implements.kept holds
  have sessions : (sortIds listed).mapM (exportSession rules store) state =
      (.ok ((sortIds listed).map fun id => (id, log id)), state) := by
    refine Action.mapM_reads fun id member => ?_
    have present := (lists.mem id).mp member
    unfold exportSession
    rw [Action.of_bind_run (implements.readCommits_present names holds present),
      Action.check_bind_run (kept id).mapM_valid,
      Action.check_bind_run ((kept id).validateCommitStream present)]
    rfl
  have contract : (decide (sortIds listed).Nodup && (sortIds listed).all safeId) = true := by
    rw [Bool.and_eq_true, decide_eq_true_eq, List.all_eq_true]
    exact ⟨lists.nodup, fun id member => (kept id).safe ((lists.mem id).mp member)⟩
  unfold exportSessionJournalV3
  rw [Action.ensure_bind_run (decide_eq_true canonical), Action.of_bind_run answer,
    Action.ensure_bind_run contract, Action.bind_run sessions]
  rfl

/-! ## The check of the target -/

section Target

variable [DecidableEq Data] {content : CommitLog Data} {ids : List String}
  {exportedAt : Timestamp}

omit implements names in
theorem persistedFits_iff {persisted source : List (SessionCommitV3 Data)} :
    persistedFits persisted source = true ↔ persisted <+: source := by
  simp only [persistedFits, Bool.and_eq_true, decide_eq_true_eq, List.all_eq_true]
  constructor
  · rintro ⟨_, each⟩
    refine List.prefix_iff_getElem?.mpr fun index inside => ?_
    exact each (persisted[index], index)
      (List.mem_zipIdx_iff_getElem?.mpr (List.getElem?_eq_getElem inside))
  · intro first
    refine ⟨first.length_le, fun place member => ?_⟩
    have there := List.mem_zipIdx_iff_getElem?.mp member
    obtain ⟨inside, same⟩ := List.getElem?_eq_some_iff.mp there
    rw [List.prefix_iff_getElem?.mp first place.2 inside, same]

omit implements names [DecidableEq Data] in
theorem lookup_archiveOf (lists : Lists content.Present ids) (id : String) :
    (archiveOf rules content ids exportedAt).sessions.lookup id =
      if (content id).isEmpty then none else some (content id) := by
  have found : ∀ names : List String, (names.map fun id => (id, content id)).lookup id =
      if id ∈ names then some (content id) else none := by
    intro names
    induction names with
    | nil => rfl
    | cons first rest ih =>
      rw [List.map_cons, List.lookup_cons, ih]
      by_cases same : id = first
      · subst same
        simp
      · have other : (id == first) = false := by simpa using same
        simp [other, same]
  rw [archiveOf, found]
  by_cases empty : content id = [] <;> simp [lists.mem id, CommitLog.Present, empty]

theorem Implements.validateImportTarget_eq (holds : Holds state log)
    (lists : Lists content.Present ids) {held : List String}
    (answer : store.listSessionIds state = (.ok held, state))
    (lists' : Lists log.Present (sortIds held)) :
    validateImportTarget store (archiveOf rules content ids exportedAt) state =
      (ensure ((sortIds held).all fun id =>
        !(content id).isEmpty && persistedFits (log id) (content id))
        .sessionImportTargetDiverged, state) := by
  have fits : ∀ id, ((archiveOf rules content ids exportedAt).sessions.lookup id).any
      (persistedFits (log id)) =
        (!(content id).isEmpty && persistedFits (log id) (content id)) := by
    intro id
    rw [lookup_archiveOf lists]
    cases (content id).isEmpty <;> rfl
  unfold validateImportTarget
  rw [Action.of_bind_run answer]
  by_cases known : ∀ id ∈ sortIds held, content id ≠ []
  · have contract : (decide (sortIds held).Nodup && (sortIds held).all fun sessionId =>
        ((archiveOf rules content ids exportedAt).sessions.lookup sessionId).isSome) = true := by
      rw [Bool.and_eq_true, decide_eq_true_eq, List.all_eq_true]
      refine ⟨lists'.nodup, fun id member => ?_⟩
      simp [lookup_archiveOf lists, known id member]
    rw [Action.ensure_bind_run contract]
    refine Action.forM_ensures fun id member => ?_
    rw [Action.of_bind_run (implements.readCommits_present names holds ((lists'.mem id).mp member)),
      fits]
    rfl
  · -- A session that the archive does not have: the first check fails, and so does the other.
    push Not at known
    obtain ⟨id, member, absent⟩ := known
    have unknown : (decide (sortIds held).Nodup && (sortIds held).all fun sessionId =>
        ((archiveOf rules content ids exportedAt).sessions.lookup sessionId).isSome) = false := by
      rw [Bool.and_eq_false_iff, List.all_eq_false]
      exact .inr ⟨id, member, by simp [lookup_archiveOf lists, absent]⟩
    have failed : ((sortIds held).all fun id =>
        !(content id).isEmpty && persistedFits (log id) (content id)) = false := by
      rw [List.all_eq_false]
      exact ⟨id, member, by simp [absent]⟩
    rw [Action.ensure_bind_rejects unknown, failed]
    rfl

theorem Implements.validateImportTarget_ok (holds : Holds state log)
    (lists : Lists content.Present ids) (first : ∀ id, log id <+: content id) :
    validateImportTarget store (archiveOf rules content ids exportedAt) state =
      (.ok (), state) := by
  obtain ⟨held, answer, lists'⟩ := implements.sorted_ids holds
  rw [implements.validateImportTarget_eq names holds lists answer lists', List.all_eq_true.mpr]
  · rfl
  · intro id member
    have known : content id ≠ [] := fun empty =>
      (lists'.mem id).mp member (List.prefix_nil.mp (empty ▸ first id))
    rw [Bool.and_eq_true, persistedFits_iff]
    exact ⟨by simpa using known, first id⟩

theorem Implements.validateImportTarget_error (holds : Holds state log)
    (lists : Lists content.Present ids) (differs : ¬ ∀ id, log id <+: content id) :
    validateImportTarget store (archiveOf rules content ids exportedAt) state =
      (.error .sessionImportTargetDiverged, state) := by
  obtain ⟨held, answer, lists'⟩ := implements.sorted_ids holds
  have failed : ((sortIds held).all fun id =>
      !(content id).isEmpty && persistedFits (log id) (content id)) = false := by
    push Not at differs
    obtain ⟨id, other⟩ := differs
    have present : log id ≠ [] := fun empty => other (empty ▸ List.nil_prefix)
    rw [List.all_eq_false]
    refine ⟨id, (lists'.mem id).mpr present, ?_⟩
    rw [Bool.and_eq_true, persistedFits_iff]
    exact fun both => other both.2
  rw [implements.validateImportTarget_eq names holds lists answer lists', failed]
  rfl

end Target

/-! ## The loop over the commits -/

section Loop

variable {content : CommitLog Data} (counts : ImportCounts)

variable {commit : SessionCommitV3 Data} {id : String}

omit implements names in
theorem CommitLog.appendCommit_known (kept : Kept rules id (log id)) (member : commit ∈ log id)
    (admits : naming.admits id = true) :
    log.appendCommit rules naming commit = (.ok (sessionCommitReceiptV3 commit true), log) := by
  obtain rfl := kept.session commit member
  exact CommitLog.appendCommit_repeats kept member (kept.valid commit member) (by simp) admits

omit implements names in
theorem CommitLog.appendCommit_next {front back : List (SessionCommitV3 Data)}
    (kept : Kept rules id (front ++ commit :: back)) (here : log id = front)
    (admits : naming.admits id = true) :
    log.appendCommit rules naming commit = (.ok (sessionCommitReceiptV3 commit false),
      Function.update log id (front ++ [commit])) := by
  have longer : Kept rules id ((front ++ [commit]) ++ back) := by simpa using kept
  have upTo : Kept rules id (front ++ [commit]) := Kept.prefix_ longer
  obtain rfl := upTo.session commit (by simp)
  have fresh : ∀ existing ∈ front, commit.shares existing = false := by
    intro existing member
    rw [← Bool.not_eq_true, shares_iff]
    intro shared
    have distinct := upTo.distinct
    rcases shared with sameId | sameKey
    · have nodup := distinct.commitIds
      rw [List.map_append, List.nodup_append] at nodup
      exact nodup.2.2 _ (List.mem_map_of_mem member) _ (by simp) sameId
    · have nodup := distinct.keys
      rw [List.map_append, List.nodup_append] at nodup
      exact nodup.2.2 _ (List.mem_map_of_mem member) _ (by simp) sameKey
  obtain ⟨projection, reduced⟩ := upTo.reduced (by simp)
  rw [flattenEntries_append, flattenEntries_singleton] at reduced
  rw [CommitLog.appendCommit_valid (upTo.valid commit (by simp)) admits, here]
  simp [appendToLog, findDuplicate_fresh fresh, kept.continues, reduced, ok_bind, pure_ok]

omit names in
/-- One turn of the inner loop. -/
theorem Implements.run_importCommit (holds : Holds state log) {duplicate : Bool}
    {next : CommitLog Data} (answer : log.appendCommit rules naming commit =
      (.ok (sessionCommitReceiptV3 commit duplicate), next)) :
    ∃ after, importCommit store counts commit state =
      (.ok (counts.count commit duplicate), after) ∧ Holds after next := by
  obtain ⟨same, after⟩ := implements.appendCommit holds commit
  rw [answer] at same after
  refine ⟨(store.appendCommit state commit).2, ?_, after⟩
  unfold importCommit
  have run : store.appendCommit state commit = (.ok (sessionCommitReceiptV3 commit duplicate),
      (store.appendCommit state commit).2) := Prod.ext same rfl
  rw [Action.of_bind_run run]
  rfl

omit names in
theorem Implements.run_importCommits {commits : List (SessionCommitV3 Data)}
    (kept : Kept rules id commits) (admits : naming.admits id = true)
    (front back : List (SessionCommitV3 Data)) (split : commits = front ++ back)
    (holds : Holds state log) (held : log id <+: commits) (reached : front <+: log id) :
    ∃ counts' after, back.foldlM (importCommit store) counts state = (.ok counts', after) ∧
      Holds after (Function.update log id commits) ∧
      counts'.acceptedCommits = counts.acceptedCommits + (commits.length - (log id).length) := by
  induction back generalizing front state log counts with
  | nil =>
    rw [List.append_nil] at split
    subst split
    have same : log id = commits := held.eq_of_length_le reached.length_le
    refine ⟨counts, state, rfl, ?_, by simp [same]⟩
    rw [← same, Function.update_eq_self]
    exact holds
  | cons commit back ih =>
    rw [List.foldlM_cons]
    obtain ⟨rest, here⟩ := reached
    cases rest with
    | nil =>
      -- The target has the commits before this one, and this one is new.
      rw [List.append_nil] at here
      obtain ⟨after, turn, next⟩ := implements.run_importCommit counts holds
        (CommitLog.appendCommit_next (split ▸ kept) here.symm admits)
      have placed : Function.update log id (front ++ [commit]) id = front ++ [commit] :=
        Function.update_self _ _ _
      have longer : front ++ [commit] <+: commits := ⟨back, by simp [split]⟩
      obtain ⟨counts', final, others, done, count⟩ := ih
        (counts.count commit false) (front ++ [commit]) (by simp [split]) next
        (placed.symm ▸ longer)
        (placed.symm ▸ List.prefix_refl (front ++ [commit]))
      refine ⟨counts', final, ?_, ?_, ?_⟩
      · rw [Action.bind_run turn]
        exact others
      · rw [Function.update_idem] at done
        exact done
      · have bound := longer.length_le
        rw [count, placed, ← here]
        simp only [ImportCounts.count, Bool.false_eq_true, if_false, List.length_append,
          List.length_singleton] at bound ⊢
        omega
    | cons other rest =>
      -- The target has this commit already.
      obtain rfl : other = commit := by
        obtain ⟨more, whole⟩ := held
        rw [← here, split, List.append_assoc] at whole
        exact (List.cons.inj (List.append_cancel_left whole)).1
      have member : other ∈ log id := by simp [← here]
      obtain ⟨after, turn, next⟩ := implements.run_importCommit counts holds
        (CommitLog.appendCommit_known (implements.kept holds id) member admits)
      obtain ⟨counts', final, others, done, count⟩ := ih
        (counts.count other true) (front ++ [other]) (by simp [split]) next held
        ⟨rest, by simp [← here]⟩
      refine ⟨counts', final, ?_, done, count⟩
      rw [Action.bind_run turn]
      exact others

def imported (log content : CommitLog Data) (ids : List String) : CommitLog Data :=
  fun id => if id ∈ ids then content id else log id

omit names in
theorem Implements.run_importSessions (kept : ∀ id, Kept rules id (content id))
    (ids : List String) (nodup : ids.Nodup) (admits : ∀ id ∈ ids, naming.admits id = true)
    (holds : Holds state log) (held : ∀ id ∈ ids, log id <+: content id) :
    ∃ counts' after, (ids.map fun id => (id, content id)).foldlM (importSession store) counts state =
        (.ok counts', after) ∧ Holds after (imported log content ids) ∧
      counts'.acceptedCommits = counts.acceptedCommits +
        (ids.map fun id => (content id).length - (log id).length).sum := by
  induction ids generalizing state log counts with
  | nil =>
    have same : imported log content [] = log := by
      funext id
      simp [imported]
    exact ⟨counts, state, rfl, by rw [same]; exact holds, by simp⟩
  | cons id rest ih =>
    obtain ⟨unseen, nodup⟩ := List.nodup_cons.mp nodup
    obtain ⟨counts', after, turn, next, count⟩ := implements.run_importCommits counts (kept id)
      (admits id List.mem_cons_self) [] (content id) rfl holds (held id List.mem_cons_self)
      List.nil_prefix
    have others : ∀ other ∈ rest, Function.update log id (content id) other = log other :=
      fun other member => Function.update_of_ne (fun same : other = id => unseen (same ▸ member)) _ _
    obtain ⟨counts'', final, loop, done, count'⟩ := ih counts' nodup
      (fun other member => admits other (List.mem_cons_of_mem _ member)) next
      (fun other member => by
        rw [others other member]
        exact held other (List.mem_cons_of_mem _ member))
    refine ⟨counts'', final, ?_, ?_, ?_⟩
    · rw [List.map_cons, List.foldlM_cons]
      have first : importSession store counts (id, content id) state = (.ok counts', after) := turn
      rw [Action.bind_run first]
      exact loop
    · have same : imported (Function.update log id (content id)) content rest =
          imported log content (id :: rest) := by
        funext other
        by_cases here : other = id
        · subst here
          simp [imported]
        · simp [imported, here]
      exact same ▸ done
    · have sums : (rest.map fun other => (content other).length -
          (Function.update log id (content id) other).length) =
          rest.map fun other => (content other).length - (log other).length :=
        List.map_congr_left fun other member => by rw [others other member]
      rw [count', count, sums, List.map_cons, List.sum_cons]
      omega

end Loop

/-! ## The import -/

section Import

variable [DecidableEq Data] {content : CommitLog Data} {ids : List String}
  {exportedAt : Timestamp}

omit implements names [DecidableEq Data] in
theorem imported_eq {log : CommitLog Data} (lists : Lists content.Present ids)
    (first : ∀ id, log id <+: content id) : imported log content ids = content := by
  funext id
  unfold imported
  split
  · rfl
  · rename_i absent
    have none : content id = [] := by
      by_contra present
      exact absent ((lists.mem id).mpr present)
    rw [none]
    exact List.prefix_nil.mp (none ▸ first id)

/-- **An import into a target that holds first commits of the archive's sessions, all of which it
admits, completes it.** -/
theorem Implements.run_importSessionJournalV3 (kept : ∀ id, Kept rules id (content id))
    (lists : Lists content.Present ids) (canonical : exportedAt.Canonical)
    (admits : ∀ id ∈ ids, naming.admits id = true) (holds : Holds state log)
    (first : ∀ id, log id <+: content id) :
    ∃ report after, importSessionJournalV3 rules store (archiveOf rules content ids exportedAt)
        state = (.ok report, after) ∧ Holds after content ∧
      report.acceptedCommits =
        (ids.map fun id => (content id).length - (log id).length).sum := by
  obtain ⟨counts, after, loop, next, count⟩ := implements.run_importSessions {} kept ids
    lists.nodup admits holds fun id _ => first id
  rw [imported_eq lists first] at next
  have same : counts.acceptedCommits =
      (ids.map fun id => (content id).length - (log id).length).sum := by
    rw [count, Nat.zero_add]
  refine ⟨counts.report (archiveOf rules content ids exportedAt), after, ?_, next, same⟩
  have appended : (archiveOf rules content ids exportedAt).sessions.foldlM (importSession store) {}
      state = (.ok counts, after) := loop
  have verified : exportSessionJournalV3 rules store (archiveOf rules content ids exportedAt).exportedAt
      after = (.ok (archiveOf rules content ids exportedAt), after) :=
    implements.run_exportSessionJournalV3 names next lists canonical
  unfold importSessionJournalV3
  rw [Action.check_bind_run (validatePortableSessionJournalV3_archiveOf kept lists canonical),
    Action.bind_run (implements.validateImportTarget_ok names holds lists first),
    Action.bind_run appended, Action.bind_run verified, Action.ensure_bind_run (by simp)]
  rfl

theorem Implements.importSessionJournalV3_rejects (kept : ∀ id, Kept rules id (content id))
    (lists : Lists content.Present ids) (canonical : exportedAt.Canonical)
    (holds : Holds state log) (differs : ¬ ∀ id, log id <+: content id) :
    importSessionJournalV3 rules store (archiveOf rules content ids exportedAt) state =
      (.error .sessionImportTargetDiverged, state) := by
  unfold importSessionJournalV3
  rw [Action.check_bind_run (validatePortableSessionJournalV3_archiveOf kept lists canonical)]
  exact Action.bind_rejects (implements.validateImportTarget_error names holds lists differs)

theorem Implements.importSessionJournalV3_unadmitted (kept : ∀ id, Kept rules id (content id))
    (lists : Lists content.Present ids) (canonical : exportedAt.Canonical) {bad : String}
    (member : bad ∈ ids) (refused : naming.admits bad = false) (holds : Holds state log)
    (first : ∀ id, log id <+: content id) :
    ∃ error, (importSessionJournalV3 rules store (archiveOf rules content ids exportedAt)
      state).1 = .error error := by
  -- Whatever was appended before, the store still stands for some log.
  have keeps : ∀ (commit : SessionCommitV3 Data) (counts : ImportCounts) (state : σ),
      (∃ log, Holds state log) → ∃ log, Holds (importCommit store counts commit state).2 log := by
    intro commit counts state ⟨log, holds⟩
    have next := (implements.appendCommit holds commit).2
    unfold importCommit
    rcases answer : store.appendCommit state commit with ⟨error | receipt, after⟩ <;>
      rw [answer] at next
    · rw [Action.of_bind_rejects answer]
      exact ⟨_, next⟩
    · rw [Action.of_bind_run answer]
      exact ⟨_, next⟩
  have rejects : ∀ (counts : ImportCounts) (state : σ), (∃ log, Holds state log) →
      ∃ error, (importSession store counts (bad, content bad) state).1 = .error error := by
    intro counts state start
    obtain ⟨commit, there⟩ := List.exists_mem_of_ne_nil _ ((lists.mem bad).mp member)
    refine Action.foldlM_rejects (fun state => ∃ log, Holds state log)
      (fun commit _ => keeps commit) there ?_ counts start
    intro counts state ⟨log, holds⟩
    have session := (kept bad).session commit there
    have answer : (store.appendCommit state commit).1 = .error .sessionIdInvalid := by
      rw [(implements.appendCommit holds commit).1]
      simp [CommitLog.appendCommit, (kept bad).valid commit there, session, refused]
    refine ⟨.sessionIdInvalid, ?_⟩
    unfold importCommit
    have run : store.appendCommit state commit =
        (.error .sessionIdInvalid, (store.appendCommit state commit).2) := Prod.ext answer rfl
    rw [Action.of_bind_rejects run]
  have keepsSession : ∀ (session : String × List (SessionCommitV3 Data)) (counts : ImportCounts)
      (state : σ), (∃ log, Holds state log) →
      ∃ log, Holds (importSession store counts session state).2 log :=
    fun session counts state start => Action.foldlM_invariant (fun state => ∃ log, Holds state log)
      (fun commit _ => keeps commit) counts start
  have listed : (bad, content bad) ∈ (archiveOf rules content ids exportedAt).sessions :=
    List.mem_map.mpr ⟨bad, member, rfl⟩
  obtain ⟨error, failed⟩ := Action.foldlM_rejects (fun state => ∃ log, Holds state log)
    (fun session _ => keepsSession session) listed rejects {} ⟨log, holds⟩
  refine ⟨error, ?_⟩
  unfold importSessionJournalV3
  rw [Action.check_bind_run (validatePortableSessionJournalV3_archiveOf kept lists canonical),
    Action.bind_run (implements.validateImportTarget_ok names holds lists first)]
  rw [Action.bind_rejects (Prod.ext failed rfl)]

end Import

end Stores

/-! ## The laws of a transfer -/

/-- A store that implements the commit log, with its empty state. -/
structure Journal (rules : SessionRules Data View) where
  State : Type
  store : SessionStore Data View State
  start : State
  naming : Naming
  Holds : State → CommitLog Data → Prop
  implements : Implements rules naming store Holds
  empty : Holds start fun _ => []
  names : ∀ id, safeId id = true → naming.names id = true

def sqliteJournal (rules : SessionRules Data View) : Journal rules where
  State := SqliteTables Data View
  store := sqliteSessionJournalV3 rules
  start := {}
  naming := .all
  Holds := SqliteHolds rules
  implements := sqlite_implements
  empty := SqliteHolds.empty
  names _ _ := rfl

def jsonlJournal (rules : SessionRules Data View) : Journal rules where
  State := JsonlDisk Data View
  store := jsonlSessionJournalV3 rules
  start := .fresh rules
  naming := jsonlNaming
  Holds := JsonlHolds rules
  implements := jsonl_implements
  empty := JsonlHolds.fresh
  names _ safe := safe

def Journal.after (journal : Journal rules) (inputs : List (SessionCommitV3 Data)) :
    Submissions Data journal.State :=
  Submissions.submitAll journal.store journal.start inputs

/-- The target holds of every session first commits of the source. -/
def HoldsPrefix {τ : Type} (target : Submissions Data τ) (source : Submissions Data σ) : Prop :=
  ∀ id, target.commitsOf id <+: source.commitsOf id

/-- What a transfer between two journals must do, when the source exports an archive. -/
structure TransferLaws [DecidableEq Data] (source target : Journal rules)
    (written : Submissions Data source.State) (held : Submissions Data target.State)
    (exportedAt : Timestamp) (archive : PortableSessionJournalV3 Data) : Prop where
  exported : exportSessionJournalV3 rules source.store exportedAt written.state =
    (.ok archive, written.state)
  /-- The import completes the target, which then exports the same archive; doing it again
  accepts no commit. -/
  completes : HoldsPrefix held written → ∃ report after,
    importSessionJournalV3 rules target.store archive held.state = (.ok report, after) ∧
    (exportSessionJournalV3 rules target.store exportedAt after).1 = .ok archive ∧
    ∃ again final, importSessionJournalV3 rules target.store archive after = (.ok again, final) ∧
      again.acceptedCommits = 0 ∧ target.store.SameCommits after final
  rejects : ¬ HoldsPrefix held written → ∃ error,
    importSessionJournalV3 rules target.store archive held.state = (.error error, held.state)

/-- At every instant the source exports an archive with which the transfer obeys the laws. -/
def Transfers [DecidableEq Data] (source target : Journal rules)
    (written : Submissions Data source.State) (held : Submissions Data target.State) : Prop :=
  ∀ exportedAt, exportedAt.Canonical →
    ∃ archive, TransferLaws source target written held exportedAt archive

/-- **A transfer obeys the laws exactly if the target is no prefix of the source or admits all of
its sessions.** -/
theorem Journal.transfers [DecidableEq Data] (source target : Journal rules)
    (written held : List (SessionCommitV3 Data)) :
    Transfers source target (source.after written) (target.after held) ↔
      (HoldsPrefix (target.after held) (source.after written) →
        ∀ id, (source.after written).commitsOf id ≠ [] → target.naming.admits id = true) := by
  obtain ⟨content, origin⟩ := tracks_submitAll source.implements source.empty written
  obtain ⟨log, tracks⟩ := tracks_submitAll target.implements target.empty held
  have kept := source.implements.kept origin.holds
  obtain ⟨listed, _, lists⟩ := source.implements.sorted_ids origin.holds
  have commits : (source.after written).commitsOf = content := funext origin.accepted
  have before : (target.after held).commitsOf = log := funext tracks.accepted
  have exported : ∀ {exportedAt : Timestamp}, exportedAt.Canonical →
      exportSessionJournalV3 rules source.store exportedAt (source.after written).state =
        (.ok (archiveOf rules content (sortIds listed) exportedAt), (source.after written).state) :=
    fun canonical => source.implements.run_exportSessionJournalV3 source.names origin.holds lists
      canonical
  unfold HoldsPrefix
  rw [commits, before]
  constructor
  · intro transfers first id present
    obtain ⟨exportedAt, written⟩ : ∃ instant, Timestamp.ofMs? 0 = some instant := ⟨_, rfl⟩
    have canonical := Timestamp.canonical_of_ofMs? written
    obtain ⟨archive, laws⟩ := transfers exportedAt canonical
    obtain rfl := Except.ok.inj (congrArg Prod.fst (laws.exported.symm.trans (exported canonical)))
    obtain ⟨report, after, accepted, _⟩ := laws.completes (by
      unfold HoldsPrefix
      rw [commits, before]
      exact first)
    by_contra refused
    rw [Bool.not_eq_true] at refused
    obtain ⟨error, rejected⟩ := target.implements.importSessionJournalV3_unadmitted target.names
      kept lists canonical ((lists.mem id).mpr present) refused tracks.holds first
    have both := rejected.symm.trans (congrArg Prod.fst accepted)
    cases both
  · intro admits exportedAt canonical
    refine ⟨_, exported canonical, fun first => ?_, fun differs => ?_⟩
    · unfold HoldsPrefix at first
      rw [commits, before] at first
      have admitted : ∀ id ∈ sortIds listed, target.naming.admits id = true :=
        fun id member => admits first id ((lists.mem id).mp member)
      obtain ⟨report, after, accepted, holds, _⟩ :=
        target.implements.run_importSessionJournalV3 target.names kept lists canonical admitted
          tracks.holds first
      obtain ⟨again, final, repeated, holds', count⟩ :=
        target.implements.run_importSessionJournalV3 target.names kept lists canonical admitted
          holds fun id => List.prefix_rfl
      refine ⟨report, after, accepted, ?_, again, final, repeated, ?_,
        target.implements.sameCommits holds holds'⟩
      · rw [target.implements.run_exportSessionJournalV3 target.names holds lists canonical]
      · simpa using count
    · unfold HoldsPrefix at differs
      rw [commits, before] at differs
      exact ⟨_, target.implements.importSessionJournalV3_rejects target.names kept lists canonical
        tracks.holds differs⟩

/-- **Every transfer into the SQLite journal obeys the laws, and a transfer into the JSONL journal
exactly if the target is no prefix of the source or no session of the source has an id longer than
109 characters.** -/
theorem transfers_iff [DecidableEq Data] (source : Journal rules)
    (written held : List (SessionCommitV3 Data)) :
    Transfers source (sqliteJournal rules) (source.after written)
        ((sqliteJournal rules).after held) ∧
      (Transfers source (jsonlJournal rules) (source.after written)
          ((jsonlJournal rules).after held) ↔
        (HoldsPrefix ((jsonlJournal rules).after held) (source.after written) →
          ∀ id, (source.after written).commitsOf id ≠ [] → id.length ≤ 109)) := by
  refine ⟨(source.transfers _ written held).mpr fun _ _ _ => rfl, ?_⟩
  rw [source.transfers]
  refine imp_congr_right fun _ => forall₂_congr fun id present => ?_
  obtain ⟨content, origin⟩ := tracks_submitAll source.implements source.empty written
  have kept := source.implements.kept origin.holds id
  have there : content id ≠ [] := by
    rw [← origin.accepted id]
    exact present
  have named : (jsonlJournal rules).naming.admits id = decide (id.length ≤ 109) :=
    jsonlNaming_admits (kept.safe there)
  rw [named, decide_eq_true_eq]

theorem commitsOf_single {store : SessionStore Data View σ} {start : σ}
    (accepted : (store.appendCommit start commit).1 = .ok (sessionCommitReceiptV3 commit false)) :
    (Submissions.submitAll store start [commit]).commitsOf commit.sessionId = [commit] := by
  simp only [Submissions.submitAll, List.foldl_cons, List.foldl_nil, Submissions.submit]
  rcases answer : store.appendCommit start commit with ⟨result, state⟩
  rw [answer] at accepted
  obtain rfl : result = .ok (sessionCommitReceiptV3 commit false) := accepted
  simp [Submissions.commitsOf, sessionCommitReceiptV3]

theorem sqlite_accepts_longCommit :
    ((sqliteJournal longRules).after [longCommit]).commitsOf longId = [longCommit] := by
  have kept : Kept longRules longId [longCommit] :=
    Kept.nil.append longCommit_valid rfl (by simp) rfl longCommit_reduces
  have holds : SqliteHolds longRules {} fun _ => [] := SqliteHolds.empty
  have accepted := (sqlite_implements.appendCommit holds longCommit).1
  rw [CommitLog.appendCommit_next kept rfl rfl] at accepted
  exact commitsOf_single accepted

theorem transfers_longId :
    ¬ Transfers (sqliteJournal longRules) (jsonlJournal longRules)
      ((sqliteJournal longRules).after [longCommit]) ((jsonlJournal longRules).after []) := by
  rw [Journal.transfers]
  intro admits
  have admitted := admits (fun _ => List.nil_prefix) longId (by simp [sqlite_accepts_longCommit])
  have refused : jsonlNaming.admits longId = false := longCommit_opens.unadmitted
  rw [show (jsonlJournal longRules).naming.admits longId = false from refused] at admitted
  cases admitted

end Praxis.Session
