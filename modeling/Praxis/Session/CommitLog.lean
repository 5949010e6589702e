import Praxis.Session.Reducer

/-!
# Commits and the commit log

A commit is validated on its own, against the commits of its session with which it shares an id or
a key, against the head of the session, and by the reducer. This module has these checks, as both
stores use them, and the abstract store behind them: a list of commits for every session, to which
`appendToLog` adds.

`Kept` is what every list of accepted commits satisfies, and `appendToLog_kept` that appending
keeps it. The specification of the operations on such a log is what both stores are compared with.
-/

namespace Praxis.Session

set_option autoImplicit false

open Praxis.Foundations
open Praxis.Workflow (safeId isSha256 positiveInteger nonNegativeInteger maxSafeInteger)

variable {Data View : Type} (rules : SessionRules Data View) {commits : List (SessionCommitV3 Data)}
  {sessionId : String}

/-! ## Validation of a commit -/

def maxCommitEntries : Nat := 1_024

def CreateSessionCommitInputV3.firstSequence (commit : CreateSessionCommitInputV3 Data) : Int :=
  (commit.entries.head?.map (·.sequence)).getD 0

def CreateSessionCommitInputV3.lastSequence (commit : CreateSessionCommitInputV3 Data) : Int :=
  (commit.entries.getLast?.map (·.sequence)).getD 0

def CreateSessionCommitInputV3.revision (commit : CreateSessionCommitInputV3 Data) : Int :=
  commit.expectedRevision + 1

def SessionEntryDataV3.creates : SessionEntryDataV3 Data → Bool
  | .sessionCreated _ => true
  | _ => false

/-- The entries belong to the commit and follow one another. -/
def entriesFit (commit : CreateSessionCommitInputV3 Data) : Bool :=
  (commit.entries.all fun entry =>
    entry.sessionId == commit.sessionId && entry.revision == commit.revision) &&
  (commit.entries.zip commit.entries.tail).all fun pair =>
    pair.2.sequence == pair.1.sequence + 1

/-- A session is created by the first entry of its first commit, and by no later commit. -/
def creationFits (commit : CreateSessionCommitInputV3 Data) : Bool :=
  if commit.expectedRevision = 0 then
    commit.firstSequence == 1 && commit.entries.head?.any fun entry => entry.data.creates
  else !commit.entries.any fun entry => entry.data.creates

def validateSessionCommitV3 (input : SessionCommitV3 Data) :
    Except SessionError (SessionCommitV3 Data) := do
  ensure (safeId input.sessionId && safeId input.commitId &&
    nonNegativeInteger input.expectedRevision && safeId input.idempotencyKey &&
    !input.entries.isEmpty && decide (input.entries.length ≤ maxCommitEntries) &&
    isSha256 input.checksum) .sessionCommitInvalid
  let entries ← input.entries.mapM (validateSessionEntryV3 rules)
  let canonical := { input.toCreateSessionCommitInputV3 with entries }
  ensure (entriesFit canonical) .sessionCommitInvalid
  ensure (creationFits canonical) .sessionCommitInvalid
  ensure (rules.checksum canonical == input.checksum) .sessionCommitChecksumInvalid
  return { canonical with checksum := input.checksum }

def createSessionCommitV3 (input : CreateSessionCommitInputV3 Data) :
    Except SessionError (SessionCommitV3 Data) :=
  validateSessionCommitV3 rules { input with checksum := rules.checksum input }

def assertSessionCommitAgainstHeadV3 (commit : SessionCommitV3 Data)
    (head : Option SessionJournalHeadV3) : Except SessionError Unit := do
  ensure (commit.expectedRevision == (head.map (·.revision)).getD 0)
    .sessionCommitRevisionConflict
  ensure (commit.firstSequence == (head.map (·.sequence)).getD 0 + 1)
    .sessionCommitSequenceConflict

def sessionCommitReceiptV3 (commit : SessionCommitV3 Data) (duplicate : Bool) :
    SessionCommitReceiptV3 where
  sessionId := commit.sessionId
  commitId := commit.commitId
  idempotencyKey := commit.idempotencyKey
  revision := commit.revision
  firstSequence := commit.firstSequence
  lastSequence := commit.lastSequence
  entryIds := commit.entries.map (·.entryId)
  checksum := commit.checksum
  duplicate := duplicate

/-- Why stored data is rejected, whatever was wrong with it. -/
def orInvalidData {α : Type} : Except SessionError α → Except SessionError α
  | .ok value => .ok value
  | .error _ => .error .persistenceInvalidData

@[simp] theorem orInvalidData_ok {α : Type} (value : α) :
    orInvalidData (.ok value) = .ok value := rfl

def maxReadPage : Int := 512

/-- The check of a read, the same in both stores. -/
def validateReadInput (input : ReadSessionEntriesInputV3) : Except SessionError Unit :=
  ensure (safeId input.sessionId && input.afterSequence.all nonNegativeInteger &&
    (input.limit.all fun limit => decide (1 ≤ limit ∧ limit ≤ maxReadPage)) &&
    input.throughSequence.all nonNegativeInteger) .sessionReadInvalid

/-! ## The commits of a session -/

/-- The commit has the id or the idempotency key of the other. -/
def SessionCommitV3.shares (candidate existing : SessionCommitV3 Data) : Bool :=
  existing.commitId == candidate.commitId || existing.idempotencyKey == candidate.idempotencyKey

/-- The commit has the ids and the checksum of the other. -/
def SessionCommitV3.repeats (candidate existing : SessionCommitV3 Data) : Bool :=
  existing.commitId == candidate.commitId && existing.idempotencyKey == candidate.idempotencyKey &&
    existing.checksum == candidate.checksum

/-- The loop over the commits of a session. -/
def findDuplicate (candidate : SessionCommitV3 Data) :
    List (SessionCommitV3 Data) → Except SessionError (Option (SessionCommitV3 Data))
  | [] => .ok none
  | existing :: rest =>
    if !candidate.shares existing then findDuplicate candidate rest
    else if !candidate.repeats existing then .error .sessionCommitIdempotencyConflict
    else .ok (some existing)

def flattenEntries (commits : List (SessionCommitV3 Data)) : List (SessionEntryV3 Data) :=
  commits.flatMap (·.entries)

def head (entries : List (SessionEntryV3 Data)) : Option SessionJournalHeadV3 :=
  entries.getLast?.map fun last => { revision := last.revision, sequence := last.sequence }

def projectionOf (commits : List (SessionCommitV3 Data)) :
    Option (SessionProjectionV3 Data View) :=
  (reduceSessionEntriesV3 rules (flattenEntries commits)).toOption

def appendToLog (commits : List (SessionCommitV3 Data)) (commit : SessionCommitV3 Data) :
    Except SessionError (SessionCommitReceiptV3 × List (SessionCommitV3 Data)) := do
  match ← findDuplicate commit commits with
  | some duplicate => return (sessionCommitReceiptV3 duplicate true, commits)
  | none =>
    assertSessionCommitAgainstHeadV3 commit (head (flattenEntries commits))
    let _ ← reduceSessionEntriesV3 rules (flattenEntries commits ++ commit.entries)
    return (sessionCommitReceiptV3 commit false, commits ++ [commit])

section Validation

variable {rules}

structure ValidCommit (rules : SessionRules Data View) (commit : SessionCommitV3 Data) : Prop where
  sessionId : safeId commit.sessionId = true
  nonempty : commit.entries ≠ []
  entries : ∀ entry ∈ commit.entries, validateSessionEntryV3 rules entry = .ok entry
  session : ∀ entry ∈ commit.entries, entry.sessionId = commit.sessionId
  revision : ∀ entry ∈ commit.entries, entry.revision = commit.revision

theorem validateSessionCommitV3_ok {input commit : SessionCommitV3 Data}
    (accepted : validateSessionCommitV3 rules input = .ok commit) :
    commit = input ∧ ValidCommit rules input := by
  simp only [validateSessionCommitV3, bind_eq_ok, ensure_eq_ok, pure_eq_ok, exists_const,
    Bool.and_eq_true, Bool.not_eq_true', List.isEmpty_eq_false_iff] at accepted
  obtain ⟨⟨⟨⟨⟨⟨⟨session, _⟩, _⟩, _⟩, nonempty⟩, _⟩, _⟩, entries, checked, fit, _, _, rfl⟩ := accepted
  have returns : ∀ {entry result : SessionEntryV3 Data},
      validateSessionEntryV3 rules entry = .ok result → result = entry :=
    fun accepted => (validateSessionEntryV3_ok accepted).1
  obtain ⟨rfl, valid⟩ := mapM_returns returns checked
  simp only [entriesFit, Bool.and_eq_true, List.all_eq_true, beq_iff_eq] at fit
  exact ⟨rfl, session, nonempty, valid, fun entry member => (fit.1 entry member).1,
    fun entry member => (fit.1 entry member).2⟩

end Validation

/-! ## Commits with a shared id or key -/

section Duplicates

variable {commits : List (SessionCommitV3 Data)} {candidate existing : SessionCommitV3 Data}

theorem findDuplicate_eq (candidate : SessionCommitV3 Data) (commits : List (SessionCommitV3 Data)) :
    findDuplicate candidate commits =
      match commits.find? (fun existing => candidate.shares existing) with
      | none => .ok none
      | some existing =>
        if candidate.repeats existing then .ok (some existing)
        else .error .sessionCommitIdempotencyConflict := by
  induction commits with
  | nil => rfl
  | cons first rest ih =>
    by_cases shared : candidate.shares first = true
    · by_cases repeated : candidate.repeats first = true <;>
        simp [findDuplicate, shared, repeated]
    · rw [Bool.not_eq_true] at shared
      simp [findDuplicate, shared, ih]

@[simp] theorem shares_iff :
    candidate.shares existing = true ↔
      existing.commitId = candidate.commitId ∨
        existing.idempotencyKey = candidate.idempotencyKey := by
  simp [SessionCommitV3.shares]

@[simp] theorem repeats_iff :
    candidate.repeats existing = true ↔
      (existing.commitId = candidate.commitId ∧
        existing.idempotencyKey = candidate.idempotencyKey) ∧
        existing.checksum = candidate.checksum := by
  simp [SessionCommitV3.repeats]

theorem SessionCommitV3.repeats.shares (repeated : candidate.repeats existing = true) :
    candidate.shares existing = true :=
  shares_iff.mpr (.inl (repeats_iff.mp repeated).1.1)

theorem findDuplicate_fresh (fresh : ∀ existing ∈ commits, candidate.shares existing = false) :
    findDuplicate candidate commits = .ok none := by
  have none : commits.find? (fun existing => candidate.shares existing) = none :=
    List.find?_eq_none.mpr fun existing member => by simp [fresh existing member]
  rw [findDuplicate_eq, none]

theorem findDuplicate_ok {found : Option (SessionCommitV3 Data)}
    (accepted : findDuplicate candidate commits = .ok found) :
    (∃ existing ∈ commits, candidate.repeats existing = true ∧ found = some existing) ∨
      ((∀ existing ∈ commits, candidate.shares existing = false) ∧ found = none) := by
  rw [findDuplicate_eq] at accepted
  cases first : commits.find? fun existing => candidate.shares existing with
  | none =>
    rw [first] at accepted
    refine .inr ⟨fun existing member => ?_, (Except.ok.inj accepted).symm⟩
    exact Bool.not_eq_true _ ▸ List.find?_eq_none.mp first existing member
  | some existing =>
    simp only [first] at accepted
    by_cases repeated : candidate.repeats existing = true
    · rw [if_pos repeated] at accepted
      exact .inl ⟨existing, List.mem_of_find?_eq_some first, repeated,
        (Except.ok.inj accepted).symm⟩
    · rw [if_neg repeated] at accepted
      cases accepted

/-- The commits of a list have different ids and different keys. -/
structure Distinct (commits : List (SessionCommitV3 Data)) : Prop where
  commitIds : (commits.map (·.commitId)).Nodup
  keys : (commits.map (·.idempotencyKey)).Nodup

theorem Distinct.eq (distinct : Distinct commits) {other : SessionCommitV3 Data}
    (member : existing ∈ commits) (member' : other ∈ commits)
    (shared : existing.commitId = other.commitId ∨
      existing.idempotencyKey = other.idempotencyKey) : existing = other := by
  rcases shared with sameId | sameKey
  · exact List.inj_on_of_nodup_map distinct.commitIds member member' sameId
  · exact List.inj_on_of_nodup_map distinct.keys member member' sameKey

theorem Distinct.findDuplicate_repeats (distinct : Distinct commits) (member : existing ∈ commits)
    (repeated : candidate.repeats existing = true) :
    findDuplicate candidate commits = .ok (some existing) := by
  rw [findDuplicate_eq]
  cases first : commits.find? fun existing => candidate.shares existing with
  | none =>
    have apart := List.find?_eq_none.mp first existing member
    exact absurd (SessionCommitV3.repeats.shares repeated) apart
  | some other =>
    have shared := shares_iff.mp (List.find?_some first)
    have ids := (repeats_iff.mp repeated).1
    have same : other = existing := by
      refine distinct.eq (List.mem_of_find?_eq_some first) member ?_
      rw [ids.1, ids.2]
      exact shared
    subst same
    simp only [if_pos repeated]

theorem Distinct.findDuplicate_conflict (distinct : Distinct commits) (member : existing ∈ commits)
    (shared : candidate.shares existing = true) (differs : candidate.repeats existing = false) :
    findDuplicate candidate commits = .error .sessionCommitIdempotencyConflict := by
  rw [findDuplicate_eq]
  cases first : commits.find? fun existing => candidate.shares existing with
  | none =>
    have apart := List.find?_eq_none.mp first existing member
    exact absurd shared apart
  | some other =>
    by_cases repeated : candidate.repeats other = true
    · have ids := (repeats_iff.mp repeated).1
      have same : existing = other := by
        refine distinct.eq member (List.mem_of_find?_eq_some first) ?_
        rw [ids.1, ids.2]
        exact shares_iff.mp shared
      subst same
      rw [repeated] at differs
      cases differs
    · simp only [if_neg repeated]

end Duplicates

/-! ## Lists of accepted commits -/

structure Kept (rules : SessionRules Data View) (sessionId : String)
    (commits : List (SessionCommitV3 Data)) : Prop where
  valid : ∀ commit ∈ commits, validateSessionCommitV3 rules commit = .ok commit
  session : ∀ commit ∈ commits, commit.sessionId = sessionId
  revisions : commits.map (·.revision) = numbersTo commits.length
  distinct : Distinct commits
  reduces : ∀ front, front <+: commits → front ≠ [] →
    ∃ projection, reduceSessionEntriesV3 rules (flattenEntries front) = .ok projection

@[simp] theorem flattenEntries_nil : flattenEntries ([] : List (SessionCommitV3 Data)) = [] := rfl

@[simp] theorem flattenEntries_append (front back : List (SessionCommitV3 Data)) :
    flattenEntries (front ++ back) = flattenEntries front ++ flattenEntries back :=
  List.flatMap_append

@[simp] theorem flattenEntries_singleton (commit : SessionCommitV3 Data) :
    flattenEntries [commit] = commit.entries := by
  simp [flattenEntries]

namespace Kept

variable {rules} {sessionId : String} {commits : List (SessionCommitV3 Data)}

theorem nil : Kept rules sessionId ([] : List (SessionCommitV3 Data)) where
  valid := by simp
  session := by simp
  revisions := rfl
  distinct := ⟨List.nodup_nil, List.nodup_nil⟩
  reduces := fun _ first nonempty => absurd (List.prefix_nil.mp first) nonempty

variable (kept : Kept rules sessionId commits) {commit : SessionCommitV3 Data}

include kept

theorem reduced (nonempty : commits ≠ []) :
    ∃ projection, reduceSessionEntriesV3 rules (flattenEntries commits) = .ok projection :=
  kept.reduces commits List.prefix_rfl nonempty

theorem validCommit (member : commit ∈ commits) :
    ValidCommit rules commit :=
  (validateSessionCommitV3_ok (kept.valid commit member)).2

theorem safe (nonempty : commits ≠ []) : safeId sessionId = true := by
  obtain ⟨commit, member⟩ := List.exists_mem_of_ne_nil commits nonempty
  rw [← kept.session commit member]
  exact (kept.validCommit member).sessionId

theorem flattenEntries_ne_nil (nonempty : commits ≠ []) : flattenEntries commits ≠ [] := by
  obtain ⟨commit, member⟩ := List.exists_mem_of_ne_nil commits nonempty
  intro empty
  exact (kept.validCommit member).nonempty (List.flatMap_eq_nil_iff.mp empty commit member)

theorem head_eq (nonempty : commits ≠ []) :
    head (flattenEntries commits) = some
      { revision := commits.length
        sequence := (flattenEntries commits).length } := by
  obtain ⟨projection, reduced⟩ := kept.reduced nonempty
  obtain ⟨last, place, _, _⟩ := (reduceSessionEntriesV3_projected reduced).head
  have sequence : last.sequence = (flattenEntries commits).length := by
    have numbers := congrArg List.getLast? (reduceSessionEntriesV3_projected reduced).sequences
    rw [List.getLast?_map, place] at numbers
    cases count : (flattenEntries commits).length with
    | zero =>
      have empty := List.length_eq_zero_iff.mp count
      exact absurd empty (kept.flattenEntries_ne_nil nonempty)
    | succ before =>
      rw [count, numbersTo_succ, List.getLast?_append] at numbers
      simpa using numbers
  have revision : last.revision = commits.length := by
    obtain ⟨front, final, rfl⟩ := (List.eq_nil_or_concat' commits).resolve_left nonempty
    have member : final ∈ front ++ [final] := by simp
    have entries := (kept.validCommit member).nonempty
    have there : final.entries.getLast? = some last := by
      rw [flattenEntries_append, flattenEntries_singleton, List.getLast?_append_of_ne_nil _ entries]
        at place
      exact place
    have number := congrArg List.getLast? kept.revisions
    rw [List.length_append, List.length_singleton, numbersTo_succ] at number
    simp only [List.map_append, List.map_singleton, List.getLast?_append, List.getLast?_singleton,
      Option.some_or, Option.some.injEq] at number
    rw [(kept.validCommit member).revision last (List.mem_of_getLast? there), number]
    simp
  rw [head, place, Option.map_some, sequence, revision]

theorem sequences :
    (flattenEntries commits).map (·.sequence) = numbersTo (flattenEntries commits).length := by
  by_cases empty : commits = []
  · subst empty
    rfl
  · obtain ⟨projection, reduced⟩ := kept.reduced empty
    exact (reduceSessionEntriesV3_projected reduced).sequences

theorem assertSessionCommitAgainstHeadV3_ok {done : Unit} :
    assertSessionCommitAgainstHeadV3 commit (head (flattenEntries commits)) = .ok done ↔
      commit.expectedRevision = commits.length ∧
        commit.firstSequence = (flattenEntries commits).length + 1 := by
  by_cases empty : commits = []
  · subst empty
    simp [assertSessionCommitAgainstHeadV3, head]
  · simp [assertSessionCommitAgainstHeadV3, kept.head_eq empty]

theorem append (valid : validateSessionCommitV3 rules commit = .ok commit)
    (session : commit.sessionId = sessionId)
    (fresh : ∀ existing ∈ commits, commit.shares existing = false)
    (next : commit.expectedRevision = commits.length)
    (reduces : ∃ projection, reduceSessionEntriesV3 rules
      (flattenEntries commits ++ commit.entries) = .ok projection) :
    Kept rules sessionId (commits ++ [commit]) := by
  have apart : ∀ existing ∈ commits, existing.commitId ≠ commit.commitId ∧
      existing.idempotencyKey ≠ commit.idempotencyKey := by
    intro existing member
    have different := fresh existing member
    rw [← Bool.not_eq_true, shares_iff, not_or] at different
    exact different
  constructor
  case valid =>
    intro other member
    rcases List.mem_append.mp member with before | new
    · exact kept.valid other before
    · obtain rfl := List.mem_singleton.mp new
      exact valid
  case session =>
    intro other member
    rcases List.mem_append.mp member with before | new
    · exact kept.session other before
    · obtain rfl := List.mem_singleton.mp new
      exact session
  case revisions =>
    rw [List.map_append, kept.revisions, List.length_append, List.length_singleton, numbersTo_succ]
    simp [CreateSessionCommitInputV3.revision, next]
  case distinct =>
    constructor
    · rw [List.map_append, List.map_singleton]
      refine List.Nodup.append kept.distinct.commitIds (List.nodup_singleton _) ?_
      rw [List.disjoint_singleton, List.mem_map]
      rintro ⟨existing, member, same⟩
      exact (apart existing member).1 same
    · rw [List.map_append, List.map_singleton]
      refine List.Nodup.append kept.distinct.keys (List.nodup_singleton _) ?_
      rw [List.disjoint_singleton, List.mem_map]
      rintro ⟨existing, member, same⟩
      exact (apart existing member).2 same
  case reduces =>
    intro front first nonempty
    rcases List.prefix_concat_iff.mp first with rfl | earlier
    · rw [flattenEntries_append, flattenEntries_singleton]
      exact reduces
    · exact kept.reduces front earlier nonempty

variable {front back : List (SessionCommitV3 Data)}

omit kept in
theorem prefix_ (kept : Kept rules sessionId (front ++ back)) : Kept rules sessionId front := by
  have numbers := kept.revisions
  rw [List.map_append] at numbers
  constructor
  case valid => exact fun commit member => kept.valid commit (List.mem_append_left back member)
  case session => exact fun commit member => kept.session commit (List.mem_append_left back member)
  case revisions => simpa using numbersTo_prefix numbers
  case distinct =>
    have distinct := kept.distinct
    refine ⟨?_, ?_⟩
    · exact distinct.commitIds.sublist ((List.sublist_append_left front back).map _)
    · exact distinct.keys.sublist ((List.sublist_append_left front back).map _)
  case reduces =>
    intro shorter first nonempty
    exact kept.reduces shorter (first.trans (List.prefix_append front back)) nonempty

omit kept in
theorem continues (kept : Kept rules sessionId (front ++ commit :: back)) :
    assertSessionCommitAgainstHeadV3 commit (head (flattenEntries front)) = .ok () := by
  have revision : commit.revision = front.length + 1 := by
    have numbers := kept.revisions
    rw [List.map_append, List.map_cons] at numbers
    simpa using numbersTo_next numbers
  have member : commit ∈ front ++ commit :: back := by simp
  have sequence : commit.firstSequence = (flattenEntries front).length + 1 := by
    obtain ⟨projection, reduced⟩ := kept.reduced (List.append_ne_nil_of_right_ne_nil front (by simp))
    have numbers := (reduceSessionEntriesV3_projected reduced).sequences
    obtain ⟨entry, rest, entries⟩ := List.exists_cons_of_ne_nil (kept.validCommit member).nonempty
    rw [CreateSessionCommitInputV3.firstSequence, entries]
    rw [flattenEntries_append, ← List.singleton_append, flattenEntries_append,
      flattenEntries_singleton, entries] at numbers
    simp only [List.cons_append, List.map_append, List.map_cons] at numbers
    simpa using numbersTo_next numbers
  rw [(Kept.prefix_ kept).assertSessionCommitAgainstHeadV3_ok]
  exact ⟨by rw [CreateSessionCommitInputV3.revision] at revision; omega, sequence⟩

end Kept

section Appending

variable {rules} {commits next : List (SessionCommitV3 Data)} {commit : SessionCommitV3 Data}
  {receipt : SessionCommitReceiptV3}

theorem appendToLog_ok (accepted : appendToLog rules commits commit = .ok (receipt, next)) :
    (∃ existing ∈ commits, commit.repeats existing = true ∧
      receipt = sessionCommitReceiptV3 existing true ∧ next = commits) ∨
    ((∀ existing ∈ commits, commit.shares existing = false) ∧
      assertSessionCommitAgainstHeadV3 commit (head (flattenEntries commits)) = .ok () ∧
      (∃ projection, reduceSessionEntriesV3 rules
        (flattenEntries commits ++ commit.entries) = .ok projection) ∧
      receipt = sessionCommitReceiptV3 commit false ∧ next = commits ++ [commit]) := by
  simp only [appendToLog, bind_eq_ok] at accepted
  obtain ⟨found, looked, accepted⟩ := accepted
  rcases findDuplicate_ok looked with ⟨existing, member, repeated, rfl⟩ | ⟨fresh, rfl⟩
  · simp only [pure_eq_ok, Prod.mk.injEq] at accepted
    obtain ⟨rfl, rfl⟩ := accepted
    exact .inl ⟨existing, member, repeated, rfl, rfl⟩
  · simp only [bind_eq_ok, pure_eq_ok, Prod.mk.injEq] at accepted
    obtain ⟨_, asserted, projection, reduced, rfl, rfl⟩ := accepted
    exact .inr ⟨fresh, asserted, ⟨projection, reduced⟩, rfl, rfl⟩

theorem appendToLog_refused {error : SessionError}
    (refused : appendToLog rules commits commit = .error error) :
    findDuplicate commit commits = .error error ∨ findDuplicate commit commits = .ok none ∧
      (assertSessionCommitAgainstHeadV3 commit (head (flattenEntries commits)) = .error error ∨
        assertSessionCommitAgainstHeadV3 commit (head (flattenEntries commits)) = .ok () ∧
          reduceSessionEntriesV3 rules (flattenEntries commits ++ commit.entries) =
            .error error) := by
  rw [appendToLog] at refused
  cases found : findDuplicate commit commits with
  | error other =>
    rw [found, error_bind] at refused
    exact .inl (congrArg Except.error (Except.error.inj refused))
  | ok result =>
    rw [found, ok_bind] at refused
    cases result with
    | some existing => cases refused
    | none =>
      refine .inr ⟨rfl, ?_⟩
      dsimp only at refused
      cases follows : assertSessionCommitAgainstHeadV3 commit (head (flattenEntries commits)) with
      | error other =>
        rw [follows, error_bind] at refused
        exact .inl (congrArg Except.error (Except.error.inj refused))
      | ok =>
        rw [follows, ok_bind] at refused
        cases reduced : reduceSessionEntriesV3 rules (flattenEntries commits ++ commit.entries) with
        | error other =>
          rw [reduced, error_bind] at refused
          exact .inr ⟨rfl, congrArg Except.error (Except.error.inj refused)⟩
        | ok projection =>
          rw [reduced] at refused
          cases refused

theorem Kept.appendToLog {sessionId : String} (kept : Kept rules sessionId commits)
    (valid : validateSessionCommitV3 rules commit = .ok commit)
    (session : commit.sessionId = sessionId)
    (accepted : appendToLog rules commits commit = .ok (receipt, next)) :
    Kept rules sessionId next := by
  rcases appendToLog_ok accepted with ⟨_, _, _, _, rfl⟩ | ⟨fresh, asserted, reduces, _, rfl⟩
  · exact kept
  · exact kept.append valid session fresh
      (kept.assertSessionCommitAgainstHeadV3_ok.mp asserted).1 reduces

end Appending

variable {rules}

variable {projection : SessionProjectionV3 Data View}

theorem projectionOf_eq_some :
    projectionOf rules commits = some projection ↔
      reduceSessionEntriesV3 rules (flattenEntries commits) = .ok projection := by
  unfold projectionOf
  cases reduceSessionEntriesV3 rules (flattenEntries commits) <;> simp [Except.toOption]

theorem projectionOf_nil : projectionOf rules ([] : List (SessionCommitV3 Data)) = none := by
  simp [projectionOf, reduceSessionEntriesV3, ensure, Except.toOption, bind, Except.bind]

theorem Kept.projection_session
    (kept : Kept rules sessionId commits) (reduced : projectionOf rules commits = some projection) :
    projection.snapshot.sessionId = sessionId ∧ projection.catalog.sessionId = sessionId := by
  have projected := reduceSessionEntriesV3_projected (projectionOf_eq_some.mp reduced)
  obtain ⟨last, place, _⟩ := projected.head
  have member := List.mem_of_getLast? place
  obtain ⟨commit, owner, entry⟩ := List.mem_flatMap.mp member
  have session : projection.snapshot.sessionId = sessionId := by
    rw [← projected.session last member, (kept.validCommit owner).session last entry,
      kept.session commit owner]
  exact ⟨session, projected.catalog.trans session⟩

theorem Kept.exists_projection (kept : Kept rules sessionId commits) (nonempty : commits ≠ []) :
    ∃ projection, projectionOf rules commits = some projection := by
  obtain ⟨projection, reduced⟩ := kept.reduced nonempty
  exact ⟨projection, projectionOf_eq_some.mpr reduced⟩

end Praxis.Session
