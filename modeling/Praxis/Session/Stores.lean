import Praxis.Session.CommitLog

/-!
# Session journal stores

The operations that both stores offer, and what it means that a store implements the commit log:
it answers every call as the log does, a rejected call and a read leave its state as it is, and its
state afterwards stands for the log afterwards.

A store may admit fewer sessions than the log, and may refuse to name some ids. Two stores that
implement the log answer alike as long as neither is asked about such an id.
-/

namespace Praxis.Session

set_option autoImplicit false

open Praxis.Foundations

/-! ## The operations of a store -/

/-- A session journal with its operations, each of them atomic, on a state of the store. -/
structure SessionStore (Data View σ : Type) where
  appendCommit : σ → SessionCommitV3 Data → Except SessionError SessionCommitReceiptV3 × σ
  readEntries : σ → ReadSessionEntriesInputV3 →
    Except SessionError (SessionEntryPageV3 Data) × σ
  readCommits : σ → String → Except SessionError (List (SessionCommitV3 Data)) × σ
  listSessionIds : σ → Except SessionError (List String) × σ
  listRecoverableSessionIds : σ → Except SessionError (List String) × σ
  loadCachedProjection : σ → String →
    Except SessionError (SessionProjectionV3 Data View) × σ

variable {Data View σ : Type} (rules : SessionRules Data View) {P : String → Prop}
  {ids : List String}

/-! ## The commit log -/

/-- The commits of every session. -/
abbrev CommitLog (Data : Type) := String → List (SessionCommitV3 Data)

/-- Which sessions a store takes commits of, and which ids it can name. -/
structure Naming where
  admits : String → Bool
  names : String → Bool

/-- Every id. -/
def Naming.all : Naming where
  admits _ := true
  names _ := true

namespace CommitLog

variable (naming : Naming) (log : CommitLog Data)

def appendCommit (input : SessionCommitV3 Data) :
    Except SessionError SessionCommitReceiptV3 × CommitLog Data :=
  match validateSessionCommitV3 rules input with
  | .error error => (.error error, log)
  | .ok commit =>
    if !naming.admits commit.sessionId then (.error .sessionIdInvalid, log)
    else
      match appendToLog rules (log commit.sessionId) commit with
      | .error error => (.error error, log)
      | .ok (receipt, commits) => (.ok receipt, Function.update log commit.sessionId commits)

def readEntries (input : ReadSessionEntriesInputV3) :
    Except SessionError (SessionEntryPageV3 Data) := do
  validateReadInput input
  let entries := flattenEntries (log input.sessionId)
  let currentHead ← orError .sessionNotFound (head entries)
  let through := input.throughSequence.getD currentHead.sequence
  ensure (decide (through ≤ currentHead.sequence)) .sessionReadInvalid
  let after := input.afterSequence.getD 0
  let selected := (entries.filter fun entry =>
    decide (after < entry.sequence ∧ entry.sequence ≤ through)).take
      (input.limit.getD maxReadPage).toNat
  let nextAfterSequence := (selected.getLast?.map (·.sequence)).getD after
  return {
      sessionId := input.sessionId
      entries := selected
      nextAfterSequence
      hasMore := decide (nextAfterSequence < through)
      head := currentHead }

def readCommits (sessionId : String) : Except SessionError (List (SessionCommitV3 Data)) := do
  ensure (naming.names sessionId) .sessionIdInvalid
  ensure (!(log sessionId).isEmpty) .sessionNotFound
  return log sessionId

def loadCachedProjection (sessionId : String) :
    Except SessionError (SessionProjectionV3 Data View) := do
  ensure (naming.names sessionId) .sessionIdInvalid
  orError .sessionNotFound (projectionOf rules (log sessionId))

/-- The session has commits. -/
def Present (sessionId : String) : Prop := log sessionId ≠ []

/-- The session has commits, and one of its runs may be recovered. -/
def Recoverable (sessionId : String) : Prop :=
  ∃ projection, projectionOf rules (log sessionId) = some projection ∧
    projectionHasRecoverableRun projection = true

end CommitLog

/-- The ids with a property, in the order of their characters. -/
structure Lists (P : String → Prop) (ids : List String) : Prop where
  sorted : ids.Pairwise (· < ·)
  mem : ∀ id, id ∈ ids ↔ P id

theorem Lists.nodup (lists : Lists P ids) : ids.Nodup :=
  lists.sorted.imp fun {first second} (less : first < second) (same : first = second) =>
    String.lt_irrefl second (same ▸ less)

theorem Lists.unique {ids' : List String} (first : Lists P ids)
    (second : Lists P ids') : ids = ids' := by
  have perm : ids.Perm ids' := (List.perm_ext_iff_of_nodup first.nodup second.nodup).mpr
    fun id => (first.mem id).trans (second.mem id).symm
  have never : ∀ a b, a ∈ ids → b ∈ ids' → a < b → b < a → a = b :=
    fun _ _ _ _ less more => absurd more (String.lt_asymm less)
  exact List.Perm.eq_of_pairwise never first.sorted second.sorted perm

theorem Lists.of_sorted {source : List String} (perm : ids.Perm source)
    (sorted : ids.Pairwise (· ≤ ·)) (nodup : source.Nodup) (mem : ∀ id, id ∈ source ↔ P id) :
    Lists P ids where
  sorted := by
    have apart : ids.Pairwise (· ≠ ·) := perm.nodup_iff.mpr nodup
    refine (sorted.and apart).imp fun {first second} both => ?_
    rcases Decidable.em (first < second) with less | more
    · exact less
    · exact absurd (String.le_antisymm both.1 (String.not_lt.mp more)) both.2
  mem id := (perm.mem_iff).trans (mem id)

/-- Ids in the order of their characters. -/
def sortIds (ids : List String) : List String :=
  ids.mergeSort fun left right => decide (left ≤ right)

theorem sortIds_perm (ids : List String) : (sortIds ids).Perm ids :=
  List.mergeSort_perm ids _

theorem sortIds_sorted (ids : List String) : (sortIds ids).Pairwise (· ≤ ·) := by
  have trans : ∀ a b c : String, decide (a ≤ b) = true → decide (b ≤ c) = true →
      decide (a ≤ c) = true :=
    fun _ _ _ first second => decide_eq_true
      (String.le_trans (of_decide_eq_true first) (of_decide_eq_true second))
  have total : ∀ a b : String, (decide (a ≤ b) || decide (b ≤ a)) = true :=
    fun a b => by simpa using String.le_total a b
  exact (List.pairwise_mergeSort trans total ids).imp fun less => of_decide_eq_true less

theorem Lists.sortIds (nodup : ids.Nodup) (mem : ∀ id, id ∈ ids ↔ P id) : Lists P (sortIds ids) :=
  .of_sorted (sortIds_perm ids) (sortIds_sorted ids) nodup mem

/-! ## Implementing the log -/

/-- The store answers as the commit log does, in every state that stands for a log. -/
structure Implements (naming : Naming) (store : SessionStore Data View σ)
    (Holds : σ → CommitLog Data → Prop) : Prop where
  kept : ∀ {state log}, Holds state log → ∀ id, Kept rules id (log id)
  appendCommit : ∀ {state log}, Holds state log → ∀ input,
    (store.appendCommit state input).1 = (log.appendCommit rules naming input).1 ∧
      Holds (store.appendCommit state input).2 (log.appendCommit rules naming input).2
  rejects : ∀ {state log}, Holds state log → ∀ input error,
    (store.appendCommit state input).1 = .error error →
    (store.appendCommit state input).2 = state
  readEntries : ∀ {state log}, Holds state log → ∀ input,
    store.readEntries state input = (log.readEntries input, state)
  readCommits : ∀ {state log}, Holds state log → ∀ id,
    store.readCommits state id = (log.readCommits naming id, state)
  listSessionIds : ∀ {state log}, Holds state log → ∃ ids,
    store.listSessionIds state = (.ok ids, state) ∧ Lists log.Present ids
  listRecoverableSessionIds : ∀ {state log}, Holds state log → ∃ ids,
    store.listRecoverableSessionIds state = (.ok ids, state) ∧ Lists (log.Recoverable rules) ids
  loadCachedProjection : ∀ {state log}, Holds state log → ∀ id,
    store.loadCachedProjection state id = (log.loadCachedProjection rules naming id, state)

end Praxis.Session
