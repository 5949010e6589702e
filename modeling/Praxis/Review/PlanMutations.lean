import Praxis.Review.PlanCalls

/-!
# Plan mutations happen once

A mutation is known by its origin. The commit of a mutation has an id that is a digest of the
origin, and the journal keeps no two commits of one id: so the events of an origin stand in one
commit, and no later commit adds to them. What a replay finds is then found again at any later time
(`findReplay_grows`), and a call whose payload has another digest than the events of its origin finds
a conflict, wherever it stands (`Overtaken`).

Every call comes to an end after `CallPhase.rank` steps of its own, so that such a call is rejected.
-/

namespace Praxis.Review

set_option autoImplicit false

open Praxis.Foundations
open Praxis.Session (SessionProjectionV3 SessionRules SessionEntryV3 SessionEntryDataV3 SessionCommitV3
  CreateSessionCommitInputV3 SessionError createSessionCommitV3 validateSessionEntryV3
  validateSessionCommitV3 reduceSessionEntriesV3 appendToLog flattenEntries Kept numbersTo
  validateSessionCommitV3_ok validateSessionEntryV3_ok appendToLog_ok numbersTo_after
  le_of_mem_numbersTo shares_iff)

variable {Check Other View : Type}

/-! ## The events of a mutation -/

section Drafts

variable {origin : ReviewPlanMutationOriginV1} {digest : String}

def DraftsOf (origin : ReviewPlanMutationOriginV1) (digest : String)
    (drafts : List (EventDraft Check Other)) : Prop :=
  ∀ draft ∈ drafts, ∀ event, draft.data = .review event →
    event.origin = origin ∧ event.mutationDigest = digest

theorem DraftsOf.nil : DraftsOf origin digest ([] : List (EventDraft Check Other)) := by
  simp [DraftsOf]

variable {rest : List (EventDraft Check Other)} {fact : VerifiedPlanControlFactV1} {planId : String}

theorem DraftsOf.review {planRevision : Int} {data : ReviewPlanEventDataV1 Check}
    {runId : Option String} (others : DraftsOf origin digest rest) :
    DraftsOf origin digest (reviewDraft origin digest planId planRevision data runId :: rest) := by
  refine List.forall_mem_cons.mpr ⟨fun event same => ?_, others⟩
  cases same
  exact ⟨rfl, rfl⟩

theorem DraftsOf.consumed (others : DraftsOf origin digest rest) :
    DraftsOf origin digest (consumedDraft fact :: rest) := by
  refine List.forall_mem_cons.mpr ⟨fun event same => ?_, others⟩
  cases same

theorem DraftsOf.append {front back : List (EventDraft Check Other)}
    (first : DraftsOf origin digest front) (second : DraftsOf origin digest back) :
    DraftsOf origin digest (front ++ back) := by
  intro draft member
  rcases List.mem_append.mp member with earlier | later
  · exact first draft earlier
  · exact second draft later

variable {digests : PlanDigests Check} {view : PlanView Check View} {sessionId : String}
  {context : PlanContext Check Other View} {drafts : List (EventDraft Check Other)}
  {invocation : PlanToolInvocationContextV1} {expected : Int}

theorem createDrafts_of
    (built : createDrafts digests view sessionId context origin digest invocation = .ok drafts) :
    DraftsOf origin digest drafts := by
  simp only [createDrafts, bind_eq_ok, pure_eq_ok] at built
  obtain ⟨_, _, _, _, rfl⟩ := built
  exact .review .nil

theorem updateDrafts_of
    (built : updateDrafts digests view context origin digest invocation expected = .ok drafts) :
    DraftsOf origin digest drafts := by
  simp only [updateDrafts, bind_eq_ok] at built
  obtain ⟨plan, _, _, _, _, _, _, _, input, _, built⟩ := built
  split at built
  · rw [pure_eq_ok] at built
    subst built
    exact .review .nil
  · simp only [bind_eq_ok, pure_eq_ok] at built
    obtain ⟨_, _, rfl⟩ := built
    exact .review .nil

theorem blockDrafts_of {plan : ReviewPlanProjectionV1 Check} {item : ReviewPlanItemProjectionV1}
    {itemAttemptId : Option String} {reason : String} {code : Option String} :
    DraftsOf origin digest (blockDrafts digests context origin digest invocation plan item
      itemAttemptId reason code) := by
  refine .append ?closed (.review .nil)
  case closed =>
    intro draft member
    obtain ⟨blocked, _, rfl⟩ := List.mem_map.mp member
    exact (DraftsOf.review .nil) _ (List.mem_singleton_self _)

theorem progressDrafts_of {action : PlanProgressActionV1}
    (built : progressDrafts digests view context origin digest invocation expected action =
      .ok drafts) : DraftsOf origin digest drafts := by
  simp only [progressDrafts, bind_eq_ok] at built
  obtain ⟨plan, _, _, _, _, _, item, _, _, _, built⟩ := built
  cases action with
  | start itemId =>
    simp only [bind_eq_ok, pure_eq_ok] at built
    obtain ⟨_, _, rfl⟩ := built
    exact .review .nil
  | focus itemId itemAttemptId =>
    simp only [pure_eq_ok] at built
    subst built
    exact .review .nil
  | block itemId itemAttemptId reason code =>
    simp only [pure_eq_ok] at built
    subst built
    exact blockDrafts_of
  | requestSkip itemId =>
    simp only [bind_eq_ok, pure_eq_ok] at built
    obtain ⟨_, _, rfl⟩ := built
    exact .review .nil

theorem prepareReviewDrafts_of {preparedReview : PreparedReviewRefV1}
    (built : prepareReviewDrafts view context origin digest expected preparedReview = .ok drafts) :
    DraftsOf origin digest drafts := by
  simp only [prepareReviewDrafts, bind_eq_ok] at built
  obtain ⟨plan, _, _, _, _, _, _, _, built⟩ := built
  cases scope : preparedReview.scope with
  | item itemId =>
    simp only [scope, bind_eq_ok, pure_eq_ok] at built
    obtain ⟨_, _, _, _, rfl⟩ := built
    exact .review .nil
  | final =>
    simp only [scope, bind_eq_ok, pure_eq_ok] at built
    obtain ⟨_, _, rfl⟩ := built
    exact .review .nil

theorem abandonDrafts_of
    (built : abandonDrafts digests view context origin digest invocation expected fact =
      .ok drafts) : DraftsOf origin digest drafts := by
  simp only [abandonDrafts, bind_eq_ok, pure_eq_ok] at built
  obtain ⟨plan, _, _, _, _, _, rfl⟩ := built
  exact .consumed (.review .nil)

theorem runtimeDrafts_of {requestId : String} {operation : RuntimeOperation}
    (built : runtimeDrafts digests view sessionId context origin digest requestId planId expected
      operation = .ok drafts) : DraftsOf origin digest drafts := by
  simp only [runtimeDrafts, bind_eq_ok, pure_eq_ok] at built
  obtain ⟨plan, _, data, _, rfl⟩ := built
  exact .review .nil

theorem resolveBlockDrafts_of {blockId : String}
    (built : resolveBlockDrafts digests view context origin digest planId expected blockId fact =
      .ok drafts) : DraftsOf origin digest drafts := by
  simp only [resolveBlockDrafts, bind_eq_ok, pure_eq_ok] at built
  obtain ⟨plan, _, _, _, _, _, rfl⟩ := built
  exact .consumed (.review .nil)

theorem buildDrafts_of {request : PlanControlRequest Check}
    (built : buildDrafts digests view sessionId context request = .ok drafts) :
    DraftsOf (requestOrigin digests request)
      (digests.payloadDigest (mutationPayload digests sessionId request)) drafts := by
  cases request with
  | create invocation input => exact createDrafts_of built
  | update invocation expected input carryForward => exact updateDrafts_of built
  | progress invocation expected action => exact progressDrafts_of built
  | prepareReview origin expected preparedReview => exact prepareReviewDrafts_of built
  | abandon invocation expected explanation fact => exact abandonDrafts_of built
  | runtime requestId inputDigest planId expected operation => exact runtimeDrafts_of built
  | resolveTrustedBlock controlEventId resolutionRequestId inputDigest planId expected blockId fact =>
    exact resolveBlockDrafts_of built

end Drafts

/-! ## The commit of a mutation -/

section Commits

variable {rules : SessionRules (PlanEntryData Check Other) View} {view : PlanView Check View}
  {digests : PlanDigests Check} {sessionId : String} {origin : ReviewPlanMutationOriginV1}
  {digest : String} {commit : PlanSessionCommit Check Other}

/-- The review events of the commit are those of one mutation, and its id is that of the origin. -/
structure MutationCommit (digests : PlanDigests Check) (sessionId : String)
    (origin : ReviewPlanMutationOriginV1) (digest : String)
    (commit : PlanSessionCommit Check Other) : Prop where
  commitId : commit.commitId = commitIdOf digests sessionId origin
  events : ∀ entry ∈ commit.entries, ∀ event, reviewEvent? entry = some event →
    event.origin = origin ∧ event.mutationDigest = digest

/-- A commit that a call may append. -/
structure ReadyCommit (rules : SessionRules (PlanEntryData Check Other) View)
    (digests : PlanDigests Check) (sessionId : String) (origin : ReviewPlanMutationOriginV1)
    (digest : String) (commit : PlanSessionCommit Check Other) : Prop where
  valid : validateSessionCommitV3 rules commit = .ok commit
  session : commit.sessionId = sessionId
  mutation : MutationCommit digests sessionId origin digest commit

theorem commitIdOf_eq {other : ReviewPlanMutationOriginV1}
    (same : queryOrigin origin = queryOrigin other) :
    commitIdOf digests sessionId origin = commitIdOf digests sessionId other := by
  cases origin <;> cases other <;>
    simp_all [queryOrigin, commitIdOf, originKey, ReviewPlanMutationOriginV1.kind]

theorem commitOf_ready {projection : SessionProjectionV3 (PlanEntryData Check Other) View}
    {timestamp : Timestamp} {drafts : List (EventDraft Check Other)}
    (ofMutation : DraftsOf origin digest drafts)
    (built : commitOf rules digests sessionId origin projection timestamp drafts = .ok commit) :
    ReadyCommit rules digests sessionId origin digest commit := by
  simp only [commitOf, bind_eq_ok, sessionError_eq_ok] at built
  obtain ⟨entries, checked, built⟩ := built
  have unchanged : ∀ {entry result : PlanSessionEntry Check Other},
      sessionError (validateSessionEntryV3 rules entry) = .ok result → result = entry :=
    fun accepted => (validateSessionEntryV3_ok (sessionError_eq_ok.mp accepted)).1
  obtain ⟨rfl, _⟩ := mapM_returns unchanged checked
  obtain ⟨rfl, _⟩ := validateSessionCommitV3_ok built
  refine ⟨built, rfl, rfl, fun entry member event records => ?_⟩
  obtain ⟨draft, listed, rfl⟩ := List.mem_map.mp member
  refine ofMutation draft.1 (List.fst_mem_of_mem_zipIdx listed) event ?_
  cases data : draft.1.data <;> simp_all [reviewEvent?, entryOf]

theorem attemptCommit_ready {log : List (PlanSessionCommit Check Other)}
    {call : PlanCall Check Other} {prepared : PreparedMutation Check} {timestamp now : Timestamp}
    (built : attemptCommit rules view digests sessionId log call prepared timestamp now =
      .ok commit) :
    ReadyCommit rules digests sessionId (call.origin digests) (call.digest digests sessionId)
      commit := by
  simp only [attemptCommit, bind_eq_ok] at built
  obtain ⟨projection, _, drafts, drawn, _, _, built⟩ := built
  exact commitOf_ready (buildDrafts_of drawn) built

end Commits

/-! ## The journal -/

section Journal

variable {rules : SessionRules (PlanEntryData Check Other) View} {view : PlanView Check View}
  {digests : PlanDigests Check} {sessionId : String}
  {log next : List (PlanSessionCommit Check Other)} {commit : PlanSessionCommit Check Other}
  {query : ReviewPlanMutationQuery} {entry : PlanSessionEntry Check Other}
  {found : PlanSessionEntry Check Other × ReviewPlanEventV1 Check}

def mutationEvents (query : ReviewPlanMutationQuery) (log : List (PlanSessionCommit Check Other)) :
    List (PlanSessionEntry Check Other × ReviewPlanEventV1 Check) :=
  (flattenEntries log).filterMap (matchingEntry query)

theorem matchingEntry_eq_some :
    matchingEntry query entry = some found ↔
      found.1 = entry ∧ reviewEvent? entry = some found.2 ∧ queryOrigin found.2.origin = query := by
  constructor
  · intro matched
    simp only [matchingEntry, Option.map_eq_some_iff, Option.filter_eq_some_iff, originMatches,
      decide_eq_true_eq] at matched
    obtain ⟨event, ⟨records, same⟩, rfl⟩ := matched
    exact ⟨rfl, records, same⟩
  · rintro ⟨rfl, records, same⟩
    simp [matchingEntry, records, originMatches, same]

theorem mem_mutationEvents :
    found ∈ mutationEvents query log ↔
      ∃ commit ∈ log, found.1 ∈ commit.entries ∧ reviewEvent? found.1 = some found.2 ∧
        queryOrigin found.2.origin = query := by
  simp only [mutationEvents, List.mem_filterMap, flattenEntries, List.mem_flatMap,
    matchingEntry_eq_some]
  constructor
  · rintro ⟨entry, ⟨commit, listed, member⟩, rfl, records, same⟩
    exact ⟨commit, listed, member, records, same⟩
  · rintro ⟨commit, listed, member, records, same⟩
    exact ⟨found.1, ⟨commit, listed, member⟩, rfl, records, same⟩

@[simp] theorem mutationEvents_append (front back : List (PlanSessionCommit Check Other)) :
    mutationEvents query (front ++ back) = mutationEvents query front ++ mutationEvents query back := by
  simp [mutationEvents]

/-- The commit has no review events, or those of one mutation. -/
def OneMutation (digests : PlanDigests Check) (sessionId : String)
    (commit : PlanSessionCommit Check Other) : Prop :=
  (∀ entry ∈ commit.entries, reviewEvent? entry = none) ∨
    ∃ origin digest, MutationCommit digests sessionId origin digest commit

/-- What holds of the journal. -/
structure MutationLog (rules : SessionRules (PlanEntryData Check Other) View)
    (digests : PlanDigests Check) (sessionId : String)
    (log : List (PlanSessionCommit Check Other)) : Prop where
  kept : Kept rules sessionId log
  mutations : ∀ commit ∈ log, OneMutation digests sessionId commit

theorem OneMutation.of_event (one : OneMutation digests sessionId commit)
    {event : ReviewPlanEventV1 Check}
    (member : entry ∈ commit.entries) (records : reviewEvent? entry = some event) :
    MutationCommit digests sessionId event.origin event.mutationDigest commit := by
  rcases one with foreign | ⟨origin, digest, mutation⟩
  · rw [foreign entry member] at records
    cases records
  · obtain ⟨rfl, rfl⟩ := mutation.events entry member event records
    exact mutation

namespace MutationLog

theorem nil : MutationLog rules digests sessionId ([] : List (PlanSessionCommit Check Other)) :=
  ⟨.nil, by simp⟩

/-- **All events of an origin stand in one commit**, with the same origin and the same digest. -/
theorem single (sound : MutationLog rules digests sessionId log)
    {commit other : PlanSessionCommit Check Other}
    (found found' : PlanSessionEntry Check Other × ReviewPlanEventV1 Check)
    (listed : commit ∈ log) (member : found.1 ∈ commit.entries)
    (records : reviewEvent? found.1 = some found.2) (listed' : other ∈ log)
    (member' : found'.1 ∈ other.entries) (records' : reviewEvent? found'.1 = some found'.2)
    (same : queryOrigin found.2.origin = queryOrigin found'.2.origin) :
    other = commit ∧ found'.2.origin = found.2.origin ∧
      found'.2.mutationDigest = found.2.mutationDigest := by
  have mutation := (sound.mutations commit listed).of_event member records
  have mutation' := (sound.mutations other listed').of_event member' records'
  have sameCommit : other = commit := by
    refine sound.kept.distinct.eq listed' listed (.inl ?_)
    rw [mutation.commitId, mutation'.commitId, commitIdOf_eq same]
  subst sameCommit
  exact ⟨rfl, mutation.events found'.1 member' found'.2 records'⟩

theorem appended (sound : MutationLog rules digests sessionId log)
    (valid : validateSessionCommitV3 rules commit = .ok commit)
    (session : commit.sessionId = sessionId) (one : OneMutation digests sessionId commit) :
    MutationLog rules digests sessionId (appended rules log commit).1 ∧
      log <+: (appended rules log commit).1 := by
  unfold Review.appended
  cases result : appendToLog rules log commit with
  | error error => exact ⟨sound, List.prefix_rfl⟩
  | ok outcome =>
    obtain ⟨receipt, next⟩ := outcome
    have kept := sound.kept.appendToLog valid session result
    rcases appendToLog_ok result with ⟨_, _, _, _, rfl⟩ | ⟨_, _, _, _, rfl⟩
    · exact ⟨sound, List.prefix_rfl⟩
    · refine ⟨⟨kept, fun other member => ?_⟩, List.prefix_append log [commit]⟩
      rcases List.mem_append.mp member with before | new
      · exact sound.mutations other before
      · rw [List.mem_singleton.mp new]
        exact one

theorem mutationEvents_grows (sound : MutationLog rules digests sessionId next)
    (grows : log <+: next) (some : mutationEvents query log ≠ []) :
    mutationEvents query next = mutationEvents query log := by
  obtain ⟨back, rfl⟩ := grows
  obtain ⟨found, first⟩ := List.exists_mem_of_ne_nil _ some
  obtain ⟨commit, listed, member, records, same⟩ := mem_mutationEvents.mp first
  rw [mutationEvents_append, List.append_right_eq_self, List.eq_nil_iff_forall_not_mem]
  intro found' later
  obtain ⟨other, listed', member', records', same'⟩ := mem_mutationEvents.mp later
  have twice := (sound.single found found' (List.mem_append_left back listed) member records
    (List.mem_append_right log listed') member' records' (same.trans same'.symm)).1
  subst twice
  have apart := List.disjoint_of_nodup_append
    (List.map_append ▸ sound.kept.distinct.commitIds : (_ ++ _ : List String).Nodup)
  exact apart (List.mem_map_of_mem listed) (List.mem_map_of_mem listed')

end MutationLog

/-! ## Replays -/

theorem queryReviewPlanMutation_grows (sound : MutationLog rules digests sessionId next)
    (grows : log <+: next) (some : mutationEvents query log ≠ []) :
    queryReviewPlanMutation rules view (flattenEntries next) query =
      queryReviewPlanMutation rules view (flattenEntries log) query := by
  have events := sound.mutationEvents_grows grows some
  obtain ⟨back, rfl⟩ := grows
  have numbers := sound.kept.sequences
  rw [Praxis.Session.flattenEntries_append, List.map_append] at numbers
  -- An entry of the journal before is not after its last number, and a later entry is.
  have before : ∀ entry ∈ flattenEntries log, entry.sequence ≤ (flattenEntries log).length := by
    intro entry member
    have front := (Kept.prefix_ sound.kept).sequences
    have listed : entry.sequence ∈ (flattenEntries log).map (·.sequence) :=
      List.mem_map_of_mem member
    rw [front] at listed
    exact le_of_mem_numbersTo listed
  have after : ∀ entry ∈ flattenEntries back,
      ((flattenEntries log).length : Int) < entry.sequence := by
    intro entry member
    have later := numbersTo_after numbers (List.mem_map_of_mem member)
    rwa [List.length_map] at later
  have nonempty : flattenEntries log ≠ [] := by
    intro empty
    rw [mutationEvents, empty] at some
    exact some rfl
  cases found : mutationEvents query log with
  | nil => exact absurd found some
  | cons first rest =>
    have last : (rest.getLastD first).1 ∈ flattenEntries log := by
      have listed : rest.getLastD first ∈ mutationEvents query log := by
        rw [found]
        exact List.getLastD_mem_cons
      obtain ⟨commit, member, inside, _⟩ := mem_mutationEvents.mp listed
      exact List.mem_flatMap.mpr ⟨commit, member, inside⟩
    have through : (flattenEntries (log ++ back)).filter
          (fun entry => decide (entry.sequence ≤ (rest.getLastD first).1.sequence)) =
        (flattenEntries log).filter
          (fun entry => decide (entry.sequence ≤ (rest.getLastD first).1.sequence)) := by
      rw [Praxis.Session.flattenEntries_append, List.filter_append, List.append_right_eq_self,
        List.filter_eq_nil_iff]
      intro entry member
      have late := after entry member
      have early := before _ last
      rw [decide_eq_true_eq]
      omega
    have nonempty' : flattenEntries (log ++ back) ≠ [] := by
      simp [nonempty]
    rw [found] at events
    simp only [mutationEvents] at found events
    simp only [queryReviewPlanMutation, found, events, through,
      List.isEmpty_eq_false_iff.mpr nonempty, List.isEmpty_eq_false_iff.mpr nonempty']

variable {origin : ReviewPlanMutationOriginV1} {digest : String}
  {receipt : PlanMutationReceiptV1 Check}

theorem queryReviewPlanMutation_ok {value : ReviewPlanMutationValue Check Other}
    (found : queryReviewPlanMutation rules view (flattenEntries log) query = .ok value) :
    value.events = (mutationEvents query log).map (·.1) ∧
      ∃ first ∈ mutationEvents query log, first.2.mutationDigest = value.mutationDigest := by
  simp only [queryReviewPlanMutation, bind_eq_ok] at found
  obtain ⟨_, _, found⟩ := found
  cases events : mutationEvents query log with
  | nil =>
    rw [mutationEvents] at events
    simp only [events] at found
    cases found
  | cons first rest =>
    rw [mutationEvents] at events
    simp only [events, bind_eq_ok, pure_eq_ok] at found
    obtain ⟨_, _, projection, _, plan, _, rfl⟩ := found
    exact ⟨rfl, first, List.mem_cons_self, rfl⟩

theorem findReplay_some (found : findReplay rules view log origin digest = .ok (some receipt)) :
    ∃ value, queryReviewPlanMutation rules view (flattenEntries log) (queryOrigin origin) =
      .ok value ∧ value.mutationDigest = digest ∧ receipt = receiptOf value := by
  unfold findReplay at found
  split at found
  · rename_i value queried
    split_ifs at found with same
    · cases found
      exact ⟨value, queried, same, rfl⟩
  · cases found
  · cases found
  · cases found

/-- **A replay that is found is found again at any later time.** -/
theorem findReplay_grows (sound : MutationLog rules digests sessionId next) (grows : log <+: next)
    (found : findReplay rules view log origin digest = .ok (some receipt)) :
    findReplay rules view next origin digest = .ok (some receipt) := by
  obtain ⟨value, queried, _, _⟩ := findReplay_some found
  have some : mutationEvents (queryOrigin origin) log ≠ [] := by
    obtain ⟨_, first, member, _⟩ := queryReviewPlanMutation_ok queried
    exact List.ne_nil_of_mem member
  rw [← found, findReplay, findReplay, queryReviewPlanMutation_grows sound grows some]

/-- Events of the origin have another digest. -/
def Superseded (log : List (PlanSessionCommit Check Other)) (origin : ReviewPlanMutationOriginV1)
    (digest : String) : Prop :=
  ∃ found ∈ mutationEvents (queryOrigin origin) log, found.2.mutationDigest ≠ digest

theorem Superseded.grows (superseded : Superseded log origin digest) (grows : log <+: next) :
    Superseded next origin digest := by
  obtain ⟨back, rfl⟩ := grows
  obtain ⟨found, member, other⟩ := superseded
  refine ⟨found, ?_, other⟩
  rw [mutationEvents_append]
  exact List.mem_append_left _ member

theorem Superseded.findReplay_ne (superseded : Superseded log origin digest)
    (sound : MutationLog rules digests sessionId log) :
    findReplay rules view log origin digest ≠ .ok (some receipt) := by
  intro replayed
  obtain ⟨found, listed, other⟩ := superseded
  obtain ⟨value, queried, same, _⟩ := findReplay_some replayed
  obtain ⟨_, first, head, digest'⟩ := queryReviewPlanMutation_ok queried
  obtain ⟨commit, member, inside, records, origin'⟩ := mem_mutationEvents.mp listed
  obtain ⟨commit', member', inside', records', origin''⟩ := mem_mutationEvents.mp head
  obtain ⟨_, _, agree⟩ := sound.single first found member' inside' records' member inside records
    (origin''.trans origin'.symm)
  apply other
  rw [agree, digest', same]

theorem appended_of_events (sound : MutationLog rules digests sessionId log)
    (mutation : MutationCommit digests sessionId origin digest commit)
    (some : mutationEvents (queryOrigin origin) log ≠ []) :
    (appended rules log commit).1 = log := by
  obtain ⟨found, listed⟩ := List.exists_mem_of_ne_nil _ some
  obtain ⟨existing, member, inside, records, same⟩ := mem_mutationEvents.mp listed
  have earlier := (sound.mutations existing member).of_event inside records
  unfold appended
  cases result : appendToLog rules log commit with
  | error error => rfl
  | ok outcome =>
    obtain ⟨receipt, next⟩ := outcome
    rcases appendToLog_ok result with ⟨_, _, _, _, rfl⟩ | ⟨fresh, _, _, _, _⟩
    · rfl
    · have apart := fresh existing member
      rw [← Bool.not_eq_true, shares_iff, not_or] at apart
      refine absurd ?_ apart.1
      rw [earlier.commitId, mutation.commitId, commitIdOf_eq same]

end Journal

end Praxis.Review
