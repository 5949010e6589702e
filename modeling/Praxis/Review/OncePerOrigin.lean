import Praxis.Review.PlanMutations

/-!
# One mutation for every origin

`runCalls_exactlyOnce`: after any events, of any number of calls and of the clients beside them, the
events of an origin stand in one commit, the calls of an origin that resolve with one payload have
one receipt, and a call with another payload appends nothing and is rejected.

What one step of a call comes to is said once (`Outcome`); that a step brings its call nearer to an
end is a count of the phases (`CallPhase.rank`).
-/

namespace Praxis.Review

set_option autoImplicit false

open Praxis.Foundations
open Praxis.Session (SessionProjectionV3 SessionRules SessionEntryV3 SessionCommitV3 SessionError
  validateSessionCommitV3 flattenEntries Kept)

variable {Check Other View : Type}

section Steps

variable {rules : SessionRules (PlanEntryData Check Other) View} {view : PlanView Check View}
  {digests : PlanDigests Check} {sessionId : String}
  {log : List (PlanSessionCommit Check Other)} {call : PlanCall Check Other}

/-! ## What a step comes to -/

/-- The phase has no commit and no receipt. -/
def CallPhase.plain : CallPhase Check Other → Bool
  | .appending _ _ _ _ | .resolved _ => false
  | _ => true

/-- What a step of the call may leave behind as its phase. -/
inductive Outcome (rules : SessionRules (PlanEntryData Check Other) View)
    (view : PlanView Check View) (digests : PlanDigests Check) (sessionId : String)
    (log : List (PlanSessionCommit Check Other)) (call : PlanCall Check Other) :
    CallPhase Check Other → Prop where
  | kept : Outcome rules view digests sessionId log call call.phase
  | plain {phase : CallPhase Check Other} (waits : phase.plain = true) :
      Outcome rules view digests sessionId log call phase
  | ready {prepared : PreparedMutation Check} {timestamp : Timestamp} {attempt : Nat}
      {commit : PlanSessionCommit Check Other}
      (checked : ReadyCommit rules digests sessionId (call.origin digests)
        (call.digest digests sessionId) commit) :
      Outcome rules view digests sessionId log call (.appending prepared timestamp attempt commit)
  | resolved {receipt : PlanMutationReceiptV1 Check}
      (found : findReplay rules view log (call.origin digests) (call.digest digests sessionId) =
        .ok (some receipt)) :
      Outcome rules view digests sessionId log call (.resolved receipt)

variable {next : CallPhase Check Other} {prepared : PreparedMutation Check} {timestamp : Timestamp}
  {attempt : Nat}

theorem afterReplay_outcome (waits : next.plain = true) :
    Outcome rules view digests sessionId log call
      (afterReplay rules view digests sessionId log call next) := by
  unfold afterReplay
  cases found : findReplay rules view log (call.origin digests) (call.digest digests sessionId) with
  | error error => exact .plain rfl
  | ok receipt =>
    cases receipt with
    | none => exact .plain waits
    | some receipt => exact .resolved found

theorem confirm_outcome : Outcome rules view digests sessionId log call
      (confirm rules view digests sessionId log call prepared timestamp attempt) := by
  unfold confirm
  cases found : findReplay rules view log (call.origin digests) (call.digest digests sessionId) with
  | error error => exact .plain rfl
  | ok receipt =>
    cases receipt with
    | none => exact .plain rfl
    | some receipt => exact .resolved found

theorem answered_outcome (now : Timestamp) (materialized : PlanCreateInputV1 Check) :
    Outcome rules view digests sessionId log call
      (call.answered rules view digests sessionId log now materialized) := by
  unfold PlanCall.answered
  split
  case h_1 => exact afterReplay_outcome rfl
  case h_2 =>
    split
    · split <;> exact .plain rfl
    · exact .plain rfl
    · exact .plain rfl
  case h_3 => exact .plain rfl
  case h_4 => exact afterReplay_outcome rfl
  case h_5 =>
    split
    · split <;> exact .plain rfl
    · exact .plain rfl
  case h_6 =>
    split
    · rename_i built
      exact .ready (attemptCommit_ready built)
    · exact .plain rfl
  case h_7 => exact confirm_outcome
  case h_8 =>
    refine afterReplay_outcome ?_
    split_ifs <;> rfl
  case h_9 => exact .kept

theorem failed_outcome (error : PlanControlError) :
    Outcome rules view digests sessionId log call (call.phase.failed error) := by
  cases phase : call.phase with
  | confirming prepared timestamp attempt failure => cases failure <;> exact .plain rfl
  | resolved receipt =>
    rw [show (CallPhase.resolved receipt).failed error = call.phase from phase.symm]
    exact .kept
  | _ => exact .plain rfl

/-- **What one step of a call does**: it keeps the request, and only a call that appends changes the
journal. -/
theorem stepCall_cases (event : CallEvent Check) :
    (stepCall rules view digests sessionId log call event).2.request = call.request ∧
    ((∃ prepared timestamp attempt commit, call.phase = .appending prepared timestamp attempt commit ∧
        (stepCall rules view digests sessionId log call event).1 = (appended rules log commit).1 ∧
        (stepCall rules view digests sessionId log call event).2.phase.plain = true) ∨
      ((stepCall rules view digests sessionId log call event).1 = log ∧
        Outcome rules view digests sessionId log call
          (stepCall rules view digests sessionId log call event).2.phase)) := by
  cases event with
  | fails error => exact ⟨rfl, .inr ⟨rfl, failed_outcome error⟩⟩
  | lost error =>
    have fails : Outcome rules view digests sessionId log call (call.phase.failed error) :=
      failed_outcome error
    simp only [stepCall]
    split
    · rename_i prepared timestamp attempt commit phase
      exact ⟨rfl, .inl ⟨prepared, timestamp, attempt, commit, phase, rfl, rfl⟩⟩
    · exact ⟨rfl, .inr ⟨rfl, fails⟩⟩
  | answers now materialized =>
    have answers : Outcome rules view digests sessionId log call
        (call.answered rules view digests sessionId log now materialized) :=
      answered_outcome now materialized
    simp only [stepCall]
    split
    · rename_i prepared timestamp attempt commit phase
      exact ⟨rfl, .inl ⟨prepared, timestamp, attempt, commit, phase, rfl, rfl⟩⟩
    · exact ⟨rfl, .inr ⟨rfl, answers⟩⟩

/-! ## How far a call is from its end -/

/-- The steps of its own that a call takes at most from here: one for everything it waits for, and
four for each further attempt. -/
def CallPhase.rank : CallPhase Check Other → Nat
  | .checking => 21
  | .contracting => 20
  | .materializing _ => 19
  | .replaying _ => 18
  | .timing _ => 17
  | .loading _ _ attempt => 4 * (maxCasRetries - 1 - attempt) + 4
  | .appending _ _ attempt _ => 4 * (maxCasRetries - 1 - attempt) + 3
  | .confirming _ _ attempt none => 4 * (maxCasRetries - 1 - attempt) + 2
  | .confirming _ _ attempt (some _) => 4 * (maxCasRetries - 1 - attempt) + 1
  | .resolved _ => 0
  | .rejected _ => 0

/-- `rank` of a call that begins. -/
def maxSteps : Nat := 21

theorem CallPhase.rank_le (phase : CallPhase Check Other) : phase.rank ≤ maxSteps := by
  cases phase with
  | confirming prepared timestamp attempt failure =>
    cases failure <;>
      · simp only [CallPhase.rank, maxSteps, maxCasRetries]
        omega
  | _ =>
    simp only [CallPhase.rank, maxSteps, maxCasRetries]
    omega

theorem afterReplay_rank {bound : Nat} (near : next.rank ≤ bound) :
    (afterReplay rules view digests sessionId log call next).rank ≤ bound := by
  unfold afterReplay
  split
  · exact Nat.zero_le bound
  · exact Nat.zero_le bound
  · exact near

theorem confirm_rank :
    (confirm rules view digests sessionId log call prepared timestamp attempt).rank ≤
      4 * (maxCasRetries - 1 - attempt) + 1 := by
  unfold confirm
  split <;> simp [CallPhase.rank]

theorem recoverCall_rank {failure : PlanControlError} :
    (recoverCall rules view digests sessionId log call prepared timestamp attempt failure).rank ≤
      4 * (maxCasRetries - 1 - attempt) := by
  refine afterReplay_rank ?_
  split_ifs with again
  · have more := again.2
    simp only [CallPhase.rank, maxCasRetries] at more ⊢
    omega
  · exact Nat.zero_le _

theorem answered_rank (now : Timestamp) (materialized : PlanCreateInputV1 Check)
    (waits : call.phase.plain = true) :
    (call.answered rules view digests sessionId log now materialized).rank ≤
      call.phase.rank - 1 := by
  cases phase : call.phase with
  | checking =>
    simp only [PlanCall.answered, phase]
    exact afterReplay_rank (Nat.le_refl _)
  | contracting =>
    simp only [PlanCall.answered, phase]
    split
    · split <;> simp [CallPhase.rank]
    · exact Nat.zero_le _
    · exact Nat.zero_le _
  | materializing taskContract =>
    simp only [PlanCall.answered, phase]
    exact Nat.le_refl _
  | replaying prepared =>
    simp only [PlanCall.answered, phase]
    exact afterReplay_rank (Nat.le_refl _)
  | timing prepared =>
    simp only [PlanCall.answered, phase]
    split
    · split <;> simp [CallPhase.rank, maxCasRetries]
    · exact Nat.zero_le _
  | loading prepared timestamp attempt =>
    simp only [PlanCall.answered, phase]
    split <;> simp [CallPhase.rank]
  | appending prepared timestamp attempt commit =>
    rw [phase] at waits
    cases waits
  | confirming prepared timestamp attempt failure =>
    cases failure with
    | none =>
      simp only [PlanCall.answered, phase]
      exact confirm_rank
    | some failure =>
      simp only [PlanCall.answered, phase]
      exact recoverCall_rank
  | resolved receipt =>
    simp only [PlanCall.answered, phase]
    exact Nat.zero_le _
  | rejected error =>
    simp only [PlanCall.answered, phase]
    exact Nat.zero_le _

theorem failed_rank (error : PlanControlError) (phase : CallPhase Check Other) :
    (phase.failed error).rank ≤ phase.rank - 1 := by
  cases phase with
  | confirming prepared timestamp attempt failure =>
    cases failure <;> simp [CallPhase.failed, CallPhase.rank]
  | _ => simp [CallPhase.failed, CallPhase.rank]

/-- **Every step of a call brings it nearer to its end.** -/
theorem stepCall_rank (log : List (PlanSessionCommit Check Other)) (call : PlanCall Check Other)
    (event : CallEvent Check) :
    (stepCall rules view digests sessionId log call event).2.phase.rank ≤ call.phase.rank - 1 := by
  cases event with
  | fails error => exact failed_rank error call.phase
  | lost error =>
    cases phase : call.phase with
    | appending prepared timestamp attempt commit => simp [stepCall, phase, CallPhase.rank]
    | _ =>
      simp only [stepCall, phase]
      exact failed_rank error _
  | answers now materialized =>
    by_cases waits : call.phase.plain = true
    · have answers : (call.answered rules view digests sessionId log now materialized).rank ≤
          call.phase.rank - 1 := answered_rank now materialized waits
      cases phase : call.phase with
      | appending prepared timestamp attempt commit =>
        rw [phase] at waits
        cases waits
      | _ => simpa only [stepCall, phase] using answers
    · cases phase : call.phase with
      | appending prepared timestamp attempt commit =>
        simp only [stepCall, phase, CallPhase.rank]
        cases (appended rules log commit).2 <;> simp
      | resolved receipt => simp [stepCall, phase, PlanCall.answered, CallPhase.rank]
      | _ =>
        rw [phase] at waits
        exact absurd rfl waits

theorem CallPhase.rejected_of_rank {phase : CallPhase Check Other} (ends : phase.rank = 0)
    (unresolved : ∀ receipt, phase ≠ .resolved receipt) : ∃ error, phase = .rejected error := by
  cases phase with
  | rejected error => exact ⟨error, rfl⟩
  | resolved receipt => exact absurd rfl (unresolved receipt)
  | confirming prepared timestamp attempt failure => cases failure <;> simp [CallPhase.rank] at ends
  | _ => simp [CallPhase.rank] at ends

end Steps

/-! ## What holds of a call -/

section Runs

variable (rules : SessionRules (PlanEntryData Check Other) View) (view : PlanView Check View)
  (digests : PlanDigests Check) (sessionId : String)

/-- The commit that a call holds may be appended, and its receipt is the one that is found. -/
def CallHolds (log : List (PlanSessionCommit Check Other)) (call : PlanCall Check Other) : Prop :=
  match call.phase with
  | .appending _ _ _ commit =>
    ReadyCommit rules digests sessionId (call.origin digests) (call.digest digests sessionId) commit
  | .resolved receipt =>
    findReplay rules view log (call.origin digests) (call.digest digests sessionId) =
      .ok (some receipt)
  | _ => True

/-- A call of the service. -/
def IsBegun (call : PlanCall Check Other) : Prop :=
  ∃ request, call = PlanCall.begin digests sessionId request

/-- A commit of another client, which leaves review plans alone. -/
def Foreign (commit : PlanSessionCommit Check Other) : Prop :=
  ∀ entry ∈ commit.entries, reviewEvent? entry = none

variable {rules view digests sessionId}

theorem CallHolds.of_plain {log : List (PlanSessionCommit Check Other)}
    {call : PlanCall Check Other} (waits : call.phase.plain = true) :
    CallHolds rules view digests sessionId log call := by
  unfold CallHolds
  cases phase : call.phase with
  | appending prepared timestamp attempt commit =>
    rw [phase] at waits
    cases waits
  | resolved receipt =>
    rw [phase] at waits
    cases waits
  | _ => trivial

theorem CallHolds.grows {log next : List (PlanSessionCommit Check Other)}
    {call : PlanCall Check Other} (sound : MutationLog rules digests sessionId next)
    (grows : log <+: next) (holds : CallHolds rules view digests sessionId log call) :
    CallHolds rules view digests sessionId next call := by
  unfold CallHolds at holds ⊢
  cases phase : call.phase with
  | appending prepared timestamp attempt commit =>
    rw [phase] at holds
    exact holds
  | resolved receipt =>
    rw [phase] at holds
    exact findReplay_grows sound grows holds
  | _ => trivial

theorem begin_plain (request : PlanControlRequest Check) :
    (PlanCall.begin digests sessionId request : PlanCall Check Other).phase.plain = true := by
  unfold PlanCall.begin
  dsimp only
  split <;> rfl

theorem Outcome.holds {log : List (PlanSessionCommit Check Other)}
    {call next : PlanCall Check Other}
    (outcome : Outcome rules view digests sessionId log call next.phase)
    (request : next.request = call.request) (holds : CallHolds rules view digests sessionId log call) :
    CallHolds rules view digests sessionId log next := by
  obtain ⟨asked, phase⟩ := next
  dsimp only at request outcome
  subst request
  cases outcome with
  | kept => exact holds
  | plain waits => exact .of_plain waits
  | ready checked => exact checked
  | resolved found => exact found

theorem stepCall_keeps {log : List (PlanSessionCommit Check Other)} {call : PlanCall Check Other}
    (event : CallEvent Check) (sound : MutationLog rules digests sessionId log)
    (holds : CallHolds rules view digests sessionId log call) :
    MutationLog rules digests sessionId (stepCall rules view digests sessionId log call event).1 ∧
      log <+: (stepCall rules view digests sessionId log call event).1 ∧
      CallHolds rules view digests sessionId (stepCall rules view digests sessionId log call event).1
        (stepCall rules view digests sessionId log call event).2 := by
  obtain ⟨request, ⟨prepared, timestamp, attempt, commit, phase, store, waits⟩ | ⟨store, outcome⟩⟩ :=
    @stepCall_cases _ _ _ rules view digests sessionId log call event
  · rw [CallHolds, phase] at holds
    obtain ⟨next, grows⟩ := sound.appended holds.valid holds.session (.inr ⟨_, _, holds.mutation⟩)
    rw [store]
    exact ⟨next, grows, .of_plain waits⟩
  · rw [store]
    exact ⟨sound, List.prefix_rfl, outcome.holds request holds⟩

theorem foreignCommit_keeps {log : List (PlanSessionCommit Check Other)}
    {commit : PlanSessionCommit Check Other} (sound : MutationLog rules digests sessionId log)
    (foreign : Foreign commit) :
    MutationLog rules digests sessionId (foreignCommit rules sessionId log commit) ∧
      log <+: foreignCommit rules sessionId log commit := by
  unfold foreignCommit
  cases checked : validateSessionCommitV3 rules commit with
  | error error => exact ⟨sound, List.prefix_rfl⟩
  | ok valid =>
    obtain ⟨rfl, _⟩ := Praxis.Session.validateSessionCommitV3_ok checked
    dsimp only
    split_ifs with session
    · exact sound.appended checked session (.inl foreign)
    · exact ⟨sound, List.prefix_rfl⟩

/-- **The calls and the other clients keep what holds of the journal and of every call.** -/
theorem callRules : Shared.Rules (stepCall rules view digests sessionId)
    (foreignCommit rules sessionId) (MutationLog rules digests sessionId) (· <+: ·)
    (CallHolds rules view digests sessionId) (IsBegun digests sessionId) Foreign where
  refl _ := List.prefix_rfl
  stable _ sound grows holds := holds.grows sound grows
  begins := by
    rintro log call _ ⟨request, rfl⟩
    exact .of_plain (begin_plain request)
  steps event sound holds := stepCall_keeps event sound holds
  changes sound foreign := foreignCommit_keeps sound foreign

variable {log : List (PlanSessionCommit Check Other)} {call : PlanCall Check Other}

/-- Events of the call's origin have the digest of another payload. -/
def Overtaken (digests : PlanDigests Check) (sessionId : String)
    (log : List (PlanSessionCommit Check Other)) (call : PlanCall Check Other) : Prop :=
  Superseded log (call.origin digests) (call.digest digests sessionId)

section

variable (overtaken : Overtaken digests sessionId log call)
include overtaken

theorem Overtaken.unresolved (sound : MutationLog rules digests sessionId log)
    (holds : CallHolds rules view digests sessionId log call)
    (receipt : PlanMutationReceiptV1 Check) : call.phase ≠ .resolved receipt := by
  intro phase
  rw [CallHolds, phase] at holds
  exact overtaken.findReplay_ne sound holds

theorem Overtaken.stepCall (sound : MutationLog rules digests sessionId log)
    (holds : CallHolds rules view digests sessionId log call) (event : CallEvent Check) :
    (stepCall rules view digests sessionId log call event).1 = log := by
  obtain ⟨_, ⟨prepared, timestamp, attempt, commit, phase, store, _⟩ | ⟨store, _⟩⟩ :=
    @stepCall_cases _ _ _ rules view digests sessionId log call event
  · rw [CallHolds, phase] at holds
    obtain ⟨found, member, _⟩ := overtaken
    rw [store, appended_of_events sound holds.mutation (List.ne_nil_of_mem member)]
  · exact store

theorem Overtaken.after {next : PlanCall Check Other} {store : List (PlanSessionCommit Check Other)}
    (grows : log <+: store)
    (request : next.request = call.request) : Overtaken digests sessionId store next := by
  have origin : next.origin digests = call.origin digests := by
    rw [PlanCall.origin, PlanCall.origin, request]
  have digest : next.digest digests sessionId = call.digest digests sessionId := by
    rw [PlanCall.digest, PlanCall.digest, request]
  rw [Overtaken, origin, digest]
  exact Superseded.grows overtaken grows

end

/-! ## The result -/

variable (rules view digests sessionId)

/-- What starts and what other clients do in a run of calls. -/
def PermittedCalls (events : List (SharedEvent (PlanCall Check Other) (CallEvent Check)
    (PlanSessionCommit Check Other))) : Prop :=
  ∀ event ∈ events, Shared.Permitted (IsBegun digests sessionId) Foreign event

/-- Mutations happen once, in the run of these events and however it goes on. -/
structure ExactlyOnce (events : List (SharedEvent (PlanCall Check Other) (CallEvent Check)
    (PlanSessionCommit Check Other))) (run : Shared (List (PlanSessionCommit Check Other))
    (PlanCall Check Other)) : Prop where
  /-- No commit is appended twice. -/
  commits : (run.store.map (·.commitId)).Nodup
  /-- The review events of a commit are those of one mutation. -/
  alone : ∀ commit ∈ run.store, ∀ entry ∈ commit.entries, ∀ event, reviewEvent? entry = some event →
    ∀ entry' ∈ commit.entries, ∀ event', reviewEvent? entry' = some event' →
      event'.origin = event.origin ∧ event'.mutationDigest = event.mutationDigest
  /-- The events of an origin are those of one mutation, in one commit. -/
  single : ∀ commit ∈ run.store, ∀ entry ∈ commit.entries, ∀ event, reviewEvent? entry = some event →
    ∀ commit' ∈ run.store, ∀ entry' ∈ commit'.entries, ∀ event', reviewEvent? entry' = some event' →
      queryOrigin event.origin = queryOrigin event'.origin →
      commit' = commit ∧ event'.origin = event.origin ∧
        event'.mutationDigest = event.mutationDigest
  /-- A receipt is about the events of the origin, which are those of the payload. -/
  receipts : ∀ call ∈ run.processes, ∀ receipt, call.phase = .resolved receipt →
    receipt.eventIds =
      (mutationEvents (queryOrigin (call.origin digests)) run.store).map (·.1.entryId) ∧
    receipt.eventIds ≠ [] ∧
    ∀ found ∈ mutationEvents (queryOrigin (call.origin digests)) run.store,
      found.2.mutationDigest = call.digest digests sessionId
  /-- The calls of an origin with one payload have one receipt. -/
  same : ∀ call ∈ run.processes, ∀ other ∈ run.processes,
    queryOrigin (call.origin digests) = queryOrigin (other.origin digests) →
    call.digest digests sessionId = other.digest digests sessionId →
    ∀ receipt receipt', call.phase = .resolved receipt → other.phase = .resolved receipt' →
      receipt = receipt'
  /-- A call of the origin with another payload appends nothing, does not resolve, and is rejected
  after a number of steps of its own. -/
  another : ∀ index call, run.processes[index]? = some call →
    Overtaken digests sessionId run.store call →
    ∀ later, PermittedCalls digests sessionId later →
      let run' := runCalls rules view digests sessionId (events ++ later)
      ∃ call', run'.processes[index]? = some call' ∧ call'.request = call.request ∧
        (∀ event, (stepCall rules view digests sessionId run'.store call' event).1 = run'.store) ∧
        (∀ receipt, call'.phase ≠ .resolved receipt) ∧
        (maxSteps ≤ Shared.acts index later → ∃ error, call'.phase = .rejected error)

variable {rules view digests sessionId}
variable {events later : List (SharedEvent (PlanCall Check Other) (CallEvent Check)
    (PlanSessionCommit Check Other))}

theorem runCalls_sound (permitted : PermittedCalls digests sessionId events) :
    Shared.Sound (MutationLog rules digests sessionId) (CallHolds rules view digests sessionId)
      (runCalls rules view digests sessionId events) :=
  Shared.run_sound callRules ⟨.nil, by simp⟩ permitted

theorem runCalls_append :
    runCalls rules view digests sessionId (events ++ later) =
      (runCalls rules view digests sessionId events).run (stepCall rules view digests sessionId)
        (foreignCommit rules sessionId) later := by
  rw [runCalls, runCalls, Shared.run, Shared.run, Shared.run, List.foldl_append]

theorem runCalls_another (permitted : PermittedCalls digests sessionId events) {index : Nat}
    (found : (runCalls rules view digests sessionId events).processes[index]? = some call)
    (overtaken : Overtaken digests sessionId (runCalls rules view digests sessionId events).store call)
    (goesOn : PermittedCalls digests sessionId later) :
    ∃ call', (runCalls rules view digests sessionId (events ++ later)).processes[index]? = some call' ∧
      call'.request = call.request ∧
      Overtaken digests sessionId (runCalls rules view digests sessionId (events ++ later)).store
        call' ∧
      call'.phase.rank ≤ call.phase.rank - Shared.acts index later := by
  have rules' := @callRules _ _ _ rules view digests sessionId
  rw [runCalls_append]
  obtain ⟨call', place, ⟨request, stands⟩, near⟩ := Shared.run_process rules'
    (fun log process => process.request = call.request ∧ Overtaken digests sessionId log process)
    (fun process => process.phase.rank)
    (fun grows holds => ⟨holds.1, holds.2.after grows rfl⟩)
    (fun {log process} event sound holds kept => by
      have request := (@stepCall_cases _ _ _ rules view digests sessionId log process event).1
      exact ⟨request.trans kept.1, kept.2.after (stepCall_keeps event sound holds).2.1 request⟩)
    (fun log process event => stepCall_rank log process event)
    (runCalls_sound permitted) goesOn found ⟨rfl, overtaken⟩
  exact ⟨call', place, request, stands, near⟩

/-- **Mutations are exactly-once per origin**: in every run of calls on a session, with conflicts,
lost acknowledgements and other clients. The payload of a call is known by its digest. -/
theorem runCalls_exactlyOnce (rules : SessionRules (PlanEntryData Check Other) View)
    (view : PlanView Check View) (digests : PlanDigests Check) (sessionId : String)
    (events : List (SharedEvent (PlanCall Check Other) (CallEvent Check)
      (PlanSessionCommit Check Other))) (permitted : PermittedCalls digests sessionId events) :
    ExactlyOnce rules view digests sessionId events
      (runCalls rules view digests sessionId events) := by
  have sound := @runCalls_sound _ _ _ rules view digests sessionId events permitted
  have replay : ∀ call ∈ (runCalls rules view digests sessionId events).processes, ∀ receipt,
      call.phase = .resolved receipt →
      findReplay rules view (runCalls rules view digests sessionId events).store
        (call.origin digests) (call.digest digests sessionId) = .ok (some receipt) := by
    intro call member receipt phase
    have holds := sound.processes call member
    rw [CallHolds, phase] at holds
    exact holds
  constructor
  case commits => exact sound.store.kept.distinct.commitIds
  case alone =>
    intro commit listed entry inside event records entry' inside' event' records'
    have mutation := (sound.store.mutations commit listed).of_event inside records
    exact mutation.events entry' inside' event' records'
  case single =>
    intro commit listed entry inside event records commit' listed' entry' inside' event' records' same
    exact sound.store.single (entry, event) (entry', event') listed inside records listed' inside'
      records' same
  case receipts =>
    intro call member receipt phase
    obtain ⟨value, queried, digest, rfl⟩ := findReplay_some (replay call member receipt phase)
    obtain ⟨events, first, listed, agrees⟩ := queryReviewPlanMutation_ok queried
    refine ⟨by simp [receiptOf, events], ?_, fun found member' => ?_⟩
    · rw [receiptOf, events]
      simpa using List.ne_nil_of_mem listed
    · obtain ⟨commit, here, inside, records, origin⟩ := mem_mutationEvents.mp listed
      obtain ⟨commit', here', inside', records', origin'⟩ := mem_mutationEvents.mp member'
      rw [(sound.store.single first found here inside records here' inside' records'
        (origin.trans origin'.symm)).2.2, agrees, digest]
  case same =>
    intro call member other member' origin digest receipt receipt' phase phase'
    obtain ⟨value, queried, _, rfl⟩ := findReplay_some (replay call member receipt phase)
    obtain ⟨value', queried', _, rfl⟩ := findReplay_some (replay other member' receipt' phase')
    rw [← origin, queried] at queried'
    cases queried'
    rfl
  case another =>
    intro index call found overtaken later goesOn
    obtain ⟨call', place, request, stands, near⟩ :=
      runCalls_another permitted found overtaken goesOn
    have both : PermittedCalls digests sessionId (events ++ later) := by
      intro event member
      rcases List.mem_append.mp member with before | after
      · exact permitted event before
      · exact goesOn event after
    have next := @runCalls_sound _ _ _ rules view digests sessionId _ both
    have holds := next.processes call' (List.mem_of_getElem? place)
    refine ⟨call', place, request, stands.stepCall next.store holds,
      stands.unresolved next.store holds, fun enough => ?_⟩
    have ends : call'.phase.rank = 0 := by
      have most := call.phase.rank_le
      omega
    exact CallPhase.rejected_of_rank ends (stands.unresolved next.store holds)

end Runs

/-! ## Two calls of one invocation -/

/-- Rules under which payloads need nothing more. -/
def plainPlanRules : SessionRules (PlanEntryData Unit Unit) Unit :=
  { Praxis.Session.plainRules (PlanEntryData Unit Unit) with
    checksum := fun _ => "sha256:4e738d96a51af564d1d559e62cc2e54ad26f53f7fe5fcb34cff4fd1672542bdd" }

def oneItemPlan : ReviewPlanProjectionV1 Unit where
  planId := "rp_1"
  revision := 1
  objective := "objective"
  objectiveDigest := "digest"
  state := .active
  policy := defaultReviewPolicy
  criteria := []
  items :=
    [{ id := "item-1"
       title := "item"
       criterionIds := []
       reviewCheckpoint := false
       order := 0
       state := .pending
       attemptCount := 0 }]

def oneItemView : PlanView Unit Unit where
  reviewPlan _ := some oneItemPlan
  reviewControls _ := []

def namedDigests : PlanDigests Unit where
  validCheck _ := true
  textDigest text := text
  criterionDigest _ := "criterion"
  planHash _ := "plan"
  payloadDigest
    | .progress (.requestSkip _) => "skip"
    | _ => "other"
  stableId name values := String.intercalate "_" (name :: values)
  factDigest fact := fact.controlEventId
  reasonDigest reason := reason
  contentJson _ := ""

def oneInvocation : PlanToolInvocationContextV1 where
  invocationId := "pti_1"
  sessionId := "session-1"
  runId := "run-1"
  providerTurnId := "turn-1"
  providerToolCallId := "call-1"

/-- A session is created, an item is focused and skipped under one invocation, and both calls take
their steps. -/
def twoCalls : List (SharedEvent (PlanCall Unit Unit) (CallEvent Unit)
    (PlanSessionCommit Unit Unit)) :=
  let now : Timestamp := ⟨"2026-01-01T00:00:00.001Z", some 1_767_225_600_001⟩
  let answers : CallEvent Unit := .answers now ⟨"objective", [], [], none⟩
  [.other
    { sessionId := "session-1"
      commitId := "commit-1"
      expectedRevision := 0
      idempotencyKey := "key-1"
      entries := [Praxis.Session.createdEntry (PlanEntryData Unit Unit)]
      checksum := "sha256:4e738d96a51af564d1d559e62cc2e54ad26f53f7fe5fcb34cff4fd1672542bdd" },
    .start (PlanCall.begin namedDigests "session-1"
      (.progress oneInvocation 1 (.focus "item-1" "attempt-1"))),
    .start (PlanCall.begin namedDigests "session-1"
      (.progress oneInvocation 1 (.requestSkip "item-1"))),
    .act 0 answers, .act 1 answers, .act 0 answers, .act 0 answers, .act 0 answers, .act 1 answers,
    .act 1 answers, .act 0 answers, .act 1 answers, .act 1 answers, .act 1 answers]

theorem twoCalls_permitted : PermittedCalls namedDigests "session-1" twoCalls := by
  simp [PermittedCalls, twoCalls, Shared.Permitted, IsBegun, Foreign, reviewEvent?,
    Praxis.Session.createdEntry]

/-- The first call resolves, the other is rejected. -/
theorem twoCalls_exactlyOnce :
    ((runCalls plainPlanRules oneItemView namedDigests "session-1" twoCalls).processes.map
      fun call => (call.phase.rank, call.phase.plain)) = [(0, false), (0, true)] ∧
    ExactlyOnce plainPlanRules oneItemView namedDigests "session-1" twoCalls
      (runCalls plainPlanRules oneItemView namedDigests "session-1" twoCalls) :=
  ⟨by decide +kernel, runCalls_exactlyOnce plainPlanRules oneItemView namedDigests "session-1"
    twoCalls twoCalls_permitted⟩

end Praxis.Review
