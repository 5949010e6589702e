import Praxis.Review.CoherentEvents

/-!
# Coherence over event streams

A stream of accepted events is coherent after each of its prefixes exactly when each event keeps the
coherence of the plan before it (`reduceReviewPlanEvents_coherent`).
-/

namespace Praxis.Review

set_option autoImplicit false

open Praxis.Foundations
open Praxis.Session (numbersTo)

variable {Check : Type} {digests : ReviewDigests Check}

/-! ## One event of a stream -/

section Steps

variable {event : ReviewPlanEventV1 Check} {next : ReviewPlanProjectionV1 Check}
  {current : Option (ReviewPlanProjectionV1 Check)}

theorem reduceReviewPlanEventV1_ok
    (accepted : reduceReviewPlanEventV1 digests current event = .ok next) :
    validProjection digests next = true ∧
      ((current = none ∧ ∃ input planHash taskContract,
          event.data = .created input planHash taskContract ∧
            reduceCreated digests event input planHash taskContract = .ok next) ∨
        ∃ plan, current = some plan ∧ reduceEventData digests plan event = .ok next) := by
  simp only [reduceReviewPlanEventV1, bind_eq_ok, ensure_eq_ok, exists_const] at accepted
  obtain ⟨_, accepted⟩ := accepted
  split at accepted
  case h_1 input planHash taskContract data =>
    simp only [bind_eq_ok, ensure_eq_ok, exists_const, pure_eq_ok, Bool.and_eq_true,
      Option.isNone_iff_eq_none] at accepted
    obtain ⟨⟨first, _⟩, _, created, valid, rfl⟩ := accepted
    exact ⟨valid, .inl ⟨first, input, planHash, taskContract, data, created⟩⟩
  case h_2 => cases accepted
  case h_3 _ plan _ =>
    simp only [bind_eq_ok, ensure_eq_ok, exists_const, pure_eq_ok] at accepted
    obtain ⟨_, _, _, step, valid, rfl⟩ := accepted
    exact ⟨valid, .inr ⟨plan, rfl, step⟩⟩

theorem reduceReviewPlanEvents_snoc {front : List (ReviewPlanEventV1 Check)} :
    reduceReviewPlanEvents digests (front ++ [event]) = .ok current ↔
      ∃ before, reduceReviewPlanEvents digests front = .ok before ∧
        ∃ next, reduceReviewPlanEventV1 digests before event = .ok next ∧ some next = current := by
  rw [reduceReviewPlanEvents, foldlM_append_eq_ok]
  simp only [List.foldlM_cons, List.foldlM_nil, bind_eq_ok, pure_eq_ok]
  constructor
  · rintro ⟨before, front, _, ⟨next, step, rfl⟩, rfl⟩
    exact ⟨before, front, next, step, rfl⟩
  · rintro ⟨before, front, next, step, rfl⟩
    exact ⟨before, front, some next, ⟨next, step, rfl⟩, rfl⟩

theorem reduceReviewPlanEvents_none {events : List (ReviewPlanEventV1 Check)}
    (accepted : reduceReviewPlanEvents digests events = .ok none) : events = [] := by
  rcases List.eq_nil_or_concat' events with rfl | ⟨front, last, rfl⟩
  · rfl
  · obtain ⟨_, _, _, _, is⟩ := reduceReviewPlanEvents_snoc.mp accepted
    cases is

end Steps

/-! ## Streams -/

/-- After every prefix the plan is coherent and the attempts of an item are numbered one after the
other, and no event changes a terminal state. -/
structure CoherentStream (digests : ReviewDigests Check) (events : List (ReviewPlanEventV1 Check)) :
    Prop where
  coherent : ∀ front plan, front <+: events →
    reduceReviewPlanEvents digests front = .ok (some plan) → Coherent plan
  numbered : ∀ front, front <+: events → ∀ itemId,
    startedNumbers itemId front = numbersTo (startedNumbers itemId front).length
  final : ∀ front back plan next, front <+: back → back <+: events →
    reduceReviewPlanEvents digests front = .ok (some plan) →
    reduceReviewPlanEvents digests back = .ok (some next) →
    plan.state.terminal = true → next.state = plan.state

def KeepsThroughout (digests : ReviewDigests Check) (events : List (ReviewPlanEventV1 Check)) :
    Prop :=
  ∀ front event plan, front ++ [event] <+: events →
    reduceReviewPlanEvents digests front = .ok (some plan) → KeepsCoherence plan event.data

section Streams

variable {events front : List (ReviewPlanEventV1 Check)} {plan : ReviewPlanProjectionV1 Check}

theorem reduceReviewPlanEvents_sound
    (accepted : reduceReviewPlanEvents digests events = .ok (some plan)) :
    Sound plan ∧ Numbered events plan := by
  induction events using List.reverseRecOn generalizing plan with
  | nil => cases accepted
  | append_singleton front event ih =>
    obtain ⟨before, upTo, next, step, is⟩ := reduceReviewPlanEvents_snoc.mp accepted
    obtain rfl := Option.some.inj is
    obtain ⟨valid, ⟨_, _, _, _, data, created⟩ | ⟨plan, rfl, edits⟩⟩ :=
      reduceReviewPlanEventV1_ok step
    · exact ⟨(reduceCreated_rule created valid).1, reduceCreated_numbered data created⟩
    · obtain ⟨sound, numbered⟩ := ih upTo
      obtain ⟨rule, counted⟩ := reduceEventData_rule sound edits valid numbered
      exact ⟨rule.sound, counted⟩

theorem KeepsThroughout.of_shorter (keeps : KeepsThroughout digests events)
    (shorter : front <+: events) : KeepsThroughout digests front :=
  fun before event plan inside => keeps before event plan (inside.trans shorter)

theorem reduceReviewPlanEvents_rule {event : ReviewPlanEventV1 Check}
    {next : ReviewPlanProjectionV1 Check}
    (upTo : reduceReviewPlanEvents digests front = .ok (some plan))
    (accepted : reduceReviewPlanEvents digests (front ++ [event]) = .ok (some next)) :
    StepRule plan next (KeepsCoherence plan event.data) := by
  obtain ⟨before, upTo', _, step, is⟩ := reduceReviewPlanEvents_snoc.mp accepted
  obtain rfl := Option.some.inj is
  obtain rfl := ok_unique upTo upTo'
  obtain ⟨valid, ⟨none, _⟩ | ⟨_, same, step⟩⟩ := reduceReviewPlanEventV1_ok step
  · cases none
  · obtain rfl := Option.some.inj same
    obtain ⟨sound, numbered⟩ := reduceReviewPlanEvents_sound upTo
    exact (reduceEventData_rule sound step valid numbered).1

theorem KeepsThroughout.coherent (keeps : KeepsThroughout digests events)
    (accepted : reduceReviewPlanEvents digests events = .ok (some plan)) :
    Coherent plan ∧ Distinct plan := by
  induction events using List.reverseRecOn generalizing plan with
  | nil => cases accepted
  | append_singleton front event ih =>
    obtain ⟨before, upTo, next, step, is⟩ := reduceReviewPlanEvents_snoc.mp accepted
    obtain rfl := Option.some.inj is
    cases before with
    | none =>
      obtain ⟨valid, ⟨_, _, _, _, _, created⟩ | ⟨_, none, _⟩⟩ := reduceReviewPlanEventV1_ok step
      · exact (reduceCreated_rule created valid).2
      · cases none
    | some before =>
      have rule := reduceReviewPlanEvents_rule upTo accepted
      have here := keeps front event before (List.prefix_refl _) upTo
      obtain ⟨coherent, distinct⟩ := ih (keeps.of_shorter (List.prefix_append _ _)) upTo
      exact ⟨((rule.good coherent distinct).mpr here).coherent, rule.distinct distinct here⟩

theorem KeepsThroughout.final (keeps : KeepsThroughout digests events)
    (upTo : reduceReviewPlanEvents digests front = .ok (some plan))
    (terminal : plan.state.terminal = true) (rest : List (ReviewPlanEventV1 Check)) :
    ∀ next, front ++ rest <+: events →
      reduceReviewPlanEvents digests (front ++ rest) = .ok (some next) →
      next.state = plan.state := by
  induction rest using List.reverseRecOn with
  | nil =>
    intro next _ accepted
    rw [List.append_nil] at accepted
    obtain rfl := Option.some.inj (ok_unique upTo accepted)
    rfl
  | append_singleton rest event ih =>
    intro next inside accepted
    rw [← List.append_assoc] at inside accepted
    obtain ⟨before, upTo', _, step, is⟩ := reduceReviewPlanEvents_snoc.mp accepted
    have shorter : front ++ rest <+: events := (List.prefix_append _ _).trans inside
    cases before with
    | none =>
      have none := reduceReviewPlanEvents_none upTo'
      rw [(List.append_eq_nil_iff.mp none).1] at upTo
      cases upTo
    | some before =>
      have same := ih before shorter upTo'
      have rule := reduceReviewPlanEvents_rule upTo' accepted
      have here := keeps (front ++ rest) event before inside upTo'
      obtain ⟨coherent, distinct⟩ := (keeps.of_shorter shorter).coherent upTo'
      have stays := ((rule.good coherent distinct).mpr here).final
      exact (stays (same ▸ terminal)).trans same

end Streams

/-- **Coherence**: an accepted stream of events is coherent throughout exactly when no event sets a
part of the plan without the parts that depend on it. -/
theorem reduceReviewPlanEvents_coherent (digests : ReviewDigests Check)
    (events : List (ReviewPlanEventV1 Check)) (final : Option (ReviewPlanProjectionV1 Check))
    (accepted : reduceReviewPlanEvents digests events = .ok final) :
    CoherentStream digests events ↔ KeepsThroughout digests events := by
  have accepts : ∀ front, front <+: events →
      ∃ current, reduceReviewPlanEvents digests front = .ok current := by
    rintro front ⟨rest, rfl⟩
    obtain ⟨current, upTo, _⟩ := foldlM_append_eq_ok.mp accepted
    exact ⟨current, upTo⟩
  constructor
  · -- the events before this one keep coherence, so it is what the next plan is coherent by
    intro stream front
    induction length : front.length using Nat.strongRecOn generalizing front with
    | _ length ih =>
      obtain rfl := length
      intro event plan inside upTo
      have shorter : front <+: events := (List.prefix_append _ _).trans inside
      have before : KeepsThroughout digests front := by
        intro earlier event' plan' inside' upTo'
        refine ih earlier.length ?_ earlier rfl event' plan' (inside'.trans shorter) upTo'
        have := inside'.length_le
        rw [List.length_append, List.length_singleton] at this
        omega
      obtain ⟨current, after⟩ := accepts _ inside
      obtain ⟨_, _, next, _, rfl⟩ := reduceReviewPlanEvents_snoc.mp after
      have rule := reduceReviewPlanEvents_rule upTo after
      refine (rule.good (stream.coherent front plan shorter upTo) (before.coherent upTo).2).mp ?_
      exact ⟨stream.coherent _ next inside after,
        stream.final front _ plan next (List.prefix_append _ _) inside upTo after⟩
  · intro keeps
    refine ⟨?_, ?_, ?_⟩
    · intro front plan shorter upTo
      exact ((keeps.of_shorter shorter).coherent upTo).1
    · intro front shorter itemId
      obtain ⟨current, upTo⟩ := accepts front shorter
      cases current with
      | none =>
        obtain rfl := reduceReviewPlanEvents_none upTo
        rfl
      | some plan => exact (reduceReviewPlanEvents_sound upTo).2.consecutive itemId
    · rintro front _ plan next ⟨rest, rfl⟩ inside upTo accepted terminal
      exact keeps.final upTo terminal rest next inside accepted

/-! ## A stream -/

def fixedDigests : ReviewDigests Unit :=
  let digest := "sha256:0000000000000000000000000000000000000000000000000000000000000000"
  { validCheck := fun _ => true
    textDigest := fun _ => digest
    criterionDigest := fun _ => digest
    planHash := fun _ => digest }

def fixedInput : PlanCreateInputV1 Unit where
  objective := "objective"
  acceptanceCriteria :=
    [{ id := "criterion-1"
       description := "done"
       required := true
       kind := .semantic }]
  items :=
    [{ id := "item-1"
       title := "Item"
       criterionIds := ["criterion-1"]
       reviewCheckpoint := true }]

def fixedEvent (planRevision : Int) (data : ReviewPlanEventDataV1 Unit) : ReviewPlanEventV1 Unit where
  origin := .runtime "request-1" (fixedDigests.textDigest "")
  mutationDigest := fixedDigests.textDigest ""
  planId := "plan-1"
  planRevision := planRevision
  data := data

/-- A plan with a running attempt. -/
def startedPlan : List (ReviewPlanEventV1 Unit) :=
  [fixedEvent 1 (.created fixedInput (fixedDigests.planHash fixedInput) none),
   fixedEvent 1 (.itemAttemptStarted "item-1" "attempt-1" 1)]

/-- The plan is revised while the attempt has the focus. -/
def revisedPlan : List (ReviewPlanEventV1 Unit) :=
  startedPlan ++ [fixedEvent 2 (.revised 1 fixedInput (fixedDigests.planHash fixedInput))]

theorem revisedPlan_accepted : ∃ plan,
    reduceReviewPlanEvents fixedDigests revisedPlan = .ok (some plan) ∧
      plan.focusedRootAttemptId = some "attempt-1" ∧
      ∀ item ∈ plan.items, item.currentAttempt = none := by
  have accepted : (reduceReviewPlanEvents fixedDigests revisedPlan).toOption.any
      (fun current => current.any fun plan => plan.focusedRootAttemptId == some "attempt-1" &&
        plan.items.all (·.currentAttempt.isNone)) = true := by
    decide +kernel
  obtain ⟨current, reduced, unheld⟩ := exists_ok accepted
  obtain ⟨plan, rfl, shown⟩ := (Option.any_eq_true _ _).mp unheld
  simp only [Bool.and_eq_true, beq_iff_eq, List.all_eq_true, Option.isNone_iff_eq_none] at shown
  exact ⟨plan, reduced, shown⟩

theorem reduceReviewPlanEvents_started :
    CoherentStream fixedDigests startedPlan ↔ KeepsThroughout fixedDigests startedPlan := by
  obtain ⟨_, accepted, _⟩ := revisedPlan_accepted
  obtain ⟨current, reduced, _⟩ := foldlM_append_eq_ok.mp accepted
  exact reduceReviewPlanEvents_coherent fixedDigests startedPlan current reduced

theorem reduceReviewPlanEvents_unheldFocus :
    (∃ current, reduceReviewPlanEvents fixedDigests revisedPlan = .ok current) ∧
      ¬ CoherentStream fixedDigests revisedPlan := by
  obtain ⟨plan, reduced, focused, idle⟩ := revisedPlan_accepted
  refine ⟨⟨some plan, reduced⟩, fun stream => ?_⟩
  have coherent := stream.coherent _ plan (List.prefix_refl _) reduced
  obtain ⟨item, ⟨member, holds⟩, _⟩ := coherent.focus "attempt-1" focused
  exact not_holds_of_none (idle item member) "attempt-1" holds

end Praxis.Review
