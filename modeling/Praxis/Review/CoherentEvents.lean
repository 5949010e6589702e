import Praxis.Review.Coherence

/-!
# Coherence, event by event

One rule for each function of the reducer: what it does to a sound plan, and under which condition
on the event a coherent plan stays coherent and a terminal state final (`reduceEventData_rule`).
-/

namespace Praxis.Review

set_option autoImplicit false

open Praxis.Foundations
open Praxis.Session (numbersTo numbersTo_succ)

variable {Check : Type} {digests : ReviewDigests Check}
variable {plan next : ReviewPlanProjectionV1 Check} {item : ReviewPlanItemProjectionV1}
  {itemId itemAttemptId : String} {event : ReviewPlanEventV1 Check}

theorem validProjection_ids (valid : validProjection digests next = true) :
    (next.items.map (·.id)).Nodup := by
  simp only [validProjection, Bool.and_eq_true, decide_eq_true_eq] at valid
  tauto

theorem validProjection_evidence (valid : validProjection digests next = true)
    (member : item ∈ next.items)
    (accepted : item.state = .accepted) : item.acceptedEvidenceRefs.isSome = true := by
  have items : next.items.all validateItemProjection = true := by
    simp only [validProjection, Bool.and_eq_true] at valid
    tauto
  have this := List.all_eq_true.mp items item member
  simp only [validateItemProjection, Bool.and_eq_true, accepted, bne_self_eq_false,
    Bool.false_or] at this
  tauto

theorem Sound.forall_id (sound : Sound plan)
    (member : item ∈ plan.items) {P : ReviewPlanItemProjectionV1 → Prop} :
    (∀ other ∈ plan.items, other.id = item.id → P other) ↔ P item := by
  constructor
  · intro all
    exact all item member rfl
  · intro holds other there same
    obtain rfl := sound.same there member same
    exact holds

/-! ## Events that leave the items -/

theorem reduceAttemptNoted_rule (sound : Sound plan)
    (accepted : reduceAttemptNoted plan itemId itemAttemptId = .ok next) :
    KeepingStep plan next True := by
  simp only [reduceAttemptNoted, bind_eq_ok, pure_eq_ok] at accepted
  obtain ⟨_, _, _, _, rfl⟩ := accepted
  exact .planOnly sound rfl rfl fun _ => rfl

variable {fromPlanRevision attemptNumber : Int} {block : Option ReviewPlanBlockV1}
  {preparedReviewId planHash : String} {input : PlanCreateInputV1 Check}

theorem reduceItemAttemptCarriedForward_rule (sound : Sound plan)
    (accepted : reduceItemAttemptCarriedForward plan event itemId itemAttemptId fromPlanRevision =
      .ok next) : KeepingStep plan next True := by
  simp only [reduceItemAttemptCarriedForward, bind_eq_ok, ensure_eq_ok, exists_const,
    pure_eq_ok] at accepted
  obtain ⟨_, noted, _, rfl⟩ := accepted
  exact reduceAttemptNoted_rule sound noted

theorem reduceNoProgressRecorded_rule {noProgressCount : Int} (sound : Sound plan)
    (accepted : reduceNoProgressRecorded plan noProgressCount = .ok next) :
    KeepingStep plan next True := by
  simp only [reduceNoProgressRecorded, bind_eq_ok, ensure_eq_ok, exists_const, pure_eq_ok]
    at accepted
  obtain ⟨_, rfl⟩ := accepted
  exact .planOnly sound rfl rfl fun _ => rfl

theorem reduceItemAttemptFocused_rule (sound : Sound plan)
    (accepted : reduceItemAttemptFocused plan itemId itemAttemptId = .ok next) :
    KeepingStep plan next True := by
  simp only [reduceItemAttemptFocused, bind_eq_ok, pure_eq_ok] at accepted
  obtain ⟨item, found, attempt, required, rfl⟩ := accepted
  obtain ⟨member, -⟩ := mutableItem_ok found
  obtain ⟨current, named⟩ := requireAttempt_ok required
  have holds : item.Holds itemAttemptId := ⟨attempt, current, Option.some.inj named⟩
  refine ⟨⟨⟨sound.ids, sound.items⟩, fun before distinct => ?_, fun distinct _ => distinct⟩,
    fun after there open_ => ⟨after, there, open_, rfl, rfl⟩⟩
  refine iff_of_true ⟨⟨?_, before.items⟩, fun _ => rfl⟩ trivial
  intro id focused
  obtain rfl := Option.some.inj focused
  exact ⟨item, ⟨member, holds⟩, fun other has => distinct other has.1 item member _ has.2 holds⟩

/-! ## Events that edit an item -/

/-- Accepted is not a state that an event sets: the evidence of a review would be missing. -/
theorem reduceItemStateChanged_unaccepted {state : ReviewPlanItemStateV1} (sound : Sound plan)
    (accepted : reduceItemStateChanged plan itemId state block = .ok next)
    (valid : validProjection digests next = true) :
    state ≠ .accepted ∧ ∀ item ∈ plan.items, item.id = itemId → item.state ≠ .accepted := by
  simp only [reduceItemStateChanged, assertReviewPlanItemTransitionV1, bind_eq_ok, ensure_eq_ok,
    exists_const, pure_eq_ok] at accepted
  obtain ⟨item, found, moves, rfl⟩ := accepted
  obtain ⟨member, rfl⟩ := mutableItem_ok found
  have before : item.state ≠ .accepted := by
    intro past
    rw [past] at moves
    simp [reviewPlanItemTransitions] at moves
  refine ⟨fun past => ?_, (sound.forall_id member).mpr before⟩
  have kept : KeepsAttempt item { item with
      state
      block } := ⟨rfl, rfl, rfl, rfl⟩
  have there := (mem_setItem member kept.id _).mpr (.inl rfl)
  have evidence := validProjection_evidence valid there past
  exact before ((sound.items item member).evidence.mp evidence)

theorem reduceItemStateChanged_rule {state : ReviewPlanItemStateV1}
    (sound : Sound plan) (accepted : reduceItemStateChanged plan itemId state block = .ok next)
    (valid : validProjection digests next = true) : KeepingStep plan next (state = .skipped →
      ∀ item ∈ plan.items, item.id = itemId → item.currentAttempt = none) := by
  obtain ⟨after, before⟩ := reduceItemStateChanged_unaccepted sound accepted valid
  simp only [reduceItemStateChanged, bind_eq_ok, pure_eq_ok] at accepted
  obtain ⟨item, found, _, _, rfl⟩ := accepted
  obtain ⟨member, rfl⟩ := mutableItem_ok found
  have kept : KeepsAttempt item { item with
      state
      block } := ⟨rfl, rfl, rfl, rfl⟩
  have new := (sound.items item member).kept kept (iff_of_false after (before item member rfl))
  rw [sound.forall_id member]
  refine .edit sound member kept new rfl rfl (fun coherent => ⟨?_, ?_⟩) fun _ => rfl
  · intro edited skipped
    exact edited.settled (.inr skipped)
  · intro settled
    refine ⟨coherent.prepared, ?_, coherent.numbered⟩
    rintro (past | skipped)
    · exact absurd past after
    · exact settled skipped

theorem reduceExecutionBound_rule {taskRef : String} (sound : Sound plan)
    (accepted : reduceExecutionBound plan itemId itemAttemptId taskRef = .ok next) :
    KeepingStep plan next True := by
  simp only [reduceExecutionBound, bind_eq_ok, pure_eq_ok] at accepted
  obtain ⟨item, found, _, _, taskRefs, _, rfl⟩ := accepted
  obtain ⟨member, -⟩ := mutableItem_ok found
  have kept : KeepsAttempt item { item with taskRefs } := ⟨rfl, rfl, rfl, rfl⟩
  refine .edit sound member kept ((sound.items item member).kept kept Iff.rfl) rfl rfl
    (fun coherent => ?_) fun _ => rfl
  exact iff_of_true ⟨coherent.prepared, coherent.settled, coherent.numbered⟩ trivial

theorem CoherentItem.replaced {edited : ReviewPlanItemProjectionV1}
    {attempt attempt' : ReviewPlanItemAttemptV1} (coherent : CoherentItem item)
    (current : item.currentAttempt = some attempt) (after : edited.currentAttempt = some attempt')
    (id : attempt'.itemAttemptId = attempt.itemAttemptId)
    (number : attempt'.attemptNumber = attempt.attemptNumber)
    (count : edited.attemptCount = item.attemptCount)
    (prepared : edited.preparedReview = item.preparedReview)
    (open_ : edited.state ≠ .accepted ∧ edited.state ≠ .skipped) : CoherentItem edited where
  prepared ref named := by
    rw [prepared] at named
    obtain ⟨held, is, names⟩ := coherent.prepared ref named
    obtain rfl := Option.mem_unique current is
    exact ⟨attempt', after, id ▸ names⟩
  settled past := past.elim (absurd · open_.1) (absurd · open_.2)
  numbered held is := by
    obtain rfl := Option.mem_unique after is
    rw [number, count]
    exact coherent.numbered attempt current

theorem CoherentItem.open_ {attempt : ReviewPlanItemAttemptV1} (coherent : CoherentItem item)
    (current : item.currentAttempt = some attempt) :
    item.state ≠ .accepted ∧ item.state ≠ .skipped := by
  constructor
  · intro past
    have none := coherent.settled (.inl past)
    rw [current] at none
    cases none
  · intro past
    have none := coherent.settled (.inr past)
    rw [current] at none
    cases none

theorem reduceRootToolRecorded_rule
    {resultRef effectReceiptRef : Option String} (sound : Sound plan)
    (accepted : reduceRootToolRecorded plan itemId itemAttemptId resultRef effectReceiptRef =
      .ok next) : KeepingStep plan next True := by
  simp only [reduceRootToolRecorded, bind_eq_ok, pure_eq_ok] at accepted
  obtain ⟨item, found, attempt, required, ⟨evidenceRefs, attemptEvidence⟩, _, rfl⟩ := accepted
  obtain ⟨member, -⟩ := mutableItem_ok found
  obtain ⟨current, -⟩ := requireAttempt_ok required
  have kept : KeepsAttempt item { item with
      evidenceRefs
      currentAttempt := some { attempt with evidenceRefs := some attemptEvidence } } := by
    refine ⟨rfl, ?_, rfl, rfl⟩
    simp [ReviewPlanItemProjectionV1.attemptKey, current]
  refine .edit sound member kept ((sound.items item member).kept kept Iff.rfl) rfl rfl
    (fun coherent => ?_) fun _ => rfl
  exact iff_of_true (coherent.replaced current rfl rfl rfl rfl rfl (coherent.open_ current)) trivial

theorem reduceReviewPrepared_rule {prepared : PreparedReviewRefV1} (sound : Sound plan)
    (accepted : reduceReviewPrepared plan prepared = .ok next) : KeepingStep plan next True := by
  simp only [reduceReviewPrepared, bind_eq_ok, ensure_eq_ok, exists_const] at accepted
  obtain ⟨_, accepted⟩ := accepted
  cases scope : prepared.scope with
  | item itemId =>
    simp only [scope, bind_eq_ok, ensure_eq_ok, exists_const, pure_eq_ok] at accepted
    obtain ⟨item, found, attempt, required, _, rfl⟩ := accepted
    obtain ⟨member, -⟩ := mutableItem_ok found
    obtain ⟨current, named⟩ := requireAttempt_ok required
    have kept : KeepsAttempt item { item with preparedReview := some prepared } :=
      ⟨rfl, rfl, rfl, rfl⟩
    refine .edit sound member kept ((sound.items item member).kept kept Iff.rfl) rfl rfl
      (fun coherent => iff_of_true ⟨?_, coherent.settled, coherent.numbered⟩ trivial)
      fun _ => rfl
    intro ref is
    obtain rfl := Option.some.inj is
    exact ⟨attempt, current, named.symm⟩
  | final =>
    simp only [scope, bind_eq_ok, ensure_eq_ok, exists_const, pure_eq_ok] at accepted
    obtain ⟨_, rfl⟩ := accepted
    exact .planOnly sound rfl rfl fun _ => rfl

theorem not_mem_of_terminal {state target : ReviewPlanStateV1}
    (terminal : state.terminal = true) : target ∉ reviewPlanTransitions state := by
  cases state <;> simp_all [ReviewPlanStateV1.terminal, reviewPlanTransitions]

theorem reduceReviewRequested_rule (sound : Sound plan)
    (accepted : reduceReviewRequested plan preparedReviewId = .ok next) :
    KeepingStep plan next True := by
  simp only [reduceReviewRequested, bind_eq_ok] at accepted
  obtain ⟨prepared, _, accepted⟩ := accepted
  cases scope : prepared.scope with
  | item itemId =>
    simp only [scope, bind_eq_ok, pure_eq_ok] at accepted
    obtain ⟨item, found, attempt, required, rfl⟩ := accepted
    obtain ⟨member, -⟩ := mutableItem_ok found
    obtain ⟨current, -⟩ := requireAttempt_ok required
    have kept : KeepsAttempt item { item with
        currentAttempt := some { attempt with state := .reviewRequested }
        state := .reviewRequested } := by
      refine ⟨rfl, ?_, rfl, rfl⟩
      simp [ReviewPlanItemProjectionV1.attemptKey, current]
    have new := (sound.items item member).kept kept
      (iff_of_false (by simp) ((sound.items item member).not_accepted current))
    refine .edit sound member kept new rfl rfl (fun coherent => ?_) fun _ => rfl
    exact iff_of_true (coherent.replaced current rfl rfl rfl rfl rfl (by simp)) trivial
  | final =>
    simp only [scope, assertReviewPlanTransitionV1, bind_eq_ok, ensure_eq_ok, exists_const,
      pure_eq_ok, List.contains_iff_mem] at accepted
    obtain ⟨moves, rfl⟩ := accepted
    exact .planOnly sound rfl rfl fun terminal => absurd moves (not_mem_of_terminal terminal)

/-! ## Events that end an attempt -/

theorem unfocus_items (itemAttemptId : String) : (plan.unfocus itemAttemptId).items = plan.items := by
  unfold ReviewPlanProjectionV1.unfocus
  split <;> rfl

theorem unfocus_state (itemAttemptId : String) : (plan.unfocus itemAttemptId).state = plan.state := by
  unfold ReviewPlanProjectionV1.unfocus
  split <;> rfl

theorem unfocus_focus (itemAttemptId : String) :
    (plan.unfocus itemAttemptId).focusedRootAttemptId =
      if plan.focusedRootAttemptId = some itemAttemptId then none
      else plan.focusedRootAttemptId := by
  unfold ReviewPlanProjectionV1.unfocus
  split <;> rfl

theorem reduceItemAttemptClosed_rule (sound : Sound plan)
    (accepted : reduceItemAttemptClosed plan itemId itemAttemptId = .ok next) :
    KeepingStep plan next
      (∀ item ∈ plan.items, item.id = itemId → item.preparedReview = none) := by
  simp only [reduceItemAttemptClosed, bind_eq_ok, pure_eq_ok] at accepted
  obtain ⟨item, found, attempt, required, rfl⟩ := accepted
  obtain ⟨member, rfl⟩ := mutableItem_ok found
  obtain ⟨current, named⟩ := requireAttempt_ok required
  obtain rfl := Option.some.inj named
  have old := sound.items item member
  rw [sound.forall_id member]
  have same : ({ item with currentAttempt := none } : ReviewPlanItemProjectionV1).id = item.id := rfl
  have new : SoundItem { item with currentAttempt := none } :=
    ⟨old.evidence, fun _ => rfl, by rintro _ ⟨⟩⟩
  refine .ends sound member same current rfl rfl new (unfocus_items _) (unfocus_focus _)
    (fun coherent => ⟨?_, ?_⟩) (unfocus_state _)
  · intro edited
    cases prepared : item.preparedReview with
    | none => rfl
    | some ref =>
      obtain ⟨_, is, _⟩ := edited.prepared ref prepared
      cases is
  · intro none
    refine ⟨fun ref is => ?_, fun _ => rfl, by rintro _ ⟨⟩⟩
    exact absurd (none.symm.trans is) (by simp)

variable (attempt : ReviewPlanItemAttemptV1)

section

variable (prepared : PreparedReviewRefV1)
include prepared

theorem decidedItem_id (decision : ReviewDecisionRefV1) :
    (decidedItem item attempt prepared decision).id = item.id := by
  unfold decidedItem
  dsimp only
  split <;> rfl

theorem decidedItem_attempt (decision : ReviewDecisionRefV1) :
    (decidedItem item attempt prepared decision).currentAttempt = none ∧
      (decidedItem item attempt prepared decision).preparedReview = none := by
  unfold decidedItem
  dsimp only
  split <;> exact ⟨rfl, rfl⟩

theorem decidedItem_count (decision : ReviewDecisionRefV1) :
    (decidedItem item attempt prepared decision).attemptCount = item.attemptCount := by
  unfold decidedItem
  dsimp only
  split <;> rfl

theorem decidedItem_evidence
    (decision : ReviewDecisionRefV1) (none : item.acceptedEvidenceRefs.isSome = false) :
    (decidedItem item attempt prepared decision).acceptedEvidenceRefs.isSome = true ↔
      (decidedItem item attempt prepared decision).state = .accepted := by
  unfold decidedItem
  cases verdict : decision.verdict <;> simp [itemStateForVerdict, none]

end

theorem reduceReviewRecorded_rule {reviewRequestId : String} {decision : ReviewDecisionRefV1}
    (sound : Sound plan)
    (accepted : reduceReviewRecorded plan preparedReviewId reviewRequestId decision = .ok next) :
    KeepingStep plan next True := by
  simp only [reduceReviewRecorded, bind_eq_ok, ensure_eq_ok, exists_const] at accepted
  obtain ⟨prepared, _, _, accepted⟩ := accepted
  cases scope : prepared.scope with
  | item itemId =>
    simp only [scope, bind_eq_ok, pure_eq_ok] at accepted
    obtain ⟨item, found, attempt, required, rfl⟩ := accepted
    obtain ⟨member, -⟩ := mutableItem_ok found
    obtain ⟨current, -⟩ := requireAttempt_ok required
    have old := sound.items item member
    have open_ : item.acceptedEvidenceRefs.isSome = false := by
      rw [← Bool.not_eq_true, old.evidence]
      exact old.not_accepted current
    obtain ⟨past, clear⟩ := decidedItem_attempt attempt prepared decision
    have new : SoundItem (decidedItem item attempt prepared decision) :=
      ⟨decidedItem_evidence attempt prepared decision open_, fun _ => past,
        fun _ is => by cases past.symm.trans is⟩
    refine .ends sound member (decidedItem_id attempt prepared decision) current past
      (decidedItem_count attempt prepared decision) new
      (unfocus_items _) (unfocus_focus _) (fun _ => iff_of_true ?_ trivial) (unfocus_state _)
    exact ⟨fun _ is => (by cases clear.symm.trans is), fun _ => past,
      fun _ is => by cases past.symm.trans is⟩
  | final =>
    simp only [scope, bind_eq_ok, ensure_eq_ok, exists_const, pure_eq_ok, Bool.or_eq_true,
      beq_iff_eq, List.contains_iff_mem] at accepted
    obtain ⟨moves, rfl⟩ := accepted
    refine .planOnly sound rfl rfl fun terminal => ?_
    rcases moves with same | moves
    · exact same.symm
    · exact absurd moves (not_mem_of_terminal terminal)

/-! ## The start of an attempt -/

def startedItem (item : ReviewPlanItemProjectionV1) (itemAttemptId : String) (attemptNumber : Int) :
    ReviewPlanItemProjectionV1 :=
  { item with
    currentAttempt := some
      { itemAttemptId
        attemptNumber
        state := .open_
        evidenceRefs := some [] }
    attemptCount := attemptNumber
    state := .running
    block := none }

theorem reduceItemAttemptStarted_ok
    (accepted : reduceItemAttemptStarted plan itemId itemAttemptId attemptNumber = .ok next) :
    ∃ item ∈ plan.items, item.id = itemId ∧ item.currentAttempt = none ∧ item.state ≠ .accepted ∧
      attemptNumber = item.attemptCount + 1 ∧
      next = { plan.setItem (startedItem item itemAttemptId attemptNumber) with
        attemptCount := plan.attemptCount + 1
        focusedRootAttemptId := some itemAttemptId } := by
  simp only [reduceItemAttemptStarted, bind_eq_ok, ensure_eq_ok, exists_const, pure_eq_ok,
    Bool.and_eq_true, Option.isNone_iff_eq_none, beq_iff_eq] at accepted
  obtain ⟨item, found, ⟨free, state⟩, number, rfl⟩ := accepted
  obtain ⟨member, id⟩ := mutableItem_ok found
  refine ⟨item, member, id, free, ?_, number, rfl⟩
  intro past
  rw [past] at state
  revert state
  decide

theorem reduceItemAttemptStarted_rule (sound : Sound plan)
    (accepted : reduceItemAttemptStarted plan itemId itemAttemptId attemptNumber = .ok next) :
    StepRule plan next (∀ item ∈ plan.items, ¬ item.Holds itemAttemptId) := by
  obtain ⟨item, member, rfl, free, open_, -, rfl⟩ := reduceItemAttemptStarted_ok accepted
  have old := sound.items item member
  generalize edit : startedItem item itemAttemptId attemptNumber = edited
  have same : edited.id = item.id := by rw [← edit, startedItem]
  have starts : edited.Holds itemAttemptId := by
    rw [← edit]
    exact ⟨_, rfl, rfl⟩
  have only : ∀ id, edited.Holds id → id = itemAttemptId := by
    rw [← edit]
    rintro id ⟨attempt, is, rfl⟩
    rw [← Option.some.inj is]
  have new : SoundItem edited := by
    rw [← edit]
    refine ⟨?_, fun past => (nomatch past), fun attempt is => ?_⟩
    · exact iff_of_false (fun evidence => open_ (old.evidence.mp evidence)) nofun
    · rw [← Option.some.inj is]
      rfl
  have place : edited ∈ (plan.setItem edited).items :=
    (mem_setItem member same edited).mpr (.inl rfl)
  have idle : ∀ id, ¬ item.Holds id := not_holds_of_none free
  refine ⟨?_, fun before distinct => ⟨?_, ?_⟩, ?_⟩
  · exact sound_setItem sound member same new rfl
  · intro good other there held
    have away : other.id ≠ item.id := by
      intro here
      obtain rfl := sound.same there member here
      exact idle _ held
    obtain ⟨holder, _, unique⟩ := good.coherent.focus itemAttemptId rfl
    have first := unique other ⟨(mem_setItem member same other).mpr (.inr ⟨there, away⟩), held⟩
    have second := unique edited ⟨place, starts⟩
    exact away ((congrArg (·.id) (first.trans second.symm)).trans same)
  · intro keeps
    refine ⟨⟨?_, ?_⟩, fun _ => rfl⟩
    · intro id focused
      obtain rfl := Option.some.inj focused
      refine ⟨edited, ⟨place, starts⟩, fun other ⟨there, held⟩ => ?_⟩
      rcases (mem_setItem member same other).mp there with rfl | ⟨old, _⟩
      · rfl
      · exact absurd held (keeps other old)
    · refine (forall_setItem member same before.items).mpr ?_
      refine ⟨?_, ?_, new.numbered⟩
      · intro ref is
        rw [← edit] at is
        obtain ⟨_, current, _⟩ := (before.items item member).prepared ref is
        exact absurd (free.symm.trans current) (by simp)
      · intro past
        rw [← edit] at past
        exact past.elim nofun nofun
  · intro distinct keeps first here second there id one two
    rcases (mem_setItem member same first).mp here with rfl | ⟨first_, _⟩ <;>
      rcases (mem_setItem member same second).mp there with rfl | ⟨second_, _⟩
    · rfl
    · exact absurd (only id one ▸ two) (keeps second second_)
    · exact absurd (only id two ▸ one) (keeps first first_)
    · exact distinct first first_ second second_ id one two

/-! ## Blocks -/

theorem reduceBlockResolved_rule {blockId : String} (sound : Sound plan)
    (accepted : reduceBlockResolved plan blockId = .ok next) :
    KeepingStep plan next (plan.block.any (·.blockId == blockId) = true →
      plan.state.terminal = false) := by
  rw [reduceBlockResolved, ite_eq_ok] at accepted
  rcases accepted with ⟨mine, accepted⟩ | ⟨other, accepted⟩
  · obtain rfl := Except.ok.inj accepted
    refine ⟨⟨⟨sound.ids, sound.items⟩, fun before _ => ⟨?_, ?_⟩, fun distinct _ => distinct⟩,
      fun after there open_ => ⟨after, there, open_, rfl, rfl⟩⟩
    · intro good _
      cases terminal : plan.state.terminal with
      | false => rfl
      | true =>
        have same : ReviewPlanStateV1.active = plan.state := good.final terminal
        rw [← same] at terminal
        cases terminal
    · intro keeps
      refine ⟨⟨before.focus, before.items⟩, fun terminal => ?_⟩
      rw [keeps mine] at terminal
      cases terminal
  · simp only [bind_eq_ok, orError_eq_ok, pure_eq_ok] at accepted
    obtain ⟨item, found, rfl⟩ := accepted
    have member := List.mem_of_find?_eq_some found
    have kept : KeepsAttempt item { item with
        block := none
        state := if item.state = .blocked then .pending else item.state } := ⟨rfl, rfl, rfl, rfl⟩
    have state (settled : ReviewPlanItemStateV1)
        (stays : settled ≠ .pending ∧ settled ≠ .blocked) :
        (if item.state = .blocked then .pending else item.state) = settled ↔
          item.state = settled := by
      split
      · rename_i blocked
        exact iff_of_false (Ne.symm stays.1) (blocked ▸ Ne.symm stays.2)
      · exact Iff.rfl
    have new := (sound.items item member).kept kept (state .accepted (by decide))
    refine .edit sound member kept new rfl rfl (fun coherent => ?_) fun _ => rfl
    refine iff_of_true ⟨coherent.prepared, ?_, coherent.numbered⟩ fun mine => absurd mine other
    intro settled
    exact coherent.settled (settled.imp (state .accepted (by decide)).mp
      (state .skipped (by decide)).mp)

/-! ## Events that set every item -/

def withdrawn (item : ReviewPlanItemProjectionV1) : ReviewPlanItemProjectionV1 :=
  { item with preparedReview := none }

theorem withdrawn_keeps (item : ReviewPlanItemProjectionV1) : KeepsAttempt item (withdrawn item) :=
  ⟨rfl, rfl, rfl, rfl⟩

theorem CoherentItem.withdrawn (coherent : CoherentItem item) :
    CoherentItem (withdrawn item) where
  prepared _ is := nomatch is
  __ := coherent

theorem KeepingStep.withdraw (sound : Sound plan) (items : next.items = plan.items.map withdrawn)
    (focus : next.focusedRootAttemptId = plan.focusedRootAttemptId)
    (final : plan.state.terminal = true → next.state = plan.state) : KeepingStep plan next True where
  sound :=
    { ids := by
        have same : (plan.items.map withdrawn).map (·.id) = plan.items.map (·.id) := by
          rw [List.map_map]
          exact List.map_congr_left fun item _ => rfl
        rw [items, same]
        exact sound.ids
      items := by
        rw [items, List.forall_mem_map]
        intro item there
        exact (sound.items item there).kept (withdrawn_keeps item) Iff.rfl }
  good before _ := by
    refine iff_of_true ⟨⟨?_, ?_⟩, final⟩ trivial
    · intro id focused
      rw [focus] at focused
      obtain ⟨holder, ⟨there, holds⟩, unique⟩ := before.focus id focused
      refine ⟨withdrawn holder, ⟨?_, holds⟩, ?_⟩
      · rw [items]
        exact List.mem_map_of_mem there
      · rintro other ⟨place, held⟩
        rw [items] at place
        obtain ⟨old, there', rfl⟩ := List.mem_map.mp place
        rw [unique old ⟨there', held⟩]
    · rw [items, List.forall_mem_map]
      intro item there
      exact (before.items item there).withdrawn
  distinct distinct _ := by
    intro first here second there id one two
    rw [items] at here there
    obtain ⟨first, first_, rfl⟩ := List.mem_map.mp here
    obtain ⟨second, second_, rfl⟩ := List.mem_map.mp there
    rw [distinct first first_ second second_ id one two]
  counts := by
    rw [items, List.forall_mem_map]
    exact fun item there open_ => ⟨item, there, open_, rfl, rfl⟩

theorem reduceStateChanged_rule {state : ReviewPlanStateV1} (sound : Sound plan)
    (accepted : reduceStateChanged plan state block = .ok next) : KeepingStep plan next True := by
  simp only [reduceStateChanged, assertReviewPlanTransitionV1, bind_eq_ok, ensure_eq_ok,
    exists_const, List.contains_iff_mem, ite_eq_ok, pure_eq_ok] at accepted
  obtain ⟨moves, accepted⟩ := accepted
  have final : plan.state.terminal = true → state = plan.state :=
    fun terminal => absurd moves (not_mem_of_terminal terminal)
  rcases accepted with ⟨_, rfl⟩ | ⟨_, rfl⟩
  · exact .withdraw sound rfl rfl final
  · exact .planOnly sound rfl rfl final

/-! ## Definitions -/

structure Idle (item : ReviewPlanItemProjectionV1) : Prop where
  attempt : item.currentAttempt = none
  prepared : item.preparedReview = none

theorem Idle.coherent (idle : Idle item) :
    CoherentItem item where
  prepared _ is := nomatch idle.prepared.symm.trans is
  settled _ := idle.attempt
  numbered _ is := nomatch idle.attempt.symm.trans is

theorem pendingItem_sound (order : Nat) (definition : ReviewPlanItemDefinitionV1) :
    SoundItem (pendingItem order definition) where
  evidence := by simp [pendingItem]
  past _ := rfl
  numbered _ is := nomatch is

theorem pendingItem_idle (order : Nat) (definition : ReviewPlanItemDefinitionV1) :
    Idle (pendingItem order definition) := ⟨rfl, rfl⟩

theorem revisedItem_sound (sound : Sound plan) (order : Nat)
    (definition : ReviewPlanItemDefinitionV1) : SoundItem (revisedItem plan order definition) ∧
      (revisedItem plan order definition).currentAttempt = none := by
  unfold revisedItem
  split
  · rename_i prior found
    split
    · rename_i keeps
      have old := sound.items prior (List.mem_of_find?_eq_some found)
      exact ⟨⟨old.evidence, old.past, old.numbered⟩, old.past keeps.2⟩
    · exact ⟨pendingItem_sound order definition, rfl⟩
  · exact ⟨pendingItem_sound order definition, rfl⟩

theorem revisedItem_idle (sound : Sound plan) (coherent : Coherent plan) (order : Nat)
    (definition : ReviewPlanItemDefinitionV1) : Idle (revisedItem plan order definition) := by
  refine ⟨(revisedItem_sound sound order definition).2, ?_⟩
  unfold revisedItem
  split
  · rename_i prior found
    split
    · rename_i keeps
      have there := List.mem_of_find?_eq_some found
      cases prepared : prior.preparedReview with
      | none => rfl
      | some ref =>
        obtain ⟨_, current, _⟩ := (coherent.items prior there).prepared ref prepared
        exact absurd current (by simp [(sound.items prior there).past keeps.2])
    · rfl
  · rfl

theorem forall_mapIdx {α β : Type} {define : Nat → α → β} {P : β → Prop} (definitions : List α)
    (each : ∀ order definition, P (define order definition)) :
    ∀ item ∈ definitions.mapIdx define, P item := by
  intro item there
  obtain ⟨order, inside, rfl⟩ := List.mem_mapIdx.mp there
  exact each order _

theorem reduceRevised_rule (sound : Sound plan)
    (accepted : reduceRevised digests plan event fromPlanRevision input planHash = .ok next)
    (valid : validProjection digests next = true) :
    StepRule plan next (plan.state.terminal = false ∧ plan.focusedRootAttemptId = none) := by
  simp only [reduceRevised, bind_eq_ok, ensure_eq_ok, exists_const, pure_eq_ok] at accepted
  obtain ⟨_, _, rfl⟩ := accepted
  have unheld : ∀ item ∈ input.items.mapIdx (revisedItem plan), item.currentAttempt = none :=
    forall_mapIdx _ fun order definition => (revisedItem_sound sound order definition).2
  refine ⟨⟨validProjection_ids valid, ?_⟩, fun before _ => ⟨?_, ?_⟩, ?_⟩
  · exact forall_mapIdx _ fun order definition => (revisedItem_sound sound order definition).1
  · intro good
    constructor
    · cases terminal : plan.state.terminal with
      | false => rfl
      | true =>
        have same : ReviewPlanStateV1.active = plan.state := good.final terminal
        rw [← same] at terminal
        cases terminal
    · cases focused : plan.focusedRootAttemptId with
      | none => rfl
      | some id =>
        obtain ⟨holder, ⟨there, holds⟩, _⟩ := good.coherent.focus id focused
        exact absurd holds (not_holds_of_none (unheld holder there) id)
  · rintro ⟨running, free⟩
    refine ⟨⟨fun id focused => ?_, ?_⟩, fun terminal => ?_⟩
    · exact absurd (free.symm.trans focused) (by simp)
    · exact forall_mapIdx _ fun order definition =>
        (revisedItem_idle sound before order definition).coherent
    · rw [running] at terminal
      cases terminal
  · intro _ _ first here _ _ id holds
    exact absurd holds (not_holds_of_none (unheld first here) id)

theorem reduceCreated_rule {taskContract : Option ReviewPlanTaskContractV1}
    (accepted : reduceCreated digests event input planHash taskContract = .ok next)
    (valid : validProjection digests next = true) : Sound next ∧ Coherent next ∧ Distinct next := by
  simp only [reduceCreated, bind_eq_ok, ensure_eq_ok, exists_const, pure_eq_ok] at accepted
  obtain ⟨_, rfl⟩ := accepted
  refine ⟨⟨validProjection_ids valid, ?_⟩, ⟨by rintro _ ⟨⟩, ?_⟩, ?_⟩
  · exact forall_mapIdx _ pendingItem_sound
  · exact forall_mapIdx _ fun order definition => (pendingItem_idle order definition).coherent
  · intro first here _ _ id holds
    have idle := forall_mapIdx _ pendingItem_idle first here
    exact absurd holds (not_holds_of_none idle.attempt id)

/-! ## The numbers of attempts -/

theorem startedNumbers_snoc (itemId : String) (front : List (ReviewPlanEventV1 Check))
    (event : ReviewPlanEventV1 Check) :
    startedNumbers itemId (front ++ [event]) =
      match event.data with
      | .created _ _ _ | .revised _ _ _ => []
      | .itemAttemptStarted startedId _ attemptNumber =>
        if startedId = itemId then startedNumbers itemId front ++ [attemptNumber]
        else startedNumbers itemId front
      | _ => startedNumbers itemId front := by
  cases data : event.data <;>
    simp [startedNumbers, List.foldl_append, data]

/-- The numbers up to here are 1, 2, …, and an item that is not accepted counts them. -/
structure Numbered (front : List (ReviewPlanEventV1 Check)) (plan : ReviewPlanProjectionV1 Check) :
    Prop where
  consecutive : ∀ itemId,
    startedNumbers itemId front = numbersTo (startedNumbers itemId front).length
  counts : ∀ item ∈ plan.items, item.state ≠ .accepted →
    item.attemptCount = (startedNumbers item.id front).length

section Numbers

variable {front : List (ReviewPlanEventV1 Check)} {event : ReviewPlanEventV1 Check}

theorem KeepingStep.numbered {keeps : Prop} (step : KeepingStep plan next keeps)
    (numbered : Numbered front plan)
    (same : ∀ itemId, startedNumbers itemId (front ++ [event]) = startedNumbers itemId front) :
    Numbered (front ++ [event]) next where
  consecutive itemId := by
    rw [same]
    exact numbered.consecutive itemId
  counts after there open_ := by
    obtain ⟨before, member, state, id, count⟩ := step.counts after there open_
    rw [same, ← id, ← count]
    exact numbered.counts before member state

theorem Numbered.defined (none : ∀ itemId, startedNumbers itemId (front ++ [event]) = [])
    (zero : ∀ item ∈ next.items, item.state ≠ .accepted → item.attemptCount = 0) :
    Numbered (front ++ [event]) next where
  consecutive itemId := by
    rw [none]
    rfl
  counts item there open_ := by
    rw [none, zero item there open_]
    rfl

theorem revisedItem_count (order : Nat) (definition : ReviewPlanItemDefinitionV1) :
    (revisedItem plan order definition).state ≠ .accepted →
      (revisedItem plan order definition).attemptCount = 0 := by
  unfold revisedItem
  split
  · split
    · rename_i keeps
      exact fun open_ => absurd keeps.2 open_
    · exact fun _ => rfl
  · exact fun _ => rfl

theorem reduceRevised_numbered {fromPlanRevision : Int} {input : PlanCreateInputV1 Check}
    {planHash : String} (data : event.data = .revised fromPlanRevision input planHash)
    (accepted : reduceRevised digests plan event fromPlanRevision input planHash = .ok next) :
    Numbered (front ++ [event]) next := by
  simp only [reduceRevised, bind_eq_ok, ensure_eq_ok, exists_const, pure_eq_ok] at accepted
  obtain ⟨_, _, rfl⟩ := accepted
  refine .defined (fun itemId => ?_) (forall_mapIdx _ revisedItem_count)
  rw [startedNumbers_snoc, data]

theorem reduceCreated_numbered {input : PlanCreateInputV1 Check} {planHash : String}
    {taskContract : Option ReviewPlanTaskContractV1}
    (data : event.data = .created input planHash taskContract)
    (accepted : reduceCreated digests event input planHash taskContract = .ok next) :
    Numbered (front ++ [event]) next := by
  simp only [reduceCreated, bind_eq_ok, ensure_eq_ok, exists_const, pure_eq_ok] at accepted
  obtain ⟨_, rfl⟩ := accepted
  refine .defined (fun itemId => ?_) (forall_mapIdx _ fun _ _ _ => rfl)
  rw [startedNumbers_snoc, data]

theorem reduceItemAttemptStarted_numbered {itemId itemAttemptId : String} {attemptNumber : Int}
    (numbered : Numbered front plan)
    (data : event.data = .itemAttemptStarted itemId itemAttemptId attemptNumber)
    (accepted : reduceItemAttemptStarted plan itemId itemAttemptId attemptNumber = .ok next) :
    Numbered (front ++ [event]) next := by
  obtain ⟨item, member, rfl, -, open_, number, rfl⟩ := reduceItemAttemptStarted_ok accepted
  have count := numbered.counts item member open_
  refine ⟨fun itemId => ?_, fun after there open_ => ?_⟩
  · rw [startedNumbers_snoc, data]
    by_cases mine : item.id = itemId
    · obtain rfl := mine
      simp only [if_pos, List.length_append, List.length_singleton]
      rw [numbersTo_succ, ← numbered.consecutive, number, count]
    · simp only [if_neg mine]
      exact numbered.consecutive itemId
  · rw [startedNumbers_snoc, data]
    have same : (startedItem item itemAttemptId attemptNumber).id = item.id := rfl
    rcases (mem_setItem member same after).mp there with rfl | ⟨old, away⟩
    · rw [same]
      simp only [if_pos, List.length_append, List.length_singleton, startedItem]
      rw [number, count]
      rfl
    · simp only [if_neg (Ne.symm away)]
      exact numbered.counts after old open_

end Numbers

theorem reduceEventData_rule {front : List (ReviewPlanEventV1 Check)} (sound : Sound plan)
    (accepted : reduceEventData digests plan event = .ok next)
    (valid : validProjection digests next = true) (numbered : Numbered front plan) :
    StepRule plan next (KeepsCoherence plan event.data) ∧ Numbered (front ++ [event]) next := by
  have keeping : ∀ {keeps : Prop}, KeepingStep plan next keeps →
      (∀ itemId, startedNumbers itemId (front ++ [event]) = startedNumbers itemId front) →
      StepRule plan next keeps ∧ Numbered (front ++ [event]) next :=
    fun step same => ⟨step.toStepRule, step.numbered numbered same⟩
  unfold reduceEventData at accepted
  cases data : event.data <;> simp only [data] at accepted
  case created => cases accepted
  case revised =>
    exact ⟨reduceRevised_rule sound accepted valid, reduceRevised_numbered data accepted⟩
  case itemAttemptStarted =>
    exact ⟨reduceItemAttemptStarted_rule sound accepted,
      reduceItemAttemptStarted_numbered numbered data accepted⟩
  all_goals refine keeping ?_ fun itemId => by rw [startedNumbers_snoc, data]
  case itemStateChanged => exact reduceItemStateChanged_rule sound accepted valid
  case itemAttemptFocused => exact reduceItemAttemptFocused_rule sound accepted
  case itemAttemptCarriedForward => exact reduceItemAttemptCarriedForward_rule sound accepted
  case itemAttemptClosed => exact reduceItemAttemptClosed_rule sound accepted
  case executionRequested => exact reduceAttemptNoted_rule sound accepted
  case executionBound => exact reduceExecutionBound_rule sound accepted
  case rootToolRequested => exact reduceAttemptNoted_rule sound accepted
  case rootToolRecorded => exact reduceRootToolRecorded_rule sound accepted
  case reviewPrepared => exact reduceReviewPrepared_rule sound accepted
  case reviewRequested => exact reduceReviewRequested_rule sound accepted
  case reviewRecorded => exact reduceReviewRecorded_rule sound accepted
  case noProgressRecorded => exact reduceNoProgressRecorded_rule sound accepted
  case blockResolved => exact reduceBlockResolved_rule sound accepted
  case stateChanged => exact reduceStateChanged_rule sound accepted

end Praxis.Review
