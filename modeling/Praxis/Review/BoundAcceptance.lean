import Praxis.Review.CoherentStreams

/-!
# What an accepted item was accepted for

An item is accepted by a review of its criteria, and a revision of the plan may define a criterion
anew. `BoundAcceptances` says that every accepted item stands on a review of its criteria as they
are defined now.

The reducer does not compare definitions: a revision keeps an accepted item whose title, checkpoint
and criterion ids are the same, and a review may be of other criteria than its item's. A stream
without such events (`BindsAcceptance`) has the property (`reduceReviewPlanEvents_bound`).
-/

namespace Praxis.Review

set_option autoImplicit false

open Praxis.Foundations

variable {Check : Type}

def definitionDigest? (criteria : List (ReviewCriterionProjectionV1 Check)) (id : String) :
    Option String :=
  (criteria.find? (·.id == id)).map (·.definitionDigest)

/-- The event accepts an item for its own criteria only, and keeps it with their definitions. -/
def BindsAcceptance (digests : ReviewDigests Check) (plan : ReviewPlanProjectionV1 Check) :
    ReviewPlanEventDataV1 Check → Prop
  | .revised _ input _ => ∀ prior ∈ plan.items, prior.state = .accepted →
      prior.toReviewPlanItemDefinitionV1 ∈ input.items →
      ∀ id ∈ prior.criterionIds, definitionDigest? plan.criteria id =
        definitionDigest? (input.acceptanceCriteria.map (activeCriterion digests)) id
  | .reviewRecorded preparedReviewId _ decision => decision.verdict = .accepted →
      ∀ prepared, requirePrepared plan preparedReviewId = .ok prepared →
        ∀ item ∈ plan.items, prepared.scope = .item item.id →
          prepared.criterionIds.map (definitionDigest? plan.criteria) =
            item.criterionIds.map (definitionDigest? plan.criteria)
  | _ => True

def BindsThroughout (digests : ReviewDigests Check) (events : List (ReviewPlanEventV1 Check)) :
    Prop :=
  ∀ front event plan, front ++ [event] <+: events →
    reduceReviewPlanEvents digests front = .ok (some plan) → BindsAcceptance digests plan event.data

structure AcceptingReview (digests : ReviewDigests Check) (events : List (ReviewPlanEventV1 Check))
    (plan : ReviewPlanProjectionV1 Check) (item : ReviewPlanItemProjectionV1) where
  front : List (ReviewPlanEventV1 Check)
  event : ReviewPlanEventV1 Check
  back : List (ReviewPlanEventV1 Check)
  inside : events = front ++ event :: back
  before : ReviewPlanProjectionV1 Check
  reduced : reduceReviewPlanEvents digests front = .ok (some before)
  preparedReviewId : String
  reviewRequestId : String
  decision : ReviewDecisionRefV1
  recorded : event.data = .reviewRecorded preparedReviewId reviewRequestId decision
  accepts : decision.verdict = .accepted
  prepared : PreparedReviewRefV1
  found : requirePrepared before preparedReviewId = .ok prepared
  scope : prepared.scope = .item item.id
  /-- What was reviewed is defined as the criteria of the item are. -/
  criteria : prepared.criterionIds.map (definitionDigest? before.criteria) =
    item.criterionIds.map (definitionDigest? plan.criteria)
  /-- The item has been accepted since. -/
  since : ∀ later current, later <+: back →
    reduceReviewPlanEvents digests (front ++ event :: later) = .ok (some current) →
    ∃ kept ∈ current.items, kept.id = item.id ∧ kept.state = .accepted

structure BoundAcceptances (digests : ReviewDigests Check)
    (events : List (ReviewPlanEventV1 Check)) : Prop where
  reviewed : ∀ front plan, front <+: events →
    reduceReviewPlanEvents digests front = .ok (some plan) →
    ∀ item ∈ plan.items, item.state = .accepted →
      Nonempty (AcceptingReview digests front plan item)
  /-- A revision resets the items that use a criterion of another definition. -/
  resets : ∀ front event plan next fromPlanRevision input planHash, front ++ [event] <+: events →
    event.data = .revised fromPlanRevision input planHash →
    reduceReviewPlanEvents digests front = .ok (some plan) →
    reduceReviewPlanEvents digests (front ++ [event]) = .ok (some next) →
    ∀ item ∈ next.items, item.state = .accepted → ∀ id ∈ item.criterionIds,
      definitionDigest? plan.criteria id = definitionDigest? next.criteria id

/-! ## One event -/

section Step

variable {digests : ReviewDigests Check} {plan next : ReviewPlanProjectionV1 Check}
  {event : ReviewPlanEventV1 Check}

/-- The item was accepted before, with the criteria that it has. -/
def CarriedOver (plan next : ReviewPlanProjectionV1 Check) (item : ReviewPlanItemProjectionV1) : Prop :=
  ∃ prior ∈ plan.items, prior.id = item.id ∧ prior.state = .accepted ∧
    prior.criterionIds = item.criterionIds ∧ ∀ id ∈ item.criterionIds,
      definitionDigest? plan.criteria id = definitionDigest? next.criteria id

def KeepsAccepted (plan next : ReviewPlanProjectionV1 Check) : Prop :=
  ∀ item ∈ next.items, item.state = .accepted → CarriedOver plan next item

theorem KeepsAccepted.planOnly (items : next.items = plan.items)
    (criteria : next.criteria = plan.criteria) : KeepsAccepted plan next := by
  intro item member accepted
  refine ⟨item, items ▸ member, rfl, accepted, rfl, fun id _ => ?_⟩
  rw [criteria]

theorem KeepsAccepted.edit {item edited : ReviewPlanItemProjectionV1} (member : item ∈ plan.items)
    (items : next.items = (plan.setItem edited).items) (criteria : next.criteria = plan.criteria)
    (definition : edited.toReviewPlanItemDefinitionV1 = item.toReviewPlanItemDefinitionV1)
    (state : edited.state = .accepted → item.state = .accepted) : KeepsAccepted plan next := by
  have id : edited.id = item.id := congrArg (·.id) definition
  intro other there accepted
  rw [items, mem_setItem member id] at there
  rcases there with rfl | ⟨old, -⟩
  · refine ⟨item, member, id.symm, state accepted, (congrArg (·.criterionIds) definition).symm,
      fun id _ => ?_⟩
    rw [criteria]
  · refine ⟨other, old, rfl, accepted, rfl, fun id _ => ?_⟩
    rw [criteria]

theorem unfocus_criteria (itemAttemptId : String) :
    (plan.unfocus itemAttemptId).criteria = plan.criteria := by
  unfold ReviewPlanProjectionV1.unfocus
  split <;> rfl

theorem reduceRevised_keepsAccepted {fromPlanRevision : Int}
    {input : PlanCreateInputV1 Check} {planHash : String}
    (accepted : reduceRevised digests plan event fromPlanRevision input planHash = .ok next)
    (binds : BindsAcceptance digests plan (.revised fromPlanRevision input planHash)) :
    KeepsAccepted plan next := by
  simp only [reduceRevised, bind_eq_ok, ensure_eq_ok, exists_const, pure_eq_ok] at accepted
  obtain ⟨_, _, rfl⟩ := accepted
  intro item member settled
  obtain ⟨order, inside, rfl⟩ := List.mem_mapIdx.mp member
  simp only [revisedItem] at settled ⊢
  split at settled
  case h_1 prior found =>
    split_ifs at settled with kept
    · rw [if_pos kept]
      have there := List.mem_of_find?_eq_some found
      exact ⟨prior, there, rfl, kept.2, rfl,
        binds prior there kept.2 (kept.1 ▸ List.getElem_mem inside)⟩
    · cases settled
  case h_2 => cases settled

theorem reduceBlockResolved_keepsAccepted {blockId : String}
    (accepted : reduceBlockResolved plan blockId = .ok next) : KeepsAccepted plan next := by
  rw [reduceBlockResolved, ite_eq_ok] at accepted
  rcases accepted with ⟨-, accepted⟩ | ⟨-, accepted⟩
  · obtain rfl := Except.ok.inj accepted
    exact .planOnly rfl rfl
  · simp only [bind_eq_ok, orError_eq_ok, pure_eq_ok] at accepted
    obtain ⟨item, found, rfl⟩ := accepted
    refine .edit (List.mem_of_find?_eq_some found) rfl rfl rfl fun state => ?_
    dsimp only at state
    split_ifs at state
    exact state

theorem reduceStateChanged_keepsAccepted {state : ReviewPlanStateV1}
    {block : Option ReviewPlanBlockV1} (accepted : reduceStateChanged plan state block = .ok next) :
    KeepsAccepted plan next := by
  simp only [reduceStateChanged, bind_eq_ok] at accepted
  obtain ⟨_, _, accepted⟩ := accepted
  split at accepted
  · obtain rfl := Except.ok.inj accepted
    intro item member settled
    obtain ⟨prior, there, rfl⟩ := List.mem_map.mp member
    exact ⟨prior, there, rfl, settled, rfl, fun _ _ => rfl⟩
  · obtain rfl := Except.ok.inj accepted
    exact .planOnly rfl rfl

theorem reduceReviewRecorded_accepts {preparedReviewId reviewRequestId : String}
    {decision : ReviewDecisionRefV1} {item : ReviewPlanItemProjectionV1}
    (accepted : reduceReviewRecorded plan preparedReviewId reviewRequestId decision = .ok next)
    (member : item ∈ next.items) (settled : item.state = .accepted) :
    CarriedOver plan next item ∨ ∃ prepared reviewed,
      requirePrepared plan preparedReviewId = .ok prepared ∧ decision.verdict = .accepted ∧
      reviewed ∈ plan.items ∧ prepared.scope = .item reviewed.id ∧
      reviewed.id = item.id ∧ reviewed.criterionIds = item.criterionIds ∧
      next.criteria = plan.criteria := by
  simp only [reduceReviewRecorded, bind_eq_ok, ensure_eq_ok, exists_const] at accepted
  obtain ⟨prepared, found, _, accepted⟩ := accepted
  cases scope : prepared.scope with
  | item itemId =>
    simp only [scope, bind_eq_ok, pure_eq_ok] at accepted
    obtain ⟨reviewed, named, attempt, -, rfl⟩ := accepted
    obtain ⟨there, rfl⟩ := mutableItem_ok named
    rw [unfocus_items, mem_setItem there (decidedItem_id attempt prepared decision)] at member
    rcases member with rfl | ⟨old, -⟩
    · refine .inr ⟨prepared, reviewed, found, ?_, there, scope, ?_, ?_, unfocus_criteria _⟩
      · unfold decidedItem at settled
        cases verdict : decision.verdict <;> simp [verdict, itemStateForVerdict] at settled ⊢
      · exact (decidedItem_id attempt prepared decision).symm
      · unfold decidedItem
        dsimp only
        split <;> rfl
    · refine .inl ⟨item, old, rfl, settled, rfl, fun id _ => ?_⟩
      rw [unfocus_criteria]
      rfl
  | final =>
    simp only [scope, bind_eq_ok, ensure_eq_ok, exists_const, pure_eq_ok] at accepted
    obtain ⟨_, rfl⟩ := accepted
    exact .inl (KeepsAccepted.planOnly rfl rfl item member settled)

/-- **Acceptances**: an event that records no review keeps those that it leaves. -/
theorem reduceEventData_keepsAccepted (sound : Sound plan)
    (step : reduceEventData digests plan event = .ok next)
    (valid : validProjection digests next = true) (binds : BindsAcceptance digests plan event.data)
    (other : ∀ preparedReviewId reviewRequestId decision,
      event.data ≠ .reviewRecorded preparedReviewId reviewRequestId decision) :
    KeepsAccepted plan next := by
  unfold reduceEventData at step
  cases data : event.data <;> simp only [data] at step binds
  case created => cases step
  case revised => exact reduceRevised_keepsAccepted step binds
  case itemStateChanged =>
    have unaccepted := (reduceItemStateChanged_unaccepted sound step valid).1
    simp only [reduceItemStateChanged, bind_eq_ok, pure_eq_ok] at step
    obtain ⟨item, found, _, _, rfl⟩ := step
    exact .edit (mutableItem_ok found).1 rfl rfl rfl fun state => absurd state unaccepted
  case itemAttemptStarted =>
    obtain ⟨item, member, -, -, -, -, rfl⟩ := reduceItemAttemptStarted_ok step
    exact .edit member rfl rfl rfl (by rintro ⟨⟩)
  case itemAttemptFocused =>
    simp only [reduceItemAttemptFocused, bind_eq_ok, pure_eq_ok] at step
    obtain ⟨_, _, _, _, rfl⟩ := step
    exact .planOnly rfl rfl
  case itemAttemptCarriedForward =>
    simp only [reduceItemAttemptCarriedForward, reduceAttemptNoted, bind_eq_ok, ensure_eq_ok,
      exists_const, pure_eq_ok] at step
    obtain ⟨_, ⟨_, _, _, _, rfl⟩, _, rfl⟩ := step
    exact .planOnly rfl rfl
  case itemAttemptClosed =>
    simp only [reduceItemAttemptClosed, bind_eq_ok, pure_eq_ok] at step
    obtain ⟨item, found, _, _, rfl⟩ := step
    exact .edit (mutableItem_ok found).1 (unfocus_items _) (unfocus_criteria _) rfl id
  case executionRequested | rootToolRequested =>
    simp only [reduceAttemptNoted, bind_eq_ok, pure_eq_ok] at step
    obtain ⟨_, _, _, _, rfl⟩ := step
    exact .planOnly rfl rfl
  case executionBound =>
    simp only [reduceExecutionBound, bind_eq_ok, pure_eq_ok] at step
    obtain ⟨item, found, _, _, _, _, rfl⟩ := step
    exact .edit (mutableItem_ok found).1 rfl rfl rfl id
  case rootToolRecorded =>
    simp only [reduceRootToolRecorded, bind_eq_ok, pure_eq_ok] at step
    obtain ⟨item, found, _, _, _, _, rfl⟩ := step
    exact .edit (mutableItem_ok found).1 rfl rfl rfl id
  case reviewPrepared =>
    simp only [reduceReviewPrepared, bind_eq_ok, ensure_eq_ok, exists_const] at step
    obtain ⟨_, step⟩ := step
    split at step <;> simp only [bind_eq_ok, ensure_eq_ok, exists_const, pure_eq_ok] at step
    · obtain ⟨item, found, _, _, _, rfl⟩ := step
      exact .edit (mutableItem_ok found).1 rfl rfl rfl id
    · obtain ⟨_, rfl⟩ := step
      exact .planOnly rfl rfl
  case reviewRequested =>
    simp only [reduceReviewRequested, bind_eq_ok] at step
    obtain ⟨_, _, step⟩ := step
    split at step <;> simp only [bind_eq_ok, pure_eq_ok] at step
    · obtain ⟨item, found, _, _, rfl⟩ := step
      exact .edit (mutableItem_ok found).1 rfl rfl rfl (by rintro ⟨⟩)
    · obtain ⟨_, _, rfl⟩ := step
      exact .planOnly rfl rfl
  case reviewRecorded => exact absurd data (other _ _ _)
  case noProgressRecorded =>
    simp only [reduceNoProgressRecorded, bind_eq_ok, ensure_eq_ok, exists_const, pure_eq_ok] at step
    obtain ⟨_, rfl⟩ := step
    exact .planOnly rfl rfl
  case blockResolved => exact reduceBlockResolved_keepsAccepted step
  case stateChanged => exact reduceStateChanged_keepsAccepted step

end Step

/-! ## Streams -/

section Streams

variable {digests : ReviewDigests Check} {events front : List (ReviewPlanEventV1 Check)}
  {event : ReviewPlanEventV1 Check} {plan next : ReviewPlanProjectionV1 Check}
  {item : ReviewPlanItemProjectionV1}

theorem AcceptingReview.extend {prior : ReviewPlanItemProjectionV1}
    (review : AcceptingReview digests front plan prior) (id : prior.id = item.id)
    (criteria : prior.criterionIds.map (definitionDigest? plan.criteria) =
      item.criterionIds.map (definitionDigest? next.criteria))
    (reduced : reduceReviewPlanEvents digests (front ++ [event]) = .ok (some next))
    (member : item ∈ next.items) (accepted : item.state = .accepted) :
    Nonempty (AcceptingReview digests (front ++ [event]) next item) := by
  refine ⟨{ review with
    back := review.back ++ [event]
    inside := by simpa using congrArg (· ++ [event]) review.inside
    scope := id ▸ review.scope
    criteria := review.criteria.trans criteria
    since := ?_ }⟩
  intro later current shorter upTo
  rcases List.prefix_concat_iff.mp shorter with rfl | shorter
  · rw [← List.cons_append, ← List.append_assoc, ← review.inside, reduced] at upTo
    obtain rfl := Option.some.inj (Except.ok.inj upTo)
    exact ⟨item, member, rfl, accepted⟩
  · obtain ⟨kept, there, same, state⟩ := review.since later current shorter upTo
    exact ⟨kept, there, same.trans id, state⟩

theorem BindsThroughout.reviewed (binds : BindsThroughout digests events)
    (reduced : reduceReviewPlanEvents digests events = .ok (some plan)) :
    ∀ item ∈ plan.items, item.state = .accepted →
      Nonempty (AcceptingReview digests events plan item) := by
  induction events using List.reverseRecOn generalizing plan with
  | nil => cases reduced
  | append_singleton front event ih =>
    intro item member accepted
    obtain ⟨before, upTo, next, step, is⟩ := reduceReviewPlanEvents_snoc.mp reduced
    obtain rfl := Option.some.inj is
    obtain ⟨valid, ⟨_, input, _, _, _, created⟩ | ⟨before, rfl, edits⟩⟩ :=
      reduceReviewPlanEventV1_ok step
    · simp only [reduceCreated, bind_eq_ok, ensure_eq_ok, exists_const, pure_eq_ok] at created
      obtain ⟨_, rfl⟩ := created
      obtain ⟨_, _, rfl⟩ := List.mem_mapIdx.mp member
      cases accepted
    · have here := binds front event before (List.prefix_refl _) upTo
      have earlier := ih (fun front event plan inside =>
        binds front event plan (inside.trans (List.prefix_append _ _))) upTo
      have keep : CarriedOver before next item →
          Nonempty (AcceptingReview digests (front ++ [event]) next item) := by
        rintro ⟨prior, there, id, state, ids, same⟩
        obtain ⟨review⟩ := earlier prior there state
        refine review.extend id ?_ reduced member accepted
        rw [ids]
        exact List.map_congr_left same
      cases data : event.data
      case reviewRecorded preparedReviewId reviewRequestId decision =>
        simp only [reduceEventData, data] at edits
        rcases reduceReviewRecorded_accepts edits member accepted with
          kept | ⟨prepared, reviewed, found, accepts, there, scope, id, ids, criteria⟩
        · exact keep kept
        · rw [data] at here
          refine ⟨⟨front, event, [], rfl, before, upTo, preparedReviewId, reviewRequestId,
            decision, data, accepts, prepared, found, id ▸ scope, ?_, ?_⟩⟩
          · rw [criteria, ← ids]
            exact here accepts prepared found reviewed there scope
          · intro later current none upTo
            obtain rfl := List.prefix_nil.mp none
            rw [reduced] at upTo
            obtain rfl := Option.some.inj (Except.ok.inj upTo)
            exact ⟨item, member, rfl, accepted⟩
      all_goals
        refine keep (reduceEventData_keepsAccepted (reduceReviewPlanEvents_sound upTo).1 edits valid
          here ?_ item member accepted)
        rw [data]
        rintro _ _ _ ⟨⟩

end Streams

/-- **Bound acceptance**: in a stream whose events accept items for their own criteria, and keep
them with the definitions of these, an accepted item stands on a review of its criteria as they
are. -/
theorem reduceReviewPlanEvents_bound (digests : ReviewDigests Check)
    (events : List (ReviewPlanEventV1 Check)) (binds : BindsThroughout digests events) :
    BoundAcceptances digests events where
  reviewed front plan shorter reduced :=
    BindsThroughout.reviewed (fun front event plan inside =>
      binds front event plan (inside.trans shorter)) reduced
  resets front event plan next fromPlanRevision input planHash inside data upTo reduced := by
    intro item member accepted
    have here := binds front event plan inside upTo
    obtain ⟨_, upTo', _, step, is⟩ := reduceReviewPlanEvents_snoc.mp reduced
    obtain rfl := Option.some.inj is
    obtain rfl := ok_unique upTo upTo'
    obtain ⟨valid, ⟨none, _⟩ | ⟨_, same, edits⟩⟩ := reduceReviewPlanEventV1_ok step
    · cases none
    · obtain rfl := Option.some.inj same
      have sound := (reduceReviewPlanEvents_sound upTo).1
      obtain ⟨_, _, _, _, _, digests⟩ := reduceEventData_keepsAccepted sound edits valid here
        (by rw [data]; nofun) item member accepted
      exact digests

/-! ## A stream -/

/-- Digests that tell the description of a criterion from others. -/
def describedDigests : ReviewDigests Unit :=
  { fixedDigests with
    criterionDigest := fun criterion =>
      if criterion.description = "done" then fixedDigests.criterionDigest criterion
      else "sha256:1111111111111111111111111111111111111111111111111111111111111111" }

def acceptedPlan : List (ReviewPlanEventV1 Unit) :=
  startedPlan ++
    [fixedEvent 1 (.reviewPrepared
      { preparedReviewId := "review-1"
        scope := .item "item-1"
        planRevision := 1
        itemAttemptId := some "attempt-1"
        criterionIds := ["criterion-1"]
        evidenceRefs := []
        reviewInputDigest := fixedDigests.textDigest ""
        resultSummaryArtifactRef := "artifact-1"
        resultSummaryDigest := fixedDigests.textDigest ""
        resultSummaryBytes := 0
        triggerReasons := [] }),
     fixedEvent 1 (.reviewRequested "review-1" "request-1" (fixedDigests.textDigest "") 1 0)]

def acceptingEvent : ReviewPlanEventV1 Unit :=
  fixedEvent 1 (.reviewRecorded "review-1" "request-1"
    ⟨"request-1", "artifact-2", fixedDigests.textDigest "", .accepted⟩)

/-- The criterion of the accepted item gets another description. -/
def redefiningEvent : ReviewPlanEventV1 Unit :=
  fixedEvent 2 (.revised 1
    { fixedInput with
      acceptanceCriteria := fixedInput.acceptanceCriteria.map fun criterion =>
        { criterion with description := "done and measured" } }
    (fixedDigests.planHash fixedInput))

theorem BindsThroughout.snoc {digests : ReviewDigests Unit} {front : List (ReviewPlanEventV1 Unit)}
    {event : ReviewPlanEventV1 Unit} (binds : BindsThroughout digests front)
    (last : ∀ plan, reduceReviewPlanEvents digests front = .ok (some plan) →
      BindsAcceptance digests plan event.data) : BindsThroughout digests (front ++ [event]) := by
  intro before other plan inside reduced
  rcases List.prefix_concat_iff.mp inside with same | shorter
  · obtain ⟨rfl, last'⟩ := List.append_inj' same rfl
    obtain rfl := List.singleton_inj.mp last'
    exact last plan reduced
  · exact binds before other plan shorter reduced

theorem acceptedPlan_binds : BindsThroughout describedDigests acceptedPlan := by
  intro front event plan inside _
  have member : event ∈ acceptedPlan := inside.subset (by simp)
  have other : ∀ event ∈ acceptedPlan, ∀ plan,
      BindsAcceptance describedDigests plan event.data := by
    simp [acceptedPlan, startedPlan, fixedEvent, BindsAcceptance]
  exact other event member plan

theorem acceptedPlan_runs : ∃ plan accepted current,
    reduceReviewPlanEvents describedDigests acceptedPlan = .ok (some plan) ∧
      reduceReviewPlanEventV1 describedDigests (some plan) acceptingEvent = .ok accepted ∧
      reduceReviewPlanEventV1 describedDigests (some accepted) redefiningEvent = .ok current ∧
      (plan.items.all fun item => (requirePrepared plan "review-1").toOption.all
        (·.criterionIds == item.criterionIds)) = true ∧
      (current.items.any fun item => item.state == .accepted && item.criterionIds.any fun id =>
        definitionDigest? accepted.criteria id != definitionDigest? current.criteria id) = true := by
  have runs : (reduceReviewPlanEvents describedDigests acceptedPlan).toOption.any (fun plan? =>
      plan?.any fun plan => (plan.items.all fun item =>
        (requirePrepared plan "review-1").toOption.all (·.criterionIds == item.criterionIds)) &&
      (reduceReviewPlanEventV1 describedDigests (some plan) acceptingEvent).toOption.any
        fun accepted =>
          (reduceReviewPlanEventV1 describedDigests (some accepted) redefiningEvent).toOption.any
            fun current => current.items.any fun item =>
              item.state == .accepted && item.criterionIds.any fun id =>
                definitionDigest? accepted.criteria id != definitionDigest? current.criteria id) =
      true := by
    decide +kernel
  obtain ⟨_, first, shown⟩ := exists_ok runs
  obtain ⟨plan, rfl, shown⟩ := (Option.any_eq_true _ _).mp shown
  obtain ⟨prepared, shown⟩ := Bool.and_eq_true_iff.mp shown
  obtain ⟨accepted, second, shown⟩ := exists_ok shown
  obtain ⟨current, third, shown⟩ := exists_ok shown
  exact ⟨plan, accepted, current, first, second, third, prepared, shown⟩

theorem reduceReviewPlanEvents_boundOnce :
    BoundAcceptances describedDigests (acceptedPlan ++ [acceptingEvent]) := by
  obtain ⟨plan, _, _, first, _, _, shown, _⟩ := acceptedPlan_runs
  have binds : BindsThroughout describedDigests (acceptedPlan ++ [acceptingEvent]) := by
    refine acceptedPlan_binds.snoc fun before reduced _ prepared found item member _ => ?_
    obtain rfl := Option.some.inj (ok_unique first reduced)
    have same := List.all_eq_true.mp shown item member
    rw [show requirePrepared plan "review-1" = .ok prepared from found] at same
    rw [beq_iff_eq.mp same]
  exact reduceReviewPlanEvents_bound describedDigests _ binds

theorem reduceReviewPlanEvents_redefined :
    (∃ current, reduceReviewPlanEvents describedDigests
        (acceptedPlan ++ [acceptingEvent] ++ [redefiningEvent]) = .ok current) ∧
      ¬ BoundAcceptances describedDigests
        (acceptedPlan ++ [acceptingEvent] ++ [redefiningEvent]) := by
  obtain ⟨plan, accepted, current, first, second, third, _, shown⟩ := acceptedPlan_runs
  have upTo := reduceReviewPlanEvents_snoc.mpr ⟨_, first, _, second, rfl⟩
  have after := reduceReviewPlanEvents_snoc.mpr ⟨_, upTo, _, third, rfl⟩
  refine ⟨⟨_, after⟩, fun bound => ?_⟩
  obtain ⟨item, member, shown⟩ := List.any_eq_true.mp shown
  simp only [Bool.and_eq_true, beq_iff_eq, List.any_eq_true, bne_iff_ne] at shown
  obtain ⟨state, id, uses, changed⟩ := shown
  exact changed (bound.resets _ redefiningEvent accepted current _ _ _ (List.prefix_refl _) rfl
    upTo after item member state id uses)

end Praxis.Review
