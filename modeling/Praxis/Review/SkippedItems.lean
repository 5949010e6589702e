import Praxis.Review.BoundAcceptance
import Praxis.Review.OncePerOrigin

/-!
# Skipped items

An item may be skipped if no required criterion is left to it alone, and the Runtime then asks for
the final review: its list of pending items leaves skipped ones out. The final review nevertheless
waits for every item to be accepted, and is refused as not ready exactly when one is skipped.
-/

namespace Praxis.Review

set_option autoImplicit false

open Praxis.Foundations

/-- An open plan whose items are accepted or skipped, with accepted items for what is required. -/
structure Covered {Check : Type} (plan : ReviewPlanProjectionV1 Check) : Prop where
  mutable : plan.state.terminal = false
  unfenced : hasFence plan = false
  settled : ∀ item ∈ plan.items, item.state = .accepted ∨ item.state = .skipped
  required : ∀ criterion ∈ plan.criteria, criterion.required = true →
    ∃ item ∈ plan.items, item.state = .accepted ∧ criterion.id ∈ item.criterionIds

section FinalReview

variable {Check Other View : Type} (digests : PlanDigests Check) (view : PlanView Check View)
variable (sessionId : String) {context : PlanContext Check Other View}
variable {plan : ReviewPlanProjectionV1 Check} {preparedReview : PreparedReviewRefV1}

theorem prepareReview_notReady (shown : context.plan view = some plan)
    (mutable : plan.state.terminal = false) (unfenced : hasFence plan = false)
    (origin : ReviewPlanMutationOriginV1) (expectedPlanRevision : Int)
    (final : preparedReview.scope = .final) : buildDrafts digests view sessionId context
        (.prepareReview origin expectedPlanRevision preparedReview) =
          .error (.plan "PLAN_FINAL_REVIEW_NOT_READY") ↔
      plan.revision = expectedPlanRevision ∧ preparedReview.planRevision = plan.revision ∧
        ¬∀ item ∈ plan.items, item.state = .accepted := by
  dsimp only [buildDrafts, prepareReviewDrafts, requirePlan, assertMutable]
  simp only [shown, final, orError, planEnsure, Option.all_none, Bool.and_true, ok_bind]
  by_cases current : plan.revision = expectedPlanRevision
  · subst current
    by_cases prepared : preparedReview.planRevision = plan.revision
    · simp only [prepared, mutable, unfenced, ensure, ok_bind, pure_ok, beq_self_eq_true, true_and,
        Bool.not_false, if_true, List.all_eq_true, beq_iff_eq]
      by_cases ready : ∀ item ∈ plan.items, item.state = .accepted
      · rw [if_pos ready]
        simpa [ok_bind] using ready
      · rw [if_neg ready, error_bind]
        simpa using ready
    · simp [prepared, mutable, unfenced, ensure, ok_bind, error_bind, pure_ok]
  · simp [current, ensure, error_bind]

theorem prepareReview_notReady_iff (shown : context.plan view = some plan)
    (covered : Covered plan) (origin : ReviewPlanMutationOriginV1) (expectedPlanRevision : Int)
    (final : preparedReview.scope = .final) : buildDrafts digests view sessionId context
        (.prepareReview origin expectedPlanRevision preparedReview) =
          .error (.plan "PLAN_FINAL_REVIEW_NOT_READY") ↔
      plan.revision = expectedPlanRevision ∧ preparedReview.planRevision = plan.revision ∧
        ∃ item ∈ plan.items, item.state = .skipped := by
  rw [prepareReview_notReady digests view sessionId shown covered.mutable covered.unfenced origin
    expectedPlanRevision final]
  push Not
  refine and_congr_right fun _ => and_congr_right fun _ => exists_congr fun item =>
    and_congr_right fun member => ?_
  rcases covered.settled item member with state | state <;> simp [state]

end FinalReview

def openContext : PlanContext Unit Unit Unit :=
  let now : Timestamp := ⟨"2026-01-01T00:00:00.001Z", some 1_767_225_600_001⟩
  { projection :=
      { snapshot := ⟨"session-1", 1, 1, .open_, .auto, now, now, none, "/", "provider", "model",
          "name", [], "leaf-1", none, [], []⟩
        catalog := ⟨"session-1", "name", "/", "provider", "model", .open_, "leaf-1", none, 0, now,
          1⟩
        view := () }
    materialized := none
    taskContract := none
    now }

def finalReview : PreparedReviewRefV1 where
  preparedReviewId := "review-1"
  scope := .final
  planRevision := 1
  criterionIds := []
  evidenceRefs := []
  reviewInputDigest := ""
  resultSummaryArtifactRef := "artifact-1"
  resultSummaryDigest := ""
  resultSummaryBytes := 0
  triggerReasons := []

/-- Two items share a required criterion: one is accepted, the other skipped. -/
def sharedPlan : ReviewPlanProjectionV1 Unit :=
  { oneItemPlan with
    criteria :=
      [{ id := "criterion-1"
         description := "done"
         required := true
         kind := .semantic
         definitionDigest := "criterion"
         status := .active }]
    items := oneItemPlan.items.flatMap fun item =>
      [{ item with
         criterionIds := ["criterion-1"]
         state := .accepted
         attemptCount := 1
         acceptedAttemptId := some "attempt-1" },
       { item with
         id := "item-2"
         criterionIds := ["criterion-1"]
         order := 1
         state := .skipped }] }

theorem sharedPlan_covered : Covered sharedPlan := by
  refine ⟨rfl, rfl, ?_, ?_⟩ <;> simp [sharedPlan, oneItemPlan]

theorem sharedPlan_notReady :
    buildDrafts namedDigests ⟨fun _ => some sharedPlan, fun _ => []⟩ "session-1" openContext
      (.prepareReview (.runtime "request-1" "") 1 finalReview) =
        .error (.plan "PLAN_FINAL_REVIEW_NOT_READY") := by
  refine (prepareReview_notReady_iff _ _ _ rfl sharedPlan_covered _ _ rfl).mpr ⟨rfl, rfl, ?_⟩
  simp [sharedPlan, oneItemPlan]

/-! ## A permitted skip -/

/-- Two items share the required criterion. The first is accepted, and the other is skipped. -/
def skippedPlan : List (ReviewPlanEventV1 Unit) :=
  let input := { fixedInput with
    items := fixedInput.items.flatMap fun item =>
      [item, { item with id := "item-2", reviewCheckpoint := false }] }
  fixedEvent 1 (.created input (fixedDigests.planHash input) none) :: acceptedPlan.tail ++
    [acceptingEvent, fixedEvent 1 (.itemStateChanged "item-2" .skipped none)]

theorem skippedPlan_notReady : ∃ open_ plan,
    reduceReviewPlanEvents fixedDigests skippedPlan.dropLast = .ok (some open_) ∧
    (open_.items.any fun item => item.id == "item-2" &&
      !item.criterionIds.any (requiredOnlyHere open_ item.id)) ∧
    reduceReviewPlanEvents fixedDigests skippedPlan = .ok (some plan) ∧ Covered plan ∧
    (∃ criterion ∈ plan.criteria, criterion.required = true) ∧
    ∀ (digests : PlanDigests Unit) (view : PlanView Unit Unit)
      (context : PlanContext Unit Unit Unit) (origin : ReviewPlanMutationOriginV1)
      (preparedReview : PreparedReviewRefV1),
      context.plan view = some plan → preparedReview.scope = .final →
        preparedReview.planRevision = plan.revision →
        buildDrafts digests view "session-1" context
          (.prepareReview origin plan.revision preparedReview) =
            .error (.plan "PLAN_FINAL_REVIEW_NOT_READY") := by
  have before : (reduceReviewPlanEvents fixedDigests skippedPlan.dropLast).toOption.any
      (fun current => current.any fun plan => plan.items.any fun item => item.id == "item-2" &&
        !item.criterionIds.any (requiredOnlyHere plan item.id)) = true := by
    decide +kernel
  have after : (reduceReviewPlanEvents fixedDigests skippedPlan).toOption.any
      (fun current => current.any fun plan => !plan.state.terminal && !hasFence plan &&
        (plan.items.map (fun item => (item.state, item.criterionIds)) ==
          [(.accepted, ["criterion-1"]), (.skipped, ["criterion-1"])] &&
        plan.criteria.map (fun criterion => (criterion.id, criterion.required)) ==
          [("criterion-1", true)])) = true := by
    decide +kernel
  obtain ⟨_, first, shown⟩ := exists_ok before
  obtain ⟨open_, rfl, permitted⟩ := (Option.any_eq_true _ _).mp shown
  obtain ⟨_, second, shown⟩ := exists_ok after
  obtain ⟨plan, rfl, left⟩ := (Option.any_eq_true _ _).mp shown
  simp only [Bool.and_eq_true, Bool.not_eq_true', beq_iff_eq] at left
  obtain ⟨⟨mutable, unfenced⟩, states, criteria⟩ := left
  obtain ⟨criterion, criterionEq, required⟩ := List.map_eq_singleton_iff.mp criteria
  obtain ⟨accepted, rest, itemsEq, acceptedEq, restEq⟩ := List.map_eq_cons_iff.mp states
  obtain ⟨skipped, rfl, skippedEq⟩ := List.map_eq_singleton_iff.mp restEq
  simp only [Prod.mk.injEq] at acceptedEq skippedEq required
  refine ⟨open_, plan, first, permitted, second, ⟨mutable, unfenced, ?_, ?_⟩, ?_, ?_⟩
  · simp [itemsEq, acceptedEq, skippedEq]
  · simp [itemsEq, criterionEq, required, acceptedEq]
  · exact ⟨criterion, by simp [criterionEq], required.2⟩
  · intro digests view context origin preparedReview shown final prepared
    refine (prepareReview_notReady digests view _ shown mutable unfenced origin _ final).mpr
      ⟨rfl, prepared, ?_⟩
    simp [itemsEq, acceptedEq, skippedEq]

end Praxis.Review
