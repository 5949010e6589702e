import Praxis.Session.PlanGraph

/-!
# What the success of a plan rests on

A succeeded plan is to have succeeded steps only, and a succeeded step a latest attempt that was
verified by verifications that all passed (`EvidenceBacked`). The reducer checks this where a plan,
a step or an attempt changes its state. It does not where one is created: an entry gives the first
state of its plan, step or attempt freely, and a step may be added to a plan, and an attempt to a
step, that has succeeded. `KeepsEvidence` is what is missing: the graph is evidence-backed after
every prefix of an accepted stream exactly if every entry of it keeps the evidence
(`planEvidence_iff`).

What holds of every plan and carries the proof is `SoundStep`: attempts are numbered in the order in
which they were created, so the latest one is the last, and an attempt that is verified has no
verification that did not pass.
-/

namespace Praxis.Session

set_option autoImplicit false

open Praxis.Foundations

def SessionStepProjectionV3.latestAttempt (step : SessionStepProjectionV3) :
    Option SessionAttemptProjectionV3 :=
  step.attempts.getLast?

def Proven (state : PlanAttemptStateV1) (verifications : List SessionVerificationProjectionV3) :
    Prop :=
  state = .verified ∧ verifications ≠ [] ∧ ∀ verification ∈ verifications,
    verification.status = .passed

/-- Success in the graph rests on evidence. -/
structure SessionPlanGraphProjectionV3.EvidenceBacked (graph : SessionPlanGraphProjectionV3) :
    Prop where
  complete : graph.state = .succeeded → ∀ step ∈ graph.steps, step.state = .succeeded
  proven : ∀ step ∈ graph.steps, step.state = .succeeded →
    ∃ attempt, step.latestAttempt = some attempt ∧ Proven attempt.state attempt.verifications

/-- The entry adds nothing to what has succeeded and makes nothing succeed without a verification.
A step that has no verification here owes its verified attempt to the entry that created it. -/
def KeepsEvidence (plan : MutablePlan) : PlanEventV3 → Prop
  | .stepCreated _ _ state => plan.state ≠ .succeeded ∧ state ≠ .succeeded
  | .attemptCreated ref _ _ _ =>
    ∀ step, plan.steps.get? ref.stepId = some step → step.state ≠ .succeeded
  | .stepStateChanged data =>
    data.state = .succeeded → ∀ step, plan.steps.get? data.stepId = some step →
      ∀ attempt, latestStepAttempt step = some attempt → attempt.verifications ≠ []
  | _ => True

/-! ## The order of attempts -/

section Attempts

variable {attempts : List MutableAttempt}

theorem insertionSort_ascending
    (ascending : attempts.Pairwise fun left right => left.ordinal < right.ordinal) :
    attempts.insertionSort (fun left right => left.ordinal ≤ right.ordinal) = attempts :=
  (ascending.imp fun less => Int.le_of_lt less).insertionSort_eq

theorem orderedInsert_last {attempt : MutableAttempt}
    (least : ∀ other ∈ attempts, attempt.ordinal < other.ordinal) :
    attempts.orderedInsert (fun left right => right.ordinal ≤ left.ordinal) attempt =
      attempts ++ [attempt] := by
  induction attempts with
  | nil => rfl
  | cons other rest ih =>
    have greater := least other List.mem_cons_self
    have later := ih fun another member => least another (List.mem_cons_of_mem _ member)
    simp [List.orderedInsert_cons, Int.not_le.mpr greater, later]

theorem insertionSort_descending
    (ascending : attempts.Pairwise fun left right => left.ordinal < right.ordinal) :
    attempts.insertionSort (fun left right => right.ordinal ≤ left.ordinal) = attempts.reverse := by
  induction attempts with
  | nil => rfl
  | cons attempt rest ih =>
    obtain ⟨least, ascending⟩ := List.pairwise_cons.mp ascending
    rw [List.insertionSort_cons, ih ascending, List.reverse_cons]
    exact orderedInsert_last fun other member => least other (List.mem_reverse.mp member)

/-- The attempts of a step are numbered in the order in which they were created. -/
def Numbered (step : MutableStep) : Prop :=
  step.attempts.values.map (·.ordinal) = numbersTo step.attempts.rows.length

variable {step : MutableStep}

theorem Numbered.ascending (numbered : Numbered step) :
    step.attempts.values.Pairwise fun left right => left.ordinal < right.ordinal := by
  have ordinals := numbersTo_ascending step.attempts.rows.length
  rw [← numbered, List.pairwise_map] at ordinals
  exact ordinals

theorem Numbered.orderedAttempts (numbered : Numbered step) :
    step.orderedAttempts = step.attempts.values :=
  insertionSort_ascending numbered.ascending

theorem Numbered.latestStepAttempt (numbered : Numbered step) :
    latestStepAttempt step = step.attempts.values.getLast? := by
  rw [Session.latestStepAttempt, insertionSort_descending numbered.ascending, List.head?_reverse]

end Attempts

/-- What holds of every step of every plan. -/
structure SoundStep (stableIds : List String) (step : MutableStep) : Prop where
  numbered : Numbered step
  named : ∀ attemptId, step.attempts.contains attemptId = true →
    "attempt" ++ ":" ++ attemptId ∈ stableIds
  passed : ∀ attemptId attempt, step.attempts.get? attemptId = some attempt →
    attempt.state = .verified → ∀ verification ∈ attempt.verifications,
      verification.status = .passed

/-- What holds of the variables after every stream. -/
def PlanVariables.Sound (own : PlanVariables) : Prop :=
  ∀ plan, own.plan = some plan → ∀ stepId step, plan.steps.get? stepId = some step →
    SoundStep own.stableIds step

/-- Success rests on evidence, in the reducer's own plan. -/
structure MutablePlan.Backed (plan : MutablePlan) : Prop where
  complete : plan.state = .succeeded → ∀ stepId step, plan.steps.get? stepId = some step →
    step.state = .succeeded
  proven : ∀ stepId step, plan.steps.get? stepId = some step → step.state = .succeeded →
    ∃ attempt, latestStepAttempt step = some attempt ∧ Proven attempt.state attempt.verifications

variable {plan : MutablePlan} {event : PlanEventV3}

/-- The graph shows the success of the plan and what it rests on. -/
theorem project_evidenceBacked {localeCompare : String → String → Ordering}
    (numbered : ∀ stepId step, plan.steps.get? stepId = some step → Numbered step) :
    (plan.project localeCompare).EvidenceBacked ↔ plan.Backed := by
  have shown : ∀ step, step ∈ (plan.project localeCompare).steps ↔
      ∃ stepId found, plan.steps.get? stepId = some found ∧ step = found.project := by
    intro step
    simp only [MutablePlan.project, List.mem_map, MutablePlan.orderedSteps,
      List.mem_insertionSort, Table.mem_values_iff]
    constructor
    · rintro ⟨found, ⟨stepId, place⟩, rfl⟩
      exact ⟨stepId, found, place, rfl⟩
    · rintro ⟨stepId, found, place, rfl⟩
      exact ⟨found, ⟨stepId, place⟩, rfl⟩
  have latest : ∀ stepId step, plan.steps.get? stepId = some step →
      step.project.latestAttempt = (latestStepAttempt step).map (·.project) := by
    intro stepId step found
    have order := numbered stepId step found
    rw [order.latestStepAttempt, SessionStepProjectionV3.latestAttempt, MutableStep.project,
      order.orderedAttempts, List.getLast?_map]
  constructor
  · intro backed
    constructor
    · intro done stepId step found
      exact backed.complete done step.project ((shown _).mpr ⟨stepId, step, found, rfl⟩)
    · intro stepId step found done
      obtain ⟨attempt, last, proven⟩ :=
        backed.proven step.project ((shown _).mpr ⟨stepId, step, found, rfl⟩) done
      rw [latest stepId step found, Option.map_eq_some_iff] at last
      obtain ⟨attempt, last, rfl⟩ := last
      exact ⟨attempt, last, proven⟩
  · intro backed
    constructor
    · intro done step member
      obtain ⟨stepId, found, place, rfl⟩ := (shown _).mp member
      exact backed.complete done stepId found place
    · intro step member done
      obtain ⟨stepId, found, place, rfl⟩ := (shown _).mp member
      obtain ⟨attempt, last, proven⟩ := backed.proven stepId found place done
      exact ⟨attempt.project, by rw [latest stepId found place, last]; rfl, proven⟩

/-! ## What one entry does to the plan -/

/-- What an accepted entry does to the plan, and what it found before. -/
inductive PlanChange (own next : PlanVariables) : PlanEventV3 → Prop
  | created (ref : PlanRefV3) (objective : String) (state : PlanStateV1) (plan : MutablePlan)
      (steps : plan.steps = Table.empty) (after : next.plan = some plan) :
      PlanChange own next (.planCreated ref objective state)
  | stateChanged (ref : PlanRefV3) (state : PlanStateV1) (plan : MutablePlan)
      (before : own.plan = some plan) (open_ : plan.state ≠ .succeeded)
      (complete : state = .succeeded → ∀ step ∈ plan.steps.values, step.state = .succeeded)
      (after : next.plan = some { plan with state }) :
      PlanChange own next (.planStateChanged ref state)
  | decided (data : PlanDecisionV3) (same : next.plan = own.plan) :
      PlanChange own next (.planDecisionRecorded data)
  | revised (data : PlanRevisionV3) (plan revision : MutablePlan) (before : own.plan = some plan)
      (running : revision.state = .running)
      (reused : ∀ stepId step, revision.steps.get? stepId = some step →
        plan.steps.get? stepId = some step)
      (after : next.plan = some revision) : PlanChange own next (.planRevised data)
  | stepAdded (ref : PlanRefV3) (definition : PlanStepDefinitionV1) (state : PlanStepStateV1)
      (plan : MutablePlan) (before : own.plan = some plan)
      (fresh : plan.steps.get? definition.stepId = none)
      (after : next.plan = some (plan.setStep definition.stepId { definition, state })) :
      PlanChange own next (.stepCreated ref definition state)
  | stepChanged (data : StepChangeV3) (plan : MutablePlan) (step : MutableStep)
      (before : own.plan = some plan) (found : plan.steps.get? data.stepId = some step)
      (open_ : step.state ≠ .succeeded)
      (allowed : latestAttemptAllows data.state (latestStepAttempt step) = true)
      (after : next.plan = some (plan.setStep data.stepId { step with
        state := data.state
        errorCode := data.errorCode })) :
      PlanChange own next (.stepStateChanged data)
  | attemptAdded (ref : AttemptRefV3) (ordinal : Int) (state : PlanAttemptStateV1)
      (childRunId : Option String) (plan : MutablePlan) (step : MutableStep)
      (attempt : MutableAttempt) (before : own.plan = some plan)
      (found : plan.steps.get? ref.stepId = some step)
      (number : attempt.ordinal = (step.attempts.rows.length : Int) + 1)
      (unverified : attempt.verifications = [])
      (fresh : "attempt" ++ ":" ++ attempt.attemptId ∉ own.stableIds)
      (used : "attempt" ++ ":" ++ attempt.attemptId ∈ next.stableIds)
      (after : next.plan = some (plan.setStep ref.stepId
        { step with attempts := step.attempts.upsert attempt.attemptId attempt })) :
      PlanChange own next (.attemptCreated ref ordinal state childRunId)
  | attemptEdited (event : PlanEventV3) (ref : AttemptRefV3) (plan : MutablePlan)
      (step : MutableStep) (attempt edited : MutableAttempt) (keeps : KeepsEvidence plan event)
      (before : own.plan = some plan) (found : plan.steps.get? ref.stepId = some step)
      (present : step.attempts.get? ref.attemptId = some attempt)
      (open_ : attempt.state ≠ .verified)
      (after : next.plan = some (plan.setAttempt ref step edited))
      (ordinal : edited.ordinal = attempt.ordinal)
      (proven : edited.state = .verified → Proven edited.state edited.verifications) :
      PlanChange own next event

section Changes

variable {own next : PlanVariables}

theorem useStableId_ok {kind id : String} (accepted : own.useStableId kind id = .ok next) :
    kind ++ ":" ++ id ∉ own.stableIds ∧
      next = { own with stableIds := own.stableIds ++ [kind ++ ":" ++ id] } := by
  simp only [PlanVariables.useStableId, useLayerId, bind_eq_ok, ensure_eq_ok, exists_const,
    pure_eq_ok, Bool.not_eq_true', List.contains_eq_mem, decide_eq_false_iff_not] at accepted
  obtain ⟨_, ⟨fresh, rfl⟩, rfl⟩ := accepted
  exact ⟨fresh, rfl⟩

variable {childRunId parentRunId : Option String} {ref : AttemptRefV3} {plan : MutablePlan}
  {state : PlanStateV1} {step : MutableStep} {proofs rest : List PlanReuseProofV3}

theorem useChildRun_ok (accepted : own.useChildRun childRunId = .ok next) :
    own.stableIds ⊆ next.stableIds := by
  cases childRunId with
  | none =>
    obtain rfl := Except.ok.inj accepted
    exact List.Subset.refl _
  | some childRunId =>
    obtain ⟨_, rfl⟩ := useStableId_ok accepted
    exact List.subset_append_left _ _

theorem requirePlanRevision_ok {ref : PlanRefV3}
    (accepted : requirePlanRevision own.plan ref = .ok plan) : own.plan = some plan := by
  simp only [requirePlanRevision, bind_eq_ok, orError_eq_ok, pure_eq_ok] at accepted
  obtain ⟨_, found, _, _, _, _, rfl⟩ := accepted
  exact found

theorem requireStepRevision_ok {ref : StepRefV3}
    (accepted : requireStepRevision own.plan ref = .ok (plan, step)) :
    own.plan = some plan ∧ plan.steps.get? ref.stepId = some step := by
  simp only [requireStepRevision, bind_eq_ok, orError_eq_ok, pure_eq_ok, Prod.mk.injEq] at accepted
  obtain ⟨_, before, _, found, rfl, rfl⟩ := accepted
  exact ⟨requirePlanRevision_ok before, found⟩

theorem requireAttemptRevision_ok {attempt : MutableAttempt}
    (accepted : requireAttemptRevision own.plan ref = .ok (plan, step, attempt)) :
    own.plan = some plan ∧ plan.steps.get? ref.stepId = some step ∧
      step.attempts.get? ref.attemptId = some attempt := by
  simp only [requireAttemptRevision, bind_eq_ok, orError_eq_ok, pure_eq_ok, Prod.mk.injEq,
    Prod.exists] at accepted
  obtain ⟨_, _, before, _, found, rfl, rfl, rfl⟩ := accepted
  obtain ⟨plan, step⟩ := requireStepRevision_ok before
  exact ⟨plan, step, found⟩

theorem planStateTransition_open {current : PlanStateV1}
    (allowed : planStateTransition current state = true) : current ≠ .succeeded := by
  rintro rfl
  simp [planStateTransition, planTransitions] at allowed

theorem planStepTransition_open {current state : PlanStepStateV1}
    {options : PlanStepTransitionOptions}
    (allowed : planStepTransition current state options = true) : current ≠ .succeeded := by
  rintro rfl
  simp [planStepTransition, stepTransitions] at allowed

theorem planAttemptTransition_open {current state : PlanAttemptStateV1}
    (allowed : planAttemptTransition current state = true) : current ≠ .verified := by
  rintro rfl
  simp [planAttemptTransition, attemptTransitions] at allowed

theorem reducePlanCreated_change {ref : PlanRefV3} {objective : String}
    (accepted : reducePlanCreated own ref objective state = .ok next) :
    own.stableIds ⊆ next.stableIds ∧ PlanChange own next (.planCreated ref objective state) := by
  simp only [reducePlanCreated, bind_eq_ok, pure_eq_ok] at accepted
  obtain ⟨_, _, used, names, rfl⟩ := accepted
  obtain ⟨_, rfl⟩ := useStableId_ok names
  exact ⟨List.subset_append_left _ _, .created ref objective state _ rfl rfl⟩

theorem reducePlanStateChanged_change {ref : PlanRefV3}
    (accepted : reducePlanStateChanged own ref state = .ok next) :
    own.stableIds ⊆ next.stableIds ∧ PlanChange own next (.planStateChanged ref state) := by
  simp only [reducePlanStateChanged, bind_eq_ok, ensure_eq_ok, exists_const, pure_eq_ok]
    at accepted
  obtain ⟨plan, found, allowed, complete, rfl⟩ := accepted
  refine ⟨List.Subset.refl _, .stateChanged ref state plan (requirePlanRevision_ok found)
    (planStateTransition_open allowed) ?_ rfl⟩
  rintro rfl step member
  simp only [bne_self_eq_false, Bool.false_or, List.all_eq_true, beq_iff_eq] at complete
  exact complete step member

theorem reducePlanDecisionRecorded_change {data : PlanDecisionV3}
    (accepted : reducePlanDecisionRecorded own data = .ok next) :
    own.stableIds ⊆ next.stableIds ∧ PlanChange own next (.planDecisionRecorded data) := by
  simp only [reducePlanDecisionRecorded, bind_eq_ok] at accepted
  obtain ⟨plan, _, accepted⟩ := accepted
  have same : own = next := by
    cases named : data.stepId with
    | none => simpa [named] using accepted
    | some stepId =>
      simp only [named, bind_eq_ok, ensure_eq_ok, exists_const, pure_eq_ok] at accepted
      obtain ⟨_, _, _, same⟩ := accepted
      exact same
  subst same
  exact ⟨List.Subset.refl _, .decided data rfl⟩

theorem reusedSteps_collected {steps start reused : Table String MutableStep}
    (accepted : rest.foldlM (fun reused proof => do
      let step ← reusedStep steps proofs proof
      return reused.upsert proof.stepId step) start = .ok reused) :
    (∀ stepId, reused.get? stepId =
      if stepId ∈ rest.map (·.stepId) then steps.get? stepId else start.get? stepId) ∧
    ∀ proof ∈ rest, ∃ step, reusedStep steps proofs proof = .ok step := by
  induction rest generalizing start with
  | nil =>
    obtain rfl := foldlM_nil_eq_ok.mp accepted
    exact ⟨fun stepId => by simp, fun proof member => absurd member List.not_mem_nil⟩
  | cons proof rest ih =>
    obtain ⟨middle, taken, later⟩ := foldlM_cons_eq_ok.mp accepted
    simp only [bind_eq_ok, pure_eq_ok] at taken
    obtain ⟨step, check, rfl⟩ := taken
    obtain ⟨collected, checked⟩ := ih later
    have there := check
    simp only [reusedStep, bind_eq_ok, orError_eq_ok, pure_eq_ok] at there
    obtain ⟨_, there, _, _, _, _, rfl⟩ := there
    refine ⟨fun stepId => ?_, fun other member => ?_⟩
    · rw [collected, Table.get?_upsert]
      by_cases same : stepId = proof.stepId
      · simp [same, there]
      · simp [same]
    · rcases List.mem_cons.mp member with rfl | later
      · exact ⟨_, check⟩
      · exact checked other later

theorem reusedSteps_ok {steps reused : Table String MutableStep}
    (accepted : rest.foldlM (fun reused proof => do
      let step ← reusedStep steps proofs proof
      return reused.upsert proof.stepId step) (Table.empty : Table String MutableStep) =
      .ok reused) {stepId : String}
    (found : reused.get? stepId = some step) : steps.get? stepId = some step := by
  rw [(reusedSteps_collected accepted).1] at found
  split at found
  · exact found
  · simp at found

theorem reducePlanRevised_change {data : PlanRevisionV3}
    (accepted : reducePlanRevised own data = .ok next) :
    own.stableIds ⊆ next.stableIds ∧ PlanChange own next (.planRevised data) := by
  simp only [reducePlanRevised, bind_eq_ok, ensure_eq_ok, exists_const, pure_eq_ok,
    Bool.and_eq_true, beq_iff_eq] at accepted
  obtain ⟨plan, found, ⟨⟨_, running⟩, _⟩, reused, fold, rfl⟩ := accepted
  exact ⟨List.Subset.refl _, .revised data plan _ (requirePlanRevision_ok found) running
    (fun _ _ => reusedSteps_ok fold) rfl⟩

theorem reduceStepCreated_change {ref : PlanRefV3} {definition : PlanStepDefinitionV1}
    {state : PlanStepStateV1} (accepted : reduceStepCreated own ref definition state = .ok next) :
    own.stableIds ⊆ next.stableIds ∧ PlanChange own next (.stepCreated ref definition state) := by
  simp only [reduceStepCreated, bind_eq_ok, ensure_eq_ok, exists_const, pure_eq_ok,
    Bool.not_eq_true'] at accepted
  obtain ⟨plan, found, used, names, fresh, rfl⟩ := accepted
  obtain ⟨_, rfl⟩ := useStableId_ok names
  refine ⟨List.subset_append_left _ _, .stepAdded ref definition state plan
    (requirePlanRevision_ok found) ?_ rfl⟩
  exact Option.not_isSome_iff_eq_none.mp (by simpa [Table.contains] using fresh)

theorem reduceStepStateChanged_change {data : StepChangeV3}
    (accepted : reduceStepStateChanged own data = .ok next) :
    own.stableIds ⊆ next.stableIds ∧ PlanChange own next (.stepStateChanged data) := by
  simp only [reduceStepStateChanged, bind_eq_ok, ensure_eq_ok, exists_const, pure_eq_ok,
    Prod.exists] at accepted
  obtain ⟨plan, step, found, transition, allowed, rfl⟩ := accepted
  obtain ⟨before, found⟩ := requireStepRevision_ok found
  exact ⟨List.Subset.refl _, .stepChanged data plan step before found
    (planStepTransition_open transition) allowed rfl⟩

theorem reduceAttemptCreated_change {ordinal : Int} {state : PlanAttemptStateV1}
    (accepted : reduceAttemptCreated own ref ordinal state childRunId = .ok next) :
    own.stableIds ⊆ next.stableIds ∧
      PlanChange own next (.attemptCreated ref ordinal state childRunId) := by
  simp only [reduceAttemptCreated, bind_eq_ok, ensure_eq_ok, exists_const, Prod.exists,
    Bool.and_eq_true, beq_iff_eq, decide_eq_true_eq, pure_eq_ok] at accepted
  obtain ⟨plan, step, found, _, ⟨number, _⟩, used, names, more, children, rfl⟩ := accepted
  obtain ⟨before, found⟩ := requireStepRevision_ok found
  obtain ⟨fresh, rfl⟩ := useStableId_ok names
  have grown := useChildRun_ok children
  refine ⟨fun id member => grown (List.mem_append_left _ member),
    .attemptAdded ref ordinal state childRunId plan step
      { attemptId := ref.attemptId
        ordinal
        state
        childRunId } before found number rfl fresh ?_ rfl⟩
  exact grown (by simp)

theorem reduceAttemptStateChanged_change {state : PlanAttemptStateV1} {errorCode : Option String}
    (accepted : reduceAttemptStateChanged own ref state errorCode = .ok next) :
    own.stableIds ⊆ next.stableIds ∧
      PlanChange own next (.attemptStateChanged ref state errorCode) := by
  simp only [reduceAttemptStateChanged, bind_eq_ok, ensure_eq_ok, exists_const, Prod.exists,
    pure_eq_ok] at accepted
  obtain ⟨plan, step, attempt, found, transition, allowed, rfl⟩ := accepted
  obtain ⟨before, found, present⟩ := requireAttemptRevision_ok found
  refine ⟨List.Subset.refl _, .attemptEdited _ ref plan step attempt _ trivial before found present
    (planAttemptTransition_open transition) rfl rfl ?_⟩
  rintro rfl
  simp only [verificationsAllow, Bool.and_eq_true, Bool.not_eq_true', List.isEmpty_eq_false_iff,
    List.all_eq_true, SessionVerificationProjectionV3.passes, beq_iff_eq] at allowed
  exact ⟨rfl, allowed⟩

theorem reduceAttemptExecutionCompleted_change {status : PlanExecutionStatusV3}
    (accepted : reduceAttemptExecutionCompleted own ref status = .ok next) :
    own.stableIds ⊆ next.stableIds ∧
      PlanChange own next (.attemptExecutionCompleted ref status) := by
  simp only [reduceAttemptExecutionCompleted, bind_eq_ok, ensure_eq_ok, exists_const, Prod.exists,
    pure_eq_ok] at accepted
  obtain ⟨plan, step, attempt, found, transition, _, rfl⟩ := accepted
  obtain ⟨before, found, present⟩ := requireAttemptRevision_ok found
  refine ⟨List.Subset.refl _, .attemptEdited _ ref plan step attempt _ trivial before found present
    (planAttemptTransition_open transition) rfl rfl ?_⟩
  intro verified
  cases status <;> simp [PlanExecutionStatusV3.attemptState] at verified

theorem reduceSubagentExecutionBound_change {childRunId : String}
    {request : SubagentExecutionRequestV1} {retrySafety : SessionRetrySafetyV3}
    (accepted : reduceSubagentExecutionBound own parentRunId ref childRunId request retrySafety =
      .ok next) : own.stableIds ⊆ next.stableIds ∧
      PlanChange own next (.subagentExecutionBound ref childRunId request retrySafety) := by
  simp only [reduceSubagentExecutionBound, bind_eq_ok, ensure_eq_ok, exists_const, Prod.exists,
    pure_eq_ok, Bool.and_eq_true, beq_iff_eq] at accepted
  obtain ⟨plan, step, attempt, found, _, ⟨⟨⟨⟨running, _⟩, _⟩, _⟩, _⟩, rfl⟩ := accepted
  obtain ⟨before, found, present⟩ := requireAttemptRevision_ok found
  refine ⟨List.Subset.refl _, .attemptEdited _ ref plan step attempt _ trivial before found present
    (by simp [running]) rfl rfl ?_⟩
  intro verified
  simp [running] at verified

theorem reduceSubagentResultRecorded_change {data : SubagentResultV3}
    (accepted : reduceSubagentResultRecorded own data = .ok next) :
    own.stableIds ⊆ next.stableIds ∧ PlanChange own next (.subagentResultRecorded data) := by
  simp only [reduceSubagentResultRecorded, bind_eq_ok, ensure_eq_ok, exists_const, Prod.exists,
    pure_eq_ok, Bool.and_eq_true, beq_iff_eq] at accepted
  obtain ⟨plan, step, attempt, found, ⟨⟨running, _⟩, _⟩, used, names, rfl⟩ := accepted
  obtain ⟨before, found, present⟩ := requireAttemptRevision_ok found
  have grown := useChildRun_ok names
  refine ⟨grown, .attemptEdited _ data.toAttemptRefV3 plan step attempt _ trivial before found
    present (by simp [running]) rfl rfl ?_⟩
  intro verified
  simp [running] at verified

theorem reduceVerificationRecorded_change {verification : SessionVerificationProjectionV3}
    (accepted : reduceVerificationRecorded own ref verification = .ok next) :
    own.stableIds ⊆ next.stableIds ∧
      PlanChange own next (.verificationRecorded ref verification) := by
  simp only [reduceVerificationRecorded, bind_eq_ok, ensure_eq_ok, exists_const, Prod.exists,
    pure_eq_ok, Bool.and_eq_true, beq_iff_eq] at accepted
  obtain ⟨used, names, plan, step, attempt, found, ⟨verifying, _⟩, rfl⟩ := accepted
  obtain ⟨_, rfl⟩ := useStableId_ok names
  obtain ⟨before, found, present⟩ := requireAttemptRevision_ok found
  refine ⟨List.subset_append_left _ _, .attemptEdited _ ref plan step attempt _ trivial before
    found present (by simp [verifying]) rfl rfl ?_⟩
  intro verified
  simp [verifying] at verified

theorem reducePlanEvent_change {event : PlanEventV3}
    (accepted : reducePlanEvent own parentRunId event = .ok next) :
    own.stableIds ⊆ next.stableIds ∧ PlanChange own next event := by
  cases event with
  | planCreated => exact reducePlanCreated_change accepted
  | planStateChanged => exact reducePlanStateChanged_change accepted
  | planDecisionRecorded => exact reducePlanDecisionRecorded_change accepted
  | planRevised => exact reducePlanRevised_change accepted
  | stepCreated => exact reduceStepCreated_change accepted
  | stepStateChanged => exact reduceStepStateChanged_change accepted
  | attemptCreated => exact reduceAttemptCreated_change accepted
  | attemptStateChanged => exact reduceAttemptStateChanged_change accepted
  | attemptExecutionCompleted => exact reduceAttemptExecutionCompleted_change accepted
  | subagentExecutionBound => exact reduceSubagentExecutionBound_change accepted
  | subagentResultRecorded => exact reduceSubagentResultRecorded_change accepted
  | verificationRecorded => exact reduceVerificationRecorded_change accepted

end Changes

/-! ## What stays true of every step -/

section Steps

variable {stableIds more : List String} {step : MutableStep}

theorem SoundStep.mono (sound : SoundStep stableIds step) (grown : stableIds ⊆ more) :
    SoundStep more step where
  numbered := sound.numbered
  named attemptId present := grown (sound.named attemptId present)
  passed := sound.passed

theorem SoundStep.of_attempts {other : MutableStep} (sound : SoundStep stableIds step)
    (same : other.attempts = step.attempts) : SoundStep stableIds other where
  numbered := by
    rw [Numbered, same]
    exact sound.numbered
  named := same ▸ sound.named
  passed := same ▸ sound.passed

theorem soundStep_empty (definition : PlanStepDefinitionV1) (state : PlanStepStateV1) :
    SoundStep stableIds { definition, state } where
  numbered := rfl
  named attemptId present := by simp [Table.contains] at present
  passed attemptId attempt found := by simp at found

variable {attemptId : String} {attempt edited : MutableAttempt}

variable (sound : SoundStep stableIds step)
include sound

theorem SoundStep.fresh
    (fresh : "attempt" ++ ":" ++ attemptId ∉ stableIds) : step.attempts.get? attemptId = none := by
  cases found : step.attempts.get? attemptId with
  | none => rfl
  | some attempt =>
    exact absurd (sound.named attemptId (Table.contains_iff _ |>.mpr ⟨attempt, found⟩)) fresh

theorem SoundStep.attemptAdded (fresh : "attempt" ++ ":" ++ attempt.attemptId ∉ stableIds)
    (number : attempt.ordinal = (step.attempts.rows.length : Int) + 1)
    (unverified : attempt.verifications = []) (grown : stableIds ⊆ more)
    (used : "attempt" ++ ":" ++ attempt.attemptId ∈ more) :
    SoundStep more { step with attempts := step.attempts.upsert attempt.attemptId attempt } := by
  have rows := step.attempts.upsert_of_none attempt (sound.fresh fresh)
  constructor
  case numbered =>
    have before := sound.numbered
    simp only [Numbered, Table.values] at before ⊢
    simp [rows, before, number, numbersTo_succ]
  case named =>
    intro attemptId present
    obtain ⟨found, place⟩ := (Table.contains_iff _).mp present
    rw [Table.get?_upsert] at place
    by_cases same : attemptId = attempt.attemptId
    · rw [same]
      exact used
    · rw [if_neg same] at place
      exact grown (sound.named attemptId ((Table.contains_iff _).mpr ⟨found, place⟩))
  case passed =>
    intro attemptId found place
    rw [Table.get?_upsert] at place
    by_cases same : attemptId = attempt.attemptId
    · rw [if_pos same] at place
      obtain rfl := Option.some.inj place
      simp [unverified]
    · rw [if_neg same] at place
      exact sound.passed attemptId found place

theorem SoundStep.attemptEdited (present : step.attempts.get? attemptId = some attempt)
    (ordinal : edited.ordinal = attempt.ordinal)
    (proven : edited.state = .verified → Proven edited.state edited.verifications) :
    SoundStep stableIds { step with attempts := step.attempts.upsert attemptId edited } := by
  have update := step.attempts.upsert_of_some edited present
  constructor
  case numbered =>
    have before := sound.numbered
    have length : (step.attempts.update attemptId edited).rows.length =
        step.attempts.rows.length := by simp [Table.update, Table.modify]
    rw [Numbered, update, step.attempts.map_values_update (·.ordinal) present ordinal, length]
    exact before
  case named =>
    intro other there
    rw [update, Table.update, Table.contains_modify] at there
    exact sound.named other there
  case passed =>
    intro other found place
    rw [Table.get?_upsert] at place
    by_cases same : other = attemptId
    · rw [if_pos same] at place
      obtain rfl := Option.some.inj place
      exact fun verified => (proven verified).2.2
    · rw [if_neg same] at place
      exact sound.passed other found place

theorem latestStepAttempt_added (fresh : "attempt" ++ ":" ++ attempt.attemptId ∉ stableIds)
    (number : attempt.ordinal = (step.attempts.rows.length : Int) + 1)
    (unverified : attempt.verifications = []) :
    latestStepAttempt { step with attempts := step.attempts.upsert attempt.attemptId attempt } =
      some attempt := by
  have numbered := (sound.attemptAdded fresh number unverified (List.subset_append_left stableIds
    ["attempt" ++ ":" ++ attempt.attemptId]) (by simp)).numbered
  have rows := step.attempts.upsert_of_none attempt (sound.fresh fresh)
  rw [numbered.latestStepAttempt]
  simp [Table.values, rows]

theorem latestStepAttempt_edited {latest : MutableAttempt}
    (present : step.attempts.get? attemptId = some attempt) (open_ : attempt.state ≠ .verified)
    (ordinal : edited.ordinal = attempt.ordinal)
    (proven : edited.state = .verified → Proven edited.state edited.verifications)
    (last : latestStepAttempt step = some latest) (verified : latest.state = .verified) :
    latestStepAttempt { step with attempts := step.attempts.upsert attemptId edited } =
      some latest := by
  have numbered := (sound.attemptEdited present ordinal proven).numbered
  rw [numbered.latestStepAttempt, step.attempts.upsert_of_some edited present]
  rw [sound.numbered.latestStepAttempt, Table.values, List.getLast?_map, Option.map_eq_some_iff]
    at last
  obtain ⟨row, last, rfl⟩ := last
  have other : row.1 ≠ attemptId := by
    intro same
    have stored : (attemptId, row.2) ∈ step.attempts.rows := by
      rw [← same]
      exact List.mem_of_getLast? last
    rw [(step.attempts.mem_rows_iff).mp stored] at present
    exact open_ (Option.some.inj present ▸ verified)
  simp [Table.values, Table.update, Table.modify, last, other]

end Steps

variable {own next : PlanVariables} {step : MutableStep}

theorem PlanVariables.Sound.setStep (sound : own.Sound) (grown : own.stableIds ⊆ next.stableIds)
    (before : own.plan = some plan) {stepId : String} (new : SoundStep next.stableIds step)
    (after : next.plan = some (plan.setStep stepId step)) : next.Sound := by
  intro plan' after' other step' found'
  obtain rfl := Option.mem_unique after after'
  rw [MutablePlan.setStep, Table.get?_upsert] at found'
  by_cases same : other = stepId
  · rw [if_pos same] at found'
    exact Option.some.inj found' ▸ new
  · rw [if_neg same] at found'
    exact (sound plan before other step' found').mono grown

theorem PlanChange.sound (sound : own.Sound)
    (grown : own.stableIds ⊆ next.stableIds) (change : PlanChange own next event) : next.Sound := by
  cases change with
  | created ref objective state plan steps after =>
    intro plan' after' stepId step found
    obtain rfl := Option.mem_unique after after'
    simp [steps] at found
  | stateChanged ref state plan before open_ complete after =>
    intro plan' after' stepId step found
    obtain rfl := Option.mem_unique after after'
    exact (sound plan before stepId step found).mono grown
  | decided data same =>
    intro plan' after' stepId step found
    exact (sound plan' (same ▸ after') stepId step found).mono grown
  | revised data plan revision before running reused after =>
    intro plan' after' stepId step found
    obtain rfl := Option.mem_unique after after'
    exact (sound plan before stepId step (reused stepId step found)).mono grown
  | stepAdded ref definition state plan before fresh after =>
    exact sound.setStep grown before (soundStep_empty definition state) after
  | stepChanged data plan step before found open_ allowed after =>
    refine sound.setStep grown before ?_ after
    exact ((sound plan before _ step found).mono grown).of_attempts rfl
  | attemptAdded ref ordinal state childRunId plan step attempt before found number unverified fresh
      used after =>
      refine sound.setStep grown before ?_ after
      exact (sound plan before _ step found).attemptAdded fresh number unverified grown used
  | attemptEdited event ref plan step attempt edited keeps before found present open_ after ordinal
      proven =>
      refine sound.setStep grown before ?_ after
      exact ((sound plan before _ step found).attemptEdited present ordinal proven).mono grown

/-! ## Which entries keep the evidence -/

/-- The step is succeeded only on evidence. -/
def StepProven (step : MutableStep) : Prop :=
  step.state = .succeeded →
    ∃ attempt, latestStepAttempt step = some attempt ∧ Proven attempt.state attempt.verifications

theorem MutablePlan.Backed.setStep (backed : plan.Backed) (stepId : String) (step : MutableStep) :
    (plan.setStep stepId step).Backed ↔
      (plan.state = .succeeded → step.state = .succeeded) ∧ StepProven step := by
  have here : (plan.setStep stepId step).steps.get? stepId = some step := by
    simp [MutablePlan.setStep, Table.get?_upsert]
  constructor
  · intro after
    exact ⟨fun done => after.complete done stepId step here, after.proven stepId step here⟩
  · rintro ⟨complete, proven⟩
    constructor
    · intro done other found place
      rw [MutablePlan.setStep, Table.get?_upsert] at place
      by_cases same : other = stepId
      · rw [if_pos same] at place
        exact Option.some.inj place ▸ complete done
      · rw [if_neg same] at place
        exact backed.complete done other found place
    · intro other found place
      rw [MutablePlan.setStep, Table.get?_upsert] at place
      by_cases same : other = stepId
      · rw [if_pos same] at place
        exact Option.some.inj place ▸ proven
      · rw [if_neg same] at place
        exact backed.proven other found place

theorem stepProven_changed {stableIds : List String} {state : PlanStepStateV1}
    {errorCode : Option String} (sound : SoundStep stableIds step)
    (allowed : latestAttemptAllows state (latestStepAttempt step) = true) : StepProven { step with
        state
        errorCode } ↔
      (state = .succeeded → ∀ attempt, latestStepAttempt step = some attempt →
        attempt.verifications ≠ []) := by
  constructor
  · rintro proven rfl attempt last
    obtain ⟨latest, last', _, verifications, _⟩ := proven rfl
    rw [show latestStepAttempt step = some latest from last'] at last
    exact Option.some.inj last ▸ verifications
  · intro verifications done
    obtain rfl : state = .succeeded := done
    obtain ⟨attempt, last, verified⟩ := (Option.any_eq_true _ _).mp allowed
    have verified : attempt.state = .verified := by simpa using verified
    obtain ⟨attemptId, found⟩ : ∃ attemptId, step.attempts.get? attemptId = some attempt := by
      rw [sound.numbered.latestStepAttempt] at last
      exact step.attempts.mem_values_iff.mp (List.mem_of_getLast? last)
    exact ⟨attempt, last, verified, verifications rfl attempt last,
      sound.passed attemptId attempt found verified⟩

theorem PlanChange.backed (sound : own.Sound)
    (backed : ∀ plan, own.plan = some plan → plan.Backed) (change : PlanChange own next event) :
    (∀ plan, next.plan = some plan → plan.Backed) ↔
      ∀ plan, own.plan = some plan → KeepsEvidence plan event := by
  cases change with
  | created ref objective state plan steps after =>
    refine iff_of_true ?_ fun _ _ => trivial
    intro plan' after'
    obtain rfl := Option.mem_unique after after'
    constructor <;> simp [steps]
  | stateChanged ref state plan before open_ complete after =>
    refine iff_of_true ?_ fun _ _ => trivial
    intro plan' after'
    obtain rfl := Option.mem_unique after after'
    constructor
    · intro done stepId step found
      exact complete done step (plan.steps.mem_values_of_get? found)
    · exact (backed plan before).proven
  | decided data same =>
    refine iff_of_true ?_ fun _ _ => trivial
    rw [same]
    exact backed
  | revised data plan revision before running reused after =>
    refine iff_of_true ?_ fun _ _ => trivial
    intro plan' after'
    obtain rfl := Option.mem_unique after after'
    constructor
    · intro done
      rw [running] at done
      cases done
    · intro stepId step found
      exact (backed plan before).proven stepId step (reused stepId step found)
  | stepAdded ref definition state plan before fresh after =>
    simp only [after, before, Option.some.injEq, forall_eq', (backed plan before).setStep,
      KeepsEvidence, StepProven]
    have none : latestStepAttempt { definition, state } = none := rfl
    simp only [none, reduceCtorEq, false_and, exists_false, imp_false]
    tauto
  | stepChanged data plan step before found open_ allowed after =>
    have unfinished : plan.state ≠ .succeeded :=
      fun done => open_ ((backed plan before).complete done _ step found)
    simp only [after, before, Option.some.injEq, forall_eq', (backed plan before).setStep,
      KeepsEvidence, found, stepProven_changed (sound plan before _ step found) allowed,
      unfinished, false_implies, true_and]
  | attemptAdded ref ordinal state childRunId plan step attempt before found number unverified fresh
      used after =>
      have latest := latestStepAttempt_added (sound plan before _ step found) fresh number unverified
      simp only [after, before, Option.some.injEq, forall_eq', (backed plan before).setStep,
        KeepsEvidence, found, StepProven, latest]
      constructor
      · rintro ⟨_, proven⟩ done
        obtain ⟨_, rfl, _, verifications, _⟩ := proven done
        exact verifications unverified
      · intro open_
        exact ⟨fun done => (backed plan before).complete done _ step found,
          fun done => absurd done open_⟩
  | attemptEdited event ref plan step attempt edited keeps before found present open_ after ordinal
      proven =>
      simp only [after, before, Option.some.injEq, forall_eq', (backed plan before).setStep,
        MutablePlan.setAttempt]
      refine iff_of_true ⟨fun done => (backed plan before).complete done _ step found, ?_⟩ keeps
      intro done
      obtain ⟨latest, last, evidence⟩ := (backed plan before).proven _ step found done
      exact ⟨latest, latestStepAttempt_edited (sound plan before _ step found) present open_ ordinal
        proven last evidence.1, evidence⟩

/-! ## Streams -/

section Streams

variable {Data View : Type} (rest : SessionRules Data View)
  (localeCompare : String → String → Ordering) (event? : Data → Option PlanEventV3)

/-- The graph is evidence-backed after every prefix of the entries. -/
def EvidenceThroughout (entries : List (SessionEntryV3 Data)) : Prop :=
  ∀ front back current plan, entries = front ++ back →
    reduceEntries (rest.with (planGraph localeCompare event?)) front = .ok current →
    current.2.1.plan = some plan → (plan.project localeCompare).EvidenceBacked

/-- Every entry of the plan keeps the evidence of the plan that it finds. -/
def KeepsThroughout (entries : List (SessionEntryV3 Data)) : Prop :=
  ∀ front entry back event current plan, entries = front ++ entry :: back →
    (planGraph localeCompare event?).event entry = some event →
    reduceEntries (rest.with (planGraph localeCompare event?)) front = .ok current →
    current.2.1.plan = some plan → KeepsEvidence plan event

variable {rest localeCompare event?} {entries : List (SessionEntryV3 Data)}
  {current : SessionStateV3 Data × PlanVariables × View}

theorem planGraph_advance {state : SessionStateV3 Data} {own next : PlanVariables}
    {entry : SessionEntryV3 Data}
    (advanced : (planGraph localeCompare event?).advance state own entry = .ok next) :
    (∃ event, (planGraph localeCompare event?).event entry = some event ∧
      own.stableIds ⊆ next.stableIds ∧ PlanChange own next event) ∨
    ((planGraph localeCompare event?).event entry = none ∧ next = own) := by
  cases records : (planGraph localeCompare event?).event entry with
  | none =>
    rw [EntryLayer.advance_of_none records, Except.ok.injEq] at advanced
    exact .inr ⟨rfl, advanced.symm⟩
  | some event =>
    rw [EntryLayer.advance_of_event records] at advanced
    change reducePlanEvent own _ event = _ at advanced
    exact .inl ⟨event, rfl, reducePlanEvent_change advanced⟩

theorem reduceEntries_sound
    (accepted : reduceEntries (rest.with (planGraph localeCompare event?)) entries = .ok current) :
    current.2.1.Sound := by
  refine reduceEntries_layer (fun _ own => own.Sound) ?start ?step accepted
  case start =>
    intro first plan none
    cases none
  case step =>
    intro front current entry own _ sound advanced
    rcases planGraph_advance advanced with ⟨event, _, grown, change⟩ | ⟨_, rfl⟩
    · exact change.sound sound grown
    · exact sound

theorem PlanVariables.Sound.shows {own : PlanVariables} (sound : own.Sound) {plan : MutablePlan}
    (there : own.plan = some plan) : (plan.project localeCompare).EvidenceBacked ↔ plan.Backed :=
  project_evidenceBacked fun stepId step found => (sound plan there stepId step found).numbered

theorem KeepsThroughout.front {front back : List (SessionEntryV3 Data)}
    (keeps : KeepsThroughout rest localeCompare event? (front ++ back)) :
    KeepsThroughout rest localeCompare event? front := by
  intro before entry after event current plan split
  exact keeps before entry (after ++ back) event current plan (by simp [split])

theorem reduceEntries_backed
    (accepted : reduceEntries (rest.with (planGraph localeCompare event?)) entries = .ok current)
    (keeps : KeepsThroughout rest localeCompare event? entries) :
    ∀ plan, current.2.1.plan = some plan → plan.Backed := by
  refine reduceEntries_layer (fun entries own => KeepsThroughout rest localeCompare event? entries →
    ∀ plan, own.plan = some plan → plan.Backed) ?start ?step accepted keeps
  case start =>
    intro first _ plan none
    cases none
  case step =>
    intro front current entry own upTo backed advanced keeps
    have before := backed keeps.front
    rcases planGraph_advance advanced with ⟨event, records, _, change⟩ | ⟨_, rfl⟩
    · refine (change.backed (reduceEntries_sound upTo) before).mpr fun plan there => ?_
      exact keeps front entry [] event current plan rfl records upTo there
    · exact before

/-- **Evidence-backed success**: the graph is evidence-backed after every prefix of an accepted
stream exactly if every entry keeps the evidence. -/
theorem planEvidence_iff (rest : SessionRules Data View)
    (localeCompare : String → String → Ordering) (event? : Data → Option PlanEventV3)
    (entries : List (SessionEntryV3 Data))
    (projection : SessionProjectionV3 Data (PlanVariables × View))
    (accepted : reduceSessionEntriesV3 (rest.with (planGraph localeCompare event?)) entries =
      .ok projection) : EvidenceThroughout rest localeCompare event? entries ↔
      KeepsThroughout rest localeCompare event? entries := by
  obtain ⟨_, final, loop, _⟩ := reduceSessionEntriesV3_ok.mp accepted
  constructor
  · intro evidence front entry back event current plan split records upTo there
    subst split
    rcases reduceEntries_split loop with ⟨rfl, _⟩ | ⟨before, next, again, step, longer, _⟩
    · simp [reduceEntries] at upTo
    · obtain rfl := ok_unique upTo again
      have sound := reduceEntries_sound upTo
      rcases planGraph_advance (reduceEntry_advances step) with
        ⟨event', records', grown, change⟩ | ⟨foreign, _⟩
      · obtain rfl := Option.mem_unique records records'
        have before : ∀ plan, current.2.1.plan = some plan → plan.Backed := fun plan there =>
          (sound.shows there).mp (evidence front (entry :: back) current plan rfl upTo there)
        refine (change.backed sound before).mp ?_ plan there
        intro plan' there'
        exact ((change.sound sound grown).shows there').mp
          (evidence (front ++ [entry]) back next plan' (by simp) longer there')
      · rw [records] at foreign
        cases foreign
  · intro keeps front back current plan split upTo there
    refine ((reduceEntries_sound upTo).shows there).mpr (reduceEntries_backed upTo ?_ plan there)
    rw [split] at keeps
    exact keeps.front

end Streams

/-! ## A plan that succeeded step by step -/

def sampleRef : PlanRefV3 where
  planId := "plan-1"
  planRevision := 1

/-- A step that is to be done once. -/
def sampleStep (stepId : String) (order : Int) (dependencies : List String) :
    PlanStepDefinitionV1 where
  stepId := stepId
  title := "Step"
  order := order
  dependencies := dependencies
  access :=
    { mode := .readOnly
      paths := [] }
  capabilities := []
  conflictKeys := []
  criteria :=
    [{ criterionId := "criterion-1"
       kind := .check
       description := "done" }]
  budget :=
    { maxTurns := 1
      maxToolCalls := 1
      maxChildRuns := 0
      maxParallelChildren := 0
      maxDepth := 0 }
  maxAttempts := 1

/-- The digest of what an attempt of the samples was given, and of what it gave back. -/
def sampleDigest : String := "sha256:" ++ String.ofList (List.replicate 64 '0')

def sampleInput (kind : SubagentRefKindV1) (version : Int) : SubagentVersionedRefV1 where
  kind := kind
  id := "i1"
  version := version
  digest := sampleDigest

/-- The work on a step: an attempt that a child run completes and a check passes. -/
def attemptOf (stepId attemptId childRunId verificationId : String) : List PlanEventV3 :=
  let ref : AttemptRefV3 := { sampleRef with stepId, attemptId }
  [.attemptCreated ref 1 .reserved (some childRunId),
   .stepStateChanged { sampleRef with stepId, state := .running },
   .attemptStateChanged ref .running none,
   .subagentExecutionBound ref childRunId
      { parentRunId := "r1"
        childRunId
        packetRef := sampleInput .contextPacket 1
        profileRef := sampleInput .bootstrapProfile 3
        bundleRef := sampleInput .capabilityBundle 1
        budgetRef := sampleInput .executionBudget 1 } .readOnlyIdempotent,
   .subagentResultRecorded { ref with
      childRunId
      resultRef := "r"
      resultDigest := sampleDigest
      status := .succeeded },
   .attemptExecutionCompleted ref .succeeded,
   .attemptStateChanged ref .verifying none,
   .stepStateChanged { sampleRef with stepId, state := .verifying },
   .verificationRecorded ref
      { verificationId
        verifier := .mechanical
        status := .passed
        evidenceRefs := ["e1"] },
   .attemptStateChanged ref .verified none,
   .stepStateChanged { sampleRef with stepId, state := .succeeded }]

/-- A plan of two steps, the second after the first, that are both worked on. -/
def planOfTwo : List PlanEventV3 :=
  [.planCreated sampleRef "objective" .running,
   .stepCreated sampleRef (sampleStep "s1" 0 []) .pending,
   .stepCreated sampleRef (sampleStep "s2" 1 ["s1"]) .pending] ++
    attemptOf "s1" "a1" "r2" "v1" ++ attemptOf "s2" "a2" "r3" "v2"

/-- The entries of a plan that a run records. -/
def recorded (events : List PlanEventV3) : List (SessionEntryV3 PlanEventV3) :=
  (entriesOf (events.map fun event => (none, .other event))).map fun entry =>
    { entry with correlation := some [(.parentRunId, "r1")] }

def succeedingPlan : List (SessionEntryV3 PlanEventV3) :=
  recorded (planOfTwo ++ [.planStateChanged sampleRef .succeeded])

/-- The plan of two steps succeeds, and the verified attempts of its steps back it throughout. -/
theorem planEvidence_succeeding :
    (∃ projection plan,
      reduceSessionEntriesV3 ((plainRules PlanEventV3).with (planGraph compare some))
        succeedingPlan = .ok projection ∧
      projection.view.1.plan = some plan ∧ plan.state = .succeeded ∧
      plan.steps.values.map (·.attempts.values.map (·.state)) = [[.verified], [.verified]]) ∧
    (EvidenceThroughout (plainRules PlanEventV3) compare some succeedingPlan ↔
      KeepsThroughout (plainRules PlanEventV3) compare some succeedingPlan) := by
  have accepted : (reduceSessionEntriesV3 ((plainRules PlanEventV3).with (planGraph compare some))
      succeedingPlan).toOption.any (fun projection =>
        projection.view.1.plan.any fun plan => plan.state == .succeeded &&
          plan.steps.values.map (·.attempts.values.map (·.state)) ==
            [[.verified], [.verified]]) = true := by
    decide +kernel
  obtain ⟨projection, reduced, shown⟩ := exists_ok accepted
  obtain ⟨plan, there, done⟩ := (Option.any_eq_true _ _).mp shown
  simp only [Bool.and_eq_true, beq_iff_eq] at done
  exact ⟨⟨projection, plan, reduced, there, done⟩,
    planEvidence_iff _ compare some _ projection reduced⟩

/-! ## A plan that succeeded when it was created -/

/-- A plan that is created in a state, with a step that is still to be done. -/
def createdPlan (state : PlanStateV1) : List (SessionEntryV3 PlanEventV3) :=
  entriesOf
    [(none, .other (.planCreated sampleRef "objective" state)),
     (none, .other (.stepCreated sampleRef (sampleStep "step-1" 0 []) .pending))]

theorem planEvidence_succeeded :
    (∃ projection, reduceSessionEntriesV3
      ((plainRules PlanEventV3).with (planGraph compare some)) (createdPlan .succeeded) =
        .ok projection) ∧
      ¬ EvidenceThroughout (plainRules PlanEventV3) compare some (createdPlan .succeeded) := by
  have accepted : (reduceSessionEntriesV3 ((plainRules PlanEventV3).with (planGraph compare some))
      (createdPlan .succeeded)).toOption.any (fun projection =>
        projection.view.1.plan.any fun plan => plan.state == .succeeded &&
          plan.steps.values.any fun step => step.state != .succeeded) = true := by
    decide +kernel
  obtain ⟨projection, reduced, open_⟩ := exists_ok accepted
  refine ⟨⟨projection, reduced⟩, fun evidence => ?_⟩
  obtain ⟨_, current, loop, _, rfl⟩ := reduceSessionEntriesV3_ok.mp reduced
  obtain ⟨plan, there, states⟩ := (Option.any_eq_true _ _).mp open_
  simp only [Bool.and_eq_true, beq_iff_eq, List.any_eq_true, bne_iff_ne, ne_eq] at states
  obtain ⟨done, step, member, unfinished⟩ := states
  obtain ⟨stepId, found⟩ := plan.steps.mem_values_iff.mp member
  have shown := evidence _ [] current plan (List.append_nil _).symm loop there
  have backed := ((reduceEntries_sound loop).shows there).mp shown
  exact unfinished (backed.complete done stepId step found)

end Praxis.Session
