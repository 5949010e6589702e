import Praxis.Foundations.JsonContent
import Praxis.Foundations.TableEdits
import Praxis.Session.PlanEvidence

/-!
# The plan of an interrupted run

At its start the runtime ends the plan of a run that a crash has interrupted: for every step it
interrupts the last attempt that is not finished and, only together with that, the step; then it
ends the plan (`planRecovery`). The reducer accepts these entries of any plan
(`reduce_recovery`), and `MutablePlan.recovered` is what they leave. It passes the checks of the
projection exactly if the graph has not become too large (`projectPlan_recovered`), and nothing of
it is left running exactly if every step was `Recoverable`.
-/

namespace Praxis.Session

set_option autoImplicit false

open Praxis.Foundations
open Praxis.Workflow (safeId positiveInteger)

/-! ## The entries -/

def PlanStateV1.unfinished (state : PlanStateV1) : Bool :=
  [.draft, .running, .blocked].contains state

def PlanStepStateV1.active (state : PlanStepStateV1) : Bool :=
  [.running, .verifying].contains state

def PlanAttemptStateV1.unfinished (state : PlanAttemptStateV1) : Bool :=
  [.reserved, .running, .executionSucceeded, .verifying].contains state

def runtimeRestarted : String := "RUNTIME_RESTARTED"

/-- The state that the plan of an interrupted run ends in. -/
def PlanStateV1.recovered (state : PlanStateV1) : PlanStateV1 :=
  if state = .draft then .cancelled else .interrupted

/-- The last attempt that is not finished. -/
def SessionStepProjectionV3.unfinishedAttempt (step : SessionStepProjectionV3) :
    Option SessionAttemptProjectionV3 :=
  step.attempts.reverse.find? fun attempt => attempt.state.unfinished

def stepRecovery (plan : PlanRefV3) (step : SessionStepProjectionV3) : List PlanEventV3 :=
  match step.unfinishedAttempt with
  | none => []
  | some attempt =>
    .attemptStateChanged { plan with stepId := step.stepId, attemptId := attempt.attemptId }
        .interrupted (some runtimeRestarted) ::
      if step.state.active then
        [.stepStateChanged
          { plan with
            stepId := step.stepId
            state := .interrupted
            errorCode := some runtimeRestarted }]
      else []

variable (plan : SessionPlanGraphProjectionV3)

def SessionPlanGraphProjectionV3.ref : PlanRefV3 where
  planId := plan.planId
  planRevision := plan.revision

def planRecovery : List PlanEventV3 :=
  if plan.state.unfinished then
    plan.steps.flatMap (stepRecovery plan.ref) ++
      [PlanEventV3.planStateChanged plan.ref plan.state.recovered]
  else []

/-! ## What is expected of them -/

/-- Nothing of the step is running. -/
structure SessionStepProjectionV3.Settled (step : SessionStepProjectionV3) : Prop where
  inactive : step.state.active = false
  finished : ∀ attempt ∈ step.attempts, attempt.state.unfinished = false

/-- Nothing of the plan is running, and it has ended. -/
structure SessionPlanGraphProjectionV3.Settled (plan : SessionPlanGraphProjectionV3) : Prop where
  ended : plan.state.unfinished = false
  settled : ∀ step ∈ plan.steps, step.Settled

/-- At most one attempt of the step is not finished, and one if the step is running or
verifying. -/
structure SessionStepProjectionV3.Recoverable (step : SessionStepProjectionV3) : Prop where
  alone : (step.attempts.filter (·.state.unfinished)).length ≤ 1
  active : step.state.active = true → ∃ attempt ∈ step.attempts, attempt.state.unfinished = true

instance (step : SessionStepProjectionV3) : Decidable step.Settled :=
  decidable_of_iff (step.state.active = false ∧
      ∀ attempt ∈ step.attempts, attempt.state.unfinished = false)
    ⟨fun settled => ⟨settled.1, settled.2⟩, fun settled => ⟨settled.inactive, settled.finished⟩⟩

instance (step : SessionStepProjectionV3) : Decidable step.Recoverable :=
  decidable_of_iff ((step.attempts.filter (·.state.unfinished)).length ≤ 1 ∧
      (step.state.active = true → ∃ attempt ∈ step.attempts, attempt.state.unfinished = true))
    ⟨fun recoverable => ⟨recoverable.1, recoverable.2⟩, fun recoverable =>
      ⟨recoverable.alone, recoverable.active⟩⟩

def SessionPlanGraphProjectionV3.graph : PlanGraphV1 where
  planId := plan.planId
  revision := plan.revision
  objective := plan.objective
  state := plan.state
  steps := plan.steps.map (·.toPlanStepV1)
  attempts := plan.steps.flatMap fun step => step.attempts.map fun attempt =>
    { attemptId := attempt.attemptId
      stepId := step.stepId
      ordinal := attempt.ordinal
      state := attempt.state
      childRunId := attempt.childRunId
      resultRef := attempt.resultRef
      resultDigest := attempt.resultDigest
      verificationRef := attempt.verificationRef }

/-- How much longer the text of an interrupted state is. -/
def interruptedGrowth (state : String) : Int :=
  ("interrupted".utf8ByteSize : Int) - state.utf8ByteSize

/-- How much longer the states of the step become. -/
def SessionStepProjectionV3.growth (step : SessionStepProjectionV3) : Int :=
  match step.unfinishedAttempt with
  | none => 0
  | some attempt =>
    interruptedGrowth attempt.state.text +
      if step.state.active then interruptedGrowth step.state.text else 0

/-- How much longer the text of the graph becomes: the state of the plan by four bytes. -/
def SessionPlanGraphProjectionV3.growth : Int :=
  4 + (plan.steps.map (·.growth)).sum

/-- **What a restart can recover**: of a plan that has not ended every step, if the graph stays
small enough; of another one nothing is running. -/
def SessionPlanGraphProjectionV3.Recoverable : Prop :=
  if plan.state.unfinished then
    (∀ step ∈ plan.steps, step.Recoverable) ∧
      (Plan.jsonBytes plan.graph : Int) + plan.growth ≤ Plan.maxGraphBytes
  else ∀ step ∈ plan.steps, step.Settled

instance (plan : SessionPlanGraphProjectionV3) : Decidable plan.Recoverable :=
  inferInstanceAs (Decidable (if plan.state.unfinished then _ else _))

/-! ## Steps and attempts under their ids -/

def MutableStep.Keyed (step : MutableStep) : Prop :=
  ∀ attemptId attempt, step.attempts.get? attemptId = some attempt → attempt.attemptId = attemptId

/-- Steps and attempts are kept under their ids. -/
def MutablePlan.Keyed (plan : MutablePlan) : Prop :=
  ∀ stepId step, plan.steps.get? stepId = some step →
    step.definition.stepId = stepId ∧ step.Keyed

section Keys

variable {own next : PlanVariables} {plan : MutablePlan} {step : MutableStep}

theorem MutableStep.Keyed.upsert (keyed : step.Keyed) {attemptId : String}
    {attempt : MutableAttempt} (same : attempt.attemptId = attemptId) :
    MutableStep.Keyed { step with attempts := step.attempts.upsert attemptId attempt } := by
  intro other found present
  rw [Table.get?_upsert] at present
  by_cases here : other = attemptId
  · rw [if_pos here, Option.some.injEq] at present
    rw [← present, same, here]
  · rw [if_neg here] at present
    exact keyed other found present

theorem MutablePlan.Keyed.setStep (keyed : plan.Keyed) {stepId : String}
    (named : step.definition.stepId = stepId) (inner : step.Keyed) :
    (plan.setStep stepId step).Keyed := by
  intro other found present
  rw [MutablePlan.setStep, Table.get?_upsert] at present
  by_cases here : other = stepId
  · rw [if_pos here, Option.some.injEq] at present
    subst present
    exact ⟨named.trans here.symm, inner⟩
  · rw [if_neg here] at present
    exact keyed other found present

theorem MutablePlan.Keyed.setAttempt (keyed : plan.Keyed) {ref : AttemptRefV3}
    {attempt edited : MutableAttempt} (found : plan.steps.get? ref.stepId = some step)
    (present : step.attempts.get? ref.attemptId = some attempt)
    (same : edited.attemptId = attempt.attemptId) : (plan.setAttempt ref step edited).Keyed := by
  obtain ⟨named, inner⟩ := keyed ref.stepId step found
  exact keyed.setStep named (inner.upsert (same.trans (inner ref.attemptId attempt present)))

/-- Every event keeps steps and attempts under their ids. -/
theorem reducePlanEvent_keyed {parentRunId : Option String} {event : PlanEventV3}
    (accepted : reducePlanEvent own parentRunId event = .ok next)
    (keyed : ∀ plan, own.plan = some plan → plan.Keyed) :
    ∀ plan, next.plan = some plan → plan.Keyed := by
  intro plan' after'
  cases event with
  | planCreated ref objective state =>
    simp only [reducePlanEvent, reducePlanCreated, bind_eq_ok, pure_eq_ok] at accepted
    obtain ⟨_, _, _, _, rfl⟩ := accepted
    obtain rfl := Option.some.inj after'
    exact fun stepId step found => by simp at found
  | planStateChanged ref state =>
    simp only [reducePlanEvent, reducePlanStateChanged, bind_eq_ok, pure_eq_ok] at accepted
    obtain ⟨plan, found, _, _, _, _, rfl⟩ := accepted
    obtain rfl := Option.some.inj after'
    exact keyed plan (requirePlanRevision_ok found)
  | planDecisionRecorded data =>
    simp only [reducePlanEvent, reducePlanDecisionRecorded, bind_eq_ok] at accepted
    obtain ⟨plan, _, accepted⟩ := accepted
    cases named : data.stepId with
    | none =>
      simp only [named, pure_eq_ok] at accepted
      exact keyed plan' (accepted ▸ after')
    | some stepId =>
      simp only [named, bind_eq_ok, pure_eq_ok] at accepted
      obtain ⟨_, _, _, _, rfl⟩ := accepted
      exact keyed plan' after'
  | planRevised data =>
    simp only [reducePlanEvent, reducePlanRevised, bind_eq_ok, pure_eq_ok] at accepted
    obtain ⟨plan, found, _, _, reused, folded, rfl⟩ := accepted
    obtain rfl := Option.some.inj after'
    exact fun stepId step there =>
      keyed plan (requirePlanRevision_ok found) stepId step (reusedSteps_ok folded there)
  | stepCreated ref definition state =>
    simp only [reducePlanEvent, reduceStepCreated, bind_eq_ok, pure_eq_ok] at accepted
    obtain ⟨plan, found, _, _, _, _, rfl⟩ := accepted
    obtain rfl := Option.some.inj after'
    exact (keyed plan (requirePlanRevision_ok found)).setStep rfl
      fun attemptId attempt present => by simp at present
  | stepStateChanged data =>
    simp only [reducePlanEvent, reduceStepStateChanged, bind_eq_ok, Prod.exists, pure_eq_ok]
      at accepted
    obtain ⟨plan, step, found, _, _, _, _, rfl⟩ := accepted
    obtain rfl := Option.some.inj after'
    obtain ⟨before, found⟩ := requireStepRevision_ok found
    obtain ⟨named, inner⟩ := keyed plan before data.stepId step found
    exact (keyed plan before).setStep named inner
  | attemptCreated ref ordinal state childRunId =>
    simp only [reducePlanEvent, reduceAttemptCreated, bind_eq_ok, Prod.exists, pure_eq_ok]
      at accepted
    obtain ⟨plan, step, found, _, _, _, _, _, _, _, _, rfl⟩ := accepted
    obtain rfl := Option.some.inj after'
    obtain ⟨before, found⟩ := requireStepRevision_ok found
    obtain ⟨named, inner⟩ := keyed plan before ref.stepId step found
    exact (keyed plan before).setStep named (inner.upsert rfl)
  | attemptStateChanged | attemptExecutionCompleted | subagentExecutionBound
  | subagentResultRecorded =>
    simp only [reducePlanEvent, reduceAttemptStateChanged, reduceAttemptExecutionCompleted,
      reduceSubagentExecutionBound, reduceSubagentResultRecorded, bind_eq_ok, Prod.exists,
      pure_eq_ok] at accepted
    obtain ⟨plan, step, attempt, found, _, _, _, _, rfl⟩ := accepted
    obtain rfl := Option.some.inj after'
    obtain ⟨before, found, present⟩ := requireAttemptRevision_ok found
    exact (keyed plan before).setAttempt found present rfl
  | verificationRecorded ref verification =>
    simp only [reducePlanEvent, reduceVerificationRecorded, bind_eq_ok, Prod.exists,
      pure_eq_ok] at accepted
    obtain ⟨used, names, plan, step, attempt, found, _, _, rfl⟩ := accepted
    obtain rfl := Option.some.inj after'
    obtain ⟨_, rfl⟩ := useStableId_ok names
    obtain ⟨before, found, present⟩ := requireAttemptRevision_ok found
    exact (keyed plan before).setAttempt found present rfl

end Keys

/-! ## What the entries leave -/

/-- The last attempt that is not finished. -/
def MutableStep.unfinishedAttempt (step : MutableStep) : Option MutableAttempt :=
  step.orderedAttempts.reverse.find? fun attempt => attempt.state.unfinished

def MutableAttempt.interrupted (attempt : MutableAttempt) : MutableAttempt :=
  { attempt with
    state := .interrupted
    errorCode := some runtimeRestarted }

def MutableStep.recovered (step : MutableStep) : MutableStep :=
  match step.unfinishedAttempt with
  | none => step
  | some attempt =>
    let attempts := step.attempts.upsert attempt.attemptId attempt.interrupted
    if step.state.active then
      { step with
        attempts
        state := .interrupted
        errorCode := some runtimeRestarted }
    else { step with attempts }

def MutablePlan.recovered (plan : MutablePlan) : MutablePlan :=
  if plan.state.unfinished then
    { plan with
      state := plan.state.recovered
      steps := plan.steps.editWhere (fun _ => true) MutableStep.recovered }
  else plan

def MutablePlan.ref (plan : MutablePlan) : PlanRefV3 where
  planId := plan.planId
  planRevision := plan.revision

section Reduction

variable {own : PlanVariables} {plan : MutablePlan} {step : MutableStep} {attempt : MutableAttempt}

theorem project_unfinishedAttempt (step : MutableStep) :
    step.project.unfinishedAttempt = step.unfinishedAttempt.map (·.project) := by
  rw [SessionStepProjectionV3.unfinishedAttempt, MutableStep.project, ← List.map_reverse,
    List.find?_map]
  rfl

theorem MutableStep.Keyed.get?_unfinished (keyed : step.Keyed)
    (last : step.unfinishedAttempt = some attempt) :
    step.attempts.get? attempt.attemptId = some attempt ∧ attempt.state.unfinished = true := by
  have member := List.mem_reverse.mp (List.mem_of_find?_eq_some last)
  rw [MutableStep.orderedAttempts, List.mem_insertionSort] at member
  obtain ⟨key, found⟩ := step.attempts.mem_values_iff.mp member
  have named := keyed key attempt found
  subst named
  have passes := List.find?_some (show step.orderedAttempts.reverse.find?
    (fun attempt => attempt.state.unfinished) = some attempt from last)
  exact ⟨found, passes⟩

theorem PlanAttemptStateV1.interrupts {state : PlanAttemptStateV1}
    (unfinished : state.unfinished = true) : planAttemptTransition state .interrupted = true := by
  cases state <;> first | rfl | cases unfinished

theorem PlanStepStateV1.interrupts {state : PlanStepStateV1} (active : state.active = true)
    (options : PlanStepTransitionOptions) :
    planStepTransition state .interrupted options = true := by
  cases state <;> first | rfl | cases active

theorem PlanStateV1.recovers {state : PlanStateV1} (unfinished : state.unfinished = true) :
    planStateTransition state state.recovered = true ∧ state.recovered ≠ .succeeded := by
  cases state <;> first | exact ⟨rfl, nofun⟩ | cases unfinished

theorem reduce_stepRecovery (found : plan.steps.get? step.definition.stepId = some step)
    (keyed : step.Keyed) :
    (stepRecovery plan.ref step.project).foldlM (fun own event => reducePlanEvent own none event)
        { own with plan := some plan } =
      .ok { own with
        plan := some { plan with
          steps := plan.steps.upsert step.definition.stepId step.recovered } } := by
  rw [stepRecovery, project_unfinishedAttempt]
  cases last : step.unfinishedAttempt with
  | none =>
    simp only [Option.map_none, List.foldlM_nil, MutableStep.recovered, last,
      Table.upsert_self found]
    rfl
  | some attempt =>
    obtain ⟨present, unfinished⟩ := keyed.get?_unfinished last
    have changed : reducePlanEvent { own with plan := some plan } none
        (.attemptStateChanged { plan.ref with
          stepId := step.project.stepId
          attemptId := attempt.project.attemptId } .interrupted (some runtimeRestarted)) =
        .ok { own with
          plan := some (plan.setStep step.definition.stepId { step with
            attempts := step.attempts.upsert attempt.attemptId attempt.interrupted }) } := by
      have named : step.project.stepId = step.definition.stepId := rfl
      have named' : attempt.project.attemptId = attempt.attemptId := rfl
      simp [reducePlanEvent, reduceAttemptStateChanged, requireAttemptRevision,
        requireStepRevision, requirePlanRevision, MutablePlan.ref, named, named', found, present,
        PlanAttemptStateV1.interrupts unfinished, verificationsAllow, ok_bind, pure_ok, orError,
        MutablePlan.setAttempt, MutableAttempt.interrupted]
    by_cases active : step.state.active = true
    · have stepped : reducePlanEvent { own with
          plan := some (plan.setStep step.definition.stepId { step with
            attempts := step.attempts.upsert attempt.attemptId attempt.interrupted }) } none
          (.stepStateChanged { plan.ref with
            stepId := step.project.stepId
            state := .interrupted
            errorCode := some runtimeRestarted }) =
          .ok { own with
            plan := some (plan.setStep step.definition.stepId { step with
              attempts := step.attempts.upsert attempt.attemptId attempt.interrupted
              state := .interrupted
              errorCode := some runtimeRestarted }) } := by
        have named : step.project.stepId = step.definition.stepId := rfl
        simp [reducePlanEvent, reduceStepStateChanged, requireStepRevision, requirePlanRevision,
          MutablePlan.ref, named, MutablePlan.setStep, Table.get?_upsert,
          PlanStepStateV1.interrupts active, latestAttemptAllows, ok_bind, pure_ok, orError,
          Table.upsert_upsert found]
      have shown : step.project.state.active = true := active
      simp only [Option.map_some, shown, if_true, List.foldlM_cons, changed, ok_bind, stepped,
        List.foldlM_nil, MutableStep.recovered, last, active]
      rfl
    · have shown : ¬ step.project.state.active = true := active
      simp only [Option.map_some, if_neg shown, List.foldlM_cons, changed, ok_bind,
        List.foldlM_nil, MutableStep.recovered, last, if_neg active]
      rfl

theorem reduce_stepsRecovery (keyed : plan.Keyed) (steps : List MutableStep) :
    ∀ done : String → Bool, (∀ step ∈ steps, done step.definition.stepId = false) →
      (steps.map (·.definition.stepId)).Nodup →
      (∀ step ∈ steps, plan.steps.get? step.definition.stepId = some step) →
      ((steps.map (·.project)).flatMap (stepRecovery plan.ref)).foldlM
          (fun own event => reducePlanEvent own none event)
          { own with
            plan := some { plan with steps := plan.steps.editWhere done MutableStep.recovered } } =
        .ok { own with
          plan := some { plan with
            steps := plan.steps.editWhere
              (fun id => done id || (steps.map (·.definition.stepId)).contains id)
              MutableStep.recovered } } := by
  induction steps with
  | nil =>
    intro done _ _ _
    simp [pure_ok]
  | cons step rest ih =>
    intro done undone nodup there
    rw [List.map_cons, List.nodup_cons] at nodup
    have found := there step List.mem_cons_self
    have mine := undone step List.mem_cons_self
    have found' : (plan.steps.editWhere done MutableStep.recovered).get? step.definition.stepId =
        some step := by
      rw [Table.get?_editWhere, mine]
      exact found
    have one := @reduce_stepRecovery own
      { plan with steps := plan.steps.editWhere done MutableStep.recovered } step found'
      (keyed _ step found).2
    rw [Table.editWhere_upsert found mine] at one
    have others := ih (fun id => done id || decide (id = step.definition.stepId))
      (fun other member => ?_) nodup.2 fun other member =>
        there other (List.mem_cons_of_mem _ member)
    · rw [List.map_cons, List.flatMap_cons, List.foldlM_append]
      change (List.foldlM _ _ (stepRecovery
        (MutablePlan.ref { plan with steps := plan.steps.editWhere done MutableStep.recovered })
        step.project) >>= _) = _
      rw [one, ok_bind, others]
      congr 4
      refine Table.editWhere_congr fun row _ => ?_
      simp [List.contains_eq_mem, Bool.or_assoc]
    · have apart : other.definition.stepId ≠ step.definition.stepId := fun same =>
        nodup.1 (List.mem_map.mpr ⟨other, member, same⟩)
      simp [undone other (List.mem_cons_of_mem _ member), apart]

variable {localeCompare : String → String → Ordering}

theorem mem_orderedSteps : step ∈ plan.orderedSteps localeCompare ↔ step ∈ plan.steps.values := by
  rw [MutablePlan.orderedSteps, List.mem_insertionSort]

theorem MutablePlan.Keyed.get?_ordered (keyed : plan.Keyed)
    (member : step ∈ plan.orderedSteps localeCompare) :
    plan.steps.get? step.definition.stepId = some step := by
  obtain ⟨key, found⟩ := plan.steps.mem_values_iff.mp (mem_orderedSteps.mp member)
  rw [(keyed key step found).1]
  exact found

theorem MutablePlan.Keyed.orderedIds (keyed : plan.Keyed) :
    ((plan.orderedSteps localeCompare).map (·.definition.stepId)).Nodup := by
  have perm := List.perm_insertionSort (fun left right : MutableStep =>
    stepBefore localeCompare left.definition right.definition = true) plan.steps.values
  have ids : plan.steps.values.map (·.definition.stepId) = plan.steps.rows.map Prod.fst := by
    rw [Table.values, List.map_map]
    refine List.map_congr_left fun row member => ?_
    exact (keyed row.1 row.2 (plan.steps.mem_rows_iff.mp member)).1
  rw [MutablePlan.orderedSteps, (perm.map _).nodup_iff, ids]
  exact plan.steps.unique

/-- **The reducer accepts the entries** of any plan, and they leave it recovered. -/
theorem reduce_recovery (keyed : plan.Keyed) :
    (planRecovery (plan.project localeCompare)).foldlM
        (fun own event => reducePlanEvent own none event) { own with plan := some plan } =
      .ok { own with plan := some plan.recovered } := by
  have shown : (plan.project localeCompare).state = plan.state := rfl
  have named : (plan.project localeCompare).ref = plan.ref := rfl
  by_cases unfinished : plan.state.unfinished = true
  · rw [planRecovery, shown, if_pos unfinished, named, List.foldlM_append]
    have steps := @reduce_stepsRecovery own plan keyed (plan.orderedSteps localeCompare)
      (fun _ => false) (fun _ _ => rfl) keyed.orderedIds fun step => keyed.get?_ordered
    rw [Table.editWhere_none] at steps
    have all : plan.steps.editWhere (fun id => false ||
        ((plan.orderedSteps localeCompare).map (·.definition.stepId)).contains id)
        MutableStep.recovered = plan.steps.editWhere (fun _ => true) MutableStep.recovered := by
      refine Table.editWhere_congr fun row member => ?_
      have place := plan.steps.mem_rows_iff.mp (show (row.1, row.2) ∈ _ from member)
      have ordered : row.2 ∈ plan.orderedSteps localeCompare :=
        mem_orderedSteps.mpr (plan.steps.mem_values_of_get? place)
      rw [Bool.false_or, List.contains_eq_mem, decide_eq_true_eq, List.mem_map]
      exact ⟨row.2, ordered, (keyed row.1 row.2 place).1⟩
    rw [all] at steps
    change (((plan.orderedSteps localeCompare).map (·.project)).flatMap
      (stepRecovery plan.ref)).foldlM _ _ >>= _ = _
    obtain ⟨allowed, unsucceeded⟩ := plan.state.recovers unfinished
    rw [steps, ok_bind]
    simp [reducePlanEvent, reducePlanStateChanged, requirePlanRevision, MutablePlan.ref, orError,
      allowed, unsucceeded, ok_bind, pure_ok, MutablePlan.recovered, unfinished]
  · rw [planRecovery, shown, if_neg unfinished, MutablePlan.recovered, if_neg unfinished]
    rfl

end Reduction

/-! ## What is shown of it -/

section Shown

variable {plan : MutablePlan} {step : MutableStep} {attempt : MutableAttempt}
  {localeCompare : String → String → Ordering}

theorem recovered_attempts (keyed : step.Keyed) (numbered : Numbered step)
    (last : step.unfinishedAttempt = some attempt) :
    ∃ front back, step.orderedAttempts = front ++ attempt :: back ∧
      step.recovered.orderedAttempts = front ++ attempt.interrupted :: back ∧
      attempt.state.unfinished = true ∧ ∀ other ∈ back, other.state.unfinished = false := by
  have split := last
  rw [MutableStep.unfinishedAttempt, numbered.orderedAttempts,
    List.find?_eq_some_iff_append] at split
  obtain ⟨unfinished, before, behind, values, finished⟩ := split
  have values' : step.attempts.values = behind.reverse ++ attempt :: before.reverse := by
    rw [← List.reverse_reverse step.attempts.values, values, List.reverse_append,
      List.reverse_cons, List.append_assoc, List.singleton_append]
  have present := (keyed.get?_unfinished last).1
  obtain ⟨front, rest, rows, fronts, rests⟩ := List.map_eq_append_iff.mp values'
  obtain ⟨row, back, rfl, here, backs⟩ := List.map_eq_cons_iff.mp rests
  have key : row.1 = attempt.attemptId := by
    have place : (row.1, row.2) ∈ step.attempts.rows := by simp [rows]
    have found := step.attempts.mem_rows_iff.mp place
    rw [← keyed row.1 row.2 found, here]
  have rows' : step.attempts.rows = front ++ (attempt.attemptId, attempt) :: back := by
    rw [rows, ← key, ← here]
  have updated : (step.attempts.upsert attempt.attemptId attempt.interrupted).rows =
      front ++ (attempt.attemptId, attempt.interrupted) :: back := by
    rw [Table.upsert_of_some _ _ present]
    exact Table.rows_update rows' _
  have attempts : step.recovered.attempts =
      step.attempts.upsert attempt.attemptId attempt.interrupted := by
    rw [MutableStep.recovered, last]
    dsimp only
    by_cases active : step.state.active = true
    · rw [if_pos active]
    · rw [if_neg active]
  have shown : step.recovered.attempts.values =
      behind.reverse ++ attempt.interrupted :: before.reverse := by
    rw [attempts, Table.values, updated, List.map_append, List.map_cons, fronts, backs]
  have numbered' : Numbered step.recovered := by
    unfold Numbered at numbered ⊢
    rw [values'] at numbered
    rw [shown, attempts, updated]
    rw [rows'] at numbered
    simpa [MutableAttempt.interrupted] using numbered
  refine ⟨behind.reverse, before.reverse, ?_, ?_, unfinished, fun other member => ?_⟩
  · rw [numbered.orderedAttempts, values']
  · rw [numbered'.orderedAttempts, shown]
  · have done := finished other (List.mem_reverse.mp member)
    rwa [Bool.not_eq_true'] at done

theorem recovered_definition (step : MutableStep) :
    step.recovered.definition = step.definition := by
  unfold MutableStep.recovered
  split
  · rfl
  · dsimp only
    split <;> rfl

theorem recovered_settled (keyed : step.Keyed) (numbered : Numbered step) :
    step.recovered.project.Settled ↔ step.project.Recoverable := by
  cases last : step.unfinishedAttempt with
  | none =>
    have same : step.recovered = step := by rw [MutableStep.recovered, last]
    have finished : ∀ attempt ∈ step.project.attempts, attempt.state.unfinished = false := by
      intro attempt member
      obtain ⟨own, place, rfl⟩ := List.mem_map.mp member
      have none := List.find?_eq_none.mp last own (List.mem_reverse.mpr place)
      rwa [Bool.not_eq_true] at none
    rw [same]
    constructor
    · intro settled
      refine ⟨?_, fun active => absurd active (by simp [settled.inactive])⟩
      rw [List.filter_eq_nil_iff.mpr fun attempt member => by simp [finished attempt member]]
      exact Nat.zero_le 1
    · intro recoverable
      refine ⟨?_, finished⟩
      by_contra active
      rw [Bool.not_eq_false] at active
      obtain ⟨attempt, member, unfinished⟩ := recoverable.active active
      rw [finished attempt member] at unfinished
      cases unfinished
  | some attempt =>
    obtain ⟨front, back, before, after, unfinished, finished⟩ :=
      recovered_attempts keyed numbered last
    have inactive : step.recovered.project.state.active = false := by
      change step.recovered.state.active = false
      rw [MutableStep.recovered, last]
      dsimp only
      by_cases active : step.state.active = true
      · rw [if_pos active]
        rfl
      · rw [if_neg active]
        rwa [Bool.not_eq_true] at active
    have shown : step.project.attempts = (front ++ attempt :: back).map (·.project) := by
      rw [← before]
      rfl
    have shown' : step.recovered.project.attempts =
        (front ++ attempt.interrupted :: back).map (·.project) := by
      rw [← after]
      rfl
    have later : (back.map (·.project)).filter
        (fun attempt : SessionAttemptProjectionV3 => attempt.state.unfinished) = [] := by
      rw [List.filter_eq_nil_iff]
      intro other member
      obtain ⟨own, place, rfl⟩ := List.mem_map.mp member
      rw [Bool.not_eq_true]
      exact finished own place
    have count : (step.project.attempts.filter (·.state.unfinished)).length =
        ((front.map (·.project)).filter
          (fun attempt : SessionAttemptProjectionV3 => attempt.state.unfinished)).length + 1 := by
      have mine : attempt.project.state.unfinished = true := unfinished
      rw [shown, List.map_append, List.map_cons, List.filter_append, List.filter_cons,
        if_pos mine, later, List.length_append, List.length_singleton]
    have mine' : attempt.interrupted.project.state.unfinished = false := rfl
    constructor
    · intro settled
      constructor
      · have none : (front.map (·.project)).filter
            (fun attempt : SessionAttemptProjectionV3 => attempt.state.unfinished) = [] := by
          rw [List.filter_eq_nil_iff]
          intro other member
          rw [Bool.not_eq_true]
          refine settled.finished other ?_
          rw [shown', List.map_append]
          exact List.mem_append_left _ member
        rw [count, none]
        exact Nat.le_refl 1
      · intro _
        refine ⟨attempt.project, ?_, unfinished⟩
        rw [shown]
        exact List.mem_map.mpr ⟨attempt, by simp, rfl⟩
    · intro recoverable
      refine ⟨inactive, fun other member => ?_⟩
      have alone := recoverable.alone
      rw [count] at alone
      have none := List.length_eq_zero_iff.mp (by omega : ((front.map (·.project)).filter
        (fun attempt : SessionAttemptProjectionV3 => attempt.state.unfinished)).length = 0)
      rw [shown', List.map_append, List.map_cons, List.mem_append, List.mem_cons] at member
      rcases member with earlier | rfl | later'
      · have passes := List.filter_eq_nil_iff.mp none other earlier
        rwa [Bool.not_eq_true] at passes
      · exact mine'
      · have passes := List.filter_eq_nil_iff.mp later other later'
        rwa [Bool.not_eq_true] at passes

variable (localeCompare) in
theorem recovered_orderedSteps (unfinished : plan.state.unfinished = true) :
    plan.recovered.orderedSteps localeCompare =
      (plan.orderedSteps localeCompare).map MutableStep.recovered := by
  have values : plan.recovered.steps.values = plan.steps.values.map MutableStep.recovered := by
    rw [MutablePlan.recovered, if_pos unfinished]
    exact Table.values_editWhere fun _ _ => rfl
  rw [MutablePlan.orderedSteps, MutablePlan.orderedSteps, values]
  refine (List.map_insertionSort _ _ _ _ fun left _ right _ => ?_).symm
  rw [recovered_definition, recovered_definition]

theorem recovered_plan_settled (keyed : plan.Keyed)
    (numbered : ∀ stepId step, plan.steps.get? stepId = some step → Numbered step) :
    (plan.recovered.project localeCompare).Settled ↔
      if plan.state.unfinished then
        ∀ step ∈ (plan.project localeCompare).steps, step.Recoverable
      else ∀ step ∈ (plan.project localeCompare).steps, step.Settled := by
  by_cases unfinished : plan.state.unfinished = true
  · rw [if_pos unfinished]
    have state : plan.recovered.state.unfinished = false := by
      rw [MutablePlan.recovered, if_pos unfinished]
      change plan.state.recovered.unfinished = false
      cases plan.state <;> rfl
    have steps : (plan.recovered.project localeCompare).steps =
        (plan.orderedSteps localeCompare).map fun step => step.recovered.project := by
      change (plan.recovered.orderedSteps localeCompare).map (·.project) = _
      rw [recovered_orderedSteps localeCompare unfinished, List.map_map]
      rfl
    have each : ∀ step ∈ plan.orderedSteps localeCompare,
        (step.recovered.project.Settled ↔ step.project.Recoverable) := by
      intro step member
      have found := keyed.get?_ordered member
      exact recovered_settled (keyed _ step found).2 (numbered _ step found)
    constructor
    · intro settled step member
      obtain ⟨own, place, rfl⟩ := List.mem_map.mp member
      refine (each own place).mp (settled.settled _ ?_)
      rw [steps]
      exact List.mem_map.mpr ⟨own, place, rfl⟩
    · intro recoverable
      refine ⟨state, fun step member => ?_⟩
      rw [steps] at member
      obtain ⟨own, place, rfl⟩ := List.mem_map.mp member
      exact (each own place).mpr (recoverable _ (List.mem_map.mpr ⟨own, place, rfl⟩))
  · rw [if_neg unfinished, MutablePlan.recovered, if_neg unfinished]
    rw [Bool.not_eq_true] at unfinished
    exact ⟨fun settled => settled.settled, fun settled => ⟨unfinished, settled⟩⟩

end Shown

/-! ## The checks of the projection -/

namespace Plan

/-- The graph without its states. -/
def shape (graph : PlanGraphV1) : PlanGraphV1 :=
  { graph with
    state := .draft
    steps := graph.steps.map fun step => { step with state := .pending }
    attempts := graph.attempts.map fun attempt => { attempt with state := .reserved } }

/-- What the validation of a graph checks besides the length of its text. -/
def validShape (graph : PlanGraphV1) : Bool :=
  safeId graph.planId && positiveInteger graph.revision &&
    boundedText graph.objective maxTextBytes &&
    decide (1 ≤ graph.steps.length ∧ graph.steps.length ≤ 64) &&
    decide (graph.attempts.length ≤ 512) && graph.steps.all validStep &&
    graph.attempts.all validAttempt && decide (graph.steps.map (·.stepId)).Nodup &&
    decide (graph.steps.map (·.order)).Nodup && decide (graph.attempts.map (·.attemptId)).Nodup &&
    decide (graph.attempts.filterMap (·.childRunId)).Nodup &&
    graph.steps.all (validLinks graph.attempts) &&
    graph.attempts.all fun attempt =>
      (graph.steps.flatMap (·.attemptIds)).contains attempt.attemptId

theorem validGraph_iff (graph : PlanGraphV1) :
    validGraph graph = true ↔ jsonBytes graph ≤ maxGraphBytes ∧ validShape graph = true := by
  simp only [validGraph, validShape, Bool.and_eq_true, decide_eq_true_eq, and_assoc]

theorem validLinks_shape (attempts : List PlanAttemptV1) (step : PlanStepV1) :
    validLinks (attempts.map fun attempt => { attempt with state := .reserved })
      { step with state := .pending } = validLinks attempts step := by
  have found : ∀ attemptId : String,
      (attempts.map fun attempt : PlanAttemptV1 => { attempt with state := .reserved }).find?
          (·.attemptId == attemptId) =
        (attempts.find? (·.attemptId == attemptId)).map
          fun attempt => { attempt with state := .reserved } := by
    intro attemptId
    rw [List.find?_map]
    rfl
  have linked : ∀ ids : List String,
      ids.mapM (fun attemptId =>
        (attempts.map fun attempt : PlanAttemptV1 => { attempt with state := .reserved }).find?
          (·.attemptId == attemptId)) =
        (ids.mapM fun attemptId => attempts.find? (·.attemptId == attemptId)).map
          (List.map fun attempt => { attempt with state := .reserved }) := by
    intro ids
    induction ids with
    | nil => rfl
    | cons id rest ih =>
      rw [List.mapM_cons, List.mapM_cons, ih, found]
      cases attempts.find? (·.attemptId == id) with
      | none => rfl
      | some attempt =>
        cases rest.mapM fun attemptId => attempts.find? (·.attemptId == attemptId) <;> rfl
  unfold validLinks
  dsimp only
  rw [linked]
  cases step.attemptIds.mapM fun attemptId => attempts.find? (·.attemptId == attemptId) with
  | none => rfl
  | some linked => simp [List.all_map, Function.comp_def]

/-- The states do not matter to these checks. -/
theorem validShape_shape (graph : PlanGraphV1) : validShape (shape graph) = validShape graph := by
  have steps : ∀ step : PlanStepV1, validStep { step with state := .pending } = validStep step :=
    fun _ => rfl
  have attempts : ∀ attempt : PlanAttemptV1,
      validAttempt { attempt with state := .reserved } = validAttempt attempt := fun _ => rfl
  simp only [validShape, shape, List.length_map, List.all_map, List.map_map, List.filterMap_map,
    Function.comp_def, steps, attempts, validLinks_shape, List.flatMap_map]

end Plan

section Checks

variable {plan : MutablePlan} {step : MutableStep} {attempt : MutableAttempt}
  {localeCompare : String → String → Ordering} {edit : MutableStep → MutableStep}

theorem project_graph (plan : MutablePlan) :
    (plan.project localeCompare).graph = plan.graph localeCompare := by
  simp only [SessionPlanGraphProjectionV3.graph, MutablePlan.project, MutablePlan.graph,
    MutableStep.project, List.map_map, List.flatMap_map]
  rfl

theorem visit_map
    (same : ∀ step, (edit step).definition = step.definition) (steps : List MutableStep) :
    ∀ depth visiting visited stepId,
      visit (steps.map edit) depth visiting visited stepId =
        visit steps depth visiting visited stepId := by
  intro depth
  induction depth with
  | zero =>
    intro visiting visited stepId
    rfl
  | succ depth ih =>
    intro visiting visited stepId
    have found : ∀ id, (steps.map edit).find? (·.definition.stepId == id) =
        (steps.find? (·.definition.stepId == id)).map edit := by
      intro id
      rw [List.find?_map]
      simp only [Function.comp_def, same]
    simp only [visit, found, List.any_map, Function.comp_def, same, ih]
    split
    · rfl
    · split
      · rfl
      · cases steps.find? (·.definition.stepId == stepId) with
        | none => rfl
        | some step => simp only [Option.map_some, orError, ok_bind, same]

theorem assertPlanDependencies_map
    (same : ∀ step, (edit step).definition = step.definition) (steps : List MutableStep) :
    assertPlanDependencies (steps.map edit) = assertPlanDependencies steps := by
  simp only [assertPlanDependencies, List.foldlM_map, visit_map same, List.length_map, same]

theorem assertAttemptResultConsistency_interrupted
    (consistent : assertAttemptResultConsistency attempt = .ok ()) :
    assertAttemptResultConsistency attempt.interrupted = .ok () := by
  rw [assertAttemptResultConsistency, ensure_eq_ok, Bool.or_eq_true] at consistent ⊢
  refine consistent.imp id fun allowed => ?_
  change (resultStates attempt.resultStatus).contains .interrupted = true
  cases status : attempt.resultStatus with
  | none =>
    rw [status] at allowed
    cases allowed
  | some ending => cases ending <;> rfl

theorem recovered_consistent (keyed : step.Keyed) (numbered : Numbered step)
    (consistent : ∀ attempt ∈ step.orderedAttempts,
      assertAttemptResultConsistency attempt = .ok ()) : ∀ attempt ∈ step.recovered.orderedAttempts,
      assertAttemptResultConsistency attempt = .ok () := by
  cases last : step.unfinishedAttempt with
  | none =>
    have same : step.recovered = step := by rw [MutableStep.recovered, last]
    rw [same]
    exact consistent
  | some attempt =>
    obtain ⟨front, back, before, after, _, _⟩ := recovered_attempts keyed numbered last
    rw [before] at consistent
    rw [after]
    intro other member
    rw [List.mem_append, List.mem_cons] at member
    rcases member with earlier | rfl | later
    · exact consistent other (List.mem_append_left _ earlier)
    · exact assertAttemptResultConsistency_interrupted (consistent attempt (by simp))
    · exact consistent other (by simp [later])

theorem recovered_shape (keyed : step.Keyed) (numbered : Numbered step) :
    { step.recovered.graphStep with state := .pending } =
        { step.graphStep with state := PlanStepStateV1.pending } ∧
      (step.recovered.orderedAttempts.map (·.graphAttempt step.recovered)).map
          (fun attempt => { attempt with state := PlanAttemptStateV1.reserved }) =
        (step.orderedAttempts.map (·.graphAttempt step)).map
          fun attempt => { attempt with state := PlanAttemptStateV1.reserved } := by
  cases last : step.unfinishedAttempt with
  | none =>
    have same : step.recovered = step := by rw [MutableStep.recovered, last]
    rw [same]
    exact ⟨rfl, rfl⟩
  | some attempt =>
    obtain ⟨front, back, before, after, _, _⟩ := recovered_attempts keyed numbered last
    constructor
    · rw [MutableStep.graphStep, MutableStep.graphStep, recovered_definition, before, after]
      simp [MutableAttempt.interrupted]
    · rw [before, after]
      simp [MutableAttempt.interrupted, MutableAttempt.graphAttempt, recovered_definition]

end Checks

/-! ## The text of the graph -/

section Text

variable {plan : MutablePlan} {step : MutableStep} {attempt : MutableAttempt}
  {localeCompare : String → String → Ordering}

theorem size_planState (state : PlanStateV1) :
    Json.quotedSize state.text = state.text.utf8ByteSize + 2 := by
  cases state <;> decide +kernel

theorem size_stepState (state : PlanStepStateV1) :
    Json.quotedSize state.text = state.text.utf8ByteSize + 2 := by
  cases state <;> decide +kernel

theorem size_attemptState (state : PlanAttemptStateV1) :
    Json.quotedSize state.text = state.text.utf8ByteSize + 2 := by
  cases state <;> decide +kernel

theorem sizeItems_eq (items : List Json) : Json.sizeItems items = (items.map Json.size).sum := by
  induction items with
  | nil => rfl
  | cons item rest ih => rw [Json.sizeItems, ih, List.map_cons, List.sum_cons]

theorem size_stepJson (step : PlanStepV1) (state : PlanStepStateV1) :
    (Plan.stepJson { step with state }).size + step.state.text.utf8ByteSize =
      (Plan.stepJson step).size + state.text.utf8ByteSize := by
  have before := size_stepState step.state
  have after := size_stepState state
  simp only [Plan.stepJson, Json.size, Json.sizeFields, before, after, List.length_cons,
    List.length_nil]
  omega

theorem size_attemptJson (attempt : PlanAttemptV1) (state : PlanAttemptStateV1) :
    (Plan.attemptJson { attempt with state }).size + attempt.state.text.utf8ByteSize =
      (Plan.attemptJson attempt).size + state.text.utf8ByteSize := by
  have before := size_attemptState attempt.state
  have after := size_attemptState state
  simp only [Plan.attemptJson, Json.size, Json.sizeFields_append, Json.sizeFields, before, after,
    List.length_append, List.length_cons, List.length_nil]
  omega

/-- The bytes of the text of a step and of its attempts. -/
def MutableStep.bytes (step : MutableStep) : Nat :=
  (Plan.stepJson step.graphStep).size +
    ((step.orderedAttempts.map (·.graphAttempt step)).map
      fun attempt => (Plan.attemptJson attempt).size).sum

theorem recovered_bytes (keyed : step.Keyed) (numbered : Numbered step) :
    (step.recovered.bytes : Int) = step.bytes + step.project.growth := by
  rw [SessionStepProjectionV3.growth, project_unfinishedAttempt]
  cases last : step.unfinishedAttempt with
  | none =>
    have same : step.recovered = step := by rw [MutableStep.recovered, last]
    simp [same]
  | some attempt =>
    obtain ⟨front, back, before, after, _, _⟩ := recovered_attempts keyed numbered last
    have graph : step.recovered.graphStep =
        { step.graphStep with state := step.recovered.state } :=
      congrArg (fun shape : PlanStepV1 => { shape with state := step.recovered.state })
        (recovered_shape keyed numbered).1
    have state : step.recovered.state =
        if step.state.active then .interrupted else step.state := by
      rw [MutableStep.recovered, last]
      dsimp only
      by_cases active : step.state.active = true
      · rw [if_pos active, if_pos active]
      · rw [if_neg active, if_neg active]
    have others : ∀ other : MutableAttempt,
        other.graphAttempt step.recovered = other.graphAttempt step := by
      intro other
      rw [MutableAttempt.graphAttempt, MutableAttempt.graphAttempt, recovered_definition]
    have mine : attempt.interrupted.graphAttempt step =
        { attempt.graphAttempt step with state := .interrupted } := rfl
    have steps := size_stepJson step.graphStep step.recovered.state
    have attempts := size_attemptJson (attempt.graphAttempt step) .interrupted
    rw [← graph] at steps
    rw [← mine] at attempts
    have text : (step.recovered.state.text.utf8ByteSize : Int) - step.state.text.utf8ByteSize =
        if step.state.active then interruptedGrowth step.state.text else 0 := by
      rw [state]
      by_cases active : step.state.active = true
      · rw [if_pos active, if_pos active]
        rfl
      · rw [if_neg active, if_neg active]
        exact Int.sub_self _
    have text' : (PlanAttemptStateV1.interrupted.text.utf8ByteSize : Int) -
        attempt.state.text.utf8ByteSize = interruptedGrowth attempt.state.text := rfl
    have now : step.graphStep.state = step.state := rfl
    have now' : (attempt.graphAttempt step).state = attempt.state := rfl
    rw [now] at steps
    rw [now'] at attempts
    have shown : step.project.state = step.state := rfl
    have shown' : attempt.project.state = attempt.state := rfl
    simp only [Option.map_some, shown, shown', ← text, ← text']
    simp only [MutableStep.bytes, after, before, others, List.map_append, List.map_cons,
      List.sum_append, List.sum_cons]
    omega

theorem jsonBytes_eq (graph : PlanGraphV1) :
    ∃ rest : Nat → Nat → Nat, ∀ other : PlanGraphV1, other.planId = graph.planId →
      other.revision = graph.revision → other.objective = graph.objective →
      Plan.jsonBytes other = rest other.steps.length other.attempts.length +
        other.state.text.utf8ByteSize +
        (other.steps.map fun step => (Plan.stepJson step).size).sum +
        (other.attempts.map fun attempt => (Plan.attemptJson attempt).size).sum := by
  refine ⟨fun steps attempts => (Json.obj [("schemaVersion", .num 1),
    ("planId", .str graph.planId), ("revision", .num graph.revision),
    ("objective", .str graph.objective), ("state", .str ""), ("steps", .arr []),
    ("attempts", .arr [])]).size + (steps - 1) + (attempts - 1),
    fun other planId revision objective => ?_⟩
  have state := size_planState other.state
  have empty : Json.quotedSize "" = 2 := by decide +kernel
  rw [Plan.jsonBytes, Json.utf8ByteSize_stringify]
  simp only [planId, revision, objective, Json.size, Json.sizeFields, sizeItems_eq, List.map_nil,
    List.map_map, List.sum_nil, state, empty, List.length_cons, List.length_nil, List.length_map,
    Function.comp_def]
  omega

variable (localeCompare) in
theorem graph_bytes (plan : MutablePlan) :
    ((plan.graph localeCompare).steps.map fun step => (Plan.stepJson step).size).sum +
        ((plan.graph localeCompare).attempts.map
          fun attempt => (Plan.attemptJson attempt).size).sum =
      ((plan.orderedSteps localeCompare).map MutableStep.bytes).sum := by
  change (((plan.orderedSteps localeCompare).map (·.graphStep)).map _).sum +
    (((plan.orderedSteps localeCompare).flatMap fun step =>
      step.orderedAttempts.map (·.graphAttempt step)).map _).sum = _
  induction plan.orderedSteps localeCompare with
  | nil => rfl
  | cons step rest ih =>
    simp only [List.map_cons, List.sum_cons, List.flatMap_cons, List.map_append, List.sum_append,
      MutableStep.bytes] at ih ⊢
    omega

theorem sum_recovered_bytes (steps : List MutableStep)
    (sound : ∀ step ∈ steps, step.Keyed ∧ Numbered step) :
    ((((steps.map MutableStep.recovered).map MutableStep.bytes).sum : Nat) : Int) =
      ((steps.map MutableStep.bytes).sum : Nat) + ((steps.map (·.project)).map (·.growth)).sum := by
  induction steps with
  | nil => rfl
  | cons step rest ih =>
    obtain ⟨keyed, numbered⟩ := sound step List.mem_cons_self
    have others := ih fun other member => sound other (List.mem_cons_of_mem _ member)
    have mine := recovered_bytes keyed numbered
    simp only [List.map_cons, List.sum_cons] at others ⊢
    push_cast at others ⊢
    omega

theorem length_recovered_attempts (keyed : step.Keyed) (numbered : Numbered step) :
    step.recovered.orderedAttempts.length = step.orderedAttempts.length := by
  have shape := congrArg List.length (recovered_shape keyed numbered).2
  simpa using shape

variable (keyed : plan.Keyed)
  (numbered : ∀ stepId step, plan.steps.get? stepId = some step → Numbered step)

include keyed numbered

variable (localeCompare) in
theorem orderedSteps_sound : ∀ step ∈ plan.orderedSteps localeCompare,
    step.Keyed ∧ Numbered step := by
  intro step member
  have found := keyed.get?_ordered member
  exact ⟨(keyed _ step found).2, numbered _ step found⟩

variable (localeCompare) in
/-- **The text of the graph of a recovered plan** is longer by what the states grow. -/
theorem recovered_jsonBytes (unfinished : plan.state.unfinished = true) :
    (Plan.jsonBytes (plan.recovered.graph localeCompare) : Int) =
      Plan.jsonBytes (plan.graph localeCompare) + (plan.project localeCompare).growth := by
  have sound := orderedSteps_sound localeCompare keyed numbered
  have steps := recovered_orderedSteps localeCompare unfinished
  obtain ⟨rest, count⟩ := jsonBytes_eq (plan.graph localeCompare)
  have same : plan.recovered.planId = plan.planId ∧ plan.recovered.revision = plan.revision ∧
      plan.recovered.objective = plan.objective ∧ plan.recovered.state = plan.state.recovered := by
    rw [MutablePlan.recovered, if_pos unfinished]
    exact ⟨rfl, rfl, rfl, rfl⟩
  have before := count (plan.graph localeCompare) rfl rfl rfl
  have after := count (plan.recovered.graph localeCompare) same.1 same.2.1 same.2.2.1
  have stepCount : (plan.recovered.graph localeCompare).steps.length =
      (plan.graph localeCompare).steps.length := by
    simp [MutablePlan.graph, steps]
  have attemptCount : (plan.recovered.graph localeCompare).attempts.length =
      (plan.graph localeCompare).attempts.length := by
    simp only [MutablePlan.graph, steps, List.flatMap_map, List.length_flatMap, List.length_map]
    refine congrArg List.sum (List.map_congr_left fun step member => ?_)
    obtain ⟨keyed, numbered⟩ := sound step member
    exact length_recovered_attempts keyed numbered
  have state : ((plan.recovered.graph localeCompare).state.text.utf8ByteSize : Int) =
      (plan.graph localeCompare).state.text.utf8ByteSize + 4 := by
    change (plan.recovered.state.text.utf8ByteSize : Int) = plan.state.text.utf8ByteSize + 4
    rw [same.2.2.2]
    cases state : plan.state <;> rw [state] at unfinished <;> first | rfl | cases unfinished
  have parts := graph_bytes localeCompare plan
  have parts' := graph_bytes localeCompare plan.recovered
  have grown := sum_recovered_bytes _ sound
  rw [← steps] at grown
  have shown : (plan.project localeCompare).growth =
      4 + (((plan.orderedSteps localeCompare).map (·.project)).map (·.growth)).sum := rfl
  rw [stepCount, attemptCount] at after
  omega

/-- **The projection of a recovered plan** passes its checks exactly if its text is not too long. -/
theorem projectPlan_recovered {shown : Option SessionPlanGraphProjectionV3}
    (projected : projectPlan localeCompare (some plan) = .ok shown) :
    (∃ after, projectPlan localeCompare (some plan.recovered) = .ok after) ↔
      (plan.state.unfinished = true → (Plan.jsonBytes (plan.project localeCompare).graph : Int) +
          (plan.project localeCompare).growth ≤ Plan.maxGraphBytes) := by
  by_cases unfinished : plan.state.unfinished = true
  · simp only [projectPlan, bind_eq_ok, ensure_eq_ok, exists_const, pure_eq_ok, forM_eq_ok,
      Plan.validGraph_iff] at projected ⊢
    obtain ⟨_, dependencies, consistent, ⟨_, shaped⟩, _⟩ := projected
    have sound := orderedSteps_sound localeCompare keyed numbered
    have steps := recovered_orderedSteps localeCompare unfinished
    have bytes := recovered_jsonBytes localeCompare keyed numbered unfinished
    have shape : Plan.shape (plan.recovered.graph localeCompare) =
        Plan.shape (plan.graph localeCompare) := by
      have parts : (plan.recovered.graph localeCompare).steps.map
          (fun step => { step with state := PlanStepStateV1.pending }) =
            (plan.graph localeCompare).steps.map
              fun step => { step with state := PlanStepStateV1.pending } := by
        simp only [MutablePlan.graph, steps, List.map_map]
        refine List.map_congr_left fun step member => ?_
        obtain ⟨keyed, numbered⟩ := sound step member
        exact (recovered_shape keyed numbered).1
      have parts' : (plan.recovered.graph localeCompare).attempts.map
          (fun attempt => { attempt with state := PlanAttemptStateV1.reserved }) =
            (plan.graph localeCompare).attempts.map
              fun attempt => { attempt with state := PlanAttemptStateV1.reserved } := by
        simp only [MutablePlan.graph, steps, List.flatMap_map, List.map_flatMap]
        refine List.flatMap_congr fun step member => ?_
        obtain ⟨keyed, numbered⟩ := sound step member
        exact (recovered_shape keyed numbered).2
      rw [Plan.shape, Plan.shape, parts, parts']
      rw [MutablePlan.recovered, if_pos unfinished]
      rfl
    have settled : ∀ step ∈ plan.recovered.orderedSteps localeCompare,
        ∀ attempt ∈ step.orderedAttempts, assertAttemptResultConsistency attempt = .ok () := by
      intro step member
      rw [steps] at member
      obtain ⟨own, place, rfl⟩ := List.mem_map.mp member
      obtain ⟨keyed, numbered⟩ := sound own place
      exact recovered_consistent keyed numbered (consistent own place)
    have dependencies' : assertPlanDependencies (plan.recovered.orderedSteps localeCompare) =
        .ok () := by
      rw [steps, assertPlanDependencies_map recovered_definition]
      exact dependencies
    have shaped' : Plan.validShape (plan.recovered.graph localeCompare) = true := by
      rw [← Plan.validShape_shape, shape, Plan.validShape_shape]
      exact shaped
    rw [project_graph, ← bytes]
    constructor
    · rintro ⟨after, _, _, _, ⟨short, _⟩, _⟩ _
      exact Int.ofNat_le.mpr short
    · intro short
      have small := Int.ofNat_le.mp (short unfinished)
      exact ⟨_, (), dependencies', settled, ⟨small, shaped'⟩, rfl⟩
  · have same : plan.recovered = plan := by rw [MutablePlan.recovered, if_neg unfinished]
    rw [same]
    exact iff_of_true ⟨shown, projected⟩ fun here => absurd here unfinished

end Text

end Praxis.Session
