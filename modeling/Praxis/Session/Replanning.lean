import Praxis.Session.PlanEvidence

/-!
# What a revision keeps of a plan

A revision replaces the steps of a plan by those that its proofs of reuse name. Every proof names a
succeeded step whose latest attempt was verified for the input that the new revision has, and the
steps that it depends on are named too (`planRevised_keepsProven`).
-/

namespace Praxis.Session

set_option autoImplicit false

open Praxis.Foundations

/-- The last of the attempts of a step by their ordinals. -/
def MutableStep.Latest (step : MutableStep) (attempt : MutableAttempt) : Prop :=
  attempt ∈ step.attempts.values ∧
    ∀ other ∈ step.attempts.values, other.ordinal ≤ attempt.ordinal

/-- The step was completed, and its latest attempt verified for the input that the proof names. -/
def ProvenBy (proof : PlanReuseProofV3) (step : MutableStep) : Prop :=
  step.state = .succeeded ∧ ∃ attempt, step.Latest attempt ∧ attempt.state = .verified ∧
    (attempt.execution.map fun bound => bound.1.packetRef.digest) = some proof.previousInputDigest ∧
    proof.previousInputDigest = proof.nextInputDigest

structure KeepsProven (before : MutablePlan) (data : PlanRevisionV3) (after : MutablePlan) :
    Prop where
  /-- The steps are the ones that the proofs name, as they were. -/
  named : ∀ stepId step, after.steps.get? stepId = some step ↔
    stepId ∈ data.reuseProofs.map (·.stepId) ∧ before.steps.get? stepId = some step
  proven : ∀ proof ∈ data.reuseProofs, ∃ step, after.steps.get? proof.stepId = some step ∧
    ProvenBy proof step
  /-- A step is kept with all that it depends on. -/
  closed : ∀ stepId step, after.steps.get? stepId = some step →
    ∀ dependency ∈ step.definition.dependencies, after.steps.contains dependency = true
  /-- Nothing unfinished is kept. -/
  settled : ∀ stepId step, after.steps.get? stepId = some step →
    step.state ≠ .running ∧ step.state ≠ .verifying ∧ ∀ attempt ∈ step.attempts.values,
      attempt.state ∉ [.reserved, .running, .executionSucceeded, .verifying]

theorem Numbered.latest {step : MutableStep} {attempt : MutableAttempt} (numbered : Numbered step)
    (latest : Session.latestStepAttempt step = some attempt) : step.Latest attempt := by
  rw [numbered.latestStepAttempt] at latest
  obtain ⟨front, split⟩ := List.getLast?_eq_some_iff.mp latest
  have ascending := numbered.ascending
  rw [split, List.pairwise_append] at ascending
  refine ⟨by simp [split], fun other member => ?_⟩
  rw [split] at member
  rcases List.mem_append.mp member with earlier | last
  · exact (ascending.2.2 other earlier attempt (by simp)).le
  · rw [List.mem_singleton.mp last]

theorem reducePlanRevised_keepsProven {own next : PlanVariables} {data : PlanRevisionV3}
    {before : MutablePlan} (sound : own.Sound) (there : own.plan = some before)
    (accepted : reducePlanRevised own data = .ok next) :
    ∃ after, next.plan = some after ∧ KeepsProven before data after := by
  simp only [reducePlanRevised, bind_eq_ok, ensure_eq_ok, exists_const, pure_eq_ok,
    Bool.and_eq_true, List.all_eq_true, Bool.not_eq_true'] at accepted
  obtain ⟨plan, found, ⟨_, idle⟩, reused, fold, rfl⟩ := accepted
  obtain rfl := Option.some.inj (there.symm.trans (requirePlanRevision_ok found))
  obtain ⟨collected, checked⟩ := reusedSteps_collected fold
  have named : ∀ stepId step, reused.get? stepId = some step ↔
      stepId ∈ data.reuseProofs.map (·.stepId) ∧ before.steps.get? stepId = some step := by
    intro stepId step
    rw [collected]
    by_cases member : stepId ∈ data.reuseProofs.map (·.stepId) <;> simp [member]
  -- what the loop checked of the step that a proof names
  have reuse : ∀ proof ∈ data.reuseProofs, ∃ step, before.steps.get? proof.stepId = some step ∧
      ProvenBy proof step ∧ ∀ dependency ∈ step.definition.dependencies,
        dependency ∈ data.reuseProofs.map (·.stepId) := by
    intro proof member
    obtain ⟨step, check⟩ := checked proof member
    simp only [reusedStep, bind_eq_ok, orError_eq_ok, ensure_eq_ok, exists_const, pure_eq_ok,
      Bool.and_eq_true, beq_iff_eq, List.all_eq_true, List.any_eq_true] at check
    obtain ⟨_, held, attempt, last, ⟨⟨⟨⟨done, verified⟩, input⟩, same⟩, closed⟩, rfl⟩ := check
    have latest := (sound before there _ _ held).numbered.latest last
    refine ⟨_, held, ⟨done, attempt, latest, verified, input, same⟩, fun dependency depends => ?_⟩
    obtain ⟨candidate, listed, names⟩ := closed dependency depends
    exact List.mem_map.mpr ⟨candidate, listed, names⟩
  refine ⟨_, rfl, named, ?_, ?_, ?_⟩
  · intro proof member
    obtain ⟨step, held, proven, _⟩ := reuse proof member
    exact ⟨step, (named _ _).mpr ⟨List.mem_map_of_mem member, held⟩, proven⟩
  · intro stepId step kept dependency depends
    obtain ⟨listed, held⟩ := (named stepId step).mp kept
    obtain ⟨proof, member, rfl⟩ := List.mem_map.mp listed
    obtain ⟨_, held', _, closed⟩ := reuse proof member
    obtain rfl := Option.mem_unique held held'
    have listed := closed dependency depends
    obtain ⟨other, member, rfl⟩ := List.mem_map.mp listed
    obtain ⟨step, held, _⟩ := reuse other member
    exact (Table.contains_iff _).mpr ⟨step, (named _ _).mpr ⟨listed, held⟩⟩
  · intro stepId step kept
    have held := ((named stepId step).mp kept).2
    have settled := idle step (before.steps.mem_values_iff.mpr ⟨stepId, held⟩)
    simp only [MutableStep.unsettled, Bool.or_eq_false_iff, List.any_eq_false] at settled
    refine ⟨?_, ?_, fun attempt member open_ => ?_⟩
    · rintro running
      simp [running] at settled
    · rintro verifying
      simp [verifying] at settled
    · exact settled.2 attempt member (List.elem_iff.mpr open_)

/-- **A revision keeps proven work**: in every stream that the reducer accepts the plan after a
revision has the steps that its proofs of reuse name and no others, each of them proven, with their
dependencies, and nothing that was unfinished. -/
theorem planRevised_keepsProven {Data View : Type} (rest : SessionRules Data View)
    (localeCompare : String → String → Ordering) (event? : Data → Option PlanEventV3)
    (front back : List (SessionEntryV3 Data)) (entry : SessionEntryV3 Data) (data : PlanRevisionV3)
    (final : SessionStateV3 Data × PlanVariables × View)
    (accepted : reduceEntries (rest.with (planGraph localeCompare event?))
      (front ++ entry :: back) = .ok final)
    (revises : (planGraph localeCompare event?).event entry = some (.planRevised data)) :
    ∃ current next before after,
      reduceEntries (rest.with (planGraph localeCompare event?)) front = .ok current ∧
      reduceEntries (rest.with (planGraph localeCompare event?)) (front ++ [entry]) = .ok next ∧
      current.2.1.plan = some before ∧ next.2.1.plan = some after ∧
      KeepsProven before data after := by
  rcases reduceEntries_split accepted with
    ⟨rfl, created, creates⟩ | ⟨current, next, upTo, step, longer, _⟩
  · simp [EntryLayer.event, creates] at revises
  · have advanced := reduceEntry_advances step
    rw [EntryLayer.advance_of_event revises] at advanced
    change reducePlanRevised current.2.1 data = .ok next.2.1 at advanced
    have some_ : ∃ before, current.2.1.plan = some before := by
      simp only [reducePlanRevised, bind_eq_ok] at advanced
      obtain ⟨plan, found, _⟩ := advanced
      exact ⟨plan, requirePlanRevision_ok found⟩
    obtain ⟨before, there⟩ := some_
    obtain ⟨after, after', keeps⟩ :=
      reducePlanRevised_keepsProven (reduceEntries_sound upTo) there advanced
    exact ⟨current, next, before, after, upTo, longer, there, after', keeps⟩

/-! ## A revision that keeps two of three steps -/

def reusingRevision : PlanRevisionV3 where
  planId := "plan-1"
  fromRevision := 1
  toRevision := 2
  objective := "objective"
  state := .running
  reuseProofs := ["s1", "s2"].map fun stepId =>
    { stepId
      previousInputDigest := sampleDigest
      nextInputDigest := sampleDigest }

/-- The two steps are done, and a third one waits. -/
def planOfThree : List (SessionEntryV3 PlanEventV3) :=
  recorded (planOfTwo ++ [.stepCreated sampleRef (sampleStep "s3" 2 ["s2"]) .pending])

/-- The entry of that revision. -/
def reusingEntry : SessionEntryV3 PlanEventV3 :=
  { createdEntry PlanEventV3 with
    entryId := "e28"
    sequence := 28
    data := .other (.planRevised reusingRevision) }

theorem planRevised_reuses : ∃ current next before after,
    reduceEntries ((plainRules PlanEventV3).with (planGraph compare some)) planOfThree =
      .ok current ∧
    reduceEntries ((plainRules PlanEventV3).with (planGraph compare some))
      (planOfThree ++ [reusingEntry]) = .ok next ∧
    current.2.1.plan = some before ∧ next.2.1.plan = some after ∧
    KeepsProven before reusingRevision after ∧
    after.steps.values.map (·.definition.stepId) = ["s1", "s2"] := by
  have accepted : (reduceEntries ((plainRules PlanEventV3).with (planGraph compare some))
      (planOfThree ++ [reusingEntry])).toOption.any (fun final => final.2.1.plan.any fun plan =>
        plan.steps.values.map (·.definition.stepId) == ["s1", "s2"]) = true := by
    decide +kernel
  obtain ⟨final, reduced, shown⟩ := exists_ok accepted
  obtain ⟨plan, there, kept⟩ := (Option.any_eq_true _ _).mp shown
  obtain ⟨current, next, before, after, upTo, longer, was, is_, keeps⟩ :=
    planRevised_keepsProven _ compare some _ [] reusingEntry reusingRevision final reduced rfl
  obtain rfl := ok_unique longer reduced
  obtain rfl := Option.mem_unique is_ there
  exact ⟨current, next, before, after, upTo, longer, was, is_, keeps, beq_iff_eq.mp kept⟩

end Praxis.Session
