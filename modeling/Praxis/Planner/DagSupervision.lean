import Praxis.Foundations.Runs
import Praxis.Planner.DagBudgets

/-!
# The supervisor of a plan's attempts

The supervisor runs the attempts of a plan in parallel, each with the budget that it was given. The
workers read the journal, ask the executor, record the usage and make attempts again one after the
other in any order, and what a worker has read can be old when it is used. The model steps through
what each worker does to the journal, to its attempt and to the budgets that are given.
-/

namespace Praxis.Planner

set_option autoImplicit false

open Praxis.Foundations
open Praxis.Session (ExecutionBudget SessionStepProjectionV3)
open Praxis.Session.Plan (validBudget)

/-! ## Workers -/

/-- What the supervisor reads in the journal: the usage that is recorded for the run, and the step
of each attempt of the plan. -/
structure RunView where
  usage : BudgetUsage
  attempts : List String
deriving DecidableEq

namespace RunView

/-- The `usage.recorded` entry of an attempt. -/
def record (view : RunView) (usage : BudgetUsage) : RunView :=
  { view with usage := view.usage.add (parentSubagentUsage usage) }

/-- The `attempt.created` entry of a step. -/
def attempt (view : RunView) (stepId : String) : RunView :=
  { view with attempts := view.attempts ++ [stepId] }

end RunView

/-- How far `runClaim` is with an attempt. -/
inductive WorkerPhase
  | claimed
  | executing (seen : RunView)
  | recorded
  | verifying (seen : RunView)
deriving DecidableEq

/-- An attempt with the budget that it was given. -/
structure Worker where
  step : SessionStepProjectionV3
  budget : ExecutionBudget
  phase : WorkerPhase
deriving DecidableEq

/-- The attempt is still to be executed, or its usage is not recorded yet. -/
def Worker.running (worker : Worker) : Bool :=
  match worker.phase with
  | .claimed => true
  | .executing _ => true
  | .recorded => false
  | .verifying _ => false

/-- What the supervisor reads of a `SubagentResultV1`. -/
structure AttemptResult where
  succeeded : Bool
  usage : BudgetUsage

/-- What happens to an attempt. That an attempt may be made again says that the result or a
decision of a verifier is retryable, the step is read-only and idempotent, and neither an abort nor
the deadline of the step came first. -/
inductive WorkerEvent
  | loads
  | stops
  | crashes
  | answersInvalidly
  | losesArtifact (result : AttemptResult)
  | answers (result : AttemptResult) (mayRetry : Bool)
  | verifies (mayRetry : Bool)

/-- The checks of a retry against the projection that is given. -/
def retryAllowed (parent : ExecutionBudget) (view : RunView) (step : SessionStepProjectionV3)
    (current : BudgetUsage) : Bool :=
  decide ((view.attempts.count step.stepId : Int) < step.maxAttempts) &&
    decide ((view.attempts.length : Int) < parent.maxChildRuns) &&
    hasRemainingRunBudget parent view.usage current

/-- The retry of an attempt: it is decided on the projection that the worker has seen, and checked
once more on the one that it is appended to. -/
def Worker.retry (parent : ExecutionBudget) (seen journal : RunView) (worker : Worker)
    (current : BudgetUsage) (mayRetry : Bool) : Option Worker :=
  if mayRetry && retryAllowed parent seen worker.step current &&
      retryAllowed parent journal worker.step current then
    some
      { step := worker.step
        budget := remainingAttemptBudget parent seen.usage current worker.step.budget
        phase := .claimed }
  else none

def retried (journal : RunView) : Option Worker → RunView × Option Worker
  | some worker => (journal.attempt worker.step.stepId, some worker)
  | none => (journal, none)

/-- `runClaim`, from one access to the journal to the next. -/
def Worker.turn (parent : ExecutionBudget) (journal : RunView) (worker : Worker) :
    WorkerPhase → WorkerEvent → Option (RunView × Option Worker)
  | .claimed, .loads => some (journal, some { worker with phase := .executing journal })
  -- The deadline, an abort, or a request that cannot be made or bound.
  | .claimed, .stops => some (journal, none)
  -- The usage that stands for a crash is the step's whole budget, not the one that was given.
  | .executing _, .crashes => some (journal.record (conservativeUsage worker.step.budget), none)
  | .executing _, .answersInvalidly => some (journal.record (conservativeUsage worker.budget), none)
  | .executing _, .losesArtifact result =>
    if usageWithinStep result.usage worker.budget then some (journal.record result.usage, none)
    else none
  | .executing seen, .answers result mayRetry =>
    if usageWithinStep result.usage worker.budget then
      if result.succeeded then
        some (journal.record result.usage, some { worker with phase := .recorded })
      else
        some (retried (journal.record result.usage)
          (worker.retry parent seen journal result.usage mayRetry))
    else none
  | .recorded, .loads => some (journal, some { worker with phase := .verifying journal })
  | .recorded, .stops => some (journal, none)
  | .verifying _, .stops => some (journal, none)
  | .verifying seen, .verifies mayRetry =>
    some (retried journal (worker.retry parent seen journal noUsage mayRetry))
  | _, _ => none

/-! ## The supervisor -/

/-- The supervisor at work on a plan. -/
structure Supervision where
  journal : RunView
  workers : List Worker
  /-- A worker has thrown, so that `execute` rejects once it gets to know. -/
  rejected : Bool

inductive SupervisorEvent
  | claims (steps : List SessionStepProjectionV3)
  | works (index : Nat) (event : WorkerEvent)
  | throws (index : Nat)

/-- The budgets of the attempts that are still running. -/
def runningBudgets (workers : List Worker) : List ExecutionBudget :=
  (workers.filter Worker.running).map (·.budget)

/-- The leases that the scheduler cuts for the steps that it selects. -/
def Supervision.leases (parent : ExecutionBudget) (s : Supervision)
    (steps : List SessionStepProjectionV3) : List (SessionStepProjectionV3 × ExecutionBudget) :=
  allocateBudgetLeases steps (remainingExecutionBudget parent s.journal.usage [])

/-- One step of the supervisor. The scheduler claims steps only while no attempt is active. -/
def supervise (plan : List SessionStepProjectionV3) (parent : ExecutionBudget) (s : Supervision) :
    SupervisorEvent → Option Supervision
  | .claims steps =>
    if s.workers = [] ∧ s.rejected = false ∧ steps ⊆ plan ∧
        (steps.length : Int) ≤ parent.maxParallelChildren ∧
        (s.journal.attempts.length + steps.length : Int) ≤ parent.maxChildRuns then
      let leases := s.leases parent steps
      some
        { s with
          journal := leases.foldl (fun journal lease => journal.attempt lease.1.stepId) s.journal
          workers := leases.map fun lease =>
            { step := lease.1
              budget := lease.2
              phase := .claimed } }
    else none
  | .works index event =>
    match s.workers[index]? with
    | none => none
    | some worker =>
      (worker.turn parent s.journal worker.phase event).map fun result =>
        { s with
          journal := result.1
          workers := result.2.toList ++ s.workers.eraseIdx index }
  | .throws index =>
    if index < s.workers.length then
      some
        { s with
          workers := s.workers.eraseIdx index
          rejected := true }
    else none

/-- A step of a run. -/
def Supervises (plan : List SessionStepProjectionV3) (parent : ExecutionBudget) (s : Supervision)
    (event : SupervisorEvent) (t : Supervision) : Prop :=
  supervise plan parent s event = some t

/-- Where `execute` starts: with no attempt, or with attempts that are resumed, each with the
budget of its step, when `budgetsFit` lets them. -/
structure Starts (plan : List SessionStepProjectionV3) (parent : ExecutionBudget) (s : Supervision) :
    Prop where
  resumed : ∀ worker ∈ s.workers, worker.step ∈ plan ∧ worker.budget = worker.step.budget ∧
    worker.phase = .claimed
  fit : s.workers ≠ [] →
    budgetsFit parent s.journal.usage (s.workers.map (·.budget)) = true

/-! ## What the parent allows -/

/-- **Children do not overspend.** What is recorded and what the running attempts were given is
within the parent's budget, and each was given no more than its step allows. -/
structure Underspent (parent : ExecutionBudget) (s : Supervision) : Prop where
  parent : Fits parent s.journal.usage (runningBudgets s.workers)
  steps : ∀ worker ∈ s.workers, worker.running = true →
    WithinBudget worker.budget worker.step.budget

def Supervision.others (s : Supervision) (index : Nat) : List ExecutionBudget :=
  runningBudgets (s.workers.eraseIdx index)

/-- When a turn of a worker keeps the parent's budget, given what the other attempts hold. -/
def Worker.Affordable (parent : ExecutionBudget) (journal : RunView) (worker : Worker)
    (others : List ExecutionBudget) : WorkerPhase → WorkerEvent → Prop
  -- The whole budget of the step fits beside what the others hold.
  | .executing _, .crashes =>
    Fits parent (journal.usage.add (parentSubagentUsage (conservativeUsage worker.step.budget)))
      others
  -- A retry fits beside them.
  | .executing seen, .answers result mayRetry =>
    result.succeeded = false →
      (worker.retry parent seen journal result.usage mayRetry).isSome = true →
        RetryFits parent seen.usage journal.usage result.usage worker.step.budget others
  | .verifying seen, .verifies mayRetry =>
    (worker.retry parent seen journal noUsage mayRetry).isSome = true →
      RetryFits parent seen.usage journal.usage noUsage worker.step.budget others
  | _, _ => True

/-- **When a step keeps the parent's budget.** -/
def Affordable (parent : ExecutionBudget) (s : Supervision) : SupervisorEvent → Prop
  -- As many turns and tokens remain as steps get a lease.
  | .claims steps =>
    hasMinimumExecutionBudget (remainingExecutionBudget parent s.journal.usage []) = true →
      AllowsEach (remainingExecutionBudget parent s.journal.usage []) (leasable steps).length
  | .works index event => ∀ worker, s.workers[index]? = some worker →
      worker.Affordable parent s.journal (s.others index) worker.phase event
  | .throws _ => True

/-! ## Steps keep the parent's budget -/

theorem runningBudgets_append (first second : List Worker) :
    runningBudgets (first ++ second) = runningBudgets first ++ runningBudgets second := by
  rw [runningBudgets, List.filter_append, List.map_append]
  rfl

theorem runningBudgets_perm {first second : List Worker} (same : first.Perm second) :
    (runningBudgets first).Perm (runningBudgets second) := (same.filter _).map _

theorem Supervision.runningBudgets_perm_others {s : Supervision} {index : Nat} {worker : Worker}
    (found : s.workers[index]? = some worker) :
    (runningBudgets s.workers).Perm (runningBudgets [worker] ++ s.others index) := by
  obtain ⟨inside, rfl⟩ := List.getElem?_eq_some_iff.mp found
  rw [Supervision.others, ← runningBudgets_append]
  exact runningBudgets_perm (List.getElem_cons_eraseIdx_perm inside).symm

/-- An attempt of a plan with a budget that its step allows. -/
structure Given (plan : List SessionStepProjectionV3) (worker : Worker) : Prop where
  step : worker.step ∈ plan
  within : WithinBudget worker.budget worker.step.budget
  sensible : Sensible worker.budget

/-- **The invariant of a run.** -/
structure Supervised (plan : List SessionStepProjectionV3) (parent : ExecutionBudget)
    (s : Supervision) : Prop where
  fits : Fits parent s.journal.usage (runningBudgets s.workers)
  given : ∀ worker ∈ s.workers, Given plan worker

section Turns

variable {plan : List SessionStepProjectionV3} {parent : ExecutionBudget} {journal : RunView}
  {worker : Worker} {others : List ExecutionBudget} {used : BudgetUsage}

/-- What a turn of a worker leaves: the journal and the worker fit beside the others. -/
structure Kept (plan : List SessionStepProjectionV3) (parent : ExecutionBudget)
    (others : List ExecutionBudget) (result : RunView × Option Worker) : Prop where
  fits : Fits parent result.1.usage (runningBudgets result.2.toList ++ others)
  given : ∀ worker ∈ result.2, Given plan worker

theorem Kept.record (fits : Fits parent journal.usage (worker.budget :: others))
    (within : used.turns ≤ worker.budget.maxTurns ∧ used.toolCalls ≤ worker.budget.maxToolCalls ∧
      ∀ tokens, worker.budget.maxTokens = some tokens → used.tokens ≤ tokens) :
    Fits parent (journal.record used).usage others :=
  fits.spend within.1 within.2.1 within.2.2

theorem Kept.ended (fits : Fits parent journal.usage others) :
    Kept plan parent others (journal, none) where
  fits := fits
  given := by simp

theorem Kept.of_retry {seen before : RunView} {mayRetry : Bool}
    (sensible : ∀ step ∈ plan, Sensible step.budget) (member : worker.step ∈ plan)
    (fits : Fits parent (before.usage.add used) others)
    (same : journal.usage.turns = (before.usage.add used).turns ∧
      journal.usage.toolCalls = (before.usage.add used).toolCalls ∧
      journal.usage.tokens = (before.usage.add used).tokens)
    (affordable : (worker.retry parent seen before used mayRetry).isSome = true →
      RetryFits parent seen.usage before.usage used worker.step.budget others) :
    Kept plan parent others (retried journal (worker.retry parent seen before used mayRetry)) := by
  have moved : ∀ {budgets}, Fits parent (before.usage.add used) budgets →
      Fits parent journal.usage budgets := by
    intro budgets fits
    exact ⟨by rw [same.1]; exact fits.turns, by rw [same.2.1]; exact fits.toolCalls,
      fun tokens bounded => by rw [same.2.2]; exact fits.tokens tokens bounded⟩
  by_cases allowed : (mayRetry && retryAllowed parent seen worker.step used &&
      retryAllowed parent before worker.step used) = true
  · have made : worker.retry parent seen before used mayRetry = some
        { step := worker.step
          budget := remainingAttemptBudget parent seen.usage used worker.step.budget
          phase := .claimed } := by
      simp only [Worker.retry, allowed, ↓reduceIte]
    have retryFits := affordable (by rw [made]; rfl)
    have left : hasRemainingRunBudget parent before.usage used = true := by
      simp only [retryAllowed, Bool.and_eq_true] at allowed
      exact allowed.2.2
    have own := sensible worker.step member
    rw [made]
    refine ⟨moved (remainingAttemptBudget_fits own fits left retryFits), fun retry found => ?_⟩
    rw [← Option.some_inj.mp found]
    exact ⟨member, remainingAttemptBudget_within own retryFits.oneTurn retryFits.oneToken,
      remainingAttemptBudget_sensible own⟩
  · have none : worker.retry parent seen before used mayRetry = none := by
      simp only [Worker.retry, allowed, Bool.false_eq_true, ↓reduceIte]
    rw [none]
    exact Kept.ended (moved fits)

theorem noUsage_add_turns (usage : BudgetUsage) :
    usage.turns = (usage.add noUsage).turns ∧ usage.toolCalls = (usage.add noUsage).toolCalls ∧
      usage.tokens = (usage.add noUsage).tokens := by
  refine ⟨?_, ?_, ?_⟩
  · simp [BudgetUsage.add, noUsage]
  · simp [BudgetUsage.add, noUsage]
  · rw [tokens_add]
    simp [BudgetUsage.tokens, noUsage]

/-- **One turn of a worker keeps the parent's budget**, when the parent can afford it. -/
theorem Worker.turn_keeps {event : WorkerEvent} {result : RunView × Option Worker}
    (sensible : ∀ step ∈ plan, Sensible step.budget) (given : Given plan worker)
    (fits : Fits parent journal.usage (runningBudgets [worker] ++ others))
    (affordable : worker.Affordable parent journal others worker.phase event)
    (turn : worker.turn parent journal worker.phase event = some result) :
    Kept plan parent others result := by
  obtain ⟨step, budget, phase⟩ := worker
  cases phase with
  | claimed =>
    have running : Fits parent journal.usage (budget :: others) := fits
    cases event with
    | loads =>
      simp only [Worker.turn, Option.some.injEq] at turn
      subst turn
      exact ⟨running, fun next found => by
        rw [← Option.some_inj.mp found]
        exact ⟨given.step, given.within, given.sensible⟩⟩
    | stops =>
      simp only [Worker.turn, Option.some.injEq] at turn
      subst turn
      exact Kept.ended (running.drop given.sensible)
    | _ => cases turn
  | executing seen =>
    have running : Fits parent journal.usage (budget :: others) := fits
    cases event with
    | crashes =>
      simp only [Worker.turn, Option.some.injEq] at turn
      subst turn
      exact Kept.ended affordable
    | answersInvalidly =>
      simp only [Worker.turn, Option.some.injEq] at turn
      subst turn
      exact Kept.ended
        (@Kept.record _ _ ⟨step, budget, .executing seen⟩ _ _ running (spend_conservative budget))
    | losesArtifact answer =>
      simp only [Worker.turn, Option.ite_none_right_eq_some, Option.some.injEq] at turn
      obtain ⟨within, rfl⟩ := turn
      exact Kept.ended (@Kept.record _ _ ⟨step, budget, .executing seen⟩ _ _ running
        (spend_of_usageWithinStep within))
    | answers answer mayRetry =>
      simp only [Worker.turn, Option.ite_none_right_eq_some] at turn
      obtain ⟨within, turn⟩ := turn
      have recorded := @Kept.record _ _ ⟨step, budget, .executing seen⟩ _ _ running
        (spend_of_usageWithinStep within)
      cases succeeded : answer.succeeded with
      | true =>
        simp only [succeeded, ↓reduceIte, Option.some.injEq] at turn
        subst turn
        exact ⟨recorded, fun next found => by
          rw [← Option.some_inj.mp found]
          exact ⟨given.step, given.within, given.sensible⟩⟩
      | false =>
        simp only [succeeded, Bool.false_eq_true, ↓reduceIte, Option.some.injEq] at turn
        subst turn
        exact Kept.of_retry sensible given.step
          ⟨recorded.turns, recorded.toolCalls, recorded.tokens⟩ ⟨rfl, rfl, rfl⟩
          (affordable succeeded)
    | _ => cases turn
  | recorded =>
    have running : Fits parent journal.usage others := fits
    cases event with
    | loads =>
      simp only [Worker.turn, Option.some.injEq] at turn
      subst turn
      exact ⟨running, fun next found => by
        rw [← Option.some_inj.mp found]
        exact ⟨given.step, given.within, given.sensible⟩⟩
    | stops =>
      simp only [Worker.turn, Option.some.injEq] at turn
      subst turn
      exact Kept.ended running
    | _ => cases turn
  | verifying seen =>
    have running : Fits parent journal.usage others := fits
    cases event with
    | stops =>
      simp only [Worker.turn, Option.some.injEq] at turn
      subst turn
      exact Kept.ended running
    | verifies mayRetry =>
      simp only [Worker.turn, Option.some.injEq] at turn
      subst turn
      have same := noUsage_add_turns journal.usage
      have unused : Fits parent (journal.usage.add noUsage) others :=
        ⟨by rw [← same.1]; exact running.turns, by rw [← same.2.1]; exact running.toolCalls,
          fun tokens bounded => by rw [← same.2.2]; exact running.tokens tokens bounded⟩
      exact Kept.of_retry sensible given.step unused same affordable
    | _ => cases turn

end Turns

section Runs

variable {plan : List SessionStepProjectionV3} {parent : ExecutionBudget} {s t : Supervision}
  {steps : List SessionStepProjectionV3}

theorem remainingExecutionBudget_fits {usage : BudgetUsage} {leases : List ExecutionBudget}
    (prior : Fits parent usage [])
    (fits : Fits (remainingExecutionBudget parent usage []) noUsage leases) :
    Fits parent usage leases := by
  have turns := fits.turns
  have toolCalls := fits.toolCalls
  have turnsBefore := prior.turns
  have toolCallsBefore := prior.toolCalls
  simp only [remainingExecutionBudget, List.foldl_nil, noUsage] at turns toolCalls
  simp only [List.map_nil, List.sum_nil] at turnsBefore toolCallsBefore
  refine ⟨by omega, by omega, fun tokens bounded => ?_⟩
  have before := (prior.tokens tokens bounded).2
  obtain ⟨bounds, sum⟩ := fits.tokens (max 0 (tokens - usage.tokens))
    (by simp [remainingExecutionBudget, bounded])
  have unused : noUsage.tokens = 0 := rfl
  simp only [List.map_nil, List.sum_nil] at before
  exact ⟨bounds, by omega⟩

theorem attempts_usage {β : Type} (stepId : β → String) (created : List β) (journal : RunView) :
    (created.foldl (fun journal lease => journal.attempt (stepId lease)) journal).usage =
      journal.usage := by
  induction created generalizing journal with
  | nil => rfl
  | cons lease rest ih => rw [List.foldl_cons, ih]; rfl

theorem runningBudgets_claimed (leases : List (SessionStepProjectionV3 × ExecutionBudget)) :
    runningBudgets (leases.map fun lease =>
      ({ step := lease.1
         budget := lease.2
         phase := .claimed } : Worker)) = leases.map (·.2) := by
  induction leases with
  | nil => rfl
  | cons lease rest ih =>
    rw [List.map_cons, List.map_cons, ← ih]
    rfl

theorem Supervision.leases_fit
    (prior : Fits parent s.journal.usage []) (affordable : Affordable parent s (.claims steps)) :
    Fits parent s.journal.usage ((s.leases parent steps).map (·.2)) := by
  rw [Supervision.leases, allocateBudgetLeases]
  split
  next enough => exact remainingExecutionBudget_fits prior (leaseSteps_fit _ _ (affordable enough))
  next => exact prior

theorem Supervision.leases_given (sensible : ∀ step ∈ steps, Sensible step.budget) :
    ∀ lease ∈ s.leases parent steps, lease.1 ∈ steps ∧
      WithinBudget lease.2 lease.1.budget ∧ Sensible lease.2 := by
  rw [Supervision.leases, allocateBudgetLeases]
  split
  next =>
    refine leaseSteps_given sensible fun tokens bounded => ?_
    obtain ⟨all, _, same⟩ := Option.map_eq_some_iff.mp bounded
    rw [← same]
    exact le_max_left _ _
  next => simp

/-- **One step of the supervisor keeps the invariant**, when the parent can afford it. -/
theorem Supervised.step {event : SupervisorEvent} (sensible : ∀ step ∈ plan, Sensible step.budget)
    (inv : Supervised plan parent s) (affordable : Affordable parent s event)
    (step : Supervises plan parent s event t) : Supervised plan parent t := by
  cases event with
  | claims steps =>
    simp only [Supervises, supervise, Option.ite_none_right_eq_some, Option.some.injEq] at step
    obtain ⟨⟨idle, _, among, _⟩, rfl⟩ := step
    have prior : Fits parent s.journal.usage [] := by
      have fits := inv.fits
      rwa [idle] at fits
    have given := @Supervision.leases_given parent s steps
      fun step member => sensible step (among member)
    refine ⟨?_, fun worker member => ?_⟩
    · rw [attempts_usage, runningBudgets_claimed]
      exact Supervision.leases_fit prior affordable
    · obtain ⟨lease, leased, rfl⟩ := List.mem_map.mp member
      obtain ⟨selected, within, own⟩ := given lease leased
      exact ⟨among selected, within, own⟩
  | works index event =>
    simp only [Supervises, supervise] at step
    cases found : s.workers[index]? with
    | none => simp [found] at step
    | some worker =>
      simp only [found, Option.map_eq_some_iff] at step
      obtain ⟨result, turn, rfl⟩ := step
      have member : worker ∈ s.workers := List.mem_of_getElem? found
      have kept := Worker.turn_keeps sensible (inv.given worker member)
        (inv.fits.perm (Supervision.runningBudgets_perm_others found))
        (affordable worker found) turn
      refine ⟨?_, fun next among => ?_⟩
      · rw [runningBudgets_append]
        exact kept.fits
      · rcases List.mem_append.mp among with made | other
        · exact kept.given next (Option.mem_toList.mp made)
        · exact inv.given next (List.mem_of_mem_eraseIdx other)
  | throws index =>
    simp only [Supervises, supervise, Option.ite_none_right_eq_some, Option.some.injEq] at step
    obtain ⟨inside, rfl⟩ := step
    have found : s.workers[index]? = some s.workers[index] := List.getElem?_eq_getElem inside
    refine ⟨?_, fun worker member => inv.given worker (List.mem_of_mem_eraseIdx member)⟩
    have fits := inv.fits.perm (Supervision.runningBudgets_perm_others found)
    have own := (inv.given _ (List.mem_of_getElem? found)).sensible
    by_cases running : (s.workers[index]).running = true
    · rw [runningBudgets, List.filter_cons_of_pos running] at fits
      exact fits.drop own
    · rw [runningBudgets, List.filter_cons_of_neg running] at fits
      exact fits

theorem Starts.supervised (valid : ∀ step ∈ plan, validBudget step.budget = true)
    (start : Starts plan parent s) (prior : Fits parent s.journal.usage []) :
    Supervised plan parent s where
  fits := by
    by_cases idle : s.workers = []
    · rw [idle]
      exact prior
    · have fits := (budgetsFit_iff _ _ _).mp (start.fit idle)
      have all : s.workers.filter Worker.running = s.workers := by
        refine List.filter_eq_self.mpr fun worker member => ?_
        rw [Worker.running, (start.resumed worker member).2.2]
      rwa [runningBudgets, all]
  given worker member := by
    obtain ⟨among, own, _⟩ := start.resumed worker member
    refine ⟨among, ?_, ?_⟩
    · rw [own]
      exact WithinBudget.refl _
    · rw [own]
      exact sensible_of_valid (valid worker.step among)

/-- **Children never overspend the parent.** In a run that starts with the parent's budget not
overspent, and in which the parent can afford each step, no state is overspent. -/
theorem children_never_overspend {events : List SupervisorEvent}
    (valid : ∀ step ∈ plan, validBudget step.budget = true) (start : Starts plan parent s)
    (prior : Fits parent s.journal.usage [])
    (run : Run (fun s event t => Affordable parent s event ∧ Supervises plan parent s event t)
      s events t) : Underspent parent t := by
  have inv : Supervised plan parent t := by
    refine run.invariant (Supervised plan parent) ?_ (start.supervised valid prior)
    intro s event t inv step
    exact inv.step (fun step member => sensible_of_valid (valid step member)) step.1 step.2
  exact ⟨inv.fits, fun worker member _ => (inv.given worker member).within⟩

end Runs

/-! ## Two steps side by side -/

/-- A step that allows one turn and may be attempted twice. -/
def oneTurnStep (stepId : String) : SessionStepProjectionV3 where
  stepId := stepId
  title := stepId
  order := 0
  dependencies := []
  access :=
    { mode := .readOnly
      paths := [] }
  capabilities := []
  conflictKeys := []
  criteria := []
  budget :=
    { maxTurns := 1
      maxToolCalls := 0
      maxChildRuns := 0
      maxParallelChildren := 0
      maxDepth := 0 }
  maxAttempts := 2
  state := .pending
  attemptIds := []
  errorCode := none
  attempts := []

def twoSteps : List SessionStepProjectionV3 := [oneTurnStep "a", oneTurnStep "b"]

def parentOf (maxTurns : Int) : ExecutionBudget where
  maxTurns := maxTurns
  maxToolCalls := 0
  maxChildRuns := 4
  maxParallelChildren := 2
  maxDepth := 1

/-- Nothing is recorded and no attempt was made. -/
def unstarted : Supervision where
  journal :=
    { usage := noUsage
      attempts := [] }
  workers := []
  rejected := false

theorem unstarted_starts (maxTurns : Int) : Starts twoSteps (parentOf maxTurns) unstarted where
  resumed := by simp [unstarted]
  fit := by simp [unstarted]

variable {maxTurns : Int}

theorem unstarted_fits (positive : 0 ≤ maxTurns) :
    Fits (parentOf maxTurns) unstarted.journal.usage [] where
  turns := positive
  toolCalls := le_refl _
  tokens tokens bounded := by cases bounded

/-- The steps of the supervisor as a function. -/
def supervised (maxTurns : Int) (s : Supervision) (event : SupervisorEvent) : Supervision :=
  (supervise twoSteps (parentOf maxTurns) s event).getD s

theorem run_supervised {Ok : Supervision → SupervisorEvent → Prop} {events : List SupervisorEvent}
    (allowed : Run.Allowed (supervised maxTurns) (fun s event =>
      (supervise twoSteps (parentOf maxTurns) s event).isSome = true ∧ Ok s event) unstarted events) :
    Run (fun s event t => Ok s event ∧ Supervises twoSteps (parentOf maxTurns) s event t) unstarted
      events (events.foldl (supervised maxTurns) unstarted) := by
  refine (Run.of_allowed allowed).mono ?_
  rintro s event t ⟨⟨possible, ok⟩, rfl⟩
  obtain ⟨after, steps⟩ := Option.isSome_iff_exists.mp possible
  refine ⟨ok, ?_⟩
  rw [Supervises, supervised, steps]
  rfl

def oneTurn : BudgetUsage :=
  { noUsage with turns := 1 }

/-- Both steps are executed, and the one that fails is attempted again. -/
def retriedOnce : List SupervisorEvent :=
  [.claims twoSteps, .works 0 .loads, .works 1 .loads,
    .works 0 (.answers ⟨true, oneTurn⟩ false), .works 1 (.answers ⟨false, oneTurn⟩ true)]

theorem Worker.affordable_loads (parent : ExecutionBudget) (journal : RunView) (worker : Worker)
    (others : List ExecutionBudget) (phase : WorkerPhase) :
    worker.Affordable parent journal others phase .loads := by
  cases phase <;> trivial

theorem Worker.affordable_of_succeeded (parent : ExecutionBudget) (journal : RunView)
    (worker : Worker) (others : List ExecutionBudget) (phase : WorkerPhase) {result : AttemptResult}
    {mayRetry : Bool} (succeeded : result.succeeded = true) :
    worker.Affordable parent journal others phase (.answers result mayRetry) := by
  cases phase with
  | executing seen =>
    intro failed
    rw [succeeded] at failed
    cases failed
  | _ => trivial

theorem retry_within_parent :
    (retriedOnce.foldl (supervised 3) unstarted).journal.attempts = ["a", "b", "a"] ∧
      Underspent (parentOf 3) (retriedOnce.foldl (supervised 3) unstarted) := by
  refine ⟨by decide +kernel, children_never_overspend (by decide +kernel) (unstarted_starts 3)
    (unstarted_fits (by decide)) (@run_supervised _ (Affordable (parentOf 3)) _ ?_)⟩
  refine ⟨⟨by decide +kernel, fun _ => ⟨by decide +kernel, by decide +kernel, nofun⟩⟩,
    ⟨by decide +kernel, fun _ _ => Worker.affordable_loads _ _ _ _ _⟩,
    ⟨by decide +kernel, fun _ _ => Worker.affordable_loads _ _ _ _ _⟩,
    ⟨by decide +kernel, fun _ _ => Worker.affordable_of_succeeded _ _ _ _ _ rfl⟩,
    ⟨by decide +kernel, fun worker found => ?_⟩, trivial⟩
  -- the retry fits into the turn that the steps left
  have same : (retriedOnce.dropLast.foldl (supervised 3) unstarted).workers[1]? = some
      ⟨oneTurnStep "a", (oneTurnStep "a").budget, .executing ⟨noUsage, ["a", "b"]⟩⟩ := by
    decide +kernel
  obtain rfl := Option.some_inj.mp (found.symm.trans same)
  exact fun _ _ => ⟨by decide +kernel, nofun, .inl (by decide +kernel), .inl (by decide +kernel), nofun⟩

theorem overspent_by_leases :
    ∃ t, (∀ step ∈ twoSteps, validBudget step.budget = true) ∧
      Starts twoSteps (parentOf 1) unstarted ∧ Fits (parentOf 1) unstarted.journal.usage [] ∧
      Run (Supervises twoSteps (parentOf 1)) unstarted [.claims twoSteps] t ∧
      ¬ Underspent (parentOf 1) t := by
  have possible : Run.Allowed (supervised 1) (fun s event =>
      (supervise twoSteps (parentOf 1) s event).isSome = true ∧ True) unstarted
      [.claims twoSteps] := ⟨⟨by decide +kernel, trivial⟩, trivial⟩
  refine ⟨supervised 1 unstarted (.claims twoSteps), by decide +kernel, unstarted_starts 1,
    unstarted_fits (by decide), (run_supervised possible).mono fun step => step.2, ?_⟩
  intro underspent
  exact absurd underspent.parent.turns (by decide +kernel)

end Praxis.Planner
