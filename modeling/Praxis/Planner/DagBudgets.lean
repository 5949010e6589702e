import Praxis.Session.PlanGraph

/-!
# Budgets of a plan's attempts

What remains of a parent's budget is cut into leases for the steps that are claimed together, and an
attempt that is made again gets what its own usage leaves over. The laws say when the leases fit into
what remains.
-/

namespace Praxis.Planner

set_option autoImplicit false

open Praxis.Session (ExecutionBudget SessionStepProjectionV3)
open Praxis.Session.Plan (validBudget)

/-! ## Usage and budgets -/

structure BudgetUsage where
  turns : Int
  toolCalls : Int
  inputTokens : Option Int := none
  outputTokens : Option Int := none
  subagents : Int
deriving DecidableEq

def BudgetUsage.tokens (usage : BudgetUsage) : Int :=
  usage.inputTokens.getD 0 + usage.outputTokens.getD 0

/-- The sum of two counts of which each may be missing. -/
def addOptional : Option Int → Option Int → Option Int
  | some left, some right => some (left + right)
  | left, none => left
  | none, right => right

/-- Usage that is recorded on top of what has been recorded. -/
def BudgetUsage.add (usage more : BudgetUsage) : BudgetUsage where
  turns := usage.turns + more.turns
  toolCalls := usage.toolCalls + more.toolCalls
  inputTokens := addOptional usage.inputTokens more.inputTokens
  outputTokens := addOptional usage.outputTokens more.outputTokens
  subagents := usage.subagents + more.subagents

def noUsage : BudgetUsage where
  turns := 0
  toolCalls := 0
  subagents := 0

/-- The usage of a child as its parent records it. -/
def parentSubagentUsage (usage : BudgetUsage) : BudgetUsage :=
  { usage with subagents := usage.subagents + 1 }

/-- The usage that stands for a whole budget. -/
def conservativeUsage (budget : ExecutionBudget) : BudgetUsage where
  turns := budget.maxTurns
  toolCalls := budget.maxToolCalls
  inputTokens := budget.maxTokens
  subagents := budget.maxChildRuns

def usageWithinStep (usage : BudgetUsage) (budget : ExecutionBudget) : Bool :=
  decide (usage.turns ≤ budget.maxTurns) && decide (usage.toolCalls ≤ budget.maxToolCalls) &&
    usage.subagents == 0 && budget.maxTokens.all fun maxTokens => decide (usage.tokens ≤ maxTokens)

/-! ## Leases -/

def subtractExecutionBudget (remaining requested : ExecutionBudget) : ExecutionBudget :=
  { remaining with
    maxTurns := max 0 (remaining.maxTurns - requested.maxTurns)
    maxToolCalls := max 0 (remaining.maxToolCalls - requested.maxToolCalls)
    maxTokens := remaining.maxTokens.map fun tokens =>
      max 0 (tokens - requested.maxTokens.getD tokens) }

def remainingExecutionBudget (parent : ExecutionBudget) (usage : BudgetUsage)
    (active : List SessionStepProjectionV3) : ExecutionBudget :=
  active.foldl (fun remaining step => subtractExecutionBudget remaining step.budget)
    { parent with
      maxTurns := max 0 (parent.maxTurns - usage.turns)
      maxToolCalls := max 0 (parent.maxToolCalls - usage.toolCalls)
      maxTokens := parent.maxTokens.map fun tokens => max 0 (tokens - usage.tokens) }

def hasMinimumExecutionBudget (remaining : ExecutionBudget) : Bool :=
  decide (0 < remaining.maxTurns) && remaining.maxTokens.all fun tokens => decide (0 < tokens)

def leaseOf (step : SessionStepProjectionV3) (remaining : ExecutionBudget) (slots : Int) :
    ExecutionBudget :=
  { step.budget with
    maxTurns := min step.budget.maxTurns (max 1 (remaining.maxTurns / slots))
    maxToolCalls := min step.budget.maxToolCalls (max 0 (remaining.maxToolCalls / slots))
    maxTokens := match remaining.maxTokens with
      | none => step.budget.maxTokens
      | some tokens => some (min (step.budget.maxTokens.getD tokens) (max 1 (tokens / slots))) }

/-- The loop of `allocateBudgetLeases`. -/
def leaseSteps : List SessionStepProjectionV3 → ExecutionBudget →
    List (SessionStepProjectionV3 × ExecutionBudget)
  | [], _ => []
  | step :: rest, remaining =>
    let budget := leaseOf step remaining (rest.length + 1)
    if budget.maxTurns < 1 then []
    else (step, budget) :: leaseSteps rest (subtractExecutionBudget remaining budget)

def allocateBudgetLeases (steps : List SessionStepProjectionV3) (available : ExecutionBudget) :
    List (SessionStepProjectionV3 × ExecutionBudget) :=
  if hasMinimumExecutionBudget available then leaseSteps steps available else []

def remainingAttemptBudget (parent : ExecutionBudget) (recorded current : BudgetUsage)
    (ceiling : ExecutionBudget) : ExecutionBudget :=
  { ceiling with
    maxTurns := max 1 (min ceiling.maxTurns (parent.maxTurns - recorded.turns - current.turns))
    maxToolCalls :=
      max 0 (min ceiling.maxToolCalls (parent.maxToolCalls - recorded.toolCalls - current.toolCalls))
    maxTokens := match parent.maxTokens with
      | none => ceiling.maxTokens
      | some tokens => some (max 1 (min (ceiling.maxTokens.getD tokens)
          (tokens - (recorded.tokens + current.tokens)))) }

def hasRemainingRunBudget (parent : ExecutionBudget) (recorded current : BudgetUsage) : Bool :=
  decide (recorded.turns + current.turns < parent.maxTurns) &&
    parent.maxTokens.all fun tokens => decide (recorded.tokens + current.tokens < tokens)

/-- `budgetsFit`. A step without a bound of its tokens does not fit into a parent with one. -/
def budgetsFit (parent : ExecutionBudget) (usage : BudgetUsage) (reservations : List ExecutionBudget) :
    Bool :=
  decide (usage.turns + (reservations.map (·.maxTurns)).sum ≤ parent.maxTurns) &&
    decide (usage.toolCalls + (reservations.map (·.maxToolCalls)).sum ≤ parent.maxToolCalls) &&
    parent.maxTokens.all fun tokens =>
      (reservations.all (·.maxTokens.isSome)) &&
        decide (usage.tokens + (reservations.map (·.maxTokens.getD 0)).sum ≤ tokens)

/-! ## Budgets that fit -/

def tokensOf (budget : ExecutionBudget) : Int := budget.maxTokens.getD 0

/-- Budgets that fit beside what has been used of another one, as a proposition. -/
structure Fits (parent : ExecutionBudget) (usage : BudgetUsage) (budgets : List ExecutionBudget) :
    Prop where
  turns : usage.turns + (budgets.map (·.maxTurns)).sum ≤ parent.maxTurns
  toolCalls : usage.toolCalls + (budgets.map (·.maxToolCalls)).sum ≤ parent.maxToolCalls
  tokens : ∀ tokens, parent.maxTokens = some tokens →
    (∀ budget ∈ budgets, budget.maxTokens.isSome = true) ∧
      usage.tokens + (budgets.map tokensOf).sum ≤ tokens

theorem budgetsFit_iff (parent : ExecutionBudget) (usage : BudgetUsage)
    (budgets : List ExecutionBudget) :
    budgetsFit parent usage budgets = true ↔ Fits parent usage budgets := by
  have parts : budgetsFit parent usage budgets = true ↔
      (usage.turns + (budgets.map (·.maxTurns)).sum ≤ parent.maxTurns ∧
        usage.toolCalls + (budgets.map (·.maxToolCalls)).sum ≤ parent.maxToolCalls) ∧
      ∀ tokens, parent.maxTokens = some tokens →
        (∀ budget ∈ budgets, budget.maxTokens.isSome = true) ∧
          usage.tokens + (budgets.map tokensOf).sum ≤ tokens := by
    have unfolded : tokensOf = fun budget => budget.maxTokens.getD 0 := rfl
    cases bound : parent.maxTokens <;> simp [budgetsFit, bound, unfolded]
  rw [parts]
  exact ⟨fun fits => ⟨fits.1.1, fits.1.2, fits.2⟩,
    fun fits => ⟨⟨fits.turns, fits.toolCalls⟩, fits.tokens⟩⟩

structure WithinBudget (budget ceiling : ExecutionBudget) : Prop where
  turns : budget.maxTurns ≤ ceiling.maxTurns
  toolCalls : budget.maxToolCalls ≤ ceiling.maxToolCalls
  tokens : ∀ tokens, ceiling.maxTokens = some tokens →
    ∃ given, budget.maxTokens = some given ∧ given ≤ tokens

theorem WithinBudget.refl (budget : ExecutionBudget) : WithinBudget budget budget where
  turns := le_refl _
  toolCalls := le_refl _
  tokens tokens bounded := ⟨tokens, bounded, le_refl _⟩

/-- What a budget allows is not negative. -/
structure Sensible (budget : ExecutionBudget) : Prop where
  turns : 0 ≤ budget.maxTurns
  toolCalls : 0 ≤ budget.maxToolCalls
  tokens : ∀ tokens, budget.maxTokens = some tokens → 0 ≤ tokens

variable {budget : ExecutionBudget}

theorem Sensible.tokensOf (sensible : Sensible budget) :
    0 ≤ tokensOf budget := by
  cases bound : budget.maxTokens with
  | none => simp [Planner.tokensOf, bound]
  | some tokens =>
    rw [Planner.tokensOf, bound, Option.getD_some]
    exact sensible.tokens tokens bound

theorem sensible_of_valid (valid : validBudget budget = true) :
    Sensible budget := by
  simp only [validBudget, Bool.and_eq_true] at valid
  obtain ⟨⟨⟨⟨⟨⟨turns, toolCalls⟩, tokens⟩, _⟩, _⟩, _⟩, _⟩ := valid
  simp only [Workflow.nonNegativeInteger, decide_eq_true_eq] at turns toolCalls
  refine ⟨turns.1, toolCalls.1, fun bound bounded => ?_⟩
  rw [bounded, Option.all_some] at tokens
  simp only [Workflow.positiveInteger, decide_eq_true_eq] at tokens
  exact tokens.1.le

/-! ## Leases that fit -/

/-- The steps that get a lease: those before the first that allows no turn. -/
def leasable (steps : List SessionStepProjectionV3) : List SessionStepProjectionV3 :=
  steps.takeWhile fun step => decide (1 ≤ step.budget.maxTurns)

/-- The share of one of some slots, of which as many as get at least the least share fit into what
remains: it leaves the least share to each of the others. -/
theorem share_leaves {least slots count remaining share : Int} (positive : 0 ≤ least)
    (some : 1 ≤ count) (within : count ≤ slots) (enough : least * count ≤ remaining)
    (bounded : share ≤ max least (remaining / slots)) :
    share ≤ remaining ∧ least * (count - 1) ≤ remaining - share := by
  have slotsPositive : 0 < slots := by omega
  have quotient : remaining / slots * slots ≤ remaining := Int.ediv_mul_le _ slotsPositive.ne'
  have whole : least * count = least * (count - 1) + least := by ring
  have others : 0 ≤ least * (count - 1) := mul_nonneg positive (by omega)
  rcases le_total (remaining / slots) least with small | large
  · rw [max_eq_left small] at bounded
    constructor <;> omega
  · rw [max_eq_right large] at bounded
    have split : remaining / slots * slots = remaining / slots * (slots - 1) + remaining / slots := by
      ring
    have more : least * (count - 1) ≤ remaining / slots * (slots - 1) :=
      mul_le_mul large (by omega) (by omega) (positive.trans large)
    constructor <;> omega

/-- What remains allows each of a number of steps a turn, and a token if it bounds them. -/
structure AllowsEach (remaining : ExecutionBudget) (count : Nat) : Prop where
  turns : (count : Int) ≤ remaining.maxTurns
  toolCalls : 0 ≤ remaining.maxToolCalls
  tokens : ∀ tokens, remaining.maxTokens = some tokens → (count : Int) ≤ tokens

section Leases

variable (step : SessionStepProjectionV3) (remaining : ExecutionBudget)

theorem leaseOf_within (slots : Int) : WithinBudget (leaseOf step remaining slots) step.budget where
  turns := min_le_left _ _
  toolCalls := min_le_left _ _
  tokens tokens bounded := by
    cases available : remaining.maxTokens with
    | none => exact ⟨tokens, by simp [leaseOf, available, bounded], le_refl _⟩
    | some left =>
      refine ⟨min tokens (max 1 (left / slots)), ?_, min_le_left _ _⟩
      simp [leaseOf, available, bounded]

theorem leaseOf_sensible {slots : Int} (sensible : Sensible step.budget)
    (left : ∀ tokens, remaining.maxTokens = some tokens → 0 ≤ tokens) :
    Sensible (leaseOf step remaining slots) where
  turns := le_min sensible.turns (zero_le_one.trans (le_max_left _ _))
  toolCalls := le_min sensible.toolCalls (le_max_left _ _)
  tokens tokens bounded := by
    cases available : remaining.maxTokens with
    | none =>
      simp only [leaseOf, available] at bounded
      exact sensible.tokens tokens bounded
    | some all =>
      simp only [leaseOf, available, Option.some.injEq] at bounded
      rw [← bounded]
      refine le_min ?_ (zero_le_one.trans (le_max_left _ _))
      cases own : step.budget.maxTokens with
      | none => exact left all available
      | some limit => exact sensible.tokens limit own

theorem leaseOf_leaves {count slots : Nat} (within : count + 1 ≤ slots)
    (enough : AllowsEach remaining (count + 1)) :
    AllowsEach (subtractExecutionBudget remaining (leaseOf step remaining slots)) count ∧
      (leaseOf step remaining slots).maxTurns +
          (subtractExecutionBudget remaining (leaseOf step remaining slots)).maxTurns =
        remaining.maxTurns ∧
      (leaseOf step remaining slots).maxToolCalls +
          (subtractExecutionBudget remaining (leaseOf step remaining slots)).maxToolCalls =
        remaining.maxToolCalls ∧
      ∀ tokens, remaining.maxTokens = some tokens → ∃ given left,
        (leaseOf step remaining slots).maxTokens = some given ∧
          (subtractExecutionBudget remaining (leaseOf step remaining slots)).maxTokens = some left ∧
          given + left = tokens := by
  have counted : (1 : Int) ≤ (count : Int) + 1 := by omega
  have slotted : (count : Int) + 1 ≤ (slots : Int) := by exact_mod_cast within
  have turns := @share_leaves 1 slots (count + 1) remaining.maxTurns _ (by omega) counted slotted
    (by simpa using enough.turns) (min_le_right step.budget.maxTurns _)
  have toolCalls := @share_leaves 0 slots (count + 1) remaining.maxToolCalls _ (le_refl _) counted
    slotted (by simpa using enough.toolCalls) (min_le_right step.budget.maxToolCalls _)
  have tokens : ∀ tokens, remaining.maxTokens = some tokens → ∃ given,
      (leaseOf step remaining slots).maxTokens = some given ∧ given ≤ tokens ∧
        (count : Int) ≤ tokens - given := by
    intro tokens bounded
    have shared := @share_leaves 1 slots (count + 1) tokens _ (by omega) counted slotted
      (by simpa using enough.tokens tokens bounded)
      (min_le_right (step.budget.maxTokens.getD tokens) _)
    refine ⟨_, by simp [leaseOf, bounded], shared.1, ?_⟩
    have rest := shared.2
    rwa [add_sub_cancel_right, one_mul] at rest
  have turnsLeft : (subtractExecutionBudget remaining (leaseOf step remaining slots)).maxTurns =
      remaining.maxTurns - (leaseOf step remaining slots).maxTurns :=
    max_eq_right (sub_nonneg.mpr turns.1)
  have toolCallsLeft :
      (subtractExecutionBudget remaining (leaseOf step remaining slots)).maxToolCalls =
        remaining.maxToolCalls - (leaseOf step remaining slots).maxToolCalls :=
    max_eq_right (sub_nonneg.mpr toolCalls.1)
  have tokensLeft : ∀ tokens given, remaining.maxTokens = some tokens →
      (leaseOf step remaining slots).maxTokens = some given → given ≤ tokens →
        (subtractExecutionBudget remaining (leaseOf step remaining slots)).maxTokens =
          some (tokens - given) := by
    intro tokens given bounded leased fits
    simp only [subtractExecutionBudget, bounded, leased, Option.map_some, Option.getD_some]
    rw [max_eq_right (sub_nonneg.mpr fits)]
  refine ⟨⟨?_, ?_, fun left leftOver => ?_⟩, by omega, by omega, fun all bounded => ?_⟩
  · rw [turnsLeft]
    have rest := turns.2
    rwa [add_sub_cancel_right, one_mul] at rest
  · rw [toolCallsLeft]
    exact sub_nonneg.mpr toolCalls.1
  · cases bounded : remaining.maxTokens with
    | none => simp [subtractExecutionBudget, bounded] at leftOver
    | some all =>
      obtain ⟨given, leased, fits, room⟩ := tokens all bounded
      rw [tokensLeft all given bounded leased fits, Option.some.injEq] at leftOver
      omega
  · obtain ⟨given, leased, fits, _⟩ := tokens all bounded
    exact ⟨given, all - given, leased, tokensLeft all given bounded leased fits, by omega⟩

end Leases

/-- **Leases fit into what remains.** When what remains allows each step that gets a lease a turn,
and a token if it bounds them, the leases together are no more than what remains. -/
theorem leaseSteps_fit (steps : List SessionStepProjectionV3) (remaining : ExecutionBudget)
    (enough : AllowsEach remaining (leasable steps).length) :
    Fits remaining noUsage ((leaseSteps steps remaining).map (·.2)) := by
  induction steps generalizing remaining with
  | nil =>
    refine ⟨?_, ?_, fun tokens bounded => ⟨by simp [leaseSteps], ?_⟩⟩
    · simpa [leaseSteps, noUsage, leasable] using enough.turns
    · simpa [leaseSteps, noUsage] using enough.toolCalls
    · simpa [leaseSteps, noUsage, leasable, BudgetUsage.tokens] using enough.tokens tokens bounded
  | cons step rest ih =>
    by_cases allowed : 1 ≤ step.budget.maxTurns
    · have counted : (leasable (step :: rest)).length = (leasable rest).length + 1 := by
        simp [leasable, allowed]
      rw [counted] at enough
      have within : (leasable rest).length + 1 ≤ rest.length + 1 :=
        Nat.add_le_add_right (List.takeWhile_prefix _).length_le 1
      obtain ⟨left, turns, toolCalls, tokens⟩ := leaseOf_leaves step remaining within enough
      simp only [Nat.cast_add, Nat.cast_one] at left turns toolCalls tokens
      have fit := ih _ left
      have leased : ¬ (leaseOf step remaining (rest.length + 1)).maxTurns < 1 :=
        not_lt.mpr (le_min allowed (le_max_left _ _))
      simp only [leaseSteps, leased, ↓reduceIte, List.map_cons]
      refine ⟨?_, ?_, fun all bounded => ?_⟩
      · have rest := fit.turns
        simp only [noUsage, List.map_cons, List.sum_cons] at rest ⊢
        omega
      · have rest := fit.toolCalls
        simp only [noUsage, List.map_cons, List.sum_cons] at rest ⊢
        omega
      · obtain ⟨given, spare, own, leftOver, whole⟩ := tokens all bounded
        obtain ⟨bounds, sum⟩ := fit.tokens spare leftOver
        refine ⟨fun budget member => ?_, ?_⟩
        · rcases List.mem_cons.mp member with rfl | later
          · rw [own, Option.isSome_some]
          · exact bounds budget later
        · have first : tokensOf (leaseOf step remaining (rest.length + 1)) = given := by
            rw [tokensOf, own, Option.getD_some]
          rw [List.map_cons, List.sum_cons, first]
          omega
    · have none : (leaseOf step remaining (rest.length + 1)).maxTurns < 1 :=
        lt_of_le_of_lt (min_le_left _ _) (not_le.mp allowed)
      simp only [leaseSteps, none, ↓reduceIte, List.map_nil]
      have empty : leasable (step :: rest) = [] := by simp [leasable, allowed]
      rw [empty] at enough
      refine ⟨?_, ?_, fun tokens bounded => ⟨by simp, ?_⟩⟩
      · simpa [noUsage] using enough.turns
      · simpa [noUsage] using enough.toolCalls
      · simpa [noUsage, BudgetUsage.tokens] using enough.tokens tokens bounded

theorem leaseSteps_given {steps : List SessionStepProjectionV3} {remaining : ExecutionBudget}
    (sensible : ∀ step ∈ steps, Sensible step.budget)
    (left : ∀ tokens, remaining.maxTokens = some tokens → 0 ≤ tokens) :
    ∀ lease ∈ leaseSteps steps remaining, lease.1 ∈ steps ∧
      WithinBudget lease.2 lease.1.budget ∧ Sensible lease.2 := by
  induction steps generalizing remaining with
  | nil => simp [leaseSteps]
  | cons step rest ih =>
    intro lease member
    simp only [leaseSteps] at member
    split at member
    · exact absurd member List.not_mem_nil
    · rcases List.mem_cons.mp member with rfl | later
      · exact ⟨List.mem_cons_self, leaseOf_within step remaining _,
          leaseOf_sensible step remaining (sensible step List.mem_cons_self) left⟩
      · have leftOver : ∀ tokens,
            (subtractExecutionBudget remaining (leaseOf step remaining (rest.length + 1))).maxTokens
              = some tokens → 0 ≤ tokens := by
          intro tokens bounded
          obtain ⟨all, _, same⟩ := Option.map_eq_some_iff.mp bounded
          rw [← same]
          exact le_max_left _ _
        obtain ⟨among, within, given⟩ :=
          ih (fun step member => sensible step (List.mem_cons_of_mem _ member)) leftOver lease later
        exact ⟨List.mem_cons_of_mem _ among, within, given⟩

/-! ## Budgets that come and go -/

theorem tokens_add (usage more : BudgetUsage) :
    (usage.add more).tokens = usage.tokens + more.tokens := by
  rcases usage with ⟨_, _, _ | _, _ | _, _⟩ <;> rcases more with ⟨_, _, _ | _, _ | _, _⟩ <;>
    simp [BudgetUsage.add, BudgetUsage.tokens, addOptional] <;> omega

theorem tokens_parentSubagentUsage (usage : BudgetUsage) :
    (parentSubagentUsage usage).tokens = usage.tokens := rfl

namespace Fits

variable {parent budget : ExecutionBudget} {usage used : BudgetUsage}
  {budgets others : List ExecutionBudget}

theorem perm (fits : Fits parent usage budgets) (same : budgets.Perm others) :
    Fits parent usage others where
  turns := (same.map (·.maxTurns)).sum_eq ▸ fits.turns
  toolCalls := (same.map (·.maxToolCalls)).sum_eq ▸ fits.toolCalls
  tokens tokens bounded := by
    obtain ⟨bounds, sum⟩ := fits.tokens tokens bounded
    exact ⟨fun budget member => bounds budget (same.mem_iff.mpr member),
      (same.map tokensOf).sum_eq ▸ sum⟩

theorem drop (fits : Fits parent usage (budget :: others)) (sensible : Sensible budget) :
    Fits parent usage others where
  turns := by
    have before := fits.turns
    have positive := sensible.turns
    simp only [List.map_cons, List.sum_cons] at before
    omega
  toolCalls := by
    have before := fits.toolCalls
    have positive := sensible.toolCalls
    simp only [List.map_cons, List.sum_cons] at before
    omega
  tokens tokens bounded := by
    obtain ⟨bounds, sum⟩ := fits.tokens tokens bounded
    have positive := sensible.tokensOf
    simp only [List.map_cons, List.sum_cons] at sum
    exact ⟨fun budget member => bounds budget (List.mem_cons_of_mem _ member), by omega⟩

theorem spend (fits : Fits parent usage (budget :: others)) (turns : used.turns ≤ budget.maxTurns)
    (toolCalls : used.toolCalls ≤ budget.maxToolCalls)
    (tokens : ∀ tokens, budget.maxTokens = some tokens → used.tokens ≤ tokens) :
    Fits parent (usage.add (parentSubagentUsage used)) others where
  turns := by
    have before := fits.turns
    simp only [List.map_cons, List.sum_cons] at before
    simp only [BudgetUsage.add, parentSubagentUsage]
    omega
  toolCalls := by
    have before := fits.toolCalls
    simp only [List.map_cons, List.sum_cons] at before
    simp only [BudgetUsage.add, parentSubagentUsage]
    omega
  tokens limit bounded := by
    obtain ⟨bounds, sum⟩ := fits.tokens limit bounded
    obtain ⟨given, own⟩ := Option.isSome_iff_exists.mp (bounds budget List.mem_cons_self)
    have within := tokens given own
    simp only [List.map_cons, List.sum_cons, tokensOf, own, Option.getD_some] at sum
    rw [tokens_add, tokens_parentSubagentUsage]
    exact ⟨fun budget member => bounds budget (List.mem_cons_of_mem _ member), by omega⟩

end Fits

theorem spend_of_usageWithinStep {usage : BudgetUsage}
    (within : usageWithinStep usage budget = true) :
    usage.turns ≤ budget.maxTurns ∧ usage.toolCalls ≤ budget.maxToolCalls ∧
      ∀ tokens, budget.maxTokens = some tokens → usage.tokens ≤ tokens := by
  simp only [usageWithinStep, Bool.and_eq_true, decide_eq_true_eq] at within
  obtain ⟨⟨⟨turns, toolCalls⟩, _⟩, tokens⟩ := within
  refine ⟨turns, toolCalls, fun limit bounded => ?_⟩
  rw [bounded, Option.all_some, decide_eq_true_eq] at tokens
  exact tokens

theorem spend_conservative (budget : ExecutionBudget) :
    (conservativeUsage budget).turns ≤ budget.maxTurns ∧
      (conservativeUsage budget).toolCalls ≤ budget.maxToolCalls ∧
      ∀ tokens, budget.maxTokens = some tokens → (conservativeUsage budget).tokens ≤ tokens := by
  refine ⟨le_refl _, le_refl _, fun tokens bounded => ?_⟩
  simp [conservativeUsage, BudgetUsage.tokens, bounded]

/-! ## Attempts made again -/

/-- **When the budget of an attempt that is made again fits.** The step allows a turn, and a token
if the parent bounds them. In each of turns, tool calls and tokens either all that the step allows
still fits beside what is recorded, what the attempt used and what the other attempts hold, or the
others hold nothing and nothing was recorded since the attempt's projection was loaded. -/
structure RetryFits (parent : ExecutionBudget) (seen recorded current : BudgetUsage)
    (ceiling : ExecutionBudget) (others : List ExecutionBudget) : Prop where
  oneTurn : 1 ≤ ceiling.maxTurns
  oneToken : ∀ tokens, parent.maxTokens = some tokens → 1 ≤ ceiling.maxTokens.getD tokens
  turns : recorded.turns + current.turns + ceiling.maxTurns + (others.map (·.maxTurns)).sum ≤
      parent.maxTurns ∨
    recorded.turns = seen.turns ∧ (others.map (·.maxTurns)).sum = 0
  toolCalls : recorded.toolCalls + current.toolCalls + ceiling.maxToolCalls +
      (others.map (·.maxToolCalls)).sum ≤ parent.maxToolCalls ∨
    recorded.toolCalls = seen.toolCalls ∧ (others.map (·.maxToolCalls)).sum = 0
  tokens : ∀ tokens, parent.maxTokens = some tokens →
    recorded.tokens + current.tokens + ceiling.maxTokens.getD tokens +
        (others.map tokensOf).sum ≤ tokens ∨
      recorded.tokens = seen.tokens ∧ (others.map tokensOf).sum = 0

section Retries

variable {parent ceiling : ExecutionBudget} {seen recorded current : BudgetUsage}
  {others : List ExecutionBudget}

theorem remainingAttemptBudget_within (sensible : Sensible ceiling) (oneTurn : 1 ≤ ceiling.maxTurns)
    (oneToken : ∀ tokens, parent.maxTokens = some tokens → 1 ≤ ceiling.maxTokens.getD tokens) :
    WithinBudget (remainingAttemptBudget parent seen current ceiling) ceiling where
  turns := max_le oneTurn (min_le_left _ _)
  toolCalls := max_le sensible.toolCalls (min_le_left _ _)
  tokens tokens bounded := by
    cases limited : parent.maxTokens with
    | none => exact ⟨tokens, by simp [remainingAttemptBudget, limited, bounded], le_refl _⟩
    | some limit =>
      have positive := oneToken limit limited
      rw [bounded, Option.getD_some] at positive
      refine ⟨max 1 (min tokens (limit - (seen.tokens + current.tokens))), ?_,
        max_le positive (min_le_left _ _)⟩
      simp [remainingAttemptBudget, limited, bounded]

theorem remainingAttemptBudget_sensible (sensible : Sensible ceiling) :
    Sensible (remainingAttemptBudget parent seen current ceiling) where
  turns := zero_le_one.trans (le_max_left _ _)
  toolCalls := le_max_left _ _
  tokens tokens bounded := by
    cases limited : parent.maxTokens with
    | none =>
      simp only [remainingAttemptBudget, limited] at bounded
      exact sensible.tokens tokens bounded
    | some limit =>
      simp only [remainingAttemptBudget, limited, Option.some.injEq] at bounded
      rw [← bounded]
      exact zero_le_one.trans (le_max_left _ _)

theorem remainingAttemptBudget_fits (sensible : Sensible ceiling)
    (before : Fits parent (recorded.add current) others)
    (left : hasRemainingRunBudget parent recorded current = true)
    (retry : RetryFits parent seen recorded current ceiling others) :
    Fits parent (recorded.add current)
      (remainingAttemptBudget parent seen current ceiling :: others) := by
  simp only [hasRemainingRunBudget, Bool.and_eq_true, decide_eq_true_eq] at left
  refine ⟨?_, ?_, fun tokens bounded => ?_⟩
  · have oneTurn := retry.oneTurn
    have room := retry.turns
    have turnLeft := left.1
    simp only [remainingAttemptBudget, BudgetUsage.add, List.map_cons, List.sum_cons]
    omega
  · have room := retry.toolCalls
    have positive := sensible.toolCalls
    have within := before.toolCalls
    simp only [BudgetUsage.add] at within
    simp only [remainingAttemptBudget, BudgetUsage.add, List.map_cons, List.sum_cons]
    omega
  · obtain ⟨bounds, _⟩ := before.tokens tokens bounded
    have oneToken := retry.oneToken tokens bounded
    have room := retry.tokens tokens bounded
    have tokenLeft := left.2
    rw [bounded, Option.all_some, decide_eq_true_eq] at tokenLeft
    refine ⟨fun budget member => ?_, ?_⟩
    · rcases List.mem_cons.mp member with rfl | other
      · simp [remainingAttemptBudget, bounded]
      · exact bounds budget other
    · have given : tokensOf (remainingAttemptBudget parent seen current ceiling) =
          max 1 (min (ceiling.maxTokens.getD tokens) (tokens - (seen.tokens + current.tokens))) := by
        simp [tokensOf, remainingAttemptBudget, bounded]
      rw [tokens_add, List.map_cons, List.sum_cons, given]
      omega

end Retries

end Praxis.Planner
