import Praxis.Durable.WellFormed

/-!
# Events applied in a row

The events of a transaction as a fold of their data. `apply_envelopes` removes the envelopes;
the inversion lemmas say what each kind of event in such a fold requires and makes. What
every accepted event keeps is said once (`Persists`): attempts are never removed, and
attempts and workflows only move along their transitions.
-/

namespace Praxis.Workflow

set_option autoImplicit false

open Praxis.Foundations

/-! ## Folding data -/

def Applies (current : WorkflowProjectionV1) (data : List WorkflowEventDataV1)
    (next : WorkflowProjectionV1) : Prop :=
  data.foldlM applyWorkflowEventDataV1 current = .ok next

section Folding

variable {current next : WorkflowProjectionV1} {data more : List WorkflowEventDataV1}

theorem applies_nil : Applies current [] next ↔ next = current := by
  rw [Applies, foldlM_nil_eq_ok]
  exact eq_comm

variable {event : WorkflowEventDataV1}

theorem applies_cons : Applies current (event :: data) next ↔
      ∃ middle, WorkflowEventEffect current event middle ∧ Applies middle data next := by
  simp only [Applies, foldlM_cons_eq_ok, applyWorkflowEventDataV1_iff]

theorem applies_singleton :
    Applies current [event] next ↔ WorkflowEventEffect current event next := by
  simp [applies_cons, applies_nil]

theorem applies_append :
    Applies current (data ++ more) next ↔
      ∃ middle, Applies current data middle ∧ Applies middle more next := by
  simp only [Applies, foldlM_append_eq_ok]

def WorkflowProjectionV1.restamped (current : WorkflowProjectionV1) (sequence : Nat)
    (updatedAt : Timestamp) : WorkflowProjectionV1 :=
  { current with sequence, updatedAt }

section

variable (effect : WorkflowEventEffect current event next)
include effect

theorem WorkflowEventEffect.restamped (sequence : Nat) (updatedAt : Timestamp)
    (first : ∀ spec, event = .workflowCreated spec → sequence = 0) :
    WorkflowEventEffect (current.restamped sequence updatedAt) event
      (next.restamped sequence updatedAt) := by
  cases effect with
  | created _ same => exact .created (first _ rfl) same
  | announced announces legal =>
    refine .announced ?_ legal
    cases event <;> exact announces
  | recorded only => exact .recorded only
  | topologyChanged => exact .topologyChanged
  | budgetCharged => exact .budgetCharged
  | graphPatched valid revision budget => exact .graphPatched valid revision budget
  | taskAdmitted request digest newNode newAttempt owner ordinal valid =>
    exact .taskAdmitted request digest newNode newAttempt owner ordinal valid
  | nodeChanged present legal => exact .nodeChanged present legal
  | attemptCreated newAttempt present ordinal =>
    have created : WorkflowEventEffect (current.restamped sequence updatedAt) _ _ :=
      .attemptCreated newAttempt present ordinal
    exact created
  | attemptChanged present legal => exact .attemptChanged present legal

theorem WorkflowEventEffect.same_sequence :
    next.sequence = current.sequence := by
  cases effect <;> rfl

theorem WorkflowEventEffect.state_eq
    (silent : ∀ projection, event.announces projection = none) : next.state = current.state := by
  cases effect with
  | announced announces =>
    rw [silent] at announces
    cases announces
  | created => rfl
  | recorded => rfl
  | topologyChanged => rfl
  | budgetCharged => rfl
  | graphPatched => rfl
  | taskAdmitted => rfl
  | nodeChanged => rfl
  | attemptCreated => rfl
  | attemptChanged => rfl

end

theorem Applies.state_eq (applies : Applies current data next)
    (silent : ∀ event ∈ data, ∀ projection, event.announces projection = none) :
    next.state = current.state := by
  induction data generalizing current with
  | nil =>
    rw [applies_nil] at applies
    rw [applies]
  | cons event rest ih =>
    obtain ⟨middle, effect, others⟩ := applies_cons.mp applies
    obtain ⟨here, later⟩ := List.forall_mem_cons.mp silent
    exact (ih others later).trans (effect.state_eq here)

theorem Applies.not_created (applies : Applies current data next) (later : 0 < current.sequence)
    (spec : WorkflowSpecV1) : .workflowCreated spec ∉ data := by
  induction data generalizing current with
  | nil => simp
  | cons event rest ih =>
    obtain ⟨middle, effect, others⟩ := applies_cons.mp applies
    have sequence := effect.same_sequence
    simp only [List.mem_cons, not_or]
    refine ⟨?_, ih others (by omega)⟩
    rintro rfl
    cases effect with
    | created first => omega
    | announced announces => cases announces
    | recorded only => cases only

theorem Applies.restamped (applies : Applies current data next) (sequence : Nat)
    (updatedAt : Timestamp) (first : ∀ spec, .workflowCreated spec ∈ data → sequence = 0) :
    Applies (current.restamped sequence updatedAt) data (next.restamped sequence updatedAt) := by
  induction data generalizing current with
  | nil =>
    rw [applies_nil] at applies ⊢
    rw [applies]
  | cons event rest ih =>
    obtain ⟨middle, effect, others⟩ := applies_cons.mp applies
    refine applies_cons.mpr ⟨_, effect.restamped sequence updatedAt ?_, ih others ?_⟩
    · rintro spec rfl
      exact first spec (List.mem_cons_self ..)
    · exact fun spec member => first spec (List.mem_cons_of_mem _ member)

theorem applies_of_events {events : List WorkflowEventV1}
    (accepted : events.foldlM applyWorkflowEventV1 current = .ok next) :
    ∃ content, Applies current (events.map (·.data)) content ∧
      next = content.restamped next.sequence next.updatedAt := by
  induction events generalizing current with
  | nil =>
    obtain rfl := foldlM_nil_eq_ok.mp accepted
    exact ⟨current, applies_nil.mpr rfl, rfl⟩
  | cons event rest ih =>
    obtain ⟨middle, step, others⟩ := foldlM_cons_eq_ok.mp accepted
    obtain ⟨envelope, content, effect, rfl⟩ := applyWorkflowEventV1_iff.mp step
    obtain ⟨final, applies, same⟩ := ih others
    -- The rest applies to the unstamped projection as well.
    have later : 0 < (content.stamped event).sequence := by
      rw [WorkflowProjectionV1.stamped_sequence, envelope.sequence]
      omega
    have unstamped := applies.restamped content.sequence content.updatedAt fun spec member =>
      absurd member (applies.not_created later spec)
    refine ⟨_, applies_cons.mpr ⟨content, effect, unstamped⟩, ?_⟩
    rw [same]
    rfl

end Folding

/-! ## One event at a time -/

section Inversion

variable {current next : WorkflowProjectionV1}

theorem effect_nodeChanged {change : NodeStateChangedV1} :
    WorkflowEventEffect current (.nodeStateChanged change) next ↔
      (∃ node ∈ current.nodes, node.nodeId = change.nodeId) ∧
        (∀ node ∈ current.nodes, node.nodeId = change.nodeId →
          change.state ∈ nodeTransitions node.state) ∧
        next = current.nodeChanged change := by
  constructor
  · intro effect
    cases effect with
    | announced announces => cases announces
    | recorded only => cases only
    | nodeChanged present legal => exact ⟨present, legal, rfl⟩
  · rintro ⟨present, legal, rfl⟩
    exact .nodeChanged present legal

theorem effect_attemptChanged {change : AttemptStateChangedV1} :
    WorkflowEventEffect current (.attemptStateChanged change) next ↔
      (∃ attempt ∈ current.attempts, attempt.attemptId = change.attemptId) ∧
        (∀ attempt ∈ current.attempts, attempt.attemptId = change.attemptId →
          change.state ∈ attemptTransitions attempt.state) ∧
        next = current.attemptChanged change := by
  constructor
  · intro effect
    cases effect with
    | announced announces => cases announces
    | recorded only => cases only
    | attemptChanged present legal => exact ⟨present, legal, rfl⟩
  · rintro ⟨present, legal, rfl⟩
    exact .attemptChanged present legal

theorem effect_attemptCreated {attempt : WorkflowAttemptProjectionV1} :
    WorkflowEventEffect current (.attemptCreated attempt) next ↔
      (∀ other ∈ current.attempts, other.attemptId ≠ attempt.attemptId) ∧
        (∃ node, findNode? current.nodes attempt.nodeId = some node ∧
          attempt.ordinal = node.attemptIds.length + 1) ∧
        next = current.attemptCreated attempt := by
  constructor
  · intro effect
    cases effect with
    | announced announces => cases announces
    | recorded only => cases only
    | attemptCreated newAttempt present ordinal =>
      exact ⟨newAttempt, ⟨_, present, ordinal⟩, rfl⟩
  · rintro ⟨newAttempt, ⟨_, present, ordinal⟩, rfl⟩
    exact .attemptCreated newAttempt present ordinal

theorem effect_graphPatched {spec : WorkflowSpecV1} :
    WorkflowEventEffect current (.graphPatched spec) next ↔
      validateWorkflowSpecV1 spec = .ok spec ∧ spec.revision = current.revision + 1 ∧
        (current.graphMutations : Int) < current.spec.maxGraphMutations ∧
        next = current.graphPatched spec := by
  constructor
  · intro effect
    cases effect with
    | announced announces => cases announces
    | recorded only => cases only
    | graphPatched valid revision budget => exact ⟨valid, revision, budget, rfl⟩
  · rintro ⟨valid, revision, budget, rfl⟩
    exact .graphPatched valid revision budget

theorem effect_announced {event : WorkflowEventDataV1} {state : WorkflowStateV1}
    {code : Option String} (announces : event.announces current = some (state, code)) :
    WorkflowEventEffect current event next ↔
      state ∈ workflowTransitions current.state ∧ next = current.announced state code := by
  constructor
  · intro effect
    cases effect with
    | announced announced legal =>
      obtain ⟨rfl, rfl⟩ := Prod.mk.inj (Option.mem_unique announces announced)
      exact ⟨legal, rfl⟩
    | recorded only => cases event <;> cases announces <;> cases only
    | _ => cases announces
  · rintro ⟨legal, rfl⟩
    exact .announced announces legal

end Inversion

/-! ## What every event keeps -/

/-- States that an attempt may reach along its transitions. -/
def attemptLeads : WorkflowAttemptStateV1 → WorkflowAttemptStateV1 → Prop :=
  Relation.ReflTransGen fun before after => after ∈ attemptTransitions before

/-- States that a workflow may reach along its transitions. -/
def workflowLeads : WorkflowStateV1 → WorkflowStateV1 → Prop :=
  Relation.ReflTransGen fun before after => after ∈ workflowTransitions before

theorem leads_mem {α : Type} {transitions : α → List α} {states : List α}
    (closed : ∀ before ∈ states, ∀ after ∈ transitions before, after ∈ states) {first last : α}
    (leads : Relation.ReflTransGen (fun before after => after ∈ transitions before) first last)
    (inside : first ∈ states) : last ∈ states := by
  induction leads with
  | refl => exact inside
  | tail _ step ih => exact closed _ ih _ step

/-- A later state of an attempt. -/
structure AttemptFollows (before after : WorkflowAttemptProjectionV1) : Prop where
  attemptId : after.attemptId = before.attemptId
  nodeId : after.nodeId = before.nodeId
  ordinal : after.ordinal = before.ordinal
  state : attemptLeads before.state after.state

/-- What becomes of a projection under accepted events. -/
structure Persists (before after : WorkflowProjectionV1) : Prop where
  identity : after.workflowId = before.workflowId ∧ after.runId = before.runId ∧
    after.sessionId = before.sessionId
  attempts : ∀ attemptId old, findAttempt? before.attempts attemptId = some old →
    ∃ new, findAttempt? after.attempts attemptId = some new ∧ AttemptFollows old new
  state : workflowLeads before.state after.state

section Persistence

variable {before middle after : WorkflowProjectionV1} {attemptId : String}
  {attempt : WorkflowAttemptProjectionV1}

theorem AttemptFollows.refl (attempt : WorkflowAttemptProjectionV1) :
    AttemptFollows attempt attempt :=
  ⟨rfl, rfl, rfl, .refl⟩

theorem AttemptFollows.trans {a b c : WorkflowAttemptProjectionV1} (first : AttemptFollows a b)
    (second : AttemptFollows b c) : AttemptFollows a c :=
  ⟨second.attemptId.trans first.attemptId, second.nodeId.trans first.nodeId,
    second.ordinal.trans first.ordinal, first.state.trans second.state⟩

theorem Persists.refl (projection : WorkflowProjectionV1) : Persists projection projection :=
  ⟨⟨rfl, rfl, rfl⟩, fun _ old found => ⟨old, found, .refl old⟩, .refl⟩

theorem Persists.trans (first : Persists before middle) (second : Persists middle after) :
    Persists before after where
  identity := by
    obtain ⟨workflowId, runId, sessionId⟩ := first.identity
    obtain ⟨workflowId', runId', sessionId'⟩ := second.identity
    exact ⟨workflowId'.trans workflowId, runId'.trans runId, sessionId'.trans sessionId⟩
  attempts := fun attemptId old found => by
    obtain ⟨new, there, follows⟩ := first.attempts attemptId old found
    obtain ⟨newest, last, follows'⟩ := second.attempts attemptId new there
    exact ⟨newest, last, follows.trans follows'⟩
  state := first.state.trans second.state

theorem findAttempt?_changeAttempt (attempts : List WorkflowAttemptProjectionV1)
    (change : AttemptStateChangedV1) (attemptId : String) :
    findAttempt? (changeAttempt attempts change) attemptId =
      (findAttempt? attempts attemptId).map fun attempt =>
        if attempt.attemptId = change.attemptId then attempt.change change else attempt := by
  induction attempts with
  | nil => rfl
  | cons attempt rest ih =>
    rw [changeAttempt, List.map_cons, findAttempt?, List.find?_cons]
    have same : (if attempt.attemptId = change.attemptId then attempt.change change
        else attempt).attemptId = attempt.attemptId := by
      split <;> rfl
    rw [same, findAttempt?, List.find?_cons]
    split
    · rfl
    · exact ih

theorem findAttempt?_mem {attempts : List WorkflowAttemptProjectionV1}
    (found : findAttempt? attempts attemptId = some attempt) :
    attempt ∈ attempts ∧ attempt.attemptId = attemptId :=
  ⟨List.mem_of_find?_eq_some found, by simpa using List.find?_some found⟩

theorem findAttempt?_append {attempts more : List WorkflowAttemptProjectionV1}
    (found : findAttempt? attempts attemptId = some attempt) :
    findAttempt? (attempts ++ more) attemptId = some attempt := by
  rw [findAttempt?, List.find?_append]
  rw [findAttempt?] at found
  rw [found]
  rfl

theorem Persists.of_same
    (identity : after.workflowId = before.workflowId ∧ after.runId = before.runId ∧
      after.sessionId = before.sessionId)
    (attempts : after.attempts = before.attempts) (state : after.state = before.state) :
    Persists before after where
  identity := identity
  attempts := fun _ old found => ⟨old, attempts ▸ found, .refl old⟩
  state := state ▸ .refl

/-- **Every accepted event lets the attempts and the workflow persist.** -/
theorem WorkflowEventEffect.persists {data : WorkflowEventDataV1}
    (effect : WorkflowEventEffect before data after) : Persists before after := by
  cases effect with
  | created => exact .refl before
  | announced _ legal =>
    exact ⟨⟨rfl, rfl, rfl⟩, fun _ old found => ⟨old, found, .refl old⟩, .single legal⟩
  | recorded => exact .refl before
  | topologyChanged => exact .of_same ⟨rfl, rfl, rfl⟩ rfl rfl
  | budgetCharged => exact .of_same ⟨rfl, rfl, rfl⟩ rfl rfl
  | graphPatched => exact .of_same ⟨rfl, rfl, rfl⟩ rfl rfl
  | taskAdmitted =>
    exact ⟨⟨rfl, rfl, rfl⟩, fun _ old found => ⟨old, findAttempt?_append found, .refl old⟩,
      .refl⟩
  | nodeChanged => exact .of_same ⟨rfl, rfl, rfl⟩ rfl rfl
  | attemptCreated =>
    exact ⟨⟨rfl, rfl, rfl⟩, fun _ old found => ⟨old, findAttempt?_append found, .refl old⟩,
      .refl⟩
  | @attemptChanged change present legal =>
    refine ⟨⟨rfl, rfl, rfl⟩, fun attemptId old found => ?_, .refl⟩
    rw [WorkflowProjectionV1.attemptChanged_attempts, findAttempt?_changeAttempt, found]
    obtain ⟨member, _⟩ := findAttempt?_mem found
    refine ⟨_, rfl, ?_⟩
    by_cases changed : old.attemptId = change.attemptId
    · simp only [if_pos changed]
      exact ⟨rfl, rfl, rfl, .single (legal old member changed)⟩
    · simp only [if_neg changed]
      exact .refl old

theorem Applies.persists {data : List WorkflowEventDataV1} (applies : Applies before data after) :
    Persists before after := by
  induction data generalizing before with
  | nil =>
    rw [applies_nil] at applies
    rw [applies]
    exact .refl before
  | cons event rest ih =>
    obtain ⟨middle, effect, others⟩ := applies_cons.mp applies
    exact effect.persists.trans (ih others)

end Persistence

end Praxis.Workflow
