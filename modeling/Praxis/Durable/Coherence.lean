import Praxis.Durable.Admission
import Praxis.Durable.Histories

/-!
# Coherent projections

Between transactions a node and its last attempt are in one of a few pairs of states
(`paired`), and the attempts before the last have failed. A projection is `Coherent` when this
holds of all its nodes, it is well formed, and every node keeps within its retry policy.

Single events break the pairs. The groups of events from which the operations compose their
transactions keep them: a change of a node alone, of an attempt with its node, a new attempt
after a failure, the admission of a node, and a graph patch that removes no node.
-/

namespace Praxis.Workflow

set_option autoImplicit false

open Praxis.Foundations

/-! ## Pairs of states -/

/-- The workflow has ended, or is being cancelled. -/
def isClosed (state : WorkflowStateV1) : Bool := isTerminalWorkflow state || state == .cancelling

/-- The states that a node and its last attempt may be in together. Where operators may
abandon attempts, a cancelled node may have left a live attempt behind; one that a worker held
or that waited only if the workflow is closed. -/
def paired (lax closed : Bool) : WorkflowNodeStateV1 → Option WorkflowAttemptStateV1 → Bool
  | .proposed, none | .admitted, none | .scheduled, none | .skipped, none | .succeeded, none
  | .failed, none | .cancelled, none => true
  | .admitted, some .scheduled | .scheduled, some .scheduled | .leased, some .leased
  | .running, some .running | .waiting, some .waiting | .unknown, some .unknown
  | .succeeded, some .succeeded | .failed, some .failed | .failed, some .cancelled
  | .skipped, some .cancelled | .cancelled, some .cancelled
  | .manualIntervention, some .manualIntervention => true
  | .cancelled, some .scheduled => lax
  | .cancelled, some .leased | .cancelled, some .running | .cancelled, some .waiting =>
    lax && closed
  | _, _ => false

theorem paired_mono {lax closed later : Bool} {node : WorkflowNodeStateV1}
    {attempt : Option WorkflowAttemptStateV1} (mono : closed = true → later = true)
    (pair : paired lax closed node attempt = true) : paired lax later node attempt = true := by
  have both : (lax && closed) = true → (lax && later) = true := by
    cases lax
    · intro open_
      cases open_
    · exact mono
  cases node <;> rcases attempt with _ | attempt
  all_goals first
    | exact pair
    | (cases attempt <;> first | exact pair | exact both pair)

def WorkflowProjectionV1.lastState (projection : WorkflowProjectionV1) (nodeId : String) :
    Option WorkflowAttemptStateV1 :=
  (projection.attemptsOf nodeId).getLast?.map (·.state)

structure Coherent (lax : Bool) (projection : WorkflowProjectionV1) : Prop where
  wellFormed : WellFormed projection
  valid : ValidSpec projection.spec
  housed : ∀ attempt ∈ projection.attempts,
    attempt.nodeId ∈ projection.nodes.map (·.nodeId)
  superseded : ∀ nodeId, ∀ attempt ∈ (projection.attemptsOf nodeId).dropLast,
    attempt.state = .failed
  pairs : ∀ node ∈ projection.nodes,
    paired lax (isClosed projection.state) node.state (projection.lastState node.nodeId) = true
  joins : ∀ node ∈ projection.spec.nodes, node.join.isSome = true →
    projection.attemptsOf node.nodeId = []
  bounded : ∀ node ∈ projection.spec.nodes,
    ((projection.attemptsOf node.nodeId).length : Int) ≤ node.retry.maxAttempts

variable {lax : Bool} {attempt : WorkflowAttemptProjectionV1}

section Attempts

variable {current : WorkflowProjectionV1}

theorem mem_attemptsOf {nodeId : String} :
    attempt ∈ current.attemptsOf nodeId ↔
      attempt ∈ current.attempts ∧ attempt.nodeId = nodeId := by
  simp [WorkflowProjectionV1.attemptsOf]

theorem attemptsOf_changed (change : AttemptStateChangedV1) (nodeId : String) :
    (current.attemptChanged change).attemptsOf nodeId =
      (current.attemptsOf nodeId).map fun attempt =>
        if attempt.attemptId = change.attemptId then attempt.change change else attempt := by
  rw [WorkflowProjectionV1.attemptsOf, WorkflowProjectionV1.attemptChanged_attempts,
    changeAttempt, List.filter_map]
  congr 2
  funext attempt
  by_cases same : attempt.attemptId = change.attemptId <;>
    simp [same, WorkflowAttemptProjectionV1.change]

theorem ValidNode.attempts {node : WorkflowNodeSpecV1} (valid : ValidNode node) :
    0 < node.retry.maxAttempts := by
  have retry := valid.retry
  simp only [validateRetry, bind_eq_ok, ensure_eq_ok, Bool.and_eq_true, positiveInteger,
    decide_eq_true_eq] at retry
  obtain ⟨_, ⟨⟨⟨⟨positive, _⟩, _⟩, _⟩, _⟩, _⟩ := retry
  exact positive.1

/-- A new workflow has no attempts and only proposed nodes. -/
theorem initial_coherent {spec : WorkflowSpecV1} {initial : WorkflowProjectionV1}
    (start : initialWorkflowProjectionV1 spec = .ok initial) : Coherent lax initial := by
  have wellFormed := initial_wellFormed start
  obtain ⟨valid, rfl⟩ := initialWorkflowProjectionV1_eq_ok start
  refine
    { wellFormed, valid
      housed := fun attempt member => absurd member List.not_mem_nil
      superseded := fun nodeId attempt member => absurd member List.not_mem_nil
      pairs := fun node member => ?_
      joins := fun node member join => rfl
      bounded := fun node member => ?_ }
  · obtain ⟨specified, _, rfl⟩ := List.mem_map.mp member
    rfl
  · exact (valid.nodes node member).attempts.le

end Attempts

/-! ## Events that leave nodes and attempts -/

section Frame

variable {current next : WorkflowProjectionV1}

theorem Coherent.of_same (coherent : Coherent lax current) (wellFormed : WellFormed next)
    (valid : ValidSpec next.spec) (specNodes : next.spec.nodes = current.spec.nodes)
    (nodes : next.nodes = current.nodes) (attempts : next.attempts = current.attempts)
    (closed : isClosed current.state = true → isClosed next.state = true) : Coherent lax next := by
  have same : ∀ nodeId, next.attemptsOf nodeId = current.attemptsOf nodeId := fun nodeId => by
    rw [WorkflowProjectionV1.attemptsOf, attempts, WorkflowProjectionV1.attemptsOf]
  constructor
  · exact wellFormed
  · exact valid
  · rw [attempts, nodes]
    exact coherent.housed
  · intro nodeId
    rw [same]
    exact coherent.superseded nodeId
  · intro node member
    rw [WorkflowProjectionV1.lastState, same]
    exact paired_mono closed (coherent.pairs node (nodes ▸ member))
  · intro node member
    rw [same]
    exact coherent.joins node (specNodes ▸ member)
  · intro node member
    rw [same]
    exact coherent.bounded node (specNodes ▸ member)

theorem isClosed_step {before after : WorkflowStateV1} (legal : after ∈ workflowTransitions before)
    (closed : isClosed before = true) : isClosed after = true := by
  cases before with
  | created | running | waiting | paused => cases closed
  | cancelled | completed | failed | terminated => exact absurd legal List.not_mem_nil
  | cancelling =>
    simp only [workflowTransitions, List.mem_cons, List.not_mem_nil, or_false] at legal
    rcases legal with rfl | rfl | rfl <;> rfl

def WorkflowEventDataV1.isNeutral : WorkflowEventDataV1 → Bool
  | .graphPatched .. | .executionTaskAdmitted .. | .nodeStateChanged .. | .attemptCreated ..
  | .attemptStateChanged .. => false
  | _ => true

theorem ValidSpec.withTopology {spec : WorkflowSpecV1} (valid : ValidSpec spec)
    (topology : WorkflowTopologyV1) : ValidSpec { spec with topology } :=
  { valid with }

theorem Coherent.neutral (coherent : Coherent lax current) {event : WorkflowEventDataV1}
    (neutral : event.isNeutral = true) (effect : WorkflowEventEffect current event next) :
    Coherent lax next := by
  have keeps : KeepsGraph current event := by
    cases event <;> trivial
  have wellFormed := (effect_wellFormed_iff coherent.wellFormed effect).mpr keeps
  cases effect with
  | created => exact coherent
  | recorded => exact coherent
  | announced _ legal =>
    exact coherent.of_same wellFormed coherent.valid rfl rfl rfl (isClosed_step legal)
  | topologyChanged =>
    exact coherent.of_same wellFormed (coherent.valid.withTopology _) rfl rfl rfl id
  | budgetCharged => exact coherent.of_same wellFormed coherent.valid rfl rfl rfl id
  | _ => cases neutral

theorem Coherent.neutrals (coherent : Coherent lax current) {data : List WorkflowEventDataV1}
    (neutral : ∀ event ∈ data, event.isNeutral = true) (applies : Applies current data next) :
    Coherent lax next := by
  induction data generalizing current with
  | nil =>
    rw [applies_nil] at applies
    rw [applies]
    exact coherent
  | cons event rest ih =>
    obtain ⟨middle, effect, others⟩ := applies_cons.mp applies
    rw [List.forall_mem_cons] at neutral
    exact ih (coherent.neutral neutral.1 effect) neutral.2 others

theorem Coherent.restamped (coherent : Coherent lax current) (sequence : Nat) (updatedAt : Timestamp) :
    Coherent lax (current.restamped sequence updatedAt) :=
  coherent.of_same
    (coherent.wellFormed.of_same ⟨rfl, rfl, rfl⟩ rfl ⟨rfl, rfl, rfl, rfl, rfl⟩ rfl rfl)
    coherent.valid rfl rfl rfl id

end Frame

/-! ## Events on one node -/

section OneNode

variable {current next : WorkflowProjectionV1}

theorem Coherent.of_touched (coherent : Coherent lax current) (nodeId : String)
    (wellFormed : WellFormed next) (spec : next.spec = current.spec)
    (state : next.state = current.state)
    (housed : ∀ attempt ∈ next.attempts, attempt.nodeId ∈ current.nodes.map (·.nodeId))
    (others : ∀ other, other ≠ nodeId → next.attemptsOf other = current.attemptsOf other)
    (kept : ∀ node ∈ next.nodes, node.nodeId ≠ nodeId →
      ∃ old ∈ current.nodes, old.nodeId = node.nodeId ∧ old.state = node.state)
    (superseded : ∀ attempt ∈ (next.attemptsOf nodeId).dropLast, attempt.state = .failed)
    (pair : ∀ node ∈ next.nodes, node.nodeId = nodeId →
      paired lax (isClosed current.state) node.state (next.lastState nodeId) = true)
    (joins : ∀ node ∈ current.spec.nodes, node.nodeId = nodeId → node.join.isSome = true →
      next.attemptsOf nodeId = [])
    (bounded : ∀ node ∈ current.spec.nodes, node.nodeId = nodeId →
      ((next.attemptsOf nodeId).length : Int) ≤ node.retry.maxAttempts) : Coherent lax next where
  wellFormed := wellFormed
  valid := spec ▸ coherent.valid
  housed := by
    intro attempt member
    rw [wellFormed.nodes, spec, ← coherent.wellFormed.nodes]
    exact housed attempt member
  superseded := by
    intro other
    by_cases same : other = nodeId
    · rw [same]
      exact superseded
    · rw [others other same]
      exact coherent.superseded other
  pairs := by
    intro node member
    rw [state]
    by_cases same : node.nodeId = nodeId
    · rw [same]
      exact pair node member same
    · obtain ⟨old, present, id, unchanged⟩ := kept node member same
      rw [WorkflowProjectionV1.lastState, others _ same, ← id, ← unchanged]
      exact coherent.pairs old present
  joins := by
    intro node member join
    rw [spec] at member
    by_cases same : node.nodeId = nodeId
    · rw [same]
      exact joins node member same join
    · rw [others _ same]
      exact coherent.joins node member join
  bounded := by
    intro node member
    rw [spec] at member
    by_cases same : node.nodeId = nodeId
    · rw [same]
      exact bounded node member same
    · rw [others _ same]
      exact coherent.bounded node member

variable {change : NodeStateChangedV1} {attempt : WorkflowAttemptProjectionV1}
  {changes : List NodeStateChangedV1} {nodeId : String}

theorem changeNode_kept {nodes : List WorkflowNodeProjectionV1} {node : WorkflowNodeProjectionV1}
    (member : node ∈ changeNode nodes change) : (node.nodeId ≠ change.nodeId → node ∈ nodes) ∧
      (node.nodeId = change.nodeId → node.state = change.state) := by
  obtain ⟨old, present, rfl⟩ := List.mem_map.mp member
  by_cases same : old.nodeId = change.nodeId
  · rw [if_pos same]
    exact ⟨fun different => absurd same different, fun _ => rfl⟩
  · rw [if_neg same]
    exact ⟨fun _ => present, fun equal => absurd equal same⟩

theorem Coherent.nodeChanged (coherent : Coherent lax current) {change : NodeStateChangedV1}
    (pair : paired lax (isClosed current.state) change.state (current.lastState change.nodeId) = true) :
    Coherent lax (current.nodeChanged change) := by
  refine coherent.of_touched change.nodeId (coherent.wellFormed.nodeChanged change) rfl rfl
    coherent.housed
    (fun _ _ => rfl) (fun node member different => ?_) (coherent.superseded change.nodeId)
    (fun node member same => ?_) (fun node member same join => ?_) (fun node member same => ?_)
  · exact ⟨node, (changeNode_kept member).1 different, rfl, rfl⟩
  · rw [(changeNode_kept member).2 same]
    exact pair
  · rw [← same]
    exact coherent.joins node member join
  · rw [← same]
    exact coherent.bounded node member

theorem Coherent.last (coherent : Coherent lax current) (member : attempt ∈ current.attempts)
    (live : attempt.state ≠ .failed) :
    current.attemptsOf attempt.nodeId = (current.attemptsOf attempt.nodeId).dropLast ++ [attempt] := by
  have own : attempt ∈ current.attemptsOf attempt.nodeId := mem_attemptsOf.mpr ⟨member, rfl⟩
  have nonempty := List.ne_nil_of_mem own
  rw [← List.dropLast_append_getLast nonempty] at own
  rcases List.mem_append.mp own with earlier | last
  · exact absurd (coherent.superseded _ _ earlier) live
  · rw [List.mem_singleton] at last
    conv_lhs => rw [← List.dropLast_append_getLast nonempty]
    rw [← last]

theorem Coherent.lastState_eq (coherent : Coherent lax current)
    (member : attempt ∈ current.attempts) (live : attempt.state ≠ .failed) :
    current.lastState attempt.nodeId = some attempt.state := by
  rw [WorkflowProjectionV1.lastState, coherent.last member live, List.getLast?_concat]
  rfl

theorem not_failed_of_legal {before after : WorkflowAttemptStateV1}
    (legal : after ∈ attemptTransitions before) : before ≠ .failed := by
  rintro rfl
  exact absurd legal List.not_mem_nil

theorem Coherent.attemptsOf_settled (coherent : Coherent lax current)
    {change : AttemptStateChangedV1} (member : attempt ∈ current.attempts)
    (same : attempt.attemptId = change.attemptId)
    (legal : change.state ∈ attemptTransitions attempt.state) :
    (current.attemptChanged change).attemptsOf attempt.nodeId =
        (current.attemptsOf attempt.nodeId).dropLast ++ [attempt.change change] ∧
      ∀ other, other ≠ attempt.nodeId →
        (current.attemptChanged change).attemptsOf other = current.attemptsOf other := by
  have unique : ∀ other ∈ current.attempts, other.attemptId = change.attemptId →
      other = attempt := fun other there id =>
    List.inj_on_of_nodup_map coherent.wellFormed.distinctAttempts there member
      (id.trans same.symm)
  have split := coherent.last member (not_failed_of_legal legal)
  constructor
  · rw [attemptsOf_changed]
    conv_lhs => rw [split]
    rw [List.map_append, List.map_cons, List.map_nil, if_pos same]
    congr 1
    refine (List.map_congr_left fun old earlier => ?_).trans (List.map_id _)
    refine if_neg fun id => ?_
    have own := mem_attemptsOf.mp (List.dropLast_subset _ earlier)
    have failed := coherent.superseded _ _ earlier
    rw [unique old own.1 id] at failed
    exact not_failed_of_legal legal failed
  · intro other different
    rw [attemptsOf_changed]
    refine (List.map_congr_left fun old own => ?_).trans (List.map_id _)
    obtain ⟨present, owner⟩ := mem_attemptsOf.mp own
    refine if_neg fun id => different ?_
    rw [← owner, unique old present id]

/-- The last attempt of a node changes, and perhaps the node with it. -/
theorem Coherent.attemptTouched (coherent : Coherent lax current) {change : AttemptStateChangedV1}
    (member : attempt ∈ current.attempts) (same : attempt.attemptId = change.attemptId)
    (legal : change.state ∈ attemptTransitions attempt.state) (wellFormed : WellFormed next)
    (attempts : next.attempts = (current.attemptChanged change).attempts)
    (spec : next.spec = current.spec) (state : next.state = current.state)
    (kept : ∀ node ∈ next.nodes, node.nodeId ≠ attempt.nodeId →
      ∃ old ∈ current.nodes, old.nodeId = node.nodeId ∧ old.state = node.state)
    (pair : ∀ node ∈ next.nodes, node.nodeId = attempt.nodeId →
      paired lax (isClosed current.state) node.state (some change.state) = true) :
    Coherent lax next := by
  obtain ⟨settled, others⟩ := coherent.attemptsOf_settled member same legal
  have attemptsOf : ∀ nodeId, next.attemptsOf nodeId =
      (current.attemptChanged change).attemptsOf nodeId := fun nodeId => by
    rw [WorkflowProjectionV1.attemptsOf, attempts]
    rfl
  refine coherent.of_touched attempt.nodeId wellFormed spec state (fun changed there => ?_)
    (fun other different => (attemptsOf other).trans (others other different)) kept ?_
    (fun node there own => ?_) (fun node there own join => ?_) (fun node there own => ?_)
  · rw [attempts] at there
    obtain ⟨old, present, rfl⟩ := List.mem_map.mp there
    have house := coherent.housed old present
    by_cases id : old.attemptId = change.attemptId
    · rw [if_pos id]
      exact house
    · rw [if_neg id]
      exact house
  · rw [attemptsOf, settled, List.dropLast_concat]
    exact coherent.superseded attempt.nodeId
  · rw [WorkflowProjectionV1.lastState, attemptsOf, settled, List.getLast?_concat]
    exact pair node there own
  · have none := coherent.joins node there join
    rw [own] at none
    have own : attempt ∈ current.attemptsOf attempt.nodeId := mem_attemptsOf.mpr ⟨member, rfl⟩
    rw [none] at own
    exact absurd own List.not_mem_nil
  · rw [attemptsOf, attemptsOf_changed, List.length_map, ← own]
    exact coherent.bounded node there

theorem Coherent.attemptChanged (coherent : Coherent lax current) {change : AttemptStateChangedV1}
 (member : attempt ∈ current.attempts)
    (same : attempt.attemptId = change.attemptId)
    (legal : change.state ∈ attemptTransitions attempt.state)
    (pair : ∀ node ∈ current.nodes, node.nodeId = attempt.nodeId →
      paired lax (isClosed current.state) node.state (some change.state) = true) :
    Coherent lax (current.attemptChanged change) :=
  coherent.attemptTouched member same legal (coherent.wellFormed.attemptChanged change) rfl rfl rfl
    (fun node there _ => ⟨node, there, rfl, rfl⟩) pair

theorem Coherent.settled (coherent : Coherent lax current) {change : AttemptStateChangedV1}
    {nodeChange : NodeStateChangedV1}
    (member : attempt ∈ current.attempts) (same : attempt.attemptId = change.attemptId)
    (owner : attempt.nodeId = nodeChange.nodeId)
    (legal : change.state ∈ attemptTransitions attempt.state)
    (pair : paired lax (isClosed current.state) nodeChange.state (some change.state) = true) :
    Coherent lax ((current.attemptChanged change).nodeChanged nodeChange) := by
  refine coherent.attemptTouched member same legal
    ((coherent.wellFormed.attemptChanged change).nodeChanged nodeChange) rfl rfl rfl
    (fun node there different => ?_) (fun node there own => ?_)
  · exact ⟨node, (changeNode_kept there).1 (owner ▸ different), rfl, rfl⟩
  · rw [(changeNode_kept there).2 (own.trans owner)]
    exact pair

/-! ### New attempts -/

/-- Some changes of nodes in a row. -/
def WorkflowProjectionV1.nodesChanged (current : WorkflowProjectionV1)
    (changes : List NodeStateChangedV1) : WorkflowProjectionV1 :=
  changes.foldl WorkflowProjectionV1.nodeChanged current

theorem applies_nodeChanges (applies : Applies current (changes.map .nodeStateChanged) next) :
    next = current.nodesChanged changes := by
  induction changes generalizing current with
  | nil => exact applies_nil.mp applies
  | cons change rest ih =>
    obtain ⟨middle, effect, others⟩ := applies_cons.mp applies
    obtain ⟨_, _, rfl⟩ := effect_nodeChanged.mp effect
    exact ih others

/-- What changes of one node leave. -/
structure OnlyNode (nodeId : String) (before after : WorkflowProjectionV1) : Prop where
  attempts : after.attempts = before.attempts
  spec : after.spec = before.spec
  state : after.state = before.state
  wellFormed : WellFormed before → WellFormed after
  kept : ∀ node ∈ after.nodes, node.nodeId ≠ nodeId →
    ∃ old ∈ before.nodes, old.nodeId = node.nodeId ∧ old.state = node.state

theorem onlyNode_nodesChanged (current : WorkflowProjectionV1)
    (own : ∀ change ∈ changes, change.nodeId = nodeId) :
    OnlyNode nodeId current (current.nodesChanged changes) := by
  induction changes generalizing current with
  | nil => exact ⟨rfl, rfl, rfl, id, fun node member _ => ⟨node, member, rfl, rfl⟩⟩
  | cons change rest ih =>
    rw [List.forall_mem_cons] at own
    have others := ih (current.nodeChanged change) own.2
    refine ⟨others.attempts, others.spec, others.state,
      fun wellFormed => others.wellFormed (wellFormed.nodeChanged change),
      fun node member different => ?_⟩
    obtain ⟨old, present, id, state⟩ := others.kept node member different
    have unchanged := (changeNode_kept present).1 (own.1 ▸ id ▸ different)
    exact ⟨old, unchanged, id, state⟩

theorem nodesChanged_state (own : ∀ change ∈ changes, change.nodeId = nodeId)
    (last : changes.getLast? = some change) :
    ∀ node ∈ (current.nodesChanged changes).nodes, node.nodeId = nodeId →
      node.state = change.state := by
  obtain ⟨front, rfl⟩ := List.getLast?_eq_some_iff.mp last
  intro node member same
  rw [WorkflowProjectionV1.nodesChanged, List.foldl_concat] at member
  have id := own change (List.mem_append_right _ (List.mem_singleton_self change))
  exact (changeNode_kept member).2 (same.trans id.symm)

theorem Coherent.attemptAdded (coherent : Coherent lax current)
    {before after : List NodeStateChangedV1}
    (own : (∀ change ∈ before, change.nodeId = attempt.nodeId) ∧
      ∀ change ∈ after, change.nodeId = attempt.nodeId)
    (applies : Applies current (before.map .nodeStateChanged ++
      .attemptCreated attempt :: after.map .nodeStateChanged) next)
    (failed : ∀ old ∈ current.attemptsOf attempt.nodeId, old.state = .failed)
    (last : (before ++ after).getLast? = some change)
    (pair : paired lax (isClosed current.state) change.state (some attempt.state) = true)
    (join : ∀ spec ∈ current.spec.nodes, spec.nodeId = attempt.nodeId → spec.join = none)
    (bound : ∀ spec ∈ current.spec.nodes, spec.nodeId = attempt.nodeId →
      (attempt.ordinal : Int) ≤ spec.retry.maxAttempts) : Coherent lax next := by
  obtain ⟨prepared, first, others⟩ := applies_append.mp applies
  obtain ⟨created, creation, rest⟩ := applies_cons.mp others
  obtain rfl := applies_nodeChanges first
  obtain ⟨newAttempt, ⟨node, present, ordinal⟩, rfl⟩ := effect_attemptCreated.mp creation
  obtain rfl := applies_nodeChanges rest
  have prior := onlyNode_nodesChanged current own.1
  have later := onlyNode_nodesChanged ((current.nodesChanged before).attemptCreated attempt) own.2
  have wellFormed := prior.wellFormed coherent.wellFormed
  have same : ∀ nodeId, (current.nodesChanged before).attemptsOf nodeId =
      current.attemptsOf nodeId := fun nodeId => by
    rw [WorkflowProjectionV1.attemptsOf, prior.attempts, WorkflowProjectionV1.attemptsOf]
  have attemptsOf : ∀ nodeId,
      (((current.nodesChanged before).attemptCreated attempt).nodesChanged after).attemptsOf
          nodeId =
        current.attemptsOf nodeId ++ if attempt.nodeId = nodeId then [attempt] else [] := by
    intro nodeId
    rw [WorkflowProjectionV1.attemptsOf, later.attempts, ← WorkflowProjectionV1.attemptsOf,
      attemptsOf_attemptCreated, same]
  have owned := attemptsOf attempt.nodeId
  rw [if_pos rfl] at owned
  obtain ⟨member, owner⟩ := findNode?_mem present
  have length : attempt.ordinal = (current.attemptsOf attempt.nodeId).length + 1 := by
    have ids := congrArg List.length (wellFormed.owned node member)
    rw [List.length_map, owner, same] at ids
    rw [ordinal, ids]
  -- The nodes other than the attempt's come through all three parts.
  have kept : ∀ edited ∈ (current.nodesChanged before).nodes, ∀ other,
      (if edited.nodeId = attempt.nodeId then edited.withAttempt attempt.attemptId
        else edited) = other → other.nodeId ≠ attempt.nodeId → other = edited := by
    rintro edited _ _ rfl different
    by_cases equal : edited.nodeId = attempt.nodeId
    · rw [if_pos equal] at different
      exact absurd equal different
    · rw [if_neg equal]
  refine coherent.of_touched attempt.nodeId
    (later.wellFormed (wellFormed.attemptCreated newAttempt present ordinal))
    (later.spec.trans prior.spec) (later.state.trans prior.state)
    (fun old there => ?_) (fun other different => ?_) (fun changed there different => ?_) ?_
    (fun changed there isOwn => ?_) (fun spec there isOwn joined => ?_)
    (fun spec there isOwn => ?_)
  · rw [later.attempts, WorkflowProjectionV1.attemptCreated_attempts, prior.attempts] at there
    rcases List.mem_append.mp there with earlier | new
    · exact coherent.housed old earlier
    · rw [List.mem_singleton.mp new, coherent.wellFormed.nodes, ← prior.spec, ← wellFormed.nodes,
        ← owner]
      exact List.mem_map_of_mem member
  · rw [attemptsOf, if_neg fun equal => different equal.symm, List.append_nil]
  · obtain ⟨added, inside, id, state⟩ := later.kept changed there different
    obtain ⟨edited, old, made⟩ := List.mem_map.mp inside
    have unchanged := kept edited old added made (id ▸ different)
    rw [← unchanged] at old
    obtain ⟨oldest, present, id', state'⟩ := prior.kept added old (id ▸ different)
    exact ⟨oldest, present, id'.trans id, state'.trans state⟩
  · rw [owned, List.dropLast_concat]
    exact failed
  · rw [WorkflowProjectionV1.lastState, owned, List.getLast?_concat]
    suffices ended : changed.state = change.state by
      rw [ended]
      exact pair
    cases after with
    | nil =>
      rw [List.append_nil] at last
      obtain ⟨edited, inside, rfl⟩ := List.mem_map.mp there
      have id : edited.nodeId = attempt.nodeId := by
        by_contra different
        rw [if_neg different] at isOwn
        exact different isOwn
      rw [if_pos id]
      exact nodesChanged_state own.1 last edited inside id
    | cons first rest =>
      rw [List.getLast?_append_of_ne_nil _ (by simp)] at last
      exact nodesChanged_state own.2 last changed there isOwn
  · rw [join spec there isOwn] at joined
    cases joined
  · rw [owned, List.length_append, List.length_singleton, ← length]
    exact bound spec there isOwn

end OneNode

/-! ## Events on the graph -/

section Graph

variable {current next : WorkflowProjectionV1} {node : WorkflowNodeSpecV1}

theorem Coherent.attemptsOf_new (coherent : Coherent lax current) {nodeId : String}
    (new : nodeId ∉ current.nodes.map (·.nodeId)) : current.attemptsOf nodeId = [] := by
  refine List.filter_eq_nil_iff.mpr fun attempt member => ?_
  simp only [decide_eq_true_eq]
  rintro rfl
  exact new (coherent.housed attempt member)

theorem Coherent.graphPatched (coherent : Coherent lax current) {spec : WorkflowSpecV1}
    (effect : WorkflowEventEffect current (.graphPatched spec) next)
    (identity : spec.workflowId = current.workflowId ∧ spec.runId = current.runId ∧
      spec.sessionId = current.sessionId)
    (keeps : ∀ node ∈ current.spec.nodes, node ∈ spec.nodes) : Coherent lax next := by
  have keepsGraph : KeepsGraph current (.graphPatched spec) :=
    ⟨identity, fun node _ new => coherent.attemptsOf_new new⟩
  have wellFormed := (effect_wellFormed_iff coherent.wellFormed effect).mpr keepsGraph
  obtain ⟨accepted, _, _, rfl⟩ := effect_graphPatched.mp effect
  have valid := (validateWorkflowSpecV1_accepts accepted).2
  -- A specified node is one that was there before, or its id is new.
  have known : ∀ node ∈ spec.nodes, node ∈ current.spec.nodes ∨
      node.nodeId ∉ current.nodes.map (·.nodeId) := by
    intro node member
    by_cases old : node.nodeId ∈ current.nodes.map (·.nodeId)
    · rw [coherent.wellFormed.nodes] at old
      obtain ⟨before, present, same⟩ := List.mem_map.mp old
      have equal := List.inj_on_of_nodup_map valid.distinct (keeps before present) member same
      exact .inl (equal ▸ present)
    · exact .inr old
  refine
    { wellFormed, valid
      housed := fun attempt member => ?_
      superseded := coherent.superseded
      pairs := fun node member => ?_
      joins := fun node member join => ?_
      bounded := fun node member => ?_ }
  · have house := coherent.housed attempt member
    rw [coherent.wellFormed.nodes] at house
    obtain ⟨node, present, same⟩ := List.mem_map.mp house
    rw [wellFormed.nodes, ← same]
    exact List.mem_map_of_mem (keeps node present)
  · obtain ⟨specified, there, rfl⟩ := List.mem_map.mp member
    cases found : findNode? current.nodes specified.nodeId with
    | none =>
      have none := coherent.attemptsOf_new (findNode?_eq_none.mp found)
      change paired lax _ .proposed ((current.attemptsOf specified.nodeId).getLast?.map _) = true
      rw [none]
      rfl
    | some node => exact coherent.pairs node (findNode?_mem found).1
  · rcases known node member with old | new
    · exact coherent.joins node old join
    · exact coherent.attemptsOf_new new
  · rcases known node member with old | new
    · exact coherent.bounded node old
    · have none : (current.graphPatched spec).attemptsOf node.nodeId = [] :=
        coherent.attemptsOf_new new
      rw [none]
      exact (valid.nodes node member).attempts.le

theorem join_none {edges : List WorkflowEdgeV1} (accepted : joinAccepted edges node = true)
    (isolated : ∀ edge ∈ edges, edge.toNode ≠ node.nodeId) : node.join = none := by
  cases join : node.join with
  | none => rfl
  | some policy =>
    have none : (edges.filter fun edge => edge.toNode = node.nodeId) = [] :=
      List.filter_eq_nil_iff.mpr fun edge member => by simpa using isolated edge member
    simp [joinAccepted, join, none] at accepted

theorem Coherent.taskAdmitted (coherent : Coherent lax current) {requestId requestDigest : String}
 (effect : WorkflowEventEffect current
      (.executionTaskAdmitted requestId requestDigest node attempt) next)
    (state : attempt.state = .scheduled) : Coherent lax next := by
  cases effect with
  | announced announces => cases announces
  | recorded only => cases only
  | taskAdmitted request digest newNode newAttempt owner ordinal accepted =>
    have new : node.nodeId ∉ current.nodes.map (·.nodeId) := by
      intro member
      obtain ⟨other, present, same⟩ := List.mem_map.mp member
      exact newNode other present same
    have none := coherent.attemptsOf_new new
    have wellFormed :=
      (coherent.wellFormed.taskAdmitted_iff newNode newAttempt owner ordinal).mpr none
    have valid := (validateWorkflowSpecV1_accepts accepted).2
    have ofNode := fun nodeId => attemptsOf_taskAdmitted current node attempt nodeId
    have own := ofNode node.nodeId
    rw [none, if_pos owner, List.nil_append] at own
    have others : ∀ nodeId, nodeId ≠ node.nodeId →
        (current.taskAdmitted node attempt).attemptsOf nodeId = current.attemptsOf nodeId := by
      intro nodeId different
      rw [ofNode, if_neg fun equal => different (equal.symm.trans owner), List.append_nil]
    have isolated : ∀ edge ∈ current.spec.edges, edge.toNode ≠ node.nodeId := by
      intro edge member same
      have target := (coherent.valid.edges edge member).2
      rw [same, ← coherent.wellFormed.nodes] at target
      exact new target
    have oldNode : ∀ other ∈ current.spec.nodes, other.nodeId ≠ node.nodeId := by
      intro other member same
      apply new
      rw [coherent.wellFormed.nodes, ← same]
      exact List.mem_map_of_mem member
    refine
      { wellFormed, valid
        housed := fun old member => ?_
        superseded := fun nodeId old member => ?_
        pairs := fun other member => ?_
        joins := fun other member join => ?_
        bounded := fun other member => ?_ }
    · rw [WorkflowProjectionV1.taskAdmitted_nodes, List.map_append]
      rcases List.mem_append.mp member with earlier | added
      · exact List.mem_append_left _ (coherent.housed old earlier)
      · rw [List.mem_singleton.mp added, owner]
        exact List.mem_append_right _ (List.mem_singleton_self _)
    · by_cases same : nodeId = node.nodeId
      · rw [same, own] at member
        exact absurd member List.not_mem_nil
      · rw [others nodeId same] at member
        exact coherent.superseded nodeId old member
    · rw [WorkflowProjectionV1.lastState]
      rcases List.mem_append.mp member with earlier | added
      · rw [others _ (newNode other earlier)]
        exact coherent.pairs other earlier
      · rw [List.mem_singleton.mp added]
        change paired lax _ .scheduled
          (((current.taskAdmitted node attempt).attemptsOf node.nodeId).getLast?.map _) = true
        rw [own, List.getLast?_singleton, Option.map_some, state]
        rfl
    · rcases List.mem_append.mp member with earlier | added
      · rw [others _ (oldNode other earlier)]
        exact coherent.joins other earlier join
      · obtain rfl := List.mem_singleton.mp added
        have without := join_none (valid.joins _ (List.mem_append_right _ added)) isolated
        rw [without] at join
        cases join
    · rcases List.mem_append.mp member with earlier | added
      · rw [others _ (oldNode other earlier)]
        exact coherent.bounded other earlier
      · obtain rfl := List.mem_singleton.mp added
        rw [own]
        exact (valid.nodes _ (List.mem_append_right _ added)).attempts

end Graph

end Praxis.Workflow
