import Praxis.Foundations.EarlyVerdicts
import Praxis.Durable.Histories
import Praxis.Durable.Readiness

/-!
# What a verdict on a node is worth

`workflowNodeReadinessV1` is a vote over the incoming edges (`readiness_eq`): the counting
loop is the tally of the branches, and the join policy is its threshold. From the laws of
such votes: a verdict that was given while sources were still running holds however these
end (`early_verdicts_sound`), and `skipped` and `blocked` are final as long as no final
source changes (`pruning_irrevocable`). A source in `unknown` or `failed` can change: an
operator's resolution turns a pruned node into one that could run (`pruned_work_runnable`).
Last, a branch that a condition selects because its source failed is counted as active and
never as satisfied (`matching_conditions_release_iff`).
-/

namespace Praxis.Workflow

set_option autoImplicit false

open Praxis.Foundations

/-! ## The vote over the incoming edges -/

def incomingEdges (projection : WorkflowProjectionV1) (nodeId : String) : List WorkflowEdgeV1 :=
  projection.spec.edges.filter fun edge => edge.toNode = nodeId

def joinOf (projection : WorkflowProjectionV1) (nodeId : String) : Option WorkflowJoinPolicyV1 :=
  (projection.spec.nodes.find? fun node => node.nodeId = nodeId).bind (·.join)

/-- What is known of the branch of a source. -/
def sourceVote (edge : WorkflowEdgeV1) (source : WorkflowNodeProjectionV1) : Vote :=
  if source.state ∉ terminalNodes then .undecided
  else if edge.condition = none ∧ source.state = .skipped ∨
      edge.condition ≠ none ∧ edgeMatches source edge = false then .withdrawn
  else if source.state = .succeeded then .granted
  else .refused

/-- What is known of the branch of an edge; `none` when its source is missing. -/
def branchVote (nodes : List WorkflowNodeProjectionV1) (edge : WorkflowEdgeV1) : Option Vote :=
  (lastNode? nodes edge.fromNode).map (sourceVote edge)

def thresholdOf : Option WorkflowJoinPolicyV1 → Threshold
  | some .any => .atLeast 1
  | some (.quorum minimum) => .atLeast minimum
  | _ => .all

/-- The answer for a verdict. -/
def readinessOf (threshold : Threshold) : Verdict → WorkflowNodeReadinessV1
  | .waiting => .waiting
  | .passed => .ready
  | .lost => .blocked
  | .empty => if threshold = .all then .skipped else .blocked

def BranchCounts.add (counts : BranchCounts) (vote : Vote) : BranchCounts where
  active := counts.active + activeVotes [vote]
  succeeded := counts.succeeded + [vote].count .granted
  pending := counts.pending + [vote].count .undecided

theorem countBranch_eq (nodes : List WorkflowNodeProjectionV1) (counts : BranchCounts)
    (edge : WorkflowEdgeV1) :
    countBranch nodes counts edge = (branchVote nodes edge).map counts.add := by
  unfold countBranch branchVote
  cases lastNode? nodes edge.fromNode with
  | none => rfl
  | some source =>
    simp only [Option.bind_eq_bind, Option.bind_some, Option.map_some, sourceVote]
    by_cases final : source.state ∈ terminalNodes
    · cases condition : edge.condition with
      | none =>
        by_cases skipped : source.state = .skipped <;>
          by_cases succeeded : source.state = .succeeded <;>
            simp_all [BranchCounts.add, activeVotes]
      | some value =>
        cases matched : edgeMatches source edge <;>
          by_cases succeeded : source.state = .succeeded <;>
            simp_all [BranchCounts.add, activeVotes]
    · simp [final, BranchCounts.add, activeVotes]

theorem countBranches_eq (nodes : List WorkflowNodeProjectionV1) (edges : List WorkflowEdgeV1)
    (counts : BranchCounts) :
    edges.foldlM (countBranch nodes) counts =
      (edges.mapM (branchVote nodes)).map fun votes =>
        { active := counts.active + activeVotes votes
          succeeded := counts.succeeded + votes.count .granted
          pending := counts.pending + votes.count .undecided } := by
  induction edges generalizing counts with
  | nil => rfl
  | cons edge rest ih =>
    rw [List.foldlM_cons, countBranch_eq, List.mapM_cons]
    cases branchVote nodes edge with
    | none => rfl
    | some vote =>
      simp only [Option.map_some, Option.bind_eq_bind, Option.bind_some]
      rw [ih]
      cases rest.mapM (branchVote nodes) with
      | none => rfl
      | some votes =>
        simp only [Option.map_some, Option.bind_some, Option.pure_def, BranchCounts.add,
          Option.some.injEq, BranchCounts.mk.injEq, activeVotes, List.countP_cons,
          List.count_cons, List.countP_nil, List.count_nil]
        omega

theorem readinessOf_verdict (join : Option WorkflowJoinPolicyV1) (votes : List Vote) :
    (if activeVotes votes = 0 then
        if join = none ∨ join = some .all then .skipped else .blocked
      else if requiredBranches join (activeVotes votes) ≤ votes.count .granted then .ready
      else if (votes.count .granted + votes.count .undecided : Int) <
          requiredBranches join (activeVotes votes) then .blocked
      else .waiting : WorkflowNodeReadinessV1) =
      readinessOf (thresholdOf join) (verdict (thresholdOf join) votes) := by
  have minimum : requiredBranches join (activeVotes votes) =
      (thresholdOf join).minimum (activeVotes votes) := by
    cases join with
    | none => rfl
    | some policy => cases policy <;> rfl
  have all : (join = none ∨ join = some .all) ↔ thresholdOf join = .all := by
    cases join with
    | none => simp [thresholdOf]
    | some policy => cases policy <;> simp [thresholdOf]
  rw [verdict, minimum]
  split_ifs <;> simp_all [readinessOf]

variable {projection : WorkflowProjectionV1} {nodeId : String}

/-- **The answer for a node with incoming edges is the verdict on their branches.** -/
theorem readiness_eq (reached : incomingEdges projection nodeId ≠ []) :
    workflowNodeReadinessV1 projection nodeId =
      match (incomingEdges projection nodeId).mapM (branchVote projection.nodes) with
      | none => .blocked
      | some votes => readinessOf (thresholdOf (joinOf projection nodeId))
          (verdict (thresholdOf (joinOf projection nodeId)) votes) := by
  have counted := countBranches_eq projection.nodes (incomingEdges projection nodeId) {}
  have skipped : projection.spec.edges.filter (fun edge => edge.toNode = nodeId) ≠ [] := reached
  rw [workflowNodeReadinessV1, if_neg skipped]
  rw [incomingEdges] at counted ⊢
  rw [counted]
  cases (projection.spec.edges.filter fun edge => edge.toNode = nodeId).mapM
      (branchVote projection.nodes) with
  | none => rfl
  | some votes =>
    simp only [Option.map_some, Nat.zero_add]
    exact readinessOf_verdict (joinOf projection nodeId) votes

/-! ## A fork -/

/-- Two tasks before a third node. -/
def forkSpec (join : Option WorkflowJoinPolicyV1) (condition : Option WorkflowEdgeConditionV1) :
    WorkflowSpecV1 :=
  { smallSpec with
    nodes := [smallNode "left", smallNode "right",
      { smallNode "next" with kind := .decision, join }]
    edges := [{ fromNode := "left", toNode := "next", condition },
      { fromNode := "right", toNode := "next", condition }] }

/-- The fork with its tasks in some states. -/
def forkProjection (join : Option WorkflowJoinPolicyV1)
    (condition : Option WorkflowEdgeConditionV1) (left right : WorkflowNodeStateV1) :
    WorkflowProjectionV1 where
  workflowId := "workflow"
  runId := "run"
  sessionId := "session"
  revision := 1
  sequence := 1
  state := .running
  spec := forkSpec join condition
  nodes := [{ nodeId := "left", state := left, attemptIds := [] },
    { nodeId := "right", state := right, attemptIds := [] },
    { nodeId := "next", state := .admitted, attemptIds := [] }]
  attempts := []
  graphMutations := 0
  usage := ⟨0, 0, 0, 0, 0⟩
  updatedAt := epochStart

def stateEvent (sequence : Nat) (nodeId : String) (state : WorkflowNodeStateV1) :
    WorkflowEventV1 where
  eventId := "event"
  workflowId := "workflow"
  runId := "run"
  sequence := sequence
  occurredAt := epochStart
  data := .nodeStateChanged { nodeId, state }

/-- The history of a fork whose tasks go through some states. -/
def forkHistory (condition : Option WorkflowEdgeConditionV1)
    (states : List (String × WorkflowNodeStateV1)) : List WorkflowEventV1 :=
  { stateEvent 1 "left" .admitted with data := .workflowCreated (forkSpec none condition) } ::
    (states.zipIdx 2).map fun entry => stateEvent entry.2 entry.1.1 entry.1.2

/-! ## Sources that move on -/

/-- A later look at a source. Anything may have become of one that was not final. -/
inductive SourceAdvances :
    Option WorkflowNodeProjectionV1 → Option WorkflowNodeProjectionV1 → Prop
  | same (source : Option WorkflowNodeProjectionV1) : SourceAdvances source source
  | ended {earlier : WorkflowNodeProjectionV1} (later : WorkflowNodeProjectionV1)
      (running : earlier.state ∉ terminalNodes) : SourceAdvances (some earlier) (some later)

/-- A later projection of the same graph in which only sources of the node that were not final
have changed. -/
structure SourcesAdvance (projection later : WorkflowProjectionV1) (nodeId : String) : Prop where
  graph : later.spec = projection.spec
  sources : ∀ edge ∈ incomingEdges projection nodeId,
    SourceAdvances (lastNode? projection.nodes edge.fromNode)
      (lastNode? later.nodes edge.fromNode)

section Advancing

variable {projection later : WorkflowProjectionV1} {nodeId : String}
  {nodes moved : List WorkflowNodeProjectionV1}

theorem branchVote_settles {edge : WorkflowEdgeV1}
    (advances : SourceAdvances (lastNode? nodes edge.fromNode) (lastNode? moved edge.fromNode)) :
    branchVote nodes edge = none ∧ branchVote moved edge = none ∨
      ∃ vote settled, branchVote nodes edge = some vote ∧
        branchVote moved edge = some settled ∧ vote.Settles settled := by
  unfold branchVote
  generalize lastNode? nodes edge.fromNode = before at advances ⊢
  generalize lastNode? moved edge.fromNode = after at advances ⊢
  cases advances with
  | same =>
    cases before with
    | none => exact .inl ⟨rfl, rfl⟩
    | some source => exact .inr ⟨_, _, rfl, rfl, .inr rfl⟩
  | ended source running => exact .inr ⟨_, _, rfl, rfl, .inl (if_pos running)⟩

theorem branchVotes_settle {edges : List WorkflowEdgeV1} (advances : ∀ edge ∈ edges,
      SourceAdvances (lastNode? nodes edge.fromNode) (lastNode? moved edge.fromNode)) :
    edges.mapM (branchVote nodes) = none ∧ edges.mapM (branchVote moved) = none ∨
      ∃ votes settled, edges.mapM (branchVote nodes) = some votes ∧
        edges.mapM (branchVote moved) = some settled ∧ Settled votes settled := by
  induction edges with
  | nil => exact .inr ⟨[], [], rfl, rfl, .nil⟩
  | cons edge rest ih =>
    obtain ⟨first, others⟩ := List.forall_mem_cons.mp advances
    simp only [List.mapM_cons, Option.bind_eq_bind, Option.pure_def]
    rcases branchVote_settles first with ⟨missing, still⟩ | ⟨vote, later, here, there, settles⟩
    · exact .inl ⟨by rw [missing]; rfl, by rw [still]; rfl⟩
    · rw [here, there]
      rcases ih others with ⟨missing, still⟩ | ⟨votes, laters, before, after, settled⟩
      · exact .inl ⟨by rw [missing]; rfl, by rw [still]; rfl⟩
      · rw [before, after]
        exact .inr ⟨vote :: votes, later :: laters, rfl, rfl, .cons settles settled⟩

theorem thresholdOf_positive {join : Option WorkflowJoinPolicyV1}
    (valid : ∀ policy, join = some policy → validateJoin policy = .ok policy) :
    (thresholdOf join).Positive := by
  cases join with
  | none => exact trivial
  | some policy =>
    cases policy with
    | all => exact trivial
    | any => exact Int.one_pos
    | quorum minimum =>
      have accepted := valid _ rfl
      simp only [validateJoin, bind_eq_ok, ensure_eq_ok, positiveInteger,
        decide_eq_true_eq] at accepted
      obtain ⟨_, ⟨positive, _⟩, _⟩ := accepted
      exact positive

/-- **An answer other than `waiting` lasts while sources that were not final move on.** -/
theorem readiness_lasts (advance : SourcesAdvance projection later nodeId)
    (decided : workflowNodeReadinessV1 projection nodeId ≠ .waiting)
    (positive : workflowNodeReadinessV1 projection nodeId = .ready →
      (thresholdOf (joinOf projection nodeId)).Positive) :
    workflowNodeReadinessV1 later nodeId = workflowNodeReadinessV1 projection nodeId := by
  have edges : incomingEdges later nodeId = incomingEdges projection nodeId := by
    rw [incomingEdges, advance.graph, ← incomingEdges]
  have joins : joinOf later nodeId = joinOf projection nodeId := by
    rw [joinOf, advance.graph, ← joinOf]
  by_cases reached : incomingEdges projection nodeId = []
  · have none : workflowNodeReadinessV1 projection nodeId = .ready := if_pos reached
    have still : workflowNodeReadinessV1 later nodeId = .ready := if_pos (edges.trans reached)
    rw [none, still]
  · rw [readiness_eq reached] at decided positive ⊢
    rw [readiness_eq (by rwa [edges]), edges, joins]
    rcases branchVotes_settle advance.sources with
      ⟨missing, still⟩ | ⟨votes, laters, before, after, settled⟩
    · rw [missing, still]
    · rw [before] at decided positive ⊢
      rw [after]
      simp only at decided positive ⊢
      generalize thresholdOf (joinOf projection nodeId) = threshold at decided positive ⊢
      cases given : verdict threshold votes with
      | waiting =>
        rw [given] at decided
        exact absurd rfl decided
      | passed =>
        rw [given] at positive
        rw [passed_lasts (positive rfl) settled given]
      | empty => rw [empty_lasts settled given]
      | lost =>
        rcases lost_lasts settled given with lost | ⟨some, empty⟩
        · rw [lost]
        · rw [empty, readinessOf, readinessOf, if_neg some]

/-- **Verdicts given early are sound.** However the sources that are not yet final end, a node
that was found ready stays ready, and one that was found blocked is not found ready. -/
theorem early_verdicts_sound
    (valid : ∀ policy, joinOf projection nodeId = some policy → validateJoin policy = .ok policy)
    (assigned : SourcesAdvance projection later nodeId) :
    (workflowNodeReadinessV1 projection nodeId = .ready →
      workflowNodeReadinessV1 later nodeId = .ready) ∧
    (workflowNodeReadinessV1 projection nodeId = .blocked →
      workflowNodeReadinessV1 later nodeId ≠ .ready) := by
  have positive := thresholdOf_positive valid
  constructor
  · intro ready
    rw [readiness_lasts assigned (by rw [ready]; decide) fun _ => positive, ready]
  · intro blocked
    rw [readiness_lasts assigned (by rw [blocked]; decide) fun _ => positive, blocked]
    decide

theorem any_join_decided_early :
    workflowNodeReadinessV1 (forkProjection (some .any) none .succeeded .failed) "next" =
      .ready := by
  have advances : SourcesAdvance (forkProjection (some .any) none .succeeded .running)
      (forkProjection (some .any) none .succeeded .failed) "next" := by
    refine ⟨rfl, fun edge incoming => ?_⟩
    have sources : edge.fromNode = "left" ∨ edge.fromNode = "right" := by
      simpa [incomingEdges, forkProjection, forkSpec] using
        List.mem_map_of_mem (f := (·.fromNode)) incoming
    rcases sources with left | right
    · rw [left]
      exact .same _
    · rw [right]
      exact .ended _ (by decide)
  refine (early_verdicts_sound ?_ advances).1 (by decide +kernel)
  intro policy given
  cases Option.some.inj given
  rfl

end Advancing

/-! ## Final sources that change -/

/-- The event does not take a source of the node out of `unknown` or `failed`. -/
def KeepsOutcome (nodeId : String) (current : WorkflowProjectionV1) (event : WorkflowEventV1) :
    Prop :=
  ∀ change, event.data = .nodeStateChanged change →
    (∃ edge ∈ incomingEdges current nodeId, edge.fromNode = change.nodeId) →
    ∀ node ∈ current.nodes, node.nodeId = change.nodeId →
      node.state ≠ .unknown ∧ node.state ≠ .failed

/-- None of the events does, each in the state in which it comes. -/
def KeepsOutcomes (nodeId : String) : WorkflowProjectionV1 → List WorkflowEventV1 → Prop
  | _, [] => True
  | current, event :: rest => KeepsOutcome nodeId current event ∧
      ∀ next, applyWorkflowEventV1 current event = .ok next → KeepsOutcomes nodeId next rest

section Pruning

variable {projection later current next : WorkflowProjectionV1} {nodeId : String}

theorem final_left {state target : WorkflowNodeStateV1} (final : state ∈ terminalNodes)
    (legal : target ∈ nodeTransitions state) : state = .unknown ∨ state = .failed := by
  cases state <;> simp_all [terminalNodes, nodeTransitions]

theorem lastNode?_mem {nodes : List WorkflowNodeProjectionV1} {node : WorkflowNodeProjectionV1}
    (found : lastNode? nodes nodeId = some node) : node ∈ nodes ∧ node.nodeId = nodeId := by
  rw [lastNode?, List.findRev?_eq_find?_reverse] at found
  exact ⟨List.mem_reverse.mp (List.mem_of_find?_eq_some found),
    by simpa using List.find?_some found⟩

theorem lastNode?_changeNode (nodes : List WorkflowNodeProjectionV1)
    (change : NodeStateChangedV1) (nodeId : String) :
    lastNode? (changeNode nodes change) nodeId = (lastNode? nodes nodeId).map fun node =>
      if node.nodeId = change.nodeId then node.change change else node := by
  rw [lastNode?, lastNode?, List.findRev?_eq_find?_reverse, List.findRev?_eq_find?_reverse,
    changeNode, ← List.map_reverse, List.find?_map]
  congr 2
  funext node
  by_cases changed : node.nodeId = change.nodeId <;>
    simp [changed, WorkflowNodeProjectionV1.change]

theorem KeepsOutcome.advances {event : WorkflowEventV1} {change : NodeStateChangedV1}
    (keeps : KeepsOutcome nodeId current event) (changes : event.data = .nodeStateChanged change)
    (accepted : applyWorkflowEventV1 current event = .ok next) :
    SourcesAdvance current next nodeId := by
  obtain ⟨_, content, effect, rfl⟩ := applyWorkflowEventV1_iff.mp accepted
  rw [changes, effect_nodeChanged] at effect
  obtain ⟨_, legal, rfl⟩ := effect
  refine ⟨rfl, fun edge incoming => ?_⟩
  change SourceAdvances _ (lastNode? (changeNode current.nodes change) edge.fromNode)
  rw [lastNode?_changeNode]
  cases found : lastNode? current.nodes edge.fromNode with
  | none => exact .same none
  | some source =>
    obtain ⟨member, here⟩ := lastNode?_mem found
    rw [Option.map_some]
    by_cases changed : source.nodeId = change.nodeId
    · refine .ended _ fun final => ?_
      obtain ⟨known, held⟩ :=
        keeps change changes ⟨edge, incoming, here.symm.trans changed⟩ source member changed
      rcases final_left final (legal source member changed) with unknown | failed
      · exact known unknown
      · exact held failed
    · rw [if_neg changed]
      exact .same _

theorem KeepsOutcomes.pruned {events : List WorkflowEventV1}
    (changes : ∀ event ∈ events, ∃ change, event.data = .nodeStateChanged change)
    (accepted : events.foldlM applyWorkflowEventV1 current = .ok later)
    (keeps : KeepsOutcomes nodeId current events)
    (pruned : workflowNodeReadinessV1 current nodeId = .skipped ∨
      workflowNodeReadinessV1 current nodeId = .blocked) :
    workflowNodeReadinessV1 later nodeId = workflowNodeReadinessV1 current nodeId := by
  induction events generalizing current with
  | nil => rw [foldlM_nil_eq_ok.mp accepted]
  | cons event rest ih =>
    obtain ⟨⟨change, here⟩, others⟩ := List.forall_mem_cons.mp changes
    obtain ⟨middle, step, more⟩ := foldlM_cons_eq_ok.mp accepted
    obtain ⟨kept, still⟩ := keeps
    have same : workflowNodeReadinessV1 middle nodeId =
        workflowNodeReadinessV1 current nodeId := by
      refine readiness_lasts (kept.advances here step) ?_ ?_
      · intro waiting
        rcases pruned with skipped | blocked
        · rw [waiting] at skipped
          cases skipped
        · rw [waiting] at blocked
          cases blocked
      · intro ready
        rcases pruned with skipped | blocked
        · rw [ready] at skipped
          cases skipped
        · rw [ready] at blocked
          cases blocked
    rw [ih others more (still middle step) (by rwa [same]), same]

/-- **Pruning is irrevocable while no outcome is taken back.** Whatever changes of node states
are accepted, none of which takes a source out of `unknown` or `failed`, a node that was skipped
or blocked is not found ready. -/
theorem pruning_irrevocable {events : List WorkflowEventV1}
    (changes : ∀ event ∈ events, ∃ change, event.data = .nodeStateChanged change)
    (accepted : events.foldlM applyWorkflowEventV1 projection = .ok later)
    (keeps : KeepsOutcomes nodeId projection events)
    (pruned : workflowNodeReadinessV1 projection nodeId = .skipped ∨
      workflowNodeReadinessV1 projection nodeId = .blocked) :
    workflowNodeReadinessV1 later nodeId ≠ .ready := by
  rw [keeps.pruned changes accepted pruned]
  rcases pruned with skipped | blocked
  · rw [skipped]
    decide
  · rw [blocked]
    decide

theorem failed_branch_stays_pruned :
    ∃ later, applyWorkflowEventV1 (forkProjection none none .failed .running)
        (stateEvent 2 "right" .succeeded) = .ok later ∧
      workflowNodeReadinessV1 later "next" ≠ .ready := by
  cases accepted : applyWorkflowEventV1 (forkProjection none none .failed .running)
      (stateEvent 2 "right" .succeeded) with
  | error error =>
    have fine : (applyWorkflowEventV1 (forkProjection none none .failed .running)
        (stateEvent 2 "right" .succeeded)).isOk = true := by decide +kernel
    rw [accepted] at fine
    cases fine
  | ok later =>
    refine ⟨later, rfl, ?_⟩
    have run : [stateEvent 2 "right" .succeeded].foldlM applyWorkflowEventV1
        (forkProjection none none .failed .running) = .ok later := by
      rw [List.foldlM_cons, accepted]
      rfl
    refine pruning_irrevocable ?_ run ⟨?_, fun _ _ => trivial⟩ (.inr (by decide +kernel))
    · intro event single
      rw [List.mem_singleton.mp single]
      exact ⟨_, rfl⟩
    · intro change same _ node member here
      cases same
      simp only [forkProjection, List.mem_cons, List.not_mem_nil, or_false] at member
      rcases member with rfl | rfl | rfl
      · exact absurd here (by decide)
      · decide
      · exact absurd here (by decide)

/-- **An operator's resolution makes a pruned node runnable.** The left task is unknown, so the
node after it is blocked; then the task is resolved as succeeded, and with the other one the node
is ready. -/
theorem pruned_work_runnable :
    ¬ ∀ (history events : List WorkflowEventV1) (nodeId : String)
        (projection later : WorkflowProjectionV1),
      reduceWorkflowEventsV1 history = .ok projection →
      (∀ event ∈ events, ∃ change, event.data = .nodeStateChanged change ∧
        ∃ edge ∈ incomingEdges projection nodeId, edge.fromNode = change.nodeId) →
      events.foldlM applyWorkflowEventV1 projection = .ok later →
      (workflowNodeReadinessV1 projection nodeId = .skipped ∨
        workflowNodeReadinessV1 projection nodeId = .blocked) →
      workflowNodeReadinessV1 later nodeId ≠ .ready := by
  intro always
  let history := forkHistory none
    [("left", .admitted), ("left", .scheduled), ("left", .leased), ("left", .unknown)]
  let events := [stateEvent 6 "left" .succeeded, stateEvent 7 "right" .admitted,
    stateEvent 8 "right" .scheduled, stateEvent 9 "right" .succeeded]
  have blocked : (reduceWorkflowEventsV1 history).toOption.any (fun projection =>
      (decide (workflowNodeReadinessV1 projection "next" = .blocked) &&
        decide ((incomingEdges projection "next").map (·.fromNode) = ["left", "right"])) &&
        (events.foldlM applyWorkflowEventV1 projection).toOption.any fun later =>
          decide (workflowNodeReadinessV1 later "next" = .ready)) = true := by decide +kernel
  obtain ⟨projection, reduced, resolved⟩ := exists_ok blocked
  obtain ⟨before, resolved⟩ := Bool.and_eq_true_iff.mp resolved
  obtain ⟨pruned, sources⟩ := Bool.and_eq_true_iff.mp before
  obtain ⟨later, accepted, ready⟩ := exists_ok resolved
  refine always history events "next" projection later reduced ?_ accepted
    (.inr (of_decide_eq_true pruned)) (of_decide_eq_true ready)
  have incoming : ∀ nodeId ∈ ["left", "right"], ∃ edge ∈ incomingEdges projection "next",
      edge.fromNode = nodeId := by
    rw [← of_decide_eq_true sources]
    simp
  intro event member
  simp only [events, List.mem_cons, List.not_mem_nil, or_false] at member
  rcases member with rfl | rfl | rfl | rfl
  · exact ⟨_, rfl, incoming "left" (by decide)⟩
  · exact ⟨_, rfl, incoming "right" (by decide)⟩
  · exact ⟨_, rfl, incoming "right" (by decide)⟩
  · exact ⟨_, rfl, incoming "right" (by decide)⟩

end Pruning

/-! ## Branches that a condition selects -/

def ConditionHolds (projection : WorkflowProjectionV1) (edge : WorkflowEdgeV1) : Prop :=
  ∃ source, lastNode? projection.nodes edge.fromNode = some source ∧ edgeMatches source edge = true

/-- Every incoming edge carries a condition and comes from a final source. -/
structure ConditionedNode (projection : WorkflowProjectionV1) (nodeId : String) : Prop where
  noJoin : joinOf projection nodeId = none
  conditions : ∀ edge ∈ incomingEdges projection nodeId, edge.condition ≠ none
  final : ∀ edge ∈ incomingEdges projection nodeId, ∃ source,
    lastNode? projection.nodes edge.fromNode = some source ∧ source.state ∈ terminalNodes

instance (projection : WorkflowProjectionV1) (edge : WorkflowEdgeV1) :
    Decidable (ConditionHolds projection edge) :=
  decidable_of_iff ((lastNode? projection.nodes edge.fromNode).any (edgeMatches · edge) = true)
    (by rw [ConditionHolds, Option.any_eq_true])

theorem conditionedNode_iff :
    ConditionedNode projection nodeId ↔ joinOf projection nodeId = none ∧
      ∀ edge ∈ incomingEdges projection nodeId, edge.condition ≠ none ∧
        (lastNode? projection.nodes edge.fromNode).any (fun source =>
          decide (source.state ∈ terminalNodes)) = true := by
  simp only [Option.any_eq_true, decide_eq_true_eq, forall_and]
  exact ⟨fun held => ⟨held.noJoin, held.conditions, held.final⟩,
    fun ⟨noJoin, conditions, final⟩ => ⟨noJoin, conditions, final⟩⟩

instance (projection : WorkflowProjectionV1) (nodeId : String) :
    Decidable (ConditionedNode projection nodeId) :=
  decidable_of_iff _ conditionedNode_iff.symm

/-- The conditions alone decide about the node: a branch whose condition holds counts as
satisfied, one such branch releases the node, and without one it is skipped. -/
structure MatchesRelease (projection : WorkflowProjectionV1) (nodeId : String) : Prop where
  satisfied : ∀ edge ∈ incomingEdges projection nodeId, ConditionHolds projection edge →
    ∀ counts, countBranch projection.nodes counts edge = some
      { counts with active := counts.active + 1, succeeded := counts.succeeded + 1 }
  released : (∃ edge ∈ incomingEdges projection nodeId, ConditionHolds projection edge) →
    workflowNodeReadinessV1 projection nodeId = .ready
  skipped : (∀ edge ∈ incomingEdges projection nodeId, ¬ ConditionHolds projection edge) →
    workflowNodeReadinessV1 projection nodeId = .skipped

section Releasing

variable {projection : WorkflowProjectionV1} {nodeId : String}

theorem branchVotes_of {nodes : List WorkflowNodeProjectionV1} {edges : List WorkflowEdgeV1}
    {fact : WorkflowEdgeV1 → Vote → Prop}
    (each : ∀ edge ∈ edges, ∃ vote, branchVote nodes edge = some vote ∧ fact edge vote) :
    ∃ votes, edges.mapM (branchVote nodes) = some votes ∧
      (∀ vote ∈ votes, ∃ edge ∈ edges, fact edge vote) ∧
      ∀ edge ∈ edges, ∃ vote ∈ votes, fact edge vote := by
  induction edges with
  | nil => exact ⟨[], rfl, by simp, by simp⟩
  | cons edge rest ih =>
    obtain ⟨⟨vote, here, holds⟩, others⟩ := List.forall_mem_cons.mp each
    obtain ⟨votes, mapped, from_, to_⟩ := ih others
    refine ⟨vote :: votes, by simp [here, mapped], ?_, ?_⟩
    · rw [List.forall_mem_cons]
      refine ⟨⟨edge, List.mem_cons_self .., holds⟩, fun other member => ?_⟩
      obtain ⟨source, incoming, fact⟩ := from_ other member
      exact ⟨source, List.mem_cons_of_mem _ incoming, fact⟩
    · rw [List.forall_mem_cons]
      refine ⟨⟨vote, List.mem_cons_self .., holds⟩, fun other member => ?_⟩
      obtain ⟨source, voted, fact⟩ := to_ other member
      exact ⟨source, List.mem_cons_of_mem _ voted, fact⟩

theorem sourceVote_of_final {edge : WorkflowEdgeV1} {source : WorkflowNodeProjectionV1}
    (conditional : edge.condition ≠ none) (final : source.state ∈ terminalNodes) :
    sourceVote edge source = if edgeMatches source edge = false then .withdrawn
      else if source.state = .succeeded then .granted else .refused := by
  simp [sourceVote, final, conditional]

theorem add_satisfied {counts : BranchCounts} {vote : Vote} :
    counts.add vote =
      { counts with active := counts.active + 1, succeeded := counts.succeeded + 1 } ↔
      vote = .granted := by
  cases vote <;> simp [BranchCounts.add, activeVotes]

/-- **Matching conditions release the branch exactly if only succeeded sources match.** A node
without incoming edges is ready whatever its conditions say. -/
theorem matching_conditions_release_iff (conditioned : ConditionedNode projection nodeId) :
    MatchesRelease projection nodeId ↔
      incomingEdges projection nodeId ≠ [] ∧
      ∀ edge ∈ incomingEdges projection nodeId, ∀ source,
        lastNode? projection.nodes edge.fromNode = some source →
        edgeMatches source edge = true → source.state = .succeeded := by
  have vote : ∀ edge ∈ incomingEdges projection nodeId, ∀ source,
      lastNode? projection.nodes edge.fromNode = some source →
      branchVote projection.nodes edge = some (if edgeMatches source edge = false then .withdrawn
        else if source.state = .succeeded then .granted else .refused) := by
    intro edge incoming source found
    obtain ⟨other, there, final⟩ := conditioned.final edge incoming
    obtain rfl := Option.mem_unique found there
    rw [branchVote, found, Option.map_some,
      sourceVote_of_final (conditioned.conditions edge incoming) final]
  constructor
  · intro releases
    refine ⟨?_, fun edge incoming source found matched => ?_⟩
    · intro none
      have ready : workflowNodeReadinessV1 projection nodeId = .ready := if_pos none
      have skipped := releases.skipped (by simp [none])
      rw [ready] at skipped
      cases skipped
    · by_contra other
      have counted := releases.satisfied edge incoming ⟨source, found, matched⟩ {}
      rw [countBranch_eq, vote edge incoming source found, Option.map_some, Option.some.injEq,
        add_satisfied] at counted
      simp [matched, other] at counted
  · rintro ⟨reached, succeeded⟩
    have known : ∀ edge ∈ incomingEdges projection nodeId, ∃ vote,
        branchVote projection.nodes edge = some vote ∧
          (ConditionHolds projection edge ∧ vote = .granted ∨
            ¬ ConditionHolds projection edge ∧ vote = .withdrawn) := by
      intro edge incoming
      obtain ⟨source, found, _⟩ := conditioned.final edge incoming
      refine ⟨_, vote edge incoming source found, ?_⟩
      by_cases matched : edgeMatches source edge = true
      · refine .inl ⟨⟨source, found, matched⟩, ?_⟩
        simp [matched, succeeded edge incoming source found matched]
      · refine .inr ⟨?_, by simp [matched]⟩
        rintro ⟨other, there, holds⟩
        obtain rfl := Option.mem_unique found there
        exact matched holds
    obtain ⟨votes, mapped, fromEdges, toVotes⟩ := branchVotes_of known
    have answer := readiness_eq reached
    rw [mapped, conditioned.noJoin] at answer
    constructor
    case satisfied =>
      intro edge incoming holds counts
      obtain ⟨vote, here, granted | ⟨never, _⟩⟩ := known edge incoming
      · rw [countBranch_eq, here, Option.map_some, Option.some.injEq, add_satisfied]
        exact granted.2
      · exact absurd holds never
    case released =>
      rintro ⟨edge, incoming, holds⟩
      have unrefused : votes.count .refused = 0 := by
        refine List.count_eq_zero.mpr fun refused => ?_
        obtain ⟨_, _, ⟨_, other⟩ | ⟨_, other⟩⟩ := fromEdges _ refused <;> cases other
      have closed : votes.count .undecided = 0 := by
        refine List.count_eq_zero.mpr fun undecided => ?_
        obtain ⟨_, _, ⟨_, other⟩ | ⟨_, other⟩⟩ := fromEdges _ undecided <;> cases other
      have granted : 0 < votes.count .granted := by
        obtain ⟨vote, voted, ⟨_, rfl⟩ | ⟨never, _⟩⟩ := toVotes edge incoming
        · exact List.count_pos_iff.mpr voted
        · exact absurd holds never
      have passed : verdict .all votes = .passed := by
        rw [verdict_eq_passed, activeVotes_eq, Threshold.minimum]
        omega
      rw [answer]
      simp only [thresholdOf, passed, readinessOf]
    case skipped =>
      intro never
      have withdrawn : ∀ vote ∈ votes, vote = .withdrawn := by
        intro vote voted
        obtain ⟨edge, incoming, ⟨holds, _⟩ | ⟨_, dropped⟩⟩ := fromEdges vote voted
        · exact absurd holds (never edge incoming)
        · exact dropped
      have empty : verdict .all votes = .empty := by
        rw [verdict_eq_empty, activeVotes, List.countP_eq_zero]
        intro vote voted
        simp [withdrawn vote voted]
      rw [answer]
      simp only [thresholdOf, empty, readinessOf, if_true]

def statusIs (state : WorkflowNodeStateV1) : WorkflowEdgeConditionV1 where
  operator := .statusIs
  value := some (.str state.text)

theorem success_branch_released :
    MatchesRelease (forkProjection none (some (statusIs .succeeded)) .succeeded .failed)
      "next" := by
  have matched : ∀ edge ∈ incomingEdges
      (forkProjection none (some (statusIs .succeeded)) .succeeded .failed) "next",
      (lastNode? (forkProjection none (some (statusIs .succeeded)) .succeeded .failed).nodes
        edge.fromNode).all (fun source =>
          !edgeMatches source edge || decide (source.state = .succeeded)) = true := by
    decide +kernel
  refine (matching_conditions_release_iff (by decide +kernel)).mpr ⟨by decide +kernel, ?_⟩
  intro edge incoming source found holds
  have fine := matched edge incoming
  rw [found, Option.all_some, holds] at fine
  simpa using fine

/-- **A branch on failure is never released.** The tasks failed as the condition asks, and the
node after them is blocked. -/
theorem failure_branch_blocked :
    ¬ ∀ (history : List WorkflowEventV1) (projection : WorkflowProjectionV1) (nodeId : String),
      reduceWorkflowEventsV1 history = .ok projection →
      ConditionedNode projection nodeId → MatchesRelease projection nodeId := by
  intro always
  let history := forkHistory (some (statusIs .failed))
    [("left", .admitted), ("left", .failed), ("right", .admitted), ("right", .failed)]
  have blocked : (reduceWorkflowEventsV1 history).toOption.any (fun projection =>
      decide (workflowNodeReadinessV1 projection "next" = .blocked) &&
        (decide (ConditionedNode projection "next") &&
          decide (∃ edge ∈ incomingEdges projection "next", ConditionHolds projection edge))) =
      true := by decide +kernel
  obtain ⟨projection, reduced, held⟩ := exists_ok blocked
  obtain ⟨lost, held⟩ := Bool.and_eq_true_iff.mp held
  obtain ⟨conditioned, selected⟩ := Bool.and_eq_true_iff.mp held
  have releases := always history projection "next" reduced (of_decide_eq_true conditioned)
  have ready := releases.released (of_decide_eq_true selected)
  rw [of_decide_eq_true lost] at ready
  cases ready

end Releasing

end Praxis.Workflow
