import Praxis.Durable.Coherence

/-!
# The operations' events keep coherence

The events of each operation, read as groups of events that keep a projection coherent. What
an operation has checked before it appends its events, or what it was promised about the task
it works on (`Owns`), are the hypotheses. Whether the reducer accepts the events is not asked
here: `KeepsCoherent` is about the data that it accepts.
-/

namespace Praxis.Workflow

set_option autoImplicit false

open Praxis.Foundations

def KeepsCoherent (lax : Bool) (current : WorkflowProjectionV1)
    (data : List WorkflowEventDataV1) : Prop :=
  ∀ ⦃next⦄, Applies current data next → Coherent lax next

def Owns (projection : WorkflowProjectionV1) (attemptId nodeId : String) : Prop :=
  ∃ attempt, findAttempt? projection.attempts attemptId = some attempt ∧ attempt.nodeId = nodeId

theorem Owns.persists {current next : WorkflowProjectionV1} {attemptId nodeId : String}
    (owns : Owns current attemptId nodeId) (persists : Persists current next) :
    Owns next attemptId nodeId := by
  obtain ⟨attempt, found, owner⟩ := owns
  obtain ⟨later, there, follows⟩ := persists.attempts attemptId attempt found
  exact ⟨later, there, follows.nodeId.trans owner⟩

theorem WellFormed.findAttempt? {projection : WorkflowProjectionV1}
    (wellFormed : WellFormed projection) {attempt : WorkflowAttemptProjectionV1}
    (member : attempt ∈ projection.attempts) :
    Workflow.findAttempt? projection.attempts attempt.attemptId = some attempt := by
  cases found : Workflow.findAttempt? projection.attempts attempt.attemptId with
  | none =>
    have absent := List.find?_eq_none.mp found attempt member
    simp at absent
  | some other =>
    obtain ⟨present, same⟩ := findAttempt?_mem found
    rw [List.inj_on_of_nodup_map wellFormed.distinctAttempts present member same]

section Groups

variable {lax : Bool} {current next : WorkflowProjectionV1}
  {data more : List WorkflowEventDataV1}

theorem KeepsCoherent.nil (coherent : Coherent lax current) : KeepsCoherent lax current [] := by
  intro next applies
  rw [applies_nil.mp applies]
  exact coherent

theorem KeepsCoherent.append (first : KeepsCoherent lax current data)
    (second : ∀ middle, Applies current data middle → Coherent lax middle →
      KeepsCoherent lax middle more) : KeepsCoherent lax current (data ++ more) := by
  intro next applies
  obtain ⟨middle, front, back⟩ := applies_append.mp applies
  exact second middle front (first front) back

theorem Coherent.keepsNeutral (coherent : Coherent lax current)
    (neutral : ∀ event ∈ data, event.isNeutral = true) : KeepsCoherent lax current data :=
  fun _ applies => coherent.neutrals neutral applies

/-! ## An attempt and its node -/

variable {change : AttemptStateChangedV1} {node : WorkflowNodeProjectionV1}
  {nodeId attemptId : String} {attempt oldAttempt : WorkflowAttemptProjectionV1}
  {code : Option String} {task : WorkflowTaskV1} {attemptState : WorkflowAttemptStateV1}
  {nodeState : WorkflowNodeStateV1} {kind : WorkflowNodeKindV1} {event : WorkflowEventDataV1}
  {nodes : List WorkflowNodeProjectionV1} {readiness : WorkflowNodeReadinessV1}
  {topology : WorkflowTopologyV1} {edges : List WorkflowEdgeV1} {scheduled closed : Bool}
  {ordinal : Nat} {now at_ : Timestamp} {state : WorkflowNodeStateV1}

section

variable (coherent : Coherent lax current)
include coherent

theorem Coherent.settle {nodeChange : NodeStateChangedV1}
    (owns : Owns current change.attemptId nodeChange.nodeId)
    (pair : paired lax (isClosed current.state) nodeChange.state (some change.state) = true) :
    KeepsCoherent lax current [.attemptStateChanged change, .nodeStateChanged nodeChange] := by
  intro next applies
  obtain ⟨middle, first, second⟩ := applies_cons.mp applies
  obtain ⟨_, legal, rfl⟩ := effect_attemptChanged.mp first
  obtain ⟨_, _, rfl⟩ := effect_nodeChanged.mp (applies_singleton.mp second)
  obtain ⟨attempt, found, owner⟩ := owns
  obtain ⟨member, same⟩ := findAttempt?_mem found
  exact coherent.settled member same owner (legal attempt member same) pair

theorem Coherent.activate {nodeChange : NodeStateChangedV1}
    (owns : Owns current change.attemptId nodeChange.nodeId)
    (pair : paired lax (isClosed current.state) nodeChange.state (some change.state) = true) :
    KeepsCoherent lax current [.nodeStateChanged nodeChange, .attemptStateChanged change] := by
  intro next applies
  obtain ⟨middle, first, second⟩ := applies_cons.mp applies
  obtain ⟨_, _, rfl⟩ := effect_nodeChanged.mp first
  obtain ⟨_, legal, rfl⟩ := effect_attemptChanged.mp (applies_singleton.mp second)
  obtain ⟨attempt, found, owner⟩ := owns
  obtain ⟨member, same⟩ := findAttempt?_mem found
  exact coherent.settled member same owner (legal attempt member same) pair

theorem Coherent.settle_lastState
    {nodeChange : NodeStateChangedV1} (owns : Owns current change.attemptId nodeChange.nodeId)
    (applies : Applies current [.attemptStateChanged change, .nodeStateChanged nodeChange] next) :
    next.lastState nodeChange.nodeId = some change.state := by
  obtain ⟨middle, first, second⟩ := applies_cons.mp applies
  obtain ⟨_, legal, rfl⟩ := effect_attemptChanged.mp first
  obtain ⟨_, _, rfl⟩ := effect_nodeChanged.mp (applies_singleton.mp second)
  obtain ⟨attempt, found, owner⟩ := owns
  obtain ⟨member, same⟩ := findAttempt?_mem found
  have settled := (coherent.attemptsOf_settled member same (legal attempt member same)).1
  rw [owner] at settled
  change (((current.attemptChanged change).attemptsOf nodeChange.nodeId).getLast?.map _) = _
  rw [settled, List.getLast?_concat]
  rfl

/-! ## Nodes alone -/

theorem Coherent.nodeChanges {changes : List NodeStateChangedV1}
    (pairs : ∀ change ∈ changes, paired lax (isClosed current.state) change.state
      (current.lastState change.nodeId) = true) :
    KeepsCoherent lax current (changes.map .nodeStateChanged) := by
  induction changes generalizing current with
  | nil => exact .nil coherent
  | cons change rest ih =>
    intro next applies
    obtain ⟨middle, effect, others⟩ := applies_cons.mp applies
    obtain ⟨_, _, rfl⟩ := effect_nodeChanged.mp effect
    rw [List.forall_mem_cons] at pairs
    exact ih (coherent.nodeChanged pairs.1) pairs.2 others

theorem Coherent.nodeChange {change : NodeStateChangedV1}
    (pair : paired lax (isClosed current.state) change.state
      (current.lastState change.nodeId) = true) :
    KeepsCoherent lax current [.nodeStateChanged change] := by
  intro next applies
  obtain ⟨_, _, rfl⟩ := effect_nodeChanged.mp (applies_singleton.mp applies)
  exact coherent.nodeChanged pair

theorem Coherent.paired_of_find (found : findNode? current.nodes nodeId = some node) :
    paired lax (isClosed current.state) node.state (current.lastState nodeId) = true := by
  obtain ⟨member, rfl⟩ := findNode?_mem found
  exact coherent.pairs node member

theorem Coherent.lastState_of_admitted
    {change : NodeStateChangedV1} (admitted : change.state = .admitted)
    (effect : WorkflowEventEffect current (.nodeStateChanged change) next) :
    current.attemptsOf change.nodeId = [] := by
  obtain ⟨⟨node, member, same⟩, legal, _⟩ := effect_nodeChanged.mp effect
  have state : node.state = .proposed := by
    have legal := legal node member same
    rw [admitted] at legal
    cases before : node.state <;> simp [before, nodeTransitions] at legal
    rfl
  have pair := coherent.pairs node member
  rw [state, same] at pair
  cases last : current.lastState change.nodeId with
  | none =>
    rw [WorkflowProjectionV1.lastState, Option.map_eq_none_iff, List.getLast?_eq_none_iff] at last
    exact last
  | some attempt =>
    rw [last] at pair
    cases attempt <;> cases pair

/-! ## New attempts -/

theorem Coherent.admit (first : NodeStateChangedV1)
    (rest after : List NodeStateChangedV1) {last : NodeStateChangedV1}
    (own : (∀ change ∈ first :: rest, change.nodeId = attempt.nodeId) ∧
      ∀ change ∈ after, change.nodeId = attempt.nodeId) (admitted : first.state = .admitted)
    (ordinal : attempt.ordinal = 1) (final : ((first :: rest) ++ after).getLast? = some last)
    (pair : paired lax (isClosed current.state) last.state (some attempt.state) = true)
    (join : ∀ spec ∈ current.spec.nodes, spec.nodeId = attempt.nodeId → spec.join = none) :
    KeepsCoherent lax current ((first :: rest).map .nodeStateChanged ++
      .attemptCreated attempt :: after.map .nodeStateChanged) := by
  intro next applies
  obtain ⟨_, effect, _⟩ := applies_cons.mp applies
  have none := coherent.lastState_of_admitted admitted effect
  rw [own.1 first (List.mem_cons_self ..)] at none
  refine coherent.attemptAdded own applies (fun old member => ?_) final pair join
    (fun spec member _ => ?_)
  · rw [none] at member
    exact absurd member List.not_mem_nil
  · rw [ordinal]
    exact (coherent.valid.nodes spec member).attempts

theorem Coherent.admission
    (join : ∀ spec ∈ current.spec.nodes, spec.nodeId = nodeId → spec.join = none) :
    KeepsCoherent lax current (admissionEvents nodeId attemptId scheduled) := by
  cases scheduled with
  | false =>
    exact coherent.admit { nodeId, state := .admitted } [] []
      ⟨by simp [scheduledAttempt], by simp⟩ rfl rfl rfl rfl join
  | true =>
    exact coherent.admit { nodeId, state := .admitted } [{ nodeId, state := .scheduled }] []
      ⟨by simp [scheduledAttempt], by simp⟩ rfl rfl rfl rfl join

theorem Coherent.all_failed
    (failed : current.lastState nodeId = some .failed) : current.attemptsOf nodeId ≠ [] ∧
      ∀ attempt ∈ current.attemptsOf nodeId, attempt.state = .failed := by
  obtain ⟨last, found, state⟩ := Option.map_eq_some_iff.mp failed
  obtain ⟨front, split⟩ := List.getLast?_eq_some_iff.mp found
  refine ⟨by simp [split], fun attempt member => ?_⟩
  have earlier := coherent.superseded nodeId attempt
  rw [split, List.dropLast_concat] at earlier
  rw [split, List.mem_append, List.mem_singleton] at member
  rcases member with before | rfl
  · exact earlier before
  · exact state

theorem Coherent.reschedule (failed : current.lastState nodeId = some .failed)
    (bound : ∀ spec ∈ current.spec.nodes, spec.nodeId = nodeId →
      (ordinal : Int) ≤ spec.retry.maxAttempts) : KeepsCoherent lax current
      [.nodeStateChanged { nodeId, state := .retryWait, errorCode := code },
        .attemptCreated (scheduledAttempt attemptId nodeId ordinal),
        .nodeStateChanged { nodeId, state := .scheduled }] := by
  intro next applies
  obtain ⟨nonempty, all⟩ := coherent.all_failed failed
  have join : ∀ spec ∈ current.spec.nodes, spec.nodeId = nodeId → spec.join = none := by
    intro spec member same
    cases join : spec.join with
    | none => rfl
    | some policy =>
      have none := coherent.joins spec member (by rw [join]; rfl)
      rw [same] at none
      exact absurd none nonempty
  have applies : Applies current
      ([{ nodeId, state := .retryWait, errorCode := code }].map .nodeStateChanged ++
        .attemptCreated (scheduledAttempt attemptId nodeId ordinal) ::
          [{ nodeId, state := .scheduled }].map .nodeStateChanged) next := applies
  exact coherent.attemptAdded ⟨by simp [scheduledAttempt], by simp [scheduledAttempt]⟩ applies all
    rfl rfl join bound

/-! ## Leases and outcomes -/

theorem Coherent.lease
    (owns : Owns current task.attemptId task.nodeId) (lease : WorkflowTaskLeaseV1)
    (now : Timestamp) : KeepsCoherent lax current (leaseEvents task lease now) :=
  coherent.activate owns rfl

theorem Coherent.settleEvents {code : String} (owns : Owns current task.attemptId task.nodeId)
    (pair : paired lax (isClosed current.state) nodeState (some attemptState) = true) :
    KeepsCoherent lax current (settleEvents task attemptState nodeState code now) :=
  coherent.settle owns pair

end

structure TaskLinked (projection : WorkflowProjectionV1) (task : WorkflowTaskV1) : Prop where
  specified : ∃ node ∈ projection.spec.nodes, node.nodeId = task.nodeId ∧ node.retry = task.retry
  owns : Owns projection task.attemptId task.nodeId

theorem Coherent.maxAttempts_eq (coherent : Coherent lax current)
    (linked : TaskLinked current task) : ∀ spec ∈ current.spec.nodes, spec.nodeId = task.nodeId →
      spec.retry.maxAttempts = task.retry.maxAttempts := by
  intro spec member same
  obtain ⟨node, present, own, retry⟩ := linked.specified
  rw [List.inj_on_of_nodup_map coherent.valid.distinct member present (same.trans own.symm), retry]

/-- Events that change neither the graph nor its specification. -/
def WorkflowEventDataV1.keepsSpecNodes : WorkflowEventDataV1 → Bool
  | .graphPatched .. | .executionTaskAdmitted .. => false
  | _ => true

theorem Applies.spec_nodes (applies : Applies current data next)
    (keeps : ∀ event ∈ data, event.keepsSpecNodes = true) :
    next.spec.nodes = current.spec.nodes := by
  induction data generalizing current with
  | nil =>
    rw [applies_nil.mp applies]
  | cons event rest ih =>
    obtain ⟨middle, effect, others⟩ := applies_cons.mp applies
    rw [List.forall_mem_cons] at keeps
    rw [ih others keeps.2]
    cases effect with
    | graphPatched => cases keeps.1
    | taskAdmitted => cases keeps.1
    | _ => rfl

section

variable (coherent : Coherent lax current)
include coherent

theorem Coherent.failAndReschedule
    {nodeChange : NodeStateChangedV1} (linked : TaskLinked current task)
    (own : change.attemptId = task.attemptId ∧ nodeChange.nodeId = task.nodeId)
    (failed : change.state = .failed ∧ nodeChange.state = .failed)
    (bound : (ordinal : Int) < task.retry.maxAttempts) : KeepsCoherent lax current
      ([.attemptStateChanged change, .nodeStateChanged nodeChange] ++
        [.nodeStateChanged { nodeId := task.nodeId, state := .retryWait, errorCode := code },
          .attemptCreated (scheduledAttempt attemptId task.nodeId (ordinal + 1)),
          .nodeStateChanged { nodeId := task.nodeId, state := .scheduled }]) := by
  have owns : Owns current change.attemptId nodeChange.nodeId := by
    rw [own.1, own.2]
    exact linked.owns
  refine (coherent.settle owns (by rw [failed.1, failed.2]; rfl)).append
    fun middle settled middleCoherent => middleCoherent.reschedule ?_ fun spec member same => ?_
  · rw [← own.2, ← failed.1]
    exact coherent.settle_lastState owns settled
  · have nodes := settled.spec_nodes (by simp [WorkflowEventDataV1.keepsSpecNodes])
    rw [nodes] at member
    have policy := coherent.maxAttempts_eq linked spec member same
    omega

/-! ## Recovery -/

theorem Coherent.node_of_held (found : findAttempt? current.attempts attemptId = some attempt)
    (owner : attempt.nodeId = nodeId) (held : attempt.state = .leased ∨ attempt.state = .running) :
    ∃ node, findNode? current.nodes nodeId = some node ∧
      ((attempt.state = .leased ∧ node.state = .leased) ∨
        (attempt.state = .running ∧ node.state = .running) ∨
        (node.state = .cancelled ∧ lax = true ∧ isClosed current.state = true)) := by
  obtain ⟨member, _⟩ := findAttempt?_mem found
  have house := coherent.housed attempt member
  rw [owner] at house
  cases present : findNode? current.nodes nodeId with
  | none => exact absurd house (findNode?_eq_none.mp present)
  | some node =>
    have pair := coherent.paired_of_find present
    rw [← owner, coherent.lastState_eq member (by rcases held with h | h <;> simp [h])] at pair
    refine ⟨node, rfl, ?_⟩
    rcases held with state | state <;> rw [state] at pair <;>
      cases there : node.state <;> rw [there] at pair <;> simp_all [paired]

theorem Coherent.terminalRecovery
    (found : findAttempt? current.attempts task.attemptId = some oldAttempt)
    (owner : oldAttempt.nodeId = task.nodeId)
    (held : oldAttempt.state = .leased ∨ oldAttempt.state = .running) :
    KeepsCoherent lax current (terminalRecoveryEvents current oldAttempt task now) := by
  obtain ⟨node, present, states⟩ := coherent.node_of_held found owner held
  have live : oldAttempt.state ∉
      [WorkflowAttemptStateV1.succeeded, .failed, .cancelled, .unknown] := by
    rcases held with state | state <;> simp [state]
  rw [terminalRecoveryEvents, if_neg live, present]
  by_cases cancelled : node.state = .cancelled
  · simp only [cancelled, List.mem_cons, true_or, or_true, if_true]
    intro next applies
    obtain ⟨_, legal, rfl⟩ := effect_attemptChanged.mp (applies_singleton.mp applies)
    obtain ⟨member, same⟩ := findAttempt?_mem found
    refine coherent.attemptChanged member same (legal oldAttempt member same) fun other there own => ?_
    obtain ⟨inside, id⟩ := findNode?_mem present
    rw [List.inj_on_of_nodup_map coherent.wellFormed.distinctNodes there inside
      (own.trans (owner.trans id.symm)), cancelled]
    rfl
  · have open_ : node.state ∉
        [WorkflowNodeStateV1.succeeded, .failed, .cancelled, .skipped, .unknown] := by
      rcases states with ⟨_, state⟩ | ⟨_, state⟩ | ⟨state, _⟩
      · simp [state]
      · simp [state]
      · exact absurd state cancelled
    simp only [if_neg open_]
    exact coherent.settle ⟨oldAttempt, found, owner⟩ rfl

theorem Coherent.recovery (linked : TaskLinked current task)
    (bound : (recoveryDecision task oldAttempt).decision = .retry →
      (oldAttempt.ordinal : Int) < task.retry.maxAttempts) :
    KeepsCoherent lax current (recoveryEvents task (recoveryDecision task oldAttempt)
      (scheduledAttempt attemptId task.nodeId (oldAttempt.ordinal + 1)) now) := by
  rw [recoveryEvents]
  refine (coherent.settleEvents linked.owns rfl).append fun middle settled middleCoherent => ?_
  have persists := settled.persists
  have later : TaskLinked middle task := by
    refine ⟨?_, linked.owns.persists persists⟩
    rw [settled.spec_nodes (by simp [Workflow.settleEvents, WorkflowEventDataV1.keepsSpecNodes])]
    exact linked.specified
  split
  · rename_i retry
    exact middleCoherent.failAndReschedule later ⟨rfl, rfl⟩ ⟨rfl, rfl⟩ (bound retry)
  · exact middleCoherent.settleEvents later.owns rfl
  · exact .nil middleCoherent

/-! ## Wake-ups -/

theorem Coherent.attemptIds_last (member : node ∈ current.nodes) :
    node.attemptIds.getLast? =
      (current.attemptsOf node.nodeId).getLast?.map (·.attemptId) := by
  rw [coherent.wellFormed.owned node member, List.getLast?_map]

theorem Coherent.owns_last (member : node ∈ current.nodes)
    (last : node.attemptIds.getLast? = some attemptId) : Owns current attemptId node.nodeId := by
  rw [coherent.attemptIds_last member] at last
  obtain ⟨attempt, found, rfl⟩ := Option.map_eq_some_iff.mp last
  obtain ⟨present, owner⟩ := mem_attemptsOf.mp (List.mem_of_getLast? found)
  exact ⟨attempt, coherent.wellFormed.findAttempt? present, owner⟩

theorem Coherent.wakeNode
    (pair : paired lax (isClosed current.state) nodeState (some attemptState) = true) :
    KeepsCoherent lax current
      (wakeNodeEvents current nodeId kind attemptState nodeState code at_) := by
  rw [wakeNodeEvents]
  split
  · rename_i node spec found _
    obtain ⟨member, rfl⟩ := findNode?_mem found
    split
    · rename_i attemptId last
      split
      · exact coherent.settle (coherent.owns_last member last) pair
      · exact .nil coherent
    · exact .nil coherent
  · exact .nil coherent

end

theorem resumeIfWaiting_neutral :
    ∀ event ∈ resumeIfWaiting current, event.isNeutral = true := by
  rw [resumeIfWaiting]
  split <;> simp [WorkflowEventDataV1.isNeutral]

theorem applies_recorded (only : event.isRecordOnly = true) :
    Applies current (event :: data) next ↔ Applies current data next := by
  constructor
  · intro applies
    obtain ⟨middle, effect, others⟩ := applies_cons.mp applies
    cases effect with
    | recorded => exact others
    | announced announces => cases event <;> cases announces <;> cases only
    | _ => cases only
  · exact fun applies => applies_cons.mpr ⟨current, .recorded only, applies⟩

theorem Coherent.wakeUp (coherent : Coherent lax current) (only : event.isRecordOnly = true)
    (pair : paired lax (isClosed current.state) nodeState (some attemptState) = true) :
    KeepsCoherent lax current (event ::
      (wakeNodeEvents current nodeId kind attemptState nodeState code at_ ++
        resumeIfWaiting current)) := by
  have both : KeepsCoherent lax current
      (wakeNodeEvents current nodeId kind attemptState nodeState code at_ ++
        resumeIfWaiting current) :=
    (coherent.wakeNode pair).append fun _ _ middleCoherent =>
      middleCoherent.keepsNeutral resumeIfWaiting_neutral
  exact fun _ applies => both ((applies_recorded only).mp applies)

theorem HumanResolutionV1.pair (state : HumanResolutionV1) (closed : Bool) :
    paired lax closed state.nodeState (some state.attemptState) = true := by
  cases state <;> rfl

theorem UnknownResolutionV1.pair (resolution : UnknownResolutionV1) (closed : Bool) :
    paired lax closed resolution.nodeState (some resolution.attemptState) = true := by
  cases resolution <;> rfl

/-! ## Completion -/

section Completion

variable {claim : WorkflowTaskClaimV1} {outcome : WorkflowOutcomeV1} {at_ : Timestamp}

theorem accountingEvents_neutral :
    ∀ event ∈ accountingEvents claim outcome, event.isNeutral = true := by
  intro event member
  simp only [accountingEvents, List.mem_append, List.mem_map] at member
  rcases member with ⟨_, _, rfl⟩ | ⟨_, _, rfl⟩ <;> rfl

theorem rootFailureEvents_neutral (retried : Bool) :
    ∀ event ∈ rootFailureEvents claim outcome retried, event.isNeutral = true := by
  rw [rootFailureEvents]
  split <;> simp [WorkflowEventDataV1.isNeutral]

theorem WorkflowEventDataV1.keepsSpecNodes_of_neutral {event : WorkflowEventDataV1}
    (neutral : event.isNeutral = true) : event.keepsSpecNodes = true := by
  cases event <;> first | rfl | cases neutral

theorem CompletionV1.pair (completion : CompletionV1) (closed : Bool) :
    paired lax closed completion.nodeState (some completion.attemptState) = true := by
  cases completion <;> rfl

theorem retriedAttempt_eq_some {attempt : WorkflowAttemptProjectionV1}
    (retried : retriedAttempt claim outcome current = some attempt) :
    findAttempt? current.attempts claim.task.attemptId = some attempt ∧
      completion claim outcome = .failed ∧
      (attempt.ordinal : Int) < claim.task.retry.maxAttempts := by
  simp only [retriedAttempt, Option.filter_eq_some_iff, Bool.and_eq_true, beq_iff_eq,
    decide_eq_true_eq] at retried
  obtain ⟨found, ⟨⟨failed, _⟩, _⟩, bound⟩ := retried
  exact ⟨found, failed, bound⟩

theorem Coherent.completionEvents (coherent : Coherent lax current)
    (linked : TaskLinked current claim.task)
    {retry : Option (WorkflowAttemptProjectionV1 × WorkflowTaskV1)}
    (retried : ∀ attempt task, retry = some (attempt, task) → completion claim outcome = .failed ∧
        (attempt.ordinal : Int) < claim.task.retry.maxAttempts) : KeepsCoherent lax current
      (completionTransaction claim outcome current at_ retry).events := by
  have parts : (completionTransaction claim outcome current at_ retry).events =
      accountingEvents claim outcome ++ ((outcomeEvents claim outcome at_ ++
        retry.toList.flatMap fun entry =>
          rescheduleEvents claim.task.nodeId entry.2.attemptId (entry.1.ordinal + 1)) ++
        rootFailureEvents claim outcome retry.isSome) := by
    simp only [completionTransaction, List.append_assoc]
  rw [parts]
  refine (coherent.keepsNeutral accountingEvents_neutral).append
    fun middle accounted middleCoherent => KeepsCoherent.append ?_ fun _ _ lastCoherent =>
      lastCoherent.keepsNeutral (rootFailureEvents_neutral _)
  have later : TaskLinked middle claim.task := by
    refine ⟨?_, linked.owns.persists accounted.persists⟩
    rw [accounted.spec_nodes fun event member =>
      WorkflowEventDataV1.keepsSpecNodes_of_neutral (accountingEvents_neutral event member)]
    exact linked.specified
  cases retry with
  | none =>
    rw [Option.toList_none, List.flatMap_nil, List.append_nil]
    exact middleCoherent.settle later.owns ((completion claim outcome).pair _)
  | some entry =>
    obtain ⟨failed, bound⟩ := retried entry.1 entry.2 rfl
    rw [Option.toList_some, List.flatMap_singleton]
    exact middleCoherent.failAndReschedule later ⟨rfl, rfl⟩ (by simp [failed,
      CompletionV1.attemptState, CompletionV1.nodeState]) bound

end Completion

/-! ## The scheduler -/

/-- The states in which an attempt still is to run or runs. -/
def liveAttempts : List WorkflowAttemptStateV1 := [.scheduled, .leased, .running, .waiting]

/-- A node that is pruned: its last attempt, if it has one, is cancelled with it. -/
structure Prunable (current : WorkflowProjectionV1) (node : WorkflowNodeProjectionV1) : Prop where
  owns : ∀ attemptId, node.attemptIds.getLast? = some attemptId →
    Owns current attemptId node.nodeId
  empty : node.attemptIds.getLast? = none → current.attemptsOf node.nodeId = []

theorem Coherent.prunable (coherent : Coherent lax current) (member : node ∈ current.nodes) :
    Prunable current node where
  owns := fun _ last => coherent.owns_last member last
  empty := fun none => by
    rw [coherent.attemptIds_last member, Option.map_eq_none_iff, List.getLast?_eq_none_iff] at none
    exact none

def WorkflowEventDataV1.addsAttempt : WorkflowEventDataV1 → Bool
  | .attemptCreated .. | .executionTaskAdmitted .. => true
  | _ => false

theorem Applies.attemptsOf_nil (applies : Applies current data next)
    (none : ∀ event ∈ data, event.addsAttempt = false) (empty : current.attemptsOf nodeId = []) :
    next.attemptsOf nodeId = [] := by
  induction data generalizing current with
  | nil =>
    rw [applies_nil.mp applies]
    exact empty
  | cons event rest ih =>
    obtain ⟨middle, effect, others⟩ := applies_cons.mp applies
    rw [List.forall_mem_cons] at none
    refine ih others none.2 ?_
    cases effect with
    | taskAdmitted => cases none.1
    | attemptCreated => cases none.1
    | attemptChanged =>
      rw [attemptsOf_changed, empty]
      rfl
    | _ => exact empty

theorem Prunable.applies {node : WorkflowNodeProjectionV1} (prunable : Prunable current node)
    (applies : Applies current data next) (none : ∀ event ∈ data, event.addsAttempt = false) :
    Prunable next node where
  owns := fun attemptId last => (prunable.owns attemptId last).persists applies.persists
  empty := fun last => applies.attemptsOf_nil none (prunable.empty last)

theorem pruneEvents_addsAttempt {code : String} :
    ∀ event ∈ pruneEvents state code at_ node, event.addsAttempt = false := by
  intro event member
  simp only [pruneEvents, List.mem_append, List.mem_map, List.mem_singleton] at member
  rcases member with ⟨_, _, rfl⟩ | rfl <;> rfl

theorem Coherent.prune (coherent : Coherent lax current) {code : String}
    (prunable : ∀ node ∈ nodes, Prunable current node) (pair : state = .skipped ∨ state = .failed) :
    KeepsCoherent lax current (nodes.flatMap (pruneEvents state code at_)) := by
  induction nodes generalizing current with
  | nil => exact .nil coherent
  | cons node rest ih =>
    rw [List.forall_mem_cons] at prunable
    have first : KeepsCoherent lax current (pruneEvents state code at_ node) := by
      rw [pruneEvents]
      cases last : node.attemptIds.getLast? with
      | none =>
        have none : current.lastState node.nodeId = none := by
          rw [WorkflowProjectionV1.lastState, prunable.1.empty last]
          rfl
        refine coherent.nodeChange ?_
        rw [none]
        rcases pair with rfl | rfl <;> rfl
      | some attemptId =>
        refine coherent.settle (prunable.1.owns attemptId last) ?_
        rcases pair with rfl | rfl <;> rfl
    refine first.append fun middle applies middleCoherent =>
      ih middleCoherent fun other member => ?_
    exact (prunable.2 other member).applies applies pruneEvents_addsAttempt

theorem mem_frontier {nodeIds : List String} (member : node ∈ frontier current nodeIds readiness) :
    node ∈ current.nodes ∧ node.state = .admitted := by
  rw [frontier, List.mem_filter, decide_eq_true_eq] at member
  exact ⟨member.1, member.2.2.1⟩

theorem Coherent.scheduleReady (coherent : Coherent lax current)
    (admitted : ∀ node ∈ nodes, node ∈ current.nodes ∧ node.state = .admitted) :
    KeepsCoherent lax current
      (nodes.map fun node => .nodeStateChanged { nodeId := node.nodeId, state := .scheduled }) := by
  have changes : (nodes.map fun node => WorkflowEventDataV1.nodeStateChanged
      { nodeId := node.nodeId, state := .scheduled }) =
      (nodes.map fun node => ({ nodeId := node.nodeId, state := .scheduled } :
        NodeStateChangedV1)).map .nodeStateChanged := by
    rw [List.map_map]
    rfl
  rw [changes]
  refine coherent.nodeChanges fun change member => ?_
  obtain ⟨node, there, rfl⟩ := List.mem_map.mp member
  obtain ⟨inside, state⟩ := admitted node there
  have pair := coherent.pairs node inside
  rw [state] at pair
  cases last : current.lastState node.nodeId with
  | none => rfl
  | some attempt =>
    rw [last] at pair
    cases attempt <;> first | rfl | cases pair

theorem Coherent.scheduleEvents (coherent : Coherent lax current)
    {ready skipped blocked : List WorkflowNodeProjectionV1} {skip block : String}
    (scheduled : ∀ node ∈ ready, node ∈ current.nodes ∧ node.state = .admitted)
    (pruned : (∀ node ∈ skipped, node ∈ current.nodes) ∧ ∀ node ∈ blocked, node ∈ current.nodes) :
    KeepsCoherent lax current
      ((ready.map fun node => .nodeStateChanged { nodeId := node.nodeId, state := .scheduled }) ++
        skipped.flatMap (pruneEvents .skipped skip at_) ++
        blocked.flatMap (pruneEvents .failed block at_)) := by
  have moved : ∀ event ∈ ready.map fun node => WorkflowEventDataV1.nodeStateChanged
      { nodeId := node.nodeId, state := .scheduled }, event.addsAttempt = false := by
    intro event member
    obtain ⟨_, _, rfl⟩ := List.mem_map.mp member
    rfl
  refine ((coherent.scheduleReady scheduled).append fun middle applies middleCoherent =>
    middleCoherent.prune (fun node member => ?_) (.inl rfl)).append
      fun middle applies middleCoherent =>
        middleCoherent.prune (fun node member => ?_) (.inr rfl)
  · exact (coherent.prunable (pruned.1 node member)).applies applies moved
  · refine (coherent.prunable (pruned.2 node member)).applies applies fun event there => ?_
    rcases List.mem_append.mp there with first | second
    · exact moved event first
    · obtain ⟨other, _, inside⟩ := List.mem_flatMap.mp second
      exact pruneEvents_addsAttempt event inside

theorem Coherent.resolveJoin (coherent : Coherent lax current)
    (join : ∃ spec ∈ current.spec.nodes, spec.nodeId = nodeId ∧ spec.join.isSome = true) :
    KeepsCoherent lax current (joinEvents nodeId readiness) := by
  obtain ⟨spec, member, rfl, policy⟩ := join
  have none : current.lastState spec.nodeId = none := by
    rw [WorkflowProjectionV1.lastState, coherent.joins spec member policy]
    rfl
  have fits : ∀ changes : List NodeStateChangedV1, (∀ change ∈ changes,
      change.nodeId = spec.nodeId ∧
        paired lax (isClosed current.state) change.state .none = true) →
      KeepsCoherent lax current (changes.map .nodeStateChanged) := by
    intro changes all
    refine coherent.nodeChanges fun change there => ?_
    rw [(all change there).1, none]
    exact (all change there).2
  cases readiness with
  | ready =>
    exact fits [{ nodeId := spec.nodeId, state := .scheduled },
      { nodeId := spec.nodeId, state := .succeeded }] (by simp [paired])
  | skipped =>
    exact fits
      [{ nodeId := spec.nodeId, state := .skipped, errorCode := some "WORKFLOW_JOIN_EMPTY" }]
      (by simp [paired])
  | blocked | waiting =>
    exact fits
      [{ nodeId := spec.nodeId
         state := .failed
         errorCode := some "WORKFLOW_QUORUM_UNREACHABLE" }]
      (by simp [paired])

/-! ## Cancellation -/

/-- No attempt of the node still is to run or runs. -/
def Idle (current : WorkflowProjectionV1) (nodeId : String) : Prop :=
  ∀ attempt ∈ current.attempts, attempt.nodeId = nodeId → attempt.state ∉ liveAttempts

theorem Idle.lastState (idle : Idle current nodeId) :
    ∀ state, current.lastState nodeId = some state → state ∉ liveAttempts := by
  intro state last
  obtain ⟨attempt, found, rfl⟩ := Option.map_eq_some_iff.mp last
  obtain ⟨member, owner⟩ := mem_attemptsOf.mp (List.mem_of_getLast? found)
  exact idle attempt member owner

theorem live_of_paired {node : WorkflowNodeStateV1}
    {attempt : WorkflowAttemptStateV1} (pair : paired false closed node (some attempt) = true)
    (cancellable : node ∈ cancellableNodes ∨ node ∈ openNodes) : attempt ∈ liveAttempts := by
  cases node <;> cases attempt <;> first
    | (cases pair; done)
    | (simp [cancellableNodes, openNodes] at cancellable; done)
    | simp [liveAttempts]

theorem paired_abandoned {before : Bool} {node : WorkflowNodeStateV1}
    {attempt : WorkflowAttemptStateV1} (pair : paired true before node (some attempt) = true)
    (cancellable : node ∈ cancellableNodes ∨ node ∈ openNodes ∧ closed = true) :
    paired true closed .cancelled (some attempt) = true := by
  cases node <;> cases attempt <;> first
    | (cases pair; done)
    | rfl
    | (simp [cancellableNodes, openNodes] at cancellable; done)
    | simpa [paired, cancellableNodes, openNodes] using cancellable

/-- A cancelled node fits what it left behind, where it may leave something behind. -/
theorem Coherent.paired_cancelled (coherent : Coherent lax current) (member : node ∈ current.nodes)
    (cancellable : node.state ∈ cancellableNodes ∨ node.state ∈ openNodes ∧ closed = true)
    (idle : lax = false → Idle current node.nodeId) :
    paired lax closed .cancelled (current.lastState node.nodeId) = true := by
  have pair := coherent.pairs node member
  cases last : current.lastState node.nodeId with
  | none => rfl
  | some attempt =>
    rw [last] at pair
    cases lax with
    | true => exact paired_abandoned pair cancellable
    | false =>
      have live := live_of_paired pair (cancellable.imp_right And.left)
      exact absurd live ((idle rfl).lastState attempt last)

theorem Coherent.cancelEach (coherent : Coherent lax current)
    (pairs : ∀ node ∈ nodes, paired lax (isClosed current.state) .cancelled
      (current.lastState node.nodeId) = true) : KeepsCoherent lax current (nodes.map fun node =>
      .nodeStateChanged { nodeId := node.nodeId, state := .cancelled, errorCode := code }) := by
  have changes : (nodes.map fun node => WorkflowEventDataV1.nodeStateChanged
      { nodeId := node.nodeId, state := .cancelled, errorCode := code }) =
      (nodes.map fun node => ({ nodeId := node.nodeId, state := .cancelled, errorCode := code } :
        NodeStateChangedV1)).map .nodeStateChanged := by
    rw [List.map_map]
    rfl
  rw [changes]
  refine coherent.nodeChanges fun change member => ?_
  obtain ⟨node, there, rfl⟩ := List.mem_map.mp member
  exact pairs node there

theorem Coherent.cancelEvents (coherent : Coherent lax current) {code : String}
    (idle : lax = false → ∀ node ∈ current.nodes, node.state ∈ openNodes →
      Idle current node.nodeId) :
    KeepsCoherent lax current (.workflowCancelling code ::
      ((current.nodes.filter fun node => node.state ∈ openNodes).map fun node =>
        .nodeStateChanged
          { nodeId := node.nodeId, state := .cancelled, errorCode := some code }) ++
      [.workflowTerminal .cancelled (some code)]) := by
  have first : KeepsCoherent lax current [.workflowCancelling code] :=
    coherent.keepsNeutral (by simp [WorkflowEventDataV1.isNeutral])
  refine (first.append fun middle applies middleCoherent => ?_).append fun _ _ lastCoherent =>
    lastCoherent.keepsNeutral (by simp [WorkflowEventDataV1.isNeutral])
  obtain ⟨_, rfl⟩ := (effect_announced rfl).mp (applies_singleton.mp applies)
  refine middleCoherent.cancelEach fun node member => ?_
  simp only [List.mem_filter, decide_eq_true_eq] at member
  exact coherent.paired_cancelled member.1 (.inr ⟨member.2, rfl⟩) fun strict =>
    idle strict node member.1 member.2

/-! ## Admission -/

theorem extendedSpec_nodes {nodes : List WorkflowNodeSpecV1} :
    (extendedSpec current topology nodes edges).nodes = current.spec.nodes ++ nodes := rfl

section

variable (coherent : Coherent lax current)
include coherent

theorem Coherent.extend {nodes : List WorkflowNodeSpecV1}
    (after : ∀ middle, Coherent lax middle → middle.spec.nodes = current.spec.nodes ++ nodes →
      KeepsCoherent lax middle data) :
    KeepsCoherent lax current (.graphPatched (extendedSpec current topology nodes edges) ::
      .workflowTopologyChanged topology :: data) := by
  intro next applies
  obtain ⟨patched, effect, others⟩ := applies_cons.mp applies
  have wellFormed := coherent.wellFormed
  have patchedCoherent := coherent.graphPatched effect
    ⟨wellFormed.workflowId, wellFormed.runId, wellFormed.sessionId⟩
    fun node member => List.mem_append_left _ member
  obtain ⟨middle, changed, rest⟩ := applies_cons.mp others
  have middleCoherent := patchedCoherent.neutral rfl changed
  refine after middle middleCoherent ?_ rest
  obtain ⟨_, _, _, rfl⟩ := effect_graphPatched.mp effect
  have nodes := (applies_singleton.mpr changed).spec_nodes
    (by simp [WorkflowEventDataV1.keepsSpecNodes])
  rw [nodes]
  rfl

theorem Coherent.spec_unique {node spec : WorkflowNodeSpecV1} (there : node ∈ current.spec.nodes)
    (member : spec ∈ current.spec.nodes) (same : spec.nodeId = node.nodeId) : spec = node :=
  List.inj_on_of_nodup_map coherent.valid.distinct member there same

theorem Coherent.admitNode {node : WorkflowNodeSpecV1} (join : node.join = none) :
    KeepsCoherent lax current (.graphPatched (extendedSpec current topology [node] []) ::
      .workflowTopologyChanged topology :: admissionEvents node.nodeId attemptId true) := by
  refine coherent.extend fun middle middleCoherent nodes => middleCoherent.admission ?_
  intro spec member same
  have there : node ∈ middle.spec.nodes := by simp [nodes]
  rw [middleCoherent.spec_unique there member same, join]

theorem Coherent.admitWaiting {node : WorkflowNodeSpecV1}
    (join : node.join = none) (neutral : ∀ event ∈ data, event.isNeutral = true) :
    KeepsCoherent lax current (.graphPatched (extendedSpec current topology [node] []) ::
      .workflowTopologyChanged topology ::
      ([.nodeStateChanged { nodeId := node.nodeId, state := .admitted },
        .attemptCreated { scheduledAttempt attemptId node.nodeId 1 with state := .waiting },
        .nodeStateChanged { nodeId := node.nodeId, state := .waiting }] ++ data)) := by
  refine coherent.extend fun middle middleCoherent nodes =>
    KeepsCoherent.append ?_ fun _ _ lastCoherent => lastCoherent.keepsNeutral neutral
  refine middleCoherent.admit { nodeId := node.nodeId, state := .admitted } []
    [{ nodeId := node.nodeId, state := .waiting }]
    ⟨by simp [scheduledAttempt], by simp [scheduledAttempt]⟩ rfl rfl rfl rfl ?_
  intro spec member same
  have there : node ∈ middle.spec.nodes := by simp [nodes]
  rw [middleCoherent.spec_unique there member same, join]

end

theorem admissionEvents_keepsSpecNodes :
    ∀ event ∈ admissionEvents nodeId attemptId scheduled, event.keepsSpecNodes = true := by
  cases scheduled <;> simp [admissionEvents, WorkflowEventDataV1.keepsSpecNodes]

theorem Coherent.admitEach {entries : List AdmittedGraphNode} (coherent : Coherent lax current)
    (specified : ∀ entry ∈ entries, entry.node ∈ current.spec.nodes ∧ entry.node.join = none) :
    KeepsCoherent lax current (entries.flatMap fun entry =>
      admissionEvents entry.node.nodeId entry.task.attemptId (startsAtOnce entry.proposal)) := by
  induction entries generalizing current with
  | nil => exact .nil coherent
  | cons entry rest ih =>
    rw [List.forall_mem_cons] at specified
    obtain ⟨⟨there, join⟩, others⟩ := specified
    have first : KeepsCoherent lax current
        (admissionEvents entry.node.nodeId entry.task.attemptId (startsAtOnce entry.proposal)) :=
      coherent.admission fun spec member same => by
        rw [coherent.spec_unique there member same, join]
    refine first.append fun middle applies middleCoherent => ih middleCoherent ?_
    rw [applies.spec_nodes admissionEvents_keepsSpecNodes]
    exact others

theorem Coherent.agentGraph (coherent : Coherent lax current) {workflowId proposalId : String}
    {join : Option AgentGraphJoinV1} {admitted : List AdmittedGraphNode}
    (joins : ∀ entry ∈ admitted, entry.node.join = none) : KeepsCoherent lax current
      (agentGraphTransaction current workflowId proposalId join admitted at_).events := by
  simp only [agentGraphTransaction, List.cons_append]
  refine coherent.extend fun middle middleCoherent nodes => ?_
  have first : KeepsCoherent lax middle (join.toList.map fun _ => .nodeStateChanged
      { nodeId := joinNodeId proposalId, state := .admitted }) := by
    cases join with
    | none => exact .nil middleCoherent
    | some policy =>
      intro next applies
      have effect := applies_singleton.mp applies
      have none := middleCoherent.lastState_of_admitted rfl effect
      refine middleCoherent.nodeChange ?_ applies
      rw [WorkflowProjectionV1.lastState, none]
      rfl
  refine first.append fun last applies lastCoherent => lastCoherent.admitEach fun entry member => ?_
  have keeps : ∀ event ∈ join.toList.map fun _ => WorkflowEventDataV1.nodeStateChanged
      { nodeId := joinNodeId proposalId, state := .admitted }, event.keepsSpecNodes = true := by
    intro event there
    obtain ⟨_, _, rfl⟩ := List.mem_map.mp there
    rfl
  rw [applies.spec_nodes keeps, nodes]
  exact ⟨by simp [List.mem_map_of_mem member], joins entry member⟩

theorem start_coherent {spec : WorkflowSpecV1} {initial : WorkflowProjectionV1}
    (start : initialWorkflowProjectionV1 spec = .ok initial)
    (join : ∀ node ∈ spec.nodes, node.join = none) :
    KeepsCoherent lax initial (.workflowCreated spec :: .workflowStarted ::
      admissionEvents "root" attemptId true) := by
  have coherent : Coherent lax initial := initial_coherent start
  have first : KeepsCoherent lax initial [.workflowCreated spec, .workflowStarted] :=
    coherent.keepsNeutral (by simp [WorkflowEventDataV1.isNeutral])
  have nodes : initial.spec.nodes = spec.nodes := by
    obtain ⟨_, rfl⟩ := initialWorkflowProjectionV1_eq_ok start
    rfl
  refine first.append fun middle applies middleCoherent =>
    middleCoherent.admission fun node member _ => ?_
  rw [applies.spec_nodes (by simp [WorkflowEventDataV1.keepsSpecNodes]), nodes] at member
  exact join node member

end Groups

end Praxis.Workflow
