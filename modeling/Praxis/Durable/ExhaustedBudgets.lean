import Praxis.Durable.DelegatedGrants
import Praxis.Durable.OrphanedActivities

/-!
# Exhausted budgets

The operations that add agent work check the budgets of the workflow first, each with a check of
its own. In every run the agent nodes of a workflow stay within its budget of them
(`Fleet.Step.budgeted`). Once the time, the tool calls or the tokens of a workflow are used up, a
delegation, a graph proposal and a tool activity are refused; an agent graph is not, since its
operation compares counts of nodes only.
-/

namespace Praxis.Workflow

set_option autoImplicit false

open Praxis.Foundations

/-! ## Agent nodes within the budget -/

/-- The nodes that count as agent tasks. -/
def WorkflowSpecV1.agentNodes (spec : WorkflowSpecV1) : List WorkflowNodeSpecV1 :=
  spec.nodes.filter isAgentNode

def WithinBudget (spec : WorkflowSpecV1) : Prop :=
  ((spec.agentNodes.length : Nat) : Int) ≤ spec.budget.maxAgentTasks

/-- Every workflow of the journal is within its budget. -/
def Journal.Budgeted (journal : Journal) : Prop :=
  ∀ workflowId projection, journal.loadProjection workflowId = .ok projection →
    WithinBudget projection.spec

def KeepsBudget (current : WorkflowProjectionV1) (data : List WorkflowEventDataV1) : Prop :=
  WithinBudget current.spec → ∀ next, Applies current data next → WithinBudget next.spec

section Events

variable {current next : WorkflowProjectionV1} {data : List WorkflowEventDataV1}
  {spec : WorkflowSpecV1}

theorem Applies.budget (applies : Applies current data next)
    (keeps : ∀ event ∈ data, event.keepsSpecNodes = true) :
    next.spec.budget = current.spec.budget := by
  induction data generalizing current with
  | nil => rw [applies_nil.mp applies]
  | cons event rest ih =>
    obtain ⟨middle, effect, others⟩ := applies_cons.mp applies
    obtain ⟨here, later⟩ := List.forall_mem_cons.mp keeps
    rw [ih others later]
    cases effect with
    | graphPatched => cases here
    | taskAdmitted => cases here
    | _ => rfl

theorem WithinBudget.congr {spec' : WorkflowSpecV1} (within : WithinBudget spec)
    (nodes : spec'.nodes = spec.nodes) (budget : spec'.budget = spec.budget) :
    WithinBudget spec' := by
  rw [WithinBudget, WorkflowSpecV1.agentNodes, nodes, budget]
  exact within

theorem KeepsBudget.of_keeps (keeps : ∀ event ∈ data, event.keepsSpecNodes = true) :
    KeepsBudget current data := by
  intro within next applies
  exact within.congr (applies.spec_nodes keeps) (applies.budget keeps)

theorem KeepsBudget.of_patch (within : WithinBudget current.spec → WithinBudget spec)
    (keeps : ∀ event ∈ data, event.keepsSpecNodes = true) :
    KeepsBudget current (.graphPatched spec :: data) := by
  intro before next applies
  obtain ⟨middle, patch, others⟩ := applies_cons.mp applies
  obtain ⟨_, _, _, rfl⟩ := effect_graphPatched.mp patch
  exact (within before).congr (others.spec_nodes keeps) (others.budget keeps)

theorem WithinBudget.without (nodeIds : List String) :
    (spec.without nodeIds).agentNodes.length ≤ spec.agentNodes.length := by
  rw [WorkflowSpecV1.agentNodes, WorkflowSpecV1.without]
  exact ((List.filter_sublist).filter isAgentNode).length_le

end Events

/-! ## The operations on the store -/

section Stores

variable {store after : AuthorityStore}

theorem Journal.budgeted_empty : Journal.empty.Budgeted := by
  intro workflowId projection loaded
  cases loaded

variable {journal written : Journal} {transactionId nodeId : String} {task : WorkflowTaskV1}
  {attemptState : WorkflowAttemptStateV1} {nodeState : WorkflowNodeStateV1} {code : Option String}
  {projection : WorkflowProjectionV1} {attempt : WorkflowAttemptProjectionV1} {now : Timestamp}
  {kind : WorkflowNodeKindV1} {workflowId : String} {at_ : Timestamp}
  {data : List WorkflowEventDataV1} {current next : WorkflowProjectionV1}

theorem Appended.budgeted
    (appended : Appended journal written workflowId transactionId at_ data current next)
    (agrees : journal.Agrees) (budgeted : journal.Budgeted) (keeps : KeepsBudget current data) :
    written.Budgeted := by
  intro other projection loaded
  rw [appended.loadProjection agrees] at loaded
  split at loaded
  · obtain ⟨content, applies, same⟩ := appended.advances.applies
    obtain rfl := Except.ok.inj loaded
    rw [same]
    exact keeps (budgeted workflowId current appended.loaded) content applies
  · exact budgeted other projection loaded

/-- A step of the authority that leaves the graph alone. -/
theorem Appended.keeps
    (appended : Appended journal written workflowId transactionId at_ data current next)
    (agrees : journal.Agrees) (budgeted : journal.Budgeted)
    (keeps : ∀ event ∈ data, event.keepsSpecNodes = true) : written.Agrees ∧ written.Budgeted :=
  ⟨(appended.progress agrees).agrees, appended.budgeted agrees budgeted (.of_keeps keeps)⟩

theorem transact_budgeted {input : WorkflowTransactionV1}
    (agrees : store.journal.Agrees) (budgeted : store.journal.Budgeted)
    (keeps : ∀ current, store.journal.loadProjection input.workflowId = .ok current →
      KeepsBudget current input.events)
    (accepted : transact store input = .ok (next, after)) : after.journal.Budgeted := by
  rcases transact_ok accepted with ⟨_, rfl⟩ | ⟨_, current, effect⟩
  · exact budgeted
  · exact effect.appended.budgeted agrees budgeted (keeps current effect.appended.loaded)

theorem settleEvents_keeps {code : String} :
    ∀ event ∈ settleEvents task attemptState nodeState code at_, event.keepsSpecNodes = true := by
  simp [settleEvents, WorkflowEventDataV1.keepsSpecNodes]

theorem terminalRecoveryEvents_keeps :
    ∀ event ∈ terminalRecoveryEvents projection attempt task now, event.keepsSpecNodes = true := by
  intro event member
  rw [terminalRecoveryEvents, List.mem_append] at member
  rcases member with first | last
  · split at first
    · cases first
    · obtain rfl := List.mem_singleton.mp first
      rfl
  · split at last
    · cases last
    · split at last
      · cases last
      · obtain rfl := List.mem_singleton.mp last
        rfl

theorem recoveryEvents_keeps {decision : WorkflowRecoveryDecisionV1} :
    ∀ event ∈ recoveryEvents task decision attempt now, event.keepsSpecNodes = true := by
  intro event member
  rw [recoveryEvents, List.mem_append] at member
  rcases member with first | rest
  · exact settleEvents_keeps event first
  · split at rest
    · rcases List.mem_append.mp rest with failed | again
      · exact settleEvents_keeps event failed
      · simp only [List.mem_cons, List.not_mem_nil, or_false] at again
        rcases again with rfl | rfl | rfl <;> rfl
    · exact settleEvents_keeps event rest
    · cases rest

theorem wakeNodeEvents_keeps :
    ∀ event ∈ wakeNodeEvents projection nodeId kind attemptState nodeState code at_,
      event.keepsSpecNodes = true := by
  intro event member
  unfold wakeNodeEvents at member
  split at member
  · split at member
    · split at member
      · simp only [List.mem_cons, List.not_mem_nil, or_false] at member
        rcases member with rfl | rfl <;> rfl
      · cases member
    · cases member
  · cases member

theorem resumeIfWaiting_keeps :
    ∀ event ∈ resumeIfWaiting projection, event.keepsSpecNodes = true := by
  intro event member
  unfold resumeIfWaiting at member
  split at member
  · obtain rfl := List.mem_singleton.mp member
    rfl
  · cases member

theorem wakeUp_keeps {first : WorkflowEventDataV1} (own : first.keepsSpecNodes = true) :
    ∀ event ∈ first :: (wakeNodeEvents projection nodeId kind attemptState nodeState code at_ ++
      resumeIfWaiting projection), event.keepsSpecNodes = true := by
  refine List.forall_mem_cons.mpr ⟨own, fun event member => ?_⟩
  rcases List.mem_append.mp member with woken | resumed
  · exact wakeNodeEvents_keeps event woken
  · exact resumeIfWaiting_keeps event resumed

section

variable (agrees : store.journal.Agrees)
include agrees

theorem recoverExpired_budgeted {ids : Nat → RecoveryIds}
    {decisions : List WorkflowRecoveryDecisionV1} (budgeted : store.journal.Budgeted)
    (accepted : recoverExpired store now ids = .ok (decisions, after)) :
    after.journal.Budgeted := by
  refine (recoverTasks_invariant (fun later => later.journal.Agrees ∧ later.journal.Budgeted) ?_
    ⟨agrees, budgeted⟩ accepted).2
  rintro before row ids decision later ⟨agrees, budgeted⟩ effect
  cases effect with
  | ended _ _ appended =>
    exact appended.keeps agrees budgeted terminalRecoveryEvents_keeps
  | retried _ _ _ _ _ appended =>
    exact appended.keeps agrees budgeted recoveryEvents_keeps
  | settled _ _ _ appended =>
    exact appended.keeps agrees budgeted recoveryEvents_keeps

theorem fireDueTimers_budgeted {fired : List WorkflowTimerV1}
    (budgeted : store.journal.Budgeted) (accepted : fireDueTimers store now = .ok (fired, after)) :
    after.journal.Budgeted := by
  simp only [fireDueTimers, bind_eq_ok, ensure_eq_ok] at accepted
  obtain ⟨_, _, run⟩ := accepted
  refine (foldlM_invariant (fun state : List WorkflowTimerV1 × AuthorityStore =>
    state.2.journal.Agrees ∧ state.2.journal.Budgeted) ?_ ⟨agrees, budgeted⟩ run).2
  rintro ⟨_, before⟩ row ⟨_, later⟩ ⟨agrees, budgeted⟩ fires
  obtain ⟨journal, current, next, _, rfl, appended⟩ := fireTimer_ok fires
  exact appended.keeps agrees budgeted (wakeUp_keeps rfl)

theorem reserveEffect_budgeted {key inputDigest attemptId : String}
    {leaseExpiresAt : Timestamp} {admission : WorkflowEffectAdmissionV1}
    (budgeted : store.journal.Budgeted)
    (accepted : reserveEffect store workflowId key inputDigest attemptId leaseExpiresAt at_ =
      .ok (admission, after)) : after.journal.Budgeted := by
  cases reserveEffect_ok accepted with
  | granted _ _ _ _ _ _ appended =>
    exact appended.budgeted agrees budgeted
      (.of_keeps (by simp [WorkflowEventDataV1.keepsSpecNodes]))
  | replayed _ _ _ _ appended =>
    exact appended.budgeted agrees budgeted
      (.of_keeps (by simp [WorkflowEventDataV1.keepsSpecNodes]))
  | refused => exact budgeted

theorem resolveUnknown_budgeted {read listed : AuthorityStore} {resolution : UnknownResolutionV1}
    (budgeted : store.journal.Budgeted)
    (accepted : resolveUnknown read listed store workflowId nodeId resolution code at_ =
      .ok (next, after)) : after.journal.Budgeted := by
  obtain ⟨_, _, input, _, _, built, applied⟩ := resolveUnknown_ok accepted
  refine transact_budgeted agrees budgeted (fun current _ => .of_keeps ?_) applied
  simp only [resolveUnknownTransaction, bind_eq_ok, ensure_eq_ok, orError_eq_ok,
    pure_eq_ok] at built
  obtain ⟨_, _, _, _, _, _, _, _, rfl⟩ := built
  simp [WorkflowEventDataV1.keepsSpecNodes]

end

/-- The one operation of the authority that adds a node: a review host's own task. -/
def AuthorityCall.admitsTask : AuthorityCall → Bool
  | admitTaskForRequest .. => true
  | _ => false

/-- **The operations of the authority leave the workflows within their budgets.** -/
theorem AuthorityCall.budgeted {call : AuthorityCall} {answer : AuthorityAnswer}
    (agrees : store.journal.Agrees) (budgeted : store.journal.Budgeted)
    (none : call.admitsTask = false)
    (accepted : call.perform store = .ok (answer, after)) : after.journal.Budgeted := by
  cases call <;> simp only [AuthorityCall.perform, answering_eq_ok] at accepted <;>
    obtain ⟨value, accepted, _⟩ := accepted
  case admitTaskForRequest => cases none
  case bindTaskCapabilityBundle =>
    obtain ⟨_, _, _, _, _, _, _, _, rfl, appended⟩ := bindTaskCapabilityBundle_ok accepted
    exact appended.budgeted agrees budgeted
      (.of_keeps (by simp [WorkflowEventDataV1.keepsSpecNodes]))
  case claim =>
    rcases claim_ok accepted with ⟨_, rfl⟩ | ⟨_, _, _, _, _, _, _, _, _, rfl, appended⟩
    · exact budgeted
    · exact appended.budgeted agrees budgeted
        (.of_keeps (by simp [leaseEvents, WorkflowEventDataV1.keepsSpecNodes]))
  case heartbeat =>
    obtain ⟨_, _, _, _, _, _, _, _, _, rfl⟩ := heartbeat_ok accepted
    exact budgeted
  case recoverExpired => exact recoverExpired_budgeted agrees budgeted accepted
  case signal =>
    rcases signal_ok accepted with ⟨_, _, rfl⟩ | ⟨_, _, _, _, _, _, rfl, appended⟩
    · exact budgeted
    · exact appended.budgeted agrees budgeted
        (.of_keeps (List.forall_mem_cons.mpr ⟨rfl, resumeIfWaiting_keeps⟩))
  case fireDueTimers => exact fireDueTimers_budgeted agrees budgeted accepted
  case resolveHumanTask =>
    rcases resolveHumanTask_ok accepted with ⟨_, _, rfl⟩ | ⟨_, _, _, _, _, _, _, rfl, appended⟩
    · exact budgeted
    · exact appended.budgeted agrees budgeted (.of_keeps (wakeUp_keeps rfl))
  case reserveEffect => exact reserveEffect_budgeted agrees budgeted accepted
  case markEffectCompensated =>
    rcases markEffectCompensated_ok accepted with
      rfl | ⟨_, _, _, _, _, _, _, _, rfl, appended⟩
    · exact budgeted
    · exact appended.budgeted agrees budgeted
        (.of_keeps (by simp [WorkflowEventDataV1.keepsSpecNodes]))
  case reserveEffectRequest =>
    rw [reserveEffectRequest_journal accepted]
    exact budgeted
  case postMessage =>
    rw [postMessage_messages accepted]
    exact budgeted
  case acknowledgeMessages =>
    rw [acknowledgeMessages_messages accepted]
    exact budgeted
  case acknowledgeMessage =>
    rw [acknowledgeMessage_messages accepted]
    exact budgeted
  case retryNode =>
    obtain ⟨_, _, _, _, _, _, _, _, _, _, _, _, _, _, _, same, appended⟩ := retryNode_ok accepted
    rw [same]
    exact appended.budgeted agrees budgeted
      (.of_keeps (by simp [WorkflowEventDataV1.keepsSpecNodes]))
  case resolveUnknown => exact resolveUnknown_budgeted agrees budgeted accepted

end Stores

/-! ## Budgets that are used up -/

/-- The time, the tool calls or the tokens of the workflow are used up. -/
def BudgetUsedUp (projection : WorkflowProjectionV1) (at_ : Timestamp) : Prop :=
  (∃ now created, at_.parsed = some now ∧ projection.spec.createdAt.parsed = some created ∧
    projection.spec.budget.maxWallClockMs ≤ now - created) ∨
  projection.spec.budget.maxToolCalls ≤ projection.usage.toolCalls ∨
  projection.spec.budget.maxTokens ≤ projection.usage.inputTokens + projection.usage.outputTokens

section Admission

variable {current next : WorkflowProjectionV1} {listed store after : AuthorityStore}
  {input : WorkflowTransactionV1} {workflowId : String} {at_ : Timestamp}

theorem assertWorkflowAdmissionBudget_eq_ok {additional : Nat} :
    assertWorkflowAdmissionBudget current additional at_ = .ok () ↔
      ¬ BudgetUsedUp current at_ ∧
        ((current.spec.agentNodes.length + additional : Nat) : Int) ≤
          current.spec.budget.maxAgentTasks := by
  unfold assertWorkflowAdmissionBudget BudgetUsedUp
  simp only [bind_eq_ok, ensure_eq_ok, Bool.not_eq_true', decide_eq_true_eq, exists_const, not_or,
    and_assoc, not_le]
  refine and_congr ?_ Iff.rfl
  cases at_.parsed with
  | none => simp
  | some now =>
    cases current.spec.createdAt.parsed with
    | none => simp
    | some created => simp

variable {topology : WorkflowTopologyV1} {nodes : List WorkflowNodeSpecV1}
  {edges : List WorkflowEdgeV1} {attemptUuid taskUuid : Uuid} {data : List WorkflowEventDataV1}
  {profiles : ProfileRegistry} {parentNodeId : String} {call : OrchestratorCall}

theorem agentNodes_extendedSpec : (extendedSpec current topology nodes edges).agentNodes =
      current.spec.agentNodes ++ nodes.filter isAgentNode := by
  rw [WorkflowSpecV1.agentNodes, extendedSpec, List.filter_append]
  rfl

theorem KeepsBudget.of_extension
    (enough : ((current.spec.agentNodes.length + (nodes.filter isAgentNode).length : Nat) : Int) ≤
      current.spec.budget.maxAgentTasks) (keeps : ∀ event ∈ data, event.keepsSpecNodes = true) :
    KeepsBudget current (.graphPatched (extendedSpec current topology nodes edges) :: data) := by
  refine .of_patch (fun _ => ?_) keeps
  rw [WithinBudget, agentNodes_extendedSpec, List.length_append]
  exact enough

theorem KeepsBudget.of_others {node : WorkflowNodeSpecV1}
    (other : isAgentNode node = false) (keeps : ∀ event ∈ data, event.keepsSpecNodes = true) :
    KeepsBudget current (.graphPatched (extendedSpec current topology [node] edges) :: data) := by
  refine .of_patch (fun within => ?_) keeps
  rw [WithinBudget, agentNodes_extendedSpec, List.filter_singleton, other, cond_false,
    List.append_nil]
  exact within

theorem admission_keeps {nodeId attemptId : String} {scheduled : Bool} :
    ∀ event ∈ .workflowTopologyChanged topology :: admissionEvents nodeId attemptId scheduled,
      event.keepsSpecNodes = true :=
  List.forall_mem_cons.mpr ⟨rfl, admissionEvents_keepsSpecNodes⟩

theorem admitDelegate_keepsBudget
    {proposal : DelegateProposalV1} {kind : DelegateKindV1} {required : Bool}
    (decided : admitDelegate profiles current workflowId parentNodeId proposal kind required
      attemptUuid taskUuid at_ = .ok (.transact input)) : KeepsBudget current input.events := by
  obtain ⟨node, task, admits⟩ := admitDelegate_transact decided
  simp only [admitDelegate, bind_eq_ok] at decided
  obtain ⟨_, _, _, checked, _⟩ := decided
  obtain ⟨_, enough⟩ := assertWorkflowAdmissionBudget_eq_ok.mp checked
  rw [admits.events]
  refine .of_extension (le_trans (Int.ofNat_le.mpr ?_) enough) admission_keeps
  exact Nat.add_le_add_left (List.length_filter_le isAgentNode [node]) _

theorem applyGraphProposal_keepsBudget {proposal : GraphPatchProposalV1} {checkedAt : Timestamp}
    (decided : applyGraphProposal current workflowId proposal checkedAt at_ =
      .ok (.transact input)) : KeepsBudget current input.events := by
  obtain rfl := applyGraphProposal_transact decided
  simp only [applyGraphProposal, bind_eq_ok] at decided
  obtain ⟨_, _, _, _, _, checked, _⟩ := decided
  obtain ⟨_, enough⟩ := assertWorkflowAdmissionBudget_eq_ok.mp checked
  refine .of_patch (fun _ => le_trans (Int.ofNat_le.mpr ?_) enough)
    (by simp [WorkflowEventDataV1.keepsSpecNodes])
  rw [WorkflowSpecV1.agentNodes, List.filter_append, List.length_append]
  exact Nat.add_le_add_right (WithinBudget.without proposal.cancelNodeIds) _

theorem supersedeFailedNodes_keepsBudget {nodeIds replacementNodeIds : List String}
    {transactionKey : String}
    (decided : supersedeFailedNodes current workflowId nodeIds replacementNodeIds transactionKey
      at_ = .ok (.transact input)) : KeepsBudget current input.events := by
  obtain rfl := supersedeFailedNodes_transact decided
  refine .of_patch (fun within => le_trans (Int.ofNat_le.mpr ?_) within) (by simp)
  exact WithinBudget.without nodeIds

theorem admitWaitNode_keepsBudget {nodeId title : String} {kind : WaitKindV1}
    {humanTasks : List WorkflowHumanTaskV1} {timers : List WorkflowTimerV1}
    (decided : admitWaitNode current workflowId nodeId title kind humanTasks timers attemptUuid
      at_ = .ok (.transact input)) : KeepsBudget current input.events := by
  simp only [admitWaitNode, bind_eq_ok, ensure_eq_ok] at decided
  obtain ⟨_, _, _, _, done⟩ := decided
  obtain rfl := Decision.transact.inj (pure_eq_ok.mp done)
  refine .of_others (by cases kind <;> rfl) ?_
  cases current.state <;> simp [WorkflowEventDataV1.keepsSpecNodes]

theorem admitToolActivity_keepsBudget {toolName : String} {effect : EffectContractV1}
    {nodeUuid : Uuid}
    (decided : admitToolActivity current workflowId toolName effect nodeUuid attemptUuid taskUuid
      at_ = .ok (.transact input)) : KeepsBudget current input.events := by
  simp only [admitToolActivity, bind_eq_ok, orError_eq_ok] at decided
  obtain ⟨_, _, root, _, task, _, done⟩ := decided
  obtain rfl := Decision.transact.inj (pure_eq_ok.mp done)
  exact .of_others rfl admission_keeps

theorem admitAgentGraph_keepsBudget {proposalId : String}
    {proposals : List (AgentGraphNodeProposalV1 × AdmissionIds)} {join : Option AgentGraphJoinV1}
    (decided : admitAgentGraph profiles current workflowId parentNodeId proposalId proposals join
      at_ = .ok (.transact input)) : KeepsBudget current input.events := by
  simp only [admitAgentGraph, bind_eq_ok, ensure_eq_ok, orError_eq_ok, Prod.exists,
    Bool.and_eq_true, decide_eq_true_eq] at decided
  obtain ⟨_, _, _, ⟨_, enough⟩, _, _, _, _, _, _, _, _, _, admitted, built, done⟩ := decided
  obtain rfl := Decision.transact.inj (pure_eq_ok.mp done)
  have count := (mapM_eq_ok.mp built).length_eq
  refine .of_extension (le_trans (Int.ofNat_le.mpr ?_) enough) ?_
  · have joins : (join.toList.map (joinNode proposalId)).filter isAgentNode = [] := by
      cases join <;> rfl
    rw [List.filter_append, joins, List.append_nil, count]
    refine Nat.add_le_add (List.length_filter_le _ _) ?_
    exact (List.length_filter_le _ _).trans (List.length_map _).le
  · intro event member
    rcases List.mem_append.mp member with front | admission
    · rcases List.mem_cons.mp front with rfl | joined
      · rfl
      · obtain ⟨_, _, rfl⟩ := List.mem_map.mp joined
        rfl
    · obtain ⟨_, _, inside⟩ := List.mem_flatMap.mp admission
      exact admissionEvents_keepsSpecNodes event inside

theorem completionTransaction_keeps {claim : WorkflowTaskClaimV1} {outcome : WorkflowOutcomeV1}
    {retry : Option (WorkflowAttemptProjectionV1 × WorkflowTaskV1)} :
    ∀ event ∈ (completionTransaction claim outcome current at_ retry).events,
      event.keepsSpecNodes = true := by
  intro event member
  simp only [completionTransaction, List.mem_append] at member
  rcases member with ((accounting | ended) | again) | root
  · exact WorkflowEventDataV1.keepsSpecNodes_of_neutral (accountingEvents_neutral event accounting)
  · simp only [outcomeEvents, List.mem_cons, List.not_mem_nil, or_false] at ended
    rcases ended with rfl | rfl <;> rfl
  · obtain ⟨_, _, inside⟩ := List.mem_flatMap.mp again
    simp only [rescheduleEvents, List.mem_cons, List.not_mem_nil, or_false] at inside
    rcases inside with rfl | rfl | rfl <;> rfl
  · unfold rootFailureEvents at root
    split at root
    · obtain rfl := List.mem_singleton.mp root
      rfl
    · cases root

/-- **Whatever an operation of the orchestrator decides leaves its workflow within the budget.** -/
theorem OrchestratorCall.decide_keepsBudget
    (decided : call.decide current listed = .ok (.transact input)) :
    KeepsBudget current input.events := by
  cases call with
  | markRunning claim at_ =>
    rw [markRunning_transact (pure_eq_ok.mp decided)]
    exact .of_keeps (by simp [runningEvents, WorkflowEventDataV1.keepsSpecNodes])
  | complete claim outcome at_ attemptUuid taskUuid =>
    obtain ⟨_, _, _, same, _⟩ := completeOnce_transact decided
    rw [same]
    exact .of_keeps completionTransaction_keeps
  | markUnknown claim errorCode effectReserved at_ =>
    rw [markUnknown_transact (pure_eq_ok.mp decided)]
    exact .of_keeps settleEvents_keeps
  | cancelClaim claim errorCode at_ =>
    rw [cancelClaim_transact (pure_eq_ok.mp decided)]
    exact .of_keeps settleEvents_keeps
  | scheduleReadyNodes workflowId nodeIds at_ =>
    obtain ⟨_, _, same⟩ := scheduleReadyNodes_transact decided
    rw [same]
    exact .of_keeps frontierEvents_keep
  | resolveJoinNode workflowId nodeId at_ =>
    rw [(resolveJoinNode_transact decided).2]
    exact .of_keeps (joinEvents_keep _)
  | settleWorkflow workflowId at_ =>
    obtain ⟨_, _, _, same⟩ := settleWorkflow_transact (pure_eq_ok.mp decided)
    rw [same]
    exact .of_keeps (by simp [WorkflowEventDataV1.keepsSpecNodes])
  | cancelNodes workflowId nodeIds code at_ =>
    obtain ⟨_, _, same⟩ := cancelNodes_transact decided
    rw [same]
    exact .of_keeps (by simp [WorkflowEventDataV1.keepsSpecNodes])
  | pause workflowId at_ =>
    rw [pause_transact decided]
    exact .of_keeps (by simp [operatorInput, WorkflowEventDataV1.keepsSpecNodes])
  | resume workflowId at_ =>
    rw [resume_transact decided]
    exact .of_keeps (by simp [operatorInput, WorkflowEventDataV1.keepsSpecNodes])
  | cancel workflowId code at_ =>
    rw [cancel_transact (pure_eq_ok.mp decided)]
    refine .of_keeps fun event member => ?_
    rcases List.mem_append.mp member with front | last
    · rcases List.mem_cons.mp front with rfl | cancelled
      · rfl
      · obtain ⟨_, _, rfl⟩ := List.mem_map.mp cancelled
        rfl
    · obtain rfl := List.mem_singleton.mp last
      rfl
  | terminate workflowId code at_ =>
    rw [terminate_transact (pure_eq_ok.mp decided)]
    exact .of_keeps (by simp [operatorInput, WorkflowEventDataV1.keepsSpecNodes])
  | admitDelegate profiles workflowId parentNodeId proposal kind required attemptUuid taskUuid
      at_ =>
      exact admitDelegate_keepsBudget decided
  | applyGraphProposal workflowId proposal checkedAt at_ =>
    exact applyGraphProposal_keepsBudget decided
  | supersedeFailedNodes workflowId nodeIds replacementNodeIds transactionKey at_ =>
    exact supersedeFailedNodes_keepsBudget decided
  | admitHumanTask workflowId request expiresAt humanUuid nodeUuid attemptUuid at_ =>
    exact admitWaitNode_keepsBudget decided
  | admitTimer workflowId fireAt payload timerUuid nodeUuid attemptUuid at_ =>
    exact admitWaitNode_keepsBudget decided
  | admitToolActivity workflowId toolName effect nodeUuid attemptUuid taskUuid at_ =>
    exact admitToolActivity_keepsBudget decided
  | admitAgentGraph profiles workflowId parentNodeId proposalId proposals join at_ =>
    exact admitAgentGraph_keepsBudget decided

theorem OrchestratorCall.perform_budgeted {read : AuthorityStore}
    (agrees : store.journal.Agrees) (budgeted : store.journal.Budgeted)
    (coherent : read.journal.Agrees) (earlier : read.journal.Before store.journal)
    (accepted : call.perform read listed store = .ok (next, after)) : after.journal.Budgeted := by
  rcases OrchestratorCall.perform_cases coherent earlier accepted with
    rfl | ⟨current, input, _, _, decided, effect⟩
  · exact budgeted
  · exact effect.appended.budgeted agrees budgeted (OrchestratorCall.decide_keepsBudget decided)

theorem maxAgentTasks_pos {spec : WorkflowSpecV1} {initial : WorkflowProjectionV1}
    (begins : initialWorkflowProjectionV1 spec = .ok initial) : 0 < spec.budget.maxAgentTasks := by
  simp only [initialWorkflowProjectionV1, validateWorkflowSpecV1, validateBudget, bind_eq_ok,
    pure_eq_ok, ensure_eq_ok, Bool.and_eq_true, positiveInteger, decide_eq_true_eq] at begins
  obtain ⟨_, ⟨_, _, _, _, _, _, _, _, _, _, _, _, _, _, _, _, _, budgeted, _⟩, _⟩ := begins
  obtain ⟨_, ⟨⟨_, agents⟩, _⟩, _⟩ := budgeted
  exact agents.1

theorem start_budgeted {request : StartAutoWorkflowInputV1} {coordinatorDigest : String}
    {ids : StartIds} (budgeted : store.journal.Budgeted)
    (accepted : start store request coordinatorDigest ids at_ = .ok (next, after)) :
    after.journal.Budgeted := by
  obtain ⟨task, built, created⟩ := start_ok accepted
  rcases create_ok created with ⟨_, rfl⟩ | ⟨initial, effect⟩
  · exact budgeted
  · obtain ⟨stored, logged, row, inserted, recorded, inserts⟩ := effect.journal
    obtain ⟨workflows, _, _⟩ := Journal.recordTransaction_ok recorded
    obtain ⟨kept, _, _, _⟩ := Journal.insertEvents_ok inserted
    have load := Journal.loadProjection_insertWorkflow row (workflows.trans kept)
    obtain ⟨content, applies, same⟩ := (advances_of_events effect.folded).applies
    obtain ⟨valid, begun⟩ := initialWorkflowProjectionV1_eq_ok effect.start
    have first : WithinBudget initial.spec := by
      have enough := maxAgentTasks_pos effect.start
      rw [begun]
      change ((1 : Nat) : Int) ≤ (startSpec request coordinatorDigest ids at_).budget.maxAgentTasks
      omega
    intro other projection loaded
    rw [(load other).1] at loaded
    split at loaded
    · obtain rfl := Except.ok.inj loaded
      rw [same]
      refine KeepsBudget.of_keeps (fun event member => ?_) first content applies
      rcases List.mem_cons.mp member with rfl | rest
      · rfl
      · rcases List.mem_cons.mp rest with rfl | admission
        · rfl
        · exact admissionEvents_keepsSpecNodes event admission
    · exact budgeted other projection loaded

end Admission

/-! ## Runs -/

section Runs

variable {fleet after : Fleet} {call : FleetCall}

/-- No review host adds a task of its own. -/
def FleetCall.admitsTask : FleetCall → Bool
  | authority call => call.admitsTask
  | _ => false

/-- A step of the fleet in which no review host adds a task. -/
def Fleet.BudgetedStep (before : Fleet) (call : FleetCall) (after : Fleet) : Prop :=
  Fleet.Step before call after ∧ call.admitsTask = false

/-- **A step leaves the workflows within their budgets.** -/
theorem Fleet.BudgetedStep.budgeted (step : Fleet.BudgetedStep fleet call after)
    (ordered : fleet.Ordered) (budgeted : fleet.store.journal.Budgeted) :
    after.store.journal.Budgeted := by
  obtain ⟨step, own⟩ := step
  have agrees := ordered.agrees fleet.store (List.mem_cons_self ..)
  rw [step.result]
  rcases fleet.after_cases call with same | ⟨answer, store, performed, same⟩
  · rw [same]
    exact budgeted
  · rw [same]
    cases call with
    | start input coordinatorDigest ids at_ =>
      simp only [FleetCall.perform, answering_eq_ok] at performed
      obtain ⟨_, started, _⟩ := performed
      exact start_budgeted budgeted started
    | authority operation => exact operation.budgeted agrees budgeted own performed
    | orchestrate read listed operation =>
      simp only [FleetCall.perform, answering_eq_ok] at performed
      obtain ⟨_, accepted, _⟩ := performed
      obtain ⟨coherent, first, second⟩ := ordered.reads step.grounded.1
      exact OrchestratorCall.perform_budgeted agrees budgeted coherent (first.trans second)
        accepted

/-- **In every run the workflows stay within their budgets of agent nodes.** -/
theorem Fleet.budgeted_run {calls : List FleetCall} (ordered : fleet.Ordered)
    (budgeted : fleet.store.journal.Budgeted) (run : Run Fleet.BudgetedStep fleet calls after) :
    after.store.journal.Budgeted :=
  (run.invariant (fun fleet => fleet.Ordered ∧ fleet.store.journal.Budgeted)
    (fun holds step => ⟨holds.1.step step.1, step.budgeted holds.1 holds.2⟩)
    ⟨ordered, budgeted⟩).2

end Runs

/-! ## Agent graphs, whatever is left of the budgets -/

structure AcceptableProposal (profiles : ProfileRegistry) (current : WorkflowProjectionV1)
    (proposalId : String) (parentProfile : AgentProfileV1) (at_ : Timestamp)
    (proposal : AgentGraphNodeProposalV1) : Prop where
  profile : ∃ profile, profiles proposal.profileId activeBuiltinAgentProfileVersion = .ok profile ∧
    admitsProfile parentProfile profile.profileId = true
  fresh : ∀ node ∈ current.spec.nodes, node.nodeId ≠ graphNodeId proposalId proposal.key
  deadline : ∃ deadline, canonicalDeadlineAfter at_ (boundedTimeout
    (proposal.maxWallClockMs.getD unlimitedWallClockMs) none 30_000).totalMs = .ok deadline

/-- What an agent graph must meet as a whole. Neither the time nor the tool calls nor the tokens
of the workflow are among it. -/
structure AcceptableGraph (profiles : ProfileRegistry) (current : WorkflowProjectionV1)
    (store : AuthorityStore) (workflowId parentNodeId proposalId : String)
    (proposals : List (AgentGraphNodeProposalV1 × AdmissionIds)) (join : Option AgentGraphJoinV1)
    (at_ : Timestamp) (parent : WorkflowNodeSpecV1) (parentProfile : AgentProfileV1) : Prop where
  mode : current.spec.modePolicy ≠ .solo
  nonempty : proposals ≠ []
  count : ((current.spec.nodes.length + proposals.length : Nat) : Int) ≤
    current.spec.budget.maxAgentTasks
  references : checkGraphReferences current (proposals.map Prod.fst) = .ok ()
  known : current.spec.nodes.find? (fun node => node.nodeId = parentNodeId) = some parent
  grant : parent.grantRequest.mayDelegate = true
  profile : ∃ ref, parent.profileRef = some ref ∧
    profiles ref.id ref.version = .ok parentProfile
  policy : parentProfile.delegationPolicy.mayDelegate = true
  each : ∀ proposed ∈ proposals,
    AcceptableProposal profiles current proposalId parentProfile at_ proposed.1
  authority : ∀ admitted, proposals.mapM (admitGraphNode profiles current workflowId proposalId
    parent parentProfile at_) = .ok admitted → ∃ written,
      transact store (agentGraphTransaction current workflowId proposalId join admitted at_) =
        .ok written

section Graphs

variable {profiles : ProfileRegistry} {current : WorkflowProjectionV1} {store : AuthorityStore}
  {workflowId parentNodeId proposalId : String}
  {proposals : List (AgentGraphNodeProposalV1 × AdmissionIds)} {join : Option AgentGraphJoinV1}
  {at_ : Timestamp} {parent : WorkflowNodeSpecV1} {parentProfile : AgentProfileV1}

theorem admitGraphNode_accepts_iff {proposed : AgentGraphNodeProposalV1 × AdmissionIds} :
    (∃ entry, admitGraphNode profiles current workflowId proposalId parent parentProfile at_
      proposed = .ok entry) ↔
      AcceptableProposal profiles current proposalId parentProfile at_ proposed.1 := by
  simp only [admitGraphNode, agentTask, bind_eq_ok, ensure_eq_ok, pure_eq_ok]
  constructor
  · rintro ⟨_, profile, found, _, admits, _, fresh, _, ⟨deadline, within, rfl⟩, rfl⟩
    refine ⟨⟨profile, found, admits⟩, fun node member same => ?_, deadline, within⟩
    simp only [Bool.not_eq_true', List.any_eq_false, decide_eq_true_eq] at fresh
    exact fresh node member same
  · rintro ⟨⟨profile, found, admits⟩, fresh, deadline, within⟩
    refine ⟨_, profile, found, (), admits, (), ?_, _, ⟨deadline, within, rfl⟩, rfl⟩
    simpa only [Bool.not_eq_true', List.any_eq_false, decide_eq_true_eq] using fresh

theorem mapM_accepts_iff {α β : Type} {check : α → Except WorkflowError β} {items : List α} :
    (∃ results, items.mapM check = .ok results) ↔
      ∀ item ∈ items, ∃ result, check item = .ok result := by
  induction items with
  | nil => exact ⟨fun _ _ member => (List.not_mem_nil member).elim, fun _ => ⟨[], rfl⟩⟩
  | cons item rest ih =>
    rw [List.forall_mem_cons, ← ih]
    simp only [List.mapM_cons, bind_eq_ok, pure_eq_ok]
    constructor
    · rintro ⟨_, result, first, results, others, _⟩
      exact ⟨⟨result, first⟩, results, others⟩
    · rintro ⟨⟨result, first⟩, results, others⟩
      exact ⟨_, result, first, results, others, rfl⟩

theorem profileRef_mapM_eq_ok {ref? : Option VersionedWorkflowRefV1} {profile : AgentProfileV1} :
    (ref?.mapM fun ref => profiles ref.id ref.version) = .ok (some profile) ↔
      ∃ ref, ref? = some ref ∧ profiles ref.id ref.version = .ok profile := by
  cases ref? with
  | none =>
    constructor
    · intro same
      cases same
    · rintro ⟨_, same, _⟩
      cases same
  | some ref =>
    simp only [Option.mapM_some, Option.some.injEq, exists_eq_left']
    cases profiles ref.id ref.version with
    | error => exact ⟨fun same => (nomatch same), fun same => (nomatch same)⟩
    | ok found =>
      constructor
      · intro same
        exact congrArg Except.ok (Option.some.inj (Except.ok.inj same))
      · intro same
        rw [same]
        rfl

/-- **An agent graph is accepted just when it is acceptable.** -/
theorem admitAgentGraph_accepts_iff :
    (∃ written, (do
        let decision ← admitAgentGraph profiles current workflowId parentNodeId proposalId proposals
          join at_
        decision.perform store) = .ok written) ↔
      ∃ parent parentProfile, AcceptableGraph profiles current store workflowId parentNodeId
        proposalId proposals join at_ parent parentProfile := by
  simp only [admitAgentGraph, delegatingProfile, bind_eq_ok, ensure_eq_ok, orError_eq_ok,
    pure_eq_ok, Prod.exists, Prod.mk.injEq, Bool.and_eq_true, decide_eq_true_eq, bne_iff_ne,
    Bool.not_eq_true']
  constructor
  · rintro ⟨next, after, decision, ⟨_, mode, _, ⟨nonempty, count⟩, _, references, _, _,
      ⟨parent, known, _, grant, _, profile, rfl, rfl⟩, parentProfile, rfl, _, policy, admitted,
      built, rfl⟩, performed⟩
    refine ⟨parent, parentProfile, mode, ?_, count, references, known, grant,
      profileRef_mapM_eq_ok.mp profile, policy, fun proposed member => ?_, fun again same => ?_⟩
    · rintro rfl
      cases nonempty
    · exact admitGraphNode_accepts_iff.mp (mapM_accepts_iff.mp ⟨admitted, built⟩ proposed member)
    · obtain rfl := ok_unique built same
      exact ⟨_, performed⟩
  · rintro ⟨parent, parentProfile, acceptable⟩
    have each : ∀ proposed ∈ proposals, ∃ entry, admitGraphNode profiles current workflowId
        proposalId parent parentProfile at_ proposed = .ok entry :=
      fun proposed member => admitGraphNode_accepts_iff.mpr (acceptable.each proposed member)
    obtain ⟨admitted, built⟩ := mapM_accepts_iff.mpr each
    obtain ⟨⟨next, after⟩, performed⟩ := acceptable.authority admitted built
    refine ⟨next, after, _, ⟨(), acceptable.mode, (), ⟨?_, acceptable.count⟩, (),
      acceptable.references, parent, some parentProfile, ⟨parent, acceptable.known, (),
      acceptable.grant, some parentProfile, profileRef_mapM_eq_ok.mpr acceptable.profile, rfl, rfl⟩,
      parentProfile, rfl, (), acceptable.policy, admitted, built, rfl⟩, performed⟩
    cases proposals with
    | nil => exact absurd rfl acceptable.nonempty
    | cons => rfl

end Graphs

/-! ## What an exhausted budget refuses -/

/-- When an operation that adds agent work looks at the clock. -/
def OrchestratorCall.agentWorkAt : OrchestratorCall → Option Timestamp
  | admitDelegate _ _ _ _ _ _ _ _ at_ => some at_
  | applyGraphProposal _ proposal checkedAt _ =>
    if proposal.addNodes.any isAgentNode then some checkedAt else none
  | admitAgentGraph _ _ _ _ _ _ at_ => some at_
  | admitToolActivity _ _ _ _ _ _ at_ => some at_
  | _ => none

/-- The operation adds an agent graph that is acceptable but for the budgets that are used up. -/
def OrchestratorCall.AddsGraph (current : WorkflowProjectionV1) (store : AuthorityStore) :
    OrchestratorCall → Prop
  | admitAgentGraph profiles workflowId parentNodeId proposalId proposals join at_ =>
    ∃ parent parentProfile, AcceptableGraph profiles current store workflowId parentNodeId
      proposalId proposals join at_ parent parentProfile
  | _ => False

section Refusals

variable {current : WorkflowProjectionV1} {read listed store : AuthorityStore}
  {call : OrchestratorCall} {at_ : Timestamp}

/-- An exhausted budget is an error in the check that the three siblings share. -/
theorem not_admitted_of_usedUp {additional : Nat} (used : BudgetUsedUp current at_) :
    assertWorkflowAdmissionBudget current additional at_ ≠ .ok () :=
  fun admitted => (assertWorkflowAdmissionBudget_eq_ok.mp admitted).1 used

theorem OrchestratorCall.decide_ne_ok_of_usedUp (adds : call.agentWorkAt = some at_)
    (used : BudgetUsedUp current at_)
    (graph : ∀ profiles workflowId parentNodeId proposalId proposals join at_,
      call ≠ .admitAgentGraph profiles workflowId parentNodeId proposalId proposals join at_)
    (decision : Decision) : call.decide current listed ≠ .ok decision := by
  intro decided
  cases call with
  | admitDelegate profiles workflowId parentNodeId proposal kind required attemptUuid taskUuid
      at' =>
      obtain rfl := Option.some.inj adds
      simp only [OrchestratorCall.decide, Workflow.admitDelegate, bind_eq_ok] at decided
      obtain ⟨_, _, _, admitted, _⟩ := decided
      exact not_admitted_of_usedUp used admitted
  | applyGraphProposal workflowId proposal checkedAt at' =>
    simp only [agentWorkAt] at adds
    split at adds
    · obtain rfl := Option.some.inj adds
      simp only [OrchestratorCall.decide, Workflow.applyGraphProposal, bind_eq_ok] at decided
      obtain ⟨_, _, _, _, _, admitted, _⟩ := decided
      exact not_admitted_of_usedUp used admitted
    · cases adds
  | admitToolActivity workflowId toolName effect nodeUuid attemptUuid taskUuid at' =>
    obtain rfl := Option.some.inj adds
    simp only [OrchestratorCall.decide, Workflow.admitToolActivity, bind_eq_ok] at decided
    obtain ⟨_, admitted, _⟩ := decided
    exact not_admitted_of_usedUp used admitted
  | admitAgentGraph profiles workflowId parentNodeId proposalId proposals join at' =>
    exact graph profiles workflowId parentNodeId proposalId proposals join at' rfl
  | _ => cases adds

/-- **With an exhausted budget an operation is accepted just when it adds an acceptable graph.** -/
theorem OrchestratorCall.accepts_iff_of_usedUp
    (loaded : read.journal.loadProjection call.workflowId = .ok current)
    (adds : call.agentWorkAt = some at_) (used : BudgetUsedUp current at_) :
    (∃ written, call.perform read listed store = .ok written) ↔ call.AddsGraph current store := by
  have performed : call.perform read listed store = (do
      let decision ← call.decide current listed
      decision.perform store) := by
    rw [OrchestratorCall.perform, loaded]
    rfl
  rw [performed]
  cases call with
  | admitAgentGraph profiles workflowId parentNodeId proposalId proposals join at' =>
    exact admitAgentGraph_accepts_iff
  | _ =>
    refine ⟨?_, False.elim⟩
    rintro ⟨written, accepted⟩
    obtain ⟨decision, decided, _⟩ := bind_eq_ok.mp accepted
    exact OrchestratorCall.decide_ne_ok_of_usedUp adds used (by simp) decision decided

end Refusals

/-- **With the time, the tool calls or the tokens used up, an operation that adds agent work is
refused and changes nothing, just when it does not add an acceptable agent graph; and in every run
the agent nodes of every workflow stay within its budget of them.** -/
theorem exhausted_budget_refuses_iff (fleet after : Fleet) (calls : List FleetCall) :
    (∀ (read listed : AuthorityStore) (call : OrchestratorCall)
      (current : WorkflowProjectionV1) (at_ : Timestamp),
      read.journal.loadProjection call.workflowId = .ok current →
      call.agentWorkAt = some at_ → BudgetUsedUp current at_ →
        ((∃ error, call.perform read listed fleet.store = .error error) ∧
          fleet.after (.orchestrate read listed call) = fleet ↔
            ¬ call.AddsGraph current fleet.store)) ∧
    (fleet.Ordered → fleet.store.journal.Budgeted → Run Fleet.BudgetedStep fleet calls after →
      after.store.journal.Budgeted) ∧
    (Run Fleet.BudgetedStep Fleet.initial calls after → after.store.journal.Budgeted) := by
  refine ⟨fun read listed call current at_ loaded adds used => ?_,
    fun ordered budgeted run => Fleet.budgeted_run ordered budgeted run,
    fun run => Fleet.budgeted_run Fleet.initial_ordered Journal.budgeted_empty run⟩
  rw [← OrchestratorCall.accepts_iff_of_usedUp loaded adds used]
  constructor
  · rintro ⟨⟨error, refused⟩, _⟩ ⟨written, accepted⟩
    rw [refused] at accepted
    cases accepted
  · intro refused
    cases result : call.perform read listed fleet.store with
    | ok written => exact absurd ⟨written, result⟩ refused
    | error error =>
      refine ⟨⟨error, rfl⟩, ?_⟩
      simp only [Fleet.after, FleetCall.perform, result]
      rfl

/-! ## A workflow that is overdue -/

/-- A workflow with a root task that may delegate, and with one millisecond to live. -/
def overdueStore : AuthorityStore :=
  StoreCall.run .empty
    [.create delegatingProjection.spec "create" {}]

def secondLater : Timestamp := ⟨isoText 1_000, some 1_000⟩

/-- An agent graph of one node. -/
def lateGraph : OrchestratorCall :=
  .admitAgentGraph (fun _ _ => .ok sampleProfile) "workflow" "root" "proposal"
    [({ key := "key"
        profileId := "coordinator"
        objective := "objective"
        dependencies := []
        grantRequest := greedyProposal.grantRequest }, ⟨sampleUuid, sampleUuid⟩)] none secondLater

def lateDelegate : OrchestratorCall :=
  .admitDelegate (fun _ _ => .ok sampleProfile) "workflow" "root" greedyProposal .agentTask true
    sampleUuid sampleUuid secondLater

theorem overdue_usedUp : ∃ current, overdueStore.journal.loadProjection "workflow" = .ok current ∧
    BudgetUsedUp current secondLater := by
  have known : ((overdueStore.journal.loadProjection "workflow").toOption.any fun current =>
      decide (current.spec.createdAt.parsed = some 0 ∧
        current.spec.budget.maxWallClockMs = 1)) = true := by decide +kernel
  generalize overdueStore.journal.loadProjection "workflow" = read at known ⊢
  cases read with
  | error => cases known
  | ok current =>
    obtain ⟨created, limit⟩ := of_decide_eq_true known
    exact ⟨current, rfl, .inl ⟨1_000, 0, rfl, created, by rw [limit]; decide⟩⟩

theorem late_graph_admitted :
    ¬ ∀ (fleet : Fleet) (read listed : AuthorityStore) (call : OrchestratorCall)
      (current : WorkflowProjectionV1) (at_ : Timestamp),
      read.journal.loadProjection call.workflowId = .ok current →
      call.agentWorkAt = some at_ → BudgetUsedUp current at_ →
        (∃ error, call.perform read listed fleet.store = .error error) ∧
          fleet.after (.orchestrate read listed call) = fleet := by
  intro refuses
  have admitted : (lateGraph.perform overdueStore overdueStore overdueStore).isOk = true := by
    decide +kernel
  obtain ⟨current, loaded, used⟩ := overdue_usedUp
  generalize overdueStore = store at admitted loaded
  obtain ⟨⟨error, refused⟩, _⟩ :=
    refuses ⟨store, [], []⟩ store store lateGraph current secondLater loaded rfl used
  rw [refused] at admitted
  cases admitted

theorem late_delegate_refused :
    ∃ error, lateDelegate.perform overdueStore overdueStore overdueStore = .error error := by
  obtain ⟨current, loaded, used⟩ := overdue_usedUp
  generalize overdueStore = store at loaded ⊢
  have refused := ((exhausted_budget_refuses_iff ⟨store, [], []⟩ ⟨store, [], []⟩ []).1 store store
    lateDelegate current secondLater loaded rfl used).mpr fun graph => graph
  exact refused.1

end Praxis.Workflow
