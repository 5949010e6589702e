import Praxis.Durable.Fleet

/-!
# What the orchestrator's operations decide

One inversion theorem for each operation: the transaction that it applies, and what it checked
on the projection before. An operation that applies none answers with the projection that it
read.
-/

namespace Praxis.Workflow

set_option autoImplicit false

open Praxis.Foundations

section Decisions

variable {current : WorkflowProjectionV1} {listed : AuthorityStore}
  {input : WorkflowTransactionV1} {workflowId : String} {at_ : Timestamp}

/-! ## Workers -/

section Claims

variable {claim : WorkflowTaskClaimV1} {errorCode : String}

def runningEvents (claim : WorkflowTaskClaimV1) (at_ : Timestamp) : List WorkflowEventDataV1 :=
  [.nodeStateChanged { nodeId := claim.task.nodeId, state := .running },
    .attemptStateChanged
      { attemptId := claim.task.attemptId
        state := .running
        leaseToken := some claim.lease.token
        workerId := some claim.lease.workerId
        changedAt := at_ }]

theorem markRunning_transact (decided : markRunning current claim at_ = .transact input) :
    input =
      { transactionId := "running-" ++ claim.task.taskId ++ "-" ++ claim.lease.token
        workflowId := current.workflowId
        expectedSequence := current.sequence
        occurredAt := at_
        events := runningEvents claim at_ } := by
  rw [markRunning] at decided
  split at decided
  · cases decided
  · exact (Decision.transact.inj decided).symm

theorem completeOnce_transact {outcome : WorkflowOutcomeV1} {attemptUuid taskUuid : Uuid}
    (decided : completeOnce claim outcome current at_ attemptUuid taskUuid =
      .ok (.transact input)) : isTerminalWorkflow current.state = false ∧
      (∀ node, findNode? current.nodes claim.task.nodeId = some node → node.state ∉ settledNodes) ∧
      ∃ retry, input = completionTransaction claim outcome current at_ retry ∧
        retry.map Prod.fst = retriedAttempt claim outcome current ∧
        ∀ attempt task, retry = some (attempt, task) → ∃ readyAt,
          retryReadyAt claim.task.retry attempt.ordinal at_ = some readyAt ∧
          task = retryTaskOf claim.task ("task-" ++ taskUuid.text)
            ("attempt-" ++ attemptUuid.text) readyAt at_ := by
  rw [completeOnce] at decided
  split at decided
  · cases pure_eq_ok.mp decided
  · rename_i open_
    split at decided
    · cases pure_eq_ok.mp decided
    · rename_i unsettled
      refine ⟨by simpa using open_, fun node found settled => unsettled ?_, ?_⟩
      · rw [found]
        simpa using settled
      · split at decided
        · rename_i none
          refine ⟨.none, (Decision.transact.inj (pure_eq_ok.mp decided)).symm, none.symm, by simp⟩
        · rename_i attempt retried
          simp only [bind_eq_ok, orError_eq_ok] at decided
          obtain ⟨readyAt, ready, done⟩ := decided
          refine ⟨some (attempt, _), (Decision.transact.inj (pure_eq_ok.mp done)).symm,
            retried.symm, ?_⟩
          rintro _ _ same
          cases same
          exact ⟨readyAt, ready, rfl⟩

theorem markUnknown_transact {effectReserved : Bool}
    (decided : markUnknown current claim errorCode effectReserved at_ = .transact input) :
    input =
      { transactionId := "unknown-" ++ claim.task.taskId ++ "-" ++ claim.lease.token
        workflowId := current.workflowId
        expectedSequence := current.sequence
        occurredAt := at_
        events := settleEvents claim.task .unknown .unknown errorCode at_
        acknowledgeTask := some
          { taskId := claim.task.taskId, leaseToken := claim.lease.token, state := .unknown }
        effectReservationTerminal :=
          if effectReserved then
            claim.task.effect.idempotencyKey.map fun idempotencyKey =>
              { idempotencyKey, attemptId := claim.task.attemptId, state := .unknown }
          else none } := by
  rw [markUnknown] at decided
  split at decided
  · cases decided
  · exact (Decision.transact.inj decided).symm

theorem cancelClaim_transact (decided : cancelClaim current claim errorCode at_ = .transact input) :
    input =
      { transactionId := "cancel-claim-" ++ claim.task.taskId ++ "-" ++ claim.lease.token
        workflowId := current.workflowId
        expectedSequence := current.sequence
        occurredAt := at_
        events := settleEvents claim.task .cancelled .cancelled errorCode at_
        acknowledgeTask := some
          { taskId := claim.task.taskId, leaseToken := claim.lease.token, state := .cancelled } } := by
  rw [cancelClaim] at decided
  split at decided
  · cases decided
  · exact (Decision.transact.inj decided).symm

end Claims

/-! ## The scheduler -/

def prunedNodes (current : WorkflowProjectionV1) (nodeIds : List String) : List String :=
  (frontier current nodeIds .skipped ++ frontier current nodeIds .blocked).map (·.nodeId)

def frontierEvents (current : WorkflowProjectionV1) (nodeIds : List String) (at_ : Timestamp) :
    List WorkflowEventDataV1 :=
  ((frontier current nodeIds .ready).map fun node =>
    .nodeStateChanged { nodeId := node.nodeId, state := .scheduled }) ++
    (frontier current nodeIds .skipped).flatMap
      (pruneEvents .skipped "WORKFLOW_BRANCH_NOT_SELECTED" at_) ++
    (frontier current nodeIds .blocked).flatMap
      (pruneEvents .failed "WORKFLOW_DEPENDENCY_UNSATISFIED" at_)

variable {nodeIds : List String} {nodeId code parentNodeId : String} {taskUuid attemptUuid : Uuid}
  {profiles : ProfileRegistry}

theorem scheduleReadyNodes_transact
    (decided : scheduleReadyNodes current listed workflowId nodeIds at_ = .ok (.transact input)) :
    ∃ tasks, (if prunedNodes current nodeIds = [] then pure []
        else listTasks listed workflowId .ready maxSafeInteger.toNat) = .ok tasks ∧
      input =
        { transactionId := "schedule-ready-" ++ workflowId ++ "-" ++ toString current.sequence
          workflowId
          expectedSequence := current.sequence
          occurredAt := at_
          events := frontierEvents current nodeIds at_
          cancelReadyTasks := (tasks.filter fun task =>
            task.nodeId ∈ prunedNodes current nodeIds).map (·.taskId) } := by
  rw [scheduleReadyNodes] at decided
  split at decided
  · cases pure_eq_ok.mp decided
  · split at decided
    · cases pure_eq_ok.mp decided
    · change ((if prunedNodes current nodeIds = [] then _ else _ : Except WorkflowError _) = _)
        at decided
      by_cases empty : prunedNodes current nodeIds = []
      · rw [if_pos empty] at decided ⊢
        obtain ⟨tasks, listing, done⟩ := bind_eq_ok.mp decided
        exact ⟨tasks, listing, (Decision.transact.inj (pure_eq_ok.mp done)).symm⟩
      · rw [if_neg empty] at decided ⊢
        obtain ⟨tasks, listing, done⟩ := bind_eq_ok.mp decided
        exact ⟨tasks, listing, (Decision.transact.inj (pure_eq_ok.mp done)).symm⟩

theorem resolveJoinNode_transact
    (decided : resolveJoinNode current workflowId nodeId at_ = .ok (.transact input)) :
    (∃ spec ∈ current.spec.nodes, spec.nodeId = nodeId ∧ spec.join.isSome = true) ∧
      input =
        { transactionId := "resolve-join-" ++ nodeId ++ "-" ++ toString current.sequence
          workflowId
          expectedSequence := current.sequence
          occurredAt := at_
          events := joinEvents nodeId (workflowNodeReadinessV1 current nodeId) } := by
  simp only [resolveJoinNode, bind_eq_ok, orError_eq_ok, ensure_eq_ok] at decided
  obtain ⟨node, found, spec, specified, _, join, taken⟩ := decided
  have same := List.find?_some specified
  refine ⟨⟨spec, List.mem_of_find?_eq_some specified, by simpa using same, join⟩, ?_⟩
  split at taken
  · cases pure_eq_ok.mp taken
  · split at taken
    · cases pure_eq_ok.mp taken
    · exact (Decision.transact.inj (pure_eq_ok.mp taken)).symm

theorem settleWorkflow_transact
    (decided : settleWorkflow current workflowId at_ = .transact input) :
    ∃ state code, workflowSettlement current = some (state, code) ∧
      input =
        { transactionId := "settle-" ++ workflowId ++ "-" ++ toString current.sequence
          workflowId
          expectedSequence := current.sequence
          occurredAt := at_
          events := [.workflowTerminal state code] } := by
  rw [settleWorkflow] at decided
  split at decided
  · cases decided
  · rename_i state code settlement
    exact ⟨state, code, settlement, (Decision.transact.inj decided).symm⟩

/-! ## Operators -/

def cancelledNodes (current : WorkflowProjectionV1) (nodeIds : List String) :
    List WorkflowNodeProjectionV1 :=
  current.nodes.filter fun node => node.nodeId ∈ nodeIds ∧ node.state ∈ cancellableNodes

theorem cancelNodes_transact
    (decided : cancelNodes current listed workflowId nodeIds code at_ = .ok (.transact input)) :
    ∃ tasks, listTasks listed workflowId .ready 10_000 = .ok tasks ∧
      input =
        { transactionId := "cancel-nodes-" ++ workflowId ++ "-" ++ toString current.sequence
          workflowId
          expectedSequence := current.sequence
          occurredAt := at_
          events := (cancelledNodes current nodeIds).map fun node => .nodeStateChanged
            { nodeId := node.nodeId, state := .cancelled, errorCode := some code }
          cancelReadyTasks := (tasks.filter fun task =>
            (cancelledNodes current nodeIds).any fun node => node.nodeId = task.nodeId).map
              (·.taskId) } := by
  rw [cancelNodes] at decided
  split at decided
  · cases pure_eq_ok.mp decided
  · obtain ⟨tasks, listing, done⟩ := bind_eq_ok.mp decided
    exact ⟨tasks, listing, (Decision.transact.inj (pure_eq_ok.mp done)).symm⟩

def operatorInput (name : String) (current : WorkflowProjectionV1) (workflowId : String)
    (at_ : Timestamp) (events : List WorkflowEventDataV1) : WorkflowTransactionV1 where
  transactionId := name ++ "-" ++ workflowId ++ "-" ++ toString current.sequence
  workflowId := workflowId
  expectedSequence := current.sequence
  occurredAt := at_
  events := events

theorem pause_transact (decided : pause current workflowId at_ = .ok (.transact input)) :
    input = operatorInput "pause" current workflowId at_ [.workflowPaused] := by
  simp only [pause, bind_eq_ok, ensure_eq_ok] at decided
  obtain ⟨_, _, done⟩ := decided
  exact (Decision.transact.inj (pure_eq_ok.mp done)).symm

theorem resume_transact (decided : resume current workflowId at_ = .ok (.transact input)) :
    input = operatorInput "resume" current workflowId at_ [.workflowResumed] := by
  simp only [resume, bind_eq_ok, ensure_eq_ok] at decided
  obtain ⟨_, _, done⟩ := decided
  exact (Decision.transact.inj (pure_eq_ok.mp done)).symm

theorem cancel_transact (decided : cancel current workflowId code at_ = .transact input) :
    input = operatorInput "cancel" current workflowId at_
      (.workflowCancelling code ::
        ((current.nodes.filter fun node => node.state ∈ openNodes).map fun node =>
          .nodeStateChanged
            { nodeId := node.nodeId, state := .cancelled, errorCode := some code }) ++
        [.workflowTerminal .cancelled (some code)]) := by
  rw [cancel] at decided
  split at decided
  · cases decided
  · exact (Decision.transact.inj decided).symm

theorem terminate_transact (decided : terminate current workflowId code at_ = .transact input) :
    input = operatorInput "terminate" current workflowId at_
      [.workflowTerminal .terminated (some code)] := by
  rw [terminate] at decided
  split at decided
  · cases decided
  · exact (Decision.transact.inj decided).symm

/-! ## Admission -/

structure FirstTask (workflowId attemptId : String) (node : WorkflowNodeSpecV1)
    (task : WorkflowTaskV1) : Prop where
  workflowId : task.workflowId = workflowId
  nodeId : task.nodeId = node.nodeId
  attemptId : task.attemptId = attemptId
  retry : task.retry = node.retry
  state : task.state = .ready

theorem agentTask_ok {runId attemptId workspace profileId : String} {profileVersion : Int}
    {node : WorkflowNodeSpecV1} {task : WorkflowTaskV1}
    (built : agentTask workflowId runId attemptId workspace profileId profileVersion node taskUuid
      at_ = .ok task) : FirstTask workflowId attemptId node task := by
  simp only [agentTask, bind_eq_ok, pure_eq_ok] at built
  obtain ⟨_, _, rfl⟩ := built
  exact ⟨rfl, rfl, rfl, rfl, rfl⟩

/-- The transaction that adds one node and queues its first task. -/
structure AdmitsNode (current : WorkflowProjectionV1) (workflowId : String)
    (topology : WorkflowTopologyV1) (node : WorkflowNodeSpecV1) (task : WorkflowTaskV1)
    (input : WorkflowTransactionV1) : Prop where
  target : input.workflowId = workflowId
  expects : input.expectedSequence = current.sequence
  events : input.events = .graphPatched (extendedSpec current topology [node] []) ::
    .workflowTopologyChanged topology :: admissionEvents node.nodeId task.attemptId true
  tasks : input.enqueueTasks = [task]
  join : node.join = none
  first : FirstTask workflowId task.attemptId node task
  rest : input.acknowledgeTask = none ∧ input.cancelReadyTasks = [] ∧
    input.effectReservationTerminal = none ∧ input.effectReceipts = []

theorem admitDelegate_transact {proposal : DelegateProposalV1} {kind : DelegateKindV1}
    {required : Bool}
    (decided : admitDelegate profiles current workflowId parentNodeId proposal kind required
      attemptUuid taskUuid at_ = .ok (.transact input)) :
    ∃ node task, AdmitsNode current workflowId .delegatedAgents node task input := by
  simp only [admitDelegate, bind_eq_ok, ensure_eq_ok, Prod.exists] at decided
  obtain ⟨_, _, _, _, parent, parentProfile, _, profile, _, _, _, _, _, task, built, done⟩ := decided
  obtain rfl := Decision.transact.inj (pure_eq_ok.mp done)
  have first := agentTask_ok built
  have attemptId := first.attemptId
  refine ⟨_, task, ⟨rfl, rfl, ?_, rfl, ?_, attemptId ▸ first, rfl, rfl, rfl, rfl⟩⟩
  · rw [attemptId]
    rfl
  · rfl

theorem admitToolActivity_transact {toolName : String} {effect : EffectContractV1} {nodeUuid : Uuid}
    (decided : admitToolActivity current workflowId toolName effect nodeUuid attemptUuid taskUuid
      at_ = .ok (.transact input)) :
    ∃ node task, AdmitsNode current workflowId .workflowGraph node task input := by
  simp only [admitToolActivity, bind_eq_ok, orError_eq_ok] at decided
  obtain ⟨_, _, root, _, task, built, done⟩ := decided
  obtain rfl := Decision.transact.inj (pure_eq_ok.mp done)
  have first := agentTask_ok built
  have attemptId := first.attemptId
  refine ⟨_, { task with kind := .tool }, ⟨rfl, rfl, ?_, rfl, ?_,
    ⟨first.workflowId, first.nodeId, rfl, first.retry, first.state⟩, rfl, rfl, rfl, rfl⟩⟩
  · simp only [attemptId]
    rfl
  · rfl

theorem applyGraphProposal_transact {proposal : GraphPatchProposalV1} {checkedAt : Timestamp}
    (decided : applyGraphProposal current workflowId proposal checkedAt at_ =
      .ok (.transact input)) :
    input =
      { transactionId := "graph-" ++ proposal.proposalId
        workflowId
        expectedSequence := current.sequence
        occurredAt := at_
        events :=
          [.graphPatched
            { current.spec.without proposal.cancelNodeIds with
              revision := current.revision + 1
              topology := .workflowGraph
              nodes := (current.spec.without proposal.cancelNodeIds).nodes ++ proposal.addNodes
              edges := (current.spec.without proposal.cancelNodeIds).edges ++ proposal.addEdges },
            .workflowTopologyChanged .workflowGraph] } := by
  simp only [applyGraphProposal, bind_eq_ok, ensure_eq_ok] at decided
  obtain ⟨_, _, _, _, _, _, done⟩ := decided
  exact (Decision.transact.inj (pure_eq_ok.mp done)).symm

theorem supersedeFailedNodes_transact {replacementNodeIds : List String} {transactionKey : String}
    (decided : supersedeFailedNodes current workflowId nodeIds replacementNodeIds transactionKey
      at_ = .ok (.transact input)) : input =
      { transactionId := "supersede-" ++ transactionKey
        workflowId
        expectedSequence := current.sequence
        occurredAt := at_
        events := [.graphPatched
          { current.spec.without nodeIds with revision := current.revision + 1 }] } := by
  simp only [supersedeFailedNodes, bind_eq_ok, ensure_eq_ok] at decided
  obtain ⟨_, _, _, _, done⟩ := decided
  exact (Decision.transact.inj (pure_eq_ok.mp done)).symm

structure AdmitsWaiting (current : WorkflowProjectionV1) (workflowId : String)
    (node : WorkflowNodeSpecV1) (attemptId : String) (input : WorkflowTransactionV1) : Prop where
  target : input.workflowId = workflowId
  expects : input.expectedSequence = current.sequence
  events : input.events = .graphPatched (extendedSpec current .workflowGraph [node] []) ::
    .workflowTopologyChanged .workflowGraph ::
    ([.nodeStateChanged { nodeId := node.nodeId, state := .admitted },
      .attemptCreated { scheduledAttempt attemptId node.nodeId 1 with state := .waiting },
      .nodeStateChanged { nodeId := node.nodeId, state := .waiting }] ++
      if current.state = .running then [.workflowWaiting] else [])
  join : node.join = none
  rest : input.enqueueTasks = [] ∧ input.acknowledgeTask = none ∧ input.cancelReadyTasks = [] ∧
    input.effectReservationTerminal = none ∧ input.effectReceipts = []

theorem admitWaitNode_transact {title : String} {kind : WaitKindV1}
    {humanTasks : List WorkflowHumanTaskV1} {timers : List WorkflowTimerV1}
    (decided : admitWaitNode current workflowId nodeId title kind humanTasks timers attemptUuid
      at_ = .ok (.transact input)) :
    ∃ node attemptId, AdmitsWaiting current workflowId node attemptId input := by
  simp only [admitWaitNode, bind_eq_ok, ensure_eq_ok] at decided
  obtain ⟨_, _, _, _, done⟩ := decided
  obtain rfl := Decision.transact.inj (pure_eq_ok.mp done)
  exact ⟨waitNode current nodeId title kind, _, ⟨rfl, rfl, rfl, rfl, rfl, rfl, rfl, rfl, rfl⟩⟩

theorem admitAgentGraph_transact {proposalId : String}
    {proposals : List (AgentGraphNodeProposalV1 × AdmissionIds)} {join : Option AgentGraphJoinV1}
    (decided : admitAgentGraph profiles current workflowId parentNodeId proposalId proposals join
      at_ = .ok (.transact input)) : ∃ admitted, input =
        agentGraphTransaction current workflowId proposalId join admitted at_ ∧
      ∀ entry ∈ admitted, entry.node.join = none ∧
        FirstTask workflowId entry.task.attemptId entry.node entry.task := by
  simp only [admitAgentGraph, bind_eq_ok, ensure_eq_ok, orError_eq_ok, Prod.exists] at decided
  obtain ⟨_, _, _, enough, _, known, parent, _, _, parentProfile, _, _, _, admitted, built, done⟩ :=
    decided
  refine ⟨admitted, (Decision.transact.inj (pure_eq_ok.mp done)).symm, ?_⟩
  have each := mapM_eq_ok.mp built
  clear built done enough known
  induction each with
  | nil => simp
  | cons first _ ih =>
    refine List.forall_mem_cons.mpr ⟨?_, ih⟩
    simp only [admitGraphNode, bind_eq_ok, ensure_eq_ok, pure_eq_ok] at first
    obtain ⟨_, _, _, _, _, _, task, task_ok, rfl⟩ := first
    have known := agentTask_ok task_ok
    have attemptId := known.attemptId
    refine ⟨rfl, ?_⟩
    rw [attemptId]
    exact known

end Decisions

end Praxis.Workflow
