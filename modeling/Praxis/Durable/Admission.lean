import Praxis.Durable.Orchestrator

/-!
# Admission of workflows and nodes

The operations of the orchestrator that start a workflow or change its graph. Each makes the
specification that the graph takes, the events of the new nodes and their first attempts,
and the tasks that go with them. Agent profiles are looked up in a registry that is an
argument here, the digest of the coordinator's profile is one too, and random ids and clocks
are as everywhere.
-/

namespace Praxis.Workflow

set_option autoImplicit false

open Praxis.Foundations

/-! ## Profiles and grants -/

structure AgentDelegationPolicyV1 where
  mayDelegate : Bool
  allowedProfiles : List String

structure AgentProfileV1 where
  profileId : String
  version : Int
  digest : String
  toolAllowlist : List String
  skillAllowlist : List String
  mcpAllowlist : List String
  delegationPolicy : AgentDelegationPolicyV1

/-- The registered profile with an id and a version. -/
abbrev ProfileRegistry := String → Int → Except WorkflowError AgentProfileV1

def activeBuiltinAgentProfileVersion : Int := 4

def unlimitedWallClockMs : Int := 8_000_000_000_000_000

/-- The entries of a request that the parent and the profile both allow; `*` allows all. -/
def allowedEntries (values parentValues profileValues : List String) : List String :=
  let candidates :=
    if values.contains "*" then
      if parentValues.contains "*" then
        if profileValues.contains "*" then ["*"] else profileValues
      else parentValues
    else values
  -- A set keeps the first of equal entries.
  (candidates.reverse.dedup.reverse).filter fun value =>
    (value == "*" || parentValues.contains "*" || parentValues.contains value) &&
      (value == "*" || profileValues.contains "*" || profileValues.contains value)

def weakerAccess : WorkflowWorkspaceAccessV1 → WorkflowWorkspaceAccessV1 →
    WorkflowWorkspaceAccessV1
  | .none, _ | _, .none => .none
  | .read, _ | _, .read => .read
  | .write, .write => .write

def attenuateGrant (parent requested : CapabilityRequestV1) (profile : AgentProfileV1) :
    CapabilityRequestV1 where
  tools := allowedEntries requested.tools parent.tools profile.toolAllowlist
  skills := allowedEntries requested.skills parent.skills profile.skillAllowlist
  mcpServers := allowedEntries requested.mcpServers parent.mcpServers profile.mcpAllowlist
  workspace := weakerAccess parent.workspace requested.workspace
  network := parent.network && requested.network
  mayDelegate := parent.mayDelegate && requested.mayDelegate && profile.delegationPolicy.mayDelegate

/-! ## Nodes and tasks -/

def boundedTimeout (requestedTotalMs : Int) (requestedNoProgressMs : Option Int)
    (requestedHeartbeatMs : Int) : WorkflowTimeoutPolicyV1 :=
  let totalMs := max 3 requestedTotalMs
  let heartbeatMs := max 1 (min (totalMs / 3) requestedHeartbeatMs)
  { totalMs
    heartbeatMs
    noProgressMs := max (heartbeatMs + 1) (min totalMs (requestedNoProgressMs.getD totalMs)) }

/-- A grant of nothing. -/
def noGrant : CapabilityRequestV1 := ⟨[], [], [], .none, false, false⟩

def agentRetry : WorkflowRetryPolicyV1 :=
  ⟨3, 1_000, 60_000, ["PROVIDER_RATE_LIMITED", "PROVIDER_UNAVAILABLE"]⟩

/-- The retries of a node that no worker runs. -/
def noRetry : WorkflowRetryPolicyV1 := ⟨1, 1_000, 1_000, []⟩

def rootNode (nodeId : String) (grant : CapabilityRequestV1) (coordinatorDigest : String) :
    WorkflowNodeSpecV1 where
  nodeId := nodeId
  kind := .agentTask
  title := "Root AgentTask"
  profileRef := some
    { id := "coordinator"
      version := activeBuiltinAgentProfileVersion
      digest := some coordinatorDigest }
  inputRefs := []
  grantRequest := grant
  effect := { effectClass := .pure, requiresApproval := false }
  retry := agentRetry
  timeout := ⟨unlimitedWallClockMs, unlimitedWallClockMs, 30_000⟩
  criteria := []

structure DelegateProposalV1 where
  proposalId : String
  profileRef : VersionedWorkflowRefV1
  objective : String
  inputRefs : List WorkflowArtifactRefV1
  grantRequest : CapabilityRequestV1
  maxWallClockMs : Option Int := none
  resultSchemaRef : Option VersionedWorkflowRefV1 := none

/-- The kinds of node that may be delegated. -/
inductive DelegateKindV1 where
  | agentTask | synthesis | subworkflow

def DelegateKindV1.toKind : DelegateKindV1 → WorkflowNodeKindV1
  | .agentTask => .agentTask
  | .synthesis => .synthesis
  | .subworkflow => .subworkflow

def delegateNode (nodeId : String) (proposal : DelegateProposalV1) (profile : AgentProfileV1)
    (grant : CapabilityRequestV1) (kind : DelegateKindV1) : WorkflowNodeSpecV1 where
  nodeId := nodeId
  kind := kind.toKind
  title := proposal.objective
  profileRef := some
    { id := profile.profileId, version := profile.version, digest := some profile.digest }
  inputRefs := proposal.inputRefs
  outputSchemaRef := proposal.resultSchemaRef
  grantRequest := grant
  effect :=
    { effectClass := if grant.workspace = .write then .workspaceWrite else .read
      requiresApproval := false }
  retry := agentRetry
  timeout := boundedTimeout (proposal.maxWallClockMs.getD unlimitedWallClockMs) none 30_000
  criteria := []

def agentTask (workflowId runId attemptId workspace profileId : String) (profileVersion : Int)
    (node : WorkflowNodeSpecV1) (taskUuid : Uuid) (at_ : Timestamp) :
    Except WorkflowError WorkflowTaskV1 := do
  let deadlineAt ← canonicalDeadlineAfter at_ node.timeout.totalMs
  return {
      taskId := "task-" ++ taskUuid.text
      workflowId, runId
      nodeId := node.nodeId
      attemptId
      kind := if node.kind = .subworkflow then .subworkflow else .agent
      profileRef := some (node.profileRef.getD { id := profileId, version := profileVersion })
      state := .ready
      priority := if node.nodeId = "root" then 100 else 50
      readyAt := at_
      deadlineAt
      conflictKeys :=
        if node.nodeId ≠ "root" ∧ node.grantRequest.workspace = .write then
          ["workspace:" ++ workspace]
        else []
      effect := node.effect
      retry := node.retry
      timeout := node.timeout
      createdAt := at_
      updatedAt := at_ }

/-- The events that admit a node, and schedule it if it need not wait, with its first
attempt. -/
def admissionEvents (nodeId attemptId : String) (scheduled : Bool) : List WorkflowEventDataV1 :=
  .nodeStateChanged { nodeId, state := .admitted } ::
    (if scheduled then [.nodeStateChanged { nodeId, state := .scheduled }] else []) ++
    [.attemptCreated (scheduledAttempt attemptId nodeId 1)]

/-! ## Start -/

structure StartAutoWorkflowInputV1 where
  sessionId : String
  objective : String
  modePolicy : WorkflowModePolicyV1
  cwd : String
  rootGrant : CapabilityRequestV1
  budget : Option WorkflowBudgetV1 := none
  parentWorkflowId : Option String := none
  parentNodeId : Option String := none
  executionTarget : Option WorkflowExecutionTargetV1 := none
  scheduling : Option WorkflowSchedulingPolicyV1 := none

def defaultWorkflowBudget : WorkflowBudgetV1 where
  maxWallClockMs := unlimitedWallClockMs
  maxTokens := maxSafeInteger
  maxToolCalls := maxSafeInteger
  maxAgentTasks := maxSafeInteger
  maxParallelTasks := maxSafeInteger

/-- The random ids of a new workflow. -/
structure StartIds where
  workflow : Uuid
  run : Uuid
  attempt : Uuid
  task : Uuid

def startSpec (input : StartAutoWorkflowInputV1) (coordinatorDigest : String) (ids : StartIds)
    (at_ : Timestamp) : WorkflowSpecV1 where
  workflowId := "workflow-" ++ ids.workflow.text
  runId := "workflow-run-" ++ ids.run.text
  sessionId := input.sessionId
  parentWorkflowId := input.parentWorkflowId
  parentNodeId := if input.parentWorkflowId.isSome then input.parentNodeId else none
  executionTarget := input.executionTarget
  scheduling := input.scheduling
  workspace := input.cwd
  objective := input.objective
  modePolicy := input.modePolicy
  topology := .singleAgent
  revision := 1
  nodes := [rootNode "root" input.rootGrant coordinatorDigest]
  edges := []
  completion := .allRequired
  budget := input.budget.getD defaultWorkflowBudget
  maxGraphMutations := maxSafeInteger
  createdAt := at_

def start (store : AuthorityStore) (input : StartAutoWorkflowInputV1) (coordinatorDigest : String)
    (ids : StartIds) (at_ : Timestamp) :
    Except WorkflowError (WorkflowProjectionV1 × AuthorityStore) := do
  let spec := startSpec input coordinatorDigest ids at_
  let attemptId := "attempt-" ++ ids.attempt.text
  let task ← agentTask spec.workflowId spec.runId attemptId input.cwd "coordinator" 2
    (rootNode "root" input.rootGrant coordinatorDigest) ids.task at_
  create store spec ("start-" ++ spec.workflowId)
    { events := admissionEvents "root" attemptId true
      tasks := [task]
      outbox := [taskReadyMessage spec.workflowId task.taskId at_] }

/-! ## Graph patches -/

/-- Node kinds that count as agent tasks. -/
def isAgentNode (node : WorkflowNodeSpecV1) : Bool :=
  node.kind == .agentTask || node.kind == .subworkflow || node.kind == .synthesis

def assertWorkflowAdmissionBudget (projection : WorkflowProjectionV1)
    (additionalAgentTasks : Nat) (at_ : Timestamp) : Except WorkflowError Unit := do
  let budget := projection.spec.budget
  let expired := match at_.parsed, projection.spec.createdAt.parsed with
    | some now, some created => decide (budget.maxWallClockMs ≤ now - created)
    | _, _ => false
  ensure (!expired) .workflowDeadlineExceeded
  ensure (decide (projection.usage.toolCalls < budget.maxToolCalls)) .workflowToolBudgetExhausted
  ensure (decide (projection.usage.inputTokens + projection.usage.outputTokens <
    budget.maxTokens)) .workflowTokenBudgetExhausted
  ensure (decide ((((projection.spec.nodes.filter isAgentNode).length + additionalAgentTasks : Nat) :
    Int) ≤ budget.maxAgentTasks)) .workflowAgentBudgetExhausted

/-- The next revision of a specification with nodes and edges added. -/
def extendedSpec (current : WorkflowProjectionV1) (topology : WorkflowTopologyV1)
    (nodes : List WorkflowNodeSpecV1) (edges : List WorkflowEdgeV1) : WorkflowSpecV1 :=
  { current.spec with
    revision := current.revision + 1
    topology
    nodes := current.spec.nodes ++ nodes
    edges := current.spec.edges ++ edges }

def delegatingProfile (profiles : ProfileRegistry) (parent : Option WorkflowNodeSpecV1) :
    Except WorkflowError (WorkflowNodeSpecV1 × Option AgentProfileV1) := do
  let parent ← orError .workflowDelegationDenied parent
  ensure parent.grantRequest.mayDelegate .workflowDelegationDenied
  let profile ← parent.profileRef.mapM fun ref => profiles ref.id ref.version
  return (parent, profile)

def admitsProfile (parentProfile : AgentProfileV1) (profileId : String) : Bool :=
  parentProfile.delegationPolicy.allowedProfiles.contains "*" ||
    parentProfile.delegationPolicy.allowedProfiles.contains profileId

def admitDelegate (profiles : ProfileRegistry) (current : WorkflowProjectionV1)
    (workflowId parentNodeId : String) (proposal : DelegateProposalV1) (kind : DelegateKindV1)
    (required : Bool) (attemptUuid taskUuid : Uuid) (at_ : Timestamp) :
    Except WorkflowError Decision := do
  ensure (current.spec.modePolicy != .solo) .modeOverrideIncompatible
  assertWorkflowAdmissionBudget current 1 at_
  let (parent, parentProfile) ← delegatingProfile profiles
    (current.spec.nodes.find? fun node => node.nodeId = parentNodeId)
  let profile ← profiles proposal.profileRef.id proposal.profileRef.version
  ensure (parentProfile.any fun allowed => allowed.delegationPolicy.mayDelegate &&
    admitsProfile allowed profile.profileId) .workflowProfileDenied
  let grant := attenuateGrant parent.grantRequest proposal.grantRequest profile
  let nodeId := "delegate-" ++ proposal.proposalId
  ensure (!current.spec.nodes.any fun node => node.nodeId = nodeId) .workflowProposalDuplicate
  let node :=
    { delegateNode nodeId proposal profile grant kind with
      required := if required then none else some false }
  let attemptId := "attempt-" ++ attemptUuid.text
  let task ← agentTask workflowId current.runId attemptId current.spec.workspace profile.profileId
    profile.version node taskUuid at_
  return .transact
    { transactionId := "delegate-" ++ proposal.proposalId
      workflowId
      expectedSequence := current.sequence
      occurredAt := at_
      events := .graphPatched (extendedSpec current .delegatedAgents [node] []) ::
        .workflowTopologyChanged .delegatedAgents :: admissionEvents nodeId attemptId true
      enqueueTasks := [task]
      outbox := [taskReadyMessage workflowId task.taskId at_] }

/-- A proposed change of the graph. A proposal of a whole graph is one that cancels nothing. -/
structure GraphPatchProposalV1 where
  proposalId : String
  expectedRevision : Int
  addNodes : List WorkflowNodeSpecV1
  addEdges : List WorkflowEdgeV1
  cancelNodeIds : List String := []

def WorkflowSpecV1.without (spec : WorkflowSpecV1) (nodeIds : List String) : WorkflowSpecV1 :=
  { spec with
    nodes := spec.nodes.filter fun node => node.nodeId ∉ nodeIds
    edges := spec.edges.filter fun edge => edge.fromNode ∉ nodeIds ∧ edge.toNode ∉ nodeIds }

def applyGraphProposal (current : WorkflowProjectionV1) (workflowId : String)
    (proposal : GraphPatchProposalV1) (checkedAt at_ : Timestamp) :
    Except WorkflowError Decision := do
  ensure (current.spec.modePolicy != .solo) .modeOverrideIncompatible
  ensure (proposal.expectedRevision == current.revision) .workflowRevisionConflict
  assertWorkflowAdmissionBudget current (proposal.addNodes.filter isAgentNode).length checkedAt
  let kept := current.spec.without proposal.cancelNodeIds
  return .transact
    { transactionId := "graph-" ++ proposal.proposalId
      workflowId
      expectedSequence := current.sequence
      occurredAt := at_
      events :=
        [.graphPatched
          { kept with
            revision := current.revision + 1
            topology := .workflowGraph
            nodes := kept.nodes ++ proposal.addNodes
            edges := kept.edges ++ proposal.addEdges },
          .workflowTopologyChanged .workflowGraph] }

/-- The node failed or was cancelled, and is no tool activity or compensation. -/
def isSuperseded (current : WorkflowProjectionV1) (nodeId : String) : Bool :=
  ((current.spec.nodes.find? fun spec => spec.nodeId = nodeId).any fun spec =>
    spec.kind != .toolActivity && spec.kind != .compensation) &&
  (findNode? current.nodes nodeId).any fun node =>
    node.state == .failed || node.state == .cancelled

def supersedeFailedNodes (current : WorkflowProjectionV1) (workflowId : String)
    (nodeIds replacementNodeIds : List String) (transactionKey : String) (at_ : Timestamp) :
    Except WorkflowError Decision := do
  ensure (nodeIds != [] && decide nodeIds.Nodup && replacementNodeIds != [] &&
    decide replacementNodeIds.Nodup && !nodeIds.contains "root" && safeId transactionKey)
    .workflowSupersessionInvalid
  ensure (nodeIds.all (isSuperseded current) &&
    (replacementNodeIds.all fun nodeId =>
      (findNode? current.nodes nodeId).any fun node => node.state == .succeeded) &&
    !current.spec.edges.any fun edge => edge.fromNode ∈ nodeIds ∧ edge.toNode ∉ nodeIds)
    .workflowSupersessionInvalid
  return .transact
    { transactionId := "supersede-" ++ transactionKey
      workflowId
      expectedSequence := current.sequence
      occurredAt := at_
      events := [.graphPatched
        { current.spec.without nodeIds with revision := current.revision + 1 }] }

/-! ## Waiting nodes and activities -/

/-- The kinds of node that wait for the outside. -/
inductive WaitKindV1 where
  | humanTask | timer

def WaitKindV1.toKind : WaitKindV1 → WorkflowNodeKindV1
  | .humanTask => .humanTask
  | .timer => .timer

def waitNode (current : WorkflowProjectionV1) (nodeId title : String) (kind : WaitKindV1) :
    WorkflowNodeSpecV1 where
  nodeId := nodeId
  kind := kind.toKind
  title := title
  inputRefs := []
  grantRequest := noGrant
  effect := { effectClass := .pure, requiresApproval := false }
  retry := noRetry
  timeout := boundedTimeout current.spec.budget.maxWallClockMs
    (some current.spec.budget.maxWallClockMs) 30_000
  criteria := []

def admitWaitNode (current : WorkflowProjectionV1) (workflowId nodeId title : String)
    (kind : WaitKindV1) (humanTasks : List WorkflowHumanTaskV1) (timers : List WorkflowTimerV1)
    (attemptUuid : Uuid) (at_ : Timestamp) : Except WorkflowError Decision := do
  ensure (current.spec.modePolicy != .solo) .modeOverrideIncompatible
  ensure (decide ((current.spec.nodes.length : Int) < current.spec.budget.maxAgentTasks))
    .workflowAgentBudgetExhausted
  let attempt := { scheduledAttempt ("attempt-" ++ attemptUuid.text) nodeId 1 with
    state := .waiting }
  return .transact
    { transactionId := "wait-node-" ++ nodeId
      workflowId
      expectedSequence := current.sequence
      occurredAt := at_
      events :=
        [.graphPatched (extendedSpec current .workflowGraph [waitNode current nodeId title kind] []),
          .workflowTopologyChanged .workflowGraph,
          .nodeStateChanged { nodeId, state := .admitted },
          .attemptCreated attempt,
          .nodeStateChanged { nodeId, state := .waiting }] ++
          if current.state = .running then [.workflowWaiting] else []
      humanTasks, timers }

def displayText : Json → String
  | .null => "null"
  | .bool value => toString value
  | .num value => toString value
  | .str value => value
  | .arr items => String.intercalate "," (displayItems items)
  | .obj _ => "[object Object]"
where
  displayItems : List Json → List String
    | [] => []
    | item :: rest => (match item with | .null => "" | _ => displayText item) :: displayItems rest

/-- The first of some fields that is neither absent nor null, as text. -/
def firstText (fields : List (String × Json)) (names : List String) (otherwise : String) : String :=
  ((names.filterMap fun name => fields.lookup name).find? fun value => value ≠ .null).elim otherwise
    displayText

def admitHumanTask (current : WorkflowProjectionV1) (workflowId : String)
    (request : List (String × Json)) (expiresAt : Option Timestamp)
    (humanUuid nodeUuid attemptUuid : Uuid) (at_ : Timestamp) : Except WorkflowError Decision :=
  let nodeId := "human-task-" ++ nodeUuid.text
  admitWaitNode current workflowId nodeId
    (firstText request ["question", "prompt"] "Human decision required") .humanTask
    [{ humanTaskId := "human-" ++ humanUuid.text
       workflowId, nodeId
       state := .waiting
       request := .obj request
       expiresAt }] [] attemptUuid at_

def admitTimer (current : WorkflowProjectionV1) (workflowId : String) (fireAt : Timestamp)
    (payload : List (String × Json)) (timerUuid nodeUuid attemptUuid : Uuid) (at_ : Timestamp) :
    Except WorkflowError Decision :=
  let nodeId := "timer-" ++ nodeUuid.text
  admitWaitNode current workflowId nodeId (firstText payload ["purpose"] "Wait until timer") .timer
    [] [{ timerId := "timer-" ++ timerUuid.text, workflowId, nodeId, fireAt, payload := .obj payload }]
    attemptUuid at_

def activityNode (current : WorkflowProjectionV1) (nodeId toolName : String)
    (rootGrant : CapabilityRequestV1) (effect : EffectContractV1) : WorkflowNodeSpecV1 where
  nodeId := nodeId
  kind := .toolActivity
  title := toolName
  inputRefs := []
  grantRequest := { rootGrant with mayDelegate := false }
  effect := effect
  retry :=
    { maxAttempts := if effect.effectClass = .externalIdempotent then 3 else 1
      initialBackoffMs := 1_000
      maxBackoffMs := 60_000
      retryableCodes := ["PROVIDER_RATE_LIMITED", "PROVIDER_UNAVAILABLE", "TOOL_EXECUTION_FAILED"] }
  timeout := boundedTimeout (min current.spec.budget.maxWallClockMs unlimitedWallClockMs) none 30_000
  criteria :=
    [{ criterionId := "receipt-" ++ nodeId
       kind := .receipt
       description := "A durable external effect receipt is required." }]

def admitToolActivity (current : WorkflowProjectionV1) (workflowId toolName : String)
    (effect : EffectContractV1) (nodeUuid attemptUuid taskUuid : Uuid) (at_ : Timestamp) :
    Except WorkflowError Decision := do
  assertWorkflowAdmissionBudget current 0 at_
  let nodeId := "activity-" ++ nodeUuid.text
  let attemptId := "attempt-" ++ attemptUuid.text
  let root ← orError .workflowRootNotFound
    (current.spec.nodes.find? fun candidate => candidate.nodeId = "root")
  let node := activityNode current nodeId toolName root.grantRequest effect
  let baseTask ← agentTask workflowId current.runId attemptId current.spec.workspace "coordinator" 2
    node taskUuid at_
  return .transact
    { transactionId := "activity-" ++ attemptId
      workflowId
      expectedSequence := current.sequence
      occurredAt := at_
      events := .graphPatched (extendedSpec current .workflowGraph [node] []) ::
        .workflowTopologyChanged .workflowGraph :: admissionEvents nodeId attemptId true
      enqueueTasks := [{ baseTask with kind := .tool }]
      outbox := [taskReadyMessage workflowId baseTask.taskId at_] }

/-! ## Agent graphs -/

structure AgentGraphConditionV1 where
  dependency : String
  operator : WorkflowConditionOperatorV1
  pointer : Option String := none
  value : Option Json := none

structure AgentGraphNodeProposalV1 where
  key : String
  profileId : String
  objective : String
  dependencies : List String
  dependsOnNodeIds : List String := []
  inputRefs : List WorkflowArtifactRefV1 := []
  maxIterations : Option Int := none
  conditions : List AgentGraphConditionV1 := []
  grantRequest : CapabilityRequestV1
  maxWallClockMs : Option Int := none

inductive AgentGraphJoinV1 where
  | any
  | quorum (minimum : Int)

def AgentGraphJoinV1.toJoin : AgentGraphJoinV1 → WorkflowJoinPolicyV1
  | .any => .any
  | .quorum minimum => .quorum minimum

def AgentGraphJoinV1.title : AgentGraphJoinV1 → String
  | .any => "Any successful branch"
  | .quorum minimum => "Quorum " ++ toString minimum

def graphNodeId (proposalId key : String) : String :=
  "graph-" ++ String.ofList (proposalId.toList.take 16) ++ "-" ++ key

/-- The random ids of one proposed node. -/
structure AdmissionIds where
  attempt : Uuid
  task : Uuid

structure AdmittedGraphNode where
  proposal : AgentGraphNodeProposalV1
  node : WorkflowNodeSpecV1
  task : WorkflowTaskV1

def admitGraphNode (profiles : ProfileRegistry) (current : WorkflowProjectionV1)
    (workflowId proposalId : String) (parent : WorkflowNodeSpecV1) (parentProfile : AgentProfileV1)
    (at_ : Timestamp) (entry : AgentGraphNodeProposalV1 × AdmissionIds) :
    Except WorkflowError AdmittedGraphNode := do
  let (proposal, ids) := entry
  let profile ← profiles proposal.profileId activeBuiltinAgentProfileVersion
  ensure (admitsProfile parentProfile profile.profileId) .workflowProfileDenied
  let grant := attenuateGrant parent.grantRequest proposal.grantRequest profile
  let nodeId := graphNodeId proposalId proposal.key
  ensure (!current.spec.nodes.any fun node => node.nodeId = nodeId) .workflowProposalDuplicate
  let delegate : DelegateProposalV1 :=
    { proposalId := proposalId ++ "-" ++ proposal.key
      profileRef := { id := profile.profileId, version := profile.version }
      objective := proposal.objective
      inputRefs := proposal.inputRefs
      grantRequest := proposal.grantRequest
      maxWallClockMs := proposal.maxWallClockMs }
  let node := { delegateNode nodeId delegate profile grant .agentTask with
    maxIterations := proposal.maxIterations }
  let task ← agentTask workflowId current.runId ("attempt-" ++ ids.attempt.text)
    current.spec.workspace profile.profileId profile.version node ids.task at_
  return { proposal, node, task }

def proposalEdges (proposalId : String) (proposal : AgentGraphNodeProposalV1) :
    List WorkflowEdgeV1 :=
  (proposal.dependencies.map fun dependency =>
    { fromNode := graphNodeId proposalId dependency
      toNode := graphNodeId proposalId proposal.key
      condition := (proposal.conditions.find? fun condition =>
        condition.dependency = dependency).map fun condition =>
          { operator := condition.operator, pointer := condition.pointer, value := condition.value } }) ++
    proposal.dependsOnNodeIds.map fun nodeId =>
      { fromNode := nodeId, toNode := graphNodeId proposalId proposal.key }

def joinNodeId (proposalId : String) : String :=
  "join-" ++ String.ofList (proposalId.toList.take 24)

def joinNode (proposalId : String) (join : AgentGraphJoinV1) : WorkflowNodeSpecV1 where
  nodeId := joinNodeId proposalId
  kind := .decision
  title := join.title
  inputRefs := []
  grantRequest := noGrant
  effect := { effectClass := .pure, requiresApproval := false }
  retry := noRetry
  timeout := ⟨unlimitedWallClockMs, unlimitedWallClockMs, 30_000⟩
  criteria := []
  join := some join.toJoin

/-- The dependencies and the conditions of proposals refer to what is there. -/
def checkGraphReferences (current : WorkflowProjectionV1)
    (proposals : List AgentGraphNodeProposalV1) : Except WorkflowError Unit := do
  let keys := proposals.map (·.key)
  ensure (decide keys.Nodup && proposals.all fun proposal =>
    (proposal.dependencies.all fun dependency => dependency ∈ keys) &&
      proposal.dependsOnNodeIds.all fun nodeId =>
        current.spec.nodes.any fun candidate => candidate.nodeId = nodeId)
    .workflowGraphReferenceInvalid
  ensure (proposals.all fun proposal =>
    decide (proposal.conditions.map (·.dependency)).Nodup &&
      proposal.conditions.all fun condition => condition.dependency ∈ proposal.dependencies)
    .workflowGraphConditionInvalid

def startsAtOnce (proposal : AgentGraphNodeProposalV1) : Bool :=
  proposal.dependencies.isEmpty && proposal.dependsOnNodeIds.isEmpty

def agentGraphTransaction (current : WorkflowProjectionV1) (workflowId proposalId : String)
    (join : Option AgentGraphJoinV1) (admitted : List AdmittedGraphNode) (at_ : Timestamp) :
    WorkflowTransactionV1 where
  transactionId := "agent-graph-" ++ proposalId
  workflowId := workflowId
  expectedSequence := current.sequence
  occurredAt := at_
  events :=
    .graphPatched (extendedSpec current .workflowGraph
      (admitted.map (·.node) ++ join.toList.map (joinNode proposalId))
      ((admitted.flatMap fun entry => proposalEdges proposalId entry.proposal) ++
        join.toList.flatMap fun _ => admitted.map fun entry =>
          { fromNode := entry.node.nodeId, toNode := joinNodeId proposalId })) ::
      .workflowTopologyChanged .workflowGraph ::
      (join.toList.map fun _ => .nodeStateChanged
        { nodeId := joinNodeId proposalId, state := .admitted }) ++
      admitted.flatMap fun entry =>
        admissionEvents entry.node.nodeId entry.task.attemptId (startsAtOnce entry.proposal)
  enqueueTasks := admitted.map (·.task)
  outbox := admitted.map fun entry => taskReadyMessage workflowId entry.task.taskId at_

def admitAgentGraph (profiles : ProfileRegistry) (current : WorkflowProjectionV1)
    (workflowId parentNodeId proposalId : String)
    (proposals : List (AgentGraphNodeProposalV1 × AdmissionIds)) (join : Option AgentGraphJoinV1)
    (at_ : Timestamp) : Except WorkflowError Decision := do
  ensure (current.spec.modePolicy != .solo) .modeOverrideIncompatible
  ensure (!proposals.isEmpty &&
    decide (((current.spec.nodes.length + proposals.length : Nat) : Int) ≤
      current.spec.budget.maxAgentTasks)) .workflowAgentBudgetExhausted
  checkGraphReferences current (proposals.map Prod.fst)
  let (parent, profile) ← delegatingProfile profiles
    (current.spec.nodes.find? fun node => node.nodeId = parentNodeId)
  let parentProfile ← orError .workflowProfileDenied profile
  ensure parentProfile.delegationPolicy.mayDelegate .workflowProfileDenied
  let admitted ← proposals.mapM
    (admitGraphNode profiles current workflowId proposalId parent parentProfile at_)
  return .transact (agentGraphTransaction current workflowId proposalId join admitted at_)

end Praxis.Workflow
