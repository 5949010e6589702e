import Praxis.Foundations.Fallible
import Praxis.Foundations.SourceText
import Praxis.Durable.Contracts

/-!
# Validation of workflow specifications

`validateWorkflowSpecV1` and the checks it is made of, in the order in which the source
makes them, so that a specification with several defects is rejected under the same code.
On typed values validation accepts or rejects but never rewrites
(`validateWorkflowSpecV1_returns`); what an accepted specification guarantees to later code
is collected at the end.
-/

namespace Praxis.Workflow

set_option autoImplicit false

open Praxis.Foundations

/-! ## Scalar checks -/

def maxSafeInteger : Int := 9_007_199_254_740_991

def positiveInteger (value : Int) : Bool := decide (0 < value ∧ value ≤ maxSafeInteger)

def nonNegativeInteger (value : Int) : Bool := decide (0 ≤ value ∧ value ≤ maxSafeInteger)

def safeIdChar (c : Char) : Bool :=
  c.isAlphanum || c == '.' || c == '_' || c == ':' || c == '/' || c == '@' || c == '+' || c == '-'

/-- The characters of a safe id with at most the given number of characters after the first. -/
def safeIdChars (limit : Nat) : List Char → Bool
  | [] => false
  | first :: rest => first.isAlphanum && decide (rest.length ≤ limit) && rest.all safeIdChar

/-- An id of at most 128 characters, as the contracts require it. -/
def safeId (value : String) : Bool := safeIdChars 127 (chars value)

def isHexDigit (c : Char) : Bool := c.isDigit || ('a' ≤ c && c ≤ 'f')

/-- The prefix `sha256:` and 64 lower-case hexadecimal digits. -/
def isSha256 (value : String) : Bool :=
  let found := chars value
  found.take 7 == chars "sha256:" && (found.drop 7).length == 64 &&
    (found.drop 7).all isHexDigit

/-- White space and line terminators, as `trim` removes them. -/
def isTrimmed (c : Char) : Bool :=
  let code := c.toNat
  (9 ≤ code && code ≤ 13) || code == 0x20 || code == 0xA0 || code == 0x1680 ||
    (0x2000 ≤ code && code ≤ 0x200A) || code == 0x2028 || code == 0x2029 || code == 0x202F ||
    code == 0x205F || code == 0x3000 || code == 0xFEFF

/-- The largest size of a text in bytes. -/
def maxTextBytes : Nat := 32 * 1024

/-- A text that is not blank and not too long. -/
def text (value : String) : Bool :=
  (chars value).any (fun c => !isTrimmed c) && decide (value.utf8ByteSize ≤ maxTextBytes)

/-- Reject a list in which a value occurs twice. -/
def unique (values : List String) (error : WorkflowError) : Except WorkflowError Unit :=
  ensure (decide values.Nodup) error

/-! ## Records -/

def validateVersionedRef (input : VersionedWorkflowRefV1) :
    Except WorkflowError VersionedWorkflowRefV1 := do
  ensure (safeId input.id && positiveInteger input.version && input.digest.all isSha256)
    .workflowRefInvalid
  return input

def validateArtifactRef (input : WorkflowArtifactRefV1) :
    Except WorkflowError WorkflowArtifactRefV1 := do
  ensure (safeId input.artifactId && isSha256 input.digest && text input.mediaType)
    .workflowRefInvalid
  return input

def validateCapabilityRequest (input : CapabilityRequestV1) :
    Except WorkflowError CapabilityRequestV1 := do
  ensure ((input.tools ++ input.skills ++ input.mcpServers).all fun item =>
    item == "*" || safeId item) .workflowCapabilityInvalid
  return input

def validateEffect (input : EffectContractV1) : Except WorkflowError EffectContractV1 := do
  ensure (input.effectClass != .externalIdempotent || input.idempotencyKey.any safeId)
    .workflowEffectInvalid
  return input

def validateRetry (input : WorkflowRetryPolicyV1) :
    Except WorkflowError WorkflowRetryPolicyV1 := do
  ensure (positiveInteger input.maxAttempts && nonNegativeInteger input.initialBackoffMs &&
    nonNegativeInteger input.maxBackoffMs &&
    decide (input.initialBackoffMs ≤ input.maxBackoffMs) &&
    input.retryableCodes.all safeId) .workflowRetryInvalid
  return input

def validateTimeout (input : WorkflowTimeoutPolicyV1) :
    Except WorkflowError WorkflowTimeoutPolicyV1 := do
  ensure (positiveInteger input.totalMs && positiveInteger input.noProgressMs &&
    positiveInteger input.heartbeatMs && decide (input.noProgressMs ≤ input.totalMs) &&
    decide (input.heartbeatMs < input.noProgressMs)) .workflowTimeoutInvalid
  return input

def validateCriterion (input : WorkflowVerificationCriterionV1) :
    Except WorkflowError WorkflowVerificationCriterionV1 := do
  ensure (safeId input.criterionId && text input.description) .workflowCriterionInvalid
  return input

def validateBudget (input : WorkflowBudgetV1) : Except WorkflowError WorkflowBudgetV1 := do
  ensure (positiveInteger input.maxWallClockMs && positiveInteger input.maxTokens &&
    positiveInteger input.maxToolCalls && positiveInteger input.maxAgentTasks &&
    positiveInteger input.maxParallelTasks) .workflowBudgetInvalid
  ensure (input.maxCostUsd.all fun cost => decide (0 ≤ cost)) .workflowBudgetInvalid
  return input

def validateJoin : WorkflowJoinPolicyV1 → Except WorkflowError WorkflowJoinPolicyV1
  | .all => return .all
  | .any => return .any
  | .quorum minimum => do
      ensure (positiveInteger minimum) .workflowJoinInvalid
      return .quorum minimum

def validateNode (input : WorkflowNodeSpecV1) : Except WorkflowError WorkflowNodeSpecV1 := do
  ensure (safeId input.nodeId && text input.title && input.maxIterations.all positiveInteger)
    .workflowNodeInvalid
  let profileRef ← input.profileRef.mapM validateVersionedRef
  let inputRefs ← input.inputRefs.mapM validateArtifactRef
  let outputSchemaRef ← input.outputSchemaRef.mapM validateVersionedRef
  let grantRequest ← validateCapabilityRequest input.grantRequest
  let effect ← validateEffect input.effect
  let retry ← validateRetry input.retry
  let timeout ← validateTimeout input.timeout
  let criteria ← input.criteria.mapM validateCriterion
  let join ← input.join.mapM validateJoin
  return {
      nodeId := input.nodeId
      kind := input.kind
      title := input.title
      required := input.required
      profileRef, inputRefs, outputSchemaRef, grantRequest, effect, retry, timeout, criteria
      maxIterations := input.maxIterations
      join }

def validateEdge (nodeIds : List String) (input : WorkflowEdgeV1) :
    Except WorkflowError WorkflowEdgeV1 := do
  ensure (safeId input.fromNode && safeId input.toNode && input.fromNode != input.toNode &&
    nodeIds.contains input.fromNode && nodeIds.contains input.toNode) .workflowEdgeInvalid
  ensure (input.condition.all fun condition =>
    condition.pointer.all fun pointer => pointer.toList.head? == some '/') .workflowEdgeInvalid
  return input

def validateCapacityGroup (group : WorkflowCapacityGroupV1) :
    Except WorkflowError WorkflowCapacityGroupV1 := do
  ensure (safeId group.key && positiveInteger group.limit) .workflowSpecInvalid
  return group

def validateSchedulingPolicy (input : WorkflowSchedulingPolicyV1) :
    Except WorkflowError WorkflowSchedulingPolicyV1 := do
  ensure (decide (input.capacityGroups.length ≤ 16)) .workflowSpecInvalid
  let capacityGroups ← input.capacityGroups.mapM validateCapacityGroup
  unique (capacityGroups.map (·.key)) .workflowSpecInvalid
  return { capacityGroups }

/-! ## The graph -/

def outgoingTargets (edges : List WorkflowEdgeV1) (nodeId : String) : List String :=
  (edges.filter fun edge => edge.fromNode = nodeId).map (·.toNode)

/-- How many edges enter each node, in the order of the nodes. -/
def indegrees (nodes : List WorkflowNodeSpecV1) (edges : List WorkflowEdgeV1) :
    List (String × Int) :=
  nodes.map fun node => (node.nodeId, (edges.filter fun edge => edge.toNode = node.nodeId).length)

/-- One edge of a visited node is taken away; its target becomes ready with its last edge. -/
def releaseTarget (state : List (String × Int) × List String) (next : String) :
    List (String × Int) × List String :=
  let count := (state.1.lookup next).getD 0 - 1
  let indegree := state.1.map fun entry => if entry.1 = next then (next, count) else entry
  (indegree, if count = 0 then state.2 ++ [next] else state.2)

/-- Visit ready nodes until none is left, and count them. Every visit takes a node from the
queue, and a node enters the queue at the start or with its last edge, so the loop ends
before as many rounds as there are nodes and edges. -/
def countVisited (edges : List WorkflowEdgeV1) :
    Nat → List (String × Int) → List String → Nat → Nat
  | 0, _, _, visited => visited
  | _, _, [], visited => visited
  | fuel + 1, indegree, id :: ready, visited =>
    let released := (outgoingTargets edges id).foldl releaseTarget (indegree, ready)
    countVisited edges fuel released.1 released.2 (visited + 1)

def assertAcyclic (nodes : List WorkflowNodeSpecV1) (edges : List WorkflowEdgeV1) :
    Except WorkflowError Unit :=
  let indegree := indegrees nodes edges
  let ready := (indegree.filter fun entry => entry.2 = 0).map (·.1)
  ensure (countVisited edges (nodes.length + edges.length + 1) indegree ready 0 == nodes.length)
    .workflowGraphCycle

/-- A join node is a decision or a synthesis with enough incoming edges for its policy. -/
def joinAccepted (edges : List WorkflowEdgeV1) (node : WorkflowNodeSpecV1) : Bool :=
  match node.join with
  | none => true
  | some join =>
    let incoming := (edges.filter fun edge => edge.toNode = node.nodeId).length
    (node.kind == .decision || node.kind == .synthesis) && incoming != 0 &&
      match join with
      | .quorum minimum => decide (minimum ≤ incoming)
      | _ => true

def validateWorkflowSpecV1 (input : WorkflowSpecV1) : Except WorkflowError WorkflowSpecV1 := do
  let scheduling ← input.scheduling.mapM validateSchedulingPolicy
  ensure (safeId input.workflowId && safeId input.runId && safeId input.sessionId &&
    input.parentWorkflowId.isNone == input.parentNodeId.isNone &&
    input.parentWorkflowId.all safeId && input.parentNodeId.all safeId &&
    (input.executionTarget.all fun target => text target.providerId && text target.model) &&
    input.workspace != "" && text input.objective && positiveInteger input.revision &&
    !input.nodes.isEmpty && nonNegativeInteger input.maxGraphMutations &&
    input.createdAt.valid) .workflowSpecInvalid
  let nodes ← input.nodes.mapM validateNode
  unique (nodes.map (·.nodeId)) .workflowNodeDuplicate
  let edges ← input.edges.mapM (validateEdge (nodes.map (·.nodeId)))
  assertAcyclic nodes edges
  ensure (nodes.all (joinAccepted edges)) .workflowJoinInvalid
  ensure (input.modePolicy != .solo ||
    !nodes.any fun node => node.nodeId != "root" && node.kind != .toolActivity)
    .modeOverrideIncompatible
  let budget ← validateBudget input.budget
  return {
      workflowId := input.workflowId
      runId := input.runId
      sessionId := input.sessionId
      parentWorkflowId := input.parentWorkflowId
      parentNodeId := input.parentNodeId
      executionTarget := input.executionTarget
      scheduling
      workspace := input.workspace
      objective := input.objective
      modePolicy := input.modePolicy
      topology := input.topology
      revision := input.revision
      nodes, edges
      completion := input.completion
      budget
      maxGraphMutations := input.maxGraphMutations
      createdAt := input.createdAt }

/-! ## Accepted records come back unchanged -/

theorem validateVersionedRef_returns {input output : VersionedWorkflowRefV1}
    (accepted : validateVersionedRef input = .ok output) : output = input :=
  check_returns accepted

theorem validateArtifactRef_returns {input output : WorkflowArtifactRefV1}
    (accepted : validateArtifactRef input = .ok output) : output = input :=
  check_returns accepted

theorem validateCapabilityRequest_returns {input output : CapabilityRequestV1}
    (accepted : validateCapabilityRequest input = .ok output) : output = input :=
  check_returns accepted

theorem validateEffect_returns {input output : EffectContractV1}
    (accepted : validateEffect input = .ok output) : output = input :=
  check_returns accepted

theorem validateRetry_returns {input output : WorkflowRetryPolicyV1}
    (accepted : validateRetry input = .ok output) : output = input :=
  check_returns accepted

theorem validateTimeout_returns {input output : WorkflowTimeoutPolicyV1}
    (accepted : validateTimeout input = .ok output) : output = input :=
  check_returns accepted

theorem validateCriterion_returns {input output : WorkflowVerificationCriterionV1}
    (accepted : validateCriterion input = .ok output) : output = input :=
  check_returns accepted

theorem validateBudget_returns {input output : WorkflowBudgetV1}
    (accepted : validateBudget input = .ok output) : output = input := by
  simp only [validateBudget, bind_eq_ok, pure_eq_ok] at accepted
  obtain ⟨_, _, _, _, rfl⟩ := accepted
  rfl

theorem validateJoin_returns {input output : WorkflowJoinPolicyV1}
    (accepted : validateJoin input = .ok output) : output = input := by
  cases input with
  | all => exact (pure_eq_ok.mp accepted).symm
  | any => exact (pure_eq_ok.mp accepted).symm
  | quorum minimum =>
    simp only [validateJoin, bind_eq_ok, pure_eq_ok] at accepted
    obtain ⟨_, _, rfl⟩ := accepted
    rfl

theorem validateEdge_returns {nodeIds : List String} {input output : WorkflowEdgeV1}
    (accepted : validateEdge nodeIds input = .ok output) : output = input := by
  simp only [validateEdge, bind_eq_ok, pure_eq_ok] at accepted
  obtain ⟨_, _, _, _, rfl⟩ := accepted
  rfl

theorem validateCapacityGroup_returns {input output : WorkflowCapacityGroupV1}
    (accepted : validateCapacityGroup input = .ok output) : output = input :=
  check_returns accepted

theorem validateSchedulingPolicy_accepts {input output : WorkflowSchedulingPolicyV1}
    (accepted : validateSchedulingPolicy input = .ok output) :
    output = input ∧ (input.capacityGroups.map (·.key)).Nodup ∧
      ∀ group ∈ input.capacityGroups, 0 < group.limit := by
  simp only [validateSchedulingPolicy, bind_eq_ok, pure_eq_ok] at accepted
  obtain ⟨_, _, groups, each, _, distinct, rfl⟩ := accepted
  obtain ⟨rfl, checked⟩ := mapM_returns validateCapacityGroup_returns each
  refine ⟨rfl, by simpa [unique] using distinct, fun group member => ?_⟩
  have limit := checked group member
  simp only [validateCapacityGroup, bind_eq_ok, ensure_eq_ok, Bool.and_eq_true] at limit
  obtain ⟨_, ⟨_, positive⟩, _⟩ := limit
  simp only [positiveInteger, decide_eq_true_eq] at positive
  exact positive.1

/-- What validation guarantees about one node. -/
structure ValidNode (node : WorkflowNodeSpecV1) : Prop where
  safe : safeId node.nodeId = true
  retry : validateRetry node.retry = .ok node.retry
  timeout : validateTimeout node.timeout = .ok node.timeout
  effect : validateEffect node.effect = .ok node.effect

variable {input output : WorkflowNodeSpecV1}

theorem validateNode_accepts
    (accepted : validateNode input = .ok output) : output = input ∧ ValidNode input := by
  simp only [validateNode, bind_eq_ok, pure_eq_ok, ensure_eq_ok, Bool.and_eq_true] at accepted
  obtain ⟨_, ⟨⟨safe, _⟩, _⟩, profileRef, profile, inputRefs, inputs, outputSchemaRef, schema,
    grantRequest, grant, effect, effects, retry, retries, timeout, timeouts, criteria, each,
    join, joins, rfl⟩ := accepted
  obtain ⟨rfl, _⟩ := option_mapM_returns validateVersionedRef_returns profile
  obtain ⟨rfl, _⟩ := mapM_returns validateArtifactRef_returns inputs
  obtain ⟨rfl, _⟩ := option_mapM_returns validateVersionedRef_returns schema
  obtain rfl := validateCapabilityRequest_returns grant
  obtain rfl := validateEffect_returns effects
  obtain rfl := validateRetry_returns retries
  obtain rfl := validateTimeout_returns timeouts
  obtain ⟨rfl, _⟩ := mapM_returns validateCriterion_returns each
  obtain ⟨rfl, _⟩ := option_mapM_returns validateJoin_returns joins
  exact ⟨rfl, safe, retries, timeouts, effects⟩

theorem validateNode_returns (accepted : validateNode input = .ok output) : output = input :=
  (validateNode_accepts accepted).1

/-- What validation guarantees about a specification. -/
structure ValidSpec (spec : WorkflowSpecV1) : Prop where
  workflowId : safeId spec.workflowId = true
  runId : safeId spec.runId = true
  revision : 0 < spec.revision
  nodes : ∀ node ∈ spec.nodes, ValidNode node
  nonempty : spec.nodes ≠ []
  distinct : (spec.nodes.map (·.nodeId)).Nodup
  edges : ∀ edge ∈ spec.edges, edge.fromNode ∈ spec.nodes.map (·.nodeId) ∧
    edge.toNode ∈ spec.nodes.map (·.nodeId)
  joins : ∀ node ∈ spec.nodes, joinAccepted spec.edges node = true
  scheduling : ∀ policy ∈ spec.scheduling, (policy.capacityGroups.map (·.key)).Nodup ∧
    ∀ group ∈ policy.capacityGroups, 0 < group.limit

/-- **Validation returns an accepted specification as it is, and it is valid.** -/
theorem validateWorkflowSpecV1_accepts {input output : WorkflowSpecV1}
    (accepted : validateWorkflowSpecV1 input = .ok output) : output = input ∧ ValidSpec input := by
  simp only [validateWorkflowSpecV1, bind_eq_ok, pure_eq_ok, ensure_eq_ok,
    Bool.and_eq_true] at accepted
  obtain ⟨scheduling, schedule, _, scalars, nodes, each, _, distinct, edges, links, _, _, _,
    joins, _, _, budget, budgeted, rfl⟩ := accepted
  obtain ⟨⟨⟨⟨⟨⟨⟨⟨⟨⟨⟨⟨workflowId, runId⟩, _⟩, _⟩, _⟩, _⟩, _⟩, _⟩, _⟩, revision⟩, nonempty⟩, _⟩, _⟩ :=
    scalars
  obtain ⟨rfl, policies⟩ := option_mapM_returns
    (fun policy => (validateSchedulingPolicy_accepts policy).1) schedule
  obtain ⟨rfl, checked⟩ := mapM_returns validateNode_returns each
  obtain ⟨rfl, linked⟩ := mapM_returns validateEdge_returns links
  obtain rfl := validateBudget_returns budgeted
  refine ⟨rfl, workflowId, runId, ?_, ?_, ?_, ?_, ?_, ?_, ?_⟩
  · simp only [positiveInteger, decide_eq_true_eq] at revision
    exact revision.1
  · exact fun node member => (validateNode_accepts (checked node member)).2
  · simpa using nonempty
  · simpa [unique] using distinct
  · intro edge member
    have link := linked edge member
    simp only [validateEdge, bind_eq_ok, ensure_eq_ok, Bool.and_eq_true] at link
    obtain ⟨_, ⟨⟨_, source⟩, target⟩, _⟩ := link
    exact ⟨List.contains_iff_mem.mp source, List.contains_iff_mem.mp target⟩
  · exact List.all_eq_true.mp joins
  · exact fun policy present => (validateSchedulingPolicy_accepts (policies policy present)).2

theorem validateWorkflowSpecV1_returns {input output : WorkflowSpecV1}
    (accepted : validateWorkflowSpecV1 input = .ok output) : output = input :=
  (validateWorkflowSpecV1_accepts accepted).1

/-! ## A small workflow -/

/-- The first instant of 1970. -/
def epochStart : Timestamp := ⟨isoText 0, some 0⟩

/-- A replayable agent task without requirements. -/
def smallNode (nodeId : String) : WorkflowNodeSpecV1 where
  nodeId := nodeId
  kind := .agentTask
  title := "task"
  inputRefs := []
  grantRequest := ⟨[], [], [], .none, false, false⟩
  effect := { effectClass := .pure, requiresApproval := false }
  retry := ⟨2, 0, 0, ["PROVIDER_UNAVAILABLE"]⟩
  timeout := ⟨6000, 3000, 1000⟩
  criteria := []

/-- A workflow that consists of its root task. -/
def smallSpec : WorkflowSpecV1 where
  workflowId := "workflow"
  runId := "run"
  sessionId := "session"
  workspace := "/"
  objective := "objective"
  modePolicy := .auto
  topology := .singleAgent
  revision := 1
  nodes := [smallNode "root"]
  edges := []
  completion := .allRequired
  budget := { maxWallClockMs := 1, maxTokens := 1, maxToolCalls := 1, maxAgentTasks := 1,
              maxParallelTasks := 1 }
  maxGraphMutations := 5
  createdAt := epochStart

example : (validateWorkflowSpecV1 smallSpec).isOk = true := by decide +kernel

end Praxis.Workflow
