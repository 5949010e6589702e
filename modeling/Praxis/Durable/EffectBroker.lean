import Praxis.Foundations.Actions
import Praxis.Durable.EffectGrants
import Praxis.Durable.Fleet

/-!
# The effect broker

The broker journals a tool call with an effect as an activity of the workflow: it admits a node,
claims its task, marks it running, reserves its effect, runs the tool and completes the node with
a receipt. Its steps are transactions of their own, and any of them may fail, before or after it
took effect. What it did before stays done; the handler at the end marks the activity unknown if
its task was claimed.

The steps run without another writer, so that each finds the store as the one before it left it.
The hash function and the text of a JSON value are arguments, and so are random ids, clocks and
whatever the tool and the artifact store answer.
-/

namespace Praxis.Workflow

set_option autoImplicit false

open Praxis.Foundations

/-! ## Tools -/

inductive ToolSideEffectV1 where
  | none | read | write | process | network
deriving DecidableEq

inductive ToolErrorCategoryV1 where
  | validation | permission | notFound | execution | truncated

structure ToolErrorV1 where
  code : String
  category : ToolErrorCategoryV1
  retryable : Bool

structure ArtifactReference where
  artifactId : String
  digest : String
  mimeType : String
  bytes : Int

structure ToolResult where
  ok : Bool
  summary : String
  output : Option Json := none
  artifacts : Option (List ArtifactReference) := none
  error : Option ToolErrorV1 := none

structure PreparedToolInvocation where
  name : String
  input : List (String × Json)
  sideEffect : ToolSideEffectV1
  invocationId : Option String := none

/-- Side effects that change something. -/
def mutableSideEffects : List ToolSideEffectV1 := [.write, .process, .network]

def durableEffect (prepared : PreparedToolInvocation) : Bool :=
  !startsWith prepared.name "plan." && !startsWith prepared.name "agent." &&
    !startsWith prepared.name "workflow." && decide (prepared.sideEffect ∈ mutableSideEffects)

def explicitIdempotencyKey (input : List (String × Json)) : Option String :=
  match input.lookup "idempotencyKey" with
  | some (.str value) => if safeId value then some value else none
  | _ => none

/-- Tools that the broker never journals. -/
def memoryTools : List String := ["memory.search", "memory.get", "memory.upsert", "memory.forget"]

/-! ## The broker and what it meets -/

structure WorkflowEffectBrokerV1 where
  workflowId : String
  modePolicy : WorkflowModePolicyV1 := .auto
  /-- The SHA-256 of a text, in hexadecimal digits. -/
  sha256 : String → String
  /-- `JSON.stringify`. -/
  stringify : Json → String
  /-- The `code` of a workflow error, if it has one. -/
  codeOf : WorkflowError → Option String

/-- The steps of a journaled call that may fail. -/
inductive BrokerStep where
  | admitToolActivity | claimActivity | markRunning | reserveEffect | complete | markUnknown
  | readArtifact | putArtifact
  | onAdmitted | onRunning | onCompleted | onReceipt

/-- A failure of a step: whether it had taken effect, and the code of its error. -/
structure StepFault where
  tookEffect : Bool
  code : Option String := none

/-- What a call draws, reads off the clock and is answered from outside. -/
structure BrokerCall where
  faults : BrokerStep → Option StepFault
  /-- The result of the tool; `none` when it throws. -/
  invoke : Option ToolResult
  /-- The result in the receipt that is read, if it has one. -/
  stored : Option ToolResult
  /-- The artifact that is stored. -/
  artifact : ArtifactReference
  operationUuid : Uuid
  nodeUuid : Uuid
  attemptUuid : Uuid
  taskUuid : Uuid
  workerUuid : Uuid
  leaseUuid : Uuid
  retryAttemptUuid : Uuid
  retryTaskUuid : Uuid
  admittedAt : Timestamp
  claimedAt : Timestamp
  runningAt : Timestamp
  reservedAt : Timestamp
  /-- The instants at which the timer of the heartbeat fires while the tool runs. -/
  heartbeatsAt : List Timestamp
  completedAt : Timestamp
  unknownAt : Timestamp
  /-- A bound on the passes of the reconciliation. -/
  passes : Nat

inductive InvocationState where
  | notStarted | running | returned
deriving DecidableEq

/-- The store, and the variables of the call that its handler reads. -/
structure BrokerRun where
  store : AuthorityStore
  claim : Option WorkflowTaskClaimV1 := none
  effectReserved : Bool := false
  invocationState : InvocationState := .notStarted

inductive BrokerError where
  | workflow (error : WorkflowError)
  | thrown (code : Option String)
  /-- The bound on the passes is used up: the call has not returned. -/
  | unfinished

abbrev BrokerAction := Action BrokerError BrokerRun

namespace BrokerAction

variable {α : Type}

def authority (operation : AuthorityStore → Except WorkflowError (α × AuthorityStore)) :
    BrokerAction α := fun run =>
  match operation run.store with
  | .ok (a, store) => (.ok a, { run with store })
  | .error error => (.error (.workflow error), run)

def tryAuthority (operation : AuthorityStore → Except WorkflowError (α × AuthorityStore)) :
    BrokerAction (Except WorkflowError α) := fun run =>
  match operation run.store with
  | .ok (a, store) => (.ok (.ok a), { run with store })
  | .error error => (.ok (.error error), run)

def orchestrate (call : OrchestratorCall) : BrokerAction WorkflowProjectionV1 :=
  authority fun store => call.perform store store store

def projection (workflowId : String) : BrokerAction WorkflowProjectionV1 :=
  authority fun store => do
    let current ← store.journal.loadProjection workflowId
    return (current, store)

/-- A change of the variables. -/
def assign (change : BrokerRun → BrokerRun) : BrokerAction Unit := fun run => (.ok (), change run)

/-- A step that may fail. -/
def step (call : BrokerCall) (name : BrokerStep) (action : BrokerAction α) : BrokerAction α :=
  match call.faults name with
  | none => action
  | some fault =>
    if fault.tookEffect then do
      let _ ← action
      Action.check (.error (.thrown fault.code))
    else Action.check (.error (.thrown fault.code))

/-! ## Reconciliation that may stop halfway -/

/-- The ids of the nodes that are scheduled: all but the root and the joins. -/
def ordinaryNodeIds (current : WorkflowProjectionV1) : List String :=
  (current.spec.nodes.filter fun node => node.nodeId ≠ "root" ∧ node.join = none).map (·.nodeId)

def joinNodes (current : WorkflowProjectionV1) : List WorkflowNodeSpecV1 :=
  current.spec.nodes.filter fun node => node.join.isSome

def resolveJoins (workflowId : String) (at_ : Timestamp) :
    List WorkflowNodeSpecV1 → WorkflowProjectionV1 → Bool →
      BrokerAction (WorkflowProjectionV1 × Bool)
  | [], current, changed => return (current, changed)
  | spec :: rest, current, changed => do
      match ← tryAuthority fun store => OrchestratorCall.perform store store store
          (.resolveJoinNode workflowId spec.nodeId at_) with
      | .error .workflowSequenceConflict => return (current, true)
      | .error error => Action.check (.error (.workflow error))
      | .ok resolved =>
        if resolved.sequence ≠ current.sequence then resolveJoins workflowId at_ rest resolved true
        else resolveJoins workflowId at_ rest current changed

def reconcilePass (workflowId : String) (at_ : Timestamp) :
    BrokerAction (Option WorkflowProjectionV1) := do
  let current ← projection workflowId
  if isTerminalWorkflow current.state then return some current
  else
    match ← tryAuthority fun store => OrchestratorCall.perform store store store
        (.scheduleReadyNodes workflowId (ordinaryNodeIds current) at_) with
    | .error .workflowSequenceConflict => return none
    | .error error => Action.check (.error (.workflow error))
    | .ok scheduled =>
      if scheduled.sequence ≠ current.sequence then return none
      else do
        let (resolved, changed) ←
          resolveJoins workflowId at_ (joinNodes scheduled) scheduled false
        if changed then return none
        else
          match ← tryAuthority fun store =>
              (settleWorkflow resolved workflowId at_).perform store with
          | .error .workflowSequenceConflict => return none
          | .error error => Action.check (.error (.workflow error))
          | .ok settled => return some settled

def reconcileWorkflow (workflowId : String) (at_ : Timestamp) :
    Nat → BrokerAction WorkflowProjectionV1
  | 0 => Action.check (.error .unfinished)
  | passes + 1 => do
      match ← reconcilePass workflowId at_ with
      | some final => return final
      | none => reconcileWorkflow workflowId at_ passes

end BrokerAction

/-! ## A journaled call -/

section Journaled

open BrokerAction

variable (broker : WorkflowEffectBrokerV1) (prepared : PreparedToolInvocation) (call : BrokerCall)

def inputDigest : String :=
  "sha256:" ++ broker.sha256
    (broker.stringify (.obj [("tool", Json.str prepared.name), ("input", .obj prepared.input)]))

/-- The key of the call. A write without one has its invocation's, or a new one. -/
def idempotencyKey : Option String :=
  if prepared.sideEffect = .write then
    some ((explicitIdempotencyKey prepared.input).getD ("workspace-invocation-" ++
        broker.sha256 (prepared.invocationId.getD call.operationUuid.text)))
  else explicitIdempotencyKey prepared.input

def brokerEffect : EffectContractV1 :=
  if prepared.sideEffect = .write then
    { effectClass := .workspaceWrite
      idempotencyKey := idempotencyKey broker prepared call
      requiresApproval := false }
  else match idempotencyKey broker prepared call with
    | none => { effectClass := .externalNonIdempotent, requiresApproval := true }
    | some key =>
      { effectClass := .externalIdempotent
        idempotencyKey := some key
        requiresApproval := true }

def BrokerCall.nodeId : String := "activity-" ++ call.nodeUuid.text

def admission : OrchestratorCall :=
  .admitToolActivity broker.workflowId prepared.name (brokerEffect broker prepared call)
    call.nodeUuid call.attemptUuid call.taskUuid call.admittedAt

def activityOptions (workflowId nodeId : String) : ClaimOptionsV1 where
  workflowId := some workflowId
  nodeId := some nodeId
  kinds := some [.tool, .compensation]

def BrokerCall.workerId : String := "effect-broker-" ++ call.workerUuid.text

def claimActivity : BrokerAction WorkflowTaskClaimV1 := do
  match ← authority fun store => claim store call.workerId
      (activityOptions broker.workflowId call.nodeId) call.claimedAt call.leaseUuid with
  | none => Action.check (.error (.workflow .workflowActivityTaskUnavailable))
  | some claimed =>
    if claimed.task.nodeId = call.nodeId then return claimed
    else Action.check (.error (.workflow .workflowActivityTaskUnavailable))

variable (claim : WorkflowTaskClaimV1)

def reserveActivity : BrokerAction WorkflowEffectAdmissionV1 := do
  let key ← Action.check (orError (.workflow .workflowEffectIdempotencyKeyMissing)
    claim.task.effect.idempotencyKey)
  authority fun store => reserveEffect store claim.task.workflowId key
    (inputDigest broker prepared) claim.task.attemptId claim.lease.expiresAt call.reservedAt

/-- A completion, and the reconciliation after a success. -/
def completeActivity (outcome : WorkflowOutcomeV1) :
    BrokerAction WorkflowProjectionV1 := do
  let current ← projection claim.task.workflowId
  match completeOnce claim outcome current call.completedAt call.retryAttemptUuid
      call.retryTaskUuid with
  | .error error => Action.check (.error (.workflow error))
  | .ok (.answer answered) => return answered
  | .ok (.transact input) => do
      let next ← authority fun store => transact store input
      if nodeSucceeded claim outcome then
        BrokerAction.reconcileWorkflow next.workflowId call.completedAt call.passes
      else return next

/-- A heartbeat, whose failure is ignored. -/
def beat (at_ : Timestamp) : BrokerAction Unit :=
  Action.swallow do
    let _ ← authority fun store =>
      heartbeat store claim.task.taskId claim.lease.token false at_

def invokeTool : BrokerAction ToolResult :=
  match call.invoke with
  | some result => return result
  | none => Action.check (.error (.thrown none))

def ArtifactReference.toRef (artifact : ArtifactReference) : WorkflowArtifactRefV1 where
  artifactId := artifact.artifactId
  digest := artifact.digest
  mediaType := artifact.mimeType

def ToolResult.withArtifact (result : ToolResult) (artifact : ArtifactReference) : ToolResult :=
  { result with artifacts := some (result.artifacts.getD [] ++ [artifact]) }

/-- The tool, with the heartbeats that fire while it runs. -/
def runTool : BrokerAction ToolResult := do
  assign fun run => { run with invocationState := .running }
  call.heartbeatsAt.forM (beat claim)
  let result ← invokeTool call
  assign fun run => { run with invocationState := .returned }
  return result

/-- The tool runs, and its result is stored and recorded. -/
def performEffect : BrokerAction ToolResult := do
  let result ← runTool call claim
  let artifact ← step call .putArtifact (pure call.artifact)
  let effectReserved ← Action.reading BrokerRun.effectReserved
  if result.ok then do
    let _ ← step call .complete (completeActivity call claim
      { ok := true
        resultRef := some artifact.toRef
        receiptRef := some artifact.toRef
        effectReserved })
    step call .onCompleted (pure ())
    step call .onReceipt (pure ())
    return result.withArtifact artifact
  else do
    let _ ← step call .complete (completeActivity call claim
      { ok := false
        errorCode := some ((result.error.map (·.code)).getD "TOOL_EXECUTION_FAILED")
        resultRef := some artifact.toRef
        effectReserved
        effectKnownFailure := true })
    step call .onCompleted (pure ())
    return result.withArtifact artifact

/-- The key belongs to another input, or to an effect in progress. -/
def refuseEffect (code summary : String) (retryable : Bool) :
    BrokerAction ToolResult := do
  let _ ← step call .complete (completeActivity call claim { ok := false, errorCode := some code })
  return {
    ok := false
    summary
    error := some { code, category := .execution, retryable } }

def replayEffect (receiptRef : WorkflowArtifactRefV1) :
    BrokerAction ToolResult := do
  let stored ← step call .readArtifact (pure call.stored)
  match stored with
  | none => Action.check (.error (.thrown none))
  | some result => do
      let _ ← step call .complete (completeActivity call claim
        { ok := true
          resultRef := some receiptRef
          receiptRef := some receiptRef
          effectReplayed := true })
      step call .onCompleted (pure ())
      return result

/-- What follows once the task is claimed. -/
def runActivity : BrokerAction ToolResult := do
  let _ ← step call .markRunning (orchestrate (.markRunning claim call.runningAt))
  step call .onRunning (pure ())
  match idempotencyKey broker prepared call with
  | none => performEffect call claim
  | some _ => do
      let admission ← step call .reserveEffect (reserveActivity broker prepared call claim)
      match admission.decision, admission.reservation.receiptRef with
      | .conflict, _ =>
        refuseEffect call claim "WORKFLOW_EFFECT_IDEMPOTENCY_CONFLICT"
          "The idempotency key is already bound to different input." false
      | .inProgress, _ =>
        refuseEffect call claim "WORKFLOW_EFFECT_IN_PROGRESS"
          "The same external effect is already in progress." true
      | .replay, some receiptRef => replayEffect call claim receiptRef
      | .replay, none => performEffect call claim
      | .execute, _ => do
          assign fun run => { run with effectReserved := true }
          performEffect call claim

/-- The body of the call. -/
def journalActivity : BrokerAction ToolResult := do
  let _ ← step call .admitToolActivity (orchestrate (admission broker prepared call))
  step call .onAdmitted (pure ())
  let claim ← step call .claimActivity (claimActivity broker call)
  assign fun run => { run with claim := some claim }
  runActivity broker prepared call claim

/-- The last write of a call that failed. -/
def recordUnknown (code : String) (effectReserved : Bool) :
    BrokerAction WorkflowProjectionV1 :=
  step call .markUnknown (orchestrate (.markUnknown claim code effectReserved call.unknownAt))

def unknownCode : InvocationState → String
  | .running => "WORKFLOW_EFFECT_OUTCOME_UNKNOWN"
  | .notStarted | .returned => "WORKFLOW_EFFECT_RECEIPT_PERSIST_FAILED"

def errorCode : BrokerError → String
  | .workflow error => (broker.codeOf error).getD "WORKFLOW_EFFECT_RECEIPT_PERSIST_FAILED"
  | .thrown code => code.getD "WORKFLOW_EFFECT_RECEIPT_PERSIST_FAILED"
  | .unfinished => "WORKFLOW_EFFECT_RECEIPT_PERSIST_FAILED"

def failedResult (error : BrokerError) (state : InvocationState) : ToolResult where
  ok := false
  summary :=
    if state = .running then
      "Mutable Tool execution ended without a result; inspect current state before retrying."
    else "Mutable Tool execution could not be committed with a durable receipt."
  error := some
    { code := if state = .running then unknownCode state else errorCode broker error
      category := .execution
      retryable := false }

/-- The write of the handler, whose failure is ignored as its callback's is. -/
def recordFailure (run : BrokerRun) : BrokerAction Unit :=
  match run.claim with
  | none => pure ()
  | some claim => Action.swallow do
      let _ ← recordUnknown call claim (unknownCode run.invocationState) run.effectReserved

def handleFailure (error : BrokerError) : BrokerAction ToolResult := do
  let run ← Action.reading id
  recordFailure call run
  return failedResult broker error run.invocationState

def executeActivity : BrokerAction ToolResult :=
  (journalActivity broker prepared call).catching fun
    | .unfinished => Action.check (.error .unfinished)
    | error => handleFailure broker call error

/-- The workflow policy lets nothing change before a topology is admitted. -/
def needsTopology : Bool :=
  broker.modePolicy == .workflow && !startsWith prepared.name "workflow." &&
    !startsWith prepared.name "agent." && decide (prepared.sideEffect ∈ mutableSideEffects)

/-- The policy is in force, and the workflow has a single agent still. -/
def refusesTopology : BrokerAction Bool :=
  if needsTopology broker prepared then do
    let current ← projection broker.workflowId
    return decide (current.spec.topology = .singleAgent)
  else return false

def topologyRequired : ToolResult where
  ok := false
  summary := "Workflow policy requires an admitted topology before non-read-only work."
  error := some { code := "WORKFLOW_TOPOLOGY_REQUIRED", category := .permission, retryable := true }

def execute : BrokerAction ToolResult :=
  if prepared.name ∈ memoryTools then invokeTool call
  else do
    let refused ← refusesTopology broker prepared
    if refused then return topologyRequired
    else if durableEffect prepared then executeActivity broker prepared call
    else invokeTool call

end Journaled

end Praxis.Workflow
