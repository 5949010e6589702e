import Praxis.Foundations.PositionalCalls
import Praxis.Foundations.SourceText
import Praxis.Durable.Authority

/-!
# The remote authority

A worker that must not open the database calls the authority over HTTP. The client writes the name
of the method and its arguments by position, without the missing arguments at the end; the server
applies the method of the authority that it serves to what it reads, and answers with the result or
with the code of the error. An argument that is missing before another one is written as a null, and
a thrown value that is no error has its code dropped.

The methods that look at such a null or throw such a value are those of the store:
`resolveHumanTask`, `resolveUnknown`, `admitTaskForRequest` and `reserveEffectRequest`, and so is
`retryNode`. What the other methods do with their arguments is an argument of the port, and so are
the tables that the store leaves out.
-/

universe u

namespace Praxis.Workflow

set_option autoImplicit false

open Praxis.Foundations Praxis.Foundations.PositionalCalls

/-! ## Methods -/

/-- The methods that the client calls, all of which the server admits. -/
inductive RemoteMethod where
  | openStore | create | transact | get | events | list | listTasks | admitTaskForRequest
  | getTaskByRequestId | bindTaskCapabilityBundle | claim | heartbeat | recoverExpired | signal
  | postMessage | listMessages | acknowledgeMessages | acknowledgeMessage | fireDueTimers
  | expireDueHumanTasks | getEffectReceipt | listEffectReceipts | reserveEffectRequest
  | getEffectRequestByRequestId | getEffectReceiptByRequestId | reserveEffect
  | markEffectCompensated | listHumanTasks | resolveHumanTask | retryNode | resolveUnknown
  | registerProfile | getProfile | listProfiles

namespace RemoteMethod

/-- How many arguments a method requires. -/
def required : RemoteMethod → Nat
  | openStore | list | listTasks | recoverExpired | fireDueTimers | expireDueHumanTasks
  | listProfiles => 0
  | transact | get | events | admitTaskForRequest | claim | signal | postMessage | listMessages
  | listEffectReceipts | reserveEffectRequest | listHumanTasks | registerProfile | getProfile => 1
  | create | getTaskByRequestId | getEffectReceipt | getEffectRequestByRequestId
  | getEffectReceiptByRequestId | resolveHumanTask | retryNode => 2
  | bindTaskCapabilityBundle | heartbeat | acknowledgeMessages | acknowledgeMessage
  | markEffectCompensated | resolveUnknown => 3
  | reserveEffect => 5

/-- How many arguments it may have beyond these. -/
def optional : RemoteMethod → Nat
  | resolveHumanTask | resolveUnknown => 2
  | create | events | list | listTasks | bindTaskCapabilityBundle | claim | heartbeat
  | recoverExpired | acknowledgeMessages | acknowledgeMessage | fireDueTimers
  | expireDueHumanTasks | reserveEffect | markEffectCompensated | listHumanTasks | retryNode
  | getProfile => 1
  | openStore | transact | get | admitTaskForRequest | getTaskByRequestId | signal | postMessage
  | listMessages | getEffectReceipt | listEffectReceipts | reserveEffectRequest
  | getEffectRequestByRequestId | getEffectReceiptByRequestId | registerProfile
  | listProfiles => 0

def arity (method : RemoteMethod) : Nat := method.required + method.optional

/-- The signature admits the arguments: the required ones are given. -/
structure Admits (method : RemoteMethod) (args : List (Option Json)) : Prop where
  fits : args.length ≤ method.arity
  given : ∀ position < method.required, param args position ≠ none

end RemoteMethod

/-! ## The served authority -/

/-- What a method throws: only an error is asked for its code by the server. -/
structure Thrown where
  code : Option String
  isError : Bool

inductive RemoteAnswer where
  | json (value : Option Json)
  | humanTask (task : WorkflowHumanTaskV1)
  | projection (projection : WorkflowProjectionV1)
  | taskAdmission (task : WorkflowTaskV1) (replayed : Bool)
  | effectRequest (request : WorkflowEffectRequestV1) (replayed : Bool)

/-- The store, and the tables that it leaves out. -/
structure PortState (Rest : Type u) where
  store : AuthorityStore
  rest : Rest

/-- The reading of the clock during a call, and the ids that it draws. -/
structure Draws where
  now : Timestamp
  uuids : Nat → Uuid

structure ReserveWorkflowEffectRequestV1 where
  request : ReviewPlanExecutionRequestV1
  requestDigest : String
  effectKind : WorkflowEffectClassV1
  externalIdempotencyKey : Option String := none
  leaseExpiresAt : Option Timestamp := none
  requestedAt : Timestamp

structure WorkflowAuthorityPortV1 (Rest : Type u) where
  /-- `Date.parse`. -/
  parseDate : String → Option Int
  /-- The input of `admitTaskForRequest`, read at its type. -/
  taskRequest : Json → ReviewPlanExecutionRequestV1 × WorkflowTaskSpecV1
  taskRequestDigest : Json → String
  /-- The input of `reserveEffectRequest`, read at its type. -/
  effectRequest : Json → ReserveWorkflowEffectRequestV1
  /-- What stands for an error code that is no text; events keep a code and never look at it. -/
  codeText : Json → String
  errorCode : WorkflowError → String
  /-- The other methods: every error that they throw has a code. -/
  others : RemoteMethod → (Nat → Option Json) → Draws → PortState Rest →
    Except String (Option Json) × PortState Rest

namespace WorkflowAuthorityPortV1

variable {Rest : Type u} (port : WorkflowAuthorityPortV1 Rest)

abbrev Outcome (Rest : Type u) := Except Thrown RemoteAnswer × PortState Rest

/-- A transaction of the store; one that is rejected is rolled back. -/
def transaction {α : Type} (answer : α → RemoteAnswer) (state : PortState Rest)
    (result : Except WorkflowError (α × AuthorityStore)) : Outcome Rest :=
  match result with
  | .ok (value, store) => (.ok (answer value), { state with store })
  | .error error => (.error ⟨some (port.errorCode error), true⟩, state)

/-- `at = new Date().toISOString()`: a missing time is now, and what is no text is no time. -/
def timeParam (value : Option Json) (draws : Draws) : Option Timestamp :=
  match value with
  | none => some draws.now
  | some (.str text) => some ⟨text, port.parseDate text⟩
  | some _ => none

/-- The error code that `resolveUnknown` stores. -/
def codeParam : Option Json → Option String
  | none => none
  | some (.str text) => some text
  | some other => some (port.codeText other)

def humanResolution? (text : String) : Option HumanResolutionV1 :=
  [HumanResolutionV1.allowed, .denied, .expired, .cancelled].find? (·.text = text)

def unknownResolution? : String → Option UnknownResolutionV1
  | "succeeded" => some .succeeded
  | "failed" => some .failed
  | "manual_intervention" => some .manualIntervention
  | _ => none

variable (params : Nat → Option Json)

/-- The human task, the resolution and the time of a call, if they are of their types. -/
def humanTaskParams (draws : Draws) :
    Option (String × HumanResolutionV1 × Timestamp) :=
  match params 0, params 1, port.timeParam (params 3) draws with
  | some (.str humanTaskId), some (.str text), some at_ =>
    (humanResolution? text).map fun state => (humanTaskId, state, at_)
  | _, _, _ => none

/-- `resolution = {}`: a missing resolution is the empty record. -/
def resolutionParam (value : Option Json) : Json := value.getD (.obj [])

def unknownParams (draws : Draws) :
    Option (String × String × UnknownResolutionV1 × Timestamp) :=
  match params 0, params 1, params 2, port.timeParam (params 4) draws with
  | some (.str workflowId), some (.str nodeId), some (.str text), some at_ =>
    (unknownResolution? text).map fun resolution => (workflowId, nodeId, resolution, at_)
  | _, _, _, _ => none

def retryParams (draws : Draws) :
    Option (String × String × Timestamp) :=
  match params 0, params 1, port.timeParam (params 2) draws with
  | some (.str workflowId), some (.str nodeId), some at_ => some (workflowId, nodeId, at_)
  | _, _, _ => none

def serveResolveHumanTask (draws : Draws)
    (state : PortState Rest) : Outcome Rest :=
  port.transaction .humanTask state <|
    match port.humanTaskParams params draws with
    | none => .error .workflowHumanTaskInvalid
    | some (humanTaskId, resolved, at_) =>
      resolveHumanTask state.store humanTaskId resolved (resolutionParam (params 2)) at_

def serveResolveUnknown (draws : Draws)
    (state : PortState Rest) : Outcome Rest :=
  port.transaction .projection state <|
    match port.unknownParams params draws with
    | none => .error .workflowResolutionInvalid
    | some (workflowId, nodeId, resolution, at_) =>
      resolveUnknown state.store state.store state.store workflowId nodeId resolution
        (port.codeParam (params 3)) at_

def serveRetryNode (draws : Draws) (state : PortState Rest) :
    Outcome Rest :=
  port.transaction .projection state <|
    match port.retryParams params draws with
    | none => .error .workflowRetryInvalid
    | some (workflowId, nodeId, at_) =>
      retryNode state.store workflowId nodeId at_ (draws.uuids 0) (draws.uuids 1)

/-- The code of the value that `workflowTaskRequestDigestV1` throws, which is no error. -/
def taskRequestRefusal (request : ReviewPlanExecutionRequestV1) (taskSpec : WorkflowTaskSpecV1) :
    Option String :=
  if !request.binding.isValid then some "PLAN_EXECUTION_BINDING_INVALID"
  else match checkTaskRequest request taskSpec with
    | .error _ => some "WORKFLOW_TASK_REQUEST_INVALID"
    | .ok () => none

def serveAdmitTaskForRequest (draws : Draws)
    (state : PortState Rest) : Outcome Rest :=
  let input := (params 0).getD .null
  let (request, taskSpec) := port.taskRequest input
  match taskRequestRefusal request taskSpec with
  | some code => (.error ⟨some code, false⟩, state)
  | none =>
    port.transaction (fun admitted => .taskAdmission admitted.1 admitted.2) state
      (admitTaskForRequest state.store request taskSpec (port.taskRequestDigest input)
        (draws.uuids 0) (draws.uuids 1))

/-- The code of the value that `validatePlanExecutionBindingV1` throws, which is no error. -/
def effectRequestRefusal (request : ReviewPlanExecutionRequestV1) : Option String :=
  if request.binding.isValid then none else some "PLAN_EXECUTION_BINDING_INVALID"

def serveReserveEffectRequest (state : PortState Rest) :
    Outcome Rest :=
  let input := port.effectRequest ((params 0).getD .null)
  match effectRequestRefusal input.request with
  | some code => (.error ⟨some code, false⟩, state)
  | none =>
    port.transaction (fun reserved => .effectRequest reserved.1 reserved.2) state
      (reserveEffectRequest state.store input.request input.requestDigest input.effectKind
        input.externalIdempotencyKey input.leaseExpiresAt input.requestedAt)

def serveOther (method : RemoteMethod) (params : Nat → Option Json) (draws : Draws)
    (state : PortState Rest) : Outcome Rest :=
  match port.others method params draws state with
  | (.ok value, after) => (.ok (.json value), after)
  | (.error code, after) => (.error ⟨some code, true⟩, after)

/-- A method applied to arguments that it reads by position. -/
def serve (method : RemoteMethod) (params : Nat → Option Json) (draws : Draws)
    (state : PortState Rest) : Outcome Rest :=
  match method with
  | .resolveHumanTask => port.serveResolveHumanTask params draws state
  | .resolveUnknown => port.serveResolveUnknown params draws state
  | .retryNode => port.serveRetryNode params draws state
  | .admitTaskForRequest => port.serveAdmitTaskForRequest params draws state
  | .reserveEffectRequest => port.serveReserveEffectRequest params state
  | method => port.serveOther method params draws state

end WorkflowAuthorityPortV1

/-! ## Requests and responses -/

structure RemoteCall where
  method : RemoteMethod
  args : List Json

structure HttpRequest where
  authorization : Option String
  body : RemoteCall

structure HttpResponse where
  statusCode : Nat
  result : Option RemoteAnswer := none
  error : Option String := none

def maxRequestBytes : Nat := 4 * 1024 * 1024

/-- What the two sides of a connection share: the token, the hash function with which tokens are
compared, and the bytes of a body. -/
structure RemoteLink where
  token : String
  sha256 : String → String
  bytes : RemoteCall → Nat

def bearer : String := "Bearer "

def authorized (link : RemoteLink) (header : Option String) : Bool :=
  match header with
  | none => false
  | some header =>
    startsWith header bearer &&
      link.sha256 (String.ofList (header.toList.drop bearer.toList.length)) ==
        link.sha256 link.token

def remoteFailed : String := "WORKFLOW_AUTHORITY_REMOTE_FAILED"

/-- The code of a thrown value, as the server answers it. -/
def thrownCode (thrown : Thrown) : String :=
  if thrown.isError then thrown.code.getD remoteFailed else remoteFailed

section Remote

variable {Rest : Type u} (port : WorkflowAuthorityPortV1 Rest) (link : RemoteLink)

/-- The server. -/
def handle (request : HttpRequest) (draws : Draws) (state : PortState Rest) :
    HttpResponse × PortState Rest :=
  if authorized link request.authorization = false then
    ({ statusCode := if request.authorization.isNone then 401 else 404
       error := some "WORKFLOW_AUTHORITY_UNAUTHORIZED" }, state)
  else if maxRequestBytes < link.bytes request.body then
    ({ statusCode := 400, error := some "WORKFLOW_AUTHORITY_REQUEST_TOO_LARGE" }, state)
  else
    match port.serve request.body.method (fun position => request.body.args[position]?) draws
      state with
    | (.ok result, after) => ({ statusCode := 200, result := some result }, after)
    | (.error thrown, after) => ({ statusCode := 400, error := some (thrownCode thrown) }, after)

/-- What the client sends. -/
def remoteRequest (method : RemoteMethod) (args : List (Option Json)) : HttpRequest where
  authorization := some (bearer ++ link.token)
  body := { method, args := written .null (positional method.arity args) }

/-- What the client makes of a response: the result, or the code of an error. -/
def readResponse (response : HttpResponse) : Except (Option String) RemoteAnswer :=
  if response.statusCode ≠ 200 || response.error.isSome then
    .error (some (response.error.getD remoteFailed))
  else .ok (response.result.getD (.json none))

/-- An outcome with what is told of a thrown value. -/
def withCode (code : Thrown → Option String)
    (outcome : WorkflowAuthorityPortV1.Outcome Rest) :
    Except (Option String) RemoteAnswer × PortState Rest :=
  match outcome with
  | (.ok result, after) => (.ok result, after)
  | (.error thrown, after) => (.error (code thrown), after)

/-- A call through the client and the server. -/
def remoteCall (method : RemoteMethod) (args : List (Option Json)) (draws : Draws)
    (state : PortState Rest) : Except (Option String) RemoteAnswer × PortState Rest :=
  let (response, after) := handle port link (remoteRequest link method args) draws state
  (readResponse response, after)

/-- The direct call. -/
def localCall (method : RemoteMethod) (args : List (Option Json)) (draws : Draws)
    (state : PortState Rest) : Except (Option String) RemoteAnswer × PortState Rest :=
  withCode Thrown.code (port.serve method (param args) draws state)

end Remote

end Praxis.Workflow
