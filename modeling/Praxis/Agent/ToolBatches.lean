import Praxis.Agent.Messages
import Praxis.Foundations.Fallible
import Praxis.Foundations.SourceText

/-!
# Tool calls of a conversation

A session runs one prompt after another. A turn of a run asks the Provider with the messages of the
session, commits the assistant message, executes its tool calls in groups and commits their results
one by one. The loop waits at each of these steps; `ConversationEvent` is what a wait comes to, or a
caller that stops the run.

What a call is answered with is taken from the event: a result that a rejected or failed call is
given is an answer like that of an executed one. Guidance, steers and the prompt are user messages.
-/

namespace Praxis.Agent

set_option autoImplicit false

open Praxis.Foundations

/-! ## The calls of a turn -/

inductive ToolIdError where
  | callIdInvalid
  | callIdDuplicate
  | contentMismatch
  /-- `RUNTIME_MIDDLEWARE_FAILED`. -/
  | middlewareFailed

def safeProviderToolId (id : String) : Bool :=
  match chars id with
  | [] => false
  | first :: rest => isAsciiAlphanumeric first && decide (rest.length ≤ 127) &&
      rest.all fun c => isAsciiAlphanumeric c || (chars "._:/@+-").contains c

def ProviderContentBlock.isToolCall : ProviderContentBlock → Bool
  | .toolCall _ => true
  | _ => false

/-- The blocks with their calls replaced in order, and the calls that no block is left for. -/
def replaceCalls : List ProviderContentBlock → List ProviderToolCall →
    Except ToolIdError (List ProviderContentBlock × List ProviderToolCall)
  | [], calls => .ok ([], calls)
  | .toolCall _ :: _, [] => .error .contentMismatch
  | .toolCall _ :: rest, call :: calls => do
      let (blocks, left) ← replaceCalls rest calls
      return (.toolCall call :: blocks, left)
  | block :: rest, calls => do
      let (blocks, left) ← replaceCalls rest calls
      return (block :: blocks, left)

def normalizedId (generatedId : Nat → Nat → String) (content : List ProviderContentBlock)
    (call : ProviderToolCall) (toolIndex : Nat) : Except ToolIdError ProviderToolCall := do
  let supplied := trim call.id
  let contentToolIndexes :=
    (content.zipIdx.filter fun entry => entry.1.isToolCall).map (·.2)
  let id :=
    if supplied = "" then
      generatedId (contentToolIndexes[toolIndex]?.getD (content.length + toolIndex)) toolIndex
    else supplied
  ensure (safeProviderToolId id) .callIdInvalid
  return { call with id }

def normalizeProviderToolCallIdsV1 (generatedId : Nat → Nat → String)
    (content : List ProviderContentBlock) (toolCalls : List ProviderToolCall) :
    Except ToolIdError (List ProviderContentBlock × List ProviderToolCall) := do
  let normalized ← toolCalls.zipIdx.mapM fun entry => normalizedId generatedId content entry.1 entry.2
  ensure (decide (normalized.map (·.id)).Nodup) .callIdDuplicate
  let (blocks, left) ← replaceCalls content normalized
  return (blocks ++ left.map .toolCall, normalized)

def rewriteAssistantToolContentV1 (content : List ProviderContentBlock)
    (toolCalls : List ProviderToolCall) : Except ToolIdError (List ProviderContentBlock) := do
  let (blocks, _) ← replaceCalls content toolCalls
  return blocks

/-- The calls as the middleware leaves them: it must keep their ids. -/
def applyMiddleware (beforeTool : ProviderToolCall → ProviderToolCall)
    (calls : List ProviderToolCall) : Except ToolIdError (List ProviderToolCall) :=
  calls.mapM fun call => do
    ensure ((beforeTool call).id == call.id) .middlewareFailed
    return beforeTool call

/-- A turn of the Provider, with what the Runtime does to its calls. -/
structure AnsweredTurn where
  content : List ProviderContentBlock
  toolCalls : List ProviderToolCall
  /-- The output limit was reached. -/
  truncated : Bool := false
  generatedId : Nat → Nat → String := fun _ _ => ""
  beforeTool : ProviderToolCall → ProviderToolCall := id

/-- The content of the assistant message and the calls of the batch. -/
def AnsweredTurn.prepare (turn : AnsweredTurn) :
    Except ToolIdError (List ProviderContentBlock × List ProviderToolCall) := do
  let (content, normalized) ← normalizeProviderToolCallIdsV1 turn.generatedId turn.content turn.toolCalls
  let toolCalls ← applyMiddleware turn.beforeTool normalized
  let rewritten ← rewriteAssistantToolContentV1 content toolCalls
  return (rewritten, toolCalls)

/-! ## The groups of a batch -/

/-- How the calls of a batch are scheduled. -/
structure BatchPolicy where
  /-- The input of the call is refused before it is executed. -/
  invalid : ProviderToolCall → Bool := fun _ => false
  /-- Calls of a plan are barriers. -/
  strictPlanControls : Bool := true
  /-- The conflict key of a call that may run beside others; `none` for a call that runs alone. -/
  parallelKey : ProviderToolCall → Option String := fun _ => none

/-- The calls that are rejected without being executed: those with an invalid input, and all but the
first call of a plan. -/
def BatchPolicy.rejections (policy : BatchPolicy) (calls : List ProviderToolCall) : List String :=
  let barrier :=
    if policy.strictPlanControls then calls.findIdx? fun call => startsWith call.name "plan."
    else none
  (calls.zipIdx.filter fun entry => policy.invalid entry.1 ||
    barrier.any fun index => entry.2 != index).map (·.1.id)

/-- The conflict key of a call that is neither rejected nor runs alone. -/
def BatchPolicy.candidateKey (policy : BatchPolicy) (rejections : List String)
    (call : ProviderToolCall) : Option String :=
  if rejections.contains call.id then none else policy.parallelKey call

/-- The calls at the front that run beside each other, and the rest. -/
def takeGroup (key : ProviderToolCall → Option String) :
    Nat → List String → List ProviderToolCall → List ProviderToolCall × List ProviderToolCall
  | 0, _, calls => ([], calls)
  | _, _, [] => ([], [])
  | room + 1, conflictKeys, call :: rest =>
    match key call with
    | none => ([], call :: rest)
    | some conflictKey =>
      if conflictKeys.contains conflictKey then ([], call :: rest)
      else
        let (group, left) := takeGroup key room (conflictKey :: conflictKeys) rest
        (call :: group, left)

/-- The next group of `executeToolBatch`, of at most two calls. -/
def nextGroup (key : ProviderToolCall → Option String) (call : ProviderToolCall)
    (rest : List ProviderToolCall) : List ProviderToolCall × List ProviderToolCall :=
  if (key call).isNone then ([call], rest) else takeGroup key 2 [] (call :: rest)

/-! ## The runs of a session -/

/-- A call with the content of its tool message. -/
structure ToolOutcome where
  call : ProviderToolCall
  content : String

/-- What the active run waits for. -/
inductive ConversationPhase where
  | idle
  /-- The parts of the prompt are committed before the loop starts. -/
  | prompting
  /-- The loop is at the top of a turn. -/
  | turning
  | committingSteer (text : String) (rest : List String)
  /-- For the context of the next request. -/
  | selecting
  | requesting
  | committingAssistant (content : List ProviderContentBlock) (calls : List ProviderToolCall)
      (truncated : Bool) (policy : BatchPolicy)
  /-- For a group of calls, with those after it. -/
  | executing (group rest : List ProviderToolCall) (key : ProviderToolCall → Option String)
  /-- For the commit of a result, with those of its group and the calls after it. -/
  | settling (outcome : ToolOutcome) (settled : List ToolOutcome) (rest : List ProviderToolCall)
      (key : ProviderToolCall → Option String)
  /-- After a batch, or after a turn without calls. -/
  | deciding
  | committingGuidance (text : String)

/-- What the loop does after a batch or an answer. -/
inductive Continuation where
  | finish
  | guide (text : String)
  | turn

inductive ConversationEvent where
  /-- A prompt begins a run. -/
  | begin (prompt : String)
  /-- A further part of the prompt is committed. -/
  | promptPart (text : String)
  | execute
  /-- The caller aborts the run, its deadline passes or its budget is exhausted. -/
  | stop
  /-- The caller that aborted the run has finished it. -/
  | finished
  /-- The loop takes these steers out of the queue. -/
  | steers (texts : List String)
  /-- The turn limit is reached, or what the loop waits for throws. -/
  | failed
  /-- The context is selected, and again when a request is repeated. -/
  | selected
  | turned (turn : AnsweredTurn) (policy : BatchPolicy) (budgetExhausted : Bool)
  | committed
  /-- The calls of the group are done, with `none` for one that throws. -/
  | executed (results : List (Option String))
  | decided (continuation : Continuation)

structure Conversation where
  /-- The committed messages. -/
  messages : List ProviderMessage := []
  /-- The messages with which requests were built. -/
  requests : List (List ProviderMessage) := []
  /-- `shouldStop` of the active run. -/
  stopped : Bool := false
  phase : ConversationPhase := .idle

def userMessage (text : String) (intent : MessageIntent) : ProviderMessage :=
  .user (.text text) (some intent)

namespace Conversation

variable (session : Conversation)

/-- The loop returns or throws, and the run is finished. -/
def exit : Conversation :=
  { session with
    stopped := false
    phase := .idle }

def commit (message : ProviderMessage) : Conversation :=
  { session with
    messages := session.messages ++ [message] }

def wait (phase : ConversationPhase) : Conversation :=
  { session with
    phase := phase }

/-- The loop goes on, if the run is not stopped. -/
def proceed (phase : ConversationPhase) : Conversation :=
  if session.stopped then session.exit else session.wait phase

def applySteers : List String → Conversation
  | [] => session.proceed .selecting
  | text :: rest => session.proceed (.committingSteer text rest)

def executeToolBatch (calls : List ProviderToolCall) (key : ProviderToolCall → Option String) :
    Conversation :=
  match calls with
  | [] => session.proceed .deciding
  | call :: rest =>
    let (group, left) := nextGroup key call rest
    session.proceed (.executing group left key)

/-- `settleToolCall` for each result of a group. A run that is stopped settles none and ends. -/
def settleToolCalls (settled : List ToolOutcome) (rest : List ProviderToolCall)
    (key : ProviderToolCall → Option String) : Conversation :=
  match settled with
  | [] => session.executeToolBatch rest key
  | outcome :: others => session.proceed (.settling outcome others rest key)

/-- After the assistant message is committed. -/
def afterAssistant (calls : List ProviderToolCall) (truncated : Bool) (policy : BatchPolicy) :
    Conversation :=
  if session.stopped then session.exit
  else if calls = [] then if truncated then session.exit else session.wait .deciding
  else session.executeToolBatch calls (policy.candidateKey (policy.rejections calls))

def toolMessage (outcome : ToolOutcome) : ProviderMessage :=
  .tool outcome.call.id outcome.call.name (.text outcome.content)

/-- The commit that the loop waits for is done. -/
def committed : Conversation :=
  match session.phase with
  | .committingSteer text rest =>
    (session.commit (userMessage text .steer)).applySteers rest
  | .committingAssistant content calls truncated policy =>
    (session.commit (.assistant (.blocks content))).afterAssistant calls truncated policy
  | .settling outcome settled rest key =>
    (session.commit (toolMessage outcome)).settleToolCalls settled rest key
  | .committingGuidance text => (session.commit (userMessage text .context)).wait .turning
  | _ => session

/-- The turn of the Provider is there. -/
def turned (turn : AnsweredTurn) (policy : BatchPolicy) (budgetExhausted : Bool) : Conversation :=
  match turn.prepare with
  | .error _ => session.exit
  | .ok (content, calls) =>
    if budgetExhausted then session.exit
    else session.proceed (.committingAssistant content calls turn.truncated policy)

/-- One event. An event that does not belong to the phase changes nothing. -/
def perform (event : ConversationEvent) : Conversation :=
  match session.phase, event with
  | .idle, .begin prompt => (session.commit (userMessage prompt .prompt)).wait .prompting
  | .prompting, .promptPart text => session.commit (userMessage text .context)
  | .prompting, .execute => session.proceed .turning
  | .idle, _ => session
  | _, .stop => { session with stopped := true }
  -- The finish waits for a commit that is under way: both hold the lock of the session.
  | .committingSteer _ _, .finished | .committingAssistant _ _ _ _, .finished
  | .settling _ _ _ _, .finished | .committingGuidance _, .finished => session
  | _, .finished => if session.stopped then session.exit else session
  | _, .failed => session.exit
  | .turning, .steers texts => session.applySteers texts
  | .selecting, .selected | .requesting, .selected =>
    { session with
      requests := session.requests ++ [session.messages]
      phase := .requesting }
  | .requesting, .turned turn policy budgetExhausted => session.turned turn policy budgetExhausted
  | .executing group rest key, .executed results =>
    if results.length = group.length then
      match results.mapM id with
      | some contents =>
        session.settleToolCalls
          ((group.zip contents).map fun answer => ⟨answer.1, answer.2⟩) rest key
      | none => session.exit
    else session
  | .deciding, .decided continuation =>
    match continuation with
    | .finish => session.exit
    | .guide text => session.proceed (.committingGuidance text)
    | .turn => session.proceed .turning
  | _, .committed => session.committed
  | _, _ => session

def after (events : List ConversationEvent) : Conversation := events.foldl perform session

end Conversation

end Praxis.Agent
