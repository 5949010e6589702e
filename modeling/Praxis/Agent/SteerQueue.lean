import Mathlib

/-!
# Steers of a run

A user steers a run while the loop executes it. `queueSteer` puts the steer into the queue of the
run after its mailbox has written it; the loop empties the queue at the start of each turn and looks
at it once more when a turn made no tool calls. Both wait in between, and another caller may act in
every wait: `LoopEvent` is one step of the loop, of a `queueSteer` call, or of a caller that cancels
the run.

Waits of the loop in which nothing is done with the queue are one phase: from the choice of the
context to the assistant message, and the batch of tool calls.
-/

namespace Praxis.Agent

set_option autoImplicit false

/-! ## The loop and its callers -/

structure Steer where
  id : Nat
  text : String
deriving DecidableEq

/-- How a run ends. -/
inductive TerminalEvent where
  | completed
  | failed
  | blocked
  | aborted
deriving DecidableEq

/-- Where `execute` waits. -/
inductive LoopPhase where
  /-- For the Provider and its prompt. -/
  | preparing
  /-- For the commit of a steer, with the steers that were taken out of the queue with it. -/
  | committingSteer (steer : Steer) (rest : List Steer)
  | acknowledgingSteer (rest : List Steer)
  /-- For the context, the Provider and the hooks of its tool calls. -/
  | turning
  | committingAssistant (toolCalls truncated : Bool)
  | batching
  /-- For the commit of a message that the loop itself writes. -/
  | committingGuidance
  /-- For `completionGuidance`. -/
  | guiding
  /-- For `finishRun`. -/
  | finishing
  | returned
deriving DecidableEq

structure SteeredRun where
  phase : LoopPhase := .preparing
  /-- The turns that the budget leaves. -/
  turnsLeft : Option Nat := none
  aborted : Bool := false
  /-- The terminal event, once `finish` has made the run terminal. -/
  terminal : Option TerminalEvent := none
  nextSteer : Nat := 1
  /-- The calls of `queueSteer` that wait for their mailbox. -/
  waiting : List Steer := []
  steerQueue : List Steer := []
  /-- The steers whose `queueSteer` resolved, in the order in which they were queued. -/
  accepted : List Steer := []
  /-- Those that resolved when the run was terminal. -/
  late : List Steer := []
  /-- The steers that were committed as user messages. -/
  committed : List Steer := []

/-- What `completionGuidance` asks for. -/
inductive CompletionGuidance where
  | none
  | message
  | blocked
deriving DecidableEq

inductive LoopEvent where
  | queueSteer (text : String)
  /-- The mailbox has written the steer. -/
  | mailboxWritten (id : Nat)
  | mailboxFailed (id : Nat)
  | cancel
  /-- The caller that cancelled the run finishes it. -/
  | finishAborted
  | prepared
  /-- What the loop waits for throws. -/
  | throws
  | committed
  | acknowledged
  /-- The budget is exhausted after a Provider call. -/
  | budgetExhausted
  | turned (toolCalls truncated : Bool)
  /-- The batch is over, with the result of the terminal tool and with guidance on progress. -/
  | batched (terminalTool guidance : Bool)
  /-- Completion was checked; a terminal tool must be called before the run completes. -/
  | guided (guidance : CompletionGuidance) (terminalTool : Bool)
  /-- `finishRun` has returned, with a failure in place of the event if it could not persist it. -/
  | finished (failed : Bool)
deriving DecidableEq

namespace SteeredRun

variable (run : SteeredRun)

def shouldStop : Bool := run.aborted || run.terminal.isSome

/-- `finish`, called by the loop. -/
def finish (event : TerminalEvent) : SteeredRun :=
  if run.terminal.isSome then { run with phase := .returned }
  else
    { run with
      phase := .finishing
      terminal := some event }

/-- `execute` returns, through its `finally` block. -/
def exit : SteeredRun :=
  if run.aborted then run.finish .aborted else { run with phase := .returned }

/-- `execute` throws, through its `catch` block. -/
def fail : SteeredRun :=
  if run.shouldStop then run.exit else run.finish .failed

def applySteers (steers : List Steer) : SteeredRun :=
  if run.shouldStop then run.exit
  else
    match steers with
    | [] => { run with phase := .turning }
    | steer :: rest => { run with phase := .committingSteer steer rest }

/-- The start of a turn. -/
def nextTurn : SteeredRun :=
  match run.turnsLeft with
  | some 0 => run.fail
  | turns =>
    { run with
      turnsLeft := turns.map (· - 1)
      steerQueue := [] }.applySteers run.steerQueue

/-- What follows the commit of the assistant message. -/
def afterAssistant (toolCalls truncated : Bool) : SteeredRun :=
  if run.shouldStop then run.exit
  else if toolCalls then { run with phase := .batching }
  else if truncated then run.finish .failed
  else if run.steerQueue.isEmpty then { run with phase := .guiding }
  else run.nextTurn

def afterBatch (terminalTool guidance : Bool) : SteeredRun :=
  if run.shouldStop then run.exit
  else if terminalTool then run.finish .completed
  else if guidance then { run with phase := .committingGuidance }
  else run.nextTurn

/-- What follows `completionGuidance`; nothing looks at the run or its queue again. -/
def afterGuidance (guidance : CompletionGuidance) (terminalTool : Bool) : SteeredRun :=
  match guidance, terminalTool with
  | .blocked, _ => run.finish .blocked
  | .message, _ | .none, true => { run with phase := .committingGuidance }
  | .none, false => run.finish .completed

/-- The call waits for its mailbox, unless the run stops. -/
def queueSteer (text : String) : SteeredRun :=
  if run.shouldStop then run
  else
    { run with
      nextSteer := run.nextSteer + 1
      waiting := run.waiting ++ [⟨run.nextSteer, text⟩] }

/-- The call queues its steer and resolves, whatever became of the run. -/
def resolveSteer (steer : Steer) : SteeredRun :=
  { run with
    waiting := run.waiting.erase steer
    steerQueue := run.steerQueue ++ [steer]
    accepted := run.accepted ++ [steer]
    late := if run.terminal.isSome then run.late ++ [steer] else run.late }

def perform (event : LoopEvent) : SteeredRun :=
  match event, run.phase with
  | .queueSteer text, _ => run.queueSteer text
  | .mailboxWritten id, _ =>
    match run.waiting.find? (·.id == id) with
    | some steer => run.resolveSteer steer
    | none => run
  | .mailboxFailed id, _ =>
    { run with waiting := run.waiting.filter fun steer => steer.id != id }
  | .cancel, _ => { run with aborted := true }
  | .finishAborted, _ =>
    if run.aborted && run.terminal.isNone then { run with terminal := some .aborted } else run
  | .throws, .finishing | .throws, .returned => { run with phase := .returned }
  | .throws, _ => run.fail
  | .prepared, .preparing => if run.shouldStop then run.exit else run.nextTurn
  | .committed, .committingSteer steer rest =>
    { run with
      phase := .acknowledgingSteer rest
      committed := run.committed ++ [steer] }
  | .committed, .committingAssistant toolCalls truncated => run.afterAssistant toolCalls truncated
  | .committed, .committingGuidance => run.nextTurn
  | .acknowledged, .acknowledgingSteer rest => run.applySteers rest
  | .budgetExhausted, .turning => { run with aborted := true }.exit
  | .turned toolCalls truncated, .turning =>
    if run.shouldStop then run.exit
    else { run with phase := .committingAssistant toolCalls truncated }
  | .batched terminalTool guidance, .batching => run.afterBatch terminalTool guidance
  | .guided guidance terminalTool, .guiding => run.afterGuidance guidance terminalTool
  | .finished failed, .finishing =>
    { run with
      phase := .returned
      terminal := if failed then some .failed else run.terminal }
  | _, _ => run

def after (start : SteeredRun) (events : List LoopEvent) : SteeredRun := events.foldl perform start

end SteeredRun

end Praxis.Agent
