import Praxis.Agent.Messages
import Praxis.Foundations.Fallible
import Praxis.Foundations.Table

/-!
# Provider streams

An adapter turns what its Provider sends into chunks, and `consumeProviderTurn` accumulates the
chunks into a turn. A chunk that does not fit what came before it is an error, and so is a stream
that ends without a terminal chunk or inside a block.

The indexes of blocks are numbers as they come from JSON. `JSON.parse` is a parameter: the results
hold whatever the arguments of a tool call parse to. The callback that stops the consumption of a
run that stops is left out.
-/

namespace Praxis.Agent

set_option autoImplicit false

open Praxis.Foundations

/-! ## Chunks -/

structure ProviderUsage where
  inputTokens : Option ℚ := none
  outputTokens : Option ℚ := none
  cacheReadTokens : Option ℚ := none
  cacheWriteTokens : Option ℚ := none
  costUsd : Option ℚ := none
deriving DecidableEq

inductive ProviderStopReason where
  | endTurn
  | toolCalls
  | maxOutputTokens
  | contentFilter
  | cancelled
  | error
  | unknown
deriving DecidableEq

def normalizeProviderStopReason : Option String → ProviderStopReason
  | some "end_turn" | some "stop" => .endTurn
  | some "tool_calls" | some "tool_use" => .toolCalls
  | some "max_output_tokens" | some "length" => .maxOutputTokens
  | some "content_filter" => .contentFilter
  | some "cancelled" | some "aborted" => .cancelled
  | some "error" => .error
  | _ => .unknown

/-- The two kinds of blocks that share the content indexes. -/
inductive TextKind where
  | text
  | reasoning
deriving DecidableEq

/-- The chunks, with the deltas of the first version that have no content index. -/
inductive ProviderChunk where
  | messageStart
  | blockStart (kind : TextKind) (contentIndex : ℚ)
  | blockDelta (kind : TextKind) (contentIndex : ℚ) (text : String)
  | blockEnd (kind : TextKind) (contentIndex : ℚ)
  | legacyText (text : String)
  | toolCallStart (index : ℚ) (id name : String)
  | toolCallDelta (index : ℚ) (argumentsDelta : String)
  | toolCallEnd (index : ℚ) (input : Option Json)
  | legacyToolCalls (calls : List ProviderToolCall)
  | completed (stopReason : Option String) (usage : Option ProviderUsage)
deriving DecidableEq

def TextKind.name : TextKind → String
  | .text => "text"
  | .reasoning => "reasoning"

def ProviderChunk.type : ProviderChunk → String
  | .messageStart => "message_start"
  | .blockStart kind _ => kind.name ++ "_start"
  | .blockDelta kind _ _ => kind.name ++ "_delta"
  | .blockEnd kind _ => kind.name ++ "_end"
  | .legacyText _ => "text_delta"
  | .toolCallStart _ _ _ => "tool_call_start"
  | .toolCallDelta _ _ => "tool_call_delta"
  | .toolCallEnd _ _ => "tool_call_end"
  | .legacyToolCalls _ => "tool_calls"
  | .completed _ _ => "completed"

structure ProviderTurnResult where
  content : List ProviderContentBlock
  toolCalls : List ProviderToolCall
  stopReason : ProviderStopReason
  usage : Option ProviderUsage

inductive ProviderError where
  /-- `ProviderStreamProtocolError`. -/
  | streamInvalid (message : String)
  | streamError (message : String)
  | outputOversized

/-! ## The accumulator -/

structure TextBlockState where
  kind : TextKind
  text : String
  active : Bool

structure ToolCallState where
  id : String
  name : String
  argumentsText : String
  active : Bool

/-- `ProviderStreamAccumulator`. -/
structure StreamState where
  contentBlocks : Table ℚ TextBlockState := .empty
  toolCallStates : Table ℚ ToolCallState := .empty
  toolCalls : List ProviderToolCall := []
  toolCallIds : List String := []
  legacyText : String := ""
  legacyToolCalls : Bool := false
  messageStarted : Bool := false
  terminal : Option (ProviderStopReason × Option ProviderUsage) := none

/-- The text of an index in a message or an id. -/
def indexText (index : ℚ) : String := toString index

/-- A safe integer that is not negative. -/
def validIndex (value : ℚ) : Bool :=
  decide (value.den = 1) && decide (0 ≤ value) && decide (value ≤ 9007199254740991)

def assertIndex (value : ℚ) (label : String) : Except ProviderError Unit :=
  ensure (validIndex value) (.streamInvalid (label ++ " must be a non-negative integer"))

def validUsageField (value : Option ℚ) : Bool := value.all fun count => decide (0 ≤ count)

/-- Accept when nothing was found, reject with what is wrong with it otherwise. -/
def refuse {α : Type} (found : Option α) (message : α → String) : Except ProviderError Unit :=
  match found with
  | some value => .error (.streamInvalid (message value))
  | none => .ok ()

/-- The fields of a usage in the order in which they are checked. -/
def ProviderUsage.fields (usage : ProviderUsage) : List (String × Option ℚ) :=
  [("inputTokens", usage.inputTokens), ("outputTokens", usage.outputTokens),
    ("cacheReadTokens", usage.cacheReadTokens), ("cacheWriteTokens", usage.cacheWriteTokens),
    ("costUsd", usage.costUsd)]

/-- Numbers of JSON are finite. -/
def validateUsage (usage : ProviderUsage) : Except ProviderError ProviderUsage := do
  refuse (usage.fields.find? fun field => !validUsageField field.2)
    fun field => "Provider usage " ++ field.1 ++ " must be a finite non-negative number"
  return usage

namespace StreamState

variable (state : StreamState)

def activeTextBlock (contentIndex : ℚ) (kind : TextKind) : Except ProviderError TextBlockState := do
  let block ← orError
    (.streamInvalid ("Provider " ++ kind.name ++ " block " ++ indexText contentIndex ++
      " was not active"))
    ((state.contentBlocks.get? contentIndex).filter (·.active))
  ensure (block.kind == kind)
    (.streamInvalid ("Provider content block " ++ indexText contentIndex ++ " is " ++
      block.kind.name ++ ", not " ++ kind.name))
  return block

def startTextBlock (contentIndex : ℚ) (kind : TextKind) : Except ProviderError StreamState := do
  assertIndex contentIndex "contentIndex"
  let contentBlocks ← orError
    (.streamInvalid ("Provider reused content index " ++ indexText contentIndex))
    (state.contentBlocks.insert contentIndex
      { kind
        text := ""
        active := true })
  return { state with contentBlocks }

def appendTextBlock (contentIndex : ℚ) (kind : TextKind) (text : String) :
    Except ProviderError StreamState := do
  let block ← state.activeTextBlock contentIndex kind
  let appended := { block with text := block.text ++ text }
  return { state with
    contentBlocks := state.contentBlocks.update contentIndex appended }

def endTextBlock (contentIndex : ℚ) (kind : TextKind) : Except ProviderError StreamState := do
  let block ← state.activeTextBlock contentIndex kind
  let ended := { block with active := false }
  return { state with
    contentBlocks := state.contentBlocks.update contentIndex ended }

def startToolCall (index : ℚ) (id name : String) : Except ProviderError StreamState := do
  assertIndex index "Tool call index"
  let toolCallStates ← orError
    (.streamInvalid ("Provider reused Tool call index " ++ indexText index))
    (state.toolCallStates.insert index
      { id
        name
        argumentsText := ""
        active := true })
  ensure (!state.toolCallIds.contains id) (.streamInvalid ("Provider reused Tool call id " ++ id))
  ensure (id != "" && name != "")
    (.streamInvalid "Provider Tool call id and name must be non-empty")
  return { state with
    toolCallIds := state.toolCallIds ++ [id]
    toolCallStates }

def activeToolCall (index : ℚ) : Except ProviderError ToolCallState :=
  orError (.streamInvalid ("Provider Tool call " ++ indexText index ++ " was not active"))
    ((state.toolCallStates.get? index).filter (·.active))

def appendToolCall (index : ℚ) (argumentsDelta : String) : Except ProviderError StreamState := do
  let call ← state.activeToolCall index
  let appended := { call with argumentsText := call.argumentsText ++ argumentsDelta }
  return { state with
    toolCallStates := state.toolCallStates.update index appended }

def addToolCall (call : ProviderToolCall) (idAlreadyReserved : Bool) :
    Except ProviderError StreamState := do
  ensure (idAlreadyReserved || !state.toolCallIds.contains call.id)
    (.streamInvalid ("Provider reused Tool call id " ++ call.id))
  ensure (call.id != "" && call.name != "")
    (.streamInvalid "Provider Tool call id and name must be non-empty")
  return { state with
    toolCallIds := if state.toolCallIds.contains call.id then state.toolCallIds
      else state.toolCallIds ++ [call.id]
    toolCalls := state.toolCalls ++ [call] }

variable (parse : String → Option Json)

def parsedInput (index : ℚ) (argumentsText : String) : Option Json → Except ProviderError Json
  | some input => .ok input
  | none =>
    if argumentsText = "" then .ok (.obj [])
    else orError
      (.streamInvalid ("Provider Tool call " ++ indexText index ++
        " arguments were not valid JSON"))
      (parse argumentsText)

def endToolCall (index : ℚ) (input : Option Json) : Except ProviderError StreamState := do
  let call ← state.activeToolCall index
  let input ← parsedInput parse index call.argumentsText input
  let ended := { call with active := false }
  let state := { state with
    toolCallStates := state.toolCallStates.update index ended }
  state.addToolCall ⟨call.id, call.name, input⟩ true

def startMessage : Except ProviderError StreamState := do
  ensure (!state.messageStarted) (.streamInvalid "Provider emitted message_start more than once")
  return { state with messageStarted := true }

def complete (stopReason : Option String) (usage : Option ProviderUsage) :
    Except ProviderError StreamState := do
  let usage ← usage.mapM validateUsage
  return { state with terminal := some (normalizeProviderStopReason stopReason, usage) }

def accept (chunk : ProviderChunk) : Except ProviderError StreamState := do
  ensure state.terminal.isNone
    (.streamInvalid ("Provider emitted " ++ chunk.type ++ " after its terminal chunk"))
  match chunk with
  | .messageStart => state.startMessage
  | .blockStart kind contentIndex => state.startTextBlock contentIndex kind
  | .blockDelta kind contentIndex text => state.appendTextBlock contentIndex kind text
  | .blockEnd kind contentIndex => state.endTextBlock contentIndex kind
  | .legacyText text => return { state with legacyText := state.legacyText ++ text }
  | .toolCallStart index id name => state.startToolCall index id name
  | .toolCallDelta index argumentsDelta => state.appendToolCall index argumentsDelta
  | .toolCallEnd index input => state.endToolCall parse index input
  | .legacyToolCalls calls =>
    calls.foldlM (fun state call => state.addToolCall call false)
      { state with legacyToolCalls := true }
  | .completed stopReason usage => state.complete stopReason usage

/-- The content, the blocks in the order of their indexes. -/
def content : List ProviderContentBlock :=
  (state.contentBlocks.rows.mergeSort fun left right => decide (left.1 ≤ right.1)).map
      (fun row => match row.2.kind with
        | .text => .text row.2.text
        | .reasoning => .reasoning row.2.text) ++
    (if state.legacyText = "" then [] else [.text state.legacyText]) ++
    state.toolCalls.map .toolCall

def finish : Except ProviderError ProviderTurnResult := do
  let (stopReason, usage) ← orError
    (.streamInvalid "Provider stream ended without a terminal chunk")
    (state.terminal.or (if state.legacyToolCalls then some (.toolCalls, none) else none))
  refuse (state.contentBlocks.rows.find? (·.2.active)) fun row =>
    "Provider stream ended while " ++ row.2.kind.name ++ " block " ++ indexText row.1 ++
      " was active"
  refuse (state.toolCallStates.rows.find? (·.2.active)) fun row =>
    "Provider stream ended while Tool call " ++ indexText row.1 ++ " was active"
  return {
    content := state.content
    toolCalls := state.toolCalls
    stopReason
    usage }

end StreamState

/-! ## Consumption -/

def ProviderToolCall.toJson (call : ProviderToolCall) : Json :=
  .obj [("id", .str call.id), ("name", .str call.name), ("input", call.input)]

def providerChunkBytes : ProviderChunk → Nat
  | .blockDelta _ _ text | .legacyText text => text.utf8ByteSize
  | .toolCallDelta _ argumentsDelta => argumentsDelta.utf8ByteSize
  | .toolCallStart _ id name => id.utf8ByteSize + name.utf8ByteSize
  | .toolCallEnd _ input => (input.map fun value => value.stringify.utf8ByteSize).getD 0
  | .legacyToolCalls calls => (Json.arr (calls.map (·.toJson))).stringify.utf8ByteSize
  | _ => 0

/-- What an adapter yields: chunks, and an error if it throws after them. -/
structure ChunkStream where
  chunks : List ProviderChunk
  failure : Option ProviderError := none

def consumeChunk (parse : String → Option Json) (maxBufferedBytes : Option Nat)
    (turn : StreamState × Nat) (chunk : ProviderChunk) : Except ProviderError (StreamState × Nat) := do
  let bufferedBytes := turn.2 + providerChunkBytes chunk
  ensure (maxBufferedBytes.all fun maximum => decide (bufferedBytes ≤ maximum)) .outputOversized
  let state ← turn.1.accept parse chunk
  return (state, bufferedBytes)

def consumeProviderTurn (parse : String → Option Json) (maxBufferedBytes : Option Nat)
    (stream : ChunkStream) : Except ProviderError ProviderTurnResult := do
  let turn ← stream.chunks.foldlM (consumeChunk parse maxBufferedBytes) ({}, 0)
  match stream.failure with
  | some failure => .error failure
  | none => turn.1.finish

/-! ## What the loop does with a turn -/

inductive TurnDecision where
  /-- The run fails: the output was truncated. -/
  | failTruncated
  /-- Every call is answered with a rejection. -/
  | rejectCalls
  | executeCalls (calls : List ProviderToolCall)
  /-- The text is the answer of the run, unless a steer or guidance continues it. -/
  | complete

def decideTurn (turn : ProviderTurnResult) : TurnDecision :=
  if turn.toolCalls = [] then
    if turn.stopReason = .maxOutputTokens then .failTruncated else .complete
  else if turn.stopReason = .maxOutputTokens then .rejectCalls
  else .executeCalls turn.toolCalls

end Praxis.Agent
