import Praxis.Agent.ProviderStream

/-!
# Provider adapters

The adapters for Anthropic and for OpenAI-compatible Providers, as functions from the events of a
stream whose connection ends cleanly to the chunks that they yield. An event is what the adapter
reads of it, with `none` for a field that is absent or of another type.
-/

namespace Praxis.Agent

set_option autoImplicit false

open Praxis.Foundations

/-! ## Anthropic -/

inductive AnthropicBlock where
  | text
  | thinking
  | toolUse (id name : Option String)
  | other

inductive AnthropicDelta where
  | text (text : Option String)
  | thinking (thinking : Option String)
  | inputJson (partialJson : Option String)
  | other

inductive AnthropicEvent where
  | messageStart (usage : ProviderUsage)
  | contentBlockStart (index : Option ℚ) (block : AnthropicBlock)
  | contentBlockDelta (index : Option ℚ) (delta : AnthropicDelta)
  | contentBlockStop (index : Option ℚ)
  | messageDelta (stopReason : Option String) (usage : ProviderUsage)
  | error
  | other

/-- The kinds of blocks that the adapter has started. -/
inductive StartedKind where
  | text
  | reasoning
  | tool

structure AnthropicState where
  started : Table ℚ StartedKind := .empty
  usage : ProviderUsage := {}
  stopReason : Option String := none

def maximumUsage : Option ℚ → Option ℚ → Option ℚ
  | none, candidate => candidate
  | some current, none => some current
  | some current, some candidate => some (max current candidate)

/-- The usage with the counts of an event. -/
def ProviderUsage.maximum (current candidate : ProviderUsage) : ProviderUsage where
  inputTokens := maximumUsage current.inputTokens candidate.inputTokens
  outputTokens := maximumUsage current.outputTokens candidate.outputTokens
  cacheReadTokens := maximumUsage current.cacheReadTokens candidate.cacheReadTokens
  cacheWriteTokens := maximumUsage current.cacheWriteTokens candidate.cacheWriteTokens

/-- One event: the adapter afterwards, and the chunk that it yields. -/
def AnthropicState.receive (state : AnthropicState) :
    AnthropicEvent → AnthropicState × Option ProviderChunk
  | .messageStart usage =>
    ({ state with usage := state.usage.maximum usage }, some .messageStart)
  | .contentBlockStart index block =>
    let index := index.getD 0
    match block with
    | .text =>
      ({ state with started := state.started.upsert index .text }, some (.blockStart .text index))
    | .thinking =>
      ({ state with started := state.started.upsert index .reasoning },
        some (.blockStart .reasoning index))
    | .toolUse id name =>
      ({ state with started := state.started.upsert index .tool },
        some (.toolCallStart index (id.getD ("anthropic-tool-" ++ indexText index))
          (name.getD "unknown")))
    | .other => (state, none)
  | .contentBlockDelta index delta =>
    let index := index.getD 0
    match delta with
    | .text text => (state, some (.blockDelta .text index (text.getD "")))
    | .thinking thinking => (state, some (.blockDelta .reasoning index (thinking.getD "")))
    | .inputJson partialJson => (state, some (.toolCallDelta index (partialJson.getD "")))
    | .other => (state, none)
  | .contentBlockStop index =>
    let index := index.getD 0
    match state.started.get? index with
    | some .text => (state, some (.blockEnd .text index))
    | some .reasoning => (state, some (.blockEnd .reasoning index))
    | some .tool => (state, some (.toolCallEnd index none))
    | none => (state, none)
  | .messageDelta stopReason usage =>
    ({ state with
      stopReason
      usage := state.usage.maximum usage }, none)
  | .error | .other => (state, none)

def AnthropicState.stream (state : AnthropicState) : List AnthropicEvent → ChunkStream
  | [] => { chunks := [.completed state.stopReason (some state.usage)] }
  | .error :: _ =>
    { chunks := []
      failure := some (.streamError "Anthropic stream reported an error.") }
  | event :: rest =>
    let (next, chunk) := state.receive event
    let later := next.stream rest
    { later with chunks := chunk.toList ++ later.chunks }

def anthropicStream (events : List AnthropicEvent) : ChunkStream := ({} : AnthropicState).stream events

/-! ## OpenAI-compatible -/

structure OpenAiToolCallDelta where
  index : ℚ
  id : Option String := none
  name : Option String := none
  arguments : Option String := none

/-- The first choice of a chunk. -/
structure OpenAiChoice where
  index : ℚ
  content : Option String := none
  reasoning : Option String := none
  toolCalls : List OpenAiToolCallDelta := []
  finishReason : Option String := none

structure OpenAiChunk where
  usage : Option ProviderUsage := none
  choice : Option OpenAiChoice := none

structure OpenAiState where
  startedText : List ℚ := []
  startedReasoning : List ℚ := []
  pendingTools : List ℚ := []
  stopReason : Option String := none
  usage : ProviderUsage := {}

/-- A text that is there and not empty. -/
def truthy (text : Option String) : Option String := text.filter (· != "")

/-- A set with an element, at its end when it is new. -/
def addIndex (indexes : List ℚ) (index : ℚ) : List ℚ :=
  if indexes.contains index then indexes else indexes ++ [index]

section OpenAi

variable (providerId : String) (fromWire : String → String)

def textChunks (kind : TextKind) (started : List ℚ) (contentIndex blockIndex : ℚ) :
    Option String → List ProviderChunk
  | some text =>
    (if started.contains contentIndex then [] else [.blockStart kind blockIndex]) ++
      [.blockDelta kind blockIndex text]
  | none => []

def toolCallChunks (pendingTools : List ℚ) (call : OpenAiToolCallDelta) : List ProviderChunk :=
  (if pendingTools.contains call.index then []
    else [.toolCallStart call.index (call.id.getD (providerId ++ "-tool-" ++ indexText call.index))
      (fromWire (call.name.getD "unknown"))]) ++
    ((truthy call.arguments).map (ProviderChunk.toolCallDelta call.index)).toList

/-- The chunks of the tool calls of a choice, and the calls that are pending after them. -/
def toolCallsChunks (pendingTools : List ℚ) (calls : List OpenAiToolCallDelta) :
    List ℚ × List ProviderChunk :=
  calls.foldl (fun before call =>
    (addIndex before.1 call.index,
      before.2 ++ toolCallChunks providerId fromWire before.1 call)) (pendingTools, [])

def OpenAiState.choose (state : OpenAiState) (choice : OpenAiChoice) :
    OpenAiState × List ProviderChunk :=
  let content := truthy choice.content
  let reasoning := truthy choice.reasoning
  let (pendingTools, toolChunks) :=
    toolCallsChunks providerId fromWire state.pendingTools choice.toolCalls
  ({ state with
      startedText :=
        if content.isSome then addIndex state.startedText choice.index else state.startedText
      startedReasoning :=
        if reasoning.isSome then addIndex state.startedReasoning choice.index
        else state.startedReasoning
      pendingTools
      stopReason := (truthy choice.finishReason).or state.stopReason },
    textChunks .text state.startedText choice.index choice.index content ++
      textChunks .reasoning state.startedReasoning choice.index (choice.index + 10000) reasoning ++
      toolChunks)

def OpenAiState.receive (state : OpenAiState) (chunk : OpenAiChunk) :
    OpenAiState × List ProviderChunk :=
  let state := { state with usage := chunk.usage.getD state.usage }
  match chunk.choice with
  | some choice => state.choose providerId fromWire choice
  | none => (state, [])

/-- What the adapter yields when the stream is done. -/
def OpenAiState.close (state : OpenAiState) : List ProviderChunk :=
  state.startedText.map (ProviderChunk.blockEnd .text ·) ++
    state.startedReasoning.map (fun index => .blockEnd .reasoning (index + 10000)) ++
    (state.pendingTools.mergeSort fun left right => decide (left ≤ right)).map
      (.toolCallEnd · none) ++
    [.completed state.stopReason (some state.usage)]

def OpenAiState.stream (state : OpenAiState) : List OpenAiChunk → List ProviderChunk
  | [] => state.close
  | chunk :: rest =>
    let (next, chunks) := state.receive providerId fromWire chunk
    chunks ++ next.stream rest

def openAiCompatibleStream (chunks : List OpenAiChunk) : ChunkStream where
  chunks := .messageStart :: ({} : OpenAiState).stream providerId fromWire chunks

end OpenAi

end Praxis.Agent
