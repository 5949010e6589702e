import Praxis.Agent.ProviderAdapters
import Praxis.Agent.StreamProtocol

/-!
# Well-formed event streams

Which events a Provider may send so that its turn is accepted, said over the events alone: what has
started at each index decides which events are possible (`AnthropicView`, `OpenAiPart`), and at the
end nothing is left open that the adapter does not close itself. The chunks that an adapter makes
of the events are accepted exactly then (`ProviderEvents.accepted_iff`).
-/

namespace Praxis.Agent

set_option autoImplicit false

open Praxis.Foundations

/-! ## Anthropic events -/

/-- What an Anthropic stream has said, with what started last at each index: a stop ends that. -/
structure AnthropicView extends StreamView where
  last : ℚ → Option StartedKind := fun _ => none

/-- The id of a call, which is made up when the event has none. -/
def anthropicCallId (index : ℚ) (id : Option String) : String :=
  id.getD ("anthropic-tool-" ++ indexText index)

namespace AnthropicView

variable (view : AnthropicView) (parse : String → Option Json)

/-- A block can start at the index. -/
def Starts (index : ℚ) : AnthropicBlock → Prop
  | .text | .thinking => view.BlockFree index
  | .toolUse id name => view.CallFree index (anthropicCallId index id) (name.getD "unknown")
  | .other => True

/-- What a delta continues is open. -/
def Continues (index : ℚ) : AnthropicDelta → Prop
  | .text _ => view.block index = some (.text, true)
  | .thinking _ => view.block index = some (.reasoning, true)
  | .inputJson _ => view.CallOpen index
  | .other => True

/-- What started last at the index is open, and the arguments of a call are JSON. -/
def Stops (index : ℚ) : Prop :=
  match view.last index with
  | some .text => view.block index = some (.text, true)
  | some .reasoning => view.block index = some (.reasoning, true)
  | some .tool => view.CallOpen index ∧ view.CallEnds parse index
  | none => True

/-- The event is possible now. -/
def Fits : AnthropicEvent → Prop
  | .messageStart _ => view.started = false
  | .contentBlockStart index block => view.Starts (index.getD 0) block
  | .contentBlockDelta index delta => view.Continues (index.getD 0) delta
  | .contentBlockStop index => view.Stops parse (index.getD 0)
  | .messageDelta _ _ | .other => True
  | .error => False

def start (index : ℚ) : AnthropicBlock → AnthropicView
  | .text => ⟨view.setBlock index .text true, Function.update view.last index (some .text)⟩
  | .thinking =>
    ⟨view.setBlock index .reasoning true, Function.update view.last index (some .reasoning)⟩
  | .toolUse id name =>
    ⟨{ view.setCall index "" true with
        ids := view.ids ++ [anthropicCallId index id]
        bytes := view.bytes + ((anthropicCallId index id).utf8ByteSize +
          (name.getD "unknown").utf8ByteSize) },
      Function.update view.last index (some .tool)⟩
  | .other => view

def continued (index : ℚ) : AnthropicDelta → AnthropicView
  | .text text | .thinking text =>
    { view with bytes := view.bytes + (text.getD "").utf8ByteSize }
  | .inputJson text =>
    ⟨{ view.setCall index (view.argumentsAt index ++ text.getD "") true with
        bytes := view.bytes + (text.getD "").utf8ByteSize }, view.last⟩
  | .other => view

def stop (index : ℚ) : AnthropicView :=
  match view.last index with
  | some .text => ⟨view.setBlock index .text false, view.last⟩
  | some .reasoning => ⟨view.setBlock index .reasoning false, view.last⟩
  | some .tool => ⟨view.setCall index (view.argumentsAt index) false, view.last⟩
  | none => view

def after : AnthropicEvent → AnthropicView
  | .messageStart _ => { view with started := true }
  | .contentBlockStart index block => view.start (index.getD 0) block
  | .contentBlockDelta index delta => view.continued (index.getD 0) delta
  | .contentBlockStop index => view.stop (index.getD 0)
  | _ => view

/-- Each event is possible after the events before it. -/
def FitAll (parse : String → Option Json) (view : AnthropicView) : List AnthropicEvent → Prop
  | [] => True
  | event :: rest => view.Fits parse event ∧ FitAll parse (view.after event) rest

def afterAll (events : List AnthropicEvent) : AnthropicView := events.foldl after view

end AnthropicView

/-- A stop reason that the event reports, also the absence of one. -/
def AnthropicEvent.reported : AnthropicEvent → Option (Option String)
  | .messageDelta stopReason _ => some stopReason
  | _ => none

def AnthropicEvent.usage : AnthropicEvent → Option ProviderUsage
  | .messageStart usage | .messageDelta _ usage => some usage
  | _ => none

section Anthropic

variable {state : AnthropicState} {view : AnthropicView} {parse : String → Option Json}
  {event : AnthropicEvent} {events : List AnthropicEvent}

/-- The chunk of an event is possible when the event is, and says the same. -/
theorem AnthropicState.receive_tells (parse : String → Option Json)
    (last : ∀ index, state.started.get? index = view.last index)
    (sound : event ≠ .error) :
    (∀ chunk ∈ (state.receive event).2, chunk.isPlain = true) ∧
      (StreamView.FitAll parse view.toStreamView (state.receive event).2.toList ↔
        view.Fits parse event) ∧
      view.toStreamView.afterAll (state.receive event).2.toList = (view.after event).toStreamView ∧
      ∀ index, (state.receive event).1.started.get? index = (view.after event).last index := by
  rcases event with usage | ⟨place, _ | _ | ⟨id, name⟩ | _⟩ | ⟨place, _ | _ | _ | _⟩ | place |
    ⟨reason, usage⟩ | _ | _
  case error => exact absurd rfl sound
  case contentBlockStop =>
    simp only [receive, AnthropicView.Fits, AnthropicView.Stops, AnthropicView.after,
      AnthropicView.stop, ← last]
    rcases state.started.get? (place.getD 0) with _ | _ | _ | _ <;>
      simp [ProviderChunk.isPlain, StreamView.FitAll, StreamView.Fits, StreamView.after,
        StreamView.change, providerChunkBytes, last] <;> rfl
  all_goals simp [receive, ProviderChunk.isPlain, StreamView.FitAll, StreamView.Fits,
    StreamView.after, StreamView.change, providerChunkBytes, AnthropicView.Fits,
    AnthropicView.Starts, AnthropicView.Continues, AnthropicView.after, AnthropicView.start,
    AnthropicView.continued, anthropicCallId, Table.get?_upsert, Function.update_apply, last]
    <;> rfl

theorem AnthropicState.receive_ends (state : AnthropicState) (event : AnthropicEvent) :
    (state.receive event).1.stopReason = event.reported.getD state.stopReason ∧
      (state.receive event).1.usage = (event.usage.map state.usage.maximum).getD state.usage := by
  rcases event with usage | ⟨place, _ | _ | _ | _⟩ | ⟨place, _ | _ | _ | _⟩ | place |
    ⟨reason, usage⟩ | _ | _
  case contentBlockStop =>
    rw [receive]
    split <;> exact ⟨rfl, rfl⟩
  all_goals exact ⟨rfl, rfl⟩

theorem AnthropicState.stream_cons (state : AnthropicState) (sound : event ≠ .error) :
    state.stream (event :: events) = { (state.receive event).1.stream events with
      chunks := (state.receive event).2.toList ++
        ((state.receive event).1.stream events).chunks } := by
  cases event with
  | error => exact absurd rfl sound
  | _ => rfl

theorem AnthropicState.stream_error (state : AnthropicState) (view : AnthropicView)
    (broken : .error ∈ events) :
    (state.stream events).failure ≠ none ∧ ¬ view.FitAll parse events := by
  induction events generalizing state view with
  | nil => cases broken
  | cons event rest ih =>
    by_cases sound : event = .error
    · subst sound
      exact ⟨by simp [AnthropicState.stream], fun fit => fit.1⟩
    · have later := (List.mem_cons.mp broken).resolve_left (Ne.symm sound)
      rw [state.stream_cons sound]
      obtain ⟨failed, unfit⟩ := ih (state.receive event).1 (view.after event) later
      exact ⟨failed, fun fit => unfit fit.2⟩

/-- The chunks of a stream that reports no error say what its events say. -/
theorem AnthropicState.stream_tells (last : ∀ index, state.started.get? index = view.last index)
    (sound : .error ∉ events) : ∃ chunks : List ProviderChunk,
      state.stream events = { chunks := chunks ++
        [.completed ((events.filterMap (·.reported)).getLast?.getD state.stopReason)
          (some ((events.filterMap (·.usage)).foldl ProviderUsage.maximum state.usage))] } ∧
      (∀ chunk ∈ chunks, chunk.isPlain = true) ∧
      (StreamView.FitAll parse view.toStreamView chunks ↔ view.FitAll parse events) ∧
      view.toStreamView.afterAll chunks = (view.afterAll events).toStreamView := by
  induction events generalizing state view with
  | nil => exact ⟨[], rfl, by simp, Iff.rfl, rfl⟩
  | cons event rest ih =>
    obtain ⟨here, later⟩ := not_or.mp (mt List.mem_cons.mpr sound)
    obtain ⟨plain, fit, after, started⟩ := state.receive_tells parse last (Ne.symm here)
    obtain ⟨chunks, stream, morePlain, moreFit, moreAfter⟩ := ih started later
    refine ⟨(state.receive event).2.toList ++ chunks, ?_, ?_, ?_, ?_⟩
    · rw [state.stream_cons (Ne.symm here), stream]
      obtain ⟨reason, usage⟩ := state.receive_ends event
      cases reported : event.reported <;> cases used : event.usage <;>
        simp [reported, used, reason, usage, List.getLast?_cons]
    · simpa [or_imp, forall_and] using ⟨plain, morePlain⟩
    · rw [StreamView.fitAll_append, fit, after, moreFit, AnthropicView.FitAll]
    · rw [StreamView.afterAll_append, after, moreAfter]
      rfl

end Anthropic

/-! ## Parts of OpenAI-compatible chunks -/

/-- What a chunk says, in the order in which it is read: texts and calls. -/
inductive OpenAiPart where
  | text (kind : TextKind) (index : ℚ) (delta : String)
  | call (delta : OpenAiToolCallDelta)

/-- Reasoning has its blocks after those of the text. -/
def TextKind.blockIndex (kind : TextKind) (index : ℚ) : ℚ :=
  match kind with
  | .text => index
  | .reasoning => index + 10000

def OpenAiChoice.parts (choice : OpenAiChoice) : List OpenAiPart :=
  ((truthy choice.content).map (.text .text choice.index)).toList ++
    (((truthy choice.reasoning).map (.text .reasoning choice.index)).toList ++
      choice.toolCalls.map .call)

def OpenAiChunk.parts (chunk : OpenAiChunk) : List OpenAiPart :=
  (chunk.choice.map (·.parts)).getD []

def OpenAiChunk.reported (chunk : OpenAiChunk) : Option String :=
  chunk.choice.bind fun choice => truthy choice.finishReason

namespace OpenAiToolCallDelta

variable (call : OpenAiToolCallDelta)

/-- The id of a call, which is made up when the delta has none. -/
def callId (providerId : String) : String :=
  call.id.getD (providerId ++ "-tool-" ++ indexText call.index)

def callName (fromWire : String → String) : String := fromWire (call.name.getD "unknown")

def argumentsText : String := (truthy call.arguments).getD ""

end OpenAiToolCallDelta

section OpenAi

variable (providerId : String) (fromWire : String → String)

/-- A text continues its block or starts it, and a delta of a call continues the call or starts
it. -/
def OpenAiPart.Fits (view : StreamView) : OpenAiPart → Prop
  | .text kind index _ => view.block (kind.blockIndex index) = some (kind, true) ∨
      view.BlockFree (kind.blockIndex index)
  | .call delta => view.CallOpen delta.index ∨
      view.CallFree delta.index (delta.callId providerId) (delta.callName fromWire)

def OpenAiPart.after (view : StreamView) : OpenAiPart → StreamView
  | .text kind index delta => { view.setBlock (kind.blockIndex index) kind true with
      bytes := view.bytes + delta.utf8ByteSize }
  | .call delta => match view.call delta.index with
    | some _ =>
      { view.setCall delta.index (view.argumentsAt delta.index ++ delta.argumentsText) true with
        bytes := view.bytes + delta.argumentsText.utf8ByteSize }
    | none =>
      { view.setCall delta.index delta.argumentsText true with
        ids := view.ids ++ [delta.callId providerId]
        bytes := view.bytes + ((delta.callId providerId).utf8ByteSize +
          (delta.callName fromWire).utf8ByteSize + delta.argumentsText.utf8ByteSize) }

/-- Each part is possible after the parts before it. -/
def OpenAiPart.FitAll (view : StreamView) : List OpenAiPart → Prop
  | [] => True
  | part :: rest => part.Fits providerId fromWire view ∧
      FitAll (part.after providerId fromWire view) rest

def OpenAiPart.afterAll (view : StreamView) (parts : List OpenAiPart) : StreamView :=
  parts.foldl (OpenAiPart.after providerId fromWire) view

theorem OpenAiPart.fitAll_append {view : StreamView} {parts more : List OpenAiPart} :
    FitAll providerId fromWire view (parts ++ more) ↔ FitAll providerId fromWire view parts ∧
      FitAll providerId fromWire (afterAll providerId fromWire view parts) more := by
  induction parts generalizing view with
  | nil => simp [FitAll, afterAll]
  | cons part rest ih => simp [FitAll, afterAll, ih, and_assoc]

def OpenAiState.begun (state : OpenAiState) : TextKind → List ℚ
  | .text => state.startedText
  | .reasoning => state.startedReasoning

/-- What the adapter has started is what is open. -/
structure OpenAiState.Shows (state : OpenAiState) (view : StreamView) : Prop where
  begun : ∀ kind index, index ∈ state.begun kind ↔
    view.block (kind.blockIndex index) = some (kind, true)
  pending : ∀ index, index ∈ state.pendingTools ↔ view.CallOpen index
  distinct : (∀ kind, (state.begun kind).Nodup) ∧ state.pendingTools.Nodup

theorem empty_openAi_shows : ({} : OpenAiState).Shows { started := true } where
  begun kind index := by cases kind <;> simp [OpenAiState.begun]
  pending index := by simp [StreamView.CallOpen]
  distinct := ⟨fun kind => by cases kind <;> exact List.nodup_nil, List.nodup_nil⟩

/-- The chunks say what the parts say, and take the adapter from one state to another. -/
structure Tells (parse : String → Option Json) (state : OpenAiState) (parts : List OpenAiPart)
    (chunks : List ProviderChunk) (next : OpenAiState) : Prop where
  plain : ∀ chunk ∈ chunks, chunk.isPlain = true
  fit : ∀ {view}, state.Shows view → (StreamView.FitAll parse view chunks ↔
    OpenAiPart.FitAll providerId fromWire view parts)
  after : ∀ {view}, state.Shows view → OpenAiPart.FitAll providerId fromWire view parts →
    view.afterAll chunks = OpenAiPart.afterAll providerId fromWire view parts ∧
      next.Shows (OpenAiPart.afterAll providerId fromWire view parts)

variable {providerId fromWire} {parse : String → Option Json} {state middle next : OpenAiState}
  {view : StreamView} {parts more : List OpenAiPart} {chunks later : List ProviderChunk}

theorem tells_nil : Tells providerId fromWire parse state [] [] state :=
  ⟨by simp, fun _ => Iff.rfl, fun shows _ => ⟨rfl, shows⟩⟩

theorem Tells.append (first : Tells providerId fromWire parse state parts chunks middle)
    (second : Tells providerId fromWire parse middle more later next) :
    Tells providerId fromWire parse state (parts ++ more) (chunks ++ later) next where
  plain := by simpa [or_imp, forall_and] using ⟨first.plain, second.plain⟩
  fit shows := by
    rw [StreamView.fitAll_append, OpenAiPart.fitAll_append, first.fit shows]
    refine and_congr_right fun fit => ?_
    obtain ⟨same, shows⟩ := first.after shows fit
    rw [same, second.fit shows]
  after shows fit := by
    obtain ⟨here, there⟩ := (OpenAiPart.fitAll_append ..).mp fit
    obtain ⟨same, shows⟩ := first.after shows here
    obtain ⟨result, last⟩ := second.after shows there
    rw [StreamView.afterAll_append, same, result]
    simp only [OpenAiPart.afterAll, List.foldl_append] at last ⊢
    exact ⟨trivial, last⟩

theorem mem_addIndex {indexes : List ℚ} {index other : ℚ} :
    other ∈ addIndex indexes index ↔ other ∈ indexes ∨ other = index := by
  unfold addIndex
  split <;> simp_all

theorem nodup_addIndex {indexes : List ℚ} (distinct : indexes.Nodup) (index : ℚ) :
    (addIndex indexes index).Nodup := by
  unfold addIndex
  split
  · exact distinct
  · simp_all [List.nodup_append]
    grind

theorem blockIndex_inj {kind : TextKind} {index other : ℚ} :
    kind.blockIndex index = kind.blockIndex other ↔ index = other := by
  cases kind <;> simp [TextKind.blockIndex]

theorem exists_blockIndex (kind : TextKind) (index : ℚ) : ∃ place, kind.blockIndex place = index := by
  cases kind with
  | text => exact ⟨index, rfl⟩
  | reasoning => exact ⟨index - 10000, sub_add_cancel index 10000⟩

def OpenAiState.begin (state : OpenAiState) (index : ℚ) : TextKind → OpenAiState
  | .text => { state with startedText := addIndex state.startedText index }
  | .reasoning => { state with startedReasoning := addIndex state.startedReasoning index }

theorem begun_begin (state : OpenAiState) (index : ℚ) (kind other : TextKind) :
    (state.begin index kind).begun other =
      if other = kind then addIndex (state.begun kind) index else state.begun other := by
  cases kind <;> cases other <;> rfl

theorem OpenAiState.Shows.begin (shows : state.Shows view) {kind : TextKind} {index : ℚ}
    (fit : view.block (kind.blockIndex index) = some (kind, true) ∨
      view.block (kind.blockIndex index) = none) :
    (state.begin index kind).Shows (view.setBlock (kind.blockIndex index) kind true) where
  begun other place := by
    rw [begun_begin, StreamView.setBlock_block]
    by_cases same : other = kind
    · subst same
      simp only [if_pos, mem_addIndex, blockIndex_inj, shows.begun]
      by_cases here : place = index <;> simp [here]
    · rw [if_neg same, shows.begun]
      by_cases here : other.blockIndex place = kind.blockIndex index
      · rw [here, if_pos rfl]
        rcases fit with found | found <;> simp [found, Ne.symm same]
      · rw [if_neg here]
  pending index := by
    cases kind <;> exact shows.pending index
  distinct := by
    refine ⟨fun other => ?_, by cases kind <;> exact shows.distinct.2⟩
    rw [begun_begin]
    split
    · exact nodup_addIndex (shows.distinct.1 kind) index
    · exact shows.distinct.1 other

theorem OpenAiState.Shows.call (shows : state.Shows view) (index : ℚ) (text : String) :
    { state with pendingTools := addIndex state.pendingTools index }.Shows
      (view.setCall index text true) where
  begun other place := by
    have same := shows.begun other place
    cases other <;> exact same
  pending other := by
    rw [mem_addIndex, shows.pending, StreamView.callOpen_iff, StreamView.callOpen_iff]
    by_cases here : other = index <;> simp [here]
  distinct := by
    refine ⟨fun kind => ?_, nodup_addIndex shows.distinct.2 index⟩
    have distinct := shows.distinct.1 kind
    cases kind <;> exact distinct

theorem tells_text (kind : TextKind) (index : ℚ) (delta : String) :
    Tells providerId fromWire parse state [.text kind index delta]
      (textChunks kind (state.begun kind) index (kind.blockIndex index) (some delta))
      (state.begin index kind) := by
  by_cases begun : index ∈ state.begun kind
  · have isOpen : ∀ {view}, state.Shows view → view.block (kind.blockIndex index) = some (kind, true) :=
      fun shows => (shows.begun kind index).mp begun
    refine ⟨by simp [textChunks, begun, ProviderChunk.isPlain], fun shows => ?_, fun shows fit => ⟨?_, ?_⟩⟩
    · simp [textChunks, begun, StreamView.FitAll, OpenAiPart.FitAll, OpenAiPart.Fits,
        StreamView.Fits, isOpen shows]
    · simp [textChunks, begun, StreamView.after, StreamView.change, OpenAiPart.afterAll,
        OpenAiPart.after, providerChunkBytes, StreamView.setBlock_self (isOpen shows)]
    · exact { shows.begin (fit.1.imp_right And.right) with }
  · have notOpen : ∀ {view}, state.Shows view →
        ¬ view.block (kind.blockIndex index) = some (kind, true) :=
      fun shows => mt (shows.begun kind index).mpr begun
    refine ⟨by simp [textChunks, begun, ProviderChunk.isPlain], fun shows => ?_, fun shows fit => ⟨?_, ?_⟩⟩
    · simp [textChunks, begun, StreamView.FitAll, OpenAiPart.FitAll, OpenAiPart.Fits,
        StreamView.Fits, notOpen shows, StreamView.after, StreamView.change]
    · simp [textChunks, begun, StreamView.after, StreamView.change, OpenAiPart.afterAll,
        OpenAiPart.after, providerChunkBytes]
    · exact { shows.begin (fit.1.imp_right And.right) with }

theorem StreamView.after_start (view : StreamView) (index : ℚ) (id name : String) :
    view.after (.toolCallStart index id name) = { view.setCall index "" true with
      ids := view.ids ++ [id]
      bytes := view.bytes + (id.utf8ByteSize + name.utf8ByteSize) } := rfl

theorem StreamView.started_continued (view : StreamView) (index : ℚ) (id name text : String) :
    (view.after (.toolCallStart index id name)).after (.toolCallDelta index text) =
      { view.setCall index text true with
        ids := view.ids ++ [id]
        bytes := view.bytes + (id.utf8ByteSize + name.utf8ByteSize + text.utf8ByteSize) } := by
  have blank : (view.after (.toolCallStart index id name)).argumentsAt index = "" := by
    simp [argumentsAt, after, change]
  rw [after, change, blank, String.empty_append]
  simp [setCall, after, change, Function.update_idem, providerChunkBytes, Nat.add_assoc]

theorem plain_toolCallChunks (pending : List ℚ) (call : OpenAiToolCallDelta) :
    ∀ chunk ∈ toolCallChunks providerId fromWire pending call, chunk.isPlain = true := by
  cases given : truthy call.arguments <;> by_cases began : call.index ∈ pending <;>
    simp [toolCallChunks, began, given, ProviderChunk.isPlain]

theorem tells_call (delta : OpenAiToolCallDelta) :
    Tells providerId fromWire parse state [.call delta]
      (toolCallChunks providerId fromWire state.pendingTools delta)
      { state with pendingTools := addIndex state.pendingTools delta.index } := by
  by_cases pending : delta.index ∈ state.pendingTools
  · have isOpen : ∀ {view}, state.Shows view → view.CallOpen delta.index :=
      fun shows => (shows.pending delta.index).mp pending
    refine ⟨plain_toolCallChunks _ _, fun shows => ?_, fun shows _ => ⟨?_, ?_⟩⟩
    · cases given : truthy delta.arguments <;>
        simp [toolCallChunks, pending, given, StreamView.FitAll, OpenAiPart.FitAll,
          OpenAiPart.Fits, StreamView.Fits, isOpen shows]
    · have found : _ = _ := isOpen shows
      cases given : truthy delta.arguments <;>
        simp [toolCallChunks, pending, given, StreamView.after, StreamView.change,
          OpenAiPart.afterAll, OpenAiPart.after, found, OpenAiToolCallDelta.argumentsText,
          providerChunkBytes, StreamView.setCall_self found]
    · have found : _ = _ := isOpen shows
      simp only [OpenAiPart.afterAll, List.foldl_cons, List.foldl_nil, OpenAiPart.after, found]
      exact { shows.call delta.index _ with }
  · have notOpen : ∀ {view}, state.Shows view → ¬ view.CallOpen delta.index :=
      fun shows => mt (shows.pending delta.index).mpr pending
    refine ⟨plain_toolCallChunks _ _, fun shows => ?_, fun shows fit => ?_⟩
    · cases given : truthy delta.arguments <;>
        simp [toolCallChunks, pending, given, StreamView.FitAll, OpenAiPart.FitAll,
          OpenAiPart.Fits, StreamView.Fits, notOpen shows, StreamView.callOpen_iff,
          StreamView.after, StreamView.change, OpenAiToolCallDelta.callId,
          OpenAiToolCallDelta.callName]
    · have absent := (fit.1.resolve_left (notOpen shows)).2.1
      constructor
      · cases given : truthy delta.arguments with
        | none =>
          simp [toolCallChunks, pending, given, StreamView.after_start, OpenAiPart.afterAll,
            OpenAiPart.after, absent, OpenAiToolCallDelta.argumentsText,
            OpenAiToolCallDelta.callId, OpenAiToolCallDelta.callName]
        | some text =>
          simp [toolCallChunks, pending, given, StreamView.started_continued, OpenAiPart.afterAll,
            OpenAiPart.after, absent, OpenAiToolCallDelta.argumentsText,
            OpenAiToolCallDelta.callId, OpenAiToolCallDelta.callName]
      · simp only [OpenAiPart.afterAll, List.foldl_cons, List.foldl_nil, OpenAiPart.after, absent]
        exact { shows.call delta.index _ with }

/-- A text that may be missing. -/
theorem tells_texts (kind : TextKind) (index : ℚ) (text : Option String) :
    Tells providerId fromWire parse state ((text.map (.text kind index)).toList)
      (textChunks kind (state.begun kind) index (kind.blockIndex index) text)
      (if text.isSome then state.begin index kind else state) := by
  cases text with
  | none => exact tells_nil
  | some text => exact tells_text kind index text

/-- The chunks of calls with the calls that are pending after them. -/
theorem toolCallsChunks_cons (pending : List ℚ) (call : OpenAiToolCallDelta)
    (rest : List OpenAiToolCallDelta) :
    toolCallsChunks providerId fromWire pending (call :: rest) =
      ((toolCallsChunks providerId fromWire (addIndex pending call.index) rest).1,
        toolCallChunks providerId fromWire pending call ++
          (toolCallsChunks providerId fromWire (addIndex pending call.index) rest).2) := by
  have collected : ∀ (before : List ProviderChunk) (pending : List ℚ)
      (calls : List OpenAiToolCallDelta),
      calls.foldl (fun before call => (addIndex before.1 call.index,
        before.2 ++ toolCallChunks providerId fromWire before.1 call)) (pending, before) =
      ((toolCallsChunks providerId fromWire pending calls).1,
        before ++ (toolCallsChunks providerId fromWire pending calls).2) := by
    intro before pending calls
    induction calls generalizing before pending with
    | nil => simp [toolCallsChunks]
    | cons call rest ih =>
      rw [toolCallsChunks, List.foldl_cons, List.foldl_cons, ih, ih]
      simp
  rw [toolCallsChunks, List.foldl_cons, collected, List.nil_append]

theorem tells_calls (calls : List OpenAiToolCallDelta) :
    Tells providerId fromWire parse state (calls.map .call)
      (toolCallsChunks providerId fromWire state.pendingTools calls).2
      { state with
        pendingTools := (toolCallsChunks providerId fromWire state.pendingTools calls).1 } := by
  induction calls generalizing state with
  | nil => exact tells_nil
  | cons call rest ih =>
    rw [toolCallsChunks_cons]
    exact (tells_call call).append ih

theorem OpenAiState.choose_tells (choice : OpenAiChoice) :
    Tells providerId fromWire parse state choice.parts
      (state.choose providerId fromWire choice).2 (state.choose providerId fromWire choice).1 := by
  have told : Tells providerId fromWire parse state choice.parts _ _ :=
    (tells_texts .text choice.index (truthy choice.content)).append
      ((tells_texts .reasoning choice.index (truthy choice.reasoning)).append
        (tells_calls choice.toolCalls))
  simp only [OpenAiState.choose, List.append_assoc]
  cases content : truthy choice.content <;> cases reasoning : truthy choice.reasoning <;>
    simp only [content, reasoning] at told ⊢ <;>
    exact ⟨told.plain, told.fit,
      fun shows fit => ⟨(told.after shows fit).1, { (told.after shows fit).2 with }⟩⟩

/-- One chunk: what it says, and what the adapter keeps for the end. -/
theorem OpenAiState.receive_tells (state : OpenAiState) (chunk : OpenAiChunk) :
    Tells providerId fromWire parse state chunk.parts
        (state.receive providerId fromWire chunk).2 (state.receive providerId fromWire chunk).1 ∧
      (state.receive providerId fromWire chunk).1.stopReason = chunk.reported.or state.stopReason ∧
      (state.receive providerId fromWire chunk).1.usage = chunk.usage.getD state.usage := by
  unfold receive OpenAiChunk.parts OpenAiChunk.reported
  cases chunk.choice with
  | none =>
    have told : Tells providerId fromWire parse state [] [] state := tells_nil
    exact ⟨⟨told.plain, told.fit, fun shows _ => ⟨rfl, { shows with }⟩⟩, rfl, rfl⟩
  | some choice =>
    have told := @choose_tells providerId fromWire parse
      { state with usage := chunk.usage.getD state.usage } choice
    exact ⟨⟨told.plain, fun shows => told.fit { shows with }, fun shows => told.after { shows with }⟩,
      rfl, rfl⟩

/-- The chunks of a stream before its end. -/
theorem OpenAiState.stream_tells (state : OpenAiState) (chunks : List OpenAiChunk) :
    ∃ (body : List ProviderChunk) (last : OpenAiState),
      state.stream providerId fromWire chunks = body ++ last.close ∧
      Tells providerId fromWire parse state (chunks.flatMap (·.parts)) body last ∧
      last.stopReason = (chunks.filterMap (·.reported)).getLast?.or state.stopReason ∧
      last.usage = (chunks.filterMap (·.usage)).getLast?.getD state.usage := by
  induction chunks generalizing state with
  | nil => exact ⟨[], state, rfl, tells_nil, rfl, rfl⟩
  | cons chunk rest ih =>
    obtain ⟨told, reason, usage⟩ := @receive_tells providerId fromWire parse state chunk
    obtain ⟨body, last, stream, later, ended, counted⟩ :=
      ih (state.receive providerId fromWire chunk).1
    refine ⟨_, last, ?_, told.append later, ?_, ?_⟩
    · rw [OpenAiState.stream, List.append_assoc, ← stream]
    · rw [ended, reason, List.filterMap_cons]
      cases chunk.reported <;> simp [List.getLast?_cons]
    · rw [counted, usage, List.filterMap_cons]
      cases chunk.usage <;> simp [List.getLast?_cons]

/-! ### The end of a stream -/

/-- The chunks that an adapter sends for what is left open. -/
inductive StreamEnd : ProviderChunk → Prop
  | block (kind : TextKind) (index : ℚ) : StreamEnd (.blockEnd kind index)
  | call (index : ℚ) : StreamEnd (.toolCallEnd index none)

namespace StreamView

@[simp] theorem fits_blockEnd (kind : TextKind) (index : ℚ) :
    view.Fits parse (.blockEnd kind index) ↔ view.block index = some (kind, true) := Iff.rfl

@[simp] theorem fits_toolCallEnd (index : ℚ) :
    view.Fits parse (.toolCallEnd index none) ↔ view.CallOpen index ∧ view.CallEnds parse index := by
  simp [Fits]

theorem setCall_elsewhere {index other : ℚ} (different : other ≠ index) (text : String)
    (isOpen : Bool) : (view.setCall index text isOpen).call other = view.call other := by
  rw [setCall_call, if_neg different]

/-- An end leaves what others end as it is. -/
theorem fits_after_end {chunk other : ProviderChunk} (ends : StreamEnd chunk)
    (otherEnds : StreamEnd other) (different : other ≠ chunk) (fits : view.Fits parse chunk) :
    (view.after chunk).Fits parse other ↔ view.Fits parse other := by
  cases ends with
  | block kind index =>
    cases otherEnds with
    | block otherKind place =>
      have changed : (view.after (.blockEnd kind index)).block place =
          if place = index then some (kind, false) else view.block place :=
        setBlock_block ..
      rw [fits_blockEnd, fits_blockEnd, changed]
      by_cases here : place = index
      · subst here
        rw [fits_blockEnd] at fits
        simp only [if_pos, fits]
        grind
      · rw [if_neg here]
    | call place => exact Iff.rfl
  | call index =>
    cases otherEnds with
    | block otherKind place => exact Iff.rfl
    | call place =>
      have elsewhere : place ≠ index := by
        rintro rfl
        exact different rfl
      have same : (view.after (.toolCallEnd index none)).call place = view.call place :=
        setCall_elsewhere elsewhere ..
      simp only [fits_toolCallEnd, CallOpen, CallEnds, argumentsAt, same]

/-- Distinct ends are possible one after the other when each is possible. -/
theorem fitAll_ends {ends : List ProviderChunk} (distinct : ends.Nodup)
    (each : ∀ chunk ∈ ends, StreamEnd chunk) :
    FitAll parse view ends ↔ ∀ chunk ∈ ends, view.Fits parse chunk := by
  induction ends generalizing view with
  | nil => simp [FitAll]
  | cons chunk rest ih =>
    obtain ⟨new, distinct⟩ := List.nodup_cons.mp distinct
    obtain ⟨here, later⟩ := List.forall_mem_cons.mp each
    rw [FitAll, List.forall_mem_cons, ih distinct later]
    refine and_congr_right fun fits => forall₂_congr fun other member => ?_
    exact fits_after_end here (later other member) (ne_of_mem_of_not_mem member new) fits

/-- What is open after ends was open before, and none of them ended it. -/
theorem open_after_ends {ends : List ProviderChunk} (each : ∀ chunk ∈ ends, StreamEnd chunk)
    {index : ℚ} :
    (∀ kind, (view.afterAll ends).block index = some (kind, true) →
      view.block index = some (kind, true) ∧ .blockEnd kind index ∉ ends) ∧
    ∀ text, (view.afterAll ends).call index = some (text, true) →
      view.call index = some (text, true) ∧ .toolCallEnd index none ∉ ends := by
  induction ends generalizing view with
  | nil => simp
  | cons chunk rest ih =>
    obtain ⟨here, later⟩ := List.forall_mem_cons.mp each
    obtain ⟨blocks, calls⟩ := @ih (view.after chunk) later
    refine ⟨fun kind isOpen => ?_, fun text isOpen => ?_⟩
    · obtain ⟨before, notEnded⟩ := blocks kind isOpen
      cases here with
      | block ended place =>
        have changed : (view.after (.blockEnd ended place)).block index =
            if index = place then some (ended, false) else view.block index :=
          setBlock_block ..
        rw [changed] at before
        split at before
        · cases before
        · exact ⟨before, by simp_all⟩
      | call place => exact ⟨before, by simpa using notEnded⟩
    · obtain ⟨before, notEnded⟩ := calls text isOpen
      cases here with
      | block ended place => exact ⟨before, by simpa using notEnded⟩
      | call place =>
        have changed : (view.after (.toolCallEnd place none)).call index =
            if index = place then some (view.argumentsAt place, false) else view.call index :=
          setCall_call ..
        rw [changed] at before
        split at before
        · cases before
        · exact ⟨before, by simp_all⟩

end StreamView

/-- What the adapter ends when the stream is done. -/
def OpenAiState.ends (state : OpenAiState) : List ProviderChunk :=
  (state.begun .text).map (.blockEnd .text <| TextKind.text.blockIndex ·) ++
    ((state.begun .reasoning).map (.blockEnd .reasoning <| TextKind.reasoning.blockIndex ·) ++
      (state.pendingTools.mergeSort fun left right => decide (left ≤ right)).map
        (.toolCallEnd · none))

theorem OpenAiState.close_eq (state : OpenAiState) :
    state.close = state.ends ++ [.completed state.stopReason (some state.usage)] := by
  simp [close, ends, begun, TextKind.blockIndex]

theorem mem_ends_block {kind : TextKind} {index : ℚ} : .blockEnd kind index ∈ state.ends ↔
    ∃ place ∈ state.begun kind, kind.blockIndex place = index := by
  cases kind <;> simp [OpenAiState.ends]

theorem mem_ends_call {index : ℚ} : .toolCallEnd index none ∈ state.ends ↔
    index ∈ state.pendingTools := by
  simp [OpenAiState.ends]

theorem ends_each : ∀ chunk ∈ state.ends, StreamEnd chunk := by
  simp only [OpenAiState.ends, List.mem_append, List.mem_map]
  rintro chunk (⟨index, -, rfl⟩ | ⟨index, -, rfl⟩ | ⟨index, -, rfl⟩)
  · exact .block _ _
  · exact .block _ _
  · exact .call _

theorem OpenAiState.Shows.ends_nodup (shows : state.Shows view) : state.ends.Nodup := by
  have blocks : ∀ kind : TextKind,
      ((state.begun kind).map fun index => ProviderChunk.blockEnd kind (kind.blockIndex index)).Nodup :=
    fun kind => (shows.distinct.1 kind).map fun _ _ same => by
      simpa [blockIndex_inj] using same
  refine (blocks .text).append ((blocks .reasoning).append ?_ ?_) ?_
  · exact ((List.mergeSort_perm ..).nodup_iff.mpr shows.distinct.2).map fun _ _ same => by
      simpa using same
  · simp [List.Disjoint]
  · simp [List.Disjoint]

theorem OpenAiState.Shows.fit_ends (shows : state.Shows view) :
    StreamView.FitAll parse view state.ends ↔
      ∀ index, view.CallOpen index → view.CallEnds parse index := by
  rw [StreamView.fitAll_ends shows.ends_nodup ends_each]
  constructor
  · intro fits index isOpen
    have ended := fits _ (mem_ends_call.mpr ((shows.pending index).mpr isOpen))
    exact ((StreamView.fits_toolCallEnd index).mp ended).2
  · intro parses chunk member
    cases ends_each chunk member with
    | block kind index =>
      obtain ⟨place, begun, rfl⟩ := mem_ends_block.mp member
      exact (shows.begun kind place).mp begun
    | call index =>
      have isOpen := (shows.pending index).mp (mem_ends_call.mp member)
      exact (StreamView.fits_toolCallEnd index).mpr ⟨isOpen, parses index isOpen⟩

theorem OpenAiState.Shows.after_ends (shows : state.Shows view) :
    (view.afterAll state.ends).Closed ∧ (view.afterAll state.ends).bytes = view.bytes := by
  refine ⟨⟨fun index kind isOpen => ?_, fun index text isOpen => ?_⟩, ?_⟩
  · obtain ⟨before, notEnded⟩ := (StreamView.open_after_ends ends_each).1 kind isOpen
    obtain ⟨place, rfl⟩ := exists_blockIndex kind index
    exact notEnded (mem_ends_block.mpr ⟨place, (shows.begun kind place).mpr before, rfl⟩)
  · obtain ⟨before, notEnded⟩ := (StreamView.open_after_ends ends_each).2 text isOpen
    exact notEnded (mem_ends_call.mpr
      ((shows.pending index).mpr (StreamView.callOpen_iff.mpr ⟨text, before⟩)))
  · have empty : (state.ends.map providerChunkBytes).sum = 0 := by
      refine List.sum_eq_zero fun size member => ?_
      obtain ⟨chunk, ended, rfl⟩ := List.mem_map.mp member
      cases ends_each chunk ended <;> rfl
    rw [StreamView.bytes_afterAll, empty, Nat.add_zero]

end OpenAi

/-! ## Accepted streams -/

/-- What a Provider sends, with what the adapter for it is given. -/
inductive ProviderEvents where
  | anthropic (events : List AnthropicEvent)
  | openAiCompatible (providerId : String) (fromWire : String → String) (chunks : List OpenAiChunk)

namespace ProviderEvents

/-- What the events have said at their end. An OpenAI-compatible adapter starts the message itself. -/
def view : ProviderEvents → StreamView
  | .anthropic events => (AnthropicView.afterAll {} events).toStreamView
  | .openAiCompatible providerId fromWire chunks =>
    OpenAiPart.afterAll providerId fromWire { started := true } (chunks.flatMap (·.parts))

/-- The usage that was reported. -/
def usage : ProviderEvents → ProviderUsage
  | .anthropic events => (events.filterMap (·.usage)).foldl ProviderUsage.maximum {}
  | .openAiCompatible _ _ chunks => (chunks.filterMap fun chunk => chunk.usage).getLast?.getD {}

/-- The stop reasons in the order in which they were reported. -/
def reported : ProviderEvents → List (Option String)
  | .anthropic events => events.filterMap (·.reported)
  | .openAiCompatible _ _ chunks => (chunks.filterMap (·.reported)).map some

def lastReported (events : ProviderEvents) : Option String := events.reported.getLast?.join

/-- The chunks of the adapter. -/
def stream : ProviderEvents → ChunkStream
  | .anthropic events => anthropicStream events
  | .openAiCompatible providerId fromWire chunks => openAiCompatibleStream providerId fromWire chunks

variable (parse : String → Option Json) (maxBufferedBytes : Option Nat) (events : ProviderEvents)

/-- Every event is possible after the events before it. -/
def Possible : ProviderEvents → Prop
  | .anthropic events => AnthropicView.FitAll parse {} events
  | .openAiCompatible providerId fromWire chunks =>
    OpenAiPart.FitAll providerId fromWire { started := true } (chunks.flatMap (·.parts))

/-- Nothing is open, or what is open can be ended by the adapter. -/
def Ended : Prop :=
  match events with
  | .anthropic _ => events.view.Closed
  | .openAiCompatible _ _ _ =>
    ∀ index, events.view.CallOpen index → events.view.CallEnds parse index

structure WellFormed : Prop where
  possible : events.Possible parse
  ended : events.Ended parse
  usage : events.usage.valid
  buffered : ∀ maximum ∈ maxBufferedBytes, events.view.bytes ≤ maximum

variable {parse maxBufferedBytes events}

/-- The adapter fails on a reported error, or yields blocks and calls with a terminal chunk. -/
theorem stream_completed :
    (events.stream.failure ≠ none ∧ ¬ events.Possible parse) ∨
    ∃ chunks : List ProviderChunk, (∀ chunk ∈ chunks, chunk.isPlain = true) ∧
      events.stream =
        { chunks := chunks ++ [.completed events.lastReported (some events.usage)] } ∧
      (StreamView.FitAll parse {} chunks ∧ (StreamView.afterAll {} chunks).Closed ↔
        events.Possible parse ∧ events.Ended parse) ∧
      (events.Possible parse → (StreamView.afterAll {} chunks).bytes = events.view.bytes) := by
  cases events with
  | anthropic events =>
    by_cases broken : .error ∈ events
    · exact .inl (AnthropicState.stream_error {} {} broken)
    · obtain ⟨chunks, stream, plain, fit, after⟩ :=
        @AnthropicState.stream_tells {} {} parse events (fun _ => rfl) broken
      have same : StreamView.afterAll {} chunks = (ProviderEvents.anthropic events).view := after
      refine .inr ⟨chunks, plain, ?_, ?_, fun _ => congrArg StreamView.bytes same⟩
      · rw [lastReported, reported]
        cases last : (events.filterMap (·.reported)).getLast? <;>
          simpa [ProviderEvents.stream, anthropicStream, usage, last] using stream
      · rw [same]
        exact and_congr_left fun _ => fit
  | openAiCompatible providerId fromWire chunks =>
    obtain ⟨body, last, stream, told, reason, counts⟩ :=
      @OpenAiState.stream_tells providerId fromWire parse {} chunks
    have begins : StreamView.after {} .messageStart = { started := true } := rfl
    refine .inr ⟨.messageStart :: (body ++ last.ends), ?_, ?_, ?_, ?_⟩
    · simp only [List.forall_mem_cons, List.mem_append, or_imp, forall_and]
      refine ⟨rfl, told.plain, fun chunk member => ?_⟩
      cases ends_each chunk member <;> rfl
    · have ended : last.stopReason = (openAiCompatible providerId fromWire chunks).lastReported := by
        rw [reason, lastReported, reported, List.getLast?_map, Option.or_none]
        cases (chunks.filterMap (·.reported)).getLast? <;> rfl
      have counted : last.usage = (openAiCompatible providerId fromWire chunks).usage := counts
      simp [ProviderEvents.stream, openAiCompatibleStream, stream, last.close_eq, ended, counted]
    · rw [StreamView.FitAll, StreamView.afterAll_cons, begins, StreamView.fitAll_append,
        StreamView.afterAll_append, told.fit empty_openAi_shows]
      constructor
      · rintro ⟨⟨-, fit, ends⟩, -⟩
        obtain ⟨same, shows⟩ := told.after empty_openAi_shows fit
        rw [same] at ends
        exact ⟨fit, shows.fit_ends.mp ends⟩
      · rintro ⟨fit, ended⟩
        obtain ⟨same, shows⟩ := told.after empty_openAi_shows fit
        rw [same]
        exact ⟨⟨rfl, fit, shows.fit_ends.mpr ended⟩, shows.after_ends.1⟩
    · intro fit
      obtain ⟨same, shows⟩ := told.after empty_openAi_shows fit
      rw [StreamView.afterAll_cons, begins, StreamView.afterAll_append, same]
      exact shows.after_ends.2

theorem accepted_iff :
    (∃ turn, consumeProviderTurn parse maxBufferedBytes events.stream = .ok turn) ↔
      events.WellFormed parse maxBufferedBytes := by
  rcases @stream_completed parse events with
    ⟨failed, impossible⟩ | ⟨chunks, plain, stream, possible, bytes⟩
  · refine iff_of_false ?_ fun wellFormed => impossible wellFormed.possible
    rintro ⟨turn, accepted⟩
    exact failed (consumeProviderTurn_eq_ok.mp accepted).1
  · rw [stream, consumeProviderTurn_accepts_iff plain, ← and_assoc, possible]
    constructor
    · rintro ⟨⟨fit, ended⟩, usage, buffered⟩
      exact ⟨fit, ended, usage, bytes fit ▸ buffered⟩
    · rintro ⟨fit, ended, usage, buffered⟩
      exact ⟨⟨fit, ended⟩, usage, (bytes fit).symm ▸ buffered⟩

theorem accepted_stopReason {turn : ProviderTurnResult}
    (accepted : consumeProviderTurn parse maxBufferedBytes events.stream = .ok turn) :
    turn.stopReason = normalizeProviderStopReason events.lastReported := by
  rcases @stream_completed parse events with ⟨failed, -⟩ | ⟨chunks, plain, stream, -⟩
  · exact absurd (consumeProviderTurn_eq_ok.mp accepted).1 failed
  · rw [stream] at accepted
    exact consumeProviderTurn_stopReason plain accepted

end ProviderEvents

end Praxis.Agent
