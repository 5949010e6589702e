import Praxis.Agent.ProviderStream

/-!
# The protocol of provider streams

Of an accumulator only a part decides which chunks it takes: what there is at each index and which
ids are used (`StreamView`). The accumulator takes a chunk exactly if it fits this view, and the
chunk changes the view alone (`accept_iff`, `accept_shows`). So a stream of blocks and calls with a
terminal chunk becomes a turn exactly if each chunk fits the view that the chunks before it leave,
and nothing stays open (`consumeProviderTurn_accepts_iff`).
-/

namespace Praxis.Agent

set_option autoImplicit false

open Praxis.Foundations

/-! ## Specification -/

/-- What decides which chunks are taken: whether the message has started, the text block and the
call at each index, with what is open, the ids of the calls, and the bytes of the turn. -/
structure StreamView where
  started : Bool := false
  block : ℚ → Option (TextKind × Bool) := fun _ => none
  call : ℚ → Option (String × Bool) := fun _ => none
  ids : List String := []
  bytes : Nat := 0

/-- The chunks of blocks and calls. -/
def ProviderChunk.isPlain : ProviderChunk → Bool
  | .legacyText _ | .legacyToolCalls _ | .completed _ _ => false
  | _ => true

/-- Usage counts are not negative. -/
def ProviderUsage.valid (usage : ProviderUsage) : Prop :=
  ∀ field ∈ usage.fields, validUsageField field.2 = true

namespace StreamView

variable (view : StreamView)

/-- The block at an index becomes this one. -/
def setBlock (index : ℚ) (kind : TextKind) (isOpen : Bool) : StreamView :=
  { view with block := Function.update view.block index (some (kind, isOpen)) }

/-- The call at an index becomes this one. -/
def setCall (index : ℚ) (argumentsText : String) (isOpen : Bool) : StreamView :=
  { view with call := Function.update view.call index (some (argumentsText, isOpen)) }

/-- The arguments of the call at an index so far. -/
def argumentsAt (index : ℚ) : String := ((view.call index).map Prod.fst).getD ""

def CallOpen (index : ℚ) : Prop := view.call index = some (view.argumentsAt index, true)

/-- No block has started at the index. -/
def BlockFree (index : ℚ) : Prop := validIndex index = true ∧ view.block index = none

/-- A call can start at the index with this id and this name. -/
def CallFree (index : ℚ) (id name : String) : Prop :=
  validIndex index = true ∧ view.call index = none ∧ id ∉ view.ids ∧ id ≠ "" ∧ name ≠ ""

/-- The arguments of the call at the index are there and are JSON, if there are any. -/
def CallEnds (parse : String → Option Json) (index : ℚ) : Prop :=
  view.argumentsAt index = "" ∨ (parse (view.argumentsAt index)).isSome = true

/-- No block and no call is open. -/
def Closed : Prop := (∀ index kind, view.block index ≠ some (kind, true)) ∧
  ∀ index text, view.call index ≠ some (text, true)

/-- The chunk is possible now. -/
def Fits (parse : String → Option Json) : ProviderChunk → Prop
  | .messageStart => view.started = false
  | .blockStart _ index => view.BlockFree index
  | .blockDelta kind index _ | .blockEnd kind index => view.block index = some (kind, true)
  | .toolCallStart index id name => view.CallFree index id name
  | .toolCallDelta index _ => view.CallOpen index
  | .toolCallEnd index input => view.CallOpen index ∧ (input = none → view.CallEnds parse index)
  | _ => False

def change : ProviderChunk → StreamView
  | .messageStart => { view with started := true }
  | .blockStart kind index => view.setBlock index kind true
  | .blockEnd kind index => view.setBlock index kind false
  | .toolCallStart index id _ => { view.setCall index "" true with ids := view.ids ++ [id] }
  | .toolCallDelta index delta => view.setCall index (view.argumentsAt index ++ delta) true
  | .toolCallEnd index _ => view.setCall index (view.argumentsAt index) false
  | _ => view

def after (chunk : ProviderChunk) : StreamView :=
  { view.change chunk with bytes := view.bytes + providerChunkBytes chunk }

/-- Each chunk is possible after the chunks before it. -/
def FitAll (parse : String → Option Json) (view : StreamView) : List ProviderChunk → Prop
  | [] => True
  | chunk :: rest => view.Fits parse chunk ∧ FitAll parse (view.after chunk) rest

def afterAll (chunks : List ProviderChunk) : StreamView := chunks.foldl after view

@[simp] theorem afterAll_nil : view.afterAll [] = view := rfl

@[simp] theorem afterAll_cons (chunk : ProviderChunk) (rest : List ProviderChunk) :
    view.afterAll (chunk :: rest) = (view.after chunk).afterAll rest := rfl

theorem afterAll_append (chunks more : List ProviderChunk) :
    view.afterAll (chunks ++ more) = (view.afterAll chunks).afterAll more :=
  List.foldl_append

variable {view} {parse : String → Option Json}

@[simp] theorem setBlock_block (index : ℚ) (kind : TextKind) (isOpen : Bool) (other : ℚ) :
    (view.setBlock index kind isOpen).block other =
      if other = index then some (kind, isOpen) else view.block other :=
  Function.update_apply ..

@[simp] theorem setCall_call (index : ℚ) (text : String) (isOpen : Bool) (other : ℚ) :
    (view.setCall index text isOpen).call other =
      if other = index then some (text, isOpen) else view.call other :=
  Function.update_apply ..

theorem setBlock_self {index : ℚ} {kind : TextKind} {isOpen : Bool}
    (found : view.block index = some (kind, isOpen)) : view.setBlock index kind isOpen = view :=
  congrArg (fun blocks => { view with block := blocks }) (Function.update_eq_self_iff.mpr found.symm)

theorem setCall_self {index : ℚ} {text : String} {isOpen : Bool}
    (found : view.call index = some (text, isOpen)) : view.setCall index text isOpen = view :=
  congrArg (fun calls => { view with call := calls }) (Function.update_eq_self_iff.mpr found.symm)

theorem fitAll_append {chunks more : List ProviderChunk} :
    FitAll parse view (chunks ++ more) ↔
      FitAll parse view chunks ∧ FitAll parse (view.afterAll chunks) more := by
  induction chunks generalizing view with
  | nil => simp [FitAll]
  | cons chunk rest ih => simp [FitAll, ih, and_assoc]

theorem bytes_afterAll (chunks : List ProviderChunk) :
    (view.afterAll chunks).bytes = view.bytes + (chunks.map providerChunkBytes).sum := by
  induction chunks generalizing view with
  | nil => rfl
  | cons chunk rest ih =>
    rw [afterAll_cons, ih, List.map_cons, List.sum_cons, after, Nat.add_assoc]

theorem callOpen_iff {index : ℚ} : view.CallOpen index ↔ ∃ text, view.call index = some (text, true) := by
  constructor
  · exact fun isOpen => ⟨_, isOpen⟩
  · rintro ⟨text, found⟩
    simp [CallOpen, argumentsAt, found]

end StreamView

/-! ## Steps of the accumulator -/

section Steps

namespace StreamState

variable {state next : StreamState} {parse : String → Option Json} {index : ℚ} {kind : TextKind}
  {input : Option Json}

theorem startMessage_eq_ok : state.startMessage = .ok next ↔
    state.messageStarted = false ∧ next = { state with messageStarted := true } := by
  simp only [startMessage, bind_eq_ok, ensure_eq_ok, return_eq_ok, Bool.not_eq_true', exists_const]

theorem startTextBlock_eq_ok :
    state.startTextBlock index kind = .ok next ↔
      validIndex index = true ∧ ∃ blocks, state.contentBlocks.insert index ⟨kind, "", true⟩ =
        some blocks ∧ next = { state with contentBlocks := blocks } := by
  simp only [startTextBlock, assertIndex, bind_eq_ok, ensure_eq_ok, orError_eq_ok, return_eq_ok,
    exists_and_left, exists_const]

theorem activeTextBlock_eq_ok {block : TextBlockState} :
    state.activeTextBlock index kind = .ok block ↔
      state.contentBlocks.get? index = some block ∧ block.active = true ∧ block.kind = kind := by
  constructor
  · intro accepted
    obtain ⟨found, here, _, same, returned⟩ := by
      simpa only [activeTextBlock, bind_eq_ok, orError_eq_ok, ensure_eq_ok, pure_eq_ok] using accepted
    subst returned
    obtain ⟨stored, active⟩ := Option.filter_eq_some_iff.mp here
    exact ⟨stored, active, eq_of_beq same⟩
  · rintro ⟨stored, active, rfl⟩
    simp [activeTextBlock, stored, Option.filter, active]

theorem appendTextBlock_eq_ok {text : String} :
    state.appendTextBlock index kind text = .ok next ↔
      ∃ block, (state.contentBlocks.get? index = some block ∧ block.active = true ∧
        block.kind = kind) ∧ next = { state with
          contentBlocks := state.contentBlocks.update index
            { block with text := block.text ++ text } } := by
  simp only [appendTextBlock, bind_eq_ok, activeTextBlock_eq_ok, return_eq_ok]

theorem endTextBlock_eq_ok :
    state.endTextBlock index kind = .ok next ↔
      ∃ block, (state.contentBlocks.get? index = some block ∧ block.active = true ∧
        block.kind = kind) ∧ next = { state with
          contentBlocks := state.contentBlocks.update index { block with active := false } } := by
  simp only [endTextBlock, bind_eq_ok, activeTextBlock_eq_ok, return_eq_ok]

theorem startToolCall_eq_ok {id name : String} :
    state.startToolCall index id name = .ok next ↔
      validIndex index = true ∧ id ∉ state.toolCallIds ∧ (id ≠ "" ∧ name ≠ "") ∧
        ∃ calls, state.toolCallStates.insert index ⟨id, name, "", true⟩ = some calls ∧
          next = { state with
            toolCallIds := state.toolCallIds ++ [id]
            toolCallStates := calls } := by
  simp only [startToolCall, assertIndex, bind_eq_ok, ensure_eq_ok, orError_eq_ok, pure_eq_ok]
  constructor
  · rintro ⟨_, valid, calls, inserted, _, fresh, _, named, rfl⟩
    exact ⟨valid, by simpa using fresh, by simpa using named, calls, inserted, rfl⟩
  · rintro ⟨valid, fresh, named, calls, inserted, rfl⟩
    exact ⟨(), valid, calls, inserted, (), by simpa using fresh, (), by simpa using named, rfl⟩

theorem activeToolCall_eq_ok {call : ToolCallState} :
    state.activeToolCall index = .ok call ↔
      state.toolCallStates.get? index = some call ∧ call.active = true := by
  rw [activeToolCall, orError_eq_ok, Option.filter_eq_some_iff]

theorem appendToolCall_eq_ok {argumentsDelta : String} :
    state.appendToolCall index argumentsDelta = .ok next ↔
      ∃ call, (state.toolCallStates.get? index = some call ∧ call.active = true) ∧
        next = { state with
          toolCallStates := state.toolCallStates.update index
            { call with argumentsText := call.argumentsText ++ argumentsDelta } } := by
  simp only [appendToolCall, bind_eq_ok, activeToolCall_eq_ok, return_eq_ok]

theorem addToolCall_eq_ok {call : ProviderToolCall} {reserved : Bool} :
    state.addToolCall call reserved = .ok next ↔
      (reserved = true ∨ call.id ∉ state.toolCallIds) ∧ (call.id ≠ "" ∧ call.name ≠ "") ∧
        next = { state with
          toolCallIds := if state.toolCallIds.contains call.id then state.toolCallIds
            else state.toolCallIds ++ [call.id]
          toolCalls := state.toolCalls ++ [call] } := by
  simp only [addToolCall, bind_eq_ok, ensure_eq_ok, pure_eq_ok]
  constructor
  · rintro ⟨_, fresh, _, named, rfl⟩
    exact ⟨by simpa using fresh, by simpa using named, rfl⟩
  · rintro ⟨fresh, named, rfl⟩
    exact ⟨(), by simpa using fresh, (), by simpa using named, rfl⟩

theorem parsedInput_accepts {argumentsText : String} :
    (∃ value, parsedInput parse index argumentsText input = .ok value) ↔
      (input = none → argumentsText = "" ∨ (parse argumentsText).isSome = true) := by
  cases input with
  | some value => simp [parsedInput]
  | none =>
    by_cases blank : argumentsText = ""
    · simp [parsedInput, blank]
    · simp [parsedInput, blank, Option.isSome_iff_exists]

theorem endToolCall_eq_ok :
    state.endToolCall parse index input = .ok next ↔
      ∃ call, (state.toolCallStates.get? index = some call ∧ call.active = true) ∧
        ∃ value, parsedInput parse index call.argumentsText input = .ok value ∧
          (call.id ≠ "" ∧ call.name ≠ "") ∧
          next = { state with
            toolCallStates := state.toolCallStates.update index { call with active := false }
            toolCallIds := if state.toolCallIds.contains call.id then state.toolCallIds
              else state.toolCallIds ++ [call.id]
            toolCalls := state.toolCalls ++ [⟨call.id, call.name, value⟩] } := by
  simp only [endToolCall, bind_eq_ok, activeToolCall_eq_ok, addToolCall_eq_ok, true_or, true_and]

theorem refuse_find_eq_ok {α : Type} {items : List α} {check : α → Bool} {message : α → String}
    {done : Unit} : refuse (items.find? check) message = .ok done ↔
      ∀ item ∈ items, check item = false := by
  cases found : items.find? check with
  | none =>
    refine iff_of_true rfl fun item member => ?_
    simpa using List.find?_eq_none.mp found item member
  | some item =>
    refine iff_of_false (by rintro ⟨⟩) fun all => ?_
    have holds := List.find?_some found
    rw [all item (List.mem_of_find?_eq_some found)] at holds
    cases holds


theorem validateUsage_eq_ok {usage counts : ProviderUsage} :
    validateUsage usage = .ok counts ↔ usage.valid ∧ counts = usage := by
  simp only [validateUsage, bind_eq_ok, refuse_find_eq_ok, return_eq_ok, exists_const,
    ProviderUsage.valid, Bool.not_eq_false']

theorem complete_eq_ok {reason : Option String} {usage : Option ProviderUsage} :
    state.complete reason usage = .ok next ↔
      (∀ counts ∈ usage, counts.valid) ∧
        next = { state with terminal := some (normalizeProviderStopReason reason, usage) } := by
  cases usage with
  | none =>
    have mapped : (none : Option ProviderUsage).mapM validateUsage = .ok none := rfl
    rw [complete, mapped, ok_bind, return_eq_ok]
    simp
  | some counts =>
    have mapped : ∀ accepted, (some counts).mapM validateUsage = .ok accepted ↔
        counts.valid ∧ accepted = some counts := by
      intro accepted
      rw [option_mapM_eq_ok]
      simp only [reduceCtorEq, false_and, Option.some.injEq, validateUsage_eq_ok, false_or]
      constructor
      · rintro ⟨_, _, rfl, rfl, valid, rfl⟩
        exact ⟨valid, rfl⟩
      · rintro ⟨valid, rfl⟩
        exact ⟨counts, counts, rfl, rfl, valid, rfl⟩
    simp only [complete, bind_eq_ok, mapped, return_eq_ok]
    simp

end StreamState

end Steps

/-! ## Accepted chunks -/

/-- The turn has not ended and shows this view. -/
structure StreamState.Shows (state : StreamState) (view : StreamView) : Prop where
  terminal : state.terminal = none
  plain : state.legacyToolCalls = false
  started : state.messageStarted = view.started
  block : ∀ index,
    (state.contentBlocks.get? index).map (fun block => (block.kind, block.active)) =
      view.block index
  call : ∀ index, (state.toolCallStates.get? index).map
    (fun call => (call.argumentsText, call.active)) = view.call index
  ids : state.toolCallIds = view.ids
  /-- The calls have ids that are reserved. -/
  named : ∀ index call, state.toolCallStates.get? index = some call →
    (call.id ≠ "" ∧ call.name ≠ "") ∧ call.id ∈ state.toolCallIds

theorem empty_shows : ({} : StreamState).Shows {} :=
  ⟨rfl, rfl, rfl, fun _ => rfl, fun _ => rfl, rfl, fun _ _ found => by cases found⟩

section Accept

variable {state next : StreamState} {view : StreamView} {parse : String → Option Json}
  {chunk : ProviderChunk} {index : ℚ}

namespace StreamState.Shows

variable (shows : state.Shows view)
include shows

theorem block_iff {kind : TextKind} : view.block index = some (kind, true) ↔
    ∃ block, state.contentBlocks.get? index = some block ∧ block.active = true ∧
      block.kind = kind := by
  simp [← shows.block, and_comm]

theorem callOpen_iff : view.CallOpen index ↔
    ∃ call, state.toolCallStates.get? index = some call ∧ call.active = true := by
  simp [StreamView.callOpen_iff, ← shows.call]

theorem argumentsAt {call : ToolCallState} (found : state.toolCallStates.get? index = some call) :
    view.argumentsAt index = call.argumentsText := by
  simp [StreamView.argumentsAt, ← shows.call, found]

theorem blockFree_iff :
    view.BlockFree index ↔ validIndex index = true ∧ state.contentBlocks.get? index = none := by
  rw [StreamView.BlockFree, ← shows.block, Option.map_eq_none_iff]

theorem callFree_iff {id name : String} : view.CallFree index id name ↔ validIndex index = true ∧
    state.toolCallStates.get? index = none ∧ id ∉ state.toolCallIds ∧ id ≠ "" ∧ name ≠ "" := by
  rw [StreamView.CallFree, ← shows.call, Option.map_eq_none_iff, shows.ids]

/-- A table of blocks with one block set shows the view with this block set. -/
theorem set_block {blocks : Table ℚ TextBlockState} (block : TextBlockState)
    (changed : ∀ other, blocks.get? other =
      if other = index then some block else state.contentBlocks.get? other) :
    { state with contentBlocks := blocks }.Shows (view.setBlock index block.kind block.active) where
  block other := by
    rw [changed, StreamView.setBlock_block, ← shows.block]
    split <;> rfl
  __ := shows

/-- A table of calls with one call set shows the view with this call set. -/
theorem set_call {calls : Table ℚ ToolCallState} (call : ToolCallState)
    (changed : ∀ other, calls.get? other =
      if other = index then some call else state.toolCallStates.get? other)
    (done : List ProviderToolCall) {ids more : List String} (same : ids = more)
    (grown : ∀ id ∈ state.toolCallIds, id ∈ ids)
    (named : (call.id ≠ "" ∧ call.name ≠ "") ∧ call.id ∈ ids) :
    { state with
      toolCallStates := calls
      toolCallIds := ids
      toolCalls := done }.Shows
        { view.setCall index call.argumentsText call.active with ids := more } where
  call other := by
    refine Eq.trans ?_ (StreamView.setCall_call ..).symm
    rw [changed, ← shows.call]
    split <;> rfl
  ids := same
  named other found stored := by
    rw [changed] at stored
    split at stored
    · cases stored
      exact named
    · obtain ⟨named, used⟩ := shows.named other found stored
      exact ⟨named, grown _ used⟩
  __ := shows

/-- The bytes of a view do not matter. -/
theorem of_bytes (bytes : Nat) : state.Shows { view with bytes } := { shows with }

/-- A chunk is taken exactly if it is possible, and changes the view as it should. -/
theorem accept_change (plain : chunk.isPlain = true) :
    (∀ next, state.accept parse chunk = .ok next →
      view.Fits parse chunk ∧ next.Shows (view.change chunk)) ∧
    (view.Fits parse chunk → ∃ next, state.accept parse chunk = .ok next) := by
  simp only [StreamState.accept, shows.terminal, Option.isNone_none, ensure_true, ok_bind]
  cases chunk with
  | messageStart =>
    simp only [startMessage_eq_ok, StreamView.Fits, ← shows.started]
    refine ⟨?_, fun fresh => ⟨_, fresh, rfl⟩⟩
    rintro _ ⟨fresh, rfl⟩
    exact ⟨fresh, { shows with started := rfl }⟩
  | blockStart kind index =>
    rw [StreamView.Fits, shows.blockFree_iff]
    simp only [startTextBlock_eq_ok]
    constructor
    · rintro _ ⟨valid, blocks, inserted, rfl⟩
      exact ⟨⟨valid, (state.contentBlocks.insert_eq_some_iff.mp inserted).1⟩,
        shows.set_block ⟨kind, "", true⟩ (Table.get?_of_insert inserted)⟩
    · rintro ⟨valid, absent⟩
      obtain ⟨blocks, inserted⟩ := Table.exists_insert absent ⟨kind, "", true⟩
      exact ⟨_, valid, blocks, inserted, rfl⟩
  | blockDelta kind index text =>
    rw [StreamView.Fits, shows.block_iff]
    simp only [appendTextBlock_eq_ok]
    refine ⟨?_, Exists.imp' _ fun block found => ⟨block, found, rfl⟩⟩
    rintro _ ⟨block, ⟨found, active, rfl⟩, rfl⟩
    refine ⟨⟨block, found, active, rfl⟩, ?_⟩
    have same : view.setBlock index block.kind block.active = view := by
      refine StreamView.setBlock_self ?_
      rw [← shows.block, found]
      rfl
    have set := shows.set_block { block with text := block.text ++ text } fun other => by
      rw [Table.get?_update, found]
      rfl
    exact same ▸ set
  | blockEnd kind index =>
    rw [StreamView.Fits, shows.block_iff]
    simp only [endTextBlock_eq_ok]
    refine ⟨?_, Exists.imp' _ fun block found => ⟨block, found, rfl⟩⟩
    rintro _ ⟨block, ⟨found, active, rfl⟩, rfl⟩
    refine ⟨⟨block, found, active, rfl⟩, shows.set_block { block with active := false } ?_⟩
    intro other
    rw [Table.get?_update, found]
    rfl
  | toolCallStart index id name =>
    rw [StreamView.Fits, shows.callFree_iff]
    simp only [startToolCall_eq_ok]
    constructor
    · rintro _ ⟨valid, fresh, named, calls, inserted, rfl⟩
      refine ⟨⟨valid, (state.toolCallStates.insert_eq_some_iff.mp inserted).1, fresh, named⟩,
        shows.set_call ⟨id, name, "", true⟩ (Table.get?_of_insert inserted) _ ?_
          (fun _ => List.mem_append_left _) ⟨named, by simp⟩⟩
      rw [shows.ids]
    · rintro ⟨valid, absent, fresh, named⟩
      obtain ⟨calls, inserted⟩ := Table.exists_insert absent ⟨id, name, "", true⟩
      exact ⟨_, valid, fresh, named, calls, inserted, rfl⟩
  | toolCallDelta index argumentsDelta =>
    rw [StreamView.Fits, shows.callOpen_iff]
    simp only [appendToolCall_eq_ok]
    refine ⟨?_, Exists.imp' _ fun call found => ⟨call, found, rfl⟩⟩
    rintro _ ⟨call, ⟨found, active⟩, rfl⟩
    refine ⟨⟨call, found, active⟩, ?_⟩
    rw [StreamView.change, shows.argumentsAt found, ← active]
    exact shows.set_call { call with argumentsText := call.argumentsText ++ argumentsDelta }
      (fun other => by rw [Table.get?_update, found]; rfl) _ shows.ids (fun _ => id)
      (shows.named index call found)
  | toolCallEnd index input =>
    rw [StreamView.Fits, shows.callOpen_iff, StreamView.CallEnds]
    simp only [endToolCall_eq_ok]
    constructor
    · rintro _ ⟨call, ⟨found, active⟩, value, parsed, -, rfl⟩
      have named := shows.named index call found
      -- The id of a call that was started is reserved.
      rw [if_pos (by simpa using named.2), StreamView.change, shows.argumentsAt found]
      exact ⟨⟨⟨call, found, active⟩, parsedInput_accepts.mp ⟨value, parsed⟩⟩,
        shows.set_call { call with active := false }
          (fun other => by rw [Table.get?_update, found]; rfl) _ shows.ids (fun _ => id) named⟩
    · rintro ⟨⟨call, found⟩, parses⟩
      rw [shows.argumentsAt found.1] at parses
      obtain ⟨value, parsed⟩ := parsedInput_accepts.mpr parses
      exact ⟨_, call, found, value, parsed, (shows.named index call found.1).1, rfl⟩
  | _ => cases plain

theorem accept_iff (plain : chunk.isPlain = true) :
    (∃ next, state.accept parse chunk = .ok next) ↔ view.Fits parse chunk := by
  refine ⟨?_, (shows.accept_change plain).2⟩
  rintro ⟨next, accepted⟩
  exact ((shows.accept_change plain).1 next accepted).1

theorem accept_shows (plain : chunk.isPlain = true) (accepted : state.accept parse chunk = .ok next) :
    next.Shows (view.after chunk) :=
  ((shows.accept_change plain).1 next accepted).2.of_bytes _

end StreamState.Shows

end Accept

/-! ## Whole streams -/

section Consume

variable {parse : String → Option Json} {maxBufferedBytes : Option Nat} {state : StreamState}
  {turn : ProviderTurnResult} {stream : ChunkStream} {view : StreamView}

def StreamState.acceptAll (state : StreamState) (parse : String → Option Json)
    (chunks : List ProviderChunk) : Except ProviderError StreamState :=
  chunks.foldlM (fun before chunk => before.accept parse chunk) state


theorem acceptAll_shows (shows : state.Shows view) {chunks : List ProviderChunk}
    (plain : ∀ chunk ∈ chunks, chunk.isPlain = true) :
    ((∃ last, state.acceptAll parse chunks = .ok last) ↔ StreamView.FitAll parse view chunks) ∧
      ∀ last, state.acceptAll parse chunks = .ok last → last.Shows (view.afterAll chunks) := by
  induction chunks generalizing state view with
  | nil =>
    refine ⟨iff_of_true ⟨state, rfl⟩ trivial, fun last accepted => ?_⟩
    obtain rfl := foldlM_nil_eq_ok.mp accepted
    exact shows
  | cons chunk rest ih =>
    obtain ⟨here, later⟩ := List.forall_mem_cons.mp plain
    have next : ∀ {next : StreamState}, state.accept parse chunk = .ok next →
        next.Shows (view.after chunk) := shows.accept_shows here
    simp only [StreamState.acceptAll, foldlM_cons_eq_ok] at ih ⊢
    refine ⟨?_, fun last ⟨middle, accepted, others⟩ => (ih (next accepted) later).2 last others⟩
    rw [StreamView.FitAll, ← shows.accept_iff here]
    constructor
    · rintro ⟨last, middle, accepted, others⟩
      exact ⟨⟨middle, accepted⟩, (ih (next accepted) later).1.mp ⟨last, others⟩⟩
    · rintro ⟨⟨middle, accepted⟩, fit⟩
      obtain ⟨last, others⟩ := (ih (next accepted) later).1.mpr fit
      exact ⟨last, middle, accepted, others⟩

theorem consumeChunk_eq_ok {turn next : StreamState × Nat} {chunk : ProviderChunk} :
    consumeChunk parse maxBufferedBytes turn chunk = .ok next ↔
      (∀ maximum ∈ maxBufferedBytes, turn.2 + providerChunkBytes chunk ≤ maximum) ∧
        turn.1.accept parse chunk = .ok next.1 ∧ next.2 = turn.2 + providerChunkBytes chunk := by
  simp only [consumeChunk, bind_eq_ok, ensure_eq_ok, return_eq_ok, Option.all_eq_true,
    decide_eq_true_eq, exists_and_left, exists_const]
  refine and_congr_right fun _ => ?_
  constructor
  · rintro ⟨state, accepted, rfl⟩
    exact ⟨accepted, rfl⟩
  · rintro ⟨accepted, bytes⟩
    exact ⟨next.1, accepted, Prod.ext rfl bytes⟩

theorem consumeChunks_eq_ok (chunks : List ProviderChunk) {bytes : Nat}
    (before : ∀ maximum ∈ maxBufferedBytes, bytes ≤ maximum) {next : StreamState × Nat} :
    chunks.foldlM (consumeChunk parse maxBufferedBytes) (state, bytes) = .ok next ↔
      (∀ maximum ∈ maxBufferedBytes, bytes + (chunks.map providerChunkBytes).sum ≤ maximum) ∧
        state.acceptAll parse chunks = .ok next.1 ∧
          next.2 = bytes + (chunks.map providerChunkBytes).sum := by
  induction chunks generalizing state bytes with
  | nil =>
    rw [StreamState.acceptAll, foldlM_nil_eq_ok, foldlM_nil_eq_ok]
    constructor
    · rintro rfl
      exact ⟨before, rfl, rfl⟩
    · rintro ⟨-, rfl, same⟩
      exact Prod.ext rfl same.symm
  | cons chunk rest ih =>
    simp only [StreamState.acceptAll, foldlM_cons_eq_ok, consumeChunk_eq_ok, List.map_cons,
      List.sum_cons]
    constructor
    · rintro ⟨⟨middle, count⟩, ⟨fits, accepted, rfl⟩, others⟩
      obtain ⟨all, taken, total⟩ := (ih fits).mp others
      simp only [Nat.add_assoc] at all total
      exact ⟨all, ⟨middle, accepted, taken⟩, total⟩
    · rintro ⟨all, ⟨middle, accepted, taken⟩, total⟩
      have fits : ∀ maximum ∈ maxBufferedBytes, bytes + providerChunkBytes chunk ≤ maximum := by
        intro maximum member
        have bound := all maximum member
        omega
      refine ⟨(middle, _), ⟨fits, accepted, rfl⟩, (ih fits).mpr ⟨?_, taken, ?_⟩⟩
      · simpa only [Nat.add_assoc] using all
      · simpa only [Nat.add_assoc] using total

/-- The terminal state of the accumulator at the end of a stream. -/
def StreamState.ending (state : StreamState) :
    Option (ProviderStopReason × Option ProviderUsage) :=
  state.terminal.or (if state.legacyToolCalls then some (.toolCalls, none) else none)

theorem finish_eq_ok :
    state.finish = .ok turn ↔ ∃ ending, state.ending = some ending ∧
      (∀ row ∈ state.contentBlocks.rows, row.2.active = false) ∧
      (∀ row ∈ state.toolCallStates.rows, row.2.active = false) ∧
      turn = ⟨state.content, state.toolCalls, ending.1, ending.2⟩ := by
  simp only [StreamState.finish, bind_eq_ok, orError_eq_ok,
    StreamState.refuse_find_eq_ok, return_eq_ok, StreamState.ending, exists_and_left, exists_const]


theorem StreamState.Shows.closed_iff (shows : state.Shows view) : view.Closed ↔
    (∀ row ∈ state.contentBlocks.rows, row.2.active = false) ∧
      ∀ row ∈ state.toolCallStates.rows, row.2.active = false := by
  simp only [StreamView.Closed, ne_eq, ← shows.block, ← shows.call, Prod.forall, Table.mem_rows_iff,
    Option.map_eq_some_iff, Prod.mk.injEq, not_exists, not_and, Bool.not_eq_true]
  grind

theorem consumeProviderTurn_eq_ok :
    consumeProviderTurn parse maxBufferedBytes stream = .ok turn ↔
      stream.failure = none ∧ (∀ maximum ∈ maxBufferedBytes,
        (stream.chunks.map providerChunkBytes).sum ≤ maximum) ∧
        ∃ state, ({} : StreamState).acceptAll parse stream.chunks = .ok state ∧
          state.finish = .ok turn := by
  have consumed := @consumeChunks_eq_ok parse maxBufferedBytes {} stream.chunks 0
    (fun _ _ => Nat.zero_le _)
  simp only [Nat.zero_add] at consumed
  simp only [consumeProviderTurn, bind_eq_ok, consumed]
  cases broken : stream.failure with
  | some failure => simp
  | none =>
    constructor
    · rintro ⟨⟨state, bytes⟩, ⟨buffered, accepted, -⟩, finished⟩
      exact ⟨rfl, buffered, state, accepted, finished⟩
    · rintro ⟨-, buffered, state, accepted, finished⟩
      exact ⟨(state, _), ⟨buffered, accepted, rfl⟩, finished⟩


/-! ### Streams of an adapter -/

variable {chunks : List ProviderChunk} (plain : ∀ chunk ∈ chunks, chunk.isPlain = true)
  {reason : Option String} {usage : ProviderUsage}
include plain

theorem acceptAll_completed {last : StreamState} :
    ({} : StreamState).acceptAll parse (chunks ++ [.completed reason (some usage)]) = .ok last ↔
      ∃ middle, ({} : StreamState).acceptAll parse chunks = .ok middle ∧ usage.valid ∧
        last = { middle with terminal := some (normalizeProviderStopReason reason, some usage) } := by
  rw [StreamState.acceptAll, foldlM_append_eq_ok]
  refine exists_congr fun middle => and_congr_right fun accepted => ?_
  have running := ((acceptAll_shows empty_shows plain).2 middle accepted).terminal
  simp only [foldlM_cons_eq_ok, foldlM_nil_eq_ok, exists_eq_right, StreamState.accept, running,
    Option.isNone_none, ensure_true, ok_bind, StreamState.complete_eq_ok, Option.mem_some_iff,
    forall_eq']

/-- Blocks and calls with a terminal chunk become a turn exactly if each chunk is possible, nothing
stays open, the counts are valid and the buffer is large enough. -/
theorem consumeProviderTurn_accepts_iff :
    (∃ turn, consumeProviderTurn parse maxBufferedBytes
      { chunks := chunks ++ [.completed reason (some usage)] } = .ok turn) ↔
      StreamView.FitAll parse {} chunks ∧ (StreamView.afterAll {} chunks).Closed ∧ usage.valid ∧
        ∀ maximum ∈ maxBufferedBytes, (StreamView.afterAll {} chunks).bytes ≤ maximum := by
  obtain ⟨accepts, shown⟩ := @acceptAll_shows parse _ _ empty_shows chunks plain
  have bytes : ((chunks ++ [ProviderChunk.completed reason (some usage)]).map providerChunkBytes).sum =
      (StreamView.afterAll {} chunks).bytes := by
    simp [StreamView.bytes_afterAll, providerChunkBytes]
  simp only [consumeProviderTurn_eq_ok, acceptAll_completed plain, finish_eq_ok, bytes, true_and]
  constructor
  · rintro ⟨turn, buffered, _, ⟨middle, accepted, valid, rfl⟩, ending, -, blocks, calls, -⟩
    exact ⟨accepts.mp ⟨middle, accepted⟩, (shown middle accepted).closed_iff.mpr ⟨blocks, calls⟩,
      valid, buffered⟩
  · rintro ⟨fit, closed, valid, buffered⟩
    obtain ⟨middle, accepted⟩ := accepts.mpr fit
    obtain ⟨blocks, calls⟩ := (shown middle accepted).closed_iff.mp closed
    exact ⟨_, buffered, _, ⟨middle, accepted, valid, rfl⟩, _, rfl, blocks, calls, rfl⟩

theorem consumeProviderTurn_stopReason (accepted : consumeProviderTurn parse maxBufferedBytes
      { chunks := chunks ++ [.completed reason (some usage)] } = .ok turn) :
    turn.stopReason = normalizeProviderStopReason reason := by
  obtain ⟨-, -, _, taken, finished⟩ := consumeProviderTurn_eq_ok.mp accepted
  obtain ⟨middle, -, -, rfl⟩ := (acceptAll_completed plain).mp taken
  obtain ⟨ending, ended, -, -, rfl⟩ := finish_eq_ok.mp finished
  cases ended
  rfl

end Consume

end Praxis.Agent
