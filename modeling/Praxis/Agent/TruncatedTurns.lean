import Praxis.Agent.EventStreams

/-!
# Truncated turns

A turn must not be taken as complete when the stream ended early or when the Provider stopped at its
token limit. An adapter yields a terminal chunk at the end of every stream whose connection ends
cleanly, and the Anthropic spelling of the limit is not in the table of stop reasons. So truncation
is kept when well-formed events reached the final one and reported a limit in a spelling of the
table (`keepsTruncation_iff`), and not otherwise.
-/

namespace Praxis.Agent

set_option autoImplicit false

open Praxis.Foundations

/-! ## Specification -/

namespace ProviderEvents

variable (events : ProviderEvents)

/-- The stream reached the event that ends a turn. -/
def finished : Prop := ∃ reason, some reason ∈ events.reported

/-- How the Provider spells its token limit. -/
def limitName : String :=
  match events with
  | .anthropic _ => "max_tokens"
  | .openAiCompatible _ _ _ => "length"

def limitReported : Prop := some events.limitName ∈ events.reported

end ProviderEvents

/-- The loop does not take the turn as complete. -/
def HandledAsTruncated (turn : ProviderTurnResult) : Prop :=
  decideTurn turn ≠ .complete ∧ ∀ calls, decideTurn turn ≠ .executeCalls calls

/-- No truncated turn is taken as complete. -/
structure KeepsTruncation (parse : String → Option Json) (maxBufferedBytes : Option Nat)
    (events : ProviderEvents) : Prop where
  cut : ¬ events.finished →
    ∃ error, consumeProviderTurn parse maxBufferedBytes events.stream = .error error
  limit : events.limitReported → ∀ turn,
    consumeProviderTurn parse maxBufferedBytes events.stream = .ok turn →
      turn.stopReason = .maxOutputTokens ∧ HandledAsTruncated turn

/-- The spellings of the limit that the table of stop reasons has. -/
def limitSpellings : List String := ["max_output_tokens", "length"]

theorem handledAsTruncated {turn : ProviderTurnResult} (stopped : turn.stopReason = .maxOutputTokens) :
    HandledAsTruncated turn := by
  unfold HandledAsTruncated decideTurn
  rw [if_pos stopped, if_pos stopped]
  by_cases none : turn.toolCalls = []
  · simp [none]
  · simp [none]

theorem normalize_limit_iff {reason : Option String} :
    normalizeProviderStopReason reason = .maxOutputTokens ↔
      ∃ spelling ∈ limitSpellings, reason = some spelling := by
  constructor
  · intro limit
    unfold normalizeProviderStopReason at limit
    split at limit
    case h_5 => exact ⟨_, List.mem_cons_self, rfl⟩
    case h_6 => exact ⟨_, List.mem_cons_of_mem _ List.mem_cons_self, rfl⟩
    all_goals cases limit
  · rintro ⟨spelling, member, rfl⟩
    rcases List.mem_pair.mp member with rfl | rfl
    · rfl
    · rfl

/-! ## Truncation -/

/-- **Truncation is kept exactly when no well-formed stream hides it**: the stream reached its final
event, and where it reported the limit, what it reported last is a spelling of the table. -/
theorem keepsTruncation_iff (parse : String → Option Json) (maxBufferedBytes : Option Nat)
    (events : ProviderEvents) : KeepsTruncation parse maxBufferedBytes events ↔
      (events.WellFormed parse maxBufferedBytes → events.finished ∧ (events.limitReported →
          ∃ spelling ∈ limitSpellings, events.lastReported = some spelling)) := by
  constructor
  · rintro ⟨cut, limit⟩ wellFormed
    obtain ⟨turn, accepted⟩ := ProviderEvents.accepted_iff.mpr wellFormed
    constructor
    · by_contra unfinished
      obtain ⟨error, rejected⟩ := cut unfinished
      rw [accepted] at rejected
      cases rejected
    · intro reported
      rw [← normalize_limit_iff, ← ProviderEvents.accepted_stopReason accepted]
      exact (limit reported turn accepted).1
  · intro holds
    constructor
    · intro unfinished
      cases result : consumeProviderTurn parse maxBufferedBytes events.stream with
      | error error => exact ⟨error, rfl⟩
      | ok turn =>
        exact absurd (holds (ProviderEvents.accepted_iff.mp ⟨turn, result⟩)).1 unfinished
    · intro reported turn accepted
      have wellFormed := ProviderEvents.accepted_iff.mp ⟨turn, accepted⟩
      have stopped : turn.stopReason = .maxOutputTokens := by
        rw [ProviderEvents.accepted_stopReason accepted, normalize_limit_iff]
        exact (holds wellFormed).2 reported
      exact ⟨stopped, handledAsTruncated stopped⟩

/-! ## Truncated answers -/

/-- An answer that stops at the token limit. -/
def limitedAnswer : ProviderEvents :=
  .anthropic
    [.messageStart {}, .contentBlockStart (some 0) .text,
      .contentBlockDelta (some 0) (.text (some "The first half")), .contentBlockStop (some 0),
      .messageDelta (some "max_tokens") {}]

/-- An answer whose connection closes after the first part of its text. -/
def cutAnswer : ProviderEvents :=
  .openAiCompatible "compatible" id
    [{ choice := some {
        index := 0
        content := some "The first half" } }]

theorem cutAnswer_stream : cutAnswer.stream.chunks =
    [.messageStart, .blockStart .text 0, .blockDelta .text 0 "The first half", .blockEnd .text 0,
      .completed none (some {})] := by
  have closed : ({ startedText := [0] } : OpenAiState).close =
      [.blockEnd .text 0, .completed none (some {})] := by
    rw [OpenAiState.close, List.mergeSort_nil]
    rfl
  change _ :: _ :: _ :: ({ startedText := [0] } : OpenAiState).close = _
  rw [closed]

theorem truncatedAnswers_complete :
    (limitedAnswer.limitReported ∧ ∃ turn,
      consumeProviderTurn (fun _ => none) none limitedAnswer.stream = .ok turn ∧
        turn.stopReason = .unknown ∧ decideTurn turn = .complete) ∧
    (¬ cutAnswer.finished ∧ ∃ turn,
      consumeProviderTurn (fun _ => none) none cutAnswer.stream = .ok turn ∧
        decideTurn turn = .complete) ∧
    ¬ KeepsTruncation (fun _ => none) none limitedAnswer ∧
    ¬ KeepsTruncation (fun _ => none) none cutAnswer := by
  have limited : limitedAnswer.limitReported := List.mem_singleton_self _
  have cut : ¬ cutAnswer.finished := by
    rintro ⟨reason, ⟨⟩⟩
  obtain ⟨turn, accepted, unseen, taken⟩ : ∃ turn,
      consumeProviderTurn (fun _ => none) none limitedAnswer.stream = .ok turn ∧
        turn.stopReason = .unknown ∧ decideTurn turn = .complete := ⟨_, rfl, rfl, rfl⟩
  obtain ⟨half, closed, completed⟩ : ∃ turn,
      consumeProviderTurn (fun _ => none) none cutAnswer.stream = .ok turn ∧
        decideTurn turn = .complete := by
    rw [consumeProviderTurn, cutAnswer_stream]
    exact ⟨_, rfl, rfl⟩
  refine ⟨⟨limited, turn, accepted, unseen, taken⟩, ⟨cut, half, closed, completed⟩,
    fun keeps => ?_, fun keeps => ?_⟩
  · exact (keeps.limit limited turn accepted).2.1 taken
  · obtain ⟨error, rejected⟩ := keeps.cut cut
    rw [closed] at rejected
    cases rejected

end Praxis.Agent
