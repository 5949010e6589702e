import Praxis.Agent.ContextWindow
import Praxis.Foundations.Suffixes

/-!
# What the context window holds

The window is the longest suffix after the included range that fits, less the answers at its start
whose calls were cut off, and its tokens are counted exactly. The omitted messages that no included
range covers are counted too, except where the Provider's own context is included and there is no
checkpoint: then the window has no checkpoint id, and nothing counts as covered
(`selectContextWindow_selects_iff`).
-/

namespace Praxis.Agent

set_option autoImplicit false

open Praxis.Foundations

/-! ## Specification -/

/-- No count is negative. -/
structure TokenizerAdapter.Counts (tokenizer : TokenizerAdapter Int) : Prop where
  text : ∀ value, 0 ≤ tokenizer.countText value
  message : ∀ message, 0 ≤ tokenizer.countMessage message

def ContextWindowInput.includedRange (input : ContextWindowInput) : ContextState → Option (Int × Int)
  | .none => none
  | .semanticCheckpoint =>
    input.checkpoint.map fun checkpoint => (checkpoint.messageStart, checkpoint.messageEnd)
  | .providerNative =>
    input.nativeContext.map fun native => (native.messageStart, native.messageEnd)

def ContextWindowInput.includedTokens (input : ContextWindowInput) : ContextState → Int
  | .none => 0
  | .semanticCheckpoint => (input.checkpoint.map
      (estimateCheckpointReplayTokens input.tokenizer input.promptVariant)).getD 0
  | .providerNative =>
    (input.nativeContext.map (estimateNativeContextReplayTokens input.tokenizer)).getD 0

def inRange (range : Option (Int × Int)) (index : Nat) : Bool :=
  range.any fun bounds => decide (bounds.1 ≤ (index : Int) ∧ (index : Int) < bounds.2)

/-- A suffix starts at or after the end of a range. -/
def StartsAfter (messages : List ProviderMessage) (range : Option (Int × Int)) (start : Nat) :
    Prop :=
  ∀ index, start ≤ index → index < messages.length → ∀ bounds, range = some bounds →
    bounds.2 ≤ index

structure Selects (input : ContextWindowInput) (window : ContextWindow) : Prop where
  suffix : window.includedMessageStart ≤ input.messages.length ∧
    window.messages = input.messages.drop window.includedMessageStart
  after : StartsAfter input.messages (input.includedRange window.report.contextState)
    window.includedMessageStart
  /-- No suffix that fits has more messages left without the answers at its start. -/
  longest : ∀ start, start ≤ input.messages.length →
    StartsAfter input.messages (input.includedRange window.report.contextState) start →
    input.includedTokens window.report.contextState +
        countMessages input.tokenizer (input.messages.drop start) ≤ availableTokens input →
    ((input.messages.drop start).dropWhile (·.isTool)).length ≤ window.messages.length
  noOrphans : ∀ message, window.messages.head? = some message → message.isTool = false
  estimated : window.estimatedTokens = input.includedTokens window.report.contextState +
    countMessages input.tokenizer window.messages
  fits : window.estimatedTokens ≤ availableTokens input
  uncovered : window.report.uncoveredOmittedMessages =
    ((List.range input.messages.length).countP fun index =>
      decide (index < window.includedMessageStart) &&
        !inRange (input.includedRange window.report.contextState) index : Nat)

/-- The Provider's own context fits and stands for messages of the list, and there is no checkpoint
to name. -/
def UnnamedNative (input : ContextWindowInput) : Prop :=
  input.checkpoint = none ∧ ∃ native, input.nativeContext = some native ∧
    estimateNativeContextReplayTokens input.tokenizer native ≤ availableTokens input ∧
    ∃ index < input.messages.length, native.messageStart ≤ index ∧ (index : Int) < native.messageEnd

/-! ## The suffix -/

section Suffix

variable {tokenizer : TokenizerAdapter Int} {available : Int}

theorem takeNewest_eq (older : List ProviderMessage) (suffix : Suffix) :
    takeNewest tokenizer available older suffix =
      { messages := (greedy tokenizer.countMessage available older
          suffix.estimatedTokens).reverse ++ suffix.messages
        estimatedTokens := suffix.estimatedTokens + countMessages tokenizer
          (greedy tokenizer.countMessage available older suffix.estimatedTokens)
        start := suffix.start -
          (greedy tokenizer.countMessage available older suffix.estimatedTokens).length } := by
  induction older generalizing suffix with
  | nil => simp [takeNewest, greedy, countMessages]
  | cons message older ih =>
    rw [takeNewest, greedy]
    split
    case isTrue => simp [countMessages]
    case isFalse =>
      rw [ih]
      simp [countMessages, add_assoc, Nat.sub_sub, Nat.add_comm]

theorem countMessages_nonneg (counts : tokenizer.Counts) (messages : List ProviderMessage) :
    0 ≤ countMessages tokenizer messages := by
  apply List.sum_nonneg
  intro count member
  obtain ⟨message, _, rfl⟩ := List.mem_map.mp member
  exact counts.message message

theorem dropOrphans_eq (counts : tokenizer.Counts) {cost : Int} (nonneg : 0 ≤ cost)
    (messages : List ProviderMessage) (start : Nat) :
    dropOrphans tokenizer messages (cost + countMessages tokenizer messages) start =
      { messages := messages.dropWhile (·.isTool)
        estimatedTokens := cost + countMessages tokenizer (messages.dropWhile (·.isTool))
        start := start + (messages.takeWhile (·.isTool)).length } := by
  induction messages generalizing start with
  | nil => simp [dropOrphans]
  | cons message rest ih =>
    rw [dropOrphans]
    by_cases tool : message.isTool = true
    · have less : max 0 (cost + countMessages tokenizer (message :: rest) -
          tokenizer.countMessage message) = cost + countMessages tokenizer rest := by
        have rest_nonneg := countMessages_nonneg counts rest
        rw [countMessages, List.map_cons, List.sum_cons, ← countMessages, max_eq_right] <;>
          linarith
      rw [if_pos tool, less, ih]
      simp [tool, Nat.add_comm, Nat.add_left_comm]
    · rw [if_neg tool]
      simp [tool]

theorem countMessages_suffix_le (counts : tokenizer.Counts) {shorter longer : List ProviderMessage}
    (inside : shorter <:+ longer) :
    countMessages tokenizer shorter ≤ countMessages tokenizer longer := by
  obtain ⟨front, rfl⟩ := inside
  have front_nonneg := countMessages_nonneg counts front
  rw [countMessages, countMessages, List.map_append, List.sum_append]
  exact le_add_of_nonneg_left front_nonneg

theorem dropWhile_suffix_le {α : Type} {p : α → Bool} {shorter longer : List α}
    (inside : shorter <:+ longer) : (shorter.dropWhile p).length ≤ (longer.dropWhile p).length := by
  obtain ⟨front, rfl⟩ := inside
  rw [List.dropWhile_append]
  split
  · exact Nat.le_refl _
  · have := (List.dropWhile_suffix p (l := shorter)).length_le
    rw [List.length_append]
    omega

end Suffix

section Kept

variable {input : ContextWindowInput} {included : IncludedContext}

/-- The longest suffix behind the included context that fits. -/
def kept (input : ContextWindowInput) (included : IncludedContext) : List ProviderMessage :=
  (greedy input.tokenizer.countMessage (availableTokens input)
    (input.messages.drop included.lowerBound).reverse included.checkpointTokens).reverse

theorem kept_suffix : kept input included <:+ input.messages.drop included.lowerBound := by
  rw [kept, ← List.reverse_prefix, List.reverse_reverse]
  exact greedy_prefix _ _

theorem countMessages_kept : countMessages input.tokenizer (greedy input.tokenizer.countMessage
    (availableTokens input) (input.messages.drop included.lowerBound).reverse
      included.checkpointTokens) = countMessages input.tokenizer (kept input included) := by
  rw [kept, countMessages, countMessages, List.map_reverse, List.sum_reverse]

theorem selectSuffix_eq (counts : input.tokenizer.Counts) (nonneg : 0 ≤ included.checkpointTokens) :
    selectSuffix input included =
      { messages := (kept input included).dropWhile (·.isTool)
        estimatedTokens := included.checkpointTokens +
          countMessages input.tokenizer ((kept input included).dropWhile (·.isTool))
        start := input.messages.length - ((kept input included).dropWhile (·.isTool)).length } := by
  have shorter := (@kept_suffix input included).length_le
  have split : ((kept input included).takeWhile (·.isTool)).length +
      ((kept input included).dropWhile (·.isTool)).length = (kept input included).length := by
    rw [← List.length_append, List.takeWhile_append_dropWhile]
  rw [selectSuffix, takeNewest_eq]
  simp only [List.append_nil, countMessages_kept]
  rw [← kept, dropOrphans_eq counts nonneg]
  rw [List.length_drop] at shorter
  congr 1
  have same : (greedy input.tokenizer.countMessage (availableTokens input)
      (input.messages.drop included.lowerBound).reverse included.checkpointTokens).length =
        (kept input included).length := List.length_reverse.symm
  split
  case isTrue empty =>
    have none : ((kept input included).dropWhile (·.isTool)).length = 0 :=
      List.length_eq_zero_iff.mpr empty
    omega
  case isFalse =>
    dsimp only
    omega

theorem kept_longest (counts : input.tokenizer.Counts) {start : Nat}
    (behind : start < input.messages.length → included.lowerBound ≤ start)
    (fits : included.checkpointTokens +
      countMessages input.tokenizer (input.messages.drop start) ≤ availableTokens input) :
    input.messages.drop start <:+ kept input included := by
  have inside : input.messages.drop start <:+ input.messages.drop included.lowerBound := by
    by_cases late : start < input.messages.length
    · rw [← Nat.add_sub_cancel' (behind late), ← List.drop_drop]
      exact List.drop_suffix _ _
    · rw [List.drop_eq_nil_of_le (not_lt.mp late)]
      exact List.nil_suffix
  have room : included.checkpointTokens +
      ((input.messages.drop start).reverse.map input.tokenizer.countMessage).sum ≤
        availableTokens input := by
    rw [List.map_reverse, List.sum_reverse]
    exact fits
  have bound := greedy_longest counts.message (List.reverse_prefix.mpr inside) room
  apply List.suffix_of_suffix_length_le inside kept_suffix
  rw [kept, List.length_reverse]
  rw [List.length_reverse] at bound
  exact bound

end Kept

/-! ## The included context -/

section Included

variable {input : ContextWindowInput}

/-- What the included context says of itself. -/
structure Includes (input : ContextWindowInput) (included : IncludedContext) : Prop where
  tokens : included.checkpointTokens = input.includedTokens included.contextState
  nonneg : 0 ≤ included.checkpointTokens
  fits : included.checkpointTokens ≤ availableTokens input
  bound : ∀ bounds, input.includedRange included.contextState = some bounds →
    included.lowerBound = lowerBoundOf input.messages bounds.2
  unbounded : input.includedRange included.contextState = none → included.lowerBound = 0

theorem estimateNative_nonneg (counts : input.tokenizer.Counts) (native : ProviderNativeContext) :
    0 ≤ estimateNativeContextReplayTokens input.tokenizer native :=
  (counts.text _).trans (le_max_right _ _)

theorem estimateCheckpoint_nonneg (counts : input.tokenizer.Counts)
    (checkpoint : SummaryCheckpoint) :
    0 ≤ estimateCheckpointReplayTokens input.tokenizer input.promptVariant checkpoint := by
  have message := (counts.message
    (checkpointMessage input.promptVariant checkpoint)).trans (le_max_right
      checkpoint.estimatedTokens _)
  exact add_nonneg message (countMessages_nonneg counts _)

theorem availableTokens_nonneg (input : ContextWindowInput) : 0 ≤ availableTokens input :=
  le_max_left _ _

theorem includedContext_includes (counts : input.tokenizer.Counts) :
    Includes input (includedContext input) := by
  unfold includedContext
  simp only
  split
  case h_1 native chosen =>
    obtain ⟨given, fits⟩ := Option.filter_eq_some_iff.mp chosen
    refine ⟨?_, estimateNative_nonneg counts native, of_decide_eq_true fits, ?_, ?_⟩
    · simp [ContextWindowInput.includedTokens, given]
    · intro bounds range
      simp only [ContextWindowInput.includedRange, given, Option.map_some, Option.some.injEq] at range
      rw [← range]
    · intro range
      simp [ContextWindowInput.includedRange, given] at range
  case h_2 checkpoint _ chosen =>
    obtain ⟨given, fits⟩ := Option.filter_eq_some_iff.mp chosen
    refine ⟨?_, estimateCheckpoint_nonneg counts checkpoint, of_decide_eq_true fits, ?_, ?_⟩
    · simp [ContextWindowInput.includedTokens, given]
    · intro bounds range
      simp only [ContextWindowInput.includedRange, given, Option.map_some, Option.some.injEq] at range
      rw [← range]
    · intro range
      simp [ContextWindowInput.includedRange, given] at range
  case h_3 unfit _ =>
    exact ⟨rfl, le_refl _, availableTokens_nonneg input, nofun, fun _ => rfl⟩

end Included

theorem overlapLength_le (start : Nat) (messageStart messageEnd : Int) :
    overlapLength 0 start messageStart messageEnd ≤ start := by
  unfold overlapLength
  omega

theorem countP_outside (start : Nat) (bounds : Int × Int) (count : Nat) :
    (((List.range count).countP fun index =>
      decide (index < start) && !inRange (some bounds) index : Nat) : Int) =
      (min count start : Nat) - overlapLength 0 (min count start : Nat) bounds.1 bounds.2 := by
  induction count with
  | zero =>
    simp only [List.range_zero, List.countP_nil, overlapLength]
    omega
  | succ count ih =>
    rw [List.range_succ, List.countP_append, Nat.cast_add, ih]
    simp only [List.countP_singleton, inRange, Option.any_some, Bool.and_eq_true,
      decide_eq_true_eq, Bool.not_eq_true', decide_eq_false_iff_not, overlapLength]
    split <;> omega

theorem countP_before (start count : Nat) :
    (List.range count).countP (fun index => decide (index < start)) = min count start := by
  induction count with
  | zero => simp
  | succ count ih =>
    rw [List.range_succ, List.countP_append, ih]
    simp only [List.countP_singleton, decide_eq_true_eq]
    split <;> omega

/-! ## The window -/

section Window

variable {input : ContextWindowInput} {included : IncludedContext}

theorem startsAfter_iff (includes : Includes input included)
    {start : Nat} : StartsAfter input.messages (input.includedRange included.contextState) start ↔
      (start < input.messages.length → included.lowerBound ≤ start) := by
  cases range : input.includedRange included.contextState with
  | none =>
    rw [includes.unbounded range]
    exact iff_of_true nofun fun _ => Nat.zero_le start
  | some bounds =>
    have bound := includes.bound bounds range
    rw [lowerBoundOf] at bound
    constructor
    · intro after inside
      have := after start (Nat.le_refl start) inside bounds rfl
      omega
    · intro behind index later inside other same
      obtain rfl := Option.some.inj same
      have := behind (Nat.lt_of_le_of_lt later inside)
      omega

theorem start_ge (includes : Includes input included) :
    included.lowerBound ≤
      input.messages.length - ((kept input included).dropWhile (·.isTool)).length := by
  have shorter := (@kept_suffix input included).length_le
  have less := (List.dropWhile_suffix (·.isTool) (l := kept input included)).length_le
  have bounded : included.lowerBound ≤ input.messages.length := by
    cases range : input.includedRange included.contextState with
    | none =>
      rw [includes.unbounded range]
      exact Nat.zero_le _
    | some bounds =>
      rw [includes.bound bounds range]
      exact Nat.min_le_left _ _
  rw [List.length_drop] at shorter
  omega

/-- The omitted messages that no included range covers are counted exactly, except those before the
end of the Provider's own context without a checkpoint. -/
theorem uncovered_iff {start : Nat} (inside : start ≤ input.messages.length)
    (behind : (includedContext input).lowerBound ≤ start) :
    (max 0 ((start : Int) - coveredOmitted input (includedContext input) start) =
      ((List.range input.messages.length).countP fun index => decide (index < start) &&
        !inRange (input.includedRange (includedContext input).contextState) index : Nat)) ↔
      ¬ UnnamedNative input := by
  have all : min input.messages.length start = start := Nat.min_eq_right inside
  unfold includedContext at behind ⊢
  simp only at behind ⊢
  split at behind
  case h_1 native chosen =>
    obtain ⟨given, fits⟩ := Option.filter_eq_some_iff.mp chosen
    simp only [ContextWindowInput.includedRange, given, Option.map_some, countP_outside, all,
      coveredOmitted, Option.some_or]
    simp only [lowerBoundOf] at behind
    cases named : input.checkpoint with
    | some checkpoint =>
      have less := overlapLength_le start native.messageStart native.messageEnd
      refine iff_of_true ?_ fun unnamed => ?_
      · simp only [Option.map_some]
        omega
      · rw [unnamed.1] at named
        cases named
    | none =>
      simp only [Option.map_none]
      constructor
      · rintro same ⟨_, other, also, _, index, before, after, less⟩
        obtain rfl := Option.mem_unique given also
        unfold overlapLength at same
        omega
      · intro outside
        have nowhere : overlapLength 0 start native.messageStart native.messageEnd = 0 := by
          by_contra some
          refine outside ⟨named, native, given, of_decide_eq_true fits,
            (max 0 native.messageStart).toNat, ?_⟩
          unfold overlapLength at some
          omega
        rw [nowhere]
        omega
  case h_2 checkpoint _ chosen =>
    obtain ⟨given, fits⟩ := Option.filter_eq_some_iff.mp chosen
    simp only [ContextWindowInput.includedRange, given, Option.map_some, countP_outside, all,
      coveredOmitted, Option.map_none, Option.none_or]
    have less := overlapLength_le start checkpoint.messageStart checkpoint.messageEnd
    refine iff_of_true (by omega) fun unnamed => ?_
    rw [unnamed.1] at given
    cases given
  case h_3 unfit _ =>
    simp only [ContextWindowInput.includedRange, coveredOmitted, inRange, Option.any_none,
      Bool.not_false, Bool.and_true, countP_before, all]
    refine iff_of_true (by omega) fun ⟨_, native, given, fits, _⟩ => ?_
    rw [given, Option.filter_some, if_pos (decide_eq_true fits)] at unfit
    cases unfit

end Window

/-- **The context window**: with counts that are not negative, the window is the longest suffix that
fits behind the included context, counted exactly, and its uncovered messages are counted exactly
unless the Provider's own context is included without a checkpoint and covers a message. -/
theorem selectContextWindow_selects_iff (input : ContextWindowInput)
    (counts : input.tokenizer.Counts) :
    Selects input (selectContextWindow input) ↔ ¬ UnnamedNative input := by
  have includes := includedContext_includes counts
  have suffix := selectSuffix_eq counts includes.nonneg
  have selected : (selectContextWindow input).messages =
      (kept input (includedContext input)).dropWhile (·.isTool) := congrArg (·.messages) suffix
  have start : (selectContextWindow input).includedMessageStart = input.messages.length -
      ((kept input (includedContext input)).dropWhile (·.isTool)).length :=
    congrArg (·.start) suffix
  have tokens : (selectContextWindow input).estimatedTokens =
      (includedContext input).checkpointTokens + countMessages input.tokenizer
        ((kept input (includedContext input)).dropWhile (·.isTool)) :=
    congrArg (·.estimatedTokens) suffix
  have inside : (selectContextWindow input).includedMessageStart ≤ input.messages.length := by
    rw [start]
    exact Nat.sub_le _ _
  have behind := start_ge includes
  rw [← start] at behind
  rw [← uncovered_iff inside behind]
  constructor
  · exact fun selects => selects.uncovered
  · intro uncovered
    refine ⟨⟨inside, ?_⟩, (startsAfter_iff includes).mpr fun _ => behind, ?_, ?_, ?_, ?_, uncovered⟩
    · rw [selected, start]
      exact List.suffix_iff_eq_drop.mp ((List.dropWhile_suffix _).trans
        (kept_suffix.trans (List.drop_suffix _ _)))
    · intro other _ after fits
      rw [selected]
      apply dropWhile_suffix_le
      refine kept_longest counts ((startsAfter_iff includes).mp after) ?_
      rw [includes.tokens]
      exact fits
    · intro message first
      rw [selected] at first
      have orphan := List.head?_dropWhile_not (·.isTool) (kept input (includedContext input))
      rw [first] at orphan
      simpa using orphan
    · rw [tokens, selected, includes.tokens]
      rfl
    · have room : (includedContext input).checkpointTokens +
          countMessages input.tokenizer (kept input (includedContext input)) ≤
            availableTokens input := by
        rw [← countMessages_kept]
        exact greedy_fits _ _ includes.fits
      have less := countMessages_suffix_le counts
        (List.dropWhile_suffix (·.isTool) (l := kept input (includedContext input)))
      rw [tokens]
      linarith

/-! ## Two inputs -/

/-- A tokenizer that counts one for everything. -/
def unitTokenizer : TokenizerAdapter Int where
  id := "unit"
  countText _ := 1
  countMessage _ := 1

theorem unitTokenizer_counts : unitTokenizer.Counts where
  text _ := zero_le_one
  message _ := zero_le_one

/-- The Provider's own context for the first of two messages. -/
def nativeInput (checkpoint : Option SummaryCheckpoint) : ContextWindowInput where
  messages := [.user (.text "first"), .user (.text "second")]
  checkpoint := checkpoint
  nativeContext := some
    { items := [.obj []]
      messageStart := 0
      messageEnd := 1
      estimatedTokens := 1 }
  tokenizer := unitTokenizer
  maxTokens := some 4

def firstCheckpoint : SummaryCheckpoint where
  id := "checkpoint-1"
  messageStart := 0
  messageEnd := 1
  content := "first"
  digest := "sha256:0"
  estimatedTokens := 1

theorem nativeInput_selects : Selects (nativeInput (some firstCheckpoint))
    (selectContextWindow (nativeInput (some firstCheckpoint))) :=
  (selectContextWindow_selects_iff (nativeInput (some firstCheckpoint)) unitTokenizer_counts).mpr
    fun unnamed => nomatch unnamed.1

theorem nativeInput_uncovered : (nativeInput none).tokenizer.Counts ∧
    ¬ Selects (nativeInput none) (selectContextWindow (nativeInput none)) := by
  refine ⟨unitTokenizer_counts, fun selects => ?_⟩
  have reported : (selectContextWindow (nativeInput none)).report.uncoveredOmittedMessages = 1 := by
    decide +kernel
  have uncovered : ((List.range (nativeInput none).messages.length).countP fun index =>
      decide (index < (selectContextWindow (nativeInput none)).includedMessageStart) &&
        !inRange ((nativeInput none).includedRange
          (selectContextWindow (nativeInput none)).report.contextState) index) = 0 := by
    decide +kernel
  have claimed := selects.uncovered
  rw [reported, uncovered] at claimed
  cases claimed

end Praxis.Agent
