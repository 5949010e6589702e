import Praxis.Agent.ContextWindow
import Praxis.Agent.PairedCalls

/-!
# Where a conversation is cut for compaction

`stableCompactionBoundaries` runs over the messages once and keeps the calls of one assistant
message that wait for their results. It finds exactly the positions at which no call is cut off from
a result if the waiting calls are never stale (`Steady`): a batch left open keeps later user
messages from being boundaries, and the result that ends its waiting is not counted for its own
batch.
-/

namespace Praxis.Memory

set_option autoImplicit false

open Praxis.Agent

/-! ## The boundaries of the source -/

def assistantToolCallIds (content : ProviderContent) (toolCalls : List ProviderToolCall) :
    List String :=
  (toolCalls.map (·.id) ++ content.callIds).dedup

def scanBoundaries : Nat → Option (List String) → List ProviderMessage → List Nat
  | _, _, [] => []
  | index, pending, .user _ _ _ _ :: rest =>
    if 0 < index ∧ pending = none then index :: scanBoundaries (index + 1) pending rest
    else scanBoundaries (index + 1) pending rest
  | index, pending, .assistant content toolCalls :: rest =>
    let toolCallIds := assistantToolCallIds content toolCalls
    scanBoundaries (index + 1)
      (if toolCallIds ≠ [] ∧ pending = none then some toolCallIds else pending) rest
  | index, none, .tool _ _ _ _ :: rest => scanBoundaries (index + 1) none rest
  | index, some pending, .tool toolCallId _ _ _ :: rest =>
    if toolCallId ∉ pending then scanBoundaries (index + 1) none rest
    else if pending.erase toolCallId = [] then (index + 1) :: scanBoundaries (index + 1) none rest
    else scanBoundaries (index + 1) (some (pending.erase toolCallId)) rest

def stableCompactionBoundaries (messages : List ProviderMessage) : List Nat :=
  (0 :: scanBoundaries 0 none messages).dedup.mergeSort

inductive CompactionReason where
  | manual
  | threshold
  | overflow
deriving DecidableEq

def compactionCutPoint (messages : List ProviderMessage) (tokenizer : TokenizerAdapter ℚ)
    (keepRecentTokens : ℚ) (retainRecentMessages : Option Nat)
    (reason : Option CompactionReason) : Nat :=
  let boundaries := stableCompactionBoundaries messages
  if messages.isEmpty ∨ boundaries.length = 1 then 0
  else if reason = some .manual then
    ((boundaries.filter (· < messages.length)).getLast?).getD 0
  else
    match retainRecentMessages with
    | some retained =>
      ((boundaries.tail.takeWhile (· ≤ messages.length - retained)).getLast?).getD 0
    | none =>
      (boundaries.reverse.find? fun boundary =>
        decide (keepRecentTokens ≤
          ((messages.drop boundary).map tokenizer.countMessage).sum)).getD 0

/-! ## Safe boundaries -/

/-- Each tool message follows the assistant message of its call with only tool messages in between;
`calls` are those that the first messages may answer. -/
def Following : List String → List ProviderMessage → Prop
  | _, [] => True
  | _, .user _ _ _ _ :: rest => Following [] rest
  | _, .assistant content toolCalls :: rest =>
    Following (assistantToolCallIds content toolCalls) rest
  | calls, .tool toolCallId _ _ _ :: rest => toolCallId ∈ calls ∧ Following calls rest

/-- The calls of an assistant message, and those that the tool messages behind it answer. -/
structure Batch where
  calls : List String := []
  answered : List String := []

def Batch.after (batch : Batch) : ProviderMessage → Batch
  | .user _ _ _ _ => {}
  | .assistant content toolCalls => { calls := assistantToolCallIds content toolCalls }
  | .tool toolCallId _ _ _ => { batch with answered := toolCallId :: batch.answered }

def Batch.Full (batch : Batch) : Prop := batch.calls ≠ [] ∧ batch.calls ⊆ batch.answered

def startsWithUser : List ProviderMessage → Bool
  | .user _ _ _ _ :: _ => true
  | _ => false

/-- No message from `position` on answers an earlier call, and there a user message stands or a
fully answered batch ends. -/
def SafeFrom (batch : Batch) (messages : List ProviderMessage) (position : Nat) : Prop :=
  position ≤ messages.length ∧ Following [] (messages.drop position) ∧
    (startsWithUser (messages.drop position) = true ∨
      ((messages.take position).foldl Batch.after batch).Full)

/-- The boundaries are the start and the safe positions, and the cut is one of them. -/
structure CutsSafely (messages : List ProviderMessage) : Prop where
  boundaries : ∀ position, position ∈ stableCompactionBoundaries messages ↔
    position = 0 ∨ SafeFrom {} messages position
  cut : ∀ tokenizer keepRecentTokens retainRecentMessages reason,
    compactionCutPoint messages tokenizer keepRecentTokens retainRecentMessages reason = 0 ∨
      SafeFrom {} messages
        (compactionCutPoint messages tokenizer keepRecentTokens retainRecentMessages reason)

/-- The results at the start. -/
def results : List ProviderMessage → List String
  | .tool toolCallId _ _ _ :: rest => toolCallId :: results rest
  | _ => []

/-- The messages behind the results at the start. -/
def behind : List ProviderMessage → List ProviderMessage
  | .tool _ _ _ _ :: rest => behind rest
  | messages => messages

/-- What is left to wait for: a result that is not waited for ends the waiting, as the last one
does. -/
def waiting : List String → List String → Option (List String)
  | calls, [] => some calls
  | calls, result :: rest =>
    if result ∈ calls ∧ calls.erase result ≠ [] then waiting (calls.erase result) rest else none

/-- User messages come while nothing is waited for, and the results of a batch are all that is
waited for just where they answer all of its calls. -/
def Steady : Option (List String) → List ProviderMessage → Prop
  | _, [] => True
  | pending, .user _ _ _ _ :: rest => pending = none ∧ Steady pending rest
  | pending, .tool _ _ _ _ :: rest => Steady pending rest
  | pending, .assistant content toolCalls :: rest =>
    let calls := assistantToolCallIds content toolCalls
    let awaited := pending.getD calls
    if calls = [] then Steady pending rest
    else
      (∀ some, some <+: results rest → some.Perm awaited → some = results rest) ∧
        (startsWithUser (behind rest) = true ∨
          ((results rest).Perm awaited ↔ calls ⊆ results rest)) ∧
        Steady (waiting awaited (results rest)) rest

/-! ## Scanning a batch -/

variable {messages rest : List ProviderMessage} {pending : Option (List String)} {index : Nat}
  {position : Nat} {batch : Batch}

theorem mem_stableCompactionBoundaries :
    position ∈ stableCompactionBoundaries messages ↔
      position = 0 ∨ position ∈ scanBoundaries 0 none messages := by
  rw [stableCompactionBoundaries, List.mem_mergeSort, List.mem_dedup, List.mem_cons]

theorem le_of_mem_scan (found : position ∈ scanBoundaries index pending messages) :
    index ≤ position := by
  fun_induction scanBoundaries index pending messages <;> grind

theorem start_mem_scan (positive : 0 < index) :
    index ∈ scanBoundaries index pending messages ↔
      startsWithUser messages = true ∧ pending = none := by
  have later : ∀ {pending rest}, index ∉ scanBoundaries (index + 1) pending rest :=
    fun found => absurd (le_of_mem_scan found) (by omega)
  unfold scanBoundaries
  split <;> simp [startsWithUser, later]
  all_goals split_ifs <;> simp_all

theorem scan_behind (messages : List ProviderMessage) (index : Nat) :
    scanBoundaries index none messages =
      scanBoundaries (index + (results messages).length) none (behind messages) := by
  induction messages generalizing index with
  | nil => rfl
  | cons message rest ih =>
    cases message with
    | user => rfl
    | assistant => rfl
    | tool toolCallId =>
      rw [scanBoundaries, ih, results, behind, List.length_cons, Nat.add_right_comm, Nat.add_assoc]

variable {awaited calls : List String} {message : ProviderMessage}

theorem mem_scan_results (messages : List ProviderMessage) (nonempty : awaited ≠ [])
    (index position : Nat) : position ∈ scanBoundaries index (some awaited) messages ↔
      (∃ front, front <+: results messages ∧ front.Perm awaited ∧ position = index + front.length) ∨
      position ∈ scanBoundaries (index + (results messages).length)
        (waiting awaited (results messages)) (behind messages) := by
  have alone : ∀ {index : Nat} {awaited : List String}, awaited ≠ [] → ¬∃ front, front <+: [] ∧
      front.Perm awaited ∧ position = index + front.length := by
    rintro index awaited nonempty ⟨front, starts, same, -⟩
    rw [List.prefix_nil.mp starts] at same
    exact nonempty same.symm.eq_nil
  induction messages generalizing index awaited with
  | nil => exact (or_iff_right (alone nonempty)).symm
  | cons message rest ih =>
    cases message with
    | user => exact (or_iff_right (alone nonempty)).symm
    | assistant => exact (or_iff_right (alone nonempty)).symm
    | tool result =>
      have shorter : (∃ front, front <+: result :: results rest ∧ front.Perm awaited ∧
          position = index + front.length) ↔ result ∈ awaited ∧ ∃ front, front <+: results rest ∧
            front.Perm (awaited.erase result) ∧ position = index + 1 + front.length := by
        constructor
        · rintro ⟨front, starts, same, rfl⟩
          rcases List.prefix_cons_iff.mp starts with rfl | ⟨others, rfl, front⟩
          · exact absurd same.symm.eq_nil nonempty
          · obtain ⟨member, same⟩ := List.cons_perm_iff_perm_erase.mp same
            exact ⟨member, others, front, same, by simp [Nat.add_comm, Nat.add_left_comm]⟩
        · rintro ⟨member, front, starts, same, rfl⟩
          exact ⟨result :: front, (List.prefix_cons_inj _).mpr starts,
            List.cons_perm_iff_perm_erase.mpr ⟨member, same⟩,
            by simp [Nat.add_comm, Nat.add_left_comm]⟩
      have length : index + (results rest).length.succ = index + 1 + (results rest).length := by
        omega
      rw [scanBoundaries, results, shorter, waiting, behind, List.length_cons, length]
      by_cases member : result ∈ awaited
      · by_cases last : awaited.erase result = []
        · simp [member, last, ← scan_behind]
        · simp [member, last, ih last]
      · simp [member, ← scan_behind]

theorem waiting_of_perm {awaited found : List String} (nonempty : awaited ≠ [])
    (same : found.Perm awaited) : waiting awaited found = none := by
  induction found generalizing awaited with
  | nil => exact absurd same.symm.eq_nil nonempty
  | cons result rest ih =>
    obtain ⟨member, same⟩ := List.cons_perm_iff_perm_erase.mp same
    rw [waiting]
    split_ifs with others
    · exact ih others.2 same
    · rfl

theorem waiting_ne_nil (nonempty : awaited ≠ []) (found : List String) :
    waiting awaited found ≠ some [] := by
  fun_induction waiting awaited found <;> simp_all

/-! ## Safe positions of a batch -/

theorem safeFrom_zero : SafeFrom batch messages 0 ↔
    Following [] messages ∧ (startsWithUser messages = true ∨ batch.Full) := by
  simp [SafeFrom]

theorem safeFrom_succ :
    SafeFrom batch (message :: rest) (position + 1) ↔
      SafeFrom (batch.after message) rest position := by
  simp [SafeFrom]

theorem not_full : ¬({} : Batch).Full := fun full => full.1 rfl

theorem safeFrom_later (following : Following [] messages)
    (later : 0 < position) : SafeFrom batch messages position ↔ SafeFrom {} messages position := by
  obtain ⟨position, rfl⟩ := Nat.exists_eq_succ_of_ne_zero (Nat.ne_of_gt later)
  cases messages with
  | nil => simp [SafeFrom]
  | cons message rest =>
    cases message with
    | user => simp only [Nat.succ_eq_add_one, safeFrom_succ, Batch.after]
    | assistant => simp only [Nat.succ_eq_add_one, safeFrom_succ, Batch.after]
    | tool => exact absurd following.1 (List.not_mem_nil)

theorem Following.behind (following : Following calls messages) :
    Following [] (behind messages) := by
  induction messages generalizing calls with
  | nil => trivial
  | cons message rest ih =>
    cases message with
    | user => exact following
    | assistant => exact following
    | tool => exact ih following.2

theorem not_safeFrom_results (messages : List ProviderMessage) (batch : Batch)
    (inside : position < (results messages).length) : ¬SafeFrom batch messages position := by
  induction messages generalizing batch position with
  | nil => exact absurd inside (Nat.not_lt_zero _)
  | cons message rest ih =>
    cases message with
    | user => exact absurd inside (Nat.not_lt_zero _)
    | assistant => exact absurd inside (Nat.not_lt_zero _)
    | tool =>
      cases position with
      | zero => exact fun safe => List.not_mem_nil (safeFrom_zero.mp safe).1.1
      | succ position =>
        rw [safeFrom_succ]
        exact ih _ (Nat.lt_of_succ_lt_succ inside)

theorem safeFrom_behind (messages : List ProviderMessage) (batch : Batch) (position : Nat) :
    SafeFrom batch messages ((results messages).length + position) ↔
      SafeFrom { batch with answered := (results messages).reverse ++ batch.answered }
        (behind messages) position := by
  induction messages generalizing batch with
  | nil => simp [results, behind]
  | cons message rest ih =>
    cases message with
    | user => simp [results, behind]
    | assistant => simp [results, behind]
    | tool =>
      rw [results, List.length_cons, Nat.add_right_comm, safeFrom_succ, ih, behind]
      simp [Batch.after]

theorem steady_behind (messages : List ProviderMessage) :
    Steady pending (behind messages) ↔ Steady pending messages := by
  induction messages with
  | nil => rfl
  | cons message rest ih => cases message <;> first | rfl | exact ih

theorem length_behind_le (messages : List ProviderMessage) :
    (behind messages).length ≤ messages.length := by
  induction messages with
  | nil => rfl
  | cons message rest ih => cases message <;> simp [behind]; omega

/-! ## The scan is exact for steady conversations -/

def FindsSafe (index : Nat) (pending : Option (List String)) (messages : List ProviderMessage) :
    Prop :=
  ∀ position, index + position ≠ 0 →
    (index + position ∈ scanBoundaries index pending messages ↔ SafeFrom {} messages position)

theorem findsSafe_batch (nonempty : calls ≠ []) (some_awaited : awaited ≠ [])
    (following : Following calls rest) (index : Nat) :
    (∀ position, index + 1 + position ∈ scanBoundaries (index + 1) (some awaited) rest ↔
        SafeFrom { calls } rest position) ↔
      (∀ front, front <+: results rest → front.Perm awaited → front = results rest) ∧
        (startsWithUser (behind rest) = true ∨
          ((results rest).Perm awaited ↔ calls ⊆ results rest)) ∧
        FindsSafe (index + 1 + (results rest).length) (waiting awaited (results rest))
          (behind rest) := by
  have inner : ∀ position < (results rest).length,
      (index + 1 + position ∈ scanBoundaries (index + 1) (some awaited) rest ↔
        ∃ front, front <+: results rest ∧ front.Perm awaited ∧ position = front.length) := by
    intro position inside
    rw [mem_scan_results rest some_awaited, or_iff_left fun found => by
      have := le_of_mem_scan found
      omega]
    simp only [Nat.add_left_cancel_iff]
  have outer : ∀ position, index + 1 + ((results rest).length + (position + 1)) ∈
      scanBoundaries (index + 1) (some awaited) rest ↔
        index + 1 + (results rest).length + (position + 1) ∈
          scanBoundaries (index + 1 + (results rest).length) (waiting awaited (results rest))
            (behind rest) := by
    intro position
    rw [mem_scan_results rest some_awaited, or_iff_right, Nat.add_assoc (index + 1)]
    rintro ⟨front, starts, -, same⟩
    have := starts.length_le
    omega
  have edge : index + 1 + (results rest).length ∈
      scanBoundaries (index + 1) (some awaited) rest ↔
        (results rest).Perm awaited ∨
          startsWithUser (behind rest) = true ∧ waiting awaited (results rest) = none := by
    rw [mem_scan_results rest some_awaited, start_mem_scan (by omega)]
    refine or_congr_left ⟨?_, fun same => ⟨_, List.prefix_rfl, same, rfl⟩⟩
    rintro ⟨front, starts, same, length⟩
    rwa [← starts.eq_of_length (by omega)]
  have safeEdge : SafeFrom { calls } rest (results rest).length ↔
      startsWithUser (behind rest) = true ∨ calls ⊆ results rest := by
    rw [← Nat.add_zero (results rest).length, safeFrom_behind, safeFrom_zero]
    simp [following.behind, Batch.Full, nonempty, List.subset_def]
  have safeOuter : ∀ position, SafeFrom { calls } rest ((results rest).length + (position + 1)) ↔
      SafeFrom {} (behind rest) (position + 1) := fun position =>
    (safeFrom_behind rest _ _).trans (safeFrom_later following.behind position.succ_pos)
  constructor
  · intro exact
    refine ⟨fun front starts same => ?_, ?_, fun position _ => ?_⟩
    · refine starts.eq_of_length (le_antisymm starts.length_le (not_lt.mp fun shorter => ?_))
      exact not_safeFrom_results rest _ shorter
        ((exact _).mp ((inner _ shorter).mpr ⟨front, starts, same, rfl⟩))
    · have both := edge.symm.trans ((exact _).trans safeEdge)
      grind
    · cases position with
      | zero =>
        refine (start_mem_scan (by omega)).trans ?_
        rw [safeFrom_zero, or_iff_left not_full]
        have both := edge.symm.trans ((exact _).trans safeEdge)
        have := @waiting_of_perm awaited (results rest) some_awaited
        grind [following.behind]
      | succ position => exact (outer position).symm.trans ((exact _).trans (safeOuter position))
  · rintro ⟨whole, ends, finds⟩ position
    rcases lt_trichotomy position (results rest).length with inside | rfl | outside
    · refine (iff_false_right (not_safeFrom_results rest _ inside)).mpr fun found => ?_
      obtain ⟨front, starts, same, rfl⟩ := (inner _ inside).mp found
      exact absurd inside (by rw [whole front starts same]; exact lt_irrefl _)
    · have start := (start_mem_scan (by omega)).symm.trans (finds 0 (by omega))
      rw [safeFrom_zero, or_iff_left not_full] at start
      rw [edge, safeEdge]
      grind [following.behind]
    · obtain ⟨further, rfl⟩ := Nat.exists_eq_add_of_lt outside
      exact (outer further).trans ((finds _ (by omega)).trans (safeOuter further).symm)

theorem findsSafe_cons : FindsSafe index pending (message :: rest) ↔
    (index ≠ 0 → (index ∈ scanBoundaries index pending (message :: rest) ↔
      SafeFrom {} (message :: rest) 0)) ∧
    ∀ position, index + 1 + position ∈ scanBoundaries index pending (message :: rest) ↔
      SafeFrom (({} : Batch).after message) rest position := by
  constructor
  · intro finds
    refine ⟨fun started => finds 0 (by omega), fun position => ?_⟩
    rw [← safeFrom_succ, Nat.add_right_comm]
    exact finds (position + 1) (by omega)
  · rintro ⟨first, others⟩ position started
    cases position with
    | zero => exact first (by omega)
    | succ position =>
      rw [safeFrom_succ, ← others, Nat.add_right_comm]
      rfl

theorem findsSafe_iff_steady (messages : List ProviderMessage) (index : Nat)
    (pending : Option (List String)) (following : Following [] messages)
    (fresh : index = 0 → pending = none) (open? : pending ≠ some []) :
    FindsSafe index pending messages ↔ Steady pending messages := by
  match messages with
  | [] =>
    refine iff_of_true (fun position _ => ?_) trivial
    simp [scanBoundaries, SafeFrom, startsWithUser, Batch.Full]
  | .tool _ _ _ _ :: _ => exact absurd following.1 (List.not_mem_nil)
  | .user content intent trust skillInvocation :: rest =>
    have later := findsSafe_iff_steady rest (index + 1) pending following (by omega) open?
    rw [Steady, ← later, findsSafe_cons, scanBoundaries]
    refine and_congr ?_ (forall_congr' fun position => ?_)
    · have safe : SafeFrom {} (.user content intent trust skillInvocation :: rest) 0 :=
        safeFrom_zero.mpr ⟨following, .inl rfl⟩
      refine ⟨fun finds => ?_, fun idle started => iff_of_true ?_ safe⟩
      · by_cases start : index = 0
        · exact fresh start
        · have found := (finds start).mpr safe
          split_ifs at found with adds
          · exact adds.2
          · exact absurd (le_of_mem_scan found) (by omega)
      · rw [if_pos ⟨Nat.pos_of_ne_zero started, idle⟩]
        exact List.mem_cons_self
    · rw [imp_iff_right (by omega)]
      split_ifs
      · rw [List.mem_cons, or_iff_right (by omega)]
        rfl
      · rfl
  | .assistant content toolCalls :: rest =>
    have quiet : index ∈ scanBoundaries index pending (.assistant content toolCalls :: rest) ↔
        SafeFrom {} (.assistant content toolCalls :: rest) 0 := by
      refine iff_of_false (fun found => ?_) fun safe => ?_
      · rw [scanBoundaries] at found
        exact absurd (le_of_mem_scan found) (by omega)
      · exact (safeFrom_zero.mp safe).2.elim (by simp [startsWithUser]) not_full
    rw [findsSafe_cons, and_iff_right fun _ => quiet, Steady, scanBoundaries]
    change Following (assistantToolCallIds content toolCalls) rest at following
    dsimp only [Batch.after]
    by_cases none_called : assistantToolCallIds content toolCalls = []
    · rw [none_called] at following ⊢
      rw [if_pos rfl, if_neg fun calls => calls.1 rfl,
        ← findsSafe_iff_steady rest (index + 1) pending following (by omega) open?]
      exact forall_congr' fun position => (imp_iff_right (by omega)).symm
    · have awaits : (if assistantToolCallIds content toolCalls ≠ [] ∧ pending = none then
          some (assistantToolCallIds content toolCalls) else pending) =
            some (pending.getD (assistantToolCallIds content toolCalls)) := by
        cases pending <;> simp [none_called]
      have awaited : pending.getD (assistantToolCallIds content toolCalls) ≠ [] := by
        cases pending with
        | none => exact none_called
        | some calls => exact fun empty => open? (congrArg some empty)
      rw [awaits, if_neg none_called, findsSafe_batch none_called awaited following,
        findsSafe_iff_steady (behind rest) _ _ following.behind (by omega)
          (waiting_ne_nil awaited _), steady_behind]
termination_by messages.length
decreasing_by
  all_goals simp only [List.length_cons]
  all_goals have := length_behind_le rest
  all_goals omega

/-! ## The cut -/

theorem compactionCutPoint_mem (messages : List ProviderMessage) (tokenizer : TokenizerAdapter ℚ)
    (keepRecentTokens : ℚ) (retainRecentMessages : Option Nat) (reason : Option CompactionReason) :
    let cut := compactionCutPoint messages tokenizer keepRecentTokens retainRecentMessages reason
    cut = 0 ∨ cut ∈ stableCompactionBoundaries messages := by
  have chosen : ∀ {found : Option Nat}, (∀ boundary ∈ found,
      boundary ∈ stableCompactionBoundaries messages) →
        found.getD 0 = 0 ∨ found.getD 0 ∈ stableCompactionBoundaries messages := by
    intro found listed
    cases found with
    | none => exact .inl rfl
    | some boundary => exact .inr (listed boundary rfl)
  dsimp only [compactionCutPoint]
  split_ifs
  · exact .inl rfl
  · exact chosen fun boundary last => List.mem_of_mem_filter (List.mem_of_mem_getLast? last)
  · split
    · exact chosen fun boundary last => List.mem_of_mem_tail
        ((List.takeWhile_sublist _).mem (List.mem_of_mem_getLast? last))
    · exact chosen fun boundary found => List.mem_reverse.mp (List.mem_of_find?_eq_some found)

theorem cutsSafely_iff_steady (following : Following [] messages) :
    CutsSafely messages ↔ Steady none messages := by
  rw [← findsSafe_iff_steady messages 0 none following (fun _ => rfl) (by simp)]
  constructor
  · intro safely position started
    have both := mem_stableCompactionBoundaries.symm.trans (safely.boundaries (0 + position))
    rw [or_iff_right started, or_iff_right started] at both
    rwa [Nat.zero_add] at both ⊢
  · intro finds
    have exact : ∀ position, position ∈ stableCompactionBoundaries messages ↔
        position = 0 ∨ SafeFrom {} messages position := by
      intro position
      rw [mem_stableCompactionBoundaries]
      by_cases start : position = 0
      · simp [start]
      · rw [or_iff_right start, or_iff_right start]
        simpa using finds position (by omega)
    refine ⟨exact, fun tokenizer keepRecentTokens retainRecentMessages reason => ?_⟩
    rcases compactionCutPoint_mem messages tokenizer keepRecentTokens retainRecentMessages reason
      with start | listed
    · exact .inl start
    · exact (exact _).mp listed

/-- Each call of a batch is answered once, right behind it. -/
def AnsweredOnce : List ProviderMessage → Prop
  | [] => True
  | .user _ _ _ _ :: rest | .tool _ _ _ _ :: rest => AnsweredOnce rest
  | .assistant content toolCalls :: rest =>
    (results rest).Perm (assistantToolCallIds content toolCalls) ∧ AnsweredOnce rest

/-- **A conversation whose batches are answered once is cut safely.** -/
theorem steady_of_answeredOnce (once : AnsweredOnce messages) : Steady none messages := by
  induction messages with
  | nil => trivial
  | cons message rest ih =>
    cases message with
    | user => exact ⟨rfl, ih once⟩
    | tool => exact ih once
    | assistant content toolCalls =>
      obtain ⟨same, once⟩ := once
      rw [Steady]
      split_ifs with none_called
      · exact ih once
      · refine ⟨fun front starts whole => ?_, .inr (iff_of_true same same.symm.subset), ?_⟩
        · exact starts.eq_of_length (whole.length_eq.trans same.length_eq.symm)
        · rw [Option.getD_none, waiting_of_perm none_called same]
          exact ih once

/-- A prompt and the call that the answer to it begins with. -/
def calledTurn : List ProviderMessage :=
  [.user (.text "Read it"), .assistant (.text "") [⟨"call-1", "read", .null⟩]]

def callResult : ProviderMessage := .tool "call-1" "read" (.text "done")

theorem answeredTurn_cut : CutsSafely (calledTurn ++ [callResult, .user (.text "Go on")]) := by
  refine (cutsSafely_iff_steady ?_).mpr ?_
  · simp [calledTurn, callResult, Following, assistantToolCallIds, ProviderContent.callIds]
  · simp [calledTurn, callResult, Steady, assistantToolCallIds, ProviderContent.callIds, results,
      behind, startsWithUser, waiting, List.prefix_cons_iff]

theorem abandonedTurn_uncut :
    (Following [] (calledTurn ++ [.user (.text "Go on")]) ∧
      ¬CutsSafely (calledTurn ++ [.user (.text "Go on")])) ∧
    Following [] (calledTurn ++ [callResult, callResult]) ∧
      ¬CutsSafely (calledTurn ++ [callResult, callResult]) := by
  have calls : assistantToolCallIds (.text "") [⟨"call-1", "read", .null⟩] = ["call-1"] := rfl
  refine ⟨⟨?_, fun safely => ?_⟩, ?_, fun safely => ?_⟩
  · simp [calledTurn, Following]
  · have listed := (safely.boundaries 2).mpr (.inr (by
      simp [SafeFrom, calledTurn, Following, startsWithUser]))
    simp [mem_stableCompactionBoundaries, calledTurn, calls, scanBoundaries] at listed
  · simp [calledTurn, callResult, Following, calls]
  · have safe := (safely.boundaries 3).mp (by
      simp [mem_stableCompactionBoundaries, calledTurn, callResult, calls, scanBoundaries])
    simp [SafeFrom, calledTurn, callResult, Following] at safe

end Praxis.Memory
