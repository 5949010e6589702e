import Praxis.Agent.ToolBatches

/-!
# Paired tool calls

The assistant message of a turn is committed before its calls are executed, so the calls are paired
with their results only when the batch is settled to its end. A run that stops in a batch, a call
that throws and a result that cannot be committed leave calls without answers, and the next run of
the session asks the Provider with them (`stoppedBatch_unpaired`). In every run in which none of
these happens, the calls of every request are paired (`after_paired`).
-/

namespace Praxis.Agent

set_option autoImplicit false

open Praxis.Foundations

/-! ## Specification -/

def ProviderContentBlock.callId : ProviderContentBlock → Option String
  | .toolCall call => some call.id
  | _ => none

def ProviderContent.callIds : ProviderContent → List String
  | .text _ => []
  | .blocks items => items.filterMap ProviderContentBlock.callId

def ProviderMessage.answered : ProviderMessage → Option String
  | .tool toolCallId _ _ _ => some toolCallId
  | _ => none

/-- Every assistant message is followed by the answers to its calls, in their order, and a tool
message stands nowhere else. -/
inductive Paired : List ProviderMessage → Prop where
  | nil : Paired []
  | user {content : ProviderContent} {intent : Option MessageIntent} {trust : Option MessageTrust}
      {skillInvocation : Option Json} {rest : List ProviderMessage} (paired : Paired rest) :
      Paired (.user content intent trust skillInvocation :: rest)
  | assistant {content : ProviderContent} {toolCalls : List ProviderToolCall}
      {answers rest : List ProviderMessage}
      (answered : answers.map (·.answered) = (content.callIds ++ toolCalls.map (·.id)).map some)
      (paired : Paired rest) : Paired (.assistant content toolCalls :: (answers ++ rest))

def Conversation.Answers (session : Conversation) : ConversationEvent → Prop
  | .committed =>
    match session.phase with
    | .committingAssistant _ calls _ _ => session.stopped = false ∨ calls = []
    | .settling _ settled rest _ => session.stopped = false ∨ (settled = [] ∧ rest = [])
    | _ => True
  | .executed results =>
    match session.phase with
    | .executing group _ _ => results.length = group.length →
        session.stopped = false ∧ ∀ result ∈ results, result.isSome = true
    | _ => True
  | .failed =>
    match session.phase with
    | .executing _ _ _ | .settling _ _ _ _ => False
    | _ => True
  | .finished =>
    match session.phase with
    | .executing _ _ _ => session.stopped = false
    | _ => True
  | _ => True

/-- No event of the run ends a batch early. -/
def Conversation.AnswersAll : Conversation → List ConversationEvent → Prop
  | _, [] => True
  | session, event :: rest => session.Answers event ∧ (session.perform event).AnswersAll rest

/-! ## Messages -/

theorem Paired.append {front back : List ProviderMessage} (first : Paired front)
    (second : Paired back) : Paired (front ++ back) := by
  induction first with
  | nil => exact second
  | user _ ih => exact .user ih
  | assistant answered _ ih =>
    rw [List.cons_append, List.append_assoc]
    exact .assistant answered ih

variable {messages : List ProviderMessage} {event : ConversationEvent}
  {calls : List ProviderToolCall} {session : Conversation}

theorem Paired.append_user (paired : Paired messages) (text : String) (intent : MessageIntent) :
    Paired (messages ++ [userMessage text intent]) :=
  paired.append (.user .nil)

theorem Paired.of_assistant {content : ProviderContent}
    (paired : Paired (.assistant content [] :: messages)) :
    ∃ answers rest, messages = answers ++ rest ∧
      answers.map (·.answered) = content.callIds.map some := by
  generalize whole : ProviderMessage.assistant content [] :: messages = all at paired
  cases paired with
  | nil => cases whole
  | user => cases whole
  | assistant answered =>
    obtain ⟨same, rfl⟩ := List.cons.inj whole
    obtain ⟨rfl, rfl⟩ := ProviderMessage.assistant.inj same
    rw [List.map_nil, List.append_nil] at answered
    exact ⟨_, _, rfl, answered⟩

/-- The messages end with an assistant message of which these calls are not answered. -/
def Awaits (messages : List ProviderMessage) (ids : List String) : Prop :=
  ∃ (front answers : List ProviderMessage) (content : ProviderContent) (done : List String),
    Paired front ∧ messages = front ++ .assistant content [] :: answers ∧
      content.callIds = done ++ ids ∧ answers.map (·.answered) = done.map some

theorem Awaits.paired (awaits : Awaits messages []) : Paired messages := by
  obtain ⟨front, answers, content, done, paired, rfl, all, answered⟩ := awaits
  refine paired.append ?_
  have settled : answers.map (·.answered) =
      (content.callIds ++ ([] : List ProviderToolCall).map (·.id)).map some := by
    rw [answered, all, List.append_nil, List.map_nil, List.append_nil]
  simpa using Paired.assistant settled .nil

theorem Paired.awaits (paired : Paired messages) (content : ProviderContent) :
    Awaits (messages ++ [.assistant content []]) content.callIds :=
  ⟨messages, [], content, [], paired, rfl, rfl, rfl⟩

theorem Awaits.answer {outcome : ToolOutcome} {ids : List String}
    (awaits : Awaits messages (outcome.call.id :: ids)) :
    Awaits (messages ++ [Conversation.toolMessage outcome]) ids := by
  obtain ⟨front, answers, content, done, paired, rfl, all, answered⟩ := awaits
  refine ⟨front, answers ++ [Conversation.toolMessage outcome], content, done ++ [outcome.call.id],
    paired, ?_, ?_, ?_⟩
  · rw [List.append_assoc, List.cons_append]
  · rw [all, List.append_assoc, List.singleton_append]
  · rw [List.map_append, List.map_append, answered]
    rfl

/-! ## The calls of a turn -/

def blockCallIds (blocks : List ProviderContentBlock) : List String :=
  blocks.filterMap ProviderContentBlock.callId

theorem replaceCalls_calls {blocks out : List ProviderContentBlock}
    {left : List ProviderToolCall} (replaced : replaceCalls blocks calls = .ok (out, left)) :
    blockCallIds out ++ left.map (·.id) = calls.map (·.id) ∧
      (blockCallIds out).length = (blockCallIds blocks).length := by
  induction blocks generalizing calls out left with
  | nil =>
    obtain ⟨rfl, rfl⟩ : out = [] ∧ left = calls := by
      simpa [replaceCalls, eq_comm] using replaced
    exact ⟨rfl, rfl⟩
  | cons block rest ih =>
    cases block with
    | toolCall replacedCall =>
      cases calls with
      | nil => cases replaced
      | cons call calls =>
        obtain ⟨⟨blocks, others⟩, inner, result⟩ := bind_eq_ok.mp replaced
        obtain ⟨rfl, rfl⟩ := Prod.mk.inj (return_eq_ok.mp result)
        obtain ⟨same, length⟩ := ih inner
        constructor
        · rw [List.map_cons, ← same]
          rfl
        · simpa [blockCallIds, ProviderContentBlock.callId] using length
    | text | reasoning | reference =>
      obtain ⟨⟨blocks, others⟩, inner, result⟩ := bind_eq_ok.mp replaced
      obtain ⟨rfl, rfl⟩ := Prod.mk.inj (return_eq_ok.mp result)
      obtain ⟨same, length⟩ := ih inner
      exact ⟨same, length⟩

theorem normalizeProviderToolCallIdsV1_calls {generatedId : Nat → Nat → String}
    {content blocks : List ProviderContentBlock} {toolCalls normalized : List ProviderToolCall}
    (accepted : normalizeProviderToolCallIdsV1 generatedId content toolCalls =
      .ok (blocks, normalized)) : blockCallIds blocks = normalized.map (·.id) := by
  obtain ⟨named, -, rest⟩ := bind_eq_ok.mp accepted
  obtain ⟨_, -, rest⟩ := bind_eq_ok.mp rest
  obtain ⟨⟨out, left⟩, replaced, result⟩ := bind_eq_ok.mp rest
  obtain ⟨rfl, rfl⟩ := Prod.mk.inj (return_eq_ok.mp result)
  obtain ⟨same, -⟩ := replaceCalls_calls replaced
  have others : blockCallIds (left.map .toolCall) = left.map (·.id) := by
    have ids : ProviderContentBlock.callId ∘ ProviderContentBlock.toolCall =
        some ∘ ProviderToolCall.id := rfl
    rw [blockCallIds, List.filterMap_map, ids, List.filterMap_eq_map]
  rw [← same, ← others]
  exact List.filterMap_append

theorem applyMiddleware_ids {beforeTool : ProviderToolCall → ProviderToolCall}
    {results : List ProviderToolCall} (accepted : applyMiddleware beforeTool calls = .ok results) :
    results.map (·.id) = calls.map (·.id) := by
  have each := mapM_eq_ok.mp accepted
  clear accepted
  induction each with
  | nil => rfl
  | cons first _ ih =>
    obtain ⟨_, kept, result⟩ := bind_eq_ok.mp first
    obtain rfl := return_eq_ok.mp result
    rw [List.map_cons, List.map_cons, ih, eq_of_beq (ensure_eq_ok.mp kept)]

theorem prepare_callIds {turn : AnsweredTurn} {content : List ProviderContentBlock}
    (prepared : turn.prepare = .ok (content, calls)) :
    blockCallIds content = calls.map (·.id) := by
  obtain ⟨⟨normalizedContent, normalized⟩, accepted, rest⟩ := bind_eq_ok.mp prepared
  obtain ⟨toolCalls, applied, rest⟩ := bind_eq_ok.mp rest
  obtain ⟨rewritten, rewrote, result⟩ := bind_eq_ok.mp rest
  obtain ⟨rfl, rfl⟩ := Prod.mk.inj (return_eq_ok.mp result)
  obtain ⟨⟨out, left⟩, replaced, final⟩ := bind_eq_ok.mp rewrote
  obtain rfl := return_eq_ok.mp final
  obtain ⟨same, length⟩ := replaceCalls_calls replaced
  have before := normalizeProviderToolCallIdsV1_calls accepted
  -- As many blocks as calls: none is left.
  have none : left = [] := by
    have counts := congrArg List.length same
    rw [List.length_append, length, before, ← applyMiddleware_ids applied] at counts
    simpa using counts
  rw [none, List.map_nil, List.append_nil] at same
  exact same

theorem takeGroup_append (key : ProviderToolCall → Option String) (room : Nat)
    (conflictKeys : List String) (calls : List ProviderToolCall) :
    (takeGroup key room conflictKeys calls).1 ++ (takeGroup key room conflictKeys calls).2 = calls := by
  induction room generalizing conflictKeys calls with
  | zero => rfl
  | succ room ih =>
    cases calls with
    | nil => rfl
    | cons call rest =>
      cases found : key call with
      | none => simp [takeGroup, found]
      | some conflictKey =>
        by_cases conflict : conflictKeys.contains conflictKey = true
        · simp only [takeGroup, found, if_pos conflict, List.nil_append]
        · simp only [takeGroup, found, if_neg conflict, List.cons_append, ih]

theorem nextGroup_append (key : ProviderToolCall → Option String) (call : ProviderToolCall)
    (rest : List ProviderToolCall) :
    (nextGroup key call rest).1 ++ (nextGroup key call rest).2 = call :: rest := by
  unfold nextGroup
  split
  · rfl
  · exact takeGroup_append key 2 [] (call :: rest)

/-! ## The runs of a session -/

def Expects (messages : List ProviderMessage) : ConversationPhase → Prop
  | .committingAssistant content calls _ _ =>
    Paired messages ∧ blockCallIds content = calls.map (·.id)
  | .executing group rest _ => Awaits messages ((group ++ rest).map (·.id))
  | .settling outcome settled rest _ => Awaits messages
      (outcome.call.id :: (settled.map (·.call.id) ++ rest.map (·.id)))
  | _ => Paired messages

structure Conversing (session : Conversation) : Prop where
  expected : Expects session.messages session.phase
  requests : ∀ request ∈ session.requests, Paired request

section Steps

variable {session : Conversation}

theorem exit_conversing (paired : Paired session.messages)
    (requests : ∀ request ∈ session.requests, Paired request) : Conversing session.exit where
  expected := paired
  requests := requests

theorem proceed_conversing {phase : ConversationPhase} (expected : Expects session.messages phase)
    (stops : session.stopped = true → Paired session.messages)
    (requests : ∀ request ∈ session.requests, Paired request) :
    Conversing (session.proceed phase) := by
  unfold Conversation.proceed
  split
  · next stopped => exact exit_conversing (stops stopped) requests
  · exact ⟨expected, requests⟩

theorem applySteers_conversing {steers : List String} (paired : Paired session.messages)
    (requests : ∀ request ∈ session.requests, Paired request) :
    Conversing (session.applySteers steers) := by
  cases steers with
  | nil => exact proceed_conversing paired (fun _ => paired) requests
  | cons text rest => exact proceed_conversing paired (fun _ => paired) requests

variable {calls rest : List ProviderToolCall} {key : ProviderToolCall → Option String}
  {policy : BatchPolicy}

theorem executeToolBatch_conversing (awaits : Awaits session.messages (calls.map (·.id)))
    (goes : session.stopped = false ∨ calls = [])
    (requests : ∀ request ∈ session.requests, Paired request) :
    Conversing (session.executeToolBatch calls key) := by
  cases calls with
  | nil => exact proceed_conversing awaits.paired (fun _ => awaits.paired) requests
  | cons call rest =>
    have running : session.stopped = false := goes.resolve_right (List.cons_ne_nil call rest)
    refine proceed_conversing ?_ (fun stopped => ?_) requests
    · change Awaits session.messages
        (((nextGroup key call rest).1 ++ (nextGroup key call rest).2).map (·.id))
      rw [nextGroup_append]
      exact awaits
    · rw [running] at stopped
      cases stopped

theorem settleToolCalls_conversing {settled : List ToolOutcome}
    (awaits : Awaits session.messages (settled.map (·.call.id) ++ rest.map (·.id)))
    (goes : session.stopped = false ∨ (settled = [] ∧ rest = []))
    (requests : ∀ request ∈ session.requests, Paired request) :
    Conversing (session.settleToolCalls settled rest key) := by
  cases settled with
  | nil => exact executeToolBatch_conversing awaits (goes.imp_right And.right) requests
  | cons outcome others =>
    have running : session.stopped = false :=
      goes.resolve_right fun done => List.cons_ne_nil outcome others done.1
    refine proceed_conversing awaits (fun stopped => ?_) requests
    rw [running] at stopped
    cases stopped

theorem afterAssistant_conversing {truncated : Bool}
    (awaits : Awaits session.messages (calls.map (·.id)))
    (goes : session.stopped = false ∨ calls = [])
    (requests : ∀ request ∈ session.requests, Paired request) :
    Conversing (session.afterAssistant calls truncated policy) := by
  unfold Conversation.afterAssistant
  split
  · next stopped =>
      have none : calls = [] := goes.resolve_left (by simp [stopped])
      subst none
      exact exit_conversing awaits.paired requests
  split
  · next none =>
      subst none
      split
      · exact exit_conversing awaits.paired requests
      · exact ⟨awaits.paired, requests⟩
  · exact executeToolBatch_conversing awaits goes requests

theorem turned_conversing {turn : AnsweredTurn} {budgetExhausted : Bool}
    (paired : Paired session.messages) (requests : ∀ request ∈ session.requests, Paired request) :
    Conversing (session.turned turn policy budgetExhausted) := by
  unfold Conversation.turned
  split
  · exact exit_conversing paired requests
  · next content calls prepared =>
      split
      · exact exit_conversing paired requests
      · exact proceed_conversing ⟨paired, prepare_callIds prepared⟩ (fun _ => paired) requests

theorem committed_conversing (conversing : Conversing session)
    (answers : session.Answers .committed) : Conversing session.committed := by
  obtain ⟨expected, requests⟩ := conversing
  unfold Conversation.committed
  unfold Conversation.Answers at answers
  split
  · next text rest phase =>
      rw [phase] at expected
      exact applySteers_conversing (expected.append_user text .steer) requests
  · next content calls truncated policy phase =>
      rw [phase] at expected answers
      have awaits := expected.1.awaits (.blocks content)
      rw [ProviderContent.callIds, ← blockCallIds, expected.2] at awaits
      exact afterAssistant_conversing awaits answers requests
  · next outcome settled rest key phase =>
      rw [phase] at expected answers
      exact settleToolCalls_conversing expected.answer answers requests
  · next text phase =>
      rw [phase] at expected
      exact ⟨expected.append_user text .context, requests⟩
  · exact ⟨expected, requests⟩

/-- No call of a group threw. -/
theorem exists_contents {results : List (Option String)}
    (returned : ∀ result ∈ results, result.isSome = true) :
    ∃ contents, results.mapM id = some contents ∧ contents.length = results.length := by
  induction results with
  | nil => exact ⟨[], rfl, rfl⟩
  | cons result rest ih =>
    obtain ⟨first, others⟩ := List.forall_mem_cons.mp returned
    obtain ⟨contents, read, length⟩ := ih others
    obtain ⟨content, rfl⟩ := Option.isSome_iff_exists.mp first
    exact ⟨content :: contents, by simp [List.mapM_cons, read], by simp [length]⟩

theorem executed_conversing {group : List ProviderToolCall} {contents : List String}
    (awaits : Awaits session.messages ((group ++ rest).map (·.id)))
    (all : contents.length = group.length) (running : session.stopped = false)
    (requests : ∀ request ∈ session.requests, Paired request) : Conversing (session.settleToolCalls
      ((group.zip contents).map fun answer => ⟨answer.1, answer.2⟩) rest key) := by
  refine settleToolCalls_conversing ?_ (.inl running) requests
  have calls : ((group.zip contents).map fun answer => (⟨answer.1, answer.2⟩ : ToolOutcome)).map
      (·.call.id) = group.map (·.id) := by
    rw [List.map_map]
    have firsts : (group.zip contents).map Prod.fst = group :=
      List.map_fst_zip (Nat.le_of_eq all.symm)
    calc (group.zip contents).map ((·.call.id) ∘ fun answer => (⟨answer.1, answer.2⟩ : ToolOutcome))
        = ((group.zip contents).map Prod.fst).map (·.id) := by rw [List.map_map]; rfl
      _ = group.map (·.id) := by rw [firsts]
  rw [calls, ← List.map_append]
  exact awaits

/-- A step that ends no batch early keeps the calls paired. -/
theorem perform_conversing (event : ConversationEvent) (conversing : Conversing session)
    (answers : session.Answers event) : Conversing (session.perform event) := by
  obtain ⟨messages, requests, stopped, phase⟩ := session
  obtain ⟨expected, built⟩ := conversing
  cases event with
  | begin prompt =>
    cases phase with
    | idle => exact ⟨expected.append_user prompt .prompt, built⟩
    | _ => exact ⟨expected, built⟩
  | promptPart text =>
    cases phase with
    | prompting => exact ⟨expected.append_user text .context, built⟩
    | _ => exact ⟨expected, built⟩
  | execute =>
    cases phase with
    | prompting => exact proceed_conversing expected (fun _ => expected) built
    | _ => exact ⟨expected, built⟩
  | stop => cases phase <;> exact ⟨expected, built⟩
  | finished =>
    cases phase with
    | idle | committingSteer | committingAssistant | settling | committingGuidance =>
      exact ⟨expected, built⟩
    | executing group rest key =>
      have running : stopped = false := answers
      subst running
      exact ⟨expected, built⟩
    | _ =>
      cases stopped
      · exact ⟨expected, built⟩
      · exact exit_conversing expected built
  | steers texts =>
    cases phase with
    | turning => exact applySteers_conversing expected built
    | _ => exact ⟨expected, built⟩
  | failed =>
    cases phase with
    | idle => exact ⟨expected, built⟩
    | executing | settling => exact answers.elim
    | committingAssistant content calls truncated policy => exact exit_conversing expected.1 built
    | _ => exact exit_conversing expected built
  | selected =>
    have more (paired : Paired messages) : ∀ request ∈ requests ++ [messages], Paired request := by
      intro request member
      rcases List.mem_append.mp member with earlier | last
      · exact built request earlier
      · rw [List.mem_singleton.mp last]
        exact paired
    cases phase with
    | selecting | requesting => exact ⟨expected, more expected⟩
    | _ => exact ⟨expected, built⟩
  | turned turn policy budgetExhausted =>
    cases phase with
    | requesting => exact turned_conversing expected built
    | _ => exact ⟨expected, built⟩
  | committed =>
    cases phase with
    | idle => exact ⟨expected, built⟩
    | _ => exact committed_conversing ⟨expected, built⟩ answers
  | executed results =>
    cases phase with
    | executing group rest key =>
      simp only [Conversation.perform]
      split
      · next all =>
          obtain ⟨running, returned⟩ := answers all
          obtain ⟨contents, read, length⟩ := exists_contents returned
          rw [read]
          exact executed_conversing expected (length.trans all) running built
      · exact ⟨expected, built⟩
    | _ => exact ⟨expected, built⟩
  | decided continuation =>
    cases phase with
    | deciding =>
      cases continuation with
      | finish => exact exit_conversing expected built
      | guide text => exact proceed_conversing expected (fun _ => expected) built
      | turn => exact proceed_conversing expected (fun _ => expected) built
    | _ => exact ⟨expected, built⟩

end Steps

theorem after_conversing (conversing : Conversing session)
    (events : List ConversationEvent) (all : session.AnswersAll events) :
    Conversing (session.after events) := by
  induction events generalizing session with
  | nil => exact conversing
  | cons event rest ih =>
    obtain ⟨first, others⟩ := all
    exact ih (perform_conversing event conversing first) others

/-- **Every request is made with paired calls** in a session whose runs end no batch early. -/
theorem after_paired (events : List ConversationEvent) (all : ({} : Conversation).AnswersAll events) :
    ∀ request ∈ (({} : Conversation).after events).requests, Paired request := by
  have start : Conversing {} := ⟨.nil, fun request member => absurd member List.not_mem_nil⟩
  exact (after_conversing start events all).requests

/-! ## Examples of sessions -/

def fileCall (id : String) : ProviderToolCall := ⟨id, "fs.read", .obj []⟩

def readsTwoFiles (last : List ConversationEvent) : List ConversationEvent :=
  [ConversationEvent.begin "compare the files", .execute, .steers [], .selected, .turned
      { content := [.toolCall (fileCall "call-1"), .toolCall (fileCall "call-2")]
        toolCalls := [fileCall "call-1", fileCall "call-2"] } {} false,
    .committed] ++ last

/-- Both calls are executed and answered, one after the other. -/
def answeredBatch : List ConversationEvent :=
  readsTwoFiles
    [.executed [some "one"], .committed, .executed [some "two"], .committed, .decided .turn,
      .steers ["shorter"], .committed, .selected]

/-- Nothing that the run waits for throws. -/
def ConversationEvent.intact : ConversationEvent → Bool
  | .failed => false
  | .executed results => results.all (·.isSome)
  | _ => true

/-- A run that is not stopped and in which nothing throws ends no batch early. -/
theorem answers_of_running (running : session.stopped = false)
    (intact : event.intact = true) : session.Answers event := by
  unfold Conversation.Answers
  split
  · split
    · exact .inl running
    · exact .inl running
    · trivial
  · split
    · exact fun _ => ⟨running, List.all_eq_true.mp intact⟩
    · trivial
  · cases intact
  · split
    · exact running
    · trivial
  · trivial

theorem answersAll_cons {rest : List ConversationEvent}
    (first : session.Answers event) (others : (session.perform event).AnswersAll rest) :
    session.AnswersAll (event :: rest) :=
  ⟨first, others⟩

theorem answeredBatch_paired :
    (({} : Conversation).after answeredBatch).requests.length = 2 ∧
      ∀ request ∈ (({} : Conversation).after answeredBatch).requests, Paired request := by
  refine ⟨by decide +kernel, after_paired answeredBatch ?_⟩
  repeat
    refine answersAll_cons (answers_of_running (by with_unfolding_all rfl)
      (by with_unfolding_all rfl)) ?_
  trivial

/-- The user aborts the run while the first call is executed, and prompts again. -/
def stoppedBatch : List ConversationEvent :=
  readsTwoFiles
    [.stop, .executed [some "cancelled"], .begin "go on", .execute, .steers [], .selected]

theorem stoppedBatch_unpaired :
    ∃ request ∈ (({} : Conversation).after stoppedBatch).requests, ¬ Paired request := by
  have built : (({} : Conversation).after stoppedBatch).requests =
      [[userMessage "compare the files" .prompt], [userMessage "compare the files" .prompt,
          .assistant (.blocks [.toolCall (fileCall "call-1"), .toolCall (fileCall "call-2")]) [],
          userMessage "go on" .prompt]] := by with_unfolding_all rfl
  rw [built]
  refine ⟨_, List.mem_cons_of_mem _ List.mem_cons_self, fun paired => ?_⟩
  cases paired with
  | user later =>
    obtain ⟨answers, rest, split, answered⟩ := later.of_assistant
    -- Two calls, and one message after them.
    have two := congrArg List.length answered
    have one := congrArg List.length split
    simp only [List.length_append, List.length_cons, List.length_nil] at one
    rw [List.length_map] at two
    have calls : (ProviderContent.callIds (.blocks [.toolCall (fileCall "call-1"),
        .toolCall (fileCall "call-2")])).length = 2 := rfl
    rw [List.length_map, calls] at two
    omega

end Praxis.Agent
