import Praxis.Durable.Mailbox

/-!
# Listing messages

`listMessages` reads one page of the messages of a workflow and checks each of them again. One
message whose stored form is over the limit of a message fails the whole page, and the limit is
checked on the input alone when the message is accepted. So a message that was accepted is listed
by a call that selects it exactly if every message of the page is within the limit in its stored
form (`accepted_message_readable_iff`).
-/

namespace Praxis.Workflow

set_option autoImplicit false

open Praxis.Foundations

structure ListMessagesOptionsV1 where
  workflowId : String
  recipientNodeId : Option String := none
  afterSequence : Option Int := none
  types : Option (List WorkflowMessageTypeV1) := none
  includeAcknowledged : Option Bool := none
  limit : Option Int := none

def ListMessagesOptionsV1.isValid (options : ListMessagesOptionsV1) : Bool :=
  authoritySafeId options.workflowId && options.recipientNodeId.all authoritySafeId &&
    nonNegativeInteger (options.afterSequence.getD 0)

/-- The query selects the row of the message. -/
def ListMessagesOptionsV1.selects (options : ListMessagesOptionsV1)
    (message : WorkflowMessageV1) : Bool :=
  message.input.workflowId == options.workflowId &&
    decide (options.afterSequence.getD 0 < message.sequence) &&
    (options.recipientNodeId.all fun recipient =>
      message.input.recipient.kind == .node && message.input.recipient.id == recipient) &&
    (options.includeAcknowledged == some true || message.acknowledgedAt.isNone) &&
    options.types.all fun types => types.contains message.input.type

/-- How many rows the query returns at most. -/
def ListMessagesOptionsV1.pageSize (options : ListMessagesOptionsV1) : Nat :=
  (min (maxList : Int) (max 1 (options.limit.getD 100))).toNat

/-- The rows that the query returns: selected messages in the order of their sequences. -/
def messagePage (store : AuthorityStore) (options : ListMessagesOptionsV1) :
    List WorkflowMessageV1 :=
  ((store.messages.values.filter options.selects).insertionSort
    fun left right => left.sequence ≤ right.sequence).take options.pageSize

def listMessages (store : AuthorityStore) (options : ListMessagesOptionsV1) :
    Except WorkflowError (List WorkflowMessageV1) := do
  ensure options.isValid .workflowMessageReadInvalid
  (messagePage store options).mapM parseWorkflowMessage

/-! ## A page is read whole or not at all -/

section Reading

variable {store : AuthorityStore} {options : ListMessagesOptionsV1}

theorem messagePage_stored {message : WorkflowMessageV1}
    (listed : message ∈ messagePage store options) :
    ∃ messageId, store.messages.get? messageId = some message := by
  have sorted := List.mem_of_mem_take listed
  rw [List.mem_insertionSort, List.mem_filter] at sorted
  exact store.messages.mem_values_iff.mp sorted.1

theorem Mailbox.parseAll {messages : Table String WorkflowMessageV1} (mailbox : Mailbox messages)
    {rows : List WorkflowMessageV1}
    (stored : ∀ message ∈ rows, ∃ messageId, messages.get? messageId = some message)
    (parsed : List WorkflowMessageV1) : rows.mapM parseWorkflowMessage = .ok parsed ↔
      (∀ message ∈ rows, message.Fits) ∧ parsed = rows := by
  induction rows generalizing parsed with
  | nil =>
    rw [mapM_eq_ok, List.forall₂_nil_left_iff]
    simp
  | cons message rest ih =>
    obtain ⟨⟨messageId, found⟩, others⟩ := List.forall_mem_cons.mp stored
    simp only [List.mapM_cons, bind_eq_ok, pure_eq_ok, mailbox.parse found, ih others,
      List.forall_mem_cons]
    constructor
    · rintro ⟨_, ⟨fits, rfl⟩, _, ⟨more, rfl⟩, rfl⟩
      exact ⟨⟨fits, more⟩, rfl⟩
    · rintro ⟨⟨fits, more⟩, rfl⟩
      exact ⟨message, ⟨fits, rfl⟩, rest, ⟨more, rfl⟩, rfl⟩

/-- **A valid call answers with its page exactly if the whole page is within the limit.** -/
theorem Mailbox.listMessages (mailbox : Mailbox store.messages) (valid : options.isValid = true)
    (listed : List WorkflowMessageV1) : listMessages store options = .ok listed ↔
      (∀ message ∈ messagePage store options, message.Fits) ∧
        listed = messagePage store options := by
  simp only [Workflow.listMessages, bind_eq_ok, ensure_eq_ok, valid, exists_const, true_and]
  exact mailbox.parseAll (fun _ => messagePage_stored) listed

end Reading

/-! ## Accepted messages -/

/-- The call accepts the message: it is posted, or comes in a transaction that is new. -/
inductive AcceptsMessage [Collation] (store : AuthorityStore) (input : WorkflowMessageInputV1) :
    StoreCall → Prop
  | posted (accepted : (postMessage store input).isOk = true) :
      AcceptsMessage store input (.call (.postMessage input))
  | transacted {transaction : WorkflowTransactionV1}
      (fresh : store.journal.transactionProjection transaction.transactionId = none)
      (member : input ∈ transaction.messages)
      (accepted : (transact store transaction).isOk = true) :
      AcceptsMessage store input (.transact transaction)

/-- The message is stored, under its id and with its content. -/
def Holds [Collation] (messages : Table String WorkflowMessageV1) (input : WorkflowMessageInputV1) : Prop :=
  ∃ message, messages.get? input.messageId = some message ∧
    message.input.json.canonical = input.json.canonical

section Storing

variable {store next : AuthorityStore} {table later : Table String WorkflowMessageV1}
  {input : WorkflowMessageInputV1} {journal : Journal} {message : WorkflowMessageV1}

theorem Holds.lasts [Collation] (steps : Relation.ReflTransGen MessageStep table later)
    (holds : Holds table input) : Holds later input := by
  refine steps_keep (fun messages => Holds messages input) (fun _ _ held step => ?_) holds steps
  obtain ⟨message, found, same⟩ := held
  obtain ⟨kept, present, content, _⟩ := step.keeps found
  exact ⟨kept, present, content ▸ same⟩

theorem insertWorkflowMessage_holds [Collation]
    (inserted : insertWorkflowMessage journal table input = .ok (message, later)) :
    Holds later input := by
  rcases insertWorkflowMessage_ok inserted with ⟨found, rfl, same⟩ | ⟨rfl, added⟩
  · exact ⟨message, found, same⟩
  · refine ⟨{ input, sequence := nextMessageSequence table input.workflowId }, ?_, rfl⟩
    rw [Table.get?_of_insert added, if_pos rfl]

theorem postMessage_holds [Collation]
    (accepted : postMessage store input = .ok (message, next)) : Holds next.messages input := by
  rcases postMessage_ok accepted with ⟨found, rfl, _, same⟩ | ⟨_, inserted, _⟩
  · exact ⟨message, found, same⟩
  · exact insertWorkflowMessage_holds inserted

theorem insertAll_holds [Collation] {inputs : List WorkflowMessageInputV1}
    (inserted : inputs.foldlM (fun messages message =>
      return (← insertWorkflowMessage journal messages message).2) table = .ok later) :
    ∀ input ∈ inputs, Holds later input := by
  induction inputs generalizing table with
  | nil => simp
  | cons first rest ih =>
    obtain ⟨middle, here, others⟩ := foldlM_cons_eq_ok.mp inserted
    simp only [bind_eq_ok, pure_eq_ok, Prod.exists] at here
    obtain ⟨message, _, here, rfl⟩ := here
    have steps : Relation.ReflTransGen MessageStep _ later := foldlM_steps (by
      intro table message next inserted
      simp only [bind_eq_ok, pure_eq_ok, Prod.exists] at inserted
      obtain ⟨_, _, inserted, rfl⟩ := inserted
      exact .inserted inserted) others
    rw [List.forall_mem_cons]
    exact ⟨(insertWorkflowMessage_holds here).lasts steps, ih others⟩

theorem transact_holds [Collation] {transaction : WorkflowTransactionV1} {projection : WorkflowProjectionV1}
    (fresh : store.journal.transactionProjection transaction.transactionId = none)
    (accepted : transact store transaction = .ok (projection, next)) :
    ∀ input ∈ transaction.messages, Holds next.messages input := by
  simp only [transact, bind_eq_ok, ensure_eq_ok, fresh] at accepted
  obtain ⟨_, _, taken⟩ := accepted
  simp only [transactFresh, bind_eq_ok, pure_eq_ok, ensure_eq_ok, Prod.mk.injEq,
    Prod.exists] at taken
  obtain ⟨_, _, _, _, _, journal, _, _, _, _, _, _, _, _, _, _, _, _, _, inserted,
    _, _, _, _, _, _, _, _, _, rfl⟩ := taken
  exact insertAll_holds inserted

theorem AcceptsMessage.holds [Collation] {call : StoreCall} (accepts : AcceptsMessage store input call) :
    Holds (call.after store).messages input := by
  cases accepts with
  | posted accepted =>
    cases posted : postMessage store input with
    | error error =>
      rw [posted] at accepted
      cases accepted
    | ok result =>
      rw [StoreCall.after, StoreCall.perform, AuthorityCall.perform, posted]
      exact postMessage_holds posted
  | @transacted transaction fresh member accepted =>
    cases transacted : transact store transaction with
    | error error =>
      rw [transacted] at accepted
      cases accepted
    | ok result =>
      rw [StoreCall.after, StoreCall.perform, transacted]
      exact transact_holds fresh transacted input member

end Storing

/-- **An accepted message is listed exactly if its page is within the limit.** Whatever came
before and after its acceptance, the message is stored, and a call that selects it succeeds and
returns it if and only if every message of the page, in its stored form with the sequence and the
time of its acknowledgement, is within the limit of a message. -/
theorem accepted_message_readable_iff [Collation] {before later : List StoreCall} {call : StoreCall}
    {input : WorkflowMessageInputV1} {options : ListMessagesOptionsV1}
    (accepts : AcceptsMessage (StoreCall.run .empty before) input call)
    (valid : options.isValid = true) :
    ∃ message, (StoreCall.run .empty (before ++ call :: later)).messages.get? input.messageId =
        some message ∧ message.input.json.canonical = input.json.canonical ∧
      (message ∈ messagePage (StoreCall.run .empty (before ++ call :: later)) options →
        ((∃ listed, listMessages (StoreCall.run .empty (before ++ call :: later)) options =
            .ok listed ∧ message ∈ listed) ↔
          ∀ other ∈ messagePage (StoreCall.run .empty (before ++ call :: later)) options,
            other.Fits)) := by
  have mailbox := Mailbox.of_run (before ++ call :: later)
  have split : StoreCall.run .empty (before ++ call :: later) =
      StoreCall.run (StoreCall.run .empty (before ++ [call])) later := by
    simp [StoreCall.run]
  have first : StoreCall.run .empty (before ++ [call]) =
      call.after (StoreCall.run .empty before) := by
    simp [StoreCall.run]
  have steps := (StoreCall.run_resources later (StoreCall.run_filed (before ++ [call]))).messages
  rw [← split] at steps
  have stored : Holds (StoreCall.run .empty (before ++ [call])).messages input := by
    rw [first]
    exact accepts.holds
  obtain ⟨message, found, same⟩ := stored.lasts steps
  refine ⟨message, found, same, fun selected => ?_⟩
  constructor
  · rintro ⟨listed, answered, _⟩
    exact ((mailbox.listMessages valid listed).mp answered).1
  · intro fits
    exact ⟨_, (mailbox.listMessages valid _).mpr ⟨fits, rfl⟩, selected⟩

/-! ## A mailbox with one message -/

/-- The whole mailbox of the small workflow. -/
def wholeMailbox : ListMessagesOptionsV1 where
  workflowId := "workflow"

theorem short_message_listed :
    ∃ listed message, listMessages (StoreCall.run .empty
        (smallHistory ++ .call (.postMessage (textMessage 3)) :: [])) wholeMailbox = .ok listed ∧
      message ∈ listed ∧ message.input.json.canonical = (textMessage 3).json.canonical := by
  have page : messagePage (StoreCall.run .empty
      (smallHistory ++ .call (.postMessage (textMessage 3)) :: [])) wholeMailbox =
      [{ input := textMessage 3, sequence := 1 }] := by decide +kernel
  have stored : (StoreCall.run .empty
      (smallHistory ++ .call (.postMessage (textMessage 3)) :: [])).messages.get? "message" =
      some { input := textMessage 3, sequence := 1 } := by decide +kernel
  have accepts : AcceptsMessage (StoreCall.run .empty smallHistory) (textMessage 3)
      (.call (.postMessage (textMessage 3))) := .posted (by decide +kernel)
  have valid : wholeMailbox.isValid = true := by decide +kernel
  obtain ⟨message, found, same, readable⟩ := accepted_message_readable_iff accepts valid
  obtain rfl := Option.mem_unique stored found
  rw [page] at readable
  obtain ⟨listed, answered, member⟩ := (readable (List.mem_singleton_self _)).mpr (by decide +kernel)
  exact ⟨listed, _, answered, member, same⟩

theorem postMessage_values {store next : AuthorityStore} {input : WorkflowMessageInputV1}
    {message : WorkflowMessageV1} (empty : store.messages = Table.empty)
    (accepted : postMessage store input = .ok (message, next)) :
    next.messages.values = [{ input, sequence := 1 }] := by
  have absent : store.messages.get? input.messageId = none := by rw [empty, Table.get?_empty]
  rcases postMessage_ok accepted with ⟨found, _⟩ | ⟨_, inserted, _⟩
  · rw [absent] at found
    cases found
  · obtain ⟨_, _, rfl, added⟩ := insertWorkflowMessage_new absent inserted
    rw [Table.values_of_insert added, empty]
    rfl

/-- **A message that was accepted makes the mailbox unreadable.** -/
theorem accepted_message_unreadable :
    ¬ ∀ (before : List StoreCall) (call : StoreCall) (input : WorkflowMessageInputV1)
        (options : ListMessagesOptionsV1) (message : WorkflowMessageV1),
      AcceptsMessage (StoreCall.run .empty before) input call → options.isValid = true →
      (StoreCall.run .empty (before ++ [call])).messages.get? input.messageId = some message →
      message ∈ messagePage (StoreCall.run .empty (before ++ [call])) options →
      ∃ listed, listMessages (StoreCall.run .empty (before ++ [call])) options = .ok listed ∧
        message ∈ listed := by
  intro always
  have refuted : ∀ length, length ≤ 65315 → length ≤ 65302 := by
    intro length bound
    have found := smallHistory_posted ((textMessage_valid length).mpr bound) rfl
    have mailbox := Mailbox.of_run (smallHistory ++ [.call (.postMessage (textMessage length))])
    have answer := always smallHistory (.call (.postMessage (textMessage length)))
      (textMessage length) wholeMailbox
    have run : StoreCall.run .empty (smallHistory ++ [.call (.postMessage (textMessage length))]) =
        StoreCall.after (StoreCall.run .empty smallHistory)
          (.call (.postMessage (textMessage length))) := by
      rw [StoreCall.run, List.foldl_append]
      rfl
    cases posted : postMessage (StoreCall.run .empty smallHistory) (textMessage length) with
    | error error =>
      -- the mailbox would be empty
      rw [run, StoreCall.after, StoreCall.perform, AuthorityCall.perform, posted] at found
      change (StoreCall.run .empty smallHistory).messages.get? _ = _ at found
      rw [smallHistory_messages, Table.get?_empty] at found
      cases found
    | ok result =>
      have values : (StoreCall.run .empty (smallHistory ++
          [.call (.postMessage (textMessage length))])).messages.values =
          [{ input := textMessage length, sequence := 1 }] := by
        rw [run, StoreCall.after, StoreCall.perform, AuthorityCall.perform, posted]
        exact postMessage_values smallHistory_messages posted
      have page : messagePage (StoreCall.run .empty (smallHistory ++
          [.call (.postMessage (textMessage length))])) wholeMailbox =
          [{ input := textMessage length, sequence := 1 }] := by
        rw [messagePage, values]
        rfl
      obtain ⟨listed, answered, _⟩ := answer _ (.posted (by rw [posted]; rfl)) (by decide +kernel)
        found (by rw [page]; exact List.mem_singleton_self _)
      have fits := ((mailbox.listMessages (by decide +kernel) listed).mp answered).1
      rw [page, List.forall_mem_singleton] at fits
      exact (textMessage_fits length).mp fits
  exact absurd (refuted 65315 le_rfl) (by decide)

end Praxis.Workflow
