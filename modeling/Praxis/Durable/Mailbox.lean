import Praxis.Foundations.JsonContent
import Praxis.Durable.ResourceTables

/-!
# The mailbox

The messages of a workflow are numbered `1, 2, …` in the order in which they were posted, and an
acknowledged message stays as it is (`Mailbox`, which every operation keeps).

A stored message is checked again whenever it is read for a repeated post or an acknowledgement,
and the check counts the bytes of the stored form, which carries the sequence and the time of the
acknowledgement besides the input. Posting checks the input alone. So a message close to the limit
is stored and can then be neither posted again nor acknowledged. A repeated post is answered with
the stored message exactly if its stored form is within the limit and the inputs differ only in
the order of fields whose names the collation tells apart (`MailboxLaws.repost`), and
`acknowledgeMessages` works exactly if every message that it reads is within the limit
(`Mailbox.acknowledgeMessages`).
-/

namespace Praxis.Workflow

set_option autoImplicit false

open Praxis.Foundations

/-! ## The table of messages -/

def WorkflowMessageInputV1.json (input : WorkflowMessageInputV1) : Json :=
  .obj (messageInputFields input)

/-- The input is accepted when it is posted first. -/
def WorkflowMessageInputV1.Valid (input : WorkflowMessageInputV1) : Prop :=
  validateWorkflowMessageInput input (messageInputFields input) = .ok ()

/-- The stored form of a message is within the limit of a message. -/
def WorkflowMessageV1.Fits (message : WorkflowMessageV1) : Prop :=
  (Json.obj (messageFields message)).stringify.utf8ByteSize ≤ maxMessageBytes

instance (message : WorkflowMessageV1) : Decidable message.Fits :=
  inferInstanceAs (Decidable (_ ≤ _))

/-- The accepted posts with the sequences that they got, in their order. -/
def posts (messages : Table String WorkflowMessageV1) : List (WorkflowMessageInputV1 × Nat) :=
  messages.values.map fun message => (message.input, message.sequence)

def sequencesOf (messages : Table String WorkflowMessageV1) (workflowId : String) : List Nat :=
  ((posts messages).filter fun post => post.1.workflowId = workflowId).map (·.2)

/-- What holds of the messages after every run. -/
structure Mailbox (messages : Table String WorkflowMessageV1) : Prop where
  filed : ∀ messageId message, messages.get? messageId = some message →
    message.input.messageId = messageId
  valid : ∀ messageId message, messages.get? messageId = some message → message.input.Valid ∧
    positiveInteger message.sequence = true ∧ message.acknowledgedAt.all (·.valid) = true
  sequences : ∀ workflowId, sequencesOf messages workflowId =
    List.range' 1 (sequencesOf messages workflowId).length

section Steps

variable {before after : Table String WorkflowMessageV1} {message : WorkflowMessageV1}

theorem foldl_max_range' (count : Nat) : (List.range' 1 count).foldl max 0 = count := by
  induction count with
  | zero => rfl
  | succ count ih =>
    rw [List.range'_1_concat, List.foldl_append, ih, List.foldl_cons, List.foldl_nil]
    omega

theorem Mailbox.nextSequence (mailbox : Mailbox before) (workflowId : String) :
    nextMessageSequence before workflowId = (sequencesOf before workflowId).length + 1 := by
  have listed : ((before.values.filter fun message =>
      message.input.workflowId = workflowId).map (·.sequence)) =
      sequencesOf before workflowId := by
    simp [sequencesOf, posts, List.filter_map, Function.comp_def]
  rw [nextMessageSequence, listed, mailbox.sequences workflowId, foldl_max_range',
    List.length_range']

theorem insertWorkflowMessage_new [Collation] {journal : Journal} {input : WorkflowMessageInputV1}
    (absent : before.get? input.messageId = none)
    (accepted : insertWorkflowMessage journal before input = .ok (message, after)) :
    input.Valid ∧ positiveInteger (nextMessageSequence before input.workflowId) = true ∧
      message = { input, sequence := nextMessageSequence before input.workflowId } ∧
      before.insert input.messageId message = some after := by
  simp only [insertWorkflowMessage, absent, bind_eq_ok, ensure_eq_ok, orError_eq_ok, pure_eq_ok,
    Prod.mk.injEq, decide_eq_true_eq] at accepted
  obtain ⟨_, valid, _, bound, _, _, _, added, rfl, rfl⟩ := accepted
  refine ⟨valid, ?_, rfl, added⟩
  have positive : 0 < nextMessageSequence before input.workflowId := Nat.succ_pos _
  simp only [positiveInteger, decide_eq_true_eq]
  omega

/-- What a step does: nothing, a message with the next sequence, or an acknowledgement. -/
inductive MessageEffect (before after : Table String WorkflowMessageV1) : Prop
  | unchanged (same : after = before)
  | posted {input : WorkflowMessageInputV1} (valid : input.Valid)
      (bound : positiveInteger (nextMessageSequence before input.workflowId) = true)
      (absent : before.get? input.messageId = none)
      (added : before.insert input.messageId
        { input, sequence := nextMessageSequence before input.workflowId } = some after)
  | acknowledged {message : WorkflowMessageV1} {at_ : Timestamp}
      (found : before.get? message.input.messageId = some message)
      (unread : message.acknowledgedAt = none) (valid : at_.valid = true)
      (same : after = before.update message.input.messageId
        { message with acknowledgedAt := some at_ })

theorem MessageStep.effect [Collation] (step : MessageStep before after) : MessageEffect before after := by
  cases step with
  | @inserted journal input message insert =>
    cases present : before.get? input.messageId with
    | none =>
      obtain ⟨valid, bound, rfl, added⟩ := insertWorkflowMessage_new present insert
      exact .posted valid bound present added
    | some stored =>
      rcases insertWorkflowMessage_ok insert with ⟨_, same, _⟩ | ⟨_, added⟩
      · exact .unchanged same
      · rw [(before.insert_eq_some_iff.mp added).1] at present
        cases present
  | acknowledged found unread valid same => exact .acknowledged found unread valid same

theorem MessageEffect.posts (effect : MessageEffect before after) :
    posts after = posts before ∨ ∃ input : WorkflowMessageInputV1, posts after =
      posts before ++ [(input, nextMessageSequence before input.workflowId)] := by
  cases effect with
  | unchanged same => exact .inl (same ▸ rfl)
  | @posted input valid bound absent added =>
    refine .inr ⟨input, ?_⟩
    rw [Workflow.posts, Table.values_of_insert added, List.map_append]
    rfl
  | acknowledged found unread valid same =>
    refine .inl ?_
    rw [same]
    exact before.map_values_update _ found rfl

/-- **Every step keeps the mailbox.** -/
theorem MessageStep.mailbox [Collation] (step : MessageStep before after) (mailbox : Mailbox before) :
    Mailbox after := by
  refine ⟨step.filed mailbox.filed, ?_, ?_⟩
  · intro messageId message present
    cases step.effect with
    | unchanged same => exact mailbox.valid messageId message (same ▸ present)
    | @posted input valid bound absent added =>
      rw [Table.get?_of_insert added] at present
      split at present
      · obtain rfl := Option.some.inj present
        exact ⟨valid, bound, rfl⟩
      · exact mailbox.valid messageId message present
    | @acknowledged stored at_ found unread valid same =>
      rw [same, Table.get?_update, found] at present
      split at present
      · obtain rfl := Option.some.inj present
        obtain ⟨input, bound, _⟩ := mailbox.valid _ stored found
        exact ⟨input, bound, valid⟩
      · exact mailbox.valid messageId message present
  · intro workflowId
    rcases step.effect.posts with same | ⟨input, more⟩
    · rw [sequencesOf, same]
      exact mailbox.sequences workflowId
    · have held := mailbox.sequences workflowId
      rw [sequencesOf] at held
      rw [sequencesOf, more, List.filter_append, List.map_append]
      by_cases own : input.workflowId = workflowId
      · subst own
        rw [mailbox.nextSequence, sequencesOf]
        simp only [List.filter_cons, decide_true, if_true, List.filter_nil, List.map_cons,
          List.map_nil, List.length_append, List.length_singleton]
        rw [List.range'_1_concat, ← held, Nat.add_comm 1]
      · simpa [own] using held

theorem MessageStep.keeps [Collation] (step : MessageStep before after) {messageId : String}
    (found : before.get? messageId = some message) :
    ∃ later, after.get? messageId = some later ∧ later.input = message.input ∧
      later.sequence = message.sequence ∧
      (message.acknowledgedAt ≠ none → later = message) := by
  cases step.effect with
  | unchanged same => exact ⟨message, same ▸ found, rfl, rfl, fun _ => rfl⟩
  | @posted input valid bound absent added =>
    refine ⟨message, ?_, rfl, rfl, fun _ => rfl⟩
    rw [Table.get?_of_insert added, if_neg]
    · exact found
    · rintro rfl
      rw [absent] at found
      cases found
  | @acknowledged stored at_ there unread valid same =>
    by_cases here : messageId = stored.input.messageId
    · subst here
      obtain rfl := Option.mem_unique there found
      refine ⟨{ stored with acknowledgedAt := some at_ }, ?_, rfl, rfl, absurd unread⟩
      rw [same, Table.get?_update_self _ _ there]
    · refine ⟨message, ?_, rfl, rfl, fun _ => rfl⟩
      rw [same, Table.get?_update_ne _ _ here]
      exact found

end Steps

/-! ## Reading a stored message -/

variable {input : WorkflowMessageInputV1}

theorem WorkflowMessageInputV1.Valid.check (valid : input.Valid)
    (serialized : List (String × Json)) : validateWorkflowMessageInput input serialized = .ok () ↔
      (Json.obj serialized).stringify.utf8ByteSize ≤ maxMessageBytes := by
  simp only [Valid, validateWorkflowMessageInput, bind_eq_ok, ensure_eq_ok, Bool.and_eq_true,
    decide_eq_true_eq, exists_const] at valid ⊢
  exact ⟨fun checked => checked.1.2, fun fits => ⟨⟨valid.1.1, fits⟩, valid.2⟩⟩

section Reading

variable {store : AuthorityStore} {messages : Table String WorkflowMessageV1}
  {input : WorkflowMessageInputV1} {stored : WorkflowMessageV1}

theorem Mailbox.parse (mailbox : Mailbox messages) {messageId : String}
    (found : messages.get? messageId = some stored) (parsed : WorkflowMessageV1) :
    parseWorkflowMessage stored = .ok parsed ↔ stored.Fits ∧ parsed = stored := by
  obtain ⟨valid, bound, acknowledged⟩ := mailbox.valid messageId stored found
  simp only [parseWorkflowMessage, bind_eq_ok, ensure_eq_ok, pure_eq_ok, exists_const,
    valid.check, bound, acknowledged, Bool.and_self, true_and]
  exact and_congr_right fun _ => eq_comm

theorem workflowId_of_canonical [Collation] {left right : WorkflowMessageInputV1}
    (same : left.json.canonical = right.json.canonical) : left.workflowId = right.workflowId := by
  have fields : Json.canonicalFields (messageInputFields left) =
      Json.canonicalFields (messageInputFields right) := by
    simpa only [WorkflowMessageInputV1.json, Json.canonical, Json.obj.injEq] using same
  have here : ("workflowId", Json.str left.workflowId) ∈
      Json.canonicalFields (messageInputFields left) := by
    rw [(Json.canonicalFields_perm _).mem_iff]
    exact List.mem_map.mpr ⟨("workflowId", .str left.workflowId), by simp [messageInputFields], rfl⟩
  rw [fields, (Json.canonicalFields_perm _).mem_iff] at here
  obtain ⟨⟨name, value⟩, member, equal⟩ := List.mem_map.mp here
  obtain ⟨rfl, text⟩ := Prod.mk.inj equal
  obtain rfl : value = .str right.workflowId := by
    simpa [messageInputFields, Json.field] using member
  simp only [Json.canonical, Json.str.injEq] at text
  exact text.symm

theorem Mailbox.postMessage_stored [Collation] (mailbox : Mailbox store.messages)
    (found : store.messages.get? input.messageId = some stored)
    (result : WorkflowMessageV1 × AuthorityStore) : postMessage store input = .ok result ↔
      (stored.Fits ∧ Json.Reordered stored.input.json input.json) ∧ result = (stored, store) := by
  rw [← Json.canonical_eq_iff, postMessage, found]
  simp only [bind_eq_ok, mailbox.parse found, ensure_eq_ok, pure_eq_ok, exists_const,
    Bool.and_eq_true, beq_iff_eq]
  constructor
  · rintro ⟨parsed, ⟨fits, rfl⟩, ⟨_, same⟩, rfl⟩
    exact ⟨⟨fits, same⟩, rfl⟩
  · rintro ⟨⟨fits, same⟩, rfl⟩
    exact ⟨stored, ⟨fits, rfl⟩, ⟨workflowId_of_canonical same, same⟩, rfl⟩

theorem Mailbox.insertWorkflowMessage_stored [Collation] (mailbox : Mailbox messages) (journal : Journal)
    (found : messages.get? input.messageId = some stored)
    (result : WorkflowMessageV1 × Table String WorkflowMessageV1) :
    insertWorkflowMessage journal messages input = .ok result ↔
      (input.Valid ∧ stored.Fits ∧ Json.Reordered stored.input.json input.json) ∧
        result = (stored, messages) := by
  rw [← Json.canonical_eq_iff, insertWorkflowMessage, found]
  simp only [bind_eq_ok, mailbox.parse found, ensure_eq_ok, pure_eq_ok, exists_const, beq_iff_eq]
  constructor
  · rintro ⟨⟨⟩, valid, parsed, ⟨fits, rfl⟩, same, rfl⟩
    exact ⟨⟨valid, fits, same⟩, rfl⟩
  · rintro ⟨⟨valid, fits, same⟩, rfl⟩
    exact ⟨(), valid, stored, ⟨fits, rfl⟩, same, rfl⟩

end Reading

/-! ## Acknowledging -/

/-- A message as an acknowledgement of the messages of a node up to a sequence leaves it. -/
def acknowledgedThrough (workflowId recipientNodeId : String) (throughSequence : Int)
    (at_ : Timestamp) (message : WorkflowMessageV1) : WorkflowMessageV1 :=
  if isUnreadBy workflowId recipientNodeId message = true ∧
      (message.sequence : Int) ≤ throughSequence then
    { message with acknowledgedAt := some at_ }
  else message

def acknowledgeRows (at_ : Timestamp) (table : Table String WorkflowMessageV1)
    (unread : List WorkflowMessageV1) : Table String WorkflowMessageV1 :=
  unread.foldl (fun table message =>
    table.update message.input.messageId { message with acknowledgedAt := some at_ }) table

section Acknowledging

variable {store : AuthorityStore} {messages : Table String WorkflowMessageV1} {at_ : Timestamp}
  {unread : List WorkflowMessageV1}

theorem Mailbox.acknowledgeOne (mailbox : Mailbox messages) {message : WorkflowMessageV1}
    {messageId : String} (found : messages.get? messageId = some message)
    (table next : Table String WorkflowMessageV1) :
    acknowledgeOne at_ table message = .ok next ↔ message.Fits ∧
      next = table.update message.input.messageId { message with acknowledgedAt := some at_ } := by
  simp only [Workflow.acknowledgeOne, bind_eq_ok, mailbox.parse found, pure_eq_ok]
  constructor
  · rintro ⟨parsed, ⟨fits, rfl⟩, rfl⟩
    exact ⟨fits, rfl⟩
  · rintro ⟨fits, rfl⟩
    exact ⟨message, ⟨fits, rfl⟩, rfl⟩

theorem Mailbox.acknowledgeAll (mailbox : Mailbox messages)
    (stored : ∀ message ∈ unread, messages.get? message.input.messageId = some message)
    (table next : Table String WorkflowMessageV1) :
    unread.foldlM (Workflow.acknowledgeOne at_) table = .ok next ↔
      (∀ message ∈ unread, message.Fits) ∧ next = acknowledgeRows at_ table unread := by
  induction unread generalizing table with
  | nil => rw [foldlM_nil_eq_ok]; simp [acknowledgeRows, eq_comm]
  | cons message rest ih =>
    have first := stored message (List.mem_cons_self ..)
    have others := ih fun other member => stored other (List.mem_cons_of_mem _ member)
    rw [foldlM_cons_eq_ok, List.forall_mem_cons, acknowledgeRows, List.foldl_cons,
      ← acknowledgeRows]
    simp only [mailbox.acknowledgeOne first, others]
    constructor
    · rintro ⟨middle, ⟨fits, rfl⟩, more, rfl⟩
      exact ⟨⟨fits, more⟩, rfl⟩
    · rintro ⟨⟨fits, more⟩, rfl⟩
      exact ⟨_, ⟨fits, rfl⟩, more, rfl⟩

theorem get?_acknowledged
    (apart : unread.Pairwise fun message other => message.input.messageId ≠ other.input.messageId)
    (table : Table String WorkflowMessageV1) (messageId : String) :
    (acknowledgeRows at_ table unread).get? messageId =
      (table.get? messageId).map fun row =>
        match unread.find? fun message => message.input.messageId = messageId with
        | some message => { message with acknowledgedAt := some at_ }
        | none => row := by
  induction unread generalizing table with
  | nil => simp [acknowledgeRows]
  | cons message rest ih =>
    obtain ⟨different, apart⟩ := List.pairwise_cons.mp apart
    rw [acknowledgeRows, List.foldl_cons, ← acknowledgeRows, ih apart, Table.get?_update]
    by_cases here : messageId = message.input.messageId
    · subst here
      have none : (rest.find? fun other =>
          other.input.messageId = message.input.messageId) = none := by
        refine List.find?_eq_none.mpr fun other member same => ?_
        exact different other member (of_decide_eq_true same).symm
      cases table.get? message.input.messageId <;> simp [none]
    · have other : ¬ message.input.messageId = messageId := fun same => here same.symm
      simp [here, other]

/-- How many messages wait for a node up to a sequence. -/
def unreadCount (messages : Table String WorkflowMessageV1) (workflowId recipientNodeId : String)
    (throughSequence : Int) : Nat :=
  messages.values.countP fun message =>
    isUnreadBy workflowId recipientNodeId message &&
      decide ((message.sequence : Int) ≤ throughSequence)

/-- **`acknowledgeMessages` acknowledges the messages that wait, and counts them.** It is accepted
exactly if each of them is within the limit. -/
theorem Mailbox.acknowledgeMessages (mailbox : Mailbox store.messages) (filed : Filed store)
    {workflowId recipientNodeId : String} {throughSequence : Int} {projection : WorkflowProjectionV1}
    (checked : (authoritySafeId workflowId && authoritySafeId recipientNodeId &&
      positiveInteger throughSequence && at_.valid) = true)
    (loaded : store.journal.loadProjection workflowId = .ok projection) :
    ∃ acknowledged : Table String WorkflowMessageV1,
      AcceptsIff (acknowledgeMessages store workflowId recipientNodeId throughSequence at_)
        (∀ messageId message, store.messages.get? messageId = some message →
          isUnreadBy workflowId recipientNodeId message = true →
          (message.sequence : Int) ≤ throughSequence → message.Fits)
        (unreadCount store.messages workflowId recipientNodeId throughSequence,
          { store with messages := acknowledged }) ∧
      ∀ messageId, acknowledged.get? messageId = (store.messages.get? messageId).map
        (acknowledgedThrough workflowId recipientNodeId throughSequence at_) := by
  have stored := @unreadMessages_stored store workflowId recipientNodeId throughSequence filed
  have waits : ∀ message, message ∈ unreadMessages store workflowId recipientNodeId
      throughSequence ↔ store.messages.get? message.input.messageId = some message ∧
        isUnreadBy workflowId recipientNodeId message = true ∧
        (message.sequence : Int) ≤ throughSequence := by
    intro message
    rw [unreadMessages, List.mem_insertionSort, List.mem_filter, Table.mem_values_iff,
      Bool.and_eq_true, decide_eq_true_eq]
    constructor
    · rintro ⟨⟨messageId, found⟩, unread⟩
      rw [mailbox.filed messageId message found]
      exact ⟨found, unread⟩
    · rintro ⟨found, unread⟩
      exact ⟨⟨_, found⟩, unread⟩
  have counted : (unreadMessages store workflowId recipientNodeId throughSequence).length =
      unreadCount store.messages workflowId recipientNodeId throughSequence := by
    rw [unreadMessages, List.length_insertionSort, unreadCount, List.countP_eq_length_filter]
  refine ⟨acknowledgeRows at_ store.messages
    (unreadMessages store workflowId recipientNodeId throughSequence),
    acceptsIff_of fun result => ?_, fun messageId => ?_⟩
  · have fits : (∀ message ∈ unreadMessages store workflowId recipientNodeId throughSequence,
        message.Fits) ↔ ∀ messageId message, store.messages.get? messageId = some message →
          isUnreadBy workflowId recipientNodeId message = true →
          (message.sequence : Int) ≤ throughSequence → message.Fits := by
      constructor
      · intro all messageId message found unread bound
        obtain rfl := mailbox.filed messageId message found
        exact all message ((waits message).mpr ⟨found, unread, bound⟩)
      · intro all message member
        obtain ⟨found, unread, bound⟩ := (waits message).mp member
        exact all _ message found unread bound
    have accepts := @Mailbox.acknowledgeAll store.messages at_ _ mailbox
      (fun message member => (stored message member).1) store.messages
    rw [Workflow.acknowledgeMessages, ← counted, ← fits]
    simp only [unreadMessages] at accepts ⊢
    simp only [bind_eq_ok, ensure_eq_ok, checked, loaded, Except.ok.injEq, exists_const,
      exists_eq_left', true_and, pure_eq_ok, accepts]
    constructor
    · rintro ⟨_, ⟨all, rfl⟩, rfl⟩
      exact ⟨all, rfl⟩
    · rintro ⟨all, rfl⟩
      exact ⟨_, ⟨all, rfl⟩, rfl⟩
  · rw [get?_acknowledged (unreadMessages_apart filed)]
    refine Option.map_congr fun row found => ?_
    obtain rfl := mailbox.filed messageId row found
    rw [acknowledgedThrough]
    cases first : (unreadMessages store workflowId recipientNodeId throughSequence).find?
        fun message => message.input.messageId = row.input.messageId with
    | none =>
      have apart := List.find?_eq_none.mp first
      rw [if_neg]
      intro unread
      exact apart row ((waits row).mpr ⟨found, unread⟩) (decide_eq_true rfl)
    | some message =>
      have member := List.mem_of_find?_eq_some first
      have same : message.input.messageId = row.input.messageId := by
        simpa using List.find?_some first
      obtain ⟨there, unread⟩ := (waits message).mp member
      rw [same, found] at there
      obtain rfl := Option.some.inj there
      rw [if_pos unread]

end Acknowledging

/-! ## The laws of the mailbox -/

/-- What holds of the messages of a store, of the calls on them, and of every later store. -/
structure MailboxLaws [Collation] (store : AuthorityStore) : Prop where
  sequences : ∀ workflowId, sequencesOf store.messages workflowId =
    List.range' 1 (sequencesOf store.messages workflowId).length
  order : ∀ later, posts store.messages <+: posts (StoreCall.run store later).messages
  acknowledged : ∀ later messageId message, store.messages.get? messageId = some message →
    message.acknowledgedAt ≠ none →
    (StoreCall.run store later).messages.get? messageId = some message
  repost : ∀ input stored, store.messages.get? input.messageId = some stored →
    AcceptsIff (postMessage store input)
      (stored.Fits ∧ Json.Reordered stored.input.json input.json) (stored, store)
  /-- In a transaction the table may already have some of its messages. -/
  repostInTransaction : ∀ journal table input stored,
    Relation.ReflTransGen MessageStep store.messages table →
    table.get? input.messageId = some stored →
    AcceptsIff (insertWorkflowMessage journal table input)
      (input.Valid ∧ stored.Fits ∧ Json.Reordered stored.input.json input.json) (stored, table)
  /-- The order of the fields only matters where the collation does not tell names apart. -/
  repostCollated : ∀ input stored, store.messages.get? input.messageId = some stored →
    stored.input.json.Collated → stored.input.json.Same input.json →
    AcceptsIff (postMessage store input) stored.Fits (stored, store)
  conflict : ∀ input stored, store.messages.get? input.messageId = some stored →
    ¬ stored.input.json.Same input.json → ∃ error, postMessage store input = .error error
  conflictInTransaction : ∀ journal table input stored,
    Relation.ReflTransGen MessageStep store.messages table →
    table.get? input.messageId = some stored → ¬ stored.input.json.Same input.json →
    ∃ error, insertWorkflowMessage journal table input = .error error
  acknowledge : ∀ workflowId recipientNodeId throughSequence (at_ : Timestamp) projection,
    (authoritySafeId workflowId && authoritySafeId recipientNodeId &&
      positiveInteger throughSequence && at_.valid) = true →
    store.journal.loadProjection workflowId = .ok projection →
    ∃ acknowledged : Table String WorkflowMessageV1,
      AcceptsIff (acknowledgeMessages store workflowId recipientNodeId throughSequence at_)
        (∀ messageId message, store.messages.get? messageId = some message →
          isUnreadBy workflowId recipientNodeId message = true →
          (message.sequence : Int) ≤ throughSequence → message.Fits)
        (unreadCount store.messages workflowId recipientNodeId throughSequence,
          { store with messages := acknowledged }) ∧
      ∀ messageId, acknowledged.get? messageId = (store.messages.get? messageId).map
        (acknowledgedThrough workflowId recipientNodeId throughSequence at_)

theorem Mailbox.empty : Mailbox Table.empty where
  filed := by simp
  valid := by simp
  sequences _ := rfl

theorem Mailbox.steps [Collation] {messages table : Table String WorkflowMessageV1}
    (mailbox : Mailbox messages) (steps : Relation.ReflTransGen MessageStep messages table) :
    Mailbox table :=
  steps_keep Mailbox (fun _ _ held step => step.mailbox held) mailbox steps

theorem Mailbox.of_run [Collation] (history : List StoreCall) :
    Mailbox (StoreCall.run .empty history).messages :=
  Mailbox.empty.steps (StoreCall.run_resources history Filed.empty).messages

/-- **The laws hold after every run.** The numbering, the order of the posts and the permanence of
acknowledgements hold without condition; a repeated post and an acknowledgement are accepted
exactly if the stored forms that they read are within the limit. -/
theorem mailbox_of_run [Collation] (history : List StoreCall) : MailboxLaws (StoreCall.run .empty history) := by
  have filed := StoreCall.run_filed history
  have mailbox := Mailbox.of_run history
  have later := fun calls => (StoreCall.run_resources calls filed).messages
  have repost := fun (input : WorkflowMessageInputV1) (stored : WorkflowMessageV1)
      (found : (StoreCall.run .empty history).messages.get? input.messageId = some stored) =>
    acceptsIff_of (mailbox.postMessage_stored found)
  have inTransaction := fun (journal : Journal) (table : Table String WorkflowMessageV1)
      (input : WorkflowMessageInputV1) (stored : WorkflowMessageV1)
      (steps : Relation.ReflTransGen MessageStep (StoreCall.run .empty history).messages table)
      (found : table.get? input.messageId = some stored) =>
    acceptsIff_of ((mailbox.steps steps).insertWorkflowMessage_stored journal found)
  constructor
  case sequences => exact mailbox.sequences
  case order =>
    intro calls
    refine steps_keep (fun table => posts (StoreCall.run .empty history).messages <+: posts table)
      (fun _ _ held step => ?_) List.prefix_rfl (later calls)
    rcases step.effect.posts with same | ⟨input, more⟩
    · rw [same]
      exact held
    · rw [more]
      exact held.trans (List.prefix_append _ _)
  case acknowledged =>
    intro calls messageId message found settled
    refine steps_keep (fun table => table.get? messageId = some message)
      (fun _ _ held step => ?_) found (later calls)
    obtain ⟨same, present, _, _, kept⟩ := step.keeps held
    rw [← kept settled]
    exact present
  case repost => exact repost
  case repostInTransaction => exact inTransaction
  case repostCollated =>
    intro input stored found collated same
    have answer := repost input stored found
    exact ⟨fun fits => answer.1 ⟨fits, same.reordered collated⟩,
      fun large => answer.2 fun both => large both.1⟩
  case conflict =>
    intro input stored found different
    exact (repost input stored found).2 fun both => different both.2.same
  case conflictInTransaction =>
    intro journal table input stored steps found different
    exact (inTransaction journal table input stored steps found).2
      fun both => different both.2.2.same
  case acknowledge =>
    intro workflowId recipientNodeId throughSequence at_ projection checked loaded
    exact mailbox.acknowledgeMessages filed checked loaded

/-! ## A message close to the limit -/

/-- A message whose payload is a text of some length. -/
def textMessage (length : Nat) : WorkflowMessageInputV1 where
  messageId := "message"
  workflowId := "workflow"
  sender := { kind := .user, id := "user" }
  recipient := { kind := .node, id := "a" }
  type := .instruction
  payload := [("text", .str (String.ofList (List.replicate length 'x')))]
  createdAt := epochStart

theorem quotedSize_replicate (length : Nat) :
    Json.quotedSize (String.ofList (List.replicate length 'x')) = 2 + length := by
  have one : (Json.escapeChar 'x').utf8ByteSize = 1 := by decide +kernel
  simp [Json.quotedSize, one]

theorem textMessage_size (length : Nat) (more : List (String × Json)) :
    (Json.obj (messageInputFields (textMessage length) ++ more)).size =
      length + (Json.obj (messageInputFields (textMessage 0) ++ more)).size := by
  obtain ⟨front, back, parts⟩ : ∃ front back, ∀ count, messageInputFields (textMessage count) =
      front ++ ("payload", .obj [("text", .str (String.ofList (List.replicate count 'x')))]) ::
        back :=
    ⟨(messageInputFields (textMessage 0)).take 6, (messageInputFields (textMessage 0)).drop 7,
      fun _ => rfl⟩
  rw [parts length, parts 0]
  simp only [Json.size, Json.sizeFields_append, Json.sizeFields, quotedSize_replicate,
    List.length_append, List.length_cons]
  omega

theorem textMessage_valid (length : Nat) : (textMessage length).Valid ↔ length ≤ 65315 := by
  have small : (textMessage 0).Valid := by
    rw [WorkflowMessageInputV1.Valid]
    decide +kernel
  have size := textMessage_size length []
  have rest : (Json.obj (messageInputFields (textMessage 0) ++ [])).size = 221 := by
    decide +kernel
  rw [List.append_nil, rest] at size
  simp only [WorkflowMessageInputV1.Valid, validateWorkflowMessageInput, bind_eq_ok, ensure_eq_ok,
    Bool.and_eq_true, decide_eq_true_eq, exists_const, Json.utf8ByteSize_stringify] at small ⊢
  rw [size, maxMessageBytes]
  constructor
  · intro valid
    have bound := valid.1.2
    omega
  · intro bound
    exact ⟨⟨small.1.1, by omega⟩, small.2⟩

theorem textMessage_fits (length : Nat) :
    ({ input := textMessage length, sequence := 1 } : WorkflowMessageV1).Fits ↔
      length ≤ 65302 := by
  have size := textMessage_size length [("sequence", .num 1)]
  have rest : (Json.obj (messageInputFields (textMessage 0) ++ [("sequence", .num 1)])).size =
      234 := by decide +kernel
  have fields : messageFields { input := textMessage length, sequence := 1 } =
      messageInputFields (textMessage length) ++ [("sequence", .num 1)] := rfl
  rw [WorkflowMessageV1.Fits, Json.utf8ByteSize_stringify, fields, size, rest, maxMessageBytes]
  omega

theorem postMessage_first {store : AuthorityStore} {projection : WorkflowProjectionV1}
    (valid : input.Valid) (empty : store.messages = Table.empty)
    (loaded : store.journal.loadProjection input.workflowId = .ok projection) :
    ∃ messages, postMessage store input = .ok ({ input, sequence := 1 }, { store with messages }) ∧
      messages.get? input.messageId = some { input, sequence := 1 } := by
  obtain ⟨row, stored, _⟩ := Journal.loadProjection_eq_ok.mp loaded
  have known : store.journal.workflows.contains input.workflowId = true :=
    store.journal.workflows.contains_iff.mpr ⟨row, stored⟩
  have absent : store.messages.get? input.messageId = none := by rw [empty, Table.get?_empty]
  have next : nextMessageSequence store.messages input.workflowId = 1 := by rw [empty]; rfl
  have missing := store.messages.get?_eq_none_iff.mp absent
  cases added : store.messages.insert input.messageId { input, sequence := 1 } with
  | none =>
    have present := Table.contains_of_insert_eq_none added
    rw [Table.contains, absent] at present
    cases present
  | some messages =>
    refine ⟨messages, ?_, by rw [Table.get?_of_insert added, if_pos rfl]⟩
    rw [WorkflowMessageInputV1.Valid] at valid
    simp only [postMessage, insertWorkflowMessage, absent, loaded, next, known, added, valid,
      ok_bind]
    rfl

/-- A store of one workflow. -/
def smallHistory : List StoreCall := [.create smallSpec "create" {}]

theorem smallHistory_messages : (StoreCall.run .empty smallHistory).messages = Table.empty := by
  with_unfolding_all rfl

theorem smallHistory_posted (valid : input.Valid) (workflow : input.workflowId = "workflow") :
    (StoreCall.run .empty (smallHistory ++ [.call (.postMessage input)])).messages.get?
      input.messageId = some { input, sequence := 1 } := by
  have created : ((StoreCall.run .empty smallHistory).journal.loadProjection "workflow").isOk =
      true := by decide +kernel
  rw [← workflow] at created
  cases loaded : (StoreCall.run .empty smallHistory).journal.loadProjection input.workflowId with
  | error error =>
    rw [loaded] at created
    cases created
  | ok projection =>
    obtain ⟨messages, posted, found⟩ := postMessage_first valid smallHistory_messages loaded
    rw [StoreCall.run, List.foldl_append, List.foldl_cons, List.foldl_nil, ← StoreCall.run,
      StoreCall.after, StoreCall.perform, AuthorityCall.perform, posted]
    exact found

/-- **A message that was accepted is rejected when it is posted again.** -/
theorem textMessage_not_reposted :
    ¬ ∀ (history : List StoreCall) (input : WorkflowMessageInputV1) (stored : WorkflowMessageV1),
      (StoreCall.run .empty history).messages.get? input.messageId = some stored →
      stored.input.json.Same input.json →
      postMessage (StoreCall.run .empty history) input =
        .ok (stored, StoreCall.run .empty history) := by
  intro always
  have refuted : ∀ length, length ≤ 65315 → length ≤ 65302 := by
    intro length bound
    have found := smallHistory_posted ((textMessage_valid length).mpr bound) rfl
    have answered := always _ _ _ found (.refl _)
    have fits := (((Mailbox.of_run _).postMessage_stored found _).mp answered).1.1
    exact (textMessage_fits length).mp fits
  exact absurd (refuted 65315 le_rfl) (by decide)

end Praxis.Workflow
