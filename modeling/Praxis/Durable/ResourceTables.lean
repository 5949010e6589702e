import Praxis.Foundations.Runs
import Praxis.Durable.AuthorityAgreement

/-!
# Timers, human tasks and messages

The tables of the resources that wake or inform a workflow, and how an operation may write
them: a row is inserted under its own id; a timer fires once; a human task is resolved once; a
message is acknowledged once. Every operation writes each table by such steps
(`StoreCall.after_resources`), so that every row stays under its own id (`Filed`).
-/

namespace Praxis.Workflow

set_option autoImplicit false

open Praxis.Foundations

/-! ## Steps of the tables -/

inductive TimerStep (before after : Table String TimerRow) : Prop
  | inserted {timer : WorkflowTimerV1} (insert : insertTimer before timer = .ok after)
  | fired {row : TimerRow} {now : Timestamp}
      (found : before.get? row.timer.timerId = some row) (unfired : row.firedAt = none)
      (same : after = before.update row.timer.timerId { row with firedAt := some now })

inductive HumanTaskStep (before after : Table String WorkflowHumanTaskV1) : Prop
  | inserted {task : WorkflowHumanTaskV1} (insert : insertHumanTask before task = .ok after)
  | resolved {humanTaskId : String} {task : WorkflowHumanTaskV1} {state : HumanResolutionV1}
      {resolution : Json} (found : before.get? humanTaskId = some task)
      (waiting : task.state = .waiting)
      (same : after = before.update humanTaskId
        { task with state := state.toState, resolution := some resolution })

inductive MessageStep [Collation] (before after : Table String WorkflowMessageV1) : Prop
  | inserted {journal : Journal} {input : WorkflowMessageInputV1} {message : WorkflowMessageV1}
      (insert : insertWorkflowMessage journal before input = .ok (message, after))
  | acknowledged {message : WorkflowMessageV1} {at_ : Timestamp}
      (found : before.get? message.input.messageId = some message)
      (unread : message.acknowledgedAt = none) (valid : at_.valid = true)
      (same : after = before.update message.input.messageId
        { message with acknowledgedAt := some at_ })

/-- What an operation does to the resources. -/
structure ResourceSteps [Collation] (before after : AuthorityStore) : Prop where
  timers : Relation.ReflTransGen TimerStep before.timers after.timers
  humanTasks : Relation.ReflTransGen HumanTaskStep before.humanTasks after.humanTasks
  messages : Relation.ReflTransGen MessageStep before.messages after.messages

/-- Every resource is stored under its own id. -/
structure Filed (store : AuthorityStore) : Prop where
  timers : ∀ key row, store.timers.get? key = some row → row.timer.timerId = key
  humanTasks : ∀ key task, store.humanTasks.get? key = some task → task.humanTaskId = key
  messages : ∀ key message, store.messages.get? key = some message →
    message.input.messageId = key

section Steps

variable {before after : AuthorityStore} {table next : Table String TimerRow}

theorem insertTimer_ok {timer : WorkflowTimerV1} (inserted : insertTimer table timer = .ok next) :
    table.insert timer.timerId { timer, firedAt := none } = some next := by
  simpa only [insertTimer, orError_eq_ok] using inserted

theorem insertHumanTask_ok {table next : Table String WorkflowHumanTaskV1}
    {task : WorkflowHumanTaskV1} (inserted : insertHumanTask table task = .ok next) :
    table.insert task.humanTaskId task = some next := by
  simpa only [insertHumanTask, orError_eq_ok] using inserted

theorem insertWorkflowMessage_ok [Collation] {journal : Journal} {table next : Table String WorkflowMessageV1}
    {input : WorkflowMessageInputV1} {message : WorkflowMessageV1}
    (inserted : insertWorkflowMessage journal table input = .ok (message, next)) :
    (table.get? input.messageId = some message ∧ next = table ∧
      (Json.obj (messageInputFields message.input)).canonical =
        (Json.obj (messageInputFields input)).canonical) ∨
    (message = { input, sequence := nextMessageSequence table input.workflowId } ∧
      table.insert input.messageId message = some next) := by
  simp only [insertWorkflowMessage, bind_eq_ok] at inserted
  obtain ⟨_, _, taken⟩ := inserted
  split at taken
  · rename_i stored found
    simp only [parseWorkflowMessage, bind_eq_ok, ensure_eq_ok, pure_eq_ok, beq_iff_eq,
      Prod.mk.injEq] at taken
    obtain ⟨_, ⟨_, _, _, _, rfl⟩, _, same, rfl, rfl⟩ := taken
    exact .inl ⟨found, rfl, same⟩
  · simp only [bind_eq_ok, ensure_eq_ok, orError_eq_ok, pure_eq_ok, Prod.mk.injEq] at taken
    obtain ⟨_, _, _, _, _, added, rfl, rfl⟩ := taken
    exact .inr ⟨rfl, added⟩

theorem ResourceSteps.refl [Collation] (store : AuthorityStore) : ResourceSteps store store :=
  ⟨.refl, .refl, .refl⟩

theorem ResourceSteps.trans [Collation] {middle : AuthorityStore} (first : ResourceSteps before middle)
    (second : ResourceSteps middle after) : ResourceSteps before after where
  timers := first.timers.trans second.timers
  humanTasks := first.humanTasks.trans second.humanTasks
  messages := first.messages.trans second.messages

/-- An operation that leaves the three tables alone. -/
theorem ResourceSteps.of_same [Collation] (timers : after.timers = before.timers)
    (humanTasks : after.humanTasks = before.humanTasks)
    (messages : after.messages = before.messages) : ResourceSteps before after where
  timers := timers ▸ .refl
  humanTasks := humanTasks ▸ .refl
  messages := messages ▸ .refl

theorem TimerStep.filed (step : TimerStep table next)
    (filed : ∀ key row, table.get? key = some row → row.timer.timerId = key) :
    ∀ key row, next.get? key = some row → row.timer.timerId = key := by
  intro key row present
  cases step with
  | inserted insert =>
    rw [Table.get?_of_insert (insertTimer_ok insert)] at present
    split at present
    · rename_i same
      obtain rfl := Option.some.inj present
      exact same.symm
    · exact filed key row present
  | fired found _ same =>
    rw [same, Table.get?_update, found] at present
    split at present
    · rename_i here
      obtain rfl := Option.some.inj present
      exact here.symm
    · exact filed key row present

theorem HumanTaskStep.filed {table next : Table String WorkflowHumanTaskV1}
    (step : HumanTaskStep table next)
    (filed : ∀ key task, table.get? key = some task → task.humanTaskId = key) :
    ∀ key task, next.get? key = some task → task.humanTaskId = key := by
  intro key task present
  cases step with
  | inserted insert =>
    rw [Table.get?_of_insert (insertHumanTask_ok insert)] at present
    split at present
    · rename_i same
      obtain rfl := Option.some.inj present
      exact same.symm
    · exact filed key task present
  | resolved found _ same =>
    rw [same, Table.get?_update, found] at present
    split at present
    · rename_i here
      obtain rfl := Option.some.inj present
      exact (filed _ _ found).trans here.symm
    · exact filed key task present

theorem MessageStep.filed [Collation] {table next : Table String WorkflowMessageV1}
    (step : MessageStep table next)
    (filed : ∀ key message, table.get? key = some message → message.input.messageId = key) :
    ∀ key message, next.get? key = some message → message.input.messageId = key := by
  intro key message present
  cases step with
  | inserted insert =>
    rcases insertWorkflowMessage_ok insert with ⟨_, rfl, _⟩ | ⟨same, added⟩
    · exact filed key message present
    · rw [Table.get?_of_insert added] at present
      split at present
      · rename_i here
        obtain rfl := Option.some.inj present
        rw [same]
        exact here.symm
      · exact filed key message present
  | acknowledged found _ _ same =>
    rw [same, Table.get?_update, found] at present
    split at present
    · rename_i here
      obtain rfl := Option.some.inj present
      exact here.symm
    · exact filed key message present

/-- **Steps of the resources keep every row under its id.** -/
theorem ResourceSteps.filed [Collation] (steps : ResourceSteps before after) (filed : Filed before) :
    Filed after where
  timers := steps_keep
    (fun table => ∀ key row, table.get? key = some row → row.timer.timerId = key)
    (fun _ _ held step => step.filed held) filed.timers steps.timers
  humanTasks := steps_keep
    (fun table => ∀ key task, table.get? key = some task → task.humanTaskId = key)
    (fun _ _ held step => step.filed held) filed.humanTasks steps.humanTasks
  messages := steps_keep
    (fun table => ∀ key message, table.get? key = some message → message.input.messageId = key)
    (fun _ _ held step => step.filed held) filed.messages steps.messages

theorem Filed.empty : Filed .empty where
  timers := by simp [AuthorityStore.empty]
  humanTasks := by simp [AuthorityStore.empty]
  messages := by simp [AuthorityStore.empty]

end Steps

/-! ## Operations -/

section Operations

variable {store after : AuthorityStore}

theorem foldlM_steps {κ ν ι : Type} {step : Table κ ν → Table κ ν → Prop}
    {insert : Table κ ν → ι → Except WorkflowError (Table κ ν)} {items : List ι}
    {table next : Table κ ν}
    (each : ∀ {table item next}, insert table item = .ok next → step table next)
    (folded : items.foldlM insert table = .ok next) : Relation.ReflTransGen step table next :=
  foldlM_relates (Relation.ReflTransGen step) (fun _ => .refl) (fun first => first.trans)
    (fun inserted => .single (each inserted)) folded

variable {next : WorkflowProjectionV1} {input : WorkflowMessageInputV1} {now at_ : Timestamp}
  {message : WorkflowMessageV1} {workflowId recipientNodeId messageId : String}
  {throughSequence : Int} {fresh : Bool}

theorem transact_resources [Collation] {input : WorkflowTransactionV1}
    (accepted : transact store input = .ok (next, after)) : ResourceSteps store after := by
  simp only [transact, bind_eq_ok, ensure_eq_ok] at accepted
  obtain ⟨_, _, taken⟩ := accepted
  split at taken
  · obtain ⟨_, rfl⟩ := Prod.mk.inj (pure_eq_ok.mp taken)
    exact .refl store
  · simp only [transactFresh, bind_eq_ok, pure_eq_ok, ensure_eq_ok, Prod.mk.injEq,
      Prod.exists] at taken
    obtain ⟨_, _, _, _, _, journal, _, _, _, _, _, _, timers, _, humanTasks, _, _, _, _, messages, _,
      _, _, _, _, _, _, _, _, rfl⟩ := taken
    refine ⟨foldlM_steps .inserted timers, foldlM_steps .inserted humanTasks,
      foldlM_steps ?_ messages⟩
    intro table message next inserted
    simp only [bind_eq_ok, pure_eq_ok, Prod.exists] at inserted
    obtain ⟨_, _, inserted, rfl⟩ := inserted
    exact .inserted inserted

theorem create_resources [Collation] {spec : WorkflowSpecV1} {transactionId : String}
    {bootstrap : WorkflowBootstrapV1}
    (accepted : create store spec transactionId bootstrap = .ok (next, after)) :
    ResourceSteps store after := by
  simp only [create, bind_eq_ok] at accepted
  obtain ⟨_, _, taken⟩ := accepted
  split at taken
  · obtain ⟨_, rfl⟩ := Prod.mk.inj (pure_eq_ok.mp taken)
    exact .refl store
  · simp only [createFresh, bind_eq_ok, pure_eq_ok, ensure_eq_ok, Prod.mk.injEq,
      Prod.exists] at taken
    obtain ⟨_, _, _, _, _, _, _, _, _, _, _, _, _, _, _, timers, _, humanTasks, _, _, _, _, _, _,
      rfl⟩ := taken
    exact ⟨foldlM_steps .inserted timers, foldlM_steps .inserted humanTasks, .refl⟩

/-- What the firing of each listed timer keeps, the firing of all of them keeps: no timer has fired
before its turn. -/
theorem fireTimers_listed (Inv : List WorkflowTimerV1 → AuthorityStore → Prop)
    {rows : List TimerRow}
    (keeps : ∀ row ∈ rows, ∀ fired before fired' middle, Inv fired before →
      before.timers.get? row.timer.timerId = some row → row.firedAt = none →
      fireTimer now (fired, before) row = .ok (fired', middle) → Inv fired' middle)
    {state state' : List WorkflowTimerV1 × AuthorityStore}
    (apart : rows.Pairwise fun row other => row.timer.timerId ≠ other.timer.timerId)
    (unfired : ∀ row ∈ rows, state.2.timers.get? row.timer.timerId = some row ∧
      row.firedAt = none) (inv : Inv state.1 state.2)
    (fires : rows.foldlM (fireTimer now) state = .ok state') : Inv state'.1 state'.2 := by
  induction rows generalizing state with
  | nil =>
    obtain rfl := foldlM_nil_eq_ok.mp fires
    exact inv
  | cons row rest ih =>
    obtain ⟨⟨fired, middle⟩, first, others⟩ := foldlM_cons_eq_ok.mp fires
    obtain ⟨different, apart⟩ := List.pairwise_cons.mp apart
    rw [List.forall_mem_cons] at keeps unfired
    obtain ⟨⟨found, waiting⟩, later⟩ := unfired
    refine ih keeps.2 apart (fun other member => ?_)
      (keeps.1 _ _ _ _ inv found waiting first) others
    obtain ⟨stored, still⟩ := later other member
    obtain ⟨_, _, _, _, rfl, _⟩ := fireTimer_ok first
    exact ⟨(Table.get?_update_ne _ _ (different other member).symm).trans stored, still⟩

theorem dueTimers_stored (filed : Filed store) :
    ∀ row ∈ dueTimers store now, store.timers.get? row.timer.timerId = some row ∧
      row.firedAt = none := by
  intro row member
  rw [dueTimers, List.mem_insertionSort, List.mem_filter] at member
  obtain ⟨stored, due⟩ := member
  obtain ⟨key, found⟩ := store.timers.mem_values_iff.mp stored
  rw [filed.timers key row found]
  simp only [Bool.and_eq_true, Option.isNone_iff_eq_none] at due
  exact ⟨found, due.1⟩

theorem dueTimers_apart (filed : Filed store) :
    (dueTimers store now).Pairwise fun row other => row.timer.timerId ≠ other.timer.timerId := by
  have rows : store.timers.values.Pairwise fun row other =>
      row.timer.timerId ≠ other.timer.timerId := by
    rw [Table.values, List.pairwise_map]
    have keys := List.pairwise_map.mp store.timers.unique
    refine keys.imp_of_mem fun {first second} here there different same => different ?_
    rw [filed.timers _ _ (store.timers.mem_rows_iff.mp here),
      filed.timers _ _ (store.timers.mem_rows_iff.mp there)] at same
    exact same
  have sorted := List.perm_insertionSort (fun left right => firesBefore left right)
    (store.timers.values.filter fun row => row.firedAt.isNone && row.timer.fireAt.textLe now)
  exact (sorted.pairwise_iff fun different => different.symm).mpr (rows.filter _)

theorem fireDueTimers_resources [Collation] {fired : List WorkflowTimerV1} (filed : Filed store)
    (accepted : fireDueTimers store now = .ok (fired, after)) : ResourceSteps store after := by
  simp only [fireDueTimers, bind_eq_ok, ensure_eq_ok] at accepted
  obtain ⟨_, _, run⟩ := accepted
  refine fireTimers_listed (fun _ later => ResourceSteps store later)
    (fun row _ _ before _ middle steps found waiting fires => ?_)
    (dueTimers_apart filed) (dueTimers_stored filed) (.refl store) run
  obtain ⟨_, _, _, _, rfl, _⟩ := fireTimer_ok fires
  exact steps.trans ⟨.single (.fired found waiting rfl), .refl, .refl⟩

theorem resolveHumanTask_resources [Collation] {humanTaskId : String} {state : HumanResolutionV1}
    {resolution : Json} {task : WorkflowHumanTaskV1}
    (accepted : resolveHumanTask store humanTaskId state resolution at_ = .ok (task, after)) :
    ResourceSteps store after := by
  rcases resolveHumanTask_ok accepted with
    ⟨_, _, rfl⟩ | ⟨_, _, _, _, found, waiting, rfl, rfl, _⟩
  · exact .refl _
  · exact ⟨.refl, .single (.resolved found waiting rfl), .refl⟩

theorem parseWorkflowMessage_returns {parsed : WorkflowMessageV1}
    (accepted : parseWorkflowMessage message = .ok parsed) : parsed = message := by
  simp only [parseWorkflowMessage, bind_eq_ok, pure_eq_ok] at accepted
  obtain ⟨_, _, _, _, rfl⟩ := accepted
  rfl

theorem acknowledgeOne_ok {table next : Table String WorkflowMessageV1}
    (accepted : acknowledgeOne at_ table message = .ok next) :
    next = table.update message.input.messageId { message with acknowledgedAt := some at_ } := by
  simp only [acknowledgeOne, bind_eq_ok, pure_eq_ok] at accepted
  obtain ⟨parsed, valid, rfl⟩ := accepted
  obtain rfl := parseWorkflowMessage_returns valid
  rfl

theorem acknowledgeAll_steps [Collation] {unread : List WorkflowMessageV1}
    {table next : Table String WorkflowMessageV1} (valid : at_.valid = true)
    (apart : unread.Pairwise fun message other => message.input.messageId ≠ other.input.messageId)
    (stored : ∀ message ∈ unread, table.get? message.input.messageId = some message ∧
      message.acknowledgedAt = none)
    (accepted : unread.foldlM (acknowledgeOne at_) table = .ok next) :
    Relation.ReflTransGen MessageStep table next := by
  induction unread generalizing table with
  | nil =>
    obtain rfl := foldlM_nil_eq_ok.mp accepted
    exact .refl
  | cons message rest ih =>
    obtain ⟨middle, first, others⟩ := foldlM_cons_eq_ok.mp accepted
    have written := acknowledgeOne_ok first
    obtain ⟨different, apart⟩ := List.pairwise_cons.mp apart
    obtain ⟨found, open_⟩ := stored message (List.mem_cons_self ..)
    refine .head (.acknowledged found open_ valid written) (ih apart (fun other member => ?_) others)
    obtain ⟨there, still⟩ := stored other (List.mem_cons_of_mem _ member)
    refine ⟨?_, still⟩
    rw [written, Table.get?_update_ne _ _ (different other member).symm]
    exact there

def unreadMessages (store : AuthorityStore) (workflowId recipientNodeId : String)
    (throughSequence : Int) : List WorkflowMessageV1 :=
  (store.messages.values.filter fun message =>
    isUnreadBy workflowId recipientNodeId message &&
      decide ((message.sequence : Int) ≤ throughSequence)).insertionSort
        fun left right => left.sequence ≤ right.sequence

theorem unreadMessages_stored {workflowId recipientNodeId : String} {throughSequence : Int}
    (filed : Filed store) :
    ∀ message ∈ unreadMessages store workflowId recipientNodeId throughSequence,
      store.messages.get? message.input.messageId = some message ∧
        message.acknowledgedAt = none := by
  intro message member
  rw [unreadMessages, List.mem_insertionSort, List.mem_filter] at member
  obtain ⟨stored, unread⟩ := member
  obtain ⟨key, found⟩ := store.messages.mem_values_iff.mp stored
  rw [filed.messages key message found]
  simp only [isUnreadBy, Bool.and_eq_true, Option.isNone_iff_eq_none] at unread
  exact ⟨found, unread.1.2⟩

theorem unreadMessages_apart (filed : Filed store) :
    (unreadMessages store workflowId recipientNodeId throughSequence).Pairwise
      fun message other => message.input.messageId ≠ other.input.messageId := by
  have rows : store.messages.values.Pairwise fun message other =>
      message.input.messageId ≠ other.input.messageId := by
    rw [Table.values, List.pairwise_map]
    have keys := List.pairwise_map.mp store.messages.unique
    refine keys.imp_of_mem fun {first second} here there different same => different ?_
    rw [filed.messages _ _ (store.messages.mem_rows_iff.mp here),
      filed.messages _ _ (store.messages.mem_rows_iff.mp there)] at same
    exact same
  exact ((List.perm_insertionSort _ _).pairwise_iff fun different => different.symm).mpr
    (rows.filter _)

theorem acknowledgeMessages_ok {count : Nat}
    (accepted : acknowledgeMessages store workflowId recipientNodeId throughSequence at_ =
      .ok (count, after)) : at_.valid = true ∧
      count = (unreadMessages store workflowId recipientNodeId throughSequence).length ∧
      (unreadMessages store workflowId recipientNodeId throughSequence).foldlM
        (acknowledgeOne at_) store.messages = .ok after.messages ∧
      after = { store with messages := after.messages } := by
  simp only [acknowledgeMessages, bind_eq_ok, ensure_eq_ok, pure_eq_ok, Prod.mk.injEq] at accepted
  obtain ⟨_, checked, _, _, messages, folded, rfl, rfl⟩ := accepted
  rw [Bool.and_eq_true] at checked
  exact ⟨checked.2, rfl, folded, rfl⟩

theorem acknowledgeMessage_ok
    (accepted : acknowledgeMessage store workflowId messageId recipientNodeId at_ =
      .ok (fresh, after)) : ∃ message, store.messages.get? messageId = some message ∧
      message.input.workflowId = workflowId ∧ message.input.recipient.kind = .node ∧
      message.input.recipient.id = recipientNodeId ∧
      at_.valid = true ∧ fresh = message.acknowledgedAt.isNone ∧
      after = { store with
        messages := if fresh then
            store.messages.update messageId { message with acknowledgedAt := some at_ }
          else store.messages } := by
  simp only [acknowledgeMessage, bind_eq_ok, ensure_eq_ok, orError_eq_ok,
    Option.filter_eq_some_iff, decide_eq_true_eq] at accepted
  obtain ⟨_, checked, message, ⟨found, keys⟩, parsed, valid, taken⟩ := accepted
  obtain rfl := parseWorkflowMessage_returns valid
  rw [Bool.and_eq_true] at checked
  refine ⟨parsed, found, keys.1, keys.2.1, keys.2.2, checked.2, ?_⟩
  cases read : parsed.acknowledgedAt with
  | some _ =>
    rw [read, if_pos (by rfl)] at taken
    obtain ⟨rfl, rfl⟩ := Prod.mk.inj (pure_eq_ok.mp taken)
    exact ⟨rfl, rfl⟩
  | none =>
    rw [read, if_neg (by decide)] at taken
    obtain ⟨rfl, rfl⟩ := Prod.mk.inj (pure_eq_ok.mp taken)
    exact ⟨rfl, rfl⟩

theorem acknowledgeMessage_resources [Collation] (filed : Filed store)
    (accepted : acknowledgeMessage store workflowId messageId recipientNodeId at_ =
      .ok (fresh, after)) : ResourceSteps store after := by
  obtain ⟨message, found, _, _, _, valid, rfl, rfl⟩ := acknowledgeMessage_ok accepted
  refine ⟨.refl, .refl, ?_⟩
  cases unread : message.acknowledgedAt with
  | some _ => exact .refl
  | none =>
    obtain rfl := filed.messages messageId message found
    exact .single (.acknowledged found unread valid rfl)

theorem postMessage_ok [Collation] (accepted : postMessage store input = .ok (message, after)) :
    (store.messages.get? input.messageId = some message ∧ after = store ∧
      message.input.workflowId = input.workflowId ∧
      (Json.obj (messageInputFields message.input)).canonical =
        (Json.obj (messageInputFields input)).canonical) ∨
    (store.messages.get? input.messageId = none ∧
      insertWorkflowMessage store.journal store.messages input = .ok (message, after.messages) ∧
      after = { store with messages := after.messages }) := by
  simp only [postMessage] at accepted
  split at accepted
  · rename_i stored found
    simp only [bind_eq_ok, ensure_eq_ok, pure_eq_ok, Prod.mk.injEq, Bool.and_eq_true,
      beq_iff_eq] at accepted
    obtain ⟨prior, valid, _, ⟨workflow, same⟩, rfl, rfl⟩ := accepted
    obtain rfl := parseWorkflowMessage_returns valid
    exact .inl ⟨found, rfl, workflow, same⟩
  · rename_i absent
    simp only [bind_eq_ok, pure_eq_ok, Prod.mk.injEq, Prod.exists] at accepted
    obtain ⟨_, _, _, _, inserted, rfl, rfl⟩ := accepted
    exact .inr ⟨absent, inserted, rfl⟩

theorem postMessage_resources [Collation] (accepted : postMessage store input = .ok (message, after)) :
    ResourceSteps store after := by
  rcases postMessage_ok accepted with ⟨_, rfl, _⟩ | ⟨_, inserted, same⟩
  · exact .refl _
  · refine ⟨?_, ?_, .single (.inserted inserted)⟩ <;> rw [same]

theorem recoverExpired_resources [Collation] {ids : Nat → RecoveryIds}
    {decisions : List WorkflowRecoveryDecisionV1}
    (accepted : recoverExpired store now ids = .ok (decisions, after)) :
    ResourceSteps store after := by
  refine recoverTasks_invariant (fun later => ResourceSteps store later) ?_ (.refl store) accepted
  intro before row ids decision after steps effect
  cases effect with
  | ended => exact steps.trans (.of_same rfl rfl rfl)
  | retried => exact steps.trans (.of_same rfl rfl rfl)
  | settled => exact steps.trans (.of_same rfl rfl rfl)

/-- **Every operation writes the resources in steps.** -/
theorem AuthorityCall.perform_resources [Collation] {call : AuthorityCall} {answer : AuthorityAnswer}
    (filed : Filed store) (accepted : call.perform store = .ok (answer, after)) :
    ResourceSteps store after := by
  cases call <;> simp only [AuthorityCall.perform, answering_eq_ok] at accepted <;>
    obtain ⟨value, accepted, _⟩ := accepted
  case admitTaskForRequest =>
    rcases admitTaskForRequest_ok accepted with rfl | ⟨_, _, _, _, _, _, _, _, same⟩
    · exact .refl _
    · rw [same]
      exact .of_same rfl rfl rfl
  case bindTaskCapabilityBundle =>
    obtain ⟨_, _, _, _, _, _, _, _, rfl, _⟩ := bindTaskCapabilityBundle_ok accepted
    exact .of_same rfl rfl rfl
  case claim =>
    rcases claim_ok accepted with ⟨_, rfl⟩ | ⟨_, _, _, _, _, _, _, _, _, rfl, _⟩
    · exact .refl _
    · exact .of_same rfl rfl rfl
  case heartbeat =>
    obtain ⟨_, _, _, _, _, _, _, _, _, rfl⟩ := heartbeat_ok accepted
    exact .of_same rfl rfl rfl
  case recoverExpired => exact recoverExpired_resources accepted
  case signal =>
    rcases signal_ok accepted with ⟨_, _, rfl⟩ | ⟨_, _, _, _, _, _, rfl, _⟩
    · exact .refl _
    · exact .of_same rfl rfl rfl
  case fireDueTimers => exact fireDueTimers_resources filed accepted
  case resolveHumanTask => exact resolveHumanTask_resources accepted
  case reserveEffect =>
    cases reserveEffect_ok accepted with
    | granted => exact .of_same rfl rfl rfl
    | replayed => exact .of_same rfl rfl rfl
    | refused => exact .refl _
  case markEffectCompensated =>
    rcases markEffectCompensated_ok accepted with rfl | ⟨_, _, _, _, _, _, _, _, rfl, _⟩
    · exact .refl _
    · exact .of_same rfl rfl rfl
  case reserveEffectRequest =>
    rw [reserveEffectRequest_journal accepted]
    exact .of_same rfl rfl rfl
  case postMessage => exact postMessage_resources accepted
  case acknowledgeMessages =>
    obtain ⟨valid, _, folded, same⟩ := acknowledgeMessages_ok accepted
    refine ⟨?_, ?_, acknowledgeAll_steps valid (unreadMessages_apart filed)
      (unreadMessages_stored filed) folded⟩ <;> rw [same]
  case acknowledgeMessage => exact acknowledgeMessage_resources filed accepted
  case retryNode =>
    obtain ⟨_, _, _, _, _, _, _, _, _, _, _, _, _, _, _, same, _⟩ := retryNode_ok accepted
    rw [same]
    exact .of_same rfl rfl rfl
  case resolveUnknown =>
    obtain ⟨_, _, _, _, _, _, applied⟩ := resolveUnknown_ok accepted
    exact transact_resources applied

theorem StoreCall.after_resources [Collation] (call : StoreCall) (filed : Filed store) :
    ResourceSteps store (call.after store) := by
  rw [StoreCall.after]
  split
  · rename_i accepted
    cases call with
    | create =>
      simp only [StoreCall.perform, answering_eq_ok] at accepted
      obtain ⟨_, created, _⟩ := accepted
      exact create_resources created
    | transact =>
      simp only [StoreCall.perform, answering_eq_ok] at accepted
      obtain ⟨_, applied, _⟩ := accepted
      exact transact_resources applied
    | call operation =>
      rw [StoreCall.perform] at accepted
      exact operation.perform_resources filed accepted
  · exact .refl store

theorem StoreCall.run_resources [Collation] (calls : List StoreCall) (filed : Filed store) :
    ResourceSteps store (run store calls) := by
  induction calls generalizing store with
  | nil => exact .refl store
  | cons call rest ih =>
    have steps := call.after_resources filed
    exact steps.trans (ih (steps.filed filed))

/-- **After every run every resource is stored under its own id.** -/
theorem StoreCall.run_filed [Collation] (calls : List StoreCall) : Filed (run .empty calls) :=
  (run_resources calls Filed.empty).filed Filed.empty

end Operations

end Praxis.Workflow
