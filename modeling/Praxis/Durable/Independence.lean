import Praxis.Foundations.Lockstep
import Praxis.Durable.AuthorityAgreement

/-!
# Workflows that share a store

Signals and requested tasks are kept under a workflow and an id, but what they append goes
under transaction ids that all workflows share: `signal-` and the signal id, or
`execution-admit-` and the request id. A call on one workflow is therefore rejected when a call
on another workflow used its id before (`sameSignal_rejected`).

Two runs are compared: one with the calls on a workflow, and one without them. The store of the
first has the rows of the second and more (`Beside`). A call on another workflow that avoids the
ids written there runs in lockstep on both (`CrossCall.perform_lockstep`), so it answers the same
and leaves the same behind (`observations_removed`).
-/

namespace Praxis.Workflow

set_option autoImplicit false

open Praxis.Foundations

/-! ## Calls -/

/-- The operations that deduplicate by an id within their workflow. -/
inductive CrossCall where
  | signal (input : WorkflowSignalV1)
  | admitTaskForRequest (request : ReviewPlanExecutionRequestV1) (taskSpec : WorkflowTaskSpecV1)
      (requestDigest : String) (taskUuid attemptUuid : Uuid)

/-- What a call answers. -/
inductive CrossAnswer where
  | received (fresh : Bool)
  | admitted (task : WorkflowTaskV1) (replayed : Bool)

/-- The call was not a repetition. -/
def CrossAnswer.wrote : CrossAnswer → Bool
  | received fresh => fresh
  | admitted _ replayed => !replayed

/-- Ids in tables whose keys do not name the workflow. -/
structure SharedIds where
  transactions : List String := []
  tasks : List String := []
  attempts : List String := []

def SharedIds.append (ids more : SharedIds) : SharedIds where
  transactions := more.transactions ++ ids.transactions
  tasks := more.tasks ++ ids.tasks
  attempts := more.attempts ++ ids.attempts

namespace CrossCall

def workflowId : CrossCall → String
  | signal input => input.workflowId
  | admitTaskForRequest request _ _ _ _ => request.workflowId

def ids : CrossCall → SharedIds
  | signal input => { transactions := ["signal-" ++ input.signalId] }
  | admitTaskForRequest request _ _ taskUuid attemptUuid =>
    { transactions := ["execution-admit-" ++ request.binding.requestId]
      tasks := ["task-" ++ taskUuid.text]
      attempts := ["attempt-" ++ attemptUuid.text] }

def perform (store : AuthorityStore) :
    CrossCall → Except WorkflowError (CrossAnswer × AuthorityStore)
  | signal input => do
      let (fresh, after) ← Workflow.signal store input
      return (.received fresh, after)
  | admitTaskForRequest request taskSpec requestDigest taskUuid attemptUuid => do
      let ((task, replayed), after) ←
        Workflow.admitTaskForRequest store request taskSpec requestDigest taskUuid attemptUuid
      return (.admitted task replayed, after)

def attempt (store : AuthorityStore) (call : CrossCall) :
    Except WorkflowError CrossAnswer × AuthorityStore :=
  match call.perform store with
  | .ok (answer, after) => (.ok answer, after)
  | .error error => (.error error, store)

structure Avoids (call : CrossCall) (written : SharedIds) : Prop where
  transactions : ∀ id ∈ call.ids.transactions, id ∉ written.transactions
  tasks : ∀ id ∈ call.ids.tasks, id ∉ written.tasks
  attempts : ∀ id ∈ call.ids.attempts, id ∉ written.attempts

instance (call : CrossCall) (written : SharedIds) : Decidable (call.Avoids written) :=
  decidable_of_iff ((∀ id ∈ call.ids.transactions, id ∉ written.transactions) ∧
      (∀ id ∈ call.ids.tasks, id ∉ written.tasks) ∧
      ∀ id ∈ call.ids.attempts, id ∉ written.attempts)
    ⟨fun all => ⟨all.1, all.2.1, all.2.2⟩,
      fun avoids => ⟨avoids.transactions, avoids.tasks, avoids.attempts⟩⟩

end CrossCall

/-- What a store holds of one workflow. -/
structure WorkflowView where
  row : Option WorkflowRow
  log : List WorkflowEventV1
  signals : List ((String × String) × WorkflowSignalV1)
  tasks : List TaskRow
  taskRequests : List ((String × String) × TaskRequestRow)
  outbox : List WorkflowOutboxMessageV1

def AuthorityStore.view (store : AuthorityStore) (workflowId : String) : WorkflowView where
  row := store.journal.workflows.get? workflowId
  log := store.journal.log workflowId
  signals := store.signals.rows.filter fun row => row.1.1 = workflowId
  tasks := store.tasks.values.filter fun row => row.task.workflowId = workflowId
  taskRequests := store.taskRequests.rows.filter fun row => row.1.1 = workflowId
  outbox := store.outbox.values.filter fun message => message.workflowId = workflowId

/-- What the calls on other workflows than `own` answer, and what they leave of theirs. -/
def observations (own : String) :
    AuthorityStore → List CrossCall → List (Except WorkflowError CrossAnswer × WorkflowView)
  | _, [] => []
  | store, call :: rest =>
    let result := call.attempt store
    if call.workflowId = own then observations own result.2 rest
    else (result.1, result.2.view call.workflowId) :: observations own result.2 rest

/-- No call on another workflow writes under an id that an earlier call on `own` wrote. -/
def AvoidsOwn (own : String) : SharedIds → AuthorityStore → List CrossCall → Prop
  | _, _, [] => True
  | written, store, call :: rest =>
    let result := call.attempt store
    if call.workflowId = own then
      AvoidsOwn own (if result.1.toOption.any (·.wrote) then written.append call.ids else written)
        result.2 rest
    else call.Avoids written ∧ AvoidsOwn own written result.2 rest

def decideAvoidsOwn (own : String) : ∀ (written : SharedIds) (store : AuthorityStore)
    (calls : List CrossCall), Decidable (AvoidsOwn own written store calls)
  | _, _, [] => isTrue trivial
  | written, store, call :: rest =>
    if mine : call.workflowId = own then
      have := decideAvoidsOwn own
        (if (call.attempt store).1.toOption.any (·.wrote) then written.append call.ids
          else written) (call.attempt store).2 rest
      decidable_of_iff (AvoidsOwn own _ (call.attempt store).2 rest)
        (by rw [AvoidsOwn, if_pos mine])
    else
      have := decideAvoidsOwn own written (call.attempt store).2 rest
      decidable_of_iff (call.Avoids written ∧ AvoidsOwn own written (call.attempt store).2 rest)
        (by rw [AvoidsOwn, if_neg mine])

instance (own : String) (written : SharedIds) (store : AuthorityStore) (calls : List CrossCall) :
    Decidable (AvoidsOwn own written store calls) :=
  decideAvoidsOwn own written store calls

/-! ## A journal beside another one -/

/-- A journal that has the events of another one, and events of `own` under transactions of the
list. -/
structure Journal.Beside (own : String) (written : List String) (wide narrow : Journal) :
    Prop where
  workflows : ∀ workflowId, workflowId ≠ own →
    wide.workflows.get? workflowId = narrow.workflows.get? workflowId
  events : Table.Overlay (fun _ event => event.workflowId == own)
    (fun key event => key.1 = own ∧ ∃ transactionId ∈ written,
      event.eventId = eventIdOf transactionId event.sequence) wide.events narrow.events
  transactions : Table.Overlay (fun _ projection => projection.workflowId == own)
    (fun key _ => key ∈ written) wide.transactions narrow.transactions

variable {workflowId : String}

namespace Journal.Beside

variable {own : String} {written : List String} {wide narrow : Journal}

theorem refl (journal : Journal) : Beside own written journal journal where
  workflows := fun _ _ => rfl
  events := .refl _
  transactions := .refl _

theorem loadProjection (beside : Beside own written wide narrow)
    (other : workflowId ≠ own) :
    wide.loadProjection workflowId = narrow.loadProjection workflowId := by
  rw [Journal.loadProjection, beside.workflows workflowId other, Journal.loadProjection]

variable {transactionId : String}

variable (beside : Beside own written wide narrow)
include beside

theorem insertEvent {event : WorkflowEventV1}
    (other : event.workflowId ≠ own) (id : event.eventId = eventIdOf transactionId event.sequence)
    (unwritten : transactionId ∉ written) :
    Lockstep (Beside own written) (wide.insertEvent event) (narrow.insertEvent event) := by
  rw [Journal.insertEvent, Journal.insertEvent, Table.contains,
    beside.workflows event.workflowId other, ← Table.contains]
  refine .bind_same fun _ _ => ?_
  -- No event of the list has the id, since its transaction would be the one of this event.
  have taken : wide.events.values.any (fun logged => logged.eventId = event.eventId) =
      narrow.events.values.any fun logged => logged.eventId = event.eventId := by
    refine beside.events.any_eq ?_
    rintro _ logged ⟨_, used, member, made⟩
    refine decide_eq_false fun same => ?_
    rw [made, id] at same
    exact unwritten (eventIdOf_inj same ▸ member)
  rw [taken]
  refine .bind_same fun _ _ => ?_
  refine (beside.events.insert_lockstep (fun _ new => other new.1) _).bind ?_
  intro events events' _ _ overlay
  exact .ok
    { workflows := beside.workflows
      events := overlay
      transactions := beside.transactions }

theorem insertEvents {events : List WorkflowEventV1}
    (unwritten : transactionId ∉ written) (others : ∀ event ∈ events, event.workflowId ≠ own ∧
      event.eventId = eventIdOf transactionId event.sequence) :
    Lockstep (Beside own written) (wide.insertEvents events) (narrow.insertEvents events) :=
  .foldlM (fun event member _ _ related =>
    related.insertEvent (others event member).1 (others event member).2 unwritten) beside

theorem saveProjection (projection : WorkflowProjectionV1) :
    Beside own written (wide.saveProjection projection) (narrow.saveProjection projection) where
  workflows := by
    intro workflowId other
    rw [Journal.saveProjection, Journal.saveProjection, Table.get?_modify, Table.get?_modify,
      beside.workflows workflowId other]
    split
    · rename_i same
      rw [← same, beside.workflows workflowId other]
    · rfl
  events := beside.events
  transactions := beside.transactions

theorem recordTransaction
    (unwritten : transactionId ∉ written) (projection : WorkflowProjectionV1) :
    Lockstep (Beside own written) (wide.recordTransaction transactionId projection)
      (narrow.recordTransaction transactionId projection) := by
  rw [Journal.recordTransaction, Journal.recordTransaction]
  refine (beside.transactions.insert_lockstep (fun _ => unwritten) _).bind ?_
  intro _ _ _ _ overlay
  exact .ok
    { workflows := beside.workflows
      events := beside.events
      transactions := overlay }

theorem applyEvents {current : WorkflowProjectionV1} (unwritten : transactionId ∉ written)
    (other : current.workflowId ≠ own) (data : List WorkflowEventDataV1) (at_ : Timestamp) :
    Lockstep (fun left right => left.1 = right.1 ∧ left.1.workflowId = current.workflowId ∧
        Beside own written left.2 right.2)
      (wide.applyEvents current transactionId data at_)
      (narrow.applyEvents current transactionId data at_) := by
  rw [Journal.applyEvents, Journal.applyEvents]
  refine .bind_same fun projection folded => ?_
  obtain ⟨⟨identity, _, _⟩, _, _, owners⟩ := foldlM_apply_envelopes folded
  refine (beside.insertEvents unwritten fun event member => ⟨?_, ?_⟩).bind ?_
  · rw [owners event member]
    exact other
  · exact (envelopeEvents_caused event member).2.2
  · intro _ _ _ _ related
    exact .ok ⟨rfl, identity, related⟩

theorem appendInternalEvents
    (agrees : wide.Agrees) (unwritten : transactionId ∉ written) (other : workflowId ≠ own)
    (at_ : Timestamp) (data : List WorkflowEventDataV1) :
    Lockstep (fun left right => left.1 = right.1 ∧ Beside own written left.2 right.2)
      (wide.appendInternalEvents workflowId transactionId at_ data)
      (narrow.appendInternalEvents workflowId transactionId at_ data) := by
  rw [Journal.appendInternalEvents, Journal.appendInternalEvents, beside.loadProjection other]
  refine .bind_same fun current loaded => ?_
  rw [← beside.loadProjection other] at loaded
  obtain ⟨row, stored, rfl⟩ := Journal.loadProjection_eq_ok.mp loaded
  have owner := agrees.owner workflowId row stored
  refine (beside.applyEvents unwritten (owner ▸ other) data at_).bind ?_
  rintro ⟨next, middle⟩ ⟨_, middle'⟩ _ _ ⟨rfl, _, related⟩
  refine ((related.saveProjection next).recordTransaction unwritten next).bind ?_
  intro _ _ _ _ recorded
  exact .ok ⟨rfl, recorded⟩

theorem append_own {current next : WorkflowProjectionV1}
    {data : List WorkflowEventDataV1} {at_ : Timestamp} {middle after : Journal}
    (agrees : wide.Agrees) (loaded : wide.loadProjection own = .ok current)
    (applied : wide.applyEvents current transactionId data at_ = .ok (next, middle))
    (recorded : (middle.saveProjection next).recordTransaction transactionId next = .ok after) :
    Beside own (transactionId :: written) after narrow := by
  obtain ⟨row, stored, rfl⟩ := Journal.loadProjection_eq_ok.mp loaded
  have owner := agrees.owner own row stored
  obtain ⟨folded, inserted⟩ := Journal.applyEvents_ok applied
  obtain ⟨⟨identity, _, _⟩, _, _, owners⟩ := foldlM_apply_envelopes folded
  rw [owner] at identity owners
  obtain ⟨kept, transactions, _, _⟩ := Journal.insertEvents_ok inserted
  have rows := Journal.insertEvents_rows inserted
  obtain ⟨saved, events, record⟩ := Journal.recordTransaction_ok recorded
  constructor
  · intro workflowId other
    rw [saved, Journal.saveProjection, Table.get?_modify, identity, if_neg other, kept]
    exact beside.workflows workflowId other
  · rw [events]
    refine (beside.events.mono ?_).extend_left rows ?_ ?_
    · rintro key event ⟨mine, used, member, made⟩
      exact ⟨mine, used, List.mem_cons_of_mem _ member, made⟩
    · intro row member
      obtain ⟨event, there, rfl⟩ := List.mem_map.mp member
      simp [owners event there]
    · intro row member
      obtain ⟨event, there, rfl⟩ := List.mem_map.mp member
      exact ⟨owners event there, transactionId, List.mem_cons_self ..,
        (envelopeEvents_caused event there).2.2⟩
  · have record : wide.transactions.insert transactionId next = some after.transactions := by
      rw [← transactions]
      exact record
    refine (beside.transactions.mono fun key _ new => List.mem_cons_of_mem _ new).insert_left record
      ?_ (List.mem_cons_self ..)
    simp [identity]

end Journal.Beside

/-! ## A store beside another one -/

/-- A store that has the rows of another one, and rows of `own` under the ids of the list. -/
structure Beside (own : String) (written : SharedIds) (wide narrow : AuthorityStore) : Prop where
  journal : wide.journal.Beside own written.transactions narrow.journal
  tasks : Table.Overlay (fun _ row => row.task.workflowId == own)
    (fun key row => key ∈ written.tasks ∧ row.task.attemptId ∈ written.attempts)
    wide.tasks narrow.tasks
  outbox : Table.Overlay (fun _ message => message.workflowId == own)
    (fun key message => message.key ∈ written.tasks ∧ key = "outbox-" ++ message.key)
    wide.outbox narrow.outbox
  signals : Table.Overlay (fun key _ => key.1 == own) (fun key _ => key.1 = own)
    wide.signals narrow.signals
  taskRequests : Table.Overlay (fun key _ => key.1 == own)
    (fun key row => key.1 = own ∧ row.taskId ∈ written.tasks)
    wide.taskRequests narrow.taskRequests
  requested : ∀ key row, key.1 ≠ own → narrow.taskRequests.get? key = some row →
    row.taskId ∉ written.tasks

section Stores

variable {own : String} {written : SharedIds} {wide narrow : AuthorityStore}

theorem Beside.refl (store : AuthorityStore) : Beside own {} store store where
  journal := .refl _
  tasks := .refl _
  outbox := .refl _
  signals := .refl _
  taskRequests := .refl _
  requested := fun _ _ _ _ => List.not_mem_nil

/-- **The other workflows look the same.** -/
theorem Beside.view_eq (beside : Beside own written wide narrow)
    (other : workflowId ≠ own) : wide.view workflowId = narrow.view workflowId := by
  have log : wide.journal.log workflowId = narrow.journal.log workflowId :=
    beside.journal.events.values_filter _ fun _ event here => by
      simpa [of_decide_eq_true here] using other
  have tasks := beside.tasks.values_filter (fun row => row.task.workflowId = workflowId)
    fun _ row here => by simpa [of_decide_eq_true here] using other
  have outbox := beside.outbox.values_filter (fun message => message.workflowId = workflowId)
    fun _ message here => by simpa [of_decide_eq_true here] using other
  have signals := beside.signals.rows_filter (fun row => row.1.1 = workflowId)
    fun row here => by simpa [of_decide_eq_true here] using other
  have taskRequests := beside.taskRequests.rows_filter (fun row => row.1.1 = workflowId)
    fun row here => by simpa [of_decide_eq_true here] using other
  rw [AuthorityStore.view, AuthorityStore.view, beside.journal.workflows workflowId other, log,
    tasks, outbox, signals, taskRequests]

theorem Beside.appendEvents (beside : Beside own written wide narrow)
    {transactionId : String} (agrees : wide.journal.Agrees)
    (unwritten : transactionId ∉ written.transactions) (other : workflowId ≠ own)
    (at_ : Timestamp) (data : List WorkflowEventDataV1) :
    Lockstep (fun left right => left.1 = right.1 ∧ Beside own written left.2 right.2)
      (Workflow.appendEvents wide workflowId transactionId at_ data)
      (Workflow.appendEvents narrow workflowId transactionId at_ data) := by
  rw [Workflow.appendEvents, Workflow.appendEvents]
  refine (beside.journal.appendInternalEvents agrees unwritten other at_ data).bind ?_
  rintro ⟨next, journal⟩ ⟨_, journal'⟩ _ _ ⟨rfl, related⟩
  exact .ok ⟨rfl, { beside with journal := related }⟩

variable {input : WorkflowSignalV1} {task : WorkflowTaskV1} {request : ReviewPlanExecutionRequestV1}
  {taskSpec : WorkflowTaskSpecV1} {requestDigest : String} {taskUuid attemptUuid : Uuid}
  {after : AuthorityStore} {call : CrossCall}

section

variable (beside : Beside own written wide narrow)
include beside

theorem Beside.signal_lockstep (agrees : wide.journal.Agrees) (other : input.workflowId ≠ own)
    (unwritten : "signal-" ++ input.signalId ∉ written.transactions) :
    Lockstep (fun left right => left.1 = right.1 ∧ Beside own written left.2 right.2)
      (signal wide input) (signal narrow input) := by
  rw [signal, signal, beside.journal.loadProjection other]
  refine .bind_same fun _ _ => .bind_same fun projection _ => ?_
  rcases beside.signals.insert (input.workflowId, input.signalId) input fun _ => other with ⟨left, right⟩ | ⟨signals, signals', left, right, overlay⟩
  · rw [left, right]
    exact .ok ⟨rfl, beside⟩
  · rw [left, right]
    have inserted : Beside own written { wide with signals } { narrow with signals := signals' } :=
      { beside with signals := overlay }
    refine (inserted.appendEvents agrees unwritten other _ _).bind ?_
    rintro ⟨_, after⟩ ⟨_, after'⟩ _ _ ⟨_, related⟩
    exact .ok ⟨rfl, related⟩

theorem Beside.taskById_eq {taskId : String} (unwritten : taskId ∉ written.tasks) :
    taskById wide.tasks taskId = taskById narrow.tasks taskId := by
  rw [taskById, taskById, beside.tasks.get?_eq fun _ new => unwritten new.1]

theorem Beside.insertTask_lockstep {journal journal' : Journal}
    (journals : journal.Beside own written.transactions journal') (other : task.workflowId ≠ own)
    (taskId : task.taskId ∉ written.tasks) (attemptId : task.attemptId ∉ written.attempts) :
    Lockstep (Table.Overlay (fun _ row => row.task.workflowId == own)
        (fun key row => key ∈ written.tasks ∧ row.task.attemptId ∈ written.attempts))
      (insertTask journal wide.tasks task) (insertTask journal' narrow.tasks task) := by
  have taken : wide.tasks.values.any (fun row => row.task.attemptId = task.attemptId) =
      narrow.tasks.values.any fun row => row.task.attemptId = task.attemptId :=
    beside.tasks.any_eq fun _ row new => decide_eq_false fun same => attemptId (same ▸ new.2)
  rw [insertTask, insertTask, Table.contains, journals.workflows _ other, ← Table.contains, taken]
  refine .bind_same fun _ _ => .bind_same fun _ _ => .bind_same fun _ _ => ?_
  exact beside.tasks.insert_lockstep (fun _ new => taskId new.1) _

theorem Beside.insertOutbox_lockstep {message : WorkflowOutboxMessageV1}
    (id : message.messageId = "outbox-" ++ message.key) (unwritten : message.key ∉ written.tasks) :
    Lockstep (Table.Overlay (fun _ message => message.workflowId == own)
        (fun key message => message.key ∈ written.tasks ∧ key = "outbox-" ++ message.key))
      (insertOutbox wide.outbox message) (insertOutbox narrow.outbox message) := by
  have taken : wide.outbox.values.any (fun other =>
        other.topic = message.topic ∧ other.key = message.key) =
      narrow.outbox.values.any fun other =>
        other.topic = message.topic ∧ other.key = message.key :=
    beside.outbox.any_eq fun _ other new => decide_eq_false fun same => unwritten (same.2 ▸ new.1)
  rw [insertOutbox, insertOutbox, taken]
  refine .bind_same fun _ _ => ?_
  refine beside.outbox.insert_lockstep (fun other new => ?_) _
  have characters := congrArg String.toList (id.symm.trans new.2)
  simp only [String.toList_append, List.append_cancel_left_eq] at characters
  rw [← String.toList_injective characters] at new
  exact unwritten new.1

theorem Beside.admitTaskForRequest_lockstep
    (agrees : wide.journal.Agrees) (other : request.workflowId ≠ own)
    (unwritten : "execution-admit-" ++ request.binding.requestId ∉ written.transactions)
    (taskId : "task-" ++ taskUuid.text ∉ written.tasks)
    (attemptId : "attempt-" ++ attemptUuid.text ∉ written.attempts) :
    Lockstep (fun left right => left.1 = right.1 ∧ Beside own written left.2 right.2)
      (admitTaskForRequest wide request taskSpec requestDigest taskUuid attemptUuid)
      (admitTaskForRequest narrow request taskSpec requestDigest taskUuid attemptUuid) := by
  rw [admitTaskForRequest, admitTaskForRequest,
    beside.taskRequests.get?_eq fun _ new => other new.1]
  refine .bind_same fun _ _ => ?_
  cases found : narrow.taskRequests.get? (request.workflowId, request.binding.requestId) with
  | some prior =>
    simp only
    rw [beside.taskById_eq (beside.requested _ prior other found)]
    exact .bind_same fun _ _ => .bind_same fun _ _ => .ok ⟨rfl, beside⟩
  | none =>
    simp only
    rw [admitFreshTask, admitFreshTask, beside.journal.loadProjection other]
    refine .bind_same fun current loaded => .bind_same fun _ _ => ?_
    rw [← beside.journal.loadProjection other] at loaded
    obtain ⟨row, stored, rfl⟩ := Journal.loadProjection_eq_ok.mp loaded
    have owner := agrees.owner request.workflowId row stored
    have apart : row.projection.workflowId ≠ own := owner ▸ other
    refine (beside.journal.applyEvents unwritten apart _ _).bind ?_
    rintro ⟨next, journal⟩ ⟨_, journal'⟩ _ _ ⟨rfl, identity, journals⟩
    refine (beside.insertTask_lockstep journals apart taskId attemptId).bind ?_
    intro tasks tasks' _ _ tasksBeside
    refine (beside.insertOutbox_lockstep rfl taskId).bind ?_
    intro outbox outbox' _ _ outboxBeside
    have taken : wide.taskRequests.values.any (fun row => row.taskId = "task-" ++ taskUuid.text) =
        narrow.taskRequests.values.any fun row => row.taskId = "task-" ++ taskUuid.text :=
      beside.taskRequests.any_eq fun _ row new =>
        decide_eq_false fun same => taskId (same ▸ new.2)
    rw [taken]
    refine .bind_same fun _ _ => ?_
    have free : next.workflowId ≠ own := identity ▸ apart
    refine (beside.taskRequests.insert_lockstep (fun _ new => free new.1) _).bind ?_
    intro taskRequests taskRequests' _ inserted requestsBeside
    refine ((journals.saveProjection next).recordTransaction unwritten next).bind ?_
    intro recorded recorded' _ _ recordedBeside
    refine .ok ⟨rfl, ⟨recordedBeside, tasksBeside, outboxBeside, beside.signals, requestsBeside,
      ?_⟩⟩
    intro key row free present
    rw [orError_eq_ok] at inserted
    rw [Table.get?_of_insert inserted] at present
    split at present
    · obtain rfl := Option.some.inj present
      exact taskId
    · exact beside.requested key row free present

/-- **A call on another workflow that avoids the written ids runs in lockstep.** -/
theorem CrossCall.perform_lockstep
    (agrees : wide.journal.Agrees) (other : call.workflowId ≠ own) (avoids : call.Avoids written) :
    Lockstep (fun left right => left.1 = right.1 ∧ Beside own written left.2 right.2)
      (call.perform wide) (call.perform narrow) := by
  cases call with
  | signal input =>
    refine (beside.signal_lockstep agrees other (avoids.transactions _ (by simp [ids]))).bind ?_
    rintro ⟨_, _⟩ ⟨_, _⟩ _ _ ⟨rfl, related⟩
    exact .ok ⟨rfl, related⟩
  | admitTaskForRequest request taskSpec requestDigest taskUuid attemptUuid =>
    refine (beside.admitTaskForRequest_lockstep agrees other
      (avoids.transactions _ (by simp [ids])) (avoids.tasks _ (by simp [ids]))
      (avoids.attempts _ (by simp [ids]))).bind ?_
    rintro ⟨⟨_, _⟩, _⟩ ⟨⟨_, _⟩, _⟩ _ _ ⟨same, related⟩
    cases same
    exact .ok ⟨rfl, related⟩

/-! ### Calls on `own` -/

theorem Beside.signal_own {fresh : Bool} (agrees : wide.journal.Agrees)
    (mine : input.workflowId = own) (accepted : signal wide input = .ok (fresh, after)) :
    Beside own (if fresh then written.append (CrossCall.signal input).ids else written) after
      narrow := by
  simp only [signal, bind_eq_ok, ensure_eq_ok] at accepted
  obtain ⟨_, _, projection, _, taken⟩ := accepted
  split at taken
  · obtain ⟨rfl, rfl⟩ := Prod.mk.inj (pure_eq_ok.mp taken)
    exact beside
  · rename_i signals inserted
    simp only [Workflow.appendEvents, Journal.appendInternalEvents, bind_eq_ok, pure_eq_ok,
      Prod.mk.injEq, Prod.exists] at taken
    obtain ⟨_, _, ⟨_, _, ⟨current, loaded, next, middle, applied, journal, recorded, rfl, rfl⟩, rfl,
      rfl⟩, rfl, rfl⟩ := taken
    rw [mine] at loaded
    exact
      { journal := beside.journal.append_own agrees loaded applied recorded
        tasks := beside.tasks
        outbox := beside.outbox
        signals := beside.signals.insert_left inserted (by simpa using mine) mine
        taskRequests := beside.taskRequests
        requested := beside.requested }

theorem Beside.admitTaskForRequest_own {replayed : Bool}
    (agrees : wide.journal.Agrees) (mine : request.workflowId = own)
    (accepted : admitTaskForRequest wide request taskSpec requestDigest taskUuid attemptUuid =
      .ok ((task, replayed), after)) :
    Beside own (if !replayed then written.append (CrossCall.admitTaskForRequest request taskSpec
      requestDigest taskUuid attemptUuid).ids else written) after narrow := by
  simp only [admitTaskForRequest, bind_eq_ok] at accepted
  obtain ⟨_, _, taken⟩ := accepted
  split at taken
  · simp only [bind_eq_ok, ensure_eq_ok, pure_eq_ok, Prod.mk.injEq] at taken
    obtain ⟨_, _, _, _, ⟨_, rfl⟩, rfl⟩ := taken
    exact beside
  · simp only [admitFreshTask, insertTask, insertOutbox, bind_eq_ok, ensure_eq_ok, orError_eq_ok,
      pure_eq_ok, Prod.mk.injEq, Prod.exists] at taken
    obtain ⟨current, loaded, _, _, next, journal, applied, tasks, ⟨_, _, _, _, _, _, taskAdded⟩,
      outbox, ⟨_, _, messageAdded⟩, _, unused, taskRequests, requestAdded, recorded, record,
      ⟨_, rfl⟩, rfl⟩ := taken
    obtain ⟨row, stored, rfl⟩ := Journal.loadProjection_eq_ok.mp loaded
    have owner := agrees.owner request.workflowId row stored
    obtain ⟨folded, _⟩ := Journal.applyEvents_ok applied
    obtain ⟨⟨identity, _, _⟩, _, _, _⟩ := foldlM_apply_envelopes folded
    rw [owner, mine] at identity
    rw [mine] at loaded owner
    rw [identity] at requestAdded messageAdded
    refine ⟨beside.journal.append_own agrees loaded applied record, ?_, ?_, beside.signals, ?_, ?_⟩
    · refine (beside.tasks.mono ?_).insert_left taskAdded ?_ ?_
      · rintro key row ⟨taskId, attemptId⟩
        exact ⟨List.mem_append_right _ taskId, List.mem_append_right _ attemptId⟩
      · simpa [requestedTask] using owner
      · exact ⟨List.mem_append_left _ (by simp [CrossCall.ids, requestedTask]),
          List.mem_append_left _ (by simp [CrossCall.ids, requestedTask])⟩
    · refine (beside.outbox.mono ?_).insert_left messageAdded ?_ ?_
      · rintro key message ⟨taskId, id⟩
        exact ⟨List.mem_append_right _ taskId, id⟩
      · simp [taskReadyMessage]
      · exact ⟨List.mem_append_left _ (by simp [CrossCall.ids, taskReadyMessage]), rfl⟩
    · refine (beside.taskRequests.mono ?_).insert_left requestAdded ?_ ?_
      · rintro key row ⟨here, taskId⟩
        exact ⟨here, List.mem_append_right _ taskId⟩
      · simp
      · exact ⟨rfl, List.mem_append_left _ (by simp [CrossCall.ids])⟩
    · -- The task is new, so no request of another workflow has it.
      intro key row other present member
      rcases List.mem_append.mp member with new | old
      · have same : row.taskId = "task-" ++ taskUuid.text := by simpa [CrossCall.ids] using new
        have held : row ∈ wide.taskRequests.values :=
          List.mem_map_of_mem (beside.taskRequests.within _
            (narrow.taskRequests.mem_rows_iff.mpr present))
        simp only [Bool.not_eq_true', List.any_eq_false, decide_eq_true_eq] at unused
        exact unused row held same
      · exact beside.requested key row other present old

/-- **A call on `own` adds rows under its ids to the wide store alone.** -/
theorem CrossCall.perform_own {answer : CrossAnswer} (agrees : wide.journal.Agrees)
    (mine : call.workflowId = own) (accepted : call.perform wide = .ok (answer, after)) :
    Beside own (if answer.wrote then written.append call.ids else written) after narrow := by
  cases call with
  | signal input =>
    simp only [perform, bind_eq_ok, pure_eq_ok, Prod.mk.injEq, Prod.exists] at accepted
    obtain ⟨fresh, _, accepted, rfl, rfl⟩ := accepted
    exact beside.signal_own agrees mine accepted
  | admitTaskForRequest request taskSpec requestDigest taskUuid attemptUuid =>
    simp only [perform, bind_eq_ok, pure_eq_ok, Prod.mk.injEq, Prod.exists] at accepted
    obtain ⟨task, replayed, _, accepted, rfl, rfl⟩ := accepted
    exact beside.admitTaskForRequest_own agrees mine accepted

end

/-! ### Runs -/

theorem CrossCall.attempt_agrees {store : AuthorityStore} (call : CrossCall)
    (agrees : store.journal.Agrees) : (call.attempt store).2.journal.Agrees := by
  rw [CrossCall.attempt]
  split
  · rename_i answer after accepted
    cases call with
    | signal input =>
      simp only [perform, bind_eq_ok, pure_eq_ok, Prod.mk.injEq, Prod.exists] at accepted
      obtain ⟨fresh, later, accepted, _, rfl⟩ := accepted
      have performed : AuthorityCall.perform store (.signal input) = .ok (.done, later) := by
          rw [AuthorityCall.perform]
          exact answering_eq_ok.mpr ⟨fresh, accepted, rfl⟩
      exact ((AuthorityCall.perform_steps performed).progress agrees).agrees
    | admitTaskForRequest request taskSpec requestDigest taskUuid attemptUuid =>
      simp only [perform, bind_eq_ok, pure_eq_ok, Prod.mk.injEq, Prod.exists] at accepted
      obtain ⟨task, replayed, later, accepted, _, rfl⟩ := accepted
      have performed : AuthorityCall.perform store (.admitTaskForRequest request taskSpec
          requestDigest taskUuid attemptUuid) = .ok (.done, later) := by
          rw [AuthorityCall.perform]
          exact answering_eq_ok.mpr ⟨(task, replayed), accepted, rfl⟩
      exact ((AuthorityCall.perform_steps performed).progress agrees).agrees
  · exact agrees

theorem observations_beside (calls : List CrossCall) :
    ∀ {written : SharedIds} {wide narrow : AuthorityStore}, Beside own written wide narrow →
      wide.journal.Agrees → narrow.journal.Agrees → AvoidsOwn own written wide calls →
      observations own wide calls =
        observations own narrow (calls.filter fun call => call.workflowId ≠ own) := by
  induction calls with
  | nil => exact fun _ _ _ _ => rfl
  | cons call rest ih =>
    intro written wide narrow beside agrees agrees' avoids
    rw [AvoidsOwn] at avoids
    rw [observations]
    by_cases mine : call.workflowId = own
    · rw [if_pos mine] at avoids ⊢
      rw [List.filter_cons_of_neg (by simpa using mine)]
      refine ih ?_ (call.attempt_agrees agrees) agrees' avoids
      rw [CrossCall.attempt]
      cases performed : call.perform wide with
      | error error => exact beside
      | ok result => exact CrossCall.perform_own beside agrees mine performed
    · rw [if_neg mine] at avoids ⊢
      rw [List.filter_cons_of_pos (by simpa using mine), observations, if_neg mine]
      obtain ⟨here, later⟩ := avoids
      have lockstep := CrossCall.perform_lockstep beside agrees mine here
      have both : (call.attempt wide).1 = (call.attempt narrow).1 ∧
          Beside own written (call.attempt wide).2 (call.attempt narrow).2 := by
        rw [CrossCall.attempt, CrossCall.attempt]
        generalize call.perform wide = left at lockstep
        generalize call.perform narrow = right at lockstep
        cases lockstep with
        | ok related => exact ⟨congrArg Except.ok related.1, related.2⟩
        | error failure => exact ⟨rfl, beside⟩
      obtain ⟨answer, beside'⟩ := both
      rw [answer, beside'.view_eq mine,
        ih beside' (call.attempt_agrees agrees) (call.attempt_agrees agrees') later]

end Stores

/-- **In every run in which no call on another workflow writes under an id that a call on `own`
wrote, the other workflows cannot tell whether the calls on `own` were made.** -/
theorem observations_removed (before : List StoreCall) (own : String) (calls : List CrossCall)
    (avoids : AvoidsOwn own {} (StoreCall.run .empty before) calls) :
    observations own (StoreCall.run .empty before) calls =
      observations own (StoreCall.run .empty before)
        (calls.filter fun call => call.workflowId ≠ own) :=
  observations_beside calls (.refl _) (StoreCall.run_agrees before) (StoreCall.run_agrees before)
    avoids

def twoWorkflows : List StoreCall :=
  [.create smallSpec "create" {},
    .create { smallSpec with workflowId := "other", runId := "other-run" } "create-other" {}]

def sampleSignal (workflowId signalId : String) : CrossCall :=
  .signal
    { signalId
      workflowId
      name := "name"
      payload := .obj []
      receivedAt := epochStart }

theorem observations_removed_signals :
    observations "other" (StoreCall.run .empty twoWorkflows)
        [sampleSignal "other" "first", sampleSignal "workflow" "second"] =
      observations "other" (StoreCall.run .empty twoWorkflows)
        ([sampleSignal "other" "first", sampleSignal "workflow" "second"].filter fun call =>
          call.workflowId ≠ "other") :=
  observations_removed twoWorkflows "other" [sampleSignal "other" "first",
    sampleSignal "workflow" "second"] (by decide +kernel)

/-- **A signal id that was used in one workflow is rejected in another.** -/
theorem sameSignal_rejected : ¬ ∀ (before : List StoreCall) (own : String)
    (calls : List CrossCall),
    observations own (StoreCall.run .empty before) calls =
      observations own (StoreCall.run .empty before)
        (calls.filter fun call => call.workflowId ≠ own) := by
  intro always
  have same := always twoWorkflows "other"
    [sampleSignal "other" "signal", sampleSignal "workflow" "signal"]
  have accepted := congrArg (List.map fun seen => seen.1.isOk) same
  exact absurd accepted (by decide +kernel)

end Praxis.Workflow
