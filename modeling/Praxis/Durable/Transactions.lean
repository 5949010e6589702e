import Praxis.Foundations.Rollback
import Praxis.Durable.AuthorityAgreement

/-!
# Exactly-once transactions

`transactExclusive` is `transact` statement by statement: the rows of a transaction are written
one after the other between `BEGIN IMMEDIATE` and `COMMIT`, and a late failure, such as a lost
lease, rolls back what was written before it. `transactExclusive_eq` says that this is the
operation of the model, so a call that rejects leaves every table as it was.

A call that resolves has its events exactly once in the log, as one block, unless its id was
used before: then it answers what was answered under that id, and whether the log holds its
events is decided by what that earlier transaction wrote (`transact_recordsOnce`).
-/

namespace Praxis.Workflow

set_option autoImplicit false

open Praxis.Foundations

/-! ## Statements -/

section Parts

def journalPart : Part AuthorityStore Journal where
  get := (·.journal)
  set := fun store journal => { store with journal }
  get_set := fun _ _ => rfl
  set_set := fun _ _ _ => rfl
  set_get := fun _ => rfl

def tasksPart : Part AuthorityStore (Table String TaskRow) where
  get := (·.tasks)
  set := fun store tasks => { store with tasks }
  get_set := fun _ _ => rfl
  set_set := fun _ _ _ => rfl
  set_get := fun _ => rfl

def outboxPart : Part AuthorityStore (Table String WorkflowOutboxMessageV1) where
  get := (·.outbox)
  set := fun store outbox => { store with outbox }
  get_set := fun _ _ => rfl
  set_set := fun _ _ _ => rfl
  set_get := fun _ => rfl

def timersPart : Part AuthorityStore (Table String TimerRow) where
  get := (·.timers)
  set := fun store timers => { store with timers }
  get_set := fun _ _ => rfl
  set_set := fun _ _ _ => rfl
  set_get := fun _ => rfl

def humanTasksPart : Part AuthorityStore (Table String WorkflowHumanTaskV1) where
  get := (·.humanTasks)
  set := fun store humanTasks => { store with humanTasks }
  get_set := fun _ _ => rfl
  set_set := fun _ _ _ => rfl
  set_get := fun _ => rfl

def effectsPart : Part AuthorityStore (Table String WorkflowEffectReceiptV1 ×
    Table (String × String) WorkflowEffectRequestV1) where
  get := fun store => (store.effectReceipts, store.effectRequests)
  set := fun store tables =>
    { store with effectReceipts := tables.1, effectRequests := tables.2 }
  get_set := fun _ _ => rfl
  set_set := fun _ _ _ => rfl
  set_get := fun _ => rfl

def messagesPart : Part AuthorityStore (Table String WorkflowMessageV1) where
  get := (·.messages)
  set := fun store messages => { store with messages }
  get_set := fun _ _ => rfl
  set_set := fun _ _ _ => rfl
  set_get := fun _ => rfl

def reservationsPart :
    Part AuthorityStore (Table (String × String) WorkflowEffectReservationV1) where
  get := (·.effectReservations)
  set := fun store effectReservations => { store with effectReservations }
  get_set := fun _ _ => rfl
  set_set := fun _ _ _ => rfl
  set_get := fun _ => rfl

end Parts

/-- The statements of a new transaction, in the order in which they run. -/
def transactStatements (input : WorkflowTransactionV1) (projection : WorkflowProjectionV1)
    (events : List WorkflowEventV1) : List (Statement WorkflowError AuthorityStore) :=
  onPart journalPart (fun _ => Journal.insertEvent) events ++
  onPart tasksPart (fun store => insertTask store.journal) input.enqueueTasks ++
  onPart outboxPart (fun _ => insertOutbox) input.outbox ++
  onPart timersPart (fun _ => insertTimer) input.timers ++
  onPart humanTasksPart (fun _ => insertHumanTask) input.humanTasks ++
  onPart effectsPart (fun _ => insertEffectReceipt) input.effectReceipts ++
  onPart messagesPart (fun store messages message => do
    return (← insertWorkflowMessage store.journal messages message).2) input.messages ++
  onPart reservationsPart (fun _ => settleReservation input.workflowId input.occurredAt)
    input.effectReservationTerminal.toList ++
  onPart tasksPart (fun _ tasks ack => acknowledgeTask tasks ack input.occurredAt)
    input.acknowledgeTask.toList ++
  onPart tasksPart (fun _ => cancelReadyTask input.workflowId input.occurredAt)
    input.cancelReadyTasks ++
  [fun store => do
    let recorded ← (store.journal.saveProjection projection).recordTransaction
      input.transactionId projection
    return { store with journal := recorded }]

/-- What a call finds out before it writes: its answer, and its statements. -/
def transactPlan (store : AuthorityStore) (input : WorkflowTransactionV1) :
    Except WorkflowError
      (WorkflowProjectionV1 × List (Statement WorkflowError AuthorityStore)) := do
  ensure (authoritySafeId input.transactionId && authoritySafeId input.workflowId &&
    nonNegativeInteger input.expectedSequence && input.occurredAt.valid)
    .workflowTransactionInvalid
  match store.journal.transactionProjection input.transactionId with
  | some duplicate => return (duplicate, [])
  | none => do
      let current ← store.journal.loadProjection input.workflowId
      ensure ((current.sequence : Int) == input.expectedSequence) .workflowSequenceConflict
      let events := envelopeEvents current.spec input.transactionId input.occurredAt
        current.sequence input.events
      let projection ← events.foldlM applyWorkflowEventV1 current
      return (projection, transactStatements input projection events)

def transactExclusive (store : AuthorityStore) (input : WorkflowTransactionV1) :
    Except WorkflowError WorkflowProjectionV1 × AuthorityStore :=
  match transactPlan store input with
  | .error error => (.error error, store)
  | .ok (answer, statements) =>
    match transaction statements store with
    | (.ok (), written) => (.ok answer, written)
    | (.error error, left) => (.error error, left)

section Statements

variable {store : AuthorityStore} {input : WorkflowTransactionV1}

theorem foldStatements_transact (projection : WorkflowProjectionV1)
    (events : List WorkflowEventV1) :
    foldStatements (transactStatements input projection events) store = do
      let journal ← store.journal.insertEvents events
      let tasks ← input.enqueueTasks.foldlM (insertTask journal) store.tasks
      let outbox ← input.outbox.foldlM insertOutbox store.outbox
      let timers ← input.timers.foldlM insertTimer store.timers
      let humanTasks ← input.humanTasks.foldlM insertHumanTask store.humanTasks
      let (effectReceipts, effectRequests) ← input.effectReceipts.foldlM insertEffectReceipt
        (store.effectReceipts, store.effectRequests)
      let messages ← input.messages.foldlM (fun messages message => do
        return (← insertWorkflowMessage journal messages message).2) store.messages
      let effectReservations ← input.effectReservationTerminal.toList.foldlM
        (settleReservation input.workflowId input.occurredAt) store.effectReservations
      let acknowledged ← input.acknowledgeTask.toList.foldlM
        (fun tasks ack => acknowledgeTask tasks ack input.occurredAt) tasks
      let retired ← input.cancelReadyTasks.foldlM
        (cancelReadyTask input.workflowId input.occurredAt) acknowledged
      let recorded ← (journal.saveProjection projection).recordTransaction input.transactionId
        projection
      return { store with
        journal := recorded
        tasks := retired
        outbox, timers, humanTasks, effectReceipts, effectRequests, messages,
        effectReservations } := by
  simp only [transactStatements, foldStatements_append, foldStatements_onPart,
    foldStatements_single, journalPart, tasksPart, outboxPart, timersPart, humanTasksPart,
    effectsPart, messagesPart, reservationsPart, implies_true, bind_assoc, pure_bind]
  rfl

theorem transact_eq_plan : transact store input = do
    let (answer, statements) ← transactPlan store input
    let after ← foldStatements statements store
    return (answer, after) := by
  rw [transact, transactPlan, bind_assoc]
  refine bind_congr fun _ => ?_
  cases store.journal.transactionProjection input.transactionId with
  | some duplicate => rfl
  | none =>
    simp only [transactFresh, Journal.applyEvents, bind_assoc, pure_bind, foldStatements_transact]

/-- **A call answers and writes as the operation does, and a rejected call writes nothing.** -/
theorem transactExclusive_eq :
    transactExclusive store input =
      match transact store input with
      | .ok (answer, after) => (.ok answer, after)
      | .error error => (.error error, store) := by
  rw [transact_eq_plan, transactExclusive]
  cases transactPlan store input with
  | error error => rfl
  | ok plan =>
    obtain ⟨answer, statements⟩ := plan
    rw [ok_bind]
    simp only [transaction_eq]
    cases foldStatements statements store with
    | error error => rfl
    | ok after => rfl

end Statements

/-! ## Exactly once -/

/-- The events of a transaction stand in the log of its workflow exactly once: as one block
that it caused, with no other event of it before or after. -/
def AuthorityStore.RecordsOnce (store : AuthorityStore) (input : WorkflowTransactionV1) : Prop :=
  ∃ block, BlockOf (WorkflowEventV1.CausedBy input.transactionId)
      (store.journal.log input.workflowId) block ∧
    block.map (·.data) = input.events

def Journal.writtenBy (journal : Journal) (workflowId transactionId : String) :
    List WorkflowEventDataV1 :=
  ((journal.log workflowId).filter fun event => event.CausedBy transactionId).map (·.data)

/-- The id of the call was not used before, or what was written under it is what the call
would write. -/
def AuthorityStore.FreshOrSame (store : AuthorityStore) (input : WorkflowTransactionV1) : Prop :=
  store.journal.transactions.get? input.transactionId = none ∨
    store.journal.writtenBy input.workflowId input.transactionId = input.events

section Once

variable {store after : AuthorityStore} {input : WorkflowTransactionV1}
  {next : WorkflowProjectionV1}

theorem recordsOnce_iff (attributed : store.journal.Attributed) :
    store.RecordsOnce input ↔
      store.journal.writtenBy input.workflowId input.transactionId = input.events := by
  constructor
  · rintro ⟨block, here, same⟩
    rw [Journal.writtenBy, here.filter_eq]
    exact same
  · intro same
    obtain ⟨block, here⟩ := attributed.blocks input.workflowId input.transactionId
    rw [Journal.writtenBy, here.filter_eq] at same
    exact ⟨block, here, same⟩

theorem TransactEffect.recordsOnce {current : WorkflowProjectionV1}
    (effect : TransactEffect store input current next after) (agrees : store.journal.Agrees)
    (attributed : store.journal.Attributed)
    (absent : store.journal.transactions.get? input.transactionId = none) :
    after.RecordsOnce input := by
  obtain ⟨row, stored, rfl⟩ := Journal.loadProjection_eq_ok.mp effect.appended.loaded
  have owner := agrees.owner input.workflowId row stored
  obtain ⟨_, _, _, owners⟩ := foldlM_apply_envelopes effect.appended.folded
  rw [owner] at owners
  refine ⟨envelopeEvents row.projection.spec input.transactionId input.occurredAt
    row.projection.sequence input.events, ?_, envelopeEvents_data ..⟩
  rw [effect.appended.log_eq owners, if_pos rfl]
  refine .append_block (fun event member => ?_) fun event member => ?_
  · exact attributed.unrecorded absent event (Journal.log_subset event member)
  · exact (envelopeEvents_caused event member).1

theorem transact_recordsOnce_iff (agrees : store.journal.Agrees)
    (attributed : store.journal.Attributed) (accepted : transact store input = .ok (next, after)) :
    after.RecordsOnce input ↔ store.FreshOrSame input := by
  rcases transact_ok accepted with ⟨used, rfl⟩ | ⟨absent, current, effect⟩
  · rw [recordsOnce_iff attributed, AuthorityStore.FreshOrSame, used]
    simp
  · constructor
    · intro _
      exact .inl absent
    · intro _
      exact effect.recordsOnce agrees attributed absent

end Once

/-- **After any run of calls, a call that resolves has its events in the log exactly once if and
only if its id was not used before or was used for the same events, and a call that rejects
leaves every table as it was.** -/
theorem transact_recordsOnce (calls : List StoreCall) (input : WorkflowTransactionV1) :
    match transactExclusive (StoreCall.run .empty calls) input with
    | (.ok _, after) =>
      after.RecordsOnce input ↔ (StoreCall.run .empty calls).FreshOrSame input
    | (.error _, after) => after = StoreCall.run .empty calls := by
  have agrees := StoreCall.run_agrees calls
  have attributed := StoreCall.run_attributed calls
  rw [transactExclusive_eq]
  cases performed : transact (StoreCall.run .empty calls) input with
  | error error => rfl
  | ok answer => exact transact_recordsOnce_iff agrees attributed performed

/-- A transaction, and another one under its id. -/
def firstUse : WorkflowTransactionV1 where
  transactionId := "transaction"
  workflowId := "workflow"
  expectedSequence := 2
  events := [.signalReceived "first" "name"]
  occurredAt := epochStart

def secondUse : WorkflowTransactionV1 :=
  { firstUse with events := [.signalReceived "second" "name"] }

/-- **A call under a used id resolves although its events are nowhere in the log.** -/
theorem secondUse_unrecorded : ¬ ∀ (calls : List StoreCall) (input : WorkflowTransactionV1),
    match transactExclusive (StoreCall.run .empty calls) input with
    | (.ok _, after) => after.RecordsOnce input
    | (.error _, after) => after = StoreCall.run .empty calls := by
  intro always
  have once := always [.create smallSpec "create" {}, .transact firstUse] secondUse
  have resolved : ((transact (StoreCall.run .empty [.create smallSpec "create" {},
      .transact firstUse]) secondUse).toOption.any fun answer =>
      decide (answer.2.journal.writtenBy "workflow" "transaction" ≠ secondUse.events)) = true := by
    decide +kernel
  obtain ⟨answer, performed, different⟩ := exists_ok resolved
  rw [transactExclusive_eq, performed] at once
  obtain ⟨block, here, same⟩ := once
  have unwritten := of_decide_eq_true different
  rw [Journal.writtenBy] at unwritten
  exact unwritten ((congrArg _ here.filter_eq).trans same)

end Praxis.Workflow
