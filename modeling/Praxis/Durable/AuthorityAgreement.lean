import Praxis.Durable.AuthorityEffects
import Praxis.Durable.JournalSteps

/-!
# Runs of the authority

The public operations of the authority as one type of calls, and what holds after any run of
them, whether they succeed or fail: for every stored workflow the log, the projection and the
columns say the same (`storeRun_inAgreement`). Each operation is a sequence of steps of the
journal (`StoreCall.perform_steps`): it appends the events of one transaction, or of several one
after the other, or creates a workflow.
-/

namespace Praxis.Workflow

set_option autoImplicit false

open Praxis.Foundations

/-! ## Calls -/

/-- The operations of the authority that append their own events, and those beside them that
append none. -/
inductive AuthorityCall where
  | admitTaskForRequest (request : ReviewPlanExecutionRequestV1) (taskSpec : WorkflowTaskSpecV1)
      (requestDigest : String) (taskUuid attemptUuid : Uuid)
  | bindTaskCapabilityBundle (taskId leaseToken : String) (ref : VersionedWorkflowRefV1)
      (at_ : Timestamp)
  | claim (workerId : String) (options : ClaimOptionsV1) (now : Timestamp) (uuid : Uuid)
  | heartbeat (taskId leaseToken : String) (progress : Bool) (now : Timestamp)
  | recoverExpired (now : Timestamp) (ids : Nat → RecoveryIds)
  | signal (input : WorkflowSignalV1)
  | fireDueTimers (now : Timestamp)
  | resolveHumanTask (humanTaskId : String) (state : HumanResolutionV1) (resolution : Json)
      (at_ : Timestamp)
  | reserveEffect (workflowId idempotencyKey inputDigest attemptId : String)
      (leaseExpiresAt at_ : Timestamp)
  | markEffectCompensated (workflowId sourceReceiptArtifactId compensationReceiptArtifactId : String)
      (at_ : Timestamp)
  | reserveEffectRequest (request : ReviewPlanExecutionRequestV1) (requestDigest : String)
      (effectKind : WorkflowEffectClassV1) (externalIdempotencyKey : Option String)
      (leaseExpiresAt : Option Timestamp) (at_ : Timestamp)
  | postMessage (input : WorkflowMessageInputV1)
  | acknowledgeMessages (workflowId recipientNodeId : String) (throughSequence : Int)
      (at_ : Timestamp)
  | acknowledgeMessage (workflowId messageId recipientNodeId : String) (at_ : Timestamp)
  | retryNode (workflowId nodeId : String) (at_ : Timestamp) (attemptUuid taskUuid : Uuid)
  | resolveUnknown (read listed : AuthorityStore) (workflowId nodeId : String)
      (resolution : UnknownResolutionV1) (code : Option String) (at_ : Timestamp)

/-- The answers of calls, as far as later calls depend on them. -/
inductive AuthorityAnswer where
  | claimed (claim : Option WorkflowTaskClaimV1)
  | admission (admission : WorkflowEffectAdmissionV1)
  | done

/-- An operation's result with its answer put aside or kept. -/
def answering {α : Type} (answer : α → AuthorityAnswer)
    (result : Except WorkflowError (α × AuthorityStore)) :
    Except WorkflowError (AuthorityAnswer × AuthorityStore) := do
  let (value, next) ← result
  return (answer value, next)

def AuthorityCall.perform [Collation] (store : AuthorityStore) :
    AuthorityCall → Except WorkflowError (AuthorityAnswer × AuthorityStore)
  | admitTaskForRequest request taskSpec requestDigest taskUuid attemptUuid =>
    answering (fun _ => .done)
      (Workflow.admitTaskForRequest store request taskSpec requestDigest taskUuid attemptUuid)
  | bindTaskCapabilityBundle taskId leaseToken ref at_ =>
    answering (fun _ => .done) (Workflow.bindTaskCapabilityBundle store taskId leaseToken ref at_)
  | claim workerId options now uuid =>
    answering .claimed (Workflow.claim store workerId options now uuid)
  | heartbeat taskId leaseToken progress now =>
    answering (fun _ => .done) (Workflow.heartbeat store taskId leaseToken progress now)
  | recoverExpired now ids => answering (fun _ => .done) (Workflow.recoverExpired store now ids)
  | signal input => answering (fun _ => .done) (Workflow.signal store input)
  | fireDueTimers now => answering (fun _ => .done) (Workflow.fireDueTimers store now)
  | resolveHumanTask humanTaskId state resolution at_ =>
    answering (fun _ => .done) (Workflow.resolveHumanTask store humanTaskId state resolution at_)
  | reserveEffect workflowId idempotencyKey inputDigest attemptId leaseExpiresAt at_ =>
    answering .admission (Workflow.reserveEffect store workflowId idempotencyKey inputDigest
      attemptId leaseExpiresAt at_)
  | markEffectCompensated workflowId source compensation at_ =>
    answering (fun _ => .done)
      (Workflow.markEffectCompensated store workflowId source compensation at_)
  | reserveEffectRequest request requestDigest effectKind externalKey leaseExpiresAt at_ =>
    answering (fun _ => .done) (Workflow.reserveEffectRequest store request requestDigest
      effectKind externalKey leaseExpiresAt at_)
  | postMessage input => answering (fun _ => .done) (Workflow.postMessage store input)
  | acknowledgeMessages workflowId recipientNodeId throughSequence at_ =>
    answering (fun _ => .done)
      (Workflow.acknowledgeMessages store workflowId recipientNodeId throughSequence at_)
  | acknowledgeMessage workflowId messageId recipientNodeId at_ =>
    answering (fun _ => .done)
      (Workflow.acknowledgeMessage store workflowId messageId recipientNodeId at_)
  | retryNode workflowId nodeId at_ attemptUuid taskUuid =>
    answering (fun _ => .done)
      (Workflow.retryNode store workflowId nodeId at_ attemptUuid taskUuid)
  | resolveUnknown read listed workflowId nodeId resolution code at_ =>
    answering (fun _ => .done)
      (Workflow.resolveUnknown read listed store workflowId nodeId resolution code at_)

/-- All public operations of the store that write to it. -/
inductive StoreCall where
  | create (spec : WorkflowSpecV1) (transactionId : String) (bootstrap : WorkflowBootstrapV1)
  | transact (input : WorkflowTransactionV1)
  | call (operation : AuthorityCall)

def StoreCall.perform [Collation] (store : AuthorityStore) :
    StoreCall → Except WorkflowError (AuthorityAnswer × AuthorityStore)
  | create spec transactionId bootstrap =>
    answering (fun _ => .done) (Workflow.create store spec transactionId bootstrap)
  | transact input => answering (fun _ => .done) (Workflow.transact store input)
  | call operation => operation.perform store

/-- The store after a call: a call that is rejected is rolled back. -/
def StoreCall.after [Collation] (store : AuthorityStore) (call : StoreCall) : AuthorityStore :=
  match call.perform store with
  | .ok (_, next) => next
  | .error _ => store

def StoreCall.run [Collation] (store : AuthorityStore) (calls : List StoreCall) : AuthorityStore :=
  calls.foldl StoreCall.after store

/-! ## Agreement -/

section Agreement

variable {store after : AuthorityStore}

@[simp] theorem answering_eq_ok {α : Type} {answer : α → AuthorityAnswer}
    {result : Except WorkflowError (α × AuthorityStore)} {given : AuthorityAnswer} :
    answering answer result = .ok (given, after) ↔
      ∃ value, result = .ok (value, after) ∧ answer value = given := by
  simp only [answering, bind_eq_ok, pure_eq_ok, Prod.mk.injEq, Prod.exists]
  constructor
  · rintro ⟨value, _, returned, given, rfl⟩
    exact ⟨value, returned, given⟩
  · rintro ⟨value, returned, given⟩
    exact ⟨value, after, returned, given, rfl⟩

variable {answer : AuthorityAnswer} {next : WorkflowProjectionV1} {now at_ : Timestamp}
  {workflowId recipientNodeId : String} {spec : WorkflowSpecV1} {transactionId : String}
  {bootstrap : WorkflowBootstrapV1}

theorem transact_steps [Collation] {input : WorkflowTransactionV1}
    (accepted : transact store input = .ok (next, after)) :
    Journal.Steps store.journal after.journal := by
  rcases transact_ok accepted with ⟨_, rfl⟩ | ⟨_, current, effect⟩
  · exact .refl
  · exact effect.appended.steps

theorem CreateEffect.created {initial next : WorkflowProjectionV1}
    (effect : CreateEffect store spec transactionId bootstrap initial next after) :
    Created store.journal after.journal spec transactionId (.workflowStarted :: bootstrap.events)
      initial next where
  start := effect.start
  folded := effect.folded
  written := by
    obtain ⟨stored, logged, row, inserted, recorded, _⟩ := effect.journal
    exact ⟨stored, logged, row, inserted, recorded⟩

theorem create_steps (accepted : create store spec transactionId bootstrap = .ok (next, after)) :
    Journal.Steps store.journal after.journal := by
  rcases create_ok accepted with ⟨_, rfl⟩ | ⟨initial, effect⟩
  · exact .refl
  · exact .single (.created effect.created)

theorem recoverExpired_steps {ids : Nat → RecoveryIds} {decisions : List WorkflowRecoveryDecisionV1}
    (accepted : recoverExpired store now ids = .ok (decisions, after)) :
    Journal.Steps store.journal after.journal := by
  refine recoverTasks_invariant (fun later => Journal.Steps store.journal later.journal) ?_ .refl
    accepted
  intro before row ids decision after steps effect
  cases effect with
  | ended _ _ appended => exact steps.trans appended.steps
  | retried _ _ _ _ _ appended => exact steps.trans appended.steps
  | settled _ _ _ appended => exact steps.trans appended.steps

theorem fireDueTimers_steps {fired : List WorkflowTimerV1}
    (accepted : fireDueTimers store now = .ok (fired, after)) :
    Journal.Steps store.journal after.journal := by
  simp only [fireDueTimers, bind_eq_ok, ensure_eq_ok] at accepted
  obtain ⟨_, _, run⟩ := accepted
  refine foldlM_invariant (fun state : List WorkflowTimerV1 × AuthorityStore =>
    Journal.Steps store.journal state.2.journal) ?_ .refl run
  rintro ⟨_, before⟩ row ⟨_, after⟩ steps fires
  obtain ⟨journal, current, next, _, rfl, appended⟩ := fireTimer_ok fires
  exact steps.trans appended.steps

theorem reserveEffect_steps {key inputDigest attemptId : String} {leaseExpiresAt : Timestamp}
    {admission : WorkflowEffectAdmissionV1}
    (accepted : reserveEffect store workflowId key inputDigest attemptId leaseExpiresAt at_ =
      .ok (admission, after)) : Journal.Steps store.journal after.journal := by
  cases reserveEffect_ok accepted with
  | granted _ _ _ _ _ _ appended => exact appended.steps
  | replayed _ _ _ _ appended => exact appended.steps
  | refused => exact .refl

theorem reserveEffectRequest_journal {request : ReviewPlanExecutionRequestV1}
    {requestDigest : String} {effectKind : WorkflowEffectClassV1} {externalKey : Option String}
    {leaseExpiresAt : Option Timestamp} {answer : WorkflowEffectRequestV1 × Bool}
    (accepted : reserveEffectRequest store request requestDigest effectKind externalKey
      leaseExpiresAt at_ = .ok (answer, after)) :
    after = { store with effectRequests := after.effectRequests } := by
  simp only [reserveEffectRequest, bind_eq_ok, ensure_eq_ok] at accepted
  obtain ⟨_, _, _, _, _, _, _, _, taken⟩ := accepted
  split at taken
  · simp only [bind_eq_ok, ensure_eq_ok, pure_eq_ok, Prod.mk.injEq] at taken
    obtain ⟨_, _, _, rfl⟩ := taken
    rfl
  · simp only [bind_eq_ok, orError_eq_ok, pure_eq_ok, Prod.mk.injEq] at taken
    obtain ⟨_, _, _, rfl⟩ := taken
    rfl

theorem postMessage_messages [Collation] {input : WorkflowMessageInputV1} {message : WorkflowMessageV1}
    (accepted : postMessage store input = .ok (message, after)) :
    after = { store with messages := after.messages } := by
  simp only [postMessage] at accepted
  split at accepted
  · simp only [bind_eq_ok, ensure_eq_ok, pure_eq_ok, Prod.mk.injEq] at accepted
    obtain ⟨_, _, _, _, _, rfl⟩ := accepted
    rfl
  · simp only [bind_eq_ok, pure_eq_ok, Prod.mk.injEq, Prod.exists] at accepted
    obtain ⟨_, _, _, _, _, _, rfl⟩ := accepted
    rfl

theorem acknowledgeMessages_messages {throughSequence : Int} {count : Nat}
    (accepted : acknowledgeMessages store workflowId recipientNodeId throughSequence at_ =
      .ok (count, after)) : after = { store with messages := after.messages } := by
  simp only [acknowledgeMessages, bind_eq_ok, ensure_eq_ok, pure_eq_ok, Prod.mk.injEq] at accepted
  obtain ⟨_, _, _, _, _, _, _, rfl⟩ := accepted
  rfl

theorem acknowledgeMessage_messages {messageId : String} {fresh : Bool}
    (accepted : acknowledgeMessage store workflowId messageId recipientNodeId at_ =
      .ok (fresh, after)) : after = { store with messages := after.messages } := by
  simp only [acknowledgeMessage, bind_eq_ok, ensure_eq_ok, orError_eq_ok] at accepted
  obtain ⟨_, _, _, _, _, _, taken⟩ := accepted
  split at taken <;> obtain ⟨_, rfl⟩ := Prod.mk.inj (pure_eq_ok.mp taken) <;> rfl

theorem resolveUnknown_ok [Collation] {read listed : AuthorityStore} {nodeId : String}
    {resolution : UnknownResolutionV1} {code : Option String}
    (accepted : resolveUnknown read listed store workflowId nodeId resolution code at_ =
      .ok (next, after)) :
    ∃ projection tasks input, read.journal.loadProjection workflowId = .ok projection ∧
      listTasks listed workflowId .unknown maxList = .ok tasks ∧
      resolveUnknownTransaction projection tasks nodeId resolution code at_ = .ok input ∧
      transact store input = .ok (next, after) := by
  simp only [resolveUnknown, bind_eq_ok, ensure_eq_ok] at accepted
  obtain ⟨_, _, projection, loaded, tasks, listing, input, built, applied⟩ := accepted
  exact ⟨projection, tasks, input, loaded, listing, built, applied⟩

/-- **Every operation of the authority writes the journal in steps.** -/
theorem AuthorityCall.perform_steps [Collation] {call : AuthorityCall}
    (accepted : call.perform store = .ok (answer, after)) :
    Journal.Steps store.journal after.journal := by
  cases call <;> simp only [AuthorityCall.perform, answering_eq_ok] at accepted <;>
    obtain ⟨value, accepted, _⟩ := accepted
  case admitTaskForRequest =>
    rcases admitTaskForRequest_ok accepted with
      rfl | ⟨_, _, journal, _, _, appended, _, _, same⟩
    · exact .refl
    · rw [same]
      exact appended.steps
  case bindTaskCapabilityBundle =>
    obtain ⟨_, _, _, _, _, _, _, _, rfl, appended⟩ := bindTaskCapabilityBundle_ok accepted
    exact appended.steps
  case claim =>
    rcases claim_ok accepted with ⟨_, rfl⟩ | ⟨_, _, _, _, _, _, _, _, _, rfl, appended⟩
    · exact .refl
    · exact appended.steps
  case heartbeat =>
    obtain ⟨_, _, _, _, _, _, _, _, _, rfl⟩ := heartbeat_ok accepted
    exact .refl
  case recoverExpired => exact recoverExpired_steps accepted
  case signal =>
    rcases signal_ok accepted with ⟨_, _, rfl⟩ | ⟨_, _, _, _, _, _, rfl, appended⟩
    · exact .refl
    · exact appended.steps
  case fireDueTimers => exact fireDueTimers_steps accepted
  case resolveHumanTask =>
    rcases resolveHumanTask_ok accepted with ⟨_, _, rfl⟩ | ⟨_, _, _, _, _, _, _, rfl, appended⟩
    · exact .refl
    · exact appended.steps
  case reserveEffect => exact reserveEffect_steps accepted
  case markEffectCompensated =>
    rcases markEffectCompensated_ok accepted with
      rfl | ⟨_, _, _, _, _, _, _, _, rfl, appended⟩
    · exact .refl
    · exact appended.steps
  case reserveEffectRequest =>
    rw [reserveEffectRequest_journal accepted]
  case postMessage =>
    rw [postMessage_messages accepted]
  case acknowledgeMessages =>
    rw [acknowledgeMessages_messages accepted]
  case acknowledgeMessage =>
    rw [acknowledgeMessage_messages accepted]
  case retryNode =>
    obtain ⟨_, _, _, _, _, _, _, _, _, _, _, _, _, _, _, same, appended⟩ := retryNode_ok accepted
    rw [same]
    exact appended.steps
  case resolveUnknown =>
    obtain ⟨_, _, _, _, _, _, applied⟩ := resolveUnknown_ok accepted
    exact transact_steps applied

theorem StoreCall.perform_steps [Collation] {call : StoreCall}
    (accepted : call.perform store = .ok (answer, after)) :
    Journal.Steps store.journal after.journal := by
  cases call with
  | create =>
    simp only [StoreCall.perform, answering_eq_ok] at accepted
    obtain ⟨_, created, _⟩ := accepted
    exact create_steps created
  | transact =>
    simp only [StoreCall.perform, answering_eq_ok] at accepted
    obtain ⟨_, applied, _⟩ := accepted
    exact transact_steps applied
  | call operation =>
    rw [StoreCall.perform] at accepted
    exact operation.perform_steps accepted

theorem StoreCall.after_steps [Collation] (call : StoreCall) :
    Journal.Steps store.journal (call.after store).journal := by
  rw [StoreCall.after]
  split
  · rename_i performed
    exact call.perform_steps performed
  · exact .refl

/-- **A run of calls writes the journal in steps.** -/
theorem StoreCall.run_steps [Collation] (calls : List StoreCall) :
    Journal.Steps store.journal (run store calls).journal := by
  induction calls generalizing store with
  | nil => exact .refl
  | cons call rest ih => exact call.after_steps.trans ih

theorem StoreCall.run_agrees [Collation] (calls : List StoreCall) :
    (run .empty calls).journal.Agrees :=
  ((run_steps calls).progress Journal.empty_agrees).agrees

theorem StoreCall.run_attributed (calls : List StoreCall) :
    (run .empty calls).journal.Attributed :=
  (run_steps calls).attributed Journal.empty_attributed

end Agreement

/-- What the three copies of every stored workflow say: the log is numbered from one without
gap, it reduces to the stored projection, and the columns repeat fields of that. -/
structure AuthorityStore.InAgreement (store : AuthorityStore) : Prop where
  sequences : ∀ workflowId row, store.journal.workflows.get? workflowId = some row →
    (store.journal.log workflowId).map (·.sequence) =
      List.range' 1 (store.journal.log workflowId).length
  reduced : ∀ workflowId row, store.journal.workflows.get? workflowId = some row →
    reduceWorkflowEventsV1 (store.journal.log workflowId) = .ok row.projection
  columns : ∀ workflowId row, store.journal.workflows.get? workflowId = some row →
    row.revision = row.projection.revision ∧ row.sequence = row.projection.sequence ∧
      row.state = row.projection.state

/-- **After every run of the store's operations, over any number of workflows and with any
calls rejected, the copies of each workflow agree.** -/
theorem storeRun_inAgreement [Collation] (calls : List StoreCall) :
    (StoreCall.run .empty calls).InAgreement := by
  have agrees := StoreCall.run_agrees calls
  exact
    { sequences := fun workflowId row stored =>
        (reduceWorkflowEventsV1_sequences (agrees.reduced workflowId row stored)).1
      reduced := agrees.reduced
      columns := agrees.columns }

/-! ## Earlier states -/

/-- What a journal tells of an earlier one: its logs begin as they were, reducing as many events
as an earlier projection counts gives that projection again, and every earlier projection is
followed by the one of the same workflow. -/
structure Journal.Recalls (earlier later : Journal) : Prop where
  logs : ∀ workflowId, earlier.log workflowId <+: later.log workflowId
  replay : ∀ workflowId projection, earlier.loadProjection workflowId = .ok projection →
    reduceWorkflowEventsV1 ((later.log workflowId).take projection.sequence) = .ok projection
  follows : earlier.Before later

theorem Journal.Steps.log_prefix {journal written : Journal} (steps : Journal.Steps journal written)
    (workflowId : String) : journal.log workflowId <+: written.log workflowId := by
  induction steps with
  | refl => exact List.prefix_rfl
  | tail _ step ih =>
    obtain ⟨_, _, _, _, _, _, values, _⟩ := step.envelope
    rw [Journal.log_append values]
    exact ih.trans (List.prefix_append _ _)

/-- **Every state that the store was in can be read off every later one.** -/
theorem storeRun_recalls [Collation] (calls more : List StoreCall) :
    (StoreCall.run .empty calls).journal.Recalls (StoreCall.run .empty (calls ++ more)).journal := by
  have agrees := StoreCall.run_agrees calls
  have steps : Journal.Steps (StoreCall.run .empty calls).journal
      (StoreCall.run .empty (calls ++ more)).journal := by
    rw [StoreCall.run, StoreCall.run, List.foldl_append]
    exact StoreCall.run_steps more
  refine ⟨steps.log_prefix, fun workflowId projection loaded => ?_,
    (steps.progress agrees).workflows⟩
  obtain ⟨row, stored, rfl⟩ := Journal.loadProjection_eq_ok.mp loaded
  have reduced := agrees.reduced workflowId row stored
  rw [(reduceWorkflowEventsV1_sequences reduced).2,
    ← List.prefix_iff_eq_take.mp (steps.log_prefix workflowId)]
  exact reduced

end Praxis.Workflow
