import Praxis.Durable.EffectGrants

/-!
# Bindings of capability bundles

A worker binds the bundle that it assembled to the task that it holds. The row of the task keeps
the reference (`TasksKept`), and the log keeps the transaction that recorded it, whose id names
the task and the attempt only. So the check of the row would accept the same reference again, but
the same transaction cannot be recorded twice: a repeated call is always refused.
-/

namespace Praxis.Workflow

set_option autoImplicit false

open Praxis.Foundations

/-! ## Rows over time -/

/-- Every task is filed under its own id. -/
def TasksFiled (tasks : Table String TaskRow) : Prop :=
  ∀ key row, tasks.get? key = some row → row.task.taskId = key

/-- The row of a task later on: the same work, and a bundle that was bound stays bound. -/
structure RowKept (before after : TaskRow) : Prop where
  work : SameWork before.task after.task
  bundle : ∀ ref, before.task.capabilityBundleRef = some ref →
    after.task.capabilityBundleRef = some ref

/-- Tasks later on: they are still filed, and no row was lost. -/
structure TasksKept (before after : Table String TaskRow) : Prop where
  filed : TasksFiled after
  stays : ∀ key row, before.get? key = some row → ∃ row', after.get? key = some row' ∧
    RowKept row row'

section Rows

variable {tasks middle after : Table String TaskRow} {row : TaskRow} {at_ : Timestamp}

theorem RowKept.refl (row : TaskRow) : RowKept row row := ⟨.refl _, fun _ bound => bound⟩

theorem RowKept.trans {first second third : TaskRow} (early : RowKept first second)
    (late : RowKept second third) : RowKept first third :=
  ⟨early.work.trans late.work, fun ref bound => late.bundle ref (early.bundle ref bound)⟩

theorem TasksKept.refl (filed : TasksFiled tasks) : TasksKept tasks tasks :=
  ⟨filed, fun _ row found => ⟨row, found, .refl row⟩⟩

theorem TasksKept.trans (early : TasksKept tasks middle) (late : TasksKept middle after) :
    TasksKept tasks after := by
  refine ⟨late.filed, fun key row found => ?_⟩
  obtain ⟨row', there, first⟩ := early.stays key row found
  obtain ⟨row'', last, second⟩ := late.stays key row' there
  exact ⟨row'', last, first.trans second⟩

theorem TasksKept.update {key : String} {next : TaskRow} (filed : TasksFiled tasks)
    (found : tasks.get? key = some row) (kept : RowKept row next) :
    TasksKept tasks (tasks.update key next) := by
  constructor
  · intro other stored there
    by_cases same : other = key
    · subst same
      rw [Table.get?_update_self _ _ found] at there
      obtain rfl := Option.some.inj there
      rw [kept.work.taskId]
      exact filed other row found
    · rw [Table.get?_update_ne _ _ same] at there
      exact filed other stored there
  · intro other stored there
    by_cases same : other = key
    · subst same
      obtain rfl := Option.mem_unique there found
      exact ⟨next, Table.get?_update_self _ _ found, kept⟩
    · exact ⟨stored, by rw [Table.get?_update_ne _ _ same, there], .refl stored⟩

theorem Inserted.tasksKept {new : List WorkflowTaskV1} (inserted : Inserted tasks new after)
    (filed : TasksFiled tasks) : TasksKept tasks after := by
  refine ⟨fun key row found => ?_,
    fun key row found => ⟨row, inserted.stays key row found, .refl row⟩⟩
  rcases inserted.rows key row found with old | ⟨_, task, _, id, _, rfl⟩
  · exact filed key row old
  · exact id

theorem insertTask_tasksKept {journal : Journal} {task : WorkflowTaskV1}
    (inserted : insertTask journal tasks task = .ok after) (filed : TasksFiled tasks) :
    TasksKept tasks after :=
  (insertTasks_ok (foldlM_cons_eq_ok.mpr ⟨after, inserted, foldlM_nil_eq_ok.mpr rfl⟩)).tasksKept
    filed

theorem RowKept.retired (row : TaskRow) (state : WorkflowTaskStateV1) (at_ : Timestamp) :
    RowKept row (retiredRow row.task state at_) :=
  ⟨rfl, fun _ bound => bound⟩

theorem acknowledgements_tasksKept {acks : List AcknowledgeTaskV1}
    (acknowledged : acks.foldlM (fun tasks ack => acknowledgeTask tasks ack at_) tasks = .ok after)
    (filed : TasksFiled tasks) : TasksKept tasks after := by
  induction acks generalizing tasks with
  | nil =>
    obtain rfl := foldlM_nil_eq_ok.mp acknowledged
    exact .refl filed
  | cons ack rest ih =>
    obtain ⟨next, first, others⟩ := foldlM_cons_eq_ok.mp acknowledged
    obtain ⟨row, found, _, rfl⟩ := acknowledgeTask_ok first
    have step := TasksKept.update filed found (.retired row ack.state.toState at_)
    exact step.trans (ih others step.filed)

theorem withdrawals_tasksKept {taskIds : List String} {workflowId : String}
    (cancelled : taskIds.foldlM (cancelReadyTask workflowId at_) tasks = .ok after)
    (filed : TasksFiled tasks) : TasksKept tasks after := by
  induction taskIds generalizing tasks with
  | nil =>
    obtain rfl := foldlM_nil_eq_ok.mp cancelled
    exact .refl filed
  | cons taskId rest ih =>
    obtain ⟨next, first, others⟩ := foldlM_cons_eq_ok.mp cancelled
    obtain ⟨row, found, _, _, rfl⟩ := cancelReadyTask_ok first
    have step := TasksKept.update filed found (.retired row .cancelled at_)
    exact step.trans (ih others step.filed)

end Rows

/-! ## The operations of the store -/

section Operations

variable {store after : AuthorityStore}

variable {next : WorkflowProjectionV1} {bound : WorkflowTaskV1} {taskId leaseToken : String}
  {ref : VersionedWorkflowRefV1} {at_ : Timestamp}

theorem transact_tasksKept {input : WorkflowTransactionV1} (filed : TasksFiled store.tasks)
    (accepted : transact store input = .ok (next, after)) : TasksKept store.tasks after.tasks := by
  rcases transact_ok accepted with ⟨_, rfl⟩ | ⟨_, current, effect⟩
  · exact .refl filed
  · obtain ⟨journal, enqueued, acknowledged, _, inserts, acks, cancels⟩ := effect.tasks
    have first := (insertTasks_ok inserts).tasksKept filed
    have second := acknowledgements_tasksKept acks first.filed
    have third := withdrawals_tasksKept cancels second.filed
    exact first.trans (second.trans third)

theorem create_tasksKept {spec : WorkflowSpecV1} {transactionId : String}
    {bootstrap : WorkflowBootstrapV1} (filed : TasksFiled store.tasks)
    (accepted : create store spec transactionId bootstrap = .ok (next, after)) :
    TasksKept store.tasks after.tasks := by
  rcases create_ok accepted with ⟨_, rfl⟩ | ⟨initial, effect⟩
  · exact .refl filed
  · obtain ⟨stored, logged, _, _, _, inserts⟩ := effect.journal
    exact (insertTasks_ok inserts).tasksKept filed

theorem bindTaskCapabilityBundle_row
    (accepted : bindTaskCapabilityBundle store taskId leaseToken ref at_ = .ok (bound, after)) :
    ∀ row, store.tasks.get? taskId = some row →
      ∀ prior, row.task.capabilityBundleRef = some prior → prior = ref := by
  simp only [bindTaskCapabilityBundle, parseTask, bind_eq_ok, pure_eq_ok, ensure_eq_ok,
    orError_eq_ok, Prod.mk.injEq, Prod.exists] at accepted
  obtain ⟨_, _, _, _, row, found, task, ⟨_, _, rfl⟩, _, _, _, agrees, _⟩ := accepted
  intro row' found' prior bound
  obtain rfl := Option.mem_unique found found'
  rw [bound] at agrees
  simpa using agrees

theorem bindTaskCapabilityBundle_tasksKept (filed : TasksFiled store.tasks)
    (accepted : bindTaskCapabilityBundle store taskId leaseToken ref at_ = .ok (bound, after)) :
    TasksKept store.tasks after.tasks := by
  have prior := bindTaskCapabilityBundle_row accepted
  obtain ⟨row, _, _, _, _, found, _, rfl, rfl, _⟩ := bindTaskCapabilityBundle_ok accepted
  refine .update filed found ⟨rfl, fun old bound => ?_⟩
  rw [prior row found old bound]

variable {now : Timestamp}

theorem claim_tasksKept {workerId : String} {options : ClaimOptionsV1} {uuid : Uuid}
    {claimed : Option WorkflowTaskClaimV1} (filed : TasksFiled store.tasks)
    (accepted : claim store workerId options now uuid = .ok (claimed, after)) :
    TasksKept store.tasks after.tasks := by
  rcases claim_ok accepted with ⟨_, rfl⟩ | ⟨task, _, _, _, _, selected, _, _, _, rfl, _⟩
  · exact .refl filed
  · obtain ⟨key, row, found, rfl, _⟩ := selectTask_ready selected
    have own := filed key row found
    rw [own] at *
    exact .update filed found ⟨rfl, fun _ bound => bound⟩

theorem heartbeat_tasksKept {progress : Bool}
    {lease : WorkflowTaskLeaseV1} (filed : TasksFiled store.tasks)
    (accepted : heartbeat store taskId leaseToken progress now = .ok (lease, after)) :
    TasksKept store.tasks after.tasks := by
  obtain ⟨row, _, found, _, _, _, _, _, _, rfl⟩ := heartbeat_ok accepted
  exact .update filed found ⟨rfl, fun _ bound => bound⟩

theorem RecoverEffect.tasksKept {row : TaskRow} {ids : RecoveryIds}
    {decision : Option WorkflowRecoveryDecisionV1} (filed : TasksFiled store.tasks)
    (stored : store.tasks.get? row.task.taskId = some row)
    (effect : RecoverEffect store row ids now decision after) :
    TasksKept store.tasks after.tasks := by
  cases effect with
  | ended => exact .update filed stored (.retired row _ now)
  | retried _ _ _ _ inserted =>
    have step := TasksKept.update filed stored (.retired row .failed now)
    exact step.trans (insertTask_tasksKept inserted step.filed)
  | settled => exact .update filed stored (.retired row _ now)

theorem reserveEffect_tasks {workflowId key inputDigest attemptId : String}
    {leaseExpiresAt : Timestamp} {admission : WorkflowEffectAdmissionV1}
    (accepted : reserveEffect store workflowId key inputDigest attemptId leaseExpiresAt at_ =
      .ok (admission, after)) : after.tasks = store.tasks := by
  cases reserveEffect_ok accepted <;> rfl

theorem fireDueTimers_tasks {fired : List WorkflowTimerV1}
    (accepted : fireDueTimers store now = .ok (fired, after)) : after.tasks = store.tasks := by
  simp only [fireDueTimers, bind_eq_ok, ensure_eq_ok] at accepted
  obtain ⟨_, _, run⟩ := accepted
  refine foldlM_invariant (fun state : List WorkflowTimerV1 × AuthorityStore =>
    state.2.tasks = store.tasks) ?_ rfl run
  rintro ⟨_, before⟩ row ⟨_, later⟩ same fires
  obtain ⟨journal, current, next, _, rfl, _⟩ := fireTimer_ok fires
  exact same

/-- **Every operation of the store keeps the tasks.** -/
theorem StoreCall.perform_tasksKept {call : StoreCall} {answer : AuthorityAnswer}
    (filed : TasksFiled store.tasks) (accepted : call.perform store = .ok (answer, after)) :
    TasksKept store.tasks after.tasks := by
  have same {next : AuthorityStore} (tasks : next.tasks = store.tasks) :
      TasksKept store.tasks next.tasks := by
    rw [tasks]
    exact .refl filed
  cases call with
  | create =>
    simp only [StoreCall.perform, answering_eq_ok] at accepted
    obtain ⟨_, created, _⟩ := accepted
    exact create_tasksKept filed created
  | transact =>
    simp only [StoreCall.perform, answering_eq_ok] at accepted
    obtain ⟨_, applied, _⟩ := accepted
    exact transact_tasksKept filed applied
  | call operation =>
    rw [StoreCall.perform] at accepted
    cases operation <;> simp only [AuthorityCall.perform, answering_eq_ok] at accepted <;>
      obtain ⟨value, accepted, _⟩ := accepted
    case admitTaskForRequest =>
      rcases admitTaskForRequest_ok accepted with rfl | ⟨_, _, _, _, _, _, _, inserted, _⟩
      · exact same rfl
      · exact insertTask_tasksKept inserted filed
    case bindTaskCapabilityBundle => exact bindTaskCapabilityBundle_tasksKept filed accepted
    case claim => exact claim_tasksKept filed accepted
    case heartbeat => exact heartbeat_tasksKept filed accepted
    case recoverExpired =>
      obtain ⟨distinct, listed⟩ := expiredTasks_listed filed _
      exact recoverTasks_listed (fun later => TasksKept store.tasks later.tasks)
        (fun _ _ _ _ _ _ kept found effect => kept.trans (effect.tasksKept kept.filed found))
        distinct (fun row member => (listed row member).1) (.refl filed) accepted
    case signal =>
      rcases signal_ok accepted with ⟨_, _, rfl⟩ | ⟨_, _, _, _, _, _, rfl, _⟩ <;> exact same rfl
    case fireDueTimers => exact same (fireDueTimers_tasks accepted)
    case resolveHumanTask =>
      rcases resolveHumanTask_ok accepted with ⟨_, _, rfl⟩ | ⟨_, _, _, _, _, _, _, rfl, _⟩ <;>
        exact same rfl
    case reserveEffect => exact same (reserveEffect_tasks accepted)
    case markEffectCompensated =>
      rcases markEffectCompensated_ok accepted with rfl | ⟨_, _, _, _, _, _, _, _, rfl, _⟩ <;>
        exact same rfl
    case reserveEffectRequest =>
      rw [reserveEffectRequest_journal accepted]
      exact same rfl
    case postMessage =>
      rw [postMessage_messages accepted]
      exact same rfl
    case acknowledgeMessages =>
      rw [acknowledgeMessages_messages accepted]
      exact same rfl
    case acknowledgeMessage =>
      rw [acknowledgeMessage_messages accepted]
      exact same rfl
    case retryNode =>
      obtain ⟨_, _, _, _, _, _, _, _, _, _, _, _, _, _, inserted, _⟩ := retryNode_ok accepted
      exact insertTask_tasksKept inserted filed
    case resolveUnknown =>
      obtain ⟨_, _, _, _, _, _, applied⟩ := resolveUnknown_ok accepted
      exact transact_tasksKept filed applied

/-- **A run of calls keeps the tasks.** -/
theorem StoreCall.run_tasksKept (calls : List StoreCall) (filed : TasksFiled store.tasks) :
    TasksKept store.tasks (run store calls).tasks := by
  induction calls generalizing store with
  | nil => exact .refl filed
  | cons call rest ih =>
    have step : TasksKept store.tasks (call.after store).tasks := by
      rw [StoreCall.after]
      split
      · rename_i performed
        exact call.perform_tasksKept filed performed
      · exact .refl filed
    exact step.trans (ih step.filed)

theorem StoreCall.run_tasksFiled (calls : List StoreCall) : TasksFiled (run .empty calls).tasks :=
  (run_tasksKept calls fun _ _ found => by cases found).filed

end Operations

/-! ## Recorded transactions -/

section Records

variable {journal written : Journal} {transactionId : String}

theorem Journal.Steps.recorded (steps : Journal.Steps journal written)
    (recorded : journal.transactions.get? transactionId ≠ none) :
    written.transactions.get? transactionId ≠ none := by
  induction steps with
  | refl => exact recorded
  | tail _ step ih =>
    obtain ⟨_, other, _, _, _, projection, _, inserted⟩ := step.envelope
    rw [Table.get?_of_insert inserted]
    split
    · simp
    · exact ih

variable {workflowId : String} {data : List WorkflowEventDataV1}
  {current next : WorkflowProjectionV1} {at_ : Timestamp}

theorem Appended.unrecorded
    (appended : Appended journal written workflowId transactionId at_ data current next) :
    journal.transactions.get? transactionId = none :=
  (journal.transactions.insert_eq_some_iff.mp appended.recorded).1

theorem Appended.records
    (appended : Appended journal written workflowId transactionId at_ data current next) :
    written.transactions.get? transactionId ≠ none := by
  rw [Table.get?_of_insert appended.recorded, if_pos rfl]
  simp

end Records

/-! ## A worker that binds again -/

/-- What a worker may pass to the operation at all. -/
def Bindable (taskId leaseToken : String) (ref : VersionedWorkflowRefV1) (at_ : Timestamp) : Prop :=
  ∃ digest, ref.digest = some digest ∧ (authoritySafeId taskId && authoritySafeId leaseToken &&
    authoritySafeId ref.id && ref.version == 1 && isSha256 digest && at_.valid) = true

/-- A worker holds the task under the token. -/
def HoldsTask (store : AuthorityStore) (taskId leaseToken : String) : Prop :=
  ∃ row, store.tasks.get? taskId = some row ∧ holdsLease row.task leaseToken = true

section Retries

variable {store after : AuthorityStore} {taskId leaseToken : String}
  {ref : VersionedWorkflowRefV1} {at_ : Timestamp}

/-- **A task to which a bundle is bound refuses every other one.** -/
theorem bindTaskCapabilityBundle_conflict {row : TaskRow} {other : VersionedWorkflowRefV1}
    (found : store.tasks.get? taskId = some row)
    (binding : row.task.executionBinding.all (·.isValid) = true)
    (held : holdsLease row.task leaseToken = true) (bound : row.task.capabilityBundleRef = some ref)
    (different : other ≠ ref) (bindable : Bindable taskId leaseToken other at_) :
    bindTaskCapabilityBundle store taskId leaseToken other at_ =
      .error .workflowExecutionSnapshotConflict := by
  obtain ⟨digest, digested, safe⟩ := bindable
  have refused :
      (row.task.capabilityBundleRef.all fun bound => decide (bound = other)) = false := by
    rw [bound]
    exact decide_eq_false fun same => different same.symm
  have parsed : parseTask row = .ok row.task := by
    simp only [parseTask, ensure, binding, if_true, ok_bind]
    rfl
  simp only [bindTaskCapabilityBundle, digested, orError, safe, ensure, found, parsed, held,
    refused, ok_bind, if_true, Bool.false_eq_true, if_false]
  rfl

theorem bindTaskCapabilityBundle_leaves {bound : WorkflowTaskV1}
    (first : bindTaskCapabilityBundle store taskId leaseToken ref at_ = .ok (bound, after)) :
    ∃ row, after.tasks.get? taskId = some row ∧ row.task = bound ∧
      bound.capabilityBundleRef = some ref ∧
      bound.executionBinding.all (·.isValid) = true ∧
      after.journal.transactions.get?
        ("execution-snapshot-" ++ bound.taskId ++ "-" ++ bound.attemptId) ≠ none := by
  have parsed := first
  simp only [bindTaskCapabilityBundle, parseTask, bind_eq_ok, pure_eq_ok, ensure_eq_ok,
    orError_eq_ok, Prod.mk.injEq, Prod.exists] at parsed
  obtain ⟨_, _, _, _, row, found, task, ⟨_, binding, rfl⟩, _⟩ := parsed
  obtain ⟨row', journal, _, _, _, found', _, rfl, rfl, appended⟩ :=
    bindTaskCapabilityBundle_ok first
  obtain rfl := Option.mem_unique found found'
  exact ⟨_, Table.get?_update_self _ _ found, rfl, rfl, binding, appended.records⟩

end Retries

/-- **A repeated binding is always refused, whatever the store went through; and a task that is
still held refuses every other bundle with a conflict.** -/
theorem bind_retry_never_succeeds (history later : List StoreCall) {taskId leaseToken : String}
    {ref : VersionedWorkflowRefV1} {at_ : Timestamp} {bound : WorkflowTaskV1}
    {store : AuthorityStore}
    (first : bindTaskCapabilityBundle (StoreCall.run .empty history) taskId leaseToken ref at_ =
      .ok (bound, store)) :
    (∀ retriedAt, ∃ error, bindTaskCapabilityBundle (StoreCall.run store later) taskId leaseToken
      ref retriedAt = .error error) ∧
    ∀ (other : VersionedWorkflowRefV1) (retriedAt : Timestamp), other ≠ ref →
      Bindable taskId leaseToken other retriedAt →
      HoldsTask (StoreCall.run store later) taskId leaseToken →
      bindTaskCapabilityBundle (StoreCall.run store later) taskId leaseToken other retriedAt =
          .error .workflowExecutionSnapshotConflict ∧
        (StoreCall.call (.bindTaskCapabilityBundle taskId leaseToken other retriedAt)).after
          (StoreCall.run store later) = StoreCall.run store later := by
  have filed := (bindTaskCapabilityBundle_tasksKept (StoreCall.run_tasksFiled history) first).filed
  obtain ⟨row, found, rfl, bundle, binding, recorded⟩ := bindTaskCapabilityBundle_leaves first
  obtain ⟨row', found', kept⟩ := (StoreCall.run_tasksKept later filed).stays taskId row found
  have still := (StoreCall.run_steps later).recorded recorded
  constructor
  · intro retriedAt
    cases result : bindTaskCapabilityBundle (StoreCall.run store later) taskId leaseToken ref
        retriedAt with
    | error error => exact ⟨error, rfl⟩
    | ok answer =>
      -- The transaction has the id under which the first call was recorded.
      obtain ⟨again, _, _, _, _, found'', _, _, _, appended⟩ := bindTaskCapabilityBundle_ok result
      obtain rfl := Option.mem_unique found' found''
      have unrecorded := appended.unrecorded
      rw [kept.work.taskId, kept.work.attemptId] at unrecorded
      exact absurd unrecorded still
  · rintro other retriedAt different bindable ⟨again, found'', held⟩
    obtain rfl := Option.mem_unique found' found''
    have valid : row'.task.executionBinding.all (·.isValid) = true := by
      rw [kept.work]
      exact binding
    have refused := bindTaskCapabilityBundle_conflict found' valid held (kept.bundle ref bundle)
      different bindable
    refine ⟨refused, ?_⟩
    simp only [StoreCall.after, StoreCall.perform, AuthorityCall.perform, refused]
    rfl

/-- A worker holds a task. -/
def heldHistory : List StoreCall :=
  (stalledHistory { effectClass := .pure, requiresApproval := false }).take 2

def heldToken : String := "lease-" ++ zeroUuid.text

def sampleBundle : VersionedWorkflowRefV1 where
  id := "bundle"
  version := 1
  digest := some effectDigest

theorem held_task_bound : ∃ bound store,
    bindTaskCapabilityBundle (StoreCall.run .empty heldHistory) "work" heldToken sampleBundle
      epochStart = .ok (bound, store) ∧ HoldsTask store "work" heldToken := by
  have accepted : (bindTaskCapabilityBundle (StoreCall.run .empty heldHistory) "work" heldToken
      sampleBundle epochStart).toOption.any (fun result =>
        (result.2.tasks.get? "work").any fun row => holdsLease row.task heldToken) = true := by
    decide +kernel
  obtain ⟨⟨bound, store⟩, first, held⟩ := exists_ok accepted
  obtain ⟨row, found, holds⟩ := (Option.any_eq_true _ _).mp held
  exact ⟨bound, store, first, row, found, holds⟩

/-- **A worker that repeats its call at once is refused.** -/
theorem bind_retry_refused :
    ¬ ∀ (history : List StoreCall) (taskId leaseToken : String) (ref : VersionedWorkflowRefV1)
        (at_ retriedAt : Timestamp) (bound : WorkflowTaskV1) (store : AuthorityStore),
      bindTaskCapabilityBundle (StoreCall.run .empty history) taskId leaseToken ref at_ =
        .ok (bound, store) → HoldsTask store taskId leaseToken →
      ∃ again later, bindTaskCapabilityBundle store taskId leaseToken ref retriedAt =
        .ok (again, later) ∧ again.capabilityBundleRef = bound.capabilityBundleRef := by
  intro succeeds
  obtain ⟨bound, store, first, held⟩ := held_task_bound
  obtain ⟨again, later, second, _⟩ :=
    succeeds heldHistory "work" heldToken sampleBundle epochStart epochStart bound store first held
  obtain ⟨row, found, rfl, _, _, recorded⟩ := bindTaskCapabilityBundle_leaves first
  obtain ⟨row', _, _, _, _, found', _, _, _, appended⟩ := bindTaskCapabilityBundle_ok second
  obtain rfl := Option.mem_unique found found'
  exact recorded appended.unrecorded

theorem held_task_refuses :
    ∃ bound store,
      bindTaskCapabilityBundle (StoreCall.run .empty heldHistory) "work" heldToken sampleBundle
        epochStart = .ok (bound, store) ∧
      (∃ error, bindTaskCapabilityBundle store "work" heldToken sampleBundle epochStart =
        .error error) ∧
      bindTaskCapabilityBundle store "work" heldToken { sampleBundle with id := "other" }
          epochStart =
        .error .workflowExecutionSnapshotConflict := by
  obtain ⟨bound, store, first, held⟩ := held_task_bound
  obtain ⟨same, other⟩ := bind_retry_never_succeeds heldHistory [] first
  exact ⟨bound, store, first, same epochStart, (other _ epochStart (by decide)
    ⟨effectDigest, rfl, by decide +kernel⟩ held).1⟩

end Praxis.Workflow
