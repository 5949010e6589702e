import Praxis.Durable.Authority

/-!
# What the authority's operations do

One inversion theorem for each operation: what an accepted call found in the store, and
which store it left. Every invariant of the store is proved from these, so that a change to
an operation is a change to its theorem here.

Almost every operation appends the events of one transaction to one workflow (`Appended`)
and edits the other tables beside it.
-/

namespace Praxis.Workflow

set_option autoImplicit false

open Praxis.Foundations

section Effects

variable {store after : AuthorityStore} {next : WorkflowProjectionV1}

variable {workflowId transactionId taskId leaseToken attemptId key inputDigest : String}
  {at_ now : Timestamp} {input : WorkflowTransactionV1} {taskUuid attemptUuid : Uuid}

theorem appendEvents_ok {data : List WorkflowEventDataV1}
    (accepted : appendEvents store workflowId transactionId at_ data = .ok (next, after)) :
    ∃ journal current, after = { store with journal } ∧
      Appended store.journal journal workflowId transactionId at_ data current next := by
  simp only [appendEvents, bind_eq_ok, pure_eq_ok, Prod.mk.injEq, Prod.exists] at accepted
  obtain ⟨_, journal, appended, rfl, rfl⟩ := accepted
  obtain ⟨current, written⟩ := Journal.appendInternalEvents_ok appended
  exact ⟨journal, current, rfl, written⟩

/-! ## Transactions -/

/-- What a new transaction does to the tables. -/
structure TransactEffect (store : AuthorityStore) (input : WorkflowTransactionV1)
    (current next : WorkflowProjectionV1) (after : AuthorityStore) : Prop where
  appended : Appended store.journal after.journal input.workflowId input.transactionId
    input.occurredAt input.events current next
  sequence : (current.sequence : Int) = input.expectedSequence
  tasks : ∃ journal enqueued acknowledged, journal.workflows = store.journal.workflows ∧
    input.enqueueTasks.foldlM (insertTask journal) store.tasks = .ok enqueued ∧
    input.acknowledgeTask.toList.foldlM (fun tasks ack =>
      acknowledgeTask tasks ack input.occurredAt) enqueued = .ok acknowledged ∧
    input.cancelReadyTasks.foldlM (cancelReadyTask input.workflowId input.occurredAt)
      acknowledged = .ok after.tasks
  effectReceipts : input.effectReceipts.foldlM insertEffectReceipt
    (store.effectReceipts, store.effectRequests) = .ok (after.effectReceipts, after.effectRequests)
  effectReservations : input.effectReservationTerminal.toList.foldlM
    (settleReservation input.workflowId input.occurredAt) store.effectReservations =
    .ok after.effectReservations
  fairness : after.fairness = store.fairness
  signals : after.signals = store.signals
  taskRequests : after.taskRequests = store.taskRequests

theorem transactFresh_ok [Collation] (accepted : transactFresh store input = .ok (next, after)) :
    ∃ current, TransactEffect store input current next after := by
  simp only [transactFresh, bind_eq_ok, pure_eq_ok, ensure_eq_ok, beq_iff_eq, Prod.mk.injEq,
    Prod.exists] at accepted
  obtain ⟨current, loaded, _, sequence, projection, journal, applied, enqueued, inserts, _, _, _, _,
    _, _, effectReceipts, effectRequests, receipts, _, _, _, settled, acknowledged, acks, retired,
    cancels, recorded, record, rfl, rfl⟩ := accepted
  obtain ⟨_, inserted⟩ := Journal.applyEvents_ok applied
  exact ⟨current,
    { appended := .of_parts loaded applied record
      sequence
      tasks := ⟨journal, enqueued, acknowledged, (Journal.insertEvents_ok inserted).1, inserts,
        acks, cancels⟩
      effectReceipts := receipts
      effectReservations := settled
      fairness := rfl
      signals := rfl
      taskRequests := rfl }⟩

theorem transact_ok [Collation] (accepted : transact store input = .ok (next, after)) :
    (store.journal.transactions.get? input.transactionId = some next ∧ after = store) ∨
    (store.journal.transactions.get? input.transactionId = none ∧
      ∃ current, TransactEffect store input current next after) := by
  simp only [transact, bind_eq_ok, ensure_eq_ok] at accepted
  obtain ⟨_, _, taken⟩ := accepted
  split at taken
  · rename_i duplicate found
    obtain ⟨rfl, rfl⟩ := Prod.mk.inj (pure_eq_ok.mp taken)
    exact .inl ⟨found, rfl⟩
  · rename_i unused
    exact .inr ⟨unused, transactFresh_ok taken⟩

structure CreateEffect (store : AuthorityStore) (spec : WorkflowSpecV1) (transactionId : String)
    (bootstrap : WorkflowBootstrapV1) (initial next : WorkflowProjectionV1)
    (after : AuthorityStore) : Prop where
  start : initialWorkflowProjectionV1 spec = .ok initial
  folded : (envelopeEvents spec transactionId spec.createdAt 0
    (.workflowCreated spec :: .workflowStarted :: bootstrap.events)).foldlM
      applyWorkflowEventV1 initial = .ok next
  journal : ∃ stored logged, store.journal.insertWorkflow spec next = .ok stored ∧
    stored.insertEvents (envelopeEvents spec transactionId spec.createdAt 0
      (.workflowCreated spec :: .workflowStarted :: bootstrap.events)) = .ok logged ∧
    logged.recordTransaction transactionId next = .ok after.journal ∧
    bootstrap.tasks.foldlM (insertTask logged) store.tasks = .ok after.tasks
  effectReceipts : bootstrap.effectReceipts.foldlM insertEffectReceipt
    (store.effectReceipts, store.effectRequests) = .ok (after.effectReceipts, after.effectRequests)
  effectReservations : after.effectReservations = store.effectReservations

theorem create_ok {specValue : WorkflowSpecV1} {bootstrap : WorkflowBootstrapV1}
    (accepted : create store specValue transactionId bootstrap = .ok (next, after)) :
    (store.journal.transactions.get? transactionId = some next ∧ after = store) ∨
    ∃ initial, CreateEffect store specValue transactionId bootstrap initial next after := by
  simp only [create, bind_eq_ok] at accepted
  obtain ⟨spec, valid, taken⟩ := accepted
  obtain rfl := validateWorkflowSpecV1_returns valid
  split at taken
  · rename_i duplicate found
    obtain ⟨rfl, rfl⟩ := Prod.mk.inj (pure_eq_ok.mp taken)
    exact .inl ⟨found, rfl⟩
  · simp only [createFresh, bind_eq_ok, pure_eq_ok, ensure_eq_ok, Prod.mk.injEq,
      Prod.exists] at taken
    obtain ⟨_, _, initial, start, projection, folded, stored, row, logged, inserted, tasks, inserts,
      _, _, _, _, _, _, receiptTable, requestTable, receipts, recorded, record, rfl, rfl⟩ := taken
    have sequence : initial.sequence = 0 := by
      obtain ⟨_, rfl⟩ := initialWorkflowProjectionV1_eq_ok start
      rfl
    rw [sequence] at folded inserted
    exact .inr ⟨initial, start, folded, ⟨stored, logged, row, inserted, record, inserts⟩, receipts,
      rfl⟩

/-! ## Requested tasks -/

theorem admitTaskForRequest_ok {request : ReviewPlanExecutionRequestV1}
    {taskSpec : WorkflowTaskSpecV1} {requestDigest : String} {answer : WorkflowTaskV1 × Bool}
    (accepted : admitTaskForRequest store request taskSpec requestDigest taskUuid attemptUuid =
      .ok (answer, after)) : after = store ∨
    ∃ current next journal logged,
      request.binding.isValid = true ∧
      Appended store.journal journal request.workflowId
        ("execution-admit-" ++ request.binding.requestId) taskSpec.readyAt
        [.executionTaskAdmitted request.binding.requestId requestDigest taskSpec.node
          (scheduledAttempt ("attempt-" ++ attemptUuid.text) taskSpec.node.nodeId 1)]
        current next ∧
      logged.workflows = store.journal.workflows ∧
      insertTask logged store.tasks (requestedTask current request taskSpec
        ("task-" ++ taskUuid.text) ("attempt-" ++ attemptUuid.text)) = .ok after.tasks ∧
      after = { store with
        journal
        tasks := after.tasks
        outbox := after.outbox
        taskRequests := after.taskRequests } := by
  simp only [admitTaskForRequest, checkTaskRequest, bind_eq_ok, ensure_eq_ok] at accepted
  obtain ⟨_, ⟨_, binding, _⟩, taken⟩ := accepted
  split at taken
  · simp only [bind_eq_ok, ensure_eq_ok, pure_eq_ok, Prod.mk.injEq] at taken
    obtain ⟨_, _, _, _, _, rfl⟩ := taken
    exact .inl rfl
  · simp only [admitFreshTask, bind_eq_ok, pure_eq_ok, ensure_eq_ok, orError_eq_ok, Prod.mk.injEq,
      Prod.exists] at taken
    obtain ⟨current, loaded, _, _, projection, logged, applied, tasks, inserted, outbox, _, _, _,
      taskRequests, _, recorded, record, rfl, rfl⟩ := taken
    obtain ⟨_, stored⟩ := Journal.applyEvents_ok applied
    exact .inr ⟨current, projection, recorded, logged, binding, .of_parts loaded applied record,
      (Journal.insertEvents_ok stored).1, inserted, rfl⟩

theorem bindTaskCapabilityBundle_ok {ref : VersionedWorkflowRefV1} {bound : WorkflowTaskV1}
    (accepted : bindTaskCapabilityBundle store taskId leaseToken ref at_ = .ok (bound, after)) :
    ∃ row journal current next snapshotRef, store.tasks.get? taskId = some row ∧
      holdsLease row.task leaseToken = true ∧
      bound = { row.task with capabilityBundleRef := some ref, updatedAt := at_ } ∧
      after = { store with
        journal
        tasks := store.tasks.update taskId { row with task := bound } } ∧
      Appended store.journal journal row.task.workflowId
        ("execution-snapshot-" ++ row.task.taskId ++ "-" ++ row.task.attemptId) at_
        [.executionSnapshotBound row.task.nodeId row.task.attemptId snapshotRef] current next := by
  simp only [bindTaskCapabilityBundle, parseTask, bind_eq_ok, pure_eq_ok, ensure_eq_ok,
    orError_eq_ok, Prod.mk.injEq, Prod.exists] at accepted
  obtain ⟨_, _, _, _, row, found, task, ⟨_, _, rfl⟩, _, held, _, _, next, last, appended, rfl,
    rfl⟩ := accepted
  obtain ⟨journal, current, rfl, written⟩ := appendEvents_ok appended
  exact ⟨row, journal, current, next, _, found, held, rfl, rfl, written⟩

/-! ## Leases -/

def grantedLease (workerId : String) (now expiresAt : Timestamp) (uuid : Uuid) :
    WorkflowTaskLeaseV1 where
  token := "lease-" ++ uuid.text
  workerId := workerId
  acquiredAt := now
  expiresAt := expiresAt
  lastHeartbeatAt := now
  lastProgressAt := now

/-- A task with the lease that a claim grants on it. -/
def leasedTask (task : WorkflowTaskV1) (lease : WorkflowTaskLeaseV1) (now : Timestamp) :
    WorkflowTaskV1 :=
  { task with state := .leased, lease := some lease, updatedAt := now }

theorem claim_ok {workerId : String} {options : ClaimOptionsV1} {uuid : Uuid}
    {claimed : Option WorkflowTaskClaimV1}
    (accepted : claim store workerId options now uuid = .ok (claimed, after)) :
    (claimed = none ∧ after = store) ∨
    ∃ task expiresAt journal current next,
      selectTask store options now = .ok (some task) ∧
      1000 ≤ options.leaseMs.getD defaultLeaseMs ∧
      now.after? (options.leaseMs.getD defaultLeaseMs) = some expiresAt ∧
      claimed = some
        { task := leasedTask task (grantedLease workerId now expiresAt uuid) now
          lease := grantedLease workerId now expiresAt uuid } ∧
      after = { store with
        journal
        fairness := store.fairness.upsert task.workflowId now
        tasks := store.tasks.update task.taskId
          { task := leasedTask task (grantedLease workerId now expiresAt uuid) now
            state := .leased
            leaseExpiresAt := some expiresAt } } ∧
      Appended store.journal journal task.workflowId
        ("claim-" ++ task.taskId ++ "-" ++ (grantedLease workerId now expiresAt uuid).token) now
        (leaseEvents task (grantedLease workerId now expiresAt uuid) now) current next := by
  simp only [claim, bind_eq_ok, ensure_eq_ok, Bool.and_eq_true, decide_eq_true_eq] at accepted
  obtain ⟨_, _, _, ⟨_, duration, _⟩, selected, select, taken⟩ := accepted
  cases selected with
  | none =>
    obtain ⟨rfl, rfl⟩ := Prod.mk.inj (pure_eq_ok.mp taken)
    exact .inl ⟨rfl, rfl⟩
  | some task =>
    simp only [leaseTask, bind_eq_ok, pure_eq_ok, orError_eq_ok, Prod.mk.injEq,
      Prod.exists] at taken
    obtain ⟨expiresAt, expires, _, _, ⟨next, last, appended, rfl, rfl⟩, rfl, rfl⟩ := taken
    obtain ⟨journal, current, rfl, written⟩ := appendEvents_ok appended
    exact .inr ⟨task, expiresAt, journal, current, next, select, duration, expires, rfl, rfl,
      written⟩

theorem heartbeat_ok {progress : Bool} {lease : WorkflowTaskLeaseV1}
    (accepted : heartbeat store taskId leaseToken progress now = .ok (lease, after)) :
    ∃ row held, store.tasks.get? taskId = some row ∧ row.task.state = .leased ∧
      row.task.lease = some held ∧ held.token = leaseToken ∧
      held.expiresAt.parsedLe now = false ∧
      now.after? (max 1000 (row.task.timeout.heartbeatMs * 3)) = some lease.expiresAt ∧
      lease.token = held.token ∧
      after = { store with
        tasks := store.tasks.update taskId
          { row with
            task := { row.task with lease := some lease, updatedAt := now }
            leaseExpiresAt := some lease.expiresAt } } := by
  simp only [heartbeat, parseTask, bind_eq_ok, pure_eq_ok, ensure_eq_ok, orError_eq_ok,
    Prod.mk.injEq, Bool.and_eq_true, beq_iff_eq, Bool.not_eq_true'] at accepted
  obtain ⟨row, found, task, ⟨_, _, rfl⟩, _, leased, held, holds, _, ⟨token, alive⟩, expiresAt,
    expires, rfl, rfl⟩ := accepted
  exact ⟨row, held, found, leased, holds, token, alive, expires, rfl, rfl⟩

/-! ## Recovery -/

inductive RecoverEffect (store : AuthorityStore) (row : TaskRow) (ids : RecoveryIds)
    (now : Timestamp) : Option WorkflowRecoveryDecisionV1 → AuthorityStore → Prop
  | ended {current next : WorkflowProjectionV1} {oldAttempt : WorkflowAttemptProjectionV1}
      {journal : Journal}
      (found : findAttempt? current.attempts row.task.attemptId = some oldAttempt)
      (terminal : isTerminalWorkflow current.state = true)
      (appended : Appended store.journal journal row.task.workflowId
        ("recover-terminal-" ++ row.task.taskId ++ "-" ++ toString current.sequence) now
        (terminalRecoveryEvents current oldAttempt row.task now) current next) :
      RecoverEffect store row ids now none
        { store with
          journal
          tasks := store.tasks.update row.task.taskId (retiredRow row.task .cancelled now) }
  | retried {current next : WorkflowProjectionV1} {oldAttempt : WorkflowAttemptProjectionV1}
      {journal : Journal} {tasks : Table String TaskRow} {readyAt : Timestamp}
      (found : findAttempt? current.attempts row.task.attemptId = some oldAttempt)
      (terminal : isTerminalWorkflow current.state = false)
      (decision : (recoveryDecision row.task oldAttempt).decision = .retry)
      (ready : retryReadyAt row.task.retry oldAttempt.ordinal now = some readyAt)
      (inserted : insertTask store.journal
        (store.tasks.update row.task.taskId (retiredRow row.task .failed now))
        (retryTaskOf row.task ("task-" ++ ids.task.text) ("attempt-" ++ ids.attempt.text) readyAt
          now) = .ok tasks)
      (appended : Appended store.journal journal row.task.workflowId
        ("recover-" ++ row.task.taskId ++ "-" ++ ids.transaction.text) now
        (recoveryEvents row.task (recoveryDecision row.task oldAttempt)
          (scheduledAttempt ("attempt-" ++ ids.attempt.text) row.task.nodeId
            (oldAttempt.ordinal + 1)) now) current next) :
      RecoverEffect store row ids now (some (recoveryDecision row.task oldAttempt))
        { store with
          journal
          tasks
          effectReservations :=
            match row.task.effect.effectClass, row.task.effect.idempotencyKey with
            | .externalIdempotent, some key =>
              releaseEffectReservation store.effectReservations row.task.workflowId key
                row.task.attemptId now
            | _, _ => store.effectReservations }
  | settled {current next : WorkflowProjectionV1} {oldAttempt : WorkflowAttemptProjectionV1}
      {journal : Journal}
      (found : findAttempt? current.attempts row.task.attemptId = some oldAttempt)
      (terminal : isTerminalWorkflow current.state = false)
      (decision : (recoveryDecision row.task oldAttempt).decision ≠ .retry)
      (appended : Appended store.journal journal row.task.workflowId
        ("recover-" ++ row.task.taskId ++ "-" ++ ids.transaction.text) now
        (recoveryEvents row.task (recoveryDecision row.task oldAttempt)
          (scheduledAttempt ("attempt-" ++ ids.attempt.text) row.task.nodeId
            (oldAttempt.ordinal + 1)) now) current next) :
      RecoverEffect store row ids now (some (recoveryDecision row.task oldAttempt))
        { store with
          journal
          tasks := store.tasks.update row.task.taskId (retiredRow row.task
            (recoveredTaskState (recoveryDecision row.task oldAttempt).decision) now) }

theorem recoverTask_ok {row : TaskRow} {ids : RecoveryIds}
    {decision : Option WorkflowRecoveryDecisionV1}
    (accepted : recoverTask store row ids now = .ok (decision, after)) :
    RecoverEffect store row ids now decision after := by
  simp only [recoverTask, parseTask, bind_eq_ok, ensure_eq_ok, orError_eq_ok,
    pure_eq_ok] at accepted
  obtain ⟨task, ⟨_, _, rfl⟩, current, loaded, oldAttempt, found, taken⟩ := accepted
  by_cases terminal : isTerminalWorkflow current.state = true
  · rw [if_pos terminal] at taken
    obtain ⟨⟨next, last⟩, appended, done⟩ := bind_eq_ok.mp taken
    obtain ⟨rfl, rfl⟩ := Prod.mk.inj (pure_eq_ok.mp done)
    obtain ⟨journal, found', rfl, written⟩ := appendEvents_ok appended
    obtain rfl : current = found' := by simpa [loaded] using written.loaded
    exact .ended found terminal written
  · rw [if_neg terminal] at taken
    have running : isTerminalWorkflow current.state = false := by simpa using terminal
    by_cases retry : (recoveryDecision row.task oldAttempt).decision = .retry
    · rw [if_pos retry] at taken
      obtain ⟨prepared, preparation, rest⟩ := bind_eq_ok.mp taken
      obtain ⟨⟨next, last⟩, appended, done⟩ := bind_eq_ok.mp rest
      obtain ⟨rfl, rfl⟩ := Prod.mk.inj (pure_eq_ok.mp done)
      simp only [recoverRetry, bind_eq_ok, pure_eq_ok, orError_eq_ok, retry,
        recoveredTaskState] at preparation
      obtain ⟨readyAt, ready, tasks, inserted, rfl⟩ := preparation
      obtain ⟨journal, found', rfl, written⟩ := appendEvents_ok appended
      obtain rfl : current = found' := by simpa [loaded] using written.loaded
      exact .retried found running retry ready inserted written
    · rw [if_neg retry] at taken
      obtain ⟨prepared, preparation, rest⟩ := bind_eq_ok.mp taken
      obtain ⟨⟨next, last⟩, appended, done⟩ := bind_eq_ok.mp rest
      obtain ⟨rfl, rfl⟩ := Prod.mk.inj (pure_eq_ok.mp done)
      obtain rfl := pure_eq_ok.mp preparation
      obtain ⟨journal, found', rfl, written⟩ := appendEvents_ok appended
      obtain rfl : current = found' := by simpa [loaded] using written.loaded
      exact .settled found running retry written

theorem recoverTasks_invariant {ids : Nat → RecoveryIds} (Inv : AuthorityStore → Prop)
    (keeps : ∀ before row ids decision after, Inv before →
      RecoverEffect before row ids now decision after → Inv after) :
    ∀ {index : Nat} {rows : List TaskRow} {store after : AuthorityStore}
      {decisions : List WorkflowRecoveryDecisionV1}, Inv store →
      recoverTasks ids now index rows store = .ok (decisions, after) → Inv after
  | _, [], _, _, _, inv, accepted => by
      obtain ⟨_, rfl⟩ := Prod.mk.inj (pure_eq_ok.mp accepted)
      exact inv
  | index, row :: rest, _, _, _, inv, accepted => by
      simp only [recoverTasks, bind_eq_ok, pure_eq_ok, Prod.mk.injEq, Prod.exists] at accepted
      obtain ⟨decision, middle, first, _, _, others, _, rfl⟩ := accepted
      exact recoverTasks_invariant Inv keeps
        (keeps _ row (ids index) decision middle inv (recoverTask_ok first)) others

/-! ## Wake-ups -/

theorem signal_ok {input : WorkflowSignalV1} {received : Bool}
    (accepted : signal store input = .ok (received, after)) :
    (received = false ∧ store.signals.insert (input.workflowId, input.signalId) input = none ∧
      after = store) ∨
    ∃ signals journal current next, received = true ∧
      store.signals.insert (input.workflowId, input.signalId) input = some signals ∧
      after = { store with signals, journal } ∧
      Appended store.journal journal input.workflowId ("signal-" ++ input.signalId)
        input.receivedAt
        (.signalReceived input.signalId input.name :: resumeIfWaiting current) current next := by
  simp only [signal, bind_eq_ok, ensure_eq_ok] at accepted
  obtain ⟨_, _, projection, loaded, taken⟩ := accepted
  split at taken
  · rename_i refused
    obtain ⟨rfl, rfl⟩ := Prod.mk.inj (pure_eq_ok.mp taken)
    exact .inl ⟨rfl, refused, rfl⟩
  · rename_i signals inserted
    simp only [bind_eq_ok, pure_eq_ok, Prod.mk.injEq, Prod.exists] at taken
    obtain ⟨next, last, appended, rfl, rfl⟩ := taken
    obtain ⟨journal, current, rfl, written⟩ := appendEvents_ok appended
    obtain rfl : projection = current := by simpa [loaded] using written.loaded
    exact .inr ⟨signals, journal, projection, next, rfl, inserted, rfl, written⟩

theorem fireTimer_ok {fired fired' : List WorkflowTimerV1} {row : TimerRow}
    (accepted : fireTimer now (fired, store) row = .ok (fired', after)) :
    ∃ journal current next, fired' = fired ++ [row.timer] ∧
      after = { store with
        journal
        timers := store.timers.update row.timer.timerId { row with firedAt := some now } } ∧
      Appended store.journal journal row.timer.workflowId ("timer-" ++ row.timer.timerId) now
        (.timerFired row.timer.timerId row.timer.nodeId ::
          (wakeNodeEvents current row.timer.nodeId .timer .succeeded .succeeded none now ++
            resumeIfWaiting current)) current next := by
  simp only [fireTimer, bind_eq_ok, pure_eq_ok, Prod.mk.injEq, Prod.exists] at accepted
  obtain ⟨projection, loaded, next, last, appended, rfl, rfl⟩ := accepted
  obtain ⟨journal, current, rfl, written⟩ := appendEvents_ok appended
  obtain rfl : projection = current := by simpa [loaded] using written.loaded
  exact ⟨journal, projection, next, rfl, rfl, written⟩

theorem resolveHumanTask_ok {humanTaskId : String} {state : HumanResolutionV1} {resolution : Json}
    {resolved : WorkflowHumanTaskV1}
    (accepted : resolveHumanTask store humanTaskId state resolution at_ = .ok (resolved, after)) :
    (store.humanTasks.get? humanTaskId = some resolved ∧ resolved.state ≠ .waiting ∧
      after = store) ∨
    ∃ task journal current next, store.humanTasks.get? humanTaskId = some task ∧
      task.state = .waiting ∧
      resolved = { task with state := state.toState, resolution := some resolution } ∧
      after = { store with
        journal
        humanTasks := store.humanTasks.update humanTaskId resolved } ∧
      Appended store.journal journal task.workflowId
        ("human-" ++ humanTaskId ++ "-" ++ state.text) at_
        (.humanTaskResolved humanTaskId task.nodeId state.toState ::
          (wakeNodeEvents current task.nodeId .humanTask state.attemptState state.nodeState
            state.errorCode at_ ++ resumeIfWaiting current)) current next := by
  simp only [resolveHumanTask, bind_eq_ok, ensure_eq_ok, orError_eq_ok] at accepted
  obtain ⟨_, _, task, found, taken⟩ := accepted
  by_cases waiting : task.state = .waiting
  · rw [if_neg (by simpa using waiting)] at taken
    simp only [bind_eq_ok, pure_eq_ok, Prod.mk.injEq, Prod.exists] at taken
    obtain ⟨projection, loaded, next, last, appended, rfl, rfl⟩ := taken
    obtain ⟨journal, current, rfl, written⟩ := appendEvents_ok appended
    obtain rfl : projection = current := by simpa [loaded] using written.loaded
    exact .inr ⟨task, journal, projection, next, found, waiting, rfl, rfl, written⟩
  · rw [if_pos (by simpa using waiting)] at taken
    obtain ⟨rfl, rfl⟩ := Prod.mk.inj (pure_eq_ok.mp taken)
    exact .inl ⟨found, waiting, rfl⟩

/-! ## Effects -/

/-- What a call that asks for the right to perform an effect does. -/
inductive ReserveEffect (store : AuthorityStore)
    (workflowId key inputDigest attemptId : String) (leaseExpiresAt at_ : Timestamp) :
    WorkflowEffectAdmissionV1 → AuthorityStore → Prop
  | granted {reservation : WorkflowEffectReservationV1}
      {reservations : Table (String × String) WorkflowEffectReservationV1} {row : TaskRow}
      {journal : Journal} {current next : WorkflowProjectionV1}
      (free : ∀ prior, store.effectReservations.get? (workflowId, key) = some prior →
        prior.inputDigest = inputDigest ∧ prior.state = .released)
      (digest : reservation.inputDigest = inputDigest) (owner : reservation.attemptId = attemptId)
      (state : reservation.state = .reserved)
      (written : ∀ other, reservations.get? other =
        if other = (workflowId, key) then some reservation
        else store.effectReservations.get? other)
      (task : row ∈ store.tasks.values ∧ row.task.workflowId = workflowId ∧
        row.task.attemptId = attemptId)
      (appended : Appended store.journal journal workflowId ("effect-reserved-" ++ attemptId) at_
        [.effectReserved row.task.nodeId attemptId key inputDigest] current next) :
      ReserveEffect store workflowId key inputDigest attemptId leaseExpiresAt at_
        { decision := .execute, reservation }
        { store with journal, effectReservations := reservations }
  | replayed {prior : WorkflowEffectReservationV1} {row : TaskRow} {journal : Journal}
      {current next : WorkflowProjectionV1}
      (found : store.effectReservations.get? (workflowId, key) = some prior)
      (digest : prior.inputDigest = inputDigest) (state : prior.state = .committed)
      (task : row ∈ store.tasks.values ∧ row.task.workflowId = workflowId ∧
        row.task.attemptId = attemptId)
      (appended : Appended store.journal journal workflowId ("effect-replayed-" ++ attemptId) at_
        [.effectReplayed row.task.nodeId attemptId key] current next) :
      ReserveEffect store workflowId key inputDigest attemptId leaseExpiresAt at_
        { decision := .replay, reservation := prior } { store with journal }
  | refused {prior : WorkflowEffectReservationV1} {decision : WorkflowEffectDecisionV1}
      (found : store.effectReservations.get? (workflowId, key) = some prior)
      (decided : reservationDecision prior inputDigest = decision)
      (refusal : decision = .conflict ∨ decision = .inProgress) :
      ReserveEffect store workflowId key inputDigest attemptId leaseExpiresAt at_
        { decision, reservation := prior } store

theorem taskForAttempt_ok {tasks : Table String TaskRow} {task : WorkflowTaskV1}
    (found : taskForAttempt tasks workflowId attemptId = .ok task) :
    ∃ row ∈ tasks.values, row.task = task ∧ row.task.workflowId = workflowId ∧
      row.task.attemptId = attemptId := by
  simp only [taskForAttempt, parseTask, bind_eq_ok, ensure_eq_ok, orError_eq_ok,
    pure_eq_ok] at found
  obtain ⟨row, present, _, _, same⟩ := found
  have keys := List.find?_some present
  simp only [decide_eq_true_eq] at keys
  exact ⟨row, List.mem_of_find?_eq_some present, same, keys⟩

theorem recordReservation_ok
    (accepted : recordReservation store workflowId key inputDigest attemptId at_ = .ok after) :
    ∃ row journal current next,
      (row ∈ store.tasks.values ∧ row.task.workflowId = workflowId ∧
        row.task.attemptId = attemptId) ∧
      after = { store with journal } ∧
      Appended store.journal journal workflowId ("effect-reserved-" ++ attemptId) at_
        [.effectReserved row.task.nodeId attemptId key inputDigest] current next := by
  simp only [recordReservation, bind_eq_ok, pure_eq_ok, Prod.exists] at accepted
  obtain ⟨task, found, next, last, appended, rfl⟩ := accepted
  obtain ⟨row, member, rfl, keys⟩ := taskForAttempt_ok found
  obtain ⟨journal, current, rfl, written⟩ := appendEvents_ok appended
  exact ⟨row, journal, current, next, ⟨member, keys⟩, rfl, written⟩

theorem reserveEffect_ok {leaseExpiresAt : Timestamp} {admission : WorkflowEffectAdmissionV1}
    (accepted : reserveEffect store workflowId key inputDigest attemptId leaseExpiresAt at_ =
      .ok (admission, after)) :
    ReserveEffect store workflowId key inputDigest attemptId leaseExpiresAt at_ admission
      after := by
  simp only [reserveEffect, bind_eq_ok, ensure_eq_ok] at accepted
  obtain ⟨_, _, taken⟩ := accepted
  split at taken
  · rename_i prior found
    split at taken
    · rename_i decided
      simp only [bind_eq_ok, pure_eq_ok, Prod.mk.injEq] at taken
      obtain ⟨last, recorded, rfl, rfl⟩ := taken
      obtain ⟨row, journal, current, next, task, rfl, written⟩ := recordReservation_ok recorded
      have free : prior.inputDigest = inputDigest ∧ prior.state = .released := by
        unfold reservationDecision at decided
        by_cases same : prior.inputDigest = inputDigest
        · rw [if_neg (by simpa using same)] at decided
          refine ⟨same, ?_⟩
          cases state : prior.state <;> simp [state] at decided
          rfl
        · rw [if_pos (by simpa using same)] at decided
          cases decided
      refine .granted (fun other present => ?_) free.1 rfl rfl (fun other => ?_) task written
      · obtain rfl := Option.mem_unique found present
        exact free
      · rw [Table.get?_update, found]
        split <;> rfl
    · rename_i decided
      simp only [bind_eq_ok, pure_eq_ok, Prod.mk.injEq, Prod.exists] at taken
      obtain ⟨task, stored, next, last, appended, rfl, rfl⟩ := taken
      obtain ⟨row, member, rfl, keys⟩ := taskForAttempt_ok stored
      obtain ⟨journal, current, rfl, written⟩ := appendEvents_ok appended
      unfold reservationDecision at decided
      by_cases same : prior.inputDigest = inputDigest
      · rw [if_neg (by simpa using same)] at decided
        refine .replayed found same ?_ ⟨member, keys⟩ written
        cases state : prior.state <;> simp [state] at decided
        rfl
      · rw [if_pos (by simpa using same)] at decided
        cases decided
    · rename_i notExecute notReplay
      obtain ⟨rfl, rfl⟩ := Prod.mk.inj (pure_eq_ok.mp taken)
      refine .refused found rfl ?_
      cases decided : reservationDecision prior inputDigest with
      | execute => exact absurd decided notExecute
      | replay => exact absurd decided notReplay
      | conflict => exact .inl rfl
      | inProgress => exact .inr rfl
  · rename_i absent
    simp only [bind_eq_ok, pure_eq_ok, orError_eq_ok, Prod.mk.injEq] at taken
    obtain ⟨reservations, inserted, last, recorded, rfl, rfl⟩ := taken
    obtain ⟨row, journal, current, next, task, rfl, written⟩ := recordReservation_ok recorded
    refine .granted (fun prior present => ?_) rfl rfl rfl (Table.get?_of_insert inserted) task
      written
    rw [absent] at present
    cases present

theorem markEffectCompensated_ok {source compensation : String} {receipt : WorkflowEffectReceiptV1}
    (accepted : markEffectCompensated store workflowId source compensation at_ =
      .ok (receipt, after)) : after = store ∨
    ∃ old journal current next transactionId compensationId, old ∈ store.effectReceipts.values ∧
      receipt = { old with
        state := .compensated
        compensatedAt := some at_
        compensationReceiptRef := receipt.compensationReceiptRef } ∧
      after = { store with
        journal
        effectReceipts := store.effectReceipts.update old.receiptId receipt } ∧
      Appended store.journal journal workflowId transactionId at_
        [.effectCompensated old.receiptId compensationId old.nodeId] current next := by
  simp only [markEffectCompensated, bind_eq_ok, ensure_eq_ok, orError_eq_ok] at accepted
  obtain ⟨_, _, old, found, other, _, _, _, taken⟩ := accepted
  by_cases done : old.state = .compensated
  · rw [if_pos done] at taken
    simp only [bind_eq_ok, ensure_eq_ok, pure_eq_ok, Prod.mk.injEq] at taken
    obtain ⟨_, _, _, rfl⟩ := taken
    exact .inl rfl
  · rw [if_neg done] at taken
    simp only [bind_eq_ok, pure_eq_ok, Prod.mk.injEq, Prod.exists] at taken
    obtain ⟨next, last, appended, rfl, rfl⟩ := taken
    obtain ⟨journal, current, rfl, written⟩ := appendEvents_ok appended
    exact .inr ⟨old, journal, current, next, _, _, List.mem_of_find?_eq_some found, rfl, rfl,
      written⟩

theorem retryNode_ok {nodeId : String}
    (accepted : retryNode store workflowId nodeId at_ attemptUuid taskUuid = .ok (next, after)) :
    ∃ current node attempt row readyAt journal,
      findNode? current.nodes nodeId = some node ∧ latestAttempt current node = some attempt ∧
      node.state = .failed ∧ attempt.state = .failed ∧
      row ∈ store.tasks.values ∧ row.task.workflowId = workflowId ∧ row.task.nodeId = nodeId ∧
      (attempt.ordinal : Int) < row.task.retry.maxAttempts ∧
      insertTask journal store.tasks (retryTaskOf row.task ("task-" ++ taskUuid.text)
        ("attempt-" ++ attemptUuid.text) readyAt at_) = .ok after.tasks ∧
      after = { store with journal, tasks := after.tasks } ∧
      Appended store.journal journal workflowId ("retry-" ++ ("task-" ++ taskUuid.text)) at_
        [.nodeStateChanged { nodeId, state := .retryWait },
          .attemptCreated (scheduledAttempt ("attempt-" ++ attemptUuid.text) nodeId
            (attempt.ordinal + 1)),
          .nodeStateChanged { nodeId, state := .scheduled }] current next := by
  simp only [retryNode, parseTask, bind_eq_ok, ensure_eq_ok, orError_eq_ok, pure_eq_ok,
    Bool.and_eq_true, beq_iff_eq, decide_eq_true_eq, Prod.mk.injEq, Prod.exists] at accepted
  obtain ⟨_, _, projection, loaded, node, found, attempt, latest, _, ⟨nodeFailed, attemptFailed⟩,
    row, newest, prior, ⟨_, _, rfl⟩, _, bound, readyAt, ready, _, last, appended, tasks, inserted,
    rfl, rfl⟩ := accepted
  obtain ⟨journal, current, rfl, written⟩ := appendEvents_ok appended
  obtain rfl : projection = current := by simpa [loaded] using written.loaded
  have member := List.mem_of_mem_head? newest
  rw [List.mem_insertionSort, List.mem_filter] at member
  obtain ⟨stored, keys⟩ := member
  simp only [decide_eq_true_eq] at keys
  exact ⟨projection, node, attempt, row, readyAt, journal, found, latest, nodeFailed,
    attemptFailed, stored, keys.1, keys.2, bound, inserted, rfl, written⟩

end Effects

end Praxis.Workflow
