import Praxis.Durable.StoreSound

/-!
# Writes to the task table

What the functions that write the task table do to its rows, and from this what a transaction
of the port does to them (`TransactEffect.rowsMove`): new tasks are queued, the acknowledged
task is retired, the cancelled ones are withdrawn, and every other row stays.
-/

namespace Praxis.Workflow

set_option autoImplicit false

open Praxis.Foundations

/-- The row of a task that has just been inserted. -/
def queuedRow (task : WorkflowTaskV1) : TaskRow where
  task := task
  state := .ready
  leaseExpiresAt := none

section Tables

variable {journal : Journal} {tasks after : Table String TaskRow} {key workflowId : String}
  {at_ : Timestamp}

theorem insertTask_ok {task : WorkflowTaskV1}
    (inserted : insertTask journal tasks task = .ok after) :
    task.state = .ready ∧ journal.workflows.contains task.workflowId = true ∧
      (∀ key row, tasks.get? key = some row → row.task.attemptId ≠ task.attemptId) ∧
      tasks.insert task.taskId (queuedRow task) = some after := by
  simp only [insertTask, bind_eq_ok, ensure_eq_ok, orError_eq_ok, Bool.and_eq_true,
    beq_iff_eq, Bool.not_eq_true', List.any_eq_false, decide_eq_true_eq] at inserted
  obtain ⟨_, ⟨_, ready⟩, _, known, _, unique, stored⟩ := inserted
  refine ⟨ready, known, fun key row found => unique row (tasks.mem_values_of_get? found), ?_⟩
  rw [queuedRow, ← ready]
  exact stored

theorem DistinctAttempts.insert (distinct : DistinctAttempts tasks) {row : TaskRow}
    (unique : ∀ other old, tasks.get? other = some old → old.task.attemptId ≠ row.task.attemptId)
    (inserted : tasks.insert key row = some after) : DistinctAttempts after := by
  have get := Table.get?_of_insert inserted
  intro first second old old' here there same
  rw [get] at here there
  split at here <;> split at there
  · rename_i equal equal'
    exact equal.trans equal'.symm
  · obtain rfl := Option.some.inj here
    exact absurd same.symm (unique second old' there)
  · obtain rfl := Option.some.inj there
    exact absurd same (unique first old here)
  · exact distinct first second old old' here there same

theorem DistinctAttempts.update (distinct : DistinctAttempts tasks)
    {old row : TaskRow} (found : tasks.get? key = some old)
    (same : row.task.attemptId = old.task.attemptId) : DistinctAttempts (tasks.update key row) := by
  -- Every row has the attempt that the row under its key had.
  have back : ∀ other stored, (tasks.update key row).get? other = some stored →
      ∃ prior, tasks.get? other = some prior ∧ prior.task.attemptId = stored.task.attemptId := by
    intro other stored there
    by_cases equal : other = key
    · subst equal
      rw [Table.get?_update_self _ _ found] at there
      obtain rfl := Option.some.inj there
      exact ⟨old, found, same.symm⟩
    · rw [Table.get?_update_ne _ _ equal] at there
      exact ⟨stored, there, rfl⟩
  intro first second a b here there equal
  obtain ⟨a', found', id⟩ := back first a here
  obtain ⟨b', found'', id'⟩ := back second b there
  exact distinct first second a' b' found' found'' (id.trans (equal.trans id'.symm))

structure Inserted (tasks : Table String TaskRow) (new : List WorkflowTaskV1)
    (after : Table String TaskRow) : Prop where
  stays : ∀ key row, tasks.get? key = some row → after.get? key = some row
  rows : ∀ key row, after.get? key = some row → tasks.get? key = some row ∨
    tasks.get? key = none ∧ ∃ task ∈ new, task.taskId = key ∧ task.state = .ready ∧
      row = queuedRow task
  distinct : DistinctAttempts tasks → DistinctAttempts after

theorem insertTasks_ok {new : List WorkflowTaskV1}
    (inserted : new.foldlM (insertTask journal) tasks = .ok after) : Inserted tasks new after := by
  induction new generalizing tasks with
  | nil =>
    obtain rfl := foldlM_nil_eq_ok.mp inserted
    exact ⟨fun _ _ found => found, fun _ _ found => .inl found, id⟩
  | cons task rest ih =>
    obtain ⟨middle, first, others⟩ := foldlM_cons_eq_ok.mp inserted
    obtain ⟨ready, _, unique, stored⟩ := insertTask_ok first
    have get := Table.get?_of_insert stored
    obtain ⟨absent, _⟩ := (tasks.insert_eq_some_iff).mp stored
    obtain ⟨stays, rows, distinct⟩ := ih others
    refine ⟨fun key row found => stays key row ?_, fun key row found => ?_,
      fun before => distinct (before.insert unique stored)⟩
    · rw [get, if_neg, found]
      rintro rfl
      rw [absent] at found
      cases found
    · rcases rows key row found with old | ⟨none, later, member, new⟩
      · rw [get] at old
        split at old
        · rename_i same
          obtain rfl := Option.some.inj old
          exact .inr ⟨same ▸ absent, task, List.mem_cons_self .., same.symm, ready, rfl⟩
        · exact .inl old
      · rw [get] at none
        split at none
        · cases none
        · exact .inr ⟨none, later, List.mem_cons_of_mem _ member, new⟩

theorem acknowledgeTask_ok {ack : AcknowledgeTaskV1}
    (acknowledged : acknowledgeTask tasks ack at_ = .ok after) :
    ∃ row, tasks.get? ack.taskId = some row ∧ holdsLease row.task ack.leaseToken = true ∧
      after = tasks.update ack.taskId (retiredRow row.task ack.state.toState at_) := by
  simp only [acknowledgeTask, taskById, parseTask, bind_eq_ok, ensure_eq_ok, orError_eq_ok,
    pure_eq_ok] at acknowledged
  obtain ⟨task, ⟨row, found, _, _, rfl⟩, _, held, rfl⟩ := acknowledged
  exact ⟨row, found, held, rfl⟩

theorem AcknowledgedStateV1.ended (state : AcknowledgedStateV1) :
    state.toState ≠ .ready ∧ state.toState ≠ .leased := by
  cases state <;> simp [AcknowledgedStateV1.toState]

/-- What became of the rows when a task may have been acknowledged. -/
structure Acknowledged (at_ : Timestamp) (tasks : Table String TaskRow)
    (ack : Option AcknowledgeTaskV1) (after : Table String TaskRow) : Prop where
  stays : ∀ key row, tasks.get? key = some row → ∃ row', after.get? key = some row'
  rows : ∀ key row', after.get? key = some row' →
    (tasks.get? key = some row' ∧ ∀ given, ack = some given → given.taskId ≠ key) ∨
    ∃ given row, ack = some given ∧ given.taskId = key ∧ tasks.get? key = some row ∧
      holdsLease row.task given.leaseToken = true ∧
      row' = retiredRow row.task given.state.toState at_
  distinct : DistinctAttempts tasks → DistinctAttempts after

theorem acknowledge_ok {ack : Option AcknowledgeTaskV1}
    (acknowledged : ack.toList.foldlM (fun tasks given => acknowledgeTask tasks given at_) tasks =
      .ok after) : Acknowledged at_ tasks ack after := by
  cases ack with
  | none =>
    obtain rfl := foldlM_nil_eq_ok.mp acknowledged
    exact ⟨fun _ row found => ⟨row, found⟩, fun _ _ found => .inl ⟨found, by simp⟩, id⟩
  | some given =>
    obtain ⟨middle, first, last⟩ := foldlM_cons_eq_ok.mp acknowledged
    obtain rfl := foldlM_nil_eq_ok.mp last
    obtain ⟨row, found, held, rfl⟩ := acknowledgeTask_ok first
    refine ⟨fun key old there => ?_, fun key row' there => ?_, fun distinct =>
      distinct.update found rfl⟩
    · by_cases same : key = given.taskId
      · subst same
        exact ⟨_, Table.get?_update_self _ _ found⟩
      · exact ⟨old, by rw [Table.get?_update_ne _ _ same, there]⟩
    · by_cases same : key = given.taskId
      · subst same
        rw [Table.get?_update_self _ _ found] at there
        obtain rfl := Option.some.inj there
        exact .inr ⟨given, row, rfl, rfl, found, held, rfl⟩
      · rw [Table.get?_update_ne _ _ same] at there
        refine .inl ⟨there, fun other equal => ?_⟩
        obtain rfl := Option.some.inj equal
        exact fun id => same id.symm

/-- What became of the rows when ready tasks were cancelled. -/
structure Withdrawn (workflowId : String) (at_ : Timestamp) (tasks : Table String TaskRow)
    (taskIds : List String) (after : Table String TaskRow) : Prop where
  stays : ∀ key row, tasks.get? key = some row → ∃ row', after.get? key = some row'
  rows : ∀ key row', after.get? key = some row' → (tasks.get? key = some row' ∧ key ∉ taskIds) ∨
    key ∈ taskIds ∧ ∃ row, tasks.get? key = some row ∧ row.task.workflowId = workflowId ∧
      row.task.state = .ready ∧ row' = retiredRow row.task .cancelled at_
  distinct : DistinctAttempts tasks → DistinctAttempts after

theorem cancelReadyTask_ok {taskId : String}
    (cancelled : cancelReadyTask workflowId at_ tasks taskId = .ok after) :
    ∃ row, tasks.get? taskId = some row ∧ row.task.workflowId = workflowId ∧
      row.task.state = .ready ∧
      after = tasks.update taskId (retiredRow row.task .cancelled at_) := by
  simp only [cancelReadyTask, taskById, parseTask, bind_eq_ok, ensure_eq_ok, orError_eq_ok,
    pure_eq_ok, Bool.and_eq_true, beq_iff_eq] at cancelled
  obtain ⟨_, _, task, ⟨row, found, _, _, rfl⟩, _, ⟨owner, ready⟩, rfl⟩ := cancelled
  exact ⟨row, found, owner, ready, rfl⟩

theorem cancelReadyTasks_ok {taskIds : List String}
    (cancelled : taskIds.foldlM (cancelReadyTask workflowId at_) tasks = .ok after) :
    Withdrawn workflowId at_ tasks taskIds after := by
  induction taskIds generalizing tasks with
  | nil =>
    obtain rfl := foldlM_nil_eq_ok.mp cancelled
    exact ⟨fun _ row found => ⟨row, found⟩, fun _ _ found => .inl ⟨found, List.not_mem_nil⟩, id⟩
  | cons taskId rest ih =>
    obtain ⟨middle, first, others⟩ := foldlM_cons_eq_ok.mp cancelled
    obtain ⟨row, found, owner, ready, rfl⟩ := cancelReadyTask_ok first
    obtain ⟨stays, rows, distinct⟩ := ih others
    refine ⟨fun key old there => ?_, fun key row' there => ?_,
      fun before => distinct (before.update found rfl)⟩
    · by_cases same : key = taskId
      · subst same
        exact stays key _ (Table.get?_update_self _ _ found)
      · exact stays key old (by rw [Table.get?_update_ne _ _ same, there])
    · rcases rows key row' there with ⟨old, absent⟩ | ⟨member, prior, old, own, queued, same⟩
      · by_cases equal : key = taskId
        · subst equal
          rw [Table.get?_update_self _ _ found] at old
          obtain rfl := Option.some.inj old
          exact .inr ⟨List.mem_cons_self .., row, found, owner, ready, rfl⟩
        · rw [Table.get?_update_ne _ _ equal] at old
          exact .inl ⟨old, by simp [equal, absent]⟩
      · by_cases equal : key = taskId
        · -- The row was cancelled before, so it was not ready any more.
          subst equal
          rw [Table.get?_update_self _ _ found] at old
          obtain rfl := Option.some.inj old
          cases queued
        · rw [Table.get?_update_ne _ _ equal] at old
          exact .inr ⟨List.mem_cons_of_mem _ member, prior, old, own, queued, same⟩

end Tables

/-! ## Moves of single rows -/

section Rows

variable {lax : Bool} {workflowId : String} {current next : WorkflowProjectionV1} {row : TaskRow}
  {at_ : Timestamp} {after : TaskRow}

theorem RowMove.kept (fits : row.task.workflowId = workflowId → TaskLinked current row.task →
      RowFits lax current row → RowFits lax next row) :
    RowMove lax workflowId current next (some row) row where
  step := .kept
  column := fun known => known row rfl
  fits := fun own known => fits own (known row rfl).1 (known row rfl).2
  fresh := fun none => by cases none
  elsewhere := fun _ => rfl
  settled := fun other same leased ended => by
    obtain rfl := Option.some.inj same
    exact absurd leased ended

theorem RowMove.queued {task : WorkflowTaskV1} (ready : task.state = .ready)
    (owner : task.workflowId = workflowId) (linked : TaskLinked next task)
    (scheduled : next.attemptState? task.attemptId = some .scheduled)
    (grown : current.sequence < next.sequence) :
    RowMove lax workflowId current next none (queuedRow task) where
  step := .queued rfl
  column := fun _ => ready
  fits := fun _ _ => ⟨.scheduled, scheduled, rfl⟩
  fresh := fun _ => ⟨owner, linked, grown⟩
  elsewhere := fun other => absurd owner other
  settled := fun _ none => by cases none

theorem RowMove.retired {state : WorkflowTaskStateV1} (owner : row.task.workflowId = workflowId)
    (leased : row.state = .leased) (ended : state ≠ .ready ∧ state ≠ .leased)
    (settled : ∃ attempt ∈ settledAttempts, next.attemptState? row.task.attemptId = some attempt) :
    RowMove lax workflowId current next (some row) (retiredRow row.task state at_) where
  step := .retired rfl leased ended
  column := fun _ => rfl
  fits := fun _ _ => by
    obtain ⟨attempt, member, found⟩ := settled
    exact ⟨attempt, found, rowFits_of_settled member ended⟩
  fresh := fun none => by cases none
  elsewhere := fun other => absurd owner other
  settled := fun other same _ _ => by
    obtain rfl := Option.some.inj same
    exact settled

theorem RowMove.withdrawn (owner : row.task.workflowId = workflowId) (ready : row.state = .ready)
    (unused : next.attemptState? row.task.attemptId = some .scheduled ∨
      next.attemptState? row.task.attemptId = some .cancelled) :
    RowMove lax workflowId current next (some row) (retiredRow row.task .cancelled at_) where
  step := .withdrawn rfl ready rfl
  column := fun _ => rfl
  fits := fun _ _ => by
    rcases unused with found | found
    · exact ⟨.scheduled, found, rfl⟩
    · exact ⟨.cancelled, found, rfl⟩
  fresh := fun none => by cases none
  elsewhere := fun other => absurd owner other
  settled := fun other same leased => by
    obtain rfl := Option.some.inj same
    rw [ready] at leased
    cases leased

theorem RowMove.leased (work : SameWork row.task after.task)
    (owner : row.task.workflowId = workflowId) (ready : row.state = .ready)
    (held : after.Held) (column : after.task.state = .leased)
    (attempt : next.attemptState? row.task.attemptId = some .leased) :
    RowMove lax workflowId current next (some row) after where
  step := .leased work ready held
  column := fun _ => column.trans held.1.symm
  fits := fun _ _ => ⟨.leased, by rw [work.attemptId, attempt], by rw [held.1]; rfl⟩
  fresh := fun none => by cases none
  elsewhere := fun other => absurd (work.workflowId.trans owner) other
  settled := fun other same leased => by
    obtain rfl := Option.some.inj same
    rw [ready] at leased
    cases leased

theorem RowMove.renewed (work : SameWork row.task after.task)
    (owner : row.task.workflowId = workflowId) (leased : row.state = .leased)
    (held : after.Held) (column : after.task.state = .leased)
    (token : after.task.lease.map (·.token) = row.task.lease.map (·.token))
    (fits : RowFits lax current row → RowFits lax next row) :
    RowMove lax workflowId current next (some row) after where
  step := .renewed work leased held token
  column := fun _ => column.trans held.1.symm
  fits := fun _ known => by
    obtain ⟨state, found, fit⟩ := fits (known row rfl).2
    refine ⟨state, by rw [work.attemptId, found], ?_⟩
    rw [held.1, ← leased]
    exact fit
  fresh := fun none => by cases none
  elsewhere := fun other => absurd (work.workflowId.trans owner) other
  settled := fun _ _ _ ended => absurd held.1 ended

end Rows

/-! ## Moves of the table -/

section Table

variable {lax : Bool} {store after : AuthorityStore} {workflowId : String}
  {current next : WorkflowProjectionV1} {tasks : Table String TaskRow}

/-- The rows that a transaction leaves where they are still fit their attempts. -/
def StillFits (lax : Bool) (workflowId : String) (current next : WorkflowProjectionV1)
    (row : TaskRow) : Prop :=
  row.task.workflowId = workflowId → TaskLinked current row.task → RowFits lax current row →
    RowFits lax next row

theorem RowsMove.untouched
    (fits : ∀ key row, tasks.get? key = some row → StillFits lax workflowId current next row) :
    RowsMove lax workflowId current next tasks tasks where
  stays := fun _ row found => ⟨row, found⟩
  rows := fun key row found => by
    rw [found]
    exact .kept (fits key row found)
  keys := fun key row found none => by
    rw [found] at none
    cases none
  distinct := id

theorem RowsMove.update {key : String} {old row : TaskRow} (found : tasks.get? key = some old)
    (move : RowMove lax workflowId current next (some old) row)
    (fits : ∀ other stored, other ≠ key → tasks.get? other = some stored →
      StillFits lax workflowId current next stored) :
    RowsMove lax workflowId current next tasks (tasks.update key row) where
  stays := fun other stored there => by
    by_cases same : other = key
    · subst same
      exact ⟨row, Table.get?_update_self _ _ found⟩
    · exact ⟨stored, by rw [Table.get?_update_ne _ _ same, there]⟩
  rows := fun other stored there => by
    by_cases same : other = key
    · subst same
      rw [Table.get?_update_self _ _ found] at there
      obtain rfl := Option.some.inj there
      rw [found]
      exact move
    · rw [Table.get?_update_ne _ _ same] at there
      rw [there]
      exact .kept (fits other stored same there)
  keys := fun other stored there none => by
    by_cases same : other = key
    · subst same
      rw [found] at none
      cases none
    · rw [Table.get?_update_ne _ _ same, none] at there
      cases there
  distinct := fun distinct => distinct.update found move.step.work.attemptId

theorem RowsMove.insert {middle inserted : Table String TaskRow}
    {new : List WorkflowTaskV1} (first : RowsMove lax workflowId current next tasks middle)
    (added : Inserted middle new inserted)
    (fresh : ∀ task ∈ new, task.workflowId = workflowId ∧ TaskLinked next task ∧
      next.attemptState? task.attemptId = some .scheduled ∧ current.sequence < next.sequence) :
    RowsMove lax workflowId current next tasks inserted where
  stays := fun key row found => by
    obtain ⟨row', there⟩ := first.stays key row found
    exact ⟨row', added.stays key row' there⟩
  rows := fun key row found => by
    rcases added.rows key row found with there | ⟨absent, task, member, _, ready, rfl⟩
    · exact first.rows key row there
    · cases stored : tasks.get? key with
      | none =>
        obtain ⟨owner, linked, scheduled, grown⟩ := fresh task member
        exact .queued ready owner linked scheduled grown
      | some old =>
        obtain ⟨row', there⟩ := first.stays key old stored
        rw [absent] at there
        cases there
  keys := fun key row found none => by
    rcases added.rows key row found with there | ⟨_, task, _, id, _, rfl⟩
    · exact first.keys key row there none
    · exact id
  distinct := fun distinct => added.distinct (first.distinct distinct)

/-- **What a transaction of the port does to the rows.** -/
theorem TransactEffect.rowsMove {input : WorkflowTransactionV1} (sound : Sound lax store)
    (effect : TransactEffect store input current next after)
    (enqueued : ∀ task ∈ input.enqueueTasks, task.workflowId = input.workflowId ∧
      TaskLinked next task ∧ next.attemptState? task.attemptId = some .scheduled ∧
      current.sequence < next.sequence)
    (acknowledged : ∀ ack, input.acknowledgeTask = some ack → ∀ row,
      store.tasks.get? ack.taskId = some row → holdsLease row.task ack.leaseToken = true →
      row.task.workflowId = input.workflowId ∧ ∃ attempt ∈ settledAttempts,
        next.attemptState? row.task.attemptId = some attempt)
    (withdrawn : ∀ key row, key ∈ input.cancelReadyTasks → store.tasks.get? key = some row →
      row.state = .ready → row.task.workflowId = input.workflowId →
      next.attemptState? row.task.attemptId = some .scheduled ∨
        next.attemptState? row.task.attemptId = some .cancelled)
    (others : ∀ key row, store.tasks.get? key = some row →
      (∀ ack, input.acknowledgeTask = some ack → ack.taskId ≠ key) →
      key ∉ input.cancelReadyTasks → StillFits lax input.workflowId current next row)
    (apart : input.enqueueTasks = [] ∨ input.cancelReadyTasks = []) :
    RowsMove lax input.workflowId current next store.tasks after.tasks := by
  obtain ⟨journal, queued, retired, _, inserts, acks, cancels⟩ := effect.tasks
  have first := insertTasks_ok inserts
  have second := acknowledge_ok acks
  have third := cancelReadyTasks_ok cancels
  -- A task that a worker holds was there before.
  have held : ∀ key row token, queued.get? key = some row →
      holdsLease row.task token = true → store.tasks.get? key = some row := by
    intro key row token found leased
    rcases first.rows key row found with old | ⟨_, task, _, _, ready, rfl⟩
    · exact old
    · simp [holdsLease, queuedRow, ready] at leased
  have leased : ∀ key row token, store.tasks.get? key = some row →
      holdsLease row.task token = true → row.state = .leased := by
    intro key row token found held
    simp only [holdsLease, Bool.and_eq_true, beq_iff_eq] at held
    exact (sound.rows key row found).column.symm.trans held.1
  constructor
  · intro key row found
    obtain ⟨row', there⟩ := second.stays key row (first.stays key row found)
    exact third.stays key row' there
  · intro key row' found
    rcases third.rows key row' found with ⟨there, absent⟩ | ⟨member, row, there, owner, ready, rfl⟩
    · rcases second.rows key row' there with ⟨old, free⟩ | ⟨ack, row, given, id, old, holds, rfl⟩
      · rcases first.rows key row' old with stored | ⟨none, task, new, id, ready, rfl⟩
        · rw [stored]
          exact .kept (others key row' stored free absent)
        · obtain ⟨own, linked, scheduled, grown⟩ := enqueued task new
          rw [none]
          exact .queued ready own linked scheduled grown
      · have stored := held key row _ old holds
        obtain ⟨own, settled⟩ := acknowledged ack given row (id ▸ stored) holds
        rw [stored]
        exact .retired own (leased key row _ stored holds) ack.state.ended settled
    · have none : input.enqueueTasks = [] := by
        rcases apart with none | none
        · exact none
        · rw [none] at member
          exact absurd member List.not_mem_nil
      rcases second.rows key row there with ⟨old, _⟩ | ⟨ack, prior, _, _, _, _, rfl⟩
      · rcases first.rows key row old with stored | ⟨_, task, new, _, _, _⟩
        · have queued := (sound.rows key row stored).column.symm.trans ready
          rw [stored]
          exact .withdrawn owner queued (withdrawn key row member stored queued owner)
        · rw [none] at new
          exact absurd new List.not_mem_nil
      · exact absurd ready ack.state.ended.1
  · intro key row' found none
    have fresh : ∀ row, queued.get? key = some row → row.task.taskId = key := by
      intro row there
      rcases first.rows key row there with stored | ⟨_, task, _, id, _, rfl⟩
      · rw [none] at stored
        cases stored
      · exact id
    rcases third.rows key row' found with ⟨there, _⟩ | ⟨_, row, there, _, _, rfl⟩
    · rcases second.rows key row' there with ⟨old, _⟩ | ⟨_, row, _, _, old, _, rfl⟩
      · exact fresh row' old
      · exact fresh row old
    · rcases second.rows key row there with ⟨old, _⟩ | ⟨_, prior, _, _, old, _, rfl⟩
      · exact fresh row old
      · exact fresh prior old
  · exact fun distinct => third.distinct (second.distinct (first.distinct distinct))

end Table

end Praxis.Workflow
