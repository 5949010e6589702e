import Praxis.Durable.CoherentEvents

/-!
# Tasks and their attempts

A task is queued for one attempt of a node, and the state of its row bounds the state of that
attempt (`rowFits`): the attempt of a ready task is scheduled, a worker that holds a task has
its attempt leased or running, and after that the attempt is settled. A row moves along few
steps (`RowStep`): it is queued, leased, renewed, retired or withdrawn; it never returns to the
queue, so that a task is leased at most once.

`RowsMove` is what a transaction may do to the rows of the workflow that it writes.
-/

namespace Praxis.Workflow

set_option autoImplicit false

open Praxis.Foundations

/-! ## What events do to attempts -/

def WorkflowProjectionV1.attemptState? (projection : WorkflowProjectionV1) (attemptId : String) :
    Option WorkflowAttemptStateV1 :=
  (findAttempt? projection.attempts attemptId).map (·.state)

section Attempts

variable {current next : WorkflowProjectionV1} {data : List WorkflowEventDataV1}
  {attemptId : String}

variable {attempt : WorkflowAttemptProjectionV1}

theorem Applies.attempt_kept (applies : Applies current data next)
    (found : findAttempt? current.attempts attemptId = some attempt)
    (untouched : ∀ change, .attemptStateChanged change ∈ data → change.attemptId ≠ attemptId) :
    findAttempt? next.attempts attemptId = some attempt := by
  induction data generalizing current with
  | nil =>
    rw [applies_nil.mp applies]
    exact found
  | cons event rest ih =>
    obtain ⟨middle, effect, others⟩ := applies_cons.mp applies
    refine ih others ?_ fun change member => untouched change (List.mem_cons_of_mem _ member)
    cases effect with
    | taskAdmitted => exact findAttempt?_append found
    | attemptCreated => exact findAttempt?_append found
    | attemptChanged =>
      have other := untouched _ (List.mem_cons_self ..)
      obtain ⟨_, same⟩ := findAttempt?_mem found
      rw [WorkflowProjectionV1.attemptChanged_attempts, findAttempt?_changeAttempt, found,
        Option.map_some, if_neg fun equal => other (equal.symm.trans same)]
    | _ => exact found

theorem Applies.attempt_changed (applies : Applies current data next)
    {change : AttemptStateChangedV1} (touched : .attemptStateChanged change ∈ data)
    (id : change.attemptId = attemptId) :
    ∃ last, .attemptStateChanged last ∈ data ∧ last.attemptId = attemptId ∧
      next.attemptState? attemptId = some last.state := by
  induction data generalizing current change with
  | nil => exact absurd touched List.not_mem_nil
  | cons event rest ih =>
    obtain ⟨middle, effect, others⟩ := applies_cons.mp applies
    by_cases later : ∃ change, .attemptStateChanged change ∈ rest ∧ change.attemptId = attemptId
    · obtain ⟨change, member, same⟩ := later
      obtain ⟨last, there, own, state⟩ := ih others member same
      exact ⟨last, List.mem_cons_of_mem _ there, own, state⟩
    · -- The change is the first event, and nothing after it touches the attempt.
      rcases List.mem_cons.mp touched with rfl | member
      · obtain ⟨⟨attempt, there, own⟩, _, rfl⟩ := effect_attemptChanged.mp effect
        have present : (findAttempt? current.attempts attemptId).isSome = true := by
          rw [findAttempt?, List.find?_isSome]
          exact ⟨attempt, there, by simpa using own.trans id⟩
        obtain ⟨old, found⟩ := Option.isSome_iff_exists.mp present
        obtain ⟨_, same⟩ := findAttempt?_mem found
        have changed : findAttempt? (current.attemptChanged change).attempts attemptId =
            some (old.change change) := by
          rw [WorkflowProjectionV1.attemptChanged_attempts, findAttempt?_changeAttempt, found,
            Option.map_some, if_pos (same.trans id.symm)]
        have kept := others.attempt_kept changed fun other member equal =>
          later ⟨other, member, equal⟩
        refine ⟨change, List.mem_cons_self .., id, ?_⟩
        rw [WorkflowProjectionV1.attemptState?, kept]
        rfl
      · exact absurd ⟨change, member, id⟩ later

def Creates (data : List WorkflowEventDataV1) (attempt : WorkflowAttemptProjectionV1) : Prop :=
  .attemptCreated attempt ∈ data ∨ ∃ requestId requestDigest node,
    .executionTaskAdmitted requestId requestDigest node attempt ∈ data

theorem WorkflowEventEffect.creates {event : WorkflowEventDataV1}
    (effect : WorkflowEventEffect current event next) (created : Creates [event] attempt) :
    findAttempt? current.attempts attempt.attemptId = none ∧
      findAttempt? next.attempts attempt.attemptId = some attempt := by
  have new : (∀ other ∈ current.attempts, other.attemptId ≠ attempt.attemptId) →
      findAttempt? current.attempts attempt.attemptId = none ∧
        findAttempt? (current.attempts ++ [attempt]) attempt.attemptId = some attempt := by
    intro none
    have absent : findAttempt? current.attempts attempt.attemptId = .none :=
      List.find?_eq_none.mpr fun other member => by simpa using none other member
    refine ⟨absent, ?_⟩
    rw [findAttempt?] at absent
    rw [findAttempt?, List.find?_append, absent]
    simp
  simp only [Creates, List.mem_singleton] at created
  rcases created with rfl | ⟨requestId, digest, node, rfl⟩
  · obtain ⟨none, _, rfl⟩ := effect_attemptCreated.mp effect
    exact new none
  · cases effect with
    | announced announces => cases announces
    | recorded only => cases only
    | taskAdmitted _ _ _ none _ _ _ => exact new none

theorem Creates.split (created : Creates data attempt) :
    ∃ front event back, data = front ++ event :: back ∧ Creates [event] attempt := by
  rcases created with member | ⟨requestId, digest, node, member⟩
  · obtain ⟨front, back, rfl⟩ := List.append_of_mem member
    exact ⟨front, _, back, rfl, .inl (List.mem_singleton_self _)⟩
  · obtain ⟨front, back, rfl⟩ := List.append_of_mem member
    exact ⟨front, _, back, rfl, .inr ⟨_, _, _, List.mem_singleton_self _⟩⟩

theorem Applies.attempt_created (applies : Applies current data next)
    (created : Creates data attempt) (known : ∀ change, .attemptStateChanged change ∈ data →
      findAttempt? current.attempts change.attemptId ≠ none) :
    findAttempt? current.attempts attempt.attemptId = none ∧
      findAttempt? next.attempts attempt.attemptId = some attempt := by
  obtain ⟨front, event, back, rfl, here⟩ := created.split
  obtain ⟨first, before, rest⟩ := applies_append.mp applies
  obtain ⟨second, effect, after⟩ := applies_cons.mp rest
  obtain ⟨absent, present⟩ := effect.creates here
  have new : findAttempt? current.attempts attempt.attemptId = none := by
    cases found : findAttempt? current.attempts attempt.attemptId with
    | none => rfl
    | some old =>
      obtain ⟨later, there, _⟩ := before.persists.attempts _ old found
      rw [absent] at there
      cases there
  refine ⟨new, after.attempt_kept present fun change member same => ?_⟩
  refine known change (List.mem_append_right _ (List.mem_cons_of_mem _ member)) ?_
  rw [same, new]

end Attempts

/-! ## Rows -/

/-- The states of an attempt whose outcome is in, or is unknown. -/
def settledAttempts : List WorkflowAttemptStateV1 :=
  [.unknown, .succeeded, .failed, .cancelled, .manualIntervention]

/-- The states of a task and of its attempt that go together. Where attempts may be abandoned,
a task may stay queued for an attempt that was cancelled. -/
def rowFits (lax : Bool) : WorkflowTaskStateV1 → WorkflowAttemptStateV1 → Bool
  | .ready, .scheduled => true
  | .ready, .cancelled => lax
  | .ready, _ => false
  | .leased, .leased | .leased, .running => true
  | .leased, _ => false
  | _, .leased | _, .running | _, .waiting => false
  | _, _ => true

/-- The state of the row fits that of its attempt. -/
def RowFits (lax : Bool) (projection : WorkflowProjectionV1) (row : TaskRow) : Prop :=
  ∃ state, projection.attemptState? row.task.attemptId = some state ∧
    rowFits lax row.state state = true

theorem settled_of_leads {before after : WorkflowAttemptStateV1} (leads : attemptLeads before after)
    (settled : before ∈ settledAttempts) : after ∈ settledAttempts := by
  refine leads_mem (fun first inside second legal => ?_) leads settled
  simp only [settledAttempts, List.mem_cons, List.not_mem_nil, or_false] at inside
  rcases inside with rfl | rfl | rfl | rfl | rfl <;>
    simp [attemptTransitions, settledAttempts] at legal ⊢
  rcases legal with rfl | rfl | rfl <;> simp

theorem rowFits_of_settled {lax : Bool} {state : WorkflowTaskStateV1}
    {attempt : WorkflowAttemptStateV1} (settled : attempt ∈ settledAttempts)
    (ended : state ≠ .ready ∧ state ≠ .leased) : rowFits lax state attempt = true := by
  simp only [settledAttempts, List.mem_cons, List.not_mem_nil, or_false] at settled
  obtain ⟨queued, held⟩ := ended
  rcases settled with rfl | rfl | rfl | rfl | rfl <;> cases state <;>
    first | rfl | exact absurd rfl queued | exact absurd rfl held

/-- The same work: the tasks differ in what a lease writes at most. -/
def SameWork (before after : WorkflowTaskV1) : Prop :=
  after =
    { before with
      state := after.state
      lease := after.lease
      capabilityBundleRef := after.capabilityBundleRef
      updatedAt := after.updatedAt }

/-- A row that a worker holds: its column repeats when the lease ends. -/
def TaskRow.Held (row : TaskRow) : Prop :=
  row.state = .leased ∧ ∃ lease, row.task.lease = some lease ∧
    row.leaseExpiresAt = some lease.expiresAt

inductive RowStep : Option TaskRow → TaskRow → Prop
  | kept {row : TaskRow} : RowStep (some row) row
  | queued {row : TaskRow} (ready : row.state = .ready) : RowStep none row
  | leased {before after : TaskRow} (work : SameWork before.task after.task)
      (ready : before.state = .ready) (held : after.Held) : RowStep (some before) after
  | renewed {before after : TaskRow} (work : SameWork before.task after.task)
      (leased : before.state = .leased) (held : after.Held)
      (token : after.task.lease.map (·.token) = before.task.lease.map (·.token)) :
      RowStep (some before) after
  | retired {before after : TaskRow} (work : SameWork before.task after.task)
      (leased : before.state = .leased) (ended : after.state ≠ .ready ∧ after.state ≠ .leased) :
      RowStep (some before) after
  | withdrawn {before after : TaskRow} (work : SameWork before.task after.task)
      (ready : before.state = .ready) (cancelled : after.state = .cancelled) :
      RowStep (some before) after

section Work

variable {a b c : WorkflowTaskV1}

theorem SameWork.refl (task : WorkflowTaskV1) : SameWork task task := rfl

theorem SameWork.trans (first : SameWork a b) (second : SameWork b c) : SameWork a c := by
  rw [SameWork] at first second ⊢
  rw [second, first]

section

variable (work : SameWork a b)
include work

theorem SameWork.taskId : b.taskId = a.taskId := by rw [work]

theorem SameWork.workflowId : b.workflowId = a.workflowId := by rw [work]

theorem SameWork.nodeId : b.nodeId = a.nodeId := by rw [work]

theorem SameWork.attemptId : b.attemptId = a.attemptId := by rw [work]

theorem SameWork.retry : b.retry = a.retry := by rw [work]

theorem SameWork.linked {projection : WorkflowProjectionV1}
    (linked : TaskLinked projection a) : TaskLinked projection b := by
  constructor
  · rw [work.nodeId, work.retry]
    exact linked.specified
  · rw [work.attemptId, work.nodeId]
    exact linked.owns

end

theorem RowStep.work {before after : TaskRow} (step : RowStep (some before) after) :
    SameWork before.task after.task := by
  cases step with
  | kept => exact .refl _
  | leased work => exact work
  | renewed work => exact work
  | retired work => exact work
  | withdrawn work => exact work

theorem RowStep.ready_before {before : Option TaskRow} {after : TaskRow}
    (step : RowStep before after) (ready : after.state = .ready) :
    before = some after ∨ before = none := by
  cases step with
  | kept => exact .inl rfl
  | queued => exact .inr rfl
  | leased _ _ held => rw [held.1] at ready; cases ready
  | renewed _ _ held => rw [held.1] at ready; cases ready
  | retired _ _ ended => exact absurd ready ended.1
  | withdrawn _ _ cancelled => rw [cancelled] at ready; cases ready

end Work

/-! ## Rows of a workflow that is written -/

/-- What becomes of one row while its workflow goes from `current` to `next`. -/
structure RowMove (lax : Bool) (workflowId : String) (current next : WorkflowProjectionV1)
    (before : Option TaskRow) (after : TaskRow) : Prop where
  step : RowStep before after
  column : (∀ row, before = some row → row.task.state = row.state) → after.task.state = after.state
  fits : after.task.workflowId = workflowId →
    (∀ row, before = some row → TaskLinked current row.task ∧ RowFits lax current row) →
    RowFits lax next after
  fresh : before = none → after.task.workflowId = workflowId ∧ TaskLinked next after.task ∧
    current.sequence < next.sequence
  elsewhere : after.task.workflowId ≠ workflowId → before = some after
  settled : ∀ row, before = some row → row.state = .leased → after.state ≠ .leased →
    ∃ state ∈ settledAttempts, next.attemptState? after.task.attemptId = some state

/-- No two rows are for the same attempt. -/
def DistinctAttempts (tasks : Table String TaskRow) : Prop :=
  ∀ key other row row', tasks.get? key = some row → tasks.get? other = some row' →
    row.task.attemptId = row'.task.attemptId → key = other

structure RowsMove (lax : Bool) (workflowId : String) (current next : WorkflowProjectionV1)
    (before after : Table String TaskRow) : Prop where
  stays : ∀ key row, before.get? key = some row → ∃ row', after.get? key = some row'
  rows : ∀ key row', after.get? key = some row' →
    RowMove lax workflowId current next (before.get? key) row'
  keys : ∀ key row', after.get? key = some row' → before.get? key = none → row'.task.taskId = key
  distinct : DistinctAttempts before → DistinctAttempts after

end Praxis.Workflow
