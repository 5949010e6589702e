import Praxis.Durable.AuthorityAgreement
import Praxis.Durable.TaskRows

/-!
# Sound stores

A store is `Sound` when its projections are coherent, every task belongs to a specified node
and to an attempt of it that fits the state of the task, and no two tasks are for one attempt.
A claim is `ClaimSound` when its task is leased under its token, or was retired and its attempt
is settled.

An operation changes at most one workflow at a time (`Move`), and both hold on (`Sound.move`,
`ClaimSound.move`). Each operation is shown to be a move elsewhere.
-/

namespace Praxis.Workflow

set_option autoImplicit false

open Praxis.Foundations

/-- What a stored task has to do with the projection of its workflow. -/
structure RowSound (lax : Bool) (journal : Journal) (row : TaskRow) : Prop where
  column : row.task.state = row.state
  held : row.state = .leased → row.Held
  loaded : ∃ projection, journal.loadProjection row.task.workflowId = .ok projection ∧
    TaskLinked projection row.task ∧ RowFits lax projection row

structure Sound (lax : Bool) (store : AuthorityStore) : Prop where
  agrees : store.journal.Agrees
  coherent : ∀ workflowId projection,
    store.journal.loadProjection workflowId = .ok projection → Coherent lax projection
  keys : ∀ key row, store.tasks.get? key = some row → row.task.taskId = key
  rows : ∀ key row, store.tasks.get? key = some row → RowSound lax store.journal row
  distinct : DistinctAttempts store.tasks

/-- A claim that was granted: its task is leased under its token, or was retired since. -/
structure ClaimSound (store : AuthorityStore) (claim : WorkflowTaskClaimV1) : Prop where
  row : ∃ row, store.tasks.get? claim.task.taskId = some row ∧ SameWork claim.task row.task ∧
    row.state ≠ .ready ∧
    (row.state = .leased → row.task.lease.map (·.token) = some claim.lease.token) ∧
    (row.state ≠ .leased → ∃ projection state, state ∈ settledAttempts ∧
      store.journal.loadProjection claim.task.workflowId = .ok projection ∧
      projection.attemptState? claim.task.attemptId = some state)

/-- One workflow goes from `current` to `next`, and the rows with it. A workflow that is
created comes from its initial projection, which was not stored. -/
structure Move (lax : Bool) (before after : AuthorityStore) (workflowId : String)
    (current next : WorkflowProjectionV1) : Prop where
  agrees : after.journal.Agrees
  own : after.journal.loadProjection workflowId = .ok next
  others : ∀ other, other ≠ workflowId →
    after.journal.loadProjection other = before.journal.loadProjection other
  origin : ∀ projection, before.journal.loadProjection workflowId = .ok projection →
    projection = current ∧ Follows current next ∧
      ∀ node ∈ current.spec.nodes, node ∈ next.spec.nodes
  coherent : Coherent lax next
  rows : RowsMove lax workflowId current next before.tasks after.tasks

section Moves

variable {lax : Bool} {before after : AuthorityStore} {workflowId : String}
  {current next : WorkflowProjectionV1}

theorem sound_empty : Sound lax .empty where
  agrees := Journal.empty_agrees
  coherent := by
    intro workflowId projection loaded
    simp [AuthorityStore.empty, Journal.empty, Journal.loadProjection_eq_ok] at loaded
  keys := by simp [AuthorityStore.empty]
  rows := by simp [AuthorityStore.empty]
  distinct := by simp [AuthorityStore.empty, DistinctAttempts]

theorem TaskLinked.follows {task : WorkflowTaskV1} (linked : TaskLinked current task)
    (follows : Follows current next)
    (nodes : ∀ node ∈ current.spec.nodes, node ∈ next.spec.nodes) : TaskLinked next task where
  specified := by
    obtain ⟨node, member, same⟩ := linked.specified
    exact ⟨node, nodes node member, same⟩
  owns := linked.owns.persists follows.persists

/-- **A move keeps a store sound.** -/
theorem Sound.move (sound : Sound lax before)
    (move : Move lax before after workflowId current next) : Sound lax after where
  agrees := move.agrees
  coherent := by
    intro other projection loaded
    by_cases same : other = workflowId
    · rw [same, move.own] at loaded
      cases loaded
      exact move.coherent
    · rw [move.others other same] at loaded
      exact sound.coherent other projection loaded
  keys := by
    intro key row stored
    cases found : before.tasks.get? key with
    | none => exact move.rows.keys key row stored found
    | some old =>
      have step := (move.rows.rows key row stored).step
      rw [found] at step
      rw [step.work.taskId]
      exact sound.keys key old found
  rows := by
    intro key row stored
    have moved := move.rows.rows key row stored
    cases found : before.tasks.get? key with
    | none =>
      rw [found] at moved
      obtain ⟨owner, linked, _⟩ := moved.fresh rfl
      refine ⟨moved.column (by simp), ?_, next, owner ▸ move.own, linked,
        moved.fits owner (by simp)⟩
      intro leased
      cases moved.step with
      | queued ready => rw [ready] at leased; cases leased
    | some old =>
      rw [found] at moved
      have prior := sound.rows key old found
      have work := moved.step.work
      refine ⟨moved.column fun other same => ?_, ?_, ?_⟩
      · obtain rfl := Option.some.inj same
        exact prior.column
      · intro leased
        cases moved.step with
        | kept => exact prior.held leased
        | leased _ _ held => exact held
        | renewed _ _ held => exact held
        | retired _ _ ended => exact absurd leased ended.2
        | withdrawn _ _ cancelled => rw [cancelled] at leased; cases leased
      · obtain ⟨projection, loaded, linked, fits⟩ := prior.loaded
        by_cases own : row.task.workflowId = workflowId
        · have there := loaded
          rw [← work.workflowId, own] at there
          obtain ⟨rfl, follows, nodes⟩ := move.origin projection there
          refine ⟨next, own ▸ move.own, (work.linked linked).follows follows nodes,
            moved.fits own fun other same => ?_⟩
          obtain rfl := Option.some.inj same
          exact ⟨linked, fits⟩
        · obtain rfl := Option.some.inj (moved.elsewhere own)
          exact ⟨projection, by rw [move.others _ own, loaded], linked, fits⟩
  distinct := move.rows.distinct sound.distinct

theorem ClaimSound.move {claim : WorkflowTaskClaimV1} (sound : Sound lax before)
    (granted : ClaimSound before claim) (move : Move lax before after workflowId current next) :
    ClaimSound after claim := by
  obtain ⟨old, found, work, taken, token, settled⟩ := granted.row
  obtain ⟨row, stored⟩ := move.rows.stays _ old found
  have moved := move.rows.rows _ row stored
  rw [found] at moved
  have later := work.trans moved.step.work
  refine ⟨row, stored, later, ?_, ?_, ?_⟩
  · intro ready
    rcases moved.step.ready_before ready with same | absent
    · obtain rfl := Option.some.inj same
      exact taken ready
    · cases absent
  · intro leased
    cases moved.step with
    | kept => exact token leased
    | leased _ ready => exact absurd ready taken
    | renewed _ was _ same => exact same.trans (token was)
    | retired _ _ ended => exact absurd leased ended.2
    | withdrawn _ _ cancelled => rw [cancelled] at leased; cases leased
  · intro ended
    obtain ⟨projection, loaded, linked, fits⟩ := (sound.rows _ old found).loaded
    rw [work.workflowId] at loaded
    by_cases own : claim.task.workflowId = workflowId
    · have there := loaded
      rw [own] at there
      obtain ⟨rfl, follows, _⟩ := move.origin projection there
      refine ⟨next, ?_⟩
      by_cases was : old.state = .leased
      · obtain ⟨state, member, state_eq⟩ := moved.settled old rfl was ended
        rw [later.attemptId] at state_eq
        exact ⟨state, member, own ▸ move.own, state_eq⟩
      · obtain ⟨projection', state, member, loaded', state_eq⟩ := settled was
        rw [own] at loaded'
        obtain ⟨rfl, _, _⟩ := move.origin projection' loaded'
        obtain ⟨attempt, present, rfl⟩ := Option.map_eq_some_iff.mp state_eq
        obtain ⟨last, there, after⟩ := follows.persists.attempts _ attempt present
        refine ⟨last.state, settled_of_leads after.state member, own ▸ move.own, ?_⟩
        rw [WorkflowProjectionV1.attemptState?, there]
        rfl
    · have owner : row.task.workflowId ≠ workflowId := by
        rw [later.workflowId]
        exact own
      obtain rfl := Option.some.inj (moved.elsewhere owner)
      obtain ⟨projection', state, member, loaded', state_eq⟩ := settled ended
      exact ⟨projection', state, member, by rw [move.others _ own, loaded'], state_eq⟩

end Moves

end Praxis.Workflow
