import Praxis.Durable.OperatorResolution

/-!
# Grants of effects

A call of `reserveEffect` carries the id of an attempt and no lease. It answers with the right to
perform the effect whenever the key is free and the attempt has a task, whatever state that task
is in. `grant_respects_lease_iff` says when such an answer goes to the holder of a lease.
-/

namespace Praxis.Workflow

set_option autoImplicit false

open Praxis.Foundations

def LeasedAttempt (store : AuthorityStore) (workflowId attemptId : String) : Prop :=
  ∃ row ∈ store.tasks.values, row.task.workflowId = workflowId ∧
    row.task.attemptId = attemptId ∧ row.state = .leased

/-- What the state must be for a call to be answered with the right to perform the effect. -/
structure Grantable (store : AuthorityStore) (workflowId key inputDigest attemptId : String)
    (leaseExpiresAt at_ : Timestamp) : Prop where
  arguments : (authoritySafeId workflowId && authoritySafeId key && authoritySafeId attemptId &&
    isSha256 inputDigest && leaseExpiresAt.valid && at_.valid) = true
  free : ∀ prior, store.effectReservations.get? (workflowId, key) = some prior →
    prior.inputDigest = inputDigest ∧ prior.state = .released
  task : ∃ row, store.tasks.values.find? (fun row =>
      row.task.workflowId = workflowId ∧ row.task.attemptId = attemptId) = some row ∧
    row.task.executionBinding.all (·.isValid) = true
  projection : ∃ current, store.journal.loadProjection workflowId = .ok current ∧
    Sealable current ("effect-reserved-" ++ attemptId) at_ 1
  unused : store.journal.transactions.get? ("effect-reserved-" ++ attemptId) = none

section Grants

variable {store : AuthorityStore} {workflowId key inputDigest attemptId : String}
  {leaseExpiresAt at_ : Timestamp}

/-- The events of a reservation are accepted in such a state. -/
theorem Grantable.records
    (grantable : Grantable store workflowId key inputDigest attemptId leaseExpiresAt at_)
    (orderly : store.journal.Orderly)
    (reservations : Table (String × String) WorkflowEffectReservationV1) :
    ∃ next, recordReservation { store with effectReservations := reservations } workflowId key
      inputDigest attemptId at_ = .ok next := by
  obtain ⟨row, found, binding⟩ := grantable.task
  obtain ⟨current, loaded, sealable⟩ := grantable.projection
  have applies : Applies current
      [.effectReserved row.task.nodeId attemptId key inputDigest] current := by
    exact applies_singleton.mpr (.recorded rfl)
  obtain ⟨next, written, applied, _, recorded, record⟩ :=
    orderly.applyEvents_accepts loaded applies (by simp) sealable grantable.unused
  refine ⟨{ store with effectReservations := reservations, journal := recorded }, ?_⟩
  simp only [recordReservation, taskForAttempt, parseTask, found, bind_eq_ok, orError_eq_ok,
    ensure_eq_ok, pure_eq_ok, appendEvents, Journal.appendInternalEvents]
  exact ⟨row.task, ⟨row, rfl, (), binding, rfl⟩, _, ⟨(next, recorded),
    ⟨current, loaded, (next, written), applied, recorded, record, rfl⟩, rfl⟩, rfl⟩

/-- A reservation whose events were accepted found its task, and an id that was new. -/
theorem recorded_grantable {after : AuthorityStore}
    {reservations : Table (String × String) WorkflowEffectReservationV1}
    (recorded : recordReservation { store with effectReservations := reservations } workflowId
      key inputDigest attemptId at_ = .ok after) :
    (∃ row, store.tasks.values.find? (fun row =>
        row.task.workflowId = workflowId ∧ row.task.attemptId = attemptId) = some row ∧
      row.task.executionBinding.all (·.isValid) = true) ∧
    (∃ current, store.journal.loadProjection workflowId = .ok current ∧
      Sealable current ("effect-reserved-" ++ attemptId) at_ 1) ∧
    store.journal.transactions.get? ("effect-reserved-" ++ attemptId) = none := by
  simp only [recordReservation, taskForAttempt, parseTask, bind_eq_ok, orError_eq_ok,
    ensure_eq_ok, pure_eq_ok, Prod.exists] at recorded
  obtain ⟨task, ⟨row, found, _, binding, rfl⟩, next, last, written, rfl⟩ := recorded
  obtain ⟨journal, current, _, appended⟩ := appendEvents_ok written
  refine ⟨⟨row, found, binding⟩, ⟨current, appended.loaded, ?_⟩, ?_⟩
  · exact sealable_of_folded (by simp) appended.folded
  · have absent := (Table.insert_eq_some_iff _).mp appended.recorded
    exact absent.1

/-- A call is answered with the right to perform the effect exactly in such a state. -/
theorem granted_iff (orderly : store.journal.Orderly) :
    (∃ admission after, reserveEffect store workflowId key inputDigest attemptId leaseExpiresAt
        at_ = .ok (admission, after) ∧ admission.decision = .execute) ↔
      Grantable store workflowId key inputDigest attemptId leaseExpiresAt at_ := by
  constructor
  · rintro ⟨admission, after, accepted, execute⟩
    have free : ∀ prior, store.effectReservations.get? (workflowId, key) = some prior →
        prior.inputDigest = inputDigest ∧ prior.state = .released := by
      cases reserveEffect_ok accepted with
      | granted free => exact free
      | replayed => cases execute
      | refused _ _ refusal => rcases refusal with rfl | rfl <;> cases execute
    simp only [reserveEffect, bind_eq_ok, ensure_eq_ok] at accepted
    obtain ⟨_, arguments, taken⟩ := accepted
    cases found : store.effectReservations.get? (workflowId, key) with
    | some prior =>
      have decided : reservationDecision prior inputDigest = .execute := by
        rw [reservationDecision, if_neg (by simpa using (free prior found).1),
          (free prior found).2]
      simp only [found, decided, bind_eq_ok] at taken
      obtain ⟨next, recorded, _⟩ := taken
      obtain ⟨task, projection, unused⟩ := recorded_grantable recorded
      exact ⟨arguments, free, task, projection, unused⟩
    | none =>
      simp only [found, bind_eq_ok] at taken
      obtain ⟨reservations, _, next, recorded, _⟩ := taken
      obtain ⟨task, projection, unused⟩ := recorded_grantable recorded
      exact ⟨arguments, free, task, projection, unused⟩
  · intro grantable
    simp only [reserveEffect, bind_eq_ok, ensure_eq_ok]
    cases found : store.effectReservations.get? (workflowId, key) with
    | some prior =>
      obtain ⟨digest, state⟩ := grantable.free prior found
      have decided : reservationDecision prior inputDigest = .execute := by
        rw [reservationDecision, if_neg (by simpa using digest), state]
      obtain ⟨next, recorded⟩ := grantable.records orderly
        (store.effectReservations.update (workflowId, key)
          { prior with
            attemptId
            state := .reserved
            leaseExpiresAt
            receiptRef := none
            updatedAt := at_ })
      simp only [decided, bind_eq_ok, pure_eq_ok]
      exact ⟨_, _, ⟨(), grantable.arguments, next, recorded, rfl⟩, rfl⟩
    | none =>
      let reservation : WorkflowEffectReservationV1 :=
        { workflowId
          idempotencyKey := key
          inputDigest
          attemptId
          state := .reserved
          leaseExpiresAt
          updatedAt := at_ }
      cases inserted : store.effectReservations.insert (workflowId, key) reservation with
      | none =>
        have present := Table.contains_of_insert_eq_none inserted
        rw [Table.contains, found] at present
        cases present
      | some reservations =>
        obtain ⟨next, recorded⟩ := grantable.records orderly reservations
        simp only [bind_eq_ok, orError_eq_ok, pure_eq_ok]
        exact ⟨_, _, ⟨(), grantable.arguments, reservations, rfl, next, recorded, rfl⟩, rfl⟩

end Grants

/-- **A grant goes to the holder of a lease exactly if the attempt is leased or the state refuses
the call.** Over every run of the authority and every call of `reserveEffect` in its last
state. -/
theorem grant_respects_lease_iff (history : List StoreCall)
    (workflowId key inputDigest attemptId : String) (leaseExpiresAt at_ : Timestamp) :
    (∀ admission after, reserveEffect (StoreCall.run .empty history) workflowId key inputDigest
        attemptId leaseExpiresAt at_ = .ok (admission, after) → admission.decision = .execute →
        LeasedAttempt (StoreCall.run .empty history) workflowId attemptId) ↔
      (LeasedAttempt (StoreCall.run .empty history) workflowId attemptId ∨
        ¬ Grantable (StoreCall.run .empty history) workflowId key inputDigest attemptId
          leaseExpiresAt at_) := by
  have granted := @granted_iff _ workflowId key inputDigest attemptId leaseExpiresAt at_
    (StoreCall.run_orderly history)
  constructor
  · intro respects
    by_cases leased : LeasedAttempt (StoreCall.run .empty history) workflowId attemptId
    · exact .inl leased
    · refine .inr fun grantable => leased ?_
      obtain ⟨admission, after, accepted, execute⟩ := granted.mpr grantable
      exact respects admission after accepted execute
  · rintro (leased | refused) admission after accepted execute
    · exact leased
    · exact absurd (granted.mp ⟨admission, after, accepted, execute⟩) refused

/-! ## A worker that comes back late -/

def effectDigest : String :=
  "sha256:0000000000000000000000000000000000000000000000000000000000000000"

/-- A task with an idempotent effect stalls, and its node is retried under a new attempt. -/
def retriedHistory : List StoreCall :=
  stalledHistory
    { effectClass := .externalIdempotent
      idempotencyKey := some "effect"
      requiresApproval := false }

/-- **A worker whose lease was recovered is granted the effect.** -/
theorem late_reservation_granted :
    ¬ ∀ (history : List StoreCall) (workflowId key inputDigest attemptId : String)
        (leaseExpiresAt at_ : Timestamp) (admission : WorkflowEffectAdmissionV1)
        (after : AuthorityStore),
      reserveEffect (StoreCall.run .empty history) workflowId key inputDigest attemptId
        leaseExpiresAt at_ = .ok (admission, after) → admission.decision = .execute →
      LeasedAttempt (StoreCall.run .empty history) workflowId attemptId := by
  intro always
  have late : ((reserveEffect (StoreCall.run .empty retriedHistory) "workflow" "effect"
      effectDigest "work" nextDay nextDay).toOption.any (fun result =>
        result.1.decision == .execute) &&
      (StoreCall.run .empty retriedHistory).tasks.values.all fun row =>
        row.task.attemptId != "work" || row.state == .failed) = true := by decide +kernel
  obtain ⟨granted, retired⟩ := Bool.and_eq_true_iff.mp late
  obtain ⟨⟨admission, after⟩, accepted, execute⟩ := exists_ok granted
  obtain ⟨row, member, _, attempt, leased⟩ :=
    always _ _ _ _ _ _ _ admission after accepted (eq_of_beq execute)
  have state := List.all_eq_true.mp retired row member
  simp [attempt, leased] at state

end Praxis.Workflow
