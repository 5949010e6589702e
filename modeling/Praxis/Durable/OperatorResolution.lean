import Praxis.Durable.AcceptedWrites
import Praxis.Durable.ClaimCompleteness

/-!
# Resolving an unknown outcome as failed

An operator who resolves an unknown attempt as failed also releases the reservation of its
idempotency key. The transaction insists that the reservation exists and belongs to exactly this
attempt, so the resolution is rejected when the attempt became unknown before it reserved its
key, or when another attempt owns the key. `resolution_applies_iff` says when it goes through.
-/

namespace Praxis.Workflow

set_option autoImplicit false

open Praxis.Foundations

structure UnknownNode (projection : WorkflowProjectionV1) (nodeId : String)
    (attempt : WorkflowAttemptProjectionV1) : Prop where
  node : ∃ node, findNode? projection.nodes nodeId = some node ∧ node.state = .unknown ∧
    latestAttempt projection node = some attempt
  attempt : attempt.state = .unknown

def NoOpenReservation (reservations : Table (String × String) WorkflowEffectReservationV1)
    (workflowId attemptId : String) : Prop :=
  ∀ key reservation, reservations.get? (workflowId, key) = some reservation →
    reservation.attemptId = attemptId →
    reservation.state = .released ∨ reservation.state = .committed

/-- The resolution succeeds: the node and the attempt are failed, and no reservation of the
attempt is left open. -/
def ResolvedAsFailed (store : AuthorityStore) (workflowId nodeId attemptId : String)
    (code : Option String) (at_ : Timestamp) : Prop :=
  ∃ next after, resolveUnknown store store store workflowId nodeId .failed code at_ =
      .ok (next, after) ∧
    after.journal.loadProjection workflowId = .ok next ∧
    (∃ node, findNode? next.nodes nodeId = some node ∧ node.state = .failed) ∧
    (∃ attempt, findAttempt? next.attempts attemptId = some attempt ∧ attempt.state = .failed) ∧
    NoOpenReservation after.effectReservations workflowId attemptId

/-- The idempotency key of the attempt, as far as its task is on the page of unknown tasks. -/
def resolutionKey (tasks : List WorkflowTaskV1) (attemptId : String) : Option String :=
  (tasks.find? fun task => task.attemptId = attemptId).bind (·.effect.idempotencyKey)

def resolutionId (projection : WorkflowProjectionV1) (nodeId : String) : String :=
  "resolve-" ++ projection.workflowId ++ "-" ++ nodeId ++ "-" ++ toString projection.sequence

/-- What the state must be for the resolution to go through: the ids of its transaction are in
order and new, the attempt owns the reservation of its key, and has no other open one. -/
structure CanResolve (store : AuthorityStore) (projection : WorkflowProjectionV1)
    (workflowId nodeId attemptId : String) (at_ : Timestamp) : Prop where
  arguments : (authoritySafeId workflowId && authoritySafeId nodeId && at_.valid) = true
  transaction : (authoritySafeId (resolutionId projection nodeId) &&
    authoritySafeId projection.workflowId && nonNegativeInteger projection.sequence) = true
  sealable : Sealable projection (resolutionId projection nodeId) at_ 2
  unused : store.journal.transactions.get? (resolutionId projection nodeId) = none
  reservations : ∃ tasks, listTasks store workflowId .unknown maxList = .ok tasks ∧
    (∀ key, resolutionKey tasks attemptId = some key → ∃ reservation,
      store.effectReservations.get? (workflowId, key) = some reservation ∧
        reservation.attemptId = attemptId) ∧
    ∀ key reservation, store.effectReservations.get? (workflowId, key) = some reservation →
      reservation.attemptId = attemptId → resolutionKey tasks attemptId ≠ some key →
      reservation.state = .released ∨ reservation.state = .committed

def resolutionOf (projection : WorkflowProjectionV1) (tasks : List WorkflowTaskV1)
    (nodeId attemptId : String) (code : Option String) (at_ : Timestamp) :
    WorkflowTransactionV1 where
  transactionId := resolutionId projection nodeId
  workflowId := projection.workflowId
  expectedSequence := projection.sequence
  occurredAt := at_
  events :=
    [.attemptStateChanged
        { attemptId := attemptId, state := .failed, changedAt := at_, errorCode := code },
      .nodeStateChanged { nodeId, state := .failed, errorCode := code }]
  effectReservationTerminal := (resolutionKey tasks attemptId).map fun idempotencyKey =>
    { idempotencyKey, attemptId, state := .released }

section Resolution

variable {store : AuthorityStore} {projection : WorkflowProjectionV1}
  {workflowId nodeId : String} {attempt : WorkflowAttemptProjectionV1} {code : Option String}
  {at_ : Timestamp} {reservations : Table (String × String) WorkflowEffectReservationV1}
  {tasks : List WorkflowTaskV1} {attemptId : String}

theorem resolveUnknownTransaction_eq (unknown : UnknownNode projection nodeId attempt)
    (tasks : List WorkflowTaskV1) :
    resolveUnknownTransaction projection tasks nodeId .failed code at_ =
      .ok (resolutionOf projection tasks nodeId attempt.attemptId code at_) := by
  obtain ⟨node, found, state, latest⟩ := unknown.node
  simp only [resolveUnknownTransaction, found, latest, state, unknown.attempt, orError, ok_bind]
  rfl

theorem findNode?_changeNode (nodes : List WorkflowNodeProjectionV1)
    (change : NodeStateChangedV1) (nodeId : String) :
    findNode? (changeNode nodes change) nodeId = (findNode? nodes nodeId).map fun node =>
      if node.nodeId = change.nodeId then node.change change else node := by
  rw [findNode?, findNode?, changeNode, List.find?_map]
  congr 2
  funext node
  by_cases changed : node.nodeId = change.nodeId <;>
    simp [changed, WorkflowNodeProjectionV1.change]

theorem eq_of_distinct {ι : Type} {items : List ι} {idOf : ι → String}
    (distinct : (items.map idOf).Nodup) {first second : ι} (here : first ∈ items)
    (there : second ∈ items) (same : idOf first = idOf second) : first = second :=
  List.inj_on_of_nodup_map distinct here there same

theorem UnknownNode.applies (unknown : UnknownNode projection nodeId attempt)
    (distinct : DistinctIds projection) (tasks : List WorkflowTaskV1) :
    ∃ content, Applies projection
        (resolutionOf projection tasks nodeId attempt.attemptId code at_).events content ∧
      (∃ node, findNode? content.nodes nodeId = some node ∧ node.state = .failed) ∧
      ∃ settled, findAttempt? content.attempts attempt.attemptId = some settled ∧
        settled.state = .failed := by
  obtain ⟨node, found, state, latest⟩ := unknown.node
  obtain ⟨inside, here⟩ := findNode?_mem found
  obtain ⟨attemptId, _, lookup⟩ := Option.bind_eq_some_iff.mp latest
  obtain ⟨member, same⟩ := findAttempt?_mem lookup
  rw [← same] at lookup
  let settle : AttemptStateChangedV1 :=
    { attemptId := attempt.attemptId, state := .failed, changedAt := at_, errorCode := code }
  let fail : NodeStateChangedV1 := { nodeId, state := .failed, errorCode := code }
  have first : WorkflowEventEffect projection (.attemptStateChanged settle)
      (projection.attemptChanged settle) := by
    refine .attemptChanged ⟨attempt, member, rfl⟩ fun other listed equal => ?_
    rw [eq_of_distinct distinct.attempts listed member equal, unknown.attempt]
    exact List.mem_cons_of_mem _ (List.mem_cons_self ..)
  have second : WorkflowEventEffect (projection.attemptChanged settle) (.nodeStateChanged fail)
      ((projection.attemptChanged settle).nodeChanged fail) := by
    refine .nodeChanged ⟨node, inside, here⟩ fun other listed equal => ?_
    rw [eq_of_distinct distinct.nodes listed inside (equal.trans here.symm), state]
    exact List.mem_cons_of_mem _ (List.mem_cons_self ..)
  refine ⟨_, applies_cons.mpr ⟨_, first, applies_singleton.mpr second⟩,
    ⟨node.change fail, ?_, rfl⟩, attempt.change settle, ?_, rfl⟩
  · rw [WorkflowProjectionV1.nodeChanged_nodes, findNode?_changeNode,
      WorkflowProjectionV1.attemptChanged_nodes, found, Option.map_some, if_pos here]
  · rw [WorkflowProjectionV1.nodeChanged_attempts, WorkflowProjectionV1.attemptChanged_attempts,
      findAttempt?_changeAttempt, lookup, Option.map_some, if_pos rfl]

theorem resolution_settles (owned : ∀ key, resolutionKey tasks attemptId = some key → ∃ reservation,
      reservations.get? (workflowId, key) = some reservation ∧ reservation.attemptId = attemptId)
    (others : ∀ key reservation, reservations.get? (workflowId, key) = some reservation →
      reservation.attemptId = attemptId → resolutionKey tasks attemptId ≠ some key →
      reservation.state = .released ∨ reservation.state = .committed) :
    ∃ settled, ((resolutionKey tasks attemptId).map fun idempotencyKey =>
          ({ idempotencyKey, attemptId, state := .released } :
            EffectReservationTerminalV1)).toList.foldlM
        (settleReservation workflowId at_) reservations = .ok settled ∧
      NoOpenReservation settled workflowId attemptId := by
  cases key : resolutionKey tasks attemptId with
  | none =>
    refine ⟨reservations, rfl, fun other reservation found owner => ?_⟩
    exact others other reservation found owner (by rw [key]; simp)
  | some idempotencyKey =>
    obtain ⟨reservation, found, owner⟩ := owned idempotencyKey key
    refine ⟨reservations.update (workflowId, idempotencyKey)
      { reservation with
        state := .released
        receiptRef := (none : Option WorkflowArtifactRefV1).or reservation.receiptRef
        updatedAt := at_ }, ?_, fun other kept present same => ?_⟩
    · simp only [Option.map_some, Option.toList_some, foldlM_cons_eq_ok, foldlM_nil_eq_ok]
      refine ⟨_, ?_, rfl⟩
      simp only [settleReservation, found, bind_eq_ok, ensure_eq_ok, orError_eq_ok, pure_eq_ok]
      exact ⟨reservation, rfl, (), by simpa using owner, rfl⟩
    · rw [Table.get?_update, found] at present
      by_cases here : (workflowId, other) = (workflowId, idempotencyKey)
      · rw [if_pos here] at present
        cases Option.some.inj present
        exact .inl rfl
      · rw [if_neg here] at present
        refine others other kept present same fun equal => here ?_
        rw [← Option.mem_unique key equal]

theorem resolution_settled {settled : Table (String × String) WorkflowEffectReservationV1}
    (settles : ((resolutionKey tasks attemptId).map fun idempotencyKey =>
          ({ idempotencyKey, attemptId, state := .released } :
            EffectReservationTerminalV1)).toList.foldlM
        (settleReservation workflowId at_) reservations = .ok settled) :
    (∀ key, resolutionKey tasks attemptId = some key → ∃ reservation,
      reservations.get? (workflowId, key) = some reservation ∧
        reservation.attemptId = attemptId) ∧
    ∀ key, resolutionKey tasks attemptId ≠ some key →
      settled.get? (workflowId, key) = reservations.get? (workflowId, key) := by
  cases key : resolutionKey tasks attemptId with
  | none =>
    rw [key] at settles
    cases settles
    exact ⟨fun _ absent => (nomatch absent), fun _ _ => rfl⟩
  | some idempotencyKey =>
    rw [key] at settles
    simp only [Option.map_some, Option.toList_some, foldlM_cons_eq_ok, foldlM_nil_eq_ok,
      settleReservation, bind_eq_ok, ensure_eq_ok, orError_eq_ok, pure_eq_ok, beq_iff_eq]
      at settles
    obtain ⟨_, ⟨reservation, found, _, owner, rfl⟩, rfl⟩ := settles
    refine ⟨fun other same => ?_, fun other different => ?_⟩
    · cases same
      exact ⟨reservation, found, owner⟩
    · rw [Table.get?_update, if_neg]
      intro same
      exact different (by rw [(Prod.mk.inj same).2])

theorem resolutionOf_plain (tasks : List WorkflowTaskV1) (attemptId : String) :
    PlainTransaction (resolutionOf projection tasks nodeId attemptId code at_) where
  enqueueTasks := rfl
  outbox := rfl
  timers := rfl
  humanTasks := rfl
  effectReceipts := rfl
  messages := rfl
  acknowledgeTask := rfl
  uncreated := by simp [resolutionOf]

/-- The resolution goes through in such a state. -/
theorem CanResolve.resolves (can : CanResolve store projection workflowId nodeId
      attempt.attemptId at_) (orderly : store.journal.Orderly)
    (loaded : store.journal.loadProjection workflowId = .ok projection)
    (unknown : UnknownNode projection nodeId attempt) :
    ResolvedAsFailed store workflowId nodeId attempt.attemptId code at_ := by
  obtain ⟨tasks, listed, owned, others⟩ := can.reservations
  have owner : projection.workflowId = workflowId := by
    obtain ⟨row, stored, same⟩ := Journal.loadProjection_eq_ok.mp loaded
    rw [← same]
    exact orderly.agrees.owner workflowId row stored
  obtain ⟨content, applies, failed, ended⟩ :=
    @UnknownNode.applies projection nodeId attempt code at_ unknown (orderly.distinctIds loaded)
      tasks
  obtain ⟨settled, settles, closed⟩ := @resolution_settles workflowId at_
    store.effectReservations tasks attempt.attemptId owned others
  have own : (resolutionOf projection tasks nodeId attempt.attemptId code at_).workflowId =
    workflowId := owner
  obtain ⟨next, recorded, transacted, made, appended⟩ :=
    (resolutionOf_plain tasks attempt.attemptId).accepted orderly (by rwa [own])
      (by
        rw [Bool.and_eq_true]
        exact ⟨can.transaction, can.sealable.clock⟩)
      can.unused rfl applies can.sealable (by rwa [own]) rfl
  rw [own] at appended
  refine ⟨next, { store with journal := recorded, effectReservations := settled }, ?_, ?_, ?_, ?_,
    closed⟩
  · simp only [resolveUnknown, bind_eq_ok, ensure_eq_ok]
    exact ⟨(), can.arguments, projection, loaded, tasks, listed, _,
      resolveUnknownTransaction_eq unknown tasks, transacted⟩
  · exact (appended.loadProjection orderly.agrees workflowId).trans (if_pos rfl)
  · rw [made]
    exact failed
  · rw [made]
    exact ended

/-- A resolution that succeeded found such a state. -/
theorem ResolvedAsFailed.can (resolved : ResolvedAsFailed store workflowId nodeId
      attempt.attemptId code at_) (orderly : store.journal.Orderly)
    (loaded : store.journal.loadProjection workflowId = .ok projection)
    (unknown : UnknownNode projection nodeId attempt) :
    CanResolve store projection workflowId nodeId attempt.attemptId at_ := by
  obtain ⟨next, after, accepted, stored, ⟨ended, foundEnd, failed⟩, _, closed⟩ := resolved
  have owner : projection.workflowId = workflowId := by
    obtain ⟨row, present, same⟩ := Journal.loadProjection_eq_ok.mp loaded
    rw [← same]
    exact orderly.agrees.owner workflowId row present
  simp only [resolveUnknown, bind_eq_ok, ensure_eq_ok, loaded, Except.ok.injEq,
    exists_eq_left'] at accepted
  obtain ⟨_, arguments, tasks, listed, input, built, transacted⟩ := accepted
  rw [resolveUnknownTransaction_eq unknown tasks] at built
  cases built
  have valid := transacted
  simp only [transact, bind_eq_ok, ensure_eq_ok] at valid
  obtain ⟨_, checked, _⟩ := valid
  rcases transact_ok transacted with ⟨_, rfl⟩ | ⟨unused, current, effect⟩
  · -- a resolution that answered from the record left the node unknown
    cases ok_unique loaded stored
    obtain ⟨node, found, state, _⟩ := unknown.node
    cases Option.mem_unique found foundEnd
    rw [state] at failed
    cases failed
  · have same : current = projection := by
      have other := effect.appended.loaded
      rw [show (resolutionOf projection tasks nodeId attempt.attemptId code at_).workflowId =
        workflowId from owner] at other
      exact ok_unique other loaded
    subst same
    have settles := effect.effectReservations
    rw [show (resolutionOf current tasks nodeId attempt.attemptId code at_).workflowId =
      workflowId from owner] at settles
    obtain ⟨owned, others⟩ := resolution_settled settles
    refine ⟨arguments, (Bool.and_eq_true_iff.mp checked).1,
      sealable_of_folded (by simp [resolutionOf]) effect.appended.folded, unused, tasks, listed, owned, ?_⟩
    intro key reservation found same different
    refine closed key reservation ?_ same
    rw [others key different]
    exact found

end Resolution

/-- **A resolution as failed applies exactly in the states in which the attempt owns the
reservation of its key.** Over every run of the authority, for every workflow with a node and a
latest attempt that are unknown. -/
theorem resolution_applies_iff (history : List StoreCall) {projection : WorkflowProjectionV1}
    {workflowId nodeId : String} {attempt : WorkflowAttemptProjectionV1} (code : Option String)
    (at_ : Timestamp)
    (loaded : (StoreCall.run .empty history).journal.loadProjection workflowId = .ok projection)
    (unknown : UnknownNode projection nodeId attempt) :
    ResolvedAsFailed (StoreCall.run .empty history) workflowId nodeId attempt.attemptId code
        at_ ↔
      CanResolve (StoreCall.run .empty history) projection workflowId nodeId attempt.attemptId
        at_ := by
  have orderly := StoreCall.run_orderly history
  constructor
  · intro resolved
    exact resolved.can orderly loaded unknown
  · intro can
    exact can.resolves orderly loaded unknown

/-! ## A lease that ran out -/

def zeroUuid : Uuid := ⟨"00000000-0000-4000-8000-000000000000", zeroUuid_shape⟩

def nextDay : Timestamp := ⟨isoText 86_400_000, some 86_400_000⟩

/-- A task with an effect is claimed, nothing is heard of it for a day, and its lease is
recovered. -/
def stalledHistory (effect : EffectContractV1) : List StoreCall :=
  [.create smallSpec "create"
      { events :=
          [.attemptCreated (scheduledAttempt "work" "root" 1),
            .nodeStateChanged { nodeId := "root", state := .admitted },
            .nodeStateChanged { nodeId := "root", state := .scheduled }]
        tasks := [{ rootTask "workflow" "work" 0 with effect }] },
    .call (.claim "worker" {} epochStart zeroUuid),
    .call (.recoverExpired nextDay fun _ => ⟨zeroUuid, zeroUuid, zeroUuid⟩)]

/-- A task that writes to the workspace stalls, and its outcome is unknown. -/
def unknownHistory (idempotencyKey : Option String) : List StoreCall :=
  stalledHistory { effectClass := .workspaceWrite, idempotencyKey, requiresApproval := false }

/-- A stored projection whose node and attempt are unknown, as a computation sees it. -/
def showsUnknown (nodeId attemptId : String) (projection : WorkflowProjectionV1) : Bool :=
  (findNode? projection.nodes nodeId).any fun node => node.state == .unknown &&
    (latestAttempt projection node).any fun attempt =>
      attempt.attemptId == attemptId && attempt.state == .unknown

theorem showsUnknown_iff {nodeId attemptId : String} {projection : WorkflowProjectionV1} :
    showsUnknown nodeId attemptId projection = true ↔
      ∃ attempt, UnknownNode projection nodeId attempt ∧ attempt.attemptId = attemptId := by
  constructor
  · intro shown
    obtain ⟨node, found, held⟩ := (Option.any_eq_true _ _).mp shown
    obtain ⟨state, latest⟩ := Bool.and_eq_true_iff.mp held
    obtain ⟨attempt, last, settled⟩ := (Option.any_eq_true _ _).mp latest
    obtain ⟨same, unknown⟩ := Bool.and_eq_true_iff.mp settled
    exact ⟨attempt, ⟨⟨node, found, eq_of_beq state, last⟩, eq_of_beq unknown⟩, eq_of_beq same⟩
  · rintro ⟨attempt, ⟨⟨node, found, state, last⟩, unknown⟩, same⟩
    simp [showsUnknown, found, state, last, unknown, same]

theorem unknownHistory_unknown (idempotencyKey : Option String)
    (shown : ((StoreCall.run .empty (unknownHistory idempotencyKey)).journal.loadProjection
      "workflow").toOption.any (showsUnknown "root" "work") = true) :
    ∃ projection attempt, (StoreCall.run .empty
        (unknownHistory idempotencyKey)).journal.loadProjection "workflow" = .ok projection ∧
      UnknownNode projection "root" attempt ∧ attempt.attemptId = "work" := by
  obtain ⟨projection, loaded, held⟩ := exists_ok shown
  obtain ⟨attempt, unknown, same⟩ := showsUnknown_iff.mp held
  exact ⟨projection, attempt, loaded, unknown, same⟩

/-- Without a key the resolution goes through. -/
theorem keyless_resolution_applies :
    ∃ projection attempt, (StoreCall.run .empty (unknownHistory none)).journal.loadProjection
        "workflow" = .ok projection ∧
      UnknownNode projection "root" attempt ∧
      ResolvedAsFailed (StoreCall.run .empty (unknownHistory none)) "workflow" "root"
        attempt.attemptId none nextDay := by
  have stalled : (((StoreCall.run .empty (unknownHistory none)).journal.loadProjection
      "workflow").toOption.any (fun projection => showsUnknown "root" "work" projection &&
        (authoritySafeId (resolutionId projection "root") &&
          authoritySafeId projection.workflowId && nonNegativeInteger projection.sequence) &&
        (projection.spec.workflowId == projection.workflowId &&
          projection.spec.runId == projection.runId) &&
        ((List.range 2).all fun index => safeId (eventIdOf (resolutionId projection "root")
          (projection.sequence + index + 1))) &&
        ((StoreCall.run .empty (unknownHistory none)).journal.transactions.get?
          (resolutionId projection "root")).isNone) &&
      (listTasks (StoreCall.run .empty (unknownHistory none)) "workflow" .unknown
        maxList).toOption.any (fun tasks => resolutionKey tasks "work" == none) &&
      (StoreCall.run .empty (unknownHistory none)).effectReservations.rows.isEmpty) = true := by
    decide +kernel
  obtain ⟨shown, empty⟩ := Bool.and_eq_true_iff.mp stalled
  obtain ⟨shown, keyless⟩ := Bool.and_eq_true_iff.mp shown
  obtain ⟨projection, loaded, held⟩ := exists_ok shown
  simp only [Bool.and_eq_true, beq_iff_eq, Option.isNone_iff_eq_none, List.all_eq_true,
    List.mem_range] at held
  obtain ⟨⟨⟨⟨visible, valid⟩, workflowId, runId⟩, ids⟩, unused⟩ := held
  obtain ⟨attempt, unknown, same⟩ := showsUnknown_iff.mp visible
  obtain ⟨tasks, listed, key⟩ := exists_ok keyless
  refine ⟨projection, attempt, loaded, unknown,
    (resolution_applies_iff _ none nextDay loaded unknown).mpr ⟨?_, ?_, ⟨workflowId, runId, ?_,
      ids⟩, unused, tasks, listed, ?_, ?_⟩⟩
  · decide +kernel
  · simpa only [Bool.and_eq_true] using valid
  · decide +kernel
  · intro other present
    rw [same, eq_of_beq key] at present
    cases present
  · intro other reservation found
    have member := (Table.mem_rows_iff _).mpr found
    rw [List.isEmpty_iff.mp empty] at member
    cases member

/-- **An attempt that never reserved its key cannot be resolved as failed.** -/
theorem unreserved_resolution_rejected :
    ¬ ∀ (history : List StoreCall) (projection : WorkflowProjectionV1)
        (workflowId nodeId : String) (attempt : WorkflowAttemptProjectionV1)
        (code : Option String) (at_ : Timestamp), at_.valid = true →
      (StoreCall.run .empty history).journal.loadProjection workflowId = .ok projection →
      UnknownNode projection nodeId attempt →
      ResolvedAsFailed (StoreCall.run .empty history) workflowId nodeId attempt.attemptId code
        at_ := by
  intro always
  have stalled : (((StoreCall.run .empty (unknownHistory (some "effect"))).journal.loadProjection
      "workflow").toOption.any (showsUnknown "root" "work") &&
      (listTasks (StoreCall.run .empty (unknownHistory (some "effect"))) "workflow" .unknown
        maxList).toOption.any (fun tasks => resolutionKey tasks "work" == some "effect") &&
      ((StoreCall.run .empty (unknownHistory (some "effect"))).effectReservations.get?
        ("workflow", "effect")).isNone) = true := by
    decide +kernel
  obtain ⟨shown, empty⟩ := Bool.and_eq_true_iff.mp stalled
  obtain ⟨shown, keyed⟩ := Bool.and_eq_true_iff.mp shown
  obtain ⟨projection, attempt, loaded, unknown, same⟩ :=
    unknownHistory_unknown (some "effect") shown
  have resolved := always _ _ _ _ attempt none nextDay (by decide +kernel) loaded unknown
  obtain ⟨tasks, listed, owned, _⟩ :=
    (resolved.can (StoreCall.run_orderly _) loaded unknown).reservations
  obtain ⟨page, list, key⟩ := exists_ok keyed
  cases ok_unique listed list
  obtain ⟨reservation, found, _⟩ := owned "effect" (by rw [same]; exact eq_of_beq key)
  rw [Option.isNone_iff_eq_none.mp empty] at found
  cases found

end Praxis.Workflow
