import Praxis.Foundations.SourceText
import Praxis.Durable.AuthorityAgreement

/-!
# Writes that are accepted

When a transaction is accepted. Its data must apply to the projection as it is stored, its id must
be new, and its envelope must be in order (`Sealable`). The other checks of the journal hold in
every state that a run reaches: no event has the ids of a transaction that is not recorded, and
no sequence above that of the projection is taken (`Journal.Keyed`).
-/

namespace Praxis.Workflow

set_option autoImplicit false

open Praxis.Foundations

/-! ## Distinct ids -/

/-- No id twice among the nodes, nor among the attempts, and the nodes are those specified. -/
structure DistinctIds (projection : WorkflowProjectionV1) : Prop where
  nodes : (projection.nodes.map (·.nodeId)).Nodup
  attempts : (projection.attempts.map (·.attemptId)).Nodup
  specified : projection.nodes.map (·.nodeId) = projection.spec.nodes.map (·.nodeId)

section Distinct

variable {current next : WorkflowProjectionV1}

theorem WorkflowEventEffect.distinctIds {data : WorkflowEventDataV1}
    (effect : WorkflowEventEffect current data next) (distinct : DistinctIds current) :
    DistinctIds next := by
  cases effect with
  | created => exact distinct
  | announced => exact ⟨distinct.nodes, distinct.attempts, distinct.specified⟩
  | recorded => exact distinct
  | topologyChanged => exact ⟨distinct.nodes, distinct.attempts, distinct.specified⟩
  | budgetCharged => exact ⟨distinct.nodes, distinct.attempts, distinct.specified⟩
  | graphPatched valid =>
    refine ⟨?_, distinct.attempts, patchNodes_ids _ _⟩
    rw [WorkflowProjectionV1.graphPatched_nodes, patchNodes_ids]
    exact (validateWorkflowSpecV1_accepts valid).2.distinct
  | @taskAdmitted _ _ node attempt _ _ newNode newAttempt =>
    constructor
    · rw [WorkflowProjectionV1.taskAdmitted_nodes, List.map_append]
      refine List.Nodup.append distinct.nodes (List.nodup_singleton _) ?_
      intro nodeId old new
      obtain ⟨other, member, rfl⟩ := List.mem_map.mp old
      exact newNode other member (List.mem_singleton.mp new)
    · rw [WorkflowProjectionV1.taskAdmitted_attempts, List.map_append]
      refine List.Nodup.append distinct.attempts (List.nodup_singleton _) ?_
      intro attemptId old new
      obtain ⟨other, member, rfl⟩ := List.mem_map.mp old
      exact newAttempt other member (List.mem_singleton.mp new)
    · rw [WorkflowProjectionV1.taskAdmitted_nodes, WorkflowProjectionV1.taskAdmitted,
        List.map_append, List.map_append, distinct.specified]
      rfl
  | nodeChanged =>
    refine ⟨?_, distinct.attempts, (changeNode_ids _ _).trans distinct.specified⟩
    rw [WorkflowProjectionV1.nodeChanged_nodes, changeNode_ids]
    exact distinct.nodes
  | @attemptCreated attempt _ newAttempt =>
    refine ⟨?_, ?_, (addAttempt_ids _ _ _).trans distinct.specified⟩
    · rw [WorkflowProjectionV1.attemptCreated_nodes, addAttempt_ids]
      exact distinct.nodes
    · rw [WorkflowProjectionV1.attemptCreated_attempts, List.map_append]
      refine List.Nodup.append distinct.attempts (List.nodup_singleton _) ?_
      intro attemptId old new
      obtain ⟨other, member, rfl⟩ := List.mem_map.mp old
      exact newAttempt other member (List.mem_singleton.mp new)
  | attemptChanged =>
    refine ⟨distinct.nodes, ?_, distinct.specified⟩
    rw [WorkflowProjectionV1.attemptChanged_attempts, changeAttempt_ids]
    exact distinct.attempts

theorem reduced_distinctIds {events : List WorkflowEventV1}
    (reduced : reduceWorkflowEventsV1 events = .ok next) : DistinctIds next := by
  obtain ⟨first, rest, spec, initial, rfl, _, start, run⟩ := reduceWorkflowEventsV1_iff.mp reduced
  obtain ⟨valid, rfl⟩ := initialWorkflowProjectionV1_eq_ok start
  refine foldlM_invariant DistinctIds (fun before event after distinct step => ?_) ?_ run
  · obtain ⟨_, content, effect, rfl⟩ := applyWorkflowEventV1_iff.mp step
    have same := effect.distinctIds distinct
    exact ⟨same.nodes, same.attempts, same.specified⟩
  · have ids : (spec.nodes.map fun node => proposedNode node.nodeId).map (·.nodeId) =
        spec.nodes.map (·.nodeId) := by
      rw [List.map_map]
      rfl
    exact ⟨ids ▸ valid.distinct, List.nodup_nil, ids⟩

end Distinct

/-! ## Events that are accepted -/

/-- The envelope of a transaction with so many events is in order for a projection: the
specification has the ids of the workflow, and the event ids are not too long. -/
structure Sealable (current : WorkflowProjectionV1) (transactionId : String) (at_ : Timestamp)
    (count : Nat) : Prop where
  workflowId : current.spec.workflowId = current.workflowId
  runId : current.spec.runId = current.runId
  clock : at_.valid = true
  ids : ∀ index < count, safeId (eventIdOf transactionId (current.sequence + index + 1)) = true

section Folding

variable {current content : WorkflowProjectionV1} {data : List WorkflowEventDataV1}
  {transactionId : String} {at_ : Timestamp} {spec : WorkflowSpecV1}

theorem Applies.enveloped (applies : Applies current data content)
    (plain : ∀ spec, .workflowCreated spec ∉ data)
    (workflowId : spec.workflowId = current.workflowId) (runId : spec.runId = current.runId)
    (clock : at_.valid = true) (ids : ∀ index < data.length,
      safeId (eventIdOf transactionId (current.sequence + index + 1)) = true) :
    ∃ next, (envelopeEvents spec transactionId at_ current.sequence data).foldlM
        applyWorkflowEventV1 current = .ok next ∧
      next = content.restamped (current.sequence + data.length) next.updatedAt := by
  induction data generalizing current content with
  | nil =>
    obtain rfl := applies_nil.mp applies
    exact ⟨content, rfl, rfl⟩
  | cons event rest ih =>
    obtain ⟨middle, effect, others⟩ := applies_cons.mp applies
    obtain ⟨sameWorkflow, sameRun, _⟩ := effect.same_identity
    have later : ∀ spec, .workflowCreated spec ∉ rest := fun spec member =>
      plain spec (List.mem_cons_of_mem _ member)
    have restamped := others.restamped (current.sequence + 1) at_ fun spec member =>
      absurd member (later spec)
    obtain ⟨next, folded, same⟩ := ih restamped later (workflowId.trans sameWorkflow.symm)
      (runId.trans sameRun.symm) fun index bound => by
        have id := ids (index + 1) (by simpa using bound)
        rw [show current.sequence + (index + 1) + 1 = current.sequence + 1 + index + 1 by omega]
          at id
        exact id
    have counted : current.sequence + 1 + rest.length =
        current.sequence + (event :: rest).length := by
      rw [List.length_cons]
      omega
    refine ⟨next, ?_, same.trans (congrArg (content.restamped · next.updatedAt) counted)⟩
    rw [envelopeEvents, foldlM_cons_eq_ok]
    refine ⟨middle.restamped (current.sequence + 1) at_, applyWorkflowEventV1_iff.mpr
      ⟨⟨ids 0 (by simp), workflowId, runId, rfl, clock⟩, middle, effect, rfl⟩, folded⟩

theorem enveloped_ids {after : Nat}
    (folded : (envelopeEvents spec transactionId at_ after data).foldlM applyWorkflowEventV1
      current = .ok content) :
    ∀ index < data.length, safeId (eventIdOf transactionId (after + index + 1)) = true := by
  induction data generalizing current after with
  | nil =>
    intro index bound
    cases bound
  | cons event rest ih =>
    rw [envelopeEvents, foldlM_cons_eq_ok] at folded
    obtain ⟨middle, applied, others⟩ := folded
    obtain ⟨⟨id, _⟩, _⟩ := applyWorkflowEventV1_iff.mp applied
    intro index bound
    cases index with
    | zero => exact id
    | succ index =>
      have later := ih others index (by simpa using bound)
      rw [show after + (index + 1) + 1 = after + 1 + index + 1 by omega]
      exact later

theorem sealable_of_folded (some : data ≠ [])
    (folded : (envelopeEvents current.spec transactionId at_ current.sequence data).foldlM
      applyWorkflowEventV1 current = .ok content) :
    Sealable current transactionId at_ data.length := by
  have ids := enveloped_ids folded
  cases data with
  | nil => exact absurd rfl some
  | cons event rest =>
    rw [envelopeEvents, foldlM_cons_eq_ok] at folded
    obtain ⟨_, applied, _⟩ := folded
    obtain ⟨⟨_, workflowId, runId, _, clock⟩, _⟩ := applyWorkflowEventV1_iff.mp applied
    exact ⟨workflowId, runId, clock, ids⟩

end Folding

/-! ## Rows that are inserted -/

/-- Every event is stored under its workflow and its sequence. -/
def Journal.Keyed (journal : Journal) : Prop :=
  ∀ row ∈ journal.events.rows, row.1 = (row.2.workflowId, row.2.sequence)

section Inserting

variable {journal written : Journal} {transactionId : String}

theorem Journal.empty_keyed : Journal.empty.Keyed := fun _ member => nomatch member

theorem Journal.Step.keyed (step : Journal.Step journal written) (keyed : journal.Keyed) :
    written.Keyed := by
  have added : ∃ events : List WorkflowEventV1, written.events.rows = journal.events.rows ++
      events.map fun event => ((event.workflowId, event.sequence), event) := by
    cases step with
    | appended write => exact ⟨_, write.rows⟩
    | created write =>
      obtain ⟨stored, logged, row, inserted, recorded⟩ := write.written
      obtain ⟨_, events, _⟩ := Journal.recordTransaction_ok recorded
      simp only [Journal.insertWorkflow, bind_eq_ok, orError_eq_ok, pure_eq_ok] at row
      obtain ⟨_, _, rfl⟩ := row
      have rows := Journal.insertEvents_rows inserted
      exact ⟨_, (congrArg Table.rows events).trans rows⟩
  obtain ⟨events, rows⟩ := added
  intro row member
  rw [rows, List.mem_append] at member
  rcases member with old | new
  · exact keyed row old
  · obtain ⟨event, _, rfl⟩ := List.mem_map.mp new
    rfl

theorem Journal.Steps.keyed (steps : Journal.Steps journal written) (keyed : journal.Keyed) :
    written.Keyed := by
  induction steps with
  | refl => exact keyed
  | tail _ step ih => exact step.keyed ih

theorem eventIdOf_sequence {other : String} {sequence otherSequence : Nat}
    (same : eventIdOf transactionId sequence = eventIdOf other otherSequence) :
    sequence = otherSequence := by
  have characters := congrArg String.toList same
  simp only [eventIdOf, String.toList_append, List.append_assoc] at characters
  have digits := (append_separator_inj (not_mem_toString rfl _) (not_mem_toString rfl _)
    characters).2
  exact toString_injective (String.toList_injective digits)

theorem Journal.insertEvents_accepts {spec : WorkflowSpecV1}
    {at_ : Timestamp} {data : List WorkflowEventDataV1} {after : Nat}
    (known : journal.workflows.contains spec.workflowId = true)
    (ids : ∀ other ∈ journal.events.values, ∀ sequence, after < sequence →
      other.eventId ≠ eventIdOf transactionId sequence) (sequences : ∀ sequence, after < sequence →
      journal.events.get? (spec.workflowId, sequence) = none) :
    ∃ written, journal.insertEvents (envelopeEvents spec transactionId at_ after data) =
      .ok written := by
  induction data generalizing journal after with
  | nil => exact ⟨journal, rfl⟩
  | cons entry rest ih =>
    let event : WorkflowEventV1 :=
      { eventId := eventIdOf transactionId (after + 1)
        workflowId := spec.workflowId
        runId := spec.runId
        sequence := after + 1
        occurredAt := at_
        causationId := some transactionId
        data := entry }
    have free := sequences (after + 1) (Nat.lt_succ_self after)
    cases inserted : journal.events.insert (spec.workflowId, after + 1) event with
    | none =>
      have present := Table.contains_of_insert_eq_none inserted
      rw [Table.contains, free] at present
      cases present
    | some events =>
      have unused : (!journal.events.values.any fun other =>
          other.eventId = eventIdOf transactionId (after + 1)) = true := by
        rw [Bool.not_eq_true', List.any_eq_false]
        intro other member
        simpa using ids other member (after + 1) (Nat.lt_succ_self after)
      have first : journal.insertEvent event = .ok { journal with events } := by
        simp only [Journal.insertEvent, event, bind_eq_ok, ensure_eq_ok, orError_eq_ok, pure_eq_ok]
        exact ⟨(), known, (), unused, events, inserted, rfl⟩
      obtain ⟨written, others⟩ := @ih { journal with events } (after + 1) known
        (fun other member sequence beyond => by
          rw [Table.values_of_insert inserted, List.mem_append, List.mem_singleton] at member
          rcases member with old | rfl
          · exact ids other old sequence (by omega)
          · intro same
            have equal := eventIdOf_sequence same
            omega)
        (fun sequence beyond => by
          rw [Table.get?_of_insert inserted, if_neg]
          · exact sequences sequence (by omega)
          · intro same
            have equal := (Prod.mk.inj same).2
            omega)
      exact ⟨written, by
        rw [envelopeEvents, Journal.insertEvents, foldlM_cons_eq_ok]
        exact ⟨_, first, others⟩⟩

end Inserting

/-! ## Transactions of a run -/

/-- What holds of the journal after every run. -/
structure Journal.Orderly (journal : Journal) : Prop where
  agrees : journal.Agrees
  attributed : journal.Attributed
  keyed : journal.Keyed

theorem StoreCall.run_orderly (calls : List StoreCall) :
    (StoreCall.run .empty calls).journal.Orderly where
  agrees := StoreCall.run_agrees calls
  attributed := StoreCall.run_attributed calls
  keyed := (StoreCall.run_steps calls).keyed Journal.empty_keyed

theorem Journal.Steps.orderly {journal written : Journal} (steps : Journal.Steps journal written)
    (orderly : journal.Orderly) : written.Orderly where
  agrees := (steps.progress orderly.agrees).agrees
  attributed := steps.attributed orderly.attributed
  keyed := steps.keyed orderly.keyed

section Accepting

variable {journal : Journal} {workflowId transactionId : String} {at_ : Timestamp}
  {current content : WorkflowProjectionV1} {data : List WorkflowEventDataV1}

theorem Journal.Orderly.distinctIds (orderly : journal.Orderly)
    (loaded : journal.loadProjection workflowId = .ok current) : DistinctIds current := by
  obtain ⟨row, stored, rfl⟩ := Journal.loadProjection_eq_ok.mp loaded
  exact reduced_distinctIds (orderly.agrees.reduced workflowId row stored)

theorem Journal.Orderly.free (orderly : journal.Orderly)
    (loaded : journal.loadProjection workflowId = .ok current) {sequence : Nat}
    (beyond : current.sequence < sequence) : journal.events.get? (workflowId, sequence) = none := by
  obtain ⟨row, stored, rfl⟩ := Journal.loadProjection_eq_ok.mp loaded
  cases found : journal.events.get? (workflowId, sequence) with
  | none => rfl
  | some event =>
    have member := journal.events.mem_rows_iff.mpr found
    have key := orderly.keyed _ member
    have owner : workflowId = event.workflowId := (Prod.mk.inj key).1
    have position : sequence = event.sequence := (Prod.mk.inj key).2
    have logged : event ∈ journal.log workflowId :=
      List.mem_filter.mpr ⟨List.mem_map_of_mem member, by simpa using owner.symm⟩
    obtain ⟨sequences, last⟩ :=
      reduceWorkflowEventsV1_sequences (orderly.agrees.reduced workflowId row stored)
    have inside : event.sequence ∈ (journal.log workflowId).map (·.sequence) :=
      List.mem_map_of_mem logged
    rw [sequences, List.mem_range'_1] at inside
    omega

/-- **Data that apply are accepted under a new transaction id.** -/
theorem Journal.Orderly.applyEvents_accepts (orderly : journal.Orderly)
    (loaded : journal.loadProjection workflowId = .ok current)
    (applies : Applies current data content) (plain : ∀ spec, .workflowCreated spec ∉ data)
    (sealable : Sealable current transactionId at_ data.length)
    (unused : journal.transactions.get? transactionId = none) :
    ∃ next written, journal.applyEvents current transactionId data at_ = .ok (next, written) ∧
      next = content.restamped (current.sequence + data.length) next.updatedAt ∧
      ∃ recorded, (written.saveProjection next).recordTransaction transactionId next =
        .ok recorded := by
  obtain ⟨row, stored, same⟩ := Journal.loadProjection_eq_ok.mp loaded
  have owner := orderly.agrees.owner workflowId row stored
  rw [same] at owner
  have specOwner : current.spec.workflowId = workflowId := sealable.workflowId.trans owner
  obtain ⟨next, folded, made⟩ := applies.enveloped plain sealable.workflowId sealable.runId
    sealable.clock sealable.ids
  obtain ⟨written, inserted⟩ := @Journal.insertEvents_accepts journal transactionId
    current.spec at_ data current.sequence
    (by
      rw [specOwner]
      exact journal.workflows.contains_iff.mpr ⟨row, stored⟩)
    (fun other member sequence _ equal => by
      obtain ⟨cause, _, recorded, id⟩ := orderly.attributed.caused other member
      rw [id] at equal
      rw [eventIdOf_inj equal, Table.contains, unused] at recorded
      cases recorded)
    (fun sequence beyond => by
      rw [specOwner]
      exact orderly.free loaded beyond)
  refine ⟨next, written, ?_, made, ?_⟩
  · simp only [Journal.applyEvents, bind_eq_ok, pure_eq_ok]
    exact ⟨next, folded, written, inserted, rfl⟩
  · obtain ⟨_, transactions, _, _⟩ := Journal.insertEvents_ok inserted
    cases record : written.transactions.insert transactionId next with
    | none =>
      have present := Table.contains_of_insert_eq_none record
      rw [transactions, Table.contains, unused] at present
      cases present
    | some table =>
      refine ⟨{ written.saveProjection next with transactions := table }, ?_⟩
      simp only [Journal.recordTransaction, bind_eq_ok, orError_eq_ok, pure_eq_ok]
      exact ⟨table, record, rfl⟩

end Accepting

/-- A transaction that only appends events, settles reservations and withdraws tasks. -/
structure PlainTransaction (input : WorkflowTransactionV1) : Prop where
  enqueueTasks : input.enqueueTasks = []
  outbox : input.outbox = []
  timers : input.timers = []
  humanTasks : input.humanTasks = []
  effectReceipts : input.effectReceipts = []
  messages : input.messages = []
  acknowledgeTask : input.acknowledgeTask = none
  uncreated : ∀ spec, .workflowCreated spec ∉ input.events

/-- **A plain transaction under a new id is accepted when its events apply and its tables are
accepted.** -/
theorem PlainTransaction.accepted {store : AuthorityStore} {input : WorkflowTransactionV1}
    {current content : WorkflowProjectionV1} {retired : Table String TaskRow}
    {settled : Table (String × String) WorkflowEffectReservationV1}
    (plain : PlainTransaction input) (orderly : store.journal.Orderly)
    (loaded : store.journal.loadProjection input.workflowId = .ok current)
    (valid : (authoritySafeId input.transactionId && authoritySafeId input.workflowId &&
      nonNegativeInteger input.expectedSequence && input.occurredAt.valid) = true)
    (unused : store.journal.transactions.get? input.transactionId = none)
    (sequence : (current.sequence : Int) = input.expectedSequence)
    (applies : Applies current input.events content)
    (sealable : Sealable current input.transactionId input.occurredAt input.events.length)
    (settles : input.effectReservationTerminal.toList.foldlM
      (settleReservation input.workflowId input.occurredAt) store.effectReservations =
        .ok settled)
    (retires : input.cancelReadyTasks.foldlM
      (cancelReadyTask input.workflowId input.occurredAt) store.tasks = .ok retired) :
    ∃ next recorded, transact store input = .ok (next, { store with
        journal := recorded
        tasks := retired
        effectReservations := settled }) ∧
      next = content.restamped (current.sequence + input.events.length) next.updatedAt ∧
      Appended store.journal recorded input.workflowId input.transactionId input.occurredAt
        input.events current next := by
  obtain ⟨next, written, applied, made, recorded, record⟩ :=
    orderly.applyEvents_accepts loaded applies plain.uncreated sealable unused
  refine ⟨next, recorded, ?_, made, .of_parts loaded applied record⟩
  have fresh : transactFresh store input = .ok (next, { store with
      journal := recorded
      tasks := retired
      effectReservations := settled }) := by
    simp only [transactFresh, plain.enqueueTasks, plain.outbox, plain.timers, plain.humanTasks,
      plain.effectReceipts, plain.messages, plain.acknowledgeTask, bind_eq_ok, ensure_eq_ok,
      pure_eq_ok]
    exact ⟨current, loaded, (), by simpa using sequence, (next, written), applied, _, rfl, _, rfl,
      _, rfl, _, rfl, _, rfl, _, rfl, settled, settles, _, rfl, retired, retires, recorded, record,
      rfl⟩
  simp only [transact, bind_eq_ok, ensure_eq_ok, Journal.transactionProjection]
  refine ⟨(), valid, ?_⟩
  rw [unused]
  exact fresh

end Praxis.Workflow
