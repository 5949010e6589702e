import Praxis.Foundations.Blocks
import Praxis.Durable.JournalProgress

/-!
# Steps of the journal

The journal is written in steps: the events of one transaction are appended to a workflow, or a
workflow is stored with its first events. Every operation of the authority is a sequence of such
steps, so that what one step keeps holds after every run.

Each step writes under a transaction id that was not recorded before. Every event therefore
belongs to a recorded transaction, its id is made from that transaction and its sequence, and
the events of one transaction stand together in the log of their workflow
(`Journal.Attributed`).
-/

namespace Praxis.Workflow

set_option autoImplicit false

open Praxis.Foundations

/-- A new workflow was stored with its first events, of which the first holds its
specification. -/
structure Created (before after : Journal) (spec : WorkflowSpecV1) (transactionId : String)
    (rest : List WorkflowEventDataV1) (initial next : WorkflowProjectionV1) : Prop where
  start : initialWorkflowProjectionV1 spec = .ok initial
  folded : (envelopeEvents spec transactionId spec.createdAt 0
    (.workflowCreated spec :: rest)).foldlM applyWorkflowEventV1 initial = .ok next
  written : ∃ stored logged, before.insertWorkflow spec next = .ok stored ∧
    stored.insertEvents (envelopeEvents spec transactionId spec.createdAt 0
      (.workflowCreated spec :: rest)) = .ok logged ∧
    logged.recordTransaction transactionId next = .ok after

inductive Journal.Step (before after : Journal) : Prop
  | appended {workflowId transactionId : String} {at_ : Timestamp}
      {data : List WorkflowEventDataV1} {current next : WorkflowProjectionV1}
      (write : Appended before after workflowId transactionId at_ data current next)
  | created {spec : WorkflowSpecV1} {transactionId : String} {rest : List WorkflowEventDataV1}
      {initial next : WorkflowProjectionV1}
      (write : Created before after spec transactionId rest initial next)

/-- Any number of writes. -/
abbrev Journal.Steps : Journal → Journal → Prop := Relation.ReflTransGen Journal.Step

section Steps

variable {journal written : Journal}

theorem Appended.steps {workflowId transactionId : String} {at_ : Timestamp}
    {data : List WorkflowEventDataV1} {current next : WorkflowProjectionV1}
    (appended : Appended journal written workflowId transactionId at_ data current next) :
    Journal.Steps journal written :=
  .single (.appended appended)

/-- **One step is progress.** -/
theorem Journal.Step.progress (step : Journal.Step journal written) (agrees : journal.Agrees) :
    Journal.Progress journal written := by
  cases step with
  | appended write => exact write.progress agrees
  | @created spec _ _ _ _ write =>
    obtain ⟨stored, logged, row, inserted, recorded⟩ := write.written
    obtain ⟨workflows, events, _⟩ := Journal.recordTransaction_ok recorded
    obtain ⟨kept, _, _, _⟩ := Journal.insertEvents_ok inserted
    have load := Journal.loadProjection_insertWorkflow row (workflows.trans kept)
    refine ⟨(agrees.create rfl write.start write.folded row inserted).of_same workflows events,
      fun workflowId projection loaded => ⟨projection, ?_, .refl projection⟩⟩
    rw [(load workflowId).1, if_neg, loaded]
    rintro rfl
    exact (load spec.workflowId).2 projection loaded

theorem Journal.Steps.progress (steps : Journal.Steps journal written)
    (agrees : journal.Agrees) : Journal.Progress journal written := by
  induction steps with
  | refl => exact .refl agrees
  | tail _ step ih => exact ih.trans (step.progress ih.agrees)

end Steps

/-! ## Attribution -/

def WorkflowEventV1.CausedBy (transactionId : String) (event : WorkflowEventV1) : Prop :=
  event.causationId = some transactionId

instance (transactionId : String) : DecidablePred (WorkflowEventV1.CausedBy transactionId) :=
  fun event => inferInstanceAs (Decidable (event.causationId = some transactionId))

theorem envelopeEvents_caused {spec : WorkflowSpecV1} {transactionId : String}
    {occurredAt : Timestamp} {data : List WorkflowEventDataV1} :
    ∀ {after : Nat}, ∀ event ∈ envelopeEvents spec transactionId occurredAt after data,
      event.CausedBy transactionId ∧ event.workflowId = spec.workflowId ∧
        event.eventId = eventIdOf transactionId event.sequence := by
  induction data with
  | nil =>
    intro after event member
    cases member
  | cons entry rest ih =>
    intro after event member
    rcases List.mem_cons.mp member with rfl | later
    · exact ⟨rfl, rfl, rfl⟩
    · exact ih event later

/-- Every event belongs to a recorded transaction, and the events of a transaction form one
block of the log. -/
structure Journal.Attributed (journal : Journal) : Prop where
  caused : ∀ event ∈ journal.events.values, ∃ transactionId,
    event.CausedBy transactionId ∧ journal.transactions.contains transactionId = true ∧
      event.eventId = eventIdOf transactionId event.sequence
  blocks : ∀ workflowId transactionId, ∃ block,
    BlockOf (WorkflowEventV1.CausedBy transactionId) (journal.log workflowId) block

section Attribution

variable {journal written : Journal}

theorem Journal.empty_attributed : Journal.empty.Attributed where
  caused := fun _ member => nomatch member
  blocks := fun _ _ => ⟨[], .of_none fun _ member => nomatch member⟩

theorem Journal.Step.envelope (step : Journal.Step journal written) :
    ∃ spec transactionId at_ after data projection,
      written.events.values =
        journal.events.values ++ envelopeEvents spec transactionId at_ after data ∧
      journal.transactions.insert transactionId projection = some written.transactions := by
  cases step with
  | appended write => exact ⟨_, _, _, _, _, _, write.events, write.recorded⟩
  | @created spec transactionId rest _ next write =>
    obtain ⟨stored, logged, row, inserted, recorded⟩ := write.written
    obtain ⟨_, events, record⟩ := Journal.recordTransaction_ok recorded
    obtain ⟨_, transactions, values, _⟩ := Journal.insertEvents_ok inserted
    simp only [Journal.insertWorkflow, bind_eq_ok, orError_eq_ok, pure_eq_ok] at row
    obtain ⟨_, _, rfl⟩ := row
    refine ⟨spec, transactionId, spec.createdAt, 0, .workflowCreated spec :: rest, next, ?_, ?_⟩
    · rw [events]
      exact values
    · rw [← transactions]
      exact record

theorem Journal.Attributed.unrecorded (attributed : journal.Attributed) {transactionId : String}
    (absent : journal.transactions.get? transactionId = none) :
    ∀ event ∈ journal.events.values, ¬ event.CausedBy transactionId := by
  intro event member caused
  obtain ⟨other, cause, recorded, _⟩ := attributed.caused event member
  obtain rfl : transactionId = other := Option.mem_unique caused cause
  rw [Table.contains, absent] at recorded
  cases recorded

theorem Journal.log_subset {workflowId : String} :
    ∀ event ∈ journal.log workflowId, event ∈ journal.events.values :=
  fun _ member => (List.mem_filter.mp member).1

/-- **A step keeps attribution.** -/
theorem Journal.Step.attributed (step : Journal.Step journal written)
    (attributed : journal.Attributed) : written.Attributed := by
  obtain ⟨spec, transactionId, at_, after, data, projection, values, recorded⟩ := step.envelope
  obtain ⟨absent, _⟩ := journal.transactions.insert_eq_some_iff.mp recorded
  have transactions := Table.get?_of_insert recorded
  have caused := @envelopeEvents_caused spec transactionId at_ data after
  constructor
  · intro event member
    rw [values, List.mem_append] at member
    rcases member with old | new
    · obtain ⟨other, cause, stored, id⟩ := attributed.caused event old
      refine ⟨other, cause, ?_, id⟩
      rw [Table.contains, transactions]
      split
      · rfl
      · exact stored
    · obtain ⟨cause, _, id⟩ := caused event new
      refine ⟨transactionId, cause, ?_, id⟩
      rw [Table.contains, transactions, if_pos rfl]
      rfl
  · intro workflowId other
    rw [Journal.log_append values]
    by_cases same : other = transactionId
    · subst same
      refine ⟨_, .append_block (fun event member => ?_) fun event member => ?_⟩
      · exact attributed.unrecorded absent event (Journal.log_subset event member)
      · exact (caused event (List.mem_filter.mp member).1).1
    · obtain ⟨block, here⟩ := attributed.blocks workflowId other
      refine ⟨block, here.append_clear fun event member cause => ?_⟩
      have own := (caused event (List.mem_filter.mp member).1).1
      exact same (Option.mem_unique cause own)

theorem Journal.Steps.attributed (steps : Journal.Steps journal written)
    (attributed : journal.Attributed) : written.Attributed := by
  induction steps with
  | refl => exact attributed
  | tail _ step ih => exact step.attributed ih

end Attribution

end Praxis.Workflow
