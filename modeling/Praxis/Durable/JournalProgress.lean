import Praxis.Durable.Histories
import Praxis.Durable.Journal

/-!
# Progress of the journal

What a later journal says about the workflows of an earlier one. A stored projection is
followed by one with a sequence at least as high in which its attempts and its state have moved
along their transitions, and while the sequence is the same the projection is the same
(`Follows`). A transaction that is made from a projection and insists on its sequence therefore
acts on that projection, however much time has passed since it was read.
-/

namespace Praxis.Workflow

set_option autoImplicit false

open Praxis.Foundations

structure Follows (before after : WorkflowProjectionV1) : Prop where
  persists : Persists before after
  sequence : before.sequence ≤ after.sequence
  same : after.sequence = before.sequence → after = before

section Projections

variable {a b c : WorkflowProjectionV1}

theorem Follows.refl (projection : WorkflowProjectionV1) : Follows projection projection :=
  ⟨.refl projection, Nat.le_refl _, fun _ => rfl⟩

theorem Follows.trans (first : Follows a b) (second : Follows b c) : Follows a c where
  persists := first.persists.trans second.persists
  sequence := Nat.le_trans first.sequence second.sequence
  same := fun equal => by
    have low := first.sequence
    have high := second.sequence
    rw [second.same (by omega), first.same (by omega)]

end Projections

/-- What the accepted data of a transaction make of a projection. -/
structure Advances (current : WorkflowProjectionV1) (data : List WorkflowEventDataV1)
    (next : WorkflowProjectionV1) : Prop where
  applies : ∃ content, Applies current data content ∧
    next = content.restamped next.sequence next.updatedAt
  sequence : next.sequence = current.sequence + data.length
  idle : data = [] → next = current

section Advance

variable {current next : WorkflowProjectionV1} {data : List WorkflowEventDataV1}

theorem envelopeEvents_data (spec : WorkflowSpecV1) (transactionId : String)
    (occurredAt : Timestamp) (data : List WorkflowEventDataV1) :
    ∀ after, (envelopeEvents spec transactionId occurredAt after data).map (·.data) = data := by
  induction data with
  | nil => exact fun _ => rfl
  | cons event rest ih =>
    intro after
    rw [envelopeEvents, List.map_cons, ih]

theorem advances_of_events {spec : WorkflowSpecV1} {transactionId : String}
    {occurredAt : Timestamp} {after : Nat}
    (folded : (envelopeEvents spec transactionId occurredAt after data).foldlM
      applyWorkflowEventV1 current = .ok next) : Advances current data next := by
  have events := envelopeEvents_data spec transactionId occurredAt data after
  have length := congrArg List.length events
  rw [List.length_map] at length
  obtain ⟨_, sequence, _, _⟩ := foldlM_apply_envelopes folded
  obtain ⟨content, applies, same⟩ := applies_of_events folded
  rw [events] at applies
  refine ⟨⟨content, applies, same⟩, length ▸ sequence, ?_⟩
  rintro rfl
  exact (foldlM_nil_eq_ok.mp folded).symm

theorem Advances.follows (advances : Advances current data next) : Follows current next := by
  obtain ⟨content, applies, same⟩ := advances.applies
  constructor
  · rw [same]
    exact applies.persists.trans (.of_same ⟨rfl, rfl, rfl⟩ rfl rfl)
  · rw [advances.sequence]
    exact Nat.le_add_right ..
  · intro equal
    have sequence := advances.sequence
    exact advances.idle (List.length_eq_zero_iff.mp (by omega))

end Advance

/-! ## Journals -/

/-- Every workflow of a journal is in a later one, and is followed there. -/
def Journal.Before (before after : Journal) : Prop :=
  ∀ workflowId projection, before.loadProjection workflowId = .ok projection →
    ∃ later, after.loadProjection workflowId = .ok later ∧ Follows projection later

/-- A later journal, whose copies agree. -/
structure Journal.Progress (before after : Journal) : Prop where
  agrees : after.Agrees
  workflows : before.Before after

section Journals

variable {journal middle written : Journal}

theorem Journal.Before.refl (journal : Journal) : Before journal journal :=
  fun _ projection loaded => ⟨projection, loaded, .refl projection⟩

theorem Journal.Before.trans (first : Before journal middle) (second : Before middle written) :
    Before journal written := by
  intro workflowId projection loaded
  obtain ⟨later, there, follows⟩ := first workflowId projection loaded
  obtain ⟨last, found, follows'⟩ := second workflowId later there
  exact ⟨last, found, follows.trans follows'⟩

theorem Journal.Progress.refl (agrees : journal.Agrees) : Progress journal journal :=
  ⟨agrees, .refl journal⟩

theorem Journal.Progress.trans (first : Progress journal middle)
    (second : Progress middle written) : Progress journal written where
  agrees := second.agrees
  workflows := first.workflows.trans second.workflows

variable {workflowId transactionId : String} {at_ : Timestamp} {data : List WorkflowEventDataV1}
  {current next : WorkflowProjectionV1}

section

variable (appended : Appended journal written workflowId transactionId at_ data current next)
include appended

theorem Appended.advances :
    Advances current data next :=
  advances_of_events appended.folded

theorem Appended.log_data
    (agrees : journal.Agrees) (other : String) : (written.log other).map (·.data) =
      (journal.log other).map (·.data) ++ if other = workflowId then data else [] := by
  obtain ⟨row, stored, rfl⟩ := Journal.loadProjection_eq_ok.mp appended.loaded
  obtain ⟨_, _, _, owners⟩ := foldlM_apply_envelopes appended.folded
  rw [agrees.owner workflowId row stored] at owners
  rw [appended.log_eq owners, List.map_append]
  split
  · rw [envelopeEvents_data]
  · rfl

/-- **Appending the events of a transaction is progress.** -/
theorem Appended.progress (agrees : journal.Agrees) : Journal.Progress journal written where
  agrees := appended.agrees agrees
  workflows := fun other projection loaded => by
    rw [appended.loadProjection agrees]
    by_cases same : other = workflowId
    · rw [same, appended.loaded] at loaded
      cases loaded
      exact ⟨next, if_pos same, appended.advances.follows⟩
    · exact ⟨projection, by rw [if_neg same, loaded], .refl projection⟩

end

theorem Journal.loadProjection_insertWorkflow {spec : WorkflowSpecV1}
    {projection : WorkflowProjectionV1}
    (stored : journal.insertWorkflow spec projection = .ok middle)
    (workflows : written.workflows = middle.workflows) (other : String) :
    written.loadProjection other =
        (if other = spec.workflowId then .ok projection else journal.loadProjection other) ∧
      ∀ found, journal.loadProjection spec.workflowId ≠ .ok found := by
  simp only [Journal.insertWorkflow, bind_eq_ok, orError_eq_ok, pure_eq_ok] at stored
  obtain ⟨table, added, rfl⟩ := stored
  have rows := Table.get?_of_insert added
  obtain ⟨absent, _⟩ := (journal.workflows.insert_eq_some_iff).mp added
  refine ⟨?_, fun found => ?_⟩
  · rw [Journal.loadProjection, workflows, rows, Journal.loadProjection]
    split <;> rfl
  · rw [Journal.loadProjection, absent]
    exact fun loaded => by cases loaded

end Journals

end Praxis.Workflow
