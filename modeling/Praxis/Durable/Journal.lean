import Praxis.Foundations.Table
import Praxis.Durable.WellFormed

/-!
# The journal of the authority

The authority keeps three copies of a workflow: the log of its events, the projection that
reducing the log yields, and columns of the projection that queries filter by. This module
is the part of the store that holds them, with the table of transactions that have been
applied, and the functions that every operation of the authority writes them through.

`Journal.Agrees` says that the copies agree for every stored workflow. Appending events to
a workflow keeps it (`Appended.agrees`), and so does storing a new workflow (`Agrees.create`).
-/

namespace Praxis.Workflow

set_option autoImplicit false

open Praxis.Foundations

/-! ## Tables -/

/-- A row of `workflows`: the projection, and the columns that repeat fields of it. -/
structure WorkflowRow where
  sessionId : String
  revision : Int
  sequence : Nat
  state : WorkflowStateV1
  projection : WorkflowProjectionV1
  updatedAt : Timestamp

/-- The tables `workflows`, `workflow_events` and `workflow_transactions`. -/
structure Journal where
  workflows : Table String WorkflowRow
  events : Table (String × Nat) WorkflowEventV1
  transactions : Table String WorkflowProjectionV1

def Journal.empty : Journal where
  workflows := .empty
  events := .empty
  transactions := .empty

/-! ## Reading and writing -/

def eventIdOf (transactionId : String) (sequence : Nat) : String :=
  transactionId ++ ":" ++ toString sequence

variable {separator : Char}

theorem not_mem_toString (notDigit : separator.isDigit = false) (n : Nat) :
    separator ∉ (toString n).toList := by
  intro member
  rw [Nat.toString_eq_repr, Nat.toList_repr] at member
  have digit := Nat.isDigit_of_mem_toDigits (by decide) (by decide) member
  rw [notDigit] at digit
  cases digit

theorem append_separator_inj {a b c d : List Char} (last : separator ∉ b)
    (last' : separator ∉ d) (same : a ++ separator :: b = c ++ separator :: d) : a = c ∧ b = d := by
  rcases List.append_eq_append_iff.mp same with ⟨middle, rfl, rest⟩ | ⟨middle, rfl, rest⟩
  · cases middle with
    | nil => simpa using rest
    | cons first others =>
      obtain ⟨_, rfl⟩ := List.cons.inj rest
      simp at last
  · cases middle with
    | nil => simpa [eq_comm] using rest
    | cons first others =>
      obtain ⟨_, rfl⟩ := List.cons.inj rest
      simp at last'

theorem eventIdOf_inj {transactionId other : String} {sequence otherSequence : Nat}
    (same : eventIdOf transactionId sequence = eventIdOf other otherSequence) :
    transactionId = other := by
  have characters := congrArg String.toList same
  simp only [eventIdOf, String.toList_append, List.append_assoc] at characters
  exact String.toList_injective (append_separator_inj (not_mem_toString rfl _)
    (not_mem_toString rfl _) characters).1

/-- Events in the envelope of one transaction, with the sequences after the given one. -/
def envelopeEvents (spec : WorkflowSpecV1) (transactionId : String) (occurredAt : Timestamp) :
    Nat → List WorkflowEventDataV1 → List WorkflowEventV1
  | _, [] => []
  | after, entry :: rest =>
    { eventId := eventIdOf transactionId (after + 1)
      workflowId := spec.workflowId
      runId := spec.runId
      sequence := after + 1
      occurredAt
      causationId := some transactionId
      data := entry } :: envelopeEvents spec transactionId occurredAt (after + 1) rest

namespace Journal

variable (journal : Journal)

def loadProjection (workflowId : String) : Except WorkflowError WorkflowProjectionV1 :=
  orError .workflowNotFound ((journal.workflows.get? workflowId).map (·.projection))

def transactionProjection (transactionId : String) : Option WorkflowProjectionV1 :=
  journal.transactions.get? transactionId

/-- One row of `workflow_events`: the workflow exists, the event id is unique, and so is the
sequence within the workflow. -/
def insertEvent (event : WorkflowEventV1) : Except WorkflowError Journal := do
  ensure (journal.workflows.contains event.workflowId) .workflowPersistenceFailed
  ensure (!journal.events.values.any fun other => other.eventId = event.eventId)
    .workflowPersistenceFailed
  let events ← orError .workflowPersistenceFailed
    (journal.events.insert (event.workflowId, event.sequence) event)
  return { journal with events }

def insertEvents (events : List WorkflowEventV1) : Except WorkflowError Journal :=
  events.foldlM insertEvent journal

def saveProjection (projection : WorkflowProjectionV1) : Journal :=
  { journal with
    workflows := journal.workflows.modify projection.workflowId fun row =>
      { row with
        revision := projection.revision
        sequence := projection.sequence
        state := projection.state
        projection
        updatedAt := projection.updatedAt } }

def recordTransaction (transactionId : String) (projection : WorkflowProjectionV1) :
    Except WorkflowError Journal := do
  let transactions ← orError .workflowPersistenceFailed
    (journal.transactions.insert transactionId projection)
  return { journal with transactions }

/-- Apply the events of one transaction to the projection they continue, and insert them. -/
def applyEvents (current : WorkflowProjectionV1) (transactionId : String)
    (data : List WorkflowEventDataV1) (occurredAt : Timestamp) :
    Except WorkflowError (WorkflowProjectionV1 × Journal) := do
  let events := envelopeEvents current.spec transactionId occurredAt current.sequence data
  let projection ← events.foldlM applyWorkflowEventV1 current
  let inserted ← journal.insertEvents events
  return (projection, inserted)

def appendInternalEvents (workflowId transactionId : String) (at_ : Timestamp)
    (data : List WorkflowEventDataV1) :
    Except WorkflowError (WorkflowProjectionV1 × Journal) := do
  let current ← journal.loadProjection workflowId
  let (projection, inserted) ← journal.applyEvents current transactionId data at_
  let recorded ← (inserted.saveProjection projection).recordTransaction transactionId projection
  return (projection, recorded)

/-- The row of a new workflow. -/
def insertWorkflow (spec : WorkflowSpecV1) (projection : WorkflowProjectionV1) :
    Except WorkflowError Journal := do
  let workflows ← orError .workflowPersistenceFailed
    (journal.workflows.insert spec.workflowId
      { sessionId := spec.sessionId
        revision := projection.revision
        sequence := projection.sequence
        state := projection.state
        projection
        updatedAt := projection.updatedAt })
  return { journal with workflows }

/-- The events of a workflow in the order in which they were inserted. -/
def log (workflowId : String) : List WorkflowEventV1 :=
  journal.events.values.filter fun event => event.workflowId = workflowId

end Journal

/-! ## What an accepted write does -/

section Writes

variable {journal written : Journal}

variable {projection : WorkflowProjectionV1} {events : List WorkflowEventV1}
  {workflowId transactionId : String}

theorem Journal.loadProjection_eq_ok :
    journal.loadProjection workflowId = .ok projection ↔
      ∃ row, journal.workflows.get? workflowId = some row ∧ row.projection = projection := by
  simp [Journal.loadProjection, orError_eq_ok]

theorem Journal.insertEvent_ok {event : WorkflowEventV1}
    (inserted : journal.insertEvent event = .ok written) :
    written.workflows = journal.workflows ∧ written.transactions = journal.transactions ∧
      written.events.values = journal.events.values ++ [event] ∧
      journal.workflows.contains event.workflowId = true := by
  simp only [Journal.insertEvent, bind_eq_ok, ensure_eq_ok, orError_eq_ok, pure_eq_ok] at inserted
  obtain ⟨_, known, _, _, events, stored, rfl⟩ := inserted
  exact ⟨rfl, rfl, Table.values_of_insert stored, known⟩

theorem Journal.insertEvents_ok (inserted : journal.insertEvents events = .ok written) :
    written.workflows = journal.workflows ∧ written.transactions = journal.transactions ∧
      written.events.values = journal.events.values ++ events ∧
      ∀ event ∈ events, journal.workflows.contains event.workflowId = true := by
  induction events generalizing journal with
  | nil =>
    obtain rfl := foldlM_nil_eq_ok.mp inserted
    simp
  | cons event rest ih =>
    obtain ⟨middle, first, others⟩ := foldlM_cons_eq_ok.mp inserted
    obtain ⟨workflows, transactions, values, known⟩ := Journal.insertEvent_ok first
    obtain ⟨workflows', transactions', values', known'⟩ := ih others
    refine ⟨workflows'.trans workflows, transactions'.trans transactions, ?_, ?_⟩
    · rw [values', values, List.append_assoc, List.singleton_append]
    · rw [workflows] at known'
      exact List.forall_mem_cons.mpr ⟨known, known'⟩

theorem Journal.insertEvents_rows (inserted : journal.insertEvents events = .ok written) :
    written.events.rows = journal.events.rows ++
      events.map fun event => ((event.workflowId, event.sequence), event) := by
  induction events generalizing journal with
  | nil =>
    obtain rfl := foldlM_nil_eq_ok.mp inserted
    simp
  | cons event rest ih =>
    obtain ⟨middle, first, others⟩ := foldlM_cons_eq_ok.mp inserted
    simp only [Journal.insertEvent, bind_eq_ok, ensure_eq_ok, orError_eq_ok, pure_eq_ok] at first
    obtain ⟨_, _, _, _, table, stored, rfl⟩ := first
    rw [ih others, (journal.events.insert_eq_some_iff.mp stored).2, List.map_cons,
      List.append_assoc, List.singleton_append]

theorem Journal.recordTransaction_ok
    (recorded : journal.recordTransaction transactionId projection = .ok written) :
    written.workflows = journal.workflows ∧ written.events = journal.events ∧
      journal.transactions.insert transactionId projection = some written.transactions := by
  simp only [Journal.recordTransaction, bind_eq_ok, orError_eq_ok, pure_eq_ok] at recorded
  obtain ⟨transactions, stored, rfl⟩ := recorded
  exact ⟨rfl, rfl, stored⟩

theorem Journal.log_append
    (appended : written.events.values = journal.events.values ++ events) : written.log workflowId =
      journal.log workflowId ++ events.filter fun event => event.workflowId = workflowId := by
  rw [Journal.log, appended, List.filter_append, Journal.log]

theorem Journal.applyEvents_ok {current next : WorkflowProjectionV1}
    {data : List WorkflowEventDataV1} {occurredAt : Timestamp}
    (applied : journal.applyEvents current transactionId data occurredAt = .ok (next, written)) :
    (envelopeEvents current.spec transactionId occurredAt current.sequence data).foldlM
        applyWorkflowEventV1 current = .ok next ∧
      journal.insertEvents
        (envelopeEvents current.spec transactionId occurredAt current.sequence data) =
        .ok written := by
  simp only [Journal.applyEvents, bind_eq_ok, pure_eq_ok, Prod.mk.injEq] at applied
  obtain ⟨projection, folded, inserted, stored, rfl, rfl⟩ := applied
  exact ⟨folded, stored⟩

/-- The events of one transaction were appended to a workflow: its projection went from
`current` to `next`. -/
structure Appended (before after : Journal) (workflowId transactionId : String)
    (at_ : Timestamp) (data : List WorkflowEventDataV1) (current next : WorkflowProjectionV1) :
    Prop where
  loaded : before.loadProjection workflowId = .ok current
  folded : (envelopeEvents current.spec transactionId at_ current.sequence data).foldlM
    applyWorkflowEventV1 current = .ok next
  workflows : after.workflows = (before.saveProjection next).workflows
  events : after.events.values = before.events.values ++
    envelopeEvents current.spec transactionId at_ current.sequence data
  rows : after.events.rows = before.events.rows ++
    (envelopeEvents current.spec transactionId at_ current.sequence data).map fun event =>
      ((event.workflowId, event.sequence), event)
  recorded : before.transactions.insert transactionId next = some after.transactions

section Append

variable {workflowId transactionId : String} {at_ : Timestamp}
  {data : List WorkflowEventDataV1} {current next : WorkflowProjectionV1} {middle : Journal}

theorem Appended.of_parts (loaded : journal.loadProjection workflowId = .ok current)
    (applied : journal.applyEvents current transactionId data at_ = .ok (next, middle))
    (recorded : (middle.saveProjection next).recordTransaction transactionId next = .ok written) :
    Appended journal written workflowId transactionId at_ data current next := by
  obtain ⟨folded, inserted⟩ := Journal.applyEvents_ok applied
  obtain ⟨workflows, transactions, values, _⟩ := Journal.insertEvents_ok inserted
  obtain ⟨saved, events, record⟩ := Journal.recordTransaction_ok recorded
  refine ⟨loaded, folded, ?_, ?_, ?_, ?_⟩
  · rw [saved, Journal.saveProjection, Journal.saveProjection, workflows]
  · rw [events]
    exact values
  · rw [events]
    have rows := Journal.insertEvents_rows inserted
    exact rows
  · rw [← transactions]
    exact record

theorem Journal.appendInternalEvents_ok
    (appended : journal.appendInternalEvents workflowId transactionId at_ data =
      .ok (next, written)) :
    ∃ current, Appended journal written workflowId transactionId at_ data current next := by
  simp only [Journal.appendInternalEvents, bind_eq_ok, pure_eq_ok, Prod.mk.injEq,
    Prod.exists] at appended
  obtain ⟨current, loaded, _, inserted, applied, recorded, record, rfl, rfl⟩ := appended
  exact ⟨current, .of_parts loaded applied record⟩

theorem Appended.log_eq
    (appended : Appended journal written workflowId transactionId at_ data current next)
    (owners : ∀ event ∈ envelopeEvents current.spec transactionId at_ current.sequence data,
      event.workflowId = workflowId) (other : String) : written.log other = journal.log other ++
      if other = workflowId then
        envelopeEvents current.spec transactionId at_ current.sequence data
      else [] := by
  rw [Journal.log_append appended.events]
  by_cases same : other = workflowId
  · rw [if_pos same, List.filter_eq_self.mpr]
    intro event member
    simpa [same] using owners event member
  · rw [if_neg same, List.filter_eq_nil_iff.mpr]
    intro event member
    simpa [owners event member] using fun equal => same equal.symm

theorem Appended.get?_workflows {row : WorkflowRow}
    (appended : Appended journal written workflowId transactionId at_ data current next)
    (stored : journal.workflows.get? workflowId = some row)
    (identity : next.workflowId = workflowId) (other : String) :
    written.workflows.get? other =
      if other = workflowId then
        some { row with
          revision := next.revision
          sequence := next.sequence
          state := next.state
          projection := next
          updatedAt := next.updatedAt }
      else journal.workflows.get? other := by
  rw [appended.workflows, Journal.saveProjection, Table.get?_modify, identity]
  split
  · rw [stored]
    rfl
  · rfl

end Append

end Writes

/-! ## Agreement of the copies -/

/-- For every stored workflow, the log reduces to the projection and the columns repeat its
fields; no event belongs to a workflow that is not stored. -/
structure Journal.Agrees (journal : Journal) : Prop where
  owner : ∀ workflowId row, journal.workflows.get? workflowId = some row →
    row.projection.workflowId = workflowId
  reduced : ∀ workflowId row, journal.workflows.get? workflowId = some row →
    reduceWorkflowEventsV1 (journal.log workflowId) = .ok row.projection
  columns : ∀ workflowId row, journal.workflows.get? workflowId = some row →
    row.revision = row.projection.revision ∧ row.sequence = row.projection.sequence ∧
      row.state = row.projection.state
  known : ∀ event ∈ journal.events.values,
    journal.workflows.contains event.workflowId = true

section Agreement

variable {journal written : Journal} {workflowId transactionId : String} {at_ : Timestamp}
  {data : List WorkflowEventDataV1} {current next : WorkflowProjectionV1}

theorem Journal.empty_agrees : Journal.empty.Agrees where
  owner := by simp [Journal.empty]
  reduced := by simp [Journal.empty]
  columns := by simp [Journal.empty]
  known := by simp [Journal.empty, Table.values, Table.empty]

theorem Journal.Agrees.of_same (agrees : journal.Agrees)
    (workflows : written.workflows = journal.workflows)
    (events : written.events = journal.events) : written.Agrees := by
  have log : ∀ workflowId, written.log workflowId = journal.log workflowId := fun workflowId => by
    rw [Journal.log, events, Journal.log]
  constructor
  · exact workflows ▸ agrees.owner
  · intro workflowId row stored
    rw [log]
    exact agrees.reduced workflowId row (workflows ▸ stored)
  · exact workflows ▸ agrees.columns
  · rw [workflows, events]
    exact agrees.known

/-- **Appending events to a workflow keeps the copies in agreement.** -/
theorem Appended.agrees
    (appended : Appended journal written workflowId transactionId at_ data current next)
    (agrees : journal.Agrees) : written.Agrees := by
  obtain ⟨row, stored, rfl⟩ := Journal.loadProjection_eq_ok.mp appended.loaded
  have owner := agrees.owner workflowId row stored
  obtain ⟨⟨identity, _, _⟩, _, _, owners⟩ := foldlM_apply_envelopes appended.folded
  rw [owner] at identity owners
  have log := appended.log_eq owners
  have rows := appended.get?_workflows stored identity
  constructor
  · intro other found present
    rw [rows] at present
    split at present
    · rename_i same
      obtain rfl := Option.some.inj present
      exact identity.trans same.symm
    · exact agrees.owner other found present
  · intro other found present
    rw [rows] at present
    rw [log other]
    split at present
    · rename_i same
      obtain rfl := Option.some.inj present
      subst same
      rw [if_pos rfl, reduceWorkflowEventsV1_append (agrees.reduced _ row stored)]
      exact appended.folded
    · rename_i different
      rw [if_neg different, List.append_nil]
      exact agrees.reduced other found present
  · intro other found present
    rw [rows] at present
    split at present
    · obtain rfl := Option.some.inj present
      exact ⟨rfl, rfl, rfl⟩
    · exact agrees.columns other found present
  · intro event member
    rw [appended.workflows, Journal.saveProjection, Table.contains_modify]
    rw [appended.events, List.mem_append] at member
    rcases member with old | new
    · exact agrees.known event old
    · rw [owners event new, Table.contains, stored]
      rfl

theorem Appended.loadProjection
    (appended : Appended journal written workflowId transactionId at_ data current next)
    (agrees : journal.Agrees) (other : String) : written.loadProjection other =
      if other = workflowId then .ok next else journal.loadProjection other := by
  obtain ⟨row, stored, rfl⟩ := Journal.loadProjection_eq_ok.mp appended.loaded
  obtain ⟨⟨identity, _, _⟩, _, _, _⟩ := foldlM_apply_envelopes appended.folded
  rw [agrees.owner workflowId row stored] at identity
  rw [Journal.loadProjection, appended.get?_workflows stored identity]
  split <;> rfl

/-- **Storing a new workflow with its first events keeps the copies in agreement.** -/
theorem Journal.Agrees.create (agrees : journal.Agrees) {middle : Journal} {spec : WorkflowSpecV1}
    {initial projection : WorkflowProjectionV1} {event : WorkflowEventV1}
    {rest : List WorkflowEventV1} (created : event.data = .workflowCreated spec)
    (start : initialWorkflowProjectionV1 spec = .ok initial)
    (folded : (event :: rest).foldlM applyWorkflowEventV1 initial = .ok projection)
    (stored : journal.insertWorkflow spec projection = .ok middle)
    (inserted : middle.insertEvents (event :: rest) = .ok written) : written.Agrees := by
  have reduced : reduceWorkflowEventsV1 (event :: rest) = .ok projection :=
    reduceWorkflowEventsV1_iff.mpr ⟨event, rest, spec, initial, rfl, created, start, folded⟩
  obtain ⟨⟨identity, _, _⟩, _, _, owners⟩ := foldlM_apply_envelopes folded
  have initialId : initial.workflowId = spec.workflowId := by
    obtain ⟨_, rfl⟩ := initialWorkflowProjectionV1_eq_ok start
    rfl
  rw [initialId] at identity owners
  simp only [Journal.insertWorkflow, bind_eq_ok, orError_eq_ok, pure_eq_ok] at stored
  obtain ⟨table, added, rfl⟩ := stored
  obtain ⟨workflows, _, values, known⟩ := Journal.insertEvents_ok inserted
  have rows := Table.get?_of_insert added
  have absent := ((journal.workflows.insert_eq_some_iff).mp added).1
  -- No event was logged for the new workflow before.
  have fresh : journal.log spec.workflowId = [] := by
    refine List.filter_eq_nil_iff.mpr fun old member => ?_
    have present := agrees.known old member
    simp only [decide_eq_true_eq]
    rintro same
    rw [same, Table.contains, absent] at present
    cases present
  have log : ∀ other, written.log other =
      journal.log other ++ if other = spec.workflowId then event :: rest else [] := by
    intro other
    rw [Journal.log_append values]
    by_cases same : other = spec.workflowId
    · rw [if_pos same, List.filter_eq_self.mpr]
      · rfl
      · intro appended member
        simpa [same] using owners appended member
    · rw [if_neg same, List.filter_eq_nil_iff.mpr]
      · rfl
      · intro appended member
        simpa [owners appended member] using fun equal => same equal.symm
  constructor
  · intro other found present
    rw [workflows, rows] at present
    by_cases same : other = spec.workflowId
    · rw [if_pos same] at present
      obtain rfl := Option.some.inj present
      exact identity.trans same.symm
    · rw [if_neg same] at present
      exact agrees.owner other found present
  · intro other found present
    rw [workflows, rows] at present
    rw [log other]
    by_cases same : other = spec.workflowId
    · rw [if_pos same] at present
      obtain rfl := Option.some.inj present
      rw [if_pos same, same, fresh, List.nil_append]
      exact reduced
    · rw [if_neg same] at present
      rw [if_neg same, List.append_nil]
      exact agrees.reduced other found present
  · intro other found present
    rw [workflows, rows] at present
    by_cases same : other = spec.workflowId
    · rw [if_pos same] at present
      obtain rfl := Option.some.inj present
      exact ⟨rfl, rfl, rfl⟩
    · rw [if_neg same] at present
      exact agrees.columns other found present
  · intro logged member
    rw [workflows]
    rw [values, List.mem_append] at member
    rcases member with old | new
    · have present := agrees.known logged old
      rw [Table.contains, Option.isSome_iff_exists] at present ⊢
      obtain ⟨row, found⟩ := present
      rw [rows]
      split
      · exact ⟨_, rfl⟩
      · exact ⟨row, found⟩
    · exact known logged new

end Agreement

end Praxis.Workflow
