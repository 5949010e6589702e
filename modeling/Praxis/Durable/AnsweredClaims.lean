import Praxis.Durable.AcceptedWrites
import Praxis.Durable.ClaimCompleteness

/-!
# Claims that are answered

When a claim is answered with a task: the rows that it reads can be read back, one of its
candidates may be leased, and the events of the lease are accepted (`Leasable`). The first such
candidate is the one that it leases.
-/

namespace Praxis.Workflow

set_option autoImplicit false

open Praxis.Foundations

/-! ## What a claim needs -/

def LeaseWritable (store : AuthorityStore) (workerId : String) (leaseMs : Int) (now : Timestamp)
    (uuid : Uuid) (task : WorkflowTaskV1) : Prop :=
  ∃ expiresAt current content, now.after? leaseMs = some expiresAt ∧
    store.journal.loadProjection task.workflowId = .ok current ∧
    Applies current (leaseEvents task (grantedLease workerId now expiresAt uuid) now) content ∧
    Sealable current ("claim-" ++ task.taskId ++ "-" ++ ("lease-" ++ uuid.text)) now 2 ∧
    store.journal.transactions.get? ("claim-" ++ task.taskId ++ "-" ++ ("lease-" ++ uuid.text)) =
      none

/-- What the state must be for a claim to be answered with a task. -/
structure Leasable (store : AuthorityStore) (workerId : String) (options : ClaimOptionsV1)
    (now : Timestamp) (uuid : Uuid) : Prop where
  worker : authoritySafeId workerId = true
  clock : (now.valid && decide (1000 ≤ options.leaseMs.getD defaultLeaseMs ∧
    options.leaseMs.getD defaultLeaseMs ≤ maxSafeInteger)) = true
  readable : ∃ leased active candidates,
    (store.tasks.values.filter (isLive now)).mapM parseTask = .ok leased ∧
    activeCapacityGroups store.journal (leased.filter fun task => countsCapacity task.kind) =
      .ok active ∧
    (claimCandidates store now).mapM parseTask = .ok candidates
  /-- The first candidate that the call may lease. -/
  waiting : ∃ front row back, claimCandidates store now = front ++ row :: back ∧
    (∀ other ∈ front, ¬ Claimable store options now other) ∧
    Claimable store options now row ∧
    LeaseWritable store workerId (options.leaseMs.getD defaultLeaseMs) now uuid row.task

/-! ## The search -/

section Answering

variable {store next : AuthorityStore} {options : ClaimOptionsV1} {now : Timestamp}

variable {occupied : List String} {active : List (String × ActiveCapacityGroup)}
  {task : WorkflowTaskV1} {row : TaskRow} {journal : Journal}

theorem findClaimable_first {candidates : List WorkflowTaskV1}
    (found : findClaimable journal options occupied active candidates = .ok (some task)) :
    ∃ front back, candidates = front ++ task :: back ∧
      (∀ other ∈ front, mayClaim journal options occupied active other = .ok false) ∧
      mayClaim journal options occupied active task = .ok true := by
  induction candidates with
  | nil => cases found
  | cons candidate rest ih =>
    simp only [findClaimable, bind_eq_ok] at found
    obtain ⟨may, checked, taken⟩ := found
    cases may with
    | true =>
      obtain rfl := Option.some.inj (pure_eq_ok.mp taken)
      exact ⟨[], rest, rfl, by simp, checked⟩
    | false =>
      obtain ⟨front, back, rfl, refused, may⟩ := ih taken
      exact ⟨candidate :: front, back, rfl, List.forall_mem_cons.mpr ⟨checked, refused⟩, may⟩

theorem findClaimable_append {front back : List WorkflowTaskV1}
    (refused : ∀ other ∈ front, mayClaim journal options occupied active other = .ok false)
    (may : mayClaim journal options occupied active task = .ok true) :
    findClaimable journal options occupied active (front ++ task :: back) = .ok (some task) := by
  induction front with
  | nil =>
    rw [List.nil_append, findClaimable, may]
    rfl
  | cons candidate rest ih =>
    obtain ⟨here, others⟩ := List.forall_mem_cons.mp refused
    rw [List.cons_append, findClaimable, here, ok_bind, if_neg (by decide)]
    exact ih others

section

variable (candidate : row ∈ claimCandidates store now)
include candidate

theorem mem_claimCandidates :
    row ∈ store.tasks.values ∧ row.state = .ready ∧ row.task.readyAt.textLe now = true ∧
      ∃ workflow, store.journal.workflows.get? row.task.workflowId = some workflow ∧
        workflow.state = .running := by
  have inside := List.mem_of_mem_take candidate
  rw [List.mem_insertionSort, List.mem_filter] at inside
  obtain ⟨stored, holds⟩ := inside
  simp only [Bool.and_eq_true, beq_iff_eq] at holds
  obtain ⟨workflow, found, running⟩ := Option.any_eq_true _ _ |>.mp holds.2
  exact ⟨stored, holds.1.1, holds.1.2, workflow, found, eq_of_beq running⟩

theorem claimable_of_mayClaim (counted : activeCapacityGroups store.journal
      ((liveTasks store now).filter fun task => countsCapacity task.kind) = .ok active)
    (may : Workflow.mayClaim store.journal options ((liveTasks store now).flatMap (·.conflictKeys))
      active row.task = .ok true) : Claimable store options now row := by
  obtain ⟨stored, ready, _, running⟩ := mem_claimCandidates candidate
  rw [Workflow.mayClaim] at may
  split at may
  · rename_i filters
    simp only [Bool.and_eq_true, Option.all_eq_true, decide_eq_true_eq, List.contains_iff_mem,
      List.all_eq_true] at filters
    obtain ⟨⟨⟨ofWorkflow, ofNode⟩, ofKind⟩, clear⟩ := filters
    simp only [bind_eq_ok, pure_eq_ok, Bool.and_eq_true, Bool.or_eq_true, Bool.not_eq_true'] at may
    obtain ⟨projection, loaded, scheduled, capacity⟩ := may
    refine ⟨stored, ready, running, ofWorkflow, ofNode, ofKind, ?_, projection, loaded,
      scheduled, fun counts => ⟨active, counted, ?_⟩⟩
    · intro task live key member held
      have free := clear key member
      rw [Bool.not_eq_true', ← Bool.not_eq_true, List.contains_iff_mem] at free
      exact free (List.mem_flatMap.mpr ⟨task, live, held⟩)
    · rw [counts] at capacity
      exact capacity.resolve_left Bool.noConfusion
  · cases pure_eq_ok.mp may

theorem candidate_checked :
    ∃ may, Workflow.mayClaim store.journal options occupied active row.task = .ok may := by
  obtain ⟨_, _, _, workflow, found, _⟩ := mem_claimCandidates candidate
  rw [Workflow.mayClaim]
  split
  · have loaded : store.journal.loadProjection row.task.workflowId = .ok workflow.projection :=
      Journal.loadProjection_eq_ok.mpr ⟨workflow, found, rfl⟩
    rw [loaded, ok_bind]
    exact ⟨_, rfl⟩
  · exact ⟨false, rfl⟩

end

/-- **A claim is answered with a task exactly if a candidate may be leased and its lease can be
written.** -/
theorem claimed_iff {workerId : String} {uuid : Uuid} (orderly : store.journal.Orderly) :
    (∃ claimed next, claim store workerId options now uuid = .ok (some claimed, next)) ↔
      Leasable store workerId options now uuid := by
  constructor
  · rintro ⟨claimed, next, answered⟩
    simp only [claim, bind_eq_ok, ensure_eq_ok] at answered
    obtain ⟨_, worker, _, clock, selected, select, taken⟩ := answered
    have found := select
    simp only [selectTask, bind_eq_ok] at found
    obtain ⟨leased, read, active, counted, candidates, parsed, found⟩ := found
    cases selected with
    | none => cases pure_eq_ok.mp taken
    | some task =>
      simp only [bind_eq_ok, orError_eq_ok, leaseTask, pure_eq_ok, Prod.exists] at taken
      obtain ⟨expiresAt, expires, _, _, ⟨_, _, written, _⟩, _⟩ := taken
      obtain ⟨journal, current, _, appended⟩ := appendEvents_ok written
      obtain ⟨content, applies, _⟩ := appended.advances.applies
      have unused := (Table.insert_eq_some_iff _).mp appended.recorded
      refine ⟨worker, clock, ⟨leased, active, candidates, read, counted, parsed⟩, ?_⟩
      obtain ⟨before, behind, split, refused, may⟩ := findClaimable_first found
      obtain rfl := parseTasks_ok read
      rw [parseTasks_ok parsed] at split
      obtain ⟨front, others, rows, rfl, tail⟩ := List.map_eq_append_iff.mp split
      obtain ⟨row, back, rfl, rfl, rfl⟩ := List.map_eq_cons_iff.mp tail
      refine ⟨front, row, back, rows, fun other member claimable => ?_, ?_, ?_⟩
      · have no := refused other.task (List.mem_map_of_mem member)
        have yes := claimable.mayClaim counted
        rw [liveTasks, no] at yes
        cases yes
      · exact claimable_of_mayClaim (by simp [rows]) counted may
      · exact ⟨expiresAt, current, content, expires, appended.loaded, applies,
          sealable_of_folded (by simp [leaseEvents]) appended.folded, unused.1⟩
  · rintro ⟨worker, clock, ⟨leased, active, candidates, read, counted, parsed⟩, front, row, back,
      rows, refused, claimable, expiresAt, current, content, expires, loaded, applies, sealable,
      unused⟩
    obtain rfl := parseTasks_ok read
    have found : selectTask store options now = .ok (some row.task) := by
      rw [selectTask_eq read counted parsed, parseTasks_ok parsed, rows, List.map_append,
        List.map_cons]
      refine findClaimable_append (fun other member => ?_) (claimable.mayClaim counted)
      obtain ⟨candidate, inside, rfl⟩ := List.mem_map.mp member
      have listed : candidate ∈ claimCandidates store now := by
        rw [rows]
        exact List.mem_append_left _ inside
      obtain ⟨may, checked⟩ := candidate_checked listed
      cases may with
      | false => exact checked
      | true => exact absurd (claimable_of_mayClaim listed counted checked) (refused candidate inside)
    obtain ⟨after, written, applied, _, recorded, record⟩ :=
      orderly.applyEvents_accepts loaded applies (by simp [leaseEvents]) sealable unused
    have leases : ∃ claimed last, leaseTask store row.task (grantedLease workerId now expiresAt uuid)
        now = .ok (claimed, last) := by
      simp only [leaseTask, appendEvents, Journal.appendInternalEvents, bind_eq_ok, pure_eq_ok]
      exact ⟨_, _, _, ⟨_, ⟨current, loaded, (after, written), applied, recorded, record, rfl⟩,
        rfl⟩, rfl⟩
    obtain ⟨claimed, last, leases⟩ := leases
    refine ⟨claimed, last, ?_⟩
    simp only [claim, worker, clock, ensure_true, ok_bind, found, expires]
    change (leaseTask store row.task (grantedLease workerId now expiresAt uuid) now >>= _) = _
    rw [leases]
    rfl

end Answering

end Praxis.Workflow
