import Praxis.Durable.AuthorityMoves
import Praxis.Durable.OrchestratorEffects

/-!
# The orchestrator's operations as moves

An accepted operation of the orchestrator is at most one move. Its transaction insists on the
sequence of the projection that was read, so that it acts on that projection
(`OrchestratorCall.perform_cases`), and the checks that were made on it still hold.
-/

namespace Praxis.Workflow

set_option autoImplicit false

open Praxis.Foundations

section Operations

variable {lax : Bool} {store after : AuthorityStore} {current next : WorkflowProjectionV1}
  {input : WorkflowTransactionV1} {at_ : Timestamp} {listed read : AuthorityStore}

/-! ## Transactions -/

theorem TransactEffect.tasks_eq (effect : TransactEffect store input current next after)
    (enqueues : input.enqueueTasks = []) (acknowledges : input.acknowledgeTask = none)
    (cancels : input.cancelReadyTasks = []) : after.tasks = store.tasks := by
  obtain ⟨_, enqueued, acknowledged, _, inserts, acks, cancelled⟩ := effect.tasks
  rw [enqueues, foldlM_nil_eq_ok] at inserts
  rw [acknowledges, Option.toList_none, foldlM_nil_eq_ok] at acks
  rw [cancels, foldlM_nil_eq_ok] at cancelled
  rw [← cancelled, ← acks, ← inserts]

/-- A task that is queued beside events: it is for an attempt that they create. -/
structure QueuedWith (input : WorkflowTransactionV1) (next : WorkflowProjectionV1)
    (task : WorkflowTaskV1) : Prop where
  owner : task.workflowId = input.workflowId
  created : ∃ ordinal, Creates input.events (scheduledAttempt task.attemptId task.nodeId ordinal)
  specified : ∃ node ∈ next.spec.nodes, node.nodeId = task.nodeId ∧ node.retry = task.retry

theorem QueuedWith.linked {task : WorkflowTaskV1} (queued : QueuedWith input next task)
    (advances : Advances current input.events next)
    (known : ∀ change, .attemptStateChanged change ∈ input.events →
      findAttempt? current.attempts change.attemptId ≠ none) :
    task.workflowId = input.workflowId ∧ TaskLinked next task ∧
      next.attemptState? task.attemptId = some .scheduled ∧ current.sequence < next.sequence := by
  obtain ⟨ordinal, created⟩ := queued.created
  obtain ⟨linked, scheduled⟩ := TaskLinked.of_created task advances created known queued.specified
  refine ⟨queued.owner, linked, scheduled, ?_⟩
  obtain ⟨front, event, back, same, _⟩ := created.split
  rw [advances.sequence, same, List.length_append, List.length_cons]
  omega

theorem Moved.of_quiet (sound : Sound lax store)
    (effect : TransactEffect store input current next after)
    (keeps : KeepsCoherent lax current input.events)
    (nodes : ∀ node ∈ current.spec.nodes, node ∈ next.spec.nodes)
    (quiet : ∀ change, .attemptStateChanged change ∉ input.events)
    (acknowledges : input.acknowledgeTask = none)
    (enqueued : ∀ task ∈ input.enqueueTasks, QueuedWith input next task)
    (apart : input.enqueueTasks = [] ∨ input.cancelReadyTasks = []) : Moved lax store after := by
  have advances := effect.appended.advances
  refine .moved (.of_appended sound effect.appended keeps nodes
    (effect.rowsMove sound (fun task member => ?_) (by simp [acknowledges])
      (fun key row _ found ready owner => ?_) (fun key row _ _ _ => ?_) apart))
  · exact (enqueued task member).linked advances fun change there => absurd there (quiet change)
  · -- What is withdrawn was queued, so its attempt is scheduled, or was abandoned.
    obtain ⟨projection, loaded, _, state, known, fits⟩ := (sound.rows key row found).loaded
    rw [owner, effect.appended.loaded] at loaded
    cases loaded
    have kept := advances.attempt_kept known fun change there => absurd there (quiet change)
    rw [ready] at fits
    cases state with
    | scheduled => exact .inl kept
    | cancelled => exact .inr kept
    | _ => cases fits
  · exact advances.stillFits fun change there => absurd there (quiet change)

/-! ## Workers -/

section Claims

variable {claim : WorkflowTaskClaimV1} {row : TaskRow}

theorem ClaimSound.linked (granted : ClaimSound store claim) (sound : Sound lax store)
    (loaded : store.journal.loadProjection claim.task.workflowId = .ok current) :
    TaskLinked current claim.task := by
  obtain ⟨row, found, work, _⟩ := granted.row
  obtain ⟨projection, there, linked, _⟩ := (sound.rows _ row found).loaded
  rw [work.workflowId, loaded] at there
  cases there
  constructor
  · rw [← work.nodeId, ← work.retry]
    exact linked.specified
  · rw [← work.attemptId, ← work.nodeId]
    exact linked.owns

theorem ClaimSound.key_eq (granted : ClaimSound store claim) (sound : Sound lax store)
    {key : String} (found : store.tasks.get? key = some row)
    (same : row.task.attemptId = claim.task.attemptId) : key = claim.task.taskId := by
  obtain ⟨own, there, work, _⟩ := granted.row
  exact sound.distinct _ _ _ _ found there (same.trans work.attemptId.symm)

theorem ClaimSound.leased (granted : ClaimSound store claim)
    (loaded : store.journal.loadProjection claim.task.workflowId = .ok current)
    (found : store.tasks.get? claim.task.taskId = some row)
    {state : WorkflowAttemptStateV1} (open_ : state ∉ settledAttempts)
    (known : current.attemptState? claim.task.attemptId = some state) : row.state = .leased := by
  obtain ⟨own, there, _, _, _, settled⟩ := granted.row
  obtain rfl := Option.mem_unique found there
  by_contra ended
  obtain ⟨projection, last, member, loaded', state_eq⟩ := settled ended
  rw [loaded] at loaded'
  cases loaded'
  rw [known] at state_eq
  exact open_ (Option.some.inj state_eq ▸ member)

theorem Follows.attempt_open (follows : Follows current next) {attemptId : String}
    {state before : WorkflowAttemptStateV1} (open_ : state ∉ settledAttempts)
    (known : next.attemptState? attemptId = some state)
    (was : current.attemptState? attemptId = some before) : before ∉ settledAttempts := by
  intro settled
  obtain ⟨attempt, present, rfl⟩ := Option.map_eq_some_iff.mp was
  obtain ⟨later, there, after⟩ := follows.persists.attempts _ attempt present
  rw [WorkflowProjectionV1.attemptState?, there] at known
  obtain rfl := Option.some.inj known
  exact open_ (settled_of_leads after.state settled)

variable {change : AttemptStateChangedV1} {errorCode : String}

theorem runningEvents_changes (member : .attemptStateChanged change ∈ runningEvents claim at_) :
    change.attemptId = claim.task.attemptId ∧ change.state = .running := by
  simp only [runningEvents, List.mem_cons, reduceCtorEq, List.not_mem_nil, or_false, false_or,
    WorkflowEventDataV1.attemptStateChanged.injEq] at member
  rw [member]
  exact ⟨rfl, rfl⟩

theorem markRunning_moved (sound : Sound lax store) (granted : ClaimSound store claim)
    (owner : current.workflowId = claim.task.workflowId)
    (decided : markRunning current claim at_ = .transact input)
    (effect : TransactEffect store input current next after) : Moved lax store after := by
  obtain rfl := markRunning_transact decided
  have advances := effect.appended.advances
  have loaded := effect.appended.loaded
  have coherent := sound.coherent _ _ loaded
  change store.journal.loadProjection current.workflowId = _ at loaded
  rw [owner] at loaded
  have linked := granted.linked sound loaded
  refine .moved (.of_appended sound effect.appended (coherent.activate linked.owns rfl)
    (advances.nodes (by simp [runningEvents, WorkflowEventDataV1.isPatch])) ?_)
  rw [effect.tasks_eq rfl rfl rfl]
  refine .untouched fun key row found => ?_
  by_cases same : row.task.attemptId = claim.task.attemptId
  · intro _ _ fits
    have started : claim.task.attemptId = row.task.attemptId := same.symm
    obtain ⟨last, member, _, running⟩ := advances.attempt_changed
      (List.mem_cons_of_mem _ (List.mem_singleton_self _)) started
    rw [(runningEvents_changes member).2] at running
    obtain ⟨state, known, _⟩ := fits
    have open_ := advances.follows.attempt_open (by simp [settledAttempts]) running known
    rw [same] at known
    have key := granted.key_eq sound found same
    have leased := granted.leased loaded (key ▸ found) open_ known
    exact ⟨.running, running, by rw [leased]; rfl⟩
  · exact advances.stillFits fun change member id => same (id.symm.trans (runningEvents_changes member).1)

theorem ClaimSound.settle_moved (sound : Sound lax store) (granted : ClaimSound store claim)
    (owner : input.workflowId = claim.task.workflowId)
    (effect : TransactEffect store input current next after)
    (keeps : KeepsCoherent lax current input.events)
    (plain : ∀ event ∈ input.events, event.isPatch = false)
    (changes : ∀ change, .attemptStateChanged change ∈ input.events →
      change.attemptId = claim.task.attemptId ∧ change.state ∈ settledAttempts)
    (settles : ∃ change, .attemptStateChanged change ∈ input.events)
    (acknowledges : input.acknowledgeTask.map (·.taskId) = some claim.task.taskId)
    (cancels : input.cancelReadyTasks = [])
    (enqueued : ∀ task ∈ input.enqueueTasks, QueuedWith input next task) :
    Moved lax store after := by
  have advances := effect.appended.advances
  have loaded := effect.appended.loaded
  rw [owner] at loaded
  obtain ⟨_, attempt, present, _⟩ := granted.linked sound loaded
  obtain ⟨own, there, work, _⟩ := granted.row
  refine .moved (.of_appended sound effect.appended keeps (advances.nodes plain)
    (effect.rowsMove sound (fun task member => ?_) (fun ack given row found _ => ?_)
      (by simp [cancels]) (fun key row found free _ => ?_) (.inr cancels)))
  · refine (enqueued task member).linked advances fun change inside => ?_
    rw [(changes change inside).1, present]
    simp
  · rw [given, Option.map_some] at acknowledges
    rw [Option.some.inj acknowledges, there] at found
    obtain rfl := Option.some.inj found
    obtain ⟨change, member⟩ := settles
    have own := (changes change member).1.trans work.attemptId.symm
    obtain ⟨last, inside, _, state⟩ := advances.attempt_changed member own
    exact ⟨work.workflowId.trans owner.symm, _, (changes last inside).2, state⟩
  · refine advances.stillFits fun change member id => ?_
    have key := granted.key_eq sound found (id.symm.trans (changes change member).1)
    obtain ⟨ack, given, task⟩ := Option.map_eq_some_iff.mp acknowledges
    exact free ack given (task.trans key.symm)

theorem settleEvents_changes {task : WorkflowTaskV1} {attemptState : WorkflowAttemptStateV1}
    {nodeState : WorkflowNodeStateV1} {code : String}
    (member : .attemptStateChanged change ∈ settleEvents task attemptState nodeState code at_) :
    change.attemptId = task.attemptId ∧ change.state = attemptState := by
  simp only [settleEvents, List.mem_cons, reduceCtorEq, List.not_mem_nil, or_false,
    WorkflowEventDataV1.attemptStateChanged.injEq] at member
  rw [member]
  exact ⟨rfl, rfl⟩

theorem markUnknown_moved {effectReserved : Bool} (sound : Sound lax store)
    (granted : ClaimSound store claim) (owner : current.workflowId = claim.task.workflowId)
    (decided : markUnknown current claim errorCode effectReserved at_ = .transact input)
    (effect : TransactEffect store input current next after) : Moved lax store after := by
  obtain rfl := markUnknown_transact decided
  have loaded := effect.appended.loaded
  have coherent := sound.coherent _ _ loaded
  have linked := granted.linked sound (owner ▸ loaded)
  refine ClaimSound.settle_moved sound granted owner effect (coherent.settleEvents linked.owns rfl)
    (by simp [settleEvents, WorkflowEventDataV1.isPatch]) (fun change member => ?_)
    ⟨_, List.mem_cons_self ..⟩ rfl rfl (by simp)
  obtain ⟨own, state⟩ := settleEvents_changes member
  exact ⟨own, by simp [state, settledAttempts]⟩

theorem cancelClaim_moved (sound : Sound lax store) (granted : ClaimSound store claim)
    (owner : current.workflowId = claim.task.workflowId)
    (decided : cancelClaim current claim errorCode at_ = .transact input)
    (effect : TransactEffect store input current next after) : Moved lax store after := by
  obtain rfl := cancelClaim_transact decided
  have loaded := effect.appended.loaded
  have coherent := sound.coherent _ _ loaded
  have linked := granted.linked sound (owner ▸ loaded)
  refine ClaimSound.settle_moved sound granted owner effect (coherent.settleEvents linked.owns rfl)
    (by simp [settleEvents, WorkflowEventDataV1.isPatch]) (fun change member => ?_)
    ⟨_, List.mem_cons_self ..⟩ rfl rfl (by simp)
  obtain ⟨own, state⟩ := settleEvents_changes member
  exact ⟨own, by simp [state, settledAttempts]⟩

section Completion

variable {outcome : WorkflowOutcomeV1}
  {retry : Option (WorkflowAttemptProjectionV1 × WorkflowTaskV1)}

theorem CompletionV1.settles (completion : CompletionV1) :
    completion.attemptState ∈ settledAttempts := by
  cases completion <;> simp [CompletionV1.attemptState, settledAttempts]

theorem mem_completion_events {event : WorkflowEventDataV1} :
    event ∈ (completionTransaction claim outcome current at_ retry).events ↔
      event ∈ accountingEvents claim outcome ∨ event ∈ outcomeEvents claim outcome at_ ∨
      (∃ entry, retry = some entry ∧
        event ∈ rescheduleEvents claim.task.nodeId entry.2.attemptId (entry.1.ordinal + 1)) ∨
      event ∈ rootFailureEvents claim outcome retry.isSome := by
  simp [completionTransaction]

theorem completion_changes {change : AttemptStateChangedV1} (member : .attemptStateChanged change ∈
      (completionTransaction claim outcome current at_ retry).events) :
    change.attemptId = claim.task.attemptId ∧
      change.state = (completion claim outcome).attemptState := by
  rcases mem_completion_events.mp member with account | settle | ⟨entry, _, again⟩ | fail
  · cases accountingEvents_neutral _ account
  · simp only [outcomeEvents, List.mem_cons, reduceCtorEq, List.not_mem_nil, or_false,
      WorkflowEventDataV1.attemptStateChanged.injEq] at settle
    rw [settle]
    exact ⟨rfl, rfl⟩
  · simp [rescheduleEvents] at again
  · cases rootFailureEvents_neutral _ _ fail

theorem completion_isPatch : ∀ event ∈
    (completionTransaction claim outcome current at_ retry).events, event.isPatch = false := by
  intro event member
  rcases mem_completion_events.mp member with account | settle | ⟨entry, _, again⟩ | fail
  · have neutral := accountingEvents_neutral event account
    cases event <;> first | rfl | cases neutral
  · simp only [outcomeEvents, List.mem_cons, List.not_mem_nil, or_false] at settle
    rcases settle with rfl | rfl <;> rfl
  · simp only [rescheduleEvents, List.mem_cons, List.not_mem_nil, or_false] at again
    rcases again with rfl | rfl | rfl <;> rfl
  · have neutral := rootFailureEvents_neutral _ event fail
    cases event <;> first | rfl | cases neutral

theorem completeOnce_moved {attemptUuid taskUuid : Uuid} (sound : Sound lax store)
    (granted : ClaimSound store claim) (owner : current.workflowId = claim.task.workflowId)
    (decided : completeOnce claim outcome current at_ attemptUuid taskUuid = .ok (.transact input))
    (effect : TransactEffect store input current next after) : Moved lax store after := by
  obtain ⟨_, _, retry, rfl, retried, task_eq⟩ := completeOnce_transact decided
  have advances := effect.appended.advances
  have loaded : store.journal.loadProjection current.workflowId = .ok current :=
    effect.appended.loaded
  have coherent := sound.coherent _ _ loaded
  have linked := granted.linked sound (owner ▸ loaded)
  have within : ∀ attempt task, retry = some (attempt, task) →
      completion claim outcome = .failed ∧
        (attempt.ordinal : Int) < claim.task.retry.maxAttempts := by
    rintro attempt task rfl
    exact (retriedAttempt_eq_some retried.symm).2
  refine ClaimSound.settle_moved sound granted owner effect
    (coherent.completionEvents linked within) completion_isPatch (fun change member => ?_)
    ⟨_, mem_completion_events.mpr (.inr (.inl (List.mem_cons_self ..)))⟩ rfl rfl
    fun task member => ?_
  · obtain ⟨own, state⟩ := completion_changes member
    exact ⟨own, state ▸ (completion claim outcome).settles⟩
  · obtain ⟨⟨attempt, _⟩, inside, rfl⟩ := List.mem_map.mp member
    obtain rfl := Option.mem_toList.mp inside
    obtain ⟨readyAt, _, same⟩ := task_eq attempt _ rfl
    refine ⟨?_, ⟨attempt.ordinal + 1, .inl ?_⟩, ?_⟩
    · rw [same]
      exact owner.symm
    · refine mem_completion_events.mpr (.inr (.inr (.inl ⟨_, rfl, ?_⟩)))
      rw [same]
      simp [rescheduleEvents, retryTaskOf]
    · rw [same]
      exact (linked.follows advances.follows (advances.nodes completion_isPatch)).specified

end Completion

end Claims

/-! ## The scheduler -/

section Scheduler

variable {listed : AuthorityStore} {workflowId : String} {nodeIds : List String}

theorem frontierEvents_changes {change : AttemptStateChangedV1}
    (member : .attemptStateChanged change ∈ frontierEvents current nodeIds at_) :
    change.state = .cancelled ∧
      ∃ node ∈ frontier current nodeIds .skipped ++ frontier current nodeIds .blocked,
        node.attemptIds.getLast? = some change.attemptId := by
  have each : ∀ {state code} {nodes : List WorkflowNodeProjectionV1},
      .attemptStateChanged change ∈ nodes.flatMap (pruneEvents state code at_) →
      change.state = .cancelled ∧
        ∃ node ∈ nodes, node.attemptIds.getLast? = some change.attemptId := by
    intro state code nodes inside
    obtain ⟨node, there, event⟩ := List.mem_flatMap.mp inside
    simp only [pruneEvents, List.mem_append, List.mem_map, Option.mem_toList, List.mem_singleton,
      reduceCtorEq, or_false, WorkflowEventDataV1.attemptStateChanged.injEq] at event
    obtain ⟨attemptId, last, rfl⟩ := event
    exact ⟨rfl, node, there, last⟩
  simp only [frontierEvents, List.mem_append] at member
  rcases member with (moved | skips) | blocks
  · simp at moved
  · obtain ⟨state, node, there, last⟩ := each skips
    exact ⟨state, node, List.mem_append_left _ there, last⟩
  · obtain ⟨state, node, there, last⟩ := each blocks
    exact ⟨state, node, List.mem_append_right _ there, last⟩

theorem frontierEvents_isPatch :
    ∀ event ∈ frontierEvents current nodeIds at_, event.isPatch = false := by
  intro event member
  simp only [frontierEvents, List.mem_append, List.mem_map, List.mem_flatMap, pruneEvents,
    List.mem_singleton] at member
  rcases member with (⟨_, _, rfl⟩ | ⟨_, _, (⟨_, _, rfl⟩ | rfl)⟩) | ⟨_, _, (⟨_, _, rfl⟩ | rfl)⟩ <;>
    rfl

variable {node : WorkflowNodeProjectionV1} {nodeId code : String}

theorem Coherent.admitted_attempt (coherent : Coherent lax current) {attemptId : String}
    (member : node ∈ current.nodes) (admitted : node.state = .admitted)
    (last : node.attemptIds.getLast? = some attemptId) :
    ∃ attempt, findAttempt? current.attempts attemptId = some attempt ∧
      attempt.nodeId = node.nodeId ∧ attempt.state = .scheduled := by
  rw [coherent.attemptIds_last member] at last
  obtain ⟨attempt, found, rfl⟩ := Option.map_eq_some_iff.mp last
  obtain ⟨present, owner⟩ := mem_attemptsOf.mp (List.mem_of_getLast? found)
  have pair := coherent.pairs node member
  rw [admitted, WorkflowProjectionV1.lastState, found, Option.map_some] at pair
  refine ⟨attempt, coherent.wellFormed.findAttempt? present, owner, ?_⟩
  cases state : attempt.state <;> rw [state] at pair <;> first | rfl | cases pair

theorem mem_prunedNodes
    (member : node ∈ frontier current nodeIds .skipped ++ frontier current nodeIds .blocked) :
    node ∈ current.nodes ∧ node.state = .admitted ∧ node.nodeId ∈ prunedNodes current nodeIds := by
  have inside : node.nodeId ∈ prunedNodes current nodeIds := List.mem_map_of_mem member
  rcases List.mem_append.mp member with skipped | blocked
  · exact ⟨(mem_frontier skipped).1, (mem_frontier skipped).2, inside⟩
  · exact ⟨(mem_frontier blocked).1, (mem_frontier blocked).2, inside⟩

/-- The attempt of a pruned node is cancelled and its task withdrawn. Where nothing may be
abandoned, the ready tasks of the pruned nodes must all have been listed. -/
theorem scheduleReadyNodes_moved (sound : Sound lax store)
    (decided : scheduleReadyNodes current listed workflowId nodeIds at_ = .ok (.transact input))
    (effect : TransactEffect store input current next after)
    (withdraws : lax = false → ∀ key row, store.tasks.get? key = some row →
      row.state = .ready → row.task.workflowId = workflowId →
      row.task.nodeId ∈ prunedNodes current nodeIds → key ∈ input.cancelReadyTasks) :
    Moved lax store after := by
  obtain ⟨tasks, _, rfl⟩ := scheduleReadyNodes_transact decided
  have advances := effect.appended.advances
  have coherent := sound.coherent _ _ effect.appended.loaded
  refine .moved (.of_appended sound effect.appended
    (coherent.scheduleEvents (fun _ => mem_frontier)
      ⟨fun _ member => (mem_frontier member).1, fun _ member => (mem_frontier member).1⟩)
    (advances.nodes frontierEvents_isPatch)
    (effect.rowsMove sound (by simp) (by simp) (fun key row member found ready owner => ?_)
      (fun key row found _ left => ?_) (.inl rfl)))
  · -- A withdrawn task keeps its scheduled attempt, or the attempt is cancelled here.
    obtain ⟨projection, loaded, _, state, known, fits⟩ := (sound.rows key row found).loaded
    rw [owner, effect.appended.loaded] at loaded
    cases loaded
    by_cases touched : ∃ change,
        .attemptStateChanged change ∈ frontierEvents current nodeIds at_ ∧
          change.attemptId = row.task.attemptId
    · obtain ⟨change, inside, own⟩ := touched
      obtain ⟨last, there, _, cancelled⟩ := advances.attempt_changed inside own
      rw [(frontierEvents_changes there).1] at cancelled
      exact .inr cancelled
    · have kept := advances.attempt_kept known fun change there own => touched ⟨change, there, own⟩
      rw [ready] at fits
      cases state with
      | scheduled => exact .inl kept
      | cancelled => exact .inr kept
      | _ => cases fits
  · intro owner linked fits
    by_cases touched : ∃ change,
        .attemptStateChanged change ∈ frontierEvents current nodeIds at_ ∧
          change.attemptId = row.task.attemptId
    · obtain ⟨change, inside, own⟩ := touched
      obtain ⟨last, there, _, cancelled⟩ := advances.attempt_changed inside own
      rw [(frontierEvents_changes there).1] at cancelled
      obtain ⟨_, node, pruned, newest⟩ := frontierEvents_changes inside
      obtain ⟨member, admitted, among⟩ := mem_prunedNodes pruned
      obtain ⟨attempt, present, nodeId, scheduled⟩ :=
        coherent.admitted_attempt member admitted newest
      rw [own] at present
      obtain ⟨other, same, node_eq⟩ := linked.owns
      obtain rfl := Option.mem_unique present same
      obtain ⟨state, known, fit⟩ := fits
      rw [WorkflowProjectionV1.attemptState?, present, Option.map_some, scheduled] at known
      obtain rfl := Option.some.inj known
      refine ⟨.cancelled, cancelled, ?_⟩
      cases lax with
      | true => cases state : row.state <;> rw [state] at fit <;> first | rfl | cases fit
      | false =>
        by_cases ready : row.state = .ready
        · refine absurd (withdraws rfl key row found ready owner ?_) left
          rw [← node_eq, nodeId]
          exact among
        · cases state : row.state <;> rw [state] at fit <;>
            first | rfl | (cases fit; done) | exact absurd state ready
    · exact advances.stillFits (fun change there own => touched ⟨change, there, own⟩) owner linked
        fits

theorem joinEvents_quiet {readiness : WorkflowNodeReadinessV1} :
    ∀ event ∈ joinEvents nodeId readiness,
      event.isPatch = false ∧ ∀ change, event ≠ .attemptStateChanged change := by
  cases readiness <;> simp [joinEvents, WorkflowEventDataV1.isPatch]

theorem resolveJoinNode_moved (sound : Sound lax store)
    (decided : resolveJoinNode current workflowId nodeId at_ = .ok (.transact input))
    (effect : TransactEffect store input current next after) : Moved lax store after := by
  obtain ⟨join, rfl⟩ := resolveJoinNode_transact decided
  have coherent := sound.coherent _ _ effect.appended.loaded
  exact .of_quiet sound effect (coherent.resolveJoin join)
    (effect.appended.advances.nodes fun event member => (joinEvents_quiet event member).1)
    (fun change member => (joinEvents_quiet _ member).2 change rfl) rfl (by simp) (.inl rfl)

/-! ## Operators -/

theorem Moved.of_announced (sound : Sound lax store)
    (effect : TransactEffect store input current next after)
    (neutral : ∀ event ∈ input.events, event.isNeutral = true)
    (enqueues : input.enqueueTasks = []) (acknowledges : input.acknowledgeTask = none)
    (cancels : input.cancelReadyTasks = []) : Moved lax store after :=
  .of_neutral sound effect.appended neutral (effect.tasks_eq enqueues acknowledges cancels)

theorem cancelNodes_moved (sound : Sound lax store)
    (decided : cancelNodes current listed workflowId nodeIds code at_ = .ok (.transact input))
    (effect : TransactEffect store input current next after)
    (idle : lax = false → ∀ node ∈ cancelledNodes current nodeIds, Idle current node.nodeId) :
    Moved lax store after := by
  obtain ⟨tasks, _, rfl⟩ := cancelNodes_transact decided
  have coherent := sound.coherent _ _ effect.appended.loaded
  refine .of_quiet sound effect (coherent.cancelEach fun node member => ?_)
    (effect.appended.advances.nodes (by simp [WorkflowEventDataV1.isPatch])) (by simp) rfl
    (by simp) (.inl rfl)
  have inside := member
  simp only [cancelledNodes, List.mem_filter, decide_eq_true_eq] at inside
  exact coherent.paired_cancelled inside.1 (.inl inside.2.2) fun strict => idle strict node member

theorem cancel_moved (sound : Sound lax store)
    (decided : cancel current workflowId code at_ = .transact input)
    (effect : TransactEffect store input current next after)
    (idle : lax = false → ∀ node ∈ current.nodes, node.state ∈ openNodes →
      Idle current node.nodeId) : Moved lax store after := by
  obtain rfl := cancel_transact decided
  have coherent := sound.coherent _ _ effect.appended.loaded
  refine .of_quiet sound effect (coherent.cancelEvents idle)
    (effect.appended.advances.nodes fun event member => ?_) (by simp [operatorInput]) rfl
    (by simp [operatorInput]) (.inl rfl)
  simp only [operatorInput, List.cons_append, List.mem_cons, List.mem_append, List.mem_map,
    List.not_mem_nil, or_false] at member
  rcases member with rfl | ⟨_, _, rfl⟩ | rfl <;> rfl

end Scheduler

/-! ## Admission -/

section Admission

variable {workflowId : String}

variable {nodeId attemptId : String} {node : WorkflowNodeSpecV1} {scheduled : Bool}

theorem admissionEvents_isPatch :
    ∀ event ∈ admissionEvents nodeId attemptId scheduled,
      event.isPatch = false ∧ ∀ change, event ≠ .attemptStateChanged change := by
  cases scheduled <;> simp [admissionEvents, WorkflowEventDataV1.isPatch]

theorem mem_admissionEvents :
    .attemptCreated (scheduledAttempt attemptId nodeId 1) ∈
      admissionEvents nodeId attemptId scheduled := by
  simp [admissionEvents]

theorem AdmitsNode.moved {topology : WorkflowTopologyV1} {task : WorkflowTaskV1}
    (sound : Sound lax store) (admits : AdmitsNode current workflowId topology node task input)
    (effect : TransactEffect store input current next after) : Moved lax store after := by
  have coherent := sound.coherent _ _ effect.appended.loaded
  have advances := effect.appended.advances
  obtain ⟨acknowledges, cancels, _⟩ := admits.rest
  rw [admits.events] at advances
  have specified := advances.patched fun event member => by
    rcases List.mem_cons.mp member with rfl | admission
    · rfl
    · exact (admissionEvents_isPatch event admission).1
  refine .of_quiet sound effect ?_
    (fun old member => specified old (List.mem_append_left _ member)) (fun change member => ?_)
    acknowledges (fun queued member => ?_) (.inr cancels)
  · rw [admits.events]
    exact coherent.admitNode admits.join
  · rw [admits.events] at member
    simp only [List.mem_cons, reduceCtorEq, false_or] at member
    exact (admissionEvents_isPatch _ member).2 change rfl
  · rw [admits.tasks] at member
    obtain rfl := List.mem_singleton.mp member
    have first := admits.first
    refine ⟨first.workflowId.trans admits.target.symm, ⟨1, .inl ?_⟩, node,
      specified node (List.mem_append_right _ (List.mem_singleton_self _)), first.nodeId.symm,
      first.retry.symm⟩
    rw [admits.events, first.nodeId]
    exact List.mem_cons_of_mem _ (List.mem_cons_of_mem _ mem_admissionEvents)

theorem AdmitsWaiting.moved (sound : Sound lax store)
    (admits : AdmitsWaiting current workflowId node attemptId input)
    (effect : TransactEffect store input current next after) : Moved lax store after := by
  have coherent := sound.coherent _ _ effect.appended.loaded
  have advances := effect.appended.advances
  obtain ⟨enqueues, acknowledges, cancels, _⟩ := admits.rest
  have waits : ∀ event ∈ if current.state = .running then [WorkflowEventDataV1.workflowWaiting]
      else [], event.isNeutral = true := by
    split <;> simp [WorkflowEventDataV1.isNeutral]
  rw [admits.events] at advances
  have specified := advances.patched fun event member => by
    simp only [List.mem_cons, List.mem_append, List.not_mem_nil, or_false] at member
    rcases member with rfl | (rfl | rfl | rfl) | waiting
    · rfl
    · rfl
    · rfl
    · rfl
    · have neutral := waits event waiting
      cases event <;> first | rfl | cases neutral
  refine .of_quiet sound effect ?_
    (fun old member => specified old (List.mem_append_left _ member)) (fun change member => ?_)
    acknowledges (by simp [enqueues]) (.inr cancels)
  · rw [admits.events]
    exact coherent.admitWaiting admits.join waits
  · rw [admits.events] at member
    simp only [List.mem_cons, List.mem_append, reduceCtorEq, false_or, List.not_mem_nil] at member
    cases waits _ member

theorem admitAgentGraph_moved {profiles : ProfileRegistry} {parentNodeId proposalId : String}
    {proposals : List (AgentGraphNodeProposalV1 × AdmissionIds)} {join : Option AgentGraphJoinV1}
    (sound : Sound lax store)
    (decided : admitAgentGraph profiles current workflowId parentNodeId proposalId proposals join
      at_ = .ok (.transact input))
    (effect : TransactEffect store input current next after) : Moved lax store after := by
  obtain ⟨admitted, rfl, entries⟩ := admitAgentGraph_transact decided
  have coherent := sound.coherent _ _ effect.appended.loaded
  have advances := effect.appended.advances
  have rest : ∀ event ∈ (.workflowTopologyChanged .workflowGraph ::
      (join.toList.map fun _ => .nodeStateChanged
        { nodeId := joinNodeId proposalId, state := .admitted }) ++
      admitted.flatMap fun entry =>
        admissionEvents entry.node.nodeId entry.task.attemptId (startsAtOnce entry.proposal) :
          List WorkflowEventDataV1),
      event.isPatch = false ∧ ∀ change, event ≠ .attemptStateChanged change := by
    intro event member
    simp only [List.cons_append, List.mem_cons, List.mem_append, List.mem_map,
      List.mem_flatMap] at member
    rcases member with rfl | ⟨_, _, rfl⟩ | ⟨_, _, admission⟩
    · exact ⟨rfl, by simp⟩
    · exact ⟨rfl, by simp⟩
    · exact admissionEvents_isPatch event admission
  have specified := Advances.patched advances fun event member => (rest event member).1
  refine .of_quiet sound effect (coherent.agentGraph fun entry member => (entries entry member).1)
    (fun old member => specified old (List.mem_append_left _ member)) (fun change member => ?_)
    rfl (fun task member => ?_) (.inr rfl)
  · rcases List.mem_cons.mp member with same | inside
    · cases same
    · exact (rest _ inside).2 change rfl
  · obtain ⟨entry, inside, rfl⟩ := List.mem_map.mp member
    have first := (entries entry inside).2
    refine ⟨first.workflowId, ⟨1, .inl ?_⟩, entry.node, specified entry.node ?_,
      first.nodeId.symm, first.retry.symm⟩
    · rw [first.nodeId]
      exact List.mem_cons_of_mem _ (List.mem_append_right _
        (List.mem_flatMap.mpr ⟨entry, inside, mem_admissionEvents⟩))
    · exact List.mem_append_right _ (List.mem_append_left _ (List.mem_map_of_mem inside))

theorem Moved.of_patch (topology : List WorkflowTopologyV1) (sound : Sound lax store)
    (effect : TransactEffect store input current next after) {spec : WorkflowSpecV1}
    (events : input.events = .graphPatched spec :: topology.map .workflowTopologyChanged)
    (identity : spec.workflowId = current.workflowId ∧ spec.runId = current.runId ∧
      spec.sessionId = current.sessionId)
    (keeps : ∀ node ∈ current.spec.nodes, node ∈ next.spec.nodes)
    (rest : input.enqueueTasks = [] ∧ input.acknowledgeTask = none ∧
      input.cancelReadyTasks = []) : Moved lax store after := by
  have coherent := sound.coherent _ _ effect.appended.loaded
  have advances := effect.appended.advances
  have neutral : ∀ event ∈ topology.map WorkflowEventDataV1.workflowTopologyChanged,
      event.isNeutral = true := by
    intro event member
    obtain ⟨_, _, rfl⟩ := List.mem_map.mp member
    rfl
  -- The nodes are those of the patch.
  have nodes : next.spec.nodes = spec.nodes := by
    obtain ⟨content, applies, same⟩ := advances.applies
    rw [events] at applies
    obtain ⟨middle, patch, others⟩ := applies_cons.mp applies
    obtain ⟨_, _, _, rfl⟩ := effect_graphPatched.mp patch
    rw [same]
    exact others.spec_nodes fun event member =>
      WorkflowEventDataV1.keepsSpecNodes_of_neutral (neutral event member)
  rw [nodes] at keeps
  refine .of_quiet sound effect ?_ (nodes ▸ keeps) (fun change member => ?_) rest.2.1
    (by simp [rest.1]) (.inl rest.1)
  · rw [events]
    intro content applies
    obtain ⟨middle, patch, others⟩ := applies_cons.mp applies
    exact (coherent.graphPatched patch identity keeps).neutrals neutral others
  · rw [events] at member
    simp at member

end Admission

/-! ## Start -/

theorem start_moved {request : StartAutoWorkflowInputV1} {coordinatorDigest : String}
    {ids : StartIds} (sound : Sound lax store)
    (accepted : start store request coordinatorDigest ids at_ = .ok (next, after)) :
    Moved lax store after := by
  obtain ⟨task, built, created⟩ := start_ok accepted
  have first := agentTask_ok built
  rcases create_ok created with ⟨_, rfl⟩ | ⟨initial, effect⟩
  · exact .still rfl rfl
  · obtain ⟨stored, logged, row, inserted, recorded, inserts⟩ := effect.journal
    obtain ⟨workflows, events, _⟩ := Journal.recordTransaction_ok recorded
    obtain ⟨kept, _, _, _⟩ := Journal.insertEvents_ok inserted
    have load := Journal.loadProjection_insertWorkflow row (workflows.trans kept)
    have advances := advances_of_events effect.folded
    have coherent : Coherent lax next :=
      advances.coherent (start_coherent effect.start (by simp [startSpec, rootNode]))
    obtain ⟨_, same⟩ := initialWorkflowProjectionV1_eq_ok effect.start
    have nodes := advances.nodes fun event member => by
      rcases List.mem_cons.mp member with rfl | rest
      · rfl
      · rcases List.mem_cons.mp rest with rfl | admission
        · rfl
        · exact (admissionEvents_isPatch event admission).1
    have rootSpec : rootNode "root" request.rootGrant coordinatorDigest ∈ next.spec.nodes := by
      refine nodes _ ?_
      rw [same]
      exact List.mem_singleton_self _
    have starts : Creates (.workflowCreated (startSpec request coordinatorDigest ids at_) ::
        .workflowStarted :: admissionEvents "root" ("attempt-" ++ ids.attempt.text) true)
        (scheduledAttempt task.attemptId task.nodeId 1) := by
      rw [first.attemptId, first.nodeId]
      exact .inl (List.mem_cons_of_mem _ (List.mem_cons_of_mem _ mem_admissionEvents))
    obtain ⟨linked, scheduled⟩ := TaskLinked.of_created task advances starts
      (fun change member => by simp [admissionEvents] at member)
      ⟨_, rootSpec, first.nodeId.symm, first.retry.symm⟩
    have move : Move lax store after (startSpec request coordinatorDigest ids at_).workflowId
        initial next :=
      { agrees := (sound.agrees.create rfl effect.start effect.folded row inserted).of_same
          workflows events
        own := by rw [(load _).1, if_pos rfl]
        others := fun other different => by rw [(load other).1, if_neg different]
        origin := fun projection loaded => absurd loaded ((load "").2 projection)
        coherent
        rows := (RowsMove.untouched fun key row found own _ _ => by
          -- No task is for a workflow that was not there.
          obtain ⟨projection, loaded, _⟩ := (sound.rows key row found).loaded
          rw [own] at loaded
          exact absurd loaded ((load "").2 projection)).insert (insertTasks_ok inserts)
            fun queued member => by
              obtain rfl := List.mem_singleton.mp member
              refine ⟨first.workflowId, linked, scheduled, ?_⟩
              rw [advances.sequence, List.length_cons]
              omega }
    exact .moved move

/-! ## The operations together -/

variable {call : OrchestratorCall}

theorem OrchestratorCall.decide_input (owner : current.workflowId = call.workflowId)
    (decided : call.decide current listed = .ok (.transact input)) :
    input.workflowId = call.workflowId ∧ input.expectedSequence = current.sequence := by
  cases call with
  | markRunning claim at_ =>
    rw [markRunning_transact (pure_eq_ok.mp decided)]
    exact ⟨owner, rfl⟩
  | complete claim outcome at_ attemptUuid taskUuid =>
    obtain ⟨_, _, _, same, _⟩ := completeOnce_transact decided
    rw [same]
    exact ⟨owner, rfl⟩
  | markUnknown claim errorCode effectReserved at_ =>
    rw [markUnknown_transact (pure_eq_ok.mp decided)]
    exact ⟨owner, rfl⟩
  | cancelClaim claim errorCode at_ =>
    rw [cancelClaim_transact (pure_eq_ok.mp decided)]
    exact ⟨owner, rfl⟩
  | scheduleReadyNodes workflowId nodeIds at_ =>
    obtain ⟨_, _, same⟩ := scheduleReadyNodes_transact decided
    rw [same]
    exact ⟨rfl, rfl⟩
  | resolveJoinNode workflowId nodeId at_ =>
    rw [(resolveJoinNode_transact decided).2]
    exact ⟨rfl, rfl⟩
  | settleWorkflow workflowId at_ =>
    obtain ⟨_, _, _, same⟩ := settleWorkflow_transact (pure_eq_ok.mp decided)
    rw [same]
    exact ⟨rfl, rfl⟩
  | cancelNodes workflowId nodeIds code at_ =>
    obtain ⟨_, _, same⟩ := cancelNodes_transact decided
    rw [same]
    exact ⟨rfl, rfl⟩
  | pause workflowId at_ =>
    rw [pause_transact decided]
    exact ⟨rfl, rfl⟩
  | resume workflowId at_ =>
    rw [resume_transact decided]
    exact ⟨rfl, rfl⟩
  | cancel workflowId code at_ =>
    rw [cancel_transact (pure_eq_ok.mp decided)]
    exact ⟨rfl, rfl⟩
  | terminate workflowId code at_ =>
    rw [terminate_transact (pure_eq_ok.mp decided)]
    exact ⟨rfl, rfl⟩
  | admitDelegate profiles workflowId parentNodeId proposal kind required attemptUuid taskUuid at_ =>
    obtain ⟨_, _, admits⟩ := admitDelegate_transact decided
    exact ⟨admits.target, admits.expects⟩
  | applyGraphProposal workflowId proposal checkedAt at_ =>
    rw [applyGraphProposal_transact decided]
    exact ⟨rfl, rfl⟩
  | supersedeFailedNodes workflowId nodeIds replacementNodeIds transactionKey at_ =>
    rw [supersedeFailedNodes_transact decided]
    exact ⟨rfl, rfl⟩
  | admitHumanTask workflowId request expiresAt humanUuid nodeUuid attemptUuid at_ =>
    obtain ⟨_, _, admits⟩ := admitWaitNode_transact decided
    exact ⟨admits.target, admits.expects⟩
  | admitTimer workflowId fireAt payload timerUuid nodeUuid attemptUuid at_ =>
    obtain ⟨_, _, admits⟩ := admitWaitNode_transact decided
    exact ⟨admits.target, admits.expects⟩
  | admitToolActivity workflowId toolName effect nodeUuid attemptUuid taskUuid at_ =>
    obtain ⟨_, _, admits⟩ := admitToolActivity_transact decided
    exact ⟨admits.target, admits.expects⟩
  | admitAgentGraph profiles workflowId parentNodeId proposalId proposals join at_ =>
    obtain ⟨_, same, _⟩ := admitAgentGraph_transact decided
    rw [same]
    exact ⟨rfl, rfl⟩

/-- An accepted operation answers with what it read, or with what an earlier transaction under
its id had answered; or its transaction acts on the projection that it read. -/
theorem OrchestratorCall.perform_cases (agrees : read.journal.Agrees)
    (earlier : read.journal.Before store.journal)
    (accepted : call.perform read listed store = .ok (next, after)) :
    after = store ∨ ∃ current input, current.workflowId = call.workflowId ∧
      store.journal.loadProjection call.workflowId = .ok current ∧
      call.decide current listed = .ok (.transact input) ∧
      TransactEffect store input current next after := by
  simp only [OrchestratorCall.perform, bind_eq_ok] at accepted
  obtain ⟨current, loaded, decision, decided, performed⟩ := accepted
  have owner : current.workflowId = call.workflowId := by
    obtain ⟨row, stored, same⟩ := Journal.loadProjection_eq_ok.mp loaded
    rw [← same]
    exact agrees.owner _ _ stored
  cases decision with
  | answer projection =>
    obtain ⟨_, rfl⟩ := Prod.mk.inj (pure_eq_ok.mp performed)
    exact .inl rfl
  | transact input =>
    obtain ⟨target, expects⟩ := OrchestratorCall.decide_input owner decided
    rcases transact_ok performed with ⟨_, rfl⟩ | ⟨_, present, effect⟩
    · exact .inl rfl
    · obtain rfl := effect.current_eq earlier (target ▸ loaded) expects
      exact .inr ⟨current, input, owner, target ▸ effect.appended.loaded, decided, effect⟩

/-- What an operation must find, where nothing may be left behind: the nodes that an operator
cancels are idle, and the ready tasks of nodes that are pruned are withdrawn with them. -/
def OrchestratorCall.LeavesNothing (store : AuthorityStore) (current : WorkflowProjectionV1)
    (input : WorkflowTransactionV1) : OrchestratorCall → Prop
  | scheduleReadyNodes workflowId nodeIds _ => ∀ key row, store.tasks.get? key = some row →
      row.state = .ready → row.task.workflowId = workflowId →
      row.task.nodeId ∈ prunedNodes current nodeIds → key ∈ input.cancelReadyTasks
  | cancelNodes _ nodeIds _ _ => ∀ node ∈ cancelledNodes current nodeIds, Idle current node.nodeId
  | cancel _ _ _ => ∀ node ∈ current.nodes, node.state ∈ openNodes → Idle current node.nodeId
  | _ => True

/-- **Every accepted operation of the orchestrator is a move**, if it keeps the specified nodes
and, where nothing may be left behind, leaves nothing. -/
theorem OrchestratorCall.perform_moved (sound : Sound lax store)
    (agrees : read.journal.Agrees) (earlier : read.journal.Before store.journal)
    (granted : ∀ claim ∈ call.claim?, ClaimSound store claim)
    (nodes : ∀ before later, store.journal.loadProjection call.workflowId = .ok before →
      after.journal.loadProjection call.workflowId = .ok later →
      ∀ node ∈ before.spec.nodes, node ∈ later.spec.nodes) (leaves : lax = false → ∀ current input,
      store.journal.loadProjection call.workflowId = .ok current →
      call.decide current listed = .ok (.transact input) →
      call.LeavesNothing store current input)
    (accepted : call.perform read listed store = .ok (next, after)) : Moved lax store after := by
  rcases OrchestratorCall.perform_cases agrees earlier accepted with
    rfl | ⟨current, input, owner, loaded, decided, effect⟩
  · exact .still rfl rfl
  · have keeps : ∀ node ∈ current.spec.nodes, node ∈ next.spec.nodes := by
      refine nodes current next loaded ?_
      rw [effect.appended.loadProjection sound.agrees,
        if_pos (OrchestratorCall.decide_input owner decided).1.symm]
    have identity : current.spec.workflowId = current.workflowId ∧
        current.spec.runId = current.runId ∧ current.spec.sessionId = current.sessionId := by
      have wellFormed := (sound.coherent _ _ loaded).wellFormed
      exact ⟨wellFormed.workflowId, wellFormed.runId, wellFormed.sessionId⟩
    have strict := fun nothing => leaves nothing current input loaded decided
    cases call with
    | markRunning claim at_ =>
      exact markRunning_moved sound (granted claim rfl) owner (pure_eq_ok.mp decided) effect
    | complete claim outcome at_ attemptUuid taskUuid =>
      exact completeOnce_moved sound (granted claim rfl) owner decided effect
    | markUnknown claim errorCode effectReserved at_ =>
      exact markUnknown_moved sound (granted claim rfl) owner (pure_eq_ok.mp decided) effect
    | cancelClaim claim errorCode at_ =>
      exact cancelClaim_moved sound (granted claim rfl) owner (pure_eq_ok.mp decided) effect
    | scheduleReadyNodes workflowId nodeIds at_ =>
      exact scheduleReadyNodes_moved sound decided effect strict
    | resolveJoinNode workflowId nodeId at_ => exact resolveJoinNode_moved sound decided effect
    | settleWorkflow workflowId at_ =>
      obtain ⟨_, _, _, rfl⟩ := settleWorkflow_transact (pure_eq_ok.mp decided)
      exact .of_announced sound effect (by simp [WorkflowEventDataV1.isNeutral]) rfl rfl rfl
    | cancelNodes workflowId nodeIds code at_ =>
      exact cancelNodes_moved sound decided effect strict
    | pause workflowId at_ =>
      obtain rfl := pause_transact decided
      exact .of_announced sound effect
        (by simp [operatorInput, WorkflowEventDataV1.isNeutral]) rfl rfl rfl
    | resume workflowId at_ =>
      obtain rfl := resume_transact decided
      exact .of_announced sound effect
        (by simp [operatorInput, WorkflowEventDataV1.isNeutral]) rfl rfl rfl
    | cancel workflowId code at_ =>
      exact cancel_moved sound (pure_eq_ok.mp decided) effect strict
    | terminate workflowId code at_ =>
      obtain rfl := terminate_transact (pure_eq_ok.mp decided)
      exact .of_announced sound effect
        (by simp [operatorInput, WorkflowEventDataV1.isNeutral]) rfl rfl rfl
    | admitDelegate profiles workflowId parentNodeId proposal kind required attemptUuid taskUuid
        at_ =>
        obtain ⟨_, _, admits⟩ := admitDelegate_transact decided
        exact admits.moved sound effect
    | applyGraphProposal workflowId proposal checkedAt at_ =>
      obtain rfl := applyGraphProposal_transact decided
      exact .of_patch [.workflowGraph] sound effect rfl identity keeps ⟨rfl, rfl, rfl⟩
    | supersedeFailedNodes workflowId nodeIds replacementNodeIds transactionKey at_ =>
      obtain rfl := supersedeFailedNodes_transact decided
      exact .of_patch [] sound effect rfl identity keeps ⟨rfl, rfl, rfl⟩
    | admitHumanTask workflowId request expiresAt humanUuid nodeUuid attemptUuid at_ =>
      obtain ⟨_, _, admits⟩ := admitWaitNode_transact decided
      exact admits.moved sound effect
    | admitTimer workflowId fireAt payload timerUuid nodeUuid attemptUuid at_ =>
      obtain ⟨_, _, admits⟩ := admitWaitNode_transact decided
      exact admits.moved sound effect
    | admitToolActivity workflowId toolName contract nodeUuid attemptUuid taskUuid at_ =>
      obtain ⟨_, _, admits⟩ := admitToolActivity_transact decided
      exact admits.moved sound effect
    | admitAgentGraph profiles workflowId parentNodeId proposalId proposals join at_ =>
      exact admitAgentGraph_moved sound decided effect

end Operations

end Praxis.Workflow
