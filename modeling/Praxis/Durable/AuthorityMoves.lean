import Praxis.Durable.TaskTables

/-!
# The authority's operations as moves

Every accepted operation of the authority takes a sound store along moves (`Moves`); recovery
and timers take one for each task and timer. Only `resolveUnknown` acts on what was read
before, and it insists on the sequence of what it read.
-/

namespace Praxis.Workflow

set_option autoImplicit false

open Praxis.Foundations

/-- An operation that writes neither the journal nor the tasks, or one that moves. -/
inductive Moved (lax : Bool) (before after : AuthorityStore) : Prop
  | still (journal : after.journal = before.journal) (tasks : after.tasks = before.tasks)
  | moved {workflowId : String} {current next : WorkflowProjectionV1}
      (move : Move lax before after workflowId current next)

/-- Moves one after the other. -/
abbrev Moves (lax : Bool) : AuthorityStore → AuthorityStore → Prop :=
  Relation.ReflTransGen (Moved lax)

section Moves

variable {lax : Bool} {before after store : AuthorityStore} {claim : WorkflowTaskClaimV1}

theorem Sound.moved (sound : Sound lax before) (moved : Moved lax before after) :
    Sound lax after := by
  cases moved with
  | still journal tasks =>
    obtain ⟨agrees, coherent, keys, rows, distinct⟩ := sound
    constructor
    · exact journal ▸ agrees
    · exact journal ▸ coherent
    · exact tasks ▸ keys
    · rw [tasks, journal]
      exact rows
    · exact tasks ▸ distinct
  | moved move => exact sound.move move

theorem ClaimSound.moved (sound : Sound lax before)
    (granted : ClaimSound before claim) (moved : Moved lax before after) :
    ClaimSound after claim := by
  cases moved with
  | still journal tasks =>
    obtain ⟨row⟩ := granted
    constructor
    rw [tasks, journal]
    exact row
  | moved move => exact granted.move sound move

theorem Sound.moves (sound : Sound lax before) (moves : Moves lax before after) :
    Sound lax after := by
  induction moves with
  | refl => exact sound
  | tail _ last ih => exact ih.moved last

theorem ClaimSound.moves (sound : Sound lax before)
    (granted : ClaimSound before claim) (moves : Moves lax before after) :
    ClaimSound after claim := by
  induction moves with
  | refl => exact granted
  | tail front last ih => exact ih.moved (sound.moves front) last

end Moves

/-! ## Transactions as moves -/

section Transactions

variable {lax : Bool} {store after : AuthorityStore} {workflowId transactionId : String}
  {at_ : Timestamp} {data : List WorkflowEventDataV1} {current next : WorkflowProjectionV1}
  {attemptId : String} {row : TaskRow}

theorem Advances.coherent (advances : Advances current data next)
    (keeps : KeepsCoherent lax current data) : Coherent lax next := by
  obtain ⟨content, applies, same⟩ := advances.applies
  rw [same]
  exact (keeps applies).restamped _ _

/-- Events that replace the specification. -/
def WorkflowEventDataV1.isPatch : WorkflowEventDataV1 → Bool
  | .graphPatched .. => true
  | _ => false

theorem Applies.nodes (applies : Applies current data next)
    (none : ∀ event ∈ data, event.isPatch = false) :
    ∀ node ∈ current.spec.nodes, node ∈ next.spec.nodes := by
  induction data generalizing current with
  | nil =>
    rw [applies_nil.mp applies]
    exact fun _ member => member
  | cons event rest ih =>
    obtain ⟨middle, effect, others⟩ := applies_cons.mp applies
    rw [List.forall_mem_cons] at none
    intro node member
    refine ih others none.2 node ?_
    cases effect with
    | graphPatched => cases none.1
    | taskAdmitted => exact List.mem_append_left _ member
    | _ => exact member

theorem Advances.nodes (advances : Advances current data next)
    (none : ∀ event ∈ data, event.isPatch = false) :
    ∀ node ∈ current.spec.nodes, node ∈ next.spec.nodes := by
  obtain ⟨content, applies, same⟩ := advances.applies
  rw [same]
  exact applies.nodes none

theorem Advances.patched {spec : WorkflowSpecV1}
    (advances : Advances current (.graphPatched spec :: data) next)
    (none : ∀ event ∈ data, event.isPatch = false) :
    ∀ node ∈ spec.nodes, node ∈ next.spec.nodes := by
  obtain ⟨content, applies, same⟩ := advances.applies
  obtain ⟨middle, effect, others⟩ := applies_cons.mp applies
  obtain ⟨_, _, _, rfl⟩ := effect_graphPatched.mp effect
  rw [same]
  exact others.nodes none

section

variable (advances : Advances current data next)
include advances

theorem Advances.attempt_kept
    {state : WorkflowAttemptStateV1} (found : current.attemptState? attemptId = some state)
    (untouched : ∀ change, .attemptStateChanged change ∈ data → change.attemptId ≠ attemptId) :
    next.attemptState? attemptId = some state := by
  obtain ⟨content, applies, same⟩ := advances.applies
  obtain ⟨attempt, present, rfl⟩ := Option.map_eq_some_iff.mp found
  have kept := applies.attempt_kept present untouched
  rw [same, WorkflowProjectionV1.attemptState?]
  exact congrArg (Option.map (·.state)) kept

theorem Advances.attempt_changed {change : AttemptStateChangedV1}
    (touched : .attemptStateChanged change ∈ data) (id : change.attemptId = attemptId) :
    ∃ last, .attemptStateChanged last ∈ data ∧ last.attemptId = attemptId ∧
      next.attemptState? attemptId = some last.state := by
  obtain ⟨content, applies, same⟩ := advances.applies
  rw [same]
  exact applies.attempt_changed touched id

theorem Advances.attempt_created
    {attempt : WorkflowAttemptProjectionV1} (created : Creates data attempt)
    (known : ∀ change, .attemptStateChanged change ∈ data →
      findAttempt? current.attempts change.attemptId ≠ none) :
    findAttempt? next.attempts attempt.attemptId = some attempt := by
  obtain ⟨content, applies, same⟩ := advances.applies
  rw [same]
  exact (applies.attempt_created created known).2

theorem Advances.stillFits (untouched : ∀ change, .attemptStateChanged change ∈ data →
      change.attemptId ≠ row.task.attemptId) : StillFits lax workflowId current next row := by
  intro _ _ fits
  obtain ⟨state, found, fit⟩ := fits
  exact ⟨state, advances.attempt_kept found untouched, fit⟩

end

theorem Follows.stillFits_unknown (follows : Follows current next)
    (unknown : current.attemptState? row.task.attemptId = some .unknown) :
    StillFits lax workflowId current next row := by
  intro _ _ fits
  obtain ⟨state, known, fit⟩ := fits
  obtain rfl := Option.mem_unique unknown known
  have ended : row.state ≠ .ready ∧ row.state ≠ .leased := by
    cases kind : row.state <;> simp [kind, rowFits] at fit ⊢
  obtain ⟨attempt, present, state⟩ := Option.map_eq_some_iff.mp unknown
  obtain ⟨later, there, after⟩ := follows.persists.attempts _ attempt present
  have settled := settled_of_leads after.state (by simp [state, settledAttempts])
  refine ⟨later.state, ?_, rowFits_of_settled settled ended⟩
  rw [WorkflowProjectionV1.attemptState?, there]
  rfl

theorem Move.of_appended (sound : Sound lax store)
    (appended : Appended store.journal after.journal workflowId transactionId at_ data current next)
    (keeps : KeepsCoherent lax current data)
    (nodes : ∀ node ∈ current.spec.nodes, node ∈ next.spec.nodes)
    (rows : RowsMove lax workflowId current next store.tasks after.tasks) :
    Move lax store after workflowId current next where
  agrees := appended.agrees sound.agrees
  own := by rw [appended.loadProjection sound.agrees, if_pos rfl]
  others := fun other different => by rw [appended.loadProjection sound.agrees, if_neg different]
  origin := fun projection loaded => by
    rw [appended.loaded] at loaded
    cases loaded
    exact ⟨rfl, appended.advances.follows, nodes⟩
  coherent := appended.advances.coherent keeps
  rows := rows

theorem Moved.of_neutral (sound : Sound lax store)
    (appended : Appended store.journal after.journal workflowId transactionId at_ data current next)
    (neutral : ∀ event ∈ data, event.isNeutral = true) (tasks : after.tasks = store.tasks) :
    Moved lax store after := by
  have coherent := sound.coherent _ _ appended.loaded
  refine .moved (.of_appended sound appended (coherent.keepsNeutral neutral)
    (appended.advances.nodes fun event member => ?_) ?_)
  · have quiet := neutral event member
    cases event <;> first | rfl | cases quiet
  · rw [tasks]
    refine .untouched fun key row found => appended.advances.stillFits fun change member => ?_
    have quiet := neutral _ member
    cases quiet

end Transactions

/-! ## Requested tasks and leases -/

section Operations

variable {lax : Bool} {store after : AuthorityStore} {current next : WorkflowProjectionV1}

theorem TaskLinked.of_created (task : WorkflowTaskV1) {data : List WorkflowEventDataV1}
    {ordinal : Nat} (advances : Advances current data next)
    (created : Creates data (scheduledAttempt task.attemptId task.nodeId ordinal))
    (known : ∀ change, .attemptStateChanged change ∈ data →
      findAttempt? current.attempts change.attemptId ≠ none)
    (specified : ∃ node ∈ next.spec.nodes, node.nodeId = task.nodeId ∧ node.retry = task.retry) :
    TaskLinked next task ∧ next.attemptState? task.attemptId = some .scheduled := by
  have found := advances.attempt_created created known
  have present : findAttempt? next.attempts task.attemptId =
      some (scheduledAttempt task.attemptId task.nodeId ordinal) := found
  refine ⟨⟨specified, _, present, rfl⟩, ?_⟩
  rw [WorkflowProjectionV1.attemptState?, present]
  rfl

variable {taskUuid attemptUuid : Uuid} {options : ClaimOptionsV1} {rows : List TaskRow}
  {taskId leaseToken key nodeId : String} {change : AttemptStateChangedV1}
  {oldAttempt attempt : WorkflowAttemptProjectionV1} {row : TaskRow} {kind : WorkflowNodeKindV1}
  {attemptState : WorkflowAttemptStateV1} {nodeState : WorkflowNodeStateV1} {code : Option String}
  {task : WorkflowTaskV1} {now at_ : Timestamp} {decision : WorkflowRecoveryDecisionV1}
  {retry : WorkflowAttemptProjectionV1} {ids : RecoveryIds} {workflowId : String}

theorem admitTaskForRequest_moved {request : ReviewPlanExecutionRequestV1}
    {taskSpec : WorkflowTaskSpecV1} {requestDigest : String} {answer : WorkflowTaskV1 × Bool}
    (sound : Sound lax store)
    (accepted : admitTaskForRequest store request taskSpec requestDigest taskUuid attemptUuid =
      .ok (answer, after)) : Moved lax store after := by
  rcases admitTaskForRequest_ok accepted with
    rfl | ⟨current, next, journal, logged, _, appended, _, inserted, same⟩
  · exact .still rfl rfl
  · have advances := appended.advances
    obtain ⟨content, applies, equal⟩ := advances.applies
    have effect := applies_singleton.mp applies
    have coherent := sound.coherent _ _ appended.loaded
    have nodes := advances.nodes (by simp [WorkflowEventDataV1.isPatch])
    have specified : taskSpec.node ∈ next.spec.nodes := by
      rw [equal]
      cases effect with
      | announced announces => cases announces
      | recorded only => cases only
      | taskAdmitted => exact List.mem_append_right _ (List.mem_singleton_self _)
    have list : [requestedTask current request taskSpec ("task-" ++ taskUuid.text)
        ("attempt-" ++ attemptUuid.text)].foldlM (insertTask logged) store.tasks =
        .ok after.tasks := foldlM_cons_eq_ok.mpr ⟨_, inserted, foldlM_nil_eq_ok.mpr rfl⟩
    have owner : current.workflowId = request.workflowId := by
      obtain ⟨row, stored, rfl⟩ := Journal.loadProjection_eq_ok.mp appended.loaded
      exact sound.agrees.owner _ _ stored
    rw [same]
    refine .moved (.of_appended sound appended (fun _ applies => ?_) nodes
      ((RowsMove.untouched fun key row found => advances.stillFits (by simp)).insert
        (insertTasks_ok list) fun task member => ?_))
    · exact coherent.taskAdmitted (applies_singleton.mp applies) rfl
    · obtain rfl := List.mem_singleton.mp member
      obtain ⟨linked, scheduled⟩ := TaskLinked.of_created
        (requestedTask current request taskSpec ("task-" ++ taskUuid.text)
          ("attempt-" ++ attemptUuid.text)) advances
        (.inr ⟨_, _, _, List.mem_singleton_self _⟩) (by simp)
        ⟨taskSpec.node, specified, rfl, rfl⟩
      refine ⟨owner, linked, scheduled, ?_⟩
      rw [advances.sequence]
      exact Nat.lt_succ_self _

theorem findClaimable_mem {journal : Journal} {occupied : List String}
    {active : List (String × ActiveCapacityGroup)} {candidates : List WorkflowTaskV1}
    (found : findClaimable journal options occupied active candidates = .ok (some task)) :
    task ∈ candidates ∧ mayClaim journal options occupied active task = .ok true := by
  induction candidates with
  | nil => cases found
  | cons candidate rest ih =>
    simp only [findClaimable, bind_eq_ok] at found
    obtain ⟨may, checked, taken⟩ := found
    cases may with
    | true =>
      obtain rfl := Option.some.inj (pure_eq_ok.mp taken)
      exact ⟨List.mem_cons_self .., checked⟩
    | false =>
      obtain ⟨member, claimable⟩ := ih taken
      exact ⟨List.mem_cons_of_mem _ member, claimable⟩

theorem parseTasks_ok {tasks : List WorkflowTaskV1} (parsed : rows.mapM parseTask = .ok tasks) :
    tasks = rows.map (·.task) := by
  have each := mapM_eq_ok.mp parsed
  clear parsed
  induction each with
  | nil => rfl
  | cons first _ ih =>
    simp only [parseTask, bind_eq_ok, ensure_eq_ok, pure_eq_ok] at first
    obtain ⟨_, _, rfl⟩ := first
    rw [ih, List.map_cons]

theorem selectTask_ready (selected : selectTask store options now = .ok (some task)) :
    ∃ key row, store.tasks.get? key = some row ∧ row.task = task ∧ row.state = .ready := by
  simp only [selectTask, bind_eq_ok] at selected
  obtain ⟨_, _, _, _, candidates, parsed, found⟩ := selected
  rw [parseTasks_ok parsed] at found
  obtain ⟨row, member, rfl⟩ := List.mem_map.mp (findClaimable_mem found).1
  have candidate := List.mem_of_mem_take member
  rw [List.mem_insertionSort, List.mem_filter] at candidate
  obtain ⟨stored, ready⟩ := candidate
  simp only [Bool.and_eq_true, beq_iff_eq] at ready
  obtain ⟨key, found⟩ := store.tasks.mem_values_iff.mp stored
  exact ⟨key, row, found, rfl, ready.1.1⟩

theorem claim_moved {workerId : String} {uuid : Uuid}
    {claimed : Option WorkflowTaskClaimV1} (sound : Sound lax store)
    (accepted : claim store workerId options now uuid = .ok (claimed, after)) :
    Moved lax store after ∧ ∀ given, claimed = some given → ClaimSound after given := by
  rcases claim_ok accepted with ⟨rfl, rfl⟩ | ⟨task, expiresAt, journal, current, next, selected, _,
    _, rfl, rfl, appended⟩
  · exact ⟨.still rfl rfl, by simp⟩
  · obtain ⟨key, row, found, rfl, ready⟩ := selectTask_ready selected
    have id := sound.keys key row found
    obtain ⟨projection, loaded, linked, fits⟩ := (sound.rows key row found).loaded
    rw [appended.loaded] at loaded
    cases loaded
    have advances := appended.advances
    have coherent := sound.coherent _ _ appended.loaded
    obtain ⟨last, member, _, leased⟩ := advances.attempt_changed
      (List.mem_cons_of_mem _ (List.mem_singleton_self _)) rfl
    have state : last.state = .leased := by
      simp only [leaseEvents, List.mem_cons, reduceCtorEq, List.not_mem_nil, or_false,
        WorkflowEventDataV1.attemptStateChanged.injEq, false_or] at member
      rw [member]
    rw [state] at leased
    refine ⟨.moved (.of_appended sound appended (coherent.lease linked.owns _ _)
      (advances.nodes (by simp [leaseEvents, WorkflowEventDataV1.isPatch]))
      (id ▸ .update found (.leased rfl rfl ready ⟨rfl, _, rfl, rfl⟩ rfl leased)
        fun other stored different there => advances.stillFits ?_)), ?_⟩
    · intro change inside same
      simp only [leaseEvents, List.mem_cons, reduceCtorEq, List.not_mem_nil, or_false,
        WorkflowEventDataV1.attemptStateChanged.injEq, false_or] at inside
      rw [inside] at same
      exact different (sound.distinct _ _ _ _ there found same.symm)
    · intro given same
      obtain rfl := Option.some.inj same
      refine ⟨_, Table.get?_update_self _ _ (id ▸ found), rfl, by simp, fun _ => rfl,
        fun ended => absurd rfl ended⟩

theorem heartbeat_moved {progress : Bool} {lease : WorkflowTaskLeaseV1} (sound : Sound lax store)
    (accepted : heartbeat store taskId leaseToken progress now = .ok (lease, after)) :
    Moved lax store after := by
  obtain ⟨row, held, found, leased, holds, token, _, _, same, rfl⟩ := heartbeat_ok accepted
  have prior := sound.rows taskId row found
  have state := prior.column.symm.trans leased
  obtain ⟨projection, loaded, linked, fits⟩ := prior.loaded
  have move : Move lax store
      { store with
        tasks := store.tasks.update taskId
          { row with
            task := { row.task with lease := some lease, updatedAt := now }
            leaseExpiresAt := some lease.expiresAt } }
      row.task.workflowId projection projection :=
    { agrees := sound.agrees
      own := loaded
      others := fun _ _ => rfl
      origin := fun other there => by
        rw [loaded] at there
        cases there
        exact ⟨rfl, .refl _, fun _ member => member⟩
      coherent := sound.coherent _ _ loaded
      rows := .update found
        (.renewed rfl rfl state ⟨state, lease, rfl, rfl⟩ leased (by simp [holds, same]) id)
        fun _ _ _ _ _ _ fits => fits }
  exact .moved move

theorem bindTaskCapabilityBundle_moved {ref : VersionedWorkflowRefV1}
    {bound : WorkflowTaskV1} (sound : Sound lax store)
    (accepted : bindTaskCapabilityBundle store taskId leaseToken ref at_ = .ok (bound, after)) :
    Moved lax store after := by
  obtain ⟨row, journal, current, next, _, found, holds, rfl, rfl, appended⟩ :=
    bindTaskCapabilityBundle_ok accepted
  have prior := sound.rows taskId row found
  simp only [holdsLease, Bool.and_eq_true, beq_iff_eq] at holds
  have state := prior.column.symm.trans holds.1
  obtain ⟨_, lease, given, expires⟩ := prior.held state
  have advances := appended.advances
  have coherent := sound.coherent _ _ appended.loaded
  have quiet : ∀ stored : TaskRow, StillFits lax row.task.workflowId current next stored :=
    fun _ => advances.stillFits (by simp)
  obtain ⟨projection, loaded, linked, _⟩ := prior.loaded
  rw [appended.loaded] at loaded
  cases loaded
  refine .moved (.of_appended sound appended
    (coherent.keepsNeutral (by simp [WorkflowEventDataV1.isNeutral]))
    (advances.nodes (by simp [WorkflowEventDataV1.isPatch]))
    (.update found (.renewed rfl rfl state ⟨state, lease, given, expires⟩ holds.1 rfl
      (quiet row rfl linked)) fun _ stored _ _ => quiet stored))

/-! ## Recovery -/

theorem recoveryEvents_changes
    (member : .attemptStateChanged change ∈ recoveryEvents task decision retry now) :
    change.attemptId = task.attemptId ∧ change.state ∈ settledAttempts := by
  simp only [recoveryEvents, List.mem_append] at member
  rcases member with first | second
  · simp only [settleEvents, List.mem_cons, reduceCtorEq, List.not_mem_nil, or_false,
      WorkflowEventDataV1.attemptStateChanged.injEq] at first
    subst first
    simp [settledAttempts]
  · split at second
    · simp only [settleEvents, List.cons_append, List.nil_append, List.mem_cons, reduceCtorEq,
        List.not_mem_nil, or_false, WorkflowEventDataV1.attemptStateChanged.injEq] at second
      subst second
      simp [settledAttempts]
    · simp only [settleEvents, List.mem_cons, reduceCtorEq, List.not_mem_nil, or_false,
        WorkflowEventDataV1.attemptStateChanged.injEq] at second
      subst second
      simp [settledAttempts]
    · exact absurd second List.not_mem_nil

theorem recoveryEvents_first :
    .attemptStateChanged
        { attemptId := task.attemptId
          state := .unknown
          changedAt := now
          errorCode := some decision.code } ∈ recoveryEvents task decision retry now :=
  List.mem_append_left _ (List.mem_cons_self ..)

theorem recoveryEvents_isPatch :
    ∀ event ∈ recoveryEvents task decision retry now, event.isPatch = false := by
  cases choice : decision.decision <;>
    simp [recoveryEvents, settleEvents, choice, WorkflowEventDataV1.isPatch]

theorem terminalRecoveryEvents_changes
    (member : .attemptStateChanged change ∈ terminalRecoveryEvents current oldAttempt task now) :
    change.attemptId = task.attemptId ∧ change.state = .cancelled := by
  simp only [terminalRecoveryEvents, List.mem_append] at member
  rcases member with first | second
  · split at first
    · exact absurd first List.not_mem_nil
    · simp only [List.mem_singleton, WorkflowEventDataV1.attemptStateChanged.injEq] at first
      subst first
      exact ⟨rfl, rfl⟩
  · split at second
    · exact absurd second List.not_mem_nil
    · split at second <;> simp at second

theorem terminalRecoveryEvents_isPatch :
    ∀ event ∈ terminalRecoveryEvents current oldAttempt task now, event.isPatch = false := by
  intro event member
  simp only [terminalRecoveryEvents, List.mem_append] at member
  rcases member with first | second
  · split at first
    · exact absurd first List.not_mem_nil
    · rw [List.mem_singleton.mp first]
      rfl
  · split at second
    · exact absurd second List.not_mem_nil
    · split at second
      · exact absurd second List.not_mem_nil
      · rw [List.mem_singleton.mp second]
        rfl

theorem Sound.held_attempt (sound : Sound lax store)
    (found : store.tasks.get? row.task.taskId = some row) (leased : row.state = .leased)
    (loaded : store.journal.loadProjection row.task.workflowId = .ok current)
    (present : findAttempt? current.attempts row.task.attemptId = some attempt) :
    TaskLinked current row.task ∧ attempt.nodeId = row.task.nodeId ∧
      (attempt.state = .leased ∨ attempt.state = .running) := by
  obtain ⟨projection, there, linked, state, known, fits⟩ := (sound.rows _ row found).loaded
  rw [loaded] at there
  cases there
  rw [WorkflowProjectionV1.attemptState?, present] at known
  obtain rfl := Option.some.inj known
  obtain ⟨other, same, owner⟩ := linked.owns
  obtain rfl := Option.mem_unique present same
  refine ⟨linked, owner, ?_⟩
  rw [leased] at fits
  cases state : attempt.state <;> simp [state, rowFits] at fits ⊢

theorem RecoverEffect.stays {decision : Option WorkflowRecoveryDecisionV1}
    (effect : RecoverEffect store row ids now decision after) {stored : TaskRow}
    (other : key ≠ row.task.taskId) (found : store.tasks.get? key = some stored) :
    after.tasks.get? key = some stored := by
  cases effect with
  | ended => rw [Table.get?_update_ne _ _ other, found]
  | retried _ _ _ _ inserted =>
    have list := foldlM_cons_eq_ok.mpr ⟨_, inserted, foldlM_nil_eq_ok.mpr rfl⟩
    exact (insertTasks_ok list).stays key stored (by rw [Table.get?_update_ne _ _ other, found])
  | settled => rw [Table.get?_update_ne _ _ other, found]

/-- What each recovery of a listed task keeps, the recovery of all of them keeps: every row is still
stored when its turn comes. -/
theorem recoverTasks_listed {ids : Nat → RecoveryIds} (Inv : AuthorityStore → Prop)
    {rows : List TaskRow}
    (keeps : ∀ row ∈ rows, ∀ before ids decision after, Inv before →
      before.tasks.get? row.task.taskId = some row →
      RecoverEffect before row ids now decision after → Inv after) :
    ∀ {index : Nat} {store after : AuthorityStore} {decisions : List WorkflowRecoveryDecisionV1},
      (rows.map (·.task.taskId)).Nodup →
      (∀ row ∈ rows, store.tasks.get? row.task.taskId = some row) → Inv store →
      recoverTasks ids now index rows store = .ok (decisions, after) → Inv after := by
  induction rows with
  | nil =>
    intro index store after decisions _ _ inv accepted
    obtain ⟨_, rfl⟩ := Prod.mk.inj (pure_eq_ok.mp accepted)
    exact inv
  | cons row rest ih =>
    intro index store after decisions distinct listed inv accepted
    simp only [recoverTasks, bind_eq_ok, pure_eq_ok, Prod.mk.injEq, Prod.exists] at accepted
    obtain ⟨decision, middle, first, _, _, others, _, rfl⟩ := accepted
    have effect := recoverTask_ok first
    rw [List.forall_mem_cons] at listed keeps
    rw [List.map_cons, List.nodup_cons] at distinct
    refine ih keeps.2 distinct.2 (fun other member => ?_)
      (keeps.1 _ _ _ _ inv listed.1 effect) others
    refine effect.stays (fun same => distinct.1 ?_) (listed.2 other member)
    exact same ▸ List.mem_map_of_mem member

theorem recoveredTaskState_over (decision : WorkflowRecoveryChoiceV1) :
    recoveredTaskState decision ≠ .ready ∧ recoveredTaskState decision ≠ .leased := by
  cases decision <;> simp [recoveredTaskState]

theorem recoveryDecision_retry (retry : (recoveryDecision task oldAttempt).decision = .retry) :
    (oldAttempt.ordinal : Int) < task.retry.maxAttempts := by
  by_contra exhausted
  by_cases safe : isReplayable task.effect.effectClass = true <;>
    simp [recoveryDecision, exhausted, safe] at retry

theorem RecoverEffect.moved (sound : Sound lax store) {decision : Option WorkflowRecoveryDecisionV1}
    (stored : store.tasks.get? row.task.taskId = some row) (leased : row.state = .leased)
    (effect : RecoverEffect store row ids now decision after) : Moved lax store after := by
  -- No other row is for the attempt that changes.
  have apart : ∀ {current next data}, Advances current data next →
      (∀ change, .attemptStateChanged change ∈ data → change.attemptId = row.task.attemptId) →
      ∀ key other, key ≠ row.task.taskId → store.tasks.get? key = some other →
        StillFits lax row.task.workflowId current next other := by
    intro current next data advances own key other different there
    refine advances.stillFits fun change member same => different ?_
    exact sound.distinct _ _ _ _ there stored (same.symm.trans (own change member))
  cases effect with
  | @ended current next oldAttempt journal found terminal appended =>
    have coherent := sound.coherent _ _ appended.loaded
    have advances := appended.advances
    obtain ⟨linked, owner, held⟩ := sound.held_attempt stored leased appended.loaded found
    have settled : next.attemptState? row.task.attemptId = some .cancelled := by
      have live : oldAttempt.state ∉
          [WorkflowAttemptStateV1.succeeded, .failed, .cancelled, .unknown] := by
        rcases held with state | state <;> simp [state]
      have touched : .attemptStateChanged
          { attemptId := row.task.attemptId
            state := .cancelled
            changedAt := now
            errorCode := some "WORKFLOW_PARENT_TERMINAL" } ∈
          terminalRecoveryEvents current oldAttempt row.task now := by
        rw [terminalRecoveryEvents, if_neg live]
        exact List.mem_append_left _ (List.mem_singleton_self _)
      obtain ⟨last, member, _, state⟩ := advances.attempt_changed touched rfl
      rw [state, (terminalRecoveryEvents_changes member).2]
    exact .moved (.of_appended sound appended (coherent.terminalRecovery found owner held)
      (advances.nodes terminalRecoveryEvents_isPatch)
      (.update stored (.retired rfl leased (by simp) ⟨_, by simp [settledAttempts], settled⟩)
        (apart advances fun _ member => (terminalRecoveryEvents_changes member).1)))
  | @retried current next oldAttempt journal tasks readyAt found _ retry ready inserted appended =>
    have coherent := sound.coherent _ _ appended.loaded
    have advances := appended.advances
    obtain ⟨linked, _, _⟩ := sound.held_attempt stored leased appended.loaded found
    obtain ⟨last, member, _, state⟩ := advances.attempt_changed recoveryEvents_first rfl
    have nodes := advances.nodes recoveryEvents_isPatch
    have list := foldlM_cons_eq_ok.mpr ⟨_, inserted, foldlM_nil_eq_ok.mpr rfl⟩
    have created : Creates (recoveryEvents row.task (recoveryDecision row.task oldAttempt)
        (scheduledAttempt ("attempt-" ++ ids.attempt.text) row.task.nodeId
          (oldAttempt.ordinal + 1)) now)
        (scheduledAttempt ("attempt-" ++ ids.attempt.text) row.task.nodeId
          (oldAttempt.ordinal + 1)) := by
      refine .inl ?_
      simp [recoveryEvents, retry]
    refine .moved (.of_appended sound appended
      (coherent.recovery linked fun _ => recoveryDecision_retry retry) nodes
      ((RowsMove.update stored (.retired rfl leased (by simp)
        ⟨_, (recoveryEvents_changes member).2, state⟩)
        (apart advances fun _ inside => (recoveryEvents_changes inside).1)).insert
          (insertTasks_ok list) fun task inside => ?_))
    obtain rfl := List.mem_singleton.mp inside
    have specified := (linked.follows advances.follows nodes).specified
    obtain ⟨new, scheduled⟩ := TaskLinked.of_created
      (retryTaskOf row.task ("task-" ++ ids.task.text) ("attempt-" ++ ids.attempt.text) readyAt
        now) advances created
      (fun change inside => by
        rw [(recoveryEvents_changes inside).1, found]
        simp) specified
    refine ⟨rfl, new, scheduled, ?_⟩
    rw [advances.sequence]
    exact Nat.lt_add_of_pos_right (List.length_pos_of_mem recoveryEvents_first)
  | @settled current next oldAttempt journal found _ choice appended =>
    have coherent := sound.coherent _ _ appended.loaded
    have advances := appended.advances
    obtain ⟨linked, _, _⟩ := sound.held_attempt stored leased appended.loaded found
    obtain ⟨last, member, _, state⟩ := advances.attempt_changed recoveryEvents_first rfl
    exact .moved (.of_appended sound appended
      (coherent.recovery linked fun retry => absurd retry choice)
      (advances.nodes recoveryEvents_isPatch)
      (.update stored (.retired rfl leased (recoveredTaskState_over _)
        ⟨_, (recoveryEvents_changes member).2, state⟩)
        (apart advances fun _ member => (recoveryEvents_changes member).1)))

theorem expiredTasks_listed
    (keys : ∀ key row, store.tasks.get? key = some row → row.task.taskId = key) (now : Timestamp) :
    ((expiredTasks store now).map (·.task.taskId)).Nodup ∧
      ∀ row ∈ expiredTasks store now,
        store.tasks.get? row.task.taskId = some row ∧ row.state = .leased := by
  have own : ∀ entry ∈ store.tasks.rows, entry.2.task.taskId = entry.1 := fun entry member =>
    keys entry.1 entry.2 (store.tasks.mem_rows_iff.mp member)
  have values : store.tasks.values.map (·.task.taskId) = store.tasks.rows.map Prod.fst := by
    rw [Table.values, List.map_map]
    exact List.map_congr_left own
  have nodup : (store.tasks.values.map (·.task.taskId)).Nodup := values ▸ store.tasks.unique
  constructor
  · rw [expiredTasks]
    refine ((List.perm_insertionSort _ _).map _).nodup_iff.mpr ?_
    exact nodup.sublist (List.filter_sublist.map _)
  · intro row member
    rw [expiredTasks, List.mem_insertionSort, List.mem_filter] at member
    obtain ⟨stored, expired⟩ := member
    simp only [isExpired, Bool.and_eq_true, beq_iff_eq] at expired
    obtain ⟨key, found⟩ := store.tasks.mem_values_iff.mp stored
    rw [keys key row found]
    exact ⟨found, expired.1⟩

theorem recoverExpired_moves {ids : Nat → RecoveryIds}
    {decisions : List WorkflowRecoveryDecisionV1} (sound : Sound lax store)
    (accepted : recoverExpired store now ids = .ok (decisions, after)) : Moves lax store after := by
  obtain ⟨distinct, listed⟩ := expiredTasks_listed sound.keys now
  refine recoverTasks_listed (Moves lax store) (fun row member before _ _ _ moves found effect => ?_)
    distinct (fun row member => (listed row member).1) .refl accepted
  exact .tail moves (effect.moved (sound.moves moves) found (listed row member).2)

/-! ## Wake-ups -/

theorem wakeNodeEvents_waiting (coherent : Coherent lax current)
    (member : .attemptStateChanged change ∈
      wakeNodeEvents current nodeId kind attemptState nodeState code at_) :
    current.attemptState? change.attemptId = some .waiting := by
  rw [wakeNodeEvents] at member
  split at member
  · rename_i node spec found _
    obtain ⟨inside, rfl⟩ := findNode?_mem found
    split at member
    · rename_i attemptId last
      split at member
      · rename_i waits
        simp only [List.mem_cons, reduceCtorEq, List.not_mem_nil, or_false,
          WorkflowEventDataV1.attemptStateChanged.injEq] at member
        subst member
        rw [coherent.attemptIds_last inside] at last
        obtain ⟨attempt, newest, rfl⟩ := Option.map_eq_some_iff.mp last
        have present := (mem_attemptsOf.mp (List.mem_of_getLast? newest)).1
        have pair := coherent.pairs node inside
        rw [waits.1, WorkflowProjectionV1.lastState, newest, Option.map_some] at pair
        change current.attemptState? attempt.attemptId = _
        rw [WorkflowProjectionV1.attemptState?, coherent.wellFormed.findAttempt? present]
        cases state : attempt.state <;> simp [state, paired] at pair ⊢
      · exact absurd member List.not_mem_nil
    · exact absurd member List.not_mem_nil
  · exact absurd member List.not_mem_nil

theorem wakeNodeEvents_isPatch :
    ∀ event ∈ wakeNodeEvents current nodeId kind attemptState nodeState code at_,
      event.isPatch = false := by
  intro event member
  rw [wakeNodeEvents] at member
  split at member
  · split at member
    · split at member
      · simp only [List.mem_cons, List.not_mem_nil, or_false] at member
        rcases member with rfl | rfl <;> rfl
      · exact absurd member List.not_mem_nil
    · exact absurd member List.not_mem_nil
  · exact absurd member List.not_mem_nil

section

variable (sound : Sound lax store)
include sound

theorem Moved.of_wakeUp {transactionId : String} {event : WorkflowEventDataV1}
    (appended : Appended store.journal after.journal workflowId transactionId at_
      (event :: (wakeNodeEvents current nodeId kind attemptState nodeState code at_ ++
        resumeIfWaiting current)) current next) (only : event.isRecordOnly = true)
    (pair : paired lax (isClosed current.state) nodeState (some attemptState) = true)
    (tasks : after.tasks = store.tasks) : Moved lax store after := by
  have coherent := sound.coherent _ _ appended.loaded
  have advances := appended.advances
  refine .moved (.of_appended sound appended (coherent.wakeUp only pair)
    (advances.nodes fun other member => ?_) ?_)
  · rcases List.mem_cons.mp member with rfl | inside
    · cases other <;> first | rfl | cases only
    · rcases List.mem_append.mp inside with wake | resume
      · exact wakeNodeEvents_isPatch other wake
      · have neutral := resumeIfWaiting_neutral other resume
        cases other <;> first | rfl | cases neutral
  · rw [tasks]
    refine .untouched fun key row found own linked fits => ?_
    obtain ⟨state, known, fit⟩ := fits
    have untouched : ∀ change, .attemptStateChanged change ∈
        event :: (wakeNodeEvents current nodeId kind attemptState nodeState code at_ ++
          resumeIfWaiting current) → change.attemptId ≠ row.task.attemptId := by
      intro change member same
      rcases List.mem_cons.mp member with rfl | inside
      · cases only
      · rcases List.mem_append.mp inside with wake | resume
        · have waits := wakeNodeEvents_waiting coherent wake
          rw [same, known] at waits
          obtain rfl := Option.some.inj waits
          cases kind : row.state <;> rw [kind] at fit <;> cases fit
        · have neutral := resumeIfWaiting_neutral _ resume
          cases neutral
    exact ⟨state, advances.attempt_kept known untouched, fit⟩

theorem signal_moved {input : WorkflowSignalV1} {received : Bool}
    (accepted : signal store input = .ok (received, after)) : Moved lax store after := by
  rcases signal_ok accepted with ⟨_, _, rfl⟩ | ⟨_, _, current, _, _, _, rfl, appended⟩
  · exact .still rfl rfl
  · refine .of_neutral sound appended (fun event member => ?_) rfl
    rcases List.mem_cons.mp member with rfl | resume
    · rfl
    · exact resumeIfWaiting_neutral event resume

theorem fireDueTimers_moves {fired : List WorkflowTimerV1}
    (accepted : fireDueTimers store now = .ok (fired, after)) :
    Moves lax store after := by
  simp only [fireDueTimers, bind_eq_ok, ensure_eq_ok] at accepted
  obtain ⟨_, _, run⟩ := accepted
  refine foldlM_invariant (fun state : List WorkflowTimerV1 × AuthorityStore =>
    Moves lax store state.2) ?_ .refl run
  rintro ⟨_, before⟩ row ⟨_, after⟩ moves fires
  obtain ⟨journal, current, next, _, rfl, appended⟩ := fireTimer_ok fires
  exact moves.trans (.single (.of_wakeUp (sound.moves moves) appended rfl rfl rfl))

theorem resolveHumanTask_moved {humanTaskId : String} {state : HumanResolutionV1}
    {resolution : Json} {resolved : WorkflowHumanTaskV1}
    (accepted : resolveHumanTask store humanTaskId state resolution at_ = .ok (resolved, after)) :
    Moved lax store after := by
  rcases resolveHumanTask_ok accepted with ⟨_, _, rfl⟩ | ⟨_, _, _, _, _, _, _, rfl, appended⟩
  · exact .still rfl rfl
  · exact .of_wakeUp sound appended rfl (state.pair _) rfl

theorem reserveEffect_moved {inputDigest attemptId : String}
    {leaseExpiresAt : Timestamp} {admission : WorkflowEffectAdmissionV1}
    (accepted : reserveEffect store workflowId key inputDigest attemptId leaseExpiresAt at_ =
      .ok (admission, after)) : Moved lax store after := by
  cases reserveEffect_ok accepted with
  | granted _ _ _ _ _ _ appended =>
    exact .of_neutral sound appended (by simp [WorkflowEventDataV1.isNeutral]) rfl
  | replayed _ _ _ _ appended =>
    exact .of_neutral sound appended (by simp [WorkflowEventDataV1.isNeutral]) rfl
  | refused => exact .still rfl rfl

theorem markEffectCompensated_moved {source compensation : String}
    {receipt : WorkflowEffectReceiptV1}
    (accepted : markEffectCompensated store workflowId source compensation at_ =
      .ok (receipt, after)) : Moved lax store after := by
  rcases markEffectCompensated_ok accepted with rfl | ⟨_, _, _, _, _, _, _, _, rfl, appended⟩
  · exact .still rfl rfl
  · exact .of_neutral sound appended (by simp [WorkflowEventDataV1.isNeutral]) rfl

end

/-! ## Operator decisions -/

theorem Coherent.latestAttempt (coherent : Coherent lax current) {node : WorkflowNodeProjectionV1}
    (found : findNode? current.nodes nodeId = some node)
    (latest : latestAttempt current node = some attempt) :
    findAttempt? current.attempts attempt.attemptId = some attempt ∧ attempt.nodeId = nodeId ∧
      current.lastState nodeId = some attempt.state := by
  obtain ⟨member, rfl⟩ := findNode?_mem found
  obtain ⟨attemptId, last, present⟩ := Option.bind_eq_some_iff.mp latest
  obtain ⟨_, same⟩ := findAttempt?_mem present
  rw [coherent.attemptIds_last member] at last
  obtain ⟨newest, there, id⟩ := Option.map_eq_some_iff.mp last
  obtain ⟨inside, owner⟩ := mem_attemptsOf.mp (List.mem_of_getLast? there)
  have stored := coherent.wellFormed.findAttempt? inside
  rw [id, present] at stored
  obtain rfl := Option.some.inj stored
  refine ⟨same ▸ present, owner, ?_⟩
  rw [WorkflowProjectionV1.lastState, there]
  rfl

theorem retryNode_moved (sound : Sound lax store)
    (accepted : retryNode store workflowId nodeId at_ attemptUuid taskUuid = .ok (next, after)) :
    Moved lax store after := by
  obtain ⟨current, node, attempt, row, readyAt, journal, found, latest, _, failed, stored, owner,
    own, bound, inserted, same, appended⟩ := retryNode_ok accepted
  obtain ⟨key, there⟩ := store.tasks.mem_values_iff.mp stored
  obtain ⟨projection, loaded, linked, _⟩ := (sound.rows key row there).loaded
  rw [owner, appended.loaded] at loaded
  cases loaded
  have coherent := sound.coherent _ _ appended.loaded
  have advances := appended.advances
  obtain ⟨_, _, last⟩ := coherent.latestAttempt found latest
  rw [failed] at last
  have nodes := advances.nodes (by simp [WorkflowEventDataV1.isPatch])
  have list := foldlM_cons_eq_ok.mpr ⟨_, inserted, foldlM_nil_eq_ok.mpr rfl⟩
  have keeps : KeepsCoherent lax current
      [.nodeStateChanged { nodeId, state := .retryWait },
        .attemptCreated (scheduledAttempt ("attempt-" ++ attemptUuid.text) nodeId
          (attempt.ordinal + 1)),
        .nodeStateChanged { nodeId, state := .scheduled }] := by
    refine coherent.reschedule last fun spec member id => ?_
    have policy := coherent.maxAttempts_eq linked spec member (id.trans own.symm)
    omega
  rw [same]
  refine .moved (.of_appended sound appended keeps nodes
    ((RowsMove.untouched fun key row found => advances.stillFits (by simp)).insert
      (insertTasks_ok list) fun task inside => ?_))
  obtain rfl := List.mem_singleton.mp inside
  have created : Creates
      [.nodeStateChanged { nodeId, state := .retryWait },
        .attemptCreated (scheduledAttempt ("attempt-" ++ attemptUuid.text) nodeId
          (attempt.ordinal + 1)),
        .nodeStateChanged { nodeId, state := .scheduled }]
      (scheduledAttempt ("attempt-" ++ attemptUuid.text) row.task.nodeId (attempt.ordinal + 1)) :=
    .inl (by simp [own])
  obtain ⟨new, scheduled⟩ := TaskLinked.of_created
    (retryTaskOf row.task ("task-" ++ taskUuid.text) ("attempt-" ++ attemptUuid.text) readyAt at_)
    advances created (by simp)
    (linked.follows advances.follows nodes).specified
  refine ⟨owner, new, scheduled, ?_⟩
  rw [advances.sequence]
  exact Nat.lt_add_of_pos_right (by simp)

theorem TransactEffect.current_eq {read : Journal} {input : WorkflowTransactionV1}
    {projection : WorkflowProjectionV1} (effect : TransactEffect store input current next after)
    (earlier : read.Before store.journal)
    (loaded : read.loadProjection input.workflowId = .ok projection)
    (expects : input.expectedSequence = projection.sequence) : projection = current := by
  obtain ⟨later, there, follows⟩ := earlier _ _ loaded
  rw [effect.appended.loaded] at there
  cases there
  have sequence := effect.sequence
  refine (follows.same ?_).symm
  omega

theorem resolveUnknown_moved {read listed : AuthorityStore}
    {resolution : UnknownResolutionV1} (sound : Sound lax store)
    (agrees : read.journal.Agrees) (earlier : read.journal.Before store.journal)
    (accepted : resolveUnknown read listed store workflowId nodeId resolution code at_ =
      .ok (next, after)) : Moved lax store after := by
  obtain ⟨projection, tasks, input, loaded, _, built, applied⟩ := resolveUnknown_ok accepted
  rcases transact_ok applied with ⟨_, rfl⟩ | ⟨_, current, effect⟩
  · exact .still rfl rfl
  · simp only [resolveUnknownTransaction, bind_eq_ok, ensure_eq_ok, orError_eq_ok, pure_eq_ok,
      Bool.and_eq_true, beq_iff_eq] at built
    obtain ⟨node, found, attempt, latest, _, ⟨_, unknown⟩, _, _, rfl⟩ := built
    have owner : projection.workflowId = workflowId := by
      obtain ⟨row, stored, rfl⟩ := Journal.loadProjection_eq_ok.mp loaded
      exact agrees.owner _ _ stored
    obtain rfl := effect.current_eq earlier (owner ▸ loaded) rfl
    have coherent := sound.coherent _ _ effect.appended.loaded
    have advances := effect.appended.advances
    obtain ⟨present, own, _⟩ := coherent.latestAttempt found latest
    refine .moved (.of_appended sound effect.appended
      (coherent.settle ⟨attempt, present, own⟩ (resolution.pair _))
      (advances.nodes (by simp [WorkflowEventDataV1.isPatch]))
      (effect.rowsMove sound (by simp) (by simp) (by simp) (fun key row _ _ _ => ?_) (.inl rfl)))
    by_cases same : row.task.attemptId = attempt.attemptId
    · refine advances.follows.stillFits_unknown ?_
      rw [same, WorkflowProjectionV1.attemptState?, present, Option.map_some, unknown]
    · refine advances.stillFits fun change member id => same ?_
      simp only [List.mem_cons, reduceCtorEq, List.not_mem_nil, or_false,
        WorkflowEventDataV1.attemptStateChanged.injEq] at member
      rw [member] at id
      exact id.symm

/-- **Every accepted operation of the authority takes a sound store along moves.** -/
theorem AuthorityCall.perform_moves {call : AuthorityCall} {answer : AuthorityAnswer}
    (sound : Sound lax store) (earlier : ∀ read listed workflowId nodeId resolution code at_,
      call = .resolveUnknown read listed workflowId nodeId resolution code at_ →
      read.journal.Agrees ∧ read.journal.Before store.journal)
    (accepted : call.perform store = .ok (answer, after)) : Moves lax store after ∧
      ∀ given, answer = .claimed (some given) → ClaimSound after given := by
  cases call <;> simp only [AuthorityCall.perform, answering_eq_ok] at accepted <;>
    obtain ⟨value, accepted, rfl⟩ := accepted
  case claim =>
    obtain ⟨moved, granted⟩ := claim_moved sound accepted
    exact ⟨.single moved, fun given same => granted given (AuthorityAnswer.claimed.inj same)⟩
  all_goals refine ⟨?_, fun given same => by cases same⟩
  case admitTaskForRequest => exact .single (admitTaskForRequest_moved sound accepted)
  case bindTaskCapabilityBundle => exact .single (bindTaskCapabilityBundle_moved sound accepted)
  case heartbeat => exact .single (heartbeat_moved sound accepted)
  case recoverExpired => exact recoverExpired_moves sound accepted
  case signal => exact .single (signal_moved sound accepted)
  case fireDueTimers => exact fireDueTimers_moves sound accepted
  case resolveHumanTask => exact .single (resolveHumanTask_moved sound accepted)
  case reserveEffect => exact .single (reserveEffect_moved sound accepted)
  case markEffectCompensated => exact .single (markEffectCompensated_moved sound accepted)
  case reserveEffectRequest =>
    rw [reserveEffectRequest_journal accepted]
    exact .single (.still rfl rfl)
  case postMessage =>
    rw [postMessage_messages accepted]
    exact .single (.still rfl rfl)
  case acknowledgeMessages =>
    rw [acknowledgeMessages_messages accepted]
    exact .single (.still rfl rfl)
  case acknowledgeMessage =>
    rw [acknowledgeMessage_messages accepted]
    exact .single (.still rfl rfl)
  case retryNode => exact .single (retryNode_moved sound accepted)
  case resolveUnknown =>
    obtain ⟨agrees, before⟩ := earlier _ _ _ _ _ _ _ rfl
    exact .single (resolveUnknown_moved sound agrees before accepted)

end Operations

end Praxis.Workflow
