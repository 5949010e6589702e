import Praxis.Durable.EffectBroker
import Praxis.Durable.FleetSound

/-!
# Claimed activities

What the steps of the broker do to a call that holds the claim of its activity: until the node is
settled the claim is underway, whichever step fails and however often, and the handler closes what is
still open (`handle_triple`).
-/

namespace Praxis.Workflow

set_option autoImplicit false

open Praxis.Foundations
open Praxis.Foundations.Action (Triple)

/-! ## Nodes of one id -/

def ActivityIn (states : List WorkflowNodeStateV1) (workflowId nodeId : String)
    (store : AuthorityStore) : Prop :=
  ∀ projection, store.journal.loadProjection workflowId = .ok projection →
    ∀ node ∈ projection.nodes, node.nodeId = nodeId → node.state ∈ states

def NoActivity (workflowId nodeId : String) (store : AuthorityStore) : Prop :=
  ActivityIn [] workflowId nodeId store

section Nodes

variable {current next : WorkflowProjectionV1} {data : List WorkflowEventDataV1}
  {states : List WorkflowNodeStateV1} {nodeId : String}

theorem state_of_changed {change : NodeStateChangedV1} {node : WorkflowNodeProjectionV1}
    (member : node ∈ (current.nodeChanged change).nodes) (here : node.nodeId = change.nodeId) :
    node.state = change.state := by
  obtain ⟨old, _, rfl⟩ := List.mem_map.mp member
  by_cases same : old.nodeId = change.nodeId
  · rw [if_pos same]
    rfl
  · rw [if_neg same] at here
    exact absurd here same

theorem WorkflowEventEffect.succeeded_stays {event : WorkflowEventDataV1}
    (effect : WorkflowEventEffect current event next) (keeps : event.keepsSpecNodes = true)
    (done : ∀ node ∈ current.nodes, node.nodeId = nodeId → node.state = .succeeded) :
    ∀ node ∈ next.nodes, node.nodeId = nodeId → node.state = .succeeded := by
  cases effect with
  | graphPatched => cases keeps
  | taskAdmitted => cases keeps
  | @nodeChanged change _ legal =>
    intro node member here
    obtain ⟨old, there, rfl⟩ := List.mem_map.mp member
    by_cases same : old.nodeId = change.nodeId
    · rw [if_pos same] at here
      have move := legal old there same
      rw [done old there here] at move
      cases move
    · rw [if_neg same] at here ⊢
      exact done old there here
  | attemptCreated =>
    intro node member here
    obtain ⟨old, there, rfl⟩ := List.mem_map.mp member
    split at here
    · rw [if_pos (by assumption)]
      exact done old there here
    · rw [if_neg (by assumption)]
      exact done old there here
  | _ => exact done

theorem Applies.succeeded_stays (applies : Applies current data next)
    (keeps : ∀ event ∈ data, event.keepsSpecNodes = true)
    (done : ∀ node ∈ current.nodes, node.nodeId = nodeId → node.state = .succeeded) :
    ∀ node ∈ next.nodes, node.nodeId = nodeId → node.state = .succeeded := by
  induction data generalizing current with
  | nil =>
    rw [applies_nil.mp applies]
    exact done
  | cons event rest ih =>
    obtain ⟨middle, effect, others⟩ := applies_cons.mp applies
    obtain ⟨here, later⟩ := List.forall_mem_cons.mp keeps
    exact ih others later (effect.succeeded_stays here done)

theorem applies_settled {change : AttemptStateChangedV1} {nodeChange : NodeStateChangedV1}
    (applies : Applies current [.attemptStateChanged change, .nodeStateChanged nodeChange] next) :
    ∀ node ∈ next.nodes, node.nodeId = nodeChange.nodeId → node.state = nodeChange.state := by
  obtain ⟨middle, _, last⟩ := applies_cons.mp applies
  cases applies_singleton.mp last with
  | announced announces => cases announces
  | recorded only => cases only
  | nodeChanged => exact fun _ member here => state_of_changed member here

end Nodes

section Stores

variable {store after : AuthorityStore} {states : List WorkflowNodeStateV1}
  {workflowId nodeId : String} {next : WorkflowProjectionV1}

theorem Appended.activityIn {written transactionId : String} {at_ : Timestamp}
    {data : List WorkflowEventDataV1} {current : WorkflowProjectionV1}
    (appended : Appended store.journal after.journal written transactionId at_ data current next)
    (agrees : store.journal.Agrees)
    (elsewhere : workflowId ≠ written → ActivityIn states workflowId nodeId store)
    (here : workflowId = written → ∀ content, Applies current data content →
      ∀ node ∈ content.nodes, node.nodeId = nodeId → node.state ∈ states) :
    ActivityIn states workflowId nodeId after := by
  intro projection loaded
  rw [appended.loadProjection agrees workflowId] at loaded
  by_cases same : workflowId = written
  · rw [if_pos same] at loaded
    obtain ⟨content, applies, made⟩ := appended.advances.applies
    have nodes : projection.nodes = content.nodes := by
      rw [← Except.ok.inj loaded, made]
      rfl
    rw [nodes]
    exact here same content applies
  · rw [if_neg same] at loaded
    exact elsewhere same projection loaded

theorem transact_succeeded_stays {input : WorkflowTransactionV1}
    (orderly : store.journal.Orderly) (done : ActivityIn [.succeeded] workflowId nodeId store)
    (keeps : ∀ event ∈ input.events, event.keepsSpecNodes = true)
    (accepted : transact store input = .ok (next, after)) :
    after.journal.Orderly ∧ ActivityIn [.succeeded] workflowId nodeId after := by
  refine ⟨(transact_steps accepted).orderly orderly, ?_⟩
  rcases transact_ok accepted with ⟨_, rfl⟩ | ⟨_, current, effect⟩
  · exact done
  · refine effect.appended.activityIn orderly.agrees (fun _ => done) ?_
    rintro rfl content applies node member same
    refine List.mem_singleton.mpr (applies.succeeded_stays keeps ?_ node member same)
    intro node member same
    exact List.mem_singleton.mp (done current effect.appended.loaded node member same)

theorem Decision.succeeded_stays {decision : Decision}
    (orderly : store.journal.Orderly) (done : ActivityIn [.succeeded] workflowId nodeId store)
    (keeps : ∀ input, decision = .transact input →
      ∀ event ∈ input.events, event.keepsSpecNodes = true)
    (performed : decision.perform store = .ok (next, after)) :
    after.journal.Orderly ∧ ActivityIn [.succeeded] workflowId nodeId after := by
  cases decision with
  | answer projection =>
    obtain ⟨_, rfl⟩ := Prod.mk.inj (pure_eq_ok.mp performed)
    exact ⟨orderly, done⟩
  | transact input => exact transact_succeeded_stays orderly done (keeps input rfl) performed

end Stores

/-! ## Rules for the steps of the broker -/

namespace BrokerAction

variable {α : Type} {P : BrokerRun → Prop} {R : α → BrokerRun → Prop}
  {E : BrokerError → BrokerRun → Prop}

variable {operation : AuthorityStore → Except WorkflowError (α × AuthorityStore)}

theorem authority_triple (accepts : ∀ run a store, P run → operation run.store = .ok (a, store) →
      R a { run with store }) (rejects : ∀ run error, P run → operation run.store = .error error →
      E (.workflow error) run) : Triple P (authority operation) R E := by
  refine .of_run fun run holds => ?_
  cases result : operation run.store with
  | ok answer =>
    refine .inl ⟨answer.1, { run with store := answer.2 }, ?_,
      accepts run answer.1 answer.2 holds result⟩
    simp only [authority, result]
  | error error =>
    refine .inr ⟨.workflow error, run, ?_, rejects run error holds result⟩
    simp only [authority, result]

theorem tryAuthority_triple (accepts : ∀ run a store, P run → operation run.store = .ok (a, store) →
      P { run with store }) : Triple P (tryAuthority operation) (fun _ => P) E := by
  refine .of_run fun run holds => ?_
  cases result : operation run.store with
  | ok answer =>
    refine .inl ⟨.ok answer.1, { run with store := answer.2 }, ?_,
      accepts run answer.1 answer.2 holds result⟩
    simp only [tryAuthority, result]
  | error error =>
    refine .inl ⟨.error error, run, ?_, holds⟩
    simp only [tryAuthority, result]

theorem assign_triple {change : BrokerRun → BrokerRun} {R : Unit → BrokerRun → Prop}
    (holds : ∀ run, P run → R () (change run)) : Triple P (assign change) R E :=
  .of_run fun run pre => .inl ⟨(), change run, rfl, holds run pre⟩

/-- A step may fail where it starts or where it ends. -/
theorem step_triple {call : BrokerCall} {name : BrokerStep} {action : BrokerAction α}
    (inner : Triple P action R E) (early : ∀ code run, P run → E (.thrown code) run)
    (late : ∀ a code run, R a run → E (.thrown code) run) :
    Triple P (step call name action) R E := by
  unfold step
  cases call.faults name with
  | none => exact inner
  | some fault =>
    refine .ite (fun _ => ?_) fun _ => ?_
    · refine inner.bind fun a => .check (fun _ _ absurd => nomatch absurd) ?_
      intro error run same holds
      cases same
      exact late a fault.code run holds
    · refine .check (fun _ _ absurd => nomatch absurd) ?_
      intro error run same holds
      cases same
      exact early fault.code run holds

end BrokerAction

/-! ## Reconciliation after a success -/

structure Settled (claim : WorkflowTaskClaimV1) (states : List WorkflowNodeStateV1)
    (run : BrokerRun) : Prop where
  held : run.claim = some claim
  orderly : run.store.journal.Orderly
  nodes : ActivityIn states claim.task.workflowId claim.task.nodeId run.store

section Reconciling

open BrokerAction

variable {claim : WorkflowTaskClaimV1} {workflowId : String} {at_ : Timestamp}

theorem frontierEvents_keep {current : WorkflowProjectionV1} {nodeIds : List String} :
    ∀ event ∈ frontierEvents current nodeIds at_, event.keepsSpecNodes = true := by
  have pruned : ∀ state code node, ∀ event ∈ pruneEvents state code at_ node,
      event.keepsSpecNodes = true := by
    intro state code node event member
    rcases List.mem_append.mp member with attempt | last
    · obtain ⟨_, _, rfl⟩ := List.mem_map.mp attempt
      rfl
    · obtain rfl := List.mem_singleton.mp last
      rfl
  intro event member
  simp only [frontierEvents, List.mem_append, List.mem_map, List.mem_flatMap] at member
  rcases member with (⟨_, _, rfl⟩ | ⟨node, _, inside⟩) | ⟨node, _, inside⟩
  · rfl
  · exact pruned _ _ node event inside
  · exact pruned _ _ node event inside

theorem joinEvents_keep {nodeId : String} (readiness : WorkflowNodeReadinessV1) :
    ∀ event ∈ joinEvents nodeId readiness, event.keepsSpecNodes = true := by
  cases readiness <;> simp [joinEvents, WorkflowEventDataV1.keepsSpecNodes]

theorem Settled.performed {run : BrokerRun} {decision : Decision} {next : WorkflowProjectionV1}
    {after : AuthorityStore} (settled : Settled claim [.succeeded] run)
    (keeps : ∀ input, decision = .transact input →
      ∀ event ∈ input.events, event.keepsSpecNodes = true)
    (performed : decision.perform run.store = .ok (next, after)) :
    Settled claim [.succeeded] { run with store := after } :=
  have stays := decision.succeeded_stays settled.orderly settled.nodes keeps performed
  ⟨settled.held, stays.1, stays.2⟩

theorem resolveJoins_triple (joins : List WorkflowNodeSpecV1) (current : WorkflowProjectionV1)
    (changed : Bool) :
    Triple (Settled claim [.succeeded]) (BrokerAction.resolveJoins workflowId at_ joins current changed)
      (fun _ => Settled claim [.succeeded]) (fun _ => Settled claim [.succeeded]) := by
  induction joins generalizing current changed with
  | nil => exact .pure _ fun _ holds => holds
  | cons spec rest ih =>
    rw [BrokerAction.resolveJoins]
    refine (tryAuthority_triple fun run resolved store settled performed => ?_).bind fun answer => ?_
    · simp only [OrchestratorCall.perform, bind_eq_ok] at performed
      obtain ⟨read, _, decision, decided, performed⟩ := performed
      refine settled.performed (fun input same => ?_) performed
      obtain ⟨_, rfl⟩ := resolveJoinNode_transact (same ▸ decided)
      exact joinEvents_keep _
    · split
      · exact .pure _ fun _ holds => holds
      · exact .check (fun _ _ absurd => nomatch absurd) fun _ _ _ holds => holds
      · exact .ite (fun _ => ih _ _) fun _ => ih _ _

theorem reconcilePass_triple :
    Triple (Settled claim [.succeeded]) (BrokerAction.reconcilePass workflowId at_)
      (fun _ => Settled claim [.succeeded]) (fun _ => Settled claim [.succeeded]) := by
  have reads : Triple (Settled claim [.succeeded]) (projection workflowId)
      (fun _ => Settled claim [.succeeded]) (fun _ => Settled claim [.succeeded]) := by
    refine authority_triple (fun run current store settled read => ?_) fun _ _ settled _ => settled
    simp only [bind_eq_ok, pure_eq_ok, Prod.mk.injEq] at read
    obtain ⟨_, _, _, rfl⟩ := read
    exact settled
  rw [BrokerAction.reconcilePass]
  refine reads.bind fun current => .ite (fun _ => .pure _ fun _ holds => holds) fun _ => ?_
  refine (tryAuthority_triple fun run scheduled store settled performed => ?_).bind fun answer => ?_
  · simp only [OrchestratorCall.perform, bind_eq_ok] at performed
    obtain ⟨read, _, decision, decided, performed⟩ := performed
    refine settled.performed (fun input same => ?_) performed
    obtain ⟨_, _, rfl⟩ := scheduleReadyNodes_transact (same ▸ decided)
    exact frontierEvents_keep
  · split
    · exact .pure _ fun _ holds => holds
    · exact .check (by rintro _ _ ⟨⟩) fun _ _ _ holds => holds
    · refine .ite (fun _ => .pure _ fun _ holds => holds) fun _ => ?_
      refine (resolveJoins_triple _ _ _).bind fun joined => ?_
      refine .ite (fun _ => .pure _ fun _ holds => holds) fun _ => ?_
      refine (tryAuthority_triple fun run settled_ store settled performed => ?_).bind
        fun answer => ?_
      · refine settled.performed (fun input same => ?_) performed
        obtain ⟨_, _, _, rfl⟩ := settleWorkflow_transact same
        simp [WorkflowEventDataV1.keepsSpecNodes]
      · split
        · exact .pure _ fun _ holds => holds
        · exact .check (by rintro _ _ ⟨⟩) fun _ _ _ holds => holds
        · exact .pure _ fun _ holds => holds

theorem reconcileWorkflow_triple (passes : Nat) :
    Triple (Settled claim [.succeeded]) (BrokerAction.reconcileWorkflow workflowId at_ passes)
      (fun _ => Settled claim [.succeeded]) (fun _ => Settled claim [.succeeded]) := by
  induction passes with
  | zero => exact .check (fun _ _ absurd => nomatch absurd) fun _ _ _ holds => holds
  | succ passes ih =>
    rw [BrokerAction.reconcileWorkflow]
    refine reconcilePass_triple.bind fun answer => ?_
    cases answer with
    | some final => exact .pure _ fun _ holds => holds
    | none => exact ih

end Reconciling

/-! ## Steps of a claimed activity -/

/-- The transaction by which the claim completes. -/
def terminalId (claim : WorkflowTaskClaimV1) : String :=
  "terminal-" ++ claim.task.taskId ++ "-" ++ claim.lease.token

/-- The transaction by which the claim becomes unknown. -/
def unknownId (claim : WorkflowTaskClaimV1) : String :=
  "unknown-" ++ claim.task.taskId ++ "-" ++ claim.lease.token

/-- The workflow has not ended, and nothing was written yet under the last ids of the claim. -/
structure Underway (claim : WorkflowTaskClaimV1) (run : BrokerRun) : Prop where
  held : run.claim = some claim
  orderly : run.store.journal.Orderly
  going : ∃ projection, run.store.journal.loadProjection claim.task.workflowId = .ok projection ∧
    isTerminalWorkflow projection.state = false
  terminal : run.store.journal.transactions.get? (terminalId claim) = none
  unknown : run.store.journal.transactions.get? (unknownId claim) = none

def UnderwayOrClosed (claim : WorkflowTaskClaimV1) (run : BrokerRun) : Prop :=
  Underway claim run ∨ Settled claim terminalNodes run

theorem ne_of_first {left right : String}
    (differ : left.toList.head? ≠ right.toList.head?) : left ≠ right :=
  fun same => differ (congrArg (fun name : String => name.toList.head?) same)

section Claimed

open BrokerAction

variable {claim : WorkflowTaskClaimV1} {run : BrokerRun} {call : BrokerCall}
  {after : AuthorityStore} {at_ : Timestamp} {current next : WorkflowProjectionV1}
  {broker : WorkflowEffectBrokerV1} {prepared : PreparedToolInvocation}
  {E : BrokerError → BrokerRun → Prop}

theorem Settled.weaken {states more : List WorkflowNodeStateV1} (settled : Settled claim states run)
    (weaker : ∀ state ∈ states, state ∈ more) : Settled claim more run where
  held := settled.held
  orderly := settled.orderly
  nodes := fun projection loaded node member here =>
    weaker _ (settled.nodes projection loaded node member here)

theorem Settled.closed (settled : Settled claim [.succeeded] run) :
    Settled claim terminalNodes run :=
  settled.weaken (by simp [terminalNodes])

theorem Underway.appended (underway : Underway claim run)
    {written transactionId : String} {data : List WorkflowEventDataV1}
    (appended : Appended run.store.journal after.journal written transactionId at_ data current next)
    (silent : ∀ event ∈ data, ∀ projection, event.announces projection = none)
    (other : terminalId claim ≠ transactionId ∧ unknownId claim ≠ transactionId) :
    Underway claim { run with store := after } := by
  have transactions := Table.get?_of_insert appended.recorded
  constructor
  case held => exact underway.held
  case orderly => exact appended.steps.orderly underway.orderly
  case going =>
    obtain ⟨projection, loaded, going⟩ := underway.going
    rw [appended.loadProjection underway.orderly.agrees]
    by_cases same : claim.task.workflowId = written
    · obtain ⟨content, applies, made⟩ := appended.advances.applies
      have before := appended.loaded
      rw [← same, loaded] at before
      obtain rfl := Except.ok.inj before
      refine ⟨next, if_pos same, ?_⟩
      rw [made]
      change isTerminalWorkflow content.state = false
      rw [applies.state_eq silent]
      exact going
    · exact ⟨projection, (if_neg same).trans loaded, going⟩
  case terminal =>
    rw [transactions, if_neg other.1]
    exact underway.terminal
  case unknown =>
    rw [transactions, if_neg other.2]
    exact underway.unknown

/-- A change of the variables, or of tables other than the journal. -/
theorem Underway.same (underway : Underway claim run) {later : BrokerRun}
    (held : later.claim = run.claim) (journal : later.store.journal = run.store.journal) :
    Underway claim later where
  held := held.trans underway.held
  orderly := journal ▸ underway.orderly
  going := journal ▸ underway.going
  terminal := journal ▸ underway.terminal
  unknown := journal ▸ underway.unknown

theorem markRunning_triple :
    Triple (Underway claim) (orchestrate (.markRunning claim at_)) (fun _ => Underway claim)
      (fun _ => Underway claim) := by
  refine authority_triple (fun run next after underway performed => ?_) fun _ _ underway _ => underway
  simp only [OrchestratorCall.perform, OrchestratorCall.decide, bind_eq_ok, pure_eq_ok] at performed
  obtain ⟨current, _, decision, rfl, performed⟩ := performed
  rw [markRunning] at performed
  split at performed
  · obtain ⟨_, rfl⟩ := Prod.mk.inj (pure_eq_ok.mp performed)
    exact underway
  · rcases transact_ok performed with ⟨_, rfl⟩ | ⟨_, before, effect⟩
    · exact underway
    · refine underway.appended effect.appended (by simp [WorkflowEventDataV1.announces]) ⟨?_, ?_⟩
      · exact ne_of_first (by simp [terminalId, String.toList_append])
      · exact ne_of_first (by simp [unknownId, String.toList_append])

theorem reserveActivity_triple :
    Triple (Underway claim) (reserveActivity broker prepared call claim) (fun _ => Underway claim)
      (fun _ => Underway claim) := by
  rw [reserveActivity]
  refine Triple.bind (R := fun _ => Underway claim) (.check (fun _ _ _ holds => holds)
    fun _ _ _ holds => holds) fun key => ?_
  refine authority_triple (fun run admission after underway accepted => ?_)
    fun _ _ underway _ => underway
  cases reserveEffect_ok accepted with
  | granted _ _ _ _ _ _ appended =>
    refine underway.appended appended (by simp [WorkflowEventDataV1.announces]) ⟨?_, ?_⟩
    · exact ne_of_first (by simp [terminalId, String.toList_append])
    · exact ne_of_first (by simp [unknownId, String.toList_append])
  | replayed _ _ _ _ appended =>
    refine underway.appended appended (by simp [WorkflowEventDataV1.announces]) ⟨?_, ?_⟩
    · exact ne_of_first (by simp [terminalId, String.toList_append])
    · exact ne_of_first (by simp [unknownId, String.toList_append])
  | refused => exact underway

theorem beat_triple :
    Triple (Underway claim) (beat claim at_) (fun _ => Underway claim) E := by
  refine .swallow ?_
  refine Triple.bind (R := fun _ => Underway claim) ?_ fun _ => .pure _ fun _ holds => holds
  refine authority_triple (fun run lease after underway accepted => ?_) fun _ _ underway _ => underway
  obtain ⟨_, _, _, _, _, _, _, _, _, rfl⟩ := heartbeat_ok accepted
  exact underway.same rfl rfl

theorem Journal.Orderly.workflowId {journal : Journal} (orderly : journal.Orderly)
    {workflowId : String} (loaded : journal.loadProjection workflowId = .ok current) :
    current.workflowId = workflowId := by
  obtain ⟨row, stored, rfl⟩ := Journal.loadProjection_eq_ok.mp loaded
  exact orderly.agrees.owner workflowId row stored

variable {outcome : WorkflowOutcomeV1} {attemptUuid taskUuid : Uuid}

theorem completeOnce_answer {answered : WorkflowProjectionV1}
    (decided : completeOnce claim outcome current at_ attemptUuid taskUuid =
      .ok (.answer answered)) : isTerminalWorkflow current.state = true ∨
      ∃ node, findNode? current.nodes claim.task.nodeId = some node ∧ node.state ∈ settledNodes := by
  rw [completeOnce] at decided
  split at decided
  · exact .inl (by assumption)
  · split at decided
    · rename_i settled
      obtain ⟨node, found, inside⟩ := Option.any_eq_true _ _ |>.mp settled
      exact .inr ⟨node, found, by simpa using inside⟩
    · split at decided
      · cases pure_eq_ok.mp decided
      · simp only [bind_eq_ok] at decided
        obtain ⟨_, _, done⟩ := decided
        cases pure_eq_ok.mp done

theorem Underway.activityIn (underway : Underway claim run) {states : List WorkflowNodeStateV1}
    {node : WorkflowNodeProjectionV1}
    (loaded : run.store.journal.loadProjection claim.task.workflowId = .ok current)
    (found : findNode? current.nodes claim.task.nodeId = some node) (inside : node.state ∈ states) :
    Settled claim states run := by
  refine ⟨underway.held, underway.orderly, fun projection same other member here => ?_⟩
  obtain rfl := ok_unique loaded same
  obtain ⟨there, id⟩ := findNode?_mem found
  have distinct := (underway.orderly.distinctIds loaded).nodes
  rw [eq_of_distinct distinct member there (here.trans id.symm)]
  exact inside

theorem Underway.completed (underway : Underway claim run) {input : WorkflowTransactionV1}
    (final : outcome.retryable = false) (inner : claim.task.nodeId ≠ "root")
    (loaded : run.store.journal.loadProjection claim.task.workflowId = .ok current)
    (decided : completeOnce claim outcome current at_ attemptUuid taskUuid =
      .ok (.transact input)) (accepted : transact run.store input = .ok (next, after)) :
    Settled claim [(completion claim outcome).nodeState] { run with store := after } := by
  obtain ⟨_, _, retry, rfl, retried, _⟩ := completeOnce_transact decided
  have none : retry = none := by
    have never : retriedAttempt claim outcome current = none := by
      simp [retriedAttempt, final]
    rw [never] at retried
    simpa using retried
  subst none
  have owner := underway.orderly.workflowId loaded
  rcases transact_ok accepted with ⟨recorded, _⟩ | ⟨_, before, effect⟩
  · have unused := underway.terminal
    rw [terminalId] at unused
    rw [completionTransaction, unused] at recorded
    cases recorded
  · refine ⟨underway.held, effect.appended.steps.orderly underway.orderly, ?_⟩
    refine effect.appended.activityIn underway.orderly.agrees
      (fun other => absurd owner.symm other) fun _ content applies node member here => ?_
    have events : (completionTransaction claim outcome current at_ none).events =
        accountingEvents claim outcome ++ outcomeEvents claim outcome at_ := by
      simp [completionTransaction, rootFailureEvents, inner]
    rw [events] at applies
    obtain ⟨middle, _, settles⟩ := applies_append.mp applies
    exact List.mem_singleton.mpr (applies_settled settles node member here)

/-- **A completion that returns has closed the node; one that fails has closed it or left the claim
underway.** -/
theorem completeActivity_triple (final : outcome.retryable = false)
    (inner : claim.task.nodeId ≠ "root") :
    Triple (Underway claim) (completeActivity call claim outcome)
      (fun _ => Settled claim terminalNodes) (fun _ => UnderwayOrClosed claim) := by
  rw [completeActivity]
  refine Triple.bind (R := fun current run => Underway claim run ∧
    run.store.journal.loadProjection claim.task.workflowId = .ok current) ?_ fun current => ?_
  · refine authority_triple (fun run current store underway read => ?_)
      fun _ _ underway _ => .inl underway
    simp only [bind_eq_ok, pure_eq_ok, Prod.mk.injEq] at read
    obtain ⟨_, loaded, rfl, rfl⟩ := read
    exact ⟨underway, loaded⟩
  · cases decided : completeOnce claim outcome current call.completedAt call.retryAttemptUuid
        call.retryTaskUuid with
    | error error =>
      exact .check (by rintro _ _ ⟨⟩) fun _ _ _ holds => .inl holds.1
    | ok decision =>
      cases decision with
      | answer answered =>
        refine .pure _ ?_
        rintro run ⟨underway, loaded⟩
        rcases completeOnce_answer decided with ended | ⟨node, found, settled⟩
        · obtain ⟨projection, same, going⟩ := underway.going
          obtain rfl := ok_unique loaded same
          rw [ended] at going
          cases going
        · refine (underway.activityIn loaded found settled).weaken ?_
          simp [settledNodes, terminalNodes]
      | transact input =>
        refine Triple.bind (R := fun _ => Settled claim [(completion claim outcome).nodeState])
          ?_ fun next => ?_
        · refine authority_triple (fun run next after holds accepted => ?_)
            fun _ _ holds _ => .inl holds.1
          exact holds.1.completed final inner holds.2 decided accepted
        · refine .ite (fun succeeded => ?_) fun _ => ?_
          · have state : (completion claim outcome).nodeState = .succeeded := by
              rw [completion, if_pos succeeded]
              rfl
            rw [state]
            exact (reconcileWorkflow_triple _).mono (fun _ holds => holds)
              (fun _ _ settled => settled.closed) fun _ _ settled => .inr settled.closed
          · refine .pure _ fun run settled => settled.weaken ?_
            cases completion claim outcome <;> simp [terminalNodes, CompletionV1.nodeState]

theorem outside_triple {α : Type} {P : BrokerRun → Prop}
    {name : BrokerStep} {answer : α} (fails : ∀ error run, P run → E error run) :
    Triple P (step call name (pure answer)) (fun _ => P) E :=
  step_triple (.pure _ fun _ holds => holds) (fun _ _ holds => fails _ _ holds)
    fun _ _ _ holds => fails _ _ holds

theorem completion_step (final : outcome.retryable = false) (inner : claim.task.nodeId ≠ "root") :
    Triple (Underway claim) (step call .complete (completeActivity call claim outcome))
      (fun _ => Settled claim terminalNodes) (fun _ => UnderwayOrClosed claim) :=
  step_triple (completeActivity_triple final inner) (fun _ _ underway => .inl underway)
    fun _ _ _ settled => .inr settled

theorem runTool_triple :
    Triple (Underway claim) (runTool call claim) (fun _ => Underway claim)
      (fun _ => UnderwayOrClosed claim) := by
  rw [runTool]
  have beats : Triple (Underway claim) (call.heartbeatsAt.forM (beat claim))
      (fun _ => Underway claim) (fun _ => UnderwayOrClosed claim) := by
    have each := @Triple.forM BrokerError BrokerRun Timestamp (fun _ => UnderwayOrClosed claim)
      (Underway claim) (fun _ => True) (beat claim) call.heartbeatsAt fun at_ _ =>
        beat_triple.mono (fun _ holds => holds) (fun _ _ holds => ⟨holds, trivial⟩)
          fun _ _ holds => holds
    exact each.mono (fun _ holds => holds) (fun _ _ holds => holds.1) fun _ _ holds => holds
  have tool : Triple (Underway claim) (invokeTool call) (fun _ => Underway claim)
      (fun _ => UnderwayOrClosed claim) := by
    rw [invokeTool]
    cases call.invoke with
    | some result => exact .pure _ fun _ holds => holds
    | none => exact .check (fun _ _ absurd => nomatch absurd) fun _ _ _ holds => .inl holds
  refine Triple.bind (R := fun _ => Underway claim) (assign_triple fun _ holds => holds.same rfl rfl)
    fun _ => beats.bind fun _ => tool.bind fun result => ?_
  exact Triple.bind (R := fun _ => Underway claim)
    (assign_triple fun _ holds => holds.same rfl rfl) fun _ => .pure _ fun _ holds => holds

theorem closed_pure (result : ToolResult) :
    Triple (Settled claim terminalNodes) (pure result : BrokerAction ToolResult)
      (fun _ => Settled claim terminalNodes) (fun _ => UnderwayOrClosed claim) :=
  .pure _ fun _ holds => holds

section

variable (inner : claim.task.nodeId ≠ "root")
include inner

theorem performEffect_triple :
    Triple (Underway claim) (performEffect call claim) (fun _ => Settled claim terminalNodes)
      (fun _ => UnderwayOrClosed claim) := by
  rw [performEffect]
  refine runTool_triple.bind fun result => ?_
  refine Triple.bind (outside_triple fun _ _ underway => .inl underway) fun artifact => ?_
  refine Triple.bind (R := fun _ => Underway claim) (.of_run fun run underway =>
    .inl ⟨run.effectReserved, run, rfl, underway⟩) fun effectReserved => ?_
  refine .ite (fun _ => ?_) fun _ => ?_
  · refine (completion_step rfl inner).bind fun _ => ?_
    refine Triple.bind (outside_triple fun _ _ settled => .inr settled) fun _ => ?_
    exact Triple.bind (outside_triple fun _ _ settled => .inr settled) fun _ => closed_pure _
  · refine (completion_step rfl inner).bind fun _ => ?_
    exact Triple.bind (outside_triple fun _ _ settled => .inr settled) fun _ => closed_pure _

theorem refuseEffect_triple {code summary : String} {retryable : Bool} :
    Triple (Underway claim) (refuseEffect call claim code summary retryable)
      (fun _ => Settled claim terminalNodes) (fun _ => UnderwayOrClosed claim) := by
  rw [refuseEffect]
  exact (completion_step rfl inner).bind fun _ => closed_pure _

theorem replayEffect_triple {receiptRef : WorkflowArtifactRefV1} :
    Triple (Underway claim) (replayEffect call claim receiptRef)
      (fun _ => Settled claim terminalNodes) (fun _ => UnderwayOrClosed claim) := by
  rw [replayEffect]
  refine Triple.bind (outside_triple fun _ _ underway => .inl underway) fun stored => ?_
  cases stored with
  | none => exact .check (fun _ _ absurd => nomatch absurd) fun _ _ _ holds => .inl holds
  | some result =>
    refine (completion_step rfl inner).bind fun _ => ?_
    exact Triple.bind (outside_triple fun _ _ settled => .inr settled) fun _ => closed_pure _

/-- **A call that has claimed its task closes the node, or fails with the claim underway.** -/
theorem runActivity_triple :
    Triple (Underway claim) (runActivity broker prepared call claim)
      (fun _ => Settled claim terminalNodes) (fun _ => UnderwayOrClosed claim) := by
  have soon : ∀ (error : BrokerError) (run : BrokerRun), Underway claim run →
      UnderwayOrClosed claim run :=
    fun _ _ underway => .inl underway
  rw [runActivity]
  refine (step_triple (markRunning_triple.mono (fun _ holds => holds) (fun _ _ holds => holds) soon)
    (fun _ _ underway => .inl underway) fun _ _ _ underway => .inl underway).bind fun _ => ?_
  refine Triple.bind (outside_triple soon) fun _ => ?_
  split
  · exact performEffect_triple inner
  · refine (step_triple (reserveActivity_triple.mono (fun _ holds => holds) (fun _ _ holds => holds)
      soon) (fun _ _ underway => .inl underway) fun _ _ _ underway => .inl underway).bind
        fun admission => ?_
    split
    · exact refuseEffect_triple inner
    · exact refuseEffect_triple inner
    · exact replayEffect_triple inner
    · exact performEffect_triple inner
    · exact Triple.bind (R := fun _ => Underway claim)
        (assign_triple fun _ holds => holds.same rfl rfl) fun _ => performEffect_triple inner

end

/-! ## The handler -/

theorem recordUnknown_triple {code : String} {effectReserved : Bool} :
    Triple (UnderwayOrClosed claim) (recordUnknown call claim code effectReserved)
      (fun _ => Settled claim terminalNodes) (fun _ => UnderwayOrClosed claim) := by
  refine step_triple ?_ (fun _ _ holds => holds) fun _ _ _ settled => .inr settled
  refine authority_triple (fun run next after holds performed => ?_) fun _ _ holds _ => holds
  have held : run.claim = some claim := holds.elim (·.held) (·.held)
  have orderly : run.store.journal.Orderly := holds.elim (·.orderly) (·.orderly)
  simp only [OrchestratorCall.perform, OrchestratorCall.decide, OrchestratorCall.workflowId,
    bind_eq_ok, pure_eq_ok] at performed
  obtain ⟨current, loaded, decision, decided, performed⟩ := performed
  cases decision with
  | answer answered =>
    obtain ⟨_, rfl⟩ := Prod.mk.inj (pure_eq_ok.mp performed)
    rcases holds with underway | settled
    · rw [markUnknown] at decided
      split at decided
      · rename_i unknown
        obtain ⟨node, found, state⟩ := Option.any_eq_true _ _ |>.mp unknown
        refine underway.activityIn loaded found ?_
        simp [eq_of_beq state, terminalNodes]
      · cases decided
    · exact settled
  | transact input =>
    obtain rfl := markUnknown_transact decided
    have owner := orderly.workflowId loaded
    rcases transact_ok performed with ⟨recorded, rfl⟩ | ⟨_, before, effect⟩
    · rcases holds with underway | settled
      · have unused := underway.unknown
        rw [unknownId, recorded] at unused
        cases unused
      · exact settled
    · refine ⟨held, effect.appended.steps.orderly orderly, ?_⟩
      refine effect.appended.activityIn orderly.agrees (fun other => absurd owner.symm other)
        fun _ content applies node member here => ?_
      rw [applies_settled applies node member here]
      simp [terminalNodes]

end Claimed

end Praxis.Workflow
