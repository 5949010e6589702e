import Praxis.Durable.AnsweredClaims
import Praxis.Durable.ClaimedActivities

/-!
# Orphaned activities

A journaled call that has claimed the task of its activity closes the node, whatever fails
afterwards, if its last write does not. A call that fails between the admission of the node and
the claim closes nothing: its handler looks at the claim. `orphan_free_iff` says when a call leaves
no open activity behind, over every state of the fleet and every combination of failures.
-/

namespace Praxis.Workflow

set_option autoImplicit false

open Praxis.Foundations
open Praxis.Foundations.Action (Triple)

/-! ## The admission -/

/-- The ids that a call draws are in no transaction that was recorded before. -/
structure NewDraws (call : BrokerCall) (store : AuthorityStore) : Prop where
  attempt : store.journal.transactions.get?
    ("activity-" ++ ("attempt-" ++ call.attemptUuid.text)) = none
  lease : ∀ name ∈ ["terminal-", "unknown-"], ∀ taskId,
    store.journal.transactions.get? (name ++ taskId ++ "-" ++ ("lease-" ++ call.leaseUuid.text)) =
      none

/-- The call's admission takes effect, and leaves a store. -/
def Admits (broker : WorkflowEffectBrokerV1) (prepared : PreparedToolInvocation) (call : BrokerCall)
    (store admitted : AuthorityStore) : Prop :=
  (∀ fault, call.faults .admitToolActivity = some fault → fault.tookEffect = true) ∧
    ∃ projection, (admission broker prepared call).perform store store store =
      .ok (projection, admitted)

def OpenActivity (workflowId nodeId : String) (store : AuthorityStore) : Prop :=
  ∃ projection, store.journal.loadProjection workflowId = .ok projection ∧
    ∃ node ∈ projection.nodes, node.nodeId = nodeId ∧ node.state ∉ terminalNodes

section Admission

variable {broker : WorkflowEffectBrokerV1} {prepared : PreparedToolInvocation} {call : BrokerCall}
  {store admitted : AuthorityStore} {projection : WorkflowProjectionV1}

theorem applies_admitted {current content : WorkflowProjectionV1} {topology : WorkflowTopologyV1}
    {node : WorkflowNodeSpecV1} {attemptId : String} (distinct : DistinctIds current)
    (applies : Applies current (.graphPatched (extendedSpec current topology [node] []) ::
      .workflowTopologyChanged topology :: admissionEvents node.nodeId attemptId true) content) :
    (∀ other ∈ current.nodes, other.nodeId ≠ node.nodeId) ∧
      ∃ other ∈ content.nodes, other.nodeId = node.nodeId ∧ other.state = .scheduled := by
  obtain ⟨patched, first, applies⟩ := applies_cons.mp applies
  obtain ⟨renamed, _, applies⟩ := applies_cons.mp applies
  obtain ⟨waiting, _, applies⟩ := applies_cons.mp applies
  obtain ⟨scheduled, third, applies⟩ := applies_cons.mp applies
  constructor
  · intro other member same
    cases first with
    | announced announces => cases announces
    | recorded only => cases only
    | graphPatched valid =>
      have apart := (validateWorkflowSpecV1_accepts valid).2.distinct
      rw [extendedSpec_nodes, List.map_append] at apart
      have listed : node.nodeId ∈ current.spec.nodes.map (·.nodeId) := by
        rw [← distinct.specified, ← same]
        exact List.mem_map_of_mem member
      exact (List.nodup_append.mp apart).2.2 _ listed _ (List.mem_singleton.mpr rfl) rfl
  · have there : ∃ other ∈ scheduled.nodes, other.nodeId = node.nodeId ∧
        other.state = .scheduled := by
      cases third with
      | announced announces => cases announces
      | recorded only => cases only
      | nodeChanged present =>
        obtain ⟨old, member, same⟩ := present
        exact ⟨_, List.mem_map.mpr ⟨old, member, if_pos same⟩, same, rfl⟩
    obtain ⟨other, member, same, state⟩ := there
    cases applies_singleton.mp applies with
    | announced announces => cases announces
    | recorded only => cases only
    | attemptCreated =>
      exact ⟨_, List.mem_map.mpr ⟨other, member, if_pos same⟩, same, state⟩

/-- **An admission adds an open node that was not there.** -/
theorem admission_opens (orderly : store.journal.Orderly) (new : NewDraws call store)
    (performed : (admission broker prepared call).perform store store store =
      .ok (projection, admitted)) :
    NoActivity broker.workflowId call.nodeId store ∧ admitted.journal.Orderly ∧
      OpenActivity broker.workflowId call.nodeId admitted ∧
      ∀ name ∈ ["terminal-", "unknown-"], ∀ taskId, admitted.journal.transactions.get?
        (name ++ taskId ++ "-" ++ ("lease-" ++ call.leaseUuid.text)) = none := by
  simp only [admission, OrchestratorCall.perform, OrchestratorCall.workflowId,
    OrchestratorCall.decide, admitToolActivity, bind_eq_ok, orError_eq_ok, pure_eq_ok] at performed
  obtain ⟨current, loaded, _, ⟨_, _, root, _, task, built, rfl⟩, performed⟩ := performed
  rcases transact_ok performed with ⟨recorded, _⟩ | ⟨_, before, effect⟩
  · rw [new.attempt] at recorded
    cases recorded
  · have appended := effect.appended
    have same := appended.loaded
    obtain rfl := ok_unique loaded same
    obtain ⟨content, applies, made⟩ := appended.advances.applies
    obtain ⟨absent, node, member, id, state⟩ :=
      @applies_admitted current content .workflowGraph
        (activityNode current call.nodeId prepared.name root.grantRequest
          (brokerEffect broker prepared call)) _ (orderly.distinctIds loaded) applies
    have transactions := Table.get?_of_insert appended.recorded
    refine ⟨?_, appended.steps.orderly orderly, ⟨_, (appended.loadProjection orderly.agrees _).trans
      (if_pos rfl), node, ?_, id, ?_⟩, ?_⟩
    · intro other again old there here
      obtain rfl := ok_unique loaded again
      exact absurd here (absent old there)
    · rw [made]
      exact member
    · simp [state, terminalNodes]
    · intro name listed taskId
      rw [transactions, if_neg]
      · exact new.lease name listed taskId
      · simp only [List.mem_cons, List.not_mem_nil, or_false] at listed
        rcases listed with rfl | rfl <;>
          exact ne_of_first (by simp [String.toList_append])

/-- **A claim that is granted is underway, and its node still open.** -/
theorem claim_underway {run : BrokerRun} {claimed : WorkflowTaskClaimV1} {after : AuthorityStore}
    {workflowId nodeId : String} {now : Timestamp} (orderly : store.journal.Orderly)
    (fresh : ∀ name ∈ ["terminal-", "unknown-"], ∀ taskId, store.journal.transactions.get?
      (name ++ taskId ++ "-" ++ ("lease-" ++ call.leaseUuid.text)) = none)
    (answered : claim store call.workerId (activityOptions workflowId nodeId) now call.leaseUuid =
      .ok (some claimed, after)) :
    claimed.task.workflowId = workflowId ∧ claimed.task.nodeId = nodeId ∧
      Underway claimed { run with store := after, claim := some claimed } ∧
      OpenActivity workflowId nodeId after := by
  rcases claim_ok answered with ⟨absurd, _⟩ | ⟨task, expiresAt, journal, current, next, selected, _,
    _, same, rfl, appended⟩
  · cases absurd
  · obtain rfl := Option.some.inj same
    simp only [selectTask, bind_eq_ok] at selected
    obtain ⟨leased, read, active, counted, candidates, parsed, found⟩ := selected
    obtain rfl := parseTasks_ok read
    obtain rfl := parseTasks_ok parsed
    obtain ⟨member, may⟩ := findClaimable_mem found
    obtain ⟨row, candidate, rfl⟩ := List.mem_map.mp member
    have eligible := claimable_of_mayClaim candidate counted may
    have ofWorkflow : row.task.workflowId = workflowId := eligible.ofWorkflow workflowId rfl
    have ofNode : row.task.nodeId = nodeId := eligible.ofNode nodeId rfl
    have transactions := Table.get?_of_insert appended.recorded
    have unused : ∀ name ∈ ["terminal-", "unknown-"], journal.transactions.get?
        (name ++ row.task.taskId ++ "-" ++ ("lease-" ++ call.leaseUuid.text)) = none := by
      intro name listed
      rw [transactions, if_neg]
      · exact fresh name listed row.task.taskId
      · simp only [List.mem_cons, List.not_mem_nil, or_false] at listed
        rcases listed with rfl | rfl <;>
          exact ne_of_first (by simp [String.toList_append])
    obtain ⟨content, applies, made⟩ := appended.advances.applies
    have stored := (appended.loadProjection orderly.agrees row.task.workflowId).trans (if_pos rfl)
    refine ⟨ofWorkflow, ofNode, ⟨rfl, appended.steps.orderly orderly, ⟨next, stored, ?_⟩,
      unused "terminal-" (by simp), unused "unknown-" (by simp)⟩, next, ofWorkflow ▸ stored, ?_⟩
    · obtain ⟨workflow, known, running⟩ := eligible.running
      have before := Journal.loadProjection_eq_ok.mp appended.loaded
      obtain ⟨stored, again, rfl⟩ := before
      obtain rfl := Option.mem_unique known again
      rw [made]
      change isTerminalWorkflow content.state = false
      rw [applies.state_eq (by simp [leaseEvents, WorkflowEventDataV1.announces]),
        ← (orderly.agrees.columns _ _ known).2.2, running]
      rfl
    · obtain ⟨leased, first, last⟩ := applies_cons.mp applies
      have there : ∃ node ∈ leased.nodes, node.nodeId = nodeId ∧ node.state ∉ terminalNodes := by
        cases first with
        | announced announces => cases announces
        | recorded only => cases only
        | nodeChanged present =>
          obtain ⟨old, inside, same⟩ := present
          refine ⟨_, List.mem_map.mpr ⟨old, inside, if_pos same⟩, same.trans ofNode, ?_⟩
          simp [WorkflowNodeProjectionV1.change, terminalNodes]
      rw [made]
      cases applies_singleton.mp last with
      | announced announces => cases announces
      | recorded only => cases only
      | attemptChanged => exact there

end Admission

/-! ## The body of a call -/

/-- The call learns of its admission, and claims the task that it queued: none of the three steps
fails, and the claim finds the task in the state that the admission leaves. -/
structure Claims (broker : WorkflowEffectBrokerV1) (call : BrokerCall) (admitted : AuthorityStore) :
    Prop where
  faultless : ∀ name ∈ [BrokerStep.admitToolActivity, .onAdmitted, .claimActivity],
    call.faults name = none
  leasable : Leasable admitted call.workerId (activityOptions broker.workflowId call.nodeId)
    call.claimedAt call.leaseUuid

section Body

open BrokerAction

variable {broker : WorkflowEffectBrokerV1} {prepared : PreparedToolInvocation} {call : BrokerCall}
  {store admitted : AuthorityStore} {α : Type} {name : BrokerStep} {fault : StepFault}

theorem claimActivity_cases (orderly : admitted.journal.Orderly)
    (fresh : ∀ name ∈ ["terminal-", "unknown-"], ∀ taskId, admitted.journal.transactions.get?
      (name ++ taskId ++ "-" ++ ("lease-" ++ call.leaseUuid.text)) = none) :
    (∃ error, ¬ Leasable admitted call.workerId (activityOptions broker.workflowId call.nodeId)
        call.claimedAt call.leaseUuid ∧
      claimActivity broker call { store := admitted } =
        (.error (.workflow error), { store := admitted })) ∨
    ∃ claimed after, Leasable admitted call.workerId
        (activityOptions broker.workflowId call.nodeId) call.claimedAt call.leaseUuid ∧
      claimActivity broker call { store := admitted } = (.ok claimed, { store := after }) ∧
      claimed.task.workflowId = broker.workflowId ∧ claimed.task.nodeId = call.nodeId ∧
      Underway claimed { store := after, claim := some claimed } ∧
      OpenActivity broker.workflowId call.nodeId after := by
  have granted := @claimed_iff admitted (activityOptions broker.workflowId call.nodeId)
    call.claimedAt call.workerId call.leaseUuid orderly
  rcases answer : claim admitted call.workerId (activityOptions broker.workflowId call.nodeId)
      call.claimedAt call.leaseUuid with error | ⟨claimed, after⟩
  · refine .inl ⟨error, fun leasable => ?_, ?_⟩
    · obtain ⟨_, _, accepted⟩ := granted.mpr leasable
      rw [answer] at accepted
      cases accepted
    · exact Action.bind_rejects (by simp only [authority, answer])
  · cases claimed with
    | none =>
      refine .inl ⟨.workflowActivityTaskUnavailable, fun leasable => ?_, ?_⟩
      · obtain ⟨_, _, accepted⟩ := granted.mpr leasable
        rw [answer] at accepted
        cases accepted
      · have same : after = admitted := by
          rcases claim_ok answer with ⟨_, same⟩ | ⟨_, _, _, _, _, _, _, _, absurd, _⟩
          · exact same
          · cases absurd
        subst same
        have run : authority (fun store => claim store call.workerId
            (activityOptions broker.workflowId call.nodeId) call.claimedAt call.leaseUuid)
              { store := after } = (.ok none, { store := after }) := by
          simp only [authority, answer]
        exact (Action.bind_run run).trans rfl
    | some claimed =>
      obtain ⟨ofWorkflow, ofNode, underway, open_⟩ :=
        @claim_underway call admitted { store := admitted } claimed after broker.workflowId
          call.nodeId call.claimedAt orderly fresh answer
      refine .inr ⟨claimed, after, granted.mp ⟨claimed, after, answer⟩, ?_, ofWorkflow, ofNode,
        underway, open_⟩
      have run : authority (fun store => claim store call.workerId
          (activityOptions broker.workflowId call.nodeId) call.claimedAt call.leaseUuid)
            { store := admitted } = (.ok (some claimed), { store := after }) := by
        simp only [authority, answer]
      refine (Action.bind_run run).trans ?_
      simp only [ofNode, if_true]
      rfl

theorem step_faultless {action : BrokerAction α}
    (faultless : call.faults name = none) : step call name action = action := by
  rw [step, faultless]

theorem step_early {action : BrokerAction α}
    (fails : call.faults name = some fault) (early : fault.tookEffect = false) (run : BrokerRun) :
    step call name action run = (.error (.thrown fault.code), run) := by
  simp only [step, fails, early, Bool.false_eq_true, if_false]
  rfl

theorem step_late {action : BrokerAction α}
    (fails : call.faults name = some fault) (late : fault.tookEffect = true) {run after : BrokerRun}
    {a : α} (ran : action run = (.ok a, after)) :
    step call name action run = (.error (.thrown fault.code), after) := by
  simp only [step, fails, late, if_true]
  exact (Action.bind_run ran).trans rfl

theorem step_rejects {action : BrokerAction α} {run : BrokerRun} {error : WorkflowError}
    (rejects : action run = (.error (.workflow error), run)) :
    ∃ thrown, thrown ≠ BrokerError.unfinished ∧ step call name action run = (.error thrown, run) := by
  cases fails : call.faults name with
  | none =>
    rw [step_faultless fails]
    exact ⟨_, by simp, rejects⟩
  | some fault =>
    cases early : fault.tookEffect with
    | false => exact ⟨_, by simp, step_early fails early run⟩
    | true =>
      refine ⟨.workflow error, by simp, ?_⟩
      simp only [step, fails, early, if_true]
      exact Action.bind_rejects rejects

/-- **The three ways of the body**: nothing is admitted, or a node is admitted and not claimed, or
the call goes on with the claim. -/
inductive BodyRun (broker : WorkflowEffectBrokerV1) (prepared : PreparedToolInvocation)
    (call : BrokerCall) (store : AuthorityStore) : Prop
  | unadmitted {error : BrokerError} (returns : error ≠ .unfinished)
      (none : ∀ admitted, ¬ Admits broker prepared call store admitted)
      (run : journalActivity broker prepared call { store } = (.error error, { store }))
  | unclaimed {error : BrokerError} {admitted after : AuthorityStore} (returns : error ≠ .unfinished)
      (admits : Admits broker prepared call store admitted) (lost : ¬ Claims broker call admitted)
      (absent : NoActivity broker.workflowId call.nodeId store)
      (open_ : OpenActivity broker.workflowId call.nodeId after)
      (run : journalActivity broker prepared call { store } = (.error error, { store := after }))
  | claimed {claimed : WorkflowTaskClaimV1} {admitted : AuthorityStore} {middle : BrokerRun}
      (admits : Admits broker prepared call store admitted) (claims : Claims broker call admitted)
      (owner : claimed.task.workflowId = broker.workflowId ∧ claimed.task.nodeId = call.nodeId)
      (underway : Underway claimed middle)
      (run : journalActivity broker prepared call { store } =
        runActivity broker prepared call claimed middle)

theorem admitted_run {projection : WorkflowProjectionV1} (orderly : admitted.journal.Orderly)
    (fresh : ∀ name ∈ ["terminal-", "unknown-"], ∀ taskId, admitted.journal.transactions.get?
      (name ++ taskId ++ "-" ++ ("lease-" ++ call.leaseUuid.text)) = none)
    (admits : Admits broker prepared call store admitted)
    (learns : call.faults .admitToolActivity = none)
    (absent : NoActivity broker.workflowId call.nodeId store)
    (open_ : OpenActivity broker.workflowId call.nodeId admitted)
    (first : step call .admitToolActivity (orchestrate (admission broker prepared call)) { store } =
      (.ok projection, { store := admitted })) : BodyRun broker prepared call store := by
  have body := @Action.bind_run _ _ _ _ _ (fun _ => (do
    step call .onAdmitted (pure ())
    let claim ← step call .claimActivity (claimActivity broker call)
    assign fun run => { run with claim := some claim }
    runActivity broker prepared call claim : BrokerAction ToolResult)) _ _ _ first
  change journalActivity broker prepared call { store } = _ at body
  cases seen : call.faults .onAdmitted with
  | some fault =>
    have lost : ¬ Claims broker call admitted := by
      intro claims
      have none := claims.faultless .onAdmitted (by simp)
      rw [seen] at none
      cases none
    have fails : ∃ error, error ≠ BrokerError.unfinished ∧
        step call .onAdmitted (pure ()) { store := admitted } =
          (.error error, { store := admitted }) := by
      cases late : fault.tookEffect with
      | false => exact ⟨_, by simp, step_early seen late _⟩
      | true => exact ⟨_, by simp, step_late seen late rfl⟩
    obtain ⟨error, returns, fails⟩ := fails
    exact .unclaimed returns admits lost absent open_ (body.trans (Action.bind_rejects fails))
  | none =>
    rw [step_faultless seen] at body
    have next := body.trans (Action.bind_run (Action.pure_run () _))
    rcases claimActivity_cases orderly fresh with ⟨error, never, rejects⟩ |
      ⟨claimed, after, leasable, accepts, ofWorkflow, ofNode, underway, stillOpen⟩
    · obtain ⟨thrown, returns, fails⟩ :=
        @step_rejects call _ .claimActivity _ { store := admitted } error rejects
      exact .unclaimed returns admits (fun claims => never claims.leasable) absent open_
        (next.trans (Action.bind_rejects fails))
    · cases answers : call.faults .claimActivity with
      | none =>
        rw [step_faultless answers] at next
        refine .claimed admits ⟨?_, leasable⟩ ⟨ofWorkflow, ofNode⟩ underway
          ((next.trans (Action.bind_run accepts)).trans (Action.bind_run rfl))
        intro name listed
        simp only [List.mem_cons, List.not_mem_nil, or_false] at listed
        rcases listed with rfl | rfl | rfl
        · exact learns
        · exact seen
        · exact answers
      | some fault =>
        have lost : ¬ Claims broker call admitted := by
          intro claims
          have none := claims.faultless .claimActivity (by simp)
          rw [answers] at none
          cases none
        cases late : fault.tookEffect with
        | false =>
          exact .unclaimed (by simp) admits lost absent open_
            (next.trans (Action.bind_rejects (step_early answers late _)))
        | true =>
          exact .unclaimed (by simp) admits lost absent stillOpen
            (next.trans (Action.bind_rejects (step_late answers late accepts)))

/-- **The body of a call runs in one of its three ways.** -/
theorem journalActivity_run (orderly : store.journal.Orderly) (new : NewDraws call store) :
    BodyRun broker prepared call store := by
  rcases answer : (admission broker prepared call).perform store store store with
    error | ⟨projection, admitted⟩
  · have rejects : orchestrate (admission broker prepared call) { store } =
        (.error (.workflow error), { store }) := by
      simp only [orchestrate, authority, answer]
    obtain ⟨thrown, returns, fails⟩ := @step_rejects call _ .admitToolActivity _ _ _ rejects
    refine .unadmitted returns (fun admitted admits => ?_) (Action.bind_rejects fails)
    obtain ⟨_, _, accepted⟩ := admits
    rw [answer] at accepted
    cases accepted
  · have accepts : orchestrate (admission broker prepared call) { store } =
        (.ok projection, { store := admitted }) := by
      simp only [orchestrate, authority, answer]
    obtain ⟨absent, orderly', open_, fresh⟩ := admission_opens orderly new answer
    cases learns : call.faults .admitToolActivity with
    | none =>
      have admits : Admits broker prepared call store admitted := by
        refine ⟨fun fault fails => ?_, projection, answer⟩
        rw [learns] at fails
        cases fails
      have first : step call .admitToolActivity (orchestrate (admission broker prepared call))
          { store } = (.ok projection, { store := admitted }) := by
        rw [step_faultless learns]
        exact accepts
      exact admitted_run orderly' fresh admits learns absent open_ first
    | some fault =>
      cases late : fault.tookEffect with
      | false =>
        refine .unadmitted (by simp) (fun other admits => ?_)
          (Action.bind_rejects (step_early learns late _))
        rw [admits.1 fault learns] at late
        cases late
      | true =>
        have admits : Admits broker prepared call store admitted := by
          refine ⟨fun other fails => ?_, projection, answer⟩
          obtain rfl := Option.mem_unique learns fails
          exact late
        refine .unclaimed (by simp) admits (fun claims => ?_) absent open_
          (Action.bind_rejects (step_late learns late accepts))
        have none := claims.faultless .admitToolActivity (by simp)
        rw [learns] at none
        cases none

end Body

/-! ## Calls -/

/-- The call is journaled: its tool has a durable effect, and the topology allows it. -/
structure Journals (broker : WorkflowEffectBrokerV1) (prepared : PreparedToolInvocation)
    (store : AuthorityStore) : Prop where
  tool : prepared.name ∉ memoryTools
  topology : needsTopology broker prepared = true → ∃ projection,
    store.journal.loadProjection broker.workflowId = .ok projection ∧
      projection.spec.topology ≠ .singleAgent
  durable : durableEffect prepared = true

/-- The activity that the call adds, if it adds one, is not left open. -/
def NoOrphan (workflowId nodeId : String) (before after : AuthorityStore) : Prop :=
  NoActivity workflowId nodeId before → ActivityIn terminalNodes workflowId nodeId after

/-- The last write of a call that fails with a claim is accepted. -/
def LastWriteHolds (broker : WorkflowEffectBrokerV1) (prepared : PreparedToolInvocation)
    (call : BrokerCall) (store : AuthorityStore) : Prop :=
  ∀ error failed claim, journalActivity broker prepared call { store } = (.error error, failed) →
    error ≠ .unfinished → failed.claim = some claim →
    ∃ projection after, recordUnknown call claim (unknownCode failed.invocationState)
      failed.effectReserved failed = (.ok projection, after)

section Calls

open BrokerAction

variable {broker : WorkflowEffectBrokerV1} {prepared : PreparedToolInvocation} {call : BrokerCall}
  {store : AuthorityStore} {result : ToolResult} {after : BrokerRun}

theorem invokeTool_store {run : BrokerRun} (returned : invokeTool call run = (.ok result, after)) :
    after = run := by
  rw [invokeTool] at returned
  cases invoked : call.invoke with
  | some value =>
    rw [invoked] at returned
    exact (congrArg Prod.snd returned).symm
  | none =>
    rw [invoked] at returned
    cases congrArg Prod.fst returned

theorem refusesTopology_ok {run middle : BrokerRun} {refused : Bool}
    (asked : refusesTopology broker prepared run = (.ok refused, middle)) :
    middle = run ∧ (refused = false ↔ (needsTopology broker prepared = true → ∃ projection,
      run.store.journal.loadProjection broker.workflowId = .ok projection ∧
        projection.spec.topology ≠ .singleAgent)) := by
  rw [refusesTopology] at asked
  split at asked
  · rename_i needs
    obtain ⟨current, read, loaded, decided⟩ := Action.bind_eq_ok.mp asked
    obtain ⟨same, rfl⟩ := Prod.mk.inj decided
    simp only [projection, authority] at loaded
    cases stored : run.store.journal.loadProjection broker.workflowId with
    | error error =>
      rw [stored] at loaded
      cases congrArg Prod.fst loaded
    | ok projection =>
      rw [stored] at loaded
      obtain ⟨rfl, rfl⟩ : projection = current ∧ run = read := by
        simpa using loaded
      refine ⟨rfl, ?_⟩
      rw [← Except.ok.inj same]
      simp [needs]
  · rename_i free
    obtain ⟨same, rfl⟩ := Prod.mk.inj asked
    exact ⟨rfl, by simp [← Except.ok.inj same, free]⟩

theorem execute_cases (returned : execute broker prepared call { store } = (.ok result, after)) :
    (Journals broker prepared store ∧
      executeActivity broker prepared call { store } = (.ok result, after)) ∨
    (¬ Journals broker prepared store ∧ after.store = store) := by
  rw [execute] at returned
  split at returned
  · rename_i memory
    exact .inr ⟨fun journals => journals.tool memory, by rw [invokeTool_store returned]⟩
  · rename_i tool
    obtain ⟨refused, middle, asked, rest⟩ := Action.bind_eq_ok.mp returned
    obtain ⟨rfl, allowed⟩ := refusesTopology_ok asked
    by_cases given : refused = true
    · rw [if_pos given] at rest
      refine .inr ⟨fun journals => ?_, congrArg (·.store) (congrArg Prod.snd rest).symm⟩
      rw [allowed.mpr journals.topology] at given
      cases given
    · rw [if_neg given] at rest
      have topology := allowed.mp (by simpa using given)
      split at rest
      · rename_i durable
        exact .inl ⟨⟨tool, topology, durable⟩, rest⟩
      · rename_i transient
        exact .inr ⟨fun journals => transient journals.durable, by rw [invokeTool_store rest]⟩

variable {error : BrokerError} {failed : BrokerRun}

theorem handleFailure_unclaimed (unclaimed : failed.claim = none)
    (handled : handleFailure broker call error failed = (.ok result, after)) :
    after.store = failed.store := by
  obtain ⟨run, middle, read, rest⟩ := Action.bind_eq_ok.mp handled
  obtain ⟨rfl, rfl⟩ : failed = run ∧ failed = middle := by
    simpa [Action.reading] using read
  obtain ⟨_, last, done, returns⟩ := Action.bind_eq_ok.mp rest
  rw [recordFailure, unclaimed] at done
  obtain rfl := congrArg Prod.snd done
  exact congrArg BrokerRun.store (congrArg Prod.snd returns).symm

theorem handleFailure_claimed {claim : WorkflowTaskClaimV1} (open_ : UnderwayOrClosed claim failed)
    (accepted : ∃ projection last, recordUnknown call claim (unknownCode failed.invocationState)
      failed.effectReserved failed = (.ok projection, last))
    (handled : handleFailure broker call error failed = (.ok result, after)) :
    Settled claim terminalNodes after := by
  obtain ⟨projection, last, write⟩ := accepted
  have held : failed.claim = some claim := open_.elim (·.held) (·.held)
  obtain ⟨run, middle, read, rest⟩ := Action.bind_eq_ok.mp handled
  obtain ⟨rfl, rfl⟩ : failed = run ∧ failed = middle := by
    simpa [Action.reading] using read
  have recorded : recordFailure call failed failed = (.ok (), last) := by
    rw [recordFailure, held]
    exact Action.swallow_run (Action.bind_run write)
  have returns := (Action.bind_run recorded).symm.trans rest
  obtain rfl : last = after := congrArg Prod.snd returns
  exact recordUnknown_triple.accepts open_ write

/-- **A journaled call closes what it admits exactly if it claims what it admits.** -/
theorem executeActivity_orphan_free_iff (orderly : store.journal.Orderly)
    (new : NewDraws call store) (written : LastWriteHolds broker prepared call store)
    (returned : executeActivity broker prepared call { store } = (.ok result, after)) :
    NoOrphan broker.workflowId call.nodeId store after.store ↔
      ∀ admitted, Admits broker prepared call store admitted → Claims broker call admitted := by
  have fails : ∀ {error : BrokerError} {failed : BrokerRun}, error ≠ .unfinished →
      journalActivity broker prepared call { store } = (.error error, failed) →
      handleFailure broker call error failed = (.ok result, after) := by
    intro error failed returns body
    rw [executeActivity, Action.catching, body] at returned
    cases error with
    | unfinished => exact absurd rfl returns
    | workflow error => exact returned
    | thrown code => exact returned
  cases journalActivity_run orderly new with
  | unadmitted returns none body =>
    have same := handleFailure_unclaimed rfl (fails returns body)
    refine ⟨fun _ admitted admits => absurd admits (none admitted), fun _ absent => ?_⟩
    rw [same]
    intro projection loaded node member here
    cases absent projection loaded node member here
  | unclaimed returns admits lost absent open_ body =>
    have same := handleFailure_unclaimed rfl (fails returns body)
    refine ⟨fun free => ?_, fun claims => absurd (claims _ admits) lost⟩
    obtain ⟨projection, loaded, node, member, here, unfinished⟩ := open_
    rw [same] at free
    exact absurd (free absent projection loaded node member here) unfinished
  | @claimed claimed admitted middle admits claims owner underway body =>
    have closed : Settled claimed terminalNodes after := by
      have inner : claimed.task.nodeId ≠ "root" := by
        rw [owner.2]
        exact ne_of_first (by simp [BrokerCall.nodeId, String.toList_append])
      have triple := @runActivity_triple claimed call broker prepared inner
      rcases ran : runActivity broker prepared call claimed middle with ⟨error | value, last⟩
      · rw [ran] at body
        have open_ := triple.rejects underway ran
        have returns : error ≠ .unfinished := by
          rintro rfl
          rw [executeActivity, Action.catching, body] at returned
          cases congrArg Prod.fst returned
        have held : last.claim = some claimed := open_.elim (·.held) (·.held)
        exact handleFailure_claimed open_ (written error last claimed body returns held)
          (fails returns body)
      · rw [ran] at body
        rw [executeActivity, Action.catching, body] at returned
        obtain rfl : last = after := congrArg Prod.snd returned
        exact triple.accepts underway ran
    refine ⟨fun _ other again => ?_, fun _ _ => ?_⟩
    · obtain ⟨_, _, first⟩ := admits
      obtain ⟨_, _, second⟩ := again
      rw [first] at second
      obtain ⟨_, rfl⟩ := Prod.mk.inj (Except.ok.inj second)
      exact claims
    · have nodes := closed.nodes
      rw [owner.1, owner.2] at nodes
      exact nodes

end Calls

/-- **A call leaves no orphan exactly if it claims what it admits.** After every history of calls of
the authority, transactions of any content among them, a call that returns leaves the activity that
it admitted closed if and only if it learns of the admission and finds the task of the activity
leasable. The operations of a fleet are such calls (`Fleet.run_stored`). -/
theorem orphan_free_iff {history : List StoreCall} {store : AuthorityStore}
    (reached : StoreCall.run .empty history = store) {broker : WorkflowEffectBrokerV1}
    {prepared : PreparedToolInvocation} {call : BrokerCall} {result : ToolResult}
    {after : BrokerRun} (new : NewDraws call store)
    (written : LastWriteHolds broker prepared call store)
    (returned : execute broker prepared call { store } = (.ok result, after)) :
    NoOrphan broker.workflowId call.nodeId store after.store ↔
      (Journals broker prepared store →
        ∀ admitted, Admits broker prepared call store admitted →
          Claims broker call admitted) := by
  rcases execute_cases returned with ⟨journaled, inner⟩ | ⟨direct, same⟩
  · have closes := executeActivity_orphan_free_iff (reached ▸ StoreCall.run_orderly history) new
      written inner
    exact closes.trans ⟨fun claims _ => claims, fun claims => claims journaled⟩
  · refine ⟨fun _ journaled => absurd journaled direct, fun _ absent => ?_⟩
    rw [same]
    intro projection loaded node member here
    cases absent projection loaded node member here

/-! ## Two calls -/

/-- A command of a shell. -/
def sampleCommand : PreparedToolInvocation where
  name := "shell.run"
  input := []
  sideEffect := .process

def sampleBroker : WorkflowEffectBrokerV1 where
  workflowId := sampleWorkflowId
  sha256 := fun _ => "0000000000000000000000000000000000000000000000000000000000000000"
  stringify := fun _ => ""
  codeOf := fun _ => none

def sampleCall : BrokerCall where
  faults := fun _ => none
  invoke := some { ok := false, summary := "exit code 1" }
  stored := none
  artifact :=
    { artifactId := "artifact"
      digest := "sha256:00"
      mimeType := "application/json"
      bytes := 1 }
  operationUuid := sampleUuid
  nodeUuid := sampleUuid
  attemptUuid := ⟨"00000000-0000-4000-8000-000000000001", by decide⟩
  taskUuid := ⟨"00000000-0000-4000-8000-000000000001", by decide⟩
  workerUuid := sampleUuid
  leaseUuid := sampleUuid
  retryAttemptUuid := sampleUuid
  retryTaskUuid := sampleUuid
  admittedAt := epochStart
  claimedAt := epochStart
  runningAt := epochStart
  reservedAt := epochStart
  heartbeatsAt := []
  completedAt := epochStart
  unknownAt := epochStart
  passes := 3

variable {call : BrokerCall} {broker : WorkflowEffectBrokerV1} {prepared : PreparedToolInvocation}

theorem newDraws_of_rows {store : AuthorityStore} (attempt : store.journal.transactions.get?
      ("activity-" ++ ("attempt-" ++ call.attemptUuid.text)) = none)
    (rows : (store.journal.transactions.rows.all fun entry =>
      entry.1.toList.head? != some 't' && entry.1.toList.head? != some 'u') = true) :
    NewDraws call store := by
  refine ⟨attempt, fun name listed taskId => ?_⟩
  cases found : store.journal.transactions.get?
      (name ++ taskId ++ "-" ++ ("lease-" ++ call.leaseUuid.text)) with
  | none => rfl
  | some transaction =>
    have first := List.all_eq_true.mp rows _ ((Table.mem_rows_iff _).mpr found)
    simp only [List.mem_cons, List.not_mem_nil, or_false] at listed
    rcases listed with rfl | rfl <;> simp [String.toList_append] at first

theorem execute_journaled {run : BrokerRun} (tool : prepared.name ∉ memoryTools)
    (free : needsTopology broker prepared = false) (durable : durableEffect prepared = true) :
    execute broker prepared call run = executeActivity broker prepared call run := by
  have asked : refusesTopology broker prepared run = (.ok false, run) := by
    rw [refusesTopology, free]
    rfl
  rw [execute, if_neg tool, Action.bind_run asked, if_neg Bool.false_ne_true, if_pos durable]

theorem executeActivity_returned {run last : BrokerRun} {result : ToolResult}
    (body : journalActivity broker prepared call run = (.ok result, last)) :
    executeActivity broker prepared call run = (.ok result, last) := by
  rw [executeActivity, Action.catching, body]

theorem executeActivity_unclaimed {run failed : BrokerRun} {error : WorkflowError}
    (unclaimed : failed.claim = none)
    (body : journalActivity broker prepared call run = (.error (.workflow error), failed)) :
    executeActivity broker prepared call run =
      (.ok (failedResult broker (.workflow error) failed.invocationState), failed) := by
  have recorded : recordFailure call failed failed = (.ok (), failed) := by
    rw [recordFailure, unclaimed]
    rfl
  rw [executeActivity, Action.catching, body]
  exact (Action.bind_run rfl).trans (Action.bind_run recorded)

theorem sample_command_orphan_free_iff :
    ∃ result after, execute sampleBroker sampleCommand sampleCall
        { store := (Fleet.initial.after sampleStart).store } = (.ok result, after) ∧
      (NoOrphan sampleWorkflowId sampleCall.nodeId (Fleet.initial.after sampleStart).store
          after.store ↔
        (Journals sampleBroker sampleCommand (Fleet.initial.after sampleStart).store →
          ∀ admitted, Admits sampleBroker sampleCommand sampleCall
            (Fleet.initial.after sampleStart).store admitted →
              Claims sampleBroker sampleCall admitted)) := by
  have run : Run Fleet.Step Fleet.initial [sampleStart] (Fleet.initial.after sampleStart) :=
    .snoc .nil sampleStart_step
  have held : ((Fleet.initial.after sampleStart).store.journal.transactions.get?
        ("activity-" ++ ("attempt-" ++ sampleCall.attemptUuid.text))).isNone &&
      ((Fleet.initial.after sampleStart).store.journal.transactions.rows.all fun entry =>
        entry.1.toList.head? != some 't' && entry.1.toList.head? != some 'u') &&
      (journalActivity sampleBroker sampleCommand sampleCall
        { store := (Fleet.initial.after sampleStart).store }).1.toOption.isSome := by
    generalize started : (Fleet.initial.after sampleStart).store = store
    cbv at started
    subst started
    decide +kernel
  generalize Fleet.initial.after sampleStart = fleet at *
  simp only [Bool.and_eq_true, Option.isNone_iff_eq_none] at held
  obtain ⟨⟨attempt, rows⟩, succeeds⟩ := held
  rcases body : journalActivity sampleBroker sampleCommand sampleCall
      { store := fleet.store } with ⟨error | result, last⟩
  · rw [body] at succeeds
    cases succeeds
  · have written : LastWriteHolds sampleBroker sampleCommand sampleCall fleet.store := by
      intro error failed claim fails
      rw [body] at fails
      cases congrArg Prod.fst fails
    have executed := (execute_journaled (by decide) (by decide) (by decide +kernel)).trans
      (executeActivity_returned body)
    obtain ⟨history, reached⟩ := Fleet.run_stored run
    exact ⟨result, last, executed, orphan_free_iff reached
      (newDraws_of_rows attempt rows) written executed⟩

/-- The workflow is paused before the call. -/
def waitingFleet : Fleet :=
  (Fleet.initial.after sampleStart).orchestrated (.pause sampleWorkflowId epochStart)

/-- **An activity of a paused workflow is left scheduled.** -/
theorem paused_activity_orphaned :
    ¬ ∀ (calls : List FleetCall) (fleet : Fleet), Run Fleet.Step Fleet.initial calls fleet →
      ∀ (broker : WorkflowEffectBrokerV1) (prepared : PreparedToolInvocation) (call : BrokerCall)
        (result : ToolResult) (after : BrokerRun),
        NewDraws call fleet.store → LastWriteHolds broker prepared call fleet.store →
        execute broker prepared call { store := fleet.store } = (.ok result, after) →
        NoOrphan broker.workflowId call.nodeId fleet.store after.store := by
  intro always
  have run : Run Fleet.Step Fleet.initial _ waitingFleet :=
    (Run.nil.snoc sampleStart_step).snoc (Fleet.orchestrated_step _ rfl)
  -- nothing holds the node before, and the body leaves it scheduled, without a claim
  have held : (waitingFleet.store.journal.transactions.get?
        ("activity-" ++ ("attempt-" ++ sampleCall.attemptUuid.text))).isNone &&
      (waitingFleet.store.journal.transactions.rows.all fun entry =>
        entry.1.toList.head? != some 't' && entry.1.toList.head? != some 'u') &&
      ((waitingFleet.store.journal.loadProjection sampleWorkflowId).toOption.all fun projection =>
        projection.nodes.all fun node => node.nodeId != sampleCall.nodeId) &&
      (match journalActivity sampleBroker sampleCommand sampleCall
          { store := waitingFleet.store } with
        | (.error (.workflow _), failed) => failed.claim.isNone &&
            (failed.store.journal.loadProjection sampleWorkflowId).toOption.any fun projection =>
              projection.nodes.any fun node =>
                node.nodeId == sampleCall.nodeId && node.state == .scheduled
        | _ => false) := by
    generalize paused : waitingFleet.store = store
    cbv at paused
    subst paused
    decide +kernel
  generalize waitingFleet = fleet at *
  simp only [Bool.and_eq_true, Option.isNone_iff_eq_none] at held
  obtain ⟨⟨⟨attempt, rows⟩, absent⟩, fails⟩ := held
  split at fails
  · rename_i error failed body
    rw [Bool.and_eq_true, Option.isNone_iff_eq_none] at fails
    obtain ⟨unclaimed, scheduled⟩ := fails
    have written : LastWriteHolds sampleBroker sampleCommand sampleCall fleet.store := by
      intro other last claim again _ held
      rw [body] at again
      obtain rfl := congrArg Prod.snd again
      rw [unclaimed] at held
      cases held
    have executed := (execute_journaled (by decide) (by decide) (by decide +kernel)).trans
      (executeActivity_unclaimed unclaimed body)
    have free := always _ _ run _ _ _ _ _ (newDraws_of_rows attempt rows) written executed
    obtain ⟨projection, loaded, open_⟩ := exists_ok scheduled
    obtain ⟨node, member, here⟩ := List.any_eq_true.mp open_
    simp only [Bool.and_eq_true, beq_iff_eq] at here
    have empty : NoActivity sampleWorkflowId sampleCall.nodeId fleet.store := by
      intro before stored old there same
      rw [stored] at absent
      have other := List.all_eq_true.mp absent old there
      rw [same] at other
      simp at other
    have closed := free empty projection loaded node member here.1
    rw [here.2] at closed
    simp [terminalNodes] at closed
  · cases fails

end Praxis.Workflow
