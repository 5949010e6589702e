import Praxis.Foundations.Runs
import Praxis.Durable.Admission
import Praxis.Durable.AuthorityAgreement

/-!
# The fleet

Any number of workers, schedulers and operators call the orchestrator and the authority over
one store. The operations of the authority run one after the other. An operation of the
orchestrator reads, decides and applies its transaction, and other operations may come between
these; `complete` and the schedulers are rounds of such operations. So what it reads may be
any earlier state of the store (`Fleet.past`), and the transaction meets the present one.

A worker uses claims that the authority granted (`FleetCall.Grounded`). Nothing else is assumed
about the calls of a run. The authority's public `create` and `transact`, which write whatever
events they are given, are not among them: the operations call both with events of their own, so
what a run stores could be written by these two and the other calls alone (`Fleet.run_stored`).
-/

namespace Praxis.Workflow

set_option autoImplicit false

open Praxis.Foundations

/-! ## Calls -/

/-- The operations of the orchestrator that read a workflow, decide, and apply at most one
transaction. -/
inductive OrchestratorCall where
  | markRunning (claim : WorkflowTaskClaimV1) (at_ : Timestamp)
  | complete (claim : WorkflowTaskClaimV1) (outcome : WorkflowOutcomeV1) (at_ : Timestamp)
      (attemptUuid taskUuid : Uuid)
  | markUnknown (claim : WorkflowTaskClaimV1) (errorCode : String) (effectReserved : Bool)
      (at_ : Timestamp)
  | cancelClaim (claim : WorkflowTaskClaimV1) (errorCode : String) (at_ : Timestamp)
  | scheduleReadyNodes (workflowId : String) (nodeIds : List String) (at_ : Timestamp)
  | resolveJoinNode (workflowId nodeId : String) (at_ : Timestamp)
  | settleWorkflow (workflowId : String) (at_ : Timestamp)
  | cancelNodes (workflowId : String) (nodeIds : List String) (code : String) (at_ : Timestamp)
  | pause (workflowId : String) (at_ : Timestamp)
  | resume (workflowId : String) (at_ : Timestamp)
  | cancel (workflowId code : String) (at_ : Timestamp)
  | terminate (workflowId code : String) (at_ : Timestamp)
  | admitDelegate (profiles : ProfileRegistry) (workflowId parentNodeId : String)
      (proposal : DelegateProposalV1) (kind : DelegateKindV1) (required : Bool)
      (attemptUuid taskUuid : Uuid) (at_ : Timestamp)
  | applyGraphProposal (workflowId : String) (proposal : GraphPatchProposalV1)
      (checkedAt at_ : Timestamp)
  | supersedeFailedNodes (workflowId : String) (nodeIds replacementNodeIds : List String)
      (transactionKey : String) (at_ : Timestamp)
  | admitHumanTask (workflowId : String) (request : List (String × Json))
      (expiresAt : Option Timestamp) (humanUuid nodeUuid attemptUuid : Uuid) (at_ : Timestamp)
  | admitTimer (workflowId : String) (fireAt : Timestamp) (payload : List (String × Json))
      (timerUuid nodeUuid attemptUuid : Uuid) (at_ : Timestamp)
  | admitToolActivity (workflowId toolName : String) (effect : EffectContractV1)
      (nodeUuid attemptUuid taskUuid : Uuid) (at_ : Timestamp)
  | admitAgentGraph (profiles : ProfileRegistry) (workflowId parentNodeId proposalId : String)
      (proposals : List (AgentGraphNodeProposalV1 × AdmissionIds))
      (join : Option AgentGraphJoinV1) (at_ : Timestamp)

namespace OrchestratorCall

def claim? : OrchestratorCall → Option WorkflowTaskClaimV1
  | markRunning claim _ | complete claim _ _ _ _ | markUnknown claim _ _ _
  | cancelClaim claim _ _ => some claim
  | _ => none

def workflowId : OrchestratorCall → String
  | markRunning claim _ | complete claim _ _ _ _ | markUnknown claim _ _ _
  | cancelClaim claim _ _ => claim.task.workflowId
  | scheduleReadyNodes workflowId _ _ | resolveJoinNode workflowId _ _
  | settleWorkflow workflowId _ | cancelNodes workflowId _ _ _ | pause workflowId _
  | resume workflowId _ | cancel workflowId _ _ | terminate workflowId _ _
  | admitDelegate _ workflowId _ _ _ _ _ _ _ | applyGraphProposal workflowId _ _ _
  | supersedeFailedNodes workflowId _ _ _ _ | admitHumanTask workflowId _ _ _ _ _ _
  | admitTimer workflowId _ _ _ _ _ _ | admitToolActivity workflowId _ _ _ _ _ _
  | admitAgentGraph _ workflowId _ _ _ _ _ => workflowId

/-- The decision of the operation on the projection that it read, and on the store in which it
then listed tasks. -/
def decide (current : WorkflowProjectionV1) (listed : AuthorityStore) :
    OrchestratorCall → Except WorkflowError Decision
  | markRunning claim at_ => return Workflow.markRunning current claim at_
  | complete claim outcome at_ attemptUuid taskUuid =>
    completeOnce claim outcome current at_ attemptUuid taskUuid
  | markUnknown claim errorCode effectReserved at_ =>
    return Workflow.markUnknown current claim errorCode effectReserved at_
  | cancelClaim claim errorCode at_ => return Workflow.cancelClaim current claim errorCode at_
  | scheduleReadyNodes workflowId nodeIds at_ =>
    Workflow.scheduleReadyNodes current listed workflowId nodeIds at_
  | resolveJoinNode workflowId nodeId at_ =>
    Workflow.resolveJoinNode current workflowId nodeId at_
  | settleWorkflow workflowId at_ => return Workflow.settleWorkflow current workflowId at_
  | cancelNodes workflowId nodeIds code at_ =>
    Workflow.cancelNodes current listed workflowId nodeIds code at_
  | pause workflowId at_ => Workflow.pause current workflowId at_
  | resume workflowId at_ => Workflow.resume current workflowId at_
  | cancel workflowId code at_ => return Workflow.cancel current workflowId code at_
  | terminate workflowId code at_ => return Workflow.terminate current workflowId code at_
  | admitDelegate profiles workflowId parentNodeId proposal kind required attemptUuid taskUuid at_ =>
    Workflow.admitDelegate profiles current workflowId parentNodeId proposal kind required
      attemptUuid taskUuid at_
  | applyGraphProposal workflowId proposal checkedAt at_ =>
    Workflow.applyGraphProposal current workflowId proposal checkedAt at_
  | supersedeFailedNodes workflowId nodeIds replacementNodeIds transactionKey at_ =>
    Workflow.supersedeFailedNodes current workflowId nodeIds replacementNodeIds transactionKey at_
  | admitHumanTask workflowId request expiresAt humanUuid nodeUuid attemptUuid at_ =>
    Workflow.admitHumanTask current workflowId request expiresAt humanUuid nodeUuid attemptUuid at_
  | admitTimer workflowId fireAt payload timerUuid nodeUuid attemptUuid at_ =>
    Workflow.admitTimer current workflowId fireAt payload timerUuid nodeUuid attemptUuid at_
  | admitToolActivity workflowId toolName effect nodeUuid attemptUuid taskUuid at_ =>
    Workflow.admitToolActivity current workflowId toolName effect nodeUuid attemptUuid taskUuid at_
  | admitAgentGraph profiles workflowId parentNodeId proposalId proposals join at_ =>
    Workflow.admitAgentGraph profiles current workflowId parentNodeId proposalId proposals join at_

/-- The operation as a whole, with the stores that its reads meet. -/
def perform (read listed store : AuthorityStore) (call : OrchestratorCall) :
    Except WorkflowError (WorkflowProjectionV1 × AuthorityStore) := do
  let current ← read.journal.loadProjection call.workflowId
  let decision ← call.decide current listed
  decision.perform store

end OrchestratorCall

/-- The start of a workflow, an operation of the authority, and one of the orchestrator with the
stores that its reads meet. -/
inductive FleetCall where
  | start (input : StartAutoWorkflowInputV1) (coordinatorDigest : String) (ids : StartIds)
      (at_ : Timestamp)
  | authority (call : AuthorityCall)
  | orchestrate (read listed : AuthorityStore) (call : OrchestratorCall)

def FleetCall.perform (store : AuthorityStore) :
    FleetCall → Except WorkflowError (AuthorityAnswer × AuthorityStore)
  | start input coordinatorDigest ids at_ =>
    answering (fun _ => .done) (Workflow.start store input coordinatorDigest ids at_)
  | authority call => call.perform store
  | orchestrate read listed call => answering (fun _ => .done) (call.perform read listed store)

/-! ## States and steps -/

structure Fleet where
  store : AuthorityStore
  /-- The states that the store was in before, the latest first. -/
  past : List AuthorityStore
  /-- The claims that the authority has granted. -/
  claims : List WorkflowTaskClaimV1

namespace Fleet

def initial : Fleet := ⟨.empty, [], []⟩

/-- All states of the store up to now, the latest first. -/
def timeline (fleet : Fleet) : List AuthorityStore := fleet.store :: fleet.past

/-- One read after the other. -/
def ReadsInOrder (fleet : Fleet) (first second : AuthorityStore) : Prop :=
  ∃ later earlier, fleet.timeline = later ++ second :: earlier ∧ first ∈ second :: earlier

end Fleet

/-- The call reads states that the store was in, one after the other, and presents a claim that
was granted. -/
def FleetCall.Grounded (fleet : Fleet) : FleetCall → Prop
  | authority (.resolveUnknown read listed _ _ _ _ _) => fleet.ReadsInOrder read listed
  | orchestrate read listed call =>
    fleet.ReadsInOrder read listed ∧ ∀ claim ∈ call.claim?, claim ∈ fleet.claims
  | _ => True

def AuthorityAnswer.granted : AuthorityAnswer → List WorkflowTaskClaimV1
  | claimed claim => claim.toList
  | _ => []

/-- The state after a call: one that is rejected leaves everything as it was. -/
def Fleet.after (fleet : Fleet) (call : FleetCall) : Fleet :=
  match call.perform fleet.store with
  | .ok (answer, store) =>
    { store, past := fleet.store :: fleet.past, claims := answer.granted ++ fleet.claims }
  | .error _ => fleet

structure Fleet.Step (before : Fleet) (call : FleetCall) (after : Fleet) : Prop where
  grounded : call.Grounded before
  result : after = before.after call

/-! ## The past of the store -/

/-- The earlier states of the store: their journals agree with themselves, and each comes
before those after it. -/
structure Fleet.Ordered (fleet : Fleet) : Prop where
  agrees : ∀ store ∈ fleet.timeline, store.journal.Agrees
  ordered : fleet.timeline.Pairwise fun newer older => older.journal.Before newer.journal

section Past

variable {fleet after : Fleet} {call : FleetCall}

theorem Fleet.initial_ordered : initial.Ordered where
  agrees := by
    intro store member
    obtain rfl := List.mem_singleton.mp member
    exact Journal.empty_agrees
  ordered := List.pairwise_singleton _ _

theorem Fleet.Ordered.reads (ordered : fleet.Ordered) {read listed : AuthorityStore}
    (reads : fleet.ReadsInOrder read listed) :
    read.journal.Agrees ∧ read.journal.Before listed.journal ∧
      listed.journal.Before fleet.store.journal := by
  obtain ⟨later, earlier, split, member⟩ := reads
  have inside : listed ∈ fleet.timeline := by simp [split]
  have pairs := ordered.ordered
  rw [split, List.pairwise_append, List.pairwise_cons] at pairs
  have current : ∀ store ∈ fleet.timeline, store.journal.Before fleet.store.journal := by
    intro store there
    have front := ordered.ordered
    rw [Fleet.timeline, List.pairwise_cons] at front
    rcases List.mem_cons.mp there with rfl | past
    · exact .refl _
    · exact front.1 store past
  refine ⟨ordered.agrees read ?_, ?_, current listed inside⟩
  · rw [split]
    exact List.mem_append_right _ member
  · rcases List.mem_cons.mp member with rfl | before
    · exact .refl _
    · exact pairs.2.1.1 read before

variable {store later : AuthorityStore} {next : WorkflowProjectionV1}

theorem Decision.perform_progress {decision : Decision} (agrees : store.journal.Agrees)
    (performed : decision.perform store = .ok (next, later)) :
    Journal.Progress store.journal later.journal := by
  cases decision with
  | answer =>
    obtain ⟨_, rfl⟩ := Prod.mk.inj (pure_eq_ok.mp performed)
    exact .refl agrees
  | transact input => exact (transact_steps performed).progress agrees

theorem start_ok {input : StartAutoWorkflowInputV1} {coordinatorDigest : String} {ids : StartIds}
    {at_ : Timestamp} (started : start store input coordinatorDigest ids at_ = .ok (next, later)) :
    ∃ task, agentTask ("workflow-" ++ ids.workflow.text) ("workflow-run-" ++ ids.run.text)
        ("attempt-" ++ ids.attempt.text) input.cwd "coordinator" 2
        (rootNode "root" input.rootGrant coordinatorDigest) ids.task at_ = .ok task ∧
      create store (startSpec input coordinatorDigest ids at_)
        ("start-" ++ ("workflow-" ++ ids.workflow.text))
        { events := admissionEvents "root" ("attempt-" ++ ids.attempt.text) true
          tasks := [task]
          outbox := [taskReadyMessage ("workflow-" ++ ids.workflow.text) task.taskId at_] } =
        .ok (next, later) := by
  simp only [start, bind_eq_ok] at started
  obtain ⟨task, built, created⟩ := started
  exact ⟨task, built, created⟩

/-- **Every accepted call of the fleet is progress of the journal.** -/
theorem FleetCall.perform_progress {answer : AuthorityAnswer} (agrees : store.journal.Agrees)
    (performed : call.perform store = .ok (answer, later)) :
    Journal.Progress store.journal later.journal := by
  cases call with
  | start input coordinatorDigest ids at_ =>
    simp only [FleetCall.perform, answering_eq_ok] at performed
    obtain ⟨next, started, _⟩ := performed
    obtain ⟨task, _, created⟩ := start_ok started
    exact (create_steps created).progress agrees
  | authority call => exact (call.perform_steps performed).progress agrees
  | orchestrate read listed call =>
    simp only [FleetCall.perform, answering_eq_ok, OrchestratorCall.perform,
      bind_eq_ok] at performed
    obtain ⟨next, ⟨_, _, decision, _, decided⟩, _⟩ := performed
    exact decision.perform_progress agrees decided

theorem Fleet.after_cases (fleet : Fleet) (call : FleetCall) :
    fleet.after call = fleet ∨
    ∃ answer store, call.perform fleet.store = .ok (answer, store) ∧
      fleet.after call =
        { store, past := fleet.store :: fleet.past, claims := answer.granted ++ fleet.claims } := by
  rw [Fleet.after]
  split
  · rename_i answer store performed
    exact .inr ⟨answer, store, performed, rfl⟩
  · exact .inl rfl

theorem Fleet.Ordered.step (ordered : fleet.Ordered) (step : Fleet.Step fleet call after) :
    after.Ordered := by
  rw [step.result]
  rcases fleet.after_cases call with same | ⟨answer, store, performed, same⟩
  · rw [same]
    exact ordered
  · have progress := call.perform_progress (ordered.agrees _ (List.mem_cons_self ..)) performed
    rw [same]
    refine ⟨fun other member => ?_, List.pairwise_cons.mpr ⟨fun older member => ?_,
      ordered.ordered⟩⟩
    · rcases List.mem_cons.mp member with rfl | past
      · exact progress.agrees
      · exact ordered.agrees other past
    · have front := ordered.ordered
      rw [Fleet.timeline, List.pairwise_cons] at front
      rcases List.mem_cons.mp member with rfl | past
      · exact progress.workflows
      · exact (front.1 older past).trans progress.workflows

end Past

/-! ## The operations as calls of the authority -/

theorem StoreCall.run_snoc (history : List StoreCall) (call : StoreCall) :
    StoreCall.run .empty (history ++ [call]) =
      StoreCall.after (StoreCall.run .empty history) call := by
  rw [StoreCall.run, List.foldl_append]
  rfl

variable {store after : AuthorityStore}

theorem StoreCall.after_create {spec : WorkflowSpecV1}
    {transactionId : String} {bootstrap : WorkflowBootstrapV1} {next : WorkflowProjectionV1}
    (created : Workflow.create store spec transactionId bootstrap = .ok (next, after)) :
    StoreCall.after store (.create spec transactionId bootstrap) = after := by
  rw [StoreCall.after, StoreCall.perform, created]
  rfl

theorem StoreCall.after_transact {input : WorkflowTransactionV1}
    {next : WorkflowProjectionV1} (accepted : Workflow.transact store input = .ok (next, after)) :
    StoreCall.after store (.transact input) = after := by
  rw [StoreCall.after, StoreCall.perform, accepted]
  rfl

/-- An accepted call of the fleet writes what one public call of the authority writes. -/
theorem FleetCall.perform_stored {call : FleetCall}
    {answer : AuthorityAnswer} (performed : call.perform store = .ok (answer, after)) :
    after = store ∨ ∃ call : StoreCall, StoreCall.after store call = after := by
  cases call with
  | start input coordinatorDigest ids at_ =>
    simp only [FleetCall.perform, answering_eq_ok] at performed
    obtain ⟨next, started, _⟩ := performed
    obtain ⟨task, _, created⟩ := start_ok started
    exact .inr ⟨_, StoreCall.after_create created⟩
  | authority call =>
    change call.perform store = _ at performed
    refine .inr ⟨.call call, ?_⟩
    rw [StoreCall.after, StoreCall.perform, performed]
  | orchestrate read listed call =>
    simp only [FleetCall.perform, answering_eq_ok, OrchestratorCall.perform,
      bind_eq_ok] at performed
    obtain ⟨next, ⟨_, _, decision, _, decided⟩, _⟩ := performed
    cases decision with
    | answer =>
      obtain ⟨_, rfl⟩ := Prod.mk.inj (pure_eq_ok.mp decided)
      exact .inl rfl
    | transact input =>
      exact .inr ⟨_, StoreCall.after_transact decided⟩

/-- **What a run of the fleet stores is stored by calls of the authority alone.** -/
theorem Fleet.run_stored {calls : List FleetCall} {fleet : Fleet}
    (run : Run Fleet.Step Fleet.initial calls fleet) :
    ∃ history, StoreCall.run .empty history = fleet.store := by
  refine run.invariant (fun fleet => ∃ history, StoreCall.run .empty history = fleet.store)
    (fun {before call after} stored step => ?_) ⟨[], rfl⟩
  obtain ⟨history, same⟩ := stored
  rw [step.result]
  rcases before.after_cases call with unchanged | ⟨answer, store, performed, moved⟩
  · rw [unchanged]
    exact ⟨history, same⟩
  · rw [moved]
    rcases call.perform_stored performed with rfl | ⟨call, rfl⟩
    · exact ⟨history, same⟩
    · exact ⟨history ++ [call], by rw [StoreCall.run_snoc, same]⟩

end Praxis.Workflow
