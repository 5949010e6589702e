import Praxis.Durable.FleetSound

/-!
# Delegated grants

What a grant permits: for tools, skills and servers the names that its lists denote, a degree of
access to the workspace, the network, and delegation. The grant that a delegation hands on permits
exactly what the request, the parent's grant and the profile of the agent all permit, so that along
a chain of delegations nothing is won back.
-/

namespace Praxis.Workflow

set_option autoImplicit false

open Praxis.Foundations

/-! ## What a grant permits -/

def denoted (names : List String) : Set String := {name | "*" ∈ names ∨ name ∈ names}

/-- The degrees of access to the workspace, in their order. -/
def accessRank : WorkflowWorkspaceAccessV1 → Fin 3
  | .none => 0
  | .read => 1
  | .write => 2

/-- Tools, skills, servers, workspace, network, delegation; ordered by each of them. -/
abbrev Permissions := Set String × Set String × Set String × Fin 3 × Prop × Prop

def granted (grant : CapabilityRequestV1) : Permissions :=
  (denoted grant.tools, denoted grant.skills, denoted grant.mcpServers, accessRank grant.workspace,
    grant.network = true, grant.mayDelegate = true)

/-- A profile limits neither the workspace nor the network. -/
def profileLimit (profile : AgentProfileV1) : Permissions :=
  (denoted profile.toolAllowlist, denoted profile.skillAllowlist, denoted profile.mcpAllowlist, ⊤,
    ⊤, profile.delegationPolicy.mayDelegate = true)

/-! ## The meet -/

variable {names : List String} {current : WorkflowProjectionV1} {profiles : ProfileRegistry}

theorem denoted_of_wildcard (wildcard : "*" ∈ names) : denoted names = Set.univ := by
  ext name
  simp [denoted, wildcard]

theorem mem_denoted_of_plain (plain : "*" ∉ names) {name : String} :
    name ∈ denoted names ↔ name ∈ names := by
  simp [denoted, plain]

theorem allows_iff {values : List String} {name : String} :
    (name == "*" || values.contains "*" || values.contains name) = true ↔
      name = "*" ∨ name ∈ denoted values := by
  simp only [denoted, Bool.or_eq_true, beq_iff_eq, List.contains_iff_mem, Set.mem_ofPred_eq, or_assoc]

theorem denoted_filter_of_plain {candidates : List String} (plain : "*" ∉ candidates)
    (parentValues profileValues : List String) :
    denoted ((candidates.reverse.dedup.reverse).filter fun value =>
        (value == "*" || parentValues.contains "*" || parentValues.contains value) &&
          (value == "*" || profileValues.contains "*" || profileValues.contains value)) =
      denoted candidates ∩ denoted parentValues ∩ denoted profileValues := by
  have still : "*" ∉ (candidates.reverse.dedup.reverse).filter fun value =>
      (value == "*" || parentValues.contains "*" || parentValues.contains value) &&
        (value == "*" || profileValues.contains "*" || profileValues.contains value) := by
    intro member
    have listed := List.mem_of_mem_filter member
    rw [List.mem_reverse, List.mem_dedup, List.mem_reverse] at listed
    exact plain listed
  ext name
  rw [mem_denoted_of_plain still, List.mem_filter, List.mem_reverse, List.mem_dedup,
    List.mem_reverse, Bool.and_eq_true, allows_iff, allows_iff, Set.mem_inter_iff,
    Set.mem_inter_iff, mem_denoted_of_plain plain]
  constructor
  · rintro ⟨member, byParent, byProfile⟩
    have named : name ≠ "*" := by
      rintro rfl
      exact plain member
    exact ⟨⟨member, byParent.resolve_left named⟩, byProfile.resolve_left named⟩
  · rintro ⟨⟨member, byParent⟩, byProfile⟩
    exact ⟨member, .inr byParent, .inr byProfile⟩

/-- **The allowed entries denote the names that all three lists denote.** -/
theorem denoted_allowedEntries (values parentValues profileValues : List String) :
    denoted (allowedEntries values parentValues profileValues) =
      denoted values ∩ denoted parentValues ∩ denoted profileValues := by
  unfold allowedEntries
  by_cases requested : "*" ∈ values
  · rw [denoted_of_wildcard requested, Set.univ_inter, if_pos (by simpa using requested)]
    by_cases inherited : "*" ∈ parentValues
    · rw [if_pos (by simpa using inherited)]
      by_cases allowed : "*" ∈ profileValues
      · -- the only candidate is the wildcard itself
        rw [if_pos (by simpa using allowed), denoted_of_wildcard inherited,
          denoted_of_wildcard allowed, Set.univ_inter]
        exact denoted_of_wildcard (by simp)
      · rw [if_neg (by simpa using allowed)]
        refine (denoted_filter_of_plain allowed parentValues profileValues).trans ?_
        rw [Set.inter_comm (denoted profileValues), Set.inter_assoc, Set.inter_self]
    · rw [if_neg (by simpa using inherited)]
      refine (denoted_filter_of_plain inherited parentValues profileValues).trans ?_
      rw [Set.inter_self]
  · rw [if_neg (by simpa using requested)]
    exact denoted_filter_of_plain requested parentValues profileValues

theorem accessRank_weakerAccess (first second : WorkflowWorkspaceAccessV1) :
    accessRank (weakerAccess first second) = accessRank first ⊓ accessRank second := by
  cases first <;> cases second <;> rfl

/-- **An attenuated grant permits what the parent, the request and the profile all permit.** -/
theorem granted_attenuateGrant (parent requested : CapabilityRequestV1) (profile : AgentProfileV1) :
    granted (attenuateGrant parent requested profile) =
      granted parent ⊓ granted requested ⊓ profileLimit profile := by
  have lists (values parentValues profileValues : List String) :
      denoted (allowedEntries values parentValues profileValues) =
        denoted parentValues ⊓ denoted values ⊓ denoted profileValues := by
    rw [denoted_allowedEntries, Set.inter_comm (denoted values)]
    rfl
  refine Prod.ext (lists ..) (Prod.ext (lists ..) (Prod.ext (lists ..) (Prod.ext ?_
    (Prod.ext (propext ?_) (propext ?_)))))
  · change accessRank (weakerAccess parent.workspace requested.workspace) =
      accessRank parent.workspace ⊓ accessRank requested.workspace ⊓ ⊤
    rw [accessRank_weakerAccess, inf_top_eq]
  · change (parent.network && requested.network) = true ↔
      (parent.network = true ∧ requested.network = true) ∧ True
    rw [Bool.and_eq_true, and_true]
  · change (parent.mayDelegate && requested.mayDelegate && profile.delegationPolicy.mayDelegate) =
      true ↔ (parent.mayDelegate = true ∧ requested.mayDelegate = true) ∧
        profile.delegationPolicy.mayDelegate = true
    rw [Bool.and_eq_true, Bool.and_eq_true]

theorem granted_attenuateGrant_le (parent requested : CapabilityRequestV1)
    (profile : AgentProfileV1) :
    granted (attenuateGrant parent requested profile) ≤ granted parent := by
  rw [granted_attenuateGrant]
  exact inf_le_left.trans inf_le_left

/-! ## Chains of delegations -/

/-- A node that an operation adds to a workflow on behalf of another node of it. -/
inductive DelegatedBy (profiles : ProfileRegistry) (parent node : WorkflowNodeSpecV1) : Prop
  | delegate (current : WorkflowProjectionV1) (workflowId parentNodeId : String)
      (proposal : DelegateProposalV1) (kind : DelegateKindV1) (required : Bool)
      (attemptUuid taskUuid : Uuid) (at_ : Timestamp) (input : WorkflowTransactionV1)
      (topology : WorkflowTopologyV1) (nodes : List WorkflowNodeSpecV1)
      (edges : List WorkflowEdgeV1)
      (known : current.spec.nodes.find? (fun candidate => candidate.nodeId = parentNodeId) =
        some parent)
      (decided : admitDelegate profiles current workflowId parentNodeId proposal kind required
        attemptUuid taskUuid at_ = .ok (.transact input))
      (patched : .graphPatched (extendedSpec current topology nodes edges) ∈ input.events)
      (added : node ∈ nodes)
  | agentGraph (current : WorkflowProjectionV1) (workflowId parentNodeId proposalId : String)
      (proposals : List (AgentGraphNodeProposalV1 × AdmissionIds)) (join : Option AgentGraphJoinV1)
      (at_ : Timestamp) (input : WorkflowTransactionV1) (topology : WorkflowTopologyV1)
      (nodes : List WorkflowNodeSpecV1) (edges : List WorkflowEdgeV1)
      (known : current.spec.nodes.find? (fun candidate => candidate.nodeId = parentNodeId) =
        some parent)
      (decided : admitAgentGraph profiles current workflowId parentNodeId proposalId proposals join
        at_ = .ok (.transact input))
      (patched : .graphPatched (extendedSpec current topology nodes edges) ∈ input.events)
      (added : node ∈ nodes)

theorem graphPatched_not_mem_admissionEvents {nodeId attemptId : String} {ready : Bool}
    {spec : WorkflowSpecV1} : .graphPatched spec ∉ admissionEvents nodeId attemptId ready := by
  intro member
  cases ready <;> simp [admissionEvents] at member

theorem nodes_of_extendedSpec {topology topology' : WorkflowTopologyV1}
    {nodes nodes' : List WorkflowNodeSpecV1} {edges edges' : List WorkflowEdgeV1}
    (same : extendedSpec current topology nodes edges =
      extendedSpec current topology' nodes' edges') : nodes = nodes' := by
  have all := congrArg WorkflowSpecV1.nodes same
  exact List.append_cancel_left all

theorem permits_noGrant (other : Permissions) : granted noGrant ≤ other := by
  have nothing : denoted noGrant.tools = ∅ := by
    ext name
    simp [denoted, noGrant]
  refine ⟨?_, ?_, ?_, Fin.zero_le _, fun never => ?_, fun never => ?_⟩
  · exact nothing.le.trans (Set.empty_subset _)
  · exact nothing.le.trans (Set.empty_subset _)
  · exact nothing.le.trans (Set.empty_subset _)
  · cases never
  · cases never

theorem grant_of_admitGraphNode {workflowId proposalId : String} {parent : WorkflowNodeSpecV1}
    {parentProfile : AgentProfileV1} {at_ : Timestamp}
    {proposed : AgentGraphNodeProposalV1 × AdmissionIds} {entry : AdmittedGraphNode}
    (accepted : admitGraphNode profiles current workflowId proposalId parent parentProfile at_
      proposed = .ok entry) : granted entry.node.grantRequest ≤ granted parent.grantRequest := by
  simp only [admitGraphNode, bind_eq_ok, ensure_eq_ok, pure_eq_ok] at accepted
  obtain ⟨profile, _, _, _, _, _, _, _, rfl⟩ := accepted
  exact granted_attenuateGrant_le _ _ profile

theorem exists_of_mem_mapM {α β : Type} {check : α → Except WorkflowError β} {items : List α}
    {results : List β} (built : items.mapM check = .ok results) {result : β}
    (member : result ∈ results) : ∃ item ∈ items, check item = .ok result := by
  have each := mapM_eq_ok.mp built
  clear built
  induction each with
  | nil => cases member
  | @cons item first items results accepted _ ih =>
    obtain rfl | later := List.mem_cons.mp member
    · exact ⟨item, List.mem_cons_self, accepted⟩
    · obtain ⟨other, listed, found⟩ := ih later
      exact ⟨other, List.mem_cons_of_mem _ listed, found⟩

/-- **One delegation grants nothing that its parent was not granted.** -/
theorem DelegatedBy.granted_le {parent node : WorkflowNodeSpecV1}
    (delegated : DelegatedBy profiles parent node) :
    granted node.grantRequest ≤ granted parent.grantRequest := by
  cases delegated with
  | delegate current workflowId parentNodeId proposal kind required attemptUuid taskUuid at_ input
      topology nodes edges known decided patched added =>
      simp only [admitDelegate, delegatingProfile, bind_eq_ok, ensure_eq_ok, orError_eq_ok,
        pure_eq_ok, Prod.exists] at decided
      obtain ⟨_, _, _, _, found, _, ⟨_, known', _, _, _, _, same⟩, profile, _, _, _, _, _, _, _,
        done⟩ := decided
      obtain ⟨rfl, _⟩ := Prod.mk.inj same
      obtain rfl := Option.mem_unique known known'
      obtain rfl := Decision.transact.inj done
      obtain patch | topologyEvent | later := by simpa only [List.mem_cons] using patched
      · obtain rfl := nodes_of_extendedSpec (WorkflowEventDataV1.graphPatched.inj patch)
        obtain rfl := List.mem_singleton.mp added
        exact granted_attenuateGrant_le _ _ profile
      · cases topologyEvent
      · exact absurd later graphPatched_not_mem_admissionEvents
  | agentGraph current workflowId parentNodeId proposalId proposals join at_ input topology nodes
      edges known decided patched added =>
      simp only [admitAgentGraph, delegatingProfile, bind_eq_ok, ensure_eq_ok, orError_eq_ok,
        pure_eq_ok, Prod.exists] at decided
      obtain ⟨_, _, _, _, _, _, found, _, ⟨_, known', _, _, _, _, same⟩, _, _, _, _, admitted, built,
        done⟩ := decided
      obtain ⟨rfl, _⟩ := Prod.mk.inj same
      obtain rfl := Option.mem_unique known known'
      obtain rfl := Decision.transact.inj done
      have bounded : ∀ entry ∈ admitted,
          granted entry.node.grantRequest ≤ granted parent.grantRequest := by
        intro entry member
        obtain ⟨_, _, accepted⟩ := exists_of_mem_mapM built member
        exact grant_of_admitGraphNode accepted
      simp only [agentGraphTransaction, List.cons_append, List.mem_cons, List.mem_append,
        List.mem_map, List.mem_flatMap, reduceCtorEq, and_false, exists_false, false_or] at patched
      obtain patch | ⟨entry, _, later⟩ := patched
      · obtain rfl := nodes_of_extendedSpec (WorkflowEventDataV1.graphPatched.inj patch)
        obtain proposed | joined := List.mem_append.mp added
        · obtain ⟨entry, member, rfl⟩ := List.mem_map.mp proposed
          exact bounded entry member
        · obtain ⟨policy, _, rfl⟩ := List.mem_map.mp joined
          exact permits_noGrant _
      · exact absurd later graphPatched_not_mem_admissionEvents

/-- **Along a chain of delegations the granted permissions only shrink.** -/
theorem granted_le_of_chain {root leaf : WorkflowNodeSpecV1}
    (chain : Relation.ReflTransGen (DelegatedBy profiles) root leaf) :
    granted leaf.grantRequest ≤ granted root.grantRequest := by
  induction chain with
  | refl => exact le_rfl
  | tail _ last ih => exact last.granted_le.trans ih

/-- **Delegation never widens authority: an attenuated grant permits exactly what the parent, the
request and the profile all permit, and along any chain, of attenuations or of nodes that delegate
to nodes, what is granted only shrinks.** -/
theorem delegation_never_widens :
    (∀ (parent requested : CapabilityRequestV1) (profile : AgentProfileV1),
      granted (attenuateGrant parent requested profile) =
        granted parent ⊓ granted requested ⊓ profileLimit profile) ∧
    (∀ (steps : List (CapabilityRequestV1 × AgentProfileV1)) (grant : CapabilityRequestV1),
      granted (steps.foldl (fun grant step => attenuateGrant grant step.1 step.2) grant) ≤
        granted grant) ∧
    ∀ (profiles : ProfileRegistry) (root leaf : WorkflowNodeSpecV1),
      Relation.ReflTransGen (DelegatedBy profiles) root leaf →
        granted leaf.grantRequest ≤ granted root.grantRequest := by
  refine ⟨granted_attenuateGrant, fun steps grant => ?_, fun profiles root leaf chain => ?_⟩
  · induction steps generalizing grant with
    | nil => exact le_rfl
    | cons step rest ih => exact (ih _).trans (granted_attenuateGrant_le grant step.1 step.2)
  · exact granted_le_of_chain chain

/-- A profile that may do and delegate everything. -/
def sampleProfile : AgentProfileV1 where
  profileId := "coordinator"
  version := 2
  digest := "sha256:0000000000000000000000000000000000000000000000000000000000000000"
  toolAllowlist := ["*"]
  skillAllowlist := ["*"]
  mcpAllowlist := ["*"]
  delegationPolicy := ⟨true, ["*"]⟩

/-- A root task that may delegate the reading of files. -/
def delegatingRoot : WorkflowNodeSpecV1 :=
  { smallNode "root" with
    profileRef := some { id := "coordinator", version := 2 }
    grantRequest :=
      { tools := ["read"], skills := [], mcpServers := [], workspace := .read, network := false,
        mayDelegate := true } }

def delegatingProjection : WorkflowProjectionV1 where
  workflowId := "workflow"
  runId := "run"
  sessionId := "session"
  revision := 1
  sequence := 2
  state := .running
  spec := { smallSpec with
    nodes := [delegatingRoot]
    budget := { smallSpec.budget with maxAgentTasks := 2 } }
  nodes := []
  attempts := []
  graphMutations := 0
  usage := ⟨0, 0, 0, 0, 0⟩
  updatedAt := epochStart

/-- A task that asks for everything. -/
def greedyProposal : DelegateProposalV1 where
  proposalId := "proposal"
  profileRef := { id := "coordinator", version := 2 }
  objective := "objective"
  inputRefs := []
  grantRequest :=
    { tools := ["*"], skills := ["*"], mcpServers := ["*"], workspace := .write, network := true,
      mayDelegate := true }

theorem greedy_delegate_bounded :
    ∃ node, DelegatedBy (fun _ _ => .ok sampleProfile) delegatingRoot node ∧
      granted node.grantRequest ≤ granted delegatingRoot.grantRequest := by
  have accepted : (match admitDelegate (fun _ _ => .ok sampleProfile) delegatingProjection
      "workflow" "root" greedyProposal .agentTask true sampleUuid sampleUuid epochStart with
      | .ok (.transact _) => true
      | .ok (.answer _) => false
      | .error _ => false) = true := by decide +kernel
  split at accepted
  case h_1 input decided =>
    obtain ⟨node, _, admits⟩ := admitDelegate_transact decided
    have delegated : DelegatedBy (fun _ _ => .ok sampleProfile) delegatingRoot node :=
      .delegate delegatingProjection "workflow" "root" greedyProposal .agentTask true sampleUuid
        sampleUuid epochStart input .delegatedAgents [node] [] (by decide +kernel) decided
        (admits.events ▸ List.mem_cons_self) (List.mem_singleton.mpr rfl)
    exact ⟨node, delegated, delegation_never_widens.2.2 _ delegatingRoot node (.single delegated)⟩
  case h_2 | h_3 => cases accepted

end Praxis.Workflow
