import Praxis.Durable.OrchestratorMoves

/-!
# Runs of the fleet

What holds in every run of the fleet whose steps keep the specified nodes: the store is sound,
and so is every claim that was granted. From this a node never has more attempts than its retry
policy allows, whoever scheduled them, and at most one of them is live; no attempt is given to
two workers; and a lease that ended has no effect on the store.
-/

namespace Praxis.Workflow

set_option autoImplicit false

open Praxis.Foundations

/-! ## Sound fleets -/

/-- No node is removed: every node that was specified still is. A patch that puts another node
under its id removes it. -/
def Fleet.KeepsNodes (before after : Fleet) : Prop :=
  ∀ workflowId projection later,
    before.store.journal.loadProjection workflowId = .ok projection →
    after.store.journal.loadProjection workflowId = .ok later →
    ∀ node ∈ projection.spec.nodes, node ∈ later.spec.nodes

/-- The orchestrator's operation finds what it must, where nothing may be left behind. -/
def FleetCall.LeavesNothing (store : AuthorityStore) : FleetCall → Prop
  | orchestrate _ listed call => ∀ current input,
      store.journal.loadProjection call.workflowId = .ok current →
      call.decide current listed = .ok (.transact input) → call.LeavesNothing store current input
  | _ => True

structure Fleet.Sound (lax : Bool) (fleet : Fleet) : Prop where
  ordered : fleet.Ordered
  store : Workflow.Sound lax fleet.store
  claims : ∀ claim ∈ fleet.claims, ClaimSound fleet.store claim

section Runs

variable {lax : Bool} {fleet after : Fleet} {call : FleetCall}

theorem Fleet.initial_sound : initial.Sound lax where
  ordered := initial_ordered
  store := sound_empty
  claims := fun _ member => absurd member List.not_mem_nil

theorem FleetCall.perform_moves {store : AuthorityStore} {answer : AuthorityAnswer}
    (sound : fleet.Sound lax) (grounded : call.Grounded fleet)
    (performed : call.perform fleet.store = .ok (answer, store))
    (keeps : ∀ workflowId projection later,
      fleet.store.journal.loadProjection workflowId = .ok projection →
      store.journal.loadProjection workflowId = .ok later →
      ∀ node ∈ projection.spec.nodes, node ∈ later.spec.nodes)
    (leaves : lax = false → call.LeavesNothing fleet.store) :
    Moves lax fleet.store store ∧ ∀ claim ∈ answer.granted, ClaimSound store claim := by
  cases call with
  | start input coordinatorDigest ids at_ =>
    simp only [FleetCall.perform, answering_eq_ok] at performed
    obtain ⟨next, started, rfl⟩ := performed
    exact ⟨.single (start_moved sound.store started), by simp [AuthorityAnswer.granted]⟩
  | authority operation =>
    have read : ∀ read listed workflowId nodeId resolution code at_,
        operation = .resolveUnknown read listed workflowId nodeId resolution code at_ →
        read.journal.Agrees ∧ read.journal.Before fleet.store.journal := by
      rintro read listed workflowId nodeId resolution code at_ rfl
      obtain ⟨agrees, first, second⟩ := sound.ordered.reads grounded
      exact ⟨agrees, first.trans second⟩
    obtain ⟨moves, given⟩ := operation.perform_moves sound.store read performed
    refine ⟨moves, fun claim member => given claim ?_⟩
    cases answer with
    | claimed claimed =>
      obtain rfl := Option.mem_toList.mp member
      rfl
    | admission => exact absurd member List.not_mem_nil
    | done => exact absurd member List.not_mem_nil
  | orchestrate read listed operation =>
    simp only [FleetCall.perform, answering_eq_ok] at performed
    obtain ⟨next, accepted, rfl⟩ := performed
    obtain ⟨agrees, first, second⟩ := sound.ordered.reads grounded.1
    have moved := OrchestratorCall.perform_moved sound.store agrees (first.trans second)
      (fun claim member => sound.claims claim (grounded.2 claim member))
      (fun before later loaded written => keeps _ before later loaded written) leaves accepted
    exact ⟨.single moved, by simp [AuthorityAnswer.granted]⟩

theorem Fleet.Sound.step (sound : fleet.Sound lax) (step : Fleet.Step fleet call after)
    (keeps : fleet.KeepsNodes after) (leaves : lax = false → call.LeavesNothing fleet.store) :
    after.Sound lax := by
  have ordered := sound.ordered.step step
  have result := step.result
  rcases fleet.after_cases call with same | ⟨answer, store, performed, same⟩
  · rw [result, same]
    exact sound
  · rw [same] at result
    subst result
    obtain ⟨moves, given⟩ := call.perform_moves sound step.grounded performed keeps leaves
    refine ⟨ordered, sound.store.moves moves, fun claim member => ?_⟩
    rcases List.mem_append.mp member with new | old
    · exact given claim new
    · exact (sound.claims claim old).moves sound.store moves

end Runs

/-! ## The retry bound -/

/-- A step that removes no node. -/
def Fleet.KeepingStep (before : Fleet) (call : FleetCall) (after : Fleet) : Prop :=
  Fleet.Step before call after ∧ before.KeepsNodes after

theorem Fleet.keepingRun_sound {calls : List FleetCall} {fleet : Fleet}
    (run : Run Fleet.KeepingStep Fleet.initial calls fleet) : fleet.Sound true :=
  run.invariant (Fleet.Sound true)
    (fun sound step => sound.step step.1 step.2 fun strict => by cases strict) Fleet.initial_sound

/-- Every node keeps within its retry policy, and at most one of its attempts is live. -/
def AttemptsBounded (store : AuthorityStore) : Prop :=
  ∀ workflowId projection, store.journal.loadProjection workflowId = .ok projection →
    ∀ node ∈ projection.nodes,
      (∃ spec ∈ projection.spec.nodes, spec.nodeId = node.nodeId ∧
        (((projection.attempts.filter fun attempt => attempt.nodeId = node.nodeId).length : Nat) :
          Int) ≤ spec.retry.maxAttempts) ∧
      (projection.attempts.filter fun attempt =>
        attempt.nodeId = node.nodeId ∧ attempt.state ∈ liveAttempts).length ≤ 1

theorem Coherent.live_le_one {lax : Bool} {projection : WorkflowProjectionV1}
    (coherent : Coherent lax projection) (nodeId : String) :
    (projection.attempts.filter fun attempt =>
      attempt.nodeId = nodeId ∧ attempt.state ∈ liveAttempts).length ≤ 1 := by
  have split : (projection.attempts.filter fun attempt =>
      attempt.nodeId = nodeId ∧ attempt.state ∈ liveAttempts) =
      (projection.attemptsOf nodeId).filter fun attempt => attempt.state ∈ liveAttempts := by
    rw [WorkflowProjectionV1.attemptsOf, List.filter_filter]
    refine List.filter_congr fun attempt _ => ?_
    simp [Bool.and_comm]
  rw [split]
  rcases List.eq_nil_or_concat (projection.attemptsOf nodeId) with empty | ⟨front, last, same⟩
  · simp [empty]
  · rw [List.concat_eq_append] at same
    have earlier := coherent.superseded nodeId
    rw [same, List.dropLast_concat] at earlier
    have none : (front.filter fun attempt => attempt.state ∈ liveAttempts) = [] := by
      refine List.filter_eq_nil_iff.mpr fun attempt member => ?_
      rw [earlier attempt member]
      simp [liveAttempts]
    rw [same, List.filter_append, none, List.nil_append]
    exact List.length_filter_le _ _

/-- **In every run in which no node is removed, no node has more attempts than its policy
allows, and no two of them are live**, whichever operations scheduled them. -/
theorem keepingRun_attemptsBounded {calls : List FleetCall} {fleet : Fleet}
    (run : Run Fleet.KeepingStep Fleet.initial calls fleet) : AttemptsBounded fleet.store := by
  intro workflowId projection loaded node member
  have coherent := (Fleet.keepingRun_sound run).store.coherent workflowId projection loaded
  refine ⟨?_, coherent.live_le_one node.nodeId⟩
  have known : node.nodeId ∈ projection.spec.nodes.map (·.nodeId) := by
    rw [← coherent.wellFormed.nodes]
    exact List.mem_map_of_mem member
  obtain ⟨spec, inside, same⟩ := List.mem_map.mp known
  have bounded := coherent.bounded spec inside
  rw [same] at bounded
  exact ⟨spec, inside, same, bounded⟩

/-! ## A run with a retry -/

/-- A random id, as far as examples need one. -/
def sampleUuid : Uuid :=
  ⟨"00000000-0000-4000-8000-000000000000", zeroUuid_shape⟩

theorem otherUuid_shape : "00000000-0000-4000-8000-000000000001".toList.length = 36 ∧
    "00000000-0000-4000-8000-000000000001".toList.all (fun c => isHexDigit c || c == '-') = true := by
  decide +kernel

/-- Another random id. -/
def otherUuid : Uuid := ⟨"00000000-0000-4000-8000-000000000001", otherUuid_shape⟩

/-- A workflow that a user starts. -/
def sampleStart : FleetCall :=
  .start
    { sessionId := "session"
      objective := "objective"
      modePolicy := .auto
      cwd := "/"
      rootGrant := noGrant }
    ("sha256:" ++ String.ofList (List.replicate 64 '0')) ⟨sampleUuid, sampleUuid, sampleUuid, sampleUuid⟩ epochStart

theorem sampleStart_step :
    Fleet.Step Fleet.initial sampleStart (Fleet.initial.after sampleStart) where
  grounded := trivial
  result := rfl

/-- The id of the workflow. -/
def sampleWorkflowId : String := "workflow-" ++ sampleUuid.text

/-- The fleet after a call that reads the store as it is. -/
def Fleet.orchestrated (fleet : Fleet) (call : OrchestratorCall) : Fleet :=
  fleet.after (.orchestrate fleet.store fleet.store call)

theorem Fleet.orchestrated_step (fleet : Fleet) {call : OrchestratorCall}
    (unclaimed : call.claim? = none) :
    Fleet.Step fleet (.orchestrate fleet.store fleet.store call) (fleet.orchestrated call) where
  grounded := by
    refine ⟨⟨[], fleet.past, rfl, List.mem_cons_self ..⟩, ?_⟩
    rw [unclaimed]
    exact fun _ absent => nomatch absent
  result := rfl

/-- Whether a call keeps the specified nodes is decided by the stored workflows. -/
def Fleet.keeps (fleet : Fleet) (call : FleetCall) : Bool :=
  fleet.store.journal.workflows.rows.all fun row =>
    ((fleet.after call).store.journal.loadProjection row.1).toOption.all fun later =>
      decide (row.2.projection.spec.nodes ⊆ later.spec.nodes)

theorem Fleet.keepingStep_of_keeps {fleet : Fleet} {call : FleetCall}
    (kept : fleet.keeps call = true) (grounded : call.Grounded fleet) :
    Fleet.KeepingStep fleet call (fleet.after call) := by
  refine ⟨⟨grounded, rfl⟩, fun workflowId projection later loaded after => ?_⟩
  obtain ⟨row, stored, rfl⟩ := Journal.loadProjection_eq_ok.mp loaded
  have here := List.all_eq_true.mp kept _ ((Table.mem_rows_iff _).mpr stored)
  rw [after] at here
  exact fun _ member => of_decide_eq_true here member

/-- A worker takes the root of the workflow. -/
def sampleClaim : FleetCall := .authority (.claim "worker" {} epochStart sampleUuid)

/-- A day later its lease has expired. -/
def sampleRecovery : FleetCall :=
  .authority (.recoverExpired ⟨isoText 86_400_000, some 86_400_000⟩ fun _ =>
    ⟨otherUuid, otherUuid, otherUuid⟩)

/-- Another worker takes the second attempt. -/
def otherClaim : FleetCall :=
  .authority (.claim "other" {} ⟨isoText 172_800_000, some 172_800_000⟩ otherUuid)

/-- The root is leased. -/
def claimed : Fleet := (Fleet.initial.after sampleStart).after sampleClaim

/-- The attempt of the first worker has failed, and a second one is scheduled. -/
def recovered : Fleet := claimed.after sampleRecovery

/-- The second attempt is leased. -/
def takenOver : Fleet := recovered.after otherClaim

theorem takenOver_kept : Fleet.initial.keeps sampleStart = true ∧
    (Fleet.initial.after sampleStart).keeps sampleClaim = true ∧
    claimed.keeps sampleRecovery = true ∧ recovered.keeps otherClaim = true := by
  decide +kernel

theorem recovered_run : Run Fleet.KeepingStep Fleet.initial
    [sampleStart, sampleClaim, sampleRecovery] recovered :=
  ((Run.nil.snoc (Fleet.keepingStep_of_keeps takenOver_kept.1 trivial)).snoc
    (Fleet.keepingStep_of_keeps takenOver_kept.2.1 trivial)).snoc
    (Fleet.keepingStep_of_keeps takenOver_kept.2.2.1 trivial)

theorem otherClaim_step : Fleet.KeepingStep recovered otherClaim takenOver :=
  Fleet.keepingStep_of_keeps takenOver_kept.2.2.2 trivial

/-- What the run leads to: a failed attempt and a leased one, and two claims. -/
theorem takenOver_shown :
    ((takenOver.store.journal.loadProjection sampleWorkflowId).toOption.any fun projection =>
      projection.attempts.map (·.state) == [.failed, .leased]) = true ∧
    recovered.store.tasks.values.any (·.state == .failed) = true ∧
    takenOver.claims.length = 2 := by
  decide +kernel

/-- The root has two attempts, of which the first has failed. -/
theorem keepingRun_attemptsBounded_takenOver :
    AttemptsBounded takenOver.store ∧
      ((takenOver.store.journal.loadProjection sampleWorkflowId).toOption.any fun projection =>
        projection.attempts.map (·.state) == [.failed, .leased]) = true :=
  ⟨keepingRun_attemptsBounded (recovered_run.snoc otherClaim_step), takenOver_shown.1⟩

/-- Two attempts of one node, written as a transaction. -/
def doubleAttempt : WorkflowTransactionV1 where
  transactionId := "double"
  workflowId := "workflow"
  expectedSequence := 2
  events := [.nodeStateChanged { nodeId := "root", state := .admitted },
    .attemptCreated (scheduledAttempt "attempt-1" "root" 1),
    .attemptCreated (scheduledAttempt "attempt-2" "root" 2)]
  occurredAt := epochStart

/-- **The bound is the operations': the transactions of the authority take any attempts.** -/
theorem attemptsBounded_not_transact :
    ¬ ∀ history, AttemptsBounded (StoreCall.run .empty history) := by
  intro bounded
  have written : ((StoreCall.run .empty [.create smallSpec "create" {},
      .transact doubleAttempt]).journal.loadProjection "workflow").toOption.any (fun projection =>
        projection.nodes.any fun node =>
          decide (2 ≤ (projection.attempts.filter fun attempt =>
            attempt.nodeId = node.nodeId ∧ attempt.state ∈ liveAttempts).length)) = true := by
    decide +kernel
  obtain ⟨projection, loaded, two⟩ := exists_ok written
  obtain ⟨node, member, many⟩ := List.any_eq_true.mp two
  have one := (bounded _ _ _ loaded node member).2
  have two := of_decide_eq_true many
  omega

/-! ## Leases that ended -/

/-- The task has left the queue, and no worker holds it. -/
def TaskRow.Ended (row : TaskRow) : Prop :=
  row.state ≠ .ready ∧ row.state ≠ .leased

/-- The call is made under a lease of the task. -/
def FleetCall.UsesLease (taskId : String) : FleetCall → Prop
  | authority (.heartbeat held _ _ _) | authority (.bindTaskCapabilityBundle held _ _ _) =>
    held = taskId
  | orchestrate _ _ call => ∃ claim ∈ call.claim?, claim.task.taskId = taskId
  | _ => False

section Leases

variable {lax : Bool} {before store after : AuthorityStore} {key : String} {row : TaskRow}
  {fleet : Fleet} {call : FleetCall}

theorem Moves.ended_kept (moves : Moves lax before after)
    (found : before.tasks.get? key = some row) (ended : row.Ended) :
    after.tasks.get? key = some row := by
  induction moves with
  | refl => exact found
  | tail _ last ih =>
    cases last with
    | still _ tasks => rw [tasks, ih]
    | moved move =>
      obtain ⟨later, there⟩ := move.rows.stays _ _ ih
      have step := (move.rows.rows _ _ there).step
      rw [ih] at step
      cases step with
      | kept => exact there
      | leased _ ready => exact absurd ready ended.1
      | renewed _ leased => exact absurd leased ended.2
      | retired _ leased => exact absurd leased ended.2
      | withdrawn _ ready => exact absurd ready ended.1

theorem holdsLease_leased {task : WorkflowTaskV1} {token : String}
    (holds : holdsLease task token = true) : task.state = .leased := by
  simp only [holdsLease, Bool.and_eq_true, beq_iff_eq] at holds
  exact holds.1

theorem TransactEffect.acknowledges_leased {input : WorkflowTransactionV1}
    {current next : WorkflowProjectionV1} {ack : AcknowledgeTaskV1}
    (effect : TransactEffect store input current next after)
    (given : input.acknowledgeTask = some ack)
    (found : store.tasks.get? ack.taskId = some row) : row.task.state = .leased := by
  obtain ⟨_, _, _, _, inserts, acknowledged, _⟩ := effect.tasks
  rw [given] at acknowledged
  obtain ⟨_, first, _⟩ := foldlM_cons_eq_ok.mp acknowledged
  obtain ⟨held, there, holds, _⟩ := acknowledgeTask_ok first
  rw [(insertTasks_ok inserts).stays _ _ found] at there
  obtain rfl := Option.some.inj there
  exact holdsLease_leased holds

/-- **A call under a lease that ended leaves the store as it was.** -/
theorem Fleet.Sound.fences (sound : fleet.Sound lax) (grounded : call.Grounded fleet)
    (found : fleet.store.tasks.get? key = some row) (ended : row.Ended)
    (uses : call.UsesLease key) : (fleet.after call).store = fleet.store := by
  rcases fleet.after_cases call with same | ⟨answer, store, performed, same⟩
  · rw [same]
  rw [same]
  have free : ∀ held, fleet.store.tasks.get? key = some held → held.task.state ≠ .leased := by
    intro held there
    rw [(sound.store.rows _ _ there).column]
    obtain rfl := Option.mem_unique found there
    exact ended.2
  cases call with
  | start => cases uses
  | authority operation =>
    cases operation with
    | bindTaskCapabilityBundle =>
      obtain rfl := uses
      simp only [FleetCall.perform, AuthorityCall.perform, answering_eq_ok] at performed
      obtain ⟨_, accepted, _⟩ := performed
      obtain ⟨held, _, _, _, _, there, holds, _⟩ := bindTaskCapabilityBundle_ok accepted
      exact absurd (holdsLease_leased holds) (free held there)
    | heartbeat =>
      obtain rfl := uses
      simp only [FleetCall.perform, AuthorityCall.perform, answering_eq_ok] at performed
      obtain ⟨_, accepted, _⟩ := performed
      obtain ⟨held, _, there, leased, _⟩ := heartbeat_ok accepted
      exact absurd leased (free held there)
    | _ => cases uses
  | orchestrate read listed operation =>
    obtain ⟨claim, given, rfl⟩ := uses
    obtain ⟨agrees, first, second⟩ := sound.ordered.reads grounded.1
    simp only [FleetCall.perform, answering_eq_ok] at performed
    obtain ⟨next, accepted, _⟩ := performed
    rcases OrchestratorCall.perform_cases agrees (first.trans second) accepted with
      same | ⟨current, input, owner, loaded, decided, effect⟩
    · exact same
    -- Whatever the worker decided, its transaction cannot apply.
    exfalso
    cases operation with
    | markRunning =>
      cases given
      obtain rfl := markRunning_transact (pure_eq_ok.mp decided)
      obtain ⟨own, there, _, _, _, settled⟩ := (sound.claims claim (grounded.2 claim rfl)).row
      obtain rfl := Option.mem_unique found there
      obtain ⟨projection, state, member, loaded', known⟩ := settled ended.2
      obtain rfl := ok_unique loaded loaded'
      have advances := effect.appended.advances
      obtain ⟨last, inside, _, running⟩ := advances.attempt_changed
        (List.mem_cons_of_mem _ (List.mem_singleton_self _)) rfl
      rw [(runningEvents_changes inside).2] at running
      exact advances.follows.attempt_open (by simp [settledAttempts]) running known member
    | complete =>
      cases given
      obtain ⟨_, _, _, rfl, _⟩ := completeOnce_transact decided
      exact free row found (effect.acknowledges_leased rfl found)
    | markUnknown =>
      cases given
      obtain rfl := markUnknown_transact (pure_eq_ok.mp decided)
      exact free row found (effect.acknowledges_leased rfl found)
    | cancelClaim =>
      cases given
      obtain rfl := cancelClaim_transact (pure_eq_ok.mp decided)
      exact free row found (effect.acknowledges_leased rfl found)
    | _ => cases given

/-- Tasks that ended in the earlier state are as they were, and their leases have no effect. -/
def Fleet.Fences (fleet later : Fleet) : Prop :=
  ∀ taskId row, fleet.store.tasks.get? taskId = some row → row.Ended →
    later.store.tasks.get? taskId = some row ∧ ∀ call : FleetCall, call.Grounded later →
      call.UsesLease taskId → (later.after call).store = later.store

theorem Fleet.Sound.keepingStep {later : Fleet} (sound : fleet.Sound true)
    (step : Fleet.KeepingStep fleet call later) : later.Sound true ∧ (later = fleet ∨
      ∃ answer, call.perform fleet.store = .ok (answer, later.store) ∧
        Moves true fleet.store later.store ∧ later.claims = answer.granted ++ fleet.claims) := by
  refine ⟨sound.step step.1 step.2 fun strict => by (cases strict), ?_⟩
  obtain ⟨⟨grounded, rfl⟩, keeps⟩ := step
  rcases fleet.after_cases call with same | ⟨answer, store, performed, same⟩
  · exact .inl same
  · rw [same] at keeps ⊢
    exact .inr ⟨answer, performed, (call.perform_moves sound grounded performed keeps
      fun strict => by cases strict).1, rfl⟩

/-- **A lease that ended has no effect** in any later state of the fleet. -/
theorem keepingRun_fences {calls more : List FleetCall} {fleet later : Fleet}
    (run : Run Fleet.KeepingStep Fleet.initial calls fleet)
    (rest : Run Fleet.KeepingStep fleet more later) : fleet.Fences later := by
  intro taskId row found ended
  obtain ⟨sound, kept⟩ := rest.invariant
    (fun fleet => fleet.Sound true ∧ fleet.store.tasks.get? taskId = some row)
    (fun held step => by
      obtain ⟨sound, rfl | ⟨_, _, moves, _⟩⟩ := held.1.keepingStep step
      · exact held
      · exact ⟨sound, moves.ended_kept held.2 ended⟩)
    ⟨Fleet.keepingRun_sound run, found⟩
  exact ⟨kept, fun call grounded uses => sound.fences grounded kept ended uses⟩

theorem FleetCall.granted_ready {answer : AuthorityAnswer} {claim : WorkflowTaskClaimV1}
    (performed : call.perform store = .ok (answer, after)) (given : claim ∈ answer.granted) :
    answer.granted = [claim] ∧ ∃ key row, store.tasks.get? key = some row ∧ row.state = .ready ∧
      row.task.attemptId = claim.task.attemptId := by
  cases answer with
  | admission => cases given
  | done => cases given
  | claimed claimed =>
    obtain rfl := Option.mem_toList.mp given
    refine ⟨rfl, ?_⟩
    cases call with
    | start => simp [FleetCall.perform] at performed
    | orchestrate => simp [FleetCall.perform] at performed
    | authority operation =>
      cases operation <;>
        simp only [FleetCall.perform, AuthorityCall.perform, answering_eq_ok] at performed <;>
        obtain ⟨value, accepted, same⟩ := performed <;> cases same
      rcases claim_ok accepted with ⟨absurd, _⟩ | ⟨task, _, _, _, _, selected, _, _, granted, _⟩
      · cases absurd
      · obtain rfl := Option.some.inj granted
        obtain ⟨key, row, found, rfl, ready⟩ := selectTask_ready selected
        exact ⟨key, row, found, ready, rfl⟩

/-- **No attempt is given to two workers**, nor to one worker twice. -/
theorem keepingRun_grantedOnce {calls : List FleetCall} {fleet : Fleet}
    (run : Run Fleet.KeepingStep Fleet.initial calls fleet) :
    (fleet.claims.map (·.task.attemptId)).Nodup := by
  refine (run.invariant (fun fleet => fleet.Sound true ∧
    (fleet.claims.map (·.task.attemptId)).Nodup) (fun held step => ?_)
    ⟨Fleet.initial_sound, List.nodup_nil⟩).2
  obtain ⟨sound, rfl | ⟨answer, performed, _, claims⟩⟩ := held.1.keepingStep step
  · exact held
  refine ⟨sound, ?_⟩
  rcases grants : answer.granted with _ | ⟨claim, others⟩
  · rw [claims, grants]
    exact held.2
  · obtain ⟨single, key, row, found, ready, own⟩ := FleetCall.granted_ready performed
      (grants ▸ List.mem_cons_self ..)
    rw [claims, single, List.singleton_append, List.map_cons, List.nodup_cons]
    refine ⟨fun member => ?_, held.2⟩
    obtain ⟨other, old, same⟩ := List.mem_map.mp member
    -- The row of a granted claim is never ready again.
    have granted := held.1.claims other old
    have place := granted.key_eq held.1.store found (own.trans same.symm)
    obtain ⟨there, stored, _, taken, _⟩ := granted.row
    rw [← place, found] at stored
    obtain rfl := Option.some.inj stored
    exact taken ready

end Leases

/-- The lease that expired has no effect, also after another worker took the next attempt. -/
theorem keepingRun_fences_recovered : recovered.Fences takenOver ∧
    recovered.store.tasks.values.any (·.state == .failed) = true :=
  ⟨keepingRun_fences recovered_run (Run.nil.snoc otherClaim_step), takenOver_shown.2.1⟩

/-- Two claims were granted. -/
theorem keepingRun_grantedOnce_takenOver :
    (takenOver.claims.map (·.task.attemptId)).Nodup ∧ takenOver.claims.length = 2 :=
  ⟨keepingRun_grantedOnce (recovered_run.snoc otherClaim_step), takenOver_shown.2.2⟩

end Praxis.Workflow
