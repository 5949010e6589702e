import Praxis.Foundations.Lockstep
import Praxis.Durable.AcceptedWrites
import Praxis.Durable.RemoteAuthority

/-!
# Remote calls and direct calls

When a call through the client and the server is the call of the authority that is served. Of the
methods with more than one optional argument, `resolveHumanTask` and `resolveUnknown`, each stores
what it was given: a null that stands for a missing argument is stored too, and so the two calls
differ exactly when the call resolves something. For the rest of a call the null makes no
difference: the same checks reject it with the same error. `admitTaskForRequest` and
`reserveEffectRequest` refuse some requests by a thrown value that is no error, whose code the
server does not tell.
-/

universe u

namespace Praxis.Workflow

set_option autoImplicit false

open Praxis.Foundations Praxis.Foundations.PositionalCalls

/-! ## Events that differ in an error code -/

/-- Two projections that differ in their attempts only. -/
structure SameButAttempts (left right : WorkflowProjectionV1) : Prop where
  workflowId : left.workflowId = right.workflowId
  runId : left.runId = right.runId
  sequence : left.sequence = right.sequence
  nodes : left.nodes = right.nodes

def attemptResolution (attemptId : String) (resolution : UnknownResolutionV1) (at_ : Timestamp)
    (code : Option String) : AttemptStateChangedV1 where
  attemptId := attemptId
  state := resolution.attemptState
  changedAt := at_
  errorCode := code

def nodeResolution (nodeId : String) (resolution : UnknownResolutionV1) (code : Option String) :
    NodeStateChangedV1 where
  nodeId := nodeId
  state := resolution.nodeState
  errorCode := code

def resolutionEvents (attemptId nodeId : String) (resolution : UnknownResolutionV1)
    (at_ : Timestamp) (code : Option String) : List WorkflowEventDataV1 :=
  [.attemptStateChanged (attemptResolution attemptId resolution at_ code),
    .nodeStateChanged (nodeResolution nodeId resolution code)]

section Codes

variable {attemptId nodeId : String} {resolution : UnknownResolutionV1} {at_ : Timestamp}
  {change other : NodeStateChangedV1}

theorem updateNode_lockstep {nodes : List WorkflowNodeProjectionV1}
    (node : change.nodeId = other.nodeId) (state : change.state = other.state) :
    Lockstep (fun _ _ => True) (updateNode nodes change) (updateNode nodes other) := by
  rw [updateNode, updateNode, ← node, ← state]
  have each : Lockstep (List.Forall₂ fun _ _ => True)
      (nodes.mapM fun node => if node.nodeId ≠ change.nodeId then
        (return node : Except WorkflowError WorkflowNodeProjectionV1)
        else do
          assertWorkflowNodeTransitionV1 node.state change.state
          return node.change change)
      (nodes.mapM fun node => if node.nodeId ≠ change.nodeId then
        (return node : Except WorkflowError WorkflowNodeProjectionV1)
        else do
          assertWorkflowNodeTransitionV1 node.state change.state
          return node.change other) := by
    refine .mapM fun item _ => ?_
    split
    · exact .pure trivial
    · exact .bind_same fun _ _ => .pure trivial
  exact each.bind fun _ _ _ _ _ => .bind_same fun _ _ => .pure trivial

theorem updateAttempt_lockstep {attempts : List WorkflowAttemptProjectionV1}
    {change other : AttemptStateChangedV1} (attempt : change.attemptId = other.attemptId)
    (state : change.state = other.state) :
    Lockstep (fun _ _ => True) (updateAttempt attempts change) (updateAttempt attempts other) := by
  rw [updateAttempt, updateAttempt, ← attempt, ← state]
  have each : Lockstep (List.Forall₂ fun _ _ => True)
      (attempts.mapM fun attempt => if attempt.attemptId ≠ change.attemptId then
        (return attempt : Except WorkflowError WorkflowAttemptProjectionV1)
        else do
          ensure (decide (change.state ∈ attemptTransitions attempt.state))
            .workflowTransitionInvalid
          return attempt.change change)
      (attempts.mapM fun attempt => if attempt.attemptId ≠ change.attemptId then
        (return attempt : Except WorkflowError WorkflowAttemptProjectionV1)
        else do
          ensure (decide (change.state ∈ attemptTransitions attempt.state))
            .workflowTransitionInvalid
          return attempt.change other) := by
    refine .mapM fun item _ => ?_
    split
    · exact .pure trivial
    · exact .bind_same fun _ _ => .pure trivial
  exact each.bind fun _ _ _ _ _ => .bind_same fun _ _ => .pure trivial

theorem attemptChanged_lockstep (current : WorkflowProjectionV1) (event : WorkflowEventV1)
    {change other : AttemptStateChangedV1} (attempt : change.attemptId = other.attemptId)
    (state : change.state = other.state) :
    Lockstep SameButAttempts
      (applyWorkflowEventV1 current { event with data := .attemptStateChanged change })
      (applyWorkflowEventV1 current { event with data := .attemptStateChanged other }) := by
  refine .bind_same fun _ _ => ?_
  have updates : Lockstep SameButAttempts
      (applyWorkflowEventDataV1 current (.attemptStateChanged change))
      (applyWorkflowEventDataV1 current (.attemptStateChanged other)) := by
    rw [applyWorkflowEventDataV1, applyWorkflowEventDataV1]
    refine (updateAttempt_lockstep attempt state).bind fun _ _ _ _ _ => ?_
    exact .ok ⟨rfl, rfl, rfl, rfl⟩
  refine updates.bind fun _ _ _ _ same => ?_
  exact .ok ⟨same.workflowId, same.runId, rfl, same.nodes⟩

theorem nodeChanged_lockstep {left right : WorkflowProjectionV1} (same : SameButAttempts left right)
    (event : WorkflowEventV1)
    (node : change.nodeId = other.nodeId) (state : change.state = other.state) :
    Lockstep (fun _ _ => True)
      (applyWorkflowEventV1 left { event with data := .nodeStateChanged change })
      (applyWorkflowEventV1 right { event with data := .nodeStateChanged other }) := by
  rw [applyWorkflowEventV1, applyWorkflowEventV1, same.workflowId, same.runId, same.sequence]
  refine .bind_same fun _ _ => ?_
  have updates : Lockstep (fun _ _ => True)
      (applyWorkflowEventDataV1 left (.nodeStateChanged change))
      (applyWorkflowEventDataV1 right (.nodeStateChanged other)) := by
    rw [applyWorkflowEventDataV1, applyWorkflowEventDataV1, same.nodes]
    exact (updateNode_lockstep node state).bind fun _ _ _ _ _ => .pure trivial
  exact updates.bind fun _ _ _ _ _ => .pure trivial

/-- **Whether the events of a resolution are accepted does not depend on the code.** -/
theorem resolution_lockstep (spec : WorkflowSpecV1) (transactionId : String) (after : Nat)
    (current : WorkflowProjectionV1) (code other : Option String) :
    Lockstep (fun _ _ => True)
      ((envelopeEvents spec transactionId at_ after
        (resolutionEvents attemptId nodeId resolution at_ code)).foldlM applyWorkflowEventV1 current)
      ((envelopeEvents spec transactionId at_ after
        (resolutionEvents attemptId nodeId resolution at_ other)).foldlM applyWorkflowEventV1
          current) := by
  let sealed (sequence : Nat) : WorkflowEventV1 :=
    { eventId := eventIdOf transactionId sequence
      workflowId := spec.workflowId
      runId := spec.runId
      sequence
      occurredAt := at_
      causationId := some transactionId
      data := .workflowStarted }
  simp only [resolutionEvents, envelopeEvents, List.foldlM_cons, List.foldlM_nil]
  have first := @attemptChanged_lockstep current (sealed (after + 1))
    (attemptResolution attemptId resolution at_ code)
    (attemptResolution attemptId resolution at_ other) rfl rfl
  refine first.bind fun left right _ _ same => ?_
  have second := @nodeChanged_lockstep (nodeResolution nodeId resolution code)
    (nodeResolution nodeId resolution other) left right same (sealed (after + 1 + 1)) rfl rfl
  exact second.bind fun _ _ _ _ _ => .pure trivial

theorem resolution_code {current content : WorkflowProjectionV1} {code : Option String}
    (applies : Applies current (resolutionEvents attemptId nodeId resolution at_ code) content) :
    (∃ node ∈ content.nodes, node.nodeId = nodeId) ∧
      ∀ node ∈ content.nodes, node.nodeId = nodeId → node.errorCode = code := by
  obtain ⟨middle, _, rest⟩ := applies_cons.mp applies
  obtain ⟨last, effect, done⟩ := applies_cons.mp rest
  obtain rfl := applies_nil.mp done
  cases effect with
  | announced announces _ => cases announces
  | recorded only => cases only
  | @nodeChanged change present legal =>
    obtain ⟨node, member, here⟩ := present
    refine ⟨⟨_, List.mem_map.mpr ⟨node, member, if_pos here⟩, here⟩, ?_⟩
    intro node member here
    obtain ⟨old, _, rfl⟩ := List.mem_map.mp member
    by_cases chosen : old.nodeId = (nodeResolution nodeId resolution code).nodeId
    · rw [if_pos chosen]
      rfl
    · rw [if_neg chosen] at here
      exact absurd here chosen

end Codes

/-! ## What a resolution needs -/

/-- The events continue the projection of the workflow, under an id that is not recorded yet. -/
def EventsAccepted (journal : Journal) (workflowId transactionId : String) (at_ : Timestamp)
    (data : List WorkflowEventDataV1) : Prop :=
  ∃ current content, journal.loadProjection workflowId = .ok current ∧
    Applies current data content ∧ Sealable current transactionId at_ data.length ∧
    journal.transactions.get? transactionId = none

/-- **Events are appended exactly if they continue the projection under a new id.** -/
theorem eventsAccepted_iff {journal : Journal} {workflowId transactionId : String}
    {at_ : Timestamp} {data : List WorkflowEventDataV1} (orderly : journal.Orderly)
    (some : data ≠ []) (plain : ∀ spec, .workflowCreated spec ∉ data) :
    EventsAccepted journal workflowId transactionId at_ data ↔
      ∃ next written, journal.appendInternalEvents workflowId transactionId at_ data =
        .ok (next, written) := by
  constructor
  · rintro ⟨current, content, loaded, applies, sealable, unused⟩
    obtain ⟨next, written, applied, _, recorded, record⟩ :=
      orderly.applyEvents_accepts loaded applies plain sealable unused
    refine ⟨next, recorded, ?_⟩
    simp only [Journal.appendInternalEvents, bind_eq_ok, pure_eq_ok]
    exact ⟨current, loaded, (next, written), applied, recorded, record, rfl⟩
  · rintro ⟨next, written, accepted⟩
    obtain ⟨current, appended⟩ := Journal.appendInternalEvents_ok accepted
    obtain ⟨content, applies, _⟩ := appended.advances.applies
    exact ⟨current, content, appended.loaded, applies, sealable_of_folded some appended.folded,
      (Table.insert_eq_some_iff _).mp appended.recorded |>.1⟩

def humanTaskEvents (current : WorkflowProjectionV1) (task : WorkflowHumanTaskV1)
    (humanTaskId : String) (state : HumanResolutionV1) (at_ : Timestamp) :
    List WorkflowEventDataV1 :=
  .humanTaskResolved humanTaskId task.nodeId state.toState ::
    (wakeNodeEvents current task.nodeId .humanTask state.attemptState state.nodeState
      state.errorCode at_ ++ resumeIfWaiting current)

/-- The call resolves a human task: it waits, and its events are accepted. -/
structure ResolvesHumanTask (store : AuthorityStore) (humanTaskId : String)
    (state : HumanResolutionV1) (at_ : Timestamp) : Prop where
  arguments : (authoritySafeId humanTaskId && at_.valid) = true
  waiting : ∃ task current, store.humanTasks.get? humanTaskId = some task ∧
    task.state = .waiting ∧ store.journal.loadProjection task.workflowId = .ok current ∧
    EventsAccepted store.journal task.workflowId ("human-" ++ humanTaskId ++ "-" ++ state.text) at_
      (humanTaskEvents current task humanTaskId state at_)

/-- A transaction that only appends events and settles reservations is written: its events are
accepted on the sequence that it expects, and the reservations that it settles are its attempt's. -/
structure TransactionAccepted (store : AuthorityStore) (input : WorkflowTransactionV1) : Prop where
  valid : (authoritySafeId input.transactionId && authoritySafeId input.workflowId &&
    nonNegativeInteger input.expectedSequence && input.occurredAt.valid) = true
  sequence : ∀ current, store.journal.loadProjection input.workflowId = .ok current →
    (current.sequence : Int) = input.expectedSequence
  events : EventsAccepted store.journal input.workflowId input.transactionId input.occurredAt
    input.events
  settled : ∃ settled, input.effectReservationTerminal.toList.foldlM
    (settleReservation input.workflowId input.occurredAt) store.effectReservations = .ok settled

/-- The call resolves an unknown outcome: the node and its latest attempt are unknown, a success
has the receipt that its effect asks for, and the transaction is written. -/
structure ResolvesUnknown (store : AuthorityStore) (workflowId nodeId : String)
    (resolution : UnknownResolutionV1) (at_ : Timestamp) : Prop where
  arguments : (authoritySafeId workflowId && authoritySafeId nodeId && at_.valid) = true
  unknown : ∃ current tasks input, store.journal.loadProjection workflowId = .ok current ∧
    listTasks store workflowId .unknown maxList = .ok tasks ∧
    resolveUnknownTransaction current tasks nodeId resolution none at_ = .ok input ∧
    TransactionAccepted store input

/-! ## The two ways of a resolution -/

section Ways

variable {store : AuthorityStore} {at_ : Timestamp} {humanTaskId : String}
  {state : HumanResolutionV1}

theorem humanTaskEvents_plain (current : WorkflowProjectionV1) (task : WorkflowHumanTaskV1)
    (humanTaskId : String) (state : HumanResolutionV1) (spec : WorkflowSpecV1) :
    .workflowCreated spec ∉ humanTaskEvents current task humanTaskId state at_ := by
  simp only [humanTaskEvents, wakeNodeEvents, resumeIfWaiting, List.mem_cons, List.mem_append,
    not_or]
  refine ⟨by simp, ?_, ?_⟩
  · split
    · split
      · split <;> simp
      · simp
    · simp
  · split <;> simp

theorem resolveHumanTask_waiting {task : WorkflowHumanTaskV1} {current : WorkflowProjectionV1}
    (resolution : Json) (arguments : (authoritySafeId humanTaskId && at_.valid) = true)
    (found : store.humanTasks.get? humanTaskId = some task) (waiting : task.state = .waiting)
    (loaded : store.journal.loadProjection task.workflowId = .ok current) :
    resolveHumanTask store humanTaskId state resolution at_ = (do
      let (_, journal) ← store.journal.appendInternalEvents task.workflowId
        ("human-" ++ humanTaskId ++ "-" ++ state.text) at_
        (humanTaskEvents current task humanTaskId state at_)
      return ({ task with state := state.toState, resolution := some resolution },
        { store with
          humanTasks := store.humanTasks.update humanTaskId
            { task with state := state.toState, resolution := some resolution }
          journal })) := by
  simp only [resolveHumanTask, arguments, found, waiting, loaded, ensure_true, ok_bind, orError,
    ne_eq, not_true_eq_false, if_false, appendEvents]
  cases appended : store.journal.appendInternalEvents task.workflowId
      ("human-" ++ humanTaskId ++ "-" ++ state.text) at_
      (humanTaskEvents current task humanTaskId state at_) with
  | error error =>
    rw [humanTaskEvents] at appended
    rw [appended]
    rfl
  | ok result =>
    rw [humanTaskEvents] at appended
    rw [appended]
    rfl

/-- **A human task is resolved with the resolution that it is given, or the resolution makes no
difference.** -/
theorem resolveHumanTask_ways (orderly : store.journal.Orderly) :
    (¬ ResolvesHumanTask store humanTaskId state at_ ∧ ∃ result, ∀ resolution,
      resolveHumanTask store humanTaskId state resolution at_ = result) ∨
    (ResolvesHumanTask store humanTaskId state at_ ∧ ∃ (task : WorkflowHumanTaskV1)
      (journal : Journal), ∀ resolution : Json,
        resolveHumanTask store humanTaskId state resolution at_ =
          .ok ({ task with state := state.toState, resolution := some resolution },
            { store with
              humanTasks := store.humanTasks.update humanTaskId
                { task with state := state.toState, resolution := some resolution }
              journal })) := by
  by_cases arguments : (authoritySafeId humanTaskId && at_.valid) = true
  case neg =>
    refine .inl ⟨fun resolves => arguments resolves.arguments, .error .workflowHumanTaskInvalid,
      fun resolution => ?_⟩
    rw [resolveHumanTask, Bool.not_eq_true _ |>.mp arguments]
    rfl
  cases found : store.humanTasks.get? humanTaskId with
  | none =>
    refine .inl ⟨fun resolves => ?_, .error .workflowHumanTaskNotFound, fun resolution => ?_⟩
    · obtain ⟨task, _, there, _⟩ := resolves.waiting
      rw [found] at there
      cases there
    · rw [resolveHumanTask, arguments, found]
      rfl
  | some task =>
    have found_only : ∀ other, store.humanTasks.get? humanTaskId = some other → other = task := by
      intro other there
      rw [found] at there
      exact (Option.some.inj there).symm
    by_cases waiting : task.state = .waiting
    case neg =>
      refine .inl ⟨fun resolves => ?_, .ok (task, store), fun resolution => ?_⟩
      · obtain ⟨other, _, there, still, _⟩ := resolves.waiting
        rw [found_only other there] at still
        exact waiting still
      · rw [resolveHumanTask, arguments, found]
        simp only [ensure_true, ok_bind, orError, ne_eq, waiting, not_false_eq_true, if_true]
        rfl
    cases loaded : store.journal.loadProjection task.workflowId with
    | error error =>
      refine .inl ⟨fun resolves => ?_, .error error, fun resolution => ?_⟩
      · obtain ⟨other, _, there, _, read, _⟩ := resolves.waiting
        rw [found_only other there, loaded] at read
        cases read
      · simp only [resolveHumanTask, arguments, found, waiting, ensure_true, ok_bind, orError,
          ne_eq, not_true_eq_false, if_false, loaded]
        rfl
    | ok current =>
      have accepted := @eventsAccepted_iff store.journal task.workflowId
        ("human-" ++ humanTaskId ++ "-" ++ state.text) at_
        (humanTaskEvents current task humanTaskId state at_) orderly
        (by simp [humanTaskEvents]) (humanTaskEvents_plain current task humanTaskId state)
      have made := fun resolution => @resolveHumanTask_waiting store at_ humanTaskId state task
        current resolution arguments found waiting loaded
      cases appended : store.journal.appendInternalEvents task.workflowId
          ("human-" ++ humanTaskId ++ "-" ++ state.text) at_
          (humanTaskEvents current task humanTaskId state at_) with
      | error error =>
        refine .inl ⟨fun resolves => ?_, .error error, fun resolution => ?_⟩
        · obtain ⟨other, current', there, _, read, events⟩ := resolves.waiting
          obtain rfl := found_only other there
          obtain rfl := ok_unique loaded read
          obtain ⟨_, _, accepts⟩ := accepted.mp events
          rw [appended] at accepts
          cases accepts
        · rw [made, appended]
          rfl
      | ok result =>
        refine .inr ⟨⟨arguments, task, current, found, waiting, loaded, accepted.mpr
          ⟨result.1, result.2, appended⟩⟩, task, result.2, fun resolution => ?_⟩
        rw [made, appended]
        rfl

end Ways

section Unknown

variable {store : AuthorityStore} {at_ : Timestamp} {nodeId : String}
  {resolution : UnknownResolutionV1}

theorem resolveUnknownTransaction_ways (current : WorkflowProjectionV1)
    (tasks : List WorkflowTaskV1) :
    (∃ error, ∀ code, resolveUnknownTransaction current tasks nodeId resolution code at_ =
      .error error) ∨
    ∃ (base : WorkflowTransactionV1) (attemptId : String),
      (∀ code, PlainTransaction { base with
        events := resolutionEvents attemptId nodeId resolution at_ code }) ∧
      base.occurredAt = at_ ∧ base.cancelReadyTasks = [] ∧
      ∀ code, resolveUnknownTransaction current tasks nodeId resolution code at_ =
        .ok { base with events := resolutionEvents attemptId nodeId resolution at_ code } := by
  cases found : findNode? current.nodes nodeId with
  | none =>
    refine .inl ⟨.workflowResolutionInvalidState, fun code => ?_⟩
    rw [resolveUnknownTransaction, found]
    rfl
  | some node =>
    cases latest : latestAttempt current node with
    | none =>
      refine .inl ⟨.workflowResolutionInvalidState, fun code => ?_⟩
      simp only [resolveUnknownTransaction, found, latest, orError, ok_bind]
      rfl
    | some attempt =>
      by_cases unknown : (node.state == .unknown && attempt.state == .unknown) = true
      case neg =>
        refine .inl ⟨.workflowResolutionInvalidState, fun code => ?_⟩
        simp only [resolveUnknownTransaction, found, latest, orError, ok_bind,
          Bool.not_eq_true _ |>.mp unknown]
        rfl
      let key := (tasks.find? fun candidate =>
        candidate.attemptId = attempt.attemptId).bind fun task => task.effect.idempotencyKey
      by_cases receipt : (!(resolution == .succeeded && key.isSome &&
        attempt.receiptRef.isNone)) = true
      case neg =>
        refine .inl ⟨.workflowEffectReceiptRequired, fun code => ?_⟩
        simp only [resolveUnknownTransaction, found, latest, orError, ok_bind, unknown, ensure_true]
        change (ensure (!(resolution == .succeeded && key.isSome &&
          attempt.receiptRef.isNone)) _ >>= _) = _
        rw [Bool.not_eq_true _ |>.mp receipt]
        rfl
      refine .inr ⟨{
          transactionId := "resolve-" ++ current.workflowId ++ "-" ++ nodeId ++ "-" ++
            toString current.sequence
          workflowId := current.workflowId
          expectedSequence := current.sequence
          occurredAt := at_
          events := []
          effectReservationTerminal :=
            if resolution = .failed then
              key.map fun idempotencyKey =>
                { idempotencyKey, attemptId := attempt.attemptId, state := .released }
            else none }, attempt.attemptId, fun code => ?_, rfl, rfl, fun code => ?_⟩
      · exact ⟨rfl, rfl, rfl, rfl, rfl, rfl, rfl, by simp [resolutionEvents]⟩
      · simp only [resolveUnknownTransaction, found, latest, orError, ok_bind, unknown, ensure_true]
        change (ensure (!(resolution == .succeeded && key.isSome &&
          attempt.receiptRef.isNone)) _ >>= _) = _
        rw [receipt]
        rfl

variable {input : WorkflowTransactionV1} {error : WorkflowError}

theorem transactFresh_rejected {current : WorkflowProjectionV1}
    (loaded : store.journal.loadProjection input.workflowId = .ok current)
    (sequence : (current.sequence : Int) = input.expectedSequence)
    (rejects : (envelopeEvents current.spec input.transactionId input.occurredAt current.sequence
      input.events).foldlM applyWorkflowEventV1 current = .error error) :
    transactFresh store input = .error error := by
  simp only [transactFresh, loaded, ok_bind, beq_iff_eq.mpr sequence, ensure_true,
    Journal.applyEvents, rejects]
  rfl

theorem transactFresh_unsettled {current next : WorkflowProjectionV1} {written : Journal}
    (plain : PlainTransaction input)
    (loaded : store.journal.loadProjection input.workflowId = .ok current)
    (sequence : (current.sequence : Int) = input.expectedSequence)
    (applied : store.journal.applyEvents current input.transactionId input.events
      input.occurredAt = .ok (next, written))
    (unsettled : input.effectReservationTerminal.toList.foldlM
      (settleReservation input.workflowId input.occurredAt) store.effectReservations =
        .error error) : transactFresh store input = .error error := by
  simp only [transactFresh, loaded, ok_bind, beq_iff_eq.mpr sequence, ensure_true, applied,
    plain.enqueueTasks, plain.outbox, plain.timers, plain.humanTasks, plain.effectReceipts,
    plain.messages, List.foldlM_nil, pure_ok, unsettled]
  rfl

/-- **The transaction of a resolution is written with its code, or the code makes no
difference.** -/
theorem resolution_transact_ways {base : WorkflowTransactionV1} {attemptId : String}
    (orderly : store.journal.Orderly) (keeps : base.cancelReadyTasks = [])
    (plain : ∀ code, PlainTransaction { base with
      events := resolutionEvents attemptId nodeId resolution base.occurredAt code }) :
    (¬ TransactionAccepted store { base with
        events := resolutionEvents attemptId nodeId resolution base.occurredAt none } ∧
      ∃ result, ∀ code, transact store { base with
        events := resolutionEvents attemptId nodeId resolution base.occurredAt code } = result) ∨
    (TransactionAccepted store { base with
        events := resolutionEvents attemptId nodeId resolution base.occurredAt none } ∧
      ∀ code, ∃ next after, transact store { base with
        events := resolutionEvents attemptId nodeId resolution base.occurredAt code } =
          .ok (next, after) ∧ (∃ node ∈ next.nodes, node.nodeId = nodeId) ∧
            ∀ node ∈ next.nodes, node.nodeId = nodeId → node.errorCode = code) := by
  by_cases valid : (authoritySafeId base.transactionId && authoritySafeId base.workflowId &&
    nonNegativeInteger base.expectedSequence && base.occurredAt.valid) = true
  case neg =>
    refine .inl ⟨fun accepted => valid accepted.valid, .error .workflowTransactionInvalid,
      fun code => ?_⟩
    simp only [transact, Bool.not_eq_true _ |>.mp valid]
    rfl
  cases unused : store.journal.transactions.get? base.transactionId with
  | some duplicate =>
    refine .inl ⟨fun accepted => ?_, .ok (duplicate, store), fun code => ?_⟩
    · obtain ⟨_, _, _, _, _, absent⟩ := accepted.events
      rw [unused] at absent
      cases absent
    · simp only [transact, valid, ensure_true, ok_bind, Journal.transactionProjection, unused]
      rfl
  | none =>
    have fresh : ∀ code, transact store { base with
        events := resolutionEvents attemptId nodeId resolution base.occurredAt code } =
          transactFresh store { base with
            events := resolutionEvents attemptId nodeId resolution base.occurredAt code } := by
      intro code
      simp only [transact, valid, ensure_true, ok_bind, Journal.transactionProjection, unused]
    cases loaded : store.journal.loadProjection base.workflowId with
    | error error =>
      refine .inl ⟨fun accepted => ?_, .error error, fun code => ?_⟩
      · obtain ⟨_, _, read, _⟩ := accepted.events
        rw [loaded] at read
        cases read
      · simp only [fresh, transactFresh, loaded]
        rfl
    | ok current =>
      by_cases sequence : (current.sequence : Int) = base.expectedSequence
      case neg =>
        refine .inl ⟨fun accepted => sequence (accepted.sequence current loaded),
          .error .workflowSequenceConflict, fun code => ?_⟩
        simp only [fresh, transactFresh, loaded, ok_bind, beq_eq_false_iff_ne.mpr sequence]
        rfl
      -- the events are accepted with every code, or rejected with every code
      have lockstep := fun code => @resolution_lockstep attemptId nodeId resolution
        base.occurredAt current.spec base.transactionId current.sequence current none code
      cases folded : List.foldlM applyWorkflowEventV1 current (envelopeEvents current.spec
          base.transactionId base.occurredAt current.sequence
          (resolutionEvents attemptId nodeId resolution base.occurredAt none)) with
      | error error =>
        refine .inl ⟨fun accepted => ?_, .error error, fun code => ?_⟩
        · obtain ⟨_, _, accepts⟩ := (eventsAccepted_iff orderly (by simp [resolutionEvents])
            (plain none).uncreated).mp accepted.events
          obtain ⟨other, appended⟩ := Journal.appendInternalEvents_ok accepts
          have read := appended.loaded
          obtain rfl := ok_unique loaded read
          have accepts := appended.folded
          rw [folded] at accepts
          cases accepts
        · have rejects := lockstep code
          rw [folded] at rejects
          rw [fresh]
          exact transactFresh_rejected loaded sequence rejects.of_error
      | ok first =>
        have sealable := sealable_of_folded (by simp [resolutionEvents]) folded
        have applies : ∀ code, ∃ content, Applies current
            (resolutionEvents attemptId nodeId resolution base.occurredAt code) content := by
          intro code
          have accepts := lockstep code
          rw [folded] at accepts
          obtain ⟨next, accepted, _⟩ := accepts.of_ok
          obtain ⟨content, applies, _⟩ := (advances_of_events accepted).applies
          exact ⟨content, applies⟩
        cases settles : base.effectReservationTerminal.toList.foldlM
            (settleReservation base.workflowId base.occurredAt) store.effectReservations with
        | error error =>
          refine .inl ⟨fun accepted => ?_, .error error, fun code => ?_⟩
          · obtain ⟨settled, accepts⟩ := accepted.settled
            rw [settles] at accepts
            cases accepts
          · obtain ⟨content, applies⟩ := applies code
            obtain ⟨next, written, applied, _⟩ := orderly.applyEvents_accepts loaded applies
              (plain code).uncreated sealable unused
            rw [fresh]
            exact transactFresh_unsettled (plain code) loaded sequence applied settles
        | ok settled =>
          refine .inr ⟨⟨valid, fun other read => ?_, ?_, settled, settles⟩, fun code => ?_⟩
          · obtain rfl := ok_unique loaded read
            exact sequence
          · obtain ⟨content, applies⟩ := applies none
            exact ⟨current, content, loaded, applies, sealable, unused⟩
          · obtain ⟨content, applies⟩ := applies code
            have retires : base.cancelReadyTasks.foldlM
                (cancelReadyTask base.workflowId base.occurredAt) store.tasks =
                  .ok store.tasks := by
              rw [keeps]
              rfl
            obtain ⟨next, recorded, accepts, made, _⟩ := (plain code).accepted orderly
              loaded valid unused sequence applies sealable settles retires
            refine ⟨next, _, accepts, ?_⟩
            have codes := resolution_code applies
            rw [made]
            exact codes

/-- **An unknown outcome is resolved with the code that it is given, or the code makes no
difference.** -/
theorem resolveUnknown_ways {workflowId : String} (orderly : store.journal.Orderly) :
    (¬ ResolvesUnknown store workflowId nodeId resolution at_ ∧ ∃ result, ∀ code,
      resolveUnknown store store store workflowId nodeId resolution code at_ = result) ∨
    (ResolvesUnknown store workflowId nodeId resolution at_ ∧ ∀ code, ∃ next after,
      resolveUnknown store store store workflowId nodeId resolution code at_ = .ok (next, after) ∧
        (∃ node ∈ next.nodes, node.nodeId = nodeId) ∧
          ∀ node ∈ next.nodes, node.nodeId = nodeId → node.errorCode = code) := by
  by_cases arguments : (authoritySafeId workflowId && authoritySafeId nodeId && at_.valid) = true
  case neg =>
    refine .inl ⟨fun resolves => arguments resolves.arguments, .error .workflowResolutionInvalid,
      fun code => ?_⟩
    rw [resolveUnknown, Bool.not_eq_true _ |>.mp arguments]
    rfl
  cases loaded : store.journal.loadProjection workflowId with
  | error error =>
    refine .inl ⟨fun resolves => ?_, .error error, fun code => ?_⟩
    · obtain ⟨_, _, _, read, _⟩ := resolves.unknown
      rw [loaded] at read
      cases read
    · simp only [resolveUnknown, arguments, ensure_true, ok_bind, loaded]
      rfl
  | ok current =>
    cases listed : listTasks store workflowId .unknown maxList with
    | error error =>
      refine .inl ⟨fun resolves => ?_, .error error, fun code => ?_⟩
      · obtain ⟨_, _, _, _, read, _⟩ := resolves.unknown
        rw [listed] at read
        cases read
      · simp only [resolveUnknown, arguments, ensure_true, ok_bind, loaded, listed]
        rfl
    | ok tasks =>
      have step : ∀ code, resolveUnknown store store store workflowId nodeId resolution code
          at_ = (resolveUnknownTransaction current tasks nodeId resolution code at_ >>=
            transact store) := by
        intro code
        simp only [resolveUnknown, arguments, ensure_true, ok_bind, loaded, listed]
      have only : ∀ {input}, resolveUnknownTransaction current tasks nodeId resolution none
          at_ = .ok input → (ResolvesUnknown store workflowId nodeId resolution at_ ↔
            TransactionAccepted store input) := by
        intro input made
        constructor
        · rintro ⟨_, current', tasks', input', read, list, other, accepted⟩
          obtain rfl := ok_unique loaded read
          obtain rfl := ok_unique listed list
          obtain rfl := ok_unique made other
          exact accepted
        · intro accepted
          exact ⟨arguments, current, tasks, input, loaded, listed, made, accepted⟩
      rcases @resolveUnknownTransaction_ways at_ nodeId resolution current tasks with
        ⟨error, rejects⟩ | ⟨base, attemptId, plain, rfl, keeps, makes⟩
      · refine .inl ⟨fun resolves => ?_, .error error, fun code => ?_⟩
        · obtain ⟨_, _, _, read, list, made, _⟩ := resolves.unknown
          obtain rfl := ok_unique loaded read
          obtain rfl := ok_unique listed list
          rw [rejects] at made
          cases made
        · rw [step, rejects]
          rfl
      · have written : ∀ code, resolveUnknown store store store workflowId nodeId resolution
            code base.occurredAt = transact store { base with
              events := resolutionEvents attemptId nodeId resolution base.occurredAt code } := by
          intro code
          rw [step, makes]
          rfl
        rcases resolution_transact_ways orderly keeps plain with
          ⟨refused, result, same⟩ | ⟨accepted, writes⟩
        · exact .inl ⟨fun resolves => refused ((only (makes none)).mp resolves), result,
            fun code => (written code).trans (same code)⟩
        · refine .inr ⟨(only (makes none)).mpr accepted, fun code => ?_⟩
          rw [written]
          exact writes code

end Unknown

/-! ## Calls through the server -/

section Remote

open WorkflowAuthorityPortV1

variable {Rest : Type u} {port : WorkflowAuthorityPortV1 Rest} {link : RemoteLink}
  {method : RemoteMethod} {args : List (Option Json)} {draws : Draws} {state : PortState Rest}

theorem authorized_bearer : authorized link (some (bearer ++ link.token)) = true := by
  have header : (bearer ++ link.token).toList = bearer.toList ++ link.token.toList := by
    simp [String.toList_append]
  rw [authorized, startsWith, header, List.drop_left]
  simp

/-- **The server applies the method to what it reads.** -/
theorem remoteCall_eq (admitted : method.Admits args)
    (fits : link.bytes (remoteRequest link method args).body ≤ maxRequestBytes) :
    remoteCall port link method args draws state =
      withCode (fun thrown => some (thrownCode thrown))
        (port.serve method (received .null args) draws state) := by
  have read : received Json.null (positional method.arity args) = received .null args :=
    received_congr (param_positional admitted.fits)
  have applied : port.serve method
      (fun position => (remoteRequest link method args).body.args[position]?) draws state =
        port.serve method (received .null args) draws state := by
    rw [← read]
    rfl
  rw [remoteCall, handle]
  have known : authorized link (remoteRequest link method args).authorization ≠ false := by
    rw [show (remoteRequest link method args).authorization = some (bearer ++ link.token) from rfl,
      authorized_bearer]
    simp
  rw [if_neg known, if_neg (Nat.not_lt.mpr fits)]
  dsimp only [remoteRequest] at applied ⊢
  rw [applied]
  rcases port.serve method (received .null args) draws state with ⟨thrown | result, after⟩
  · rfl
  · rfl

theorem withCode_transaction {α : Type} (answer : α → RemoteAnswer)
    (result : Except WorkflowError (α × AuthorityStore)) :
    withCode (fun thrown => some (thrownCode thrown)) (port.transaction answer state result) =
      withCode Thrown.code (port.transaction answer state result) := by
  rcases result with error | ⟨value, store⟩
  · rfl
  · rfl

theorem withCode_other {params : Nat → Option Json} :
    withCode (fun thrown => some (thrownCode thrown)) (port.serveOther method params draws state) =
      withCode Thrown.code (port.serveOther method params draws state) := by
  rw [serveOther]
  rcases port.others method params draws state with ⟨code | value, after⟩
  · rfl
  · rfl

theorem gap_bounds {position : Nat} (admitted : method.Admits args) (gap : Gap args position) :
    method.required ≤ position ∧ position + 1 < method.required + method.optional := by
  obtain ⟨missing, later, before, given⟩ := gap
  constructor
  · by_contra inside
    exact admitted.given position (Nat.lt_of_not_le inside) missing
  · have bound := lt_length_of_param given
    have fits := admitted.fits
    rw [RemoteMethod.arity] at fits
    omega

theorem received_whole (admitted : method.Admits args) (single : method.optional ≤ 1) :
    received .null args = param args := by
  refine received_eq_param fun position gap => ?_
  have bounds := gap_bounds admitted gap
  omega

theorem received_elsewhere {position other : Nat} (admitted : method.Admits args)
    (two : method.optional = 2) (first : method.required = position) (elsewhere : other ≠ position) :
    received .null args other = param args other := by
  refine received_eq_param_iff.mpr fun gap => elsewhere ?_
  have bounds := gap_bounds admitted gap
  omega

end Remote

/-! ## When a remote call is the direct call -/

/-- The remote call is the direct one: an argument of the two resolutions that is missing before
the time makes no difference, because nothing is resolved, and the request of a task or of an effect
is not refused by a thrown value that is no error. -/
def Transparent {Rest : Type u} (port : WorkflowAuthorityPortV1 Rest) (method : RemoteMethod)
    (args : List (Option Json)) (draws : Draws) (state : PortState Rest) : Prop :=
  match method with
  | .admitTaskForRequest =>
    let (request, taskSpec) := port.taskRequest ((param args 0).getD .null)
    WorkflowAuthorityPortV1.taskRequestRefusal request taskSpec = none
  | .reserveEffectRequest =>
    WorkflowAuthorityPortV1.effectRequestRefusal
      (port.effectRequest ((param args 0).getD .null)).request = none
  | .resolveHumanTask => Gap args 2 → ∀ humanTaskId resolved at_,
      port.humanTaskParams (param args) draws = some (humanTaskId, resolved, at_) →
        ¬ ResolvesHumanTask state.store humanTaskId resolved at_
  | .resolveUnknown => Gap args 3 → ∀ workflowId nodeId resolution at_,
      port.unknownParams (param args) draws = some (workflowId, nodeId, resolution, at_) →
        ¬ ResolvesUnknown state.store workflowId nodeId resolution at_
  | _ => True

section Equal

open WorkflowAuthorityPortV1

variable {Rest : Type u} {port : WorkflowAuthorityPortV1 Rest} {args : List (Option Json)}
  {draws : Draws} {state : PortState Rest}

theorem serveResolveHumanTask_iff (orderly : state.store.journal.Orderly)
    (admitted : RemoteMethod.resolveHumanTask.Admits args) :
    withCode (fun thrown => some (thrownCode thrown))
        (port.serveResolveHumanTask (received .null args) draws state) =
      withCode Thrown.code (port.serveResolveHumanTask (param args) draws state) ↔
    Transparent port .resolveHumanTask args draws state := by
  have elsewhere : ∀ other, other ≠ 2 → received Json.null args other = param args other :=
    fun other => received_elsewhere admitted rfl rfl
  have typed : port.humanTaskParams (received .null args) draws =
      port.humanTaskParams (param args) draws := by
    simp only [humanTaskParams, elsewhere 0 (by decide), elsewhere 1 (by decide),
      elsewhere 3 (by decide)]
  rw [serveResolveHumanTask, withCode_transaction, serveResolveHumanTask, typed]
  by_cases gap : Gap args 2
  case neg =>
    rw [received_eq_param_iff.mpr gap]
    exact ⟨fun _ there => absurd there gap, fun _ => rfl⟩
  rw [received_gap gap, gap.1]
  cases called : port.humanTaskParams (param args) draws with
  | none =>
    refine ⟨fun _ _ humanTaskId resolved at_ there => ?_, fun _ => rfl⟩
    rw [called] at there
    cases there
  | some call =>
    obtain ⟨humanTaskId, resolved, at_⟩ := call
    rcases @resolveHumanTask_ways state.store at_ humanTaskId resolved orderly with
      ⟨refused, result, same⟩ | ⟨resolves, task, journal, made⟩
    · refine ⟨fun _ _ other resolved' at_' there => ?_, fun _ => ?_⟩
      · rw [called] at there
        obtain ⟨rfl, rfl, rfl⟩ : humanTaskId = other ∧ resolved = resolved' ∧ at_ = at_' := by
          simpa using there
        exact refused
      · simp only [same]
    · refine ⟨fun equal => ?_, fun free => absurd resolves (free gap _ _ _ called)⟩
      simp only [made] at equal
      have answers := congrArg Prod.fst equal
      cases answers

theorem serveResolveUnknown_iff (orderly : state.store.journal.Orderly)
    (admitted : RemoteMethod.resolveUnknown.Admits args) :
    withCode (fun thrown => some (thrownCode thrown))
        (port.serveResolveUnknown (received .null args) draws state) =
      withCode Thrown.code (port.serveResolveUnknown (param args) draws state) ↔
    Transparent port .resolveUnknown args draws state := by
  have elsewhere : ∀ other, other ≠ 3 → received Json.null args other = param args other :=
    fun other => received_elsewhere admitted rfl rfl
  have typed : port.unknownParams (received .null args) draws =
      port.unknownParams (param args) draws := by
    simp only [unknownParams, elsewhere 0 (by decide), elsewhere 1 (by decide),
      elsewhere 2 (by decide), elsewhere 4 (by decide)]
  rw [serveResolveUnknown, withCode_transaction, serveResolveUnknown, typed]
  by_cases gap : Gap args 3
  case neg =>
    rw [received_eq_param_iff.mpr gap]
    exact ⟨fun _ there => absurd there gap, fun _ => rfl⟩
  rw [received_gap gap, gap.1]
  cases called : port.unknownParams (param args) draws with
  | none =>
    refine ⟨fun _ _ workflowId nodeId resolution at_ there => ?_, fun _ => rfl⟩
    rw [called] at there
    cases there
  | some call =>
    obtain ⟨workflowId, nodeId, resolution, at_⟩ := call
    rcases @resolveUnknown_ways state.store at_ nodeId resolution workflowId orderly with
      ⟨refused, result, same⟩ | ⟨resolves, written⟩
    · refine ⟨fun _ _ workflow node resolution' at_' there => ?_, fun _ => ?_⟩
      · rw [called] at there
        obtain ⟨rfl, rfl, rfl, rfl⟩ : workflowId = workflow ∧ nodeId = node ∧
            resolution = resolution' ∧ at_ = at_' := by
          simpa using there
        exact refused
      · simp only [same]
    · refine ⟨fun equal => ?_, fun free => absurd resolves (free gap _ _ _ _ called)⟩
      obtain ⟨coded, _, withNull, ⟨node, member, here⟩, codes⟩ :=
        written (port.codeParam (some .null))
      obtain ⟨uncoded, _, withNone, _, noCodes⟩ := written (port.codeParam none)
      simp only [withNull, withNone] at equal
      have same : coded = uncoded := by
        have answers := congrArg Prod.fst equal
        simpa [withCode, WorkflowAuthorityPortV1.transaction] using answers
      have code := codes node member here
      rw [noCodes node (same ▸ member) here] at code
      cases code

variable {request : ReviewPlanExecutionRequestV1} {code : String}

theorem taskRequestRefusal_ne {taskSpec : WorkflowTaskSpecV1}
    (refused : taskRequestRefusal request taskSpec = some code) : code ≠ remoteFailed := by
  rw [taskRequestRefusal] at refused
  split at refused
  · rw [← Option.some.inj refused]
    decide
  · split at refused
    · rw [← Option.some.inj refused]
      decide
    · cases refused

theorem effectRequestRefusal_ne (refused : effectRequestRefusal request = some code) :
    code ≠ remoteFailed := by
  rw [effectRequestRefusal] at refused
  split at refused
  · cases refused
  · rw [← Option.some.inj refused]
    decide

theorem withCode_refusal_ne (other : code ≠ remoteFailed) :
    withCode (fun thrown => some (thrownCode thrown))
        ((.error ⟨some code, false⟩, state) : Outcome Rest) ≠
      withCode Thrown.code ((.error ⟨some code, false⟩, state) : Outcome Rest) := by
  intro same
  have codes := congrArg Prod.fst same
  simp only [withCode, thrownCode, Bool.false_eq_true, if_false, Except.error.injEq,
    Option.some.injEq] at codes
  exact other codes.symm

theorem serveAdmitTaskForRequest_iff :
    withCode (fun thrown => some (thrownCode thrown))
        (port.serveAdmitTaskForRequest (param args) draws state) =
      withCode Thrown.code (port.serveAdmitTaskForRequest (param args) draws state) ↔
    Transparent port .admitTaskForRequest args draws state := by
  simp only [serveAdmitTaskForRequest, Transparent]
  cases refused : taskRequestRefusal (port.taskRequest ((param args 0).getD .null)).1
      (port.taskRequest ((param args 0).getD .null)).2 with
  | some code =>
    refine ⟨fun same => absurd same (withCode_refusal_ne (taskRequestRefusal_ne refused)), ?_⟩
    intro absurd
    cases absurd
  | none => exact ⟨fun _ => rfl, fun _ => withCode_transaction _ _⟩

theorem serveReserveEffectRequest_iff :
    withCode (fun thrown => some (thrownCode thrown))
        (port.serveReserveEffectRequest (param args) state) =
      withCode Thrown.code (port.serveReserveEffectRequest (param args) state) ↔
    Transparent port .reserveEffectRequest args draws state := by
  simp only [serveReserveEffectRequest, Transparent]
  cases refused : effectRequestRefusal (port.effectRequest ((param args 0).getD .null)).request with
  | some code =>
    refine ⟨fun same => absurd same (withCode_refusal_ne (effectRequestRefusal_ne refused)), ?_⟩
    intro absurd
    cases absurd
  | none => exact ⟨fun _ => rfl, fun _ => withCode_transaction _ _⟩

/-- **A remote call is the direct call exactly if it is transparent.** -/
theorem remote_equals_local_iff (calls : List StoreCall) (rest : Rest) {link : RemoteLink}
    {method : RemoteMethod} (admitted : method.Admits args)
    (fits : link.bytes (remoteRequest link method args).body ≤ maxRequestBytes) :
    remoteCall port link method args draws ⟨StoreCall.run .empty calls, rest⟩ =
      localCall port method args draws ⟨StoreCall.run .empty calls, rest⟩ ↔
    Transparent port method args draws ⟨StoreCall.run .empty calls, rest⟩ := by
  have orderly := StoreCall.run_orderly calls
  rw [remoteCall_eq admitted fits, localCall]
  cases method
  case resolveHumanTask => exact serveResolveHumanTask_iff orderly admitted
  case resolveUnknown => exact serveResolveUnknown_iff orderly admitted
  case admitTaskForRequest =>
    rw [received_whole admitted (by decide)]
    exact serveAdmitTaskForRequest_iff
  case reserveEffectRequest =>
    rw [received_whole admitted (by decide)]
    exact serveReserveEffectRequest_iff
  case retryNode =>
    rw [received_whole admitted (by decide)]
    exact ⟨fun _ => trivial, fun _ => withCode_transaction _ _⟩
  all_goals
    rw [received_whole admitted (by decide)]
    exact ⟨fun _ => trivial, fun _ => withCode_other⟩

end Equal

/-! ## A human task without a resolution -/

/-- A workflow with a human task that waits. -/
def waitingHuman : List StoreCall :=
  [.create smallSpec "create"
    { humanTasks :=
        [{ humanTaskId := "human"
           workflowId := "workflow"
           nodeId := "root"
           state := .waiting
           request := .obj [] }] }]

def samplePort : WorkflowAuthorityPortV1 Unit where
  parseDate := fun text => if text = epochStart.text then epochStart.parsed else none
  taskRequest := fun _ =>
    (⟨⟨"session", "plan", 1, "item", "attempt", "request"⟩, "workflow", "sha256:"⟩,
      { node := smallNode "task"
        kind := .agent
        priority := 0
        readyAt := epochStart
        deadlineAt := epochStart
        conflictKeys := [] })
  taskRequestDigest := fun _ => "sha256:"
  effectRequest := fun _ =>
    { request := ⟨⟨"session", "plan", 1, "item", "attempt", "request"⟩, "workflow", "sha256:"⟩
      requestDigest := "sha256:"
      effectKind := .workspaceWrite
      requestedAt := epochStart }
  codeText := fun _ => "null"
  errorCode := fun _ => "WORKFLOW_PERSISTENCE_FAILED"
  others := fun _ _ _ state => (.ok none, state)

def sampleLink : RemoteLink where
  token := "token"
  sha256 := id
  bytes := fun _ => 100

def sampleDraws : Draws :=
  ⟨epochStart, fun _ => ⟨"00000000-0000-4000-8000-000000000000", by decide⟩⟩

/-- The task is denied at an instant, with the resolution left out or given. -/
def denial (resolution : Option Json) : List (Option Json) :=
  [some (.str "human"), some (.str "denied"), resolution, some (.str epochStart.text)]

theorem denial_admitted (resolution : Option Json) :
    RemoteMethod.resolveHumanTask.Admits (denial resolution) where
  fits := by simp [denial, RemoteMethod.arity, RemoteMethod.required, RemoteMethod.optional]
  given := by
    intro position inside
    have two : position < 2 := inside
    obtain rfl | rfl : position = 0 ∨ position = 1 := by omega
    · simp [denial, param]
    · simp [denial, param]

theorem remote_denial_transparent_iff :
    remoteCall samplePort sampleLink .resolveHumanTask (denial (some (.obj [])))
        sampleDraws ⟨StoreCall.run .empty waitingHuman, ()⟩ =
      localCall samplePort .resolveHumanTask (denial (some (.obj []))) sampleDraws
        ⟨StoreCall.run .empty waitingHuman, ()⟩ ↔
    Transparent samplePort .resolveHumanTask (denial (some (.obj []))) sampleDraws
      ⟨StoreCall.run .empty waitingHuman, ()⟩ :=
  remote_equals_local_iff waitingHuman () (denial_admitted _) (by decide)

def nullResolved : Except (Option String) RemoteAnswer → Bool
  | .ok (.humanTask task) =>
    match task.resolution with
    | some .null => true
    | _ => false
  | _ => false

/-- **A resolution that is left out before the time is stored as a null by a remote call.** -/
theorem remote_denial_differs :
    ¬ ∀ (Rest : Type) (port : WorkflowAuthorityPortV1 Rest) (link : RemoteLink)
      (method : RemoteMethod) (args : List (Option Json)) (draws : Draws) (calls : List StoreCall)
      (rest : Rest), method.Admits args →
        link.bytes (remoteRequest link method args).body ≤ maxRequestBytes →
        remoteCall port link method args draws ⟨StoreCall.run .empty calls, rest⟩ =
          localCall port method args draws ⟨StoreCall.run .empty calls, rest⟩ := by
  intro always
  have same := always Unit samplePort sampleLink .resolveHumanTask (denial none) sampleDraws
    waitingHuman () (denial_admitted none) (by decide)
  have remote : nullResolved (remoteCall samplePort sampleLink .resolveHumanTask (denial none)
      sampleDraws ⟨StoreCall.run .empty waitingHuman, ()⟩).1 = true := by decide +kernel
  have direct : nullResolved (localCall samplePort .resolveHumanTask (denial none) sampleDraws
      ⟨StoreCall.run .empty waitingHuman, ()⟩).1 = false := by decide +kernel
  rw [same, direct] at remote
  cases remote

end Praxis.Workflow
