import Praxis.Planner.MergeObservations

/-!
# A merge tells the truth

What an answer of the controller promises is read off the trace: what Git last answered about the
main workspace, what it answered about the commit, and whether the merge command was issued. Before
the cleanup everything is as promised (`untilCleanup_spec`). The cleanup runs after the merge, so the
promise is kept exactly if the worktree is still valid then and the main workspace has not moved
(`truthful_iff`).
-/

namespace Praxis.Planner

set_option autoImplicit false

open Praxis.Foundations
open Praxis.Session (SessionStepProjectionV3)
open Praxis.Foundations.Action (Triple)

/-! ## The stages of a merge -/

section Stages

variable {σ Digest Reply : Type} [DecidableEq Digest]
  (controller : ControlledWorkspaceMergeV1 σ Digest Reply) (ports : HostPorts σ)
  (step : SessionStepProjectionV3) (isolation : WorkspaceIsolationV1 Digest)
  (artifact : WorkspaceMergeArtifactV1 Digest (SubagentResultV1 Digest))

/-- What an answer before the cleanup says. -/
structure Stopped (answer : ControlledWorkspaceMergeResultV1 Digest) (trace : List MergeEvent) :
    Prop where
  failed : answer.status ≠ .succeeded
  cancelled : answer.status = .cancelled → ¬MergeIssued artifact trace
  recovers : MergeIssued artifact trace → answer.status = .blocked →
    answer.recovery = some (recoveryFor isolation artifact)

/-- An answer says what it should, and a merge that may be cleaned up has succeeded truly. -/
def Progressed (progress : MergeProgress Digest) (state : Traced σ MergeEvent) : Prop :=
  match progress with
  | .inl answer => Stopped isolation artifact answer state.trace
  | .inr ready =>
    SucceededTruly step isolation artifact ready.evidence ready.verifications state.trace

variable {controller ports step isolation artifact}

variable {P : Traced σ MergeEvent → Prop} {E : MergeError → Traced σ MergeEvent → Prop}
  {evidence : WorkspaceMergeEvidenceV1 Digest} {before : List MergeEvent} {α : Type}

omit [DecidableEq Digest] in
theorem stop_blocked {code : String} {decisions : List VerificationDecisionV1} :
    Triple P (stopMerge .blocked code evidence decisions (some (recoveryFor isolation artifact)))
      (Progressed step isolation artifact) E := by
  refine Triple.pure _ fun state _ => ?_
  exact
    { failed := by intro status; cases status
      cancelled := by intro status; cases status
      recovers := fun _ _ => rfl }

omit [DecidableEq Digest] in
theorem stop_cancelled {recovery : Option WorkspaceMergeRecoveryV1}
    (before : ∀ state, P state → ¬MergeIssued artifact state.trace) :
    Triple P (stopMerge .cancelled "WORKSPACE_MERGE_CANCELLED" evidence [] recovery)
      (Progressed step isolation artifact) E := by
  refine Triple.pure _ fun state holds => ?_
  exact
    { failed := by intro status; cases status
      cancelled := fun _ => before state holds
      recovers := by intro _ status; cases status }

theorem runGit_triple {cwd : String} {args : List String} :
    Triple (fun state => state.trace = before) (runGit ports cwd args)
      (fun result state => state.trace = before ++ [.git ⟨cwd, args⟩ result]) E where
  accepts {state _ _} start run := by
    rw [runGit_seen run, start]
  rejects {_ error _} _ run := by
    have impossible : (Except.ok _ : Except MergeError _) = .error error := congrArg Prod.fst run
    cases impossible

theorem inspectMain_triple {root : String} :
    Triple (fun state => state.trace = before) (inspectMain ports root)
      (fun found state => ∃ head branch status,
        state.trace = before ++ mainReads root head branch status ∧
        found = mainStateOf head branch status) E where
  accepts {state _ _} start run := by
    rw [← start]
    exact inspectMain_seen run
  rejects {_ error _} _ run := by
    have impossible : (Except.ok _ : Except MergeError _) = .error error := congrArg Prod.fst run
    cases impossible

theorem reading_triple {read : Traced σ MergeEvent → α} :
    Triple P (Action.reading read) (fun _ => P) E where
  accepts {state _ after} holds run := by
    have same : state = after := congrArg Prod.snd run
    rw [← same]
    exact holds
  rejects {_ error _} _ run := by
    have impossible : (Except.ok _ : Except MergeError _) = .error error := congrArg Prod.fst run
    cases impossible

theorem verifyMerged_triple {kind : VerifierKind}
    {verifier : Action MergeError σ VerificationDecisionV1} :
    Triple (fun state => state.trace = before) (verifyMerged kind verifier)
      (fun decision state => state.trace = before ++ [.verified decision] ∧ decision.verifier = kind)
      E where
  accepts {state decision after} start run := by
    have decided : decisionOf kind "WORKSPACE_POST_MERGE_VERIFIER_FAILED"
        (verifier state.world).1.toOption = decision := Except.ok.inj (congrArg Prod.fst run)
    constructor
    · rw [← congrArg (·.2.trace) run, ← start, ← decided]
      rfl
    · rw [← decided]
      cases answer : (verifier state.world).1.toOption with
      | none => rfl
      | some found =>
        change (if found.verifier = kind then found else failedVerifier kind _).verifier = kind
        split
        · assumption
        · rfl
  rejects {_ error _} _ run := by
    have impossible : (Except.ok _ : Except MergeError _) = .error error := congrArg Prod.fst run
    cases impossible

/-- Decisions that all passed are those of the required verifiers, and are among the events. -/
def Decided (step : SessionStepProjectionV3) (decisions : List VerificationDecisionV1)
    (seen : List MergeEvent) : Prop :=
  (∀ decision ∈ decisions, decision.status = .passed) →
    decisions.map (·.verifier) = requiredVerifiers step ∧
      ∀ decision ∈ decisions, MergeEvent.verified decision ∈ seen

omit [DecidableEq Digest] in
theorem verifications_triple :
    Triple (fun state => state.trace = before) (verifications controller step)
      (fun decisions state => ∃ seen, state.trace = before ++ seen ∧ Decided step decisions seen) E := by
  refine Triple.bind verifyMerged_triple fun mechanical => ?_
  refine Triple.fact fun mechanical_own => ?_
  refine Triple.bind verifyMerged_triple fun rule => ?_
  refine Triple.fact fun rule_own => ?_
  refine Triple.ite (fun asked => ?_) fun unasked => ?_
  · have required : requiredVerifiers step = [.mechanical, .rule, .model] := if_pos asked.2.2
    cases present : controller.semanticVerifier with
    | none =>
      refine Triple.pure _ fun state trace => ⟨_, by rw [trace, List.append_assoc], fun passed => ?_⟩
      cases passed semanticVerifierRequired (by simp)
    | some verifier =>
      refine Triple.bind verifyMerged_triple fun semantic => ?_
      refine Triple.fact fun semantic_own => ?_
      refine Triple.pure _ fun state trace =>
        ⟨_, by rw [trace, List.append_assoc, List.append_assoc], fun _ => ⟨?_, ?_⟩⟩
      · rw [required, ← mechanical_own, ← rule_own, ← semantic_own]
        rfl
      · simp
  · refine Triple.pure _ fun state trace => ⟨_, by rw [trace, List.append_assoc], fun passed => ⟨?_, ?_⟩⟩
    · have required : requiredVerifiers step = [.mechanical, .rule] := by
        refine if_neg fun semantic => unasked ⟨?_, ?_, semantic⟩
        · exact passed mechanical (by simp)
        · exact passed rule (by simp)
      rw [required, ← mechanical_own, ← rule_own]
      rfl
    · simp

omit [DecidableEq Digest] in
theorem mergeAndVerify_triple {quiet : List MergeEvent} {mainState : MainState}
    {head branch status : GitCommandResultV1} (silent : ∀ event ∈ quiet, QuietEvent artifact event)
    (first : mainStateOf head branch status = some mainState)
    (commit : ObservedCommit isolation artifact evidence quiet) :
    Triple (fun state => state.trace = quiet ++ mainReads isolation.repoRoot head branch status)
      (mergeAndVerify controller ports step isolation artifact mainState evidence)
      (Progressed step isolation artifact) E := by
  refine Triple.bind runGit_triple fun merge => ?_
  refine Triple.bind inspectMain_triple fun mergedState => ?_
  refine Triple.ite (fun _ => stop_blocked) fun _ => ?_
  refine Triple.ite (fun _ => stop_blocked) fun _ => ?_
  refine Triple.bind reading_triple fun aborted => ?_
  refine Triple.ite (fun _ => stop_blocked) fun _ => ?_
  refine Triple.of_exists fun head₁ => Triple.of_exists fun branch₁ => Triple.of_exists fun status₁ => ?_
  refine Triple.fact fun _ => ?_
  refine Triple.bind verifications_triple fun decisions => ?_
  refine Triple.of_exists fun seen => Triple.fact fun decided => ?_
  refine Triple.bind inspectMain_triple fun verifiedState => ?_
  refine Triple.of_exists fun head₂ => Triple.of_exists fun branch₂ => Triple.of_exists fun status₂ => ?_
  refine Triple.fact fun inspected => ?_
  refine Triple.ite (fun _ => stop_blocked) fun expected => ?_
  refine Triple.ite (fun _ => stop_blocked) fun all_passed => ?_
  -- the merge went through: the last inspection is as expected and every decision passed
  refine Triple.pure _ fun state trace => ?_
  have passed : ∀ decision ∈ decisions, decision.status = .passed := by
    simpa using all_passed
  obtain ⟨required, among⟩ := decided passed
  rw [inspected] at expected
  have observed : ObservedMerged isolation artifact (quiet ++
      mainReads isolation.repoRoot head branch status ++
      (.git ⟨isolation.repoRoot, mergeCommand artifact⟩ merge ::
        (mainReads isolation.repoRoot head₁ branch₁ status₁ ++ seen)) ++
      mainReads isolation.repoRoot head₂ branch₂ status₂) :=
    observedMerged silent first (by simpa using expected)
  refine ⟨?_, ?_, ?_⟩
  · rw [trace]
    simpa using observed
  · rw [trace]
    simp only [List.append_assoc]
    exact commit.append _
  · refine ⟨required, passed, quiet ++ mainReads isolation.repoRoot head branch status,
      isolation.repoRoot, merge, mainReads isolation.repoRoot head₁ branch₁ status₁ ++ (seen ++
      mainReads isolation.repoRoot head₂ branch₂ status₂), ?_, fun decision member => ?_⟩
    · rw [trace]
      simp
    · exact List.mem_append_right _ (List.mem_append_left _ (among decision member))

def Unmerged (artifact : WorkspaceMergeArtifactV1 Digest (SubagentResultV1 Digest))
    (state : Traced σ MergeEvent) : Prop :=
  ¬MergeIssued artifact state.trace

/-- The state of a call whose events are all quiet. -/
def Silent (artifact : WorkspaceMergeArtifactV1 Digest (SubagentResultV1 Digest))
    (state : Traced σ MergeEvent) : Prop :=
  ∀ event ∈ state.trace, QuietEvent artifact event

omit [DecidableEq Digest] in
theorem Silent.unmerged {state : Traced σ MergeEvent} (silent : Silent artifact state) :
    Unmerged artifact state :=
  not_issued fun event member => (silent event member).harmless

omit [DecidableEq Digest] in
theorem silent_triple {action : MergeAction σ α}
    (quiet : Traced.Appends (QuietEvent artifact) action) :
    Triple (Silent artifact) action (fun _ => Silent artifact) fun _ => Unmerged artifact where
  accepts silent run := quiet.all_of_run run silent
  rejects silent run := (show Silent artifact _ from quiet.all_of_run run silent).unmerged

theorem preflight_triple {rules : DigestRules Digest}
    (base : artifact.baseCommit = isolation.baseCommit) :
    Triple (Silent artifact) (preflight rules ports step isolation artifact)
      (fun found state => Silent artifact state ∧ (found.1 = preflightPassed →
        ObservedCommit isolation artifact found.2 state.trace))
      fun _ => Unmerged artifact where
  accepts {_ found after} silent run := by
    refine ⟨(silent_triple preflight_quiet).accepts silent run, fun passed => ?_⟩
    obtain ⟨code, evidence⟩ := found
    obtain rfl : code = preflightPassed := passed
    exact preflight_passed base run
  rejects silent run := (silent_triple preflight_quiet).rejects silent run

omit [DecidableEq Digest] in
/-- From a passed preflight on. -/
theorem inspectAndMerge_triple :
    Triple (fun state => Silent artifact state ∧ ObservedCommit isolation artifact evidence state.trace)
      (inspectAndMerge controller ports step isolation artifact evidence)
      (Progressed step isolation artifact) fun _ => Unmerged artifact := by
  refine Triple.bind reading_triple fun aborted => ?_
  refine Triple.ite (fun _ => stop_cancelled fun _ holds => holds.1.unmerged) fun _ => ?_
  -- the events so far are quiet, whatever they are
  refine Triple.mono (P := fun state => ∃ quiet, state.trace = quiet ∧
      ((∀ event ∈ quiet, QuietEvent artifact event) ∧ ObservedCommit isolation artifact evidence quiet))
    (R := Progressed step isolation artifact) (E := fun _ => Unmerged artifact) ?_
    (fun state holds => ⟨state.trace, rfl, holds⟩) (fun _ _ holds => holds) fun _ _ holds => holds
  refine Triple.of_exists fun quiet => Triple.fact fun ⟨silent, commit⟩ => ?_
  refine Triple.bind inspectMain_triple fun inspected => ?_
  refine Triple.of_exists fun head => Triple.of_exists fun branch => Triple.of_exists fun status => ?_
  refine Triple.fact fun found => ?_
  cases inspected with
  | none => exact stop_blocked
  | some mainState =>
    refine Triple.ite (fun _ => stop_blocked) fun _ => ?_
    refine Triple.ite (fun _ => stop_blocked) fun _ => ?_
    exact mergeAndVerify_triple silent found.symm commit

theorem leasedMerge_triple (base : artifact.baseCommit = isolation.baseCommit) :
    Triple (Silent artifact) (leasedMerge controller ports step isolation artifact)
      (Progressed step isolation artifact) fun _ => Unmerged artifact := by
  refine Triple.bind (silent_triple (Traced.Appends.forM (fun root => Traced.Appends.lift _) _)) fun _ => ?_
  refine Triple.bind (silent_triple (validate_quiet _ _)) fun _ => ?_
  refine Triple.bind (preflight_triple base) fun (code, evidence) => ?_
  refine Triple.ite (fun _ => stop_blocked) fun passed => ?_
  have code_eq : code = preflightPassed := by simpa using passed
  have rest : Triple (fun state => Silent artifact state ∧
      ObservedCommit isolation artifact evidence state.trace)
      (inspectAndMerge controller ports step isolation artifact evidence)
      (Progressed step isolation artifact) fun _ => Unmerged artifact := inspectAndMerge_triple
  refine Triple.mono rest ?_ (fun _ _ holds => holds) fun _ _ holds => holds
  exact fun state holds => ⟨holds.1, holds.2 code_eq⟩

theorem untilCleanup_triple :
    Triple (fun state => state.trace = []) (untilCleanup controller ports step isolation artifact)
      (Progressed step isolation artifact) fun _ => Unmerged artifact := by
  refine Triple.mono (P := Silent artifact) (R := Progressed step isolation artifact)
    (E := fun _ => Unmerged artifact) ?_ ?_ (fun _ _ holds => holds) fun _ _ holds => holds
  · refine Triple.bind reading_triple fun aborted => ?_
    refine Triple.ite (fun _ => stop_cancelled fun _ silent => silent.unmerged) fun _ => ?_
    refine Triple.bind (silent_triple (validate_quiet _ _)) fun _ => ?_
    refine Triple.ite (fun _ => stop_blocked) fun _ => ?_
    refine Triple.ite (fun _ => stop_blocked) fun bound => ?_
    have base : artifact.baseCommit = isolation.baseCommit := by
      simp only [Bool.or_eq_true, bne_iff_ne, not_or, not_not] at bound
      exact bound.1.1
    exact leasedMerge_triple base
  · intro state empty event member
    rw [empty] at member
    cases member

end Stages

/-! ## The cleanup -/

section Cleanup

variable {σ Digest Reply : Type} [DecidableEq Digest]
  (controller : ControlledWorkspaceMergeV1 σ Digest Reply) (ports : HostPorts σ)
  (step : SessionStepProjectionV3) (isolation : WorkspaceIsolationV1 Digest)

theorem runGit_resolves (cwd : String) (args : List String) : Action.Resolves (runGit ports cwd args) :=
  fun _ => ⟨_, _, rfl⟩

theorem lstat_resolves (path : String) : Action.Resolves (Planner.lstat ports path) :=
  fun _ => ⟨_, _, rfl⟩

omit [DecidableEq Digest] in
theorem removeValidated_resolves (ownedRoot repoRoot : String) (evidence : WorkspaceCleanupEvidenceV1) :
    Action.Resolves
      (WorkspaceIsolationManagerV1.removeValidated ports isolation ownedRoot repoRoot evidence) := by
  refine (runGit_resolves ports _ _).bind fun remove => ?_
  refine Action.Resolves.ite (Action.Resolves.pure _) ?_
  refine (lstat_resolves ports _).bind fun targetAfter => ?_
  refine Action.Resolves.ite (Action.Resolves.pure _) ?_
  exact (Action.Resolves.attempt _).bind fun _ => Action.Resolves.pure _

omit [DecidableEq Digest] in
theorem finalizeInspected_resolves (ownedRoot repoRoot mergedCommit : String) :
    Action.Resolves (WorkspaceIsolationManagerV1.finalizeInspected ports isolation ownedRoot repoRoot
      mergedCommit) := by
  refine Action.Resolves.bind ?_ fun inspection => ?_
  · refine (runGit_resolves ports _ _).bind fun status => ?_
    exact (runGit_resolves ports _ _).bind fun head => Action.Resolves.pure _
  · refine Action.Resolves.ite (Action.Resolves.pure _) ?_
    refine (runGit_resolves ports _ _).bind fun mainHead => ?_
    exact Action.Resolves.ite (Action.Resolves.pure _) (removeValidated_resolves ports isolation _ _ _)

variable (artifact : WorkspaceMergeArtifactV1 Digest (SubagentResultV1 Digest))

/-- What is seen of the cleanup that starts in a state. -/
def cleanupEvents (state : Traced σ MergeEvent) : List MergeEvent :=
  (controller.manager.finalizeMerged ports isolation artifact.commit state).2.trace.drop
    state.trace.length

/-- The worktree is still valid when the cleanup starts, and the main workspace does not move until
the cleanup looks at it for the last time. -/
structure CleanupKeeps (state : Traced σ MergeEvent) : Prop where
  valid : ∃ roots after,
    controller.manager.validateOwnedIsolation ports isolation state = (.ok roots, after)
  unmoved : ∀ head, (answersIn isolation.repoRoot headCommand
    (cleanupEvents controller ports isolation artifact state)).getLast? = some head →
    trim head.stdout = artifact.commit

structure CleanupReached (input : WorkspaceMergeArtifactV1 Digest Reply) (world : σ)
    (artifact : WorkspaceMergeArtifactV1 Digest (SubagentResultV1 Digest)) (ready : MergeReady Digest)
    (state : Traced σ MergeEvent) : Prop where
  merged : untilCleanup controller ports step isolation artifact ⟨world, []⟩ = (.ok (.inr ready), state)
  validStep : validateMergeStep step = .ok ()
  validArtifact : validateArtifact controller.manager.rules controller.validateSubagentResultV1 input =
    .ok artifact

/-- The end of a call is what the trace says; an artifact that is not valid ends it at once. -/
def TruthfulCall (input : WorkspaceMergeArtifactV1 Digest Reply)
    (ended : Except MergeError (ControlledWorkspaceMergeResultV1 Digest)) (trace : List MergeEvent) :
    Prop :=
  match validateArtifact controller.manager.rules controller.validateSubagentResultV1 input with
  | .error _ => (∃ error, ended = .error error) ∧ trace = []
  | .ok artifact => MergeTruthful step isolation artifact ended trace

variable {controller ports step isolation artifact}

theorem validateArtifact_ok {rules : DigestRules Digest} {validate : Reply → Option (SubagentResultV1 Digest)}
    {input : WorkspaceMergeArtifactV1 Digest Reply}
    (valid : validateArtifact rules validate input = .ok artifact) : isCommit artifact.commit = true := by
  obtain ⟨_, accepted, valid⟩ := bind_eq_ok.mp valid
  obtain ⟨result, _, valid⟩ := bind_eq_ok.mp valid
  obtain rfl := Except.ok.inj valid
  have tests := ensure_eq_ok.mp accepted
  simp only [Bool.and_eq_true] at tests
  exact tests.1.1.1.2

variable {state : Traced σ MergeEvent} {verifications : List VerificationDecisionV1}
  {trace : List MergeEvent} {evidence : WorkspaceMergeEvidenceV1 Digest}

theorem finalizeMerged_accepts_iff (commit : isCommit artifact.commit = true) :
    (∃ cleanup after, controller.manager.finalizeMerged ports isolation artifact.commit state =
      (.ok cleanup, after)) ↔
    ∃ roots after, controller.manager.validateOwnedIsolation ports isolation state =
      (.ok roots, after) := by
  have checked : controller.manager.finalizeMerged ports isolation artifact.commit state =
      (controller.manager.validateOwnedIsolation ports isolation >>= fun roots =>
        WorkspaceIsolationManagerV1.finalizeInspected ports isolation roots.1 roots.2 artifact.commit)
        state := Action.ensure_bind_run commit
  rw [checked]
  constructor
  · rintro ⟨cleanup, after, run⟩
    obtain ⟨roots, middle, valid, _⟩ := Action.bind_eq_ok.mp run
    exact ⟨roots, middle, valid⟩
  · rintro ⟨roots, middle, valid⟩
    rw [Action.bind_run valid]
    exact finalizeInspected_resolves ports isolation _ _ _ _

omit [DecidableEq Digest] in
theorem SucceededTruly.issued
    (truly : SucceededTruly step isolation artifact evidence verifications trace) :
    MergeIssued artifact trace := by
  obtain ⟨before, cwd, result, after, split, _⟩ := truly.verified.later
  refine ⟨cwd, result, ?_⟩
  rw [split]
  simp

omit [DecidableEq Digest] in
theorem SucceededTruly.append_iff {more : List MergeEvent}
    (truly : SucceededTruly step isolation artifact evidence verifications trace)
    (silent : ∀ event ∈ more, QuietEvent artifact event) :
    SucceededTruly step isolation artifact evidence verifications (trace ++ more) ↔
      ∀ head, (answersIn isolation.repoRoot headCommand more).getLast? = some head →
        trim head.stdout = artifact.commit := by
  have no_branch : answersIn isolation.repoRoot branchCommand more = [] :=
    answersIn_eq_nil fun event member => (silent event member).no_branch _
  have no_status : answersIn isolation.repoRoot statusCommand more = [] :=
    answersIn_eq_nil fun event member => (silent event member).no_status _
  constructor
  · intro later head last
    have observed := later.main.head
    rw [answersIn_append, List.getLast?_append, last, Option.some_or, Option.map_some] at observed
    exact Option.some.inj observed
  · intro unmoved
    refine ⟨?_, truly.commit.append more, ?_⟩
    · refine
        { head := ?_
          branch := ?_
          clean := ?_ }
      · rw [answersIn_append, List.getLast?_append]
        cases last : (answersIn isolation.repoRoot headCommand more).getLast? with
        | none => exact truly.main.head
        | some head => exact congrArg some (unmoved head last)
      · rw [answersIn_append, no_branch, List.append_nil]
        exact truly.main.branch
      · rw [answersIn_append, no_status, List.append_nil]
        exact truly.main.clean
    · obtain ⟨before, cwd, result, after, split, seen⟩ := truly.verified.later
      refine ⟨truly.verified.required, truly.verified.passed, before, cwd, result, after ++ more, ?_,
        fun decision member => List.mem_append_left _ (seen decision member)⟩
      rw [split]
      simp

omit [DecidableEq Digest] in
theorem truthful_of_stopped {answer : ControlledWorkspaceMergeResultV1 Digest}
    (stopped : Stopped isolation artifact answer trace) :
    MergeTruthful step isolation artifact (.ok answer) trace where
  succeeded answer' ended succeeded := by
    obtain rfl := Except.ok.inj ended
    exact absurd succeeded stopped.failed
  cancelled answer' ended cancelled := by
    obtain rfl := Except.ok.inj ended
    exact stopped.cancelled cancelled
  resolves _ := ⟨answer, rfl⟩
  recovers answer' ended issued blocked := by
    obtain rfl := Except.ok.inj ended
    exact stopped.recovers issued blocked

omit [DecidableEq Digest] in
theorem truthful_error_iff {error : MergeError} :
    MergeTruthful step isolation artifact (.error error) trace ↔ ¬MergeIssued artifact trace := by
  constructor
  · intro truthful issued
    obtain ⟨answer, ended⟩ := truthful.resolves issued
    cases ended
  · intro unmerged
    exact
      { succeeded := by intro answer ended; cases ended
        cancelled := by intro answer ended; cases ended
        resolves := fun issued => absurd issued unmerged
        recovers := by intro answer ended; cases ended }

theorem cleanUp_truthful_iff {ready : MergeReady Digest} (commit : isCommit artifact.commit = true)
    (truly : SucceededTruly step isolation artifact ready.evidence ready.verifications state.trace)
    :
    MergeTruthful step isolation artifact (cleanUp controller ports isolation artifact ready state).1
        (cleanUp controller ports isolation artifact ready state).2.trace ↔
      CleanupKeeps controller ports isolation artifact state := by
  have accepts_iff : (∃ cleanup after, controller.manager.finalizeMerged ports isolation
      artifact.commit state = (.ok cleanup, after)) ↔ ∃ roots after,
        controller.manager.validateOwnedIsolation ports isolation state = (.ok roots, after) :=
    finalizeMerged_accepts_iff commit
  have quiet : Traced.Appends (QuietEvent artifact)
      (controller.manager.finalizeMerged ports isolation artifact.commit) := finalizeMerged_quiet _ _ _
  rcases cleaned : controller.manager.finalizeMerged ports isolation artifact.commit state with
    ⟨error | cleanup, after⟩
  · -- the cleanup rejects, though the merge is done
    have rejected : cleanUp controller ports isolation artifact ready state = (.error error, after) :=
      Action.bind_rejects cleaned
    obtain ⟨extra, added, _⟩ := quiet.of_run cleaned
    have issued : MergeIssued artifact after.trace := by
      obtain ⟨cwd, result, member⟩ := truly.issued
      exact ⟨cwd, result, by rw [added]; exact List.mem_append_left _ member⟩
    rw [rejected, truthful_error_iff]
    refine ⟨fun unmerged => absurd issued unmerged, fun keeps => ?_⟩
    obtain ⟨cleanup, later, run⟩ := accepts_iff.mpr keeps.valid
    rw [cleaned] at run
    cases run
  · -- the cleanup answers, and the answer is a success
    obtain ⟨answer, answered, succeeds, evidence_eq, verifications_eq⟩ : ∃ answer,
        cleanUp controller ports isolation artifact ready state = (.ok answer, after) ∧
        answer.status = .succeeded ∧ answer.evidence = ready.evidence ∧
        answer.verifications = ready.verifications :=
      ⟨_, Action.bind_run cleaned, rfl, rfl, rfl⟩
    obtain ⟨extra, added, silent⟩ := quiet.of_run cleaned
    have events : cleanupEvents controller ports isolation artifact state = extra := by
      rw [cleanupEvents, cleaned]
      change after.trace.drop _ = extra
      rw [added, List.drop_left]
    have stays := truly.append_iff silent
    rw [← added] at stays
    rw [answered]
    constructor
    · intro truthful
      have later := truthful.succeeded answer rfl succeeds
      rw [evidence_eq, verifications_eq] at later
      refine ⟨accepts_iff.mp ⟨cleanup, after, cleaned⟩, ?_⟩
      rw [events]
      exact stays.mp later
    · intro keeps
      have later := stays.mpr (by rw [← events]; exact keeps.unmoved)
      refine
        { succeeded := fun answer' ended _ => ?_
          cancelled := fun answer' ended cancelled => ?_
          resolves := fun _ => ⟨answer, rfl⟩
          recovers := fun answer' ended _ blocked => ?_ }
      all_goals obtain rfl := Except.ok.inj ended
      · rw [evidence_eq, verifications_eq]
        exact later
      · rw [succeeds] at cancelled
        cases cancelled
      · rw [succeeds] at blocked
        cases blocked

theorem truthfulCall_rejected (input : WorkspaceMergeArtifactV1 Digest Reply) (error : MergeError) :
    TruthfulCall controller step isolation input (.error error) [] := by
  rw [TruthfulCall]
  split
  · exact ⟨⟨error, rfl⟩, rfl⟩
  · exact truthful_error_iff.mpr (not_issued (by simp))

theorem executeArtifact_truthful_iff (commit : isCommit artifact.commit = true) (world : σ) :
    MergeTruthful step isolation artifact (executeArtifact controller ports step isolation artifact ⟨world, []⟩).1
        (executeArtifact controller ports step isolation artifact ⟨world, []⟩).2.trace ↔
      ∀ ready state, untilCleanup controller ports step isolation artifact ⟨world, []⟩ =
        (.ok (.inr ready), state) → CleanupKeeps controller ports isolation artifact state := by
  have until_ : Triple (fun state : Traced σ MergeEvent => state.trace = [])
      (untilCleanup controller ports step isolation artifact) (Progressed step isolation artifact)
      fun _ => Unmerged artifact := untilCleanup_triple
  rcases run : untilCleanup controller ports step isolation artifact ⟨world, []⟩ with
    ⟨error | answer | ready, state⟩
  · have rejected : executeArtifact controller ports step isolation artifact ⟨world, []⟩ =
        (.error error, state) := Action.bind_rejects run
    rw [rejected]
    refine ⟨fun _ ready later reached => ?_, fun _ => ?_⟩
    · cases congrArg Prod.fst reached
    · exact truthful_error_iff.mpr (until_.rejects rfl run)
  · have answered : executeArtifact controller ports step isolation artifact ⟨world, []⟩ =
        (.ok answer, state) := Action.bind_run run
    rw [answered]
    refine ⟨fun _ ready later reached => ?_, fun _ => ?_⟩
    · cases congrArg Prod.fst reached
    · exact truthful_of_stopped (until_.accepts rfl run)
  · have cleaned : executeArtifact controller ports step isolation artifact ⟨world, []⟩ =
        cleanUp controller ports isolation artifact ready state := Action.bind_run run
    have truly : SucceededTruly step isolation artifact ready.evidence ready.verifications state.trace :=
      until_.accepts rfl run
    rw [cleaned, cleanUp_truthful_iff commit truly]
    refine ⟨fun keeps ready' later reached => ?_, fun keeps => keeps ready state rfl⟩
    obtain ⟨_, rfl⟩ := Prod.mk.inj reached
    exact keeps

/-- **A controlled merge tells the truth about the main workspace, except in its cleanup.** Whatever
Git, the file system and the verifiers answer, and wherever the signal aborts, a success means that
the main workspace was last observed clean, on its branch and at the commit, that the commit is what
the artifact says, and that every verifier passed after the merge; a cancelled call never issued the
merge; and after the merge the call resolves and a blocked answer carries its recovery record. All of
it holds exactly if, in case the cleanup is reached, the worktree is still valid then and the main
workspace does not move until the cleanup last looks at it. -/
theorem merge_truthful_iff (controller : ControlledWorkspaceMergeV1 σ Digest Reply)
    (ports : HostPorts σ) (step : SessionStepProjectionV3) (isolation : WorkspaceIsolationV1 Digest)
    (input : WorkspaceMergeArtifactV1 Digest Reply) (world : σ) :
    TruthfulCall controller step isolation input
        (executeMerge controller ports step isolation input ⟨world, []⟩).1
        (executeMerge controller ports step isolation input ⟨world, []⟩).2.trace ↔
      ∀ artifact ready state,
        CleanupReached controller ports step isolation input world artifact ready state →
        CleanupKeeps controller ports isolation artifact state := by
  cases validStep : validateMergeStep step with
  | error error =>
    have rejected : executeMerge controller ports step isolation input ⟨world, []⟩ =
        (.error error, ⟨world, []⟩) := Action.check_bind_rejects validStep
    rw [rejected]
    refine ⟨fun _ artifact ready state reached => ?_, fun _ => truthfulCall_rejected input error⟩
    cases validStep.symm.trans reached.validStep
  | ok passed =>
    cases validArtifact : validateArtifact controller.manager.rules
        controller.validateSubagentResultV1 input with
    | error error =>
      have rejected : executeMerge controller ports step isolation input ⟨world, []⟩ =
          (.error error, ⟨world, []⟩) :=
        (Action.check_bind_run validStep).trans (Action.check_bind_rejects validArtifact)
      rw [rejected]
      refine ⟨fun _ artifact ready state reached => ?_, fun _ => truthfulCall_rejected input error⟩
      cases validArtifact.symm.trans reached.validArtifact
    | ok artifact =>
      have runs : executeMerge controller ports step isolation input ⟨world, []⟩ =
          executeArtifact controller ports step isolation artifact ⟨world, []⟩ :=
        (Action.check_bind_run validStep).trans (Action.check_bind_run validArtifact)
      simp only [TruthfulCall, validArtifact]
      rw [runs, executeArtifact_truthful_iff (validateArtifact_ok validArtifact)]
      constructor
      · intro keeps artifact' ready state reached
        obtain rfl := ok_unique validArtifact reached.validArtifact
        exact keeps ready state reached.merged
      · intro keeps ready state merged
        exact keeps artifact ready state
          { validStep := validStep
            validArtifact := validArtifact
            merged := merged }

end Cleanup

/-! ## A signal that aborts during the verification -/

/-- A repository: whether the worker's commit is merged, and whether the signal has aborted. -/
structure Repository where
  merged : Bool
  aborted : Bool

def baseOfNote : String := "0000000000000000000000000000000000000000"

def commitOfNote : String := "1111111111111111111111111111111111111111"

def answered (stdout : String) : GitCommandResultV1 where
  exitCode := 0
  stdout := stdout

/-- Git in a repository at `/main` with a worktree at `/owned/note`, whose one commit deletes the
file `note`. -/
def noteGit (command : GitCommand) (repository : Repository) : GitCommandResultV1 × Repository :=
  match command.args with
  | ["rev-parse", "--show-toplevel"] => (answered command.cwd, repository)
  | ["rev-parse", "HEAD"] =>
    (answered (if command.cwd = "/main" ∧ !repository.merged then baseOfNote else commitOfNote),
      repository)
  | ["symbolic-ref", "--quiet", "HEAD"] => (answered "refs/heads/main", repository)
  | "rev-list" :: _ => (answered (commitOfNote ++ " " ++ baseOfNote), repository)
  | "diff" :: "--name-status" :: _ => (answered "D\x00note\x00", repository)
  | "diff" :: _ => (answered "patch", repository)
  | "-c" :: _ :: "merge" :: _ => (answered "", { repository with merged := true })
  | _ => (answered "", repository)

def notePaths : List String := ["/main", "/owned", "/owned/note", "/owned/.praxis-worktrees"]

/-- The file system of the repository: four directories, and the marker of the worktree. -/
def noteHost : HostPorts Repository where
  git := noteGit
  aborted := Repository.aborted
  mkdir _ := pure ()
  lstat path repository :=
    (if path ∈ notePaths then some .directory
      else if path = "/owned/.praxis-worktrees/note.json" then some .file else none, repository)
  size _ repository := (6, repository)
  realpath path := pure path
  readText _ := pure "marker"
  readBytes _ := pure []
  unlink _ := pure ()

def noteMarker : Json :=
  .obj [("schemaVersion", .num 1), ("managerId", .str "manager"), ("slug", .str "note"),
    ("repoRoot", .str "/main"), ("ownedRoot", .str "/owned"), ("targetPath", .str "/owned/note"),
    ("baseCommit", .str baseOfNote),
    ("copyPolicy", .obj [("ignored", .str "exclude"), ("secrets", .str "exclude")])]

def passedBy (kind : VerifierKind) : VerificationDecisionV1 where
  verifier := kind
  status := .passed
  code := "PASSED"

/-- A controller whose mechanical verifier is at work when the signal aborts. -/
def noteController : ControlledWorkspaceMergeV1 Repository Bytes (SubagentResultV1 Bytes) where
  manager :=
    { ownedRootInput := "/owned"
      managerId := "manager"
      created := fun path => if path = "/owned/note" then some (utf8 "marker") else none
      parseJson := fun _ => some noteMarker
      rules := noteRules }
  validateSubagentResultV1 := some
  acquireWorkspaceWriteLease _ := pure ()
  mechanicalVerifier repository := (.ok (passedBy .mechanical), { repository with aborted := true })
  ruleVerifier := pure (passedBy .rule)
  semanticVerifier := none

def noteIsolation : WorkspaceIsolationV1 Bytes where
  managerId := "manager"
  slug := "note"
  repoRoot := "/main"
  targetPath := "/owned/note"
  baseCommit := baseOfNote
  markerDigest := utf8 "marker"

def noteArtifact : WorkspaceMergeArtifactV1 Bytes (SubagentResultV1 Bytes) where
  baseCommit := baseOfNote
  commit := commitOfNote
  patch :=
    { bytes := 5
      digest := utf8 "patch"
      content := "patch" }
  result :=
    { status := .succeeded
      changedFiles :=
        [{ path := "note"
           change := .deleted }] }

/-- The call on the unmerged repository. -/
def noteMerge : Except MergeError (ControlledWorkspaceMergeResultV1 Bytes) ×
    Traced Repository MergeEvent :=
  executeMerge noteController noteHost noteStep noteIsolation noteArtifact
    ⟨⟨false, false⟩, []⟩

theorem merge_rejected_after_abort :
    noteMerge.1 = .error ⟨"WORKTREE_OPERATION_CANCELLED", some "/owned/note"⟩ ∧
      noteMerge.2.world.merged = true ∧
      ¬TruthfulCall noteController noteStep noteIsolation noteArtifact noteMerge.1
        noteMerge.2.trace := by
  obtain ⟨rejected, merged, issued⟩ :
      noteMerge.1 = .error ⟨"WORKTREE_OPERATION_CANCELLED", some "/owned/note"⟩ ∧
        noteMerge.2.world.merged = true ∧
        MergeEvent.git ⟨"/main", mergeCommand noteArtifact⟩ (answered "") ∈ noteMerge.2.trace := by
    decide +kernel
  have valid : validateArtifact noteController.manager.rules noteController.validateSubagentResultV1
      noteArtifact = .ok noteArtifact := by
    decide +kernel
  refine ⟨rejected, merged, ?_⟩
  rw [rejected]
  simp only [TruthfulCall, valid]
  rw [truthful_error_iff]
  exact fun unmerged => unmerged ⟨"/main", answered "", issued⟩

end Praxis.Planner
