import Praxis.Planner.ControlledMerge
import Praxis.Planner.GuardReports

/-!
# What a merge observes

The events of a merge say what Git answered about the commit and about the main workspace. What an
answer of the controller promises is read off them (`Truthful`); the manager leaves no event, and the
preflight passes exactly what it has seen (`preflight_passed`).
-/

namespace Praxis.Planner

set_option autoImplicit false

open Praxis.Foundations
open Praxis.Session (SessionStepProjectionV3)
open Praxis.Foundations.Action (Triple)

/-! ## What is seen of a workspace -/

def MergeEvent.answerIn (root : String) (args : List String) : MergeEvent → Option GitCommandResultV1
  | .git command result =>
    if resolvePath command.cwd = resolvePath root ∧ command.args = args ∧ result.exitCode = 0 then
      some result
    else none
  | .verified _ => none

/-- The successful answers to a command in a directory. -/
def answersIn (root : String) (args : List String) (trace : List MergeEvent) : List GitCommandResultV1 :=
  trace.filterMap (MergeEvent.answerIn root args)

theorem answersIn_append (root : String) (args : List String) (trace more : List MergeEvent) :
    answersIn root args (trace ++ more) = answersIn root args trace ++ answersIn root args more :=
  List.filterMap_append

theorem answersIn_eq_nil {root : String} {args : List String} {trace : List MergeEvent}
    (others : ∀ event ∈ trace, event.answerIn root args = none) : answersIn root args trace = [] :=
  List.filterMap_eq_nil_iff.mpr others

/-- The merge command is among the events, in whatever directory it ran. -/
def MergeIssued {Digest : Type} (artifact : WorkspaceMergeArtifactV1 Digest (SubagentResultV1 Digest))
    (trace : List MergeEvent) : Prop :=
  ∃ cwd result, MergeEvent.git ⟨cwd, mergeCommand artifact⟩ result ∈ trace

section Promises

variable {Digest : Type} (step : SessionStepProjectionV3) (isolation : WorkspaceIsolationV1 Digest)
  (artifact : WorkspaceMergeArtifactV1 Digest (SubagentResultV1 Digest))

/-- What Git last answered about the main workspace. -/
structure ObservedMerged (trace : List MergeEvent) : Prop where
  head : (answersIn isolation.repoRoot headCommand trace).getLast?.map (trim ·.stdout) =
    some artifact.commit
  branch : ∃ first last, (answersIn isolation.repoRoot branchCommand trace).head? = some first ∧
    (answersIn isolation.repoRoot branchCommand trace).getLast? = some last ∧
    trim last.stdout = trim first.stdout
  clean : (answersIn isolation.repoRoot statusCommand trace).getLast?.map (nulRecords ·.stdout) =
    some []

/-- What Git answered about the commit of the artifact. -/
structure ObservedCommit (evidence : WorkspaceMergeEvidenceV1 Digest) (trace : List MergeEvent) :
    Prop where
  base : artifact.baseCommit = isolation.baseCommit
  parents : ∃ answer ∈ answersIn isolation.targetPath (parentsCommand artifact) trace,
    wordsOf (trim answer.stdout) = [artifact.commit, artifact.baseCommit]
  patch : ∃ answer ∈ answersIn isolation.targetPath (patchCommand artifact) trace,
    answer.stdout = artifact.patch.content
  names : ∃ answer ∈ answersIn isolation.targetPath (namesCommand artifact) trace,
    parseNameStatus answer.stdout =
      some (evidence.changedFiles.map fun change => (change.path, change.change))
  files : evidence.changedFiles.Perm artifact.result.changedFiles

/-- The verifiers that a step asks for. -/
def requiredVerifiers : List VerifierKind :=
  if (step.criteria.any fun criterion => criterion.kind == .semantic) = true then
    [.mechanical, .rule, .model]
  else [.mechanical, .rule]

/-- Every verifier passed, after the merge command. -/
structure VerifiedAfter (verifications : List VerificationDecisionV1) (trace : List MergeEvent) :
    Prop where
  required : verifications.map (·.verifier) = requiredVerifiers step
  passed : ∀ decision ∈ verifications, decision.status = .passed
  later : ∃ before cwd result after,
    trace = before ++ MergeEvent.git ⟨cwd, mergeCommand artifact⟩ result :: after ∧
    ∀ decision ∈ verifications, MergeEvent.verified decision ∈ after

/-- Everything that an answer of success says. -/
structure SucceededTruly (evidence : WorkspaceMergeEvidenceV1 Digest)
    (verifications : List VerificationDecisionV1) (trace : List MergeEvent) : Prop where
  main : ObservedMerged isolation artifact trace
  commit : ObservedCommit isolation artifact evidence trace
  verified : VerifiedAfter step artifact verifications trace

/-- The end of a call is what the trace says. -/
structure MergeTruthful (ended : Except MergeError (ControlledWorkspaceMergeResultV1 Digest))
    (trace : List MergeEvent) : Prop where
  succeeded : ∀ answer, ended = .ok answer → answer.status = .succeeded →
    SucceededTruly step isolation artifact answer.evidence answer.verifications trace
  cancelled : ∀ answer, ended = .ok answer → answer.status = .cancelled →
    ¬MergeIssued artifact trace
  resolves : MergeIssued artifact trace → ∃ answer, ended = .ok answer
  recovers : ∀ answer, ended = .ok answer → MergeIssued artifact trace → answer.status = .blocked →
    answer.recovery = some (recoveryFor isolation artifact)

end Promises

/-! ## Commands of the parts -/

section Kinds

variable {σ Digest Reply : Type}
  (artifact : WorkspaceMergeArtifactV1 Digest (SubagentResultV1 Digest))

/-- A command that neither merges nor asks for the branch or for the status of the main workspace. -/
def QuietArgs (args : List String) : Prop :=
  args ≠ branchCommand ∧ args ≠ statusCommand ∧ args ≠ mergeCommand artifact

def QuietEvent : MergeEvent → Prop
  | .git command _ => QuietArgs artifact command.args
  | .verified _ => True

def HarmlessEvent : MergeEvent → Prop
  | .git command _ => command.args ≠ mergeCommand artifact
  | .verified _ => True

variable {artifact}

variable {event : MergeEvent} {args : List String} {ports : HostPorts σ} {cwd : String}

theorem QuietEvent.harmless (quiet : QuietEvent artifact event) : HarmlessEvent artifact event := by
  cases event with
  | git command result => exact quiet.2.2
  | verified decision => trivial

theorem not_issued {trace : List MergeEvent} (harmless : ∀ event ∈ trace, HarmlessEvent artifact event) :
    ¬MergeIssued artifact trace := by
  rintro ⟨cwd, result, member⟩
  exact harmless _ member rfl

theorem QuietEvent.no_branch (quiet : QuietEvent artifact event) (root : String) :
    event.answerIn root branchCommand = none := by
  cases event with
  | git command result => exact if_neg fun asked => quiet.1 asked.2.1
  | verified decision => rfl

theorem QuietEvent.no_status (quiet : QuietEvent artifact event) (root : String) :
    event.answerIn root statusCommand = none := by
  cases event with
  | git command result => exact if_neg fun asked => quiet.2.1 asked.2.1
  | verified decision => rfl

theorem quietArgs_head : QuietArgs artifact headCommand :=
  ⟨by decide, by decide, by simp [headCommand, mergeCommand]⟩

theorem quietArgs_topLevel : QuietArgs artifact ["rev-parse", "--show-toplevel"] :=
  ⟨by decide, by decide, by simp [mergeCommand]⟩

theorem quietArgs_ignored : QuietArgs artifact WorkspaceIsolationManagerV1.ignoredStatus :=
  ⟨by decide, by decide, by simp [WorkspaceIsolationManagerV1.ignoredStatus, mergeCommand]⟩

theorem quietArgs_remove (target : String) :
    QuietArgs artifact ["-c", "core.hooksPath=/dev/null", "worktree", "remove", target] :=
  ⟨by simp [branchCommand], by simp [statusCommand], by simp [mergeCommand]⟩

theorem quietArgs_parents : QuietArgs artifact (parentsCommand artifact) :=
  ⟨by simp [parentsCommand, branchCommand], by simp [parentsCommand, statusCommand],
    by simp [parentsCommand, mergeCommand]⟩

theorem quietArgs_patch : QuietArgs artifact (patchCommand artifact) :=
  ⟨by simp [patchCommand, branchCommand], by simp [patchCommand, statusCommand],
    by simp [patchCommand, mergeCommand]⟩

theorem quietArgs_names : QuietArgs artifact (namesCommand artifact) :=
  ⟨by simp [namesCommand, branchCommand], by simp [namesCommand, statusCommand],
    by simp [namesCommand, mergeCommand]⟩

theorem runGit_appends {P : MergeEvent → Prop}
    (kind : ∀ result, P (.git ⟨cwd, args⟩ result)) : Traced.Appends P (runGit ports cwd args) :=
  Traced.Appends.emit kind

theorem runGit_quiet (quiet : QuietArgs artifact args) :
    Traced.Appends (QuietEvent artifact) (runGit ports cwd args) :=
  runGit_appends fun _ => quiet

end Kinds

/-! ## The manager is quiet -/

section Quiet

open Traced.Appends

variable {σ Digest Reply : Type} {ports : HostPorts σ}
  {artifact : WorkspaceMergeArtifactV1 Digest (SubagentResultV1 Digest)}

theorem isolationEnsure_quiet (test : Bool) (code : String) (recoveryPath : Option String) :
    Traced.Appends (QuietEvent artifact)
      (isolationEnsure test code recoveryPath : MergeAction σ Unit) :=
  Traced.Appends.check _

theorem lstat_quiet (path : String) :
    Traced.Appends (QuietEvent artifact) (Planner.lstat ports path) :=
  Traced.Appends.lift _

theorem validateDirectoryRoot_quiet (input code : String) :
    Traced.Appends (QuietEvent artifact) (validateDirectoryRoot ports input code) := by
  refine (isolationEnsure_quiet _ _ _).bind fun _ => ?_
  refine (lstat_quiet _).bind fun metadata => ?_
  refine (isolationEnsure_quiet _ _ _).bind fun _ => ?_
  refine (Traced.Appends.lift _).bind fun canonical => ?_
  exact (isolationEnsure_quiet _ _ _).bind fun _ => Traced.Appends.pure canonical

theorem reportedTopLevel_quiet (cwd code : String) (recoveryPath : Option String) :
    Traced.Appends (QuietEvent artifact) (reportedTopLevel ports cwd code recoveryPath) := by
  refine (runGit_quiet quietArgs_topLevel).bind fun result => ?_
  refine (isolationEnsure_quiet _ _ _).bind fun _ => ?_
  exact (Traced.Appends.lift _).attempt

theorem validateManagedTarget_quiet (targetPath ownedRoot slug : String) :
    Traced.Appends (QuietEvent artifact) (validateManagedTarget ports targetPath ownedRoot slug) := by
  refine (isolationEnsure_quiet _ _ _).bind fun _ => ?_
  refine (isolationEnsure_quiet _ _ _).bind fun _ => ?_
  refine (validateDirectoryRoot_quiet _ _).bind fun canonical => ?_
  exact isolationEnsure_quiet _ _ _

theorem readBoundedMarker_quiet (path : String) :
    Traced.Appends (QuietEvent artifact) (readBoundedMarker ports path) := by
  refine (lstat_quiet _).bind fun metadata => ?_
  refine (isolationEnsure_quiet _ _ _).bind fun _ => ?_
  refine (Traced.Appends.lift _).bind fun size => ?_
  exact (isolationEnsure_quiet _ _ _).bind fun _ => Traced.Appends.lift _

variable [DecidableEq Digest] (manager : WorkspaceIsolationManagerV1 Digest)
  (isolation : WorkspaceIsolationV1 Digest)

omit [DecidableEq Digest] in
theorem prepareOwnedRoot_quiet : Traced.Appends (QuietEvent artifact) (manager.prepareOwnedRoot ports) := by
  refine (Traced.Appends.lift _).bind fun _ => ?_
  refine (validateDirectoryRoot_quiet _ _).bind fun ownedRoot => ?_
  refine (Traced.Appends.lift _).bind fun _ => ?_
  exact (validateDirectoryRoot_quiet _ _).bind fun _ => Traced.Appends.pure ownedRoot

theorem validateMarker_quiet (ownedRoot : String) :
    Traced.Appends (QuietEvent artifact) (manager.validateMarker ports isolation ownedRoot) := by
  refine (readBoundedMarker_quiet _).bind fun markerText => ?_
  refine (isolationEnsure_quiet _ _ _).bind fun _ => ?_
  refine (Traced.Appends.check _).bind fun marker => ?_
  exact isolationEnsure_quiet _ _ _

theorem validateOwnedIsolation_quiet :
    Traced.Appends (QuietEvent artifact) (manager.validateOwnedIsolation ports isolation) := by
  refine (prepareOwnedRoot_quiet manager).bind fun ownedRoot => ?_
  refine (isolationEnsure_quiet _ _ _).bind fun _ => ?_
  refine (isolationEnsure_quiet _ _ _).bind fun _ => ?_
  refine (Traced.Appends.reading _).bind fun aborted => ?_
  refine (isolationEnsure_quiet _ _ _).bind fun _ => ?_
  refine (validateManagedTarget_quiet _ _ _).bind fun _ => ?_
  refine (validateMarker_quiet manager isolation ownedRoot).bind fun _ => ?_
  refine (validateDirectoryRoot_quiet _ _).bind fun repoRoot => ?_
  refine Traced.Appends.bind ?_ fun _ => ?_
  · refine (reportedTopLevel_quiet _ _ _).bind fun canonical => ?_
    exact isolationEnsure_quiet _ _ _
  · refine Traced.Appends.bind ?_ fun _ => Traced.Appends.pure _
    refine (reportedTopLevel_quiet _ _ _).bind fun canonical => ?_
    exact isolationEnsure_quiet _ _ _

theorem validate_quiet : Traced.Appends (QuietEvent artifact) (manager.validate ports isolation) :=
  (validateOwnedIsolation_quiet manager isolation).bind fun _ => Traced.Appends.pure _

omit [DecidableEq Digest] in
theorem inspectWorktree_quiet : Traced.Appends (QuietEvent artifact)
    (WorkspaceIsolationManagerV1.inspectWorktree ports isolation) := by
  refine (runGit_quiet quietArgs_ignored).bind fun status => ?_
  exact (runGit_quiet quietArgs_head).bind fun head => Traced.Appends.pure _

omit [DecidableEq Digest] in
theorem removeValidated_quiet (ownedRoot repoRoot : String) (evidence : WorkspaceCleanupEvidenceV1) :
    Traced.Appends (QuietEvent artifact)
      (WorkspaceIsolationManagerV1.removeValidated ports isolation ownedRoot repoRoot evidence) := by
  refine (runGit_quiet (quietArgs_remove _)).bind fun remove => ?_
  refine Traced.Appends.ite (Traced.Appends.pure _) ?_
  refine (lstat_quiet _).bind fun targetAfter => ?_
  refine Traced.Appends.ite (Traced.Appends.pure _) ?_
  exact (Traced.Appends.lift _).attempt.bind fun _ => Traced.Appends.pure _

omit [DecidableEq Digest] in
theorem finalizeInspected_quiet (ownedRoot repoRoot mergedCommit : String) :
    Traced.Appends (QuietEvent artifact) (WorkspaceIsolationManagerV1.finalizeInspected ports isolation
      ownedRoot repoRoot mergedCommit) := by
  refine (inspectWorktree_quiet isolation).bind fun inspection => ?_
  refine Traced.Appends.ite (Traced.Appends.pure _) ?_
  refine (runGit_quiet quietArgs_head).bind fun mainHead => ?_
  exact Traced.Appends.ite (Traced.Appends.pure _) (removeValidated_quiet isolation _ _ _)

theorem finalizeMerged_quiet (mergedCommit : String) : Traced.Appends (QuietEvent artifact)
    (manager.finalizeMerged ports isolation mergedCommit) := by
  refine (isolationEnsure_quiet _ _ _).bind fun _ => ?_
  refine (validateOwnedIsolation_quiet manager isolation).bind fun roots => ?_
  exact finalizeInspected_quiet isolation _ _ _

end Quiet

/-! ## The preflight -/

section Preflight

variable {σ Digest Reply : Type} [DecidableEq Digest] {rules : DigestRules Digest} {ports : HostPorts σ}
  {step : SessionStepProjectionV3} {isolation : WorkspaceIsolationV1 Digest}
  {artifact : WorkspaceMergeArtifactV1 Digest (SubagentResultV1 Digest)}

variable {args : List String} {trace : List MergeEvent} {result : GitCommandResultV1}
  {evidence : WorkspaceMergeEvidenceV1 Digest} {state after : Traced σ MergeEvent} {root : String}

theorem mem_answersIn (member : MergeEvent.git ⟨root, args⟩ result ∈ trace)
    (succeeded : result.exitCode = 0) : result ∈ answersIn root args trace :=
  List.mem_filterMap.mpr ⟨_, member, if_pos ⟨rfl, rfl, succeeded⟩⟩

omit [DecidableEq Digest] in
/-- What Git has answered about the commit stays answered. -/
theorem ObservedCommit.append (observed : ObservedCommit isolation artifact evidence trace)
    (more : List MergeEvent) : ObservedCommit isolation artifact evidence (trace ++ more) := by
  have stays : ∀ args answer, answer ∈ answersIn isolation.targetPath args trace →
      answer ∈ answersIn isolation.targetPath args (trace ++ more) := by
    intro args answer member
    rw [answersIn_append]
    exact List.mem_append_left _ member
  obtain ⟨parents, asked, parents_eq⟩ := observed.parents
  obtain ⟨patch, asked', patch_eq⟩ := observed.patch
  obtain ⟨names, asked'', names_eq⟩ := observed.names
  exact
    { base := observed.base
      parents := ⟨parents, stays _ _ asked, parents_eq⟩
      patch := ⟨patch, stays _ _ asked', patch_eq⟩
      names := ⟨names, stays _ _ asked'', names_eq⟩
      files := observed.files }

theorem runGit_seen {cwd : String} (run : runGit ports cwd args state = (.ok result, after)) :
    after.trace = state.trace ++ [.git ⟨cwd, args⟩ result] := by
  have answered : _ = result := Except.ok.inj (congrArg Prod.fst run)
  rw [← congrArg (·.2.trace) run, ← answered]
  rfl

omit [DecidableEq Digest] in
theorem materializeChange_quiet (root : String) (change : String × WorkspaceChangeKindV1) :
    Traced.Appends (QuietEvent artifact) (materializeChange rules ports root change) := by
  refine Traced.Appends.ite (Traced.Appends.pure _) ?_
  refine (isolationEnsure_quiet _ _ _).bind fun _ => ?_
  refine (lstat_quiet _).bind fun metadata => ?_
  refine (isolationEnsure_quiet _ _ _).bind fun _ => ?_
  refine (Traced.Appends.lift _).bind fun canonical => ?_
  refine (isolationEnsure_quiet _ _ _).bind fun _ => ?_
  exact (Traced.Appends.lift _).bind fun content => Traced.Appends.pure _

omit [DecidableEq Digest] in
theorem materializeChange_named {change : String × WorkspaceChangeKindV1}
    {found : SubagentChangedFileV1 Digest}
    (run : materializeChange rules ports root change state = (.ok found, after)) :
    (found.path, found.change) = change := by
  rw [materializeChange] at run
  split at run
  · obtain rfl := Except.ok.inj (congrArg Prod.fst run)
    rfl
  · obtain ⟨_, _, _, run⟩ := Action.bind_eq_ok.mp run
    obtain ⟨_, _, _, run⟩ := Action.bind_eq_ok.mp run
    obtain ⟨_, _, _, run⟩ := Action.bind_eq_ok.mp run
    obtain ⟨_, _, _, run⟩ := Action.bind_eq_ok.mp run
    obtain ⟨_, _, _, run⟩ := Action.bind_eq_ok.mp run
    obtain ⟨_, _, _, run⟩ := Action.bind_eq_ok.mp run
    obtain rfl := Except.ok.inj (congrArg Prod.fst run)
    rfl

theorem changesMatch_perm {actual reported : List (SubagentChangedFileV1 Digest)}
    (holds : changesMatch rules actual reported = true) : actual.Perm reported := by
  have same : sortByPath rules (·.path) actual = sortByPath rules (·.path) reported :=
    beq_iff_eq.mp (Bool.and_eq_true_iff.mp holds).2
  have sorted : ∀ files : List (SubagentChangedFileV1 Digest),
      (sortByPath rules (·.path) files).Perm files := fun files => List.perm_insertionSort _ files
  exact ((sorted actual).symm.trans (List.Perm.of_eq same)).trans (sorted reported)

theorem preflightChanges_quiet (changedPaths : List (String × WorkspaceChangeKindV1)) :
    Traced.Appends (QuietEvent artifact)
      (preflightChanges rules ports step isolation artifact changedPaths) := by
  refine (Traced.Appends.mapM (fun change => materializeChange_quiet _ change) _).bind fun files => ?_
  refine Traced.Appends.ite (Traced.Appends.pure _) ?_
  refine Traced.Appends.ite (Traced.Appends.pure _) ?_
  refine (runGit_quiet quietArgs_head).bind fun finalHead => ?_
  exact (runGit_quiet quietArgs_ignored).bind fun finalStatus => Traced.Appends.pure _

theorem preflight_quiet :
    Traced.Appends (QuietEvent artifact) (preflight rules ports step isolation artifact) := by
  refine (runGit_quiet quietArgs_head).bind fun head => ?_
  refine (runGit_quiet quietArgs_parents).bind fun parents => ?_
  refine (runGit_quiet quietArgs_ignored).bind fun status => ?_
  refine (runGit_quiet quietArgs_patch).bind fun patch => ?_
  refine (runGit_quiet quietArgs_names).bind fun names => ?_
  refine Traced.Appends.ite (Traced.Appends.pure _) ?_
  refine Traced.Appends.ite (Traced.Appends.pure _) ?_
  refine Traced.Appends.ite (Traced.Appends.pure _) ?_
  refine Traced.Appends.ite (Traced.Appends.pure _) ?_
  split
  · exact Traced.Appends.pure _
  · exact preflightChanges_quiet _

omit [DecidableEq Digest] in
theorem passes_test {condition : Prop} [Decidable condition] {code : String}
    (other : code ≠ preflightPassed) {stopped : WorkspaceMergeEvidenceV1 Digest}
    {next : MergeAction σ (String × WorkspaceMergeEvidenceV1 Digest)}
    (run : (if condition then return (code, stopped) else next) state =
      (.ok (preflightPassed, evidence), after)) :
    ¬condition ∧ next state = (.ok (preflightPassed, evidence), after) := by
  by_cases holds : condition
  · rw [if_pos holds] at run
    have answered : (code, stopped) = (preflightPassed, evidence) :=
      Except.ok.inj (congrArg Prod.fst run)
    exact absurd (congrArg Prod.fst answered) other
  · rw [if_neg holds] at run
    exact ⟨holds, run⟩

theorem preflightChanges_passed {changedPaths : List (String × WorkspaceChangeKindV1)}
    (run : preflightChanges rules ports step isolation artifact changedPaths state =
      (.ok (preflightPassed, evidence), after)) :
    evidence.changedFiles.map (fun change => (change.path, change.change)) = changedPaths ∧
      evidence.changedFiles.Perm artifact.result.changedFiles := by
  obtain ⟨actualChanges, middle, found, run⟩ := Action.bind_eq_ok.mp run
  have named := Action.mapM_shows (fun _ _ _ _ => materializeChange_named) found
  obtain ⟨_, run⟩ := passes_test (by decide) run
  obtain ⟨matched, run⟩ := passes_test (by decide) run
  have same := changesMatch_perm (by simpa using matched)
  obtain ⟨finalHead, _, _, run⟩ := Action.bind_eq_ok.mp run
  obtain ⟨finalStatus, _, _, run⟩ := Action.bind_eq_ok.mp run
  have answered : _ = evidence := congrArg Prod.snd (Except.ok.inj (congrArg Prod.fst run))
  have files : evidence.changedFiles = actualChanges := by
    rw [← answered]
    split <;> rfl
  rw [files]
  exact ⟨named, same⟩

theorem preflight_passed (base : artifact.baseCommit = isolation.baseCommit)
    (run : preflight rules ports step isolation artifact state =
      (.ok (preflightPassed, evidence), after)) :
    ObservedCommit isolation artifact evidence after.trace := by
  -- the five answers, each with its event
  obtain ⟨head, state₁, head_run, run⟩ := Action.bind_eq_ok.mp run
  obtain ⟨parents, state₂, parents_run, run⟩ := Action.bind_eq_ok.mp run
  obtain ⟨status, state₃, status_run, run⟩ := Action.bind_eq_ok.mp run
  obtain ⟨patch, state₄, patch_run, run⟩ := Action.bind_eq_ok.mp run
  obtain ⟨names, state₅, names_run, run⟩ := Action.bind_eq_ok.mp run
  obtain ⟨answered, run⟩ := passes_test (by decide) run
  obtain ⟨_, run⟩ := passes_test (by decide) run
  obtain ⟨parents_eq, run⟩ := passes_test (by decide) run
  obtain ⟨patch_eq, run⟩ := passes_test (by decide) run
  have trace := runGit_seen names_run
  rw [runGit_seen patch_run, runGit_seen status_run, runGit_seen parents_run,
    runGit_seen head_run] at trace
  have succeeded : head.exitCode = 0 ∧ parents.exitCode = 0 ∧ status.exitCode = 0 ∧
      patch.exitCode = 0 ∧ names.exitCode = 0 := by
    simpa using answered
  -- the paths that Git named, and what the rest of the preflight finds of them
  cases changed : (parseNameStatus names.stdout).filter (!·.isEmpty) with
  | none =>
    rw [changed] at run
    have code : "WORKSPACE_CHANGESET_INVALID" = preflightPassed :=
      congrArg Prod.fst (Except.ok.inj (congrArg Prod.fst run))
    exact absurd code (by decide)
  | some changedPaths =>
    rw [changed] at run
    obtain ⟨named, same⟩ := preflightChanges_passed run
    obtain ⟨extra, appended, _⟩ := (preflightChanges_quiet changedPaths).of_run run
    have parsed := (Option.filter_eq_some_iff.mp changed).1
    have seen : ∀ event ∈ state₅.trace, event ∈ after.trace := by
      intro event member
      rw [appended]
      exact List.mem_append_left _ member
    simp only [trace, List.mem_append, List.mem_singleton, or_imp, forall_and, forall_eq] at seen
    obtain ⟨⟨⟨⟨-, parents_seen⟩, -⟩, patch_seen⟩, names_seen⟩ := seen
    exact
      { base
        parents := ⟨parents, mem_answersIn parents_seen succeeded.2.1, by simpa using parents_eq⟩
        patch := ⟨patch, mem_answersIn patch_seen succeeded.2.2.2.1, by
          simp only [Bool.or_eq_true, bne_iff_ne, not_or, not_not] at patch_eq
          exact patch_eq.1.2⟩
        names := ⟨names, mem_answersIn names_seen succeeded.2.2.2.2, by rw [parsed, named]⟩
        files := same }

end Preflight

/-! ## The main workspace as it is observed -/

section Main

variable {σ : Type} {ports : HostPorts σ}

/-- The events of one inspection of the main workspace. -/
def mainReads (root : String) (head branch status : GitCommandResultV1) : List MergeEvent :=
  [.git ⟨root, headCommand⟩ head, .git ⟨root, branchCommand⟩ branch, .git ⟨root, statusCommand⟩ status]

theorem inspectMain_seen {root : String} {state after : Traced σ MergeEvent} {found : Option MainState}
    (run : inspectMain ports root state = (.ok found, after)) :
    ∃ head branch status, after.trace = state.trace ++ mainReads root head branch status ∧
      found = mainStateOf head branch status := by
  obtain ⟨head, state₁, head_run, run⟩ := Action.bind_eq_ok.mp run
  obtain ⟨branch, state₂, branch_run, run⟩ := Action.bind_eq_ok.mp run
  obtain ⟨status, state₃, status_run, run⟩ := Action.bind_eq_ok.mp run
  refine ⟨head, branch, status, ?_, (Except.ok.inj (congrArg Prod.fst run)).symm⟩
  rw [← congrArg (·.2.trace) run]
  change state₃.trace = _
  rw [runGit_seen status_run, runGit_seen branch_run, runGit_seen head_run]
  simp [mainReads]

variable {head branch status : GitCommandResultV1}

theorem mainStateOf_some {found : MainState}
    (inspected : mainStateOf head branch status = some found) :
    (head.exitCode = 0 ∧ branch.exitCode = 0 ∧ status.exitCode = 0) ∧
      trim head.stdout = found.head ∧ trim branch.stdout = found.branch ∧
      (nulRecords status.stdout).length = found.changes := by
  rw [mainStateOf] at inspected
  split at inspected
  · cases inspected
  · rename_i accepted
    obtain rfl := Option.some.inj inspected
    simp only [Bool.or_eq_true, bne_iff_ne, not_or, not_not] at accepted
    exact ⟨⟨accepted.1.1.1.1, accepted.1.1.1.2, accepted.1.1.2⟩, rfl, rfl, rfl⟩

theorem answersIn_mainReads (root : String)
    (succeeded : head.exitCode = 0 ∧ branch.exitCode = 0 ∧ status.exitCode = 0) :
    answersIn root headCommand (mainReads root head branch status) = [head] ∧
      answersIn root branchCommand (mainReads root head branch status) = [branch] ∧
      answersIn root statusCommand (mainReads root head branch status) = [status] := by
  obtain ⟨head_ok, branch_ok, status_ok⟩ := succeeded
  refine ⟨?_, ?_, ?_⟩ <;>
    simp [answersIn, mainReads, MergeEvent.answerIn, headCommand, branchCommand, statusCommand,
      head_ok, branch_ok, status_ok]

variable {Digest : Type} {isolation : WorkspaceIsolationV1 Digest}
  {artifact : WorkspaceMergeArtifactV1 Digest (SubagentResultV1 Digest)}

/-- The first inspection of the main workspace, after quiet events, fixes the branch; a last one that
is as expected makes everything observed as it should be. -/
theorem observedMerged {quiet between : List MergeEvent} {mainState : MainState}
    {head' branch' status' : GitCommandResultV1}
    (silent : ∀ event ∈ quiet, QuietEvent artifact event)
    (first : mainStateOf head branch status = some mainState)
    (last : mergedAsExpected artifact mainState (mainStateOf head' branch' status') = true) :
    ObservedMerged isolation artifact (quiet ++ mainReads isolation.repoRoot head branch status ++
      between ++ mainReads isolation.repoRoot head' branch' status') := by
  obtain ⟨found, inspected, expected⟩ := (Option.any_eq_true _ _).mp last
  simp only [Bool.and_eq_true, beq_iff_eq] at expected
  obtain ⟨⟨at_commit, same_branch⟩, unchanged⟩ := expected
  obtain ⟨succeeded, -, branch_eq, -⟩ := mainStateOf_some first
  obtain ⟨succeeded', head_eq', branch_eq', changes_eq'⟩ := mainStateOf_some inspected
  obtain ⟨-, reads_branch, -⟩ := answersIn_mainReads isolation.repoRoot succeeded
  obtain ⟨reads_head', reads_branch', reads_status'⟩ :=
    answersIn_mainReads isolation.repoRoot succeeded'
  have none_before : answersIn isolation.repoRoot branchCommand quiet = [] :=
    answersIn_eq_nil fun event member => (silent event member).no_branch _
  refine
    { head := ?_
      branch := ⟨branch, branch', ?_, ?_, ?_⟩
      clean := ?_ }
  · rw [answersIn_append, reads_head', List.getLast?_concat, Option.map_some, head_eq', at_commit]
  · rw [answersIn_append, answersIn_append, answersIn_append, none_before, reads_branch]
    simp
  · rw [answersIn_append, reads_branch', List.getLast?_concat]
  · rw [branch_eq', branch_eq, same_branch]
  · rw [answersIn_append, reads_status', List.getLast?_concat, Option.map_some]
    rw [unchanged] at changes_eq'
    rw [List.length_eq_zero_iff.mp changes_eq']

end Main

end Praxis.Planner
