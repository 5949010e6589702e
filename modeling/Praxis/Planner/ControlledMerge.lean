import Praxis.Planner.IsolationManager

/-!
# The controlled merge

The commit of an isolated worker is checked against its artifact, the main workspace is fast-forwarded
to it, and the verifiers run again. The merge command is the one step that is not undone: before it a
failure rejects or blocks, after it the answer comes with what is needed to recover.
-/

namespace Praxis.Planner

set_option autoImplicit false

open Praxis.Foundations
open Praxis.Session (SessionStepProjectionV3)

/-! ## Data -/

structure WorkspacePatchV1 (Digest : Type) where
  bytes : Nat
  digest : Digest
  content : String
deriving DecidableEq

structure WorkspaceMergeArtifactV1 (Digest Result : Type) where
  baseCommit : String
  commit : String
  patch : WorkspacePatchV1 Digest
  result : Result
deriving DecidableEq

structure WorkspaceMergeEvidenceV1 (Digest : Type) where
  baseCommit : String
  commit : String
  patchDigest : Digest
  patchBytes : Nat
  changedFiles : List (SubagentChangedFileV1 Digest)
deriving DecidableEq

structure WorkspaceMergeRecoveryV1 where
  mainWorkspace : String
  worktreePath : String
  baseCommit : String
  commit : String
  instructions : List String
deriving DecidableEq

structure ControlledWorkspaceMergeResultV1 (Digest : Type) where
  status : GuardStatus
  code : String
  evidence : WorkspaceMergeEvidenceV1 Digest
  verifications : List VerificationDecisionV1
  recovery : Option WorkspaceMergeRecoveryV1 := none
  cleanup : Option WorkspaceCleanupResultV1 := none
deriving DecidableEq

/-- A controller: the manager of the worktrees, what `validateSubagentResultV1` makes of a reply, the
lease of a root, and the verifiers. A verifier's answer that is malformed counts as a rejection. -/
structure ControlledWorkspaceMergeV1 (σ Digest Reply : Type) where
  manager : WorkspaceIsolationManagerV1 Digest
  validateSubagentResultV1 : Reply → Option (SubagentResultV1 Digest)
  acquireWorkspaceWriteLease : String → Action MergeError σ Unit
  mechanicalVerifier : Action MergeError σ VerificationDecisionV1
  ruleVerifier : Action MergeError σ VerificationDecisionV1
  semanticVerifier : Option (Action MergeError σ VerificationDecisionV1)

/-- The state of the main workspace as it is observed. -/
structure MainState where
  head : String
  branch : String
  changes : Nat

def maxPatchBytes : Nat := 64 * 1024

/-! ## Parts -/

section Parts

variable {σ Digest Reply : Type} [DecidableEq Digest] (rules : DigestRules Digest) (ports : HostPorts σ)

omit [DecidableEq Digest] in
def mergeEvidence (artifact : WorkspaceMergeArtifactV1 Digest (SubagentResultV1 Digest)) :
    WorkspaceMergeEvidenceV1 Digest where
  baseCommit := artifact.baseCommit
  commit := artifact.commit
  patchDigest := artifact.patch.digest
  patchBytes := artifact.patch.bytes
  changedFiles := artifact.result.changedFiles

omit [DecidableEq Digest] in
def recoveryFor (isolation : WorkspaceIsolationV1 Digest)
    (artifact : WorkspaceMergeArtifactV1 Digest (SubagentResultV1 Digest)) :
    WorkspaceMergeRecoveryV1 where
  mainWorkspace := isolation.repoRoot
  worktreePath := isolation.targetPath
  baseCommit := artifact.baseCommit
  commit := artifact.commit
  instructions :=
    ["Inspect the main workspace and retained worktree before making further changes.",
      "If rollback is required, create a reviewed revert commit; Praxis will not reset the main workspace."]

def validateArtifact (validate : Reply → Option (SubagentResultV1 Digest))
    (input : WorkspaceMergeArtifactV1 Digest Reply) :
    Except MergeError (WorkspaceMergeArtifactV1 Digest (SubagentResultV1 Digest)) := do
  ensure (isCommit input.baseCommit && isCommit input.commit &&
      decide (1 ≤ input.patch.bytes ∧ input.patch.bytes ≤ maxPatchBytes) &&
      input.patch.content.utf8ByteSize == input.patch.bytes &&
      rules.digest (utf8 input.patch.content) == input.patch.digest)
    { code := "WORKSPACE_MERGE_ARTIFACT_INVALID" }
  let result ← orError { code := "SUBAGENT_RESULT_INVALID" } (validate input.result)
  return { baseCommit := input.baseCommit
           commit := input.commit
           patch := input.patch
           result }

def validateMergeStep (step : SessionStepProjectionV3) : Except MergeError Unit :=
  ensure (step.access.mode == .workspaceWrite && !step.access.paths.isEmpty &&
    step.access.paths.all isPortablePlanPathV1 && step.conflictKeys.contains "workspace")
    { code := "WORKSPACE_MERGE_AUTHORITY_INVALID" }

/-- `stdout.split('\0').filter(Boolean)`. -/
def nulRecords (input : String) : List String :=
  ((input.toList.splitOn '\x00').filter (!·.isEmpty)).map String.ofList

def headCommand : List String := ["rev-parse", "HEAD"]

def branchCommand : List String := ["symbolic-ref", "--quiet", "HEAD"]

def statusCommand : List String := ["status", "--porcelain=v1", "-z", "--untracked-files=all"]

/-- A branch that the controller knows how to name. -/
def isBranch (value : String) : Bool :=
  let name := (value.toList.drop 11)
  startsWith value "refs/heads/" && decide (1 ≤ name.length ∧ name.length ≤ 240) &&
    name.all fun c => isAsciiAlphanumeric c || "._/-".toList.contains c

/-- What the answers say of the main workspace. -/
def mainStateOf (head branch status : GitCommandResultV1) : Option MainState :=
  if head.exitCode != 0 || branch.exitCode != 0 || status.exitCode != 0 ||
      !isCommit (trim head.stdout) || !isBranch (trim branch.stdout) then none
  else some
    { head := trim head.stdout
      branch := trim branch.stdout
      changes := (nulRecords status.stdout).length }

def inspectMain (repoRoot : String) : MergeAction σ (Option MainState) := do
  let head ← runGit ports repoRoot headCommand
  let branch ← runGit ports repoRoot branchCommand
  let status ← runGit ports repoRoot statusCommand
  return mainStateOf head branch status

def nameStatusPairs : List String → Option (List (String × WorkspaceChangeKindV1))
  | [] => some []
  | [_] => none
  | status :: path :: rest => do
      let change ← match status with
        | "A" => some .created
        | "M" => some .modified
        | "D" => some .deleted
        | _ => none
      if isPortablePlanPathV1 path then
        let others ← nameStatusPairs rest
        some ((path, change) :: others)
      else none

def parseNameStatus (input : String) : Option (List (String × WorkspaceChangeKindV1)) :=
  (nameStatusPairs (nulRecords input)).filter fun changes => decide (changes.map (·.1)).Nodup

def pathNames (path : String) : List (List Char) :=
  ((resolvePath path).toList.splitOn '/').filter (!·.isEmpty)

def isWithin (root target : String) : Bool :=
  (pathNames root).isPrefixOf (pathNames target) && pathNames root != pathNames target

omit [DecidableEq Digest] in
def materializeChange (root : String) (change : String × WorkspaceChangeKindV1) :
    MergeAction σ (SubagentChangedFileV1 Digest) :=
  if change.2 = .deleted then
    return { path := change.1
             change := change.2 }
  else do
    let absolute := joinPath root change.1
    isolationEnsure (isWithin root absolute) "WORKSPACE_CHANGESET_INVALID"
    let metadata ← lstat ports absolute
    isolationEnsure (metadata == some .file) "WORKSPACE_CHANGESET_INVALID"
    let canonical ← Traced.lift (ports.realpath absolute)
    isolationEnsure (isWithin root canonical) "WORKSPACE_CHANGESET_INVALID"
    let content ← Traced.lift (ports.readBytes canonical)
    return { path := change.1
             change := change.2
             digest := some (rules.digest content) }

def changesMatch (actual reported : List (SubagentChangedFileV1 Digest)) : Bool :=
  decide (reported.map (·.path)).Nodup &&
    sortByPath rules (·.path) actual == sortByPath rules (·.path) reported

def wordsOf (text : String) : List String :=
  let words := ((text.toList.splitOnP isWhiteSpace).filter (!·.isEmpty)).map String.ofList
  if words.isEmpty then [""] else words

end Parts

/-! ## Before the merge -/

section Preflight

variable {σ Digest Reply : Type} [DecidableEq Digest] (rules : DigestRules Digest) (ports : HostPorts σ)
  (step : SessionStepProjectionV3) (isolation : WorkspaceIsolationV1 Digest)
  (artifact : WorkspaceMergeArtifactV1 Digest (SubagentResultV1 Digest))

def preflightPassed : String := "WORKSPACE_MERGE_PREFLIGHT_PASSED"

def parentsCommand : List String := ["rev-list", "--parents", "-n", "1", artifact.commit]

def patchCommand : List String :=
  ["diff", "--binary", "--full-index", "--no-ext-diff", "--no-renames", artifact.baseCommit,
    artifact.commit, "--"]

def namesCommand : List String :=
  ["diff", "--name-status", "-z", "--no-renames", artifact.baseCommit, artifact.commit, "--"]

/-- From the changed files on. -/
def preflightChanges (changedPaths : List (String × WorkspaceChangeKindV1)) :
    MergeAction σ (String × WorkspaceMergeEvidenceV1 Digest) := do
  let actualChanges ← changedPaths.mapM (materializeChange rules ports isolation.targetPath)
  let evidence := { mergeEvidence artifact with changedFiles := actualChanges }
  if !(actualChanges.all fun change =>
      step.access.paths.any fun grant => isPlanPathWithinGrantV1 change.path grant) then
    return ("WORKSPACE_MERGE_SCOPE_VIOLATION", evidence)
  else if !changesMatch rules actualChanges artifact.result.changedFiles then
    return ("WORKSPACE_RESULT_CHANGESET_MISMATCH", evidence)
  else do
    let finalHead ← runGit ports isolation.targetPath headCommand
    let finalStatus ← runGit ports isolation.targetPath WorkspaceIsolationManagerV1.ignoredStatus
    return if finalHead.exitCode != 0 || trim finalHead.stdout != artifact.commit ||
        finalStatus.exitCode != 0 || !finalStatus.stdout.isEmpty then
      ("WORKSPACE_WORKTREE_CHANGED_DURING_PREFLIGHT", evidence)
    else (preflightPassed, evidence)

def preflight : MergeAction σ (String × WorkspaceMergeEvidenceV1 Digest) := do
  let head ← runGit ports isolation.targetPath headCommand
  let parents ← runGit ports isolation.targetPath (parentsCommand artifact)
  let status ← runGit ports isolation.targetPath WorkspaceIsolationManagerV1.ignoredStatus
  let patch ← runGit ports isolation.targetPath (patchCommand artifact)
  let names ← runGit ports isolation.targetPath (namesCommand artifact)
  if [head, parents, status, patch, names].any (·.exitCode != 0) then
    return ("WORKSPACE_COMMIT_INSPECTION_FAILED", mergeEvidence artifact)
  else if trim head.stdout != artifact.commit || !status.stdout.isEmpty then
    return ("WORKSPACE_WORKTREE_DIRTY", mergeEvidence artifact)
  else if wordsOf (trim parents.stdout) != [artifact.commit, artifact.baseCommit] then
    return ("WORKSPACE_COMMIT_SHAPE_INVALID", mergeEvidence artifact)
  else if patch.stdout.utf8ByteSize != artifact.patch.bytes || patch.stdout != artifact.patch.content ||
      rules.digest (utf8 patch.stdout) != artifact.patch.digest then
    return ("WORKSPACE_PATCH_MISMATCH", mergeEvidence artifact)
  else
    match (parseNameStatus names.stdout).filter (!·.isEmpty) with
    | none => return ("WORKSPACE_CHANGESET_INVALID", mergeEvidence artifact)
    | some changedPaths => preflightChanges rules ports step isolation artifact changedPaths

end Preflight

/-! ## The merge -/

section Execute

variable {σ Digest Reply : Type} [DecidableEq Digest]
  (controller : ControlledWorkspaceMergeV1 σ Digest Reply) (ports : HostPorts σ)
  (step : SessionStepProjectionV3) (isolation : WorkspaceIsolationV1 Digest)
  (artifact : WorkspaceMergeArtifactV1 Digest (SubagentResultV1 Digest))

/-- The one command that changes the main workspace. -/
def mergeCommand : List String :=
  ["-c", "core.hooksPath=/dev/null", "merge", "--ff-only", "--no-edit", artifact.commit]

/-- A verifier of the controller, whose decision is seen. -/
def verifyMerged (kind : VerifierKind) (verifier : Action MergeError σ VerificationDecisionV1) :
    MergeAction σ VerificationDecisionV1 :=
  Traced.emit .verified fun state =>
    (decisionOf kind "WORKSPACE_POST_MERGE_VERIFIER_FAILED" (verifier state).1.toOption,
      (verifier state).2)

def semanticVerifierRequired : VerificationDecisionV1 where
  verifier := .model
  status := .blocked
  code := "WORKSPACE_POST_MERGE_SEMANTIC_VERIFIER_REQUIRED"

def verifications : MergeAction σ (List VerificationDecisionV1) := do
  let mechanical ← verifyMerged .mechanical controller.mechanicalVerifier
  let rule ← verifyMerged .rule controller.ruleVerifier
  if mechanical.status = .passed ∧ rule.status = .passed ∧
      (step.criteria.any fun criterion => criterion.kind == .semantic) = true then
    match controller.semanticVerifier with
    | none => return [mechanical, rule, semanticVerifierRequired]
    | some verifier => do
        let semantic ← verifyMerged .model verifier
        return [mechanical, rule, semantic]
  else return [mechanical, rule]

/-- What is known when the worktree is to be cleaned up. -/
structure MergeReady (Digest : Type) where
  evidence : WorkspaceMergeEvidenceV1 Digest
  verifications : List VerificationDecisionV1

/-- An answer, or what is known when the worktree is to be cleaned up. -/
abbrev MergeProgress (Digest : Type) := ControlledWorkspaceMergeResultV1 Digest ⊕ MergeReady Digest

/-- An answer that the merge is blocked or cancelled. -/
def stopMerge (status : GuardStatus) (code : String) (evidence : WorkspaceMergeEvidenceV1 Digest)
    (verifications : List VerificationDecisionV1) (recovery : Option WorkspaceMergeRecoveryV1) :
    MergeAction σ (MergeProgress Digest) :=
  return .inl
    { status
      code
      evidence
      verifications
      recovery }

def readyMerge (evidence : WorkspaceMergeEvidenceV1 Digest)
    (verifications : List VerificationDecisionV1) : MergeAction σ (MergeProgress Digest) :=
  return .inr
    { evidence
      verifications }

/-- The main workspace is where the merge has put it. -/
def mergedAsExpected (mainState : MainState) (state : Option MainState) : Bool :=
  state.any fun state =>
    state.head == artifact.commit && state.branch == mainState.branch && state.changes == 0

/-- From the merge command on. -/
def mergeAndVerify (mainState : MainState) (evidence : WorkspaceMergeEvidenceV1 Digest) :
    MergeAction σ (MergeProgress Digest) := do
  let recovery := recoveryFor isolation artifact
  let merge ← runGit ports isolation.repoRoot (mergeCommand artifact)
  let mergedState ← inspectMain ports isolation.repoRoot
  if !mergedAsExpected artifact mainState mergedState then
    stopMerge .blocked (if (mergedState.any fun state => state.head == isolation.baseCommit) &&
        merge.exitCode != 0 then "WORKSPACE_MERGE_CONFLICT" else "WORKSPACE_MERGE_INDETERMINATE")
      evidence [] (some recovery)
  else if merge.exitCode != 0 then
    stopMerge .blocked "WORKSPACE_MERGE_INDETERMINATE" evidence [] (some recovery)
  else do
    let aborted ← Action.reading fun state => ports.aborted state.world
    if aborted then
      stopMerge .blocked "WORKSPACE_CANCELLED_AFTER_MERGE" evidence [] (some recovery)
    else do
      let decisions ← verifications controller step
      let verifiedState ← inspectMain ports isolation.repoRoot
      if !mergedAsExpected artifact mainState verifiedState then
        stopMerge .blocked "WORKSPACE_POST_MERGE_STATE_CHANGED" evidence decisions (some recovery)
      else if decisions.any (·.status != .passed) then
        stopMerge .blocked "WORKSPACE_POST_MERGE_VERIFICATION_FAILED" evidence decisions (some recovery)
      else readyMerge evidence decisions

/-- From a passed preflight on. -/
def inspectAndMerge (evidence : WorkspaceMergeEvidenceV1 Digest) :
    MergeAction σ (MergeProgress Digest) := do
  let recovery := recoveryFor isolation artifact
  let aborted ← Action.reading fun state => ports.aborted state.world
  if aborted then
    stopMerge .cancelled "WORKSPACE_MERGE_CANCELLED" evidence [] (some recovery)
  else do
    let inspected ← inspectMain ports isolation.repoRoot
    match inspected with
    | none => stopMerge .blocked "WORKSPACE_MAIN_INSPECTION_FAILED" evidence [] (some recovery)
    | some mainState =>
      if mainState.head != isolation.baseCommit then
        stopMerge .blocked "WORKSPACE_BASE_STALE" evidence [] (some recovery)
      else if 0 < mainState.changes then
        stopMerge .blocked "WORKSPACE_MAIN_DIRTY" evidence [] (some recovery)
      else mergeAndVerify controller ports step isolation artifact mainState evidence

/-- `acquireLeases`: the roots in the order of `localeCompare`, each once. -/
def leaseRoots : List String :=
  sortByPath controller.manager.rules id
    [resolvePath isolation.repoRoot, resolvePath isolation.targetPath].dedup

/-- From a validated isolation on. -/
def leasedMerge : MergeAction σ (MergeProgress Digest) := do
  (leaseRoots controller isolation).forM fun root =>
    Traced.lift (controller.acquireWorkspaceWriteLease root)
  let _ ← controller.manager.validate ports isolation
  let (code, evidence) ← preflight controller.manager.rules ports step isolation artifact
  if code != preflightPassed then
    stopMerge .blocked code evidence [] (some (recoveryFor isolation artifact))
  else inspectAndMerge controller ports step isolation artifact evidence

/-- What happens until the worktree is to be cleaned up. -/
def untilCleanup : MergeAction σ (MergeProgress Digest) := do
  let aborted ← Action.reading fun state => ports.aborted state.world
  if aborted then
    stopMerge .cancelled "WORKSPACE_MERGE_CANCELLED" (mergeEvidence artifact) [] none
  else do
    let _ ← controller.manager.validate ports isolation
    let recovery := recoveryFor isolation artifact
    if artifact.result.status != .succeeded then
      stopMerge .blocked "WORKSPACE_WORKER_RESULT_UNVERIFIED" (mergeEvidence artifact) [] (some recovery)
    else if artifact.baseCommit != isolation.baseCommit || artifact.commit == artifact.baseCommit ||
        isolation.repoRoot == isolation.targetPath then
      stopMerge .blocked "WORKSPACE_MERGE_BINDING_INVALID" (mergeEvidence artifact) [] (some recovery)
    else leasedMerge controller ports step isolation artifact

/-- The cleanup of the worktree decides the answer of a merge that was verified. -/
def cleanUp (ready : MergeReady Digest) : MergeAction σ (ControlledWorkspaceMergeResultV1 Digest) := do
  let cleanup ← controller.manager.finalizeMerged ports isolation artifact.commit
  return { status := .succeeded
           code := if cleanup.status = .retained then "WORKSPACE_MERGED_WORKTREE_RETAINED"
             else "WORKSPACE_MERGED_AND_VERIFIED"
           evidence := ready.evidence
           verifications := ready.verifications
           recovery := if cleanup.status = .retained then some (recoveryFor isolation artifact) else none
           cleanup := some cleanup }

/-- From a valid artifact on. -/
def executeArtifact : MergeAction σ (ControlledWorkspaceMergeResultV1 Digest) := do
  match ← untilCleanup controller ports step isolation artifact with
  | .inl answer => return answer
  | .inr ready => cleanUp controller ports isolation artifact ready

def executeMerge (input : WorkspaceMergeArtifactV1 Digest Reply) :
    MergeAction σ (ControlledWorkspaceMergeResultV1 Digest) := do
  Action.check (validateMergeStep step)
  let artifact ← Action.check
    (validateArtifact controller.manager.rules controller.validateSubagentResultV1 input)
  executeArtifact controller ports step isolation artifact

end Execute

end Praxis.Planner
