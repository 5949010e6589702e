import Praxis.Foundations.Traces
import Praxis.Planner.WorkspaceWriteGuard

/-!
# The isolation manager

The manager owns detached worktrees below one directory, each with a marker of its ownership. This
module has its checks of a worktree and the cleanup after a merge. What Git and the file system
answer is arbitrary; the Git commands and their answers are seen in the trace, and so are the
verifiers' decisions.
-/

namespace Praxis.Planner

set_option autoImplicit false

open Praxis.Foundations

/-! ## Data -/

structure GitCommand where
  cwd : String
  args : List String
deriving DecidableEq

structure GitCommandResultV1 where
  exitCode : Int
  stdout : String
  stderr : String := ""
deriving DecidableEq

/-- What is seen of a merge. -/
inductive MergeEvent where
  | git (command : GitCommand) (result : GitCommandResultV1)
  | verified (decision : VerificationDecisionV1)
deriving DecidableEq

structure MergeError where
  code : String
  recoveryPath : Option String := none
deriving DecidableEq

/-- An isolated worktree. Its copy policy excludes ignored files and secrets. -/
structure WorkspaceIsolationV1 (Digest : Type) where
  managerId : String
  slug : String
  repoRoot : String
  targetPath : String
  baseCommit : String
  markerDigest : Digest

structure OwnershipMarkerV1 where
  managerId : String
  slug : String
  repoRoot : String
  ownedRoot : String
  targetPath : String
  baseCommit : String

structure WorkspaceCleanupEvidenceV1 where
  trackedChanges : Nat
  untrackedFiles : Nat
  ignoredFiles : Nat
  newCommits : Bool
  headCommit : Option String := none
deriving DecidableEq

inductive CleanupStatus where
  | removed
  | retained
deriving DecidableEq

structure WorkspaceCleanupResultV1 where
  status : CleanupStatus
  code : String
  recoveryPath : Option String := none
  evidence : WorkspaceCleanupEvidenceV1
deriving DecidableEq

inductive FileKind where
  | file
  | directory
  | link
  | other
deriving DecidableEq

/-- What Git and the file system answer, on a world that they may change. `lstat` answers nothing if
it rejects, and a marker comes with its size. -/
structure HostPorts (σ : Type) where
  git : GitCommand → σ → GitCommandResultV1 × σ
  aborted : σ → Bool
  mkdir : String → Action MergeError σ Unit
  lstat : String → σ → Option FileKind × σ
  size : String → σ → Nat × σ
  realpath : String → Action MergeError σ String
  readText : String → Action MergeError σ String
  readBytes : String → Action MergeError σ Bytes
  unlink : String → Action MergeError σ Unit

/-- The manager: its owned root and id, the digests of the markers it has created, `JSON.parse`, and
SHA-256. -/
structure WorkspaceIsolationManagerV1 (Digest : Type) where
  ownedRootInput : String
  managerId : String
  created : String → Option Digest
  parseJson : String → Option Json
  rules : DigestRules Digest

abbrev MergeAction (σ α : Type) := Action MergeError (Traced σ MergeEvent) α

section Parts

variable {σ : Type} (ports : HostPorts σ)

/-- A Git command whose answer is seen. -/
def runGit (cwd : String) (args : List String) : MergeAction σ GitCommandResultV1 :=
  Traced.emit (.git ⟨cwd, args⟩) (ports.git ⟨cwd, args⟩)

def isolationEnsure (test : Bool) (code : String) (recoveryPath : Option String := none) :
    MergeAction σ Unit :=
  Action.check (ensure test
    { code
      recoveryPath })

/-- `lstat(path).catch(() => undefined)`. -/
def lstat (path : String) : MergeAction σ (Option FileKind) :=
  Traced.lift fun state => (.ok (ports.lstat path state).1, (ports.lstat path state).2)

/-! ## Names and paths -/

/-- `isCommit`: 40 or 64 hexadecimal digits. -/
def isCommit (value : String) : Bool :=
  ((chars value).all fun c => ('0' ≤ c && c ≤ '9') || ('a' ≤ c && c ≤ 'f')) &&
    ((chars value).length == 40 || (chars value).length == 64)

def normalizedCommit (input : String) : Option String :=
  if isCommit (trim input) then some (trim input) else none

def isSafeSlug (input : String) : Bool :=
  let edge := fun c : Char => ('a' ≤ c && c ≤ 'z') || ('0' ≤ c && c ≤ '9')
  let found := chars input
  decide (1 ≤ found.length ∧ found.length ≤ 48) && found.head?.any edge && found.getLast?.any edge &&
    (found.all fun c => edge c || c == '-') && !decide (['-', '-'] <:+: found)

def isSafeIdentifier (input : String) : Bool :=
  let first := fun c : Char => isAsciiAlphanumeric c
  matchesName first (fun c => first c || (chars "._-").contains c) 64 (chars input)

def isAbsolute (path : String) : Bool := startsWith path "/"

def joinPath (root name : String) : String := resolvePath (root ++ "/" ++ name)

def markerDirectory : String := ".praxis-worktrees"

def markerPathFor (ownedRoot slug : String) : String :=
  joinPath (joinPath ownedRoot markerDirectory) (slug ++ ".json")

/-! ## Checks of the manager -/

def validateDirectoryRoot (input code : String) : MergeAction σ String := do
  isolationEnsure (isAbsolute input) code
  let absolute := resolvePath input
  let metadata ← lstat ports absolute
  isolationEnsure (metadata == some .directory) code
  let canonical ← Traced.lift (ports.realpath absolute)
  isolationEnsure (resolvePath canonical == absolute) code
  return canonical

/-- The top level that Git reports for a directory, as a real path. -/
def reportedTopLevel (cwd code : String) (recoveryPath : Option String) :
    MergeAction σ (Option String) := do
  let result ← runGit ports cwd ["rev-parse", "--show-toplevel"]
  isolationEnsure (result.exitCode == 0 && isAbsolute (trim result.stdout)) code recoveryPath
  Action.attempt (Traced.lift (ports.realpath (resolvePath (trim result.stdout))))

def assertGitRepoRoot (repoRoot : String) : MergeAction σ Unit := do
  let canonical ← reportedTopLevel ports repoRoot "WORKTREE_REPO_ROOT_INVALID" none
  isolationEnsure (canonical.any fun path => resolvePath path == repoRoot) "WORKTREE_REPO_ROOT_INVALID"

def validateManagedWorktree (targetPath : String) : MergeAction σ Unit := do
  let reported ← reportedTopLevel ports targetPath "WORKTREE_TARGET_INVALID" (some targetPath)
  isolationEnsure (reported.any fun path => resolvePath path == targetPath) "WORKTREE_TARGET_INVALID"
    (some targetPath)

def validateManagedTarget (targetPath ownedRoot slug : String) : MergeAction σ Unit := do
  isolationEnsure (isAbsolute targetPath && resolvePath targetPath == joinPath ownedRoot slug)
    "WORKTREE_TARGET_INVALID"
  isolationEnsure (resolvePath targetPath == targetPath) "WORKTREE_TARGET_INVALID" (some targetPath)
  let canonical ← validateDirectoryRoot ports targetPath "WORKTREE_TARGET_INVALID"
  isolationEnsure (canonical == targetPath) "WORKTREE_TARGET_INVALID" (some targetPath)

def readBoundedMarker (path : String) : MergeAction σ String := do
  let metadata ← lstat ports path
  isolationEnsure (metadata == some .file) "WORKTREE_OWNERSHIP_MISMATCH"
  let size ← Traced.lift fun state => (.ok (ports.size path state).1, (ports.size path state).2)
  isolationEnsure (decide (size ≤ 8_192)) "WORKTREE_OWNERSHIP_MISMATCH"
  Traced.lift (ports.readText path)

/-- A text under a key of an object. -/
def textField (fields : List (String × Json)) (name : String) : Option String :=
  match fields.find? (·.1 == name) with
  | some (_, .str value) => some value
  | _ => none

/-- What `parseMarker` makes of a parsed value. -/
def parseMarker : Json → Option OwnershipMarkerV1
  | .obj fields => do
      let managerId ← textField fields "managerId"
      let slug ← textField fields "slug"
      let repoRoot ← textField fields "repoRoot"
      let ownedRoot ← textField fields "ownedRoot"
      let targetPath ← textField fields "targetPath"
      let baseCommit ← textField fields "baseCommit"
      let policy ← match fields.find? (·.1 == "copyPolicy") with
        | some (_, .obj policy) => some policy
        | _ => none
      if fields.length == 8 && fields.contains ("schemaVersion", .num 1) && isSafeIdentifier managerId &&
          isSafeSlug slug && policy.length == 2 && textField policy "ignored" == some "exclude" &&
          textField policy "secrets" == some "exclude" then
        some
          { managerId
            slug
            repoRoot
            ownedRoot
            targetPath
            baseCommit }
      else none
  | _ => none

end Parts

namespace WorkspaceIsolationManagerV1

variable {σ Digest : Type} [DecidableEq Digest] (manager : WorkspaceIsolationManagerV1 Digest)
  (ports : HostPorts σ) (isolation : WorkspaceIsolationV1 Digest)

def prepareOwnedRoot : MergeAction σ String := do
  Traced.lift (ports.mkdir manager.ownedRootInput)
  let ownedRoot ← validateDirectoryRoot ports manager.ownedRootInput "WORKTREE_OWNED_ROOT_INVALID"
  let directory := joinPath ownedRoot markerDirectory
  Traced.lift (ports.mkdir directory)
  let _ ← validateDirectoryRoot ports directory "WORKTREE_MARKER_ROOT_INVALID"
  return ownedRoot

omit [DecidableEq Digest] in
def validIsolation (ownedRoot : String) : Bool :=
  isolation.managerId == manager.managerId && isSafeSlug isolation.slug &&
    isAbsolute isolation.repoRoot && isAbsolute isolation.targetPath &&
    resolvePath isolation.targetPath == joinPath ownedRoot isolation.slug && isCommit isolation.baseCommit

omit [DecidableEq Digest] in
def markerMatchesIsolation (marker : OwnershipMarkerV1) (ownedRoot : String) : Bool :=
  marker.managerId == isolation.managerId && marker.slug == isolation.slug &&
    marker.repoRoot == isolation.repoRoot && marker.ownedRoot == ownedRoot &&
    marker.targetPath == isolation.targetPath && marker.baseCommit == isolation.baseCommit

/-- The marker of the worktree is the one that the manager wrote, and names it. -/
def validateMarker (ownedRoot : String) : MergeAction σ Unit := do
  let markerText ← readBoundedMarker ports (markerPathFor ownedRoot isolation.slug)
  isolationEnsure (manager.rules.digest (utf8 markerText) == isolation.markerDigest)
    "WORKTREE_OWNERSHIP_MISMATCH" (some isolation.targetPath)
  let marker ← Action.check (orError { code := "WORKTREE_OWNERSHIP_MISMATCH" }
    ((manager.parseJson markerText).bind parseMarker))
  isolationEnsure (markerMatchesIsolation isolation marker ownedRoot) "WORKTREE_OWNERSHIP_MISMATCH"
    (some isolation.targetPath)

/-- `#validateOwnedIsolation`: the worktree is the manager's own. -/
def validateOwnedIsolation : MergeAction σ (String × String) := do
  let ownedRoot ← manager.prepareOwnedRoot ports
  isolationEnsure (manager.validIsolation isolation ownedRoot) "WORKTREE_ISOLATION_INVALID"
  isolationEnsure (manager.created isolation.targetPath == some isolation.markerDigest)
    "WORKTREE_NOT_MANAGER_CREATED" (some isolation.targetPath)
  let aborted ← Action.reading fun state => ports.aborted state.world
  isolationEnsure (!aborted) "WORKTREE_OPERATION_CANCELLED" (some isolation.targetPath)
  validateManagedTarget ports isolation.targetPath ownedRoot isolation.slug
  manager.validateMarker ports isolation ownedRoot
  let repoRoot ← validateDirectoryRoot ports isolation.repoRoot "WORKTREE_REPO_ROOT_INVALID"
  assertGitRepoRoot ports repoRoot
  validateManagedWorktree ports isolation.targetPath
  return (ownedRoot, repoRoot)

def validate : MergeAction σ (WorkspaceIsolationV1 Digest) := do
  let _ ← manager.validateOwnedIsolation ports isolation
  return isolation

/-! ## Cleanup -/

def parsePorcelain (input : String) : Nat × Nat × Nat :=
  let records := (input.toList.splitOn '\x00').filter (!·.isEmpty)
  let untracked := records.filter (·.take 2 == ['?', '?'])
  let ignored := records.filter (·.take 2 == ['!', '!'])
  (records.length - untracked.length - ignored.length, untracked.length, ignored.length)

def ignoredStatus : List String :=
  ["status", "--porcelain=v1", "-z", "--untracked-files=all", "--ignored=matching"]

omit [DecidableEq Digest] in
def inspectWorktree : MergeAction σ (Option WorkspaceCleanupEvidenceV1) := do
  let status ← runGit ports isolation.targetPath ignoredStatus
  let head ← runGit ports isolation.targetPath ["rev-parse", "HEAD"]
  return if status.exitCode != 0 || head.exitCode != 0 then none
    else (normalizedCommit head.stdout).map fun headCommit =>
      let changes := parsePorcelain status.stdout
      { trackedChanges := changes.1
        untrackedFiles := changes.2.1
        ignoredFiles := changes.2.2
        newCommits := headCommit != isolation.baseCommit
        headCommit := some headCommit }

def retained (code recoveryPath : String) (evidence : WorkspaceCleanupEvidenceV1) :
    WorkspaceCleanupResultV1 where
  status := .retained
  code := code
  recoveryPath := some recoveryPath
  evidence := evidence

def emptyCleanupEvidence : WorkspaceCleanupEvidenceV1 where
  trackedChanges := 0
  untrackedFiles := 0
  ignoredFiles := 0
  newCommits := false

omit [DecidableEq Digest] in
def removeValidated (ownedRoot repoRoot : String) (evidence : WorkspaceCleanupEvidenceV1) :
    MergeAction σ WorkspaceCleanupResultV1 := do
  let remove ← runGit ports repoRoot
    ["-c", "core.hooksPath=/dev/null", "worktree", "remove", isolation.targetPath]
  if remove.exitCode != 0 then
    return retained "WORKTREE_CLEANUP_FAILED" isolation.targetPath evidence
  else do
    let targetAfter ← lstat ports isolation.targetPath
    if targetAfter.isSome then
      return retained "WORKTREE_CLEANUP_FAILED" isolation.targetPath evidence
    else do
      let markerRemoved ←
        Action.attempt (Traced.lift (ports.unlink (markerPathFor ownedRoot isolation.slug)))
      return { status := .removed
               code := if markerRemoved.isSome then "WORKTREE_REMOVED"
                 else "WORKTREE_REMOVED_MARKER_RETAINED"
               evidence }

def cleanAt (mergedCommit : String) (inspection : WorkspaceCleanupEvidenceV1) : Bool :=
  inspection.headCommit == some mergedCommit && inspection.trackedChanges == 0 &&
    inspection.untrackedFiles == 0 && inspection.ignoredFiles == 0

omit [DecidableEq Digest] in
def finalizeInspected (ownedRoot repoRoot mergedCommit : String) :
    MergeAction σ WorkspaceCleanupResultV1 := do
  let inspection ← inspectWorktree ports isolation
  if !inspection.any (cleanAt mergedCommit) then
    return retained "WORKTREE_POST_MERGE_RECOVERY_REQUIRED" isolation.targetPath
      (inspection.getD emptyCleanupEvidence)
  else do
    let mainHead ← runGit ports repoRoot ["rev-parse", "HEAD"]
    if normalizedCommit mainHead.stdout != some mergedCommit then
      return retained "WORKTREE_POST_MERGE_RECOVERY_REQUIRED" isolation.targetPath
        (inspection.getD emptyCleanupEvidence)
    else removeValidated ports isolation ownedRoot repoRoot (inspection.getD emptyCleanupEvidence)

def finalizeMerged (mergedCommit : String) : MergeAction σ WorkspaceCleanupResultV1 := do
  isolationEnsure (isCommit mergedCommit) "WORKTREE_BASE_COMMIT_INVALID"
  let (ownedRoot, repoRoot) ← manager.validateOwnedIsolation ports isolation
  finalizeInspected ports isolation ownedRoot repoRoot mergedCommit

end WorkspaceIsolationManagerV1

end Praxis.Planner
