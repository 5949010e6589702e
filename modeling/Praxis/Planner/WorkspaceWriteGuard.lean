import Praxis.Foundations.Actions
import Praxis.Planner.SnapshotLaws

/-!
# The workspace write guard

A step may write the shared workspace under a guard. It compares the workspace with the baseline,
runs the step, compares what has changed with what the result reports, has two verifiers look at it
and compares again. The run and the verifiers are arbitrary actions on a world that holds the
workspace.

The guard answers that the step succeeded only if it did. The other way round there are two
exceptions, both of order: a digest is taken of the list in the order of `localeCompare`, which may
not be the same for the same files, and reported changes in that order are compared with real ones
in the order of code units (`guard_reports_iff`, `capital_first`).
-/

namespace Praxis.Planner

set_option autoImplicit false

open Praxis.Foundations
open Praxis.Session (SessionStepProjectionV3)

/-! ## Data -/

inductive SubagentStatusV1 where
  | succeeded
  | failed
  | cancelled
deriving DecidableEq

structure SubagentChangedFileV1 (Digest : Type) where
  path : String
  change : WorkspaceChangeKindV1
  digest : Option Digest := none
deriving DecidableEq

/-- A validated result, as far as the guard reads it. -/
structure SubagentResultV1 (Digest : Type) where
  status : SubagentStatusV1
  changedFiles : List (SubagentChangedFileV1 Digest)
deriving DecidableEq

inductive VerifierKind where
  | mechanical
  | rule
  | model
deriving DecidableEq

inductive VerificationStatus where
  | passed
  | failed
  | blocked
deriving DecidableEq

structure VerificationDecisionV1 where
  verifier : VerifierKind
  status : VerificationStatus
  evidenceRefs : List String := []
  code : String
  retryable : Bool := false
deriving DecidableEq

inductive GuardStatus where
  | succeeded
  | blocked
  | cancelled
deriving DecidableEq

structure WorkspaceWriteGuardResultV1 (Digest : Type) where
  status : GuardStatus
  code : String
  evidence : WorkspaceWriteEvidenceV1 Digest
  verifications : List VerificationDecisionV1 := []
  result : Option (SubagentResultV1 Digest) := none

/-- A guard: its bounds, what `validateSubagentResultV1` makes of a reply, and the file system at the
root. -/
structure WriteGuard (Digest Reply : Type) where
  rules : DigestRules Digest
  limits : SnapshotLimits
  bounded : limits.maxFiles ≤ maximumFiles ∧ limits.maxBytes ≤ maximumBytes
  validateSubagentResultV1 : Reply → Option (SubagentResultV1 Digest)
  view : RootView

/-- What the guard calls, on a world that holds the workspace. A verifier's answer that is malformed
counts as a rejection. -/
structure GuardPorts (σ Reply : Type) where
  workspace : σ → Workspace
  /-- A directory or file that a snapshot cannot read. -/
  unreadable : σ → Option GuardError
  aborted : σ → Bool
  /-- `acquireWorkspaceLock`: waits for the writers before. -/
  acquireWorkspaceLock : Action GuardError σ Unit
  run : Action GuardError σ Reply
  mechanicalVerifier : Action GuardError σ VerificationDecisionV1
  ruleVerifier : Action GuardError σ VerificationDecisionV1

section Execute

variable {Digest Reply σ : Type} [DecidableEq Digest] (guard : WriteGuard Digest Reply)
  (ports : GuardPorts σ Reply) (step : SessionStepProjectionV3)

/-! ## Parts -/

def takeSnapshot (root : String) : Action GuardError σ (WorkspaceSnapshotV1 Digest) := fun state =>
  match ports.unreadable state with
  | some error => (.error error, state)
  | none => (captureSnapshot guard.rules root guard.limits (ports.workspace state), state)

def failedVerifier (kind : VerifierKind) (code : String) : VerificationDecisionV1 where
  verifier := kind
  status := .blocked
  code := code

def decisionOf (kind : VerifierKind) (code : String) (answer : Option VerificationDecisionV1) :
    VerificationDecisionV1 :=
  match answer with
  | none => failedVerifier kind code
  | some decision => if decision.verifier = kind then decision else failedVerifier kind code

def verifySafely {ε : Type} (kind : VerifierKind) (code : String)
    (verifier : Action ε σ VerificationDecisionV1) : Action ε σ VerificationDecisionV1 := do
  let answer ← Action.attempt verifier
  return decisionOf kind code answer

omit [DecidableEq Digest] in
def outcome (status : GuardStatus) (code : String) (writeEvidence : WorkspaceWriteEvidenceV1 Digest)
    (verifications : List VerificationDecisionV1) (result : Option (SubagentResultV1 Digest)) :
    WorkspaceWriteGuardResultV1 Digest where
  status := status
  code := code
  evidence := writeEvidence
  verifications := verifications
  result := result

def changesWithinGrant (changes : List (WorkspaceChangedFileV1 Digest)) : Bool :=
  changes.all fun change =>
    isPortablePlanPathV1 change.path &&
      step.access.paths.any fun grant => isPlanPathWithinGrantV1 change.path grant

/-- A change as it is compared with a reported one. -/
def WorkspaceChangedFileV1.triple (change : WorkspaceChangedFileV1 Digest) :
    String × WorkspaceChangeKindV1 × Option Digest := (change.path, change.change, change.afterDigest)

def SubagentChangedFileV1.triple (change : SubagentChangedFileV1 Digest) :
    String × WorkspaceChangeKindV1 × Option Digest := (change.path, change.change, change.digest)

def matchesReportedChanges (rules : DigestRules Digest) (actual : List (WorkspaceChangedFileV1 Digest))
    (reported : List (SubagentChangedFileV1 Digest)) : Bool :=
  decide (reported.map (·.path)).Nodup &&
    actual.map (·.triple) == (sortByPath rules (·.path) reported).map (·.triple)

/-! ## The guarded run -/

def verified (root : String) (before after : WorkspaceSnapshotV1 Digest)
    (result : SubagentResultV1 Digest) :
    Action GuardError σ (WorkspaceWriteGuardResultV1 Digest) := do
  let mechanical ← verifySafely .mechanical "WORKSPACE_VERIFIER_FAILED" ports.mechanicalVerifier
  let rule ← verifySafely .rule "WORKSPACE_VERIFIER_FAILED" ports.ruleVerifier
  let verifiedSnapshot ← takeSnapshot guard ports root
  return if verifiedSnapshot.digest ≠ after.digest then
      outcome .blocked "WORKSPACE_CONCURRENT_MODIFICATION" (evidence before verifiedSnapshot)
        [mechanical, rule] (some result)
    else if mechanical.status ≠ .passed ∨ rule.status ≠ .passed then
      outcome .blocked "WORKSPACE_VERIFICATION_FAILED" (evidence before after) [mechanical, rule]
        (some result)
    else
      outcome .succeeded "WORKSPACE_WRITE_VERIFIED" (evidence before after) [mechanical, rule]
        (some result)

/-- From a valid result on. -/
def judged (root : String) (before after : WorkspaceSnapshotV1 Digest)
    (result : SubagentResultV1 Digest) :
    Action GuardError σ (WorkspaceWriteGuardResultV1 Digest) := do
  let mutationEvidence := evidence before after
  let aborted ← Action.reading ports.aborted
  if aborted then
    if mutationEvidence.changedFiles.isEmpty then
      return outcome .cancelled "WORKSPACE_WRITE_CANCELLED" mutationEvidence [] (some result)
    else
      return outcome .blocked "WORKSPACE_CANCELLED_AFTER_MUTATION" mutationEvidence [] (some result)
  else if !changesWithinGrant step mutationEvidence.changedFiles then
    return outcome .blocked "WORKSPACE_SCOPE_VIOLATION" mutationEvidence [] (some result)
  else if !matchesReportedChanges guard.rules mutationEvidence.changedFiles result.changedFiles then
    return outcome .blocked "WORKSPACE_CONCURRENT_MODIFICATION" mutationEvidence [] (some result)
  else if result.status ≠ .succeeded then
    return outcome .blocked "WORKSPACE_MUTATION_UNVERIFIED" mutationEvidence [] (some result)
  else verified guard ports root before after result

/-- What becomes of the reply of a run. -/
def replied (root : String) (before after : WorkspaceSnapshotV1 Digest) (reply : Option Reply) :
    Action GuardError σ (WorkspaceWriteGuardResultV1 Digest) :=
  match reply with
  | none => return outcome .blocked "WORKSPACE_EXECUTOR_FAILED" (evidence before after) [] none
  | some rawResult =>
    match guard.validateSubagentResultV1 rawResult with
    | none => return outcome .blocked "WORKSPACE_RESULT_INVALID" (evidence before after) [] none
    | some result => judged guard ports step root before after result

/-- What happens under the lease. -/
def leased (root : String) (baseline : WorkspaceSnapshotV1 Digest) :
    Action GuardError σ (WorkspaceWriteGuardResultV1 Digest) := do
  let aborted ← Action.reading ports.aborted
  if aborted then
    return outcome .cancelled "WORKSPACE_WRITE_CANCELLED" (emptyEvidence baseline) [] none
  else do
    let before ← takeSnapshot guard ports root
    if before.digest ≠ baseline.digest then
      return outcome .blocked "WORKSPACE_BASELINE_CHANGED" (evidence baseline before) [] none
    else do
      let reply ← Action.attempt ports.run
      let after ← takeSnapshot guard ports root
      replied guard ports step root before after reply

def execute (workspaceRoot : String) (baseline : WorkspaceSnapshotV1 Digest) :
    Action GuardError σ (WorkspaceWriteGuardResultV1 Digest) := do
  let root ← Action.check (validateRoot guard.view workspaceRoot)
  Action.check (validateWriteStep step)
  let baseline ← Action.check (validateSnapshot guard.rules baseline root)
  let aborted ← Action.reading ports.aborted
  if aborted then
    return outcome .cancelled "WORKSPACE_WRITE_CANCELLED" (emptyEvidence baseline) [] none
  else do
    let _ ← Action.check (validateRoot guard.view root)
    ports.acquireWorkspaceLock
    leased guard ports step root baseline

/-- `capture`: the snapshot that a later run is compared with. -/
def capture (workspaceRoot : String) (workspace : Workspace) :
    Except GuardError (WorkspaceSnapshotV1 Digest) := do
  let root ← validateRoot guard.view workspaceRoot
  validateWriteStep step
  captureSnapshot guard.rules root guard.limits workspace

end Execute

end Praxis.Planner
