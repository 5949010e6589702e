import Praxis.Foundations.SharedStore
import Praxis.Review.PlanControl

/-!
# Calls of plan control

A call of `PlanControlServiceV1` waits for the journal at every step, and calls of several instances
take their steps in any order. `CallPhase` is what a call waits for, `CallEvent` what that comes to:
an answer, a failure, or a commit that was accepted and whose acknowledgement was lost.

The journal is its list of commits. Other clients append commits of their own, without review events.
-/

namespace Praxis.Review

set_option autoImplicit false

open Praxis.Foundations
open Praxis.Session (SessionProjectionV3 SessionRules SessionEntryV3 SessionEntryDataV3 SessionCommitV3
  CreateSessionCommitInputV3 SessionError createSessionCommitV3 validateSessionEntryV3
  validateSessionCommitV3 reduceSessionEntriesV3 appendToLog flattenEntries)

variable {Check Other View : Type}

/-! ## Queries -/

abbrev PlanSessionEntry (Check Other : Type) := SessionEntryV3 (PlanEntryData Check Other)

abbrev PlanSessionCommit (Check Other : Type) := SessionCommitV3 (PlanEntryData Check Other)

def reviewEvent? (entry : PlanSessionEntry Check Other) : Option (ReviewPlanEventV1 Check) :=
  match entry.data with
  | .other (.review event) => some event
  | _ => none

def originMatches (query : ReviewPlanMutationQuery) (origin : ReviewPlanMutationOriginV1) : Bool :=
  decide (queryOrigin origin = query)

def matchingEntry (query : ReviewPlanMutationQuery) (entry : PlanSessionEntry Check Other) :
    Option (PlanSessionEntry Check Other × ReviewPlanEventV1 Check) :=
  ((reviewEvent? entry).filter fun event => originMatches query event.origin).map fun event =>
    (entry, event)

structure ReviewPlanMutationValue (Check Other : Type) where
  origin : ReviewPlanMutationOriginV1
  mutationDigest : String
  throughSequence : Int
  events : List (PlanSessionEntry Check Other)
  revision : Int
  projection : ReviewPlanProjectionV1 Check

structure PlanMutationReceiptV1 (Check : Type) where
  origin : ReviewPlanMutationOriginV1
  planId : String
  planRevision : Int
  journalRevision : Int
  eventIds : List String
  projection : ReviewPlanProjectionV1 Check

/-- An error of the session as the journal throws it. -/
def sessionError {α : Type} : Except SessionError α → Except PlanControlError α
  | .ok value => .ok value
  | .error error => .error (.session error)

@[simp] theorem sessionError_eq_ok {α : Type} {result : Except SessionError α} {value : α} :
    sessionError result = .ok value ↔ result = .ok value := by
  cases result <;> simp [sessionError]

section Journal

variable (rules : SessionRules (PlanEntryData Check Other) View) (view : PlanView Check View)

def queryReviewPlanMutation (entries : List (PlanSessionEntry Check Other))
    (query : ReviewPlanMutationQuery) :
    Except PlanControlError (ReviewPlanMutationValue Check Other) := do
  ensure (!entries.isEmpty) (.session .sessionNotFound)
  match entries.filterMap (matchingEntry query) with
  | [] => .error .queryNotFound
  | first :: rest => do
      ensure (rest.all fun found => found.1.revision == first.1.revision &&
        found.2.mutationDigest == first.2.mutationDigest && found.2.origin == first.2.origin)
        .queryConflict
      let throughSequence := (rest.getLastD first).1.sequence
      let projection ← sessionError (reduceSessionEntriesV3 rules
        (entries.filter fun entry => decide (entry.sequence ≤ throughSequence)))
      let plan ← orError .queryNotFound (view.reviewPlan projection.view)
      return {
        origin := first.2.origin
        mutationDigest := first.2.mutationDigest
        throughSequence
        events := (first :: rest).map (·.1)
        revision := first.1.revision
        projection := plan }

def receiptOf (value : ReviewPlanMutationValue Check Other) : PlanMutationReceiptV1 Check where
  origin := value.origin
  planId := value.projection.planId
  planRevision := value.projection.revision
  journalRevision := value.revision
  eventIds := value.events.map (·.entryId)
  projection := value.projection

def findReplay (log : List (PlanSessionCommit Check Other)) (origin : ReviewPlanMutationOriginV1)
    (mutationDigest : String) : Except PlanControlError (Option (PlanMutationReceiptV1 Check)) :=
  match queryReviewPlanMutation rules view (flattenEntries log) (queryOrigin origin) with
  | .ok value =>
    if value.mutationDigest = mutationDigest then .ok (some (receiptOf value))
    else .error (originConflict origin)
  | .error .queryNotFound => .ok none
  | .error .queryConflict => .error (originConflict origin)
  | .error error => .error error

def loadProjection (log : List (PlanSessionCommit Check Other)) :
    Except PlanControlError (SessionProjectionV3 (PlanEntryData Check Other) View) :=
  sessionError (reduceSessionEntriesV3 rules (flattenEntries log))

/-! ## The commit of a mutation -/

variable (digests : PlanDigests Check) (sessionId : String)

def commitIdOf (origin : ReviewPlanMutationOriginV1) : String :=
  digests.stableId "rpcommit" [sessionId, origin.kind, originKey origin]

def entryOf (origin : ReviewPlanMutationOriginV1)
    (projection : SessionProjectionV3 (PlanEntryData Check Other) View) (timestamp : Timestamp)
    (draft : EventDraft Check Other) (index : Nat) : PlanSessionEntry Check Other where
  entryId := digests.stableId "rpevent" [sessionId, origin.kind, originKey origin, toString index]
  sessionId := sessionId
  sequence := projection.snapshot.sequence + 1 + index
  revision := projection.snapshot.revision + 1
  timestamp := timestamp
  runId := draft.runId
  data := .other draft.data

def commitOf (origin : ReviewPlanMutationOriginV1)
    (projection : SessionProjectionV3 (PlanEntryData Check Other) View) (timestamp : Timestamp)
    (drafts : List (EventDraft Check Other)) :
    Except PlanControlError (PlanSessionCommit Check Other) := do
  let entries ← (drafts.zipIdx.map fun draft =>
    entryOf digests sessionId origin projection timestamp draft.1 draft.2).mapM fun entry =>
      sessionError (validateSessionEntryV3 rules entry)
  sessionError (createSessionCommitV3 rules
    { sessionId
      commitId := commitIdOf digests sessionId origin
      expectedRevision := projection.snapshot.revision
      idempotencyKey := digests.stableId "rpidem" [sessionId, origin.kind, originKey origin]
      entries })

def monotonicTimestamp (previous candidate : Timestamp) : Option Timestamp :=
  if previous.textLe candidate then some candidate else previous.after? 1

end Journal

/-! ## Calls -/

def maxCasRetries : Nat := 4

/-- What the commit of a call was prepared with. -/
structure PreparedMutation (Check : Type) where
  materialized : Option (PlanCreateInputV1 Check) := none
  taskContract : Option ReviewPlanTaskContractV1 := none

/-- What a call waits for. -/
inductive CallPhase (Check Other : Type) where
  /-- The replay that `create` looks for first. -/
  | checking
  /-- The projection that has the task contract of a `create`. -/
  | contracting
  | materializing (taskContract : Option ReviewPlanTaskContractV1)
  | replaying (prepared : PreparedMutation Check)
  /-- The projection that has the time of the last commit. -/
  | timing (prepared : PreparedMutation Check)
  | loading (prepared : PreparedMutation Check) (timestamp : Timestamp) (attempt : Nat)
  | appending (prepared : PreparedMutation Check) (timestamp : Timestamp) (attempt : Nat)
      (commit : PlanSessionCommit Check Other)
  /-- The replay after the commit, or after it failed. -/
  | confirming (prepared : PreparedMutation Check) (timestamp : Timestamp) (attempt : Nat)
      (failure : Option PlanControlError)
  | resolved (receipt : PlanMutationReceiptV1 Check)
  | rejected (error : PlanControlError)

structure PlanCall (Check Other : Type) where
  request : PlanControlRequest Check
  phase : CallPhase Check Other

inductive CallEvent (Check : Type) where
  /-- The journal or the materializer answers, at a time. -/
  | answers (now : Timestamp) (materialized : PlanCreateInputV1 Check)
  /-- What the call waits for fails, and nothing is appended. -/
  | fails (error : PlanControlError)
  /-- The commit reaches the journal, and its acknowledgement is lost. -/
  | lost (error : PlanControlError)

section Calls

variable (rules : SessionRules (PlanEntryData Check Other) View) (view : PlanView Check View)
variable (digests : PlanDigests Check) (sessionId : String)

def PlanCall.begin (request : PlanControlRequest Check) : PlanCall Check Other where
  request := request
  phase :=
    match assertRequest digests sessionId request, request with
    | .error error, _ => .rejected error
    | .ok _, .create _ _ => .checking
    | .ok _, .update _ _ _ _ => .materializing none
    | .ok _, _ => .replaying {}

/-- The digest of a call's payload. -/
def PlanCall.digest (call : PlanCall Check Other) : String :=
  digests.payloadDigest (mutationPayload digests sessionId call.request)

def PlanCall.origin (call : PlanCall Check Other) : ReviewPlanMutationOriginV1 :=
  requestOrigin digests call.request

/-- What a replay that was looked for before the commit comes to. -/
def afterReplay (log : List (PlanSessionCommit Check Other)) (call : PlanCall Check Other)
    (next : CallPhase Check Other) : CallPhase Check Other :=
  match findReplay rules view log (call.origin digests) (call.digest digests sessionId) with
  | .error error => .rejected error
  | .ok (some receipt) => .resolved receipt
  | .ok none => next

/-- The projection of an attempt, and the commit that is built on it. -/
def attemptCommit (log : List (PlanSessionCommit Check Other)) (call : PlanCall Check Other)
    (prepared : PreparedMutation Check) (timestamp now : Timestamp) :
    Except PlanControlError (PlanSessionCommit Check Other) := do
  let projection ← loadProjection rules log
  let drafts ← buildDrafts digests view sessionId
    { projection
      materialized := prepared.materialized
      taskContract := prepared.taskContract
      now } call.request
  planEnsure (!drafts.isEmpty) "PLAN_MUTATION_EMPTY"
  commitOf rules digests sessionId (call.origin digests) projection timestamp drafts

/-- The replay after a commit that was acknowledged. -/
def confirm (log : List (PlanSessionCommit Check Other)) (call : PlanCall Check Other)
    (prepared : PreparedMutation Check) (timestamp : Timestamp) (attempt : Nat) :
    CallPhase Check Other :=
  match findReplay rules view log (call.origin digests) (call.digest digests sessionId) with
  | .ok (some receipt) => .resolved receipt
  | .ok none => .confirming prepared timestamp attempt (some (.plan "PLAN_MUTATION_REPLAY_MISSING"))
  | .error error => .confirming prepared timestamp attempt (some error)

def recoverCall (log : List (PlanSessionCommit Check Other)) (call : PlanCall Check Other)
    (prepared : PreparedMutation Check) (timestamp : Timestamp) (attempt : Nat)
    (failure : PlanControlError) : CallPhase Check Other :=
  afterReplay rules view digests sessionId log call
    (if failure = .session .sessionCommitRevisionConflict ∧ attempt + 1 < maxCasRetries then
      .loading prepared timestamp (attempt + 1)
    else .rejected failure)

/-- The next phase where no commit is appended. -/
def PlanCall.answered (log : List (PlanSessionCommit Check Other)) (call : PlanCall Check Other)
    (now : Timestamp) (materialized : PlanCreateInputV1 Check) : CallPhase Check Other :=
  match call.phase with
  | .checking => afterReplay rules view digests sessionId log call .contracting
  | .contracting =>
    match call.request, loadProjection rules log with
    | .create invocation _, .ok projection =>
      match taskContractFor digests projection invocation.runId with
      | .ok taskContract => .materializing (some taskContract)
      | .error error => .rejected error
    | _, .error error => .rejected error
    | _, .ok _ => .rejected .failed
  | .materializing taskContract =>
    .replaying
      { materialized := some materialized
        taskContract }
  | .replaying prepared =>
    afterReplay rules view digests sessionId log call (.timing prepared)
  | .timing prepared =>
    match loadProjection rules log with
    | .ok projection =>
      match monotonicTimestamp projection.snapshot.updatedAt now with
      | some timestamp => .loading prepared timestamp 0
      | none => .rejected .failed
    | .error error => .rejected error
  | .loading prepared timestamp attempt =>
    match attemptCommit rules view digests sessionId log call prepared timestamp now with
    | .ok commit => .appending prepared timestamp attempt commit
    | .error error => .rejected error
  | .confirming prepared timestamp attempt none =>
    confirm rules view digests sessionId log call prepared timestamp attempt
  | .confirming prepared timestamp attempt (some failure) =>
    recoverCall rules view digests sessionId log call prepared timestamp attempt failure
  | phase => phase

def CallPhase.failed (error : PlanControlError) : CallPhase Check Other → CallPhase Check Other
  | .appending prepared timestamp attempt _ => .confirming prepared timestamp attempt (some error)
  | .confirming prepared timestamp attempt none =>
    .confirming prepared timestamp attempt (some error)
  | .resolved receipt => .resolved receipt
  | .rejected earlier => .rejected earlier
  | _ => .rejected error

/-- The journal after a commit reached it, and what the journal answers. -/
def appended (log : List (PlanSessionCommit Check Other)) (commit : PlanSessionCommit Check Other) :
    List (PlanSessionCommit Check Other) × Option PlanControlError :=
  match appendToLog rules log commit with
  | .ok (_, next) => (next, none)
  | .error error => (log, some (.session error))

def stepCall (log : List (PlanSessionCommit Check Other)) (call : PlanCall Check Other) :
    CallEvent Check → List (PlanSessionCommit Check Other) × PlanCall Check Other
  | .fails error => (log, { call with phase := call.phase.failed error })
  | .lost error =>
    match call.phase with
    | .appending prepared timestamp attempt commit =>
      ((appended rules log commit).1,
        { call with phase := .confirming prepared timestamp attempt (some error) })
    | phase => (log, { call with phase := phase.failed error })
  | .answers now materialized =>
    match call.phase with
    | .appending prepared timestamp attempt commit =>
      let next := appended rules log commit
      (next.1, { call with phase := .confirming prepared timestamp attempt next.2 })
    | _ =>
      let next := call.answered rules view digests sessionId log now materialized
      (log, { call with phase := next })

/-- Another client appends a commit. -/
def foreignCommit (log : List (PlanSessionCommit Check Other))
    (commit : PlanSessionCommit Check Other) : List (PlanSessionCommit Check Other) :=
  match validateSessionCommitV3 rules commit with
  | .ok valid => if valid.sessionId = sessionId then (appended rules log valid).1 else log
  | .error _ => log

/-- The journal and the calls after these events, from a session that does not exist. -/
def runCalls (events : List (SharedEvent (PlanCall Check Other) (CallEvent Check)
    (PlanSessionCommit Check Other))) :
    Shared (List (PlanSessionCommit Check Other)) (PlanCall Check Other) :=
  Shared.run (stepCall rules view digests sessionId) (foreignCommit rules sessionId) ⟨[], []⟩ events

end Calls

end Praxis.Review
