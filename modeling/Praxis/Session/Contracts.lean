import Praxis.Foundations.Fallible
import Praxis.Foundations.Table
import Praxis.Foundations.Timestamp

/-!
# Session contracts

The data of the session journal: entries, commits, receipts, pages and projections. Numbers that
the contracts check are integers; the literal schema version of each record is left out.

The entries of a session's own life (its metadata, lifecycle, messages and runs) are typed. The
payload of an entry of another type, of a message and of a usage record is a parameter `Data`, and
what the reducer keeps about such payloads is a parameter `View`: the stores look at neither.
-/

namespace Praxis.Session

set_option autoImplicit false

open Praxis.Foundations

/-! ## Errors -/

/-- Why the session journal rejects: the code of the error. A code that a check of a payload
answers is `rule`. -/
inductive SessionError where
  | persistenceInvalidData
  | persistenceIoError
  | sessionBackendContractInvalid
  | sessionCommitChecksumInvalid
  | sessionCommitIdempotencyConflict
  | sessionCommitInvalid
  | sessionCommitRevisionConflict
  | sessionCommitSequenceConflict
  | sessionEntryInvalid
  | sessionExportChecksumInvalid
  | sessionExportInvalid
  | sessionIdInvalid
  | sessionImportTargetDiverged
  | sessionImportVerificationFailed
  | sessionJournalNotInitialized
  | sessionNotFound
  | sessionReadInvalid
  | sessionReducerFirstEntryInvalid
  | sessionReducerIdReused
  | sessionReducerRevisionInvalid
  | sessionReducerSequenceInvalid
  | sessionReducerSessionMismatch
  | sessionReducerTimestampInvalid
  | sessionReducerTransitionInvalid
  | sessionWriteConflict
  | rule (code : String)
deriving DecidableEq

/-! ## Entries -/

inductive SessionLifecycleStateV3 where
  | open_
  | closed
  | deleted
deriving DecidableEq

inductive SessionPlannerModeV3 where
  | auto
  | solo
  | workflow
  | direct
  | supervisor
deriving DecidableEq

inductive SessionPlanPolicyV3 where
  | optional
  | required
deriving DecidableEq

inductive SessionRunStateV3 where
  | running
  | completed
  | failed
  | aborted
  | interrupted
deriving DecidableEq

/-- The keys of an entry's correlation. -/
inductive SessionCorrelationKeyV3 where
  | traceId
  | parentRunId
  | childRunId
  | planId
  | stepId
  | attemptId
  | toolCallId
  | commandId
  | itemId
  | itemAttemptId
  | executionRequestId
  | reviewRequestId
  | invocationId
  | runtimeRequestId
  | controlEventId
  | resolutionRequestId
deriving DecidableEq

structure SessionForkV3 where
  parentSessionId : String
  sourceEntryId : String
deriving DecidableEq

structure SessionCreatedV3 where
  cwd : String
  provider : String
  model : String
  name : String
  labels : List String := []
  fork : Option SessionForkV3 := none
  plannerMode : Option SessionPlannerModeV3 := none
  contextLimitTokens : Option Int := none
deriving DecidableEq

/-- The data of `session.metadata_updated`. -/
structure SessionMetadataV3 where
  name : Option String := none
  labels : Option (List String) := none
  provider : Option String := none
  model : Option String := none
  activeLeafId : Option String := none
  plannerMode : Option SessionPlannerModeV3 := none
  contextLimitTokens : Option Int := none
deriving DecidableEq

inductive SessionDeletionV3 where
  | tombstone (reason : Option String)
  | purgeReceipt (receiptRef receiptDigest : String)
deriving DecidableEq

inductive SessionEntryDataV3 (Data : Type) where
  | sessionCreated (data : SessionCreatedV3)
  | sessionMetadataUpdated (data : SessionMetadataV3)
  | sessionClosed (reason : Option String)
  | sessionReopened (reason : Option String)
  | sessionForked (childSessionId sourceEntryId : String)
  | sessionDeleted (deletion : SessionDeletionV3)
  | messageCommitted (messageId : String) (message : Data)
  | runStarted (clientRequestId : String) (planPolicy : Option SessionPlanPolicyV3)
  | runTerminal (status : SessionRunStateV3) (usage : Data) (errorCode : Option String)
  /-- One of the other entry types. -/
  | other (data : Data)
deriving DecidableEq

structure SessionEntryV3 (Data : Type) where
  entryId : String
  sessionId : String
  sequence : Int
  revision : Int
  timestamp : Timestamp
  runId : Option String := none
  correlation : Option (List (SessionCorrelationKeyV3 × String)) := none
  data : SessionEntryDataV3 Data
deriving DecidableEq

/-! ## Commits -/

/-- A commit without its checksum. -/
structure CreateSessionCommitInputV3 (Data : Type) where
  sessionId : String
  commitId : String
  expectedRevision : Int
  idempotencyKey : String
  entries : List (SessionEntryV3 Data)
deriving DecidableEq

structure SessionCommitV3 (Data : Type) extends CreateSessionCommitInputV3 Data where
  checksum : String
deriving DecidableEq

structure SessionJournalHeadV3 where
  revision : Int
  sequence : Int

structure SessionCommitReceiptV3 where
  sessionId : String
  commitId : String
  idempotencyKey : String
  revision : Int
  firstSequence : Int
  lastSequence : Int
  entryIds : List String
  checksum : String
  duplicate : Bool
deriving DecidableEq

structure ReadSessionEntriesInputV3 where
  sessionId : String
  afterSequence : Option Int := none
  limit : Option Int := none
  throughSequence : Option Int := none

structure SessionEntryPageV3 (Data : Type) where
  sessionId : String
  entries : List (SessionEntryV3 Data)
  nextAfterSequence : Int
  hasMore : Bool
  head : SessionJournalHeadV3

/-! ## Projections -/

structure SessionRunProjectionV3 where
  runId : String
  clientRequestId : String
  planPolicy : SessionPlanPolicyV3
  state : SessionRunStateV3
  errorCode : Option String := none

structure SessionSnapshotV3 (Data : Type) where
  sessionId : String
  sequence : Int
  revision : Int
  lifecycle : SessionLifecycleStateV3
  plannerMode : SessionPlannerModeV3
  createdAt : Timestamp
  updatedAt : Timestamp
  contextLimitTokens : Option Int
  cwd : String
  provider : String
  model : String
  name : String
  labels : List String
  activeLeafId : String
  fork : Option SessionForkV3
  messages : List (String × Data)
  runs : List SessionRunProjectionV3

structure SessionCatalogProjectionV3 where
  sessionId : String
  name : String
  workspace : String
  provider : String
  model : String
  lifecycle : SessionLifecycleStateV3
  activeLeafId : String
  parentSessionId : Option String
  messageCount : Nat
  updatedAt : Timestamp
  revision : Int

structure SessionProjectionV3 (Data View : Type) where
  snapshot : SessionSnapshotV3 Data
  catalog : SessionCatalogProjectionV3
  view : View

/-- The session is open and one of its runs is running. -/
def projectionHasRecoverableRun {Data View : Type} (projection : SessionProjectionV3 Data View) :
    Bool :=
  projection.snapshot.lifecycle == .open_ &&
    projection.snapshot.runs.any fun run => run.state == .running

end Praxis.Session
