import Praxis.Session.PlanGraph

/-!
# Compaction checkpoints

A compaction replaces the first entries of a session by a summary of them, and the session records
it as a checkpoint (`compaction.created`). The reducer compares a checkpoint with the last one only,
and the context view is made from the last one. So the checkpoints of an accepted stream form one
chain (`CheckpointChain`), and the context view divides the entries into those that the last
checkpoint covers and the recent ones (`reduceSessionEntriesV3_chained`).
-/

namespace Praxis.Session

set_option autoImplicit false

open Praxis.Foundations
open Praxis.Workflow (safeId isSha256 positiveInteger nonNegativeInteger maxSafeInteger)

/-! ## Contracts -/

structure CompactionSummary where
  objective : Option String := none
  relevantRefs : Option (List String) := none
  decisions : List String
  constraints : List String
  readFiles : List String
  modifiedFiles : List String
  unresolved : List String
  activePlan : List String
deriving DecidableEq

inductive CompactionGeneratorIdentity where
  | deterministic (id : String)
  | model (id provider model : String)
deriving DecidableEq

structure CompactionProvenance where
  generator : CompactionGeneratorIdentity
  fallbackFrom : Option CompactionGeneratorIdentity := none
  failureCode : Option String := none
  failedGeneratorDurationMs : Option Int := none
deriving DecidableEq

inductive CompactionReasonV3 where
  | manual
  | threshold
  | overflow
deriving DecidableEq

inductive CheckpointScopeKind where
  | parent
  | child
deriving DecidableEq

structure CheckpointScope where
  kind : CheckpointScopeKind
  sessionId : String
deriving DecidableEq

structure SkillInvocationEntry where
  capabilityId : String
  origin : String
  digest : String
  arguments : String
  content : String
deriving DecidableEq

/-- The fields of a checkpoint that restore the prompt. Its provider-native state, which is only
checked and handed on, is of any type. -/
structure CheckpointValueV3 (Native : Type) where
  messageStart : Int
  messageEnd : Int
  content : String
  digest : String
  estimatedGainTokens : Option Int := none
  scope : Option CheckpointScope := none
  skillInvocations : Option (List SkillInvocationEntry) := none
  nativeContext : Option Native := none
deriving DecidableEq

structure CompactionCreatedV3 (Native : Type) where
  checkpointId : String
  coveredStartSequence : Int
  coveredEndSequence : Int
  previousCheckpointId : Option String := none
  retainedStartSequence : Int
  summary : CompactionSummary
  provenance : CompactionProvenance
  summaryDigest : String
  summaryTokens : Int
  reason : CompactionReasonV3
  checkpoint : Option (CheckpointValueV3 Native) := none
deriving DecidableEq

structure SessionCompactionCheckpointProjectionV3 (Native : Type) extends
    CompactionCreatedV3 Native where
  entryId : String
  createdAt : Timestamp
deriving DecidableEq

/-- What is left open about checkpoints: their digest, and the check of provider-native state. -/
structure CheckpointRules (Native : Type) where
  /-- SHA-256 of the JSON of a summary. -/
  summaryDigest : CompactionSummary → { digest : String // isSha256 digest = true }
  isProviderNativeContext : Native → Bool

variable {Data View Native : Type}

/-! ## Validation -/

def CompactionSummary.valid (summary : CompactionSummary) : Bool :=
  summary.objective.all boundedText && summary.relevantRefs.all stringList &&
    stringList summary.decisions && stringList summary.constraints &&
    stringList summary.readFiles && stringList summary.modifiedFiles &&
    stringList summary.unresolved && stringList summary.activePlan

def CompactionGeneratorIdentity.valid : CompactionGeneratorIdentity → Bool
  | .deterministic id => safeId id
  | .model id provider name => safeId id && safeId provider && safeId name

def CompactionProvenance.valid (provenance : CompactionProvenance) : Bool :=
  provenance.generator.valid && provenance.fallbackFrom.all (·.valid) &&
    provenance.failureCode.all safeId &&
    provenance.failedGeneratorDurationMs.all nonNegativeInteger &&
    (provenance.fallbackFrom.isSome ||
      (provenance.failureCode.isNone && provenance.failedGeneratorDurationMs.isNone))

def SkillInvocationEntry.valid (invocation : SkillInvocationEntry) : Bool :=
  safeId invocation.capabilityId && isSha256 invocation.digest && boundedText invocation.origin &&
    boundedText invocation.arguments && boundedText invocation.content

section Validation

variable (checkpoints : CheckpointRules Native)

def CheckpointValueV3.valid (value : CheckpointValueV3 Native) : Bool :=
  nonNegativeInteger value.messageStart && nonNegativeInteger value.messageEnd &&
    decide (value.messageStart ≤ value.messageEnd) && boundedText value.content &&
    isSha256 value.digest && value.estimatedGainTokens.all nonNegativeInteger &&
    value.scope.all (fun scope => safeId scope.sessionId) &&
    value.skillInvocations.all (fun invocations =>
      decide (invocations.length ≤ maxListItems) && invocations.all (·.valid)) &&
    value.nativeContext.all checkpoints.isProviderNativeContext

def CompactionCreatedV3.valid (data : CompactionCreatedV3 Native) : Bool :=
  safeId data.checkpointId && positiveInteger data.coveredStartSequence &&
    positiveInteger data.coveredEndSequence &&
    decide (data.coveredStartSequence ≤ data.coveredEndSequence) &&
    data.previousCheckpointId.all safeId && positiveInteger data.retainedStartSequence &&
    data.summary.valid && data.provenance.valid && isSha256 data.summaryDigest &&
    data.summaryDigest == (checkpoints.summaryDigest data.summary).val &&
    nonNegativeInteger data.summaryTokens && data.checkpoint.all (·.valid checkpoints)

/-! ## Reducing -/

/-- The last checkpoint, and the ids of all. -/
structure CompactionVariables (Native : Type) where
  stableIds : List String := []
  checkpoint : Option (SessionCompactionCheckpointProjectionV3 Native) := none

/-- The checkpoint continues the one before it, or covers the session from its start. -/
def CompactionCreatedV3.continues (data : CompactionCreatedV3 Native)
    (checkpoint : Option (SessionCompactionCheckpointProjectionV3 Native)) : Bool :=
  match checkpoint with
  | none => data.previousCheckpointId.isNone && data.coveredStartSequence == 1
  | some checkpoint =>
    data.previousCheckpointId == some checkpoint.checkpointId &&
      data.coveredStartSequence == checkpoint.coveredStartSequence &&
      decide (checkpoint.coveredEndSequence < data.coveredEndSequence)

def reduceCompactionCreated (entry : SessionEntryV3 Data) (own : CompactionVariables Native)
    (data : CompactionCreatedV3 Native) : Except String (CompactionVariables Native) := do
  ensure (decide (data.coveredEndSequence < entry.sequence)) transitionInvalid
  ensure (data.retainedStartSequence == data.coveredEndSequence + 1 &&
    data.summaryDigest == (checkpoints.summaryDigest data.summary).val &&
    data.continues own.checkpoint) transitionInvalid
  let stableIds ← useLayerId own.stableIds "checkpoint" data.checkpointId
  return { own with
    stableIds
    checkpoint := some { data with
      entryId := entry.entryId
      createdAt := entry.timestamp } }

/-- The layer of the checkpoints; `event?` reads their entries from payloads. -/
def sessionCompaction (event? : Data → Option (CompactionCreatedV3 Native)) :
    EntryLayer Data (CompactionCreatedV3 Native) (CompactionVariables Native) where
  event? := event?
  validate data _ := ensure (data.valid checkpoints) entryInvalid
  start := {}
  apply _ entry own data := reduceCompactionCreated checkpoints entry own data
  finish _ := .ok ()

end Validation

/-! ## The context view -/

structure SequenceRange where
  startSequence : Int
  endSequence : Int

/-- How many entries are in the range. -/
def SequenceRange.length (range : SequenceRange) : Int :=
  range.endSequence - range.startSequence + 1

structure SessionContextViewV3 where
  sessionId : String
  revision : Int
  checkpointId : Option String
  recentEntryRange : SequenceRange
  omittedEntries : Int

def contextView (projection : SessionProjectionV3 Data (CompactionVariables Native × View)) :
    SessionContextViewV3 where
  sessionId := projection.snapshot.sessionId
  revision := projection.snapshot.revision
  checkpointId := projection.view.1.checkpoint.map (·.checkpointId)
  recentEntryRange :=
    { startSequence := (projection.view.1.checkpoint.map (·.retainedStartSequence)).getD 1
      endSequence := projection.snapshot.sequence }
  omittedEntries := (projection.view.1.checkpoint.map (·.coveredEndSequence)).getD 0

/-- The view divides the first entries of a session into those that it omits and the recent
ones. -/
structure SessionContextViewV3.Divides (view : SessionContextViewV3) (sequence : Int) : Prop where
  total : view.omittedEntries + view.recentEntryRange.length = sequence
  next : view.recentEntryRange.startSequence = view.omittedEntries + 1
  last : view.recentEntryRange.endSequence = sequence
  omitted : 0 ≤ view.omittedEntries
  recent : 0 < view.recentEntryRange.length

theorem contextView_divides
    {projection : SessionProjectionV3 Data (CompactionVariables Native × View)}
    (begun : 1 ≤ projection.snapshot.sequence)
    (last : ∀ checkpoint ∈ projection.view.1.checkpoint, 1 ≤ checkpoint.coveredEndSequence ∧
      checkpoint.coveredEndSequence < projection.snapshot.sequence ∧
      checkpoint.retainedStartSequence = checkpoint.coveredEndSequence + 1) :
    (contextView projection).Divides projection.snapshot.sequence := by
  cases known : projection.view.1.checkpoint with
  | none => constructor <;> simp [contextView, SequenceRange.length, known]; omega
  | some checkpoint =>
    obtain ⟨start, before, retained⟩ := last checkpoint known
    constructor <;> simp [contextView, SequenceRange.length, known, retained] <;> omega

/-! ## The chain of the checkpoints -/

section Streams

variable {rest : SessionRules Data View} {checkpoints : CheckpointRules Native}
  {event? : Data → Option (CompactionCreatedV3 Native)} {entries : List (SessionEntryV3 Data)}
  {entry : SessionEntryV3 Data} {created : List (SessionEntryV3 Data × CompactionCreatedV3 Native)}
  {own next : CompactionVariables Native} {data : CompactionCreatedV3 Native}

variable (checkpoints event?) in
def recordedCheckpoints (entries : List (SessionEntryV3 Data)) :
    List (SessionEntryV3 Data × CompactionCreatedV3 Native) :=
  entries.filterMap fun entry =>
    ((sessionCompaction checkpoints event?).event entry).map fun data => (entry, data)

theorem mem_recordedCheckpoints : (entry, data) ∈ recordedCheckpoints checkpoints event? entries ↔
    entry ∈ entries ∧ (sessionCompaction checkpoints event?).event entry = some data := by
  simp [recordedCheckpoints, List.mem_filterMap]

/-- **The checkpoints are one chain**: all cover the session from its first entry on, each up to
before its own entry and further than the ones before it, and each names the one before it. -/
inductive CheckpointChain : List (SessionEntryV3 Data × CompactionCreatedV3 Native) → Prop where
  | nil : CheckpointChain []
  | snoc {created : List (SessionEntryV3 Data × CompactionCreatedV3 Native)}
      {entry : SessionEntryV3 Data} {data : CompactionCreatedV3 Native}
      (chain : CheckpointChain created)
      (fromStart : data.coveredStartSequence = 1)
      (before : data.coveredEndSequence < entry.sequence)
      (further : ∀ one ∈ created, one.2.coveredEndSequence < data.coveredEndSequence)
      (names : data.previousCheckpointId = created.getLast?.map (·.2.checkpointId))
      (fresh : data.checkpointId ∉ created.map (·.2.checkpointId)) :
      CheckpointChain (created ++ [(entry, data)])

theorem CheckpointChain.last {one : SessionEntryV3 Data × CompactionCreatedV3 Native}
    (chain : CheckpointChain created) (isLast : created.getLast? = some one) :
    one.2.coveredStartSequence = 1 ∧ one.2.coveredEndSequence < one.1.sequence ∧
      ∀ other ∈ created, other.2.coveredEndSequence ≤ one.2.coveredEndSequence := by
  cases chain with
  | nil => cases isLast
  | snoc chain fromStart before further =>
    rw [List.getLast?_append_of_ne_nil _ (by simp), List.getLast?_singleton] at isLast
    cases isLast
    refine ⟨fromStart, before, fun other member => ?_⟩
    rcases List.mem_append.mp member with earlier | itself
    · exact (further other earlier).le
    · rw [List.mem_singleton.mp itself]

/-- What the reducer knows of the checkpoints so far: their ids, and the last one. -/
structure Compacted (created : List (SessionEntryV3 Data × CompactionCreatedV3 Native))
    (own : CompactionVariables Native) : Prop where
  chain : CheckpointChain created
  used : own.stableIds = created.map fun one => "checkpoint" ++ ":" ++ one.2.checkpointId
  last : own.checkpoint.map (·.toCompactionCreatedV3) = created.getLast?.map (·.2)
  retained : ∀ checkpoint ∈ own.checkpoint,
    checkpoint.retainedStartSequence = checkpoint.coveredEndSequence + 1

theorem Compacted.snoc (compacted : Compacted created own)
    (accepted : reduceCompactionCreated checkpoints entry own data = .ok next) :
    Compacted (created ++ [(entry, data)]) next := by
  simp only [reduceCompactionCreated, useLayerId, bind_eq_ok, ensure_eq_ok, exists_const,
    pure_eq_ok, Bool.and_eq_true, decide_eq_true_eq, beq_iff_eq, Bool.not_eq_true',
    List.contains_eq_mem, decide_eq_false_iff_not] at accepted
  obtain ⟨before, ⟨⟨retained, _⟩, continues⟩, _, ⟨fresh, rfl⟩, rfl⟩ := accepted
  have new : data.checkpointId ∉ created.map (·.2.checkpointId) := by
    rw [compacted.used] at fresh
    intro member
    obtain ⟨one, earlier, same⟩ := List.mem_map.mp member
    exact fresh (List.mem_map.mpr ⟨one, earlier, by rw [same]⟩)
  have follows : data.coveredStartSequence = 1 ∧
      (∀ one ∈ created, one.2.coveredEndSequence < data.coveredEndSequence) ∧
      data.previousCheckpointId = created.getLast?.map (·.2.checkpointId) := by
    have last := compacted.last
    unfold CompactionCreatedV3.continues at continues
    cases known : own.checkpoint with
    | none =>
      rw [known, Option.map_none, eq_comm, Option.map_eq_none_iff, List.getLast?_eq_none_iff]
        at last
      simp only [known, Bool.and_eq_true, Option.isNone_iff_eq_none, beq_iff_eq] at continues
      subst last
      exact ⟨continues.2, by simp, continues.1⟩
    | some checkpoint =>
      rw [known, Option.map_some, eq_comm, Option.map_eq_some_iff] at last
      obtain ⟨one, isLast, same⟩ := last
      simp only [known, Bool.and_eq_true, decide_eq_true_eq, beq_iff_eq, ← same] at continues
      obtain ⟨⟨names, start⟩, further⟩ := continues
      obtain ⟨fromStart, _, ordered⟩ := compacted.chain.last isLast
      refine ⟨start.trans fromStart, fun other member => ?_, by simp [isLast, names]⟩
      exact (ordered other member).trans_lt further
  exact
    { chain := compacted.chain.snoc follows.1 before follows.2.1 follows.2.2 new
      used := by simp [compacted.used]
      last := by simp
      retained := by simpa using retained }

theorem reduceEntries_compacted {current : SessionStateV3 Data × CompactionVariables Native × View}
    (accepted : reduceEntries (rest.with (sessionCompaction checkpoints event?)) entries =
      .ok current) : Compacted (recordedCheckpoints checkpoints event? entries) current.2.1 := by
  refine reduceEntries_invariant
    (fun entries current => Compacted (recordedCheckpoints checkpoints event? entries) current.2.1)
    ?start ?step accepted
  case start =>
    intro first created creates
    have foreign : (sessionCompaction checkpoints event?).event first = none := by
      rw [EntryLayer.event, (createdData?_eq_some.mp creates).1]
    have none : recordedCheckpoints checkpoints event? [first] = [] := by
      simp [recordedCheckpoints, foreign]
    rw [none]
    exact ⟨.nil, rfl, rfl, by simp [startReduction, SessionRules.with, sessionCompaction]⟩
  case step =>
    intro front current entry next _ compacted step
    have advanced := reduceEntry_advances step
    cases records : (sessionCompaction checkpoints event?).event entry with
    | none =>
      rw [EntryLayer.advance_of_none records, Except.ok.injEq] at advanced
      simpa [recordedCheckpoints, records, advanced] using compacted
    | some data =>
      rw [EntryLayer.advance_of_event records] at advanced
      have longer := Compacted.snoc compacted advanced
      simpa [recordedCheckpoints, records] using longer

theorem EntryLayer.validate_of_valid {Event Own : Type} {layer : EntryLayer Data Event Own}
    {event : Event} (valid : validateSessionEntryV3 (rest.with layer) entry = .ok entry)
    (records : layer.event entry = some event) : layer.validate event entry.runId = .ok () := by
  simp only [validateSessionEntryV3, validatePayload, SessionRules.with, bind_eq_ok, ensure_eq_ok,
    ruled_eq_ok, exists_const] at valid
  obtain ⟨_, _, ⟨_, ⟨⟨⟩, own, _⟩⟩, _⟩ := valid
  unfold EntryLayer.event at records
  cases data : entry.data with
  | other payload =>
    simp only [data] at records
    simpa only [data, EntryLayer.check, records] using own
  | _ => simp [data] at records

/-- **The checkpoints of an accepted stream form a chain, and the context view divides its
entries** into those that the last checkpoint covers and the recent ones. -/
theorem reduceSessionEntriesV3_chained
    {projection : SessionProjectionV3 Data (CompactionVariables Native × View)}
    (accepted : reduceSessionEntriesV3 (rest.with (sessionCompaction checkpoints event?)) entries =
      .ok projection) : CheckpointChain (recordedCheckpoints checkpoints event? entries) ∧
      (contextView projection).Divides projection.snapshot.sequence := by
  have projected := reduceSessionEntriesV3_projected accepted
  obtain ⟨final, isFinal, _, sequence⟩ := projected.head
  obtain ⟨⟨_, _, valid⟩, current, reduced, _, rfl⟩ := reduceSessionEntriesV3_ok.mp accepted
  have compacted := reduceEntries_compacted reduced
  obtain ⟨front, rfl⟩ := List.getLast?_eq_some_iff.mp isFinal
  have sequences := projected.sequences
  have place : final.sequence = front.length + 1 := by
    rw [List.map_append, List.map_singleton] at sequences
    simpa using numbersTo_next sequences
  have upTo : ∀ entry ∈ front ++ [final], entry.sequence ≤ final.sequence := by
    intro entry member
    have bounded := le_of_mem_numbersTo (sequences ▸ List.mem_map_of_mem member)
    simpa [place] using bounded
  refine ⟨compacted.chain, contextView_divides ?begun ?last⟩
  case begun =>
    rw [sequence, place]
    omega
  case last =>
    intro checkpoint known
    have last := compacted.last
    rw [show current.2.1.checkpoint = _ from known, Option.map_some, eq_comm,
      Option.map_eq_some_iff] at last
    obtain ⟨one, isLast, same⟩ := last
    obtain ⟨member, records⟩ := mem_recordedCheckpoints.mp (List.mem_of_getLast? isLast)
    have checked : one.2.valid checkpoints = true :=
      ensure_eq_ok.mp (EntryLayer.validate_of_valid (valid one.1 member) records)
    simp only [CompactionCreatedV3.valid, Bool.and_eq_true, decide_eq_true_eq, and_assoc] at checked
    obtain ⟨_, _, _, order, _⟩ := checked
    obtain ⟨fromStart, before, _⟩ := compacted.chain.last isLast
    rw [same] at fromStart before order
    rw [sequence]
    exact ⟨fromStart ▸ order, before.trans_le (upTo one.1 member), compacted.retained _ known⟩

end Streams

/-! ## Two compactions -/

theorem sampleDigest_valid : isSha256
    "sha256:0000000000000000000000000000000000000000000000000000000000000000" = true := by
  decide +kernel

def sampleCheckpoints : CheckpointRules Unit where
  summaryDigest _ :=
    ⟨"sha256:0000000000000000000000000000000000000000000000000000000000000000", sampleDigest_valid⟩
  isProviderNativeContext _ := true

def compactedUpTo (sequence : Int) (checkpointId : String) (previous : Option String) :
    CompactionCreatedV3 Unit where
  checkpointId
  coveredStartSequence := 1
  coveredEndSequence := sequence
  previousCheckpointId := previous
  retainedStartSequence := sequence + 1
  summary :=
    { decisions := []
      constraints := []
      readFiles := []
      modifiedFiles := []
      unresolved := []
      activePlan := [] }
  provenance := { generator := .deterministic "generator" }
  summaryDigest := "sha256:0000000000000000000000000000000000000000000000000000000000000000"
  summaryTokens := 1
  reason := .manual

def compactedTwice : List (SessionEntryV3 (CompactionCreatedV3 Unit)) :=
  entriesOf
    [(none, .other (compactedUpTo 1 "checkpoint-1" none)),
      (none, .other (compactedUpTo 2 "checkpoint-2" (some "checkpoint-1")))]

theorem compactedTwice_chained :
    CheckpointChain (recordedCheckpoints sampleCheckpoints some compactedTwice) ∧
      ∃ projection, reduceSessionEntriesV3
          ((plainRules _).with (sessionCompaction sampleCheckpoints some)) compactedTwice =
            .ok projection ∧
        (contextView projection).Divides projection.snapshot.sequence := by
  have accepted : (reduceSessionEntriesV3
      ((plainRules _).with (sessionCompaction sampleCheckpoints some)) compactedTwice).toOption.any
      (fun _ => true) = true := by
    decide +kernel
  obtain ⟨projection, reduced, _⟩ := exists_ok accepted
  obtain ⟨chain, divides⟩ := reduceSessionEntriesV3_chained reduced
  exact ⟨chain, projection, reduced, divides⟩

end Praxis.Session
