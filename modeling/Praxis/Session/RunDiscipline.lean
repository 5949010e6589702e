import Praxis.Session.Layers

/-!
# Runs and lifecycle of a session

The reducer starts a run only while no run is running and ends only the run that is running. Which
run is running after some entries can be read off the entries themselves: one of them starts it and
none ends it (`Running`). The reducer's `activeRunId` is that run (`Disciplined`), so what the
`switch` checks against its variables is a fact about the stream, `RunDiscipline`: run ids and
client requests are used once, a run ends at most once and after it started, no run starts while
another is running, nothing follows the deletion, and a closed session only waits to be reopened.

Usage records and planner generations are the other entries that name a run. They form a layer of
their own (`runRecords`), on top of arbitrary rules for the remaining types.
-/

namespace Praxis.Session

set_option autoImplicit false

open Praxis.Foundations
open Praxis.Workflow (safeId)

/-! ## Records about the running run -/

inductive PlannerPhaseV3 where
  | initial
  | replan

inductive PlannerSourceV3 where
  | model
  | fallback
deriving DecidableEq

inductive PlannerStatusV3 where
  | succeeded
  | failed
deriving DecidableEq

inductive PlannerRouteV3 where
  | parentOnly
  | dag

/-- The data of `planner.generation_recorded`. -/
structure PlannerGenerationV3 where
  phase : PlannerPhaseV3
  generatorId : String
  source : PlannerSourceV3
  status : PlannerStatusV3
  fallbackUsed : Bool
  route : Option PlannerRouteV3 := none
  failureCode : Option String := none
  fallbackFromCode : Option String := none

structure SessionPlannerGenerationProjectionV3 extends PlannerGenerationV3 where
  runId : String
  recordedAt : Timestamp

/-- The entries about a run other than its start and its end. -/
inductive RunRecordV3 (Usage : Type) where
  | usageRecorded (usage : Usage)
  | plannerGenerationRecorded (data : PlannerGenerationV3)

/-- Usage totals, whose costs are floating-point numbers. -/
structure UsageRules (Usage : Type) where
  none : Usage
  valid : Usage → Bool
  mergeUsage : Usage → Usage → Usage

structure RunRecordsV3 (Usage : Type) where
  usage : Usage
  plannerGeneration : Option SessionPlannerGenerationProjectionV3 := none

def transitionInvalid : String := "SESSION_REDUCER_TRANSITION_INVALID"

def entryInvalid : String := "SESSION_ENTRY_INVALID"

variable {Data View Usage : Type}

def PlannerGenerationV3.valid (data : PlannerGenerationV3) : Bool :=
  safeId data.generatorId && data.failureCode.all safeId && data.fallbackFromCode.all safeId &&
    (data.source == .fallback) == data.fallbackUsed &&
    (data.status == .failed) == data.failureCode.isSome &&
    data.fallbackUsed == data.fallbackFromCode.isSome

def validateRunRecord (usage : UsageRules Usage) (record : RunRecordV3 Usage)
    (runId : Option String) : Except String Unit :=
  match record with
  | .usageRecorded update => ensure (usage.valid update) entryInvalid
  | .plannerGenerationRecorded data => ensure (data.valid && runId.isSome) entryInvalid

def reduceRunRecord (usage : UsageRules Usage) (state : SessionStateV3 Data)
    (entry : SessionEntryV3 Data) (own : RunRecordsV3 Usage) :
    RunRecordV3 Usage → Except String (RunRecordsV3 Usage)
  | .usageRecorded update => do
      match entry.runId with
      | none => pure ()
      | some runId => do
          ensure (state.activeRunId == some runId) transitionInvalid
          let run ← orError transitionInvalid (state.runs.get? runId)
          ensure (run.state == .running) transitionInvalid
      return { own with usage := usage.mergeUsage own.usage update }
  | .plannerGenerationRecorded data => do
      let runId ← orError transitionInvalid entry.runId
      ensure (state.activeRunId == some runId) transitionInvalid
      return { own with
        plannerGeneration := some { data with
          runId
          recordedAt := entry.timestamp } }

/-- The layer of the records about runs; `record?` reads them from payloads. -/
def runRecords (usage : UsageRules Usage) (record? : Data → Option (RunRecordV3 Usage)) :
    EntryLayer Data (RunRecordV3 Usage) (RunRecordsV3 Usage) where
  event? := record?
  validate := validateRunRecord usage
  start := { usage := usage.none }
  apply := reduceRunRecord usage
  finish _ := .ok ()

/-! ## Runs in a stream of entries -/

def startedRun? (entry : SessionEntryV3 Data) : Option String :=
  match entry.data with
  | .runStarted _ _ => entry.runId
  | _ => none

def startedRequest? (entry : SessionEntryV3 Data) : Option String :=
  match entry.data with
  | .runStarted clientRequestId _ => some clientRequestId
  | _ => none

def endedRun? (entry : SessionEntryV3 Data) : Option String :=
  match entry.data with
  | .runTerminal _ _ _ => entry.runId
  | _ => none

/-- An entry that starts or ends a run. -/
def MarksRun (entry : SessionEntryV3 Data) : Prop :=
  match entry.data with
  | .runStarted _ _ | .runTerminal _ _ _ => True
  | _ => False

def Closes (entry : SessionEntryV3 Data) : Prop :=
  match entry.data with
  | .sessionClosed _ => True
  | _ => False

def Reopens (entry : SessionEntryV3 Data) : Prop :=
  match entry.data with
  | .sessionReopened _ => True
  | _ => False

def Deletes (entry : SessionEntryV3 Data) : Prop :=
  match entry.data with
  | .sessionDeleted _ => True
  | _ => False

/-- The run is running after the entries: one of them starts it and none ends it. -/
def Running (entries : List (SessionEntryV3 Data)) (runId : String) : Prop :=
  runId ∈ entries.filterMap startedRun? ∧ runId ∉ entries.filterMap endedRun?

/-- **What the runs and the lifecycle of a session obey**, at every place of its stream. -/
structure RunDiscipline (IsRecord : SessionEntryV3 Data → Prop)
    (entries : List (SessionEntryV3 Data)) : Prop where
  /-- Every start and every end names a run. -/
  named : ∀ entry ∈ entries, MarksRun entry → ∃ runId, entry.runId = some runId
  runIds : (entries.filterMap startedRun?).Nodup
  requests : (entries.filterMap startedRequest?).Nodup
  terminals : (entries.filterMap endedRun?).Nodup
  /-- At most one run is running. -/
  alone : ∀ front back, entries = front ++ back → ∀ first second,
    Running front first → Running front second → first = second
  /-- A run ends while it is running, so after it started. -/
  terminates : ∀ front entry back runId, entries = front ++ entry :: back →
    endedRun? entry = some runId → Running front runId
  /-- Between the start and the end of a run no other run starts. -/
  between : ∀ front start middle terminal back runId,
    entries = front ++ start :: (middle ++ terminal :: back) →
    startedRun? start = some runId → endedRun? terminal = some runId →
    ∀ entry ∈ middle, ¬ ∃ other, startedRun? entry = some other
  /-- A record that names a run names the running one. -/
  records : ∀ front entry back runId, entries = front ++ entry :: back →
    IsRecord entry → entry.runId = some runId → Running front runId
  deleted : ∀ front entry back, entries = front ++ entry :: back → Deletes entry → back = []
  /-- What follows while the session is closed. -/
  closed : ∀ front closing middle next back,
    entries = front ++ closing :: (middle ++ next :: back) → Closes closing →
    (∀ entry ∈ middle, ¬ Reopens entry) → allowedWhenClosed next.data = true
  /-- No run is running while the session is closed. -/
  idle : ∀ front closing middle back, entries = front ++ closing :: (middle ++ back) →
    Closes closing → (∀ entry ∈ middle, ¬ Reopens entry) →
    ∀ runId, ¬ Running (front ++ closing :: middle) runId

/-! ## What one entry does to the runs -/

/-- What an accepted entry after the first does to the variables about runs and lifecycle. -/
inductive RunStep (entry : SessionEntryV3 Data) (state next : SessionStateV3 Data) : Prop
  | started (runId clientRequestId : String) (planPolicy : Option SessionPlanPolicyV3)
      (data : entry.data = .runStarted clientRequestId planPolicy)
      (named : entry.runId = some runId) (open_ : state.lifecycle = .open_)
      (inactive : state.activeRunId = none)
      (newRun : "run" ++ ":" ++ runId ∉ state.stableIds)
      (newRequest : "client-request" ++ ":" ++ clientRequestId ∉ state.stableIds)
      (stableIds : next.stableIds = state.stableIds ++ ["run" ++ ":" ++ runId] ++
        ["client-request" ++ ":" ++ clientRequestId])
      (active : next.activeRunId = some runId) (lifecycle : next.lifecycle = state.lifecycle)
      (runs : ∃ run : SessionRunProjectionV3, run.runId = runId ∧ run.state = .running ∧
        next.runs = state.runs.upsert runId run)
  | terminal (runId : String) (status : SessionRunStateV3) (usage : Data)
      (errorCode : Option String) (data : entry.data = .runTerminal status usage errorCode)
      (named : entry.runId = some runId) (active : state.activeRunId = some runId)
      (stableIds : next.stableIds = state.stableIds) (inactive : next.activeRunId = none)
      (lifecycle : next.lifecycle = state.lifecycle)
      (runs : ∃ old run : SessionRunProjectionV3, state.runs.get? runId = some old ∧
        run.runId = old.runId ∧ run.state = status ∧ next.runs = state.runs.upsert runId run)
  | other (silent : ¬ MarksRun entry) (stableIds : state.stableIds ⊆ next.stableIds)
      (active : next.activeRunId = state.activeRunId) (runs : next.runs = state.runs)
      (lifecycle : next.lifecycle = state.lifecycle ∨ next.lifecycle = .open_ ∨
        state.activeRunId = none)
      (closes : Closes entry → next.lifecycle = .closed)
      (deletes : Deletes entry → next.lifecycle = .deleted)
      (stays : ¬ Reopens entry → state.lifecycle ≠ .open_ → next.lifecycle ≠ .open_)

variable {rules : SessionRules Data View} {current next : SessionStateV3 Data × View}
  {entry : SessionEntryV3 Data} {entries front back : List (SessionEntryV3 Data)}
  {state after : SessionStateV3 Data} {created : SessionCreatedV3}

theorem reduceRunStarted_step {clientRequestId : String} {planPolicy : Option SessionPlanPolicyV3}
    (data : entry.data = .runStarted clientRequestId planPolicy)
    (accepted : reduceRunStarted state entry.runId clientRequestId planPolicy = .ok after) :
    RunStep entry state after := by
  simp only [reduceRunStarted, bind_eq_ok, assertTransition_eq_ok, exists_const, orError_eq_ok,
    useStableId, useId_eq_ok, pure_eq_ok, Bool.and_eq_true, beq_iff_eq, Option.isNone_iff_eq_none]
    at accepted
  obtain ⟨⟨open_, inactive⟩, runId, named, _, ⟨newRun, rfl⟩, _, ⟨newRequest, rfl⟩, rfl⟩ := accepted
  refine .started runId clientRequestId planPolicy data named open_ inactive newRun ?_ rfl rfl rfl
    ⟨_, rfl, rfl, rfl⟩
  exact fun member => newRequest (List.mem_append_left _ member)

theorem reduceRunTerminal_step {status : SessionRunStateV3} {usage : Data}
    {errorCode : Option String} (data : entry.data = .runTerminal status usage errorCode)
    (accepted : reduceRunTerminal state entry.runId status errorCode = .ok after) :
    RunStep entry state after := by
  simp only [reduceRunTerminal, bind_eq_ok, assertTransition_eq_ok, exists_const, orError_eq_ok,
    pure_eq_ok, beq_iff_eq] at accepted
  obtain ⟨runId, named, active, run, found, _, rfl⟩ := accepted
  exact .terminal runId status usage errorCode data named active rfl rfl rfl
    ⟨run, { run with
        state := status
        errorCode := errorCode.or run.errorCode }, found, rfl, rfl, rfl⟩

theorem reduceData_step
    (accepted : reduceData state entry = .ok after) : RunStep entry state after := by
  unfold reduceData at accepted
  cases data : entry.data with
  | sessionCreated created => simp [data] at accepted
  | sessionMetadataUpdated change =>
    simp only [data, Except.ok.injEq] at accepted
    subst accepted
    exact .other (by simp [MarksRun, data]) (List.Subset.refl _) rfl rfl (.inl rfl)
      (by simp [Closes, data]) (by simp [Deletes, data]) (fun _ away => away)
  | sessionClosed reason =>
    simp only [data, bind_eq_ok, assertTransition_eq_ok, exists_const, pure_eq_ok,
      Bool.and_eq_true, beq_iff_eq, Option.isNone_iff_eq_none] at accepted
    obtain ⟨⟨_, inactive⟩, rfl⟩ := accepted
    exact .other (by simp [MarksRun, data]) (List.Subset.refl _) rfl rfl
      (.inr (.inr inactive)) (fun _ => rfl) (by simp [Deletes, data]) (by simp)
  | sessionReopened reason =>
    simp only [data, bind_eq_ok, assertTransition_eq_ok, exists_const, pure_eq_ok] at accepted
    obtain ⟨_, rfl⟩ := accepted
    exact .other (by simp [MarksRun, data]) (List.Subset.refl _) rfl rfl (.inr (.inl rfl))
      (by simp [Closes, data]) (by simp [Deletes, data]) (by simp [Reopens, data])
  | sessionForked childSessionId sourceEntryId =>
    simp only [data, bind_eq_ok, pure_eq_ok] at accepted
    obtain ⟨_, _, _, _, rfl⟩ := accepted
    exact .other (by simp [MarksRun, data]) (List.Subset.refl _) rfl rfl (.inl rfl)
      (by simp [Closes, data]) (by simp [Deletes, data]) (fun _ away => away)
  | sessionDeleted deletion =>
    simp only [data, bind_eq_ok, assertTransition_eq_ok, exists_const, pure_eq_ok,
      Option.isNone_iff_eq_none] at accepted
    obtain ⟨inactive, rfl⟩ := accepted
    exact .other (by simp [MarksRun, data]) (List.Subset.refl _) rfl rfl
      (.inr (.inr inactive)) (by simp [Closes, data]) (fun _ => rfl) (by simp)
  | messageCommitted messageId message =>
    simp only [data, bind_eq_ok, useStableId, useId_eq_ok, pure_eq_ok] at accepted
    obtain ⟨_, ⟨_, rfl⟩, rfl⟩ := accepted
    exact .other (by simp [MarksRun, data]) (List.subset_append_left _ _) rfl rfl (.inl rfl)
      (by simp [Closes, data]) (by simp [Deletes, data]) (fun _ away => away)
  | runStarted clientRequestId planPolicy =>
    simp only [data] at accepted
    exact reduceRunStarted_step data accepted
  | runTerminal status usage errorCode =>
    simp only [data] at accepted
    exact reduceRunTerminal_step data accepted
  | other payload =>
    simp only [data, Except.ok.injEq] at accepted
    subst accepted
    exact .other (by simp [MarksRun, data]) (List.Subset.refl _) rfl rfl (.inl rfl)
      (by simp [Closes, data]) (by simp [Deletes, data]) (fun _ away => away)

theorem reduceEntry_runStep (accepted : reduceEntry rules current entry = .ok next) :
    (current.1.lifecycle ≠ .deleted ∧
      (current.1.lifecycle = .closed → allowedWhenClosed entry.data = true)) ∧
    RunStep entry current.1 next.1 := by
  simp only [reduceEntry, bind_eq_ok, pure_eq_ok, useId_eq_ok] at accepted
  obtain ⟨_, follows, _, ⟨_, rfl⟩, state, reduced, view, _, rfl⟩ := accepted
  simp only [assertFollows, bind_eq_ok, ensure_eq_ok, assertTransition_eq_ok, exists_const,
    Bool.or_eq_true, bne_iff_ne, ne_eq] at follows
  obtain ⟨_, _, _, _, present, allowed⟩ := follows
  refine ⟨⟨present, fun closed => allowed.resolve_left (absurd closed)⟩, ?_⟩
  have step := reduceData_step reduced
  cases step with
  | started runId clientRequestId planPolicy data named open_ inactive newRun newRequest stableIds
      active lifecycle runs =>
      exact .started runId clientRequestId planPolicy data named open_ inactive newRun newRequest
        stableIds active lifecycle runs
  | terminal runId status usage errorCode data named active stableIds inactive lifecycle runs =>
    exact .terminal runId status usage errorCode data named active stableIds inactive lifecycle
      runs
  | other silent stableIds active runs lifecycle closes deletes stays =>
    exact .other silent stableIds active runs lifecycle closes deletes stays

/-! ## The running run -/

section Streams

variable {runId : String}

theorem mem_started_snoc : runId ∈ (entries ++ [entry]).filterMap startedRun? ↔
    runId ∈ entries.filterMap startedRun? ∨ startedRun? entry = some runId := by
  simp only [List.filterMap_append, List.mem_append]
  simp [List.filterMap_cons]
  cases startedRun? entry <;> simp [eq_comm]

theorem mem_ended_snoc : runId ∈ (entries ++ [entry]).filterMap endedRun? ↔
    runId ∈ entries.filterMap endedRun? ∨ endedRun? entry = some runId := by
  simp only [List.filterMap_append, List.mem_append]
  simp [List.filterMap_cons]
  cases endedRun? entry <;> simp [eq_comm]

theorem startedRun?_eq_none (silent : ¬ MarksRun entry) : startedRun? entry = none := by
  unfold MarksRun at silent
  unfold startedRun?
  split <;> simp_all

theorem startedRequest?_eq_none (silent : ¬ MarksRun entry) : startedRequest? entry = none := by
  unfold MarksRun at silent
  unfold startedRequest?
  split <;> simp_all

theorem endedRun?_eq_none (silent : ¬ MarksRun entry) : endedRun? entry = none := by
  unfold MarksRun at silent
  unfold endedRun?
  split <;> simp_all

end Streams

/-- The variables of the loop say of the runs what the entries do. -/
structure Disciplined (entries : List (SessionEntryV3 Data)) (state : SessionStateV3 Data) :
    Prop where
  active : ∀ runId, state.activeRunId = some runId ↔ Running entries runId
  ended : ∀ runId ∈ entries.filterMap endedRun?, runId ∈ entries.filterMap startedRun?
  runIds : ∀ runId ∈ entries.filterMap startedRun?, "run" ++ ":" ++ runId ∈ state.stableIds
  requests : ∀ request ∈ entries.filterMap startedRequest?,
    "client-request" ++ ":" ++ request ∈ state.stableIds
  startedOnce : (entries.filterMap startedRun?).Nodup
  requestedOnce : (entries.filterMap startedRequest?).Nodup
  endedOnce : (entries.filterMap endedRun?).Nodup
  idle : state.lifecycle ≠ .open_ → state.activeRunId = none
  runs : ∀ runId run, state.runs.get? runId = some run →
    run.runId = runId ∧ (run.state = .running → state.activeRunId = some runId)

theorem Disciplined.start (creates : createdData? entry = some created) :
    Disciplined [entry] (startReduction rules entry created).1 := by
  have silent : ¬ MarksRun entry := by simp [MarksRun, (createdData?_eq_some.mp creates).1]
  have started := startedRun?_eq_none silent
  have requested := startedRequest?_eq_none silent
  have ended := endedRun?_eq_none silent
  constructor <;> simp [startReduction, Running, started, requested, ended]

section Step

variable {state after : SessionStateV3 Data}

theorem Disciplined.started (holds : Disciplined entries state) {runId clientRequestId : String}
    {planPolicy : Option SessionPlanPolicyV3}
    (data : entry.data = .runStarted clientRequestId planPolicy) (named : entry.runId = some runId)
    (open_ : state.lifecycle = .open_) (inactive : state.activeRunId = none)
    (newRun : "run" ++ ":" ++ runId ∉ state.stableIds)
    (newRequest : "client-request" ++ ":" ++ clientRequestId ∉ state.stableIds)
    (stableIds : after.stableIds = state.stableIds ++ ["run" ++ ":" ++ runId] ++
      ["client-request" ++ ":" ++ clientRequestId])
    (active : after.activeRunId = some runId) (lifecycle : after.lifecycle = state.lifecycle)
    (runs : ∃ run : SessionRunProjectionV3, run.runId = runId ∧ run.state = .running ∧
      after.runs = state.runs.upsert runId run) : Disciplined (entries ++ [entry]) after := by
  have starts : startedRun? entry = some runId := by simp [startedRun?, data, named]
  have requests : startedRequest? entry = some clientRequestId := by simp [startedRequest?, data]
  have ends : endedRun? entry = none := by simp [endedRun?, data]
  have fresh : runId ∉ entries.filterMap startedRun? := fun member => newRun (holds.runIds _ member)
  have notEnded : runId ∉ entries.filterMap endedRun? := fun member => fresh (holds.ended _ member)
  have nobody : ∀ other, ¬ Running entries other := by
    intro other running
    rw [← holds.active, inactive] at running
    cases running
  constructor
  case active =>
    intro other
    rw [active, Option.some.injEq, Running, mem_started_snoc, mem_ended_snoc, starts, ends]
    constructor
    · rintro rfl
      exact ⟨.inr rfl, by simpa using notEnded⟩
    · rintro ⟨before | now, still⟩
      · exact absurd ⟨before, fun past => still (.inl past)⟩ (nobody other)
      · exact Option.some.inj now
  case ended =>
    intro other member
    rw [mem_ended_snoc, ends] at member
    rw [mem_started_snoc]
    exact .inl (holds.ended other (member.resolve_right (by simp)))
  case runIds =>
    intro other member
    rw [mem_started_snoc, starts] at member
    rw [stableIds]
    rcases member with before | now
    · exact List.mem_append_left _ (List.mem_append_left _ (holds.runIds other before))
    · obtain rfl := Option.some.inj now
      exact List.mem_append_left _ (by simp)
  case requests =>
    intro request member
    rw [List.filterMap_append, List.mem_append] at member
    rw [stableIds]
    rcases member with before | now
    · exact List.mem_append_left _ (List.mem_append_left _ (holds.requests request before))
    · obtain rfl : request = clientRequestId := by simpa [requests] using now
      exact List.mem_append_right _ (by simp)
  case startedOnce =>
    rw [List.filterMap_append]
    refine List.Nodup.append holds.startedOnce (by simp [starts]) ?_
    simpa [starts] using fresh
  case requestedOnce =>
    rw [List.filterMap_append]
    refine List.Nodup.append holds.requestedOnce (by simp [requests]) ?_
    have unused : clientRequestId ∉ entries.filterMap startedRequest? :=
      fun member => newRequest (holds.requests _ member)
    simpa [requests] using unused
  case endedOnce =>
    rw [List.filterMap_append]
    simpa [ends] using holds.endedOnce
  case idle =>
    rw [lifecycle, open_]
    exact fun away => absurd rfl away
  case runs =>
    obtain ⟨run, key, _, runs⟩ := runs
    intro other found lookup
    rw [runs, Table.get?_upsert] at lookup
    by_cases same : other = runId
    · obtain rfl : run = found := by simpa [same] using lookup
      exact ⟨key.trans same.symm, fun _ => same ▸ active⟩
    · rw [if_neg same] at lookup
      obtain ⟨keyed, running⟩ := holds.runs other found lookup
      refine ⟨keyed, fun now => ?_⟩
      rw [inactive] at running
      cases running now

theorem Disciplined.terminal (holds : Disciplined entries state) {runId : String}
    {status : SessionRunStateV3} {usage : Data} {errorCode : Option String}
    (data : entry.data = .runTerminal status usage errorCode) (named : entry.runId = some runId)
    (past : status ≠ .running) (active : state.activeRunId = some runId)
    (stableIds : after.stableIds = state.stableIds) (inactive : after.activeRunId = none)
    (runs : ∃ old run : SessionRunProjectionV3, state.runs.get? runId = some old ∧
      run.runId = old.runId ∧ run.state = status ∧ after.runs = state.runs.upsert runId run) :
    Disciplined (entries ++ [entry]) after := by
  have starts : startedRun? entry = none := by simp [startedRun?, data]
  have requests : startedRequest? entry = none := by simp [startedRequest?, data]
  have ends : endedRun? entry = some runId := by simp [endedRun?, data, named]
  have running : Running entries runId := (holds.active runId).mp active
  constructor
  case active =>
    intro other
    rw [inactive, Running, mem_started_snoc, mem_ended_snoc, starts, ends]
    simp only [reduceCtorEq, or_false, false_iff, not_and, not_not]
    intro before
    by_cases same : runId = other
    · exact .inr (congrArg some same)
    · refine .inl (not_not.mp fun still => ?_)
      have both := (holds.active other).mpr ⟨before, still⟩
      exact same (Option.mem_unique active both)
  case ended =>
    intro other member
    rw [mem_ended_snoc, ends] at member
    rw [mem_started_snoc]
    rcases member with before | now
    · exact .inl (holds.ended other before)
    · obtain rfl := Option.some.inj now
      exact .inl running.1
  case runIds =>
    intro other member
    rw [mem_started_snoc, starts] at member
    rw [stableIds]
    exact holds.runIds other (member.resolve_right (by simp))
  case requests =>
    intro request member
    rw [stableIds]
    exact holds.requests request (by simpa [requests] using member)
  case startedOnce => simpa [starts] using holds.startedOnce
  case requestedOnce => simpa [requests] using holds.requestedOnce
  case endedOnce =>
    rw [List.filterMap_append]
    refine List.Nodup.append holds.endedOnce (by simp [ends]) ?_
    simpa [ends] using running.2
  case idle => exact fun _ => inactive
  case runs =>
    obtain ⟨old, run, stored, key, ended, runs⟩ := runs
    intro other found lookup
    rw [runs, Table.get?_upsert] at lookup
    by_cases same : other = runId
    · obtain rfl : run = found := by simpa [same] using lookup
      refine ⟨key.trans ((holds.runs runId old stored).1.trans same.symm), fun now => ?_⟩
      exact absurd (ended.symm.trans now) past
    · rw [if_neg same] at lookup
      obtain ⟨keyed, running⟩ := holds.runs other found lookup
      refine ⟨keyed, fun now => ?_⟩
      exact absurd (Option.some.inj ((running now).symm.trans active)) same

theorem Disciplined.other (holds : Disciplined entries state) (silent : ¬ MarksRun entry)
    (stableIds : state.stableIds ⊆ after.stableIds)
    (active : after.activeRunId = state.activeRunId) (runs : after.runs = state.runs)
    (lifecycle : after.lifecycle = state.lifecycle ∨ after.lifecycle = .open_ ∨
      state.activeRunId = none) : Disciplined (entries ++ [entry]) after := by
  have starts := startedRun?_eq_none silent
  have requests := startedRequest?_eq_none silent
  have ends := endedRun?_eq_none silent
  constructor
  case active =>
    intro other
    rw [active, holds.active, Running, Running, mem_started_snoc, mem_ended_snoc, starts, ends]
    simp
  case ended => simpa [starts, ends] using holds.ended
  case runIds =>
    intro other member
    exact stableIds (holds.runIds other (by simpa [starts] using member))
  case requests =>
    intro request member
    exact stableIds (holds.requests request (by simpa [requests] using member))
  case startedOnce => simpa [starts] using holds.startedOnce
  case requestedOnce => simpa [requests] using holds.requestedOnce
  case endedOnce => simpa [ends] using holds.endedOnce
  case idle =>
    intro away
    rw [active]
    rcases lifecycle with same | opened | inactive
    · exact holds.idle (same ▸ away)
    · exact absurd opened away
    · exact inactive
  case runs =>
    rw [runs, active]
    exact holds.runs

end Step

theorem Disciplined.step (holds : Disciplined entries current.1)
    (valid : validData entry.data entry.runId = true)
    (accepted : reduceEntry rules current entry = .ok next) :
    Disciplined (entries ++ [entry]) next.1 := by
  cases (reduceEntry_runStep accepted).2 with
  | started runId clientRequestId planPolicy data named open_ inactive newRun newRequest stableIds
      active lifecycle runs =>
      exact holds.started data named open_ inactive newRun newRequest stableIds active lifecycle runs
  | terminal runId status usage errorCode data named active stableIds inactive lifecycle runs =>
    simp only [data, validData, Bool.and_eq_true, bne_iff_ne] at valid
    exact holds.terminal data named valid.1.2 active stableIds inactive runs
  | other silent stableIds active runs lifecycle _ _ _ =>
    exact holds.other silent stableIds active runs lifecycle

/-- The variables agree with the entries after every stream that the loop runs through. -/
theorem reduceEntries_disciplined
    (valid : ∀ entry ∈ entries, validData entry.data entry.runId = true)
    (accepted : reduceEntries rules entries = .ok current) : Disciplined entries current.1 := by
  refine reduceEntries_invariant
    (fun entries current => (∀ entry ∈ entries, validData entry.data entry.runId = true) →
      Disciplined entries current.1)
    (fun _ _ creates _ => Disciplined.start creates) ?_ accepted valid
  intro front current entry next _ holds step valid
  exact (holds fun other member => valid other (List.mem_append_left _ member)).step
    (valid entry (by simp)) step

/-! ## The discipline of a stream -/

theorem reduceEntries_split (accepted : reduceEntries rules (front ++ entry :: back) = .ok current) :
    (front = [] ∧ ∃ created, entry.data = .sessionCreated created) ∨
    ∃ before next, reduceEntries rules front = .ok before ∧
      reduceEntry rules before entry = .ok next ∧
      reduceEntries rules (front ++ [entry]) = .ok next ∧
      back.foldlM (reduceEntry rules) next = .ok current := by
  cases empty : front with
  | nil =>
    left
    rw [empty, List.nil_append] at accepted
    simp only [reduceEntries, bind_eq_ok, orError_eq_ok] at accepted
    obtain ⟨created, creates, _⟩ := accepted
    exact ⟨rfl, created, (createdData?_eq_some.mp creates).1⟩
  | cons first rest =>
    right
    rw [← empty]
    have nonempty : front ≠ [] := by simp [empty]
    obtain ⟨before, upTo, run⟩ := reduceEntries_prefix nonempty accepted
    obtain ⟨next, step, run⟩ := foldlM_cons_eq_ok.mp run
    exact ⟨before, next, upTo, step, reduceEntries_snoc upTo step, run⟩

theorem silent_of_created (data : entry.data = .sessionCreated created) :
    ¬ MarksRun entry ∧ ¬ Closes entry ∧ ¬ Deletes entry := by
  simp [MarksRun, Closes, Deletes, data]

theorem foldlM_stays_away {middle : List (SessionEntryV3 Data)} :
    ∀ {current : SessionStateV3 Data × View}, current.1.lifecycle ≠ .open_ →
      (∀ entry ∈ middle, ¬ Reopens entry) →
      middle.foldlM (reduceEntry rules) current = .ok next → next.1.lifecycle ≠ .open_ := by
  induction middle with
  | nil =>
    intro current away _ run
    obtain rfl := foldlM_nil_eq_ok.mp run
    exact away
  | cons entry rest ih =>
    intro current away silent run
    obtain ⟨after, step, run⟩ := foldlM_cons_eq_ok.mp run
    refine ih ?_ (fun other member => silent other (List.mem_cons_of_mem _ member)) run
    cases (reduceEntry_runStep step).2 with
    | started _ _ _ _ _ open_ => exact absurd open_ away
    | terminal _ _ _ _ _ _ _ _ _ lifecycle => exact lifecycle ▸ away
    | other _ _ _ _ _ _ _ stays => exact stays (silent entry List.mem_cons_self) away

section Discipline

variable (valid : ∀ entry ∈ entries, validData entry.data entry.runId = true)
  (accepted : reduceEntries rules entries = .ok current) {runId : String}

include valid accepted

theorem prefix_disciplined (split : entries = front ++ back) (nonempty : front ≠ []) :
    ∃ before, reduceEntries rules front = .ok before ∧ Disciplined front before.1 := by
  subst split
  obtain ⟨before, upTo, _⟩ := reduceEntries_prefix nonempty accepted
  refine ⟨before, upTo, reduceEntries_disciplined (fun entry member => ?_) upTo⟩
  exact valid entry (List.mem_append_left _ member)

theorem started_alone (split : entries = front ++ entry :: back)
    (starts : startedRun? entry = some runId) : ∀ other, ¬ Running front other := by
  intro other running
  subst split
  rcases reduceEntries_split accepted with ⟨rfl, _⟩ | ⟨before, next, upTo, step, _⟩
  · simp [Running] at running
  · have agrees := reduceEntries_disciplined
      (fun entry member => valid entry (List.mem_append_left _ member)) upTo
    cases (reduceEntry_runStep step).2 with
    | started _ _ _ _ _ _ inactive =>
      rw [← agrees.active, inactive] at running
      cases running
    | terminal _ _ _ _ data => simp [startedRun?, data] at starts
    | other silent => simp [startedRun?_eq_none silent] at starts

theorem terminal_running (split : entries = front ++ entry :: back)
    (ends : endedRun? entry = some runId) : Running front runId := by
  subst split
  rcases reduceEntries_split accepted with ⟨_, created, data⟩ | ⟨before, next, upTo, step, _⟩
  · simp [endedRun?_eq_none (silent_of_created data).1] at ends
  · have agrees := reduceEntries_disciplined
      (fun entry member => valid entry (List.mem_append_left _ member)) upTo
    cases (reduceEntry_runStep step).2 with
    | started _ _ _ data => simp [endedRun?, data] at ends
    | terminal named _ _ _ data runs active =>
      have same : some named = some runId := by simpa [endedRun?, data, runs] using ends
      exact (agrees.active runId).mp (active.trans same)
    | other silent => simp [endedRun?_eq_none silent] at ends

theorem closed_away {closing : SessionEntryV3 Data} {middle : List (SessionEntryV3 Data)}
    (split : entries = front ++ closing :: (middle ++ back)) (closes : Closes closing)
    (silent : ∀ entry ∈ middle, ¬ Reopens entry) :
    ∃ before, reduceEntries rules (front ++ closing :: middle) = .ok before ∧
      before.1.lifecycle ≠ .open_ ∧ Disciplined (front ++ closing :: middle) before.1 := by
  have whole : entries = (front ++ closing :: middle) ++ back := by simp [split]
  obtain ⟨before, upTo, agrees⟩ := prefix_disciplined valid accepted whole (by simp)
  refine ⟨before, upTo, ?_, agrees⟩
  rcases reduceEntries_split upTo with ⟨_, created, data⟩ | ⟨_, after, _, step, _, run⟩
  · exact absurd closes (silent_of_created data).2.1
  · have closed : after.1.lifecycle = .closed := by
      cases (reduceEntry_runStep step).2 with
      | started _ _ _ data => simp [Closes, data] at closes
      | terminal _ _ _ _ data => simp [Closes, data] at closes
      | other _ _ _ _ _ closed => exact closed closes
    exact foldlM_stays_away (by rw [closed]; decide) silent run

theorem reduceEntries_discipline {IsRecord : SessionEntryV3 Data → Prop}
    (later : ∀ entry created, IsRecord entry → entry.data ≠ .sessionCreated created)
    (checked : ∀ current entry next runId, reduceEntry rules current entry = .ok next →
      IsRecord entry → entry.runId = some runId → current.1.activeRunId = some runId) :
    RunDiscipline IsRecord entries := by
  have nonempty : entries ≠ [] := by
    rintro rfl
    simp [reduceEntries] at accepted
  have agrees := reduceEntries_disciplined valid accepted
  constructor
  case named =>
    intro entry member marks
    obtain ⟨front, back, rfl⟩ := List.append_of_mem member
    rcases reduceEntries_split accepted with ⟨_, created, data⟩ | ⟨before, next, _, step, _⟩
    · exact absurd marks (silent_of_created data).1
    · cases (reduceEntry_runStep step).2 with
      | started runId _ _ _ named => exact ⟨runId, named⟩
      | terminal runId _ _ _ _ named => exact ⟨runId, named⟩
      | other silent => exact absurd marks silent
  case runIds => exact agrees.startedOnce
  case requests => exact agrees.requestedOnce
  case terminals => exact agrees.endedOnce
  case alone =>
    intro front back split first second one two
    have started : front ≠ [] := by
      rintro rfl
      simp [Running] at one
    obtain ⟨before, _, agrees⟩ := prefix_disciplined valid accepted split started
    have same := ((agrees.active first).mpr one).symm.trans ((agrees.active second).mpr two)
    exact Option.some.inj same
  case terminates =>
    intro front entry back runId split ends
    exact terminal_running valid accepted split ends
  case between =>
    intro front start middle terminal back runId split starts ends entry member other
    obtain ⟨first, last, rfl⟩ := List.append_of_mem member
    obtain ⟨other, another⟩ := other
    have whole : entries = (front ++ start :: (first ++ entry :: last)) ++ terminal :: back := by
      simp [split]
    have here : entries = (front ++ start :: first) ++ entry :: (last ++ terminal :: back) := by
      simp [split]
    have running := terminal_running valid accepted whole ends
    have nobody := started_alone valid accepted here another
    refine nobody runId ⟨?_, fun past => running.2 ?_⟩
    · exact List.mem_filterMap.mpr ⟨start, by simp, starts⟩
    · obtain ⟨ending, place, ended⟩ := List.mem_filterMap.mp past
      refine List.mem_filterMap.mpr ⟨ending, ?_, ended⟩
      simp only [List.mem_append, List.mem_cons] at place ⊢
      tauto
  case records =>
    intro front entry back runId split record named
    subst split
    rcases reduceEntries_split accepted with ⟨_, created, data⟩ | ⟨before, next, upTo, step, _⟩
    · exact absurd data (later entry created record)
    · have agrees := reduceEntries_disciplined
        (fun entry member => valid entry (List.mem_append_left _ member)) upTo
      exact (agrees.active runId).mp (checked before entry next runId step record named)
  case deleted =>
    intro front entry back split deletes
    subst split
    rcases reduceEntries_split accepted with ⟨_, created, data⟩ | ⟨before, next, _, step, _, run⟩
    · exact absurd deletes (silent_of_created data).2.2
    · have gone : next.1.lifecycle = .deleted := by
        cases (reduceEntry_runStep step).2 with
        | started _ _ _ data => simp [Deletes, data] at deletes
        | terminal _ _ _ _ data => simp [Deletes, data] at deletes
        | other _ _ _ _ _ _ deleted => exact deleted deletes
      cases back with
      | nil => rfl
      | cons another rest =>
        obtain ⟨_, step, _⟩ := foldlM_cons_eq_ok.mp run
        exact absurd gone (reduceEntry_runStep step).1.1
  case closed =>
    intro front closing middle next back split closes silent
    obtain ⟨before, upTo, away, _⟩ := closed_away valid accepted split closes silent
    have place : entries = (front ++ closing :: middle) ++ next :: back := by simp [split]
    rw [place] at accepted
    rcases reduceEntries_split accepted with ⟨empty, _⟩ | ⟨_, after, again, step, _⟩
    · simp at empty
    · obtain rfl := ok_unique upTo again
      obtain ⟨present, allowed⟩ := (reduceEntry_runStep step).1
      refine allowed ?_
      cases state : before.1.lifecycle with
      | open_ => exact absurd state away
      | closed => rfl
      | deleted => exact absurd state present
  case idle =>
    intro front closing middle back split closes silent runId running
    obtain ⟨before, _, away, agrees⟩ := closed_away valid accepted split closes silent
    rw [← agrees.active, agrees.idle away] at running
    cases running

end Discipline

/-! ## The projected runs -/

theorem Disciplined.projected {current : SessionStateV3 Data × View}
    (agrees : Disciplined entries current.1) :
    ((projectSession current).snapshot.runs.filter (·.state == .running)).length ≤ 1 ∧
      ∀ run ∈ (projectSession current).snapshot.runs, run.state = .running →
        Running entries run.runId := by
  have active : ∀ row ∈ current.1.runs.rows, row.2.state = .running →
      current.1.activeRunId = some row.1 ∧ row.2.runId = row.1 := by
    intro row member running
    have found := current.1.runs.mem_rows_iff.mp (show (row.1, row.2) ∈ _ from member)
    obtain ⟨key, named⟩ := agrees.runs row.1 row.2 found
    exact ⟨named running, key⟩
  constructor
  · have keys : ((current.1.runs.rows.filter fun row => row.2.state == .running).map
        Prod.fst).Nodup :=
      current.1.runs.unique.sublist (List.filter_sublist.map Prod.fst)
    have same : ∀ key ∈ (current.1.runs.rows.filter fun row => row.2.state == .running).map
        Prod.fst, current.1.activeRunId = some key := by
      intro key member
      obtain ⟨row, place, rfl⟩ := List.mem_map.mp member
      obtain ⟨member, running⟩ := List.mem_filter.mp place
      exact (active row member (by simpa using running)).1
    have rows : ((projectSession current).snapshot.runs.filter (·.state == .running)).length =
        ((current.1.runs.rows.filter fun row => row.2.state == .running).map Prod.fst).length := by
      simp [projectSession, Table.values, List.filter_map, Function.comp_def]
    rw [rows]
    cases list : (current.1.runs.rows.filter fun row => row.2.state == .running).map Prod.fst with
    | nil => simp
    | cons first rest =>
      rw [list] at keys same
      cases rest with
      | nil => simp
      | cons second rest =>
        have one := same first (by simp)
        have two := same second (by simp)
        have equal : first = second := Option.mem_unique one two
        simp [equal] at keys
  · intro run member running
    obtain ⟨row, place, rfl⟩ := List.mem_map.mp member
    obtain ⟨named, key⟩ := active row place running
    rw [key]
    exact (agrees.active row.1).mp named

/-! ## Accepted streams -/

theorem validData_of_valid
    (valid : ∀ entry ∈ entries, validateSessionEntryV3 rules entry = .ok entry) :
    ∀ entry ∈ entries, validData entry.data entry.runId = true := by
  intro entry member
  exact (validateSessionEntryV3_ok (valid entry member)).2.2.2.2

theorem runRecord_active {rest : SessionRules Data View} {usage : UsageRules Usage}
    {record? : Data → Option (RunRecordV3 Usage)} {runId : String}
    {current next : SessionStateV3 Data × RunRecordsV3 Usage × View}
    (accepted : reduceEntry (rest.with (runRecords usage record?)) current entry = .ok next)
    (record : ((runRecords usage record?).event entry).isSome = true)
    (named : entry.runId = some runId) : current.1.activeRunId = some runId := by
  have advances := reduceEntry_advances accepted
  obtain ⟨event, is⟩ := Option.isSome_iff_exists.mp record
  rw [EntryLayer.advance_of_event is] at advances
  change reduceRunRecord usage _ _ _ event = _ at advances
  cases event with
  | usageRecorded update =>
    simp only [reduceRunRecord, named, bind_eq_ok, ensure_eq_ok, beq_iff_eq, exists_const]
      at advances
    exact advances.1
  | plannerGenerationRecorded data =>
    simp only [reduceRunRecord, named, bind_eq_ok, ensure_eq_ok, beq_iff_eq, exists_const,
      orError_eq_ok, Option.some.injEq, exists_eq_left'] at advances
    exact advances.1

/-- **Runs and lifecycle**: an accepted stream obeys the discipline at every place, and after every
prefix the projection shows at most one running run, the one that the entries left running. -/
theorem reduceSessionEntriesV3_runs (rest : SessionRules Data View) (usage : UsageRules Usage)
    (record? : Data → Option (RunRecordV3 Usage)) (entries : List (SessionEntryV3 Data))
    (projection : SessionProjectionV3 Data (RunRecordsV3 Usage × View))
    (accepted : reduceSessionEntriesV3 (rest.with (runRecords usage record?)) entries =
      .ok projection) :
    RunDiscipline (fun entry => ((runRecords usage record?).event entry).isSome = true) entries ∧
    ∀ front back, entries = front ++ back → front ≠ [] →
      ∃ current, reduceEntries (rest.with (runRecords usage record?)) front = .ok current ∧
        ((projectSession current).snapshot.runs.filter (·.state == .running)).length ≤ 1 ∧
        ∀ run ∈ (projectSession current).snapshot.runs, run.state = .running →
          Running front run.runId := by
  obtain ⟨⟨_, _, checked⟩, current, reduced, _⟩ := reduceSessionEntriesV3_ok.mp accepted
  have valid := validData_of_valid checked
  constructor
  · refine reduceEntries_discipline valid reduced ?_ fun _ _ _ _ step => runRecord_active step
    rintro entry created record data
    simp [EntryLayer.event, data] at record
  · intro front back split nonempty
    obtain ⟨before, upTo, agrees⟩ := prefix_disciplined valid reduced split nonempty
    exact ⟨before, upTo, agrees.projected⟩

/-- A session in which one run starts, uses something and completes before the session closes. -/
def oneRun : List (SessionEntryV3 (RunRecordV3 Nat)) :=
  entriesOf
    [(some "run-1", .runStarted "request-1" none), (some "run-1", .other (.usageRecorded 1)),
     (some "run-1", .runTerminal .completed (.usageRecorded 1) none),
     (none, .sessionClosed none)]

/-- Usage that is a number. -/
def countedUsage : UsageRules Nat where
  none := 0
  valid _ := true
  mergeUsage := (· + ·)

theorem reduceSessionEntriesV3_oneRun :
    RunDiscipline (fun entry => ((runRecords countedUsage some).event entry).isSome = true)
      oneRun := by
  have accepted : (reduceSessionEntriesV3 ((plainRules (RunRecordV3 Nat)).with
      (runRecords countedUsage some)) oneRun).toOption.any (fun _ => true) = true := by
    decide +kernel
  obtain ⟨projection, reduced, _⟩ := exists_ok accepted
  exact (reduceSessionEntriesV3_runs _ countedUsage some oneRun projection reduced).1

end Praxis.Session
