import Praxis.Session.RecoveredPlans
import Praxis.Session.Repository

/-!
# Recovery of interrupted runs

`recoverInterruptedRuns` ends the run that a crash left running in a session, and with it the plan
of the run. Its commit is accepted, the session is settled by it and a second recovery appends
nothing exactly if the session was recoverable: there is room for the entries and for the longer
texts of the states, no step has two attempts that are not finished, none is running or verifying
without one, and where the plan has ended already nothing of it is running.
-/

namespace Praxis.Session

set_option autoImplicit false

open Praxis.Foundations
open Praxis.Workflow (safeId isSha256 positiveInteger)

variable {Data View : Type} {rest : SessionRules Data View}

/-! ## The recovery -/

/-- How the payloads of a recovery are written and read. -/
structure PlanPayloads (Data : Type) where
  encode : PlanEventV3 → Data
  event? : Data → Option PlanEventV3
  event?_encode : ∀ event, event? (encode event) = some event
  noUsage : Data

abbrev planRules (rest : SessionRules Data View) (payloads : PlanPayloads Data) :
    SessionRules Data (PlanVariables × View) :=
  rest.with (planGraph rest.localeCompare payloads.event?)

section Recovery

variable (rest : SessionRules Data View) (payloads : PlanPayloads Data)

def planGraphOf (projection : SessionProjectionV3 Data (PlanVariables × View)) :
    Option SessionPlanGraphProjectionV3 :=
  projection.view.1.plan.map (·.project rest.localeCompare)

def planDraft (runId : String) (event : PlanEventV3) : EntryDraft Data where
  data := .other (payloads.encode event)
  runId := some runId

def terminalDraft (runId : String) : EntryDraft Data where
  data := .runTerminal .interrupted payloads.noUsage (some runtimeRestarted)
  runId := some runId

/-- What the recovery records about the run that is running. -/
def recoveryDrafts (projection : SessionProjectionV3 Data (PlanVariables × View)) :
    List (EntryDraft Data) :=
  match projection.snapshot.runs.find? fun run => run.state == .running with
  | none => []
  | some run =>
    ((planGraphOf rest projection).toList.flatMap planRecovery).map
        (planDraft payloads run.runId) ++ [terminalDraft payloads run.runId]

def buildRecovery (projection : Option (SessionProjectionV3 Data (PlanVariables × View))) :
    Except SessionError (Calculated Data Unit) := do
  let value ← requireExisting projection
  return {
      drafts := recoveryDrafts rest payloads value
      result := () }

def startupRecovery : String := "startup-recovery"

def recoverInterruptedRuns (naming : Naming) (sources : String → List AppendSources) :
    List String → CommitLog Data → Except SessionError Unit × CommitLog Data
  | [], log => (.ok (), log)
  | sessionId :: others, log =>
    match log.loadCachedProjection (planRules rest payloads) naming sessionId with
    | .error error => (.error error, log)
    | .ok projection =>
      if projectionHasRecoverableRun projection then
        match append (planRules rest payloads) naming sessionId startupRecovery
            (buildRecovery rest payloads) (sources sessionId) log with
        | (.error error, log) => (.error error, log)
        | (.ok _, log) => recoverInterruptedRuns naming sources others log
      else recoverInterruptedRuns naming sources others log

/-! ## What is expected of it -/

/-- No run of the session is running, and nothing of its plan is. -/
structure SettledSession (projection : SessionProjectionV3 Data (PlanVariables × View)) : Prop where
  runs : ∀ run ∈ projection.snapshot.runs, run.state ≠ .running
  plan : ∀ plan, planGraphOf rest projection = some plan → plan.Settled

/-- The recovery appends one commit to the session, which settles it, and nothing more when it is
repeated. -/
def RecoversFully (naming : Naming) (sources : String → List AppendSources) (sessionId : String)
    (log : CommitLog Data) : Prop :=
  ∃ commit after,
    recoverInterruptedRuns rest payloads naming sources [sessionId] log =
      (.ok (), Function.update log sessionId (log sessionId ++ [commit])) ∧
    projectionOf (planRules rest payloads) (log sessionId ++ [commit]) = some after ∧
    SettledSession rest after ∧
    ∀ again, recoverInterruptedRuns rest payloads naming again [sessionId]
      (Function.update log sessionId (log sessionId ++ [commit])) =
        (.ok (), Function.update log sessionId (log sessionId ++ [commit]))

/-- How many entries end what is not finished of a step. -/
def SessionStepProjectionV3.endings (step : SessionStepProjectionV3) : Nat :=
  if step.unfinishedAttempt.isSome then if step.state.active then 2 else 1 else 0

/-- How many entries end a plan. -/
def SessionPlanGraphProjectionV3.endings (plan : SessionPlanGraphProjectionV3) : Nat :=
  if plan.state.unfinished then (plan.steps.map (·.endings)).sum + 1 else 0

/-- **What a restart can recover of a session** with a number of entries. -/
structure RecoverableSession (projection : SessionProjectionV3 Data (PlanVariables × View))
    (entries : Nat) : Prop where
  room : entries + ((planGraphOf rest projection).toList.map (·.endings)).sum + 1 ≤ maxEntries
  plan : ∀ plan, planGraphOf rest projection = some plan → plan.Recoverable

instance (projection : SessionProjectionV3 Data (PlanVariables × View)) (entries : Nat) :
    Decidable (RecoverableSession rest projection entries) :=
  decidable_of_iff
    (entries + ((planGraphOf rest projection).toList.map (·.endings)).sum + 1 ≤ maxEntries ∧
      ∀ plan ∈ planGraphOf rest projection, plan.Recoverable)
    ⟨fun recoverable => ⟨recoverable.1, recoverable.2⟩, fun recoverable =>
      ⟨recoverable.room, recoverable.plan⟩⟩

/-- A payload of the recovery. -/
def RecoveryData (data : SessionEntryDataV3 Data) : Prop :=
  (∃ event, data = .other (payloads.encode event)) ∨
    data = .runTerminal .interrupted payloads.noUsage (some runtimeRestarted)

/-- The other groups of entry types have nothing against the payloads of the recovery. -/
structure Spares : Prop where
  valid : ∀ data runId, RecoveryData payloads data → rest.validatePayload data runId = .ok ()
  apply : ∀ state view entry, RecoveryData payloads entry.data →
    ∃ next, rest.apply state view entry = .ok next ∧
      (rest.finish view = .ok () → rest.finish next = .ok ())

end Recovery

theorem Spares.plain (payloads : PlanPayloads Data) : Spares (plainRules Data) payloads where
  valid _ _ _ := rfl
  apply _ view _ _ := ⟨view, rfl, id⟩

/-! ## The drafts -/

section Drafts

variable {rest : SessionRules Data View} {payloads : PlanPayloads Data}

theorem length_planRecovery (plan : SessionPlanGraphProjectionV3) :
    (planRecovery plan).length = plan.endings := by
  have step : ∀ step : SessionStepProjectionV3, (stepRecovery plan.ref step).length =
      step.endings := by
    intro step
    rw [stepRecovery, SessionStepProjectionV3.endings]
    cases step.unfinishedAttempt with
    | none => rfl
    | some attempt =>
      by_cases active : step.state.active = true
      · simp [active]
      · simp [active]
  rw [planRecovery, SessionPlanGraphProjectionV3.endings]
  by_cases unfinished : plan.state.unfinished = true
  · rw [if_pos unfinished, if_pos unfinished, List.length_append, List.length_flatMap,
      List.length_singleton]
    exact congrArg (fun lengths : List Nat => lengths.sum + 1)
      (List.map_congr_left fun own _ => step own)
  · rw [if_neg unfinished, if_neg unfinished]
    rfl

theorem sum_endings_le (steps : List SessionStepProjectionV3) :
    (steps.map (·.endings)).sum ≤ 2 * steps.length := by
  induction steps with
  | nil => exact Nat.le_refl 0
  | cons step rest ih =>
    have own : step.endings ≤ 2 := by
      unfold SessionStepProjectionV3.endings
      split
      · split <;> omega
      · omega
    rw [List.map_cons, List.sum_cons, List.length_cons]
    omega

theorem planRecovery_valid {plan : SessionPlanGraphProjectionV3}
    (valid : Plan.validGraph plan.graph = true) {event : PlanEventV3}
    (member : event ∈ planRecovery plan) : event.valid = true := by
  obtain ⟨_, shaped⟩ := (Plan.validGraph_iff _).mp valid
  simp only [Plan.validShape, Bool.and_eq_true, List.all_eq_true] at shaped
  obtain ⟨⟨⟨⟨⟨⟨⟨⟨⟨⟨⟨⟨planId, revision⟩, _⟩, _⟩, _⟩, steps⟩, attempts⟩, _⟩, _⟩, _⟩, _⟩, _⟩, _⟩ :=
    shaped
  have named : plan.ref.valid = true := by
    rw [PlanRefV3.valid, Bool.and_eq_true]
    exact ⟨planId, revision⟩
  have code : safeId runtimeRestarted = true := by decide +kernel
  rw [planRecovery] at member
  by_cases unfinished : plan.state.unfinished = true
  · rw [if_pos unfinished, List.mem_append, List.mem_flatMap, List.mem_singleton] at member
    rcases member with ⟨step, place, inside⟩ | rfl
    · have stepId : safeId step.stepId = true := by
        have checked := steps step.toPlanStepV1 (List.mem_map.mpr ⟨step, place, rfl⟩)
        simp only [Plan.validStep, Bool.and_eq_true, and_assoc] at checked
        exact checked.1
      rw [stepRecovery] at inside
      cases last : step.unfinishedAttempt with
      | none =>
        rw [last] at inside
        cases inside
      | some attempt =>
        have there : attempt ∈ step.attempts :=
          List.mem_reverse.mp (List.mem_of_find?_eq_some last)
        have attemptId : safeId attempt.attemptId = true := by
          have checked := attempts _ (List.mem_flatMap.mpr
            ⟨step, place, List.mem_map.mpr ⟨attempt, there, rfl⟩⟩)
          simp only [Plan.validAttempt, Bool.and_eq_true, and_assoc] at checked
          exact checked.1
        rw [last, List.mem_cons] at inside
        rcases inside with rfl | inside
        · simp [PlanEventV3.valid, AttemptRefV3.valid, StepRefV3.valid, named, stepId, attemptId,
            code]
        · by_cases active : step.state.active = true
          · rw [if_pos active, List.mem_singleton] at inside
            subst inside
            simp [PlanEventV3.valid, StepChangeV3.valid, StepRefV3.valid, named, stepId, code]
          · rw [if_neg active] at inside
            cases inside
    · exact named
  · rw [if_neg unfinished] at member
    cases member

end Drafts

/-! ## What an accepted stream leaves -/

section Streams

variable {rest : SessionRules Data View} {payloads : PlanPayloads Data}
  {entries : List (SessionEntryV3 Data)} {current : SessionStateV3 Data × PlanVariables × View}

/-- Steps and attempts of an accepted stream are kept under their ids. -/
theorem reduceEntries_keyed
    (accepted : reduceEntries (planRules rest payloads) entries = .ok current) :
    ∀ plan, current.2.1.plan = some plan → plan.Keyed := by
  refine reduceEntries_layer (fun _ own => ∀ plan, own.plan = some plan → plan.Keyed) ?start ?step
    accepted
  case start =>
    intro first plan none
    cases none
  case step =>
    intro front current entry own _ keyed advanced
    cases records : (planGraph rest.localeCompare payloads.event?).event entry with
    | none =>
      rw [EntryLayer.advance_of_none records, Except.ok.injEq] at advanced
      exact advanced ▸ keyed
    | some event =>
      rw [EntryLayer.advance_of_event records] at advanced
      exact reducePlanEvent_keyed advanced keyed

theorem running_active
    (valid : ∀ entry ∈ entries, validateSessionEntryV3 (planRules rest payloads) entry = .ok entry)
    (accepted : reduceEntries (planRules rest payloads) entries = .ok current)
    {run : SessionRunProjectionV3} (member : run ∈ (projectSession current).snapshot.runs)
    (running : run.state = .running) :
    current.1.activeRunId = some run.runId ∧ current.1.runs.get? run.runId = some run ∧
      safeId run.runId = true := by
  have checked := validData_of_valid valid
  have agrees := reduceEntries_disciplined checked accepted
  obtain ⟨key, found⟩ := current.1.runs.mem_values_iff.mp member
  obtain ⟨rfl, active⟩ := agrees.runs key run found
  refine ⟨active running, found, ?_⟩
  obtain ⟨started, _⟩ := (agrees.active run.runId).mp (active running)
  obtain ⟨entry, place, starts⟩ := List.mem_filterMap.mp started
  have fields := checked entry place
  unfold startedRun? at starts
  cases data : entry.data with
  | runStarted clientRequestId planPolicy =>
    simp only [data] at starts
    simp only [data, starts, validData, Option.any_some, Bool.and_eq_true] at fields
    exact fields.1
  | _ => simp [data] at starts

theorem runs_of_inactive
    (valid : ∀ entry ∈ entries, validateSessionEntryV3 (planRules rest payloads) entry = .ok entry)
    (accepted : reduceEntries (planRules rest payloads) entries = .ok current)
    (inactive : current.1.activeRunId = none) :
    ∀ run ∈ (projectSession current).snapshot.runs, run.state ≠ .running := by
  intro run member running
  have active := (running_active valid accepted member running).1
  rw [inactive] at active
  cases active

end Streams

/-! ## The entries of the recovery -/

section Entries

variable {rest : SessionRules Data View} {payloads : PlanPayloads Data}
  {sources : AppendSources} {sessionId operation runId : String} {log : CommitLog Data}
  {count : Nat} {timestamp : Timestamp}
  {projection : SessionProjectionV3 Data (PlanVariables × View)}

/-- What the entries of the recovery do besides. -/
structure Follows (sources : AppendSources) (sessionId : String)
    (projection : SessionProjectionV3 Data (PlanVariables × View)) (log : CommitLog Data)
    (timestamp : Timestamp) (rest : SessionRules Data View) (index : Nat)
    (current next : SessionStateV3 Data × View) : Prop where
  placed : Placed sources sessionId projection ((flattenEntries (log sessionId)).map (·.entryId))
    index timestamp next.1
  runs : next.1.runs = current.1.runs
  active : next.1.activeRunId = current.1.activeRunId
  finish : rest.finish current.2 = .ok () → rest.finish next.2 = .ok ()

variable (spares : Spares rest payloads)
  (fresh : sources.Fresh operation (log sessionId) count) {index : Nat}
  {state : SessionStateV3 Data}

include spares fresh

variable (runId) in
theorem reduceEntry_planDraft (inside : index < count)
    {own next : PlanVariables} {event : PlanEventV3} (view : View)
    (placed : Placed sources sessionId projection
      ((flattenEntries (log sessionId)).map (·.entryId)) index timestamp state)
    (accepted : reducePlanEvent own none event = .ok next) :
    ∃ state' view', reduceEntry (planRules rest payloads) (state, own, view)
        (draftEntry sources sessionId (some projection) timestamp
          (planDraft payloads runId event) index) = .ok (state', next, view') ∧
      Follows sources sessionId projection log timestamp rest (index + 1) (state, view)
        (state', view') := by
  generalize made : draftEntry sources sessionId (some projection) timestamp
    (planDraft payloads runId event) index = entry
  obtain ⟨view', applied, finishes⟩ := spares.apply state view entry (.inl ⟨event, made ▸ rfl⟩)
  have records : (planGraph rest.localeCompare payloads.event?).event entry = some event :=
    made ▸ payloads.event?_encode event
  have advanced : (planGraph rest.localeCompare payloads.event?).advance state own entry =
      .ok next := by
    rw [EntryLayer.advance_of_event records]
    subst made
    exact accepted
  have kept : Keeps entry { state with entryIds := state.entryIds ++ [entry.entryId] }
      { state with entryIds := state.entryIds ++ [entry.entryId] } := by
    subst made
    exact reduceData_keeps rfl
  subst made
  refine ⟨_, view', ?_, placed.next kept placed.open_ (textLt_self timestamp), rfl, rfl, finishes⟩
  rw [placed.reduceEntry fresh inside]
  simp only [SessionRules.with, advanced, applied, ok_bind]
  rfl

variable (runId) in
theorem reduceEntries_planDrafts (events : List PlanEventV3) :
    ∀ (index : Nat) (state : SessionStateV3 Data) (own next : PlanVariables) (view : View),
      index + events.length ≤ count →
      Placed sources sessionId projection ((flattenEntries (log sessionId)).map (·.entryId)) index
        timestamp state →
      events.foldlM (fun own event => reducePlanEvent own none event) own = .ok next →
      ∃ state' view', (((events.map (planDraft payloads runId)).zipIdx index).map fun draft =>
          draftEntry sources sessionId (some projection) timestamp draft.1 draft.2).foldlM
            (reduceEntry (planRules rest payloads)) (state, own, view) = .ok (state', next, view') ∧
        Follows sources sessionId projection log timestamp rest (index + events.length)
          (state, view) (state', view') := by
  induction events with
  | nil =>
    intro index state own next view _ placed accepted
    obtain rfl := foldlM_nil_eq_ok.mp accepted
    exact ⟨state, view, rfl, placed, rfl, rfl, id⟩
  | cons event later ih =>
    intro index state own next view inside placed accepted
    obtain ⟨middle, one, others⟩ := foldlM_cons_eq_ok.mp accepted
    rw [List.length_cons] at inside
    obtain ⟨state', view', step, follows⟩ := reduceEntry_planDraft runId spares fresh
      (show index < count by omega) view placed one
    obtain ⟨final, view'', steps, follows'⟩ := ih (index + 1) state' middle next view'
      (by omega) follows.placed others
    refine ⟨final, view'', ?_, ?_, follows'.runs.trans follows.runs,
      follows'.active.trans follows.active, fun done => follows'.finish (follows.finish done)⟩
    · exact foldlM_cons_eq_ok.mpr ⟨_, step, steps⟩
    · rw [List.length_cons, show index + (later.length + 1) = index + 1 + later.length by omega]
      exact follows'.placed

theorem reduceEntry_terminalDraft (inside : index < count)
    {run : SessionRunProjectionV3} (own : PlanVariables) (view : View)
    (placed : Placed sources sessionId projection
      ((flattenEntries (log sessionId)).map (·.entryId)) index timestamp state)
    (active : state.activeRunId = some run.runId) (found : state.runs.get? run.runId = some run)
    (running : run.state = .running) :
    ∃ state' view', reduceEntry (planRules rest payloads) (state, own, view)
        (draftEntry sources sessionId (some projection) timestamp
          (terminalDraft payloads run.runId) index) = .ok (state', own, view') ∧
      state'.activeRunId = none ∧ state'.lifecycle = .open_ ∧
      (rest.finish view = .ok () → rest.finish view' = .ok ()) := by
  generalize made : draftEntry sources sessionId (some projection) timestamp
    (terminalDraft payloads run.runId) index = entry
  obtain ⟨view', applied, finishes⟩ := spares.apply state view entry (.inr (made ▸ rfl))
  have advanced : (planGraph rest.localeCompare payloads.event?).advance state own entry =
      .ok own :=
    EntryLayer.advance_of_none (made ▸ rfl)
  refine ⟨{ state with
      entryIds := state.entryIds ++ [entry.entryId]
      runs := state.runs.upsert run.runId { run with
        state := .interrupted
        errorCode := (some runtimeRestarted).or run.errorCode }
      activeRunId := none
      previous := entry }, view', ?_, rfl, placed.open_, finishes⟩
  subst made
  rw [placed.reduceEntry fresh inside]
  simp only [SessionRules.with, advanced, applied, ok_bind]
  change (reduceRunTerminal _ (some run.runId) .interrupted (some runtimeRestarted) >>= _) = _
  simp [reduceRunTerminal, orError, active, found, running, ok_bind, pure_ok, assertTransition,
    ensure, ruled]

end Entries

/-! ## An interrupted session -/

structure Interrupted (rest : SessionRules Data View) (payloads : PlanPayloads Data)
    (sessionId : String) (log : CommitLog Data)
    (current : SessionStateV3 Data × PlanVariables × View) (run : SessionRunProjectionV3) :
    Prop where
  kept : Kept (planRules rest payloads) sessionId (log sessionId)
  reduced : projectionOf (planRules rest payloads) (log sessionId) = some (projectSession current)
  loop : reduceEntries (planRules rest payloads) (flattenEntries (log sessionId)) = .ok current
  valid : ∀ entry ∈ flattenEntries (log sessionId),
    validateSessionEntryV3 (planRules rest payloads) entry = .ok entry
  plan : ∃ shown, projectPlan rest.localeCompare current.2.1.plan = .ok shown
  finish : rest.finish current.2.2 = .ok ()
  session : current.1.first.sessionId = sessionId
  open_ : current.1.lifecycle = .open_
  found : (projectSession current).snapshot.runs.find? (fun run => run.state == .running) = some run

theorem planGraphOf_projectSession (rest : SessionRules Data View)
    (current : SessionStateV3 Data × PlanVariables × View) :
    planGraphOf rest (projectSession current) =
      current.2.1.plan.map (·.project rest.localeCompare) := rfl

section Interrupted

variable {rest : SessionRules Data View} {payloads : PlanPayloads Data} {sessionId : String}
  {log : CommitLog Data} {projection : SessionProjectionV3 Data (PlanVariables × View)}
  {current : SessionStateV3 Data × PlanVariables × View} {run : SessionRunProjectionV3}
  {sources : AppendSources}

theorem exists_interrupted (kept : Kept (planRules rest payloads) sessionId (log sessionId))
    (reduced : projectionOf (planRules rest payloads) (log sessionId) = some projection)
    (recoverable : projectionHasRecoverableRun projection = true) :
    ∃ current run, projection = projectSession current ∧
      Interrupted rest payloads sessionId log current run := by
  have stream := projectionOf_eq_some.mp reduced
  obtain ⟨⟨_, _, valid⟩, current, loop, finished, rfl⟩ := reduceSessionEntriesV3_ok.mp stream
  simp only [SessionRules.with, planGraph, bind_eq_ok, pure_eq_ok] at finished
  obtain ⟨_, ⟨shown, projected, _⟩, others⟩ := finished
  simp only [projectionHasRecoverableRun, Bool.and_eq_true, beq_iff_eq] at recoverable
  obtain ⟨open_, any⟩ := recoverable
  obtain ⟨run, found⟩ := Option.isSome_iff_exists.mp
    (List.find?_isSome.mpr (List.any_eq_true.mp any))
  exact ⟨current, run, rfl, kept, reduced, loop, valid, ⟨shown, projected⟩, others,
    (kept.projection_session reduced).1, open_, found⟩

namespace Interrupted

variable (interrupted : Interrupted rest payloads sessionId log current run)

include interrupted

theorem running : run.state = .running ∧ current.1.activeRunId = some run.runId ∧
    current.1.runs.get? run.runId = some run ∧ safeId run.runId = true := by
  have state : run.state = .running := by simpa using List.find?_some interrupted.found
  exact ⟨state, running_active interrupted.valid interrupted.loop
    (List.mem_of_find?_eq_some interrupted.found) state⟩

theorem recoveryDrafts_eq : recoveryDrafts rest payloads (projectSession current) =
    ((planGraphOf rest (projectSession current)).toList.flatMap planRecovery).map
      (planDraft payloads run.runId) ++ [terminalDraft payloads run.runId] := by
  rw [recoveryDrafts, interrupted.found]

theorem validGraph {plan : SessionPlanGraphProjectionV3}
    (there : planGraphOf rest (projectSession current) = some plan) :
    Plan.validGraph plan.graph = true := by
  obtain ⟨shown, projected⟩ := interrupted.plan
  rw [planGraphOf_projectSession, Option.map_eq_some_iff] at there
  obtain ⟨own, named, rfl⟩ := there
  simp only [named, projectPlan, bind_eq_ok, ensure_eq_ok, exists_const] at projected
  obtain ⟨_, _, _, _, valid, _⟩ := projected
  rw [project_graph]
  exact valid

theorem drafts_valid (spares : Spares rest payloads) :
    ∀ draft ∈ recoveryDrafts rest payloads (projectSession current),
      draft.Valid (planRules rest payloads) := by
  obtain ⟨_, _, _, safe⟩ := interrupted.running
  have code : safeId runtimeRestarted = true := by decide +kernel
  intro draft member
  rw [interrupted.recoveryDrafts_eq, List.mem_append, List.mem_singleton] at member
  rcases member with plans | rfl
  · obtain ⟨event, place, rfl⟩ := List.mem_map.mp plans
    obtain ⟨plan, there, inside⟩ := List.mem_flatMap.mp place
    have valid := planRecovery_valid
      (interrupted.validGraph (Option.mem_toList.mp there)) inside
    have own : (planGraph rest.localeCompare payloads.event?).check
        (.other (payloads.encode event)) (some run.runId) = .ok () := by
      simp [EntryLayer.check, planGraph, payloads.event?_encode, valid, ensure]
    have others := spares.valid (.other (payloads.encode event)) (some run.runId)
      (.inl ⟨event, rfl⟩)
    refine ⟨?_, safe, rfl, by rintro _ ⟨⟩, rfl⟩
    simp [validatePayload, planDraft, validData, SessionRules.with, own, others, ok_bind, ruled]
  · have others := spares.valid (.runTerminal .interrupted payloads.noUsage (some runtimeRestarted))
      (some run.runId) (.inr rfl)
    refine ⟨?_, safe, rfl, by rintro _ ⟨⟩, rfl⟩
    simp [validatePayload, terminalDraft, validData, safe, code, SessionRules.with,
      EntryLayer.check, others, ok_bind, ruled, ensure]

theorem length_recoveryDrafts : (recoveryDrafts rest payloads (projectSession current)).length =
    ((planGraphOf rest (projectSession current)).toList.map (·.endings)).sum + 1 := by
  rw [interrupted.recoveryDrafts_eq, List.length_append, List.length_singleton, List.length_map,
    List.length_flatMap]
  simp only [length_planRecovery]

theorem few_drafts : (recoveryDrafts rest payloads (projectSession current)).length ≤
    maxCommitEntries := by
  rw [interrupted.length_recoveryDrafts]
  cases there : planGraphOf rest (projectSession current) with
  | none => decide
  | some plan =>
    obtain ⟨_, shaped⟩ := (Plan.validGraph_iff _).mp (interrupted.validGraph there)
    simp only [Plan.validShape, Bool.and_eq_true, decide_eq_true_eq] at shaped
    have steps : plan.steps.length ≤ 64 := by
      have bound := shaped.1.1.1.1.1.1.1.1.1.2.2
      simpa [SessionPlanGraphProjectionV3.graph] using bound
    have sum := sum_endings_le plan.steps
    have bound : maxCommitEntries = 1024 := rfl
    simp only [Option.toList_some, List.map_cons, List.map_nil, List.sum_cons, List.sum_nil,
      SessionPlanGraphProjectionV3.endings]
    split <;> omega

variable (sources) in
theorem draftedEntries_recovery :
    draftedEntries sources sessionId (projectSession current)
        (recoveryDrafts rest payloads (projectSession current)) =
      ((((planGraphOf rest (projectSession current)).toList.flatMap planRecovery).map
          (planDraft payloads run.runId)).zipIdx.map fun draft =>
        draftEntry sources sessionId (some (projectSession current))
          (draftTimestamp sources (projectSession current) (terminalDraft payloads run.runId))
          draft.1 draft.2) ++
      [draftEntry sources sessionId (some (projectSession current))
        (draftTimestamp sources (projectSession current) (terminalDraft payloads run.runId))
        (terminalDraft payloads run.runId)
        ((planGraphOf rest (projectSession current)).toList.flatMap planRecovery).length] := by
  rw [interrupted.recoveryDrafts_eq, draftedEntries, List.zipIdx_append, List.map_append,
    List.zipIdx_map, List.map_map, List.map_map, List.length_map, Nat.zero_add]
  rfl

theorem reduce_events :
    ((planGraphOf rest (projectSession current)).toList.flatMap planRecovery).foldlM
        (fun own event => reducePlanEvent own none event) current.2.1 =
      .ok { current.2.1 with plan := current.2.1.plan.map MutablePlan.recovered } := by
  rw [planGraphOf_projectSession]
  have keyed := reduceEntries_keyed interrupted.loop
  obtain ⟨state, ⟨stableIds, plan⟩, view⟩ := current
  cases plan with
  | none => rfl
  | some plan =>
    have events := @reduce_recovery { stableIds, plan := some plan } plan rest.localeCompare
      (keyed plan rfl)
    simpa using events

/-- **The loop of the reducer accepts the entries of the recovery.** -/
theorem reduceEntries_recovery (spares : Spares rest payloads)
    (fresh : sources.Fresh startupRecovery (log sessionId)
      (recoveryDrafts rest payloads (projectSession current)).length) :
    ∃ after, reduceEntries (planRules rest payloads) (flattenEntries (log sessionId) ++
        draftedEntries sources sessionId (projectSession current)
          (recoveryDrafts rest payloads (projectSession current))) = .ok after ∧
      after.2.1.plan = current.2.1.plan.map MutablePlan.recovered ∧
      after.1.activeRunId = none ∧ rest.finish after.2.2 = .ok () := by
  obtain ⟨running, active, found, _⟩ := interrupted.running
  have nonempty : flattenEntries (log sessionId) ≠ [] := by
    intro empty
    have loop := interrupted.loop
    rw [empty] at loop
    cases loop
  have drafts := interrupted.recoveryDrafts_eq
  have placed := @Placed.first _ _ (planRules rest payloads) sources sessionId log
    (terminalDraft payloads run.runId) current interrupted.loop interrupted.session
    interrupted.open_
  have count : (recoveryDrafts rest payloads (projectSession current)).length =
      ((planGraphOf rest (projectSession current)).toList.flatMap planRecovery).length + 1 := by
    rw [drafts, List.length_append, List.length_map, List.length_singleton]
  obtain ⟨state, view, steps, follows⟩ := reduceEntries_planDrafts run.runId spares fresh
    ((planGraphOf rest (projectSession current)).toList.flatMap planRecovery) 0 current.1
    current.2.1 _ current.2.2 (by omega) placed interrupted.reduce_events
  rw [Nat.zero_add] at follows
  obtain ⟨state', view', ends, inactive, _, finishes⟩ := reduceEntry_terminalDraft spares fresh
    (show ((planGraphOf rest (projectSession current)).toList.flatMap planRecovery).length <
      (recoveryDrafts rest payloads (projectSession current)).length by omega)
    { current.2.1 with plan := current.2.1.plan.map MutablePlan.recovered } view follows.placed
    (follows.active.trans active) ((congrArg (·.get? run.runId) follows.runs).trans found) running
  refine ⟨(state', { current.2.1 with plan := current.2.1.plan.map MutablePlan.recovered }, view'),
    ?_, rfl, inactive, finishes (follows.finish interrupted.finish)⟩
  rw [interrupted.draftedEntries_recovery sources, reduceEntries_append nonempty, interrupted.loop,
    ok_bind, List.foldlM_append, steps, ok_bind]
  exact foldlM_cons_eq_ok.mpr ⟨_, ends, foldlM_nil_eq_ok.mpr rfl⟩

theorem plan_sound {plan : MutablePlan} (there : current.2.1.plan = some plan) :
    plan.Keyed ∧ ∀ stepId step, plan.steps.get? stepId = some step → Numbered step :=
  ⟨reduceEntries_keyed interrupted.loop plan there, fun stepId step found =>
    (reduceEntries_sound interrupted.loop plan there stepId step found).numbered⟩

theorem projectPlan_iff :
    (∃ after, projectPlan rest.localeCompare
        (current.2.1.plan.map MutablePlan.recovered) = .ok after) ↔
      ∀ plan, planGraphOf rest (projectSession current) = some plan →
        plan.state.unfinished = true →
        (Plan.jsonBytes plan.graph : Int) + plan.growth ≤ Plan.maxGraphBytes := by
  obtain ⟨shown, projected⟩ := interrupted.plan
  rw [planGraphOf_projectSession]
  cases there : current.2.1.plan with
  | none => exact iff_of_true ⟨none, rfl⟩ nofun
  | some plan =>
    obtain ⟨keyed, numbered⟩ := interrupted.plan_sound there
    rw [there] at projected
    rw [Option.map_some, projectPlan_recovered keyed numbered projected]
    simp only [Option.map_some, Option.some.injEq, forall_eq']
    rfl

variable (spares : Spares rest payloads)
  (fresh : sources.Fresh startupRecovery (log sessionId)
    (recoveryDrafts rest payloads (projectSession current)).length)

include spares fresh

/-- **The reducer accepts the recovery** exactly if there is room for its entries and for the texts
of the states. -/
theorem accepted_iff :
    (∃ next, reduceSessionEntriesV3 (planRules rest payloads) (flattenEntries (log sessionId) ++
        draftedEntries sources sessionId (projectSession current)
          (recoveryDrafts rest payloads (projectSession current))) = .ok next) ↔
      (flattenEntries (log sessionId)).length +
          ((planGraphOf rest (projectSession current)).toList.map (·.endings)).sum + 1 ≤
        maxEntries ∧
      ∀ plan, planGraphOf rest (projectSession current) = some plan →
        plan.state.unfinished = true →
        (Plan.jsonBytes plan.graph : Int) + plan.growth ≤ Plan.maxGraphBytes := by
  obtain ⟨after, loop, recovered, _, finished⟩ := interrupted.reduceEntries_recovery spares fresh
  have checked := draftedEntries_valid interrupted.kept interrupted.reduced fresh
    (interrupted.drafts_valid spares) interrupted.few_drafts
  have count := interrupted.length_recoveryDrafts
  rw [← interrupted.projectPlan_iff, ← recovered]
  constructor
  · rintro ⟨next, accepted⟩
    obtain ⟨⟨_, short, _⟩, current', loop', finish, _⟩ := reduceSessionEntriesV3_ok.mp accepted
    obtain rfl := ok_unique loop loop'
    simp only [SessionRules.with, planGraph, bind_eq_ok] at finish
    obtain ⟨_, ⟨shown, projected, _⟩, _⟩ := finish
    rw [List.length_append, length_draftedEntries, count] at short
    exact ⟨by omega, shown, projected⟩
  · rintro ⟨room, shown, projected⟩
    refine ⟨projectSession after,
      reduceSessionEntriesV3_ok.mpr ⟨⟨?_, ?_, ?_⟩, after, loop, ?_, rfl⟩⟩
    · intro empty
      have drafted := congrArg List.length empty
      rw [List.length_append, length_draftedEntries, count, List.length_nil] at drafted
      omega
    · rw [List.length_append, length_draftedEntries, count]
      omega
    · intro entry member
      rcases List.mem_append.mp member with before | new
      · exact interrupted.valid entry before
      · exact checked entry new
    · simp [SessionRules.with, planGraph, projected, finished, ok_bind, pure_ok]

/-- **What the recovery leaves** is settled exactly if every step could be recovered. -/
theorem settled_iff {next : SessionProjectionV3 Data (PlanVariables × View)}
    (accepted : reduceSessionEntriesV3 (planRules rest payloads) (flattenEntries (log sessionId) ++
      draftedEntries sources sessionId (projectSession current)
        (recoveryDrafts rest payloads (projectSession current))) = .ok next) :
    (∀ run ∈ next.snapshot.runs, run.state ≠ .running) ∧
    (SettledSession rest next ↔ ∀ plan, planGraphOf rest (projectSession current) = some plan →
      if plan.state.unfinished then ∀ step ∈ plan.steps, step.Recoverable
      else ∀ step ∈ plan.steps, step.Settled) := by
  obtain ⟨after, loop, recovered, inactive, _⟩ := interrupted.reduceEntries_recovery spares fresh
  obtain ⟨⟨_, _, valid⟩, current', loop', _, rfl⟩ := reduceSessionEntriesV3_ok.mp accepted
  obtain rfl := ok_unique loop loop'
  have idle := runs_of_inactive valid loop inactive
  refine ⟨idle, ?_⟩
  have plans : (∀ plan, planGraphOf rest (projectSession after) = some plan → plan.Settled) ↔
      ∀ plan, planGraphOf rest (projectSession current) = some plan →
        if plan.state.unfinished then ∀ step ∈ plan.steps, step.Recoverable
        else ∀ step ∈ plan.steps, step.Settled := by
    rw [planGraphOf_projectSession, planGraphOf_projectSession, recovered]
    cases there : current.2.1.plan with
    | none => exact iff_of_true nofun nofun
    | some plan =>
      obtain ⟨keyed, numbered⟩ := interrupted.plan_sound there
      simp only [Option.map_some, Option.some.injEq, forall_eq']
      exact recovered_plan_settled keyed numbered
  exact ⟨fun settled => plans.mp settled.plan, fun all => ⟨idle, plans.mpr all⟩⟩

end Interrupted

end Interrupted

/-! ## The recovery of a session -/

theorem recoverableSession_iff
    {projection : SessionProjectionV3 Data (PlanVariables × View)} {entries : Nat} :
    RecoverableSession rest projection entries ↔
      (entries + ((planGraphOf rest projection).toList.map (·.endings)).sum + 1 ≤ maxEntries ∧
        ∀ plan, planGraphOf rest projection = some plan → plan.state.unfinished = true →
          (Plan.jsonBytes plan.graph : Int) + plan.growth ≤ Plan.maxGraphBytes) ∧
      ∀ plan, planGraphOf rest projection = some plan →
        if plan.state.unfinished then ∀ step ∈ plan.steps, step.Recoverable
        else ∀ step ∈ plan.steps, step.Settled := by
  constructor
  · rintro ⟨room, plans⟩
    refine ⟨⟨room, fun plan there unfinished => ?_⟩, fun plan there => ?_⟩
    · have whole := plans plan there
      rw [SessionPlanGraphProjectionV3.Recoverable, if_pos unfinished] at whole
      exact whole.2
    · have whole := plans plan there
      rw [SessionPlanGraphProjectionV3.Recoverable] at whole
      by_cases unfinished : plan.state.unfinished = true
      · rw [if_pos unfinished] at whole ⊢
        exact whole.1
      · rwa [if_neg unfinished] at whole ⊢
  · rintro ⟨⟨room, short⟩, steps⟩
    refine ⟨room, fun plan there => ?_⟩
    have each := steps plan there
    rw [SessionPlanGraphProjectionV3.Recoverable]
    by_cases unfinished : plan.state.unfinished = true
    · rw [if_pos unfinished] at each ⊢
      exact ⟨each, short plan there unfinished⟩
    · rwa [if_neg unfinished] at each ⊢

section Sessions

variable {rest : SessionRules Data View} {payloads : PlanPayloads Data} {naming : Naming}
  {sources : String → List AppendSources} {sessionId : String} {log : CommitLog Data}
  {projection : SessionProjectionV3 Data (PlanVariables × View)}

theorem loadCachedProjection_eq (named : naming.names sessionId = true)
    (reduced : projectionOf (planRules rest payloads) (log sessionId) = some projection) :
    log.loadCachedProjection (planRules rest payloads) naming sessionId = .ok projection := by
  simp [CommitLog.loadCachedProjection, named, reduced, orError, ensure, ok_bind]

theorem recover_running (named : naming.names sessionId = true)
    (reduced : projectionOf (planRules rest payloads) (log sessionId) = some projection)
    (recoverable : projectionHasRecoverableRun projection = true) :
    recoverInterruptedRuns rest payloads naming sources [sessionId] log =
      append (planRules rest payloads) naming sessionId startupRecovery
        (buildRecovery rest payloads) (sources sessionId) log := by
  rw [recoverInterruptedRuns, loadCachedProjection_eq named reduced]
  dsimp only
  rw [if_pos recoverable]
  rcases append (planRules rest payloads) naming sessionId startupRecovery
    (buildRecovery rest payloads) (sources sessionId) log with ⟨_ | ⟨⟨⟩⟩, log⟩ <;> rfl

theorem recover_idle (named : naming.names sessionId = true)
    (reduced : projectionOf (planRules rest payloads) (log sessionId) = some projection)
    (idle : ∀ run ∈ projection.snapshot.runs, run.state ≠ .running) :
    recoverInterruptedRuns rest payloads naming sources [sessionId] log = (.ok (), log) := by
  have nothing : ¬ projectionHasRecoverableRun projection = true := by
    intro recoverable
    simp only [projectionHasRecoverableRun, Bool.and_eq_true, List.any_eq_true, beq_iff_eq]
      at recoverable
    obtain ⟨_, run, member, running⟩ := recoverable
    exact idle run member running
  rw [recoverInterruptedRuns, loadCachedProjection_eq named reduced]
  dsimp only
  rw [if_neg nothing]
  rfl

end Sessions

/-- **Startup recovery** ends the running run of a session completely exactly if the session was
recoverable. -/
theorem startup_recovery_iff (rest : SessionRules Data View) (payloads : PlanPayloads Data)
    (spares : Spares rest payloads) (digests : ∀ input, isSha256 (rest.checksum input) = true)
    (naming : Naming) (sources : String → List AppendSources) (sessionId : String)
    (log : CommitLog Data) (projection : SessionProjectionV3 Data (PlanVariables × View))
    (kept : Kept (planRules rest payloads) sessionId (log sessionId))
    (reduced : projectionOf (planRules rest payloads) (log sessionId) = some projection)
    (recoverable : projectionHasRecoverableRun projection = true)
    (admitted : naming.admits sessionId = true) (named : naming.names sessionId = true)
    (some_ : sources sessionId ≠ [])
    (fresh : ∀ attempt ∈ sources sessionId, attempt.Fresh startupRecovery (log sessionId)
      (recoveryDrafts rest payloads projection).length) :
    RecoversFully rest payloads naming sources sessionId log ↔
      RecoverableSession rest projection (flattenEntries (log sessionId)).length := by
  have ran := @recover_running _ _ rest payloads naming sources sessionId log projection named
    reduced recoverable
  obtain ⟨current, run, rfl, interrupted⟩ := exists_interrupted kept reduced recoverable
  obtain ⟨first, later, attempts⟩ := List.exists_cons_of_ne_nil some_
  have fresh' := fresh first (attempts ▸ List.mem_cons_self)
  have safe : SafeOperation startupRecovery := by decide +kernel
  have drafts := interrupted.drafts_valid spares
  have filled : recoveryDrafts rest payloads (projectSession current) ≠ [] := by
    rw [interrupted.recoveryDrafts_eq]
    exact List.append_ne_nil_of_right_ne_nil _ (List.cons_ne_nil _ _)
  have built : buildRecovery rest payloads (some (projectSession current)) =
      .ok { drafts := recoveryDrafts rest payloads (projectSession current), result := () } := by
    have open_ : (projectSession current).snapshot.lifecycle = .open_ := interrupted.open_
    simp [buildRecovery, requireExisting, orError, ensure, open_, ok_bind, pure_ok]
  have accepts := interrupted.accepted_iff spares fresh'
  have appended := @append_cons _ _ _ (planRules rest payloads) sessionId startupRecovery log first
    (projectSession current) (recoveryDrafts rest payloads (projectSession current)) kept reduced
    fresh' drafts naming later () (buildRecovery rest payloads) admitted safe digests filled
    interrupted.few_drafts built
  rw [← attempts, ← ran] at appended
  rw [recoverableSession_iff, ← accepts]
  constructor
  · rintro ⟨commit, after, done, shown, settled, _⟩
    by_cases accepted : ∃ next, reduceSessionEntriesV3 (planRules rest payloads)
        (flattenEntries (log sessionId) ++ draftedEntries first sessionId (projectSession current)
          (recoveryDrafts rest payloads (projectSession current))) = .ok next
    · obtain ⟨next, reduces⟩ := accepted
      rw [reduces] at appended
      have logs := congrFun (congrArg Prod.snd (appended.symm.trans done)) sessionId
      simp only [Function.update_self, List.append_cancel_left_eq, List.cons.injEq, and_true]
        at logs
      rw [← logs, projectionOf_eq_some, flattenEntries_append, flattenEntries_singleton] at shown
      obtain rfl := ok_unique reduces shown
      exact ⟨⟨next, reduces⟩, (interrupted.settled_iff spares fresh' reduces).2.mp settled⟩
    · obtain ⟨error, refused⟩ := append_refused kept reduced drafts admitted safe digests filled
        interrupted.few_drafts built fresh fun attempt member => by
          rcases answer : reduceSessionEntriesV3 (planRules rest payloads)
            (flattenEntries (log sessionId) ++ draftedEntries attempt sessionId
              (projectSession current) (recoveryDrafts rest payloads (projectSession current)))
            with error | next
          · exact ⟨error, rfl⟩
          · exact absurd (accepts.mpr ((interrupted.accepted_iff spares
              (fresh attempt member)).mp ⟨next, answer⟩)) accepted
      rw [ran, refused] at done
      cases congrArg Prod.fst done
  · rintro ⟨⟨next, reduces⟩, steps⟩
    rw [reduces] at appended
    obtain ⟨idle, settles⟩ := interrupted.settled_iff spares fresh' reduces
    have shown : projectionOf (planRules rest payloads) (log sessionId ++
        [draftedCommit (planRules rest payloads) first sessionId startupRecovery
          (projectSession current) (recoveryDrafts rest payloads (projectSession current))]) =
        some next := by
      rw [projectionOf_eq_some, flattenEntries_append, flattenEntries_singleton]
      exact reduces
    refine ⟨_, next, appended, shown, settles.mpr steps, fun again => ?_⟩
    refine recover_idle named ?_ idle
    rw [Function.update_self]
    exact shown

/-! ## A step that lost its attempt -/

def planDigestRules : SessionRules (Option PlanEventV3) Unit :=
  { plainRules (Option PlanEventV3) with
    checksum := fun _ =>
      "sha256:0000000000000000000000000000000000000000000000000000000000000000" }

def eventPayloads : PlanPayloads (Option PlanEventV3) where
  encode := some
  event? := id
  event?_encode _ := rfl
  noUsage := none

def runningStep : List PlanEventV3 :=
  [.planCreated
      { planId := "plan-1"
        planRevision := 1 } "objective" .running,
   .stepCreated
      { planId := "plan-1"
        planRevision := 1 }
      { stepId := "step-1"
        title := "Step"
        order := 0
        dependencies := []
        access :=
          { mode := .readOnly
            paths := [] }
        capabilities := []
        conflictKeys := []
        criteria :=
          [{ criterionId := "criterion-1"
             kind := .check
             description := "done" }]
        budget :=
          { maxTurns := 1
            maxToolCalls := 1
            maxChildRuns := 0
            maxParallelChildren := 0
            maxDepth := 0 }
        maxAttempts := 1 } .pending,
   .attemptCreated
      { planId := "plan-1"
        planRevision := 1
        stepId := "step-1"
        attemptId := "attempt-1" } 1 .reserved none,
   .stepStateChanged
      { planId := "plan-1"
        planRevision := 1
        stepId := "step-1"
        state := .running }]

def cancelledAttempt : PlanEventV3 :=
  .attemptStateChanged
    { planId := "plan-1"
      planRevision := 1
      stepId := "step-1"
      attemptId := "attempt-1" } .cancelled none

/-- A commit in which a run starts and its plan comes so far. -/
def planCommit (events : List PlanEventV3) : SessionCommitV3 (Option PlanEventV3) where
  sessionId := "session-1"
  commitId := "commit-1"
  expectedRevision := 0
  idempotencyKey := "key-1"
  entries := entriesOf ((some "run-1", .runStarted "request-1" none) ::
    events.map fun event => (some "run-1", .other (some event)))
  checksum := "sha256:0000000000000000000000000000000000000000000000000000000000000000"

def planLog (events : List PlanEventV3) : CommitLog (Option PlanEventV3) := fun sessionId =>
  if sessionId = "session-1" then [planCommit events] else []

/-- A clock and four random ids. -/
def fourIds : AppendSources where
  now := ⟨"2026-01-02T00:00:00.000Z", some 1_767_312_000_000⟩
  token := "00000000-0000-4000-8000-000000000000"
  entryToken index := ["00000000-0000-4000-8000-000000000001",
    "00000000-0000-4000-8000-000000000002", "00000000-0000-4000-8000-000000000003",
    "00000000-0000-4000-8000-000000000004"].getD index ""

theorem RecoversFully.settled {payloads : PlanPayloads Data}
    {naming : Naming} {sources : String → List AppendSources} {sessionId : String}
    {log : CommitLog Data} (fully : RecoversFully rest payloads naming sources sessionId log)
    {after : SessionProjectionV3 Data (PlanVariables × View)}
    (shown : projectionOf (planRules rest payloads)
      ((recoverInterruptedRuns rest payloads naming sources [sessionId] log).2 sessionId) =
        some after) : SettledSession rest after := by
  obtain ⟨commit, after', done, shown', settled, _⟩ := fully
  rw [done] at shown
  dsimp only at shown
  rw [Function.update_self] at shown
  exact Option.mem_unique shown' shown ▸ settled

theorem planLog_kept (events : List PlanEventV3)
    (valid : validateSessionCommitV3 (planRules planDigestRules eventPayloads)
      (planCommit events) = .ok (planCommit events))
    {projection : SessionProjectionV3 (Option PlanEventV3) (PlanVariables × Unit)}
    (reduced : reduceSessionEntriesV3 (planRules planDigestRules eventPayloads)
      (planCommit events).entries = .ok projection) :
    Kept (planRules planDigestRules eventPayloads) "session-1" (planLog events "session-1") :=
  Kept.nil.append valid rfl (by simp) rfl ⟨projection, reduced⟩

theorem startup_recovery_running :
    RecoversFully planDigestRules eventPayloads .all (fun _ => [fourIds]) "session-1"
      (planLog runningStep) := by
  have accepted : (reduceSessionEntriesV3 (planRules planDigestRules eventPayloads)
      (planCommit runningStep).entries).toOption.any (fun projection =>
        projectionHasRecoverableRun projection &&
          decide ((recoveryDrafts planDigestRules eventPayloads projection).length = 4) &&
          decide (RecoverableSession planDigestRules projection 6)) = true := by
    decide +kernel
  obtain ⟨projection, reduced, shown⟩ := exists_ok accepted
  simp only [Bool.and_eq_true, decide_eq_true_eq] at shown
  obtain ⟨⟨recoverable, count⟩, fully⟩ := shown
  have kept := planLog_kept runningStep (by decide +kernel) reduced
  have spares : Spares planDigestRules eventPayloads :=
    ⟨(Spares.plain eventPayloads).valid, (Spares.plain eventPayloads).apply⟩
  have digest : isSha256
      "sha256:0000000000000000000000000000000000000000000000000000000000000000" = true := by
    decide +kernel
  refine (startup_recovery_iff planDigestRules eventPayloads spares (fun _ => digest) .all
    (fun _ => [fourIds]) "session-1" (planLog runningStep) projection kept
    (projectionOf_eq_some.mpr reduced) recoverable rfl rfl (List.cons_ne_nil _ _)
    fun attempt member => ?_).mpr fully
  obtain rfl := List.mem_singleton.mp member
  rw [count]
  exact
    { now := by decide +kernel
      token := by decide +kernel
      entryTokens := by decide +kernel
      distinct := by decide +kernel
      newCommit := by decide +kernel
      newEntries := by decide +kernel }

theorem startup_recovery_leaves_step :
    Kept (planRules planDigestRules eventPayloads) "session-1"
        (planLog (runningStep ++ [cancelledAttempt]) "session-1") ∧
      (∃ projection, projectionOf (planRules planDigestRules eventPayloads)
          (planLog (runningStep ++ [cancelledAttempt]) "session-1") = some projection ∧
        projectionHasRecoverableRun projection = true) ∧
      ¬ RecoversFully planDigestRules eventPayloads .all (fun _ => [fourIds]) "session-1"
        (planLog (runningStep ++ [cancelledAttempt])) := by
  have accepted : (reduceSessionEntriesV3 (planRules planDigestRules eventPayloads)
      (planCommit (runningStep ++ [cancelledAttempt])).entries).toOption.any
        projectionHasRecoverableRun = true := by decide +kernel
  obtain ⟨projection, reduced, recoverable⟩ := exists_ok accepted
  refine ⟨planLog_kept _ (by decide +kernel) reduced,
    ⟨projection, projectionOf_eq_some.mpr reduced, recoverable⟩, fun fully => ?_⟩
  have left : (projectionOf (planRules planDigestRules eventPayloads)
      ((recoverInterruptedRuns planDigestRules eventPayloads .all (fun _ => [fourIds])
        ["session-1"] (planLog (runningStep ++ [cancelledAttempt]))).2 "session-1")).any
      (fun after => (planGraphOf planDigestRules after).any fun plan =>
        plan.steps.any fun step => step.state.active) = true := by
    decide +kernel
  rw [Option.any_eq_true] at left
  obtain ⟨after, shown, active⟩ := left
  rw [Option.any_eq_true] at active
  obtain ⟨plan, there, step⟩ := active
  obtain ⟨step, member, active⟩ := List.any_eq_true.mp step
  have inactive := (((fully.settled shown).plan plan there).settled step member).inactive
  rw [active] at inactive
  cases inactive

end Praxis.Session
