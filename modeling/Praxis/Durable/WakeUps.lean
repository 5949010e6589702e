import Praxis.Durable.ResourceTables

/-!
# Wake-ups

A signal, a timer that is due and a decision on a human task wake a workflow. Each is one
transaction that appends one event of its kind, ends the node that waits for it, and resumes the
workflow if that waits (`Wake`). A call of the authority is a run of wake-ups: `fireDueTimers`
is one for each timer that it fires.

Four entry points race for the same workflow. `expireDueHumanTasks` lists its candidates before
it resolves them, and other calls may come between, so it is a reading that leaves a list behind
and one call for each entry of the list. In every interleaving each signal, timer and human task
wakes its workflow at most once, and only the first wake-up of a waiting workflow resumes it
(`wakeRun_once`).
-/

namespace Praxis.Workflow

set_option autoImplicit false

open Praxis.Foundations

/-! ## One wake-up -/

/-- What wakes a workflow: a signal, a timer, or a human task as it was resolved. -/
inductive WakeUp where
  | signal (input : WorkflowSignalV1)
  | timer (timer : WorkflowTimerV1)
  | humanTask (task : WorkflowHumanTaskV1)

namespace WakeUp

def workflowId : WakeUp → String
  | signal input => input.workflowId
  | timer fired => fired.workflowId
  | humanTask task => task.workflowId

def event : WakeUp → WorkflowEventDataV1
  | signal input => .signalReceived input.signalId input.name
  | timer fired => .timerFired fired.timerId fired.nodeId
  | humanTask task => .humanTaskResolved task.humanTaskId task.nodeId task.state

def records (wake : WakeUp) (workflowId : String) (kind : WorkflowEventDataV1 → Bool) : Bool :=
  wake.workflowId = workflowId ∧ kind wake.event = true

end WakeUp

def WorkflowEventDataV1.isWakeUp : WorkflowEventDataV1 → Bool
  | .signalReceived .. | .timerFired .. | .humanTaskResolved .. => true
  | _ => false

/-- The events that end the node that waited. -/
def WorkflowEventDataV1.endsNode : WorkflowEventDataV1 → Bool
  | .attemptStateChanged _ | .nodeStateChanged _ => true
  | _ => false

/-- The events that record a signal, a timer and a human task. -/
def receivesSignal (signalId : String) : WorkflowEventDataV1 → Bool
  | .signalReceived received _ => received = signalId
  | _ => false

def firesTimer (timerId : String) : WorkflowEventDataV1 → Bool
  | .timerFired fired _ => fired = timerId
  | _ => false

def resolvesHumanTask (humanTaskId : String) : WorkflowEventDataV1 → Bool
  | .humanTaskResolved resolved _ _ => resolved = humanTaskId
  | _ => false

variable {data : WorkflowEventDataV1}

theorem isWakeUp_of_receivesSignal (signalId : String)
    (records : receivesSignal signalId data = true) : data.isWakeUp = true := by
  cases data with
  | signalReceived => rfl
  | _ => cases records

theorem isWakeUp_of_firesTimer (timerId : String) (records : firesTimer timerId data = true) :
    data.isWakeUp = true := by
  cases data with
  | timerFired => rfl
  | _ => cases records

theorem isWakeUp_of_resolvesHumanTask (humanTaskId : String)
    (records : resolvesHumanTask humanTaskId data = true) : data.isWakeUp = true := by
  cases data with
  | humanTaskResolved => rfl
  | _ => cases records

def WorkflowEventDataV1.isResumed : WorkflowEventDataV1 → Bool
  | .workflowResumed => true
  | _ => false

theorem WorkflowEventDataV1.endsNode_only (ends : data.endsNode = true) :
    data.isWakeUp = false ∧ data.isResumed = false ∧
      ∀ projection, data.announces projection = none := by
  cases data with
  | attemptStateChanged | nodeStateChanged => exact ⟨rfl, rfl, fun _ => rfl⟩
  | _ => cases ends

structure Woken (before after : Journal) (wake : WakeUp) : Prop where
  appended : ∃ transactionId at_ current next ending,
    Appended before after wake.workflowId transactionId at_
      (wake.event :: (ending ++ resumeIfWaiting current)) current next ∧
    ∀ event ∈ ending, event.endsNode = true

inductive WakeTables (before after : AuthorityStore) : WakeUp → Prop
  | signal {input : WorkflowSignalV1}
      (added : before.signals.insert (input.workflowId, input.signalId) input = some after.signals)
      (timers : after.timers = before.timers)
      (humanTasks : after.humanTasks = before.humanTasks) : WakeTables before after (.signal input)
  | timer {row : TimerRow} {now : Timestamp}
      (found : before.timers.get? row.timer.timerId = some row) (unfired : row.firedAt = none)
      (timers : after.timers = before.timers.update row.timer.timerId
        { row with firedAt := some now })
      (signals : after.signals = before.signals)
      (humanTasks : after.humanTasks = before.humanTasks) :
      WakeTables before after (.timer row.timer)
  | humanTask {task : WorkflowHumanTaskV1} {state : HumanResolutionV1} {resolution : Json}
      (found : before.humanTasks.get? task.humanTaskId = some task)
      (waiting : task.state = .waiting)
      (humanTasks : after.humanTasks = before.humanTasks.update task.humanTaskId
        { task with state := state.toState, resolution := some resolution })
      (signals : after.signals = before.signals) (timers : after.timers = before.timers) :
      WakeTables before after
        (.humanTask { task with state := state.toState, resolution := some resolution })

structure Wake (before : AuthorityStore) (wake : WakeUp) (after : AuthorityStore) : Prop where
  journal : Woken before.journal after.journal wake
  tables : WakeTables before after wake

/-! ## Calls -/

def expiresFirst (left right : WorkflowHumanTaskV1) : Bool :=
  let a := (left.expiresAt.map (·.text)).getD ""
  let b := (right.expiresAt.map (·.text)).getD ""
  if a ≠ b then decide (a < b) else decide (left.humanTaskId ≤ right.humanTaskId)

/-- The waiting human tasks whose deadline has passed. -/
def dueHumanTasks (store : AuthorityStore) (now : Timestamp) : List WorkflowHumanTaskV1 :=
  (store.humanTasks.values.filter fun task =>
    task.state == .waiting && task.expiresAt.any (·.textLe now)).insertionSort fun left right =>
      expiresFirst left right

/-- A call of `expireDueHumanTasks` that has listed its candidates. -/
structure Expiry where
  now : Timestamp
  remaining : List String

/-- The store, and the expiries in progress. -/
structure WakeSystem where
  store : AuthorityStore
  expiries : List Expiry := []

inductive WakeCall where
  | signal (input : WorkflowSignalV1)
  | fireDueTimers (now : Timestamp)
  | resolveHumanTask (humanTaskId : String) (state : HumanResolutionV1) (resolution : Json)
      (at_ : Timestamp)
  | expireDueHumanTasks (now : Timestamp)
  | expireNext (index : Nat)

inductive WakeAnswer where
  | received (workflowId signalId : String) (fresh : Bool)
  | fired (timers : List WorkflowTimerV1)
  | resolved (humanTaskId : String) (task : WorkflowHumanTaskV1)
  | listed
  | idle
  | rejected (error : WorkflowError)

namespace WakeSystem

variable (system : WakeSystem)

def answered {α : Type} (answer : α → WakeAnswer)
    (result : Except WorkflowError (α × AuthorityStore)) : WakeAnswer × WakeSystem :=
  match result with
  | .ok (value, store) => (answer value, { system with store })
  | .error error => (.rejected error, system)

/-- One resolution of an expiry: a rejection ends the expiry. -/
def expire (index : Nat) (expiry : Expiry) : WakeAnswer × WakeSystem :=
  match expiry.remaining with
  | [] => (.idle, system)
  | humanTaskId :: rest =>
    match resolveHumanTask system.store humanTaskId .expired
        (.obj [("reason", .str "deadline")]) expiry.now with
    | .ok (task, store) =>
      (.resolved humanTaskId task,
        { store, expiries := system.expiries.set index { expiry with remaining := rest } })
    | .error error =>
      (.rejected error,
        { system with expiries := system.expiries.set index { expiry with remaining := [] } })

def perform : WakeCall → WakeAnswer × WakeSystem
  | .signal input =>
    system.answered (.received input.workflowId input.signalId) (signal system.store input)
  | .fireDueTimers now => system.answered .fired (fireDueTimers system.store now)
  | .resolveHumanTask humanTaskId state resolution at_ =>
    system.answered (.resolved humanTaskId)
      (resolveHumanTask system.store humanTaskId state resolution at_)
  | .expireDueHumanTasks now =>
    if now.valid then
      (.listed, { system with
        expiries := system.expiries ++
          [⟨now, (dueHumanTasks system.store now).map (·.humanTaskId)⟩] })
    else (.rejected .workflowHumanTaskInvalid, system)
  | .expireNext index =>
    match system.expiries[index]? with
    | some expiry => system.expire index expiry
    | none => (.idle, system)

def run : WakeSystem → List WakeCall → List WakeAnswer × WakeSystem
  | system, [] => ([], system)
  | system, call :: rest =>
    let first := system.perform call
    let others := first.2.run rest
    (first.1 :: others.1, others.2)

end WakeSystem

/-! ## What one wake-up does -/

section OneWake

variable {before after : AuthorityStore} {wake : WakeUp}

theorem WakeUp.event_isWakeUp (wake : WakeUp) : wake.event.isWakeUp = true := by
  cases wake <;> rfl

variable {projection : WorkflowProjectionV1} {journal written : Journal}

theorem wakeNodeEvents_endsNode {nodeId : String} {kind : WorkflowNodeKindV1}
    {attemptState : WorkflowAttemptStateV1} {nodeState : WorkflowNodeStateV1} {code : Option String}
    {at_ : Timestamp} :
    ∀ event ∈ wakeNodeEvents projection nodeId kind attemptState nodeState code at_,
      event.endsNode = true := by
  intro event member
  unfold wakeNodeEvents at member
  split at member
  · split at member
    · split at member
      · rcases List.mem_cons.mp member with rfl | other
        · rfl
        · obtain rfl := List.mem_singleton.mp other
          rfl
      · cases member
    · cases member
  · cases member

theorem Woken.state (woken : Woken journal written wake) (agrees : journal.Agrees)
    {workflowId : String} (loaded : journal.loadProjection workflowId = .ok projection) :
    ∃ next, written.loadProjection workflowId = .ok next ∧
      next.state = if wake.workflowId = workflowId ∧ projection.state = .waiting then .running
        else projection.state := by
  obtain ⟨transactionId, at_, current, next, ending, appended, ends⟩ := woken.appended
  by_cases own : wake.workflowId = workflowId
  · subst own
    obtain rfl : current = projection := by simpa [loaded] using appended.loaded.symm
    refine ⟨next, by rw [appended.loadProjection agrees, if_pos rfl], ?_⟩
    obtain ⟨content, applies, same⟩ := appended.advances.applies
    obtain ⟨first, recorded, rest⟩ := applies_cons.mp applies
    obtain ⟨middle, ended, resumed⟩ := applies_append.mp rest
    -- The record of the wake-up and the end of the node leave the state of the workflow.
    have kept : middle.state = current.state := by
      have quiet : first.state = current.state :=
        recorded.state_eq (by cases wake <;> exact fun _ => rfl)
      have silent := ended.state_eq fun event member =>
        (WorkflowEventDataV1.endsNode_only (ends event member)).2.2
      exact silent.trans quiet
    rw [same]
    change content.state = _
    rw [resumeIfWaiting] at resumed
    by_cases waiting : current.state = .waiting
    · rw [if_pos waiting, applies_singleton] at resumed
      rw [if_pos ⟨rfl, waiting⟩]
      cases resumed with
      | announced announces =>
        obtain ⟨rfl, _⟩ := Prod.mk.inj (Option.some.inj announces)
        rfl
      | recorded only => cases only
    · rw [if_neg waiting, applies_nil] at resumed
      rw [if_neg fun both => waiting both.2, resumed, kept]
  · refine ⟨projection, ?_, ?_⟩
    · rw [appended.loadProjection agrees, if_neg fun same => own same.symm]
      exact loaded
    · rw [if_neg fun both => own both.1]

theorem Woken.logData (woken : Woken journal written wake) (agrees : journal.Agrees)
    (workflowId : String) : ∃ current ending, journal.loadProjection wake.workflowId = .ok current ∧
      (∀ event ∈ ending, WorkflowEventDataV1.endsNode event = true) ∧
      (written.log workflowId).map (·.data) = (journal.log workflowId).map (·.data) ++
        if workflowId = wake.workflowId then wake.event :: (ending ++ resumeIfWaiting current)
        else [] := by
  obtain ⟨transactionId, at_, current, next, ending, appended, ends⟩ := woken.appended
  refine ⟨current, ending, appended.loaded, ends, ?_⟩
  rw [appended.log_data agrees]

/-- How many events of a kind the log of a workflow has. -/
def Journal.countEvents (journal : Journal) (workflowId : String)
    (kind : WorkflowEventDataV1 → Bool) : Nat :=
  ((journal.log workflowId).map (·.data)).countP kind

theorem Woken.countEvents (woken : Woken journal written wake) (agrees : journal.Agrees)
    (workflowId : String) {kind : WorkflowEventDataV1 → Bool}
    (only : ∀ data, kind data = true → data.isWakeUp = true) :
    written.countEvents workflowId kind = journal.countEvents workflowId kind +
      if wake.records workflowId kind = true then 1 else 0 := by
  obtain ⟨current, ending, _, ends, data⟩ := woken.logData agrees workflowId
  rw [Journal.countEvents, data, List.countP_append, ← Journal.countEvents]
  by_cases own : workflowId = wake.workflowId
  · have quiet : (ending ++ resumeIfWaiting current).countP kind = 0 := by
      refine List.countP_eq_zero.mpr fun event member here => ?_
      have records := only event here
      rcases List.mem_append.mp member with ended | resumed
      · rw [(WorkflowEventDataV1.endsNode_only (ends event ended)).1] at records
        cases records
      · rw [resumeIfWaiting] at resumed
        split at resumed
        · obtain rfl := List.mem_singleton.mp resumed
          cases records
        · cases resumed
    rw [if_pos own, List.countP_cons, quiet, Nat.zero_add]
    simp [own, WakeUp.records]
  · have other : ¬ wake.records workflowId kind = true := by
      simp only [WakeUp.records, decide_eq_true_eq]
      exact fun both => own both.1.symm
    rw [if_neg own, List.countP_nil, if_neg other]

theorem Wake.agrees (step : Wake before wake after) (agrees : before.journal.Agrees) :
    after.journal.Agrees := by
  obtain ⟨_, _, _, _, _, appended, _⟩ := step.journal.appended
  exact appended.agrees agrees

end OneWake

/-! ## Runs of wake-ups -/

/-- Wake-ups one after the other. -/
abbrev Wakes := Run Wake

section Runs

variable {before after : AuthorityStore} {wakes : List WakeUp}

theorem Wakes.agrees (run : Wakes before wakes after) (agrees : before.journal.Agrees) :
    after.journal.Agrees :=
  run.invariant (fun store => store.journal.Agrees) (fun held step => step.agrees held) agrees

theorem Wakes.countEvents (run : Wakes before wakes after) (agrees : before.journal.Agrees)
    (workflowId : String) {kind : WorkflowEventDataV1 → Bool}
    (only : ∀ data, kind data = true → data.isWakeUp = true) :
    after.journal.countEvents workflowId kind = before.journal.countEvents workflowId kind +
      wakes.countP (·.records workflowId kind) := by
  induction run with
  | nil => rfl
  | snoc front last ih =>
    rw [last.journal.countEvents (Wakes.agrees front agrees) workflowId only, ih,
      List.countP_append, List.countP_singleton]
    omega

/-- What wake-ups add to the log of a workflow: a waiting workflow is resumed by the first of
them and by no other, and a workflow that does not wait is not resumed. -/
structure ResumedByFirst (waiting : Prop) (added : List WorkflowEventDataV1) : Prop where
  first : waiting → added ≠ [] → ∃ wake ending rest,
    added = wake :: (ending ++ .workflowResumed :: rest) ∧ wake.isWakeUp = true ∧
      (∀ event ∈ ending, event.endsNode = true) ∧ ∀ event ∈ rest, event.isResumed = false
  other : ¬ waiting → ∀ event ∈ added, event.isResumed = false

theorem Wakes.state (run : Wakes before wakes after) (agrees : before.journal.Agrees)
    {workflowId : String} {projection : WorkflowProjectionV1}
    (loaded : before.journal.loadProjection workflowId = .ok projection) :
    ∃ next added, after.journal.loadProjection workflowId = .ok next ∧
      (after.journal.log workflowId).map (·.data) =
        (before.journal.log workflowId).map (·.data) ++ added ∧
      next.state = (if projection.state = .waiting ∧ added ≠ [] then .running
        else projection.state) ∧
      ResumedByFirst (projection.state = .waiting) added := by
  induction run with
  | nil => exact ⟨projection, [], loaded, by simp, by simp, by simp, by simp⟩
  | @snoc middle final labels label front last ih =>
    obtain ⟨current, added, here, data, state, resumed⟩ := ih
    have held := Wakes.agrees front agrees
    obtain ⟨next, there, state'⟩ := last.journal.state held here
    obtain ⟨owner, ending, ownerLoaded, ends, data'⟩ := last.journal.logData held workflowId
    by_cases own : workflowId = label.workflowId
    · subst own
      obtain rfl : owner = current := by simpa [here] using ownerLoaded.symm
      rw [if_pos rfl, data, List.append_assoc] at data'
      have quiet : ∀ event ∈ label.event :: ending, event.isResumed = false := by
        intro event member
        rcases List.mem_cons.mp member with rfl | ended
        · cases label <;> rfl
        · exact (WorkflowEventDataV1.endsNode_only (ends event ended)).2.1
      refine ⟨next, _, there, data', ?_, ?_⟩
      · rw [state', state]
        by_cases waiting : projection.state = .waiting
        · by_cases none : added = [] <;> simp [waiting, none]
        · simp [waiting]
      · -- The workflow still waits exactly if it waited and nothing has woken it.
        by_cases waits : projection.state = .waiting ∧ added = []
        · obtain ⟨waiting, rfl⟩ := waits
          have still : owner.state = .waiting := by rw [state]; simp [waiting]
          refine ⟨fun _ _ => ?_, fun running => absurd waiting running⟩
          rw [resumeIfWaiting, if_pos still]
          exact ⟨label.event, ending, [], rfl, label.event_isWakeUp, ends, by simp⟩
        · have awake : owner.state ≠ .waiting := by
            rw [state]
            by_cases waiting : projection.state = .waiting
            · have woken : added ≠ [] := fun none => waits ⟨waiting, none⟩
              rw [if_pos ⟨waiting, woken⟩]
              decide
            · rw [if_neg fun both => waiting both.1]
              exact waiting
          rw [resumeIfWaiting, if_neg awake, List.append_nil]
          refine ⟨fun waiting _ => ?_, fun running event member => ?_⟩
          · obtain ⟨wake, end_, rest, rfl, wakes, ended, silent⟩ :=
              resumed.first waiting fun none => waits ⟨waiting, none⟩
            refine ⟨wake, end_, rest ++ label.event :: ending, by simp, wakes, ended, ?_⟩
            intro event member
            rcases List.mem_append.mp member with old | new
            · exact silent event old
            · exact quiet event new
          · rcases List.mem_append.mp member with old | new
            · exact resumed.other running event old
            · exact quiet event new
    · rw [if_neg own, List.append_nil] at data'
      refine ⟨next, added, there, data'.trans data, ?_, resumed⟩
      rw [state', if_neg fun both => own both.1.symm, state]

/-! ### Each source of wake-ups -/

def AuthorityStore.hasReceived (store : AuthorityStore) (workflowId signalId : String) : Bool :=
  store.signals.contains (workflowId, signalId)

def AuthorityStore.hasFired (store : AuthorityStore) (workflowId timerId : String) : Bool :=
  (store.timers.get? timerId).any fun row =>
    row.timer.workflowId == workflowId && row.firedAt.isSome

def AuthorityStore.hasResolved (store : AuthorityStore) (workflowId humanTaskId : String) : Bool :=
  (store.humanTasks.get? humanTaskId).any fun task =>
    task.workflowId == workflowId && task.state != .waiting

/-- One if a flag that stays set is set between two moments. -/
def newly (before after : Bool) : Nat :=
  if before = true then 0 else if after = true then 1 else 0

theorem HumanResolutionV1.toState_ne_waiting (state : HumanResolutionV1) :
    state.toState ≠ .waiting := by
  cases state <;> exact nofun

variable (run : Wakes before wakes after)
include run

theorem Wakes.signals (workflowId signalId : String) :
    (before.hasReceived workflowId signalId = true → after.hasReceived workflowId signalId = true) ∧
    wakes.countP (·.records workflowId (receivesSignal signalId)) =
      newly (before.hasReceived workflowId signalId) (after.hasReceived workflowId signalId) := by
  have one : ∀ {s : AuthorityStore} {wake : WakeUp} {t : AuthorityStore}, Wake s wake t →
      (s.hasReceived workflowId signalId = true → t.hasReceived workflowId signalId = true) ∧
      (wake.records workflowId (receivesSignal signalId) = true ↔
        ¬ s.hasReceived workflowId signalId = true ∧
          t.hasReceived workflowId signalId = true) := by
    intro s wake t step
    cases step.tables with
    | @signal input added timers humanTasks =>
      have rows := Table.get?_of_insert added (workflowId, signalId)
      obtain ⟨absent, _⟩ := s.signals.insert_eq_some_iff.mp added
      rw [AuthorityStore.hasReceived, AuthorityStore.hasReceived, Table.contains, Table.contains,
        rows, WakeUp.records, decide_eq_true_eq]
      by_cases here : (workflowId, signalId) = (input.workflowId, input.signalId)
      · obtain ⟨rfl, rfl⟩ := Prod.mk.inj here
        simp [absent, WakeUp.workflowId, WakeUp.event, receivesSignal]
      · have other : ¬ (input.workflowId = workflowId ∧ input.signalId = signalId) := by
          rintro ⟨rfl, rfl⟩
          exact here rfl
        simp [here, other, WakeUp.workflowId, WakeUp.event, receivesSignal]
    | timer _ _ _ signals =>
      simp [AuthorityStore.hasReceived, signals, WakeUp.records, WakeUp.event, receivesSignal]
    | humanTask _ _ _ signals =>
      simp [AuthorityStore.hasReceived, signals, WakeUp.records, WakeUp.event, receivesSignal]
  exact run.countP_sets (fun store => store.hasReceived workflowId signalId = true) _
    (fun step => (one step).1) (fun step => (one step).2)

theorem Wakes.timers (workflowId timerId : String) :
    wakes.countP (·.records workflowId (firesTimer timerId)) =
      newly (before.hasFired workflowId timerId) (after.hasFired workflowId timerId) := by
  have one : ∀ {s : AuthorityStore} {wake : WakeUp} {t : AuthorityStore}, Wake s wake t →
      (s.hasFired workflowId timerId = true → t.hasFired workflowId timerId = true) ∧
      (wake.records workflowId (firesTimer timerId) = true ↔
        ¬ s.hasFired workflowId timerId = true ∧ t.hasFired workflowId timerId = true) := by
    intro s wake t step
    cases step.tables with
    | signal _ timers =>
      simp [AuthorityStore.hasFired, timers, WakeUp.records, WakeUp.event, firesTimer]
    | humanTask _ _ _ _ timers =>
      simp [AuthorityStore.hasFired, timers, WakeUp.records, WakeUp.event, firesTimer]
    | @timer row now found unfired timers =>
      simp only [AuthorityStore.hasFired, timers, Table.get?_update, WakeUp.records,
        WakeUp.workflowId, WakeUp.event, firesTimer, decide_eq_true_eq]
      by_cases here : timerId = row.timer.timerId
      · subst here
        simp [found, unfired]
      · have other : ¬ row.timer.timerId = timerId := fun equal => here equal.symm
        simp [here, other]
  exact (run.countP_sets (fun store => store.hasFired workflowId timerId = true) _
    (fun step => (one step).1) (fun step => (one step).2)).2

theorem Wakes.humanTasks (workflowId humanTaskId : String) :
    wakes.countP (·.records workflowId (resolvesHumanTask humanTaskId)) =
      newly (before.hasResolved workflowId humanTaskId)
        (after.hasResolved workflowId humanTaskId) := by
  have one : ∀ {s : AuthorityStore} {wake : WakeUp} {t : AuthorityStore}, Wake s wake t →
      (s.hasResolved workflowId humanTaskId = true → t.hasResolved workflowId humanTaskId = true) ∧
      (wake.records workflowId (resolvesHumanTask humanTaskId) = true ↔
        ¬ s.hasResolved workflowId humanTaskId = true ∧
          t.hasResolved workflowId humanTaskId = true) := by
    intro s wake t step
    cases step.tables with
    | signal _ _ humanTasks =>
      simp [AuthorityStore.hasResolved, humanTasks, WakeUp.records, WakeUp.event, resolvesHumanTask]
    | timer _ _ _ _ humanTasks =>
      simp [AuthorityStore.hasResolved, humanTasks, WakeUp.records, WakeUp.event, resolvesHumanTask]
    | @humanTask task state resolution found waiting humanTasks =>
      have resolved := state.toState_ne_waiting
      simp only [AuthorityStore.hasResolved, humanTasks, Table.get?_update, WakeUp.records,
        WakeUp.workflowId, WakeUp.event, resolvesHumanTask, decide_eq_true_eq]
      by_cases here : humanTaskId = task.humanTaskId
      · subst here
        simp [found, waiting, resolved]
      · have other : ¬ task.humanTaskId = humanTaskId := fun equal => here equal.symm
        simp [here, other]
  exact (run.countP_sets (fun store => store.hasResolved workflowId humanTaskId = true) _
    (fun step => (one step).1) (fun step => (one step).2)).2

theorem Wakes.humanTask_kept {humanTaskId : String}
    {task : WorkflowHumanTaskV1} (found : before.humanTasks.get? humanTaskId = some task)
    (settled : task.state ≠ .waiting) : after.humanTasks.get? humanTaskId = some task := by
  induction run with
  | nil => exact found
  | snoc _ last ih =>
    cases last.tables with
    | signal _ _ humanTasks => rw [humanTasks, ih]
    | timer _ _ _ _ humanTasks => rw [humanTasks, ih]
    | @humanTask resolved state resolution there waiting humanTasks =>
      by_cases here : humanTaskId = resolved.humanTaskId
      · subst here
        obtain rfl := Option.mem_unique ih there
        exact absurd waiting settled
      · rw [humanTasks, Table.get?_update_ne _ _ here, ih]

end Runs

/-! ## Calls are runs of wake-ups -/

section Calls

variable {store after : AuthorityStore} {now : Timestamp}

theorem signal_wakes {input : WorkflowSignalV1} {fresh : Bool}
    (accepted : signal store input = .ok (fresh, after)) :
    Wakes store (if fresh then [.signal input] else []) after ∧
      after.hasReceived input.workflowId input.signalId = true := by
  rcases signal_ok accepted with
    ⟨rfl, refused, rfl⟩ | ⟨signals, journal, current, next, rfl, inserted, rfl, written⟩
  · exact ⟨.nil, Table.contains_of_insert_eq_none refused⟩
  · have wake : Wake store (.signal input) { store with signals, journal } :=
      ⟨⟨_, _, _, _, [], written, by simp⟩, .signal inserted rfl rfl⟩
    refine ⟨.snoc .nil wake, ?_⟩
    have rows := Table.get?_of_insert inserted (input.workflowId, input.signalId)
    simp [AuthorityStore.hasReceived, Table.contains, rows]

theorem fireDueTimers_wakes {fired : List WorkflowTimerV1}
    (filed : Filed store) (accepted : fireDueTimers store now = .ok (fired, after)) :
    Wakes store (fired.map .timer) after := by
  simp only [fireDueTimers, bind_eq_ok, ensure_eq_ok] at accepted
  obtain ⟨_, _, run⟩ := accepted
  refine fireTimers_listed (fun fired later => Wakes store (fired.map .timer) later)
    (fun row _ fired before fired' middle wakes found waiting fires => ?_)
    (dueTimers_apart filed) (dueTimers_stored filed) .nil run
  obtain ⟨_, _, _, rfl, rfl, appended⟩ := fireTimer_ok fires
  rw [List.map_append]
  exact wakes.snoc
    ⟨⟨_, _, _, _, _, appended, wakeNodeEvents_endsNode⟩, .timer found waiting rfl rfl rfl⟩

theorem resolveHumanTask_wakes {humanTaskId : String} {state : HumanResolutionV1}
    {resolution : Json} {at_ : Timestamp} {task : WorkflowHumanTaskV1} (filed : Filed store)
    (accepted : resolveHumanTask store humanTaskId state resolution at_ = .ok (task, after)) :
    (∃ wakes, Wakes store wakes after ∧ ∀ wake ∈ wakes, wake = .humanTask task) ∧
      after.humanTasks.get? humanTaskId = some task ∧ task.state ≠ .waiting := by
  rcases resolveHumanTask_ok accepted with
    ⟨found, settled, rfl⟩ | ⟨stored, journal, _, _, found, waiting, rfl, rfl, written⟩
  · exact ⟨⟨[], .nil, by simp⟩, found, settled⟩
  · obtain rfl := filed.humanTasks humanTaskId stored found
    let resolved : WorkflowHumanTaskV1 :=
      { stored with state := state.toState, resolution := some resolution }
    have wake : Wake store (.humanTask resolved) { store with
        journal
        humanTasks := store.humanTasks.update stored.humanTaskId resolved } :=
      ⟨⟨_, _, _, _, _, written, wakeNodeEvents_endsNode⟩, .humanTask found waiting rfl rfl rfl⟩
    exact ⟨⟨[_], .snoc .nil wake, by simp [resolved]⟩, Table.get?_update_self _ _ found,
      state.toState_ne_waiting⟩

end Calls

/-! ## Interleavings -/

def WakeAnswer.signals : WakeAnswer → List (String × String)
  | .received workflowId signalId true => [(workflowId, signalId)]
  | _ => []

def WakeAnswer.timers : WakeAnswer → List (String × String)
  | .fired timers => timers.map fun timer => (timer.workflowId, timer.timerId)
  | _ => []

/-- The answers of some calls, the wake-ups that the calls made, and the store they left. -/
structure Answered (answers : List WakeAnswer) (wakes : List WakeUp) (after : AuthorityStore) :
    Prop where
  signals : ∀ workflowId signalId, (answers.flatMap (·.signals)).count (workflowId, signalId) =
    wakes.countP (·.records workflowId (receivesSignal signalId))
  timers : ∀ workflowId timerId, (answers.flatMap (·.timers)).count (workflowId, timerId) =
    wakes.countP (·.records workflowId (firesTimer timerId))
  received : ∀ workflowId signalId fresh, .received workflowId signalId fresh ∈ answers →
    after.hasReceived workflowId signalId = true
  resolved : ∀ humanTaskId task, .resolved humanTaskId task ∈ answers →
    after.humanTasks.get? humanTaskId = some task ∧ task.state ≠ .waiting

/-- The store before and after a run of calls, and their answers: every wake-up happened once. -/
structure WakesOnce (before : AuthorityStore) (result : List WakeAnswer × WakeSystem) : Prop where
  signal : ∀ workflowId signalId,
    (result.1.flatMap (·.signals)).count (workflowId, signalId) =
      newly (before.hasReceived workflowId signalId)
        (result.2.store.hasReceived workflowId signalId) ∧
    result.2.store.journal.countEvents workflowId (receivesSignal signalId) =
      before.journal.countEvents workflowId (receivesSignal signalId) +
        newly (before.hasReceived workflowId signalId)
          (result.2.store.hasReceived workflowId signalId)
  received : ∀ workflowId signalId fresh, .received workflowId signalId fresh ∈ result.1 →
    result.2.store.hasReceived workflowId signalId = true
  timer : ∀ workflowId timerId,
    (result.1.flatMap (·.timers)).count (workflowId, timerId) =
      newly (before.hasFired workflowId timerId)
        (result.2.store.hasFired workflowId timerId) ∧
    result.2.store.journal.countEvents workflowId (firesTimer timerId) =
      before.journal.countEvents workflowId (firesTimer timerId) +
        newly (before.hasFired workflowId timerId) (result.2.store.hasFired workflowId timerId)
  humanTask : ∀ workflowId humanTaskId,
    result.2.store.journal.countEvents workflowId (resolvesHumanTask humanTaskId) =
      before.journal.countEvents workflowId (resolvesHumanTask humanTaskId) +
        newly (before.hasResolved workflowId humanTaskId)
          (result.2.store.hasResolved workflowId humanTaskId)
  resolved : ∀ humanTaskId task, .resolved humanTaskId task ∈ result.1 →
    result.2.store.humanTasks.get? humanTaskId = some task ∧ task.state ≠ .waiting
  settled : ∀ humanTaskId task, before.humanTasks.get? humanTaskId = some task →
    task.state ≠ .waiting → result.2.store.humanTasks.get? humanTaskId = some task
  state : ∀ workflowId projection, before.journal.loadProjection workflowId = .ok projection →
    ∃ next added, result.2.store.journal.loadProjection workflowId = .ok next ∧
      (result.2.store.journal.log workflowId).map (·.data) =
        (before.journal.log workflowId).map (·.data) ++ added ∧
      next.state = (if projection.state = .waiting ∧ added ≠ [] then .running
        else projection.state) ∧
      ResumedByFirst (projection.state = .waiting) added

section Interleavings

variable {store after : AuthorityStore}

theorem Answered.append {middle : AuthorityStore} {answers others : List WakeAnswer}
    {wakes more : List WakeUp} (first : Answered answers wakes middle)
    (run : Wakes middle more after) (second : Answered others more after) :
    Answered (answers ++ others) (wakes ++ more) after where
  signals workflowId signalId := by
    rw [List.flatMap_append, List.count_append, List.countP_append, first.signals, second.signals]
  timers workflowId timerId := by
    rw [List.flatMap_append, List.count_append, List.countP_append, first.timers, second.timers]
  received workflowId signalId fresh member := by
    rcases List.mem_append.mp member with early | late
    · exact (Wakes.signals run workflowId signalId).1
        (first.received workflowId signalId fresh early)
    · exact second.received workflowId signalId fresh late
  resolved humanTaskId task member := by
    rcases List.mem_append.mp member with early | late
    · obtain ⟨found, settled⟩ := first.resolved humanTaskId task early
      exact ⟨Wakes.humanTask_kept run found settled, settled⟩
    · exact second.resolved humanTaskId task late

variable {answer : WakeAnswer} {input : WorkflowSignalV1} {fresh : Bool}

/-- A call that reports nothing. -/
theorem Answered.quiet (signals : answer.signals = []) (timers : answer.timers = [])
    (received : ∀ workflowId signalId fresh, answer ≠ .received workflowId signalId fresh)
    (resolved : ∀ humanTaskId task, answer ≠ .resolved humanTaskId task) :
    Answered [answer] [] store where
  signals := by simp [signals]
  timers := by simp [timers]
  received workflowId signalId fresh member :=
    absurd (List.mem_singleton.mp member).symm (received workflowId signalId fresh)
  resolved humanTaskId task member :=
    absurd (List.mem_singleton.mp member).symm (resolved humanTaskId task)

theorem signal_answered (received : after.hasReceived input.workflowId input.signalId = true) :
    Answered [.received input.workflowId input.signalId fresh]
      (if fresh then [.signal input] else []) after where
  signals workflowId signalId := by
    cases fresh
    · rfl
    · simp [WakeAnswer.signals, List.count_singleton, List.countP_singleton, WakeUp.records,
        WakeUp.workflowId, WakeUp.event, receivesSignal]
  timers workflowId timerId := by
    cases fresh <;> simp [WakeAnswer.timers, WakeUp.records, WakeUp.event, firesTimer]
  received workflowId signalId _ member := by
    obtain ⟨rfl, rfl, _⟩ := WakeAnswer.received.inj (List.mem_singleton.mp member)
    exact received
  resolved _ _ member := nomatch List.mem_singleton.mp member

theorem fireDueTimers_answered {fired : List WorkflowTimerV1} :
    Answered [.fired fired] (fired.map .timer) after where
  signals workflowId signalId := by
    simp [WakeAnswer.signals, WakeUp.records, WakeUp.event, receivesSignal, List.countP_map,
      Function.comp_def]
  timers workflowId timerId := by
    rw [List.flatMap_singleton, WakeAnswer.timers, List.count, List.countP_map, List.countP_map]
    refine List.countP_congr fun timer _ => ?_
    simp [WakeUp.records, WakeUp.workflowId, WakeUp.event, firesTimer]
  received _ _ _ member := nomatch List.mem_singleton.mp member
  resolved _ _ member := nomatch List.mem_singleton.mp member

theorem resolveHumanTask_answered {humanTaskId : String} {task : WorkflowHumanTaskV1}
    {wakes : List WakeUp} (only : ∀ wake ∈ wakes, wake = .humanTask task)
    (stored : after.humanTasks.get? humanTaskId = some task) (settled : task.state ≠ .waiting) :
    Answered [.resolved humanTaskId task] wakes after where
  signals workflowId signalId := by
    refine (List.countP_eq_zero.mpr fun wake member records => ?_).symm
    rw [only wake member] at records
    simp [WakeUp.records, WakeUp.event, receivesSignal] at records
  timers workflowId timerId := by
    refine (List.countP_eq_zero.mpr fun wake member records => ?_).symm
    rw [only wake member] at records
    simp [WakeUp.records, WakeUp.event, firesTimer] at records
  received _ _ _ member := nomatch List.mem_singleton.mp member
  resolved other resolved member := by
    obtain ⟨rfl, rfl⟩ := WakeAnswer.resolved.inj (List.mem_singleton.mp member)
    exact ⟨stored, settled⟩

theorem signal_resources (accepted : signal store input = .ok (fresh, after)) :
    ResourceSteps store after := by
  rcases signal_ok accepted with ⟨_, _, rfl⟩ | ⟨_, _, _, _, _, _, rfl, _⟩
  · exact .refl _
  · exact .of_same rfl rfl rfl

/-- What a call does to the store: it wakes workflows, and its answer reports them. -/
structure CallWakes (system : WakeSystem) (result : WakeAnswer × WakeSystem) : Prop where
  filed : Filed result.2.store
  wakes : ∃ wakes, Wakes system.store wakes result.2.store ∧
    Answered [result.1] wakes result.2.store

variable {system : WakeSystem}

theorem CallWakes.quiet {expiries : List Expiry} (filed : Filed system.store)
    (answered : Answered [answer] [] system.store) :
    CallWakes system (answer, { system with expiries }) :=
  ⟨filed, [], .nil, answered⟩

theorem Answered.rejected {error : WorkflowError} : Answered [.rejected error] [] store :=
  .quiet rfl rfl nofun nofun

theorem Answered.idle : Answered [.idle] [] store :=
  .quiet rfl rfl nofun nofun

theorem WakeSystem.expire_wakes {index : Nat} {expiry : Expiry} (filed : Filed system.store) :
    CallWakes system (system.expire index expiry) := by
  unfold WakeSystem.expire
  split
  · exact .quiet filed .idle
  · split
    · rename_i accepted
      obtain ⟨⟨wakes, run, only⟩, stored, settled⟩ := resolveHumanTask_wakes filed accepted
      exact ⟨(resolveHumanTask_resources accepted).filed filed, wakes, run,
        resolveHumanTask_answered only stored settled⟩
    · exact .quiet filed .rejected

/-- **A call is a run of wake-ups.** -/
theorem WakeSystem.perform_wakes (call : WakeCall) (filed : Filed system.store) :
    CallWakes system (system.perform call) := by
  cases call with
  | signal input =>
    rw [perform]
    cases accepted : Workflow.signal system.store input with
    | error error => exact .quiet filed .rejected
    | ok result =>
      obtain ⟨run, received⟩ := signal_wakes accepted
      exact ⟨(signal_resources accepted).filed filed, _, run, signal_answered received⟩
  | fireDueTimers now =>
    rw [perform]
    cases accepted : Workflow.fireDueTimers system.store now with
    | error error => exact .quiet filed .rejected
    | ok result =>
      exact ⟨(fireDueTimers_resources filed accepted).filed filed, _,
        fireDueTimers_wakes filed accepted, fireDueTimers_answered⟩
  | resolveHumanTask humanTaskId state resolution at_ =>
    rw [perform]
    cases accepted : Workflow.resolveHumanTask system.store humanTaskId state resolution at_ with
    | error error => exact .quiet filed .rejected
    | ok result =>
      obtain ⟨⟨wakes, run, only⟩, stored, settled⟩ := resolveHumanTask_wakes filed accepted
      exact ⟨(resolveHumanTask_resources accepted).filed filed, wakes, run,
        resolveHumanTask_answered only stored settled⟩
  | expireDueHumanTasks now =>
    rw [perform]
    split
    · exact .quiet filed (.quiet rfl rfl nofun nofun)
    · exact .quiet filed .rejected
  | expireNext index =>
    rw [perform]
    split
    · exact expire_wakes filed
    · exact .quiet filed .idle

theorem WakeSystem.run_wakes (calls : List WakeCall) (filed : Filed system.store) :
    ∃ wakes, Wakes system.store wakes (system.run calls).2.store ∧
      Answered (system.run calls).1 wakes (system.run calls).2.store := by
  induction calls generalizing system with
  | nil => exact ⟨[], .nil, by simp [run], by simp [run], by simp [run], by simp [run]⟩
  | cons call rest ih =>
    obtain ⟨filed', wakes, run, answered⟩ := system.perform_wakes call filed
    obtain ⟨more, others, later⟩ := ih filed'
    exact ⟨wakes ++ more, run.append others, answered.append others later⟩

/-- **Every wake-up happens once, in any interleaving.** From every reachable store, a signal is
reported as received by one call and recorded by one event; a timer is returned by at most one
call and recorded by one event; a human task is resolved once, and every answer about it is its
resolution; the first wake-up of a waiting workflow resumes it, and the state of a workflow that
does not wait stays. -/
theorem wakeRun_once (history : List StoreCall) (calls : List WakeCall) :
    WakesOnce (StoreCall.run .empty history)
      (WakeSystem.run ⟨StoreCall.run .empty history, []⟩ calls) := by
  have filed := StoreCall.run_filed history
  have agrees := StoreCall.run_agrees history
  obtain ⟨wakes, run, answered⟩ :=
    @WakeSystem.run_wakes ⟨StoreCall.run .empty history, []⟩ calls filed
  constructor
  case signal =>
    intro workflowId signalId
    have once := (Wakes.signals run workflowId signalId).2
    have events := Wakes.countEvents run agrees workflowId fun _ =>
      isWakeUp_of_receivesSignal signalId
    exact ⟨(answered.signals workflowId signalId).trans once, once ▸ events⟩
  case timer =>
    intro workflowId timerId
    have once := Wakes.timers run workflowId timerId
    have events := Wakes.countEvents run agrees workflowId fun _ =>
      isWakeUp_of_firesTimer timerId
    exact ⟨(answered.timers workflowId timerId).trans once, once ▸ events⟩
  case humanTask =>
    intro workflowId humanTaskId
    have once := Wakes.humanTasks run workflowId humanTaskId
    have events := Wakes.countEvents run agrees workflowId fun _ =>
      isWakeUp_of_resolvesHumanTask humanTaskId
    exact once ▸ events
  case received => exact answered.received
  case resolved => exact answered.resolved
  case settled => exact fun _ _ found settled => Wakes.humanTask_kept run found settled
  case state => exact fun _ _ loaded => Wakes.state run agrees loaded

end Interleavings

end Praxis.Workflow
