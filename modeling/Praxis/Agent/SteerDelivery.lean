import Praxis.Agent.SteerQueue

/-!
# Delivery of steers

A steer that was accepted is committed once, in the order of the queue, before the run completes or
blocks, if the queue is empty whenever the loop ends the run so, and no steer is queued in a run that
is terminal (`after_delivers`). The loop itself takes care of neither: it looks at the queue before it
waits for `completionGuidance` and not after that nor after a batch, and `queueSteer` looks at the run
before it waits for the mailbox.
-/

namespace Praxis.Agent

set_option autoImplicit false

/-! ## Specification -/

/-- The run ends neither aborted nor failed. -/
def TerminalEvent.quiet : TerminalEvent → Bool
  | .completed | .blocked => true
  | .failed | .aborted => false

/-- What is true of the steers of a run at any time. -/
structure Delivered (run : SteeredRun) : Prop where
  /-- Steers are committed in the order in which they were queued. -/
  order : run.committed <+: run.accepted
  once : run.committed.Nodup
  complete : ∀ event, run.terminal = some event → event.quiet = true → run.committed = run.accepted
  /-- No steer is accepted in a run that is terminal. -/
  live : run.late = []

/-- The loop ends the run without looking at its queue again. -/
def SteeredRun.completes (run : SteeredRun) : LoopEvent → Bool
  | .batched terminalTool _ => decide (run.phase = .batching) && !run.shouldStop && terminalTool
  | .guided guidance terminalTool =>
    decide (run.phase = .guiding) && run.terminal.isNone &&
      match guidance with
      | .blocked => true
      | .none => !terminalTool
      | .message => false
  | _ => false

def SteeredRun.queues (run : SteeredRun) : LoopEvent → Bool
  | .mailboxWritten id => run.waiting.any (·.id == id)
  | _ => false

/-- No steer is left behind: none is in the queue when the loop ends the run, and none is queued in
a run that is terminal. -/
structure Timely (run : SteeredRun) (event : LoopEvent) : Prop where
  empty : run.completes event = true → run.steerQueue = []
  running : run.queues event = true → run.terminal = none

def TimelyRun : SteeredRun → List LoopEvent → Prop
  | _, [] => True
  | run, event :: rest => Timely run event ∧ TimelyRun (run.perform event) rest

instance (run : SteeredRun) (event : LoopEvent) : Decidable (Timely run event) :=
  decidable_of_iff ((run.completes event = true → run.steerQueue = []) ∧
      (run.queues event = true → run.terminal = none))
    ⟨fun both => ⟨both.1, both.2⟩, fun timely => ⟨timely.empty, timely.running⟩⟩

instance decidableTimelyRun : (run : SteeredRun) → (events : List LoopEvent) →
    Decidable (TimelyRun run events)
  | _, [] => isTrue trivial
  | run, event :: rest =>
    have := decidableTimelyRun (run.perform event) rest
    inferInstanceAs (Decidable (_ ∧ _))

def LoopPhase.active : LoopPhase → Bool
  | .finishing | .returned => false
  | _ => true

/-- The steers that were taken out of the queue and are not committed. -/
def LoopPhase.inFlight : LoopPhase → List Steer
  | .committingSteer steer rest => steer :: rest
  | .acknowledgingSteer rest => rest
  | _ => []

/-- The committed steers are the first accepted ones, and all of them after a quiet end. -/
structure InOrder (run : SteeredRun) : Prop where
  order : run.committed <+: run.accepted
  complete : ∀ event, run.terminal = some event → event.quiet = true → run.committed = run.accepted

structure Orderly (run : SteeredRun) : Prop extends InOrder run where
  /-- Until the loop is done, every accepted steer is committed, taken out or in the queue. -/
  held : run.phase.active = true →
    run.accepted = run.committed ++ (run.phase.inFlight ++ run.steerQueue)
  /-- A quiet end is the end of the loop. -/
  quiet : ∀ event, run.terminal = some event → event.quiet = true → run.phase.active = false

/-- The steers of a run have different numbers, all given out. -/
structure Numbered (run : SteeredRun) : Prop where
  nodup : (run.accepted ++ run.waiting).Nodup
  given : ∀ steer ∈ run.accepted ++ run.waiting, steer.id < run.nextSteer

/-! ## Steps of the loop -/

section Loop

variable {run : SteeredRun} {phase : LoopPhase} {terminalTool : Bool}

theorem not_stopped (go : ¬ run.shouldStop = true) : run.aborted = false ∧ run.terminal = none := by
  simpa [SteeredRun.shouldStop] using go

section

variable (inOrder : InOrder run)
include inOrder

theorem InOrder.done (inactive : phase.active = false) :
    Orderly { run with phase := phase } where
  order := inOrder.order
  complete := inOrder.complete
  held active := by
    rw [inactive] at active
    cases active
  quiet _ _ _ := inactive

theorem InOrder.finish {event : TerminalEvent}
    (delivered : event.quiet = true → run.committed = run.accepted) : Orderly (run.finish event) := by
  rw [SteeredRun.finish]
  split
  · exact inOrder.done rfl
  · refine ⟨⟨inOrder.order, ?_⟩, nofun, fun _ _ _ => rfl⟩
    intro other is quiet
    obtain rfl := Option.some.inj is
    exact delivered quiet

theorem InOrder.exit : Orderly run.exit := by
  rw [SteeredRun.exit]
  split
  · exact inOrder.finish nofun
  · exact inOrder.done rfl

theorem InOrder.fail : Orderly run.fail := by
  rw [SteeredRun.fail]
  split
  · exact inOrder.exit
  · exact inOrder.finish nofun

theorem InOrder.move (live : run.terminal = none)
    (held : run.accepted = run.committed ++ (phase.inFlight ++ run.steerQueue)) :
    Orderly { run with phase := phase } where
  order := inOrder.order
  complete := inOrder.complete
  held _ := held
  quiet event is := by
    rw [show run.terminal = none from live] at is
    cases is

theorem InOrder.applySteers {steers : List Steer}
    (held : run.accepted = run.committed ++ (steers ++ run.steerQueue)) :
    Orderly (run.applySteers steers) := by
  unfold SteeredRun.applySteers
  split
  case isTrue => exact inOrder.exit
  case isFalse go =>
    have live := (not_stopped go).2
    cases steers with
    | nil => exact inOrder.move live held
    | cons steer rest => exact inOrder.move live held

theorem InOrder.nextTurn
    (held : run.accepted = run.committed ++ run.steerQueue) : Orderly run.nextTurn := by
  unfold SteeredRun.nextTurn
  split
  · exact inOrder.fail
  · -- the queue is taken out as a whole
    apply InOrder.applySteers
    · exact ⟨inOrder.order, inOrder.complete⟩
    · rw [List.append_nil]
      exact held

end

theorem Orderly.afterAssistant {toolCalls truncated : Bool} (orderly : Orderly run)
    (held : run.accepted = run.committed ++ run.steerQueue) :
    Orderly (run.afterAssistant toolCalls truncated) := by
  unfold SteeredRun.afterAssistant
  split
  · exact orderly.exit
  · have live := (not_stopped ‹_›).2
    split
    · exact orderly.move live held
    · split
      · exact orderly.finish nofun
      · split
        · exact orderly.move live held
        · exact orderly.nextTurn held

theorem Orderly.afterBatch {guidance : Bool} (orderly : Orderly run)
    (held : run.accepted = run.committed ++ run.steerQueue)
    (empty : run.shouldStop = false → terminalTool = true → run.steerQueue = []) :
    Orderly (run.afterBatch terminalTool guidance) := by
  unfold SteeredRun.afterBatch
  split
  · exact orderly.exit
  · have live := (not_stopped ‹_›).2
    split
    · refine orderly.finish fun _ => ?_
      rw [held, empty (Bool.not_eq_true _ ▸ ‹_›) ‹_›, List.append_nil]
    · split
      · exact orderly.move live held
      · exact orderly.nextTurn held

theorem Orderly.afterGuidance {guidance : CompletionGuidance}
    (orderly : Orderly run) (guiding : run.phase = .guiding)
    (empty : run.completes (.guided guidance terminalTool) = true → run.steerQueue = []) :
    Orderly (run.afterGuidance guidance terminalTool) := by
  have held : run.accepted = run.committed ++ run.steerQueue := by
    have held := orderly.held (by rw [guiding]; rfl)
    rw [guiding] at held
    exact held
  have ended : ∀ event, run.completes (.guided guidance terminalTool) = run.terminal.isNone →
      Orderly (run.finish event) := by
    intro event completes
    cases terminal : run.terminal with
    | none =>
      refine orderly.finish fun _ => ?_
      rw [held, empty (by rw [completes, terminal]; rfl), List.append_nil]
    | some event =>
      rw [SteeredRun.finish, terminal, Option.isSome_some, if_pos rfl, ← terminal]
      exact orderly.done rfl
  have writes : Orderly { run with phase := .committingGuidance } := by
    refine ⟨⟨orderly.order, orderly.complete⟩, fun _ => held, fun event is quiet => ?_⟩
    have inactive := orderly.quiet event is quiet
    rw [guiding] at inactive
    cases inactive
  cases guidance with
  | blocked => exact ended .blocked (by simp [SteeredRun.completes, guiding])
  | message => exact writes
  | none =>
    cases terminalTool with
    | true => exact writes
    | false => exact ended .completed (by simp [SteeredRun.completes, guiding])

end Loop

/-! ## Steps of a run -/

section Steps

variable {run : SteeredRun}

variable {next : SteeredRun} {steer : Steer} {event : LoopEvent}

/-- A step that leaves the loop and its steers alone. -/
theorem Orderly.same (orderly : Orderly run) (phase : next.phase = run.phase)
    (terminal : next.terminal = run.terminal) (queue : next.steerQueue = run.steerQueue)
    (accepted : next.accepted = run.accepted) (committed : next.committed = run.committed) :
    Orderly next where
  order := by
    rw [committed, accepted]
    exact orderly.order
  complete := by
    rw [terminal, committed, accepted]
    exact orderly.complete
  held := by
    rw [phase, accepted, committed, queue]
    exact orderly.held
  quiet := by
    rw [terminal, phase]
    exact orderly.quiet

theorem Orderly.resolveSteer (orderly : Orderly run) (live : run.terminal = none) :
    Orderly (run.resolveSteer steer) where
  order := orderly.order.trans (List.prefix_append _ _)
  complete event is := by
    rw [show (run.resolveSteer steer).terminal = none from live] at is
    cases is
  held active := by
    have held := orderly.held active
    simp only [SteeredRun.resolveSteer]
    rw [held, List.append_assoc, List.append_assoc]
  quiet event is := by
    rw [show (run.resolveSteer steer).terminal = none from live] at is
    cases is

theorem Orderly.commitSteer {rest : List Steer} (orderly : Orderly run)
    (phase : run.phase = .committingSteer steer rest) : Orderly { run with
      phase := .acknowledgingSteer rest
      committed := run.committed ++ [steer] } := by
  have held := orderly.held (by rw [phase]; rfl)
  rw [phase] at held
  have loud : ∀ event, run.terminal = some event → event.quiet = true → False := by
    intro event is quiet
    have inactive := orderly.quiet event is quiet
    rw [phase] at inactive
    cases inactive
  refine ⟨⟨⟨rest ++ run.steerQueue, ?_⟩, ?_⟩, fun _ => ?_, ?_⟩
  · rw [held]
    simp [LoopPhase.inFlight]
  · exact fun event is quiet => (loud event is quiet).elim
  · rw [held]
    simp [LoopPhase.inFlight]
  · exact fun event is quiet => (loud event is quiet).elim

theorem Orderly.queued (orderly : Orderly run) (active : run.phase.active = true)
    (none : run.phase.inFlight = []) : run.accepted = run.committed ++ run.steerQueue := by
  have held := orderly.held active
  rw [none] at held
  exact held

theorem queues_of_find {id : Nat} (found : run.waiting.find? (·.id == id) = some steer) :
    run.queues (.mailboxWritten id) = true := by
  have named := List.find?_some found
  exact List.any_eq_true.mpr ⟨steer, List.mem_of_find?_eq_some found, named⟩

/-- **A timely event keeps the steers in order.** -/
theorem Orderly.perform (orderly : Orderly run) (timely : Timely run event) :
    Orderly (run.perform event) := by
  unfold SteeredRun.perform
  split
  case h_1 =>
    unfold SteeredRun.queueSteer
    split
    · exact orderly
    · exact orderly.same rfl rfl rfl rfl rfl
  case h_2 _ id =>
    split
    · exact orderly.resolveSteer (timely.running (queues_of_find ‹_›))
    · exact orderly
  case h_3 => exact orderly.same rfl rfl rfl rfl rfl
  case h_4 => exact orderly.same rfl rfl rfl rfl rfl
  case h_5 =>
    split
    · refine ⟨⟨orderly.order, ?_⟩, orderly.held, ?_⟩ <;>
      · intro event is quiet
        obtain rfl := Option.some.inj is
        cases quiet
    · exact orderly
  case h_6 => exact orderly.done rfl
  case h_7 => exact orderly.done rfl
  case h_8 => exact orderly.fail
  case h_9 phase =>
    split
    · exact orderly.exit
    · exact orderly.nextTurn (orderly.queued (by rw [phase]; rfl) (by rw [phase]; rfl))
  case h_10 phase => exact orderly.commitSteer phase
  case h_11 phase =>
    exact orderly.afterAssistant (orderly.queued (by rw [phase]; rfl) (by rw [phase]; rfl))
  case h_12 phase =>
    exact orderly.nextTurn (orderly.queued (by rw [phase]; rfl) (by rw [phase]; rfl))
  case h_13 phase =>
    refine orderly.applySteers ?_
    have held := orderly.held (by rw [phase]; rfl)
    rw [phase] at held
    exact held
  case h_14 =>
    refine InOrder.exit ⟨orderly.order, orderly.complete⟩
  case h_15 phase =>
    split
    · exact orderly.exit
    · exact orderly.move (not_stopped ‹_›).2
        (orderly.queued (by rw [phase]; rfl) (by rw [phase]; rfl))
  case h_16 terminalTool guidance phase =>
    refine orderly.afterBatch (orderly.queued (by rw [phase]; rfl) (by rw [phase]; rfl)) ?_
    intro go tool
    exact timely.empty (by simp [SteeredRun.completes, phase, go, tool])
  case h_17 phase => exact orderly.afterGuidance phase timely.empty
  case h_18 failed phase =>
    refine ⟨⟨orderly.order, ?_⟩, nofun, fun _ _ _ => rfl⟩
    cases failed with
    | false => exact orderly.complete
    | true =>
      intro event is quiet
      obtain rfl := Option.some.inj is
      cases quiet
  case h_19 => exact orderly

/-- The steers and their numbers are as they were. -/
structure SameSteers (run next : SteeredRun) : Prop where
  accepted : next.accepted = run.accepted
  waiting : next.waiting = run.waiting
  nextSteer : next.nextSteer = run.nextSteer
  late : next.late = run.late

theorem SameSteers.trans {middle : SteeredRun} (first : SameSteers run middle)
    (second : SameSteers middle next) : SameSteers run next where
  accepted := second.accepted.trans first.accepted
  waiting := second.waiting.trans first.waiting
  nextSteer := second.nextSteer.trans first.nextSteer
  late := second.late.trans first.late

theorem SameSteers.finish (event : TerminalEvent) : SameSteers run (run.finish event) := by
  unfold SteeredRun.finish
  split <;> exact ⟨rfl, rfl, rfl, rfl⟩

theorem SameSteers.exit : SameSteers run run.exit := by
  unfold SteeredRun.exit
  split
  · exact .finish _
  · exact ⟨rfl, rfl, rfl, rfl⟩

theorem SameSteers.fail : SameSteers run run.fail := by
  unfold SteeredRun.fail
  split
  · exact .exit
  · exact .finish _

theorem SameSteers.applySteers (steers : List Steer) : SameSteers run (run.applySteers steers) := by
  unfold SteeredRun.applySteers
  split
  · exact .exit
  · cases steers <;> exact ⟨rfl, rfl, rfl, rfl⟩

theorem SameSteers.nextTurn : SameSteers run run.nextTurn := by
  unfold SteeredRun.nextTurn
  split
  · exact .fail
  · have emptied : SameSteers run { run with
        turnsLeft := run.turnsLeft.map (· - 1)
        steerQueue := [] } := ⟨rfl, rfl, rfl, rfl⟩
    exact emptied.trans (.applySteers run.steerQueue)

theorem SameSteers.afterAssistant (toolCalls truncated : Bool) :
    SameSteers run (run.afterAssistant toolCalls truncated) := by
  unfold SteeredRun.afterAssistant
  repeat' split
  · exact .exit
  · exact ⟨rfl, rfl, rfl, rfl⟩
  · exact .finish _
  · exact ⟨rfl, rfl, rfl, rfl⟩
  · exact .nextTurn

theorem SameSteers.afterBatch (terminalTool guidance : Bool) :
    SameSteers run (run.afterBatch terminalTool guidance) := by
  unfold SteeredRun.afterBatch
  repeat' split
  · exact .exit
  · exact .finish _
  · exact ⟨rfl, rfl, rfl, rfl⟩
  · exact .nextTurn

theorem SameSteers.afterGuidance (guidance : CompletionGuidance) (terminalTool : Bool) :
    SameSteers run (run.afterGuidance guidance terminalTool) := by
  unfold SteeredRun.afterGuidance
  split
  · exact .finish _
  · exact ⟨rfl, rfl, rfl, rfl⟩
  · exact ⟨rfl, rfl, rfl, rfl⟩
  · exact .finish _

theorem Numbered.same (numbered : Numbered run) (same : SameSteers run next) : Numbered next where
  nodup := by
    rw [same.accepted, same.waiting]
    exact numbered.nodup
  given := by
    rw [same.accepted, same.waiting, same.nextSteer]
    exact numbered.given

theorem Numbered.queueSteer (numbered : Numbered run) (text : String) :
    Numbered (run.queueSteer text) := by
  unfold SteeredRun.queueSteer
  split
  · exact numbered
  · have new : (⟨run.nextSteer, text⟩ : Steer) ∉ run.accepted ++ run.waiting := by
      intro there
      exact Nat.lt_irrefl _ (numbered.given _ there)
    refine ⟨?_, ?_⟩
    · dsimp only
      rw [← List.append_assoc]
      exact List.Nodup.append numbered.nodup (List.nodup_singleton _)
        (List.disjoint_singleton.mpr new)
    · intro steer there
      dsimp only at there ⊢
      rw [← List.append_assoc, List.mem_append, List.mem_singleton] at there
      rcases there with old | rfl
      · exact Nat.lt_succ_of_lt (numbered.given steer old)
      · exact Nat.lt_succ_self _

theorem Numbered.resolveSteer (numbered : Numbered run) (waits : steer ∈ run.waiting) :
    Numbered (run.resolveSteer steer) := by
  have moved : (run.accepted ++ [steer] ++ run.waiting.erase steer).Perm
      (run.accepted ++ run.waiting) := by
    rw [List.append_assoc]
    exact (List.perm_cons_erase waits).symm.append_left run.accepted
  refine ⟨moved.nodup_iff.mpr numbered.nodup, ?_⟩
  intro other there
  exact numbered.given other (moved.mem_iff.mp there)

def LoopEvent.ofCall : LoopEvent → Bool
  | .queueSteer _ | .mailboxWritten _ | .mailboxFailed _ => true
  | _ => false

theorem SameSteers.perform (loop : event.ofCall = false) :
    SameSteers run (run.perform event) := by
  unfold SteeredRun.perform
  split
  case h_1 => cases loop
  case h_2 => cases loop
  case h_3 => cases loop
  case h_4 => exact ⟨rfl, rfl, rfl, rfl⟩
  case h_5 => split <;> exact ⟨rfl, rfl, rfl, rfl⟩
  case h_6 => exact ⟨rfl, rfl, rfl, rfl⟩
  case h_7 => exact ⟨rfl, rfl, rfl, rfl⟩
  case h_8 => exact .fail
  case h_9 =>
    split
    · exact .exit
    · exact .nextTurn
  case h_10 => exact ⟨rfl, rfl, rfl, rfl⟩
  case h_11 => exact .afterAssistant _ _
  case h_12 => exact .nextTurn
  case h_13 => exact .applySteers _
  case h_14 =>
    have aborted : SameSteers run { run with aborted := true } := ⟨rfl, rfl, rfl, rfl⟩
    exact aborted.trans .exit
  case h_15 =>
    split
    · exact .exit
    · exact ⟨rfl, rfl, rfl, rfl⟩
  case h_16 => exact .afterBatch _ _
  case h_17 => exact .afterGuidance _ _
  case h_18 => exact ⟨rfl, rfl, rfl, rfl⟩
  case h_19 => exact ⟨rfl, rfl, rfl, rfl⟩

theorem Numbered.perform (numbered : Numbered run) (event : LoopEvent) :
    Numbered (run.perform event) := by
  cases event with
  | queueSteer text => exact numbered.queueSteer text
  | mailboxWritten id =>
    simp only [SteeredRun.perform]
    split
    · exact numbered.resolveSteer (List.mem_of_find?_eq_some ‹_›)
    · exact numbered
  | mailboxFailed id =>
    have fewer : (run.accepted ++ run.waiting.filter fun steer => steer.id != id).Sublist
        (run.accepted ++ run.waiting) := List.filter_sublist.append_left run.accepted
    exact ⟨numbered.nodup.sublist fewer, fun steer there => numbered.given steer (fewer.mem there)⟩
  | _ => exact numbered.same (.perform rfl)

theorem perform_late (timely : Timely run event) :
    (run.perform event).late = run.late := by
  cases event with
  | queueSteer text =>
    simp only [SteeredRun.perform, SteeredRun.queueSteer]
    split <;> rfl
  | mailboxWritten id =>
    simp only [SteeredRun.perform]
    split
    · have live := timely.running (queues_of_find ‹_›)
      simp [SteeredRun.resolveSteer, live]
    · rfl
  | mailboxFailed id => rfl
  | _ => exact (SameSteers.perform rfl).late

end Steps

/-! ## Runs -/

def SteeredRun.start (turnsLeft : Option Nat) : SteeredRun where
  turnsLeft := turnsLeft

theorem start_orderly (turnsLeft : Option Nat) : Orderly (SteeredRun.start turnsLeft) :=
  ⟨⟨List.prefix_rfl, nofun⟩, fun _ => rfl, nofun⟩

theorem start_numbered (turnsLeft : Option Nat) : Numbered (SteeredRun.start turnsLeft) :=
  ⟨List.nodup_nil, nofun⟩

theorem after_orderly {start : SteeredRun} (orderly : Orderly start) (numbered : Numbered start)
    (live : start.late = []) (events : List LoopEvent) (timely : TimelyRun start events) :
    Orderly (start.after events) ∧ Numbered (start.after events) ∧
      (start.after events).late = [] := by
  induction events generalizing start with
  | nil => exact ⟨orderly, numbered, live⟩
  | cons event rest ih =>
    obtain ⟨here, later⟩ := timely
    exact ih (orderly.perform here) (numbered.perform event) ((perform_late here).trans live) later

/-- **Steers are delivered** in every run in which no steer is left behind: once, in order, before
the run completes or blocks, and none is accepted when the run is terminal. -/
theorem after_delivers (turnsLeft : Option Nat) (events : List LoopEvent)
    (timely : TimelyRun (SteeredRun.start turnsLeft) events) :
    Delivered ((SteeredRun.start turnsLeft).after events) := by
  obtain ⟨orderly, numbered, live⟩ := after_orderly (start_orderly turnsLeft)
    (start_numbered turnsLeft) rfl events timely
  refine ⟨orderly.order, ?_, orderly.complete, live⟩
  have accepted := (List.nodup_append.mp numbered.nodup).1
  exact accepted.sublist orderly.order.sublist

/-- A steer that is queued during the first turn. -/
def steeredTurn : List LoopEvent :=
  [.prepared, .queueSteer "shorter", .mailboxWritten 1, .turned false false, .committed,
    .committed, .acknowledged, .turned false false, .committed, .guided .none false,
    .finished false]

theorem steeredTurn_delivers : Delivered ((SteeredRun.start none).after steeredTurn) :=
  after_delivers none steeredTurn (by decide)

/-- A steer that is queued while the loop waits for `completionGuidance`. -/
def lateSteer : List LoopEvent :=
  [.prepared, .turned false false, .committed, .queueSteer "shorter", .mailboxWritten 1,
    .guided .none false, .finished false]

theorem lateSteer_lost : ((SteeredRun.start none).after lateSteer).terminal = some .completed ∧
    ¬ Delivered ((SteeredRun.start none).after lateSteer) := by
  refine ⟨by decide, fun delivered => ?_⟩
  have same := delivered.complete .completed (by decide) rfl
  revert same
  decide

end Praxis.Agent
