import Praxis.Session.RuntimeSystem

/-!
# Startup recovery

A runtime that may recover a session has seen all leases that were there when it listed them, so the
runs of the session were started by runtimes without a live lease (`Orphaned`). This stays true as
long as no run is started in the session before the recovery has passed it.
-/

namespace Praxis.Session

set_option autoImplicit false

namespace RuntimeSystem

variable {Runtime Session Run : Type} [DecidableEq Runtime]
  {system after : RuntimeSystem Runtime Session Run}

def Initialized (system : RuntimeSystem Runtime Session Run) (runtime : Runtime) : Prop :=
  system.phase runtime = .opened ∨ system.phase runtime = .closed

/-- What holds in a sound run. -/
structure Orphaned (system : RuntimeSystem Runtime Session Run) : Prop where
  initialized : ∀ session run starter, (system.sessions session).running = some (run, starter) →
    system.alive starter = true → system.Initialized starter
  orphaned : ∀ runtime session run starter, system.alive runtime = true →
    (system.sessions session).running = some (run, starter) →
    RuntimePhase.MayRecover session starter (system.phase runtime) → system.live starter = false
  restarted : system.RestartsOrphans

variable {runtime : Runtime} {phase : RuntimePhase Runtime Session Run} {session : Session}

theorem live_of_leases (leases : runtime ∈ after.leases → runtime ∈ system.leases)
    (alive : after.alive runtime = true → system.alive runtime = true)
    (live : after.live runtime = true) : system.live runtime = true := by
  simp only [RuntimeSystem.live, Bool.and_eq_true, decide_eq_true_eq] at live ⊢
  exact ⟨leases live.1, alive live.2⟩

theorem Orphaned.of_phase (orphaned : Orphaned system)
    (phases : after.phase = Function.update system.phase runtime phase)
    (sessions : after.sessions = system.sessions) (alive : after.alive = system.alive)
    (lives : ∀ starter, starter ≠ runtime → starter ∈ after.leases → starter ∈ system.leases)
    (own : system.Initialized runtime → (phase = .opened ∨ phase = .closed) ∧
      (runtime ∈ after.leases → runtime ∈ system.leases))
    (may : ∀ session starter, RuntimePhase.MayRecover session starter phase →
      system.live starter = false ∨
        RuntimePhase.MayRecover session starter (system.phase runtime))
    (restarted : after.RestartsOrphans) : Orphaned after := by
  have keeps : ∀ session run starter, (system.sessions session).running = some (run, starter) →
      system.live starter = false → after.live starter = false := by
    intro session run starter running dead
    by_contra live
    have live' : after.live starter = true := by simpa using live
    have breathes : system.alive starter = true := by
      rw [← alive]
      simp only [RuntimeSystem.live, Bool.and_eq_true] at live'
      exact live'.2
    refine absurd (live_of_leases (fun leased => ?_) (fun _ => breathes) live') (by simp [dead])
    by_cases same : starter = runtime
    · subst same
      exact (own (orphaned.initialized session run starter running breathes)).2 leased
    · exact lives starter same leased
  refine ⟨fun session run starter running breathes => ?_,
    fun other session run starter breathes running reaches => ?_, restarted⟩ <;>
    rw [sessions] at running <;> rw [alive] at breathes
  · have before := orphaned.initialized session run starter running breathes
    unfold Initialized
    rw [phases]
    by_cases same : starter = runtime
    · subst same
      rw [Function.update_self]
      exact (own before).1
    · rw [Function.update_of_ne same]
      exact before
  · refine keeps session run starter running ?_
    rw [phases] at reaches
    by_cases same : other = runtime
    · subst same
      rw [Function.update_self] at reaches
      rcases may session starter reaches with dead | reaches'
      · exact dead
      · exact orphaned.orphaned other session run starter breathes running reaches'
    · rw [Function.update_of_ne same] at reaches
      exact orphaned.orphaned other session run starter breathes running reaches

theorem Orphaned.of_early (orphaned : Orphaned system) (early : ¬system.Initialized runtime)
    (phases : after.phase = Function.update system.phase runtime phase)
    (sessions : after.sessions = system.sessions) (alive : after.alive = system.alive)
    (lives : ∀ starter, starter ≠ runtime → starter ∈ after.leases → starter ∈ system.leases)
    (restarted : after.restarted = system.restarted)
    (may : ∀ session starter, RuntimePhase.MayRecover session starter phase →
      system.live starter = false ∨
        RuntimePhase.MayRecover session starter (system.phase runtime)) : Orphaned after := by
  refine orphaned.of_phase phases sessions alive lives (fun started => absurd started early) may ?_
  unfold RestartsOrphans
  rw [restarted]
  exact orphaned.restarted

variable [DecidableEq Session]

theorem Orphaned.withRunning (orphaned : Orphaned system)
    {running : Option (Run × Runtime)} (same : ∀ run starter, running = some (run, starter) →
      (system.sessions session).running = some (run, starter)) :
    Orphaned (system.withRunning session running) := by
  have before : ∀ other run starter,
      ((system.withRunning session running).sessions other).running = some (run, starter) →
      (system.sessions other).running = some (run, starter) := by
    intro other run starter here
    change (Function.update system.sessions session _ other).running = _ at here
    by_cases own : other = session
    · subst own
      rw [Function.update_self] at here
      exact same run starter here
    · rwa [Function.update_of_ne own] at here
  exact ⟨fun other run starter here => orphaned.initialized other run starter (before _ _ _ here),
    fun runtime other run starter breathes here =>
      orphaned.orphaned runtime other run starter breathes (before _ _ _ here), orphaned.restarted⟩

variable [DecidableEq Run]

theorem Orphaned.commitRecovery (orphaned : Orphaned system) {run : Run}
    {revision attempt : Nat} {rest : List Session} (breathes : system.alive runtime = true)
    (phase : system.phase runtime = .committing session run revision attempt rest) :
    Orphaned (system.commitRecovery runtime session run revision attempt rest) := by
  have early : ¬system.Initialized runtime := by
    simp [Initialized, phase]
  have reaches : ∀ starter, RuntimePhase.MayRecover session starter (system.phase runtime) := by
    rw [phase]
    exact fun _ => List.mem_cons_self
  have later : ∀ (other : Session) (starter : Runtime), other ∈ rest →
      RuntimePhase.MayRecover other starter (system.phase runtime) := by
    rw [phase]
    exact fun _ _ => List.mem_cons_of_mem _
  have opens : Orphaned (system.withPhase runtime .opened) :=
    orphaned.of_early early rfl rfl rfl (fun _ _ => id) rfl nofun
  unfold RuntimeSystem.commitRecovery
  split
  · cases running : (system.sessions session).running with
    | none => exact opens
    | some active =>
      obtain ⟨current, starter⟩ := active
      dsimp only
      split
      · rename_i same
        subst same
        have ended : Orphaned (system.withRunning session none) := orphaned.withRunning nofun
        refine ended.of_phase rfl rfl rfl (fun _ _ => id) (fun started => absurd started early)
          (fun other starter reached => .inr (later other starter reached)) ?_
        intro restarted member
        rcases List.mem_append.mp member with old | new
        · exact orphaned.restarted restarted old
        · obtain rfl := List.mem_singleton.mp new
          exact orphaned.orphaned runtime session current starter breathes running (reaches starter)
      · exact opens
  · split
    · exact orphaned.of_early early rfl rfl rfl (fun _ _ => id) rfl fun other starter reached =>
        .inr (by rw [phase]; exact reached)
    · exact opens

theorem Orphaned.advance (orphaned : Orphaned system) (breathes : system.alive runtime = true) :
    Orphaned (system.advance runtime) := by
  have early : ∀ {phase}, system.phase runtime = phase → phase ≠ .opened → phase ≠ .closed →
      ¬system.Initialized runtime := by
    rintro _ rfl opened closed (wrong | wrong)
    · exact opened wrong
    · exact closed wrong
  cases phase : system.phase runtime with
  | outside | opened | closed => simpa only [RuntimeSystem.advance, phase] using orphaned
  | committing session run revision attempt rest =>
    simpa only [RuntimeSystem.advance, phase] using orphaned.commitRecovery breathes phase
  | waiting =>
    simp only [RuntimeSystem.advance, phase]
    split
    · exact orphaned
    · exact orphaned.of_early (early phase nofun nofun) rfl rfl rfl (fun _ _ => id) rfl nofun
  | listing =>
    simp only [RuntimeSystem.advance, phase]
    refine orphaned.of_early (early phase nofun nofun) rfl rfl rfl (fun _ _ => id) rfl
      fun session starter reached => .inl ?_
    simp [RuntimeSystem.live, reached.2]
  | inspecting found hasLivePeer =>
    cases found with
    | nil =>
      simp only [RuntimeSystem.advance, phase]
      refine orphaned.of_early (early phase nofun nofun) rfl rfl rfl (fun _ _ => id) rfl
        fun session starter reached => .inr ?_
      rw [phase]
      exact ⟨reached, by simp⟩
    | cons first rest =>
      simp only [RuntimeSystem.advance, phase]
      split
      · exact orphaned.of_early (early phase nofun nofun) rfl rfl rfl (fun _ _ => id) rfl
          fun _ _ reached => nomatch reached.1
      · rename_i gone
        refine orphaned.of_early (early phase nofun nofun) rfl rfl rfl
          (fun _ _ => List.mem_of_mem_erase) rfl fun session starter reached => ?_
        by_cases same : starter = first
        · exact .inl (by simpa [same] using gone)
        · refine .inr ?_
          rw [phase]
          exact ⟨reached.1, by simp [same, reached.2]⟩
  | leasing hasLivePeer =>
    simp only [RuntimeSystem.advance, phase]
    refine orphaned.of_early (early phase nofun nofun) rfl rfl rfl (fun starter other member => ?_)
      rfl fun _ _ reached => .inr (by rw [phase]; exact reached)
    simpa [other] using member
  | unlocking hasLivePeer =>
    simp only [RuntimeSystem.advance, phase]
    exact orphaned.of_early (early phase nofun nofun) rfl rfl rfl (fun _ _ => id) rfl
      fun _ _ reached => .inr (by rw [phase]; exact reached)
  | deciding hasLivePeer =>
    simp only [RuntimeSystem.advance, phase]
    split
    · exact orphaned.of_early (early phase nofun nofun) rfl rfl rfl (fun _ _ => id) rfl nofun
    · rename_i none
      refine orphaned.of_early (early phase nofun nofun) rfl rfl rfl (fun _ _ => id) rfl
        fun _ _ _ => .inr ?_
      rw [phase]
      simpa [RuntimePhase.MayRecover] using none
  | recovering todo =>
    cases todo with
    | nil =>
      simp only [RuntimeSystem.advance, phase]
      exact orphaned.of_early (early phase nofun nofun) rfl rfl rfl (fun _ _ => id) rfl nofun
    | cons session rest =>
      simp only [RuntimeSystem.advance, phase]
      split
      · exact orphaned.of_early (early phase nofun nofun) rfl rfl rfl (fun _ _ => id) rfl
          fun _ _ reached => .inr (by rw [phase]; exact reached)
      · exact orphaned.of_early (early phase nofun nofun) rfl rfl rfl (fun _ _ => id) rfl
          fun _ _ reached => .inr (by rw [phase]; exact List.mem_cons_of_mem _ reached)
  | appending session attempt rest =>
    simp only [RuntimeSystem.advance, phase]
    split
    · exact orphaned.of_early (early phase nofun nofun) rfl rfl rfl (fun _ _ => id) rfl
        fun _ _ reached => .inr (by rw [phase]; exact reached)
    · exact orphaned.of_early (early phase nofun nofun) rfl rfl rfl (fun _ _ => id) rfl
        fun _ _ reached => .inr (by rw [phase]; exact List.mem_cons_of_mem _ reached)

theorem Orphaned.commitRequest (orphaned : Orphaned system) {request : RunRequest Runtime Session Run}
    (sound : ∀ runtime, system.alive runtime = true →
      ¬RuntimePhase.MayRecover request.session request.runtime (system.phase runtime)) :
    Orphaned (system.commitRequest request) := by
  unfold RuntimeSystem.commitRequest
  split
  · rename_i starts
    have opened : system.phase request.runtime = .opened := by
      have works := starts.1
      simp only [RuntimeSystem.works, Bool.and_eq_true, decide_eq_true_eq] at works
      exact works.2
    have sessions : ∀ session run starter,
        ((system.withRunning request.session (some (request.run, request.runtime))).sessions
          session).running = some (run, starter) →
        session = request.session ∧ starter = request.runtime ∨
          (system.sessions session).running = some (run, starter) := by
      intro session run starter here
      change (Function.update system.sessions request.session _ session).running = _ at here
      by_cases own : session = request.session
      · subst own
        rw [Function.update_self] at here
        obtain ⟨_, same⟩ := Prod.mk.inj (Option.some.inj here)
        exact .inl ⟨rfl, same.symm⟩
      · rw [Function.update_of_ne own] at here
        exact .inr here
    refine ⟨fun session run starter here breathes => ?_,
      fun runtime session run starter breathes here reached => ?_, orphaned.restarted⟩
    · rcases sessions session run starter here with ⟨rfl, rfl⟩ | before
      · exact .inl opened
      · exact orphaned.initialized session run starter before breathes
    · rcases sessions session run starter here with ⟨rfl, rfl⟩ | before
      · exact absurd reached (sound runtime breathes)
      · exact orphaned.orphaned runtime session run starter breathes before reached
  · exact orphaned

theorem Orphaned.perform (orphaned : Orphaned system) {event : RuntimeEvent Runtime Session Run}
    (sound : system.Sound event) : Orphaned (system.perform event) := by
  cases event with
  | initializeRepository runtime =>
    simp only [RuntimeSystem.perform]
    split
    · rename_i starts
      refine orphaned.of_early ?_ rfl rfl rfl (fun _ _ => id) rfl nofun
      rintro (wrong | wrong) <;> cases starts.2.symm.trans wrong
    · exact orphaned
  | step runtime =>
    simp only [RuntimeSystem.perform]
    split
    · rename_i breathes
      exact orphaned.advance breathes
    · exact orphaned
  | stale => exact ⟨orphaned.initialized, orphaned.orphaned, orphaned.restarted⟩
  | request runtime session run =>
    simp only [RuntimeSystem.perform]
    split
    · exact ⟨orphaned.initialized, orphaned.orphaned, orphaned.restarted⟩
    · exact orphaned
  | start number =>
    simp only [RuntimeSystem.perform]
    cases here : system.requests[number]? with
    | none => exact orphaned
    | some request =>
      have started := orphaned.commitRequest (sound request here)
      exact ⟨started.initialized, started.orphaned, started.restarted⟩
  | terminal runtime session =>
    simp only [RuntimeSystem.perform]
    split
    · exact orphaned.withRunning nofun
    · exact orphaned
  | commit session =>
    have same : Orphaned (system.withRunning session _) := orphaned.withRunning fun _ _ => id
    exact ⟨same.initialized, same.orphaned, same.restarted⟩
  | close runtime =>
    simp only [RuntimeSystem.perform]
    split
    · exact orphaned.of_phase rfl rfl rfl (fun _ _ => List.mem_of_mem_erase)
        (fun _ => ⟨.inr rfl, List.mem_of_mem_erase⟩) nofun orphaned.restarted
    · exact orphaned
  | crash runtime =>
    simp only [RuntimeSystem.perform]
    have before : ∀ other, Function.update system.alive runtime false other = true →
        system.alive other = true := by
      intro other breathes
      by_cases same : other = runtime
      · rw [same, Function.update_self] at breathes
        cases breathes
      · rwa [Function.update_of_ne same] at breathes
    refine ⟨fun session run starter running breathes =>
      orphaned.initialized session run starter running (before starter breathes),
      fun other session run starter breathes running reached => ?_, orphaned.restarted⟩
    have dead := orphaned.orphaned other session run starter (before other breathes) running reached
    by_contra live
    rw [Bool.not_eq_false] at live
    simp only [RuntimeSystem.live, Bool.and_eq_true] at live
    have lived : system.live starter = true := by
      simp only [RuntimeSystem.live, Bool.and_eq_true]
      exact ⟨live.1, before starter live.2⟩
    rw [dead] at lived
    cases lived

omit [DecidableEq Session] [DecidableEq Run] in
theorem Orphaned.of_starts (starts : system.Starts) : Orphaned system where
  initialized session run starter running breathes := by
    rw [starts.orphaned session run starter running] at breathes
    cases breathes
  orphaned runtime session run starter _ _ reached := by
    rw [starts.phase runtime] at reached
    exact reached.elim
  restarted := by
    unfold RestartsOrphans
    simp [starts.restarted]

theorem Orphaned.run (orphaned : Orphaned system) {events : List (RuntimeEvent Runtime Session Run)}
    (sound : system.SoundRun events) : Orphaned (system.run events) := by
  induction events generalizing system with
  | nil => exact orphaned
  | cons event rest ih => exact ih (orphaned.perform sound.1) sound.2

/-- **Startup recovery only touches orphaned runs** in every run in which no run is started in a
session that a recovery has yet to pass. -/
theorem run_restartsOrphans (starts : system.Starts)
    (events : List (RuntimeEvent Runtime Session Run)) (sound : system.SoundRun events) :
    (system.run events).RestartsOrphans :=
  ((Orphaned.of_starts starts).run sound).restarted

/-! ## Two schedules -/

/-- One session, in which a process that has ended had a run; its lease is still there. -/
def crashedSystem : RuntimeSystem Bool Nat Nat where
  sessions _ := { running := some (5, true) }
  ids := [0]
  alive runtime := !runtime
  leases := [true]

theorem crashedSystem_starts : crashedSystem.Starts where
  phase _ := rfl
  requests := rfl
  restarted := rfl
  orphaned := by
    rintro session run starter running
    obtain ⟨_, rfl⟩ := Prod.mk.inj (Option.some.inj running)
    rfl

/-- A runtime recovers the session, and then starts a run in it. -/
def recoverSchedule : List (RuntimeEvent Bool Nat Nat) :=
  .initializeRepository false :: List.replicate 11 (.step false) ++ [.request false 0 6, .start 0]

theorem recoverSchedule_restartsOrphans :
    (crashedSystem.run recoverSchedule).RestartsOrphans := by
  refine run_restartsOrphans crashedSystem_starts recoverSchedule ?_
  refine ⟨trivial, trivial, trivial, trivial, trivial, trivial, trivial, trivial, trivial, trivial,
    trivial, trivial, trivial, fun request _ runtime breathes => ?_, trivial⟩
  -- The runtime has ended its recovery when it starts the run.
  cases runtime with
  | false => exact id
  | true => cases breathes

example : (crashedSystem.run recoverSchedule).restarted = [⟨5, true, false⟩] := by decide

/-- One session without a run. -/
def quietSystem : RuntimeSystem Nat Nat Nat where
  sessions _ := {}
  ids := [0]

/-- The first runtime finds itself alone; the second joins, and starts a run; then the first
recovers. -/
def joinSchedule : List (RuntimeEvent Nat Nat Nat) :=
  .initializeRepository 0 :: List.replicate 5 (.step 0) ++
    .initializeRepository 1 :: List.replicate 7 (.step 1) ++ [.request 1 0 6, .start 0] ++
      List.replicate 4 (.step 0)

theorem joinSchedule_touches : ¬(quietSystem.run joinSchedule).RestartsOrphans := by
  intro orphans
  have written : (⟨6, 1, true⟩ : RestartedRun Nat Nat) ∈ (quietSystem.run joinSchedule).restarted := by
    decide
  cases orphans _ written

end RuntimeSystem

end Praxis.Session
