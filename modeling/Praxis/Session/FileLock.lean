import Mathlib

/-!
# The file writer lock

`withLock` and `withAuthorityLock` take a lock by creating a file that must not exist and release
it by removing the file of that name. A process that finds the file reads its age; a file older
than the stale limit is removed, and the process tries again. Every one of these is a step of its
own, and any time may pass between two steps.

Removing a stale file is two steps, and the second does not look again. So a process that slept
between them removes whatever lock file is there by then, and a process that slept before its
release removes the file of the one that took its place. Two processes are then inside their
actions although no action took any time (`slowSchedule_overlaps`). As long as no waiting process
removes the file of a process that still holds the lock, the lock excludes, and every holder
removes its own file (`lock_excludes`).
-/

namespace Praxis.Session

set_option autoImplicit false

/-! ## Processes and steps -/

/-- How long a process waits for a lock, and when a lock file is stale, in milliseconds. -/
structure LockLimits where
  timeoutMs : Nat
  staleMs : Nat

/-- `LOCK_TIMEOUT_MS` and `STALE_LOCK_MS`, the same for both locks. -/
def lockLimits : LockLimits where
  timeoutMs := 5_000
  staleMs := 30_000

/-- A lock file: the number of its creation, and the time at which it was last written. -/
structure LockFile where
  creation : Nat
  mtimeMs : Nat

/-- Where a process stands in its call. -/
inductive LockPhase where
  /-- Not in a call. -/
  | outside
  /-- Before `open(path, 'wx')`. -/
  | opening (startedAt : Nat)
  /-- The file exists: before `Date.now()` of `isStaleLock`. -/
  | refused (startedAt : Nat)
  /-- Before `stat(path)`. -/
  | checking (startedAt now : Nat)
  /-- The file was stale: before `unlink(path)`. -/
  | stealing (startedAt : Nat)
  /-- The file was not stale: before the comparison with the timeout. -/
  | waiting (startedAt : Nat)
  /-- The call was rejected because of the timeout. -/
  | rejected
  /-- The file was created: before its content is written. -/
  | writing (creation : Nat)
  /-- Inside the action, since a time. -/
  | acting (creation since : Nat)
  /-- The action is over: before `unlink(path)`. -/
  | releasing (creation : Nat)
deriving DecidableEq

/-- The lock file that a process created and has not yet removed. -/
def LockPhase.holds : LockPhase → Option Nat
  | .writing creation | .acting creation _ | .releasing creation => some creation
  | _ => none

/-- The time since which a process is inside its action. -/
def LockPhase.since? : LockPhase → Option Nat
  | .acting _ since => some since
  | _ => none

/-- The lock file, the processes and the clock. Processes and creations are numbered. -/
structure LockSystem where
  clock : Nat := 0
  file : Option LockFile := none
  created : Nat := 0
  phase : Nat → LockPhase := fun _ => .outside

inductive LockEvent where
  /-- A process calls the lock. -/
  | call (process : Nat)
  /-- A process takes its next step. -/
  | step (process : Nat)
  /-- A process cannot write its lock file. -/
  | writeFails (process : Nat)
  /-- A process ends at once, wherever it stands. -/
  | crash (process : Nat)
  | pass (milliseconds : Nat)

def LockEvent.process? : LockEvent → Option Nat
  | .call process | .step process | .writeFails process | .crash process => some process
  | .pass _ => none

namespace LockSystem

variable (limits : LockLimits) (system : LockSystem)

def withPhase (process : Nat) (phase : LockPhase) : LockSystem :=
  { system with phase := Function.update system.phase process phase }

/-- The next step of a process. -/
def advance (process : Nat) : LockSystem :=
  match system.phase process with
  | .outside | .rejected => system
  | .opening startedAt =>
    match system.file with
    | some _ => system.withPhase process (.refused startedAt)
    | none =>
      { system with
        file := some { creation := system.created, mtimeMs := system.clock }
        created := system.created + 1
        phase := Function.update system.phase process (.writing system.created) }
  | .refused startedAt => system.withPhase process (.checking startedAt system.clock)
  | .checking startedAt now =>
    match system.file with
    -- A file that is gone is not stale.
    | none => system.withPhase process (.waiting startedAt)
    | some file =>
      if file.mtimeMs + limits.staleMs < now then
        system.withPhase process (.stealing startedAt)
      else system.withPhase process (.waiting startedAt)
  | .stealing startedAt => { system.withPhase process (.opening startedAt) with file := none }
  | .waiting startedAt =>
    if startedAt + limits.timeoutMs ≤ system.clock then system.withPhase process .rejected
    else system.withPhase process (.opening startedAt)
  | .writing creation =>
    -- The content is written through the handle: to the own file, whatever the name stands for.
    { system.withPhase process (.acting creation system.clock) with
      file := system.file.map fun file =>
        if file.creation = creation then { file with mtimeMs := system.clock } else file }
  | .acting creation _ => system.withPhase process (.releasing creation)
  | .releasing _ => { system.withPhase process .outside with file := none }

def perform : LockEvent → LockSystem
  | .call process =>
    match system.phase process with
    | .outside | .rejected => system.withPhase process (.opening system.clock)
    | _ => system
  | .step process => system.advance limits process
  | .writeFails process =>
    match system.phase process with
    | .writing creation => system.withPhase process (.releasing creation)
    | _ => system
  | .crash process => system.withPhase process .outside
  | .pass milliseconds => { system with clock := system.clock + milliseconds }

def run : LockSystem → List LockEvent → LockSystem
  | system, [] => system
  | system, event :: rest => (system.perform limits event).run rest

/-- Processes that call `withLock` of the JSONL journal with one name. -/
def withLock : LockSystem → List LockEvent → LockSystem :=
  run lockLimits

/-- Processes that call `withAuthorityLock` for one root. -/
def withAuthorityLock : LockSystem → List LockEvent → LockSystem :=
  run lockLimits

/-- At most one process is inside its action. -/
def Excludes : Prop :=
  ∀ p q first second since since', system.phase p = .acting first since →
    system.phase q = .acting second since' → p = q

/-- A process that is about to release the lock finds no file but its own. -/
def ReleasesOwn : Prop :=
  ∀ p creation file, system.phase p = .releasing creation → system.file = some file →
    file.creation = creation

/-- No action has taken longer than the stale limit. -/
def ActsShortly : Prop :=
  ∀ p creation since, system.phase p = .acting creation since →
    system.clock ≤ since + limits.staleMs

/-- The event is not the step in which a waiting process removes the lock file of a process that
holds the lock. -/
def Careful : LockEvent → Prop
  | .step p => ∀ startedAt file, system.phase p = .stealing startedAt →
      system.file = some file → ∀ q, (system.phase q).holds ≠ some file.creation
  | _ => True

def CarefulRun : LockSystem → List LockEvent → Prop
  | _, [] => True
  | system, event :: rest =>
    system.Careful event ∧ CarefulRun (system.perform limits event) rest

/-! ## The invariant -/

/-- A process that holds the lock created the file that is there, and no other process did. -/
structure Owned : Prop where
  file : ∀ p creation, (system.phase p).holds = some creation →
    ∃ file, system.file = some file ∧ file.creation = creation
  single : ∀ p q creation, (system.phase p).holds = some creation →
    (system.phase q).holds = some creation → p = q
  fresh : ∀ p creation, (system.phase p).holds = some creation → creation < system.created

variable {limits system}

theorem Owned.excludes (owned : system.Owned) : system.Excludes := by
  intro p q first second since since' here there
  obtain ⟨file, present, rfl⟩ := owned.file p first (by rw [here]; rfl)
  obtain ⟨file', present', rfl⟩ := owned.file q second (by rw [there]; rfl)
  obtain rfl := Option.mem_unique present present'
  exact owned.single p q file.creation (by rw [here]; rfl) (by rw [there]; rfl)

theorem Owned.releasesOwn (owned : system.Owned) : system.ReleasesOwn := by
  intro p creation file here present
  obtain ⟨own, present', rfl⟩ := owned.file p creation (by rw [here]; rfl)
  obtain rfl := Option.mem_unique present present'
  rfl

theorem Owned.initial : ({} : LockSystem).Owned := by
  constructor <;> intros <;> contradiction

variable {process : Nat} {events : List LockEvent} {next : LockPhase} {event : LockEvent}

theorem holds_update {phase : Nat → LockPhase} {other creation : Nat}
    (holds : (Function.update phase process next other).holds = some creation) :
    (other = process ∧ next.holds = some creation) ∨ (phase other).holds = some creation := by
  by_cases same : other = process
  · subst same
    rw [Function.update_self] at holds
    exact .inl ⟨rfl, holds⟩
  · rw [Function.update_of_ne same] at holds
    exact .inr holds

section

variable (owned : system.Owned)
include owned

/-- A step that keeps the file, and after which the process holds no file that it did not hold. -/
theorem Owned.withPhase (keeps : ∀ creation, next.holds = some creation →
      (system.phase process).holds = some creation) : (system.withPhase process next).Owned := by
  have held : ∀ p creation, ((system.withPhase process next).phase p).holds = some creation →
      (system.phase p).holds = some creation := by
    intro p creation holds
    rcases holds_update holds with ⟨rfl, own⟩ | before
    · exact keeps creation own
    · exact before
  exact ⟨fun p creation holds => owned.file p creation (held p creation holds),
    fun p q creation here there => owned.single p q creation (held p creation here)
      (held q creation there),
    fun p creation holds => owned.fresh p creation (held p creation holds)⟩

theorem Owned.removed
    (free : ∀ p file, system.file = some file → (system.phase p).holds ≠ some file.creation) :
    ({ system with file := none } : LockSystem).Owned := by
  have none_holds : ∀ p creation, (system.phase p).holds ≠ some creation := by
    intro p creation holds
    obtain ⟨file, present, rfl⟩ := owned.file p creation holds
    exact free p file present holds
  exact ⟨fun p creation holds => absurd holds (none_holds p creation), owned.single, owned.fresh⟩

theorem Owned.created (absent : system.file = none) (process : Nat) (mtimeMs : Nat) :
    ({ system with
      file := some { creation := system.created, mtimeMs }
      created := system.created + 1
      phase := Function.update system.phase process (.writing system.created) } :
        LockSystem).Owned := by
  have none_holds : ∀ p creation, (system.phase p).holds ≠ some creation := by
    intro p creation holds
    obtain ⟨file, present, _⟩ := owned.file p creation holds
    rw [absent] at present
    cases present
  have only : ∀ p creation,
      (Function.update system.phase process (.writing system.created) p).holds = some creation →
        p = process ∧ creation = system.created := by
    intro p creation holds
    rcases holds_update holds with ⟨rfl, own⟩ | before
    · exact ⟨rfl, (Option.some.inj own).symm⟩
    · exact absurd before (none_holds p creation)
  constructor
  · intro p creation holds
    exact ⟨_, rfl, (only p creation holds).2.symm⟩
  · intro p q creation here there
    rw [(only p creation here).1, (only q creation there).1]
  · intro p creation holds
    rw [(only p creation holds).2]
    exact Nat.lt_succ_self _

/-- Writing the content changes the time of the file only. -/
theorem Owned.touched (touch : LockFile → LockFile)
    (same : ∀ file, (touch file).creation = file.creation) :
    ({ system with file := system.file.map touch } : LockSystem).Owned := by
  refine ⟨fun p creation holds => ?_, owned.single, owned.fresh⟩
  obtain ⟨file, present, own⟩ := owned.file p creation holds
  exact ⟨touch file, by simp [present], (same file).trans own⟩

theorem Owned.advance (careful : system.Careful (.step process)) :
    (system.advance limits process).Owned := by
  rw [LockSystem.advance]
  cases here : system.phase process with
  | outside | rejected => exact owned
  | opening startedAt =>
    cases present : system.file with
    | some file => exact owned.withPhase nofun
    | none => exact owned.created present process system.clock
  | refused startedAt => exact owned.withPhase nofun
  | checking startedAt now =>
    dsimp only
    split
    · exact owned.withPhase nofun
    · split <;> exact owned.withPhase nofun
  | waiting startedAt =>
    dsimp only
    split <;> exact owned.withPhase nofun
  | stealing startedAt =>
    have free := owned.removed fun q file present => careful startedAt file here present q
    exact free.withPhase nofun
  | writing creation =>
    have kept : (system.withPhase process (.acting creation system.clock)).Owned :=
      owned.withPhase fun other own => by rw [here]; exact own
    refine kept.touched _ fun file => ?_
    split <;> rfl
  | acting creation since =>
    exact owned.withPhase fun other own => by rw [here]; exact own
  | releasing creation =>
    have kept : (system.withPhase process .outside).Owned := owned.withPhase nofun
    refine kept.removed fun q file present holds => ?_
    rcases holds_update holds with ⟨_, own⟩ | before
    · cases own
    -- The file is the own one, so another process that holds it is the same process.
    · have own := owned.releasesOwn process creation file here present
      obtain rfl := owned.single q process file.creation before (by rw [here, own]; rfl)
      simp [LockSystem.withPhase, LockPhase.holds] at holds

/-- **A careful event keeps the lock with its holder.** -/
theorem Owned.perform (careful : system.Careful event) :
    (system.perform limits event).Owned := by
  cases event with
  | call process =>
    rw [LockSystem.perform]
    split
    · exact owned.withPhase nofun
    · exact owned.withPhase nofun
    · exact owned
  | step process => exact owned.advance careful
  | writeFails process =>
    rw [LockSystem.perform]
    split
    · rename_i creation here
      exact owned.withPhase fun other own => by rw [here]; exact own
    · exact owned
  | crash process => exact owned.withPhase nofun
  | pass milliseconds => exact ⟨owned.file, owned.single, owned.fresh⟩

theorem Owned.run (careful : system.CarefulRun limits events) :
    (system.run limits events).Owned := by
  induction events generalizing system with
  | nil => exact owned
  | cons event rest ih => exact ih (owned.perform careful.1) careful.2

end

/-! ## Processes that are not called -/

theorem phase_perform (elsewhere : event.process? ≠ some process) :
    (system.perform limits event).phase process = system.phase process := by
  cases event with
  | pass milliseconds => rfl
  | crash other =>
    have different : process ≠ other := fun same => elsewhere (same ▸ rfl)
    exact Function.update_of_ne different _ _
  | call other =>
    have different : process ≠ other := fun same => elsewhere (same ▸ rfl)
    rw [perform]
    split <;> simp [LockSystem.withPhase, Function.update_of_ne different]
  | writeFails other =>
    have different : process ≠ other := fun same => elsewhere (same ▸ rfl)
    rw [perform]
    split <;> simp [LockSystem.withPhase, Function.update_of_ne different]
  | step other =>
    have different : process ≠ other := fun same => elsewhere (same ▸ rfl)
    rw [perform, LockSystem.advance]
    split <;> (try split) <;> (try split) <;>
      simp [LockSystem.withPhase, Function.update_of_ne different]

theorem phase_run (elsewhere : ∀ event ∈ events, event.process? ≠ some process) :
    (system.run limits events).phase process = system.phase process := by
  induction events generalizing system with
  | nil => rfl
  | cons event rest ih =>
    obtain ⟨here, later⟩ := List.forall_mem_cons.mp elsewhere
    exact (ih later).trans (phase_perform here)

def carefulStep (processes : List Nat) (system : LockSystem) : LockEvent → Bool
  | .step p =>
    match system.phase p, system.file with
    | .stealing _, some file =>
      processes.all fun q => (system.phase q).holds != some file.creation
    | _, _ => true
  | _ => true

def carefulCheck (limits : LockLimits) (processes : List Nat) : LockSystem → List LockEvent → Bool
  | _, [] => true
  | system, event :: rest =>
    carefulStep processes system event &&
      carefulCheck limits processes (system.perform limits event) rest

theorem carefulRun_of_check {processes : List Nat}
    (others : ∀ q, q ∉ processes → (system.phase q).holds = none)
    (named : ∀ event ∈ events, ∀ q, event.process? = some q → q ∈ processes)
    (checked : carefulCheck limits processes system events = true) :
    system.CarefulRun limits events := by
  induction events generalizing system with
  | nil => trivial
  | cons event rest ih =>
    rw [carefulCheck, Bool.and_eq_true] at checked
    obtain ⟨here, later⟩ := checked
    refine ⟨?_, ih (fun q absent => ?_) (fun event member => named event
      (List.mem_cons_of_mem _ member)) later⟩
    · cases event with
      | step p =>
        intro startedAt file stealing present q
        simp only [carefulStep, stealing, present, List.all_eq_true, bne_iff_ne] at here
        by_cases listed : q ∈ processes
        · exact here q listed
        · rw [others q listed]
          exact nofun
      | call | writeFails | crash | pass => trivial
    · have elsewhere : event.process? ≠ some q := fun same =>
        absent (named event (List.mem_cons_self ..) q same)
      rw [phase_perform elsewhere]
      exact others q absent

/-- **The lock excludes in every run in which no waiting process removes a held lock file.** No two
processes are inside their actions, and no process that releases the lock removes the file of
another one. The processes, the order of their steps, the time between them and crashes are
arbitrary. -/
theorem lock_excludes (limits : LockLimits) (events : List LockEvent)
    (careful : ({} : LockSystem).CarefulRun limits events) :
    (({} : LockSystem).run limits events).Excludes ∧
      (({} : LockSystem).run limits events).ReleasesOwn :=
  ⟨(Owned.initial.run careful).excludes, (Owned.initial.run careful).releasesOwn⟩

/-- A process crashes inside its action; another one removes its file and takes the lock. -/
def takeover : List LockEvent :=
  [.call 0, .step 0, .step 0, .crash 0, .pass 30_001, .call 1, .step 1, .step 1, .step 1, .step 1,
    .step 1, .step 1]

theorem lock_excludes_takeover :
    (({} : LockSystem).run lockLimits takeover).Excludes ∧
      (({} : LockSystem).run lockLimits takeover).ReleasesOwn := by
  have named : ∀ event ∈ takeover, ∀ q, event.process? = some q → q ∈ [0, 1] := by decide +kernel
  exact lock_excludes lockLimits takeover
    (carefulRun_of_check (fun _ _ => rfl) named (by decide +kernel))

/-! ## Slow processes -/

/-- Process 0 sleeps before it releases the lock. Processes 1 and 2 find its file stale. Process 1
removes it and takes the lock; then process 2 removes the file of process 1 and takes the lock. -/
def slowSchedule : List LockEvent :=
  [.call 0, .step 0, .step 0, .step 0, .pass 30_001,
    .call 1, .step 1, .step 1, .step 1, .call 2, .step 2, .step 2, .step 2,
    .step 1, .step 1, .step 1, .step 2, .step 2, .step 2]

theorem slowSchedule_short (count : Nat) :
    (withLock {} (slowSchedule.take count)).ActsShortly lockLimits := by
  intro p creation since here
  have few : ∀ n < 20, ∀ q < 3, ((withLock {} (slowSchedule.take n)).phase q).since?.all
      (fun since => (withLock {} (slowSchedule.take n)).clock ≤ since) = true := by
    decide +kernel
  have bounded : slowSchedule.take count = slowSchedule.take (min count 19) :=
    List.take_eq_take_min
  rw [bounded] at here ⊢
  by_cases listed : p < 3
  · have checked := few (min count 19) (by omega) p listed
    rw [here] at checked
    exact Nat.le_add_right_of_le (of_decide_eq_true checked)
  · have elsewhere : ∀ event ∈ slowSchedule.take (min count 19), event.process? ≠ some p := by
      intro event member named
      have known : ∀ event ∈ slowSchedule, ∀ q, event.process? = some q → q < 3 := by decide +kernel
      exact listed (known event (List.mem_of_mem_take member) p named)
    have outside : (withLock {} (slowSchedule.take (min count 19))).phase p = .outside :=
      phase_run elsewhere
    rw [outside] at here
    cases here

/-- **Two processes are inside their actions although no action takes any time**, and process 0 is
about to remove the lock file of process 2. -/
theorem slowSchedule_overlaps :
    ¬ ∀ events, (∀ count, (withLock {} (events.take count)).ActsShortly lockLimits) →
      (withLock {} events).Excludes ∧ (withLock {} events).ReleasesOwn := by
  intro always
  obtain ⟨excludes, _⟩ := always slowSchedule slowSchedule_short
  have same : 1 = 2 := excludes 1 2 1 2 30_001 30_001 (by decide +kernel) (by decide +kernel)
  cases same

end LockSystem

end Praxis.Session
