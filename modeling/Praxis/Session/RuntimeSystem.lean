import Mathlib

/-!
# Runtimes on one root

Any number of runtimes call `SessionRepositoryV3.initialize` on one root and, once they are
initialized, start and end runs of its sessions. A runtime that found no live lease when it made its
own recovers the sessions: it ends the run of each that is running. Each step is one operation on a
file or one commit of a session, and the runtimes take their steps in any order.

What the composition does before it makes the lease is left out, and so are the other entries of a
recovery commit. A closed session has no running run, so the recovery does not ask for the lifecycle.
-/

namespace Praxis.Session

set_option autoImplicit false

/-! ## Runtimes and steps -/

def maxCasRetries : Nat := 8

/-- What matters here of a session. -/
structure SessionRuns (Runtime Run : Type) where
  revision : Nat := 0
  /-- The run that is running, with the runtime that started it. -/
  running : Option (Run × Runtime) := none

/-- A call of `appendRequestMessage` that has read the projection and is about to commit. -/
structure RunRequest (Runtime Session Run : Type) where
  runtime : Runtime
  session : Session
  run : Run
  expectedRevision : Nat

/-- A `run.terminal` entry with code `RUNTIME_RESTARTED`, and whether the runtime that started the
run held a live lease when it was written. -/
structure RestartedRun (Runtime Run : Type) where
  run : Run
  starter : Runtime
  live : Bool
deriving DecidableEq

/-- Where a runtime stands. -/
inductive RuntimePhase (Runtime Session Run : Type) where
  | outside
  /-- Before it takes the authority lock, to make its lease. -/
  | waiting
  /-- Before it lists the leases. -/
  | listing
  /-- Before it reads the first of these leases. -/
  | inspecting (found : List Runtime) (hasLivePeer : Bool)
  /-- Before it makes its lease. -/
  | leasing (hasLivePeer : Bool)
  /-- Before it releases the authority lock. -/
  | unlocking (hasLivePeer : Bool)
  /-- The composition was returned. -/
  | deciding (hasLivePeer : Bool)
  /-- Before it reads the cached projection of the first of these sessions. -/
  | recovering (todo : List Session)
  /-- Before an attempt to append to the session, and then to recover the rest. -/
  | appending (session : Session) (attempt : Nat) (rest : List Session)
  /-- Before the commit that ends the run. -/
  | committing (session : Session) (run : Run) (revision attempt : Nat) (rest : List Session)
  | opened
  | closed
deriving DecidableEq

structure RuntimeSystem (Runtime Session Run : Type) where
  sessions : Session → SessionRuns Runtime Run
  /-- The sessions that exist. -/
  ids : List Session
  /-- Whether the process is alive. -/
  alive : Runtime → Bool := fun _ => true
  /-- The runtimes whose lease files are there. -/
  leases : List Runtime := []
  authorityLock : Bool := false
  phase : Runtime → RuntimePhase Runtime Session Run := fun _ => .outside
  requests : List (RunRequest Runtime Session Run) := []
  restarted : List (RestartedRun Runtime Run) := []

inductive RuntimeEvent (Runtime Session Run : Type) where
  | initializeRepository (runtime : Runtime)
  /-- A runtime takes the next step of its initialization. -/
  | step (runtime : Runtime)
  /-- Some runtime takes the authority lock for stale and removes it. -/
  | stale
  /-- An open runtime reads a session in which it wants to start a run. -/
  | request (runtime : Runtime) (session : Session) (run : Run)
  /-- The request of this number is committed, or rejected. -/
  | start (number : Nat)
  /-- An open runtime ends the run of a session. -/
  | terminal (runtime : Runtime) (session : Session)
  /-- Any other commit of a session, which may be its first. -/
  | commit (session : Session)
  | close (runtime : Runtime)
  /-- The process of a runtime ends, wherever it stands. -/
  | crash (runtime : Runtime)

namespace RuntimeSystem

variable {Runtime Session Run : Type} [DecidableEq Runtime] [DecidableEq Session] [DecidableEq Run]
  (system : RuntimeSystem Runtime Session Run)

def live (runtime : Runtime) : Bool := decide (runtime ∈ system.leases) && system.alive runtime

def withPhase (runtime : Runtime) (phase : RuntimePhase Runtime Session Run) :
    RuntimeSystem Runtime Session Run :=
  { system with phase := Function.update system.phase runtime phase }

/-- A commit of a session. -/
def withRunning (session : Session) (running : Option (Run × Runtime)) :
    RuntimeSystem Runtime Session Run :=
  { system with
    sessions := Function.update system.sessions session
      { revision := (system.sessions session).revision + 1
        running } }

def commitRecovery (runtime : Runtime) (session : Session) (run : Run) (revision attempt : Nat)
    (rest : List Session) : RuntimeSystem Runtime Session Run :=
  if (system.sessions session).revision = revision then
    match (system.sessions session).running with
    | some (running, starter) =>
      if running = run then
        { (system.withRunning session none).withPhase runtime (.recovering rest) with
          restarted := system.restarted ++ [⟨run, starter, system.live starter⟩] }
      else system.withPhase runtime .opened
    | none => system.withPhase runtime .opened
  else if attempt + 1 < maxCasRetries then
    system.withPhase runtime (.appending session (attempt + 1) rest)
  -- The call of `initialize` is rejected, with the composition open.
  else system.withPhase runtime .opened

/-- The next step of a runtime in its initialization. -/
def advance (runtime : Runtime) : RuntimeSystem Runtime Session Run :=
  match system.phase runtime with
  | .outside | .opened | .closed => system
  | .waiting =>
    if system.authorityLock then system
    else { system.withPhase runtime .listing with authorityLock := true }
  | .listing => system.withPhase runtime (.inspecting system.leases false)
  | .inspecting [] hasLivePeer => system.withPhase runtime (.leasing hasLivePeer)
  | .inspecting (first :: rest) hasLivePeer =>
    if system.live first then system.withPhase runtime (.inspecting rest true)
    else { system.withPhase runtime (.inspecting rest hasLivePeer) with
      leases := system.leases.erase first }
  | .leasing hasLivePeer =>
    { system.withPhase runtime (.unlocking hasLivePeer) with
      leases := system.leases ++ [runtime] }
  | .unlocking hasLivePeer =>
    { system.withPhase runtime (.deciding hasLivePeer) with authorityLock := false }
  | .deciding hasLivePeer =>
    if hasLivePeer then system.withPhase runtime .opened
    else system.withPhase runtime
      (.recovering (system.ids.filter fun session => (system.sessions session).running.isSome))
  | .recovering [] => system.withPhase runtime .opened
  | .recovering (session :: rest) =>
    if (system.sessions session).running.isSome then
      system.withPhase runtime (.appending session 0 rest)
    else system.withPhase runtime (.recovering rest)
  | .appending session attempt rest =>
    match (system.sessions session).running with
    | some (run, _) =>
      system.withPhase runtime
        (.committing session run (system.sessions session).revision attempt rest)
    | none => system.withPhase runtime (.recovering rest)
  | .committing session run revision attempt rest =>
    system.commitRecovery runtime session run revision attempt rest

/-- The runtime can work: its process is alive, and it is initialized. -/
def works (runtime : Runtime) : Bool :=
  system.alive runtime && decide (system.phase runtime = .opened)

def commitRequest (request : RunRequest Runtime Session Run) : RuntimeSystem Runtime Session Run :=
  if system.works request.runtime ∧
      (system.sessions request.session).revision = request.expectedRevision ∧
      (system.sessions request.session).running = none then
    system.withRunning request.session (some (request.run, request.runtime))
  else system

def perform : RuntimeEvent Runtime Session Run → RuntimeSystem Runtime Session Run
  | .initializeRepository runtime =>
    if system.alive runtime ∧ system.phase runtime = .outside then
      system.withPhase runtime .waiting
    else system
  | .step runtime => if system.alive runtime then system.advance runtime else system
  | .stale => { system with authorityLock := false }
  | .request runtime session run =>
    if system.works runtime ∧ (system.sessions session).running = none then
      { system with
        requests := system.requests ++
          [⟨runtime, session, run, (system.sessions session).revision⟩] }
    else system
  | .start number =>
    match system.requests[number]? with
    | none => system
    | some request =>
      { system.commitRequest request with requests := system.requests.eraseIdx number }
  | .terminal runtime session =>
    if system.works runtime then system.withRunning session none else system
  | .commit session =>
    { system.withRunning session (system.sessions session).running with
      ids := if session ∈ system.ids then system.ids else system.ids ++ [session] }
  | .close runtime =>
    if system.works runtime then
      { system.withPhase runtime .closed with leases := system.leases.erase runtime }
    else system
  | .crash runtime => { system with alive := Function.update system.alive runtime false }

def run : RuntimeSystem Runtime Session Run → List (RuntimeEvent Runtime Session Run) →
    RuntimeSystem Runtime Session Run
  | system, [] => system
  | system, event :: rest => run (system.perform event) rest

/-! ## Properties -/

/-- Nothing has happened yet; the runs that are running were started by processes that have ended. -/
structure Starts : Prop where
  phase : ∀ runtime, system.phase runtime = .outside
  requests : system.requests = []
  restarted : system.restarted = []
  orphaned : ∀ session run starter, (system.sessions session).running = some (run, starter) →
    system.alive starter = false

/-- **Startup recovery only touches orphaned runs**, as far as was written. -/
def RestartsOrphans : Prop := ∀ restarted ∈ system.restarted, restarted.live = false

/-- The runtime, in this phase, has found no live lease, or may yet find none although the starter
made its own, and may come to the session in its recovery. -/
def RuntimePhase.MayRecover {Runtime Session Run : Type} (session : Session) (starter : Runtime) :
    RuntimePhase Runtime Session Run → Prop
  | .inspecting found hasLivePeer => hasLivePeer = false ∧ starter ∉ found
  | .leasing hasLivePeer | .unlocking hasLivePeer | .deciding hasLivePeer => hasLivePeer = false
  | .recovering todo => session ∈ todo
  | .appending first _ rest | .committing first _ _ _ rest => session ∈ first :: rest
  | _ => False

/-- The event is not the start of a run in a session that another runtime may come to in its
recovery. -/
def Sound : RuntimeEvent Runtime Session Run → Prop
  | .start number => ∀ request, system.requests[number]? = some request → ∀ runtime,
      system.alive runtime = true →
        ¬RuntimePhase.MayRecover request.session request.runtime (system.phase runtime)
  | _ => True

def SoundRun : RuntimeSystem Runtime Session Run → List (RuntimeEvent Runtime Session Run) → Prop
  | _, [] => True
  | system, event :: rest => system.Sound event ∧ SoundRun (system.perform event) rest

end RuntimeSystem

end Praxis.Session
