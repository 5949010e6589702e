import Praxis.Foundations.Fallible

/-!
# Programs over shared files

A program that reads and writes files is a tree of steps: it looks at the disk and goes on with
what it saw, it makes one change, it takes or gives back a named lock, and it ends with a value or
an error. What a change does to the disk is a parameter.

`run` executes a program without interruption; no other program holds a lock then, so taking one
always succeeds. `Changes` says which changes a program can make at all.
-/

namespace Praxis.Foundations

set_option autoImplicit false

/-- A program on a disk `δ` with changes `ω`, errors `ε` and results `α`. -/
inductive FileProgram (δ ω ε α : Type) where
  | done (value : α)
  | fail (error : ε)
  | look (next : δ → FileProgram δ ω ε α)
  | change (write : ω) (next : FileProgram δ ω ε α)
  | acquire (lock : String) (next : FileProgram δ ω ε α)
  | release (lock : String) (next : FileProgram δ ω ε α)

namespace FileProgram

variable {δ ω ε α β : Type}

def bind : FileProgram δ ω ε α → (α → FileProgram δ ω ε β) → FileProgram δ ω ε β
  | done value, next => next value
  | fail error, _ => fail error
  | look seen, next => look fun disk => (seen disk).bind next
  | change write rest, next => change write (rest.bind next)
  | acquire lock rest, next => acquire lock (rest.bind next)
  | release lock rest, next => release lock (rest.bind next)

instance : Monad (FileProgram δ ω ε) where
  pure := done
  bind := bind

/-! ## Primitive programs -/

/-- What a look at the disk answers. -/
def read (view : δ → Except ε α) : FileProgram δ ω ε α :=
  look fun disk =>
    match view disk with
    | .ok value => done value
    | .error error => fail error

def write (step : ω) : FileProgram δ ω ε Unit := change step (done ())

/-- A computation that needs no file. -/
def ofExcept : Except ε α → FileProgram δ ω ε α
  | .ok value => done value
  | .error error => fail error

/-- Give the lock back at the end, however the program ends. -/
def finallyRelease (lock : String) : FileProgram δ ω ε α → FileProgram δ ω ε α
  | done value => release lock (done value)
  | fail error => release lock (fail error)
  | look seen => look fun disk => (seen disk).finallyRelease lock
  | change write rest => change write (rest.finallyRelease lock)
  | acquire other rest => acquire other (rest.finallyRelease lock)
  | release other rest => release other (rest.finallyRelease lock)

/-- The program with the lock taken. -/
def locked (lock : String) (program : FileProgram δ ω ε α) : FileProgram δ ω ε α :=
  acquire lock (program.finallyRelease lock)

/-- A program for every item, one after the other. -/
def forEach {ι : Type} (items : List ι) (body : ι → FileProgram δ ω ε Unit) :
    FileProgram δ ω ε Unit :=
  match items with
  | [] => done ()
  | item :: rest => (body item).bind fun _ => forEach rest body

/-! ## Running without interruption -/

section Running

variable (perform : δ → ω → δ)

/-- The result, and the disk afterwards. -/
def run : FileProgram δ ω ε α → δ → Except ε α × δ
  | done value, disk => (.ok value, disk)
  | fail error, disk => (.error error, disk)
  | look seen, disk => (seen disk).run disk
  | change write rest, disk => rest.run (perform disk write)
  | acquire _ rest, disk | release _ rest, disk => rest.run disk

variable {perform}

@[simp] theorem run_done (value : α) (disk : δ) :
    (done value : FileProgram δ ω ε α).run perform disk = (.ok value, disk) := rfl

@[simp] theorem run_pure (value : α) (disk : δ) :
    (pure value : FileProgram δ ω ε α).run perform disk = (.ok value, disk) := rfl

@[simp] theorem run_fail (error : ε) (disk : δ) :
    (fail error : FileProgram δ ω ε α).run perform disk = (.error error, disk) := rfl

@[simp] theorem run_write (step : ω) (disk : δ) :
    (write step : FileProgram δ ω ε Unit).run perform disk = (.ok (), perform disk step) := rfl

@[simp] theorem run_read (view : δ → Except ε α) (disk : δ) :
    (read view : FileProgram δ ω ε α).run perform disk = (view disk, disk) := by
  simp only [read, run]
  cases view disk <;> rfl

@[simp] theorem run_ofExcept (result : Except ε α) (disk : δ) :
    (ofExcept result : FileProgram δ ω ε α).run perform disk = (result, disk) := by
  cases result <;> rfl

/-- A sequence runs the second program where the first ended, unless it failed. -/
theorem run_bind (program : FileProgram δ ω ε α) (next : α → FileProgram δ ω ε β) (disk : δ) :
    (program >>= next).run perform disk =
      match program.run perform disk with
      | (.ok value, middle) => (next value).run perform middle
      | (.error error, middle) => (.error error, middle) := by
  change (program.bind next).run perform disk = _
  induction program generalizing disk with
  | done value => rfl
  | fail error => rfl
  | look seen ih => exact ih disk disk
  | change write rest ih => exact ih (perform disk write)
  | acquire lock rest ih => exact ih disk
  | release lock rest ih => exact ih disk

@[simp] theorem run_finallyRelease (lock : String) (program : FileProgram δ ω ε α) (disk : δ) :
    (program.finallyRelease lock).run perform disk = program.run perform disk := by
  induction program generalizing disk with
  | done value => rfl
  | fail error => rfl
  | look seen ih => exact ih disk disk
  | change write rest ih => exact ih (perform disk write)
  | acquire other rest ih => exact ih disk
  | release other rest ih => exact ih disk

@[simp] theorem run_locked (lock : String) (program : FileProgram δ ω ε α) (disk : δ) :
    (program.locked lock).run perform disk = program.run perform disk :=
  run_finallyRelease lock program disk

theorem run_bind_eq_ok {program : FileProgram δ ω ε α} {next : α → FileProgram δ ω ε β}
    {disk after : δ} {value : β} : (program >>= next).run perform disk = (.ok value, after) ↔
      ∃ first middle, program.run perform disk = (.ok first, middle) ∧
        (next first).run perform middle = (.ok value, after) := by
  rw [run_bind]
  rcases program.run perform disk with ⟨error | first, middle⟩ <;> simp

end Running

/-! ## The changes of a program -/

/-- Every change that the program can make has the property. -/
def Changes (P : ω → Prop) : FileProgram δ ω ε α → Prop
  | done _ | fail _ => True
  | look next => ∀ disk, (next disk).Changes P
  | change write rest => P write ∧ rest.Changes P
  | acquire _ rest | release _ rest => rest.Changes P

section Changes

variable {P : ω → Prop} {perform : δ → ω → δ}

variable {program : FileProgram δ ω ε α}

theorem Changes.bind {next : α → FileProgram δ ω ε β} (first : program.Changes P)
    (rest : ∀ a, (next a).Changes P) : (program >>= next).Changes P := by
  change (program.bind next).Changes P
  induction program with
  | done value => exact rest value
  | fail error => trivial
  | look seen ih => exact fun disk => ih disk (first disk)
  | change write after ih => exact ⟨first.1, ih first.2⟩
  | acquire lock after ih => exact ih first
  | release lock after ih => exact ih first

theorem changes_read (view : δ → Except ε α) : (read view : FileProgram δ ω ε α).Changes P := by
  intro disk
  dsimp only
  cases view disk <;> trivial

theorem changes_write {step : ω} (holds : P step) :
    (write step : FileProgram δ ω ε Unit).Changes P := ⟨holds, trivial⟩

theorem changes_ofExcept (result : Except ε α) :
    (ofExcept result : FileProgram δ ω ε α).Changes P := by
  cases result <;> trivial

theorem Changes.locked (inside : program.Changes P) (lock : String) :
    (program.locked lock).Changes P := by
  change (program.finallyRelease lock).Changes P
  induction program with
  | done value => trivial
  | fail error => trivial
  | look seen ih => exact fun disk => ih disk (inside disk)
  | change write after ih => exact ⟨inside.1, ih inside.2⟩
  | acquire other after ih => exact ih inside
  | release other after ih => exact ih inside

theorem Changes.forEach {ι : Type} {body : ι → FileProgram δ ω ε Unit}
    (each : ∀ item, (body item).Changes P) (items : List ι) :
    (FileProgram.forEach items body).Changes P := by
  induction items with
  | nil => trivial
  | cons item rest ih => exact (each item).bind fun _ => ih

theorem Changes.run_relates {R : δ → δ → Prop} (refl : ∀ disk, R disk disk)
    (trans : ∀ {first second third}, R first second → R second third → R first third)
    (each : ∀ disk step, P step → R disk (perform disk step)) (changes : program.Changes P)
    (disk : δ) : R disk (program.run perform disk).2 := by
  induction program generalizing disk with
  | done value => exact refl disk
  | fail error => exact refl disk
  | look seen ih => exact ih disk (changes disk) disk
  | change write rest ih => exact trans (each disk write changes.1) (ih changes.2 _)
  | acquire lock rest ih => exact ih changes disk
  | release lock rest ih => exact ih changes disk

end Changes

end FileProgram

end Praxis.Foundations
