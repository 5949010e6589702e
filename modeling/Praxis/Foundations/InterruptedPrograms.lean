import Praxis.Foundations.FilePrograms

/-!
# Programs that are interrupted

A program makes its changes one after the other (`writes`), each of which depends on what it saw
of the disk before. A crash leaves the disk after some of them (`crashed`); after all of them it is
the disk of a run that was not interrupted (`run_disk`).

The changes of a composed program are those of its parts (`writes_bind`), so the disks that a crash
of the program can leave are read off its list of changes.
-/

namespace Praxis.Foundations.FileProgram

set_option autoImplicit false

variable {δ ω ε α β : Type} (perform : δ → ω → δ)

/-- The changes that a run makes, in their order. -/
def writes : FileProgram δ ω ε α → δ → List ω
  | done _, _ | fail _, _ => []
  | look seen, disk => (seen disk).writes disk
  | change write rest, disk => write :: rest.writes (perform disk write)
  | acquire _ rest, disk | release _ rest, disk => rest.writes disk

/-- The disk that a crash leaves after a number of changes. -/
def crashed (program : FileProgram δ ω ε α) (disk : δ) (count : Nat) : δ :=
  ((program.writes perform disk).take count).foldl perform disk

variable {perform}

variable (program : FileProgram δ ω ε α)

/-- A run makes its changes, all of them. -/
theorem run_disk (disk : δ) :
    (program.run perform disk).2 = (program.writes perform disk).foldl perform disk := by
  induction program generalizing disk with
  | done value => rfl
  | fail error => rfl
  | look seen ih => exact ih disk disk
  | change write rest ih => exact ih (perform disk write)
  | acquire lock rest ih => exact ih disk
  | release lock rest ih => exact ih disk

theorem crashed_all (disk : δ) {count : Nat} (all : (program.writes perform disk).length ≤ count) :
    program.crashed perform disk count = (program.run perform disk).2 := by
  rw [crashed, List.take_of_length_le all, run_disk]

/-! ## The changes of composed programs -/

@[simp] theorem writes_done (value : α) (disk : δ) :
    (done value : FileProgram δ ω ε α).writes perform disk = [] := rfl

@[simp] theorem writes_pure (value : α) (disk : δ) :
    (pure value : FileProgram δ ω ε α).writes perform disk = [] := rfl

@[simp] theorem writes_write (step : ω) (disk : δ) :
    (write step : FileProgram δ ω ε Unit).writes perform disk = [step] := rfl

@[simp] theorem writes_read (view : δ → Except ε α) (disk : δ) :
    (read view : FileProgram δ ω ε α).writes perform disk = [] := by
  simp only [read, writes]
  cases view disk <;> rfl

@[simp] theorem writes_ofExcept (result : Except ε α) (disk : δ) :
    (ofExcept result : FileProgram δ ω ε α).writes perform disk = [] := by
  cases result <;> rfl

/-- A sequence makes the changes of its first program, and those of the second unless the first
failed. -/
theorem writes_bind (next : α → FileProgram δ ω ε β) (disk : δ) :
    (program >>= next).writes perform disk = program.writes perform disk ++
      match program.run perform disk with
      | (.ok value, middle) => (next value).writes perform middle
      | (.error _, _) => [] := by
  change (program.bind next).writes perform disk = _
  induction program generalizing disk with
  | done value => rfl
  | fail error => rfl
  | look seen ih => exact ih disk disk
  | change write rest ih => exact congrArg (List.cons write) (ih (perform disk write))
  | acquire lock rest ih => exact ih disk
  | release lock rest ih => exact ih disk

@[simp] theorem writes_finallyRelease (lock : String) (program : FileProgram δ ω ε α) (disk : δ) :
    (program.finallyRelease lock).writes perform disk = program.writes perform disk := by
  induction program generalizing disk with
  | done value => rfl
  | fail error => rfl
  | look seen ih => exact ih disk disk
  | change write rest ih => exact congrArg (List.cons write) (ih (perform disk write))
  | acquire other rest ih => exact ih disk
  | release other rest ih => exact ih disk

@[simp] theorem writes_locked (lock : String) (program : FileProgram δ ω ε α) (disk : δ) :
    (program.locked lock).writes perform disk = program.writes perform disk :=
  writes_finallyRelease lock program disk

/-- A loop that makes one change for every item succeeds. -/
theorem run_forEach_write {ι : Type} (step : ι → ω) (items : List ι) (disk : δ) :
    (forEach items fun item => write (step item) : FileProgram δ ω ε Unit).run perform disk =
      (.ok (), (items.map step).foldl perform disk) := by
  induction items generalizing disk with
  | nil => rfl
  | cons item rest ih => exact ih (perform disk (step item))

theorem writes_forEach_write {ι : Type} (step : ι → ω) (items : List ι) (disk : δ) :
    (forEach items fun item => write (step item) : FileProgram δ ω ε Unit).writes perform disk =
      items.map step := by
  induction items generalizing disk with
  | nil => rfl
  | cons item rest ih => exact congrArg (List.cons (step item)) (ih (perform disk (step item)))

end Praxis.Foundations.FileProgram
