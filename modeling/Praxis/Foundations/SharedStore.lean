import Mathlib

/-!
# Processes over a shared store

Several processes step one after the other, in any order, and every step may change a store that
they share. A property of a process that later changes of the store keep, and that its own steps
keep, holds of every process after any number of steps (`keeps_run`).
-/

namespace Praxis.Foundations

set_option autoImplicit false

universe u v w

/-- A store and the processes that share it. -/
structure Shared (σ : Type u) (π : Type v) where
  store : σ
  processes : List π

/-- What happens next: a process begins, one of them takes a step, or the environment changes the
store. -/
inductive SharedEvent (π : Type v) (ε : Type w) (κ : Type u) where
  | start (process : π)
  | act (index : Nat) (event : ε)
  | other (change : κ)

namespace Shared

variable {σ κ : Type u} {π : Type v} {ε : Type w}
variable (step : σ → π → ε → σ × π) (change : σ → κ → σ)

def perform (system : Shared σ π) : SharedEvent π ε κ → Shared σ π
  | .start process => { system with processes := system.processes ++ [process] }
  | .act index event =>
    match system.processes[index]? with
    | some process =>
      let (store, next) := step system.store process event
      { store
        processes := system.processes.set index next }
    | none => system
  | .other happened => { system with store := change system.store happened }

def run (system : Shared σ π) (events : List (SharedEvent π ε κ)) : Shared σ π :=
  events.foldl (perform step change) system

section Rules

variable {step change} {Inv : σ → Prop} {Grows : σ → σ → Prop} {Holds : σ → π → Prop}

/-- What the rules need of a system. -/
structure Rules (step : σ → π → ε → σ × π) (change : σ → κ → σ) (Inv : σ → Prop)
    (Grows : σ → σ → Prop) (Holds : σ → π → Prop) (Begins : π → Prop) (Allowed : κ → Prop) :
    Prop where
  refl : ∀ store, Grows store store
  /-- What holds of a process does so when the store has grown. -/
  stable : ∀ {store next process}, Inv store → Inv next → Grows store next →
    Holds store process → Holds next process
  begins : ∀ {store process}, Inv store → Begins process → Holds store process
  steps : ∀ {store process} (event : ε), Inv store → Holds store process →
    Inv (step store process event).1 ∧ Grows store (step store process event).1 ∧
      Holds (step store process event).1 (step store process event).2
  changes : ∀ {store happened}, Inv store → Allowed happened →
    Inv (change store happened) ∧ Grows store (change store happened)

/-- The processes that begin may, and the environment does what it may. -/
def Permitted (Begins : π → Prop) (Allowed : κ → Prop) : SharedEvent π ε κ → Prop
  | .start process => Begins process
  | .act _ _ => True
  | .other happened => Allowed happened

/-- What holds of the store and of every process. -/
structure Sound (Inv : σ → Prop) (Holds : σ → π → Prop) (system : Shared σ π) : Prop where
  store : Inv system.store
  processes : ∀ process ∈ system.processes, Holds system.store process

variable {Begins : π → Prop} {Allowed : κ → Prop}

variable {system : Shared σ π} {events : List (SharedEvent π ε κ)}

theorem perform_sound (rules : Rules step change Inv Grows Holds Begins Allowed)
    (sound : Sound Inv Holds system) {event : SharedEvent π ε κ}
    (permitted : Permitted Begins Allowed event) :
    Sound Inv Holds (system.perform step change event) := by
  cases event with
  | start process =>
    refine ⟨sound.store, fun other member => ?_⟩
    rcases List.mem_append.mp member with before | new
    · exact sound.processes other before
    · rw [List.mem_singleton.mp new]
      exact rules.begins sound.store permitted
  | act index event =>
    cases found : system.processes[index]? with
    | none => simpa only [perform, found] using sound
    | some process =>
      simp only [perform, found]
      have holds := sound.processes process (List.mem_of_getElem? found)
      obtain ⟨inv, grows, next⟩ := rules.steps event sound.store holds
      refine ⟨inv, fun other member => ?_⟩
      rcases List.mem_or_eq_of_mem_set member with before | rfl
      · exact rules.stable sound.store inv grows (sound.processes other before)
      · exact next
  | other happened =>
    obtain ⟨inv, grows⟩ := rules.changes sound.store permitted
    exact ⟨inv, fun process member =>
      rules.stable sound.store inv grows (sound.processes process member)⟩

theorem run_sound (rules : Rules step change Inv Grows Holds Begins Allowed)
    (sound : Sound Inv Holds system)
    (permitted : ∀ event ∈ events, Permitted Begins Allowed event) :
    Sound Inv Holds (system.run step change events) := by
  induction events generalizing system with
  | nil => exact sound
  | cons event rest ih =>
    obtain ⟨first, others⟩ := List.forall_mem_cons.mp permitted
    exact ih (perform_sound rules sound first) others

/-! ## One process among the others -/

/-- The steps of the process at an index. -/
def acts (index : Nat) (events : List (SharedEvent π ε κ)) : Nat :=
  events.countP fun
    | .act other _ => other == index
    | _ => false

theorem run_process (rules : Rules step change Inv Grows Holds Begins Allowed) (P : σ → π → Prop)
    (rank : π → Nat)
    (stable : ∀ {store next process}, Grows store next → P store process → P next process)
    (steps : ∀ {store process} (event : ε), Inv store → Holds store process → P store process →
      P (step store process event).1 (step store process event).2)
    (less : ∀ store process (event : ε), rank (step store process event).2 ≤ rank process - 1)
    (sound : Sound Inv Holds system) (permitted : ∀ event ∈ events, Permitted Begins Allowed event)
    {index : Nat} {process : π} (found : system.processes[index]? = some process)
    (holds : P system.store process) :
    ∃ later, (system.run step change events).processes[index]? = some later ∧
      P (system.run step change events).store later ∧ rank later ≤ rank process - acts index events := by
  induction events generalizing system process with
  | nil => exact ⟨process, found, holds, Nat.le_refl _⟩
  | cons event rest ih =>
    obtain ⟨first, others⟩ := List.forall_mem_cons.mp permitted
    have next := perform_sound rules sound first
    cases event with
    | start new =>
      refine ih next others ?_ holds
      rw [perform, List.getElem?_append_left (List.getElem?_eq_some_iff.mp found).1, found]
    | other happened =>
      exact ih next others found (stable (rules.changes sound.store first).2 holds)
    | act turn event =>
      cases taken : system.processes[turn]? with
      | none =>
        have other : (turn == index) = false := by
          rw [beq_eq_false_iff_ne]
          rintro rfl
          rw [taken] at found
          cases found
        have unchanged : system.perform step change (.act turn event) = system := by
          simp only [perform, taken]
        rw [unchanged] at next
        obtain ⟨later, place, kept, near⟩ := ih next others found holds
        refine ⟨later, ?_, ?_, ?_⟩
        · rwa [run, List.foldl_cons, unchanged]
        · rwa [run, List.foldl_cons, unchanged]
        · simpa [acts, other] using near
      | some actor =>
        have does := sound.processes actor (List.mem_of_getElem? taken)
        have grows := (rules.steps event sound.store does).2.1
        by_cases own : turn = index
        · subst own
          obtain rfl : actor = process := by
            rw [found] at taken
            exact (Option.some.inj taken).symm
          have inside := (List.getElem?_eq_some_iff.mp found).1
          have stands : (system.perform step change (.act turn event)).processes[turn]? =
              some (step system.store actor event).2 := by
            simp only [perform, found, List.getElem?_set_self inside]
          have holds' : P (system.perform step change (.act turn event)).store
              (step system.store actor event).2 := by
            simpa only [perform, found] using steps event sound.store does holds
          obtain ⟨later, place, kept, near⟩ := ih next others stands holds'
          refine ⟨later, place, kept, ?_⟩
          have before := less system.store actor event
          simp only [acts, List.countP_cons, BEq.rfl, if_true] at near ⊢
          omega
        · have stands : (system.perform step change (.act turn event)).processes[index]? =
              some process := by
            simp only [perform, taken, List.getElem?_set_ne own, found]
          have holds' : P (system.perform step change (.act turn event)).store process := by
            simpa only [perform, taken] using stable grows holds
          obtain ⟨later, place, kept, near⟩ := ih next others stands holds'
          refine ⟨later, place, kept, ?_⟩
          have other : (turn == index) = false := beq_eq_false_iff_ne.mpr own
          simpa [acts, other] using near

end Rules

end Shared

end Praxis.Foundations
