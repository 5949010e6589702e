import Praxis.Foundations.Actions

/-!
# Actions that leave a trace

A world together with the events that have been seen of it. An action may run on the world alone, or
may add the event of its result. `Appends` says of an action that it adds only events of a kind, and
a composed action adds what its parts add.
-/

namespace Praxis.Foundations

set_option autoImplicit false

/-- A world and the events that have been seen. -/
structure Traced (σ Event : Type) where
  world : σ
  trace : List Event := []

namespace Traced

variable {ε σ Event α β : Type}

/-- An action on the world, of which nothing is seen. -/
def lift (action : Action ε σ α) : Action ε (Traced σ Event) α := fun state =>
  ((action state.world).1,
    { state with world := (action state.world).2 })

/-- An action on the world whose result is seen as an event. -/
def emit (event : α → Event) (action : σ → α × σ) : Action ε (Traced σ Event) α := fun state =>
  (.ok (action state.world).1,
    { world := (action state.world).2
      trace := state.trace ++ [event (action state.world).1] })

/-- The action adds events to the trace, all of them of a kind. -/
def Appends (P : Event → Prop) (action : Action ε (Traced σ Event) α) : Prop :=
  ∀ state, ∃ extra, (action state).2.trace = state.trace ++ extra ∧ ∀ event ∈ extra, P event

namespace Appends

variable {P Q : Event → Prop} {action : Action ε (Traced σ Event) α} {state after : Traced σ Event}
  {result : Except ε α}

theorem of_run (appends : Appends P action) (run : action state = (result, after)) :
    ∃ extra, after.trace = state.trace ++ extra ∧ ∀ event ∈ extra, P event := by
  obtain ⟨extra, added, each⟩ := appends state
  rw [run] at added
  exact ⟨extra, added, each⟩

theorem of_silent (silent : ∀ state, (action state).2.trace = state.trace) : Appends P action :=
  fun state => ⟨[], by rw [silent, List.append_nil], fun _ none => absurd none List.not_mem_nil⟩

theorem pure (a : α) : Appends P (pure a : Action ε (Traced σ Event) α) :=
  of_silent fun _ => rfl

theorem check (result : Except ε α) : Appends P (Action.check result : Action ε (Traced σ Event) α) :=
  of_silent fun _ => rfl

theorem reading (read : Traced σ Event → α) :
    Appends P (Action.reading read : Action ε (Traced σ Event) α) :=
  of_silent fun _ => rfl

theorem lift (action : Action ε σ α) :
    Appends P (Traced.lift action : Action ε (Traced σ Event) α) :=
  of_silent fun _ => rfl

theorem emit {event : α → Event} {action : σ → α × σ} (kind : ∀ a, P (event a)) :
    Appends P (Traced.emit event action : Action ε (Traced σ Event) α) := by
  intro state
  refine ⟨[event (action state.world).1], rfl, ?_⟩
  simpa using kind _

theorem bind {next : α → Action ε (Traced σ Event) β} (first : Appends P action)
    (others : ∀ a, Appends P (next a)) : Appends P (action >>= next) := by
  intro state
  obtain ⟨extra, added, each⟩ := first state
  rcases run : action state with ⟨error | a, middle⟩
  · rw [Action.bind_rejects run]
    rw [run] at added
    exact ⟨extra, added, each⟩
  · rw [Action.bind_run run]
    rw [run] at added
    obtain ⟨more, added', each'⟩ := others a middle
    refine ⟨extra ++ more, ?_, fun event member => ?_⟩
    · rw [added', added, List.append_assoc]
    · rcases List.mem_append.mp member with before | after
      · exact each event before
      · exact each' event after

theorem ite {condition : Prop} [Decidable condition] {other : Action ε (Traced σ Event) α}
    (yes : Appends P action) (no : Appends P other) :
    Appends P (if condition then action else other) := by
  split
  · exact yes
  · exact no

theorem attempt (appends : Appends P action) : Appends P (Action.attempt action) :=
  fun state => appends state

/-- A loop adds what its turns add. -/
theorem forM {body : β → Action ε (Traced σ Event) Unit} (each : ∀ item, Appends P (body item))
    (items : List β) : Appends P (items.forM body) := by
  induction items with
  | nil => exact pure ()
  | cons item rest ih => exact (each item).bind fun _ => ih

theorem mapM {body : β → Action ε (Traced σ Event) α} (each : ∀ item, Appends P (body item))
    (items : List β) : Appends P (items.mapM body) := by
  induction items with
  | nil => exact pure []
  | cons item rest ih =>
    rw [List.mapM_cons]
    exact (each item).bind fun a => ih.bind fun others => pure (a :: others)

theorem all_of_run (appends : Appends P action) (run : action state = (result, after))
    (before : ∀ event ∈ state.trace, P event) : ∀ event ∈ after.trace, P event := by
  obtain ⟨extra, added, each⟩ := appends.of_run run
  intro event member
  rw [added] at member
  rcases List.mem_append.mp member with earlier | new
  · exact before event earlier
  · exact each event new

end Appends

end Traced

end Praxis.Foundations
