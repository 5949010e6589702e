import Praxis.Foundations.Fallible

/-!
# Actions on a state

An action reads and changes a state and may reject; what it changed before it rejected stays
changed. The rules say how an action that is bound to another runs, what a list of reads returns,
and when a loop over a list runs through or rejects.
-/

namespace Praxis.Foundations

set_option autoImplicit false

/-- What becomes of a state: a result or an error, and the state afterwards. -/
def Action (ε σ α : Type) := σ → Except ε α × σ

namespace Action

variable {ε σ α β γ : Type} {action : Action ε σ α} {next : α → Action ε σ β} {state after : σ}
  {error : ε}

instance : Monad (Action ε σ) where
  pure a := fun state => (.ok a, state)
  bind action next := fun state =>
    match action state with
    | (.ok a, after) => next a after
    | (.error error, after) => (.error error, after)

/-- An operation on the state. -/
def of (operation : σ → Except ε α × σ) : Action ε σ α := operation

/-- The result of a computation that does not touch the state. -/
def check (result : Except ε α) : Action ε σ α := fun state => (result, state)

theorem pure_run (a : α) (state : σ) : (pure a : Action ε σ α) state = (.ok a, state) := rfl

theorem bind_run {a : α}
    (first : action state = (.ok a, after)) : (action >>= next) state = next a after := by
  show (match action state with
    | (.ok a, after) => next a after
    | (.error error, after) => (.error error, after)) = _
  rw [first]

theorem bind_rejects (first : action state = (.error error, after)) :
    (action >>= next) state = (.error error, after) := by
  show (match action state with
    | (.ok a, after) => next a after
    | (.error error, after) => (.error error, after)) = _
  rw [first]

/-- What an action that accepted as a whole did first. -/
theorem bind_eq_ok {b : β} :
    (action >>= next) state = (.ok b, after) ↔
      ∃ a middle, action state = (.ok a, middle) ∧ next a middle = (.ok b, after) := by
  rcases first : action state with ⟨error | a, middle⟩
  · rw [bind_rejects first]
    simp
  · rw [bind_run first]
    simp

section Parts

variable {operation : σ → Except ε α × σ} {result : Except ε α} {next : α → Action ε σ β}
  {state after : σ} {a : α} {error : ε} {test : Bool}

theorem of_bind_run (first : operation state = (.ok a, after)) :
    (of operation >>= next) state = next a after :=
  bind_run first

theorem of_bind_rejects (first : operation state = (.error error, after)) :
    (of operation >>= next) state = (.error error, after) :=
  bind_rejects first

theorem check_bind_run (first : result = .ok a) : (check result >>= next) state = next a state :=
  bind_run (congrArg (·, state) first)

theorem check_bind_rejects (first : result = .error error) :
    (check result >>= next) state = (.error error, state) :=
  bind_rejects (congrArg (·, state) first)

theorem ensure_bind_run {next : Unit → Action ε σ β} (passed : test = true) :
    (check (ensure test error) >>= next) state = next () state :=
  check_bind_run (ensure_eq_ok.mpr passed)

theorem ensure_bind_rejects {next : Unit → Action ε σ β} (failed : test = false) :
    (check (ensure test error) >>= next) state = (.error error, state) :=
  check_bind_rejects (by rw [failed]; rfl)

end Parts

/-- A reading of the state. -/
def reading (read : σ → α) : Action ε σ α := fun state => (.ok (read state), state)

theorem reading_bind_run {read : σ → α} :
    (reading read >>= next) state = next (read state) state :=
  bind_run rfl

/-- `try` around an action: nothing, if it rejects. -/
def attempt (action : Action ε σ α) : Action ε σ (Option α) := fun state =>
  (.ok (action state).1.toOption, (action state).2)

theorem attempt_bind_run {next : Option α → Action ε σ β} :
    (attempt action >>= next) state = next (action state).1.toOption (action state).2 :=
  bind_run rfl

/-- The action rejects in no state. -/
def Resolves (action : Action ε σ α) : Prop := ∀ state, ∃ a after, action state = (.ok a, after)

namespace Resolves

variable {action : Action ε σ α}

theorem pure (a : α) : Resolves (pure a : Action ε σ α) := fun state => ⟨a, state, rfl⟩

theorem attempt (action : Action ε σ α) : Resolves (Action.attempt action) :=
  fun _ => ⟨_, _, rfl⟩

theorem bind {next : α → Action ε σ β} (first : Resolves action) (others : ∀ a, Resolves (next a)) :
    Resolves (action >>= next) := by
  intro state
  obtain ⟨a, middle, run⟩ := first state
  rw [bind_run run]
  exact others a middle

theorem ite {condition : Prop} [Decidable condition] {other : Action ε σ α} (yes : Resolves action)
    (no : Resolves other) : Resolves (if condition then action else other) := by
  split
  · exact yes
  · exact no

end Resolves

/-- Doing nothing with the result changes nothing. -/
theorem map_id (action : Action ε σ α) : id <$> action = action := by
  funext state
  change (action >>= pure) state = action state
  rcases first : action state with ⟨error | a, after⟩
  · rw [bind_rejects first]
  · rw [bind_run first, pure_run]

theorem bind_assoc_run (action : Action ε σ α) (next : α → Action ε σ β)
    (last : β → Action ε σ γ) : action >>= next >>= last = action >>= fun a => next a >>= last := by
  funext state
  rcases first : action state with ⟨error | a, after⟩
  · rw [bind_rejects first, bind_rejects (bind_rejects first)]
  · rw [bind_run first]
    rcases second : next a after with ⟨error | b, later⟩
    · rw [bind_rejects second, bind_rejects (by rw [bind_run first, second])]
    · rw [bind_run second, bind_run (by rw [bind_run first, second])]

instance : LawfulMonad (Action ε σ) :=
  LawfulMonad.mk' (Action ε σ) map_id (fun _ _ => rfl) bind_assoc_run

variable {items : List α} {step : β → α → Action ε σ β}

theorem mapM_reads {read : α → Action ε σ β} {value : α → β}
    (reads : ∀ item ∈ items, read item state = (.ok (value item), state)) :
    items.mapM read state = (.ok (items.map value), state) := by
  induction items with
  | nil => rfl
  | cons item rest ih =>
    rw [List.mapM_cons, bind_run (reads item List.mem_cons_self),
      bind_run (ih fun other member => reads other (List.mem_cons_of_mem _ member))]
    rfl

theorem mapM_shows {body : α → Action ε σ β} {show_ : β → α}
    (shows : ∀ item state b after, body item state = (.ok b, after) → show_ b = item)
    {results : List β} (run : items.mapM body state = (.ok results, after)) :
    results.map show_ = items := by
  induction items generalizing state after results with
  | nil =>
    obtain rfl : [] = results := Except.ok.inj (congrArg Prod.fst run)
    rfl
  | cons item rest ih =>
    rw [List.mapM_cons] at run
    obtain ⟨b, middle, first, run⟩ := bind_eq_ok.mp run
    obtain ⟨others, last, later, run⟩ := bind_eq_ok.mp run
    obtain rfl : b :: others = results := Except.ok.inj (congrArg Prod.fst run)
    rw [List.map_cons, shows item state b middle first, ih later]

/-- A list of checks, each of which may read the state: the first that fails decides. -/
theorem forM_ensures {turn : α → Action ε σ Unit} {test : α → Bool}
    (turns : ∀ item ∈ items, turn item state = (ensure (test item) error, state)) :
    items.forM turn state = (ensure (items.all test) error, state) := by
  induction items with
  | nil => rfl
  | cons item rest ih =>
    have others := ih fun other member => turns other (List.mem_cons_of_mem _ member)
    have first := turns item List.mem_cons_self
    change (turn item >>= fun _ => rest.forM turn) state = _
    rw [List.all_cons]
    cases passed : test item with
    | false =>
      rw [passed] at first
      exact bind_rejects first
    | true =>
      rw [passed] at first
      rw [bind_run first, others]
      rfl

/-- A loop keeps what each of its turns keeps, as far as it runs. -/
theorem foldlM_invariant (Inv : σ → Prop)
    (keeps : ∀ item ∈ items, ∀ value state, Inv state → Inv (step value item state).2) (value : β)
    (start : Inv state) : Inv (items.foldlM step value state).2 := by
  induction items generalizing value state with
  | nil => exact start
  | cons item rest ih =>
    have first := keeps item List.mem_cons_self value state start
    rw [List.foldlM_cons]
    rcases turn : step value item state with ⟨error | next, after⟩ <;> rw [turn] at first
    · rw [bind_rejects turn]
      exact first
    · rw [bind_run turn]
      exact ih (fun other member => keeps other (List.mem_cons_of_mem _ member)) next first

theorem foldlM_rejects (Inv : σ → Prop)
    (keeps : ∀ item ∈ items, ∀ value state, Inv state → Inv (step value item state).2) {bad : α}
    (member : bad ∈ items)
    (rejects : ∀ value state, Inv state → ∃ error, (step value bad state).1 = .error error)
    (value : β) (start : Inv state) :
    ∃ error, (items.foldlM step value state).1 = .error error := by
  induction items generalizing value state with
  | nil => cases member
  | cons item rest ih =>
    have first := keeps item List.mem_cons_self value state start
    rw [List.foldlM_cons]
    rcases turn : step value item state with ⟨error | next, after⟩ <;> rw [turn] at first
    · rw [bind_rejects turn]
      exact ⟨error, rfl⟩
    · rw [bind_run turn]
      rcases List.mem_cons.mp member with rfl | later
      · obtain ⟨error, rejected⟩ := rejects value state start
        rw [turn] at rejected
        cases rejected
      · exact ih (fun other member => keeps other (List.mem_cons_of_mem _ member)) later next first

/-! ## Errors that are handled -/

/-- The result of a handler in place of an error. -/
def catching (action : Action ε σ α) (handler : ε → Action ε σ α) : Action ε σ α := fun state =>
  match action state with
  | (.ok a, after) => (.ok a, after)
  | (.error error, after) => handler error after

/-- Whatever the action makes of the state, without its error. -/
def swallow (action : Action ε σ Unit) : Action ε σ Unit := fun state => (.ok (), (action state).2)

/-- A cleanup that runs at the end, however the action ends. -/
def ensuring (action : Action ε σ α) (cleanup : Action ε σ Unit) : Action ε σ α := fun state =>
  match cleanup (action state).2 with
  | (.ok _, after) => ((action state).1, after)
  | (.error error, after) => (.error error, after)

theorem swallow_run {action : Action ε σ Unit} {result : Except ε Unit}
    (first : action state = (result, after)) : swallow action state = (.ok (), after) := by
  rw [swallow, first]

/-! ## Triples -/

/-- From a state with the precondition the action ends with a result and a state that satisfy the
one condition, or with an error and a state that satisfy the other. -/
structure Triple (P : σ → Prop) (action : Action ε σ α) (R : α → σ → Prop) (E : ε → σ → Prop) :
    Prop where
  accepts : ∀ {state a after}, P state → action state = (.ok a, after) → R a after
  rejects : ∀ {state error after}, P state → action state = (.error error, after) → E error after

namespace Triple

variable {P : σ → Prop} {R : α → σ → Prop} {E : ε → σ → Prop} {action : Action ε σ α}
  {R' : α → σ → Prop} {E' : ε → σ → Prop}

theorem of_run (runs : ∀ state, P state → (∃ a after, action state = (.ok a, after) ∧ R a after) ∨
    ∃ error after, action state = (.error error, after) ∧ E error after) : Triple P action R E where
  accepts {state a after} holds run := by
    rcases runs state holds with ⟨a', after', run', ends⟩ | ⟨_, _, run', _⟩
    · obtain ⟨rfl, rfl⟩ : a' = a ∧ after' = after := by
        simpa using run'.symm.trans run
      exact ends
    · cases run'.symm.trans run
  rejects {state error after} holds run := by
    rcases runs state holds with ⟨_, _, run', _⟩ | ⟨error', after', run', ends⟩
    · cases run'.symm.trans run
    · obtain ⟨rfl, rfl⟩ : error' = error ∧ after' = after := by
        simpa using run'.symm.trans run
      exact ends

theorem mono {P' : σ → Prop} (triple : Triple P action R E)
    (pre : ∀ state, P' state → P state) (post : ∀ a after, R a after → R' a after)
    (error : ∀ error after, E error after → E' error after) : Triple P' action R' E' where
  accepts holds run := post _ _ (triple.accepts (pre _ holds) run)
  rejects holds run := error _ _ (triple.rejects (pre _ holds) run)

/-- Only what an error leaves is said more weakly. -/
theorem weaken (triple : Triple P action R E)
    (error : ∀ error after, E error after → E' error after) : Triple P action R E' :=
  triple.mono (fun _ => id) (fun _ _ => id) error

theorem fact {C : Prop} (given : C → Triple P action R E) :
    Triple (fun state => P state ∧ C) action R E where
  accepts holds run := (given holds.2).accepts holds.1 run
  rejects holds run := (given holds.2).rejects holds.1 run

/-- The precondition holds for one of many values. -/
theorem of_exists {ι : Type} {P : ι → σ → Prop} (given : ∀ i, Triple (P i) action R E) :
    Triple (fun state => ∃ i, P i state) action R E where
  accepts holds run := holds.elim fun i here => (given i).accepts here run
  rejects holds run := holds.elim fun i here => (given i).rejects here run

theorem pure (a : α) (holds : ∀ state, P state → R a state) :
    Triple P (Pure.pure a : Action ε σ α) R E :=
  of_run fun state pre => .inl ⟨a, state, rfl, holds state pre⟩

theorem check {result : Except ε α} (accepts : ∀ a state, result = .ok a → P state → R a state)
    (rejects : ∀ error state, result = .error error → P state → E error state) :
    Triple P (Action.check result) R E := by
  refine of_run fun state holds => ?_
  cases result with
  | ok a => exact .inl ⟨a, state, rfl, accepts a state rfl holds⟩
  | error error => exact .inr ⟨error, state, rfl, rejects error state rfl holds⟩

/-- Either the first action rejects, or the second runs where it ended. -/
theorem bind {next : α → Action ε σ β} {S : β → σ → Prop} (first : Triple P action R E)
    (rest : ∀ a, Triple (R a) (next a) S E) : Triple P (action >>= next) S E := by
  refine of_run fun state holds => ?_
  rcases run : action state with ⟨error | a, after⟩
  · exact .inr ⟨error, after, bind_rejects run, first.rejects holds run⟩
  · have middle := first.accepts holds run
    rcases run' : next a after with ⟨error | b, final⟩
    · exact .inr ⟨error, final, (bind_run run).trans run', (rest a).rejects middle run'⟩
    · exact .inl ⟨b, final, (bind_run run).trans run', (rest a).accepts middle run'⟩

theorem ite {condition : Prop} [Decidable condition] {other : Action ε σ α}
    (yes : condition → Triple P action R E) (no : ¬condition → Triple P other R E) :
    Triple P (if condition then action else other) R E := by
  by_cases holds : condition
  · rw [if_pos holds]
    exact yes holds
  · rw [if_neg holds]
    exact no holds

/-- A loop keeps what its turns keep; each turn that accepts shows something of its item. -/
theorem forM {I : σ → Prop} {C : β → Prop} {body : β → Action ε σ Unit} {items : List β}
    (each : ∀ item ∈ items, Triple I (body item) (fun _ after => I after ∧ C item) E) :
    Triple I (items.forM body) (fun _ after => I after ∧ ∀ item ∈ items, C item) E := by
  induction items with
  | nil => exact pure () fun _ holds => ⟨holds, by simp⟩
  | cons item rest ih =>
    have first := each item List.mem_cons_self
    have others := ih fun other member => each other (List.mem_cons_of_mem _ member)
    refine first.bind fun _ => ?_
    refine of_run fun state ⟨holds, shown⟩ => ?_
    rcases run : rest.forM body state with ⟨error | a, after⟩
    · exact .inr ⟨error, after, rfl, others.rejects holds run⟩
    · obtain ⟨after_, all⟩ := others.accepts holds run
      exact .inl ⟨a, after, rfl, after_, List.forall_mem_cons.mpr ⟨shown, all⟩⟩

theorem catching {handler : ε → Action ε σ α} (first : Triple P action R E')
    (handles : ∀ error, Triple (E' error) (handler error) R E) :
    Triple P (action.catching handler) R E := by
  refine of_run fun state holds => ?_
  rcases run : action state with ⟨error | a, after⟩
  · have caught : action.catching handler state = handler error after := by
      rw [Action.catching, run]
    have failed := first.rejects holds run
    rw [caught]
    rcases run' : handler error after with ⟨error' | a, final⟩
    · exact .inr ⟨error', final, rfl, (handles error).rejects failed run'⟩
    · exact .inl ⟨a, final, rfl, (handles error).accepts failed run'⟩
  · refine .inl ⟨a, after, ?_, first.accepts holds run⟩
    rw [Action.catching, run]

theorem swallow {action : Action ε σ Unit} {R : σ → Prop}
    (inner : Triple P action (fun _ => R) fun _ => R) :
    Triple P action.swallow (fun _ => R) E := by
  refine of_run fun state holds => .inl ⟨(), (action state).2, rfl, ?_⟩
  rcases run : action state with ⟨error | a, after⟩
  · exact inner.rejects holds run
  · exact inner.accepts holds run

theorem ensuring {cleanup : Action ε σ Unit} (first : Triple P action R E)
    (cleans : ∀ a, Triple (R a) cleanup (fun _ => R' a) E')
    (recovers : ∀ error, Triple (E error) cleanup (fun _ => E' error) E') :
    Triple P (action.ensuring cleanup) R' E' := by
  refine of_run fun state holds => ?_
  rcases run : action state with ⟨error | a, after⟩ <;>
    rcases run' : cleanup after with ⟨error' | done, final⟩
  · refine .inr ⟨error', final, ?_, (recovers error).rejects (first.rejects holds run) run'⟩
    simp only [Action.ensuring, run, run']
  · refine .inr ⟨error, final, ?_, (recovers error).accepts (first.rejects holds run) run'⟩
    simp only [Action.ensuring, run, run']
  · refine .inr ⟨error', final, ?_, (cleans a).rejects (first.accepts holds run) run'⟩
    simp only [Action.ensuring, run, run']
  · refine .inl ⟨a, final, ?_, (cleans a).accepts (first.accepts holds run) run'⟩
    simp only [Action.ensuring, run, run']

end Triple

end Action

end Praxis.Foundations
