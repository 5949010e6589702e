import Praxis.Foundations.Fallible

/-!
# Statements run in one transaction

A statement reads and writes a state, or fails. Statements run one after the other leave, when
one fails, what the statements before it wrote; run in a transaction they leave the state in
which the transaction began. `transaction_eq` says what a transaction does in terms of the
fold of its statements, and `foldStatements_onPart` how statements that write one part of the state
fold over that part alone.
-/

namespace Praxis.Foundations

set_option autoImplicit false

universe u v w

variable {ε : Type u} {σ τ : Type v} {β : Type w}

/-- What a statement makes of the state it finds. -/
abbrev Statement (ε : Type u) (σ : Type v) := σ → Except ε σ

/-- Run statements in order. The state that is left has the writes of all statements before
the one that failed. -/
def runStatements : List (Statement ε σ) → σ → Except ε Unit × σ
  | [], state => (.ok (), state)
  | statement :: rest, state =>
    match statement state with
    | .ok next => runStatements rest next
    | .error error => (.error error, state)

/-- Run statements between `BEGIN` and `COMMIT`; a failure rolls their writes back. -/
def transaction (statements : List (Statement ε σ)) (state : σ) : Except ε Unit × σ :=
  match runStatements statements state with
  | (.ok done, written) => (.ok done, written)
  | (.error error, _) => (.error error, state)

/-- The fold of the statements, without what a failure leaves behind. -/
def foldStatements (statements : List (Statement ε σ)) (state : σ) : Except ε σ :=
  statements.foldlM (fun state statement => statement state) state

theorem foldStatements_append (first second : List (Statement ε σ)) (state : σ) :
    foldStatements (first ++ second) state =
      (foldStatements first state >>= foldStatements second) := by
  rw [foldStatements, List.foldlM_append]
  rfl

theorem foldStatements_single (statement : Statement ε σ) (state : σ) :
    foldStatements [statement] state = statement state := by
  rw [foldStatements, List.foldlM_cons]
  cases statement state <;> rfl

theorem runStatements_eq (statements : List (Statement ε σ)) (state : σ) :
    (∀ written, foldStatements statements state = .ok written →
      runStatements statements state = (.ok (), written)) ∧
    ∀ error, foldStatements statements state = .error error →
      ∃ left, runStatements statements state = (.error error, left) := by
  induction statements generalizing state with
  | nil =>
    constructor
    · intro written folded
      cases folded
      rfl
    · intro error folded
      cases folded
  | cons statement rest ih =>
    rw [foldStatements, List.foldlM_cons, runStatements]
    cases statement state with
    | ok next => exact ih next
    | error failure =>
      constructor
      · intro written folded
        cases folded
      · intro error folded
        cases folded
        exact ⟨state, rfl⟩

/-- **A transaction writes what all its statements write, or nothing.** -/
theorem transaction_eq (statements : List (Statement ε σ)) (state : σ) :
    transaction statements state =
      match foldStatements statements state with
      | .ok written => (.ok (), written)
      | .error error => (.error error, state) := by
  obtain ⟨accepted, failed⟩ := runStatements_eq statements state
  rw [transaction]
  cases folded : foldStatements statements state with
  | ok written => rw [accepted written folded]
  | error error =>
    obtain ⟨left, run⟩ := failed error folded
    rw [run]

/-! ## Statements on one part of the state -/

/-- A part of the state that can be read and replaced. -/
structure Part (σ : Type u) (τ : Type v) where
  get : σ → τ
  set : σ → τ → σ
  get_set : ∀ state value, get (set state value) = value
  set_set : ∀ state first second, set (set state first) second = set state second
  set_get : ∀ state, set state (get state) = state

/-- One statement for each item, each of which writes one part of the state and may read the
rest. -/
def onPart (part : Part σ τ) (write : σ → τ → β → Except ε τ) (items : List β) :
    List (Statement ε σ) :=
  items.map fun item state => do
    let written ← write state (part.get state) item
    return part.set state written

theorem foldStatements_onPart (part : Part σ τ) {write : σ → τ → β → Except ε τ}
    (reads : ∀ state value, write (part.set state value) = write state) (items : List β)
    (state : σ) :
    foldStatements (onPart part write items) state = do
      let written ← items.foldlM (write state) (part.get state)
      return part.set state written := by
  induction items generalizing state with
  | nil =>
    rw [onPart, List.map_nil, foldStatements, List.foldlM_nil, List.foldlM_nil, pure_bind,
      part.set_get]
  | cons item rest ih =>
    rw [onPart, List.map_cons, foldStatements, List.foldlM_cons, List.foldlM_cons, bind_assoc,
      bind_assoc]
    refine bind_congr fun written => ?_
    rw [pure_bind]
    refine (ih (part.set state written)).trans ?_
    rw [part.get_set, reads]
    refine bind_congr fun last => ?_
    rw [part.set_set]

end Praxis.Foundations
