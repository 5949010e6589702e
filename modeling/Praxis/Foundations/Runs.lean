import Mathlib

/-!
# Labelled runs

A run of a transition system is a sequence of steps, each with a label. The rules below carry
what one step does to a whole run: an invariant, a relation between the ends, and, for a
property that a run gains between its ends, the step that brings it about.
-/

namespace Praxis.Foundations

set_option autoImplicit false

universe u v

variable {σ : Type u} {ℓ : Type v} {step : σ → ℓ → σ → Prop}

theorem steps_keep {r : σ → σ → Prop} {s t : σ} (P : σ → Prop)
    (keeps : ∀ s t, P s → r s t → P t) (start : P s) (steps : Relation.ReflTransGen r s t) : P t := by
  induction steps with
  | refl => exact start
  | tail _ last ih => exact keeps _ _ ih last

/-- Steps one after the other, with their labels in order. -/
inductive Run (step : σ → ℓ → σ → Prop) : σ → List ℓ → σ → Prop
  | nil {s : σ} : Run step s [] s
  | snoc {s t u : σ} {labels : List ℓ} {label : ℓ} (before : Run step s labels t)
      (last : step t label u) : Run step s (labels ++ [label]) u

namespace Run

variable {s t u : σ} {labels more : List ℓ}

theorem append (first : Run step s labels t) (second : Run step t more u) :
    Run step s (labels ++ more) u := by
  induction second with
  | nil => simpa using first
  | snoc _ last ih =>
    rw [← List.append_assoc]
    exact .snoc ih last

theorem mono {wider : σ → ℓ → σ → Prop} (allowed : ∀ {s label t}, step s label t → wider s label t)
    (run : Run step s labels t) : Run wider s labels t := by
  induction run with
  | nil => exact .nil
  | snoc _ last ih => exact .snoc ih (allowed last)

/-- Labels that are each allowed in the state that the ones before them lead to. -/
def Allowed (next : σ → ℓ → σ) (Ok : σ → ℓ → Prop) : σ → List ℓ → Prop
  | _, [] => True
  | s, label :: rest => Ok s label ∧ Allowed next Ok (next s label) rest

theorem of_allowed {next : σ → ℓ → σ} {Ok : σ → ℓ → Prop} (allowed : Allowed next Ok s labels) :
    Run (fun s label t => Ok s label ∧ t = next s label) s labels (labels.foldl next s) := by
  induction labels generalizing s with
  | nil => exact .nil
  | cons label rest ih =>
    have first : Run (fun s label t => Ok s label ∧ t = next s label) s ([] ++ [label])
        (next s label) := .snoc .nil ⟨allowed.1, rfl⟩
    exact first.append (ih allowed.2)

theorem invariant (Inv : σ → Prop) (keeps : ∀ {s label t}, Inv s → step s label t → Inv t)
    (start : Inv s) (run : Run step s labels t) : Inv t := by
  induction run with
  | nil => exact start
  | snoc _ last ih => exact keeps ih last

theorem countP_sets (Flag : σ → Prop) [DecidablePred Flag] (sets : ℓ → Bool)
    (stays : ∀ {s label t}, step s label t → Flag s → Flag t)
    (exact_ : ∀ {s label t}, step s label t → (sets label = true ↔ ¬ Flag s ∧ Flag t))
    (run : Run step s labels t) : (Flag s → Flag t) ∧
      labels.countP sets = if Flag s then 0 else if Flag t then 1 else 0 := by
  induction run with
  | nil =>
    refine ⟨id, ?_⟩
    by_cases flag : Flag s <;> simp [flag]
  | @snoc middle last labels label before final ih =>
    obtain ⟨kept, count⟩ := ih
    have later := stays final
    have change := exact_ final
    refine ⟨fun flag => later (kept flag), ?_⟩
    rw [List.countP_append, List.countP_singleton, count]
    by_cases first : Flag s
    · have there := kept first
      have none : ¬ sets label = true := fun now => (change.mp now).1 there
      simp [first, none]
    · by_cases mid : Flag middle
      · have none : ¬ sets label = true := fun now => (change.mp now).1 mid
        simp [first, mid, later mid, none]
      · by_cases last : Flag last
        · simp [first, mid, last, change.mpr ⟨mid, last⟩]
        · have none : ¬ sets label = true := fun now => last (change.mp now).2
          simp [first, mid, last, none]

end Run

end Praxis.Foundations
