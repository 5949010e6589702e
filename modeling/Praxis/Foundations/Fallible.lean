import Mathlib

/-!
# Fallible computations

A function that may reject its input is a computation in `Except`. This module collects
what the proofs need about such computations: `ensure` rejects when a check fails, and the
inversion lemmas read off from an accepted computation what each of its steps accepted.
A left fold of fallible steps is accepted exactly along a chain of accepted steps
(`foldlM_append_eq_ok`, `foldlM_invariant`).
-/

namespace Praxis.Foundations

set_option autoImplicit false

universe u v w

variable {ε : Type u} {α β σ : Type v} {error : ε} {done : Unit} {a b : α} {result : Except ε α}
  {condition : Prop} {next : α → Except ε β}

/-- Accept when the check holds, reject with the given error otherwise. -/
def ensure {ε : Type u} (check : Bool) (error : ε) : Except ε Unit :=
  if check then .ok () else .error error

/-- The value of an option, or the given error. -/
def orError {ε : Type u} {α : Type v} (error : ε) : Option α → Except ε α
  | some value => .ok value
  | none => .error error

@[simp] theorem ensure_eq_ok {check : Bool} :
    ensure check error = .ok done ↔ check = true := by
  cases check <;> simp [ensure]

@[simp] theorem ensure_true : ensure true error = .ok () := rfl

@[simp] theorem orError_eq_ok {value : Option α} :
    orError error value = .ok a ↔ value = some a := by
  cases value <;> simp [orError]

/-- A computation has one result. -/
theorem ok_unique (first : result = .ok a) (second : result = .ok b) : a = b :=
  Except.ok.inj (first.symm.trans second)

theorem exists_ok {check : α → Bool}
    (holds : result.toOption.any check = true) : ∃ a, result = .ok a ∧ check a = true := by
  cases result with
  | error => simp [Except.toOption] at holds
  | ok a => exact ⟨a, rfl, by simpa [Except.toOption] using holds⟩

/-- The computation is accepted under a condition only, and then with this result. -/
def AcceptsIff (result : Except ε α) (condition : Prop) (value : α) : Prop :=
  (condition → result = .ok value) ∧ (¬condition → ∃ error, result = .error error)

theorem acceptsIff_of {value : α}
    (accepts : ∀ a, result = .ok a ↔ condition ∧ a = value) : AcceptsIff result condition value := by
  refine ⟨fun holds => (accepts value).mpr ⟨holds, rfl⟩, fun fails => ?_⟩
  cases taken : result with
  | error error => exact ⟨error, rfl⟩
  | ok a => exact absurd ((accepts a).mp taken).1 fails

@[simp] theorem bind_eq_ok {step : Except ε α} {b : β} :
    (step >>= next) = .ok b ↔ ∃ a, step = .ok a ∧ next a = .ok b := by
  cases step <;> simp [Bind.bind, Except.bind]

@[simp] theorem pure_eq_ok : (pure a : Except ε α) = .ok b ↔ a = b := by
  simp [pure, Except.pure]

theorem return_eq_ok : (pure a : Except ε α) = .ok b ↔ b = a :=
  pure_eq_ok.trans eq_comm

/-- A check that returns what it was given returns it as it is. -/
theorem check_returns {check : Except ε β}
    (accepted : (check >>= fun _ => pure a) = .ok b) : b = a := by
  obtain ⟨_, _, returned⟩ := bind_eq_ok.mp accepted
  exact return_eq_ok.mp returned

@[simp] theorem throw_eq_ok :
    (throw error : Except ε α) = .ok a ↔ False := by
  simp [throw, throwThe, MonadExceptOf.throw]

theorem ok_bind :
    ((.ok a : Except ε α) >>= next) = next a := rfl

theorem error_bind :
    ((.error error : Except ε α) >>= next) = .error error := rfl

theorem pure_ok : (pure a : Except ε α) = .ok a := rfl

theorem ite_eq_ok [Decidable condition] {yes no : Except ε α} :
    (if condition then yes else no) = .ok a ↔
      (condition ∧ yes = .ok a) ∨ (¬condition ∧ no = .ok a) := by
  by_cases h : condition <;> simp [h]

/-! ## Which errors -/

/-- Every error of the computation has the property. -/
def ErrorsIn (P : ε → Prop) (result : Except ε α) : Prop :=
  ∀ error, result = .error error → P error

section Errors

variable {P : ε → Prop} {error : ε}

theorem errorsIn_ok {a : α} : ErrorsIn P (.ok a : Except ε α) :=
  fun _ rejected => by cases rejected

theorem errorsIn_error : ErrorsIn P (.error error : Except ε α) ↔ P error :=
  ⟨fun errors => errors error rfl, fun holds _ rejected => Except.error.inj rejected ▸ holds⟩

theorem errorsIn_ensure {check : Bool} (holds : P error) :
    ErrorsIn P (ensure check error) := by
  cases check
  · exact errorsIn_error.mpr holds
  · exact errorsIn_ok

theorem errorsIn_orError {value : Option α} (holds : P error) :
    ErrorsIn P (orError error value) := by
  cases value
  · exact errorsIn_error.mpr holds
  · exact errorsIn_ok

theorem ErrorsIn.bind {step : Except ε α} {next : α → Except ε β} (first : ErrorsIn P step)
    (others : ∀ a, ErrorsIn P (next a)) : ErrorsIn P (step >>= next) := by
  cases step with
  | error error => exact errorsIn_error.mpr (errorsIn_error.mp first)
  | ok a => exact others a

theorem ErrorsIn.mapM {check : α → Except ε β} (each : ∀ item, ErrorsIn P (check item))
    (items : List α) : ErrorsIn P (items.mapM check) := by
  induction items with
  | nil => exact errorsIn_ok
  | cons item rest ih =>
    rw [List.mapM_cons]
    exact (each item).bind fun _ => ih.bind fun _ => errorsIn_ok

theorem ErrorsIn.foldlM {step : σ → β → Except ε σ} (each : ∀ s b, ErrorsIn P (step s b))
    (items : List β) (s : σ) : ErrorsIn P (items.foldlM step s) := by
  induction items generalizing s with
  | nil => exact errorsIn_ok
  | cons item rest ih =>
    rw [List.foldlM_cons]
    exact (each s item).bind fun next => ih next

end Errors

/-! ## Checking every item -/

section Items

variable {check : α → Except ε β} {items : List α} {results : List β}

theorem mapM_eq_ok :
    items.mapM check = .ok results ↔
      List.Forall₂ (fun item result => check item = .ok result) items results := by
  induction items generalizing results with
  | nil => rw [List.mapM_nil, pure_eq_ok, List.forall₂_nil_left_iff, eq_comm]
  | cons item rest ih =>
    simp only [List.mapM_cons, bind_eq_ok, pure_eq_ok, List.forall₂_cons_left_iff]
    constructor
    · rintro ⟨result, first, results, others, rfl⟩
      exact ⟨result, results, first, ih.mp others, rfl⟩
    · rintro ⟨result, results, first, others, rfl⟩
      exact ⟨result, first, results, ih.mpr others, rfl⟩

theorem mapM_accepts (accepted : items.mapM check = .ok results)
    {item : α} (member : item ∈ items) : ∃ result ∈ results, check item = .ok result := by
  have each := mapM_eq_ok.mp accepted
  clear accepted
  induction each with
  | nil => cases member
  | cons first _ ih =>
    rcases List.mem_cons.mp member with rfl | later
    · exact ⟨_, List.mem_cons_self, first⟩
    · obtain ⟨result, listed, checked⟩ := ih later
      exact ⟨result, List.mem_cons_of_mem _ listed, checked⟩

theorem exists_mapM : (∃ results, items.mapM check = .ok results) ↔
    ∀ item ∈ items, ∃ result, check item = .ok result := by
  induction items with
  | nil => simp
  | cons item rest ih =>
    rw [List.forall_mem_cons, ← ih]
    simp only [List.mapM_cons, bind_eq_ok, pure_eq_ok]
    constructor
    · rintro ⟨_, result, first, results, others, rfl⟩
      exact ⟨⟨result, first⟩, results, others⟩
    · rintro ⟨⟨result, first⟩, results, others⟩
      exact ⟨_, result, first, results, others, rfl⟩

theorem option_mapM_eq_ok {value : Option α} {result : Option β} :
    value.mapM check = .ok result ↔
      (value = none ∧ result = none) ∨
        ∃ item accepted, value = some item ∧ result = some accepted ∧
          check item = .ok accepted := by
  cases value with
  | none =>
    simp only [Option.mapM, pure_eq_ok]
    simp [eq_comm]
  | some item =>
    simp only [Option.mapM, reduceCtorEq, false_and, Option.some.injEq, false_or]
    cases accepted : check item with
    | error => simp [accepted]
    | ok value =>
      simp only [exists_and_left, exists_eq_left', accepted, Except.ok.injEq]
      constructor
      · intro done
        exact ⟨value, by simpa [Functor.map, Except.map, eq_comm] using done, rfl⟩
      · rintro ⟨_, rfl, rfl⟩
        rfl

variable {accepts : α → Except ε α} (returns : ∀ {a b}, accepts a = .ok b → b = a)

include returns

theorem mapM_returns {results : List α} (accepted : items.mapM accepts = .ok results) :
    results = items ∧ ∀ item ∈ items, accepts item = .ok item := by
  have each := mapM_eq_ok.mp accepted
  clear accepted
  induction each with
  | nil => simp
  | cons first _ ih =>
    obtain rfl := returns first
    obtain ⟨rfl, others⟩ := ih
    exact ⟨rfl, List.forall_mem_cons.mpr ⟨first, others⟩⟩

theorem option_mapM_returns {value result : Option α} (accepted : value.mapM accepts = .ok result) :
    result = value ∧ ∀ item ∈ value, accepts item = .ok item := by
  rcases option_mapM_eq_ok.mp accepted with ⟨rfl, rfl⟩ | ⟨item, _, rfl, rfl, checked⟩
  · simp
  · obtain rfl := returns checked
    exact ⟨rfl, by simpa using checked⟩

end Items

theorem forM_eq_ok {α : Type v} {check : α → Except ε Unit} {items : List α} :
    items.forM check = .ok done ↔ ∀ item ∈ items, check item = .ok () := by
  induction items with
  | nil => exact ⟨fun _ _ member => absurd member List.not_mem_nil, fun _ => rfl⟩
  | cons item rest ih =>
    rw [List.forM_eq_forM] at ih
    rw [List.forM_eq_forM, List.forM_cons, List.forall_mem_cons, ← ih, bind_eq_ok]
    exact ⟨fun ⟨_, first, others⟩ => ⟨first, others⟩, fun ⟨first, others⟩ => ⟨(), first, others⟩⟩

/-! ## Folds of fallible steps -/

section Folds

variable {step : σ → β → Except ε σ} {s s' : σ}

theorem foldlM_nil_eq_ok : List.foldlM step s [] = .ok s' ↔ s = s' := by
  simp [List.foldlM]

theorem foldlM_cons_eq_ok {b : β} {rest : List β} :
    List.foldlM step s (b :: rest) = .ok s' ↔
      ∃ middle, step s b = .ok middle ∧ List.foldlM step middle rest = .ok s' := by
  simp [List.foldlM_cons]

theorem foldlM_append_eq_ok {first second : List β} :
    List.foldlM step s (first ++ second) = .ok s' ↔
      ∃ middle, List.foldlM step s first = .ok middle ∧
        List.foldlM step middle second = .ok s' := by
  simp [List.foldlM_append]

theorem foldlM_invariant (Inv : σ → Prop) (keeps : ∀ s b s', Inv s → step s b = .ok s' → Inv s') :
    ∀ {items : List β} {s s' : σ}, Inv s → List.foldlM step s items = .ok s' → Inv s'
  | [], _, _, inv, run => by
      rw [foldlM_nil_eq_ok] at run
      exact run ▸ inv
  | _ :: _, _, _, inv, run => by
      obtain ⟨middle, first, rest⟩ := foldlM_cons_eq_ok.mp run
      exact foldlM_invariant Inv keeps (keeps _ _ _ inv first) rest

theorem foldlM_relates (Rel : σ → σ → Prop) (refl : ∀ s, Rel s s)
    (trans : ∀ {a b c}, Rel a b → Rel b c → Rel a c)
    (single : ∀ {s b s'}, step s b = .ok s' → Rel s s') :
    ∀ {items : List β} {s s' : σ}, List.foldlM step s items = .ok s' → Rel s s'
  | [], _, _, run => by
      rw [foldlM_nil_eq_ok] at run
      exact run ▸ refl _
  | _ :: _, _, _, run => by
      obtain ⟨middle, first, rest⟩ := foldlM_cons_eq_ok.mp run
      exact trans (single first) (foldlM_relates Rel refl trans single rest)

end Folds

end Praxis.Foundations
