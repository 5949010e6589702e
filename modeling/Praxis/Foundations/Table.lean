import Mathlib

/-!
# Tables with a primary key

A table is a list of rows in insertion order in which no key occurs twice; the proof is a
field, so a table with two rows under one key cannot be built. `insert` rejects a key that
is present, as an `INSERT` under a primary key does, and `update` replaces the value of the
row with a given key, as an `UPDATE … WHERE key = …` does.

Reading after writing is described by `get?_of_insert` and `get?_modify`; `mem_rows_iff` ties
the rows a scan visits to what `get?` answers.
-/

namespace Praxis.Foundations

set_option autoImplicit false

universe u v

/-- Rows in insertion order, no key twice. -/
structure Table (κ : Type u) (ν : Type v) where
  rows : List (κ × ν)
  unique : (rows.map Prod.fst).Nodup

namespace Table

variable {κ : Type u} {ν : Type v}

/-- The table without rows. -/
def empty : Table κ ν where
  rows := []
  unique := List.nodup_nil

/-- The stored values, in insertion order. -/
def values (table : Table κ ν) : List ν := table.rows.map Prod.snd

variable [DecidableEq κ]

/-- The value stored under a key. -/
def get? (table : Table κ ν) (key : κ) : Option ν :=
  (table.rows.find? fun row => row.1 = key).map Prod.snd

/-- Whether a key is present. -/
def contains (table : Table κ ν) (key : κ) : Bool := (table.get? key).isSome

/-- A new row at the end; `none` when the key is present. -/
def insert (table : Table κ ν) (key : κ) (value : ν) : Option (Table κ ν) :=
  if present : key ∈ table.rows.map Prod.fst then none
  else some
    { rows := table.rows ++ [(key, value)]
      unique := by
        rw [List.map_append]
        exact List.Nodup.append table.unique (List.nodup_singleton key)
          (List.disjoint_singleton.mpr present) }

/-- The value under a key edited in place; unchanged when there is none. -/
def modify (table : Table κ ν) (key : κ) (edit : ν → ν) : Table κ ν where
  rows := table.rows.map fun row => if row.1 = key then (row.1, edit row.2) else row
  unique := by
    have keys : (table.rows.map fun row => if row.1 = key then (row.1, edit row.2) else row).map
        Prod.fst = table.rows.map Prod.fst := by
      rw [List.map_map]
      refine List.map_congr_left fun row _ => ?_
      by_cases here : row.1 = key <;> simp [here]
    exact keys ▸ table.unique

/-- The value under a key replaced; unchanged when there is none. -/
def update (table : Table κ ν) (key : κ) (value : ν) : Table κ ν :=
  table.modify key fun _ => value

/-- Insert a row, or update the row already stored under the key. -/
def upsert (table : Table κ ν) (key : κ) (value : ν) : Table κ ν :=
  match table.insert key value with
  | some inserted => inserted
  | none => table.update key value

/-- The rows that pass a test, as a `DELETE … WHERE` leaves them. -/
def filter (table : Table κ ν) (keep : κ → ν → Bool) : Table κ ν where
  rows := table.rows.filter fun row => keep row.1 row.2
  unique := table.unique.sublist (List.filter_sublist.map Prod.fst)

/-! ## Reading -/

@[simp] theorem get?_empty (key : κ) : (empty : Table κ ν).get? key = none := rfl

variable (table : Table κ ν) {key : κ} {value old : ν} {result : Table κ ν}

omit [DecidableEq κ] in
theorem value_unique {first second : ν} (here : (key, first) ∈ table.rows)
    (there : (key, second) ∈ table.rows) : first = second := by
  have inj := List.inj_on_of_nodup_map table.unique here there rfl
  exact (Prod.mk.inj inj).2

/-- A scan visits a row exactly when `get?` answers it. -/
theorem mem_rows_iff :
    (key, value) ∈ table.rows ↔ table.get? key = some value := by
  constructor
  · intro member
    cases found : table.rows.find? fun row => row.1 = key with
    | none =>
      have absent := List.find?_eq_none.mp found (key, value) member
      simp at absent
    | some row =>
      have same : row.1 = key := by simpa using List.find?_some found
      have stored := List.mem_of_find?_eq_some found
      have equal : row.2 = value := table.value_unique (same ▸ stored) member
      simp [get?, found, equal]
  · intro found
    obtain ⟨row, first, second⟩ := Option.map_eq_some_iff.mp found
    have same : row.1 = key := by simpa using List.find?_some first
    have stored := List.mem_of_find?_eq_some first
    rw [← same, ← second]
    exact stored

theorem mem_values_iff : value ∈ table.values ↔ ∃ key, table.get? key = some value := by
  constructor
  · intro member
    obtain ⟨row, stored, rfl⟩ := List.mem_map.mp member
    exact ⟨row.1, table.mem_rows_iff.mp stored⟩
  · rintro ⟨key, found⟩
    exact List.mem_map.mpr ⟨(key, value), table.mem_rows_iff.mpr found, rfl⟩

theorem mem_values_of_get? (found : table.get? key = some value) :
    value ∈ table.values :=
  table.mem_values_iff.mpr ⟨key, found⟩

theorem contains_iff : table.contains key = true ↔ ∃ value, table.get? key = some value :=
  Option.isSome_iff_exists

theorem get?_eq_none_iff : table.get? key = none ↔ key ∉ table.rows.map Prod.fst := by
  constructor
  · intro absent member
    obtain ⟨row, stored, rfl⟩ := List.mem_map.mp member
    rw [table.mem_rows_iff.mp stored] at absent
    cases absent
  · intro absent
    cases found : table.get? key with
    | none => rfl
    | some value =>
      exact (absent (List.mem_map.mpr ⟨_, table.mem_rows_iff.mpr found, rfl⟩)).elim

/-! ## Writing -/

/-- An accepted insert adds its row at the end. -/
theorem insert_eq_some_iff :
    table.insert key value = some result ↔
      table.get? key = none ∧ result.rows = table.rows ++ [(key, value)] := by
  rw [get?_eq_none_iff]
  unfold insert
  split
  · simp_all
  · rename_i absent
    simp only [Option.some.injEq, absent, not_false_eq_true, true_and]
    constructor
    · rintro rfl
      rfl
    · intro rows
      cases result
      cases rows
      rfl

theorem exists_insert {table : Table κ ν} (absent : table.get? key = none) (value : ν) :
    ∃ result, table.insert key value = some result := by
  have missing := table.get?_eq_none_iff.mp absent
  exact ⟨_, by rw [insert, dif_neg missing]⟩

theorem contains_of_insert_eq_none {table : Table κ ν}
    (refused : table.insert key value = none) : table.contains key = true := by
  cases found : table.get? key with
  | some _ => rw [contains, found, Option.isSome_some]
  | none =>
    obtain absent := table.get?_eq_none_iff.mp found
    rw [insert, dif_neg absent] at refused
    cases refused

theorem get?_of_insert {table : Table κ ν}
    (inserted : table.insert key value = some result) (other : κ) :
    result.get? other = if other = key then some value else table.get? other := by
  obtain ⟨absent, rows⟩ := table.insert_eq_some_iff.mp inserted
  by_cases same : other = key
  · subst same
    rw [if_pos rfl, ← mem_rows_iff, rows]
    simp
  · rw [if_neg same]
    have different : ¬ key = other := fun equal => same equal.symm
    simp [get?, rows, List.find?_append, different]

theorem values_of_insert {table : Table κ ν} (inserted : table.insert key value = some result) :
    result.values = table.values ++ [value] := by
  obtain ⟨_, rows⟩ := table.insert_eq_some_iff.mp inserted
  simp [values, rows]

theorem get?_modify (key : κ) (edit : ν → ν) (other : κ) : (table.modify key edit).get? other =
      if other = key then (table.get? key).map edit else table.get? other := by
  have find : ∀ rows : List (κ × ν),
      ((rows.map fun row => if row.1 = key then (row.1, edit row.2) else row).find?
        fun row => row.1 = other).map Prod.snd =
      if other = key then ((rows.find? fun row => row.1 = key).map Prod.snd).map edit
      else (rows.find? fun row => row.1 = other).map Prod.snd := by
    intro rows
    induction rows with
    | nil => simp
    | cons row rest ih =>
      by_cases here : row.1 = key
      · by_cases same : other = key
        · subst same
          simp [here]
        · have different : ¬ key = other := fun equal => same equal.symm
          simp only [List.map_cons, here, if_true, List.find?_cons, different, decide_false,
            if_neg same]
          simpa [same] using ih
      · by_cases there : row.1 = other
        · subst there
          simp [here]
        · simp only [List.map_cons, here, if_false, List.find?_cons, there, decide_false]
          exact ih
  exact find table.rows

theorem get?_update (key : κ) (value : ν) (other : κ) : (table.update key value).get? other =
      if other = key then (table.get? key).map fun _ => value else table.get? other :=
  get?_modify table key _ other

theorem contains_modify (key : κ) (edit : ν → ν) (other : κ) :
    (table.modify key edit).contains other = table.contains other := by
  rw [contains, contains, get?_modify]
  by_cases same : other = key <;> simp [same]

@[simp] theorem get?_update_self (value : ν)
    (present : table.get? key = some old) : (table.update key value).get? key = some value := by
  simp [get?_update, present]

theorem get?_update_ne {other : κ} (value : ν) (different : other ≠ key) :
    (table.update key value).get? other = table.get? other := by
  simp [get?_update, different]

theorem map_values_update {β : Type*} (view : ν → β)
    (found : table.get? key = some old) (same : view value = view old) :
    (table.update key value).values.map view = table.values.map view := by
  simp only [values, update, modify, List.map_map]
  refine List.map_congr_left fun row member => ?_
  by_cases here : row.1 = key
  · subst here
    have stored := Option.some.inj ((table.mem_rows_iff.mp member).symm.trans found)
    simp [stored, same]
  · simp [here]

theorem upsert_of_none (value : ν) (absent : table.get? key = none) :
    (table.upsert key value).rows = table.rows ++ [(key, value)] := by
  cases inserted : table.insert key value with
  | some result =>
    rw [upsert, inserted]
    exact (table.insert_eq_some_iff.mp inserted).2
  | none =>
    have present := contains_of_insert_eq_none inserted
    rw [contains, absent] at present
    cases present

theorem upsert_of_some (value : ν) (present : table.get? key = some old) :
    table.upsert key value = table.update key value := by
  cases inserted : table.insert key value with
  | some result =>
    rw [(table.insert_eq_some_iff.mp inserted).1] at present
    cases present
  | none => rw [upsert, inserted]

theorem get?_upsert (key : κ) (value : ν) (other : κ) : (table.upsert key value).get? other =
      if other = key then some value else table.get? other := by
  unfold upsert
  cases inserted : table.insert key value with
  | some result => exact get?_of_insert inserted other
  | none =>
    have present : ¬ table.get? key = none := by
      intro absent
      have missing := table.get?_eq_none_iff.mp absent
      simp [insert, missing] at inserted
    obtain ⟨old, found⟩ := Option.ne_none_iff_exists'.mp present
    simp [get?_update, found]

/-- A row is read after a deletion exactly if it was there and is kept. -/
theorem get?_filter (keep : κ → ν → Bool) :
    (table.filter keep).get? key = some value ↔
      table.get? key = some value ∧ keep key value = true := by
  rw [← mem_rows_iff, ← mem_rows_iff]
  exact List.mem_filter

end Table

end Praxis.Foundations
