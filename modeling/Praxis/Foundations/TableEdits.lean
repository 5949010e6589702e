import Praxis.Foundations.Table

/-!
# Editing the values of a table

`editWhere` edits the values under some keys in place. Edits under one key after another add up to
the edit of all of them.
-/

namespace Praxis.Foundations.Table

set_option autoImplicit false

universe u v

variable {κ : Type u} {ν : Type v} [DecidableEq κ]

/-- The values under the keys edited in place. -/
def editWhere (table : Table κ ν) (keys : κ → Bool) (edit : ν → ν) : Table κ ν where
  rows := table.rows.map fun row => if keys row.1 then (row.1, edit row.2) else row
  unique := by
    have same : (table.rows.map fun row => if keys row.1 then (row.1, edit row.2) else row).map
        Prod.fst = table.rows.map Prod.fst := by
      rw [List.map_map]
      refine List.map_congr_left fun row _ => ?_
      by_cases here : keys row.1 = true <;> simp [here]
    exact same ▸ table.unique

variable {table : Table κ ν} {keys : κ → Bool} {edit : ν → ν} {key : κ} {old : ν}

omit [DecidableEq κ] in
theorem eq_of_rows {other : Table κ ν} (rows : table.rows = other.rows) : table = other := by
  cases table
  cases other
  cases rows
  rfl

omit [DecidableEq κ] in
theorem editWhere_none (table : Table κ ν) (edit : ν → ν) :
    table.editWhere (fun _ => false) edit = table :=
  eq_of_rows (List.map_id' table.rows)

theorem get?_editWhere (table : Table κ ν) (keys : κ → Bool) (edit : ν → ν) (key : κ) :
    (table.editWhere keys edit).get? key =
      if keys key then (table.get? key).map edit else table.get? key := by
  have find : ∀ rows : List (κ × ν),
      ((rows.map fun row => if keys row.1 then (row.1, edit row.2) else row).find?
        fun row => row.1 = key).map Prod.snd =
      if keys key then ((rows.find? fun row => row.1 = key).map Prod.snd).map edit
      else (rows.find? fun row => row.1 = key).map Prod.snd := by
    intro rows
    induction rows with
    | nil => simp
    | cons row rest ih =>
      by_cases here : row.1 = key
      · subst here
        by_cases edited : keys row.1 = true <;> simp [edited]
      · by_cases edited : keys row.1 = true
        · simp only [List.map_cons, edited, if_true, List.find?_cons, here, decide_false]
          exact ih
        · simp only [List.map_cons, edited, Bool.false_eq_true, if_false, List.find?_cons, here,
            decide_false]
          exact ih
  exact find table.rows

/-- A value put in its own place. -/
theorem upsert_self {value : ν} (found : table.get? key = some value) :
    table.upsert key value = table := by
  rw [upsert_of_some table value found]
  refine eq_of_rows ((List.map_congr_left fun row member => ?_).trans (List.map_id' table.rows))
  by_cases here : row.1 = key
  · subst here
    have stored := Option.some.inj ((table.mem_rows_iff.mp member).symm.trans found)
    simp [← stored]
  · simp [here]

/-- Of two values put under one key the second one stays. -/
theorem upsert_upsert (found : table.get? key = some old) (first second : ν) :
    (table.upsert key first).upsert key second = table.upsert key second := by
  have found' : (table.upsert key first).get? key = some first := by
    rw [get?_upsert, if_pos rfl]
  rw [upsert_of_some _ second found', upsert_of_some _ first found, upsert_of_some _ second found]
  refine eq_of_rows ?_
  simp only [update, modify, List.map_map]
  refine List.map_congr_left fun row _ => ?_
  by_cases here : row.1 = key <;> simp [here]

theorem rows_update {front back : List (κ × ν)}
    (rows : table.rows = front ++ (key, old) :: back) (value : ν) :
    (table.update key value).rows = front ++ (key, value) :: back := by
  have unique := table.unique
  rw [rows, List.map_append, List.map_cons, List.nodup_middle, List.nodup_cons, List.mem_append,
    not_or] at unique
  have others : ∀ part : List (κ × ν), key ∉ part.map Prod.fst →
      (part.map fun row => if row.1 = key then (row.1, value) else row) = part := by
    intro part absent
    refine (List.map_congr_left fun row member => ?_).trans (List.map_id' part)
    have different : row.1 ≠ key := fun same => absent (List.mem_map.mpr ⟨row, member, same⟩)
    rw [if_neg different]
  change table.rows.map (fun row => if row.1 = key then (row.1, value) else row) = _
  rw [rows, List.map_append, List.map_cons, if_pos rfl, others front unique.1.1,
    others back unique.1.2]

theorem upsert_edited (found : table.get? key = some old) :
    table.upsert key (edit old) = table.editWhere (fun other => decide (other = key)) edit := by
  rw [upsert_of_some table (edit old) found]
  refine eq_of_rows (List.map_congr_left fun row member => ?_)
  by_cases here : row.1 = key
  · subst here
    have stored := Option.some.inj ((table.mem_rows_iff.mp member).symm.trans found)
    simp [stored]
  · simp [here]

theorem editWhere_upsert (found : table.get? key = some old) (unedited : keys key = false) :
    (table.editWhere keys edit).upsert key (edit old) =
      table.editWhere (fun other => keys other || decide (other = key)) edit := by
  have found' : (table.editWhere keys edit).get? key = some old := by
    rw [get?_editWhere, unedited]
    exact found
  rw [upsert_edited found']
  refine eq_of_rows ?_
  simp only [editWhere, List.map_map]
  refine List.map_congr_left fun row _ => ?_
  by_cases here : row.1 = key
  · subst here
    simp [unedited]
  · by_cases edited : keys row.1 = true <;> simp [here, edited]

omit [DecidableEq κ] in
theorem editWhere_congr {others : κ → Bool} (same : ∀ row ∈ table.rows, keys row.1 = others row.1) :
    table.editWhere keys edit = table.editWhere others edit := by
  refine eq_of_rows (List.map_congr_left fun row member => ?_)
  rw [same row member]

omit [DecidableEq κ] in
theorem values_editWhere (covers : ∀ row ∈ table.rows, keys row.1 = true) :
    (table.editWhere keys edit).values = table.values.map edit := by
  simp only [values, editWhere, List.map_map]
  refine List.map_congr_left fun row member => ?_
  simp [covers row member]

end Praxis.Foundations.Table
