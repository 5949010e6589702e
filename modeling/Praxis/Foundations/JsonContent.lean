import Praxis.Foundations.Json

/-!
# The content and the size of JSON values

Two values have the same content when they differ only in the order of the fields of their
objects (`Same`). They have one canonical form exactly if they differ only in the order of fields
whose names the collation tells apart (`Reordered`, `canonical_eq_iff`): fields with names that it
does not tell apart stay in their written order.

`size` computes the bytes of the JSON text of a value from its parts.
-/

namespace Praxis.Foundations

set_option autoImplicit false

namespace Json

/-! ## Content -/

/-- The values differ only in the order of the fields of their objects. -/
inductive Same : Json → Json → Prop
  | refl (value : Json) : Same value value
  | symm {left right : Json} (same : Same left right) : Same right left
  | trans {left middle right : Json} (first : Same left middle) (second : Same middle right) :
      Same left right
  | order {fields other : List (String × Json)} (order : fields.Perm other) :
      Same (.obj fields) (.obj other)
  | field {name : String} {left right : Json} {front back : List (String × Json)}
      (same : Same left right) :
      Same (.obj (front ++ (name, left) :: back)) (.obj (front ++ (name, right) :: back))
  | item {left right : Json} {front back : List Json} (same : Same left right) :
      Same (.arr (front ++ left :: back)) (.arr (front ++ right :: back))

section Collating

variable [Collation]

/-- The collation puts one of the names after the other. -/
def ToldApart (left right : String) : Prop :=
  Collation.after left right = true ∨ Collation.after right left = true

theorem ToldApart.symm {left right : String} (apart : ToldApart left right) :
    ToldApart right left :=
  Or.symm apart

/-- The values differ only in the order of fields whose names the collation tells apart. -/
inductive Reordered : Json → Json → Prop
  | refl (value : Json) : Reordered value value
  | symm {left right : Json} (same : Reordered left right) : Reordered right left
  | trans {left middle right : Json} (first : Reordered left middle)
      (second : Reordered middle right) : Reordered left right
  | swap {first second : String × Json} {front back : List (String × Json)}
      (apart : ToldApart first.1 second.1) :
      Reordered (.obj (front ++ first :: second :: back)) (.obj (front ++ second :: first :: back))
  | field {name : String} {left right : Json} {front back : List (String × Json)}
      (same : Reordered left right) :
      Reordered (.obj (front ++ (name, left) :: back)) (.obj (front ++ (name, right) :: back))
  | item {left right : Json} {front back : List Json} (same : Reordered left right) :
      Reordered (.arr (front ++ left :: back)) (.arr (front ++ right :: back))

theorem Reordered.same {left right : Json} (reordered : Reordered left right) :
    Same left right := by
  induction reordered with
  | refl value => exact .refl value
  | symm _ ih => exact ih.symm
  | trans _ _ first second => exact first.trans second
  | swap apart => exact .order ((List.Perm.swap _ _ _).append_left _)
  | field _ ih => exact .field ih
  | item _ ih => exact .item ih

/-! ### A value and its canonical form -/

theorem insertField_perm (entry : String × Json) (fields : List (String × Json)) :
    (insertField entry fields).Perm (entry :: fields) := by
  induction fields with
  | nil => exact .refl _
  | cons other rest ih =>
    rw [insertField]
    split
    · exact (ih.cons other).trans (.swap entry other rest)
    · exact .refl _

theorem canonicalFields_perm (fields : List (String × Json)) :
    (canonicalFields fields).Perm (fields.map fun entry => (entry.1, entry.2.canonical)) := by
  induction fields with
  | nil => exact .refl _
  | cons entry rest ih => exact (insertField_perm _ _).trans (ih.cons _)

theorem insertField_reordered (entry : String × Json) (front fields : List (String × Json)) :
    Reordered (.obj (front ++ entry :: fields)) (.obj (front ++ insertField entry fields)) := by
  induction fields generalizing front with
  | nil => exact .refl _
  | cons other rest ih =>
    rw [insertField]
    split
    case isTrue later =>
      have passed := ih (front ++ [other])
      rw [List.append_assoc, List.append_assoc] at passed
      exact (Reordered.swap (.inl later)).trans passed
    case isFalse => exact .refl _

mutual

theorem reordered_canonical : (value : Json) → Reordered value value.canonical
  | .arr items => by
      rw [canonical]
      exact reordered_canonicalItems [] items
  | .obj fields => by
      rw [canonical]
      exact reordered_canonicalFields [] fields
  | .null | .bool _ | .num _ | .str _ => .refl _

theorem reordered_canonicalItems (front : List Json) : (items : List Json) →
    Reordered (.arr (front ++ items)) (.arr (front ++ canonicalItems items))
  | [] => .refl _
  | item :: rest => by
      have first : Reordered (.arr (front ++ item :: rest))
          (.arr (front ++ item.canonical :: rest)) := .item (reordered_canonical item)
      have others := reordered_canonicalItems (front ++ [item.canonical]) rest
      rw [List.append_assoc, List.append_assoc] at others
      exact first.trans others

theorem reordered_canonicalFields (front : List (String × Json)) :
    (fields : List (String × Json)) →
      Reordered (.obj (front ++ fields)) (.obj (front ++ canonicalFields fields))
  | [] => .refl _
  | (name, value) :: rest => by
      have first : Reordered (.obj (front ++ (name, value) :: rest))
          (.obj (front ++ (name, value.canonical) :: rest)) := .field (reordered_canonical value)
      have others := reordered_canonicalFields (front ++ [(name, value.canonical)]) rest
      rw [List.append_assoc, List.append_assoc] at others
      exact (first.trans others).trans (insertField_reordered _ _ _)

end

/-! ### Values with one canonical form -/

/-- Fields with names that are told apart may be inserted in either order. -/
theorem insertField_comm (first second : String × Json) (apart : ToldApart first.1 second.1)
    (fields : List (String × Json)) : insertField first (insertField second fields) =
      insertField second (insertField first fields) := by
  wlog later : Collation.after first.1 second.1 = true generalizing first second
  · exact (this second first apart.symm (apart.resolve_left later)).symm
  have earlier := Collation.asymm later
  induction fields with
  | nil => simp [insertField, later, earlier]
  | cons other rest ih =>
    have through := Collation.split later other.1
    cases firstPasses : Collation.after first.1 other.1
    case false =>
      -- `second` stops before `other` or `first`, and `first` is after `second`.
      rcases through with passes | before
      · rw [firstPasses] at passes
        cases passes
      · simp [insertField, firstPasses, Collation.asymm before, later, earlier]
    case true =>
      cases secondPasses : Collation.after second.1 other.1 <;>
        simp [insertField, firstPasses, secondPasses, later, ih]

theorem canonicalFields_swap {first second : String × Json} (apart : ToldApart first.1 second.1)
    (rest : List (String × Json)) :
    canonicalFields (first :: second :: rest) = canonicalFields (second :: first :: rest) := by
  obtain ⟨firstName, firstValue⟩ := first
  obtain ⟨secondName, secondValue⟩ := second
  simp only [canonicalFields]
  exact insertField_comm (firstName, firstValue.canonical) (secondName, secondValue.canonical)
    apart _

theorem canonicalFields_congr {fields other : List (String × Json)}
    (same : canonicalFields fields = canonicalFields other) (front : List (String × Json)) :
    canonicalFields (front ++ fields) = canonicalFields (front ++ other) := by
  induction front with
  | nil => exact same
  | cons entry rest ih => simp only [List.cons_append, canonicalFields, ih]

theorem canonicalItems_congr {items other : List Json}
    (same : canonicalItems items = canonicalItems other) (front : List Json) :
    canonicalItems (front ++ items) = canonicalItems (front ++ other) := by
  induction front with
  | nil => exact same
  | cons item rest ih => simp only [List.cons_append, canonicalItems, ih]

theorem canonicalFields_of_perm {fields other : List (String × Json)} (order : fields.Perm other)
    (apart : fields.Pairwise fun first second => ToldApart first.1 second.1) :
    canonicalFields fields = canonicalFields other := by
  induction order with
  | nil => rfl
  | cons entry _ ih => simp only [canonicalFields, ih (List.pairwise_cons.mp apart).2]
  | swap second first rest =>
    have here := (List.pairwise_cons.mp apart).1 second (List.mem_cons_self ..)
    exact canonicalFields_swap here rest
  | trans order _ firstHalf secondHalf =>
    exact (firstHalf apart).trans (secondHalf (order.pairwise apart ToldApart.symm))

/-- **Values have one canonical form exactly if they differ in the order of fields that are told
apart.** -/
theorem canonical_eq_iff {left right : Json} :
    left.canonical = right.canonical ↔ Reordered left right := by
  constructor
  · intro same
    exact (same ▸ reordered_canonical left).trans (reordered_canonical right).symm
  · intro reordered
    induction reordered with
    | refl value => rfl
    | symm _ ih => exact ih.symm
    | trans _ _ first second => exact first.trans second
    | swap apart =>
      simp only [canonical, obj.injEq]
      exact canonicalFields_congr (canonicalFields_swap apart _) _
    | field _ ih =>
      simp only [canonical, obj.injEq]
      exact canonicalFields_congr (by simp only [canonicalFields, ih]) _
    | item _ ih =>
      simp only [canonical, arr.injEq]
      exact canonicalItems_congr (by simp only [canonicalItems, ih]) _

/-! ### Values whose names are told apart -/

mutual

/-- The names of every object in the value are told apart. -/
def Collated : Json → Prop
  | .arr items => CollatedItems items
  | .obj fields =>
    fields.Pairwise (fun first second => ToldApart first.1 second.1) ∧ CollatedFields fields
  | _ => True

def CollatedItems : List Json → Prop
  | [] => True
  | item :: rest => Collated item ∧ CollatedItems rest

def CollatedFields : List (String × Json) → Prop
  | [] => True
  | (_, value) :: rest => Collated value ∧ CollatedFields rest

end

theorem collatedItems_iff (items : List Json) :
    CollatedItems items ↔ ∀ item ∈ items, Collated item := by
  induction items with
  | nil => simp [CollatedItems]
  | cons item rest ih => simp [CollatedItems, ih]

theorem collatedFields_iff (fields : List (String × Json)) :
    CollatedFields fields ↔ ∀ entry ∈ fields, Collated entry.2 := by
  induction fields with
  | nil => simp [CollatedFields]
  | cons entry rest ih => simp [CollatedFields, ih]

theorem Same.collated_iff {left right : Json} (same : Same left right) :
    Collated left ↔ Collated right := by
  induction same with
  | refl value => exact .rfl
  | symm _ ih => exact ih.symm
  | trans _ _ first second => exact first.trans second
  | order order =>
    simp only [Collated, collatedFields_iff, order.mem_iff, order.pairwise_iff ToldApart.symm]
  | field _ ih =>
    simp only [Collated, collatedFields_iff, List.pairwise_append, List.pairwise_cons,
      List.forall_mem_append, List.forall_mem_cons, ih]
  | item _ ih =>
    simp only [Collated, collatedItems_iff, List.forall_mem_append, List.forall_mem_cons, ih]

/-- **Values of the same content whose names are told apart have one canonical form.** -/
theorem Same.reordered {left right : Json} (same : Same left right) (apart : Collated left) :
    Reordered left right := by
  induction same with
  | refl value => exact .refl value
  | symm same ih => exact (ih (same.collated_iff.mpr apart)).symm
  | trans first _ firstHalf secondHalf =>
    exact (firstHalf apart).trans (secondHalf (first.collated_iff.mp apart))
  | order order =>
    refine canonical_eq_iff.mp ?_
    simp only [canonical, canonicalFields_of_perm order apart.1]
  | field _ ih =>
    exact .field (ih ((collatedFields_iff _).mp apart.2 _ (List.mem_append_right _ (.head _))))
  | item _ ih =>
    exact .item (ih ((collatedItems_iff _).mp apart _ (List.mem_append_right _ (.head _))))

end Collating

/-! ## Size -/

mutual

/-- The bytes of the JSON text of a value. -/
def size : Json → Nat
  | .str text => quotedSize text
  | .arr items => 2 + (sizeItems items + (items.length - 1))
  | .obj fields => 2 + (sizeFields fields + (fields.length - 1))
  | value => value.stringify.utf8ByteSize

def sizeItems : List Json → Nat
  | [] => 0
  | item :: rest => item.size + sizeItems rest

def sizeFields : List (String × Json) → Nat
  | [] => 0
  | (name, value) :: rest => (quote name).utf8ByteSize + 1 + value.size + sizeFields rest

/-- The bytes of a text in quotation marks. -/
def quotedSize (text : String) : Nat :=
  2 + ((chars text).map fun c => (escapeChar c).utf8ByteSize).sum

end

theorem sizeFields_append (front back : List (String × Json)) :
    sizeFields (front ++ back) = sizeFields front + sizeFields back := by
  induction front with
  | nil => simp [sizeFields]
  | cons field rest ih =>
    simp only [List.cons_append, sizeFields, ih]
    omega

theorem utf8ByteSize_join (texts : List String) :
    (String.join texts).utf8ByteSize = (texts.map (·.utf8ByteSize)).sum := by
  induction texts with
  | nil => rfl
  | cons text rest ih => rw [String.join_cons, String.utf8ByteSize_append, ih]; simp

theorem utf8ByteSize_intercalate (texts : List String) :
    (String.intercalate "," texts).utf8ByteSize =
      (texts.map (·.utf8ByteSize)).sum + (texts.length - 1) := by
  induction texts with
  | nil => rfl
  | cons text rest ih =>
    cases rest with
    | nil => simp
    | cons next others =>
      rw [String.intercalate_cons_cons, String.utf8ByteSize_append, String.utf8ByteSize_append, ih]
      have comma : ",".utf8ByteSize = 1 := rfl
      simp only [comma, List.map_cons, List.sum_cons, List.length_cons]
      omega

theorem utf8ByteSize_quote (text : String) : (quote text).utf8ByteSize = quotedSize text := by
  have mark : "\"".utf8ByteSize = 1 := rfl
  rw [quote, String.utf8ByteSize_append, String.utf8ByteSize_append, utf8ByteSize_join,
    List.map_map, mark, quotedSize]
  simp only [Function.comp_def]
  omega

theorem length_stringifyItems (items : List Json) :
    (stringifyItems items).length = items.length := by
  induction items with
  | nil => rfl
  | cons item rest ih => simp [stringifyItems, ih]

theorem length_stringifyFields (fields : List (String × Json)) :
    (stringifyFields fields).length = fields.length := by
  induction fields with
  | nil => rfl
  | cons field rest ih => simp [stringifyFields, ih]

mutual

/-- **The bytes of the JSON text of a value are the sum over its parts.** -/
theorem utf8ByteSize_stringify : (value : Json) → value.stringify.utf8ByteSize = value.size
  | .null | .bool _ | .num _ => by simp only [size]
  | .str text => by rw [stringify, size, utf8ByteSize_quote]
  | .arr items => by
      have bracket : "[".utf8ByteSize = 1 ∧ "]".utf8ByteSize = 1 := ⟨rfl, rfl⟩
      rw [stringify, size, String.utf8ByteSize_append, String.utf8ByteSize_append,
        utf8ByteSize_intercalate, sum_stringifyItems items, length_stringifyItems, bracket.1,
        bracket.2]
      omega
  | .obj fields => by
      have brace : "\x7b".utf8ByteSize = 1 ∧ "\x7d".utf8ByteSize = 1 := ⟨rfl, rfl⟩
      rw [stringify, size, String.utf8ByteSize_append, String.utf8ByteSize_append,
        utf8ByteSize_intercalate, sum_stringifyFields fields, length_stringifyFields, brace.1,
        brace.2]
      omega

theorem sum_stringifyItems :
    (items : List Json) → ((stringifyItems items).map (·.utf8ByteSize)).sum = sizeItems items
  | [] => rfl
  | item :: rest => by
      simp only [stringifyItems, List.map_cons, List.sum_cons, utf8ByteSize_stringify item,
        sum_stringifyItems rest, sizeItems]

theorem sum_stringifyFields : (fields : List (String × Json)) →
    ((stringifyFields fields).map (·.utf8ByteSize)).sum = sizeFields fields
  | [] => rfl
  | (name, value) :: rest => by
      have colon : ":".utf8ByteSize = 1 := rfl
      simp only [stringifyFields, List.map_cons, List.sum_cons, String.utf8ByteSize_append, colon,
        utf8ByteSize_stringify value, sum_stringifyFields rest, sizeFields]

end

end Json

end Praxis.Foundations
