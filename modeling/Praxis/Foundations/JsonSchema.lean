import Mathlib

/-!
# JSON Schema

Values as `JSON.parse` answers them, over any type of numbers, and the part of JSON Schema that
asks for words, texts, lists and closed objects. `accepts` is a check; the `_iff` lemmas say what a
schema of each kind accepts.
-/

namespace Praxis.Foundations

set_option autoImplicit false

variable {Number : Type}

/-- A value without parts. -/
inductive JsonScalar (Number : Type) where
  | null
  | bool (value : Bool)
  | num (value : Number)
  | str (text : String)
deriving DecidableEq

/-- A value. Where a name is repeated, its first field is the one the object has. -/
inductive JsonValue (Number : Type) where
  | scalar (value : JsonScalar Number)
  | arr (items : List (JsonValue Number))
  | obj (fields : List (String × JsonValue Number))

namespace JsonValue

@[match_pattern]
def str (text : String) : JsonValue Number := .scalar (.str text)

def scalar? : JsonValue Number → Option (JsonScalar Number)
  | .scalar value => some value
  | _ => none

def text? : JsonValue Number → Option String
  | .scalar (.str text) => some text
  | _ => none

def items? : JsonValue Number → Option (List (JsonValue Number))
  | .arr items => some items
  | _ => none

def record? : JsonValue Number → Option (List (String × JsonValue Number))
  | .obj fields => some fields
  | _ => none

/-- The texts of a list that holds nothing else. -/
def texts? (value : JsonValue Number) : Option (List String) := (items? value).bind (·.mapM text?)

/-- `Object.keys`. -/
def names (fields : List (String × JsonValue Number)) : List String := (fields.map (·.1)).dedup

def lookup (fields : List (String × JsonValue Number)) (name : String) :
    Option (JsonValue Number) :=
  (fields.find? (·.1 == name)).map (·.2)

/-- The field of an object, `null` where there is none. -/
def field (value : JsonValue Number) (name : String) : JsonValue Number :=
  ((record? value).bind (lookup · name)).getD (.scalar .null)

def has (value : JsonValue Number) (name : String) : Bool :=
  (record? value).any fun fields => (names fields).contains name

/-- The items of a list. -/
def elements (value : JsonValue Number) : List (JsonValue Number) := (items? value).getD []

variable {value : JsonValue Number} {fields : List (String × JsonValue Number)} {name : String}

@[simp] theorem scalar?_eq_some {scalar : JsonScalar Number} :
    scalar? value = some scalar ↔ value = .scalar scalar := by
  cases value <;> simp [scalar?]

@[simp] theorem text?_eq_some {text : String} : text? value = some text ↔ value = .str text := by
  rcases value with (_ | _ | _ | _) | _ | _ <;> simp [text?, str]

@[simp] theorem items?_eq_some {items : List (JsonValue Number)} :
    items? value = some items ↔ value = .arr items := by
  cases value <;> simp [items?]

@[simp] theorem record?_eq_some : record? value = some fields ↔ value = .obj fields := by
  cases value <;> simp [record?]

@[simp] theorem str_inj {text other : String} : (str text : JsonValue Number) = .str other ↔
    text = other := by
  simp [str]

@[simp] theorem texts?_eq_some {texts : List String} :
    texts? value = some texts ↔ value = .arr (texts.map .str) := by
  have each : ∀ (items : List (JsonValue Number)) (texts : List String),
      items.mapM text? = some texts ↔ items = texts.map .str := by
    intro items
    induction items with
    | nil => intro texts; cases texts <;> simp
    | cons item rest ih =>
      intro texts
      cases texts <;> simp [List.mapM_cons, Option.bind_eq_some_iff, ih]
  simp [texts?, Option.bind_eq_some_iff, each]

@[simp] theorem field_obj : field (.obj fields) name = (lookup fields name).getD (.scalar .null) :=
  rfl

@[simp] theorem has_obj : has (.obj fields) name = (names fields).contains name := rfl

@[simp] theorem elements_arr (items : List (JsonValue Number)) : elements (.arr items) = items :=
  rfl

/-- An object has a field under each of its names. -/
theorem mem_names : name ∈ names fields ↔ ∃ value, lookup fields name = some value := by
  simp only [names, lookup, List.mem_dedup, List.mem_map, ← Option.isSome_iff_exists,
    Option.isSome_map, List.find?_isSome, beq_iff_eq]

theorem lookup_eq_field (named : name ∈ names fields) :
    lookup fields name = some (field (.obj fields) name) := by
  obtain ⟨value, found⟩ := mem_names.mp named
  simp [found]

/-- The object has these names and no others. -/
def exact (fields : List (String × JsonValue Number)) (keys : List String) : Bool :=
  (names fields).length == keys.length && (names fields).all keys.contains

theorem exact_iff {keys : List String} (distinct : keys.Nodup) :
    exact fields keys = true ↔ ∀ name, name ∈ names fields ↔ name ∈ keys := by
  have single : (names fields).Nodup := List.nodup_dedup _
  simp only [exact, Bool.and_eq_true, beq_iff_eq, List.all_eq_true, List.contains_iff_mem]
  constructor
  · rintro ⟨length, inside⟩ name
    exact ((List.subperm_of_subset single inside).perm_of_length_le length.ge).mem_iff
  · intro same
    exact ⟨((List.perm_ext_iff_of_nodup single distinct).mpr same).length_eq,
      fun name => (same name).mp⟩

theorem has_of_exact {keys : List String} (distinct : keys.Nodup)
    (names : exact fields keys = true) : has (.obj fields) name = true ↔ name ∈ keys := by
  rw [has_obj, List.contains_iff_mem, (exact_iff distinct).mp names]

theorem field_of_not_has (absent : has value name = false) :
    field value name = .scalar .null := by
  rcases value with _ | _ | fields
  · rfl
  · rfl
  · rw [has_obj, List.contains_eq_mem, decide_eq_false_iff_not, mem_names] at absent
    cases found : lookup fields name with
    | none => simp [found]
    | some value => exact absurd ⟨value, found⟩ absent

end JsonValue

/-! ## Schemas -/

/-- A schema. An object has no properties beside those that are listed. -/
inductive JsonSchema where
  | words (options : List String)
  | text (minLength : Nat) (maxLength : Option Nat)
  | list (items : JsonSchema) (maxItems : Option Nat)
  | object (required : List String) (properties : List (String × JsonSchema))

namespace JsonSchema

open JsonValue

mutual

/-- The value is an instance of the schema. Texts are measured in characters. -/
def accepts : JsonSchema → JsonValue Number → Bool
  | .words options, value => (text? value).any options.contains
  | .text minLength maxLength, value => (text? value).any fun text =>
    decide (minLength ≤ text.length) && maxLength.all (text.length ≤ ·)
  | .list items maxItems, value => (items? value).any fun elements =>
    elements.all (fun element => items.accepts element) && maxItems.all (elements.length ≤ ·)
  | .object required properties, value => (record? value).any fun fields =>
    required.all (names fields).contains && ((names fields).all (properties.map (·.1)).contains &&
      acceptsFields properties fields)

def acceptsFields : List (String × JsonSchema) → List (String × JsonValue Number) → Bool
  | [], _ => true
  | (name, schema) :: rest, fields =>
    (lookup fields name).all (fun value => schema.accepts value) && acceptsFields rest fields

end

variable {value : JsonValue Number} {fields : List (String × JsonValue Number)}
  {properties : List (String × JsonSchema)}

@[simp] theorem accepts_words {options : List String} :
    (words options).accepts value = true ↔ ∃ word ∈ options, value = .str word := by
  simp [accepts, Option.any_eq_true, and_comm]

@[simp] theorem accepts_text {minLength : Nat} {maxLength : Option Nat} :
    (text minLength maxLength).accepts value = true ↔ ∃ text, value = .str text ∧
      minLength ≤ text.length ∧ ∀ most ∈ maxLength, text.length ≤ most := by
  simp [accepts, Option.any_eq_true, Option.all_eq_true]

@[simp] theorem accepts_list {items : JsonSchema} {maxItems : Option Nat} :
    (list items maxItems).accepts value = true ↔ ∃ elements, value = .arr elements ∧
      (∀ element ∈ elements, items.accepts element = true) ∧
        ∀ most ∈ maxItems, elements.length ≤ most := by
  simp [accepts, Option.any_eq_true, Option.all_eq_true]

theorem acceptsFields_iff : acceptsFields properties fields = true ↔
    ∀ property ∈ properties, ∀ value, lookup fields property.1 = some value →
      property.2.accepts value = true := by
  induction properties with
  | nil => simp [acceptsFields]
  | cons property rest ih =>
    rw [acceptsFields, Bool.and_eq_true, ih, List.forall_mem_cons, Option.all_eq_true]

theorem accepts_object {required : List String} :
    (object required properties).accepts value = true ↔ ∃ fields, value = .obj fields ∧
      required ⊆ names fields ∧ names fields ⊆ properties.map (·.1) ∧
        ∀ property ∈ properties, ∀ part, lookup fields property.1 = some part →
          property.2.accepts part = true := by
  simp only [accepts, Option.any_eq_true, record?_eq_some, Bool.and_eq_true, List.all_eq_true,
    List.contains_iff_mem, acceptsFields_iff]
  rfl

/-- Where all properties are required, an object has exactly these. -/
theorem accepts_closed (distinct : (properties.map (·.1)).Nodup) :
    (object (properties.map (·.1)) properties).accepts value = true ↔ ∃ fields, value = .obj fields ∧
      exact fields (properties.map (·.1)) = true ∧
        ∀ property ∈ properties, property.2.accepts (value.field property.1) = true := by
  rw [accepts_object]
  refine exists_congr fun fields => and_congr_right ?_
  rintro rfl
  rw [exact_iff distinct, ← and_assoc]
  have same : properties.map (·.1) ⊆ names fields ∧ names fields ⊆ properties.map (·.1) ↔
      ∀ name, name ∈ names fields ↔ name ∈ properties.map (·.1) :=
    ⟨fun both name => ⟨fun named => both.2 named, fun named => both.1 named⟩,
      fun both => ⟨fun name => (both name).mpr, fun name => (both name).mp⟩⟩
  rw [same]
  refine and_congr_right fun names => forall₂_congr fun property member => ?_
  have named := (names property.1).mpr (List.mem_map_of_mem member)
  rw [lookup_eq_field named]
  simp

end JsonSchema

end Praxis.Foundations
