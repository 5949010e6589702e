import Praxis.Foundations.SourceText

/-!
# JSON values

JSON values with the fields of an object in their written order, as the JSON text shows
them. Two values are `same text` when they are equal here; `canonical` forgets the order of
object fields. A pointer walks from a value to one of its parts.
-/

namespace Praxis.Foundations

set_option autoImplicit false

/-- A JSON value. Numbers are integers: nothing here depends on a fractional part. -/
inductive Json where
  | null
  | bool (value : Bool)
  | num (value : Int)
  | str (value : String)
  | arr (items : List Json)
  | obj (fields : List (String × Json))

namespace Json

mutual
/-- Equality of values, decided along the structure. -/
def decideEq : (left right : Json) → Decidable (left = right)
  | .null, .null => isTrue rfl
  | .bool a, .bool b => decidable_of_iff (a = b) (by simp)
  | .num a, .num b => decidable_of_iff (a = b) (by simp)
  | .str a, .str b => decidable_of_iff (a = b) (by simp)
  | .arr a, .arr b =>
    match decideItems a b with
    | isTrue same => isTrue (by rw [same])
    | isFalse different => isFalse (by simpa using different)
  | .obj a, .obj b =>
    match decideFields a b with
    | isTrue same => isTrue (by rw [same])
    | isFalse different => isFalse (by simpa using different)
  | .null, .bool _ | .null, .num _ | .null, .str _ | .null, .arr _ | .null, .obj _
  | .bool _, .null | .bool _, .num _ | .bool _, .str _ | .bool _, .arr _ | .bool _, .obj _
  | .num _, .null | .num _, .bool _ | .num _, .str _ | .num _, .arr _ | .num _, .obj _
  | .str _, .null | .str _, .bool _ | .str _, .num _ | .str _, .arr _ | .str _, .obj _
  | .arr _, .null | .arr _, .bool _ | .arr _, .num _ | .arr _, .str _ | .arr _, .obj _
  | .obj _, .null | .obj _, .bool _ | .obj _, .num _ | .obj _, .str _ | .obj _, .arr _ =>
    isFalse (by simp)

def decideItems : (left right : List Json) → Decidable (left = right)
  | [], [] => isTrue rfl
  | a :: as, b :: bs =>
    match decideEq a b, decideItems as bs with
    | isTrue head, isTrue tail => isTrue (by rw [head, tail])
    | isFalse head, _ => isFalse (by simp [head])
    | _, isFalse tail => isFalse (by simp [tail])
  | [], _ :: _ | _ :: _, [] => isFalse (by simp)

def decideFields : (left right : List (String × Json)) → Decidable (left = right)
  | [], [] => isTrue rfl
  | (k, a) :: as, (l, b) :: bs =>
    match decEq k l, decideEq a b, decideFields as bs with
    | isTrue key, isTrue head, isTrue tail => isTrue (by rw [key, head, tail])
    | isFalse key, _, _ => isFalse (by simp [key])
    | _, isFalse head, _ => isFalse (by simp [head])
    | _, _, isFalse tail => isFalse (by simp [tail])
  | [], _ :: _ | _ :: _, [] => isFalse (by simp)
end

instance : DecidableEq Json := decideEq

/-- An object field: written when present, left out when undefined. -/
def field (name : String) (value : Option Json) : List (String × Json) :=
  value.toList.map fun present => (name, present)

/-! ## Text -/

/-- A character of a JSON string, escaped where the text needs it. -/
def escapeChar (c : Char) : String :=
  if c = '"' then "\\\""
  else if c = '\\' then "\\\\"
  else if c.toNat = 8 then "\\b"
  else if c.toNat = 9 then "\\t"
  else if c.toNat = 10 then "\\n"
  else if c.toNat = 12 then "\\f"
  else if c.toNat = 13 then "\\r"
  else if c.toNat < 32 then
    "\\u00" ++ String.ofList [Nat.digitChar (c.toNat / 16), Nat.digitChar (c.toNat % 16)]
  else c.toString

/-- A string as JSON text. -/
def quote (text : String) : String :=
  "\"" ++ String.join ((chars text).map escapeChar) ++ "\""

mutual
/-- The compact JSON text of a value. -/
def stringify : Json → String
  | .null => "null"
  | .bool true => "true"
  | .bool false => "false"
  | .num value => toString value
  | .str value => quote value
  | .arr items => "[" ++ String.intercalate "," (stringifyItems items) ++ "]"
  | .obj fields => "\x7b" ++ String.intercalate "," (stringifyFields fields) ++ "\x7d"

def stringifyItems : List Json → List String
  | [] => []
  | item :: rest => stringify item :: stringifyItems rest

def stringifyFields : List (String × Json) → List String
  | [] => []
  | (name, value) :: rest => (quote name ++ ":" ++ stringify value) :: stringifyFields rest
end

/-! ## Canonical form -/

section Collating

variable [Collation]

/-- A field put before the first field that is not before it: a sort with it is stable. -/
def insertField (entry : String × Json) : List (String × Json) → List (String × Json)
  | [] => [entry]
  | other :: rest =>
    if Collation.after entry.1 other.1 then other :: insertField entry rest
    else entry :: other :: rest

mutual
/-- The value with the fields of every object sorted by name. -/
def canonical : Json → Json
  | .arr items => .arr (canonicalItems items)
  | .obj fields => .obj (canonicalFields fields)
  | value => value

def canonicalItems : List Json → List Json
  | [] => []
  | item :: rest => canonical item :: canonicalItems rest

def canonicalFields : List (String × Json) → List (String × Json)
  | [] => []
  | (name, value) :: rest => insertField (name, canonical value) (canonicalFields rest)
end

end Collating

/-! ## Parts -/

/-- Members every object has through its prototype. -/
def objectMembers : List String :=
  ["constructor", "__defineGetter__", "__defineSetter__", "hasOwnProperty",
    "__lookupGetter__", "__lookupSetter__", "isPrototypeOf", "propertyIsEnumerable",
    "toString", "valueOf", "__proto__", "toLocaleString"]

/-- Members every array has besides its elements, its length and the object members. -/
def arrayMembers : List String :=
  ["at", "concat", "copyWithin", "fill", "find", "findIndex", "findLast", "findLastIndex",
    "lastIndexOf", "pop", "push", "reverse", "shift", "unshift", "slice", "sort", "splice",
    "includes", "indexOf", "join", "keys", "entries", "values", "forEach", "filter", "flat",
    "flatMap", "map", "every", "some", "reduce", "reduceRight", "toReversed", "toSorted",
    "toSpliced", "with"]

/-- What a pointer selects: a JSON value, or a member inherited from a prototype, which has
no JSON text. -/
inductive Selected where
  | value (json : Json)
  | inherited

/-- One pointer token: an own field or element, the length of an array, or an inherited
member. -/
def member? (token : String) : Json → Option Selected
  | .obj fields =>
    match fields.find? fun entry => entry.1 = token with
    | some entry => some (.value entry.2)
    | none => if token ∈ objectMembers then some .inherited else none
  | .arr items =>
    match (List.range items.length).find? fun index => toString index = token with
    | some index => items[index]?.map .value
    | none =>
      if token = "length" then some (.value (.num items.length))
      else if token ∈ objectMembers ∨ token ∈ arrayMembers then some .inherited
      else none
  | _ => none

/-- Walk along pointer tokens. The members of an inherited member are not followed. -/
def walk : List String → Selected → Option Selected
  | [], selected => some selected
  | token :: rest, .value json => (member? token json).bind (walk rest)
  | _ :: _, .inherited => none

end Json

end Praxis.Foundations
