import Mathlib

/-!
# Texts of the source

Operations on strings as ECMAScript defines them.
-/

namespace Praxis.Foundations

set_option autoImplicit false

/-! ## Characters -/

/-- The six bits that a byte after the first one of a character carries. -/
def sixBits (byte : UInt8) : Nat := byte.toNat % 0x40

/-- The characters that the bytes of a text encode. -/
def decodeUtf8 : List UInt8 → List Char
  | [] => []
  | a :: rest =>
    if a.toNat < 0x80 then Char.ofNat a.toNat :: decodeUtf8 rest
    else match rest with
      | [] => []
      | b :: rest =>
        if a.toNat < 0xE0 then Char.ofNat (a.toNat % 0x20 * 0x40 + sixBits b) :: decodeUtf8 rest
        else match rest with
          | [] => []
          | c :: rest =>
            if a.toNat < 0xF0 then
              Char.ofNat ((a.toNat % 0x10 * 0x40 + sixBits b) * 0x40 + sixBits c) ::
                decodeUtf8 rest
            else match rest with
              | [] => []
              | d :: rest =>
                Char.ofNat (((a.toNat % 8 * 0x40 + sixBits b) * 0x40 + sixBits c) * 0x40 +
                  sixBits d) :: decodeUtf8 rest

/-- The characters of a text. They are those of `String.toList`, which recurses on a measure and is
slow to evaluate in a proof; this recursion is structural. -/
@[irreducible]
def chars (text : String) : List Char := decodeUtf8 text.toByteArray.data.toList

theorem decodeUtf8_encode (c : Char) (rest : List UInt8) :
    decodeUtf8 (String.utf8EncodeChar c ++ rest) = c :: decodeUtf8 rest := by
  have whole := Char.ofNat_toNat c
  have small : c.val.toNat < 0x110000 := by
    have := c.valid
    simp only [UInt32.isValidChar, Nat.isValidChar] at this
    omega
  rw [Char.toNat] at whole
  -- one case for each length of the encoding
  simp only [String.utf8EncodeChar]
  generalize c.val.toNat = n at *
  split
  · rw [List.singleton_append, decodeUtf8.eq_def]
    simp only [UInt8.toNat_ofNat']
    rw [if_pos (by omega), Nat.mod_eq_of_lt (by omega), whole]
  rw [← whole]
  split
  · simp only [List.cons_append, List.nil_append]
    rw [decodeUtf8.eq_def]
    simp only [sixBits, UInt8.toNat_ofNat']
    rw [if_neg (by omega), if_pos (by omega)]
    congr 2
    omega
  split
  · simp only [List.cons_append, List.nil_append]
    rw [decodeUtf8.eq_def]
    simp only [sixBits, UInt8.toNat_ofNat']
    rw [if_neg (by omega), if_neg (by omega), if_pos (by omega)]
    congr 2
    omega
  · simp only [List.cons_append, List.nil_append]
    rw [decodeUtf8.eq_def]
    simp only [sixBits, UInt8.toNat_ofNat']
    rw [if_neg (by omega), if_neg (by omega), if_neg (by omega)]
    congr 2
    omega

theorem decodeUtf8_flatMap (list : List Char) :
    decodeUtf8 (list.flatMap String.utf8EncodeChar) = list := by
  induction list with
  | nil => rfl
  | cons c rest ih => rw [List.flatMap_cons, decodeUtf8_encode, ih]

@[simp] theorem chars_eq (text : String) : chars text = text.toList := by
  conv_lhs => rw [chars, ← String.ofList_toList (s := text), String.toByteArray_ofList, List.utf8Encode,
    List.toList_data_toByteArray, decodeUtf8_flatMap]

/-! ## Operations -/

/-- White space and line terminators. -/
def isWhiteSpace (c : Char) : Bool :=
  let code := c.toNat
  (9 ≤ code && code ≤ 13) || code == 0x20 || code == 0xA0 || code == 0x1680 ||
    (0x2000 ≤ code && code ≤ 0x200A) || code == 0x2028 || code == 0x2029 || code == 0x202F ||
    code == 0x205F || code == 0x3000 || code == 0xFEFF

/-- `value.trim()`, on characters. -/
def trimChars (value : List Char) : List Char :=
  ((value.dropWhile isWhiteSpace).reverse.dropWhile isWhiteSpace).reverse

/-- `value.trim()`. -/
def trim (value : String) : String := String.ofList (trimChars (chars value))

/-- `value.startsWith(search)`. -/
def startsWith (value search : String) : Bool := (chars search).isPrefixOf (chars value)

/-- A letter or a digit of ASCII. -/
def isAsciiAlphanumeric (c : Char) : Bool :=
  ('a' ≤ c && c ≤ 'z') || ('A' ≤ c && c ≤ 'Z') || ('0' ≤ c && c ≤ '9')

/-- `value.toLowerCase()` of a character: the letters of ASCII, and the two characters beyond it
whose lower case has one. -/
def lowerChar (c : Char) : List Char :=
  if 'A' ≤ c ∧ c ≤ 'Z' then [Char.ofNat (c.toNat + 32)]
  else if c.toNat = 0x212A then ['k']
  else if c.toNat = 0x130 then ['i', Char.ofNat 0x307]
  else [c]

/-- `value.toLowerCase()`, as far as the result is of ASCII: other characters stay as they are. -/
def toLowerCase (value : String) : String := String.ofList ((chars value).flatMap lowerChar)

/-- A character of the first kind, and at most `limit` of the second. -/
def matchesName (first rest : Char → Bool) (limit : Nat) : List Char → Bool
  | [] => false
  | c :: others => first c && decide (others.length ≤ limit) && others.all rest

def isLower (c : Char) : Bool := 'a' ≤ c && c ≤ 'z'

/-- Different numbers have different texts. -/
theorem toString_injective : Function.Injective fun n : Nat => toString n := by
  intro m n same
  have digits := congrArg String.toList same
  simp only [Nat.toString_eq_repr, Nat.toList_repr] at digits
  have read : ∀ number, Nat.ofDigitChars 10 (Nat.toDigits 10 number) 0 = number := fun number =>
    Nat.ofDigitChars_toDigits (by decide) (by decide)
  rw [← read m, ← read n, digits]

/-! ## Code units -/

/-- The UTF-16 code units of a character. -/
def charUnits (c : Char) : List Nat :=
  if c.toNat < 0x10000 then [c.toNat]
  else [0xD800 + (c.toNat - 0x10000) / 0x400, 0xDC00 + (c.toNat - 0x10000) % 0x400]

/-- The UTF-16 code units of a text. -/
def codeUnits (value : String) : List Nat := (chars value).flatMap charUnits

/-- `value.length`. -/
def unitLength (value : String) : Nat := (codeUnits value).length

/-- The order of lists of code units. -/
def unitListLe : List Nat → List Nat → Bool
  | [], _ => true
  | _ :: _, [] => false
  | a :: as, b :: bs => decide (a < b) || (a == b && unitListLe as bs)

/-- The order of `sort()`, by code units. -/
def unitsLe (left right : String) : Bool := unitListLe (codeUnits left) (codeUnits right)

/-- `values.sort()`. -/
def sortTexts (values : List String) : List String := values.mergeSort unitsLe

variable (values : List String)

theorem sortTexts_perm : (sortTexts values).Perm values :=
  List.mergeSort_perm values unitsLe

theorem unitListLe_trans (a b c : List Nat) (first : unitListLe a b = true)
    (second : unitListLe b c = true) : unitListLe a c = true := by
  induction a generalizing b c with
  | nil => rfl
  | cons x xs ih =>
    cases b with
    | nil => cases first
    | cons y ys =>
      cases c with
      | nil => cases second
      | cons z zs =>
        simp only [unitListLe, Bool.or_eq_true, decide_eq_true_eq, Bool.and_eq_true,
          beq_iff_eq] at first second ⊢
        rcases first with less | ⟨rfl, rest⟩
        · rcases second with less' | ⟨rfl, _⟩
          · exact .inl (Nat.lt_trans less less')
          · exact .inl less
        · rcases second with less' | ⟨rfl, rest'⟩
          · exact .inl less'
          · exact .inr ⟨rfl, ih ys zs rest rest'⟩

theorem unitListLe_total (a b : List Nat) : (unitListLe a b || unitListLe b a) = true := by
  induction a generalizing b with
  | nil => rfl
  | cons x xs ih =>
    cases b with
    | nil => rfl
    | cons y ys =>
      have rest := ih ys
      simp only [unitListLe, Bool.or_eq_true, decide_eq_true_eq, Bool.and_eq_true,
        beq_iff_eq] at rest ⊢
      rcases Nat.lt_trichotomy x y with less | same | greater
      · exact .inl (.inl less)
      · rcases rest with front | back
        · exact .inl (.inr ⟨same, front⟩)
        · exact .inr (.inr ⟨same.symm, back⟩)
      · exact .inr (.inl greater)

theorem unitsLe_trans (a b c : String) :
    unitsLe a b = true → unitsLe b c = true → unitsLe a c = true :=
  unitListLe_trans (codeUnits a) (codeUnits b) (codeUnits c)

theorem unitsLe_total (a b : String) : (unitsLe a b || unitsLe b a) = true :=
  unitListLe_total (codeUnits a) (codeUnits b)

theorem unitListLe_antisymm {a b : List Nat} (first : unitListLe a b = true)
    (second : unitListLe b a = true) : a = b := by
  induction a generalizing b with
  | nil =>
    cases b with
    | nil => rfl
    | cons y ys => cases second
  | cons x xs ih =>
    cases b with
    | nil => cases first
    | cons y ys =>
      simp only [unitListLe, Bool.or_eq_true, decide_eq_true_eq, Bool.and_eq_true,
        beq_iff_eq] at first second
      rcases first with less | ⟨rfl, rest⟩
      · rcases second with greater | ⟨rfl, _⟩ <;> omega
      · rcases second with greater | ⟨_, rest'⟩
        · omega
        · rw [ih rest rest']

theorem charUnits_append_inj {c d : Char} {front back : List Nat}
    (same : charUnits c ++ front = charUnits d ++ back) : c = d ∧ front = back := by
  have valid : ∀ c : Char, c.toNat < 0xd800 ∨ (0xdfff < c.toNat ∧ c.toNat < 0x110000) :=
    fun c => c.valid
  have left := valid c
  have right := valid d
  simp only [charUnits] at same
  -- a unit that stands alone is no surrogate
  split at same <;> split at same <;>
    simp only [List.cons_append, List.nil_append, List.cons.injEq] at same
  · exact ⟨Char.toNat_inj.mp same.1, same.2⟩
  · omega
  · omega
  · refine ⟨Char.toNat_inj.mp ?_, same.2.2⟩
    omega

theorem codeUnits_injective : Function.Injective codeUnits := by
  have lists : ∀ chars others : List Char,
      chars.flatMap charUnits = others.flatMap charUnits → chars = others := by
    have filled : ∀ c : Char, charUnits c ≠ [] := by
      intro c
      unfold charUnits
      split <;> exact List.cons_ne_nil _ _
    intro chars
    induction chars with
    | nil =>
      intro others same
      cases others with
      | nil => rfl
      | cons d rest => exact absurd (List.append_eq_nil_iff.mp same.symm).1 (filled d)
    | cons c rest ih =>
      intro others same
      cases others with
      | nil => exact absurd (List.append_eq_nil_iff.mp same).1 (filled c)
      | cons d later =>
        rw [List.flatMap_cons, List.flatMap_cons] at same
        obtain ⟨rfl, others⟩ := charUnits_append_inj same
        rw [ih later others]
  intro left right same
  rw [codeUnits, codeUnits, chars_eq, chars_eq] at same
  exact String.toList_inj.mp (lists _ _ same)

theorem unitsLe_antisymm {a b : String} (first : unitsLe a b = true) (second : unitsLe b a = true) :
    a = b :=
  codeUnits_injective (unitListLe_antisymm first second)

theorem eq_of_unitsLe {texts others : List String} (perm : texts.Perm others)
    (ordered : texts.Pairwise fun left right => unitsLe left right = true)
    (ordered' : others.Pairwise fun left right => unitsLe left right = true) : texts = others :=
  perm.eq_of_pairwise (fun _ _ _ _ first second => unitsLe_antisymm first second) ordered ordered'

/-- The sorted texts are found by looking. -/
theorem sortTexts_eq {values sorted : List String} (perm : values.Perm sorted)
    (ordered : sorted.Pairwise fun left right => unitsLe left right = true) :
    sortTexts values = sorted :=
  eq_of_unitsLe ((sortTexts_perm values).trans perm)
    (List.pairwise_mergeSort unitsLe_trans unitsLe_total values) ordered

/-- Sorted texts stay as they are. -/
@[simp] theorem sortTexts_sortTexts : sortTexts (sortTexts values) = sortTexts values :=
  List.mergeSort_of_pairwise (List.pairwise_mergeSort unitsLe_trans unitsLe_total values)

@[simp] theorem mem_sortTexts {values : List String} {value : String} :
    value ∈ sortTexts values ↔ value ∈ values :=
  (sortTexts_perm values).mem_iff

@[simp] theorem length_sortTexts : (sortTexts values).length = values.length :=
  (sortTexts_perm values).length_eq

@[simp] theorem all_sortTexts (check : String → Bool) :
    (sortTexts values).all check = values.all check :=
  (sortTexts_perm values).all_eq

@[simp] theorem nodup_sortTexts {values : List String} :
    (sortTexts values).Nodup ↔ values.Nodup :=
  (sortTexts_perm values).nodup_iff

@[simp] theorem contains_sortTexts (value : String) :
    (sortTexts values).contains value = values.contains value := by
  rw [Bool.eq_iff_iff, List.contains_iff_mem, List.contains_iff_mem, mem_sortTexts]

/-! ## Collation -/

/-- The order of texts under `localeCompare`: `after left right` where
`left.localeCompare(right) > 0`. Texts of which neither is after the other are not told apart; two
different texts may be so. -/
class Collation where
  after : String → String → Bool
  asymm {left right : String} (first : after left right = true) : after right left = false
  split {left right : String} (first : after left right = true) (middle : String) :
    after left middle = true ∨ after middle right = true

/-- The order of the code units. It stands in where no result depends on the collation. -/
instance : Collation where
  after left right := decide (right < left)
  asymm first := decide_eq_false (lt_asymm (of_decide_eq_true first))
  split first middle := by
    simpa using (lt_or_ge middle _).imp_right (of_decide_eq_true first).trans_le

end Praxis.Foundations
