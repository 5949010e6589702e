import Praxis.Foundations.SourceText

/-!
# Plan paths

The paths that a plan may name: relative, with `/` between their names, and with names that every
platform takes. A grant reaches the path that it names and what lies below it.
-/

namespace Praxis.Planner

set_option autoImplicit false

open Praxis.Foundations

def invalidWin32Characters : List Char := ['<', '>', ':', '"', '|', '?', '*']

/-- `RESERVED_WIN32_BASENAME`, in upper or lower case. -/
def reservedWin32Basename (name : List Char) : Bool :=
  let lower := name.map Char.toLower
  ["con", "prn", "aux", "nul", "clock$", "conin$", "conout$"].any (·.toList == lower) ||
    ["com", "lpt"].any fun port => (lower.take 3 == port.toList) &&
      match lower.drop 3 with
      | [digit] => '1' ≤ digit && digit ≤ '9'
      | _ => false

/-- A name between two separators that every platform takes. -/
def portableComponent (component : List Char) : Bool :=
  !component.isEmpty && component != ['.'] && component != ['.', '.'] &&
    component.getLast? != some '.' && component.getLast? != some ' ' &&
    (component.all fun character =>
      decide (31 < character.toNat) && !invalidWin32Characters.contains character) &&
    !reservedWin32Basename (component.takeWhile (· != '.'))

def isPortablePlanPathV1 (path : String) : Bool :=
  path == "." ||
    (!path.isEmpty && !startsWith path "/" && !path.toList.contains '\\' &&
      (path.toList.splitOn '/').all portableComponent)

def isPlanPathWithinGrantV1 (path grant : String) : Bool :=
  grant == "." || path == grant || startsWith path (grant ++ "/")

/-! ## Characters of a portable path -/

theorem mem_splitOn {separator : Char} {chars : List Char} {c : Char} (member : c ∈ chars) :
    c = separator ∨ ∃ part ∈ chars.splitOn separator, c ∈ part := by
  have joined : [separator].intercalate (chars.splitOn separator) = chars :=
    List.intercalate_splitOn separator
  rw [← joined] at member
  generalize chars.splitOn separator = parts at member ⊢
  induction parts with
  | nil => simp at member
  | cons part rest ih =>
    cases rest with
    | nil =>
      rw [List.intercalate_singleton] at member
      exact .inr ⟨part, List.mem_cons_self, member⟩
    | cons next others =>
      rw [List.intercalate_cons_cons, List.mem_append, List.mem_append,
        List.mem_singleton] at member
      rcases member with (here | same) | later
      · exact .inr ⟨part, List.mem_cons_self, here⟩
      · exact .inl same
      · rcases ih later with same | ⟨other, among, inside⟩
        · exact .inl same
        · exact .inr ⟨other, List.mem_cons_of_mem _ among, inside⟩

theorem plain_of_portable {path : String} (portable : isPortablePlanPathV1 path = true) {c : Char}
    (member : c ∈ path.toList) : 31 < c.toNat := by
  simp only [isPortablePlanPathV1, Bool.or_eq_true, beq_iff_eq, Bool.and_eq_true,
    List.all_eq_true] at portable
  rcases portable with rfl | ⟨_, parts⟩
  · rw [show c = '.' by simpa using member]
    decide
  · rcases @mem_splitOn '/' _ _ member with rfl | ⟨part, among, inside⟩
    · decide
    · have each := parts part among
      simp only [portableComponent, Bool.and_eq_true, List.all_eq_true, decide_eq_true_eq] at each
      exact (each.1.2 c inside).1

end Praxis.Planner
