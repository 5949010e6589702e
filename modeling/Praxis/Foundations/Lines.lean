import Mathlib

/-!
# Lines of a stream

A stream of symbols is cut into lines by a separator. What is behind the last separator is no line
yet. As the stream grows, the lines that are complete stay as they are, and the open rest is where the
next lines begin.
-/

namespace Praxis.Foundations

set_option autoImplicit false

variable {α : Type} [DecidableEq α] (sep : α)

/-- The lines that a separator has ended. -/
def completeLines (stream : List α) : List (List α) := (stream.splitOn sep).dropLast

/-- What is behind the last separator. -/
def openLine (stream : List α) : List α := (stream.splitOn sep).getLast (List.splitOn_ne_nil _ _)

theorem completeLines_append_openLine (stream : List α) :
    completeLines sep stream ++ [openLine sep stream] = stream.splitOn sep :=
  List.dropLast_append_getLast _

variable {sep}

theorem splitOn_line {line : List α} (single : sep ∉ line) (rest : List α) :
    (line ++ sep :: rest).splitOn sep = line :: rest.splitOn sep :=
  List.splitOn_append_cons_self_of_not_mem single rest

theorem splitOn_open {line : List α} (single : sep ∉ line) : line.splitOn sep = [line] :=
  List.splitOn_eq_singleton single

theorem line_or_open (sep : α) (stream : List α) :
    sep ∉ stream ∨ ∃ line rest, sep ∉ line ∧ stream = line ++ sep :: rest := by
  induction stream with
  | nil => exact .inl List.not_mem_nil
  | cons symbol others ih =>
    by_cases ends : symbol = sep
    · exact .inr ⟨[], others, List.not_mem_nil, by rw [ends]; rfl⟩
    · rcases ih with single | ⟨line, rest, single, rfl⟩
      · refine .inl fun member => ?_
        rcases List.mem_cons.mp member with same | later
        · exact ends same.symm
        · exact single later
      · refine .inr ⟨symbol :: line, rest, fun member => ?_, rfl⟩
        rcases List.mem_cons.mp member with same | later
        · exact ends same.symm
        · exact single later

theorem splitOn_append (stream more : List α) :
    (stream ++ more).splitOn sep =
      completeLines sep stream ++ (openLine sep stream ++ more).splitOn sep := by
  induction length : stream.length using Nat.strong_induction_on generalizing stream with
  | _ _ ih =>
    rcases line_or_open sep stream with single | ⟨line, rest, single, rfl⟩
    · have complete : completeLines sep stream = [] := by rw [completeLines, splitOn_open single]; rfl
      have opened : openLine sep stream = stream := by simp only [openLine, splitOn_open single]; rfl
      rw [complete, opened, List.nil_append]
    · have shorter : rest.length < (line ++ sep :: rest).length := by
        rw [List.length_append, List.length_cons]
        omega
      have complete : completeLines sep (line ++ sep :: rest) = line :: completeLines sep rest := by
        rw [completeLines, splitOn_line single, List.dropLast_cons_of_ne_nil (List.splitOn_ne_nil _ _)]
        rfl
      have opened : openLine sep (line ++ sep :: rest) = openLine sep rest := by
        simp only [openLine, splitOn_line single]
        exact List.getLast_cons _
      rw [complete, opened, List.append_assoc, List.cons_append, splitOn_line single,
        ih rest.length (length ▸ shorter) rest rfl, List.cons_append]

/-- Lines that have been taken off the front stay off as the stream grows. -/
theorem splitOn_append_of_split {stream rest : List α} {lines : List (List α)}
    (split : stream.splitOn sep = lines ++ rest.splitOn sep) (more : List α) :
    (stream ++ more).splitOn sep = lines ++ (rest ++ more).splitOn sep := by
  have joined : completeLines sep stream ++ [openLine sep stream] =
      (lines ++ completeLines sep rest) ++ [openLine sep rest] := by
    rw [completeLines_append_openLine, List.append_assoc, completeLines_append_openLine, split]
  obtain ⟨complete, opened⟩ := List.append_inj' joined rfl
  rw [splitOn_append, splitOn_append rest, complete, List.singleton_inj.mp opened, List.append_assoc]

theorem completeLines_stay (stream more : List α) :
    completeLines sep stream <+: completeLines sep (stream ++ more) := by
  refine ⟨completeLines sep (openLine sep stream ++ more), ?_⟩
  rw [completeLines, completeLines, completeLines, splitOn_append stream more,
    List.dropLast_append_of_ne_nil (List.splitOn_ne_nil _ _)]
  rfl

end Praxis.Foundations
