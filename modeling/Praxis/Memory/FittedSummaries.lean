import Praxis.Agent.ContextWindow
import Praxis.Foundations.SourceText
import Praxis.Session.Compaction

/-!
# Summaries within their budget

`fitSummaryToTokens` shrinks a summary until its text costs at most the limit. Every round takes
the oldest item of a list or shortens the objective (`SummaryStep`), so the summary gets smaller,
and no round is left only when the summary is empty: the loop ends, for every tokenizer and limit
(`fitSummaryToTokens_fits`).
-/

namespace Praxis.Memory

set_option autoImplicit false

open Praxis.Agent (TokenizerAdapter)
open Praxis.Foundations
open Praxis.Session (CompactionSummary)

/-! ## The loop of the source -/

inductive SummaryField where
  | decisions
  | constraints
  | readFiles
  | modifiedFiles
  | unresolved
  | activePlan

variable (summary : CompactionSummary)

def fieldOf : SummaryField → List String
  | .decisions => summary.decisions
  | .constraints => summary.constraints
  | .readFiles => summary.readFiles
  | .modifiedFiles => summary.modifiedFiles
  | .unresolved => summary.unresolved
  | .activePlan => summary.activePlan

/-- `summary[field].shift()`. -/
def shiftField : SummaryField → CompactionSummary
  | .decisions => { summary with decisions := summary.decisions.tail }
  | .constraints => { summary with constraints := summary.constraints.tail }
  | .readFiles => { summary with readFiles := summary.readFiles.tail }
  | .modifiedFiles => { summary with modifiedFiles := summary.modifiedFiles.tail }
  | .unresolved => { summary with unresolved := summary.unresolved.tail }
  | .activePlan => { summary with activePlan := summary.activePlan.tail }

structure CompactionError where
  code : String
  message : String

def invalidSummary : CompactionError where
  code := "COMPACTION_SUMMARY_INVALID"
  message := "Compaction summary output did not match the bounded structured contract."

def summarySection (title : String) (values : List String) : String :=
  if values = [] then ""
  else title ++ ":\n" ++ "\n".intercalate (values.map ("- " ++ ·))

def renderSummary : String :=
  "\n".intercalate <| List.filter (· ≠ "") <|
    "# Session summary" ::
      ((summary.objective.filter (· ≠ "")).map ("Objective: " ++ ·)).toList ++
      [summarySection "Relevant references" (summary.relevantRefs.getD []),
        summarySection "Decisions" summary.decisions,
        summarySection "Constraints" summary.constraints,
        summarySection "Read files" summary.readFiles,
        summarySection "Modified files" summary.modifiedFiles,
        summarySection "Unresolved verification" summary.unresolved,
        summarySection "Active plan" summary.activePlan]

def taskObjectiveTruncationMarker : String := "\n…[task contract truncated]…\n"

def boundedObjective (value : String) (maximum : Nat) : String :=
  let points := trimChars value.toList
  let marker := taskObjectiveTruncationMarker.toList
  if points.length ≤ maximum then String.ofList points
  else if maximum ≤ marker.length + 2 then String.ofList (points.take maximum)
  else
    let available := maximum - marker.length
    -- `Math.ceil(available * 0.6)`
    let head := (available * 3 + 4) / 5
    let tail := available - head
    String.ofList (points.take head ++ marker ++ points.drop (points.length - tail))

def largestPopulatedField (fields : List SummaryField)
    (minimumLength : Nat) : Option SummaryField :=
  fields.foldl (fun largest candidate =>
    if (fieldOf summary candidate).length < minimumLength then largest
    else
      match largest with
      | none => some candidate
      | some largest =>
        if (fieldOf summary largest).length < (fieldOf summary candidate).length then some candidate
        else some largest) none

/-- The summary after a call that returned true. -/
def shrinkSummaryObjective (floor : Nat) :
    Option CompactionSummary :=
  match summary.objective with
  | none => none
  | some objective =>
    let points := objective.toList
    if points.length ≤ floor then
      if 0 < floor then none else some { summary with objective := none }
    else
      some { summary with
        objective := some (boundedObjective objective (max floor (points.length * 3 / 4))) }

def disposableFields : List SummaryField := [.readFiles, .decisions]

def frontierFields : List SummaryField := [.constraints, .modifiedFiles, .unresolved, .activePlan]

/-- One round of the loop; with nothing left to take, the source throws. -/
def shrinkSummary : Option CompactionSummary :=
  ((largestPopulatedField summary disposableFields 1).map (shiftField summary)).or <|
  (match summary.relevantRefs with
    | some (_ :: refs) => some { summary with relevantRefs := some refs }
    | _ => none).or <|
  (shrinkSummaryObjective summary 512).or <|
  ((largestPopulatedField summary frontierFields 2).map (shiftField summary)).or <|
  (shrinkSummaryObjective summary 128).or <|
  ((largestPopulatedField summary frontierFields 1).map (shiftField summary)).or <|
  shrinkSummaryObjective summary 0

/-! ## What a round does -/

/-- A shorter text that begins as the trimmed one does, and may end as it does. -/
structure ShorterText (text shorter : String) : Prop where
  length : shorter.toList.length < text.toList.length
  parts : ∃ front middle back, trimChars text.toList = front ++ middle ++ back ∧
    (shorter.toList = front ∨
      shorter.toList = front ++ taskObjectiveTruncationMarker.toList ++ back)

inductive SummaryStep (summary : CompactionSummary) : CompactionSummary → Prop
  | shift (field : SummaryField) (populated : fieldOf summary field ≠ []) :
      SummaryStep summary (shiftField summary field)
  | refs {ref : String} {refs : List String} (there : summary.relevantRefs = some (ref :: refs)) :
      SummaryStep summary { summary with relevantRefs := some refs }
  | shorten {objective shorter : String} (there : summary.objective = some objective)
      (shortened : ShorterText objective shorter) :
      SummaryStep summary { summary with objective := some shorter }
  | drop {objective : String} (there : summary.objective = some objective) :
      SummaryStep summary { summary with objective := none }

/-- Nothing is left to take. -/
structure Emptied (summary : CompactionSummary) : Prop where
  fields : ∀ field, fieldOf summary field = []
  refs : summary.relevantRefs.getD [] = []
  objective : summary.objective = none

def summarySize : Nat :=
  (summary.objective.elim 0 (·.toList.length + 1)) + (summary.relevantRefs.getD []).length +
    summary.decisions.length + summary.constraints.length + summary.readFiles.length +
    summary.modifiedFiles.length + summary.unresolved.length + summary.activePlan.length

variable {summary smaller : CompactionSummary}

theorem fieldOf_shiftField (field other : SummaryField) :
    fieldOf (shiftField summary field) other <:+ fieldOf summary other := by
  cases field <;> cases other <;> first | exact List.suffix_rfl | exact List.tail_suffix _

theorem boundedObjective_shorter {objective : String} {maximum : Nat}
    (bound : maximum < objective.toList.length) :
    ShorterText objective (boundedObjective objective maximum) := by
  set points := trimChars objective.toList with trimmed
  unfold boundedObjective
  simp only [← trimmed]
  split
  case isTrue fits =>
    exact ⟨by rw [String.toList_ofList]; exact fits.trans_lt bound, points, [], [], by simp [trimmed],
      by simp⟩
  case isFalse exceeds =>
    split
    case isTrue small =>
      refine ⟨?_, points.take maximum, points.drop maximum, [], by simp [← trimmed], by simp⟩
      rw [String.toList_ofList, List.length_take]
      exact (Nat.min_le_left ..).trans_lt bound
    case isFalse large =>
      -- the front and the back do not meet: the marker takes the place of what lies between
      set available := maximum - taskObjectiveTruncationMarker.toList.length
      set head := (available * 3 + 4) / 5
      have within : head ≤ available := by omega
      refine ⟨?_, points.take head,
        (points.drop head).take (points.length - (available - head) - head),
        points.drop (points.length - (available - head)), ?_, ?_⟩
      · simp only [String.toList_ofList, List.length_append, List.length_take, List.length_drop]
        omega
      · have meets : head + (points.length - (available - head) - head) =
          points.length - (available - head) := by omega
        rw [← trimmed, ← List.take_add, meets, List.take_append_drop]
      · simp

/-- What the search for the longest list found. -/
def Populated (summary : CompactionSummary) (fields : List SummaryField) (minimum : Nat) :
    Option SummaryField → Prop
  | some field => minimum ≤ (fieldOf summary field).length
  | none => ∀ field ∈ fields, (fieldOf summary field).length < minimum

theorem largestPopulatedField_spec (summary : CompactionSummary) (fields : List SummaryField)
    (minimum : Nat) :
    Populated summary fields minimum (largestPopulatedField summary fields minimum) := by
  induction fields using List.reverseRecOn with
  | nil => simp [largestPopulatedField, Populated]
  | append_singleton fields candidate ih =>
    rw [largestPopulatedField, List.foldl_append, ← largestPopulatedField]
    revert ih
    cases largestPopulatedField summary fields minimum with
    | none =>
      intro ih
      simp only [List.foldl_cons, List.foldl_nil]
      split
      case isTrue short =>
        intro field member
        rcases List.mem_append.mp member with old | new
        · exact ih field old
        · rw [List.mem_singleton.mp new]
          exact short
      case isFalse long => exact Nat.not_lt.mp long
    | some largest =>
      intro ih
      simp only [List.foldl_cons, List.foldl_nil]
      split
      case isTrue => exact ih
      case isFalse long =>
        split
        · exact Nat.not_lt.mp long
        · exact ih

theorem shiftField_step {fields : List SummaryField} {minimum : Nat} (positive : 0 < minimum)
    (shifted : (largestPopulatedField summary fields minimum).map (shiftField summary) =
      some smaller) : SummaryStep summary smaller := by
  obtain ⟨field, found, rfl⟩ := Option.map_eq_some_iff.mp shifted
  have long := largestPopulatedField_spec summary fields minimum
  rw [found] at long
  exact .shift field (List.ne_nil_of_length_pos (positive.trans_le long))

theorem shrinkSummaryObjective_step {floor : Nat}
    (shrunk : shrinkSummaryObjective summary floor = some smaller) :
    SummaryStep summary smaller := by
  unfold shrinkSummaryObjective at shrunk
  split at shrunk
  case h_1 => cases shrunk
  case h_2 objective there =>
    simp only at shrunk
    split at shrunk
    case isTrue =>
      split at shrunk
      · cases shrunk
      · cases shrunk
        exact .drop there
    case isFalse long =>
      cases shrunk
      exact .shorten there (boundedObjective_shorter (by omega))

theorem shrinkSummary_step (shrunk : shrinkSummary summary = some smaller) :
    SummaryStep summary smaller := by
  simp only [shrinkSummary, Option.or_eq_some_iff] at shrunk
  rcases shrunk with shifted | ⟨-, refs | ⟨-, shorter | ⟨-, shifted | ⟨-, shorter |
    ⟨-, shifted | ⟨-, shorter⟩⟩⟩⟩⟩⟩
  · exact shiftField_step (by decide) shifted
  · split at refs
    case h_1 there =>
      cases refs
      exact .refs there
    case h_2 => cases refs
  · exact shrinkSummaryObjective_step shorter
  · exact shiftField_step (by decide) shifted
  · exact shrinkSummaryObjective_step shorter
  · exact shiftField_step (by decide) shifted
  · exact shrinkSummaryObjective_step shorter

theorem shrinkSummary_none (stuck : shrinkSummary summary = none) : Emptied summary := by
  simp only [shrinkSummary, Option.or_eq_none_iff, Option.map_eq_none_iff] at stuck
  obtain ⟨disposable, refs, -, -, -, frontier, objective⟩ := stuck
  have short := largestPopulatedField_spec summary
  have first := short disposableFields 1
  have second := short frontierFields 1
  rw [disposable] at first
  rw [frontier] at second
  simp only [Populated, Nat.lt_one_iff, List.length_eq_zero_iff] at first second
  refine ⟨fun field => ?_, ?_, ?_⟩
  · cases field
    case decisions => exact first _ (by simp [disposableFields])
    case readFiles => exact first _ (by simp [disposableFields])
    all_goals exact second _ (by simp [frontierFields])
  · rcases there : summary.relevantRefs with _ | _ | ⟨ref, others⟩
    · rfl
    · rfl
    · simp [there] at refs
  · cases there : summary.objective with
    | none => rfl
    | some text =>
      simp only [shrinkSummaryObjective, there] at objective
      split at objective <;> simp at objective

theorem SummaryStep.size_lt (step : SummaryStep summary smaller) :
    summarySize smaller < summarySize summary := by
  cases step with
  | shift field populated =>
    cases field <;> simp only [fieldOf, ← List.length_pos_iff] at populated <;>
      simp only [summarySize, shiftField, List.length_tail] <;> omega
  | refs there =>
    simp only [summarySize, there, Option.getD_some, List.length_cons]
    omega
  | shorten there shortened =>
    have shorter := shortened.length
    simp only [summarySize, there, Option.elim_some]
    omega
  | drop there =>
    simp only [summarySize, there, Option.elim_some, Option.elim_none]
    omega

/-! ## The result -/

def fitSummaryToTokens (summary : CompactionSummary) (tokenizer : TokenizerAdapter ℚ)
    (maxTokens : ℚ) : Except CompactionError CompactionSummary :=
  if maxTokens < tokenizer.countText (renderSummary summary) then
    match _ : shrinkSummary summary with
    | some smaller => fitSummaryToTokens smaller tokenizer maxTokens
    | none => .error invalidSummary
  else .ok summary
termination_by summarySize summary
decreasing_by exact (shrinkSummary_step ‹_›).size_lt

/-- A summary whose lists are ends of the given ones, and whose objective is a shortening of the
given one or absent. -/
structure ShortenedSummary (summary smaller : CompactionSummary) : Prop where
  fields : ∀ field, fieldOf smaller field <:+ fieldOf summary field
  refs : smaller.relevantRefs.isSome = summary.relevantRefs.isSome ∧
    smaller.relevantRefs.getD [] <:+ summary.relevantRefs.getD []
  objective : ∀ shorter ∈ smaller.objective, ∃ objective ∈ summary.objective,
    Relation.ReflTransGen ShorterText objective shorter

def emptySummary : CompactionSummary where
  decisions := []
  constraints := []
  readFiles := []
  modifiedFiles := []
  unresolved := []
  activePlan := []

theorem Emptied.render (emptied : Emptied summary) :
    renderSummary summary = renderSummary emptySummary := by
  simp only [renderSummary, emptied.objective, emptied.refs]
  rw [show summary.decisions = [] from emptied.fields .decisions,
    show summary.constraints = [] from emptied.fields .constraints,
    show summary.readFiles = [] from emptied.fields .readFiles,
    show summary.modifiedFiles = [] from emptied.fields .modifiedFiles,
    show summary.unresolved = [] from emptied.fields .unresolved,
    show summary.activePlan = [] from emptied.fields .activePlan]
  rfl

theorem ShortenedSummary.refl (summary : CompactionSummary) : ShortenedSummary summary summary where
  fields _ := List.suffix_rfl
  refs := ⟨rfl, List.suffix_rfl⟩
  objective shorter there := ⟨shorter, there, .refl⟩

theorem ShortenedSummary.trans {smallest : CompactionSummary}
    (first : ShortenedSummary summary smaller) (second : ShortenedSummary smaller smallest) :
    ShortenedSummary summary smallest where
  fields field := (second.fields field).trans (first.fields field)
  refs := ⟨second.refs.1.trans first.refs.1, second.refs.2.trans first.refs.2⟩
  objective shorter there := by
    obtain ⟨middle, between, later⟩ := second.objective shorter there
    obtain ⟨objective, given, earlier⟩ := first.objective middle between
    exact ⟨objective, given, earlier.trans later⟩

theorem SummaryStep.shortened (step : SummaryStep summary smaller) :
    ShortenedSummary summary smaller := by
  have same := ShortenedSummary.refl summary
  cases step with
  | shift field =>
    refine ⟨fieldOf_shiftField field, ?_, ?_⟩ <;> cases field
    all_goals first | exact same.refs | exact same.objective
  | refs there =>
    refine ⟨same.fields, ?_, same.objective⟩
    simp [there]
  | shorten there shortened =>
    refine ⟨same.fields, same.refs, fun shorter found => ?_⟩
    cases found
    exact ⟨_, there, .single shortened⟩
  | drop =>
    refine ⟨same.fields, same.refs, fun shorter found => ?_⟩
    cases found

/-- What fitting a summary to a limit promises. -/
structure FitsBudget (summary : CompactionSummary) (tokenizer : TokenizerAdapter ℚ) (maxTokens : ℚ)
    (result : Except CompactionError CompactionSummary) : Prop where
  fitted : ∀ smaller, result = .ok smaller →
    tokenizer.countText (renderSummary smaller) ≤ maxTokens ∧ ShortenedSummary summary smaller
  thrown : ∀ error, result = .error error → error = invalidSummary ∧
    maxTokens < tokenizer.countText (renderSummary emptySummary)
  unchanged : tokenizer.countText (renderSummary summary) ≤ maxTokens → result = .ok summary

/-- **A summary is shrunk until it fits, and refused only if the empty summary does not fit.** -/
theorem fitSummaryToTokens_fits (summary : CompactionSummary) (tokenizer : TokenizerAdapter ℚ)
    (maxTokens : ℚ) :
    FitsBudget summary tokenizer maxTokens (fitSummaryToTokens summary tokenizer maxTokens) := by
  fun_induction fitSummaryToTokens summary tokenizer maxTokens with
  | case1 summary exceeds smaller shrunk ih =>
    refine ⟨fun fitted result => ?_, ih.thrown, fun fits => absurd exceeds (not_lt.mpr fits)⟩
    obtain ⟨within, shortened⟩ := ih.fitted fitted result
    exact ⟨within, (shrinkSummary_step shrunk).shortened.trans shortened⟩
  | case2 summary exceeds stuck =>
    refine ⟨fun fitted result => ?_, fun error result => ?_, fun fits => ?_⟩
    · cases result
    · cases result
      rw [(shrinkSummary_none stuck).render] at exceeds
      exact ⟨rfl, exceeds⟩
    · exact absurd exceeds (not_lt.mpr fits)
  | case3 summary fits =>
    refine ⟨fun fitted result => ?_, fun error result => ?_, fun _ => rfl⟩
    · cases result
      exact ⟨not_lt.mp fits, .refl summary⟩
    · cases result

end Praxis.Memory
