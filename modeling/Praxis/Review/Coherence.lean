import Praxis.Review.Reducer

/-!
# Coherence of a review plan

The focus of a plan is the current attempt of one item, a prepared review names the current attempt
of its item, an item that is accepted or skipped has no attempt, and a terminal state is final. The
reducer keeps this except where an event sets a part of the plan without its other parts
(`KeepsCoherence`): a revision drops the attempts and not the focus, and it and the resolution of the
plan's block make the plan active in any state; an attempt may start under the id of another one,
close while a review of it is prepared, and stay behind when its item is skipped.

The numbers of the attempts at an item are 1, 2, … in each revision (`startedNumbers`), since a
revision defines its items anew.
-/

namespace Praxis.Review

set_option autoImplicit false

open Praxis.Foundations

variable {Check : Type}

/-! ## Coherence -/

def ReviewPlanItemProjectionV1.Holds (item : ReviewPlanItemProjectionV1) (itemAttemptId : String) :
    Prop :=
  ∃ attempt, item.currentAttempt = some attempt ∧ attempt.itemAttemptId = itemAttemptId

structure CoherentItem (item : ReviewPlanItemProjectionV1) : Prop where
  /-- A prepared review names the current attempt. -/
  prepared : ∀ prepared, item.preparedReview = some prepared →
    ∃ attempt, item.currentAttempt = some attempt ∧
      prepared.itemAttemptId = some attempt.itemAttemptId
  /-- An item that is accepted or skipped has no attempt. -/
  settled : item.state = .accepted ∨ item.state = .skipped → item.currentAttempt = none
  /-- The current attempt is the last one that was counted. -/
  numbered : ∀ attempt, item.currentAttempt = some attempt →
    attempt.attemptNumber = item.attemptCount

structure Coherent (plan : ReviewPlanProjectionV1 Check) : Prop where
  /-- The focused attempt is the current one of exactly one item. -/
  focus : ∀ itemAttemptId, plan.focusedRootAttemptId = some itemAttemptId →
    ∃! item, item ∈ plan.items ∧ item.Holds itemAttemptId
  items : ∀ item ∈ plan.items, CoherentItem item

/-- The event sets no part of the plan that another part depends on. -/
def KeepsCoherence (plan : ReviewPlanProjectionV1 Check) : ReviewPlanEventDataV1 Check → Prop
  | .revised _ _ _ => plan.state.terminal = false ∧ plan.focusedRootAttemptId = none
  | .itemAttemptStarted _ itemAttemptId _ => ∀ item ∈ plan.items, ¬ item.Holds itemAttemptId
  | .itemAttemptClosed itemId _ _ =>
    ∀ item ∈ plan.items, item.id = itemId → item.preparedReview = none
  | .itemStateChanged itemId state _ =>
    state = .skipped → ∀ item ∈ plan.items, item.id = itemId → item.currentAttempt = none
  | .blockResolved blockId =>
    plan.block.any (·.blockId == blockId) = true → plan.state.terminal = false
  | _ => True

/-- The numbers of the attempts started at an item in the current revision, in order. -/
def startedNumbers (itemId : String) (events : List (ReviewPlanEventV1 Check)) : List Int :=
  events.foldl (fun numbers event =>
    match event.data with
    | .created _ _ _ | .revised _ _ _ => []
    | .itemAttemptStarted startedId _ attemptNumber =>
      if startedId = itemId then numbers ++ [attemptNumber] else numbers
    | _ => numbers) []

/-! ## Setting one item -/

variable {attempt : ReviewPlanItemAttemptV1}

section Items

variable {plan : ReviewPlanProjectionV1 Check} {item edited : ReviewPlanItemProjectionV1}

theorem mutableItem_ok {itemId : String} (found : mutableItem plan itemId = .ok item) :
    item ∈ plan.items ∧ item.id = itemId := by
  rw [mutableItem, orError_eq_ok] at found
  exact ⟨List.mem_of_find?_eq_some found, by simpa using List.find?_some found⟩

theorem requireAttempt_ok {itemAttemptId : Option String}
    (found : requireAttempt item itemAttemptId = .ok attempt) :
    item.currentAttempt = some attempt ∧ some attempt.itemAttemptId = itemAttemptId := by
  simp only [requireAttempt, bind_eq_ok, orError_eq_ok, ensure_eq_ok, pure_eq_ok, exists_const,
    beq_iff_eq] at found
  obtain ⟨_, there, named, rfl⟩ := found
  exact ⟨there, named⟩

theorem mem_setItem (member : item ∈ plan.items) (same : edited.id = item.id)
    (other : ReviewPlanItemProjectionV1) :
    other ∈ (plan.setItem edited).items ↔ other = edited ∨ other ∈ plan.items ∧ other.id ≠ item.id := by
  simp only [ReviewPlanProjectionV1.setItem, List.mem_map]
  constructor
  · rintro ⟨candidate, there, rfl⟩
    by_cases here : candidate.id = edited.id
    · exact .inl (if_pos here)
    · rw [if_neg here]
      exact .inr ⟨there, fun equal => here (equal.trans same.symm)⟩
  · rintro (rfl | ⟨there, different⟩)
    · exact ⟨item, member, if_pos same.symm⟩
    · exact ⟨other, there, if_neg fun equal => different (equal.trans same)⟩

theorem forall_setItem {P : ReviewPlanItemProjectionV1 → Prop} (member : item ∈ plan.items)
    (same : edited.id = item.id) (holds : ∀ item ∈ plan.items, P item) :
    (∀ other ∈ (plan.setItem edited).items, P other) ↔ P edited := by
  constructor
  · intro all
    exact all edited ((mem_setItem member same edited).mpr (.inl rfl))
  · intro new other there
    rcases (mem_setItem member same other).mp there with rfl | ⟨old, _⟩
    · exact new
    · exact holds other old

theorem setItem_ids (edited : ReviewPlanItemProjectionV1) :
    (plan.setItem edited).items.map (·.id) = plan.items.map (·.id) := by
  rw [ReviewPlanProjectionV1.setItem, List.map_map]
  refine List.map_congr_left fun candidate _ => ?_
  by_cases here : candidate.id = edited.id <;> simp [here]

end Items

/-! ## What holds of every plan -/

structure SoundItem (item : ReviewPlanItemProjectionV1) : Prop where
  /-- Evidence is frozen exactly for accepted items. -/
  evidence : item.acceptedEvidenceRefs.isSome = true ↔ item.state = .accepted
  /-- An accepted item has no attempt any more. -/
  past : item.state = .accepted → item.currentAttempt = none
  numbered : ∀ attempt, item.currentAttempt = some attempt →
    attempt.attemptNumber = item.attemptCount

structure Sound (plan : ReviewPlanProjectionV1 Check) : Prop where
  ids : (plan.items.map (·.id)).Nodup
  items : ∀ item ∈ plan.items, SoundItem item

/-- No attempt is the current one of two items. -/
def Distinct (plan : ReviewPlanProjectionV1 Check) : Prop :=
  ∀ first ∈ plan.items, ∀ second ∈ plan.items, ∀ itemAttemptId, first.Holds itemAttemptId →
    second.Holds itemAttemptId → first = second

theorem Sound.same {plan : ReviewPlanProjectionV1 Check} (sound : Sound plan)
    {first second : ReviewPlanItemProjectionV1} (here : first ∈ plan.items)
    (there : second ∈ plan.items) (same : first.id = second.id) : first = second :=
  List.inj_on_of_nodup_map sound.ids here there same

/-- The id and the number of the current attempt of an item. -/
def ReviewPlanItemProjectionV1.attemptKey (item : ReviewPlanItemProjectionV1) :
    Option (String × Int) :=
  item.currentAttempt.map fun attempt => (attempt.itemAttemptId, attempt.attemptNumber)

structure KeepsAttempt (item edited : ReviewPlanItemProjectionV1) : Prop where
  id : edited.id = item.id
  attempt : edited.attemptKey = item.attemptKey
  count : edited.attemptCount = item.attemptCount
  evidence : edited.acceptedEvidenceRefs = item.acceptedEvidenceRefs

section Keys

variable {item edited : ReviewPlanItemProjectionV1}

theorem holds_iff {itemAttemptId : String} :
    item.Holds itemAttemptId ↔ ∃ number, item.attemptKey = some (itemAttemptId, number) := by
  simp only [ReviewPlanItemProjectionV1.Holds, ReviewPlanItemProjectionV1.attemptKey,
    Option.map_eq_some_iff, Prod.mk.injEq]
  constructor
  · rintro ⟨attempt, there, rfl⟩
    exact ⟨attempt.attemptNumber, attempt, there, rfl, rfl⟩
  · rintro ⟨_, attempt, there, named, _⟩
    exact ⟨attempt, there, named⟩

theorem attemptKey_eq_none : item.attemptKey = none ↔ item.currentAttempt = none :=
  Option.map_eq_none_iff

theorem not_holds_of_none (none : item.currentAttempt = none) (itemAttemptId : String) :
    ¬ item.Holds itemAttemptId := by
  rintro ⟨_, there, _⟩
  rw [none] at there
  cases there

theorem numbered_iff : (∀ attempt, item.currentAttempt = some attempt →
      attempt.attemptNumber = item.attemptCount) ↔
    ∀ id number, item.attemptKey = some (id, number) → number = item.attemptCount := by
  simp only [ReviewPlanItemProjectionV1.attemptKey, Option.map_eq_some_iff, Prod.mk.injEq]
  constructor
  · rintro all id number ⟨attempt, there, _, rfl⟩
    exact all attempt there
  · intro all attempt there
    exact all attempt.itemAttemptId attempt.attemptNumber ⟨attempt, there, rfl, rfl⟩

theorem KeepsAttempt.holds (keeps : KeepsAttempt item edited) (itemAttemptId : String) :
    edited.Holds itemAttemptId ↔ item.Holds itemAttemptId := by
  rw [holds_iff, holds_iff, keeps.attempt]

theorem KeepsAttempt.none_iff (keeps : KeepsAttempt item edited) :
    edited.currentAttempt = none ↔ item.currentAttempt = none := by
  rw [← attemptKey_eq_none, ← attemptKey_eq_none, keeps.attempt]

theorem SoundItem.not_accepted (sound : SoundItem item)
    (current : item.currentAttempt = some attempt) : item.state ≠ .accepted := by
  intro past
  have none := sound.past past
  rw [current] at none
  cases none

theorem SoundItem.kept (sound : SoundItem item) (keeps : KeepsAttempt item edited)
    (state : edited.state = .accepted ↔ item.state = .accepted) : SoundItem edited where
  evidence := by rw [keeps.evidence, state, sound.evidence]
  past accepted := keeps.none_iff.mpr (sound.past (state.mp accepted))
  numbered := by
    have before := numbered_iff.mp sound.numbered
    rw [numbered_iff, keeps.attempt, keeps.count]
    exact before

end Keys

/-! ## Rules for one step -/

/-- The step keeps the plan coherent and a terminal state as it is. -/
structure StepGood (plan next : ReviewPlanProjectionV1 Check) : Prop where
  coherent : Coherent next
  final : plan.state.terminal = true → next.state = plan.state

/-- What a step from a sound plan does, under the condition that the event keeps coherence. -/
structure StepRule (plan next : ReviewPlanProjectionV1 Check) (keeps : Prop) : Prop where
  sound : Sound next
  good : Coherent plan → Distinct plan → (StepGood plan next ↔ keeps)
  distinct : Distinct plan → keeps → Distinct next

/-- A step that neither starts an attempt nor defines items: the open items keep their counts. -/
structure KeepingStep (plan next : ReviewPlanProjectionV1 Check) (keeps : Prop) : Prop
    extends StepRule plan next keeps where
  counts : ∀ after ∈ next.items, after.state ≠ .accepted → ∃ before ∈ plan.items,
    before.state ≠ .accepted ∧ before.id = after.id ∧ before.attemptCount = after.attemptCount

section Rules

variable {plan next : ReviewPlanProjectionV1 Check} {item edited : ReviewPlanItemProjectionV1}

theorem KeepingStep.planOnly (sound : Sound plan) (items : next.items = plan.items)
    (focus : next.focusedRootAttemptId = plan.focusedRootAttemptId)
    (final : plan.state.terminal = true → next.state = plan.state) : KeepingStep plan next True where
  sound :=
    { ids := items ▸ sound.ids
      items := items ▸ sound.items }
  good coherent _ := by
    refine iff_of_true ⟨⟨?_, items ▸ coherent.items⟩, final⟩ trivial
    rw [focus, items]
    exact coherent.focus
  distinct distinct _ := by
    rw [Distinct, items]
    exact distinct
  counts := by
    rw [items]
    exact fun after there open_ => ⟨after, there, open_, rfl, rfl⟩

theorem distinct_setItem (member : item ∈ plan.items)
    (same : edited.id = item.id) (held : ∀ id, edited.Holds id → item.Holds id)
    (items : next.items = (plan.setItem edited).items) (distinct : Distinct plan) :
    Distinct next := by
  intro first here second there id one two
  rw [items] at here there
  rcases (mem_setItem member same first).mp here with rfl | ⟨first_, away⟩ <;>
    rcases (mem_setItem member same second).mp there with rfl | ⟨second_, away'⟩
  · rfl
  · have equal := distinct item member second second_ id (held id one) two
    exact absurd (congrArg (·.id) equal.symm) away'
  · have equal := distinct first first_ item member id one (held id two)
    exact absurd (congrArg (·.id) equal) away
  · exact distinct first first_ second second_ id one two

theorem sound_setItem (sound : Sound plan) (member : item ∈ plan.items) (same : edited.id = item.id)
    (new : SoundItem edited) (items : next.items = (plan.setItem edited).items) : Sound next where
  ids := by
    rw [items, setItem_ids]
    exact sound.ids
  items := by
    rw [items]
    exact (forall_setItem member same sound.items).mpr new

theorem counts_setItem (member : item ∈ plan.items) (same : edited.id = item.id)
    (count : edited.attemptCount = item.attemptCount)
    (open_ : edited.state ≠ .accepted → item.state ≠ .accepted)
    (items : next.items = (plan.setItem edited).items) :
    ∀ after ∈ next.items, after.state ≠ .accepted → ∃ before ∈ plan.items,
      before.state ≠ .accepted ∧ before.id = after.id ∧ before.attemptCount = after.attemptCount := by
  intro after there
  rw [items] at there
  rcases (mem_setItem member same after).mp there with rfl | ⟨old, _⟩
  · exact fun state => ⟨item, member, open_ state, same.symm, count.symm⟩
  · exact fun state => ⟨after, old, state, rfl, rfl⟩

theorem KeepingStep.edit {keeps : Prop} (sound : Sound plan) (member : item ∈ plan.items)
    (kept : KeepsAttempt item edited) (new : SoundItem edited)
    (items : next.items = (plan.setItem edited).items)
    (focus : next.focusedRootAttemptId = plan.focusedRootAttemptId)
    (coherent : CoherentItem item → (CoherentItem edited ↔ keeps))
    (final : plan.state.terminal = true → next.state = plan.state) :
    KeepingStep plan next keeps where
  sound := sound_setItem sound member kept.id new items
  good before distinct := by
    rw [← coherent (before.items item member)]
    constructor
    · intro good
      rw [← forall_setItem member kept.id before.items, ← items]
      exact good.coherent.items
    · intro item'
      refine ⟨⟨?_, ?_⟩, final⟩
      · intro id focused
        rw [focus] at focused
        obtain ⟨holder, ⟨there, holds⟩, _⟩ := before.focus id focused
        have after : Distinct next :=
          distinct_setItem member kept.id (fun id => (kept.holds id).mp) items distinct
        obtain ⟨new, place, held⟩ : ∃ new ∈ next.items, new.Holds id := by
          rw [items]
          by_cases here : holder.id = item.id
          · obtain rfl := sound.same there member here
            exact ⟨edited, (mem_setItem member kept.id _).mpr (.inl rfl), (kept.holds id).mpr holds⟩
          · exact ⟨holder, (mem_setItem member kept.id _).mpr (.inr ⟨there, here⟩), holds⟩
        exact ⟨new, ⟨place, held⟩, fun other ⟨place', held'⟩ =>
          after other place' new place id held' held⟩
      · rw [items]
        exact (forall_setItem member kept.id before.items).mpr item'
  distinct distinct _ :=
    distinct_setItem member kept.id (fun id => (kept.holds id).mp) items distinct
  counts := by
    refine counts_setItem member kept.id kept.count (fun open_ past => open_ ?_) items
    rw [← new.evidence, kept.evidence, (sound.items item member).evidence]
    exact past

theorem KeepingStep.ends {keeps : Prop} (sound : Sound plan)
    (member : item ∈ plan.items) (same : edited.id = item.id)
    (current : item.currentAttempt = some attempt) (past : edited.currentAttempt = none)
    (count : edited.attemptCount = item.attemptCount) (new : SoundItem edited)
    (items : next.items = (plan.setItem edited).items) (focus : next.focusedRootAttemptId =
      if plan.focusedRootAttemptId = some attempt.itemAttemptId then none
      else plan.focusedRootAttemptId)
    (coherent : CoherentItem item → (CoherentItem edited ↔ keeps))
    (state : next.state = plan.state) : KeepingStep plan next keeps where
  sound := sound_setItem sound member same new items
  good before distinct := by
    rw [← coherent (before.items item member)]
    constructor
    · intro good
      rw [← forall_setItem member same before.items, ← items]
      exact good.coherent.items
    · intro item'
      refine ⟨⟨?_, ?_⟩, fun _ => state⟩
      · intro id focused
        rw [focus] at focused
        by_cases mine : plan.focusedRootAttemptId = some attempt.itemAttemptId
        · rw [if_pos mine] at focused
          cases focused
        · rw [if_neg mine] at focused
          obtain ⟨holder, ⟨there, holds⟩, _⟩ := before.focus id focused
          have elsewhere : holder.id ≠ item.id := by
            intro here
            obtain rfl := sound.same there member here
            obtain ⟨held, is, rfl⟩ := holds
            obtain rfl := Option.mem_unique current is
            exact mine focused
          have after : Distinct next := distinct_setItem member same
            (fun id held => absurd held (not_holds_of_none past id)) items distinct
          have place : holder ∈ next.items := by
            rw [items]
            exact (mem_setItem member same _).mpr (.inr ⟨there, elsewhere⟩)
          exact ⟨holder, ⟨place, holds⟩, fun other ⟨place', held'⟩ =>
            after other place' holder place id held' holds⟩
      · rw [items]
        exact (forall_setItem member same before.items).mpr item'
  distinct distinct _ := distinct_setItem member same
    (fun id held => absurd held (not_holds_of_none past id)) items distinct
  counts := counts_setItem member same count
    (fun _ => (sound.items item member).not_accepted current) items

end Rules

end Praxis.Review
