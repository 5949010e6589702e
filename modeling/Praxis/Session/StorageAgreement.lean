import Praxis.Session.StorageExclusion

/-!
# The store of an open composition

In a sound run the backend of the root is where the step of the migration says (`Placed`): the
source's until it is moved away, none in between, and the target's afterwards, each with all that
was committed. With the exclusion this gives the whole property (`run_excludes`).
-/

namespace Praxis.Session

set_option autoImplicit false

/-- The call has read or written a marker that names its kind. -/
def CompositionPhase.settled : CompositionPhase → Bool
  | .initializing marks => !marks
  | .unlocking initialized => initialized.isSome
  | .opening | .waitingLease | .leasing | .unlockingLease | .checking | .returned => true
  | _ => false

namespace StorageSystem

variable {Call Commit : Type} [DecidableEq Call] {calls : StorageCalls Call Commit}
  {kind : SessionStoreKindV3} {system after : StorageSystem Call Commit} {phase : CompositionPhase}

section Places

variable (calls : StorageCalls Call Commit) (kind : SessionStoreKindV3)
  (system : StorageSystem Call Commit)

/-- The root has one backend, with all that was committed. -/
structure Whole : Prop where
  there : system.backend kind = some system.committed
  alone : system.backend kind.other = none

/-- The root has no backend. -/
def Gone : Prop := ∀ kind, system.backend kind = none

/-- The root has the backend of this kind, and its marker, once a call relies on it. -/
structure Intact : Prop extends Whole kind system where
  marker : system.marker ≠ some kind.other
  settled : ∀ call, (system.phase call).settled = true → system.marker = some kind
  marking : ∀ call, system.phase call = .marking → calls.requested call = kind

/-- The target is staged, and has all that was committed. -/
structure Staged : Prop where
  staged : system.staged = some system.committed
  target : calls.target = kind.other

/-- Where the backend is, at each step of the migration of a source. -/
def Placed : Prop :=
  match system.migration with
  | .inspecting | .indexing => Intact calls kind system
  | .composing call indexed =>
    Intact calls kind system ∧ (indexed = true → calls.requested call = .jsonl)
  | .closing _ indexed => Intact calls kind system ∧ (indexed = true → kind = .jsonl)
  | .locking source | .scanning source | .inspectingLeases source _ | .initializing source
  | .exporting source => Intact calls kind system ∧ source = kind
  | .staging source archive =>
    Intact calls kind system ∧ source = kind ∧ archive = system.committed ∧
      calls.target = kind.other
  | .movingMarker source => Intact calls kind system ∧ source = kind ∧ Staged calls kind system
  | .movingSource source => Whole kind system ∧ source = kind ∧ Staged calls kind system
  | .movingLogs _ | .movingTarget _ => Gone system ∧ Staged calls kind system
  | .marking => Whole calls.target system
  | .returningSource _ | .returningMarker => False
  | .unlocking | .finished =>
    Intact calls kind system ∨ Gone system ∨
      Whole calls.target system ∧ system.marker = some calls.target

/-- What holds in a sound run. -/
structure Agreed : Prop where
  guarded : Guarded system
  placed : Placed calls kind system
  /-- An open composition has its store. -/
  opened : ∀ call, system.phase call = .returned →
    (system.backend (calls.requested call)).isSome = true

end Places

variable {other : SessionStoreKindV3} {call : Call}

omit [DecidableEq Call] in
theorem Whole.kind_eq (whole : Whole kind system) (there : (system.backend other).isSome = true) :
    other = kind := by
  by_contra apart
  rw [SessionStoreKindV3.eq_other apart, whole.alone] at there
  cases there

omit [DecidableEq Call] in
theorem Intact.named (intact : Intact calls kind system) (there : system.marker.isSome = true) :
    system.marker = some kind := by
  obtain ⟨named, here⟩ := Option.isSome_iff_exists.mp there
  rw [here]
  by_contra apart
  have other : named = kind.other := SessionStoreKindV3.eq_other fun same => apart (congrArg some same)
  exact intact.marker (here.trans (congrArg some other))

omit [DecidableEq Call] in
theorem Whole.of_eq (whole : Whole kind system) (backend : after.backend = system.backend)
    (committed : after.committed = system.committed) : Whole kind after :=
  ⟨by rw [backend, committed, whole.there], by rw [backend, whole.alone]⟩

omit [DecidableEq Call] in
theorem Intact.of_eq (intact : Intact calls kind system) (backend : after.backend = system.backend)
    (committed : after.committed = system.committed) (marker : after.marker = system.marker)
    (phase : after.phase = system.phase) : Intact calls kind after where
  toWhole := intact.toWhole.of_eq backend committed
  marker := by rw [marker]; exact intact.marker
  settled := by rw [marker, phase]; exact intact.settled
  marking := by rw [phase]; exact intact.marking

theorem Intact.of_phase (intact : Intact calls kind system)
    (phases : after.phase = Function.update system.phase call phase)
    (backend : after.backend = system.backend) (committed : after.committed = system.committed)
    (marker : after.marker = system.marker)
    (settles : phase.settled = true → system.marker = some kind)
    (marks : phase = .marking → calls.requested call = kind) : Intact calls kind after where
  toWhole := intact.toWhole.of_eq backend committed
  marker := by rw [marker]; exact intact.marker
  settled other has := by
    rw [marker]
    rw [phases] at has
    by_cases same : other = call
    · subst same
      rw [Function.update_self] at has
      exact settles has
    · rw [Function.update_of_ne same] at has
      exact intact.settled other has
  marking other has := by
    rw [phases] at has
    by_cases same : other = call
    · subst same
      rw [Function.update_self] at has
      exact marks has
    · rw [Function.update_of_ne same] at has
      exact intact.marking other has

omit [DecidableEq Call] in
theorem Staged.of_eq (staged : Staged calls kind system) (same : after.staged = system.staged)
    (committed : after.committed = system.committed) : Staged calls kind after :=
  ⟨by rw [same, committed, staged.staged], staged.target⟩

omit [DecidableEq Call] in
theorem Gone.not_there (gone : Gone system) (there : (system.backend other).isSome = true) :
    False := by
  rw [gone other] at there
  cases there

omit [DecidableEq Call] in
theorem Placed.of_files (placed : Placed calls kind system)
    (migration : after.migration = system.migration) (backend : after.backend = system.backend)
    (committed : after.committed = system.committed) (staged : after.staged = system.staged)
    (intact : Intact calls kind system → Intact calls kind after)
    (marker : Whole calls.target system → system.marker = some calls.target →
      after.marker = some calls.target) : Placed calls kind after := by
  have whole : ∀ {kind}, Whole kind system → Whole kind after :=
    fun whole => whole.of_eq backend committed
  have gone : Gone system → Gone after := fun gone kind => by rw [backend, gone kind]
  have staging : Staged calls kind system → Staged calls kind after :=
    fun here => here.of_eq staged committed
  unfold Placed at placed ⊢
  rw [migration]
  cases phase : system.migration <;> rw [phase] at placed <;> dsimp only at placed ⊢
  case inspecting | indexing => exact intact placed
  case composing | closing | locking | scanning | inspectingLeases | initializing | exporting =>
    exact ⟨intact placed.1, placed.2⟩
  case staging => exact ⟨intact placed.1, placed.2.1, placed.2.2.1.trans committed.symm, placed.2.2.2⟩
  case movingMarker => exact ⟨intact placed.1, placed.2.1, staging placed.2.2⟩
  case movingSource => exact ⟨whole placed.1, placed.2.1, staging placed.2.2⟩
  case movingLogs | movingTarget => exact ⟨gone placed.1, staging placed.2⟩
  case marking => exact whole placed
  case unlocking | finished =>
    rcases placed with here | here | ⟨here, named⟩
    · exact .inl (intact here)
    · exact .inr (.inl (gone here))
    · exact .inr (.inr ⟨whole here, marker here named⟩)

theorem Agreed.of_phase (agreed : Agreed calls kind system) (guarded : Guarded after)
    (phases : after.phase = Function.update system.phase call phase)
    (settles : phase.settled = true → Intact calls kind system → system.marker = some kind)
    (marks : phase = .marking → Intact calls kind system → calls.requested call = kind)
    (opens : phase = .returned → (system.backend (calls.requested call)).isSome = true)
    (migration : after.migration = system.migration := by rfl)
    (backend : after.backend = system.backend := by rfl)
    (committed : after.committed = system.committed := by rfl)
    (staged : after.staged = system.staged := by rfl)
    (marker : after.marker = system.marker := by rfl) : Agreed calls kind after where
  guarded := guarded
  placed := by
    refine agreed.placed.of_files migration backend committed staged (fun intact => ?_) fun _ => ?_
    · exact intact.of_phase phases backend committed marker (fun has => settles has intact)
        fun has => marks has intact
    · rw [marker]
      exact id
  opened call' returned := by
    rw [backend]
    rw [phases] at returned
    by_cases same : call' = call
    · subst same
      rw [Function.update_self] at returned
      exact opens returned
    · rw [Function.update_of_ne same] at returned
      exact agreed.opened call' returned

omit [DecidableEq Call] in
theorem initializeBackend_there {requested : SessionStoreKindV3}
    (there : (system.backend requested).isSome = true) :
    system.initializeBackend calls requested = system := by
  obtain ⟨stored, here⟩ := Option.isSome_iff_exists.mp there
  unfold initializeBackend withBackend
  have same : Function.update system.backend requested
      (some ((system.backend requested).getD (calls.fresh requested))) = system.backend := by
    rw [here, Option.getD_some, ← here, Function.update_eq_self]
  rw [same]

theorem Agreed.advance (agreed : Agreed calls kind system)
    (sound : system.Sound calls (.compose call)) :
    Agreed calls kind (system.advance calls call) := by
  have guarded : Guarded (system.advance calls call) := agreed.guarded.advance call
  have settled : ∀ intact : Intact calls kind system, (system.phase call).settled = true →
      system.marker = some kind := fun intact => intact.settled call
  simp only [StorageSystem.Sound] at sound
  cases phase : system.phase call <;> rw [phase] at sound settled <;>
    simp only [StorageSystem.advance, phase] at guarded ⊢
  case starting =>
    refine agreed.of_phase guarded rfl ?_ ?_ ?_ <;> split <;> rintro ⟨⟩
  case waiting =>
    split
    · exact agreed
    · rename_i free
      rw [if_neg free] at guarded
      exact agreed.of_phase guarded rfl (by rintro ⟨⟩) (by simp) (by simp)
  case detecting => exact agreed.of_phase guarded rfl (by rintro ⟨⟩) (by simp) (by simp)
  case detectingDatabase journal =>
    split at guarded <;> rename_i both
    · rw [if_pos both]
      exact agreed.of_phase guarded rfl (by rintro ⟨⟩) (by simp) (by simp)
    · rw [if_neg both]
      exact agreed.of_phase guarded rfl (by rintro ⟨⟩) (by simp) (by simp)
  case reading detected =>
    by_cases agrees : (system.marker.all (· == calls.requested call) &&
        detected.all (· == calls.requested call)) = true
    · rw [if_pos agrees] at guarded ⊢
      by_cases missing : (system.marker.isNone || detected.isNone) = true
      · rw [if_pos missing] at guarded ⊢
        refine agreed.of_phase guarded rfl (fun has intact => ?_) (by simp) (by simp)
        exact intact.named (by simpa [CompositionPhase.settled, Option.isSome_iff_ne_none] using has)
      · rw [if_neg missing] at guarded ⊢
        refine agreed.of_phase guarded rfl (fun _ intact => ?_) (by simp) (by simp)
        rw [Bool.or_eq_true, not_or] at missing
        exact intact.named (by simpa [Option.isSome_iff_ne_none] using missing.1)
    · rw [if_neg agrees] at guarded ⊢
      exact agreed.of_phase guarded rfl (by rintro ⟨⟩) (by simp) (by simp)
  case initializing marks =>
    rw [initializeBackend_there sound] at guarded ⊢
    cases marks with
    | true =>
      exact agreed.of_phase guarded rfl (by rintro ⟨⟩)
        (fun _ intact => intact.kind_eq sound) (by simp)
    | false =>
      exact agreed.of_phase guarded rfl (fun _ intact => settled intact rfl)
        (by simp) (by simp)
  case marking =>
    refine ⟨guarded, ?_, fun call' returned => ?_⟩
    · refine agreed.placed.of_files rfl rfl rfl rfl (fun intact => ?_) fun _ named => ?_
      · have same := intact.marking call phase
        have differs : kind ≠ kind.other := by cases kind <;> decide
        refine ⟨⟨intact.there, intact.alone⟩, fun wrong => ?_, fun _ _ => congrArg some same, fun other has => ?_⟩
        · exact differs (same.symm.trans (Option.some.inj wrong))
        · refine intact.marking other ?_
          by_cases own : other = call
          · rw [own, phase]
          · exact (Function.update_of_ne own _ _).symm.trans has
      · by_contra apart
        have other := SessionStoreKindV3.eq_other fun same : calls.target = calls.requested call =>
          apart (congrArg some same.symm)
        exact sound (named.trans (congrArg some other))
    · refine agreed.opened call' ?_
      by_cases own : call' = call
      · subst own
        have none := (Function.update_self _ _ _).symm.trans returned
        cases none
      · exact (Function.update_of_ne own _ _).symm.trans returned
  case unlocking initialized =>
    rcases initialized with _ | _ | _
    · exact agreed.of_phase guarded rfl (by rintro ⟨⟩) (by simp) (by simp)
    · exact agreed.of_phase guarded rfl (fun _ intact => settled intact rfl)
        (by simp) (by simp)
    · exact agreed.of_phase guarded rfl (fun _ intact => settled intact rfl)
        (by simp) (by simp)
  case opening =>
    rw [initializeBackend_there sound] at guarded ⊢
    exact agreed.of_phase guarded rfl (fun _ intact => settled intact rfl)
      (by simp) (by simp)
  case waitingLease =>
    split
    · exact agreed
    · rename_i free
      rw [if_neg free] at guarded
      exact agreed.of_phase guarded rfl (fun _ intact => settled intact rfl)
        (by simp) (by simp)
  case leasing | unlockingLease =>
    exact agreed.of_phase guarded rfl (fun _ intact => settled intact rfl)
      (by simp) (by simp)
  case checking =>
    cases lock : system.migrationLock <;> rw [lock] at guarded
    · exact agreed.of_phase guarded rfl (fun _ intact => settled intact rfl)
        (by simp) fun _ => sound lock
    · exact agreed.of_phase guarded rfl (by rintro ⟨⟩) (by simp) (by simp)
  case returned | ended => exact agreed
  case refused => exact agreed.of_phase guarded rfl (by rintro ⟨⟩) (by simp) (by simp)

theorem Agreed.advanceMigration (agreed : Agreed calls kind system) (own : Call)
    (succeeds : Bool) : Agreed calls kind (system.advanceMigration calls own succeeds) := by
  have guarded : Guarded (system.advanceMigration calls own succeeds) :=
    agreed.guarded.advanceMigration own succeeds
  have closed := agreed.guarded.closed
  have opened := agreed.opened
  have placed := agreed.placed
  unfold Placed at placed
  cases migration : system.migration <;> rw [migration] at placed closed <;>
    simp only [StorageSystem.advanceMigration, migration] at guarded placed ⊢
  case inspecting =>
    cases marker : system.marker with
    | none =>
      rw [marker] at guarded
      exact ⟨guarded, placed.of_eq rfl rfl rfl rfl, opened⟩
    | some source =>
      rw [marker] at guarded
      have same := placed.named (by rw [marker]; rfl)
      exact ⟨guarded, ⟨placed.of_eq rfl rfl rfl rfl, Option.mem_unique marker same⟩,
        opened⟩
  case indexing =>
    by_cases starts : system.phase own = .starting ∧
        calls.requested own = if calls.index.isSome then .jsonl else calls.target
    · rw [if_pos starts] at guarded ⊢
      refine ⟨guarded, ⟨placed.of_eq rfl rfl rfl rfl, fun indexed => ?_⟩, opened⟩
      rw [starts.2, if_pos indexed]
    · rwa [if_neg starts]
  case composing call indexed =>
    obtain ⟨intact, wanted⟩ := placed
    cases phase : system.phase call
    case returned =>
      rw [phase] at guarded
      refine ⟨guarded, ⟨intact.of_eq rfl rfl rfl rfl, fun here => ?_⟩, opened⟩
      rw [← wanted here, intact.kind_eq (opened call phase)]
    case ended =>
      rw [phase] at guarded
      exact ⟨guarded, .inl (intact.of_eq rfl rfl rfl rfl), opened⟩
    all_goals exact agreed
  case closing call indexed =>
    obtain ⟨intact, wanted⟩ := placed
    have opened' : ∀ other, Function.update system.phase call .ended other = .returned →
        (system.backend (calls.requested other)).isSome = true := by
      intro other returned
      by_cases same : other = call
      · subst same
        rw [Function.update_self] at returned
        cases returned
      · rw [Function.update_of_ne same] at returned
        exact opened other returned
    cases indexed with
    | false => exact ⟨guarded, .inl (intact.of_phase rfl rfl rfl rfl (by rintro ⟨⟩) (by simp)), opened'⟩
    | true =>
      exact ⟨guarded, ⟨intact.of_phase rfl rfl rfl rfl (by rintro ⟨⟩) (by simp), (wanted rfl).symm⟩, opened'⟩
  case locking source =>
    obtain ⟨intact, same⟩ := placed
    split at guarded <;> rename_i lock
    · rw [if_pos lock]
      exact ⟨guarded, .inl (intact.of_eq rfl rfl rfl rfl), opened⟩
    · rw [if_neg lock]
      exact ⟨guarded, ⟨intact.of_eq rfl rfl rfl rfl, same⟩, opened⟩
  case scanning source => exact ⟨guarded, ⟨placed.1.of_eq rfl rfl rfl rfl, placed.2⟩, opened⟩
  case inspectingLeases source found =>
    obtain ⟨intact, same⟩ := placed
    cases found with
    | nil => exact ⟨guarded, ⟨intact.of_eq rfl rfl rfl rfl, same⟩, opened⟩
    | cons first rest =>
      dsimp only at guarded ⊢
      split at guarded <;> rename_i there
      · rw [if_pos there]
        exact ⟨guarded, .inl (intact.of_eq rfl rfl rfl rfl), opened⟩
      · rw [if_neg there]
        exact ⟨guarded, ⟨intact.of_eq rfl rfl rfl rfl, same⟩, opened⟩
  case initializing source =>
    obtain ⟨intact, rfl⟩ := placed
    have there : (system.backend source).isSome = true := by rw [intact.there]; rfl
    rw [initializeBackend_there there] at guarded ⊢
    exact ⟨guarded, ⟨intact.of_eq rfl rfl rfl rfl, rfl⟩, opened⟩
  case exporting source =>
    obtain ⟨intact, rfl⟩ := placed
    rw [intact.there] at guarded ⊢
    dsimp only at guarded ⊢
    split at guarded <;> rename_i same
    · rw [if_pos same]
      exact ⟨guarded, .inl (intact.of_eq rfl rfl rfl rfl), opened⟩
    · rw [if_neg same]
      have other := SessionStoreKindV3.eq_other fun wrong : calls.target = source => same wrong.symm
      exact ⟨guarded, ⟨intact.of_eq rfl rfl rfl rfl, rfl, rfl, other⟩, opened⟩
  case staging source archive =>
    obtain ⟨intact, same, rfl, target⟩ := placed
    cases succeeds with
    | true => exact ⟨guarded, ⟨intact.of_eq rfl rfl rfl rfl, same, rfl, target⟩, opened⟩
    | false => exact ⟨guarded, .inl (intact.of_eq rfl rfl rfl rfl), opened⟩
  case movingMarker source =>
    obtain ⟨intact, same, staged⟩ := placed
    exact ⟨guarded, ⟨intact.toWhole.of_eq rfl rfl, same, staged.of_eq rfl rfl⟩, opened⟩
  case movingSource source =>
    obtain ⟨whole, rfl, staged⟩ := placed
    have gone : ∀ kind, Function.update system.backend source none kind = none := by
      intro kind
      by_cases same : kind = source
      · rw [same, Function.update_self]
      · rw [Function.update_of_ne same, SessionStoreKindV3.eq_other same, whole.alone]
    refine ⟨guarded, ?_, fun call returned => absurd returned (closed rfl call)⟩
    cases source <;> exact ⟨gone, staged.of_eq rfl rfl⟩
  case movingLogs source =>
    obtain ⟨gone, staged⟩ := placed
    cases succeeds with
    | true => exact ⟨guarded, ⟨gone, staged.of_eq rfl rfl⟩, opened⟩
    | false => exact ⟨guarded, .inr (.inl gone), opened⟩
  case movingTarget source =>
    obtain ⟨gone, staged⟩ := placed
    have free : ¬(calls.target = .jsonl ∧ (system.backend .jsonl).isSome = true) :=
      fun wrong => gone.not_there wrong.2
    rw [if_neg free] at guarded ⊢
    refine ⟨guarded, ⟨?_, ?_⟩, fun call returned => absurd returned (closed rfl call)⟩
    · exact (Function.update_self _ _ _).trans staged.staged
    · refine (Function.update_of_ne ?_ _ _).trans (gone _)
      cases calls.target <;> decide
  case marking => exact ⟨guarded, .inr (.inr ⟨placed.of_eq rfl rfl, rfl⟩), opened⟩
  case unlocking =>
    refine ⟨guarded, ?_, opened⟩
    rcases placed with intact | gone | ⟨whole, named⟩
    · exact .inl (intact.of_eq rfl rfl rfl rfl)
    · exact .inr (.inl gone)
    · exact .inr (.inr ⟨whole.of_eq rfl rfl, named⟩)
  case finished => exact agreed

omit [DecidableEq Call] in
theorem Agreed.commit (agreed : Agreed calls kind system) (guarded : Guarded after)
    (returned : system.phase call = .returned) {stored : List Commit} {commit : Commit}
    (here : system.backend (calls.requested call) = some stored) (backend : after.backend =
      Function.update system.backend (calls.requested call) (some (stored ++ [commit])))
    (committed : after.committed = system.committed ++ [commit])
    (marker : after.marker = system.marker) (phase : after.phase = system.phase)
    (same : after.migration = system.migration) : Agreed calls kind after := by
  have there : (system.backend (calls.requested call)).isSome = true := by rw [here]; rfl
  have whole : ∀ {kind}, Whole kind system → Whole kind after := by
    intro kind whole
    obtain rfl := whole.kind_eq there
    obtain rfl := Option.mem_unique here whole.there
    refine ⟨by rw [backend, Function.update_self, committed], ?_⟩
    rw [backend, Function.update_of_ne ?_, whole.alone]
    cases calls.requested call <;> decide
  have intact : Intact calls kind system → Intact calls kind after := fun intact =>
    ⟨whole intact.toWhole, by rw [marker]; exact intact.marker,
      by rw [marker, phase]; exact intact.settled, by rw [phase]; exact intact.marking⟩
  have seen := agreed.guarded.seen call returned
  have placed := agreed.placed
  refine ⟨guarded, ?_, fun other returned' => ?_⟩
  · unfold Placed at placed ⊢
    rw [same]
    cases migration : system.migration <;> rw [migration] at placed seen <;> dsimp only at placed ⊢
    case inspecting | indexing => exact intact placed
    case composing | closing | locking | scanning | inspectingLeases =>
      exact ⟨intact placed.1, placed.2⟩
    case unlocking | finished =>
      rcases placed with here | gone | ⟨here, named⟩
      · exact .inl (intact here)
      · exact (gone.not_there there).elim
      · exact .inr (.inr ⟨whole here, marker.trans named⟩)
    all_goals exact seen.elim
  · rw [backend]
    by_cases own : calls.requested other = calls.requested call
    · rw [own, Function.update_self]
      rfl
    · rw [Function.update_of_ne own]
      exact agreed.opened other (phase ▸ returned')

theorem Agreed.perform (agreed : Agreed calls kind system) {event : StorageEvent Call Commit}
    (sound : system.Sound calls event) : Agreed calls kind (system.perform calls event) := by
  have guarded : Guarded (system.perform calls event) := agreed.guarded.perform event
  cases event with
  | compose call => exact agreed.advance sound
  | giveUp call =>
    simp only [StorageSystem.perform] at guarded ⊢
    cases phase : system.phase call <;> rw [phase] at guarded
    case waiting | waitingLease =>
      exact agreed.of_phase guarded rfl (by rintro ⟨⟩) (by simp) (by simp)
    all_goals exact agreed
  | stale =>
    exact ⟨guarded, agreed.placed.of_files rfl rfl rfl rfl (fun intact => intact.of_eq rfl rfl rfl rfl)
      fun _ => id, agreed.opened⟩
  | commit call commit =>
    simp only [StorageSystem.perform] at guarded ⊢
    split at guarded <;> rename_i condition
    · rw [if_pos condition]
      cases here : system.backend (calls.requested call) with
      | none => exact agreed
      | some stored =>
        rw [here] at guarded
        exact agreed.commit guarded condition.1 here rfl rfl rfl rfl rfl
    · rwa [if_neg condition]
  | close call =>
    simp only [StorageSystem.perform] at guarded ⊢
    split at guarded <;> rename_i condition
    · rw [if_pos condition]
      exact agreed.of_phase guarded rfl (by rintro ⟨⟩) (by simp) (by simp)
    · rwa [if_neg condition]
  | migrate own succeeds => exact agreed.advanceMigration own succeeds

theorem Agreed.run (agreed : Agreed calls kind system) {events : List (StorageEvent Call Commit)}
    (sound : system.SoundRun calls events) : Agreed calls kind (system.run calls events) := by
  induction events generalizing system with
  | nil => exact agreed
  | cons event rest ih => exact ih (agreed.perform sound.1) sound.2

omit [DecidableEq Call] in
theorem agreed_existing (calls : StorageCalls Call Commit) (kind : SessionStoreKindV3)
    (marked : Bool) (content : List Commit) : Agreed calls kind (existing kind marked content) where
  guarded := ⟨nofun, nofun, nofun⟩
  placed := by
    have apart : kind.other ≠ kind := by cases kind <;> decide
    refine ⟨⟨?_, ?_⟩, ?_, nofun, nofun⟩
    · exact Function.update_self kind (some content) fun _ => none
    · exact Function.update_of_ne apart (some content) fun _ => none
    · cases kind <;> cases marked <;> simp [existing, SessionStoreKindV3.other]
  opened := nofun

omit [DecidableEq Call] in
/-- An open composition has the one store of the root, and the marker names it. -/
theorem Agreed.of_returned (agreed : Agreed calls kind system)
    (returned : system.phase call = .returned) :
    Whole (calls.requested call) system ∧ system.marker = some (calls.requested call) := by
  have there := agreed.opened call returned
  have intact : Intact calls kind system →
      Whole (calls.requested call) system ∧ system.marker = some (calls.requested call) := by
    intro intact
    rw [intact.kind_eq there]
    exact ⟨intact.toWhole, intact.settled call (by rw [returned]; rfl)⟩
  have seen := agreed.guarded.seen call returned
  have placed := agreed.placed
  unfold Placed at placed
  cases migration : system.migration <;> rw [migration] at placed seen <;> dsimp only at placed
  case inspecting | indexing => exact intact placed
  case composing | closing | locking | scanning | inspectingLeases => exact intact placed.1
  case unlocking | finished =>
    rcases placed with here | gone | ⟨here, named⟩
    · exact intact here
    · exact (gone.not_there there).elim
    · rw [here.kind_eq there]
      exact ⟨here, named⟩
  all_goals exact seen.elim

omit [DecidableEq Call] in
theorem Placed.single (placed : Placed calls kind system) :
    ¬((system.backend .jsonl).isSome = true ∧ (system.backend .sqlite).isSome = true) := by
  rintro ⟨journal, database⟩
  have whole : ∀ {kind}, Whole kind system → False := fun whole =>
    nomatch (whole.kind_eq journal).trans (whole.kind_eq database).symm
  unfold Placed at placed
  cases migration : system.migration <;> rw [migration] at placed <;> dsimp only at placed
  case inspecting | indexing => exact whole placed.toWhole
  case composing | closing | locking | scanning | inspectingLeases | initializing | exporting
    | staging | movingMarker => exact whole placed.1.toWhole
  case movingSource => exact whole placed.1
  case movingLogs | movingTarget => exact placed.1.not_there journal
  case marking => exact whole placed
  case unlocking | finished =>
    rcases placed with here | gone | ⟨here, _⟩
    · exact whole here.toWhole
    · exact gone.not_there journal
    · exact whole here

omit [DecidableEq Call] in
theorem Agreed.excludes (agreed : Agreed calls kind system) : Excludes calls system where
  closed := agreed.guarded.closed
  complete _ returned :=
    ⟨system.committed, (agreed.of_returned returned).1.there, List.Subset.refl _⟩
  named _ returned := (agreed.of_returned returned).2
  single := agreed.placed.single

/-- **Migration excludes running runtimes** in every run in which no composition initializes a
store that is not there, writes its marker over the other one, or passes the last look at the lock
without its store. -/
theorem run_excludes (calls : StorageCalls Call Commit) (kind : SessionStoreKindV3) (marked : Bool)
    (content : List Commit) (events : List (StorageEvent Call Commit))
    (sound : (existing kind marked content).SoundRun calls events) :
    Excludes calls ((existing kind marked content).run calls events) :=
  ((agreed_existing calls kind marked content).run sound).excludes

/-! ## Two schedules -/

/-- All calls ask for the journal; the migration goes to the database. -/
def journalCalls : StorageCalls Nat Nat where
  requested _ := .jsonl
  target := .sqlite
  index := none

/-- A composition opens and commits; then the migration starts, and finds its lease. -/
def openSchedule : List (StorageEvent Nat Nat) :=
  List.replicate 11 (StorageEvent.compose 0) ++ .commit 0 7 :: List.replicate 5 (.migrate 1 true)

theorem openSchedule_excludes :
    Excludes journalCalls ((existing .jsonl true [3]).run journalCalls openSchedule) := by
  refine run_excludes journalCalls .jsonl true [3] openSchedule ?_
  exact ⟨trivial, trivial, trivial, trivial, trivial, trivial, rfl, trivial, trivial, trivial,
    fun _ => rfl, trivial, trivial, trivial, trivial, trivial, trivial, trivial⟩

/-- A composition has selected the journal when the migration starts, and initializes its store
when the migration is over. -/
def lateSchedule : List (StorageEvent Nat Nat) :=
  List.replicate 6 (StorageEvent.compose 0) ++ List.replicate 12 (.migrate 1 true) ++
    List.replicate 5 (.compose 0)

/-- It opens an empty journal next to the database that has all sessions. -/
theorem lateSchedule_overlaps :
    ¬Excludes journalCalls ((existing .jsonl true [3]).run journalCalls lateSchedule) :=
  fun excludes => excludes.single ⟨rfl, rfl⟩

example : ((existing .jsonl true [3]).run journalCalls lateSchedule).phase 0 = .returned := rfl

end StorageSystem

end Praxis.Session
