import Praxis.Session.MigrationSteps

/-!
# Composing on a standing root

A composition leaves a root standing that stands; it opens the store if it is of its kind and no
file operation fails (`compose_triple`), and only then.
-/

namespace Praxis.Session

set_option autoImplicit false

open Praxis.Foundations
open Praxis.Foundations.Action (Triple)

variable {Data View V2 : Type} {environment : StorageEnvironment Data View V2}
  {fails : StorageStep → Bool} {hard : Prop} {kind requested : SessionStoreKindV3}
  {content : CommitLog Data} {lock : Bool} {index : Option V2} {root : StorageRoot Data View V2}
  {α : Type}

theorem SourceOpen.mark (opened : SourceOpen environment kind content lock index root) :
    SourceOpen environment kind content lock index
      (root.withFiles .root { root.files .root with marker := some kind }) where
  rooted := opened.rooted.withFiles opened.rooted.stands.mark
  has := by
    rw [withFiles_self]
    have has := opened.has
    cases kind <;> exact has
  logged := by
    rw [withFiles_self]
    exact opened.logged

/-- What a composition leaves when it fails. -/
def Uncomposed (environment : StorageEnvironment Data View V2) (kind : SessionStoreKindV3)
    (content : CommitLog Data) (lock : Bool) (index : Option V2) (hard : Prop) (_ : StorageError)
    (root : StorageRoot Data View V2) : Prop :=
  Rooted environment.rules kind content lock index root ∧ ¬hard

theorem atomicWriteAuthority_triple {site : WriteStep → StorageStep}
    (easy : ∀ step, hard → fails (site step) = false) :
    Triple (SourceOpen environment kind content lock index)
      (atomicWriteAuthority fails site kind)
      (fun _ => SourceOpen environment kind content lock index)
      (Uncomposed environment kind content lock index hard) := by
  have settles : ∀ root, SourceOpen environment kind content lock index root → ¬hard →
      Rooted environment.rules kind content lock index root ∧ ¬hard :=
    fun _ opened failed => ⟨opened.rooted, failed⟩
  have passes : Triple (SourceOpen environment kind content lock index)
      ([WriteStep.mkdir, .open_, .write, .sync, .close].forM fun step => pass fails (site step))
      (fun _ root => SourceOpen environment kind content lock index root ∧
        ∀ step ∈ [WriteStep.mkdir, .open_, .write, .sync, .close], True)
      (Uncomposed environment kind content lock index hard) :=
    .forM fun step _ => (pass_triple (easy step)).mono (fun _ => id)
      (fun _ _ opened => ⟨opened, trivial⟩) fun _ root failed => settles root failed.1 failed.2
  refine passes.bind fun _ => ?_
  exact (touch_triple (easy .rename) fun root opened => opened.mark).mono
    (fun _ holds => holds.1) (fun _ _ => id) fun _ root failed => settles root failed.1 failed.2

theorem withAuthorityLock_triple {start finish : CompositionStep}
    {action : StorageAction Data View V2 α} {P : StorageRoot Data View V2 → Prop}
    {R : α → StorageRoot Data View V2 → Prop} (easy : ∀ step, hard → fails (.compose step) = false)
    (before : ∀ root, P root → Rooted environment.rules kind content lock index root)
    (after : ∀ a root, R a root → Rooted environment.rules kind content lock index root)
    (inner : Triple P action R (Uncomposed environment kind content lock index hard)) :
    Triple P (withAuthorityLock fails start finish action) R
      (Uncomposed environment kind content lock index hard) := by
  unfold withAuthorityLock
  have locks : Triple P (pass fails (.compose start)) (fun _ => P)
      (Uncomposed environment kind content lock index hard) :=
    (pass_triple (easy start)).weaken fun _ root failed =>
      ⟨before root failed.1, failed.2⟩
  refine locks.bind fun _ => inner.ensuring (fun a => ?_) fun error => ?_
  · exact (pass_triple (easy finish)).weaken fun _ root failed =>
      ⟨after a root failed.1, failed.2⟩
  · exact (pass_triple (easy finish)).weaken fun _ root failed =>
      failed.1

theorem closeAgain_triple {step : StorageStep} {error : StorageError}
    {R : α → StorageRoot Data View V2 → Prop} (same : requested = kind) :
    Triple (Uncomposed environment kind content lock index hard error)
      (do
        closeStore environment noFault step .root requested
        Action.check (.error error))
      R (Uncomposed environment kind content lock index hard) := by
  subst same
  have easy : hard → noFault step = false := fun _ => rfl
  have closes : Triple (Uncomposed environment requested content lock index hard error)
      (closeStore environment noFault step .root requested)
      (fun _ => Uncomposed environment requested content lock index hard error)
      (Uncomposed environment requested content lock index hard) := by
    unfold closeStore
    refine (workOn_triple easy fun root ⟨rooted, survived⟩ => ?_).weaken fun _ _ failed => failed.1
    exact ⟨(), _, rfl, rooted.withFiles rooted.stands.close, survived⟩
  exact closes.bind fun _ => .check (nofun) fun _ _ _ => id

theorem selectAuthority_triple (easy : ∀ step, hard → fails (.compose step) = false)
    (wanted : hard → requested = kind) :
    Triple (Rooted environment.rules kind content lock index)
      (selectAuthority environment fails requested)
      (fun initialized root => (Rooted environment.rules kind content lock index root ∧
        (initialized = true → SourceOpen environment kind content lock index root)) ∧
          requested = kind)
      (Uncomposed environment kind content lock index hard) := by
  unfold selectAuthority
  have looks : ∀ {α : Type} {step : CompositionStep} {view : StorageRoot Data View V2 → α}
      {P : StorageRoot Data View V2 → Prop}, Triple
        (fun root => Rooted environment.rules kind content lock index root ∧ P root)
        (look fails (.compose step) view)
        (fun a root => Rooted environment.rules kind content lock index root ∧ P root ∧
          a = view root)
        (Uncomposed environment kind content lock index hard) := fun {_ step _ _} =>
    (look_triple (easy step)).mono (fun _ => id)
      (fun _ _ holds => ⟨holds.1.1, holds.1.2, holds.2⟩) fun _ _ failed => ⟨failed.1.1, failed.2⟩
  refine Triple.mono (P := fun root => Rooted environment.rules kind content lock index root ∧ True)
    ?_ (fun _ rooted => ⟨rooted, trivial⟩) (fun _ _ => id) fun _ _ => id
  refine looks.bind fun journal => looks.bind fun database => ?_
  -- The backend of the root is found.
  have detects : ∀ root : StorageRoot Data View V2,
      Rooted environment.rules kind content lock index root →
      (True ∧ journal = (root.files .root).journal) ∧ database = (root.files .root).database →
      StorageFiles.detectBackendAuthorities
        { journal
          database : StorageFiles Data View } = [kind] := by
    rintro root rooted ⟨⟨_, rfl⟩, rfl⟩
    exact rooted.stands.detected
  refine Triple.mono (P := fun root => (Rooted environment.rules kind content lock index root ∧
      True) ∧ StorageFiles.detectBackendAuthorities
        { journal
          database : StorageFiles Data View } = [kind])
    (.fact fun found => ?_) (fun root holds => ⟨⟨holds.1, trivial⟩, detects root holds.1 holds.2⟩)
    (fun _ _ => id) fun _ _ => id
  simp only [found, List.head?_cons, Option.isNone_some, Bool.or_false, Option.all_some]
  refine Triple.bind (R := fun _ root => Rooted environment.rules kind content lock index root ∧
    True) (.check (fun _ _ _ holds => holds) (nofun)) fun _ => looks.bind fun existing => ?_
  -- The marker that is there, if any, names it too.
  have named : ∀ root, Rooted environment.rules kind content lock index root →
      existing = (root.files .root).marker → existing.all (· == kind) = true := by
    rintro root rooted rfl
    rw [Option.all_eq_true]
    intro other there
    simpa using rooted.stands.marker other there
  have agrees : Triple
      (fun root => Rooted environment.rules kind content lock index root ∧ True ∧
        existing = (root.files .root).marker)
      (Action.check (ensure (existing.all (· == requested) && kind == requested)
        StorageError.sessionStoreSwitchRequiresImport))
      (fun _ root => Rooted environment.rules kind content lock index root ∧ requested = kind)
      (Uncomposed environment kind content lock index hard) := by
    refine .check (fun _ root passed holds => ⟨holds.1, ?_⟩) fun _ root failed holds =>
      ⟨holds.1, fun here => ?_⟩
    · have both := ensure_eq_ok.mp passed
      rw [Bool.and_eq_true, beq_iff_eq] at both
      exact both.2.symm
    · rw [wanted here, named root holds.1 holds.2.2, beq_self_eq_true] at failed
      cases failed
  refine agrees.bind fun _ => .fact fun same => ?_
  subst same
  have opens : Triple (Rooted environment.rules requested content lock index)
      (Action.catching (initializeStore environment fails (.compose .openStore) .root requested)
        fun error => do
          closeStore environment noFault (.compose .openStore) .root requested
          Action.check (.error error))
      (fun _ => SourceOpen environment requested content lock index)
      (Uncomposed environment requested content lock index hard) :=
    Triple.catching (initializeSource_triple (easy .openStore)) fun error => closeAgain_triple rfl
  cases existing with
  | none =>
    refine opens.bind fun _ => (atomicWriteAuthority_triple (easy <| .writeMarker ·)).bind
      fun _ => .pure _ fun root opened => ⟨⟨opened.rooted, fun _ => opened⟩, rfl⟩
  | some marker => exact .pure _ fun root rooted => ⟨⟨rooted, nofun⟩, rfl⟩

theorem SourceOpen.withLeases
    (opened : SourceOpen environment kind content lock index root) (leases : List Bool) :
    SourceOpen environment kind content lock index { root with leases } :=
  ⟨⟨opened.rooted.stands, opened.rooted.lock, opened.rooted.index⟩, opened.has, opened.logged⟩

theorem createRuntimeLease_triple (easy : ∀ step, hard → fails (.compose step) = false) :
    Triple (SourceOpen environment kind content lock index) (createRuntimeLease fails)
      (fun _ => SourceOpen environment kind content lock index)
      (Uncomposed environment kind content lock index hard) := by
  have settles : ∀ (error : StorageError) root,
      SourceOpen environment kind content lock index root ∧ ¬hard →
        Uncomposed environment kind content lock index hard error root :=
    fun _ _ failed => ⟨failed.1.rooted, failed.2⟩
  unfold createRuntimeLease
  refine ((pass_triple (easy _)).weaken settles).bind fun _ => ?_
  refine ((touch_triple (easy _) fun root opened => opened.withLeases _).weaken settles).bind fun _ => ?_
  exact (touch_triple (easy _) fun root opened => opened.withLeases _).weaken settles

/-- **A composition on a standing root** opens its store only if that is the one the root has. -/
theorem compose_triple (easy : ∀ step, hard → fails (.compose step) = false)
    (wanted : hard → requested = kind) :
    Triple (Rooted environment.rules kind content false index)
      (createSessionJournalCompositionV3 environment fails requested)
      (fun _ root => SourceOpen environment kind content false index root ∧ requested = kind)
      (Uncomposed environment kind content false index hard) := by
  unfold createSessionJournalCompositionV3
  have reads : ∀ {step : CompositionStep} {P : StorageRoot Data View V2 → Prop},
      (∀ root, P root → Rooted environment.rules kind content false index root) →
      Triple P (look fails (.compose step) (·.migrationLock))
        (fun busy root => P root ∧ busy = false)
        (Uncomposed environment kind content false index hard) := fun {step _} rooted =>
    (look_triple (easy step)).mono (fun _ => id)
      (fun _ root holds => ⟨holds.1, holds.2.trans (rooted root holds.1).lock⟩)
      fun _ root failed => ⟨rooted root failed.1, failed.2⟩
  refine (reads fun _ => id).bind fun busy => .fact fun free => ?_
  subst free
  refine Triple.bind (R := fun _ => Rooted environment.rules kind content false index)
    (.check (fun _ _ _ => id) (nofun)) fun _ => ?_
  refine (withAuthorityLock_triple easy (fun _ => id) (fun _ _ holds => holds.1.1)
    (selectAuthority_triple easy wanted)).bind fun initialized => .fact fun same => ?_
  subst same
  -- The lease is made, and the lock is looked at again.
  have finishes : Triple (SourceOpen environment requested content false index)
      (do
        Action.catching
          (withAuthorityLock fails .lockLease .unlockLease (createRuntimeLease fails)) fun error => do
            closeStore environment noFault (.compose .lockLease) .root requested
            Action.check (.error error)
        let busy ← look fails (.compose .statMigrationLockAgain) (·.migrationLock)
        if busy then do
          removeLease
          closeStore environment noFault (.compose .statMigrationLockAgain) .root requested
          Action.check (.error .sessionStoreMigrationBusy))
      (fun _ root => SourceOpen environment requested content false index root ∧
        requested = requested)
      (Uncomposed environment requested content false index hard) := by
    have leased : Triple (SourceOpen environment requested content false index)
        (withAuthorityLock fails .lockLease .unlockLease (createRuntimeLease fails))
        (fun _ => SourceOpen environment requested content false index)
        (Uncomposed environment requested content false index hard) :=
      withAuthorityLock_triple easy (fun _ opened => opened.rooted)
        (fun _ _ opened => opened.rooted) (createRuntimeLease_triple easy)
    refine (leased.catching fun error => closeAgain_triple rfl).bind fun _ => ?_
    refine (reads fun _ opened => opened.rooted).bind fun busy => .fact fun free => ?_
    subst free
    exact .pure _ fun root opened => ⟨opened, rfl⟩
  cases initialized with
  | true => exact finishes.mono (fun _ holds => holds.2 rfl) (fun _ _ => id) fun _ _ => id
  | false =>
    have opens : Triple
        (fun root => Rooted environment.rules requested content false index root ∧
          (false = true → SourceOpen environment requested content false index root))
        (initializeStore environment fails (.compose .openStoreAgain) .root requested)
        (fun _ => SourceOpen environment requested content false index)
        (Uncomposed environment requested content false index hard) :=
      (initializeSource_triple (easy _)).mono (fun _ holds => holds.1) (fun _ _ => id)
        fun _ _ => id
    exact opens.bind fun _ => finishes

theorem closeComposition_triple (easy : hard → fails .closeComposition = false) :
    Triple (SourceOpen environment kind content false index)
      (closeComposition environment fails kind)
      (fun _ => Rooted environment.rules kind content false index)
      (Uncomposed environment kind content false index hard) := by
  unfold closeComposition
  have closes : Triple (SourceOpen environment kind content false index)
      (closeStore environment fails .closeComposition .root kind)
      (fun _ => Rooted environment.rules kind content false index)
      (Uncomposed environment kind content false index hard) := by
    unfold closeStore
    refine (workOn_triple easy fun root opened => ?_).weaken
      fun _ _ failed => ⟨failed.1.rooted, failed.2⟩
    exact ⟨(), _, rfl, opened.rooted.withFiles opened.rooted.stands.close⟩
  have easy' : hard → noFault (.compose .unlinkLease) = false := fun _ => rfl
  refine closes.ensuring (fun _ => ?_) fun error => ?_
  · exact touch_triple easy' fun root rooted => ⟨rooted.stands, rooted.lock, rooted.index⟩
  · refine (touch_triple easy' fun root failed => ?_).weaken fun _ _ failed => failed.1
    exact ⟨⟨failed.1.stands, failed.1.lock, failed.1.index⟩, failed.2⟩

end Praxis.Session
