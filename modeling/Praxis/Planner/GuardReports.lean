import Praxis.Planner.WorkspaceWriteGuard

/-!
# What the guard reports

A guard answers that a step succeeded exactly if the workspace was at its baseline, the run reported
its changes and no others, they lie within the grant, both verifiers passed and nothing changed
meanwhile, as far as the orders of lists allow (`execute_succeeded_iff`). Its evidence is exact in
every answer (`execute_evidences`).
-/

namespace Praxis.Planner

set_option autoImplicit false

open Praxis.Foundations
open Praxis.Session (SessionStepProjectionV3)

variable {Digest Reply σ : Type} [DecidableEq Digest]

/-- Nothing is aborted, the lease is granted, and every state of the workspace is a tree of files
that can be read and is within the bounds. -/
structure Quiet (guard : WriteGuard Digest Reply) (ports : GuardPorts σ Reply) : Prop where
  signal : ∀ state, ports.aborted state = false
  grants : ∀ state, (ports.acquireWorkspaceLock state).1 = .ok ()
  readable : ∀ state, ports.unreadable state = none
  regular : ∀ state, (ports.workspace state).Regular
  within : ∀ state, (ports.workspace state).Within guard.limits

namespace GuardPorts

variable (ports : GuardPorts σ Reply) (state : σ)

/-- Once the lease is granted. -/
def started : σ := (ports.acquireWorkspaceLock state).2

def ran : σ := (ports.run (ports.started state)).2

def examined : σ := (ports.mechanicalVerifier (ports.ran state)).2

def ended : σ := (ports.ruleVerifier (ports.examined state)).2

end GuardPorts

/-! ## What a success means -/

/-- The reported changes are the real ones, without a repeated path. -/
structure ReportedExactly (rules : DigestRules Digest) (reported : List (SubagentChangedFileV1 Digest))
    (before after : Workspace) : Prop where
  once : (reported.map (·.path)).Nodup
  same : ∀ triple, triple ∈ reported.map (·.triple) ↔
    ∃ path change, realChange rules before after path = some change ∧ change.triple = triple

def Passed (kind : VerifierKind) (answer : Except GuardError VerificationDecisionV1) : Prop :=
  ∃ decision, answer = .ok decision ∧ decision.verifier = kind ∧ decision.status = .passed

structure Succeeds (guard : WriteGuard Digest Reply) (ports : GuardPorts σ Reply)
    (step : SessionStepProjectionV3) (past : Workspace) (state : σ) (reply : Reply)
    (result : SubagentResultV1 Digest) : Prop where
  baseline : past.SameFiles (ports.workspace (ports.started state))
  replies : (ports.run (ports.started state)).1 = .ok reply
  valid : guard.validateSubagentResultV1 reply = some result
  succeeded : result.status = .succeeded
  reported : ReportedExactly guard.rules result.changedFiles
    (ports.workspace (ports.started state)) (ports.workspace (ports.ran state))
  granted : ∀ path, (ports.workspace (ports.started state)).contentAt path ≠
      (ports.workspace (ports.ran state)).contentAt path →
    isPortablePlanPathV1 path = true ∧
      ∃ grant ∈ step.access.paths, isPlanPathWithinGrantV1 path grant = true
  mechanical : Passed .mechanical (ports.mechanicalVerifier (ports.ran state)).1
  rule : Passed .rule (ports.ruleVerifier (ports.examined state)).1
  stable : (ports.workspace (ports.ran state)).SameFiles (ports.workspace (ports.ended state))

/-- The order of `localeCompare` agrees where it decides: it lists the states that are compared in
the same way, and the reported changes in the order of code units. -/
structure OrdersAgree (guard : WriteGuard Digest Reply) (ports : GuardPorts σ Reply) (past : Workspace)
    (state : σ) (result : SubagentResultV1 Digest) : Prop where
  baseline : (past.listed guard.rules).map (·.1) =
    ((ports.workspace (ports.started state)).listed guard.rules).map (·.1)
  verified : ((ports.workspace (ports.ran state)).listed guard.rules).map (·.1) =
    ((ports.workspace (ports.ended state)).listed guard.rules).map (·.1)
  reported : ((sortByPath guard.rules (·.path) result.changedFiles).map (·.path)).Pairwise
    fun left right => unitsLe left right = true

/-! ## Reported changes -/

section Reported

variable {rules : DigestRules Digest} {before after : Workspace}
  {reported : List (SubagentChangedFileV1 Digest)}
  {record : WorkspaceWriteEvidenceV1 Digest} {root : String}

omit [DecidableEq Digest] in
theorem mem_triples {triple : String × WorkspaceChangeKindV1 × Option Digest}
    (changes : ∀ change, change ∈ record.changedFiles ↔
      realChange rules before after change.path = some change) :
    triple ∈ record.changedFiles.map (·.triple) ↔
      ∃ path change, realChange rules before after path = some change ∧ change.triple = triple := by
  rw [List.mem_map]
  constructor
  · rintro ⟨change, listed, rfl⟩
    exact ⟨change.path, change, (changes change).mp listed, rfl⟩
  · rintro ⟨path, change, found, rfl⟩
    refine ⟨change, (changes change).mpr ?_, rfl⟩
    rw [realChange_path found]
    exact found

/-- **The comparison with the reported changes succeeds exactly if they are the real ones and their
order is that of code units.** -/
theorem matchesReportedChanges_iff (evidences : Evidences rules root record before after) :
    matchesReportedChanges rules record.changedFiles reported = true ↔
      ReportedExactly rules reported before after ∧
        ((sortByPath rules (·.path) reported).map (·.path)).Pairwise
          fun left right => unitsLe left right = true := by
  have sorted : (sortByPath rules (·.path) reported).Perm reported := List.perm_insertionSort _ _
  have realPaths : (record.changedFiles.map (·.triple)).map (·.1) = record.changedFiles.map (·.path) := by
    rw [List.map_map]
    rfl
  have reportedPaths : ∀ reported : List (SubagentChangedFileV1 Digest),
      (reported.map (·.triple)).map (·.1) = reported.map (·.path) := by
    intro reported
    rw [List.map_map]
    rfl
  rw [matchesReportedChanges, Bool.and_eq_true, decide_eq_true_eq, beq_iff_eq]
  constructor
  · rintro ⟨once, equal⟩
    refine ⟨⟨once, fun triple => ?_⟩, ?_⟩
    · rw [← mem_triples evidences.changes, equal]
      exact (sorted.map _).mem_iff.symm
    · rw [← reportedPaths, ← equal, realPaths]
      exact evidences.sorted
  · rintro ⟨exactly, ordered⟩
    refine ⟨exactly.once, ?_⟩
    have once : (record.changedFiles.map (·.triple)).Nodup :=
      List.Nodup.of_map (·.1) (by rw [realPaths]; exact evidences.once)
    have once' : (reported.map (·.triple)).Nodup :=
      List.Nodup.of_map (·.1) (by rw [reportedPaths]; exact exactly.once)
    have perm : (record.changedFiles.map (·.triple)).Perm (reported.map (·.triple)) := by
      refine (List.perm_ext_iff_of_nodup once once').mpr fun triple => ?_
      rw [mem_triples evidences.changes, exactly.same]
    have perm' := perm.trans (sorted.map (·.triple)).symm
    -- the paths are in one order, and each triple is that of its path
    have paths : record.changedFiles.map (·.path) =
        (sortByPath rules (·.path) reported).map (·.path) := by
      refine eq_of_unitsLe ?_ evidences.sorted ordered
      rw [← realPaths, ← reportedPaths]
      exact perm'.map _
    refine List.ext_getElem perm'.length_eq fun i here there => ?_
    have member := perm'.mem_iff.mp (List.getElem_mem here)
    refine List.inj_on_of_nodup_map (f := (·.1)) ?_ member (List.getElem_mem there) ?_
    · rw [reportedPaths]
      exact (sorted.map _).nodup_iff.mpr exactly.once
    · have same := congrArg (·[i]?) (realPaths.trans (paths.trans (reportedPaths _).symm))
      simp only [List.getElem?_map] at same
      rw [List.getElem?_eq_getElem (by simpa using here),
        List.getElem?_eq_getElem (by simpa using there)] at same
      simpa using same

end Reported

/-! ## Snapshots in a run -/

section Runs

variable {guard : WriteGuard Digest Reply} {ports : GuardPorts σ Reply}
  {step : SessionStepProjectionV3} {root : String} {state after : σ}
  {snapshot : WorkspaceSnapshotV1 Digest}

omit [DecidableEq Digest] in
theorem takeSnapshot_ok (quiet : Quiet guard ports) :
    takeSnapshot guard ports root state = (.ok snapshot, after) ↔
      (ports.workspace state).Portable ∧ snapshot = (ports.workspace state).snapshot guard.rules root ∧
        state = after := by
  have taken : takeSnapshot guard ports root state =
      (captureSnapshot guard.rules root guard.limits (ports.workspace state), state) := by
    simp only [takeSnapshot, quiet.readable state]
  rw [taken, Prod.mk.injEq, capture_ok (quiet.regular state)]
  constructor
  · rintro ⟨⟨_, portable, rfl⟩, rfl⟩
    exact ⟨portable, rfl, rfl⟩
  · rintro ⟨portable, rfl, rfl⟩
    exact ⟨⟨quiet.within _, portable, rfl⟩, rfl⟩

omit [DecidableEq Digest] in
theorem decisionOf_passed {kind : VerifierKind} {code : String}
    {answer : Except GuardError VerificationDecisionV1} :
    (decisionOf kind code answer.toOption).status = .passed ↔ Passed kind answer := by
  cases answer with
  | error error =>
    refine ⟨fun passed => (nomatch passed), ?_⟩
    rintro ⟨_, answered, _⟩
    cases answered
  | ok decision =>
    change (if decision.verifier = kind then decision else failedVerifier kind code).status = _ ↔ _
    split
    · rename_i own
      refine ⟨fun passed => ⟨decision, rfl, own, passed⟩, ?_⟩
      rintro ⟨_, answered, _, passed⟩
      obtain rfl := Except.ok.inj answered
      exact passed
    · rename_i other
      refine ⟨fun passed => (nomatch passed), ?_⟩
      rintro ⟨_, answered, own, _⟩
      obtain rfl := Except.ok.inj answered
      exact absurd own other

/-! ## From the end of a run to its start -/

variable {before current : Workspace} {result : SubagentResultV1 Digest} {reply : Option Reply}
  {outcome_ : WorkspaceWriteGuardResultV1 Digest} {mid : σ} {past : Workspace}
  {workspaceRoot : String}

section

variable (quiet : Quiet guard ports)
include quiet

theorem verified_ok (answered : verified guard ports root (before.snapshot guard.rules root)
      (current.snapshot guard.rules root) result mid = (.ok outcome_, after)) :
    let ended := (ports.ruleVerifier (ports.mechanicalVerifier mid).2).2
    (ports.workspace ended).Portable ∧
      (Evidences guard.rules root outcome_.evidence before current ∨
        Evidences guard.rules root outcome_.evidence before (ports.workspace ended)) ∧
      (outcome_.status = .succeeded ↔ ((ports.workspace ended).snapshot guard.rules root).digest =
            (current.snapshot guard.rules root).digest ∧
          Passed .mechanical (ports.mechanicalVerifier mid).1 ∧
          Passed .rule (ports.ruleVerifier (ports.mechanicalVerifier mid).2).1) := by
  intro ended
  simp only [verified, verifySafely, bind_assoc, pure_bind, Action.attempt_bind_run,
    Action.bind_eq_ok] at answered
  obtain ⟨snapshot, state, taken, answered⟩ := answered
  obtain ⟨portable, rfl, rfl⟩ := (takeSnapshot_ok quiet).mp taken
  rw [Action.pure_run, Prod.mk.injEq] at answered
  obtain ⟨answered, rfl⟩ := answered
  have answered := Except.ok.inj answered
  refine ⟨portable, ?_⟩
  split at answered
  · rename_i changed
    subst answered
    refine ⟨.inr evidence_evidences, fun passed => (nomatch passed), ?_⟩
    rintro ⟨same, _⟩
    exact absurd same changed
  · rename_i same
    split at answered
    · rename_i failed
      subst answered
      refine ⟨.inl evidence_evidences, fun passed => (nomatch passed), ?_⟩
      rintro ⟨_, mechanical, rule⟩
      rcases failed with not | not
      · exact absurd (decisionOf_passed.mpr mechanical) not
      · exact absurd (decisionOf_passed.mpr rule) not
    · rename_i passed
      rw [not_or, not_not, not_not] at passed
      subst answered
      exact ⟨.inl evidence_evidences,
        fun _ => ⟨not_not.mp same, decisionOf_passed.mp passed.1, decisionOf_passed.mp passed.2⟩,
        fun _ => rfl⟩

theorem verified_answers
    (portable : (ports.workspace (ports.ruleVerifier (ports.mechanicalVerifier mid).2).2).Portable) :
    ∃ answer after, verified guard ports root (before.snapshot guard.rules root)
      (current.snapshot guard.rules root) result mid = (.ok answer, after) := by
  have taken : takeSnapshot guard ports root (ports.ruleVerifier (ports.mechanicalVerifier mid).2).2 =
      (.ok ((ports.workspace (ports.ruleVerifier (ports.mechanicalVerifier mid).2).2).snapshot
        guard.rules root), (ports.ruleVerifier (ports.mechanicalVerifier mid).2).2) :=
    (takeSnapshot_ok quiet).mpr ⟨portable, rfl, rfl⟩
  simp only [verified, verifySafely, bind_assoc, pure_bind, Action.attempt_bind_run]
  exact ⟨_, _, Action.bind_run taken⟩

theorem judged_ok (answered : judged guard ports step root (before.snapshot guard.rules root)
      (current.snapshot guard.rules root) result mid = (.ok outcome_, after)) :
    let ended := (ports.ruleVerifier (ports.mechanicalVerifier mid).2).2
    (Evidences guard.rules root outcome_.evidence before current ∨
        Evidences guard.rules root outcome_.evidence before (ports.workspace ended)) ∧
      (outcome_.status = .succeeded →
        changesWithinGrant step (evidence (before.snapshot guard.rules root)
          (current.snapshot guard.rules root)).changedFiles = true ∧
        matchesReportedChanges guard.rules (evidence (before.snapshot guard.rules root)
          (current.snapshot guard.rules root)).changedFiles result.changedFiles = true ∧
        result.status = .succeeded ∧
        verified guard ports root (before.snapshot guard.rules root)
          (current.snapshot guard.rules root) result mid = (.ok outcome_, after)) := by
  intro ended
  simp only [judged, Action.reading_bind_run, quiet.signal, Bool.false_eq_true, if_false] at answered
  have stops : ∀ code, (pure (outcome .blocked code (evidence (before.snapshot guard.rules root)
        (current.snapshot guard.rules root)) [] (some result)) :
          Action GuardError σ (WorkspaceWriteGuardResultV1 Digest)) mid = (.ok outcome_, after) →
      Evidences guard.rules root outcome_.evidence before current ∧
        outcome_.status ≠ .succeeded := by
    intro code stopped
    rw [Action.pure_run, Prod.mk.injEq, Except.ok.injEq] at stopped
    obtain ⟨rfl, _⟩ := stopped
    exact ⟨evidence_evidences, fun passed => nomatch passed⟩
  split at answered
  · obtain ⟨evidences, not⟩ := stops _ answered
    exact ⟨.inl evidences, fun passed => absurd passed not⟩
  · rename_i within
    split at answered
    · obtain ⟨evidences, not⟩ := stops _ answered
      exact ⟨.inl evidences, fun passed => absurd passed not⟩
    · rename_i matches_
      split at answered
      · obtain ⟨evidences, not⟩ := stops _ answered
        exact ⟨.inl evidences, fun passed => absurd passed not⟩
      · rename_i succeeded
        refine ⟨(verified_ok quiet answered).2.1, fun _ => ⟨?_, ?_, not_not.mp succeeded, answered⟩⟩
        · simpa using within
        · simpa using matches_

theorem judged_succeeds
    (within : changesWithinGrant step (evidence (before.snapshot guard.rules root)
      (current.snapshot guard.rules root)).changedFiles = true)
    (same : matchesReportedChanges guard.rules (evidence (before.snapshot guard.rules root)
      (current.snapshot guard.rules root)).changedFiles result.changedFiles = true)
    (succeeded : result.status = .succeeded) :
    judged guard ports step root (before.snapshot guard.rules root)
        (current.snapshot guard.rules root) result mid =
      verified guard ports root (before.snapshot guard.rules root)
        (current.snapshot guard.rules root) result mid := by
  simp only [judged, Action.reading_bind_run, quiet.signal, Bool.false_eq_true, if_false, within,
    same, Bool.not_true, succeeded, ne_eq, not_true_eq_false]

theorem leased_ok {start : σ}
    (answered : leased guard ports step root (past.snapshot guard.rules root) start =
      (.ok outcome_, after)) :
    let before := ports.workspace start
    let mid := (ports.run start).2
    let ended := (ports.ruleVerifier (ports.mechanicalVerifier mid).2).2
    before.Portable ∧
      (Evidences guard.rules root outcome_.evidence past before ∨
        Evidences guard.rules root outcome_.evidence before (ports.workspace mid) ∨
        Evidences guard.rules root outcome_.evidence before (ports.workspace ended)) ∧
      (outcome_.status = .succeeded →
        (before.snapshot guard.rules root).digest = (past.snapshot guard.rules root).digest ∧
        (ports.workspace mid).Portable ∧
        ∃ reply result, (ports.run start).1 = .ok reply ∧
          guard.validateSubagentResultV1 reply = some result ∧
          judged guard ports step root (before.snapshot guard.rules root)
            ((ports.workspace mid).snapshot guard.rules root) result mid = (.ok outcome_, after)) := by
  intro before mid ended
  simp only [leased, Action.reading_bind_run, quiet.signal, Bool.false_eq_true, if_false,
    Action.bind_eq_ok] at answered
  obtain ⟨snapshot, state, taken, answered⟩ := answered
  obtain ⟨portable, rfl, rfl⟩ := (takeSnapshot_ok quiet).mp taken
  refine ⟨portable, ?_⟩
  split at answered
  · rw [Action.pure_run, Prod.mk.injEq, Except.ok.injEq] at answered
    obtain ⟨rfl, _⟩ := answered
    exact ⟨.inl evidence_evidences, by rintro ⟨⟩⟩
  · rename_i same
    rw [Action.attempt_bind_run, Action.bind_eq_ok] at answered
    obtain ⟨snapshot, state, taken', answered⟩ := answered
    obtain ⟨portable', rfl, rfl⟩ := (takeSnapshot_ok quiet).mp taken'
    cases run : (ports.run start).1 with
    | error error =>
      rw [run] at answered
      simp only [Except.toOption, replied, Action.pure_run, Prod.mk.injEq, Except.ok.injEq]
        at answered
      obtain ⟨rfl, _⟩ := answered
      exact ⟨.inr (.inl evidence_evidences), by rintro ⟨⟩⟩
    | ok reply =>
      rw [run] at answered
      cases valid : guard.validateSubagentResultV1 reply with
      | none =>
        simp only [Except.toOption, replied, valid, Action.pure_run, Prod.mk.injEq,
          Except.ok.injEq] at answered
        obtain ⟨rfl, _⟩ := answered
        exact ⟨.inr (.inl evidence_evidences), by rintro ⟨⟩⟩
      | some result =>
        simp only [Except.toOption, replied, valid] at answered
        exact ⟨.inr (judged_ok quiet answered).1, fun _ => ⟨not_not.mp same, portable', reply,
          result, rfl, valid, answered⟩⟩

end

/-! ## The whole guard -/

theorem validateRoot_again {view : RootView} {input : String}
    (valid : validateRoot view input = .ok root) : validateRoot view root = .ok root := by
  simp only [validateRoot, bind_eq_ok, ensure_eq_ok, exists_const, orError_eq_ok, pure_eq_ok,
    beq_iff_eq] at valid ⊢
  obtain ⟨_, directory, canonical, real, same, rfl⟩ := valid
  rw [same]
  exact ⟨view.absolute _ _ real, directory, canonical, real, same, rfl⟩

/-- A baseline that was captured passes the checks of a run. -/
theorem validateSnapshot_captured (portable : past.Portable) (within : past.Within guard.limits) :
    validateSnapshot guard.rules (past.snapshot guard.rules root) root =
      .ok (past.snapshot guard.rules root) := by
  have perm : (past.listed guard.rules).Perm past.files := past.listed_perm
  have files : (past.snapshot guard.rules root).files =
      (past.listed guard.rules).map (snapshotFile guard.rules) := rfl
  have count : (past.snapshot guard.rules root).files.length ≤ maximumFiles := by
    rw [files, List.length_map, perm.length_eq]
    exact within.files.trans guard.bounded.1
  have each : (past.snapshot guard.rules root).files.all validSnapshotFile = true := by
    rw [files, List.all_eq_true]
    intro file member
    obtain ⟨source, listed, rfl⟩ := List.mem_map.mp member
    have inside := perm.mem_iff.mp listed
    have small : source.2.length ≤ maxSafeInteger := by
      have least := List.le_sum_of_mem (List.mem_map_of_mem (f := (·.2.length)) inside)
      have most := within.bytes.trans guard.bounded.2
      rw [maximumBytes] at most
      rw [maxSafeInteger]
      omega
    have path := portable source inside
    rw [Bool.and_eq_true] at path
    simp [validSnapshotFile, snapshotFile, path.1, small, Workspace.path_ne_root inside]
  have once : ((past.snapshot guard.rules root).files.map (·.path)).Nodup := by
    rw [files, List.map_map]
    exact past.listed_nodup
  simp only [validateSnapshot, bind_eq_ok, ensure_eq_ok, exists_const, pure_eq_ok, Bool.and_eq_true,
    beq_iff_eq, decide_eq_true_eq]
  exact ⟨⟨rfl, count⟩, each, ⟨once, rfl⟩, rfl⟩

omit [DecidableEq Digest] in
theorem capture_baseline {baseline : WorkspaceSnapshotV1 Digest} (regular : past.Regular)
    (captured : capture guard step workspaceRoot past = .ok baseline) :
    ∃ root, validateRoot guard.view workspaceRoot = .ok root ∧ validateWriteStep step = .ok () ∧
      past.Within guard.limits ∧ past.Portable ∧ baseline = past.snapshot guard.rules root := by
  simp only [capture, bind_eq_ok] at captured
  obtain ⟨root, valid, _, writes, taken⟩ := captured
  obtain ⟨within, portable, rfl⟩ := (capture_ok regular).mp taken
  exact ⟨root, valid, writes, within, portable, rfl⟩

/-- A run from a baseline that was captured comes to the lease. -/
theorem execute_eq (quiet : Quiet guard ports)
    (valid : validateRoot guard.view workspaceRoot = .ok root)
    (writes : validateWriteStep step = .ok ()) (within : past.Within guard.limits)
    (portable : past.Portable) :
    execute guard ports step workspaceRoot (past.snapshot guard.rules root) state =
      leased guard ports step root (past.snapshot guard.rules root) (ports.started state) := by
  have lease : ports.acquireWorkspaceLock state = (.ok (), ports.started state) :=
    Prod.ext (quiet.grants state) rfl
  rw [execute, Action.check_bind_run valid, Action.check_bind_run writes,
    Action.check_bind_run (validateSnapshot_captured portable within), Action.reading_bind_run,
    quiet.signal, if_neg Bool.false_ne_true, Action.check_bind_run (validateRoot_again valid),
    Action.bind_run lease]

omit [DecidableEq Digest] in
theorem changesWithinGrant_iff {record : WorkspaceWriteEvidenceV1 Digest} {before after : Workspace}
    (changes : ∀ change, change ∈ record.changedFiles ↔
      realChange guard.rules before after change.path = some change) :
    changesWithinGrant step record.changedFiles = true ↔
      ∀ path, before.contentAt path ≠ after.contentAt path → isPortablePlanPathV1 path = true ∧
        ∃ grant ∈ step.access.paths, isPlanPathWithinGrantV1 path grant = true := by
  simp only [changesWithinGrant, List.all_eq_true, Bool.and_eq_true, List.any_eq_true]
  constructor
  · intro granted path different
    have changed : (realChange guard.rules before after path).isSome = true :=
      realChange_isSome.mpr different
    obtain ⟨change, found⟩ := Option.isSome_iff_exists.mp changed
    have named := realChange_path found
    have each := granted change ((changes change).mpr (by rw [named]; exact found))
    rw [named] at each
    exact each
  · intro granted change listed
    have changed : (realChange guard.rules before after change.path).isSome = true := by
      rw [(changes change).mp listed]
      rfl
    exact granted change.path (realChange_isSome.mp changed)

theorem portable_of_granted {before after : Workspace} (portable : before.Portable)
    (granted : ∀ path, before.contentAt path ≠ after.contentAt path →
      isPortablePlanPathV1 path = true) : after.Portable := by
  intro file listed
  have proper := Workspace.path_ne_root listed
  by_cases same : before.contentAt file.1 = after.contentAt file.1
  · have content := Workspace.contentAt_eq_some.mpr (show (file.1, file.2) ∈ after.files from listed)
    rw [← same] at content
    exact portable _ (Workspace.contentAt_eq_some.mp content)
  · rw [Bool.and_eq_true]
    exact ⟨granted file.1 same, by simpa using proper⟩

theorem portable_of_same {before after : Workspace} (portable : before.Portable)
    (same : before.SameFiles after) : after.Portable :=
  fun file listed => portable file ((Workspace.mem_files_iff same file).mpr listed)

variable (guard ports step) in
/-- The states that an answer may name are two of the baseline, the start, the end of the run and
the end of the verifiers. -/
def Named (past : Workspace) (state : σ) (before after : Workspace) : Prop :=
  (before = past ∧ after = ports.workspace (ports.started state)) ∨
    (before = ports.workspace (ports.started state) ∧
      (after = ports.workspace (ports.ran state) ∨ after = ports.workspace (ports.ended state)))

section Captured

variable {past : Workspace} {workspaceRoot : String} {baseline : WorkspaceSnapshotV1 Digest}

/-- **The evidence of every answer is exact.** -/
theorem execute_evidences (quiet : Quiet guard ports) (regular : past.Regular)
    (captured : capture guard step workspaceRoot past = .ok baseline)
    (answered : execute guard ports step workspaceRoot baseline state = (.ok outcome_, after)) :
    ∃ root before current, Named ports past state before current ∧
      Evidences guard.rules root outcome_.evidence before current := by
  obtain ⟨root, valid, writes, within, portable, rfl⟩ := capture_baseline regular captured
  rw [execute_eq quiet valid writes within portable] at answered
  obtain ⟨_, evidences, _⟩ := leased_ok quiet answered
  rcases evidences with first | second | third
  · exact ⟨root, _, _, .inl ⟨rfl, rfl⟩, first⟩
  · exact ⟨root, _, _, .inr ⟨rfl, .inl rfl⟩, second⟩
  · exact ⟨root, _, _, .inr ⟨rfl, .inr rfl⟩, third⟩

/-- **The guard answers that the step succeeded exactly if it did and the orders agree.** -/
theorem execute_succeeded_iff (quiet : Quiet guard ports) (regular : past.Regular)
    (captured : capture guard step workspaceRoot past = .ok baseline) :
    (∃ answer after, execute guard ports step workspaceRoot baseline state = (.ok answer, after) ∧
        answer.status = .succeeded) ↔
      ∃ reply result, Succeeds guard ports step past state reply result ∧
        OrdersAgree guard ports past state result := by
  obtain ⟨root, valid, writes, within, portable, rfl⟩ := capture_baseline regular captured
  rw [execute_eq quiet valid writes within portable]
  constructor
  · rintro ⟨answer, after, answered, passed⟩
    obtain ⟨start, _, success⟩ := leased_ok quiet answered
    obtain ⟨unchanged, mid, reply, result, replies, accepted, judged_⟩ := success passed
    obtain ⟨granted, reported, succeeded, verified_⟩ := (judged_ok quiet judged_).2 passed
    obtain ⟨ended, _, decided⟩ := verified_ok quiet verified_
    obtain ⟨stable, mechanical, rule⟩ := decided.mp passed
    have evidences : Evidences guard.rules root
        (evidence ((ports.workspace (ports.started state)).snapshot guard.rules root)
          ((ports.workspace (ports.ran state)).snapshot guard.rules root))
        (ports.workspace (ports.started state)) (ports.workspace (ports.ran state)) :=
      evidence_evidences
    obtain ⟨exactly, ordered⟩ := (matchesReportedChanges_iff evidences).mp reported
    obtain ⟨same, listing⟩ := (Workspace.digest_eq_iff start portable).mp unchanged
    obtain ⟨same', listing'⟩ := (Workspace.digest_eq_iff ended mid).mp stable
    exact ⟨reply, result,
      { baseline := same.symm
        replies := replies
        valid := accepted
        succeeded := succeeded
        reported := exactly
        granted := (changesWithinGrant_iff evidences.changes).mp granted
        mechanical := mechanical
        rule := rule
        stable := same'.symm },
      { baseline := listing.symm
        verified := listing'.symm
        reported := ordered }⟩
  · rintro ⟨reply, result, succeeds, orders⟩
    have start := portable_of_same portable succeeds.baseline
    have mid := portable_of_granted start fun path different => (succeeds.granted path different).1
    have ended := portable_of_same mid succeeds.stable
    have evidences : Evidences guard.rules root
        (evidence ((ports.workspace (ports.started state)).snapshot guard.rules root)
          ((ports.workspace (ports.ran state)).snapshot guard.rules root))
        (ports.workspace (ports.started state)) (ports.workspace (ports.ran state)) :=
      evidence_evidences
    have unchanged : ((ports.workspace (ports.started state)).snapshot guard.rules root).digest =
        (past.snapshot guard.rules root).digest :=
      (Workspace.digest_eq_iff start portable).mpr ⟨succeeds.baseline.symm, orders.baseline.symm⟩
    have stable : ((ports.workspace (ports.ended state)).snapshot guard.rules root).digest =
        ((ports.workspace (ports.ran state)).snapshot guard.rules root).digest :=
      (Workspace.digest_eq_iff ended mid).mpr ⟨succeeds.stable.symm, orders.verified.symm⟩
    have granted := (changesWithinGrant_iff evidences.changes).mpr succeeds.granted
    have reported := (matchesReportedChanges_iff evidences).mpr ⟨succeeds.reported, orders.reported⟩
    have answers : ∃ answer after, verified guard ports root
        ((ports.workspace (ports.started state)).snapshot guard.rules root)
        ((ports.workspace (ports.ran state)).snapshot guard.rules root) result (ports.ran state) =
          (.ok answer, after) := verified_answers quiet ended
    obtain ⟨answer, after, answered⟩ := answers
    refine ⟨answer, after, ?_, (verified_ok quiet answered).2.2.mpr
      ⟨stable, succeeds.mechanical, succeeds.rule⟩⟩
    have first : takeSnapshot guard ports root (ports.started state) = (.ok
        ((ports.workspace (ports.started state)).snapshot guard.rules root), ports.started state) :=
      (takeSnapshot_ok quiet).mpr ⟨start, rfl, rfl⟩
    have second : takeSnapshot guard ports root (ports.run (ports.started state)).2 = (.ok
        ((ports.workspace (ports.ran state)).snapshot guard.rules root), ports.ran state) :=
      (takeSnapshot_ok quiet).mpr ⟨mid, rfl, rfl⟩
    rw [leased, Action.reading_bind_run, quiet.signal, if_neg Bool.false_ne_true,
      Action.bind_run first, if_neg (not_not.mpr unchanged), Action.attempt_bind_run,
      succeeds.replies, Action.bind_run second]
    simp only [Except.toOption, replied, succeeds.valid]
    rw [judged_succeeds quiet granted reported succeeds.succeeded]
    exact answered

end Captured

end Runs

/-- The guard reports exactly what happened. -/
structure Truthful (guard : WriteGuard Digest Reply) (ports : GuardPorts σ Reply)
    (step : SessionStepProjectionV3) (past : Workspace) (workspaceRoot : String)
    (baseline : WorkspaceSnapshotV1 Digest) (state : σ) : Prop where
  succeeds : (∃ answer after, execute guard ports step workspaceRoot baseline state =
      (.ok answer, after) ∧ answer.status = .succeeded) ↔
    ∃ reply result, Succeeds guard ports step past state reply result
  evidence : ∀ answer after, execute guard ports step workspaceRoot baseline state =
      (.ok answer, after) → ∃ root before current, Named ports past state before current ∧
        Evidences guard.rules root answer.evidence before current

/-- **A guard reports exactly what happened, if and only if the orders agree wherever a step
succeeds.** -/
theorem guard_reports_iff (guard : WriteGuard Digest Reply) (ports : GuardPorts σ Reply)
    (step : SessionStepProjectionV3) (past : Workspace) (workspaceRoot : String)
    (baseline : WorkspaceSnapshotV1 Digest) (state : σ) (quiet : Quiet guard ports)
    (regular : past.Regular) (captured : capture guard step workspaceRoot past = .ok baseline) :
    Truthful guard ports step past workspaceRoot baseline state ↔
      ∀ reply result, Succeeds guard ports step past state reply result →
        OrdersAgree guard ports past state result := by
  constructor
  · intro truthful reply result succeeds
    obtain ⟨reply', result', succeeds', orders⟩ :=
      (execute_succeeded_iff quiet regular captured).mp (truthful.succeeds.mpr ⟨reply, result, succeeds⟩)
    obtain rfl := ok_unique succeeds.replies succeeds'.replies
    obtain rfl := Option.mem_unique succeeds.valid succeeds'.valid
    exact orders
  · intro agree
    refine ⟨?_, fun answer after answered => execute_evidences quiet regular captured answered⟩
    rw [execute_succeeded_iff quiet regular captured]
    constructor
    · rintro ⟨reply, result, succeeds, _⟩
      exact ⟨reply, result, succeeds⟩
    · rintro ⟨reply, result, succeeds⟩
      exact ⟨reply, result, succeeds, agree reply result succeeds⟩

/-! ## Notes in capitals -/

def byteChar (byte : UInt8) : Char := Char.ofNat (byte.toNat + 256)

theorem toNat_byteChar (byte : UInt8) : (byteChar byte).toNat = byte.toNat + 256 := by
  have small := byte.toNat_lt
  have valid : (byte.toNat + 256).isValidChar := .inl (by omega)
  rw [byteChar, Char.ofNat, dif_pos valid]
  rfl

/-- Rules under which a content is its own digest and texts are compared without their case. -/
def noteRules : DigestRules Bytes where
  digest := id
  digest_injective := Function.injective_id
  text digest := String.ofList (digest.map byteChar)
  text_injective := by
    intro left right same
    refine List.map_injective_iff.mpr ?_ (String.ofList_injective same)
    intro byte other equal
    have code := congrArg Char.toNat equal
    rw [toNat_byteChar, toNat_byteChar] at code
    exact UInt8.toNat_inj.mp (by omega)
  text_plain := by
    intro digest c member
    rw [String.toList_ofList, List.mem_map] at member
    obtain ⟨byte, _, rfl⟩ := member
    rw [toNat_byteChar]
    omega
  localeCompare left right := compare (toLowerCase left) (toLowerCase right)

def noteGuard : WriteGuard Bytes (SubagentResultV1 Bytes) where
  rules := noteRules
  limits :=
    { maxFiles := 16
      maxBytes := 1024 }
  bounded := by decide
  validateSubagentResultV1 := some
  view :=
    { isDirectory := (· == "/work")
      realpath := fun path => if path = "/work" then some "/work" else none
      absolute := by
        intro path real found
        split at found
        · rw [← Option.some.inj found]
          decide +kernel
        · cases found }

/-- A step that may write the whole workspace. -/
def noteStep : SessionStepProjectionV3 where
  stepId := "step-1"
  title := "Write notes."
  order := 0
  dependencies := []
  access :=
    { mode := .workspaceWrite
      paths := ["."] }
  capabilities := []
  conflictKeys := ["workspace"]
  criteria := []
  budget :=
    { maxTurns := 1
      maxToolCalls := 1
      maxChildRuns := 0
      maxParallelChildren := 0
      maxDepth := 0 }
  maxAttempts := 1
  state := .running
  attemptIds := []
  errorCode := none
  attempts := []

def emptyWorkspace : Workspace where
  entries := []
  wellNamed := trivial

def note (name : String) : String × FileNode Bytes := (name, .file [33])

theorem note_name {name : String} (single : name.toList.contains '/' = false)
    (proper : ["", ".", ".."].contains name = false) : FileNode.Name name where
  single := by simpa using single
  proper := by simpa [not_or] using proper

/-- Two notes, listed in the order in which they were written. -/
def notes (first second : String) (different : first ≠ second) (name : FileNode.Name first)
    (name' : FileNode.Name second) : Workspace where
  entries := [note first, note second]
  wellNamed := ⟨name, by simpa [note] using different.symm, trivial, name', by simp, trivial, trivial⟩

/-- A run that writes two notes and reports them, from the empty workspace. The verifiers pass. -/
def notePorts (written : Workspace) (names : List String) : GuardPorts Bool (SubagentResultV1 Bytes) where
  workspace ran := if ran then written else emptyWorkspace
  unreadable _ := none
  aborted _ := false
  acquireWorkspaceLock ran := (.ok (), ran)
  run _ := (.ok
    { status := .succeeded
      changedFiles := names.map fun name =>
        { path := name
          change := .created
          digest := some [33] } }, true)
  mechanicalVerifier ran := (.ok
    { verifier := .mechanical
      status := .passed
      code := "CHECKED" }, ran)
  ruleVerifier ran := (.ok
    { verifier := .rule
      status := .passed
      code := "CHECKED" }, ran)

def smallNotes : Workspace :=
  notes "a" "b" (by decide) (note_name (by decide) (by decide)) (note_name (by decide) (by decide))

def capitalNotes : Workspace :=
  notes "a" "B" (by decide) (note_name (by decide) (by decide)) (note_name (by decide) (by decide))

theorem notes_quiet (written : Workspace) (names : List String) (regular : written.Regular)
    (within : written.Within noteGuard.limits) : Quiet noteGuard (notePorts written names) where
  signal := fun _ => rfl
  grants := fun _ => rfl
  readable := fun _ => rfl
  regular := by
    intro ran
    cases ran
    · trivial
    · exact regular
  within := by
    intro ran
    cases ran
    · exact ⟨Nat.zero_le _, Nat.zero_le _⟩
    · exact within

theorem notes_captured : capture noteGuard noteStep "/work" emptyWorkspace =
    .ok (emptyWorkspace.snapshot noteRules "/work") := by decide +kernel

theorem emptyWorkspace_regular : emptyWorkspace.Regular := trivial

theorem small_notes_reported :
    Truthful noteGuard (notePorts smallNotes ["a", "b"]) noteStep emptyWorkspace "/work"
      (emptyWorkspace.snapshot noteRules "/work") false := by
  refine (guard_reports_iff _ _ _ _ _ _ _ (notes_quiet _ _ ?_ ⟨?_, ?_⟩)
    emptyWorkspace_regular notes_captured).mpr ?_
  · exact ⟨trivial, trivial, trivial⟩
  · decide +kernel
  · decide +kernel
  · intro reply result succeeds
    obtain rfl := Except.ok.inj succeeds.replies
    obtain rfl := Option.some.inj succeeds.valid
    exact ⟨rfl, rfl, by decide +kernel⟩

/-- The creation of a note. -/
def created (name : String) : WorkspaceChangedFileV1 Bytes where
  path := name
  change := .created
  afterDigest := some [33]

theorem capital_changes :
    (evidence (emptyWorkspace.snapshot noteRules "/work")
      (capitalNotes.snapshot noteRules "/work")).changedFiles = [created "B", created "a"] := by
  have sorted : sortTexts (((emptyWorkspace.listed noteRules).map (·.1) ++
      (capitalNotes.listed noteRules).map (·.1)).dedup) = ["B", "a"] :=
    sortTexts_eq (by decide +kernel) (by decide +kernel)
  rw [evidence_changes, sorted]
  decide +kernel

/-- The run reports both notes, and no other change. -/
theorem capital_notes_succeed :
    ∃ reply result, Succeeds noteGuard (notePorts capitalNotes ["a", "B"]) noteStep emptyWorkspace
      false reply result := by
  have evidences : Evidences noteGuard.rules "/work" (evidence
      (emptyWorkspace.snapshot noteRules "/work") (capitalNotes.snapshot noteRules "/work"))
      emptyWorkspace capitalNotes := evidence_evidences
  have reported : ReportedExactly noteGuard.rules (["a", "B"].map fun name =>
      { path := name
        change := .created
        digest := some [33] }) emptyWorkspace capitalNotes := by
    refine ⟨by decide, fun triple => ?_⟩
    rw [← mem_triples evidences.changes, capital_changes]
    simp only [List.map_cons, List.map_nil, SubagentChangedFileV1.triple,
      WorkspaceChangedFileV1.triple, created, List.mem_cons, List.not_mem_nil, or_false]
    exact or_comm
  have granted : ∀ path, emptyWorkspace.contentAt path ≠ capitalNotes.contentAt path →
      isPortablePlanPathV1 path = true ∧
        ∃ grant ∈ noteStep.access.paths, isPlanPathWithinGrantV1 path grant = true := by
    refine (changesWithinGrant_iff evidences.changes).mp ?_
    rw [capital_changes]
    decide +kernel
  exact ⟨_, _,
    { baseline := fun _ => rfl
      replies := rfl
      valid := rfl
      succeeded := rfl
      reported := reported
      granted := granted
      mechanical := ⟨_, rfl, rfl, rfl⟩
      rule := ⟨_, rfl, rfl, rfl⟩
      stable := fun _ => rfl }⟩

theorem capital_first :
    ¬ Truthful noteGuard (notePorts capitalNotes ["a", "B"]) noteStep emptyWorkspace "/work"
      (emptyWorkspace.snapshot noteRules "/work") false := by
  intro truthful
  have quiet : Quiet noteGuard (notePorts capitalNotes ["a", "B"]) :=
    notes_quiet _ _ ⟨trivial, trivial, trivial⟩ ⟨by decide +kernel, by decide +kernel⟩
  obtain ⟨reply, result, succeeds, orders⟩ :=
    (execute_succeeded_iff quiet emptyWorkspace_regular notes_captured).mp
      (truthful.succeeds.mpr capital_notes_succeed)
  obtain rfl := Except.ok.inj succeeds.replies
  obtain rfl := Option.some.inj succeeds.valid
  exact absurd orders.reported (by decide +kernel)

end Praxis.Planner
