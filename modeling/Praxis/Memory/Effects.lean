import Praxis.Memory.Service

/-!
# What the operations of the memory service leave

Every operation keeps the blocked sessions and the exposures. A memory stays as it is, unless it is
forgotten, and then the sessions that were shown it are blocked, or replaced by an upsert that found
it under its owner and key (`Evolves`).
-/

namespace Praxis.Memory

set_option autoImplicit false

open Praxis.Foundations

variable {Digest : Type}

/-- The project was switched off, or its access to the memories of the user was withdrawn. -/
def switched (before after : MemoryStore Digest) (projectId : String) : Bool :=
  (before.projects.get? projectId).any fun previous =>
    (after.projects.get? projectId).any fun project =>
      (previous.mode != .off && project.mode == .off) ||
        (previous.userAccess && !project.userAccess)

/-- What an operation does to what sessions were shown. A row of the first kind may be replaced. -/
structure Evolves (Replaced : MemoryRow → Prop) (before after : MemoryStore Digest) : Prop where
  blocked : before.blockedSessions ⊆ after.blockedSessions
  exposed : ∀ exposure, before.exposures.contains exposure = true →
    after.exposures.contains exposure = true
  rows : ∀ id row, before.memories.get? id = some row →
    after.memories.get? id = some row ∨ (Replaced row ∧ after.memories.contains id = true) ∨
      ∀ exposure, before.exposures.contains exposure = true → exposure.memoryId = id →
        exposure.sessionId ∈ after.blockedSessions
  withdrawn : ∀ exposure, before.exposures.contains exposure = true →
    switched before after exposure.projectId = true →
      exposure.sessionId ∈ after.blockedSessions

section

variable {before middle after : MemoryStore Digest}

theorem switched_congr (projects : middle.projects = before.projects) (projectId : String) :
    switched before after projectId = switched middle after projectId := by
  rw [switched, switched, projects]

theorem switched_of_kept (kept : ∀ id known, before.projects.get? id = some known →
    after.projects.get? id = some known) (projectId : String) :
    switched before after projectId = false := by
  cases found : before.projects.get? projectId with
  | none => simp [switched, found]
  | some project =>
    have there := kept projectId project found
    cases access : project.userAccess <;> simp [switched, found, there, access]

theorem not_switched {projectId : String} (projects : after.projects = before.projects) :
    ¬ switched before after projectId = true := by
  rw [switched_of_kept (fun _ _ found => projects ▸ found)]
  exact Bool.false_ne_true

end

namespace Evolves

variable {Replaced : MemoryRow → Prop} {before middle after : MemoryStore Digest}

theorem refl (store : MemoryStore Digest) : Evolves Replaced store store where
  blocked := List.Subset.refl _
  exposed := fun _ shown => shown
  rows := fun _ _ found => .inl found
  withdrawn := fun _ _ withdrawn => absurd withdrawn (not_switched rfl)

theorem trans (projects : middle.projects = before.projects)
    (first : Evolves Replaced before middle) (second : Evolves Replaced middle after) :
    Evolves Replaced before after where
  blocked := List.Subset.trans first.blocked second.blocked
  exposed := fun exposure shown => second.exposed exposure (first.exposed exposure shown)
  rows := by
    intro id row found
    have next : ∀ row', middle.memories.get? id = some row' →
        after.memories.contains id = true ∨
          ∀ exposure, before.exposures.contains exposure = true → exposure.memoryId = id →
            exposure.sessionId ∈ after.blockedSessions := by
      intro row' there
      rcases second.rows id row' there with kept | ⟨_, present⟩ | closed
      · exact .inl (Table.contains_iff _ |>.mpr ⟨row', kept⟩)
      · exact .inl present
      · exact .inr fun exposure shown same => closed exposure (first.exposed exposure shown) same
    rcases first.rows id row found with kept | ⟨replaced, present⟩ | closed
    · rcases second.rows id row kept with kept | replaced | closed
      · exact .inl kept
      · exact .inr (.inl replaced)
      · refine .inr (.inr fun exposure shown same => ?_)
        exact closed exposure (first.exposed exposure shown) same
    · obtain ⟨row', there⟩ := (Table.contains_iff _).mp present
      rcases next row' there with present | closed
      · exact .inr (.inl ⟨replaced, present⟩)
      · exact .inr (.inr closed)
    · exact .inr (.inr fun exposure shown same => second.blocked (closed exposure shown same))
  withdrawn := by
    intro exposure shown withdrawn
    rw [switched_congr projects] at withdrawn
    exact second.withdrawn exposure (first.exposed exposure shown) withdrawn

theorem of_kept (blocked : before.blockedSessions ⊆ after.blockedSessions)
    (exposed : ∀ exposure, before.exposures.contains exposure = true →
      after.exposures.contains exposure = true)
    (memories : ∀ id row, before.memories.get? id = some row → after.memories.get? id = some row)
    (projects : ∀ id known, before.projects.get? id = some known →
      after.projects.get? id = some known) : Evolves Replaced before after where
  blocked := blocked
  exposed := exposed
  rows := fun id row found => .inl (memories id row found)
  withdrawn := by
    intro exposure _ withdrawn
    rw [switched_of_kept projects] at withdrawn
    cases withdrawn

end Evolves

/-! ## Sessions -/

namespace MemoryStore

variable {store after : MemoryStore Digest} {sessionId : String} {now : Int}

@[simp] theorem mem_block {sessions : List String} :
    sessionId ∈ (store.block sessions).blockedSessions ↔
      sessionId ∈ store.blockedSessions ∨ sessionId ∈ sessions := by
  have fold : ∀ (sessions blocked : List String),
      sessionId ∈ sessions.foldl (fun blocked session =>
        if blocked.contains session then blocked else blocked ++ [session]) blocked ↔
        sessionId ∈ blocked ∨ sessionId ∈ sessions := by
    intro sessions
    induction sessions with
    | nil => simp
    | cons session rest ih =>
      intro blocked
      rw [List.foldl_cons, ih, List.mem_cons]
      by_cases there : blocked.contains session = true
      · rw [if_pos there]
        have member := List.contains_iff_mem.mp there
        constructor
        · rintro (old | later)
          · exact .inl old
          · exact .inr (.inr later)
        · rintro (old | rfl | later)
          · exact .inl old
          · exact .inl member
          · exact .inr later
      · rw [if_neg there, List.mem_append, List.mem_singleton, or_assoc]
  exact fold sessions store.blockedSessions

variable {exposure : MemoryExposure} {exposures : Table MemoryExposure Int}
  {record : LongTermMemoryV1} {project : MemoryProjectV1} {child parent projectId : String}
  {Replaced : MemoryRow → Prop} {access : MemoryAccessV1} {scope : MemoryScopeV1}
  {records : List LongTermMemoryV1}

theorem mem_exposed :
    exposure ∈ store.exposures.rows.map (·.1) ↔ store.exposures.contains exposure = true := by
  rw [Table.contains_iff, List.mem_map]
  constructor
  · rintro ⟨row, member, rfl⟩
    exact ⟨row.2, store.exposures.mem_rows_iff.mp member⟩
  · rintro ⟨revision, found⟩
    exact ⟨_, store.exposures.mem_rows_iff.mpr found, rfl⟩

theorem mem_sessionsOf {shown : MemoryExposure → Bool} :
    sessionId ∈ store.sessionsOf shown ↔ ∃ exposure, store.exposures.contains exposure = true ∧
      shown exposure = true ∧ exposure.sessionId = sessionId := by
  simp only [sessionsOf, List.mem_map, List.mem_filter]
  constructor
  · rintro ⟨exposure, ⟨member, passes⟩, same⟩
    exact ⟨exposure, mem_exposed.mp (List.mem_map.mpr member), passes, same⟩
  · rintro ⟨exposure, shown, passes, same⟩
    exact ⟨exposure, ⟨List.mem_map.mp (mem_exposed.mpr shown), passes⟩, same⟩

theorem showsExpired_iff :
    store.showsExpired now sessionId = true ↔
      ∃ exposure row expires, store.exposures.contains exposure = true ∧
        exposure.sessionId = sessionId ∧ store.memories.get? exposure.memoryId = some row ∧
        row.expires = some expires ∧ expires.textLe (stamp now) = true := by
  simp only [showsExpired, List.any_eq_true, Bool.and_eq_true, beq_iff_eq, Option.any_eq_true]
  constructor
  · rintro ⟨exposure, member, same, row, found, expires, dated, reached⟩
    exact ⟨exposure, row, expires, mem_exposed.mp member, same, found, dated, reached⟩
  · rintro ⟨exposure, row, expires, shown, same, found, dated, reached⟩
    exact ⟨exposure, mem_exposed.mpr shown, same, row, found, expires, dated, reached⟩

theorem assertSession_ok {done : Unit} :
    store.assertSession now sessionId = .ok done ↔
      store.showsExpired now sessionId = false ∧ sessionId ∉ store.blockedSessions := by
  simp [assertSession]

/-- A session that is not let through is told why. -/
theorem assertSession_rejects
    (withdrawn : store.showsExpired now sessionId = true ∨ sessionId ∈ store.blockedSessions) :
    store.assertSession now sessionId = .error contextRevoked := by
  rcases withdrawn with expired | blocked
  · simp [assertSession, ensure, expired]
  · simp [assertSession, ensure, blocked]

/-! ### Inheritance -/

theorem inheritExposure_contains {row : MemoryExposure × Int} :
    (inheritExposure child exposures row).contains exposure = true ↔
      exposures.contains exposure = true ∨ exposure = { row.1 with sessionId := child } := by
  unfold inheritExposure
  cases inserted : exposures.insert { row.1 with sessionId := child } row.2 with
  | some result =>
    rw [Option.getD_some, Table.contains, Table.get?_of_insert inserted]
    by_cases same : exposure = { row.1 with sessionId := child }
    · simp [same]
    · simp [same, Table.contains]
  | none =>
    rw [Option.getD_none]
    constructor
    · exact .inl
    · rintro (there | rfl)
      · exact there
      · exact Table.contains_of_insert_eq_none inserted

theorem inheritExposures_contains (rows : List (MemoryExposure × Int)) :
    (rows.foldl (inheritExposure child) exposures).contains exposure = true ↔
      exposures.contains exposure = true ∨
        ∃ row ∈ rows, exposure = { row.1 with sessionId := child } := by
  induction rows generalizing exposures with
  | nil => simp
  | cons row rest ih =>
    rw [List.foldl_cons, ih, inheritExposure_contains, or_assoc, List.exists_mem_cons_iff]

theorem inheritSession_exposures :
    (store.inheritSession parent child).exposures.contains exposure = true ↔
      store.exposures.contains exposure = true ∨
        ∃ source, store.exposures.contains source = true ∧ source.sessionId = parent ∧
          exposure = { source with sessionId := child } := by
  have same : (store.inheritSession parent child).exposures =
      (store.exposures.rows.filter fun row => row.1.sessionId == parent).foldl
        (inheritExposure child) store.exposures := by
    unfold inheritSession
    by_cases blocked : store.blockedSessions.contains parent = true
    · rw [if_pos blocked]
      rfl
    · rw [if_neg blocked]
  rw [same, inheritExposures_contains]
  refine or_congr Iff.rfl ?_
  constructor
  · rintro ⟨row, member, rfl⟩
    obtain ⟨stored, from_⟩ := List.mem_filter.mp member
    exact ⟨row.1, mem_exposed.mp (List.mem_map_of_mem stored), by simpa using from_, rfl⟩
  · rintro ⟨source, shown, from_, rfl⟩
    obtain ⟨row, stored, rfl⟩ := List.mem_map.mp (mem_exposed.mpr shown)
    exact ⟨row, List.mem_filter.mpr ⟨stored, by simpa using from_⟩, rfl⟩

theorem inheritSession_memories :
    (store.inheritSession parent child).memories = store.memories := by
  unfold inheritSession
  split <;> rfl

theorem inheritSession_blocked :
    sessionId ∈ (store.inheritSession parent child).blockedSessions ↔
      sessionId ∈ store.blockedSessions ∨
        (sessionId = child ∧ parent ∈ store.blockedSessions) := by
  unfold inheritSession
  by_cases blocked : parent ∈ store.blockedSessions <;> simp [blocked]

theorem inheritSession_evolves (parent child : String) :
    Evolves Replaced store (store.inheritSession parent child) := by
  have projects : (store.inheritSession parent child).projects = store.projects := by
    unfold inheritSession
    split <;> rfl
  exact .of_kept (fun _ member => inheritSession_blocked.mpr (.inl member))
    (fun _ shown => inheritSession_exposures.mpr (.inl shown))
    (fun id _ found => (congrArg (·.get? id) inheritSession_memories).trans found)
    (fun _ _ found => projects ▸ found)

/-! ### Exposure -/

/-- What showing a record leaves. -/
structure Exposed (store after : MemoryStore Digest) (access : MemoryAccessV1)
    (record : LongTermMemoryV1) : Prop where
  memories : after.memories = store.memories
  projects : after.projects = store.projects
  blocked : after.blockedSessions = store.blockedSessions
  exposed : ∀ exposure, store.exposures.contains exposure = true →
    after.exposures.contains exposure = true
  shown : ∀ sessionId, access.session? = some sessionId →
    after.exposures.contains
      { sessionId
        projectId := access.projectId
        memoryId := record.id } = true

theorem expose_ok
    (accepted : store.expose now access record = .ok after) : store.Exposed after access record ∧
      ∀ sessionId, access.session? = some sessionId →
        store.assertSession now sessionId = .ok () := by
  unfold expose at accepted
  split at accepted
  · rename_i none
    obtain rfl := Except.ok.inj accepted
    refine ⟨⟨rfl, rfl, rfl, fun _ shown => shown, fun sessionId some => ?_⟩, fun sessionId some => ?_⟩
    · rw [none] at some
      cases some
    · rw [none] at some
      cases some
  · rename_i sessionId carries
    simp only [bind_eq_ok, pure_eq_ok] at accepted
    obtain ⟨done, passed, rfl⟩ := accepted
    have upserted : ∀ exposure : MemoryExposure,
        (store.exposures.upsert
          { sessionId
            projectId := access.projectId
            memoryId := record.id } record.revision).contains exposure = true ↔
          exposure =
            { sessionId
              projectId := access.projectId
              memoryId := record.id } ∨ store.exposures.contains exposure = true := by
      intro exposure
      rw [Table.contains, Table.get?_upsert, Table.contains]
      split <;> simp_all
    refine ⟨⟨rfl, rfl, rfl, fun exposure shown => (upserted _).mpr (.inr shown),
      fun other same => ?_⟩, fun other same => ?_⟩
    · obtain rfl := Option.mem_unique carries same
      exact (upserted _).mpr (.inl rfl)
    · obtain rfl := Option.mem_unique carries same
      exact passed

theorem Exposed.evolves
    (exposed : store.Exposed after access record) : Evolves Replaced store after :=
  .of_kept (fun _ member => exposed.blocked ▸ member) exposed.exposed
    (fun _ _ found => exposed.memories ▸ found) (fun _ _ found => exposed.projects ▸ found)

theorem expose_rejects (carries : access.session? = some sessionId)
    (withdrawn : store.showsExpired now sessionId = true ∨ sessionId ∈ store.blockedSessions) :
    store.expose now access record = .error contextRevoked := by
  rw [expose, carries]
  simp only [assertSession_rejects withdrawn]
  rfl

/-! ## Projects -/

theorem configure_evolves {mode : Option MemoryModeV1} {userAccess : Option Bool}
    (accepted : store.configure projectId mode userAccess = .ok (project, after)) :
    Evolves Replaced store after ∧ after.memories = store.memories := by
  simp only [configure, status, bind_eq_ok, orError_eq_ok, pure_eq_ok, Prod.mk.injEq] at accepted
  obtain ⟨previous, found, rfl, rfl⟩ := accepted
  have memories : ∀ sessions taken,
      (if taken = true then store.block sessions else store).memories = store.memories := by
    intro sessions taken
    split <;> rfl
  refine ⟨⟨?_, ?_, ?_, ?_⟩, memories _ _⟩
  · intro sessionId member
    simp only
    split
    · exact mem_block.mpr (.inl member)
    · exact member
  · intro exposure shown
    simp only
    split <;> exact shown
  · intro id row stored
    exact .inl ((congrArg (·.get? id) (memories _ _)).trans stored)
  · intro exposure shown withdrawn
    simp only [switched, Option.any_eq_true] at withdrawn
    obtain ⟨before, known, project, now_, change⟩ := withdrawn
    have projects : ∀ sessions taken,
        (if taken = true then store.block sessions else store).projects = store.projects := by
      intro sessions taken
      split <;> rfl
    rw [projects, Table.get?_upsert] at now_
    by_cases same : exposure.projectId = projectId
    · rw [if_pos same] at now_
      obtain rfl := Option.some.inj now_
      rw [same, found] at known
      obtain rfl := Option.some.inj known
      have taken : ((mode == some .off && previous.mode != .off) ||
          (userAccess == some false && previous.userAccess)) = true := by
        simp only [Bool.or_eq_true, Bool.and_eq_true, bne_iff_ne, ne_eq, beq_iff_eq,
          Bool.not_eq_true'] at change ⊢
        rcases change with ⟨on, off⟩ | ⟨granted, denied⟩
        · cases mode with
          | none => exact absurd off on
          | some mode => exact .inl ⟨congrArg some off, on⟩
        · cases userAccess with
          | none => simp [granted] at denied
          | some userAccess => exact .inr ⟨congrArg some denied, granted⟩
      simp only
      rw [if_pos taken]
      exact mem_block.mpr (.inr (mem_sessionsOf.mpr ⟨exposure, shown, by simpa using same, rfl⟩))
    · rw [if_neg same, known] at now_
      obtain rfl := Option.some.inj now_
      cases access : before.userAccess <;> simp [access] at change

theorem addProject_evolves {root : String}
    (accepted : store.addProject projectId root = .ok (project, after)) :
    Evolves Replaced store after ∧ after.memories = store.memories := by
  unfold addProject at accepted
  simp only at accepted
  split at accepted
  · simp only [pure_eq_ok, Prod.mk.injEq] at accepted
    obtain ⟨_, rfl⟩ := accepted
    exact ⟨.refl _, rfl⟩
  · rename_i absent
    simp only [pure_eq_ok, Prod.mk.injEq] at accepted
    obtain ⟨_, rfl⟩ := accepted
    refine ⟨.of_kept (List.Subset.refl _) (fun _ shown => shown) (fun _ _ found => found) ?_, rfl⟩
    intro id known found
    rw [Table.get?_upsert, if_neg]
    · exact found
    · rintro rfl
      rw [absent] at found
      cases found

/-! ## Reading -/

theorem get_ok {id : String} (accepted : store.get now access scope id = .ok (record, after)) :
    (∃ row, store.memories.get? id = some row ∧ row.expired now = false ∧ row.document = record) ∧
      store.expose now access record = .ok after := by
  simp only [get, bind_eq_ok, orError_eq_ok, pure_eq_ok, Prod.mk.injEq, Option.filter_eq_some_iff,
    Bool.and_eq_true, Bool.not_eq_true'] at accepted
  obtain ⟨owner, _, row, ⟨found, _, live⟩, middle, shown, rfl, rfl⟩ := accepted
  exact ⟨⟨row, found, live, rfl⟩, shown⟩

theorem exposeAll_ok
    (accepted : records.foldlM (fun store record => store.expose now access record) store =
      .ok after) :
    Evolves Replaced store after ∧ after.memories = store.memories ∧
      after.projects = store.projects ∧
      ∀ record ∈ records, ∀ sessionId, access.session? = some sessionId →
        after.exposures.contains
          { sessionId
            projectId := access.projectId
            memoryId := record.id } = true := by
  induction records generalizing store with
  | nil =>
    obtain rfl := foldlM_nil_eq_ok.mp accepted
    exact ⟨.refl _, rfl, rfl, fun record member => absurd member List.not_mem_nil⟩
  | cons record rest ih =>
    obtain ⟨middle, first, others⟩ := foldlM_cons_eq_ok.mp accepted
    obtain ⟨exposed, _⟩ := expose_ok first
    obtain ⟨evolves, memories, projects, shown⟩ := ih others
    refine ⟨.trans exposed.projects exposed.evolves evolves, memories.trans exposed.memories,
      projects.trans exposed.projects, fun other member sessionId carries => ?_⟩
    rcases List.mem_cons.mp member with rfl | later
    · exact evolves.exposed _ (exposed.shown sessionId carries)
    · exact shown other later sessionId carries

theorem search_ok {rules : MemoryRules Digest} {query : String} {limit : Int}
    (accepted : store.search rules now access scope query limit = .ok (records, after)) :
    records.foldlM (fun store record => store.expose now access record) store = .ok after := by
  simp only [search, bind_eq_ok, pure_eq_ok, Prod.mk.injEq] at accepted
  obtain ⟨_, _, _, _, owner, _, middle, shown, rfl, rfl⟩ := accepted
  exact shown

/-! ## Writing -/

/-- Records may be added; everything else that sessions can see stays. -/
structure Adds (store after : MemoryStore Digest) : Prop where
  kept : ∀ id row, store.memories.get? id = some row → after.memories.get? id = some row
  blocked : after.blockedSessions = store.blockedSessions
  exposures : after.exposures = store.exposures
  projects : after.projects = store.projects

theorem Adds.refl (store : MemoryStore Digest) : store.Adds store :=
  ⟨fun _ _ found => found, rfl, rfl, rfl⟩

theorem Adds.trans {middle : MemoryStore Digest} (first : store.Adds middle)
    (second : middle.Adds after) : store.Adds after where
  kept := fun id row found => second.kept id row (first.kept id row found)
  blocked := second.blocked.trans first.blocked
  exposures := second.exposures.trans first.exposures
  projects := second.projects.trans first.projects

theorem Adds.evolves (adds : store.Adds after) :
    Evolves Replaced store after :=
  .of_kept (fun _ member => adds.blocked ▸ member) (fun _ shown => adds.exposures ▸ shown) adds.kept
    (fun _ _ found => adds.projects ▸ found)

section Writing

variable {rules : MemoryRules Digest} {access : MemoryAccessV1}
  {scope : MemoryScopeV1} {input : MemoryWriteV1} {operationId newId owner : String}
  {digest : Digest} {result : MemoryReceiptV1}

theorem receipt_ok [DecidableEq Digest] {prior : Option MemoryReceiptV1}
    (accepted : store.receipt operationId digest = .ok prior) :
    (prior = none ∧ store.receipts.get? operationId = none) ∨
      ∃ receipt, prior = some receipt ∧ store.receipts.get? operationId = some (digest, receipt) := by
  simp only [receipt, bind_eq_ok] at accepted
  obtain ⟨_, _, accepted⟩ := accepted
  split at accepted
  · rename_i absent
    exact .inl ⟨(pure_eq_ok.mp accepted).symm, absent⟩
  · rename_i priorDigest receipt found
    simp only [bind_eq_ok, ensure_eq_ok, beq_iff_eq, exists_const, pure_eq_ok] at accepted
    obtain ⟨rfl, rfl⟩ := accepted
    exact .inr ⟨receipt, rfl, found⟩

theorem forM_ok {value : Option String} {check : String → Except MemoryError Unit} {done : Unit} :
    value.forM check = .ok done ↔ ∀ text, value = some text → check text = .ok () := by
  cases value with
  | none => simp [Option.forM, pure, Except.pure]
  | some text => simp [Option.forM]

theorem write_ok [DecidableEq Digest]
    (accepted : store.write rules now access scope input operationId newId = .ok (result, after)) :
    (∀ sessionId, access.session? = some sessionId → store.assertSession now sessionId = .ok ()) ∧
      ∃ owner, store.owner access scope true = .ok owner ∧
        ((after = store ∧ store.receipts.get? operationId =
            some (rules.hash (.upsert owner input access), result)) ∨
          (store.receipts.get? operationId = none ∧
            store.writeNew now access scope input operationId newId owner
              (rules.hash (.upsert owner input access)) = .ok (result, after))) := by
  simp only [write, bind_eq_ok] at accepted
  obtain ⟨_, passed, owner, owned, prior, looked, accepted⟩ := accepted
  refine ⟨forM_ok.mp passed, owner, owned, ?_⟩
  rcases receipt_ok looked with ⟨rfl, absent⟩ | ⟨receipt, rfl, found⟩
  · exact .inr ⟨absent, accepted⟩
  · simp only [pure_eq_ok, Prod.mk.injEq] at accepted
    obtain ⟨rfl, rfl⟩ := accepted
    exact .inl ⟨rfl, found⟩

theorem writeNew_ok :
    store.writeNew now access scope input operationId newId owner digest = .ok (result, after) ↔
      ((store.rowAt owner input.key).map (·.2.revision)).getD 0 = input.expectedRevision ∧
      ((store.rowAt owner input.key).isSome = true ∨
        (store.memories.values.filter fun row => row.owner == owner).length < 2_000) ∧
      result =
        { operationId
          id := (newRecord now access scope input newId (store.rowAt owner input.key)).id
          revision := (newRecord now access scope input newId (store.rowAt owner input.key)).revision
          action := .upsert } ∧
      after = (store.saveRecord owner
        (newRecord now access scope input newId (store.rowAt owner input.key))).saveReceipt result
          digest := by
  simp only [writeNew, bind_eq_ok, ensure_eq_ok, beq_iff_eq, exists_const, Bool.or_eq_true,
    decide_eq_true_eq, pure_eq_ok, Prod.mk.injEq]
  constructor
  · rintro ⟨revision, room, rfl, rfl⟩
    exact ⟨revision, room, rfl, rfl⟩
  · rintro ⟨revision, room, rfl, rfl⟩
    exact ⟨revision, room, rfl, rfl⟩

variable {key id operation projectId : String} {row : MemoryRow} {newIds : Nat → String}
  {memories : List MemoryWriteV1} {results : List MemoryReceiptV1} {expectedRevision : Int}

theorem rowAt_eq_some (found : store.rowAt owner key = some (id, row)) :
    store.memories.get? id = some row ∧ row.owner = owner ∧ row.key = key := by
  have place := List.find?_some found
  simp only [Bool.and_eq_true, beq_iff_eq] at place
  exact ⟨store.memories.mem_rows_iff.mp (List.mem_of_find?_eq_some found), place⟩

theorem rowAt_eq_none (absent : store.rowAt owner key = none)
    (found : store.memories.get? id = some row) : ¬ (row.owner = owner ∧ row.key = key) := by
  have apart := List.find?_eq_none.mp absent (id, row) (store.memories.mem_rows_iff.mpr found)
  simpa using apart

theorem saveRecord_get? {record : LongTermMemoryV1} :
    (store.saveRecord owner record).memories.get? id = some row ↔
      (id = record.id ∧ row =
        { owner
          key := record.key
          revision := record.revision
          document := record
          expires := record.expiresAt }) ∨
      (id ≠ record.id ∧ store.memories.get? id = some row ∧
        ¬ (row.owner = owner ∧ row.key = record.key)) := by
  simp only [saveRecord]
  rw [Table.get?_upsert]
  by_cases same : id = record.id
  · simp [same, eq_comm]
  · rw [if_neg same, Table.get?_filter]
    simp [same, imp_iff_not_or]

/-- What holds of the rows of every store: revisions count from 1, and no two rows have the same
owner and key. -/
structure Consistent (store : MemoryStore Digest) : Prop where
  positive : ∀ id row, store.memories.get? id = some row → 0 < row.revision
  unique : ∀ id row other row', store.memories.get? id = some row →
    store.memories.get? other = some row' → row.owner = row'.owner → row.key = row'.key → id = other

theorem rowAt_eq (consistent : store.Consistent) (found : store.memories.get? id = some row)
    (owned : row.owner = owner) (keyed : row.key = key) :
    store.rowAt owner key = some (id, row) := by
  cases place : store.rowAt owner key with
  | none => exact absurd ⟨owned, keyed⟩ (rowAt_eq_none place found)
  | some place' =>
    obtain ⟨stored, same⟩ := rowAt_eq_some place
    have equal := consistent.unique id row place'.1 place'.2 found stored
      (owned.trans same.1.symm) (keyed.trans same.2.symm)
    rw [← equal, found] at stored
    obtain rfl := Option.some.inj stored
    rw [equal]

/-- The id that a write takes for a new record is the id of no row. -/
def Unused (store : MemoryStore Digest) (newId : String) : Prop :=
  store.memories.get? newId = none

theorem writeNew_evolves (consistent : store.Consistent) (unused : store.Unused newId)
    (accepted : store.writeNew now access scope input operationId newId owner digest =
      .ok (result, after)) :
    Evolves (fun row => row.owner = owner ∧ row.key = input.key) store after := by
  obtain ⟨_, _, _, rfl⟩ := writeNew_ok.mp accepted
  refine ⟨List.Subset.refl _, fun _ shown => shown, fun id row found => ?_, ?_⟩
  · by_cases replaced : row.owner = owner ∧ row.key = input.key
    · refine .inr (.inl ⟨replaced, (Table.contains_iff _).mpr ?_⟩)
      rw [rowAt_eq consistent found replaced.1 replaced.2]
      exact ⟨_, saveRecord_get?.mpr (.inl ⟨rfl, rfl⟩)⟩
    · refine .inl (saveRecord_get?.mpr (.inr ⟨?_, found, replaced⟩))
      rintro rfl
      cases old : store.rowAt owner input.key with
      | none =>
        rw [old] at found
        rw [show (newRecord now access scope input newId none).id = newId from rfl, unused] at found
        cases found
      | some place =>
        obtain ⟨stored, same⟩ := rowAt_eq_some old
        rw [old, show (newRecord now access scope input newId (some place)).id = place.1 from rfl,
          stored] at found
        obtain rfl := Option.some.inj found
        exact replaced same
  · exact fun _ _ withdrawn => absurd withdrawn (not_switched rfl)

theorem writeNew_consistent (consistent : store.Consistent)
    (accepted : store.writeNew now access scope input operationId newId owner digest =
      .ok (result, after)) : after.Consistent := by
  obtain ⟨_, _, _, rfl⟩ := writeNew_ok.mp accepted
  constructor
  case positive =>
    intro id row found
    rcases saveRecord_get?.mp found with ⟨_, rfl⟩ | ⟨_, stored, _⟩
    · cases old : store.rowAt owner input.key with
      | none => simp [newRecord]
      | some place =>
        have before := consistent.positive place.1 place.2 (rowAt_eq_some old).1
        simp only [newRecord, Option.map_some, Option.getD_some]
        omega
    · exact consistent.positive id row stored
  case unique =>
    intro id row other row' found found' owned keyed
    rcases saveRecord_get?.mp found with ⟨here, rfl⟩ | ⟨_, stored, apart⟩
    · rcases saveRecord_get?.mp found' with ⟨there, _⟩ | ⟨_, _, apart⟩
      · exact here.trans there.symm
      · exact absurd ⟨owned.symm, keyed.symm⟩ apart
    · rcases saveRecord_get?.mp found' with ⟨_, rfl⟩ | ⟨_, stored', _⟩
      · exact absurd ⟨owned, keyed⟩ apart
      · exact consistent.unique id row other row' stored stored' owned keyed

theorem writeNew_rows
    (accepted : store.writeNew now access scope input operationId newId owner digest =
      .ok (result, after)) (found : after.memories.get? id = some row) :
    id = result.id ∨ store.memories.get? id = some row := by
  obtain ⟨_, _, rfl, rfl⟩ := writeNew_ok.mp accepted
  rcases saveRecord_get?.mp found with ⟨same, _⟩ | ⟨_, stored, _⟩
  · exact .inl same
  · exact .inr stored

theorem rowAt_of_create (consistent : store.Consistent) (create : input.expectedRevision = 0)
    (current : ((store.rowAt owner input.key).map (·.2.revision)).getD 0 = input.expectedRevision) :
    store.rowAt owner input.key = none := by
  cases old : store.rowAt owner input.key with
  | none => rfl
  | some place =>
    have before := consistent.positive place.1 place.2 (rowAt_eq_some old).1
    rw [old, create] at current
    simp only [Option.map_some, Option.getD_some] at current
    omega

def createdRow (now : Int) (access : MemoryAccessV1) (scope : MemoryScopeV1) (input : MemoryWriteV1)
    (newId owner : String) : MemoryRow where
  owner := owner
  key := input.key
  revision := 1
  document := newRecord now access scope input newId none
  expires := (newRecord now access scope input newId none).expiresAt

theorem writeNew_creates (consistent : store.Consistent) (create : input.expectedRevision = 0)
    (unused : store.Unused newId)
    (accepted : store.writeNew now access scope input operationId newId owner digest =
      .ok (result, after)) : store.Adds after ∧ result.id = newId ∧
      after.memories.get? newId = some (createdRow now access scope input newId owner) := by
  obtain ⟨current, _, rfl, rfl⟩ := writeNew_ok.mp accepted
  have absent := rowAt_of_create consistent create current
  rw [absent]
  refine ⟨⟨fun id row found => saveRecord_get?.mpr (.inr ⟨?_, found, rowAt_eq_none absent found⟩),
    rfl, rfl, rfl⟩, rfl, saveRecord_get?.mpr (.inl ⟨rfl, rfl⟩)⟩
  intro same
  rw [same, show (newRecord now access scope input newId none).id = newId from rfl, unused] at found
  cases found

/-- What an upsert or the item of an import leaves, replay or not. -/
theorem write_evolves [DecidableEq Digest] (consistent : store.Consistent) (unused : store.Unused newId)
    (accepted : store.write rules now access scope input operationId newId = .ok (result, after)) :
    ∃ owner, store.owner access scope true = .ok owner ∧
      Evolves (fun row => store.receipts.get? operationId = none ∧ row.owner = owner ∧
        row.key = input.key) store after := by
  obtain ⟨_, owner, owned, ⟨rfl, _⟩ | ⟨absent, written⟩⟩ := write_ok accepted
  · exact ⟨owner, owned, .refl _⟩
  · refine ⟨owner, owned, ?_⟩
    have evolves := writeNew_evolves consistent unused written
    exact
      { blocked := evolves.blocked
        exposed := evolves.exposed
        rows := fun id row found => (evolves.rows id row found).imp_right
          (Or.imp_left (And.imp_left fun replaced => ⟨absent, replaced⟩))
        withdrawn := evolves.withdrawn }

theorem write_consistent [DecidableEq Digest] (consistent : store.Consistent)
    (accepted : store.write rules now access scope input operationId newId = .ok (result, after)) :
    after.Consistent := by
  obtain ⟨_, owner, _, ⟨rfl, _⟩ | ⟨_, written⟩⟩ := write_ok accepted
  · exact consistent
  · exact writeNew_consistent consistent written

/-! ### A batch -/

/-- Ids for the records of a batch: no two are the same, and none is the id of a row. -/
def UnusedFrom (store : MemoryStore Digest) (place : Nat) (newIds : Nat → String) : Prop :=
  ∀ later, place ≤ later → store.Unused (newIds later)

/-- The id of the operation that writes the record at a place of a batch. -/
def itemOperation (operation : String) (place : Nat) : String := operation ++ ":" ++ toString place

theorem itemOperation_inj {place other : Nat}
    (same : itemOperation operation place = itemOperation operation other) : place = other :=
  toString_injective (String.append_right_inj _ |>.mp same)

/-- What was answered under the id of an operation is remembered. -/
structure Recalls (store after : MemoryStore Digest) : Prop where
  receipts : ∀ operation entry, store.receipts.get? operation = some entry →
    after.receipts.get? operation = some entry
  batches : ∀ operation entry, store.importBatches.get? operation = some entry →
    after.importBatches.get? operation = some entry

theorem Recalls.refl (store : MemoryStore Digest) : store.Recalls store :=
  ⟨fun _ _ found => found, fun _ _ found => found⟩

theorem Recalls.trans {middle : MemoryStore Digest} (first : store.Recalls middle)
    (second : middle.Recalls after) : store.Recalls after where
  receipts := fun operation entry found =>
    second.receipts operation entry (first.receipts operation entry found)
  batches := fun operation entry found =>
    second.batches operation entry (first.batches operation entry found)

theorem recalls_of_upsert {entry : Digest × MemoryReceiptV1}
    (absent : store.receipts.get? operationId = none)
    (receipts : after.receipts = store.receipts.upsert operationId entry)
    (batches : after.importBatches = store.importBatches) : store.Recalls after where
  receipts := by
    intro other known found
    rw [receipts, Table.get?_upsert, if_neg]
    · exact found
    · rintro rfl
      rw [absent] at found
      cases found
  batches := fun _ _ found => batches ▸ found

theorem write_recalls [DecidableEq Digest]
    (accepted : store.write rules now access scope input operationId newId = .ok (result, after)) :
    store.Recalls after ∧ after.importBatches = store.importBatches ∧
      (∃ owner, store.owner access scope true = .ok owner ∧
        after.receipts.get? operationId = some (rules.hash (.upsert owner input access), result)) ∧
      ∀ other, other ≠ operationId → after.receipts.get? other = store.receipts.get? other := by
  obtain ⟨_, owner, owned, ⟨rfl, found⟩ | ⟨absent, written⟩⟩ := write_ok accepted
  · exact ⟨.refl _, rfl, ⟨owner, owned, found⟩, fun _ _ => rfl⟩
  · obtain ⟨_, _, rfl, rfl⟩ := writeNew_ok.mp written
    refine ⟨recalls_of_upsert absent rfl rfl, rfl, ⟨owner, owned, ?_⟩, fun other different => ?_⟩
    · simp only [saveReceipt]
      rw [Table.get?_upsert, if_pos rfl]
    · simp only [saveReceipt]
      rw [Table.get?_upsert, if_neg different]
      rfl

theorem owner_congr {write : Bool} (projects : after.projects = store.projects) :
    after.owner access scope write = store.owner access scope write := by
  unfold owner status
  rw [projects]

structure ItemDone (rules : MemoryRules Digest) (now : Int) (access : MemoryAccessV1)
    (scope : MemoryScopeV1) (owner : String) (store after : MemoryStore Digest)
    (operation newId : String) (item : MemoryWriteV1) (receipt : MemoryReceiptV1) : Prop where
  saved : after.receipts.get? operation = some (rules.hash (.upsert owner item access), receipt)
  written : store.receipts.get? operation = none → receipt.id = newId ∧
    after.memories.get? newId = some (createdRow now access scope item newId owner)

/-- What an accepted batch of records to be created leaves. -/
structure BatchDone (rules : MemoryRules Digest) (now : Int) (access : MemoryAccessV1)
    (scope : MemoryScopeV1) (owner : String) (store after : MemoryStore Digest)
    (operation : String) (newIds : Nat → String) (place : Nat) (memories : List MemoryWriteV1)
    (results : List MemoryReceiptV1) : Prop where
  adds : store.Adds after
  consistent : after.Consistent
  recalls : store.Recalls after
  batches : after.importBatches = store.importBatches
  items : ∀ i item, memories[i]? = some item → ∃ receipt, results[i]? = some receipt ∧
    ItemDone rules now access scope owner store after (itemOperation operation (place + i))
      (newIds (place + i)) item receipt

/-- **A batch is written completely**, one record after the other. -/
theorem writeBatch_ok [DecidableEq Digest] (different : Function.Injective newIds) {place : Nat}
    (consistent : store.Consistent) (unused : store.UnusedFrom place newIds)
    (owned : store.owner access scope true = .ok owner)
    (create : ∀ item ∈ memories, item.expectedRevision = 0)
    (accepted : writeBatch rules now access scope operation newIds place memories store =
      .ok (results, after)) :
    BatchDone rules now access scope owner store after operation newIds place memories results := by
  induction memories generalizing store place results with
  | nil =>
    simp only [writeBatch, Except.ok.injEq, Prod.mk.injEq] at accepted
    obtain ⟨_, rfl⟩ := accepted
    exact ⟨.refl _, consistent, .refl _, rfl, fun i item found => nomatch found⟩
  | cons item rest ih =>
    simp only [writeBatch, bind_eq_ok, pure_eq_ok, Prod.mk.injEq] at accepted
    obtain ⟨⟨first, middle⟩, written, ⟨others, last⟩, batch, rfl, rfl⟩ := accepted
    have here := unused place (Nat.le_refl _)
    have zero := create item List.mem_cons_self
    have still := write_consistent consistent written
    obtain ⟨recalls, batches, ⟨owner', owned', receipt⟩, elsewhere⟩ := write_recalls written
    obtain rfl := ok_unique owned owned'
    -- the first record is new, or its operation was done before
    have new : store.Adds middle ∧ middle.UnusedFrom (place + 1) newIds ∧
        (store.receipts.get? (itemOperation operation place) = none →
          first.id = newIds place ∧ middle.memories.get? (newIds place) =
            some (createdRow now access scope item (newIds place) owner)) := by
      obtain ⟨_, owner', owned', ⟨rfl, found⟩ | ⟨_, new⟩⟩ := write_ok written
      · refine ⟨.refl _, fun after less => unused after (by omega), fun absent => ?_⟩
        rw [show itemOperation operation place = operation ++ ":" ++ toString place from rfl,
          found] at absent
        cases absent
      · obtain rfl := ok_unique owned owned'
        obtain ⟨adds, id, row⟩ := writeNew_creates consistent zero here new
        refine ⟨adds, fun after less => ?_, fun _ => ⟨id, row⟩⟩
        cases found : middle.memories.get? (newIds after) with
        | none => exact found
        | some row =>
          rcases writeNew_rows new found with same | stored
          · have equal := different (same.trans id)
            omega
          · rw [unused after (by omega)] at stored
            cases stored
    obtain ⟨adds, free, row⟩ := new
    have done := ih still free ((owner_congr adds.projects).trans owned)
      (fun other member => create other (List.mem_cons_of_mem _ member)) batch
    refine ⟨adds.trans done.adds, done.consistent, recalls.trans done.recalls,
      done.batches.trans batches, fun i other found => ?_⟩
    cases i with
    | zero =>
      obtain rfl := Option.some.inj found
      refine ⟨first, rfl, ⟨done.recalls.receipts _ _ receipt, fun absent => ?_⟩⟩
      exact ⟨(row absent).1, done.adds.kept _ _ (row absent).2⟩
    | succ i =>
      obtain ⟨answer, there, item⟩ := done.items i other found
      rw [show place + 1 + i = place + (i + 1) by omega] at item
      refine ⟨answer, there, ⟨item.saved, fun absent => item.written ?_⟩⟩
      rw [elsewhere]
      · exact absent
      · intro same
        have equal := itemOperation_inj same
        omega

theorem importMemories_ok [DecidableEq Digest]
    (accepted : store.importMemories rules now projectId scope memories operation newIds =
      .ok (results, after)) : ∃ owner, store.owner
        { projectId
          host := true } scope true = .ok owner ∧
      ((after = store ∧ store.importBatches.get? operation =
          some (rules.hash (.importBatch owner memories), results)) ∨
        (store.importBatches.get? operation = none ∧ ∃ written,
          after = { written with
            importBatches := written.importBatches.upsert operation
              (rules.hash (.importBatch owner memories), results) } ∧
          (store.Consistent → Function.Injective newIds → store.UnusedFrom 0 newIds →
            BatchDone rules now
              { projectId
                host := true } scope owner store written operation newIds 0 memories results))) := by
  simp only [importMemories, bind_eq_ok, ensure_eq_ok, exists_const] at accepted
  obtain ⟨_, _, checked, _, _, _, owner, owned, accepted⟩ := accepted
  refine ⟨owner, owned, ?_⟩
  have create : ∀ item ∈ memories, item.expectedRevision = 0 := by
    intro item member
    have passed := forM_eq_ok.mp checked item member
    simp only [bind_eq_ok, ensure_eq_ok, beq_iff_eq] at passed
    obtain ⟨_, _, create⟩ := passed
    exact create
  split at accepted
  · rename_i priorDigest result found
    simp only [bind_eq_ok, ensure_eq_ok, beq_iff_eq, exists_const, pure_eq_ok, Prod.mk.injEq]
      at accepted
    obtain ⟨rfl, rfl, rfl⟩ := accepted
    exact .inl ⟨rfl, found⟩
  · rename_i absent
    simp only [importNew, bind_eq_ok, pure_eq_ok, Prod.mk.injEq] at accepted
    obtain ⟨⟨batch, written⟩, taken, rfl, rfl⟩ := accepted
    refine .inr ⟨absent, written, rfl, fun consistent different unused => ?_⟩
    exact writeBatch_ok different consistent unused owned create taken

theorem importMemories_adds [DecidableEq Digest] (consistent : store.Consistent)
    (different : Function.Injective newIds) (unused : store.UnusedFrom 0 newIds)
    (accepted : store.importMemories rules now projectId scope memories operation newIds =
      .ok (results, after)) : store.Adds after ∧ after.Consistent ∧ store.Recalls after := by
  obtain ⟨owner, _, ⟨rfl, _⟩ | ⟨absent, written, rfl, done⟩⟩ := importMemories_ok accepted
  · exact ⟨.refl _, consistent, .refl _⟩
  · have done := done consistent different unused
    refine ⟨⟨done.adds.kept, done.adds.blocked, done.adds.exposures, done.adds.projects⟩,
      ⟨done.consistent.positive, done.consistent.unique⟩, ⟨done.recalls.receipts, ?_⟩⟩
    intro other known found
    simp only
    rw [Table.get?_upsert, if_neg]
    · exact done.recalls.batches other known found
    · rintro rfl
      rw [absent] at found
      cases found

/-! ### Forgetting -/

theorem forget_ok [DecidableEq Digest]
    (accepted : store.forget rules now access scope id expectedRevision operationId =
      .ok (result, after)) : ∃ owner, store.owner access scope true = .ok owner ∧
      ((after = store ∧ store.receipts.get? operationId =
          some (rules.hash (.forget owner id expectedRevision), result)) ∨
        (store.receipts.get? operationId = none ∧
          store.forgetNew now access id expectedRevision operationId owner
            (rules.hash (.forget owner id expectedRevision)) = .ok (result, after))) := by
  simp only [forget, bind_eq_ok] at accepted
  obtain ⟨owner, owned, prior, looked, accepted⟩ := accepted
  refine ⟨owner, owned, ?_⟩
  rcases receipt_ok looked with ⟨rfl, absent⟩ | ⟨receipt, rfl, found⟩
  · exact .inr ⟨absent, accepted⟩
  · simp only [pure_eq_ok, Prod.mk.injEq] at accepted
    obtain ⟨rfl, rfl⟩ := accepted
    exact .inl ⟨rfl, found⟩

theorem forgetNew_ok
    (accepted : store.forgetNew now access id expectedRevision operationId owner digest =
      .ok (result, after)) : ∃ old, store.memories.get? id = some old ∧ old.owner = owner ∧
      old.revision = expectedRevision ∧
      result =
        { operationId
          id
          revision := old.revision
          action := .forget } ∧
      after.memories = store.memories.filter (fun other _ => other != id) ∧
      after.receipts = store.receipts.upsert operationId (digest, result) ∧
      after.importBatches = store.importBatches ∧ after.exposures = store.exposures ∧
      after.projects = store.projects ∧
      ∀ sessionId, sessionId ∈ after.blockedSessions ↔ sessionId ∈ store.blockedSessions ∨
        ∃ exposure, store.exposures.contains exposure = true ∧ exposure.memoryId = id ∧
          exposure.sessionId = sessionId := by
  simp only [forgetNew, bind_eq_ok, ensure_eq_ok, beq_iff_eq, orError_eq_ok, pure_eq_ok,
    Prod.mk.injEq, Option.filter_eq_some_iff, exists_const] at accepted
  obtain ⟨_, _, old, ⟨found, owned⟩, revision, rfl, rfl⟩ := accepted
  refine ⟨old, found, owned, revision, rfl, rfl, rfl, rfl, rfl, rfl, fun sessionId => ?_⟩
  simp only [saveReceipt, mem_block, mem_sessionsOf, beq_iff_eq]

theorem forgetNew_evolves (consistent : store.Consistent)
    (accepted : store.forgetNew now access id expectedRevision operationId owner digest =
      .ok (result, after)) : Evolves (fun _ => False) store after ∧ after.Consistent := by
  obtain ⟨old, found, _, _, _, memories, _, _, exposures, projects, blocked⟩ :=
    forgetNew_ok accepted
  have stays : ∀ other row, after.memories.get? other = some row →
      store.memories.get? other = some row := by
    intro other row stored
    rw [memories, Table.get?_filter] at stored
    exact stored.1
  constructor
  · constructor
    case blocked => exact fun _ member => (blocked _).mpr (.inl member)
    case exposed => exact fun _ shown => exposures ▸ shown
    case rows =>
      intro other row stored
      by_cases same : other = id
      · refine .inr (.inr fun exposure shown through => (blocked _).mpr (.inr ?_))
        exact ⟨exposure, shown, through.trans same, rfl⟩
      · refine .inl ?_
        rw [memories, Table.get?_filter]
        exact ⟨stored, by simpa using same⟩
    case withdrawn => exact fun _ _ withdrawn => absurd withdrawn (not_switched projects)
  · constructor
    case positive => exact fun other row stored => consistent.positive other row (stays other row stored)
    case unique =>
      intro first row second row' stored stored'
      exact consistent.unique first row second row' (stays _ _ stored) (stays _ _ stored')

end Writing

/-- The ids that `randomUUID` answers to a call are not in use. -/
def FreshIds (store : MemoryStore Digest) : MemoryCall → Prop
  | .upsert _ _ _ _ newId => store.Unused newId
  | .importMemories _ _ _ _ newIds => Function.Injective newIds ∧ store.UnusedFrom 0 newIds
  | _ => True

end MemoryStore

end Praxis.Memory
