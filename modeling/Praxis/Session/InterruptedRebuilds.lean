import Praxis.Foundations.InterruptedPrograms
import Praxis.Session.JsonlRestart
import Praxis.Session.Layers

/-!
# Rebuilding the catalog, interrupted

A deep scrub writes the projection of every session and then replaces the base catalog, the file of
its changes and the marker that names the base, one after the other; an initialization does the same
when the marker is missing or when it is asked to. A crash can stop it between any two changes.

The store that a crash leaves is opened as any other (`servesAll_iff`): without a marker the catalog
is rebuilt, otherwise the catalog is read and the pending sessions are recovered. What the crash
leaves is read off the list of changes (`writes_rebuildCatalogUnlocked`), and between the base and
the marker it is a store whose marker may name another base.
-/

namespace Praxis.Session

set_option autoImplicit false

open Praxis.Foundations
open Praxis.Foundations.FileProgram (run_bind writes_bind run_disk)
open Praxis.Workflow (safeId)

variable {Data View : Type} (rules : SessionRules Data View)

/-- The journals are those of the log, maybe with torn tails; files are named by safe ids. Nothing
is said of projections and of the catalog. -/
structure JournalsHold (disk : JsonlDisk Data View) (log : CommitLog Data) : Prop where
  kept : ∀ id, Kept rules id (log id)
  journal : ∀ id, ∃ torn, disk.journal id = journalFile (log id) torn
  named : ∀ id, disk.commits.get? id ≠ none → safeId id = true
  marked : ∀ id ∈ disk.pending, safeId id = true

/-- Every session is listed, and its cached projection is the reduction of its journal. -/
structure ServesAll (disk : JsonlDisk Data View) (log : CommitLog Data) : Prop where
  listed : ∃ ids, ((Jsonl.listSessionIds rules).run JsonlDisk.perform disk).1 = .ok ids ∧
    ∀ id, log id ≠ [] → id ∈ ids
  projected : ∀ id, log id ≠ [] → disk.projections.get? id = projectionFile rules (log id)

/-- A plain initialization opens the store, and serves every session then. -/
def OpensWell (disk : JsonlDisk Data View) (log : CommitLog Data) : Prop :=
  ((Jsonl.initializeJournal rules false).run JsonlDisk.perform disk).1 = .ok () ∧
    ServesAll rules ((Jsonl.initializeJournal rules false).run JsonlDisk.perform disk).2 log

/-! ## What a rebuild writes -/

/-- The projections of the sessions on the disk, in the order in which they are scanned. -/
def scannedProjections (disk : JsonlDisk Data View) (log : CommitLog Data) :
    List (SessionProjectionV3 Data View) :=
  (sortIds (disk.commits.rows.map (·.1))).filterMap fun id => projectionOf rules (log id)

def rebuiltCatalog (projections : List (SessionProjectionV3 Data View)) : CatalogCacheV3 :=
  catalogCache rules (projections.map (·.catalog))
    (sortIds ((projections.filter projectionHasRecoverableRun).map (·.snapshot.sessionId)))

/-- The change that rewrites the file of a projection. -/
def projectionWrite (log : CommitLog Data) (projection : SessionProjectionV3 Data View) :
    JsonlWrite Data View :=
  .projection projection.snapshot.sessionId
    (projectionCache projection (log projection.snapshot.sessionId))

variable {rules}

section Scanning

variable {disk : JsonlDisk Data View} {log : CommitLog Data} {id : String}

theorem JournalsHold.projection_session (holds : JournalsHold rules disk log)
    {projection : SessionProjectionV3 Data View}
    (reduced : projectionOf rules (log id) = some projection) :
    projection.snapshot.sessionId = id ∧ projection.catalog.sessionId = id :=
  (holds.kept id).projection_session reduced

theorem JournalsHold.projection (holds : JournalsHold rules disk log) (id : String)
    (cache : ProjectionCacheV3 Data View) :
    JournalsHold rules (disk.perform (.projection id cache)) log :=
  ⟨holds.kept, holds.journal, holds.named, holds.marked⟩

@[simp] theorem writes_readJournal (sessionId : String) :
    (readJournal rules sessionId).writes JsonlDisk.perform disk = [] := by
  simp only [readJournal, writes_bind, FileProgram.writes_ofExcept, FileProgram.run_ofExcept]
  cases assertSessionFile sessionId <;> simp

@[simp] theorem writes_withLock {α : Type} {name : String} {action : JsonlProgram Data View α}
    (named : safeId name = true) : (withLock name action).writes JsonlDisk.perform disk =
      action.writes JsonlDisk.perform disk := by
  simp [withLock, writes_bind, assertSessionFile, named]

section

variable (holds : JournalsHold rules disk log)
include holds

theorem run_scanProjection
    (named : safeId id = true) : ((Jsonl.scanProjection rules id).run JsonlDisk.perform disk).1 =
        .ok (projectionOf rules (log id)) ∧
      (Jsonl.scanProjection rules id).writes JsonlDisk.perform disk =
        (projectionOf rules (log id)).toList.map (projectionWrite log) := by
  obtain ⟨torn, stored⟩ := holds.journal id
  have read := run_readJournal (holds.kept id) named stored
  by_cases empty : log id = []
  · simp [Jsonl.scanProjection, run_bind, writes_bind, read, empty, projectionOf_nil]
  · obtain ⟨projection, reduced⟩ := (holds.kept id).exists_projection empty
    have accepted := projectionOf_eq_some.mp reduced
    have session := (holds.projection_session reduced).1
    simp [Jsonl.scanProjection, run_bind, writes_bind, read, empty, accepted, reduced,
      projectionWrite, session]

theorem run_scanProjections (ids : List String) (named : ∀ id ∈ ids, safeId id = true) :
    ((Jsonl.scanProjections rules ids).run JsonlDisk.perform disk).1 =
        .ok (ids.filterMap fun id => projectionOf rules (log id)) ∧
      (Jsonl.scanProjections rules ids).writes JsonlDisk.perform disk =
        (ids.filterMap fun id => projectionOf rules (log id)).map (projectionWrite log) := by
  induction ids generalizing disk with
  | nil => exact ⟨rfl, rfl⟩
  | cons id rest ih =>
    obtain ⟨found, written⟩ := run_scanProjection holds (named id List.mem_cons_self)
    have ran : (Jsonl.scanProjection rules id).run JsonlDisk.perform disk =
        (.ok (projectionOf rules (log id)),
          ((projectionOf rules (log id)).toList.map (projectionWrite log)).foldl
            JsonlDisk.perform disk) :=
      Prod.ext found (by rw [run_disk, written])
    have later : JournalsHold rules
        (((projectionOf rules (log id)).toList.map (projectionWrite log)).foldl
          JsonlDisk.perform disk) log := by
      cases projectionOf rules (log id) with
      | none => exact holds
      | some projection => exact holds.projection _ _
    obtain ⟨others, rewritten⟩ :=
      ih later fun other member => named other (List.mem_cons_of_mem id member)
    have rest_ : (Jsonl.scanProjections rules rest).run JsonlDisk.perform _ = (.ok _, _) :=
      Prod.ext others rfl
    have whole : (id :: rest).filterMap (fun id => projectionOf rules (log id)) =
        (projectionOf rules (log id)).toList ++
          rest.filterMap fun id => projectionOf rules (log id) := by
      cases reduced : projectionOf rules (log id) <;> simp [reduced]
    constructor
    · rw [Jsonl.scanProjections, run_bind, ran, whole]
      simp only [run_bind]
      rw [rest_]
      rfl
    · rw [Jsonl.scanProjections, writes_bind, ran, whole, written, List.map_append]
      simp only [writes_bind]
      rw [rest_, rewritten]
      simp

theorem JournalsHold.safe_of_row :
    ∀ id ∈ sortIds (disk.commits.rows.map (·.1)), safeId id = true := by
  intro id member
  rw [(sortIds_perm _).mem_iff] at member
  refine holds.named id fun absent => ?_
  exact (Table.get?_eq_none_iff _).mp absent member

theorem JournalsHold.mem_rows
    (present : log id ≠ []) : id ∈ sortIds (disk.commits.rows.map (·.1)) := by
  rw [(sortIds_perm _).mem_iff]
  by_contra absent
  have missing := (Table.get?_eq_none_iff _).mpr absent
  obtain ⟨torn, stored⟩ := holds.journal id
  rw [JsonlDisk.journal, missing, Option.getD_none] at stored
  have lines := congrArg LineFile.lines stored
  exact present (List.map_eq_nil_iff.mp lines.symm)

end

theorem mem_scannedProjections {projection : SessionProjectionV3 Data View} :
    projection ∈ scannedProjections rules disk log ↔
      ∃ id ∈ sortIds (disk.commits.rows.map (·.1)),
        projectionOf rules (log id) = some projection := by
  simp [scannedProjections]

theorem scannedProjections_reduced (holds : JournalsHold rules disk log) :
    ∀ projection ∈ scannedProjections rules disk log,
      projectionOf rules (log projection.snapshot.sessionId) = some projection := by
  intro projection member
  obtain ⟨id, _, reduced⟩ := mem_scannedProjections.mp member
  rw [(holds.projection_session reduced).1]
  exact reduced

theorem foldl_projectionWrite (disk : JsonlDisk Data View)
    (projections : List (SessionProjectionV3 Data View)) (reduced : ∀ projection ∈ projections,
      projectionOf rules (log projection.snapshot.sessionId) = some projection) :
    ∃ table, (projections.map (projectionWrite log)).foldl JsonlDisk.perform disk =
        { disk with projections := table } ∧
      ∀ id, table.get? id = if id ∈ projections.map (·.snapshot.sessionId)
        then projectionFile rules (log id) else disk.projections.get? id := by
  induction projections generalizing disk with
  | nil => exact ⟨disk.projections, rfl, fun id => by simp⟩
  | cons projection rest ih =>
    have first := reduced projection List.mem_cons_self
    obtain ⟨table, folded, stored⟩ := ih (disk.perform (projectionWrite log projection))
      fun other member => reduced other (List.mem_cons_of_mem projection member)
    refine ⟨table, folded, fun id => ?_⟩
    rw [stored]
    by_cases later : id ∈ rest.map (·.snapshot.sessionId)
    · simp [later]
    · rw [if_neg later]
      change (Table.upsert _ _ _).get? id = _
      rw [Table.get?_upsert]
      by_cases same : id = projection.snapshot.sessionId
      · subst same
        simp [projectionFile, first]
      · simp [same, later]

/-- **What a rebuild writes**: the projections, the base catalog, the empty file of its changes, the
marker, and the pending sessions away. -/
theorem writes_rebuildCatalogUnlocked (holds : JournalsHold rules disk log) :
    ((Jsonl.rebuildCatalogUnlocked rules).run JsonlDisk.perform disk).1 =
        .ok (sortCatalog rules ((scannedProjections rules disk log).map (·.catalog))) ∧
      (Jsonl.rebuildCatalogUnlocked rules).writes JsonlDisk.perform disk =
        (scannedProjections rules disk log).map (projectionWrite log) ++
          ([.catalog (rebuiltCatalog rules (scannedProjections rules disk log)), .clearDelta,
            .catalogState ((rebuiltCatalog rules (scannedProjections rules disk log)).checksum
              rules)] ++ disk.pending.map .unlinkPending) := by
  obtain ⟨found, written⟩ := run_scanProjections holds _ holds.safe_of_row
  obtain ⟨table, folded, _⟩ := foldl_projectionWrite disk _ (scannedProjections_reduced holds)
  have ran : (Jsonl.scanProjections rules (sortIds (disk.commits.rows.map (·.1)))).run
      JsonlDisk.perform disk =
        (.ok (scannedProjections rules disk log), { disk with projections := table }) :=
    Prod.ext found (by rw [run_disk, written]; exact folded)
  have clears : ∀ after : JsonlDisk Data View, after.pending = disk.pending →
      (Jsonl.clearAllPendingUnlocked : JsonlProgram Data View Unit).writes JsonlDisk.perform
          after = disk.pending.map .unlinkPending ∧
        (Jsonl.clearAllPendingUnlocked : JsonlProgram Data View Unit).run JsonlDisk.perform
          after = (.ok (), (disk.pending.map .unlinkPending).foldl JsonlDisk.perform after) := by
    intro after pending
    rw [Jsonl.clearAllPendingUnlocked, FileProgram.writes, FileProgram.run, pending,
      FileProgram.writes_forEach_write, FileProgram.run_forEach_write]
    exact ⟨rfl, rfl⟩
  obtain ⟨cleared, clear⟩ := clears
    (((({ disk with projections := table } : JsonlDisk Data View).perform
      (.catalog (rebuiltCatalog rules (scannedProjections rules disk log)))).perform
        .clearDelta).perform (.catalogState
          ((rebuiltCatalog rules (scannedProjections rules disk log)).checksum rules))) rfl
  have scan : (Jsonl.scanProjections rules (sortIds (disk.commits.rows.map (·.1)))).writes
      JsonlDisk.perform disk =
        (scannedProjections rules disk log).map (projectionWrite log) := written
  constructor
  · simp only [Jsonl.rebuildCatalogUnlocked, run_bind, FileProgram.run_read, ran,
      FileProgram.run_write, FileProgram.run_pure]
    rw [rebuiltCatalog] at clear
    rw [clear]
  · simp only [Jsonl.rebuildCatalogUnlocked, writes_bind, FileProgram.run_read, ran,
      FileProgram.run_write, FileProgram.writes_read, FileProgram.writes_write,
      FileProgram.writes_pure, List.nil_append, scan]
    rw [rebuiltCatalog] at cleared clear ⊢
    rw [cleared, clear]
    simp

end Scanning

/-! ## What the catalog lists -/

/-- The catalog has the session. -/
def CatalogView.Has (view : CatalogView) (id : String) : Prop := view.sessions.get? id ≠ none

/-- Every session of the catalog stands under its id. -/
def CatalogView.Keyed (view : CatalogView) : Prop :=
  ∀ id session, view.sessions.get? id = some session → session.sessionId = id

section Catalogs

variable {view : CatalogView} {disk : JsonlDisk Data View} {log : CommitLog Data}

theorem Table.upsert_has {ν : Type} (table : Table String ν) (key : String) (value : ν)
    (id : String) : (table.upsert key value).get? id ≠ none ↔ table.get? id ≠ none ∨ id = key := by
  rw [Table.get?_upsert]
  by_cases same : id = key <;> simp [same]

theorem CatalogView.apply_has (record : CatalogDeltaRecordV3) (id : String) :
    (view.apply record).Has id ↔ view.Has id ∨ id = record.catalog.sessionId :=
  Table.upsert_has _ _ _ _

theorem CatalogView.apply_keyed (keyed : view.Keyed) (record : CatalogDeltaRecordV3) :
    (view.apply record).Keyed := by
  intro id session stored
  rw [CatalogView.apply, Table.get?_upsert] at stored
  by_cases same : id = record.catalog.sessionId
  · rw [if_pos same] at stored
    rw [← Option.some.inj stored, same]
  · rw [if_neg same] at stored
    exact keyed id session stored

theorem CatalogView.ofCache_spec (cache : CatalogCacheV3) :
    (CatalogView.ofCache cache).Keyed ∧ ∀ id, (CatalogView.ofCache cache).Has id ↔
      id ∈ cache.sessions.map (·.sessionId) := by
  have fold : ∀ (sessions : List SessionCatalogProjectionV3)
      (table : Table String SessionCatalogProjectionV3),
      (∀ id session, table.get? id = some session → session.sessionId = id) →
      (∀ id session, (sessions.foldl (fun table session =>
        table.upsert session.sessionId session) table).get? id = some session →
          session.sessionId = id) ∧
      ∀ id, (sessions.foldl (fun table session =>
        table.upsert session.sessionId session) table).get? id ≠ none ↔
          table.get? id ≠ none ∨ id ∈ sessions.map (·.sessionId) := by
    intro sessions
    induction sessions with
    | nil => exact fun table keyed => ⟨keyed, fun id => by simp⟩
    | cons first rest ih =>
      intro table keyed
      have next : ∀ id session, (table.upsert first.sessionId first).get? id = some session →
          session.sessionId = id := by
        intro id session stored
        rw [Table.get?_upsert] at stored
        by_cases same : id = first.sessionId
        · rw [if_pos same] at stored
          rw [← Option.some.inj stored, same]
        · rw [if_neg same] at stored
          exact keyed id session stored
      obtain ⟨keyed', has⟩ := ih _ next
      refine ⟨keyed', fun id => ?_⟩
      rw [List.foldl_cons, has, Table.upsert_has, List.map_cons, List.mem_cons, or_assoc]
  obtain ⟨keyed, has⟩ := fold cache.sessions Table.empty
    fun id session stored => by simp at stored
  exact ⟨keyed, fun id => (has id).trans (by simp)⟩

theorem CatalogView.foldl_apply_has (records : List CatalogDeltaRecordV3) (id : String) :
    (records.foldl CatalogView.apply view).Has id ↔
      view.Has id ∨ id ∈ records.map (·.catalog.sessionId) := by
  induction records generalizing view with
  | nil => simp
  | cons record rest ih =>
    rw [List.foldl_cons, ih, CatalogView.apply_has, List.map_cons, List.mem_cons, or_assoc]

theorem CatalogView.foldl_apply_keyed (keyed : view.Keyed) (records : List CatalogDeltaRecordV3) :
    (records.foldl CatalogView.apply view).Keyed := by
  induction records generalizing view with
  | nil => exact keyed
  | cons record rest ih => exact ih (CatalogView.apply_keyed keyed record)

theorem catalogView_keyed (seen : catalogView rules disk = .ok view) : view.Keyed := by
  obtain ⟨base, _, _, records, _, _, _, _, _, _, rfl⟩ := catalogView_eq_ok.mp seen
  exact CatalogView.foldl_apply_keyed (CatalogView.ofCache_spec base).1 records

/-- The disk without a torn change. -/
def JsonlDisk.settled (disk : JsonlDisk Data View) : JsonlDisk Data View :=
  { disk with catalogDelta := disk.catalogDelta.map fun delta => { lines := delta.lines } }

theorem run_repairDelta :
    (repairDelta : JsonlProgram Data View Unit).run JsonlDisk.perform disk =
      (.ok (), disk.settled) := by
  obtain ⟨authority, commits, projections, pending, catalog, state, delta⟩ := disk
  cases delta with
  | none => rfl
  | some delta =>
    obtain ⟨lines, torn⟩ := delta
    cases torn with
    | false => rfl
    | true =>
      simp [repairDelta, FileProgram.run, JsonlDisk.perform, JsonlDisk.settled,
        FileProgram.write, LineFile.truncate]

theorem catalogView_settled : catalogView rules disk.settled = catalogView rules disk := by
  obtain ⟨authority, commits, projections, pending, catalog, state, delta⟩ := disk
  cases delta <;> rfl

theorem run_readCatalogUnlocked_settled :
    (readCatalogUnlocked rules).run JsonlDisk.perform disk =
      match catalogView rules disk with
      | .ok view =>
        (.ok (catalogCache rules view.sessions.values view.recoverable), disk.settled)
      | .error error => (.error error, disk) := by
  rw [readCatalogUnlocked, run_bind, FileProgram.run_read]
  cases catalogView rules disk with
  | error error => rfl
  | ok view => simp only [run_bind, run_repairDelta, FileProgram.run_pure]

theorem servesAll_iff (seen : catalogView rules disk = .ok view) :
    ServesAll rules disk log ↔
      ∀ id, log id ≠ [] →
        view.Has id ∧ disk.projections.get? id = projectionFile rules (log id) := by
  have read : ∃ ids, ((Jsonl.listSessionIds rules).run JsonlDisk.perform disk).1 = .ok ids ∧
      ∀ id, id ∈ ids ↔ view.Has id := by
    refine ⟨sortIds ((sortCatalog rules (sortCatalog rules view.sessions.values)).map
      (·.sessionId)), ?_, fun id => ?_⟩
    · simp [Jsonl.listSessionIds, Jsonl.listCatalog, run_withLock catalogLock_named, run_bind,
        run_readCatalogUnlocked_settled, seen, catalogCache]
    · have perm : (sortCatalog rules (sortCatalog rules view.sessions.values)).Perm
          view.sessions.values := (List.mergeSort_perm _ _).trans (List.mergeSort_perm _ _)
      rw [(sortIds_perm _).mem_iff, (perm.map _).mem_iff, List.mem_map]
      constructor
      · rintro ⟨session, member, rfl⟩ absent
        obtain ⟨key, stored⟩ := (view.sessions.mem_values_iff).mp member
        rw [← catalogView_keyed seen key session stored] at stored
        rw [absent] at stored
        cases stored
      · intro has
        obtain ⟨session, stored⟩ := Option.ne_none_iff_exists'.mp has
        exact ⟨session, view.sessions.mem_values_of_get? stored,
          catalogView_keyed seen id session stored⟩
  obtain ⟨ids, listed, members⟩ := read
  constructor
  · intro serves id present
    obtain ⟨ids', listed', all⟩ := serves.listed
    obtain rfl := ok_unique listed listed'
    exact ⟨(members id).mp (all id present), serves.projected id present⟩
  · intro each
    exact ⟨⟨ids, listed, fun id present => (members id).mpr (each id present).1⟩,
      fun id present => (each id present).2⟩

end Catalogs

/-! ## Recovering the pending sessions -/

/-- The store after some pending sessions are recovered: the catalog has them as well, and their
projections are rewritten. -/
structure Recovered (rules : SessionRules Data View) (log : CommitLog Data) (ids : List String)
    (before after : JsonlDisk Data View) (view view' : CatalogView) : Prop where
  holds : JournalsHold rules after log
  seen : catalogView rules after = .ok view'
  settled : ∀ delta, after.catalogDelta = some delta → delta.torn = false
  has : ∀ id, view'.Has id ↔ view.Has id ∨ id ∈ ids ∧ log id ≠ []
  projections : ∀ id, after.projections.get? id =
    if id ∈ ids ∧ log id ≠ [] then projectionFile rules (log id) else before.projections.get? id

section Recovering

variable {view : CatalogView} {disk : JsonlDisk Data View} {log : CommitLog Data} {id : String}

variable (holds : JournalsHold rules disk log)
include holds

/-- A journal whose torn tail is cut off. -/
theorem JournalsHold.repair (named : safeId id = true) :
    JournalsHold rules (disk.withJournal id (journalFile (log id) false)) log where
  journal other := by
    rw [journal_withJournal]
    by_cases same : other = id
    · subst same
      exact ⟨false, if_pos rfl⟩
    · rw [if_neg same]
      exact holds.journal other
  named other stored := by
    rcases (Table.upsert_has _ _ _ _).mp stored with before | rfl
    · exact holds.named other before
    · exact named
  __ := holds

theorem JournalsHold.unlink (id : String) :
    JournalsHold rules (disk.perform (.unlinkPending id)) log :=
  ⟨holds.kept, holds.journal, holds.named,
    fun other member => holds.marked other (List.mem_filter.mp member).1⟩

/-- **A pending session is recovered.** -/
theorem run_recoverPendingSession
    (named : safeId id = true) (seen : catalogView rules disk = .ok view)
    (settled : ∀ delta, disk.catalogDelta = some delta → delta.torn = false) :
    ∃ after view', (Jsonl.recoverPendingSession rules id).run JsonlDisk.perform disk =
      (.ok (), after) ∧ Recovered rules log [id] disk after view view' := by
  obtain ⟨torn, stored⟩ := holds.journal id
  have read := run_readJournal (holds.kept id) named stored
  obtain ⟨repaired, repairs, holds', seen', delta', table'⟩ : ∃ repaired : JsonlDisk Data View,
      (repairTail id { records := log id, validLines := (log id).length, torn } :
        JsonlProgram Data View Unit).run JsonlDisk.perform disk = (.ok (), repaired) ∧
      JournalsHold rules repaired log ∧ catalogView rules repaired = .ok view ∧
      repaired.catalogDelta = disk.catalogDelta ∧ repaired.projections = disk.projections := by
    cases torn with
    | false => exact ⟨disk, rfl, holds, seen, rfl, rfl⟩
    | true =>
      refine ⟨_, rfl, ?_, seen, rfl, rfl⟩
      change JournalsHold rules (disk.withJournal id ((disk.journal id).truncate _)) log
      rw [stored, truncate_journalFile]
      exact holds.repair named
  by_cases empty : log id = []
  · refine ⟨repaired.perform (.unlinkPending id), view, ?_, holds'.unlink id, seen', ?_, ?_, ?_⟩
    · simp only [empty, List.length_nil] at read repairs
      simp [Jsonl.recoverPendingSession, run_bind, read, repairs]
    · exact delta' ▸ settled
    · intro other
      constructor
      · exact .inl
      · rintro (has | ⟨one, present⟩)
        · exact has
        · rw [List.mem_singleton.mp one] at present
          exact absurd empty present
    · intro other
      have none : ¬(other ∈ [id] ∧ log other ≠ []) := by
        rintro ⟨one, present⟩
        rw [List.mem_singleton.mp one] at present
        exact present empty
      rw [if_neg none]
      exact congrArg (·.get? other) table'
  · obtain ⟨projection, reduced⟩ := (holds.kept id).exists_projection empty
    have accepted := projectionOf_eq_some.mp reduced
    have session := (holds.projection_session reduced).2
    have valid := isCatalogProjection_of_reduced accepted
    have settled' : ∀ delta, repaired.catalogDelta = some delta → delta.torn = false :=
      delta' ▸ settled
    have before : catalogView rules (repaired.perform
        (.projection id (projectionCache projection (log id)))) = .ok view := seen'
    have written : catalogView rules (refreshed repaired id projection (log id)) =
        .ok (view.apply (catalogDeltaRecord projection)) :=
      catalogView_appendDelta before settled' valid
    have refreshes : JournalsHold rules (refreshed repaired id projection (log id)) log :=
      ⟨holds'.kept, holds'.journal, holds'.named, holds'.marked⟩
    refine ⟨(refreshed repaired id projection (log id)).perform (.unlinkPending id),
      view.apply (catalogDeltaRecord projection), ?_, ?_, written, ?_, ?_, ?_⟩
    · simp [Jsonl.recoverPendingSession, run_bind, read, empty, repairs, accepted,
        appendCatalogDeltaUnlocked, refreshed]
    · exact refreshes.unlink id
    · intro delta added
      obtain ⟨_, _, old, _, _, _, _, _, old', _⟩ := catalogView_eq_ok.mp before
      have longer := append_delta old' (settled' old old') (catalogDeltaRecord projection)
      have one := added.symm.trans longer
      rw [Option.some.inj one]
    · intro other
      rw [CatalogView.apply_has]
      change _ ∨ other = projection.catalog.sessionId ↔ _
      rw [session, List.mem_singleton]
      constructor
      · rintro (has | rfl)
        · exact .inl has
        · exact .inr ⟨rfl, empty⟩
      · rintro (has | ⟨rfl, _⟩)
        · exact .inl has
        · exact .inr rfl
    · intro other
      change (Table.upsert _ _ _).get? other = _
      rw [Table.get?_upsert]
      by_cases same : other = id
      · subst same
        simp [empty, projectionFile, reduced]
      · rw [if_neg same, if_neg fun both => same (List.mem_singleton.mp both.1)]
        exact congrArg (·.get? other) table'

/-- **All pending sessions are recovered**, one after the other. -/
theorem run_recoverPendingSessions (ids : List String)
    (named : ∀ id ∈ ids, safeId id = true) (seen : catalogView rules disk = .ok view)
    (settled : ∀ delta, disk.catalogDelta = some delta → delta.torn = false) :
    ∃ after view', (FileProgram.forEach ids (Jsonl.recoverPendingSession rules)).run
      JsonlDisk.perform disk = (.ok (), after) ∧ Recovered rules log ids disk after view view' := by
  induction ids generalizing disk view with
  | nil =>
    refine ⟨disk, view, rfl, holds, seen, settled, fun id => by simp, fun id => by simp⟩
  | cons id rest ih =>
    obtain ⟨middle, between, first, recovered⟩ :=
      run_recoverPendingSession holds (named id List.mem_cons_self) seen settled
    obtain ⟨after, view', others, final⟩ := ih recovered.holds
      (fun other member => named other (List.mem_cons_of_mem id member)) recovered.seen
      recovered.settled
    refine ⟨after, view', ?_, final.holds, final.seen, final.settled, fun other => ?_,
      fun other => ?_⟩
    · change (Jsonl.recoverPendingSession rules id >>= fun _ => FileProgram.forEach rest
        (Jsonl.recoverPendingSession rules)).run JsonlDisk.perform disk = _
      rw [run_bind, first]
      exact others
    · rw [final.has, recovered.has, List.mem_singleton, List.mem_cons]
      tauto
    · rw [final.projections, recovered.projections]
      by_cases present : log other = []
      · simp [present]
      · by_cases later : other ∈ rest
        · simp [present, later]
        · by_cases same : other = id
          · subst same
            simp [present, later]
          · simp [present, later, same]

end Recovering

/-! ## Opening the store -/

section Opening

variable {disk : JsonlDisk Data View} {log : CommitLog Data}

theorem catalogView_rebuilt (holds : JournalsHold rules disk log) {after : JsonlDisk Data View}
    {delta : LineFile CatalogDeltaRecordV3} {records : List CatalogDeltaRecordV3}
    (base : after.catalog = some (rebuiltCatalog rules (scannedProjections rules disk log)))
    (marker : after.catalogState =
      some ((rebuiltCatalog rules (scannedProjections rules disk log)).checksum rules))
    (stored : after.catalogDelta = some delta)
    (read : delta.lines.mapM validateCatalogDeltaRecord = .ok records) :
    ∃ view, catalogView rules after = .ok view ∧ ∀ id, log id ≠ [] → view.Has id := by
  have valid : validateCatalogCache (rebuiltCatalog rules (scannedProjections rules disk log)) =
      .ok () := by
    rw [validateCatalogCache, ensure_eq_ok, Bool.and_eq_true, List.all_eq_true, List.all_eq_true]
    constructor
    · intro session member
      rw [rebuiltCatalog, catalogCache, sortCatalog, (List.mergeSort_perm _ _).mem_iff,
        List.mem_map] at member
      obtain ⟨projection, scanned, rfl⟩ := member
      obtain ⟨_, _, reduced⟩ := mem_scannedProjections.mp scanned
      exact isCatalogProjection_of_reduced (projectionOf_eq_some.mp reduced)
    · intro id member
      rw [rebuiltCatalog, catalogCache, (sortIds_perm _).mem_iff, List.mem_dedup,
        (sortIds_perm _).mem_iff, List.mem_map] at member
      obtain ⟨projection, running, rfl⟩ := member
      obtain ⟨id, row, reduced⟩ := mem_scannedProjections.mp (List.mem_filter.mp running).1
      rw [(holds.projection_session reduced).1]
      exact holds.safe_of_row id row
  refine ⟨_, catalogView_eq_ok.mpr ⟨_, _, delta, records, base, valid, marker, rfl, stored, read,
    rfl⟩, fun id present => ?_⟩
  rw [CatalogView.foldl_apply_has, (CatalogView.ofCache_spec _).2]
  left
  obtain ⟨projection, reduced⟩ := (holds.kept id).exists_projection present
  have member : projection ∈ scannedProjections rules disk log :=
    mem_scannedProjections.mpr ⟨id, holds.mem_rows present, reduced⟩
  have perm : (rebuiltCatalog rules (scannedProjections rules disk log)).sessions.Perm
      ((scannedProjections rules disk log).map (·.catalog)) := List.mergeSort_perm _ _
  rw [(perm.map _).mem_iff, List.map_map, List.mem_map]
  exact ⟨projection, member, (holds.projection_session reduced).2⟩

/-- Markers that are taken away one after the other. -/
theorem foldl_unlinkPending (ids : List String) (disk : JsonlDisk Data View) :
    ∃ pending, (ids.map JsonlWrite.unlinkPending).foldl JsonlDisk.perform disk =
        { disk with pending := pending } ∧ ∀ id ∈ pending, id ∈ disk.pending := by
  induction ids generalizing disk with
  | nil => exact ⟨disk.pending, rfl, fun _ => id⟩
  | cons first rest ih =>
    obtain ⟨pending, folded, within⟩ := ih (disk.perform (.unlinkPending first))
    exact ⟨pending, folded, fun id member => (List.mem_filter.mp (within id member)).1⟩

/-- **What a crash leaves of a rebuild**: projections of the first sessions, then the base catalog,
then the empty file of its changes, then the marker; the pending sessions are left until then. -/
theorem crashed_rebuildCatalogUnlocked (holds : JournalsHold rules disk log) (count : Nat) :
    ∃ table pending,
      (∀ id, table.get? id =
        if id ∈ ((scannedProjections rules disk log).take count).map (·.snapshot.sessionId)
        then projectionFile rules (log id) else disk.projections.get? id) ∧
      (∀ id ∈ pending, id ∈ disk.pending) ∧
      (count ≤ (scannedProjections rules disk log).length + 2 → pending = disk.pending) ∧
      (Jsonl.rebuildCatalogUnlocked rules).crashed JsonlDisk.perform disk count =
        { disk with
          projections := table
          pending := pending
          catalog := if (scannedProjections rules disk log).length < count
            then some (rebuiltCatalog rules (scannedProjections rules disk log)) else disk.catalog
          catalogDelta := if (scannedProjections rules disk log).length + 1 < count
            then some {} else disk.catalogDelta
          catalogState := if (scannedProjections rules disk log).length + 2 < count
            then some ((rebuiltCatalog rules (scannedProjections rules disk log)).checksum rules)
            else disk.catalogState } := by
  obtain ⟨table, folded, stored⟩ := foldl_projectionWrite disk
    ((scannedProjections rules disk log).take count)
    fun projection member =>
      scannedProjections_reduced holds projection (List.mem_of_mem_take member)
  have written := (writes_rebuildCatalogUnlocked holds).2
  generalize scannedProjections rules disk log = scanned at *
  rw [FileProgram.crashed, written, List.take_append, List.foldl_append, ← List.map_take, folded,
    List.length_map, List.take_append, List.foldl_append]
  rcases Nat.lt_or_ge (scanned.length + 2) count with all | some_
  · -- the marker is written, and some of the pending sessions are taken away
    obtain ⟨pending, unlinked, within⟩ := foldl_unlinkPending
      (disk.pending.take (count - scanned.length - 3))
      ({ disk with
          projections := table
          catalog := some (rebuiltCatalog rules scanned)
          catalogDelta := some {}
          catalogState := some ((rebuiltCatalog rules scanned).checksum rules) } :
        JsonlDisk Data View)
    refine ⟨table, pending, stored, within, fun few => by omega, ?_⟩
    have first : scanned.length < count := by omega
    have second : scanned.length + 1 < count := by omega
    rw [if_pos first, if_pos second, if_pos all, List.take_of_length_le (by simp; omega),
      ← List.map_take]
    exact unlinked
  · refine ⟨table, disk.pending, stored, fun _ => id, fun _ => rfl, ?_⟩
    have third : ¬scanned.length + 2 < count := by omega
    have nothing : count - scanned.length - 3 = 0 := by omega
    simp only [List.length_cons, List.length_nil, nothing, if_neg third, List.take_zero,
      List.foldl_nil]
    rcases Nat.lt_trichotomy count (scanned.length + 1) with before | base | cleared
    · -- projections only
      have first : ¬scanned.length < count := by omega
      have second : ¬scanned.length + 1 < count := by omega
      rw [if_neg first, if_neg second, show count - scanned.length = 0 by omega]
      rfl
    · -- the base is replaced
      have first : scanned.length < count := by omega
      have second : ¬scanned.length + 1 < count := by omega
      rw [if_pos first, if_neg second, show count - scanned.length = 1 by omega]
      rfl
    · -- and the file of its changes
      have first : scanned.length < count := by omega
      rw [if_pos first, if_pos cleared, show count - scanned.length = 2 by omega]
      rfl

def JsonlDisk.authorized (disk : JsonlDisk Data View) : JsonlDisk Data View :=
  { disk with authority := true }

theorem JournalsHold.authorized (holds : JournalsHold rules disk log) :
    JournalsHold rules disk.authorized log :=
  ⟨holds.kept, holds.journal, holds.named, holds.marked⟩

theorem JsonlDisk.authorized_of (there : disk.authority = true) : disk.authorized = disk := by
  obtain ⟨authority, commits, projections, pending, catalog, state, delta⟩ := disk
  obtain rfl : authority = true := there
  rfl

theorem run_initializeJournal_rebuilds (holds : JournalsHold rules disk log) (deep : Bool)
    (rebuilds : deep = true ∨ disk.catalogState = none) :
    (Jsonl.initializeJournal rules deep).run JsonlDisk.perform disk =
        (.ok (), ((Jsonl.rebuildCatalogUnlocked rules).run JsonlDisk.perform disk.authorized).2) ∧
      (Jsonl.initializeJournal rules deep).writes JsonlDisk.perform disk =
        (if disk.authority then [] else [.authority]) ++
          (Jsonl.rebuildCatalogUnlocked rules).writes JsonlDisk.perform disk.authorized := by
  obtain ⟨after, rebuilt⟩ : ∃ after, (Jsonl.rebuildCatalogUnlocked rules).run JsonlDisk.perform
      disk.authorized = (.ok (sortCatalog rules
        ((scannedProjections rules disk.authorized log).map (·.catalog))), after) :=
    ⟨_, Prod.ext (writes_rebuildCatalogUnlocked holds.authorized).1 rfl⟩
  cases there : disk.authority with
  | false =>
    have written : disk.perform .authority = disk.authorized := rfl
    have state : disk.authorized.catalogState = disk.catalogState := rfl
    constructor
    · simp [Jsonl.initializeJournal, run_withLock catalogLock_named, run_bind, there, written,
        state, rebuilds, rebuilt]
    · simp [Jsonl.initializeJournal, writes_withLock catalogLock_named, writes_bind, there,
        written, state, rebuilds, rebuilt]
  | true =>
    rw [JsonlDisk.authorized_of there] at rebuilt ⊢
    constructor
    · simp [Jsonl.initializeJournal, run_withLock catalogLock_named, run_bind, there, rebuilds,
        rebuilt]
    · simp [Jsonl.initializeJournal, writes_withLock catalogLock_named, writes_bind, there,
        rebuilds, rebuilt]

theorem run_initializeJournal_marked (marked : disk.catalogState ≠ none) :
    (Jsonl.initializeJournal rules false).run JsonlDisk.perform disk =
      match catalogView rules disk with
      | .ok _ => (FileProgram.forEach disk.pending (Jsonl.recoverPendingSession rules)).run
          JsonlDisk.perform disk.authorized.settled
      | .error error => (.error error, disk.authorized) := by
  have same : catalogView rules disk.authorized = catalogView rules disk := rfl
  have state : disk.authorized.catalogState ≠ none := marked
  have pending : disk.authorized.settled.pending = disk.pending := rfl
  cases there : disk.authority with
  | false =>
    have written : disk.perform .authority = disk.authorized := rfl
    cases seen : catalogView rules disk <;>
      simp [Jsonl.initializeJournal, run_withLock catalogLock_named, run_bind, there, written,
        state, run_readCatalogUnlocked_settled, same, seen, Jsonl.recoverPendingUnlocked,
        FileProgram.run, pending]
  | true =>
    rw [JsonlDisk.authorized_of there] at pending ⊢
    cases seen : catalogView rules disk <;>
      simp [Jsonl.initializeJournal, run_withLock catalogLock_named, run_bind, there, marked,
        run_readCatalogUnlocked_settled, seen, Jsonl.recoverPendingUnlocked, FileProgram.run,
        pending]

theorem JournalsHold.mem_scanned (holds : JournalsHold rules disk log) {id : String}
    (present : log id ≠ []) :
    id ∈ (scannedProjections rules disk log).map (·.snapshot.sessionId) := by
  obtain ⟨projection, reduced⟩ := (holds.kept id).exists_projection present
  refine List.mem_map.mpr ⟨projection, ?_, (holds.projection_session reduced).1⟩
  exact mem_scannedProjections.mpr ⟨id, holds.mem_rows present, reduced⟩

theorem servesAll_rebuilt (holds : JournalsHold rules disk log) :
    ServesAll rules ((Jsonl.rebuildCatalogUnlocked rules).run JsonlDisk.perform disk).2 log := by
  have written := (writes_rebuildCatalogUnlocked holds).2
  have long : (scannedProjections rules disk log).length + 2 <
      ((Jsonl.rebuildCatalogUnlocked rules).writes JsonlDisk.perform disk).length := by
    rw [written]
    simp
  rw [← FileProgram.crashed_all _ _ (Nat.le_refl _)]
  obtain ⟨table, pending, stored, _, _, left⟩ := crashed_rebuildCatalogUnlocked holds
    ((Jsonl.rebuildCatalogUnlocked rules).writes JsonlDisk.perform disk).length
  have all := List.take_of_length_le (show (scannedProjections rules disk log).length ≤
    ((Jsonl.rebuildCatalogUnlocked rules).writes JsonlDisk.perform disk).length by omega)
  rw [all] at stored
  have noChange : ({} : LineFile CatalogDeltaRecordV3).lines.mapM validateCatalogDeltaRecord =
      .ok [] := rfl
  have base := (congrArg JsonlDisk.catalog left).trans (if_pos (by omega))
  have marker := (congrArg JsonlDisk.catalogState left).trans (if_pos long)
  have cleared := (congrArg JsonlDisk.catalogDelta left).trans (if_pos (by omega))
  have projected := congrArg JsonlDisk.projections left
  obtain ⟨view, seen, has⟩ := catalogView_rebuilt holds base marker cleared noChange
  refine (servesAll_iff seen).mpr fun id present => ⟨has id present, ?_⟩
  rw [projected]
  exact (stored id).trans (if_pos (holds.mem_scanned present))

/-- **When the store is opened well**: there is no marker, so that the catalog is rebuilt, or the
catalog can be read, and every session that is not pending is in it, with its projection. -/
theorem opensWell_iff (holds : JournalsHold rules disk log) :
    OpensWell rules disk log ↔ disk.catalogState = none ∨
      ∃ view, catalogView rules disk = .ok view ∧ ∀ id, log id ≠ [] → id ∈ disk.pending ∨
        view.Has id ∧ disk.projections.get? id = projectionFile rules (log id) := by
  by_cases marked : disk.catalogState = none
  · have opened := (run_initializeJournal_rebuilds holds false (.inr marked)).1
    refine iff_of_true ?_ (.inl marked)
    rw [OpensWell, opened]
    exact ⟨rfl, servesAll_rebuilt holds.authorized⟩
  · rw [OpensWell, run_initializeJournal_marked marked]
    cases seen : catalogView rules disk with
    | error error => simp [marked]
    | ok view =>
      obtain ⟨after, view', ran, recovered⟩ := run_recoverPendingSessions
        (⟨holds.kept, holds.journal, holds.named, holds.marked⟩ :
          JournalsHold rules disk.authorized.settled log) disk.pending holds.marked
        (catalogView_settled.trans seen) (by
          intro delta stored
          obtain ⟨_, _, rfl⟩ := Option.map_eq_some_iff.mp stored
          rfl)
      have others : ∀ id, after.projections.get? id = if id ∈ disk.pending ∧ log id ≠ []
          then projectionFile rules (log id) else disk.projections.get? id :=
        recovered.projections
      simp only [ran, true_and, servesAll_iff recovered.seen, recovered.has, others, marked,
        false_or, Except.ok.injEq, exists_eq_left']
      refine forall₂_congr fun id present => ?_
      by_cases pending : id ∈ disk.pending <;> simp [pending, present]

end Opening

/-! ## What a crash leaves -/

section Crashes

variable (rules) in
/-- When a crash after a number of the changes of a rebuild leaves a store that is opened well:
there was no marker; the new marker is written; before that the base is replaced, and the marker
there names the new base already, with changes that can be read as long as they are not cleared; or
the base is not replaced, and the catalog there can be read and has every session that is not
pending, with its projection or one that the rebuild has written. -/
def RebuildSurvives (disk : JsonlDisk Data View) (log : CommitLog Data) (count : Nat) : Prop :=
  let projections := scannedProjections rules disk log
  let marker := some ((rebuiltCatalog rules projections).checksum rules)
  disk.catalogState = none ∨
  projections.length + 2 < count ∨
  (count = projections.length + 2 ∧ disk.catalogState = marker) ∨
  (count = projections.length + 1 ∧ disk.catalogState = marker ∧
    ∃ delta records, disk.catalogDelta = some delta ∧
      delta.lines.mapM validateCatalogDeltaRecord = .ok records) ∨
  (count ≤ projections.length ∧ ∃ view, catalogView rules disk = .ok view ∧
    ∀ id, log id ≠ [] → id ∈ disk.pending ∨ view.Has id ∧
      (id ∈ (projections.take count).map (·.snapshot.sessionId) ∨
        disk.projections.get? id = projectionFile rules (log id)))

variable {disk : JsonlDisk Data View} {log : CommitLog Data}

theorem opensWell_based (holds : JournalsHold rules disk log) {after : JsonlDisk Data View}
    (holds' : JournalsHold rules after log)
    (base : after.catalog = some (rebuiltCatalog rules (scannedProjections rules disk log)))
    (projected : ∀ id, log id ≠ [] → after.projections.get? id = projectionFile rules (log id)) :
    OpensWell rules after log ↔ after.catalogState = none ∨
      after.catalogState =
        some ((rebuiltCatalog rules (scannedProjections rules disk log)).checksum rules) ∧
      ∃ delta records, after.catalogDelta = some delta ∧
        delta.lines.mapM validateCatalogDeltaRecord = .ok records := by
  rw [opensWell_iff holds']
  refine or_congr_right ⟨?_, ?_⟩
  · rintro ⟨view, seen, _⟩
    obtain ⟨base', state, delta, records, there, _, marker, same, stored, read, _⟩ :=
      catalogView_eq_ok.mp seen
    obtain rfl := Option.mem_unique base there
    exact ⟨by rw [marker, same], delta, records, stored, read⟩
  · rintro ⟨marker, delta, records, stored, read⟩
    obtain ⟨view, seen, has⟩ := catalogView_rebuilt holds base marker stored read
    exact ⟨view, seen, fun id present => .inr ⟨has id present, projected id present⟩⟩

theorem opensWell_crashed_rebuild (holds : JournalsHold rules disk log) (count : Nat) :
    OpensWell rules
        ((Jsonl.rebuildCatalogUnlocked rules).crashed JsonlDisk.perform disk count) log ↔
      RebuildSurvives rules disk log count := by
  obtain ⟨table, pending, stored, within, kept, left⟩ :=
    crashed_rebuildCatalogUnlocked holds count
  have holds' : JournalsHold rules
      ((Jsonl.rebuildCatalogUnlocked rules).crashed JsonlDisk.perform disk count) log := by
    rw [left]
    exact ⟨holds.kept, holds.journal, holds.named,
      fun id member => holds.marked id (within id member)⟩
  have catalog := congrArg JsonlDisk.catalog left
  have state := congrArg JsonlDisk.catalogState left
  have delta := congrArg JsonlDisk.catalogDelta left
  have table' := congrArg JsonlDisk.projections left
  have pending' := congrArg JsonlDisk.pending left
  simp only at catalog state delta table' pending'
  have projected : (scannedProjections rules disk log).length ≤ count → ∀ id, log id ≠ [] →
      ((Jsonl.rebuildCatalogUnlocked rules).crashed JsonlDisk.perform disk count).projections.get?
        id = projectionFile rules (log id) := by
    intro all id present
    rw [table', stored, List.take_of_length_le all, if_pos (holds.mem_scanned present)]
  rcases Nat.lt_or_ge (scannedProjections rules disk log).length count with based | before
  · -- the base is replaced
    rw [if_pos based] at catalog
    rw [opensWell_based holds holds' catalog (projected (Nat.le_of_lt based)), state, delta]
    have noChange : ({} : LineFile CatalogDeltaRecordV3).lines.mapM validateCatalogDeltaRecord =
        .ok [] := rfl
    rcases Nat.lt_trichotomy count ((scannedProjections rules disk log).length + 2) with
      uncleared | rfl | marked
    · obtain rfl : count = (scannedProjections rules disk log).length + 1 := by omega
      have few : ¬(scannedProjections rules disk log).length + 2 <
        (scannedProjections rules disk log).length + 1 := by omega
      have beyond : ¬(scannedProjections rules disk log).length + 1 ≤
        (scannedProjections rules disk log).length := by omega
      simp [RebuildSurvives, few, beyond]
    · have beyond : ¬(scannedProjections rules disk log).length + 2 ≤
        (scannedProjections rules disk log).length := by omega
      simp [RebuildSurvives, noChange, beyond]
    · have cleared : (scannedProjections rules disk log).length + 1 < count := by omega
      simp [RebuildSurvives, marked, cleared, noChange]
  · -- only projections are written
    have few : ¬(scannedProjections rules disk log).length + 2 < count := by omega
    have fewer : ¬(scannedProjections rules disk log).length + 1 < count := by omega
    have based : ¬(scannedProjections rules disk log).length < count := by omega
    rw [if_neg based] at catalog
    rw [if_neg fewer] at delta
    rw [if_neg few] at state
    have same : catalogView rules
        ((Jsonl.rebuildCatalogUnlocked rules).crashed JsonlDisk.perform disk count) =
          catalogView rules disk := by
      rw [catalogView, catalogView, catalog, delta, state]
    have right : ∀ id, table.get? id = projectionFile rules (log id) ↔
        id ∈ ((scannedProjections rules disk log).take count).map (·.snapshot.sessionId) ∨
          disk.projections.get? id = projectionFile rules (log id) := by
      intro id
      rw [stored]
      by_cases written : id ∈ ((scannedProjections rules disk log).take count).map
          (·.snapshot.sessionId)
      · exact iff_of_true (if_pos written) (.inl written)
      · rw [if_neg written, or_iff_right written]
    have other : count ≠ (scannedProjections rules disk log).length + 2 := by omega
    have other' : count ≠ (scannedProjections rules disk log).length + 1 := by omega
    rw [opensWell_iff holds', same, state, pending', kept (by omega), table']
    simp only [RebuildSurvives, few, other, other', before, right, false_and, false_or, true_and]

theorem crashed_deepScrub (count : Nat) :
    (Jsonl.deepScrub rules).crashed JsonlDisk.perform disk count =
      (Jsonl.rebuildCatalogUnlocked rules).crashed JsonlDisk.perform disk count := by
  have same : (Jsonl.deepScrub rules).writes JsonlDisk.perform disk =
      (Jsonl.rebuildCatalogUnlocked rules).writes JsonlDisk.perform disk := by
    rw [Jsonl.deepScrub, writes_withLock catalogLock_named, writes_bind]
    rcases (Jsonl.rebuildCatalogUnlocked rules).run JsonlDisk.perform disk with
      ⟨error | sessions, after⟩ <;> simp
  rw [FileProgram.crashed, same, FileProgram.crashed]

/-- **A crash of a deep scrub or of a rebuilding initialization leaves a store that a plain
initialization opens, with every session listed and every projection right, exactly when
`RebuildSurvives` says so.** An initialization may write the authority first. -/
theorem interrupted_rebuild_opens_iff (holds : JournalsHold rules disk log) (count : Nat) :
    (OpensWell rules ((Jsonl.deepScrub rules).crashed JsonlDisk.perform disk count) log ↔
      RebuildSurvives rules disk log count) ∧
    ∀ deep, deep = true ∨ disk.catalogState = none →
      (OpensWell rules
          ((Jsonl.initializeJournal rules deep).crashed JsonlDisk.perform disk count) log ↔
        RebuildSurvives rules disk log (count - if disk.authority then 0 else 1)) := by
  constructor
  · rw [crashed_deepScrub]
    exact opensWell_crashed_rebuild holds count
  · intro deep rebuilds
    have written := (run_initializeJournal_rebuilds holds deep rebuilds).2
    have same : ∀ changes, RebuildSurvives rules disk.authorized log changes ↔
        RebuildSurvives rules disk log changes := fun changes => Iff.rfl
    have rebuilt := opensWell_crashed_rebuild holds.authorized
    cases there : disk.authority with
    | true =>
      rw [JsonlDisk.authorized_of there] at rebuilt written
      rw [there, if_pos rfl, List.nil_append] at written
      rw [FileProgram.crashed, written]
      exact rebuilt count
    | false =>
      rw [there] at written
      rw [FileProgram.crashed, written]
      cases count with
      | zero => exact opensWell_crashed_rebuild holds 0
      | succ count => exact (rebuilt count).trans (same count)

end Crashes

/-! ## A scrub that is stopped behind the base -/

/-- Rules under which the checksum of a catalog counts its sessions. -/
def countingRules : SessionRules Unit Unit :=
  { oneDigestRules with catalogChecksum := fun sessions _ => toString sessions.length }

/-- The log after the first commit of the first session. -/
def createdLog : CommitLog Unit := Function.update (fun _ => []) "session-1" [creatingCommit]

/-- The store after the first commit of the first session. -/
def createdDisk : JsonlDisk Unit Unit :=
  ((jsonlSessionJournalV3 countingRules).appendCommit (.fresh countingRules) creatingCommit).2

theorem creatingCommit_valid :
    validateSessionCommitV3 countingRules creatingCommit = .ok creatingCommit := by
  decide +kernel

theorem creatingCommit_admitted : jsonlNaming.admits creatingCommit.sessionId = true := by
  decide +kernel

theorem creatingCommit_follows : assertSessionCommitAgainstHeadV3 creatingCommit
    (head (flattenEntries ([] : List (SessionCommitV3 Unit)))) = .ok () := by
  decide +kernel

theorem creatingCommit_appended : appendToLog countingRules [] creatingCommit =
    .ok (sessionCommitReceiptV3 creatingCommit false, [creatingCommit]) := by
  decide +kernel

theorem createdDisk_holds : JsonlHolds countingRules createdDisk createdLog := by
  have fresh : JsonlHolds countingRules (.fresh countingRules) fun _ => [] := .fresh
  have holds := (jsonl_implements.appendCommit fresh creatingCommit).2
  have log : (CommitLog.appendCommit countingRules jsonlNaming (fun _ => []) creatingCommit).2 =
      createdLog := by
    simp only [CommitLog.appendCommit, creatingCommit_valid, creatingCommit_admitted,
      creatingCommit_appended, Bool.not_true, Bool.false_eq_true, ↓reduceIte]
    rfl
  rw [log] at holds
  exact holds

theorem createdDisk_eq : ∃ projection : SessionProjectionV3 Unit Unit,
    projectionOf countingRules [creatingCommit] = some projection ∧
    createdDisk = (refreshed (((JsonlDisk.fresh countingRules).perform
      (.markPending "session-1")).perform (.appendRecord "session-1" creatingCommit)) "session-1"
        projection [creatingCommit]).perform (.unlinkPending "session-1") := by
  have present : createdLog "session-1" ≠ [] := by simp [createdLog]
  obtain ⟨projection, reduced⟩ := (createdDisk_holds.kept "session-1").exists_projection present
  have reduced' : projectionOf countingRules [creatingCommit] = some projection := reduced
  have fresh : JsonlHolds countingRules (.fresh countingRules) fun _ => [] := .fresh
  have ran := run_appendCommit_fresh fresh creatingCommit_valid creatingCommit_admitted rfl
    creatingCommit_follows reduced'
  exact ⟨projection, reduced', congrArg Prod.snd ran⟩

theorem createdDisk_journals : JournalsHold countingRules createdDisk createdLog where
  kept := createdDisk_holds.kept
  journal id := ⟨false, createdDisk_holds.journal id⟩
  named id stored := by
    obtain ⟨projection, _, same⟩ := createdDisk_eq
    rw [same] at stored
    rcases (Table.upsert_has _ _ _ _).mp stored with before | rfl
    · exact absurd rfl before
    · decide +kernel
  marked id member := by
    obtain ⟨projection, _, same⟩ := createdDisk_eq
    rw [same] at member
    simp [JsonlDisk.perform, refreshed, JsonlDisk.fresh, JsonlDisk.withJournal] at member

theorem createdDisk_scanned {projection : SessionProjectionV3 Unit Unit}
    (reduced : projectionOf countingRules [creatingCommit] = some projection) :
    scannedProjections countingRules createdDisk createdLog = [projection] := by
  have rows : createdDisk.commits.rows.map (·.1) = ["session-1"] := by
    obtain ⟨_, _, same⟩ := createdDisk_eq
    rw [same]
    rfl
  have reduced' : projectionOf countingRules (createdLog "session-1") = some projection := reduced
  rw [scannedProjections, rows, sortIds, List.mergeSort_singleton, List.filterMap_cons, reduced']
  rfl

theorem stopped_scrub_not_opened :
    JournalsHold countingRules createdDisk createdLog ∧
      OpensWell countingRules createdDisk createdLog ∧
      ¬OpensWell countingRules
        ((Jsonl.deepScrub countingRules).crashed JsonlDisk.perform createdDisk 2) createdLog := by
  refine ⟨createdDisk_journals, ?_, ?_⟩
  · obtain ⟨view, seen, knows⟩ := createdDisk_holds.catalog
    refine (opensWell_iff createdDisk_journals).mpr (.inr ⟨view, seen, fun id present => .inr ?_⟩)
    obtain ⟨projection, reduced⟩ := (createdDisk_holds.kept id).exists_projection present
    refine ⟨?_, createdDisk_holds.projection id trivial⟩
    rw [CatalogView.Has, (knows id trivial).session, reduced]
    exact Option.some_ne_none _
  · obtain ⟨projection, reduced, same⟩ := createdDisk_eq
    have scanned := createdDisk_scanned reduced
    have old : createdDisk.catalogState = some (toString 0) := by
      rw [same]
      simp [JsonlDisk.perform, refreshed, JsonlDisk.fresh, JsonlDisk.withJournal,
        CatalogCacheV3.checksum, countingRules, catalogCache, sortCatalog]
    have new : (rebuiltCatalog countingRules [projection]).checksum countingRules = toString 1 := by
      simp [rebuiltCatalog, CatalogCacheV3.checksum, countingRules, catalogCache, sortCatalog]
    rw [crashed_deepScrub, opensWell_crashed_rebuild createdDisk_journals]
    have different : Nat.repr 0 ≠ Nat.repr 1 := by decide
    simp [RebuildSurvives, scanned, old, new, different]

theorem marked_scrub_opened :
    OpensWell countingRules
      ((Jsonl.deepScrub countingRules).crashed JsonlDisk.perform createdDisk 4) createdLog := by
  obtain ⟨projection, reduced, _⟩ := createdDisk_eq
  have scanned := createdDisk_scanned reduced
  refine (interrupted_rebuild_opens_iff createdDisk_journals 4).1.mpr (.inr (.inl ?_))
  simp [scanned]

end Praxis.Session
