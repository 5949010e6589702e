import Praxis.Foundations.Runs
import Praxis.Memory.Effects

/-!
# Revoked memory

What the service showed to whom, and which sessions have lost what they were shown, is a matter of
the history. `Watched` carries both beside the tables: `shown` grows when a record is answered or a
session inherits, `revoked` when a memory that was shown is forgotten or expires, or its project
withdraws it.

The tables follow this history, with one exception. Forgetting a memory and switching off a project
write the sessions they revoke into `blocked_sessions`; expiry is only read off the present rows.
An upsert that replaces a record after it expired gives its readers their session back
(`renewal_restores`). Where no step does so, a session that is revoked stays so (`revocation_lasts`).
-/

namespace Praxis.Memory

set_option autoImplicit false

open Praxis.Foundations

variable {Digest : Type}

/-! ## The history -/

/-- The tables, the clock, and what the history has shown and revoked. -/
structure Watched (Digest : Type) where
  store : MemoryStore Digest := {}
  now : Int
  shown : List MemoryExposure := []
  revoked : List String := []

/-- What an access is shown. -/
def seen (access : MemoryAccessV1) (records : List LongTermMemoryV1) : List MemoryExposure :=
  match access.session? with
  | none => []
  | some sessionId => records.map fun record =>
    { sessionId
      projectId := access.projectId
      memoryId := record.id }

def newlyShown (shown : List MemoryExposure) : MemoryCall → MemoryAnswer → List MemoryExposure
  | .get access _ _, .record record => seen access [record]
  | .search access _ _ _, .records records => seen access records
  | .inheritSession parent child, _ =>
    (shown.filter (·.sessionId == parent)).map fun exposure => { exposure with sessionId := child }
  | _, _ => []

/-- What was shown was forgotten, or its project withdrew it. -/
def takenAway (before after : MemoryStore Digest) (exposure : MemoryExposure) : Bool :=
  (before.memories.contains exposure.memoryId && !after.memories.contains exposure.memoryId) ||
    switched before after exposure.projectId

/-- The sessions that a call revokes. A session that inherits from a revoked one is revoked. -/
def newlyRevoked (before after : MemoryStore Digest) (shown : List MemoryExposure)
    (revoked : List String) (call : MemoryCall) : List String :=
  ((shown.filter (takenAway before after)).map (·.sessionId)) ++
    match call with
    | .inheritSession parent child => if revoked.contains parent then [child] else []
    | _ => []

/-- Time passes, or the service is called. -/
inductive MemoryEvent where
  | clock (now : Int)
  | call (call : MemoryCall)

variable [DecidableEq Digest]

def Watched.step (rules : MemoryRules Digest) (watched : Watched Digest) :
    MemoryEvent → Watched Digest
  | .clock now => { watched with
      now
      revoked := watched.revoked ++ (watched.shown.filter fun exposure =>
        (watched.store.memories.get? exposure.memoryId).any (·.expired now)).map (·.sessionId) }
  | .call call =>
    match watched.store.call rules watched.now call with
    | .error _ => watched
    | .ok (answer, after) => { watched with
        store := after
        shown := watched.shown ++ newlyShown watched.shown call answer
        revoked := watched.revoked ++
          newlyRevoked watched.store after watched.shown watched.revoked call }

/-- Some session that is not blocked was shown the memory. -/
def MemoryStore.OpenTo (store : MemoryStore Digest) (id : String) : Prop :=
  ∃ exposure, store.exposures.contains exposure = true ∧ exposure.memoryId = id ∧
    exposure.sessionId ∉ store.blockedSessions

/-- The clock does not go back, and `randomUUID` answers ids that are not in use. -/
def Possible (watched : Watched Digest) : MemoryEvent → Prop
  | .clock now => watched.now ≤ now
  | .call call => watched.store.FreshIds call

/-- The upsert is accepted, is no replay, and replaces a record that has expired and that some
session that is not blocked was shown. -/
def MemoryStore.Renews (rules : MemoryRules Digest) (store : MemoryStore Digest) (now : Int)
    (access : MemoryAccessV1) (scope : MemoryScopeV1) (input : MemoryWriteV1)
    (operationId newId : String) : Prop :=
  (∃ done, store.upsert rules now access scope input operationId newId = .ok done) ∧
    store.receipts.get? operationId = none ∧
    ∃ owner id row, store.owner access scope true = .ok owner ∧ store.memories.get? id = some row ∧
      row.owner = owner ∧ row.key = input.key ∧ row.expired now = true ∧ store.OpenTo id

/-- No expired record that a session was shown is renewed, and the text of the clock agrees with its
instant on which of them have expired, as texts with years of four digits do. -/
def Lasting (rules : MemoryRules Digest) (watched : Watched Digest) : MemoryEvent → Prop
  | .clock now => ∀ id row expires instant, watched.store.memories.get? id = some row →
      row.expires = some expires → expires.parsed = some instant → instant ≤ now →
      watched.store.OpenTo id → expires.textLe (stamp now) = true
  | .call (.upsert access scope input operationId newId) =>
    ¬ watched.store.Renews rules watched.now access scope input operationId newId
  | .call _ => True

/-- A step of a history that lets revocations last. -/
def LastingStep (rules : MemoryRules Digest) (watched : Watched Digest) (event : MemoryEvent)
    (next : Watched Digest) : Prop :=
  (Possible watched event ∧ Lasting rules watched event) ∧ next = watched.step rules event

/-! ## What the tables know of the history -/

def MemoryStore.ShowsExpired (store : MemoryStore Digest) (now : Int) (sessionId : String) : Prop :=
  ∃ exposure row expires instant, store.exposures.contains exposure = true ∧
    exposure.sessionId = sessionId ∧ store.memories.get? exposure.memoryId = some row ∧
    row.expires = some expires ∧ expires.parsed = some instant ∧ instant ≤ now ∧
    expires.textLe (stamp now) = true

/-- What the service lets no longer through. -/
def MemoryStore.Closed (store : MemoryStore Digest) (now : Int) (sessionId : String) : Prop :=
  sessionId ∈ store.blockedSessions ∨ store.ShowsExpired now sessionId

/-- The tables hold what was shown, and close what was revoked. -/
structure Watched.Faithful (watched : Watched Digest) : Prop where
  consistent : watched.store.Consistent
  shown : ∀ exposure ∈ watched.shown, watched.store.exposures.contains exposure = true
  revoked : ∀ sessionId ∈ watched.revoked, watched.store.Closed watched.now sessionId

section Steps

variable {rules : MemoryRules Digest} {store after : MemoryStore Digest} {now : Int}
  {sessionId : String} {Replaced : MemoryRow → Prop} {exposure : MemoryExposure}

omit [DecidableEq Digest] in
theorem Evolves.closed (evolves : Evolves Replaced store after)
    (lasting : ∀ id row, store.memories.get? id = some row → Replaced row →
      row.expired now = true → ¬ store.OpenTo id)
    (closed : store.Closed now sessionId) : after.Closed now sessionId := by
  rcases closed with blocked | ⟨exposure, row, expires, instant, shown, rfl, found, dated, parsed,
    reached, text⟩
  · exact .inl (evolves.blocked blocked)
  rcases evolves.rows _ row found with kept | ⟨replaced, _⟩ | closed
  · exact .inr ⟨exposure, row, expires, instant, evolves.exposed exposure shown, rfl, kept, dated,
      parsed, reached, text⟩
  · have expired : row.expired now = true := by simp [MemoryRow.expired, dated, parsed, reached]
    refine .inl (evolves.blocked (Classical.byContradiction fun free => ?_))
    exact lasting _ row found replaced expired ⟨exposure, shown, rfl, free⟩
  · exact .inl (closed exposure shown rfl)

omit [DecidableEq Digest] in
theorem Evolves.withdraws (evolves : Evolves Replaced store after)
    (shown : store.exposures.contains exposure = true)
    (lost : takenAway store after exposure = true) : exposure.sessionId ∈ after.blockedSessions := by
  simp only [takenAway, Bool.or_eq_true, Bool.and_eq_true, Bool.not_eq_true'] at lost
  rcases lost with ⟨before, gone⟩ | off
  · obtain ⟨row, found⟩ := (Table.contains_iff _).mp before
    rcases evolves.rows _ row found with kept | ⟨_, present⟩ | closed
    · rw [Table.contains, kept] at gone
      cases gone
    · rw [present] at gone
      cases gone
    · exact closed exposure shown rfl
  · exact evolves.withdrawn exposure shown off

/-- The tables after an accepted call: what may be replaced, and what was shown. -/
structure CallDone (watched : Watched Digest) (call : MemoryCall) (answer : MemoryAnswer)
    (after : MemoryStore Digest) : Prop where
  consistent : after.Consistent
  evolves : ∃ Replaced, Evolves Replaced watched.store after ∧
    ∀ id row, watched.store.memories.get? id = some row → Replaced row →
      row.expired watched.now = true → ¬ watched.store.OpenTo id
  shown : ∀ exposure ∈ newlyShown watched.shown call answer,
    after.exposures.contains exposure = true

theorem mem_seen {access : MemoryAccessV1} {records : List LongTermMemoryV1} :
    exposure ∈ seen access records ↔ ∃ sessionId, access.session? = some sessionId ∧
      ∃ record ∈ records, exposure =
        { sessionId
          projectId := access.projectId
          memoryId := record.id } := by
  unfold seen
  cases access.session? with
  | none => simp
  | some sessionId => simp [eq_comm]

omit [DecidableEq Digest] in
/-- Records that stay the same rows stay consistent. -/
theorem MemoryStore.Consistent.of_memories (consistent : store.Consistent)
    (memories : after.memories = store.memories) : after.Consistent where
  positive := fun id row found => consistent.positive id row (memories ▸ found)
  unique := fun id row other row' found found' =>
    consistent.unique id row other row' (memories ▸ found) (memories ▸ found')

theorem call_done {watched : Watched Digest} {call : MemoryCall} {answer : MemoryAnswer}
    (faithful : watched.Faithful) (possible : Possible watched (.call call))
    (lasting : Lasting rules watched (.call call))
    (accepted : watched.store.call rules watched.now call = .ok (answer, after)) :
    CallDone watched call answer after := by
  have consistent := faithful.consistent
  cases call with
  | addProject projectId root =>
    obtain ⟨project, added, rfl⟩ := answered_eq_ok.mp accepted
    obtain ⟨evolves, memories⟩ := MemoryStore.addProject_evolves added
    exact ⟨consistent.of_memories memories, ⟨fun _ => False, evolves, fun _ _ _ no => no.elim⟩,
      fun _ member => absurd member List.not_mem_nil⟩
  | configure projectId mode userAccess =>
    obtain ⟨project, configured, rfl⟩ := answered_eq_ok.mp accepted
    obtain ⟨evolves, memories⟩ := MemoryStore.configure_evolves configured
    exact ⟨consistent.of_memories memories, ⟨fun _ => False, evolves, fun _ _ _ no => no.elim⟩,
      fun _ member => absurd member List.not_mem_nil⟩
  | inheritSession parent child =>
    simp only [MemoryStore.call, Except.ok.injEq, Prod.mk.injEq] at accepted
    obtain ⟨rfl, rfl⟩ := accepted
    refine ⟨consistent.of_memories MemoryStore.inheritSession_memories,
      ⟨fun _ => False, MemoryStore.inheritSession_evolves parent child, fun _ _ _ no => no.elim⟩,
      fun exposure member => ?_⟩
    simp only [newlyShown, List.mem_map, List.mem_filter, beq_iff_eq] at member
    obtain ⟨source, ⟨shown, from_⟩, rfl⟩ := member
    exact MemoryStore.inheritSession_exposures.mpr
      (.inr ⟨source, faithful.shown source shown, from_, rfl⟩)
  | get access scope id =>
    obtain ⟨record, got, rfl⟩ := answered_eq_ok.mp accepted
    obtain ⟨exposed, _⟩ := MemoryStore.expose_ok (MemoryStore.get_ok got).2
    refine ⟨consistent.of_memories exposed.memories,
      ⟨fun _ => False, exposed.evolves, fun _ _ _ no => no.elim⟩, fun exposure member => ?_⟩
    obtain ⟨sessionId, carries, other, same, rfl⟩ := mem_seen.mp member
    obtain rfl := List.mem_singleton.mp same
    exact exposed.shown sessionId carries
  | search access scope query limit =>
    obtain ⟨records, found, rfl⟩ := answered_eq_ok.mp accepted
    obtain ⟨evolves, memories, _, shown⟩ :=
      MemoryStore.exposeAll_ok (MemoryStore.search_ok found)
    refine ⟨consistent.of_memories memories,
      ⟨fun _ => False, evolves, fun _ _ _ no => no.elim⟩, fun exposure member => ?_⟩
    obtain ⟨sessionId, carries, record, among, rfl⟩ := mem_seen.mp member
    exact shown record among sessionId carries
  | upsert access scope input operationId newId =>
    obtain ⟨receipt, upserted, rfl⟩ := answered_eq_ok.mp accepted
    have written := upserted
    simp only [MemoryStore.upsert, bind_eq_ok] at written
    obtain ⟨_, _, written⟩ := written
    obtain ⟨owner, owned, evolves⟩ := MemoryStore.write_evolves consistent possible written
    refine ⟨MemoryStore.write_consistent consistent written, ⟨_, evolves, ?_⟩,
      fun _ member => absurd member List.not_mem_nil⟩
    rintro id row found ⟨absent, rowOwner, rowKey⟩ expired open_
    exact lasting ⟨⟨_, upserted⟩, absent, owner, id, row, owned, found, rowOwner, rowKey, expired,
      open_⟩
  | forget access scope id expectedRevision operationId =>
    obtain ⟨receipt, forgotten, rfl⟩ := answered_eq_ok.mp accepted
    obtain ⟨owner, _, ⟨rfl, _⟩ | ⟨_, new⟩⟩ := MemoryStore.forget_ok forgotten
    · exact ⟨consistent, ⟨fun _ => False, .refl _, fun _ _ _ no => no.elim⟩,
        fun _ member => absurd member List.not_mem_nil⟩
    · obtain ⟨evolves, still⟩ := MemoryStore.forgetNew_evolves consistent new
      exact ⟨still, ⟨_, evolves, fun _ _ _ no => no.elim⟩,
        fun _ member => absurd member List.not_mem_nil⟩
  | importMemories projectId scope memories operation newIds =>
    obtain ⟨receipts, imported, rfl⟩ := answered_eq_ok.mp accepted
    obtain ⟨adds, still, _⟩ :=
      MemoryStore.importMemories_adds consistent possible.1 possible.2 imported
    exact ⟨still, ⟨fun _ => False, adds.evolves, fun _ _ _ no => no.elim⟩,
      fun _ member => absurd member List.not_mem_nil⟩

/-- The tables keep following the history. -/
theorem Watched.Faithful.step {watched next : Watched Digest} {event : MemoryEvent}
    (faithful : watched.Faithful) (step : LastingStep rules watched event next) :
    next.Faithful := by
  obtain ⟨⟨possible, lasting⟩, rfl⟩ := step
  cases event with
  | clock now =>
    refine ⟨faithful.consistent, faithful.shown, fun sessionId member => ?_⟩
    -- a memory that was shown and has expired by the clock closes the session
    have closes : ∀ exposure row expires instant,
        watched.store.exposures.contains exposure = true →
        watched.store.memories.get? exposure.memoryId = some row →
        row.expires = some expires → expires.parsed = some instant → instant ≤ now →
        watched.store.Closed now exposure.sessionId := by
      intro exposure row expires instant shown found dated parsed reached
      by_cases blocked : exposure.sessionId ∈ watched.store.blockedSessions
      · exact .inl blocked
      · refine .inr ⟨exposure, row, expires, instant, shown, rfl, found, dated, parsed, reached, ?_⟩
        exact lasting _ row expires instant found dated parsed reached
          ⟨exposure, shown, rfl, blocked⟩
    simp only [Watched.step, List.mem_append, List.mem_map, List.mem_filter] at member
    rcases member with old | ⟨exposure, ⟨shown, expired⟩, rfl⟩
    · rcases faithful.revoked sessionId old with blocked | ⟨exposure, row, expires, instant, shown,
        rfl, found, dated, parsed, reached, _⟩
      · exact .inl blocked
      · exact closes exposure row expires instant shown found dated parsed
          (Int.le_trans reached possible)
    · obtain ⟨row, found, expired⟩ := (Option.any_eq_true _ _).mp expired
      obtain ⟨expires, dated, expired⟩ := (Option.any_eq_true _ _).mp expired
      obtain ⟨instant, parsed, reached⟩ := (Option.any_eq_true _ _).mp expired
      exact closes exposure row expires instant (faithful.shown exposure shown) found dated parsed
        (of_decide_eq_true reached)
  | call call =>
    simp only [Watched.step]
    split
    · exact faithful
    · rename_i answer after accepted
      have done := call_done faithful possible lasting accepted
      obtain ⟨Replaced, evolves, renewed⟩ := done.evolves
      refine ⟨done.consistent, fun exposure member => ?_, fun sessionId member => ?_⟩
      · rcases List.mem_append.mp member with old | new
        · exact evolves.exposed exposure (faithful.shown exposure old)
        · exact done.shown exposure new
      · rcases List.mem_append.mp member with old | new
        · exact evolves.closed renewed (faithful.revoked sessionId old)
        rcases List.mem_append.mp new with lost | inherited
        · obtain ⟨exposure, among, rfl⟩ := List.mem_map.mp lost
          obtain ⟨shown, lost⟩ := List.mem_filter.mp among
          exact .inl (evolves.withdraws (faithful.shown exposure shown) lost)
        · cases call with
          | inheritSession parent child =>
            simp only [MemoryStore.call, Except.ok.injEq, Prod.mk.injEq] at accepted
            obtain ⟨_, rfl⟩ := accepted
            by_cases parentRevoked : watched.revoked.contains parent = true
            · simp only [if_pos parentRevoked] at inherited
              obtain rfl := List.mem_singleton.mp inherited
              rcases faithful.revoked parent (List.contains_iff_mem.mp parentRevoked) with
                blocked | ⟨exposure, row, expires, instant, shown, from_, found, dated, parsed,
                  reached, text⟩
              · exact .inl (MemoryStore.inheritSession_blocked.mpr (.inr ⟨rfl, blocked⟩))
              · refine .inr ⟨{ exposure with sessionId := sessionId }, row, expires, instant,
                  MemoryStore.inheritSession_exposures.mpr (.inr ⟨exposure, shown, from_, rfl⟩),
                  rfl, ?_, dated, parsed, reached, text⟩
                rw [MemoryStore.inheritSession_memories]
                exact found
            · simp only [if_neg parentRevoked] at inherited
              cases inherited
          | _ => cases inherited

/-! ## Revocation lasts -/

/-- What a session that is shut out gets: no assertion, no record, and no write. -/
structure ShutOut (rules : MemoryRules Digest) (store : MemoryStore Digest) (now : Int)
    (sessionId : String) : Prop where
  assertSession : store.assertSession now sessionId = .error contextRevoked
  get : ∀ access scope id, access.session? = some sessionId →
    ∃ error, store.get now access scope id = .error error
  search : ∀ access scope query limit, access.session? = some sessionId →
    (∃ error, store.search rules now access scope query limit = .error error) ∨
      store.search rules now access scope query limit = .ok ([], store)
  upsert : ∀ access scope input operationId newId, access.session? = some sessionId →
    ∃ error, store.upsert rules now access scope input operationId newId = .error error

theorem MemoryStore.Closed.shutOut (closed : store.Closed now sessionId) :
    ShutOut rules store now sessionId := by
  have shut : store.showsExpired now sessionId = true ∨ sessionId ∈ store.blockedSessions := by
    rcases closed with blocked | ⟨exposure, row, expires, _, shown, same, found, dated, _, _, text⟩
    · exact .inr blocked
    · exact .inl (showsExpired_iff.mpr ⟨exposure, row, expires, shown, same, found, dated, text⟩)
  have rejects := assertSession_rejects shut
  constructor
  case assertSession => exact rejects
  case get =>
    intro access scope id carries
    cases answer : store.get now access scope id with
    | error error => exact ⟨error, rfl⟩
    | ok done =>
      obtain ⟨_, passed⟩ := expose_ok (get_ok answer).2
      rw [passed sessionId carries] at rejects
      cases rejects
  case search =>
    intro access scope query limit carries
    cases answer : store.search rules now access scope query limit with
    | error error => exact .inl ⟨error, rfl⟩
    | ok done =>
      obtain ⟨records, after⟩ := done
      have shown := search_ok answer
      cases records with
      | nil =>
        obtain rfl := foldlM_nil_eq_ok.mp shown
        exact .inr rfl
      | cons record rest =>
        obtain ⟨_, first, _⟩ := foldlM_cons_eq_ok.mp shown
        rw [expose_rejects carries shut] at first
        cases first
  case upsert =>
    intro access scope input operationId newId carries
    cases answer : store.upsert rules now access scope input operationId newId with
    | error error => exact ⟨error, rfl⟩
    | ok done =>
      simp only [MemoryStore.upsert, bind_eq_ok] at answer
      obtain ⟨_, _, written⟩ := answer
      rw [(write_ok written).1 sessionId carries] at rejects
      cases rejects

theorem Watched.revoked_grows (rules : MemoryRules Digest) (watched : Watched Digest)
    (event : MemoryEvent) : watched.revoked ⊆ (watched.step rules event).revoked := by
  cases event with
  | clock now => exact List.subset_append_left _ _
  | call call =>
    simp only [Watched.step]
    split
    · exact List.Subset.refl _
    · exact List.subset_append_left _ _

omit [DecidableEq Digest] in
/-- The history of a store that has just been created follows its tables. -/
theorem Watched.Faithful.start (now : Int) : ({ now } : Watched Digest).Faithful where
  consistent :=
    { positive := fun _ _ found => nomatch found
      unique := fun _ _ _ _ found => nomatch found }
  shown := fun _ member => nomatch member
  revoked := fun _ member => nomatch member

/-- **Revoked memory stays revoked**: a session that has lost a memory it was shown is shut out after
every further history in which no expired memory is renewed. -/
theorem revocation_lasts (rules : MemoryRules Digest) (start : Int) (events more : List MemoryEvent)
    (watched later : Watched Digest) (history : Run (LastingStep rules) { now := start } events watched)
    (further : Run (LastingStep rules) watched more later) :
    ∀ sessionId ∈ watched.revoked, ShutOut rules later.store later.now sessionId := by
  intro sessionId revoked
  have before : watched.Faithful :=
    history.invariant Watched.Faithful (fun faithful step => faithful.step step) (.start start)
  have after : later.Faithful :=
    further.invariant Watched.Faithful (fun faithful step => faithful.step step) before
  have still : sessionId ∈ later.revoked := by
    refine further.invariant (sessionId ∈ ·.revoked) (fun {_ event _} member step => ?_) revoked
    obtain ⟨_, rfl⟩ := step
    exact Watched.revoked_grows rules _ event member
  exact (after.revoked sessionId still).shutOut

end Steps

/-! ## A memory that was forgotten, and one that was renewed -/

/-- Rules under which a request is its own digest and no text holds a secret. -/
def plainRules : MemoryRules MemoryRequestV1 where
  hash := id
  hash_injective := Function.injective_id
  lowerCase := id
  queryWords _ := []
  localeCompare := compare
  holdsSecret _ := false

def hostAccess : MemoryAccessV1 :=
  { projectId := "project-1"
    host := true }

def readerAccess : MemoryAccessV1 :=
  { projectId := "project-1"
    sessionId := some "session-1" }

def style (expiresAt : Option Timestamp) (expectedRevision : Int) : MemoryWriteV1 where
  key := "style"
  kind := .preference
  content := "Short answers."
  expiresAt := expiresAt
  expectedRevision := expectedRevision

/-- A memory is written, with or without an expiry, and a session is shown it. -/
def shownEvents (expiresAt : Option Timestamp) : List MemoryEvent :=
  [.call (.addProject "project-1" "/work"), .call (.configure "project-1" (some .explicit) none),
   .call (.upsert hostAccess .project (style expiresAt 0) "operation-1" "memory-1"),
   .call (.get readerAccess .project "memory-1")]

def forgottenEvents : List MemoryEvent :=
  shownEvents none ++ [.call (.forget hostAccess .project "memory-1" 1 "operation-2")]

/-- The project is switched off and on, and the memory is written anew. -/
def restoredEvents : List MemoryEvent :=
  [.call (.configure "project-1" (some .off) none),
   .call (.configure "project-1" (some .explicit) none),
   .call (.upsert hostAccess .project (style none 0) "operation-3" "memory-2")]

/-- The memory expires, and is then written again. -/
def renewedEvents : List MemoryEvent :=
  shownEvents (some (stamp 1000)) ++
    [.clock 2000, .call (.upsert hostAccess .project (style none 1) "operation-2" "memory-2")]

/-- The tables and their history after events. -/
def watchedAfter (events : List MemoryEvent) : Watched MemoryRequestV1 :=
  events.foldl (Watched.step plainRules) { now := 0 }

theorem revocation_forgotten :
    "session-1" ∈ (watchedAfter forgottenEvents).revoked ∧
      (watchedAfter (forgottenEvents ++ restoredEvents)).store.memories.contains "memory-2" = true ∧
      ShutOut plainRules (watchedAfter (forgottenEvents ++ restoredEvents)).store
        (watchedAfter (forgottenEvents ++ restoredEvents)).now "session-1" := by
  have lost : "session-1" ∈ (watchedAfter forgottenEvents).revoked := by
    decide +kernel
  have history : Run (LastingStep plainRules) { now := 0 } forgottenEvents
      (watchedAfter forgottenEvents) := by
    refine Run.of_allowed ⟨⟨trivial, trivial⟩, ⟨trivial, trivial⟩, ⟨rfl, ?_⟩, ⟨trivial, trivial⟩,
      ⟨trivial, trivial⟩, trivial⟩
    rintro ⟨_, _, owner, id, row, _, found, _⟩
    cases found
  have none : (watchedAfter (forgottenEvents ++ restoredEvents.take 2)).store.memories.values = [] := by
    decide +kernel
  have further : Run (LastingStep plainRules) (watchedAfter forgottenEvents) restoredEvents
      (watchedAfter (forgottenEvents ++ restoredEvents)) := by
    have after : watchedAfter (forgottenEvents ++ restoredEvents) =
        restoredEvents.foldl (Watched.step plainRules) (watchedAfter forgottenEvents) :=
      List.foldl_append ..
    rw [after]
    refine Run.of_allowed ⟨⟨trivial, trivial⟩, ⟨trivial, trivial⟩, ⟨?_, ?_⟩, trivial⟩
    · exact (Table.get?_eq_none_iff _).mpr (by decide +kernel)
    · rintro ⟨_, _, owner, id, row, _, found, _⟩
      exact absurd (none ▸ Table.mem_values_of_get? _ found) List.not_mem_nil
  exact ⟨lost, by decide +kernel,
    revocation_lasts plainRules 0 _ _ _ _ history further "session-1" lost⟩

/-- A session whose memory has expired is let through again once the memory is written anew. -/
theorem renewal_restores :
    Run (fun watched event next => Possible watched event ∧ next = watched.step plainRules event)
        { now := 0 } renewedEvents (watchedAfter renewedEvents) ∧
      "session-1" ∈ (watchedAfter renewedEvents).revoked ∧
      (watchedAfter renewedEvents).store.assertSession (watchedAfter renewedEvents).now "session-1" =
        .ok () := by
  refine ⟨Run.of_allowed ⟨trivial, trivial, rfl, trivial, ?_, ?_, trivial⟩, ?_, ?_⟩
  · with_unfolding_all change (0 : Int) ≤ 2000
    omega
  · exact (Table.get?_eq_none_iff _).mpr (by decide +kernel)
  · decide +kernel
  · refine MemoryStore.assertSession_ok.mpr ?_
    decide +kernel

end Praxis.Memory
