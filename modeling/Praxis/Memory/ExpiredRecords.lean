import Praxis.Memory.Updates

/-!
# Expired records

`get` judges by the parsed time whether a record has expired, `search` and `assertSession` by the
texts of the column and the clock. What they judge expired stays in its row: it keeps its key and
its place in the scope until it is forgotten. So records expire uniformly exactly as long as none
does (`expiresUniformly_iff`).
-/

namespace Praxis.Memory

set_option autoImplicit false

open Praxis.Foundations

variable {Digest : Type}

/-! ## Readers and writers -/

/-- `search` leaves the record out. -/
def MemoryRow.unlisted (row : MemoryRow) (now : Int) : Bool :=
  !row.expires.all fun expires => (stamp now).textLt expires

/-- `assertSession` rejects a session that was shown the record. -/
def MemoryRow.revokes (row : MemoryRow) (now : Int) : Bool :=
  row.expires.any (·.textLe (stamp now))

/-- What `get` and `search` show of a scope. -/
def MemoryStore.shown (store : MemoryStore Digest) (now : Int) (owner : String) : List MemoryRow :=
  store.memories.values.filter fun row =>
    row.owner == owner && !row.expired now && !row.unlisted now

/-- A new upsert that expects no record is accepted once its checks have passed. -/
def MemoryStore.Accepts (store : MemoryStore Digest) (now : Int) (owner key : String) : Prop :=
  ∀ access scope input operationId newId digest, input.key = key → input.expectedRevision = 0 →
    ∃ done, store.writeNew now access scope input operationId newId owner digest = .ok done

structure ExpiresUniformly (store : MemoryStore Digest) (now : Int) : Prop where
  readers : ∀ id row, store.memories.get? id = some row →
    row.expired now = row.unlisted now ∧ row.unlisted now = row.revokes now
  /-- An expired record is replaced as if it was absent. -/
  renews : ∀ id row, store.memories.get? id = some row →
    (row.expired now || row.unlisted now || row.revokes now) = true →
    store.Accepts now row.owner row.key
  /-- An expired record takes no place in its scope. -/
  room : ∀ owner key, store.rowAt owner key = none → (store.shown now owner).length < 2_000 →
    store.Accepts now owner key

theorem unlisted_eq_revokes (row : MemoryRow) (now : Int) : row.unlisted now = row.revokes now := by
  unfold MemoryRow.unlisted MemoryRow.revokes
  cases row.expires with
  | none => rfl
  | some expires =>
    rw [Option.all_some, Option.any_some, Timestamp.textLt, Timestamp.textLe, ← decide_not]
    exact decide_eq_decide.mpr String.not_lt

/-! ## What the operations do -/

section Operations

variable {store after : MemoryStore Digest} {now : Int} {access : MemoryAccessV1}
  {scope : MemoryScopeV1} {id owner : String}

/-- `get` takes a record of the scope as absent exactly if it is judged expired. -/
theorem get_absent_iff (owned : store.owner access scope false = .ok owner) {row : MemoryRow}
    (found : store.memories.get? id = some row) (inside : row.owner = owner) :
    store.get now access scope id = .error memoryAbsent ↔ row.expired now = true := by
  have own : (row.owner == owner) = true := beq_iff_eq.mpr inside
  cases expired : row.expired now with
  | true =>
    refine iff_of_true ?_ rfl
    simp only [MemoryStore.get, owned, ok_bind, found, Option.filter_some, expired,
      Bool.not_true, Bool.and_false, Bool.false_eq_true, if_false, orError, error_bind]
  | false =>
    refine iff_of_false ?_ Bool.false_ne_true
    simp only [MemoryStore.get, owned, ok_bind, found, Option.filter_some, own, expired,
      Bool.not_false, Bool.and_true, if_true, orError]
    unfold MemoryStore.expose
    cases session : access.session? with
    | none => simp [ok_bind, pure_ok]
    | some sessionId =>
      cases asserted : store.assertSession now sessionId with
      | ok _ => simp [asserted, ok_bind, pure_ok]
      | error error =>
        have revoked : store.assertSession now sessionId = .error contextRevoked := by
          unfold MemoryStore.assertSession ensure at asserted ⊢
          split at asserted
          · cases asserted
          · next rejected => rw [if_neg rejected]
        simp [revoked, contextRevoked, memoryAbsent]

/-- `search` ranks the records of the scope that are listed. -/
theorem search_ranks [DecidableEq Digest] {rules : MemoryRules Digest} {query : String} {limit : Int}
    {found : List LongTermMemoryV1}
    (accepted : store.search rules now access scope query limit = .ok (found, after)) :
    ∃ owner, store.owner access scope false = .ok owner ∧
      found = MemoryStore.rank rules query limit.toNat
        (((store.memories.rows.filter fun row => row.2.owner == owner && !row.2.unlisted now).mergeSort
          fun left right => decide (left.1 ≤ right.1)).map (·.2.document)) := by
  simp only [MemoryStore.search, bind_eq_ok, pure_eq_ok, Prod.mk.injEq] at accepted
  obtain ⟨_, _, _, _, owner, owned, _, _, rfl, rfl⟩ := accepted
  refine ⟨owner, owned, ?_⟩
  simp only [MemoryRow.unlisted, Bool.not_not]

/-- `assertSession` rejects a session that is blocked or was shown a record that revokes it. -/
theorem assertSession_ok_iff {sessionId : String} : store.assertSession now sessionId = .ok () ↔
    (∀ projectId row, (∃ id, store.exposures.contains ⟨sessionId, projectId, id⟩ = true ∧
      store.memories.get? id = some row) → row.revokes now = false) ∧
      sessionId ∉ store.blockedSessions := by
  rw [MemoryStore.assertSession_ok]
  refine and_congr_left fun _ => ?_
  rw [← Bool.not_eq_true, MemoryStore.showsExpired, List.any_eq_true]
  constructor
  · rintro unshown projectId row ⟨id, exposed, found⟩
    by_contra revokes
    refine unshown ⟨_, MemoryStore.mem_exposed.mpr exposed, ?_⟩
    simpa [found, MemoryRow.revokes] using revokes
  · rintro current ⟨⟨session, projectId, id⟩, shown, judged⟩
    simp only [Bool.and_eq_true, beq_iff_eq, Option.any_eq_true] at judged
    obtain ⟨rfl, row, found, revokes⟩ := judged
    have exposed := MemoryStore.mem_exposed.mp shown
    have kept := current projectId row ⟨id, exposed, found⟩
    rw [MemoryRow.revokes, Option.any_eq_false] at kept
    obtain ⟨expires, given, past⟩ := revokes
    exact Bool.false_ne_true ((kept expires given).symm.trans past)

/-- An upsert that passes its checks and whose operation is new. -/
theorem upsert_eq_writeNew [DecidableEq Digest] {rules : MemoryRules Digest} {input : MemoryWriteV1}
    {operationId newId : String}
    (admitted : store.Admits rules now (.upsert access scope input operationId newId))
    (bounds : bounded operationId 128 = .ok ()) (new : store.receipts.get? operationId = none) :
    store.upsert rules now access scope input operationId newId =
      store.writeNew now access scope input operationId newId (ownerOf access scope)
        (rules.hash (.upsert (ownerOf access scope) input access)) := by
  obtain ⟨asserted, ⟨owner, owned⟩, valid⟩ := admitted
  obtain rfl := MemoryStore.owner_eq owned
  have session : access.session?.forM (store.assertSession now) = .ok () :=
    MemoryStore.forM_ok.mpr asserted
  simp [MemoryStore.upsert, valid, MemoryStore.write, session, owned, MemoryStore.receipt, bounds,
    new, ok_bind, pure_ok]

end Operations

/-! ## Uniform expiry -/

/-- **In every store that calls lead to**, the records expire uniformly at an instant exactly if
none is judged expired then. -/
theorem expiresUniformly_iff [DecidableEq Digest] {rules : MemoryRules Digest}
    {turns : List (Int × MemoryCall)} {store : MemoryStore Digest}
    (run : Run (Serves rules) {} turns store) (now : Int) :
    ExpiresUniformly store now ↔ ∀ id row, store.memories.get? id = some row →
      row.expired now = false ∧ row.revokes now = false := by
  have consistent := (MemoryStore.run_keeps MemoryStore.consistent_empty run).1
  constructor
  · intro uniform id row found
    rw [← Bool.or_eq_false_iff, ← Bool.not_eq_true]
    intro expired
    have judged : (row.expired now || row.unlisted now || row.revokes now) = true := by
      rw [unlisted_eq_revokes, Bool.or_assoc, Bool.or_self]
      exact expired
    -- the row has a revision, so that a write that expects none is a conflict
    obtain ⟨done, accepted⟩ := uniform.renews id row found judged
      { projectId := "" } .project
      { key := row.key, kind := .preference, content := "", expectedRevision := 0 } "" ""
      (rules.hash (.forget "" "" 0)) rfl rfl
    obtain ⟨current, _⟩ := MemoryStore.writeNew_ok.mp accepted
    rw [MemoryStore.rowAt_eq consistent found rfl rfl] at current
    exact absurd current (consistent.positive id row found).ne'
  · intro current
    have listed : ∀ id row, store.memories.get? id = some row → row.unlisted now = false :=
      fun id row found => (unlisted_eq_revokes row now).trans (current id row found).2
    refine ⟨fun id row found => ?_, fun id row found expired => ?_, fun owner key absent room => ?_⟩
    · exact ⟨(current id row found).1.trans (listed id row found).symm, unlisted_eq_revokes row now⟩
    · rw [(current id row found).1, listed id row found, (current id row found).2] at expired
      cases expired
    · rintro access scope input operationId newId digest rfl create
      have shown : store.shown now owner =
          store.memories.values.filter fun row => row.owner == owner := by
        refine List.filter_congr fun row member => ?_
        obtain ⟨entry, there, rfl⟩ := List.mem_map.mp member
        have found := (Table.mem_rows_iff _).mp there
        simp [(current _ _ found).1, listed _ _ found]
      rw [shown] at room
      exact ⟨_, MemoryStore.writeNew_ok.mpr ⟨by rw [absent, create]; rfl, .inr room, rfl, rfl⟩⟩

/-- A record is written that is to expire at 1000. -/
def expiringTurns : List (Int × MemoryCall) :=
  openProject ++
    [(2, .upsert hostAccess .project (style (some (stamp 1000)) 0) "operation-1" "memory-1")]

theorem expiringTurns_run : Run (Serves plainRules) {} expiringTurns (servedAll expiringTurns) := by
  refine Run.of_allowed ⟨trivial, trivial, ?_, trivial⟩
  exact (Table.get?_eq_none_iff _).mpr (by decide +kernel)

theorem uniform_before_expiry : ExpiresUniformly (servedAll expiringTurns) 500 := by
  refine (expiresUniformly_iff expiringTurns_run 500).mpr fun id row found => ?_
  have all : ∀ row ∈ (servedAll expiringTurns).memories.values,
      row.expired 500 = false ∧ row.revokes 500 = false := by
    decide +kernel
  exact all row (Table.mem_values_of_get? _ found)

/-- The expired record is in the way of an upsert under its key that expects none. -/
theorem expired_record_keeps_key : Run (Serves plainRules) {} expiringTurns
      (servedAll expiringTurns) ∧ ¬ExpiresUniformly (servedAll expiringTurns) 2000 := by
  refine ⟨expiringTurns_run, fun uniform => ?_⟩
  have there : ((servedAll expiringTurns).memories.get? "memory-1").map
      (fun row => (row.owner, row.key, row.revokes 2000)) = some ("project-1", "style", true) := by
    decide +kernel
  obtain ⟨row, found, same⟩ := Option.map_eq_some_iff.mp there
  simp only [Prod.mk.injEq] at same
  obtain ⟨owner, key, revokes⟩ := same
  obtain ⟨done, accepted⟩ := uniform.renews _ row found (by simp [revokes]) hostAccess .project
    (style none 0) "operation-2" "memory-2" (.forget "" "" 0) key.symm rfl
  obtain ⟨current, _⟩ := MemoryStore.writeNew_ok.mp accepted
  rw [owner] at current
  exact absurd current (by decide +kernel)

end Praxis.Memory
