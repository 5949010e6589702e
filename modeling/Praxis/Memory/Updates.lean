import Praxis.Memory.Revocation

/-!
# No lost memory update

Clients call one store, each call at once. An upsert that expects a revision is a compare-and-swap
on the record of its owner and key, and a receipt under its operation id makes it safe to repeat;
forgetting and importing work alike. `UpdateLaws` is what this amounts to, for every run of calls.

Two things bound it. A revision is counted in the row of its record, and a key that is forgotten and
written anew counts from 1 again, so the record that an upsert meets need not be the one it was made
for unless the key had a record all the time. And a repeated call passes the checks of its own time
before its receipt is looked up.
-/

namespace Praxis.Memory

set_option autoImplicit false

open Praxis.Foundations

variable {Digest : Type} [DecidableEq Digest]

/-! ## Runs of calls -/

/-- The tables after a call at an instant. A call that rejects leaves them as they were. -/
def MemoryStore.served (rules : MemoryRules Digest) (store : MemoryStore Digest)
    (turn : Int × MemoryCall) : MemoryStore Digest :=
  match store.call rules turn.1 turn.2 with
  | .ok (_, after) => after
  | .error _ => store

/-- A call of some client is served. -/
def Serves (rules : MemoryRules Digest) (store : MemoryStore Digest) (turn : Int × MemoryCall)
    (after : MemoryStore Digest) : Prop :=
  store.FreshIds turn.2 ∧ after = store.served rules turn

/-- The owner of the memories of a scope, whoever may reach them. -/
def ownerOf (access : MemoryAccessV1) (scope : MemoryScopeV1) : String :=
  if scope = .user then "user:local" else access.projectId

def MemoryCall.operation? : MemoryCall → Option (String × MemoryRequestV1)
  | .upsert access scope input operationId _ =>
    some (operationId, .upsert (ownerOf access scope) input access)
  | .forget access scope id expectedRevision operationId =>
    some (operationId, .forget (ownerOf access scope) id expectedRevision)
  | _ => none

def importAccess (projectId : String) : MemoryAccessV1 where
  projectId := projectId
  host := true

def MemoryCall.batch? : MemoryCall → Option (String × MemoryRequestV1)
  | .importMemories projectId scope memories operation _ =>
    some (operation, .importBatch (ownerOf (importAccess projectId) scope) memories)
  | _ => none

/-- The call is accepted, and is not the repetition of an earlier one. -/
structure TakesEffect (rules : MemoryRules Digest) (store : MemoryStore Digest)
    (turn : Int × MemoryCall) : Prop where
  accepted : ∃ done, store.call rules turn.1 turn.2 = .ok done
  first : ∀ operation request, turn.2.operation? = some (operation, request) →
    store.receipts.get? operation = none
  firstBatch : ∀ operation request, turn.2.batch? = some (operation, request) →
    store.importBatches.get? operation = none

/-- The same call, up to the ids that `randomUUID` would answer. -/
inductive Repeats : MemoryCall → MemoryCall → Prop
  | upsert (access : MemoryAccessV1) (scope : MemoryScopeV1) (input : MemoryWriteV1)
      (operationId newId other : String) :
      Repeats (.upsert access scope input operationId newId) (.upsert access scope input operationId other)
  | forget (access : MemoryAccessV1) (scope : MemoryScopeV1) (id : String) (expectedRevision : Int)
      (operationId : String) :
      Repeats (.forget access scope id expectedRevision operationId)
        (.forget access scope id expectedRevision operationId)
  | importMemories (projectId : String) (scope : MemoryScopeV1) (memories : List MemoryWriteV1)
      (operation : String) (newIds others : Nat → String) :
      Repeats (.importMemories projectId scope memories operation newIds)
        (.importMemories projectId scope memories operation others)

/-- What a call is checked for before its receipt is looked up: the access, the session of an
upsert, and records that do not expire in the past. -/
def MemoryStore.Admits (rules : MemoryRules Digest) (store : MemoryStore Digest) (now : Int) :
    MemoryCall → Prop
  | .upsert access scope input _ _ =>
    (∀ sessionId, access.session? = some sessionId → store.assertSession now sessionId = .ok ()) ∧
      (∃ owner, store.owner access scope true = .ok owner) ∧ validateWrite rules now input = .ok ()
  | .forget access scope _ _ _ => ∃ owner, store.owner access scope true = .ok owner
  | .importMemories projectId scope memories _ _ =>
    (∃ owner, store.owner (importAccess projectId) scope true = .ok owner) ∧
      ∀ item ∈ memories, validateWrite rules now item = .ok ()
  | _ => True

/-! ## The laws -/

structure UpdateLaws (rules : MemoryRules Digest) (store : MemoryStore Digest) : Prop where
  /-- An upsert that expects the revision of a record takes effect only if the record was neither
  written nor forgotten since, given that its key always had a record. -/
  edits : ∀ turns middle more after now access scope input operationId newId id row,
    Run (Serves rules) store turns middle → Run (Serves rules) middle more after →
    store.rowAt (ownerOf access scope) input.key = some (id, row) →
    input.expectedRevision = row.revision →
    TakesEffect rules after (now, .upsert access scope input operationId newId) →
    (∀ front back between, turns ++ more = front ++ back → Run (Serves rules) store front between →
      between.rowAt (ownerOf access scope) input.key ≠ none) →
    middle.rowAt (ownerOf access scope) input.key = some (id, row)
  /-- An upsert that expects revision 0 takes effect only if its key has no record. -/
  creates : ∀ now access scope input operationId newId,
    input.expectedRevision = 0 →
    TakesEffect rules store (now, .upsert access scope input operationId newId) →
    store.rowAt (ownerOf access scope) input.key = none
  /-- An operation takes effect at most once. -/
  once : ∀ turn turns after turn' operation request request', store.FreshIds turn.2 →
    TakesEffect rules store turn → turn.2.operation? = some (operation, request) →
    Run (Serves rules) (store.served rules turn) turns after →
    turn'.2.operation? = some (operation, request') → ¬ TakesEffect rules after turn'
  /-- So does an import. -/
  onceBatch : ∀ turn turns after turn' operation request request', store.FreshIds turn.2 →
    TakesEffect rules store turn → turn.2.batch? = some (operation, request) →
    Run (Serves rules) (store.served rules turn) turns after →
    turn'.2.batch? = some (operation, request') → ¬ TakesEffect rules after turn'
  /-- A call that is repeated answers what it answered first, if it passes its checks again. -/
  repeats : ∀ now call again answer next turns after later, store.FreshIds call →
    store.call rules now call = .ok (answer, next) → Repeats call again →
    Run (Serves rules) next turns after → after.Admits rules later again →
    after.call rules later again = .ok (answer, after)
  /-- An operation id that was used for another request is rejected, and nothing changes. -/
  conflicts : ∀ now call answer next turns after later other operation request request',
    store.FreshIds call → store.call rules now call = .ok (answer, next) →
    call.operation? = some (operation, request) →
    Run (Serves rules) next turns after → other.operation? = some (operation, request') →
    request' ≠ request →
    (∃ error, after.call rules later other = .error error) ∧
      after.served rules (later, other) = after
  conflictsBatch : ∀ now call answer next turns after later other operation request request',
    store.FreshIds call → store.call rules now call = .ok (answer, next) →
    call.batch? = some (operation, request) →
    Run (Serves rules) next turns after → other.batch? = some (operation, request') →
    request' ≠ request →
    (∃ error, after.call rules later other = .error error) ∧
      after.served rules (later, other) = after
  /-- An import that takes effect writes every record whose own operation was not done before, and
  leaves every record that was there. -/
  imports : ∀ now projectId scope memories operation newIds,
    store.FreshIds (.importMemories projectId scope memories operation newIds) →
    TakesEffect rules store (now, .importMemories projectId scope memories operation newIds) →
    ∃ results, store.call rules now (.importMemories projectId scope memories operation newIds) =
        .ok (.receipts results,
          store.served rules (now, .importMemories projectId scope memories operation newIds)) ∧
      store.Adds (store.served rules (now, .importMemories projectId scope memories operation newIds)) ∧
      ∀ i item, memories[i]? = some item → ∃ receipt, results[i]? = some receipt ∧
        MemoryStore.ItemDone rules now (importAccess projectId) scope
          (ownerOf (importAccess projectId) scope) store
          (store.served rules (now, .importMemories projectId scope memories operation newIds))
          (MemoryStore.itemOperation operation i) (newIds i) item receipt

/-! ## What a call leaves -/

namespace MemoryStore

variable {rules : MemoryRules Digest} {store after : MemoryStore Digest} {now : Int}
  {call : MemoryCall} {answer : MemoryAnswer}

variable {access : MemoryAccessV1} {scope : MemoryScopeV1}
  {owner key id id' operationId newId operation : String} {row row' : MemoryRow}
  {input : MemoryWriteV1} {digest : Digest} {result : MemoryReceiptV1}
  {turns : List (Int × MemoryCall)} {request : MemoryRequestV1} {next : MemoryStore Digest}

omit [DecidableEq Digest] in
theorem owner_eq {write : Bool} (owned : store.owner access scope write = .ok owner) :
    owner = ownerOf access scope := by
  simp only [MemoryStore.owner, bind_eq_ok, pure_eq_ok] at owned
  obtain ⟨_, _, _, _, _, _, rfl⟩ := owned
  rfl

/-- What every accepted call keeps. -/
structure Served (store after : MemoryStore Digest) : Prop where
  consistent : after.Consistent
  recalls : store.Recalls after
  /-- A record that is still under its key is the same, or has a later revision. -/
  moves : ∀ owner key id row id' row', store.rowAt owner key = some (id, row) →
    after.rowAt owner key = some (id', row') → id' = id ∧ (row' = row ∨ row.revision < row'.revision)

omit [DecidableEq Digest] in
theorem moves_of_sub (consistent : store.Consistent)
    (sub : ∀ id row, after.memories.get? id = some row → store.memories.get? id = some row)
    (before : store.rowAt owner key = some (id, row))
    (now_ : after.rowAt owner key = some (id', row')) :
    id' = id ∧ (row' = row ∨ row.revision < row'.revision) := by
  obtain ⟨stored, owned, keyed⟩ := rowAt_eq_some now_
  have there := rowAt_eq consistent (sub _ _ stored) owned keyed
  rw [before] at there
  obtain ⟨rfl, rfl⟩ := Prod.mk.inj (Option.some.inj there)
  exact ⟨rfl, .inl rfl⟩

omit [DecidableEq Digest] in
theorem moves_of_kept (consistent : after.Consistent)
    (kept : ∀ id row, store.memories.get? id = some row → after.memories.get? id = some row)
    (before : store.rowAt owner key = some (id, row))
    (now_ : after.rowAt owner key = some (id', row')) :
    id' = id ∧ (row' = row ∨ row.revision < row'.revision) := by
  obtain ⟨stored, owned, keyed⟩ := rowAt_eq_some before
  have there := rowAt_eq consistent (kept _ _ stored) owned keyed
  rw [now_] at there
  obtain ⟨rfl, rfl⟩ := Prod.mk.inj (Option.some.inj there)
  exact ⟨rfl, .inl rfl⟩

omit [DecidableEq Digest] in
theorem Served.of_memories (consistent : store.Consistent) (memories : after.memories = store.memories)
    (recalls : store.Recalls after) : Served store after where
  consistent :=
    { positive := fun id row found => consistent.positive id row (memories ▸ found)
      unique := fun id row other row' found found' =>
        consistent.unique id row other row' (memories ▸ found) (memories ▸ found') }
  recalls := recalls
  moves := fun _ _ _ _ _ _ => moves_of_sub consistent fun _ _ found => memories ▸ found

omit [DecidableEq Digest] in
theorem writeNew_moves (consistent : store.Consistent)
    (accepted : store.writeNew now access scope input operationId newId owner digest =
      .ok (result, after)) {owner' : String} (before : store.rowAt owner' key = some (id, row))
    (now_ : after.rowAt owner' key = some (id', row')) :
    id' = id ∧ (row' = row ∨ row.revision < row'.revision) := by
  obtain ⟨_, _, _, rfl⟩ := writeNew_ok.mp accepted
  obtain ⟨stored, owned, keyed⟩ := rowAt_eq_some now_
  rcases saveRecord_get?.mp stored with ⟨rfl, rfl⟩ | ⟨_, there, _⟩
  · -- the key is the one that was written, and its record the one that was found
    have same : store.rowAt owner input.key = some (id, row) := by
      rw [← before]
      exact congrArg₂ store.rowAt owned keyed
    rw [same]
    refine ⟨rfl, .inr ?_⟩
    change row.revision < row.revision + 1
    omega
  · have found := rowAt_eq consistent there owned keyed
    rw [before] at found
    obtain ⟨rfl, rfl⟩ := Prod.mk.inj (Option.some.inj found)
    exact ⟨rfl, .inl rfl⟩

omit [DecidableEq Digest] in
theorem exposeAll_receipts {records : List LongTermMemoryV1}
    (accepted : records.foldlM (fun store record => store.expose now access record) store =
      .ok after) : after.receipts = store.receipts ∧ after.importBatches = store.importBatches := by
  induction records generalizing store with
  | nil =>
    obtain rfl := foldlM_nil_eq_ok.mp accepted
    exact ⟨rfl, rfl⟩
  | cons record rest ih =>
    obtain ⟨middle, first, others⟩ := foldlM_cons_eq_ok.mp accepted
    have later := ih others
    unfold expose at first
    split at first
    · obtain rfl := Except.ok.inj first
      exact later
    · simp only [bind_eq_ok, pure_eq_ok] at first
      obtain ⟨_, _, rfl⟩ := first
      exact later

theorem call_served (consistent : store.Consistent) (fresh : store.FreshIds call)
    (accepted : store.call rules now call = .ok (answer, after)) : Served store after := by
  cases call with
  | addProject projectId root =>
    obtain ⟨project, added, rfl⟩ := answered_eq_ok.mp accepted
    unfold addProject at added
    simp only at added
    split at added
    · simp only [pure_eq_ok, Prod.mk.injEq] at added
      obtain ⟨_, rfl⟩ := added
      exact .of_memories consistent rfl (.refl _)
    · simp only [pure_eq_ok, Prod.mk.injEq] at added
      obtain ⟨_, rfl⟩ := added
      exact .of_memories consistent rfl ⟨fun _ _ found => found, fun _ _ found => found⟩
  | configure projectId mode userAccess =>
    obtain ⟨project, configured, rfl⟩ := answered_eq_ok.mp accepted
    simp only [configure, bind_eq_ok, pure_eq_ok, Prod.mk.injEq] at configured
    obtain ⟨previous, _, _, rfl⟩ := configured
    split
    · exact .of_memories consistent rfl ⟨fun _ _ found => found, fun _ _ found => found⟩
    · exact .of_memories consistent rfl ⟨fun _ _ found => found, fun _ _ found => found⟩
  | inheritSession parent child =>
    simp only [MemoryStore.call, Except.ok.injEq, Prod.mk.injEq] at accepted
    obtain ⟨_, rfl⟩ := accepted
    refine .of_memories consistent inheritSession_memories ?_
    unfold inheritSession
    split <;> exact ⟨fun _ _ found => found, fun _ _ found => found⟩
  | get access scope id =>
    obtain ⟨record, got, rfl⟩ := answered_eq_ok.mp accepted
    have shown : [record].foldlM (fun store record => store.expose now access record) store =
        .ok after := foldlM_cons_eq_ok.mpr ⟨after, (get_ok got).2, foldlM_nil_eq_ok.mpr rfl⟩
    obtain ⟨receipts, batches⟩ := exposeAll_receipts shown
    exact .of_memories consistent (expose_ok (get_ok got).2).1.memories
      ⟨fun _ _ found => receipts ▸ found, fun _ _ found => batches ▸ found⟩
  | search access scope query limit =>
    obtain ⟨records, found, rfl⟩ := answered_eq_ok.mp accepted
    obtain ⟨receipts, batches⟩ := exposeAll_receipts (search_ok found)
    obtain ⟨_, memories, _⟩ :=
      @exposeAll_ok _ _ _ _ (fun _ => False) _ _ (search_ok found)
    exact .of_memories consistent memories
      ⟨fun _ _ found => receipts ▸ found, fun _ _ found => batches ▸ found⟩
  | upsert access scope input operationId newId =>
    obtain ⟨receipt, upserted, rfl⟩ := answered_eq_ok.mp accepted
    simp only [MemoryStore.upsert, bind_eq_ok] at upserted
    obtain ⟨_, _, written⟩ := upserted
    refine ⟨write_consistent consistent written, (write_recalls written).1, ?_⟩
    intro owner key id row id' row' before now_
    obtain ⟨_, _, _, ⟨rfl, _⟩ | ⟨_, new⟩⟩ := write_ok written
    · exact moves_of_sub consistent (fun _ _ found => found) before now_
    · exact writeNew_moves consistent new before now_
  | forget access scope id expectedRevision operationId =>
    obtain ⟨receipt, forgotten, rfl⟩ := answered_eq_ok.mp accepted
    obtain ⟨owner, _, ⟨rfl, _⟩ | ⟨absent, new⟩⟩ := forget_ok forgotten
    · exact .of_memories consistent rfl (.refl _)
    · obtain ⟨_, _, _, _, _, memories, receipts, batches, _⟩ := forgetNew_ok new
      refine ⟨(forgetNew_evolves consistent new).2, recalls_of_upsert absent receipts batches, ?_⟩
      intro owner key id row id' row' before now_
      refine moves_of_sub consistent (fun other row stored => ?_) before now_
      rw [memories, Table.get?_filter] at stored
      exact stored.1
  | importMemories projectId scope memories operation newIds =>
    obtain ⟨receipts, imported, rfl⟩ := answered_eq_ok.mp accepted
    obtain ⟨adds, still, recalls⟩ := importMemories_adds consistent fresh.1 fresh.2 imported
    exact ⟨still, recalls, fun _ _ _ _ _ _ => moves_of_kept still adds.kept⟩

theorem served_of_ok (accepted : store.call rules now call = .ok (answer, after)) :
    store.served rules (now, call) = after := by
  rw [served, accepted]

theorem served_of_error {error : MemoryError} (rejected : store.call rules now call = .error error) :
    store.served rules (now, call) = store := by
  rw [served, rejected]

theorem Serves.keeps {turn : Int × MemoryCall} (consistent : store.Consistent)
    (serves : Serves rules store turn after) : Served store after := by
  obtain ⟨fresh, rfl⟩ := serves
  obtain ⟨now, call⟩ := turn
  cases result : store.call rules now call with
  | error error =>
    rw [served_of_error result]
    exact .of_memories consistent rfl (.refl _)
  | ok done =>
    rw [served_of_ok result]
    exact call_served consistent fresh result

/-- Calls one after the other keep the tables consistent and forget no receipt. -/
theorem run_keeps (consistent : store.Consistent) (run : Run (Serves rules) store turns after) :
    after.Consistent ∧ store.Recalls after := by
  induction run with
  | nil => exact ⟨consistent, .refl _⟩
  | snoc _ last ih =>
    obtain ⟨still, recalls⟩ := ih
    have kept := Serves.keeps still last
    exact ⟨kept.consistent, recalls.trans kept.recalls⟩

theorem run_moves (consistent : store.Consistent) (run : Run (Serves rules) store turns after)
    (present : ∀ front back between, turns = front ++ back → Run (Serves rules) store front between →
      between.rowAt owner key ≠ none) (before : store.rowAt owner key = some (id, row)) :
    ∃ row', after.rowAt owner key = some (id, row') ∧ (row' = row ∨ row.revision < row'.revision) := by
  induction run with
  | nil => exact ⟨row, before, .inl rfl⟩
  | @snoc middle after turns turn run last ih =>
    obtain ⟨middleRow, there, grown⟩ := ih fun front back between split =>
      present front (back ++ [turn]) between (by rw [split, List.append_assoc])
    have kept := Serves.keeps (run_keeps consistent run).1 last
    have still := present (turns ++ [turn]) [] after (by simp) (.snoc run last)
    obtain ⟨place, now_⟩ := Option.ne_none_iff_exists'.mp still
    obtain ⟨same, moved⟩ := kept.moves owner key id middleRow place.1 place.2 there now_
    refine ⟨place.2, by rw [now_, ← same], ?_⟩
    rcases moved with same | later
    · rw [same]
      exact grown
    · rcases grown with same | earlier
      · exact .inr (same ▸ later)
      · exact .inr (Int.lt_trans earlier later)

/-! ## Receipts -/

theorem operation_recorded (accepted : store.call rules now call = .ok (answer, after))
    (carries : call.operation? = some (operation, request)) : ∃ receipt, answer = .receipt receipt ∧
      after.receipts.get? operation = some (rules.hash request, receipt) ∧
      (store.receipts.get? operation = none ∨
        store.receipts.get? operation = some (rules.hash request, receipt)) := by
  cases call with
  | upsert access scope input operationId newId =>
    obtain ⟨rfl, rfl⟩ := Prod.mk.inj (Option.some.inj carries)
    obtain ⟨receipt, upserted, rfl⟩ := answered_eq_ok.mp accepted
    simp only [MemoryStore.upsert, bind_eq_ok] at upserted
    obtain ⟨_, _, written⟩ := upserted
    obtain ⟨_, _, ⟨owner, owned, saved⟩, _⟩ := write_recalls written
    rw [owner_eq owned] at saved
    refine ⟨receipt, rfl, saved, ?_⟩
    obtain ⟨_, _, _, ⟨rfl, _⟩ | ⟨absent, _⟩⟩ := write_ok written
    · exact .inr saved
    · exact .inl absent
  | forget access scope id expectedRevision operationId =>
    obtain ⟨rfl, rfl⟩ := Prod.mk.inj (Option.some.inj carries)
    obtain ⟨receipt, forgotten, rfl⟩ := answered_eq_ok.mp accepted
    obtain ⟨owner, owned, ⟨rfl, found⟩ | ⟨absent, new⟩⟩ := forget_ok forgotten
    · rw [owner_eq owned] at found
      exact ⟨receipt, rfl, found, .inr found⟩
    · obtain ⟨_, _, _, _, _, _, receipts, _⟩ := forgetNew_ok new
      refine ⟨receipt, rfl, ?_, .inl absent⟩
      rw [receipts, Table.get?_upsert, if_pos rfl, owner_eq owned]
  | _ => cases carries

theorem batch_recorded (accepted : store.call rules now call = .ok (answer, after))
    (carries : call.batch? = some (operation, request)) : ∃ receipts, answer = .receipts receipts ∧
      after.importBatches.get? operation = some (rules.hash request, receipts) ∧
      (store.importBatches.get? operation = none ∨
        store.importBatches.get? operation = some (rules.hash request, receipts)) := by
  cases call with
  | importMemories projectId scope memories operationId newIds =>
    obtain ⟨rfl, rfl⟩ := Prod.mk.inj (Option.some.inj carries)
    obtain ⟨receipts, imported, rfl⟩ := answered_eq_ok.mp accepted
    obtain ⟨owner, owned, ⟨rfl, found⟩ | ⟨absent, written, rfl, _⟩⟩ := importMemories_ok imported
    · rw [owner_eq owned] at found
      exact ⟨receipts, rfl, found, .inr found⟩
    · refine ⟨receipts, rfl, ?_, .inl absent⟩
      simp only
      rw [Table.get?_upsert, if_pos rfl, owner_eq owned]
      rfl
  | _ => cases carries

theorem bounded_of_receipt {prior : Option MemoryReceiptV1}
    (accepted : store.receipt operationId digest = .ok prior) :
    bounded operationId 128 = .ok () := by
  simp only [receipt, bind_eq_ok] at accepted
  obtain ⟨_, checked, _⟩ := accepted
  exact checked

theorem receipt_found (checked : bounded operationId 128 = .ok ())
    (found : store.receipts.get? operationId = some (digest, result)) :
    store.receipt operationId digest = .ok (some result) := by
  simp [receipt, checked, found, ok_bind, ensure, pure_ok]

theorem replays {again : MemoryCall} {later : Int}
    (accepted : store.call rules now call = .ok (answer, next)) (repeats : Repeats call again)
    (recalls : next.Recalls after) (admits : after.Admits rules later again) :
    after.call rules later again = .ok (answer, after) := by
  cases repeats with
  | upsert access scope input operationId newId other =>
    obtain ⟨receipt, rfl, saved, _⟩ := operation_recorded accepted rfl
    obtain ⟨passes, ⟨owner, owned⟩, valid⟩ := admits
    have bound : bounded operationId 128 = .ok () := by
      obtain ⟨_, upserted, _⟩ := answered_eq_ok.mp accepted
      simp only [MemoryStore.upsert, write, bind_eq_ok] at upserted
      obtain ⟨_, _, _, _, _, _, _, looked, _⟩ := upserted
      exact bounded_of_receipt looked
    have found := receipt_found bound (recalls.receipts _ _ saved)
    refine answered_eq_ok.mpr ⟨receipt, ?_, rfl⟩
    simp only [MemoryStore.upsert, write, bind_eq_ok]
    refine ⟨(), valid, (), forM_ok.mpr passes, owner, owned, some receipt, ?_, rfl⟩
    rw [owner_eq owned]
    exact found
  | forget access scope id expectedRevision operationId =>
    obtain ⟨receipt, rfl, saved, _⟩ := operation_recorded accepted rfl
    obtain ⟨owner, owned⟩ := admits
    have bound : bounded operationId 128 = .ok () := by
      obtain ⟨_, forgotten, _⟩ := answered_eq_ok.mp accepted
      simp only [MemoryStore.forget, bind_eq_ok] at forgotten
      obtain ⟨_, _, _, looked, _⟩ := forgotten
      exact bounded_of_receipt looked
    have found := receipt_found bound (recalls.receipts _ _ saved)
    refine answered_eq_ok.mpr ⟨receipt, ?_, rfl⟩
    simp only [MemoryStore.forget, bind_eq_ok]
    refine ⟨owner, owned, some receipt, ?_, rfl⟩
    rw [owner_eq owned]
    exact found
  | importMemories projectId scope memories operation newIds others =>
    obtain ⟨receipts, rfl, saved, _⟩ := batch_recorded accepted rfl
    obtain ⟨⟨owner, owned⟩, valid⟩ := admits
    obtain ⟨_, imported, _⟩ := answered_eq_ok.mp accepted
    simp only [MemoryStore.importMemories, bind_eq_ok, ensure_eq_ok, exists_const] at imported
    obtain ⟨few, _, checked, given_, _, bound, _⟩ := imported
    refine answered_eq_ok.mpr ⟨receipts, ?_, rfl⟩
    simp only [MemoryStore.importMemories, bind_eq_ok, ensure_eq_ok, exists_const]
    refine ⟨few, (), forM_eq_ok.mpr fun item member => ?_, given_, (), bound, owner, owned, ?_⟩
    · have passed := forM_eq_ok.mp checked item member
      simp only [bind_eq_ok] at passed ⊢
      obtain ⟨_, _, create⟩ := passed
      exact ⟨(), valid item member, create⟩
    · rw [owner_eq owned, show after.importBatches.get? operation = _ from
        recalls.batches _ _ saved]
      simp [importAccess, ensure, ok_bind, pure_ok]

theorem conflicts_of_receipt {other : MemoryCall} {operation : String} {receipt : MemoryReceiptV1}
    {request request' : MemoryRequestV1}
    (found : store.receipts.get? operation = some (rules.hash request, receipt))
    (carries : other.operation? = some (operation, request')) (different : request' ≠ request) :
    ∃ error, store.call rules now other = .error error := by
  cases taken : store.call rules now other with
  | error error => exact ⟨error, rfl⟩
  | ok done =>
    obtain ⟨_, _, _, absent | same⟩ := operation_recorded taken carries
    · rw [absent] at found
      cases found
    · rw [same] at found
      have equal := (Prod.mk.inj (Option.some.inj found)).1
      exact absurd (rules.hash_injective equal) different

theorem conflicts_of_batch {other : MemoryCall} {operation : String}
    {receipts : List MemoryReceiptV1} {request request' : MemoryRequestV1}
    (found : store.importBatches.get? operation = some (rules.hash request, receipts))
    (carries : other.batch? = some (operation, request')) (different : request' ≠ request) :
    ∃ error, store.call rules now other = .error error := by
  cases taken : store.call rules now other with
  | error error => exact ⟨error, rfl⟩
  | ok done =>
    obtain ⟨_, _, _, absent | same⟩ := batch_recorded taken carries
    · rw [absent] at found
      cases found
    · rw [same] at found
      have equal := (Prod.mk.inj (Option.some.inj found)).1
      exact absurd (rules.hash_injective equal) different

theorem current_of_effect
    (effect : TakesEffect rules store (now, .upsert access scope input operationId newId)) :
    ((store.rowAt (ownerOf access scope) input.key).map (·.2.revision)).getD 0 =
      input.expectedRevision := by
  obtain ⟨⟨answer, after⟩, accepted⟩ := effect.accepted
  have absent := effect.first operationId _ rfl
  obtain ⟨_, upserted, _⟩ := answered_eq_ok.mp accepted
  simp only [MemoryStore.upsert, bind_eq_ok] at upserted
  obtain ⟨_, _, written⟩ := upserted
  obtain ⟨_, owner, owned, ⟨_, found⟩ | ⟨_, new⟩⟩ := write_ok written
  · rw [absent] at found
    cases found
  · rw [← owner_eq owned]
    exact (writeNew_ok.mp new).1

theorem served_keeps {more : List (Int × MemoryCall)} (consistent : store.Consistent)
    (fresh : store.FreshIds call) (accepted : store.call rules now call = .ok (answer, next))
    (run : Run (Serves rules) next more after) : next.Recalls after :=
  (run_keeps (call_served consistent fresh accepted).consistent run).2

omit [DecidableEq Digest] in
theorem consistent_empty : ({} : MemoryStore Digest).Consistent where
  positive := fun _ _ found => nomatch found
  unique := fun _ _ _ _ found => nomatch found

end MemoryStore

/-! ## The laws hold -/

open MemoryStore in
/-- **No update is lost**: the laws hold of every store that calls have led to. -/
theorem no_lost_update (rules : MemoryRules Digest) (turns : List (Int × MemoryCall))
    (store : MemoryStore Digest) (history : Run (Serves rules) {} turns store) :
    UpdateLaws rules store := by
  have consistent : store.Consistent := (run_keeps consistent_empty history).1
  constructor
  case edits =>
    intro turns middle more after now access scope input operationId newId id row first second
      before expects effect present
    -- the record only moves, and what it moved to at the end has the revision it had
    obtain ⟨between, there, grown⟩ := run_moves consistent first
      (fun front back between split => present front (back ++ more) between
        (by rw [split, List.append_assoc])) before
    obtain ⟨last, found, later⟩ := run_moves (run_keeps consistent first).1 second
      (fun front back state split run => present (turns ++ front) back state
        (by rw [split, List.append_assoc]) (first.append run)) there
    have current := current_of_effect effect
    rw [found, Option.map_some, Option.getD_some, expects] at current
    change last.revision = row.revision at current
    rcases grown with rfl | grown
    · exact there
    · rcases later with rfl | later <;> omega
  case creates =>
    intro now access scope input operationId newId create effect
    exact rowAt_of_create consistent create (current_of_effect effect)
  case once =>
    intro turn turns after turn' operation request request' fresh effect carries run carries' again
    obtain ⟨now, call⟩ := turn
    obtain ⟨⟨answer, next⟩, accepted⟩ := effect.accepted
    rw [served_of_ok accepted] at run
    obtain ⟨receipt, _, saved, _⟩ := operation_recorded accepted carries
    have kept := (served_keeps consistent fresh accepted run).receipts _ _ saved
    rw [again.first operation request' carries'] at kept
    cases kept
  case onceBatch =>
    intro turn turns after turn' operation request request' fresh effect carries run carries' again
    obtain ⟨now, call⟩ := turn
    obtain ⟨⟨answer, next⟩, accepted⟩ := effect.accepted
    rw [served_of_ok accepted] at run
    obtain ⟨receipts, _, saved, _⟩ := batch_recorded accepted carries
    have kept := (served_keeps consistent fresh accepted run).batches _ _ saved
    rw [again.firstBatch operation request' carries'] at kept
    cases kept
  case repeats =>
    intro now call again answer next turns after later fresh accepted repeats run admits
    exact replays accepted repeats (served_keeps consistent fresh accepted run) admits
  case conflicts =>
    intro now call answer next turns after later other operation request request' fresh accepted
      carries run carries' different
    obtain ⟨receipt, _, saved, _⟩ := operation_recorded accepted carries
    have kept := (served_keeps consistent fresh accepted run).receipts _ _ saved
    obtain ⟨error, rejected⟩ := @conflicts_of_receipt _ _ _ _ later _ _ _ _ _ kept carries' different
    exact ⟨⟨error, rejected⟩, served_of_error rejected⟩
  case conflictsBatch =>
    intro now call answer next turns after later other operation request request' fresh accepted
      carries run carries' different
    obtain ⟨receipts, _, saved, _⟩ := batch_recorded accepted carries
    have kept := (served_keeps consistent fresh accepted run).batches _ _ saved
    obtain ⟨error, rejected⟩ := @conflicts_of_batch _ _ _ _ later _ _ _ _ _ kept carries' different
    exact ⟨⟨error, rejected⟩, served_of_error rejected⟩
  case imports =>
    intro now projectId scope memories operation newIds fresh effect
    obtain ⟨⟨answer, after⟩, accepted⟩ := effect.accepted
    have absent := effect.firstBatch operation _ rfl
    rw [served_of_ok accepted]
    obtain ⟨results, imported, rfl⟩ := answered_eq_ok.mp accepted
    obtain ⟨adds, _, _⟩ := importMemories_adds consistent fresh.1 fresh.2 imported
    refine ⟨results, accepted, adds, fun i item there => ?_⟩
    obtain ⟨owner, owned, ⟨_, found⟩ | ⟨_, written, rfl, done⟩⟩ := importMemories_ok imported
    · rw [absent] at found
      cases found
    · obtain ⟨receipt, answered, item⟩ := (done consistent fresh.1 fresh.2).items i item there
      rw [Nat.zero_add] at item
      rw [← show owner = ownerOf (importAccess projectId) scope from owner_eq owned]
      exact ⟨receipt, answered, ⟨item.saved, item.written⟩⟩

/-! ## Updates that are lost -/

/-- The tables after calls on a new store. -/
def servedAll (turns : List (Int × MemoryCall)) : MemoryStore MemoryRequestV1 :=
  turns.foldl (MemoryStore.served plainRules) {}

def openProject : List (Int × MemoryCall) :=
  [(0, .addProject "project-1" "/work"), (1, .configure "project-1" (some .explicit) none)]

/-- A session writes a memory. -/
def firstUpsert (newId : String) : MemoryCall :=
  .upsert readerAccess .project (style none 0) "operation-1" newId

/-- The memory is written, forgotten, and written anew by someone else. -/
def rewritten : List (Int × MemoryCall) :=
  [(3, .forget hostAccess .project "memory-1" 1 "operation-2"),
   (4, .upsert hostAccess .project (style none 0) "operation-3" "memory-2")]

/-- A change of the memory of revision 1. -/
def edit : MemoryCall := .upsert readerAccess .project (style none 1) "operation-4" "memory-3"

/-- The memory again, as an import under the id of the operation that wrote it. -/
def sameOperation : MemoryCall :=
  .importMemories "project-1" .project [{ style none 0 with key := "tone" }] "operation-1"
    fun place => "memory-" ++ toString (place + 10)

/-- The user writes a memory under the id of the first record of a later import, and forgets it. -/
def writtenAhead : List (Int × MemoryCall) :=
  [(2, .upsert hostAccess .project (style none 0) "import-1:0" "memory-1"),
   (3, .forget hostAccess .project "memory-1" 1 "operation-2")]

def importOfTwo : MemoryCall :=
  .importMemories "project-1" .project [style none 0, { style none 0 with key := "tone" }] "import-1"
    fun place => "memory-" ++ toString (place + 10)

theorem updates_of_a_project :
    UpdateLaws plainRules (servedAll (openProject ++ [(2, firstUpsert "memory-1")])) := by
  refine no_lost_update plainRules (openProject ++ [(2, firstUpsert "memory-1")]) _ ?_
  refine Run.of_allowed ⟨trivial, trivial, ?_, trivial⟩
  exact (Table.get?_eq_none_iff _).mpr (by decide +kernel)

theorem takesEffect_of_seen {store : MemoryStore MemoryRequestV1} {turn : Int × MemoryCall}
    (accepted : (store.call plainRules turn.1 turn.2).toOption.isSome = true)
    (first : (turn.2.operation?.all fun asked => !store.receipts.contains asked.1) = true)
    (firstBatch : (turn.2.batch?.all fun asked => !store.importBatches.contains asked.1) = true) :
    TakesEffect plainRules store turn where
  accepted := by
    cases taken : store.call plainRules turn.1 turn.2 with
    | error error =>
      rw [taken] at accepted
      cases accepted
    | ok done => exact ⟨done, rfl⟩
  first := by
    intro operation request carries
    rw [carries, Option.all_some, Bool.not_eq_true', Table.contains] at first
    exact Option.not_isSome_iff_eq_none.mp (ne_true_of_eq_false first)
  firstBatch := by
    intro operation request carries
    rw [carries, Option.all_some, Bool.not_eq_true', Table.contains] at firstBatch
    exact Option.not_isSome_iff_eq_none.mp (ne_true_of_eq_false firstBatch)

/-- An edit takes effect on a record that it was not made for, a call that is repeated in a session
that was not revoked is rejected, one operation id takes effect twice, and an import of two records
writes the second alone. -/
theorem updates_lost :
    -- the record of revision 1 that was read is gone when its edit takes effect
    ((servedAll (openProject ++ [(2, firstUpsert "memory-1")])).rowAt "project-1" "style").map
        (fun place => (place.1, place.2.revision)) = some ("memory-1", 1) ∧
      ((servedAll (openProject ++ (2, firstUpsert "memory-1") :: rewritten)).rowAt "project-1"
        "style").map (·.1) = some "memory-2" ∧
      TakesEffect plainRules (servedAll (openProject ++ (2, firstUpsert "memory-1") :: rewritten))
        (5, edit) ∧
      -- the project has been set to read only
      (let store := servedAll (openProject ++
          [(2, firstUpsert "memory-1"), (3, .configure "project-1" (some .readOnly) none)]);
        store.assertSession 4 "session-1" = .ok () ∧
          (store.call plainRules 4 (firstUpsert "memory-4")).toOption.isSome = false) ∧
      TakesEffect plainRules (servedAll openProject) (2, firstUpsert "memory-1") ∧
      TakesEffect plainRules (servedAll (openProject ++ [(2, firstUpsert "memory-1")]))
        (3, sameOperation) ∧
      TakesEffect plainRules (servedAll (openProject ++ writtenAhead)) (4, importOfTwo) ∧
      (let store := servedAll (openProject ++ writtenAhead ++ [(4, importOfTwo)]);
        store.rowAt "project-1" "style" = none ∧
          (store.rowAt "project-1" "tone").map (·.1) = some "memory-11") := by
  refine ⟨by decide +kernel, by decide +kernel, ?_, ⟨?_, by decide +kernel⟩, ?_, ?_, ?_,
    by decide +kernel, by decide +kernel⟩
  · exact takesEffect_of_seen (by decide +kernel) (by decide +kernel) rfl
  · refine MemoryStore.assertSession_ok.mpr ?_
    decide +kernel
  · exact takesEffect_of_seen (by decide +kernel) (by decide +kernel) rfl
  · exact takesEffect_of_seen (by decide +kernel) rfl (by decide +kernel)
  · exact takesEffect_of_seen (by decide +kernel) rfl (by decide +kernel)

end Praxis.Memory
