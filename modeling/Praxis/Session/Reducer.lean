import Praxis.Session.Contracts
import Praxis.Durable.SpecValidation

/-!
# The session reducer

`reduceSessionEntriesV3` rebuilds the projection of a session from its entries, one after the
other; the first illegal entry rejects the whole stream. What the payloads of the other entry
types must satisfy and what they leave behind are given by `SessionRules`: the results hold for
every such rules.

An accepted stream numbers its entries from 1 without gap, uses no entry id twice and belongs to
one session (`Reduced`). The loop runs through every prefix of it as well (`reduceEntries_prefix`),
but the projection of a prefix may be rejected: what it checks need not hold before the last entry.
-/

namespace Praxis.Session

set_option autoImplicit false

open Praxis.Foundations
open Praxis.Workflow (safeId isSha256 positiveInteger nonNegativeInteger maxSafeInteger)

/-! ## The local variables of the reducer -/

/-- What the reducer keeps about the session itself. -/
structure SessionStateV3 (Data : Type) where
  first : SessionEntryV3 Data
  fork : Option SessionForkV3
  cwd : String
  previous : SessionEntryV3 Data
  entryIds : List String
  stableIds : List String := []
  forkedSessionIds : List String := []
  messages : List (String × Data) := []
  runs : Table String SessionRunProjectionV3 := Table.empty
  activeRunId : Option String := none
  lifecycle : SessionLifecycleStateV3 := .open_
  provider : String
  model : String
  plannerMode : SessionPlannerModeV3
  contextLimitTokens : Option Int
  name : String
  labels : List String
  activeLeafId : String

/-- What the model leaves open: the checksums, the order of `localeCompare`, and what payloads of
the other entry types must satisfy and leave behind. -/
structure SessionRules (Data View : Type) where
  /-- SHA-256 of the canonical JSON of a commit without its checksum. -/
  checksum : CreateSessionCommitInputV3 Data → String
  /-- SHA-256 of the JSON of a catalog without its checksum. -/
  catalogChecksum : List SessionCatalogProjectionV3 → List String → String
  /-- SHA-256 of the canonical JSON of an archive without its checksum. -/
  archiveChecksum : Timestamp → List (String × List (SessionCommitV3 Data)) →
    { digest : String // isSha256 digest = true }
  localeCompare : String → String → Ordering
  /-- The checks of a payload, with the code of the first that fails. -/
  validatePayload : SessionEntryDataV3 Data → Option String → Except String Unit
  /-- What is kept about payloads after the first entry. -/
  start : SessionEntryV3 Data → View
  /-- What is kept about payloads after one more entry. -/
  apply : SessionStateV3 Data → View → SessionEntryV3 Data → Except String View
  /-- The checks of the projection, which the entries before the last need not pass. -/
  finish : View → Except String Unit

variable {Data View : Type} (rules : SessionRules Data View) {count : Nat}

def ruled {α : Type} : Except String α → Except SessionError α
  | .ok value => .ok value
  | .error code => .error (.rule code)

@[simp] theorem ruled_eq_ok {α : Type} {answer : Except String α} {value : α} :
    ruled answer = .ok value ↔ answer = .ok value := by
  cases answer <;> simp [ruled]

/-! ## Validation of an entry -/

def maxTextBytes : Nat := 8 * 1024

def maxListItems : Nat := 256

def boundedText (value : String) : Bool := decide (value.utf8ByteSize ≤ maxTextBytes)

def stringList (value : List String) : Bool :=
  decide (value.length ≤ maxListItems) && value.all boundedText

def SessionForkV3.valid (fork : SessionForkV3) : Bool :=
  safeId fork.parentSessionId && safeId fork.sourceEntryId

/-- The fields that an entry of the session's own life carries. -/
def validData (data : SessionEntryDataV3 Data) (runId : Option String) : Bool :=
  match data with
  | .sessionCreated data =>
    boundedText data.cwd && safeId data.provider && safeId data.model && boundedText data.name &&
      stringList data.labels && data.contextLimitTokens.all positiveInteger &&
      data.fork.all SessionForkV3.valid
  | .sessionMetadataUpdated data =>
    decide (data ≠ {}) && data.name.all boundedText && data.labels.all stringList &&
      data.provider.all safeId && data.model.all safeId && data.activeLeafId.all safeId &&
      data.contextLimitTokens.all positiveInteger
  | .sessionClosed reason | .sessionReopened reason => reason.all boundedText
  | .sessionForked childSessionId sourceEntryId => safeId childSessionId && safeId sourceEntryId
  | .sessionDeleted (.tombstone reason) => reason.all boundedText
  | .sessionDeleted (.purgeReceipt receiptRef receiptDigest) =>
    boundedText receiptRef && isSha256 receiptDigest
  | .messageCommitted messageId _ => safeId messageId
  | .runStarted clientRequestId _ => runId.any safeId && safeId clientRequestId
  | .runTerminal status _ errorCode =>
    runId.any safeId && status != .running && errorCode.all safeId
  | .other _ => true

def validatePayload (data : SessionEntryDataV3 Data) (runId : Option String) :
    Except SessionError Unit := do
  ensure (validData data runId) .sessionEntryInvalid
  ruled (rules.validatePayload data runId)

/-- The values of a correlation, of which there must be one. -/
def validCorrelation (correlation : List (SessionCorrelationKeyV3 × String)) : Bool :=
  !correlation.isEmpty && correlation.all fun part => safeId part.2

def validateSessionEntryV3 (input : SessionEntryV3 Data) :
    Except SessionError (SessionEntryV3 Data) := do
  ensure (safeId input.entryId && safeId input.sessionId && positiveInteger input.sequence &&
    positiveInteger input.revision && decide input.timestamp.Canonical &&
    input.runId.all safeId && input.correlation.all validCorrelation) .sessionEntryInvalid
  validatePayload rules input.data input.runId
  return input

/-! ## Reducing one entry -/

def useId (ids : List String) (id : String) : Except SessionError (List String) := do
  ensure (!ids.contains id) .sessionReducerIdReused
  return ids ++ [id]

def useStableId (ids : List String) (kind id : String) : Except SessionError (List String) :=
  useId ids (kind ++ ":" ++ id)

def assertTransition (allowed : Bool) : Except SessionError Unit :=
  ensure allowed .sessionReducerTransitionInvalid

/-- The entries that may follow while the session is closed. -/
def allowedWhenClosed : SessionEntryDataV3 Data → Bool
  | .sessionMetadataUpdated _ | .sessionReopened _ | .sessionForked _ _ | .sessionDeleted _ => true
  | _ => false

/-- The checks that every entry after the first passes. -/
def assertFollows (state : SessionStateV3 Data) (entry : SessionEntryV3 Data) :
    Except SessionError Unit := do
  ensure (entry.sessionId == state.first.sessionId) .sessionReducerSessionMismatch
  ensure (entry.sequence == state.previous.sequence + 1) .sessionReducerSequenceInvalid
  ensure (decide (state.previous.revision ≤ entry.revision ∧
    entry.revision ≤ state.previous.revision + 1)) .sessionReducerRevisionInvalid
  ensure (!entry.timestamp.textLt state.previous.timestamp) .sessionReducerTimestampInvalid
  assertTransition (state.lifecycle != .deleted)
  assertTransition (state.lifecycle != .closed || allowedWhenClosed entry.data)

def reduceRunStarted (state : SessionStateV3 Data) (runId? : Option String)
    (clientRequestId : String) (planPolicy : Option SessionPlanPolicyV3) :
    Except SessionError (SessionStateV3 Data) := do
  assertTransition (state.lifecycle == .open_ && state.activeRunId.isNone)
  let runId ← orError .sessionReducerTransitionInvalid runId?
  let stableIds ← useStableId state.stableIds "run" runId
  let stableIds ← useStableId stableIds "client-request" clientRequestId
  return { state with
    stableIds
    activeRunId := some runId
    runs := state.runs.upsert runId
      { runId
        clientRequestId
        planPolicy := planPolicy.getD .optional
        state := .running } }

def reduceRunTerminal (state : SessionStateV3 Data) (runId? : Option String)
    (status : SessionRunStateV3) (errorCode : Option String) :
    Except SessionError (SessionStateV3 Data) := do
  let runId ← orError .sessionReducerTransitionInvalid runId?
  assertTransition (state.activeRunId == some runId)
  let run ← orError .sessionReducerTransitionInvalid (state.runs.get? runId)
  assertTransition (run.state == .running)
  return { state with
    runs := state.runs.upsert runId
      { run with state := status, errorCode := errorCode.or run.errorCode }
    activeRunId := none }

/-- The `switch` over the entry types, as far as it concerns the session itself. -/
def reduceData (state : SessionStateV3 Data) (entry : SessionEntryV3 Data) :
    Except SessionError (SessionStateV3 Data) :=
  match entry.data with
  | .sessionCreated _ => .error .sessionReducerIdReused
  | .sessionMetadataUpdated data =>
    .ok { state with
      name := data.name.getD state.name
      labels := data.labels.getD state.labels
      provider := data.provider.getD state.provider
      model := data.model.getD state.model
      activeLeafId := data.activeLeafId.getD state.activeLeafId
      plannerMode := data.plannerMode.getD state.plannerMode
      contextLimitTokens := data.contextLimitTokens.or state.contextLimitTokens }
  | .sessionClosed _ => do
      assertTransition (state.lifecycle == .open_ && state.activeRunId.isNone)
      return { state with lifecycle := .closed }
  | .sessionReopened _ => do
      assertTransition (state.lifecycle == .closed)
      return { state with lifecycle := .open_ }
  | .sessionForked childSessionId sourceEntryId => do
      assertTransition (childSessionId != state.first.sessionId &&
        sourceEntryId != entry.entryId && state.entryIds.contains sourceEntryId)
      let forkedSessionIds ← useId state.forkedSessionIds childSessionId
      return { state with forkedSessionIds, activeLeafId := childSessionId }
  | .sessionDeleted _ => do
      assertTransition state.activeRunId.isNone
      return { state with lifecycle := .deleted }
  | .messageCommitted messageId message => do
      let stableIds ← useStableId state.stableIds "message" messageId
      return { state with stableIds, messages := state.messages ++ [(messageId, message)] }
  | .runStarted clientRequestId planPolicy =>
    reduceRunStarted state entry.runId clientRequestId planPolicy
  | .runTerminal status _ errorCode => reduceRunTerminal state entry.runId status errorCode
  | .other _ => .ok state

/-- One turn of the loop, for an entry after the first. -/
def reduceEntry (current : SessionStateV3 Data × View) (entry : SessionEntryV3 Data) :
    Except SessionError (SessionStateV3 Data × View) := do
  assertFollows current.1 entry
  let entryIds ← useId current.1.entryIds entry.entryId
  let state ← reduceData { current.1 with entryIds } entry
  let view ← ruled (rules.apply current.1 current.2 entry)
  return ({ state with previous := entry }, view)

def startReduction (first : SessionEntryV3 Data) (created : SessionCreatedV3) :
    SessionStateV3 Data × View :=
  ({ first
     fork := created.fork
     cwd := created.cwd
     previous := first
     entryIds := [first.entryId]
     provider := created.provider
     model := created.model
     plannerMode := created.plannerMode.getD .auto
     contextLimitTokens := created.contextLimitTokens
     name := created.name
     labels := created.labels
     activeLeafId := first.sessionId }, rules.start first)

/-! ## The projection -/

def projectSession (current : SessionStateV3 Data × View) : SessionProjectionV3 Data View :=
  let state := current.1
  { snapshot :=
      { sessionId := state.first.sessionId
        sequence := state.previous.sequence
        revision := state.previous.revision
        lifecycle := state.lifecycle
        plannerMode := state.plannerMode
        createdAt := state.first.timestamp
        updatedAt := state.previous.timestamp
        contextLimitTokens := state.contextLimitTokens
        cwd := state.cwd
        provider := state.provider
        model := state.model
        name := state.name
        labels := state.labels
        activeLeafId := state.activeLeafId
        fork := state.fork
        messages := state.messages
        runs := state.runs.values }
    catalog :=
      { sessionId := state.first.sessionId
        name := state.name
        workspace := state.cwd
        provider := state.provider
        model := state.model
        lifecycle := state.lifecycle
        activeLeafId := state.activeLeafId
        parentSessionId := state.fork.map (·.parentSessionId)
        messageCount := state.messages.length
        updatedAt := state.previous.timestamp
        revision := state.previous.revision }
    view := current.2 }

def maxEntries : Nat := 100_000

def createdData? (first : SessionEntryV3 Data) : Option SessionCreatedV3 :=
  match first.data with
  | .sessionCreated created => if first.sequence = 1 ∧ first.revision = 1 then some created else none
  | _ => none

/-- The loop over valid entries. -/
def reduceEntries : List (SessionEntryV3 Data) → Except SessionError (SessionStateV3 Data × View)
  | [] => .error .sessionReducerFirstEntryInvalid
  | first :: rest => do
      let created ← orError .sessionReducerFirstEntryInvalid (createdData? first)
      rest.foldlM (reduceEntry rules) (startReduction rules first created)

def reduceSessionEntriesV3 (input : List (SessionEntryV3 Data)) :
    Except SessionError (SessionProjectionV3 Data View) := do
  ensure (!input.isEmpty && decide (input.length ≤ maxEntries)) .sessionReducerFirstEntryInvalid
  let entries ← input.mapM (validateSessionEntryV3 rules)
  let current ← reduceEntries rules entries
  ruled (rules.finish current.2)
  return projectSession current

/-! ## What an accepted entry does -/

section Steps

variable {rules}

@[simp] theorem useId_eq_ok {ids next : List String} {id : String} :
    useId ids id = .ok next ↔ id ∉ ids ∧ next = ids ++ [id] := by
  simp only [useId, bind_eq_ok, ensure_eq_ok, pure_eq_ok, exists_const, Bool.not_eq_true',
    List.contains_eq_mem, decide_eq_false_iff_not]
  rw [@eq_comm _ next]

@[simp] theorem assertTransition_eq_ok {allowed : Bool} {done : Unit} :
    assertTransition allowed = .ok done ↔ allowed = true :=
  ensure_eq_ok

/-- What the data of an entry leaves as it is, and what it adds. -/
structure Keeps (entry : SessionEntryV3 Data) (state next : SessionStateV3 Data) : Prop where
  first : next.first = state.first
  fork : next.fork = state.fork
  entryIds : next.entryIds = state.entryIds
  messages : next.messages.length ≤ state.messages.length + 1
  leaf : validData entry.data entry.runId = true → safeId state.activeLeafId = true →
    safeId next.activeLeafId = true

variable {next state : SessionStateV3 Data} {entry : SessionEntryV3 Data}

theorem reduceRunStarted_ok {runId? : Option String} {clientRequestId : String}
    {planPolicy : Option SessionPlanPolicyV3}
    (accepted : reduceRunStarted state runId? clientRequestId planPolicy = .ok next) :
    ∃ stableIds activeRunId runs, next = { state with stableIds, activeRunId, runs } := by
  simp only [reduceRunStarted, bind_eq_ok, pure_eq_ok] at accepted
  obtain ⟨_, _, runId, _, _, _, stableIds, _, rfl⟩ := accepted
  exact ⟨stableIds, some runId, _, rfl⟩

theorem reduceRunTerminal_ok {runId? errorCode : Option String} {status : SessionRunStateV3}
    (accepted : reduceRunTerminal state runId? status errorCode = .ok next) :
    ∃ runs, next = { state with runs, activeRunId := none } := by
  simp only [reduceRunTerminal, bind_eq_ok, pure_eq_ok] at accepted
  obtain ⟨_, _, _, _, _, _, _, _, rfl⟩ := accepted
  exact ⟨_, rfl⟩

theorem reduceData_keeps (accepted : reduceData state entry = .ok next) :
    Keeps entry state next := by
  unfold reduceData at accepted
  cases data : entry.data with
  | sessionCreated created => simp [data] at accepted
  | sessionMetadataUpdated change =>
    simp only [data, Except.ok.injEq] at accepted
    subst accepted
    refine ⟨rfl, rfl, rfl, Nat.le_succ _, fun valid safe => ?_⟩
    simp only [data, validData, Bool.and_eq_true] at valid
    cases leaf : change.activeLeafId with
    | none => simpa using safe
    | some activeLeafId => simpa [leaf] using valid.1.2
  | sessionClosed reason =>
    simp only [data, bind_eq_ok, pure_eq_ok] at accepted
    obtain ⟨_, _, rfl⟩ := accepted
    exact ⟨rfl, rfl, rfl, Nat.le_succ _, fun _ safe => safe⟩
  | sessionReopened reason =>
    simp only [data, bind_eq_ok, pure_eq_ok] at accepted
    obtain ⟨_, _, rfl⟩ := accepted
    exact ⟨rfl, rfl, rfl, Nat.le_succ _, fun _ safe => safe⟩
  | sessionForked childSessionId sourceEntryId =>
    simp only [data, bind_eq_ok, pure_eq_ok] at accepted
    obtain ⟨_, _, _, _, rfl⟩ := accepted
    refine ⟨rfl, rfl, rfl, Nat.le_succ _, fun valid _ => ?_⟩
    simp only [data, validData, Bool.and_eq_true] at valid
    exact valid.1
  | sessionDeleted deletion =>
    simp only [data, bind_eq_ok, pure_eq_ok] at accepted
    obtain ⟨_, _, rfl⟩ := accepted
    exact ⟨rfl, rfl, rfl, Nat.le_succ _, fun _ safe => safe⟩
  | messageCommitted messageId message =>
    simp only [data, bind_eq_ok, pure_eq_ok] at accepted
    obtain ⟨_, _, rfl⟩ := accepted
    exact ⟨rfl, rfl, rfl, by simp, fun _ safe => safe⟩
  | runStarted clientRequestId planPolicy =>
    simp only [data] at accepted
    obtain ⟨_, _, _, rfl⟩ := reduceRunStarted_ok accepted
    exact ⟨rfl, rfl, rfl, Nat.le_succ _, fun _ safe => safe⟩
  | runTerminal status usage errorCode =>
    simp only [data] at accepted
    obtain ⟨_, rfl⟩ := reduceRunTerminal_ok accepted
    exact ⟨rfl, rfl, rfl, Nat.le_succ _, fun _ safe => safe⟩
  | other =>
    simp only [data, Except.ok.injEq] at accepted
    subst accepted
    exact ⟨rfl, rfl, rfl, Nat.le_succ _, fun _ safe => safe⟩

/-- What an accepted entry after the first satisfies, and what it leaves behind. -/
structure Extends (entry : SessionEntryV3 Data) (state next : SessionStateV3 Data) : Prop where
  session : entry.sessionId = state.first.sessionId
  sequence : entry.sequence = state.previous.sequence + 1
  fresh : entry.entryId ∉ state.entryIds
  entryIds : next.entryIds = state.entryIds ++ [entry.entryId]
  previous : next.previous = entry
  first : next.first = state.first
  fork : next.fork = state.fork
  messages : next.messages.length ≤ state.messages.length + 1
  leaf : validData entry.data entry.runId = true → safeId state.activeLeafId = true →
    safeId next.activeLeafId = true

theorem reduceEntry_extends {current next : SessionStateV3 Data × View}
    (accepted : reduceEntry rules current entry = .ok next) : Extends entry current.1 next.1 := by
  simp only [reduceEntry, bind_eq_ok, pure_eq_ok, useId_eq_ok] at accepted
  obtain ⟨_, follows, _, ⟨fresh, rfl⟩, state, reduced, view, _, rfl⟩ := accepted
  have keeps := reduceData_keeps reduced
  simp only [assertFollows, bind_eq_ok, ensure_eq_ok, exists_const, beq_iff_eq] at follows
  exact
    { session := follows.1
      sequence := follows.2.1
      fresh
      entryIds := keeps.entryIds
      previous := rfl
      first := keeps.first
      fork := keeps.fork
      messages := keeps.messages
      leaf := keeps.leaf }

end Steps

/-! ## What an accepted stream leaves behind -/

def numbersTo (count : Nat) : List Int :=
  (List.range count).map fun index : Nat => (index : Int) + 1

@[simp] theorem length_numbersTo (count : Nat) : (numbersTo count).length = count := by
  simp [numbersTo]

theorem numbersTo_succ (count : Nat) : numbersTo (count + 1) = numbersTo count ++ [(count : Int) + 1] := by
  simp [numbersTo, List.range_succ]

theorem numbersTo_ascending (count : Nat) : (numbersTo count).Pairwise (· < ·) := by
  rw [numbersTo, List.pairwise_map]
  exact List.pairwise_lt_range.imp fun less => by omega

variable {front back : List Int} {number : Int} {first entry : SessionEntryV3 Data}
  {created : SessionCreatedV3} {entries : List (SessionEntryV3 Data)}
  {current : SessionStateV3 Data × View} {projection : SessionProjectionV3 Data View}

theorem numbersTo_prefix (numbers : front ++ back = numbersTo count) :
    front = numbersTo front.length := by
  have whole := congrArg (List.take front.length) numbers
  have short : front.length ≤ count := by
    have length := congrArg List.length numbers
    rw [List.length_append, length_numbersTo] at length
    omega
  rw [List.take_left, numbersTo, ← List.map_take, List.take_range, Nat.min_eq_left short] at whole
  exact whole

theorem numbersTo_next (numbers : front ++ number :: back = numbersTo count) :
    number = front.length + 1 := by
  have longer : (front ++ [number]) ++ back = numbersTo count := by simpa using numbers
  have both := numbersTo_prefix longer
  rw [List.length_append, List.length_singleton, numbersTo_succ] at both
  exact List.singleton_inj.mp (List.append_inj_right' both rfl)

theorem numbersTo_after (numbers : front ++ back = numbersTo count)
    (later : number ∈ back) : (front.length : Int) < number := by
  obtain ⟨before, after, rfl⟩ := List.append_of_mem later
  rw [← List.append_assoc] at numbers
  have next := numbersTo_next numbers
  rw [List.length_append] at next
  omega

/-- What comes before is not larger. -/
theorem le_of_mem_numbersTo (member : number ∈ numbersTo count) : number ≤ count := by
  simp only [numbersTo, List.mem_map, List.mem_range] at member
  obtain ⟨index, less, rfl⟩ := member
  omega

structure Reduced (entries : List (SessionEntryV3 Data)) (state : SessionStateV3 Data) : Prop where
  first : entries.head? = some state.first
  previous : entries.getLast? = some state.previous
  session : ∀ entry ∈ entries, entry.sessionId = state.first.sessionId
  sequences : entries.map (·.sequence) = numbersTo entries.length
  entryIds : state.entryIds = entries.map (·.entryId)
  unique : (entries.map (·.entryId)).Nodup
  messages : state.messages.length ≤ entries.length

theorem createdData?_eq_some : createdData? first = some created ↔
      first.data = .sessionCreated created ∧ first.sequence = 1 ∧ first.revision = 1 := by
  unfold createdData?
  split
  · rename_i created' data
    by_cases numbered : first.sequence = 1 ∧ first.revision = 1 <;> simp [data, numbered]
  · rename_i other
    simp only [reduceCtorEq, false_iff, not_and]
    exact fun data => absurd data (other created)

variable {rules}

theorem Reduced.start {first : SessionEntryV3 Data} {created : SessionCreatedV3}
    (creates : createdData? first = some created) :
    Reduced [first] (startReduction rules first created).1 := by
  obtain ⟨_, sequence, _⟩ := createdData?_eq_some.mp creates
  constructor <;> simp [startReduction, numbersTo, sequence]

theorem Reduced.step {state next : SessionStateV3 Data} (reduced : Reduced entries state)
    (extends_ : Extends entry state next) : Reduced (entries ++ [entry]) next := by
  have last : state.previous.sequence = (entries.length : Int) := by
    have place := congrArg List.getLast? reduced.sequences
    rw [List.getLast?_map, reduced.previous] at place
    cases length : entries.length with
    | zero =>
      have none := reduced.previous
      rw [List.length_eq_zero_iff.mp length] at none
      cases none
    | succ count =>
      rw [length, numbersTo_succ, List.getLast?_append] at place
      simpa using place
  constructor
  case first =>
    rw [extends_.first, List.head?_append, reduced.first]
    rfl
  case previous => simp [extends_.previous]
  case session =>
    intro other member
    rw [extends_.first]
    rcases List.mem_append.mp member with before | new
    · exact reduced.session other before
    · obtain rfl := List.mem_singleton.mp new
      exact extends_.session
  case sequences =>
    simp [reduced.sequences, numbersTo_succ, extends_.sequence, last]
  case entryIds => simp [extends_.entryIds, reduced.entryIds]
  case unique =>
    rw [List.map_append, List.map_singleton]
    refine List.Nodup.append reduced.unique (List.nodup_singleton _) ?_
    rw [List.disjoint_singleton, ← reduced.entryIds]
    exact extends_.fresh
  case messages =>
    have more := extends_.messages
    have before := reduced.messages
    rw [List.length_append, List.length_singleton]
    omega

theorem reduceEntries_append {more : List (SessionEntryV3 Data)} (nonempty : entries ≠ []) :
    reduceEntries rules (entries ++ more) =
      (reduceEntries rules entries >>= fun current => more.foldlM (reduceEntry rules) current) := by
  cases entries with
  | nil => exact absurd rfl nonempty
  | cons first rest =>
    simp only [List.cons_append, reduceEntries]
    cases createdData? first with
    | none => rfl
    | some created => simp [orError, ok_bind, List.foldlM_append]

theorem reduceEntries_start (creates : createdData? first = some created) :
    reduceEntries rules [first] = .ok (startReduction rules first created) := by
  simp [reduceEntries, creates, orError, ok_bind, pure_ok]

theorem reduceEntries_snoc {front : List (SessionEntryV3 Data)} {next : SessionStateV3 Data × View}
    (before : reduceEntries rules front = .ok current)
    (step : reduceEntry rules current entry = .ok next) :
    reduceEntries rules (front ++ [entry]) = .ok next := by
  have nonempty : front ≠ [] := by
    rintro rfl
    simp [reduceEntries] at before
  rw [reduceEntries_append nonempty, before, ok_bind]
  exact foldlM_cons_eq_ok.mpr ⟨next, step, foldlM_nil_eq_ok.mpr rfl⟩

theorem reduceEntries_invariant
    (Inv : List (SessionEntryV3 Data) → SessionStateV3 Data × View → Prop)
    (start : ∀ first created, createdData? first = some created →
      Inv [first] (startReduction rules first created))
    (step : ∀ front current entry next, reduceEntries rules front = .ok current →
      Inv front current → reduceEntry rules current entry = .ok next → Inv (front ++ [entry]) next)
    (accepted : reduceEntries rules entries = .ok current) : Inv entries current := by
  cases entries with
  | nil => simp [reduceEntries] at accepted
  | cons first rest =>
    simp only [reduceEntries, bind_eq_ok, orError_eq_ok] at accepted
    obtain ⟨created, creates, run⟩ := accepted
    have fold : ∀ (rest front : List (SessionEntryV3 Data)) (before : SessionStateV3 Data × View),
        reduceEntries rules front = .ok before → Inv front before →
        rest.foldlM (reduceEntry rules) before = .ok current → Inv (front ++ rest) current := by
      intro rest
      induction rest with
      | nil =>
        intro front before _ holds run
        obtain rfl := foldlM_nil_eq_ok.mp run
        simpa using holds
      | cons entry rest ih =>
        intro front before upTo holds run
        obtain ⟨middle, one, run⟩ := foldlM_cons_eq_ok.mp run
        have longer := ih _ middle (reduceEntries_snoc upTo one) (step _ _ _ _ upTo holds one) run
        simpa using longer
    simpa using fold rest [first] _ (reduceEntries_start creates) (start first created creates) run

theorem reduceEntries_reduced (accepted : reduceEntries rules entries = .ok current) :
    Reduced entries current.1 :=
  reduceEntries_invariant (fun entries current => Reduced entries current.1)
    (fun _ _ creates => Reduced.start creates)
    (fun _ _ _ _ _ reduced step => reduced.step (reduceEntry_extends step)) accepted

/-! ## Accepted streams -/

theorem validateSessionEntryV3_ok {input : SessionEntryV3 Data}
    (accepted : validateSessionEntryV3 rules input = .ok entry) :
    entry = input ∧ safeId input.sessionId = true ∧ positiveInteger input.revision = true ∧
      input.timestamp.Canonical ∧ validData input.data input.runId = true := by
  simp only [validateSessionEntryV3, validatePayload, bind_eq_ok, ensure_eq_ok, pure_eq_ok,
    exists_const, Bool.and_eq_true, decide_eq_true_eq] at accepted
  obtain ⟨⟨⟨⟨⟨⟨⟨_, session⟩, _⟩, revision⟩, instant⟩, _⟩, _⟩, _, ⟨valid, _⟩, rfl⟩ := accepted
  exact ⟨rfl, session, revision, instant, valid⟩

/-- A stream is accepted exactly if it is neither empty nor too long, its entries are valid and
the loop and the projection accept them. -/
theorem reduceSessionEntriesV3_ok : reduceSessionEntriesV3 rules entries = .ok projection ↔
      (entries ≠ [] ∧ entries.length ≤ maxEntries ∧
        ∀ entry ∈ entries, validateSessionEntryV3 rules entry = .ok entry) ∧
      ∃ current, reduceEntries rules entries = .ok current ∧
        rules.finish current.2 = .ok () ∧ projection = projectSession current := by
  simp only [reduceSessionEntriesV3, bind_eq_ok, ensure_eq_ok, pure_eq_ok, exists_const,
    Bool.and_eq_true, Bool.not_eq_true', List.isEmpty_eq_false_iff, decide_eq_true_eq]
  have returns : ∀ {input entry : SessionEntryV3 Data},
      validateSessionEntryV3 rules input = .ok entry → entry = input :=
    fun accepted => (validateSessionEntryV3_ok accepted).1
  constructor
  · rintro ⟨⟨nonempty, short⟩, results, checked, current, reduced, _, finished, rfl⟩
    obtain ⟨rfl, valid⟩ := mapM_returns returns checked
    exact ⟨⟨nonempty, short, valid⟩, current, reduced, ruled_eq_ok.mp finished, rfl⟩
  · rintro ⟨⟨nonempty, short, valid⟩, current, reduced, finished, rfl⟩
    refine ⟨⟨nonempty, short⟩, entries, ?_, current, reduced, (), ruled_eq_ok.mpr finished, rfl⟩
    exact mapM_eq_ok.mpr (List.forall₂_same.mpr valid)

/-- The loop runs through every non-empty prefix of the entries that it runs through. -/
theorem reduceEntries_prefix {front back : List (SessionEntryV3 Data)} (nonempty : front ≠ [])
    (reduced : reduceEntries rules (front ++ back) = .ok current) :
    ∃ middle, reduceEntries rules front = .ok middle ∧
      back.foldlM (reduceEntry rules) middle = .ok current := by
  rw [reduceEntries_append nonempty, bind_eq_ok] at reduced
  exact reduced

/-- What the projection of accepted entries says about them. -/
structure Projected (entries : List (SessionEntryV3 Data))
    (projection : SessionProjectionV3 Data View) : Prop where
  session : ∀ entry ∈ entries, entry.sessionId = projection.snapshot.sessionId
  catalog : projection.catalog.sessionId = projection.snapshot.sessionId
  head : ∃ last, entries.getLast? = some last ∧ projection.snapshot.revision = last.revision ∧
    projection.snapshot.sequence = last.sequence
  sequences : entries.map (·.sequence) = numbersTo entries.length
  unique : (entries.map (·.entryId)).Nodup

theorem reduceSessionEntriesV3_projected
    (accepted : reduceSessionEntriesV3 rules entries = .ok projection) :
    Projected entries projection := by
  obtain ⟨_, current, loop, _, rfl⟩ := reduceSessionEntriesV3_ok.mp accepted
  have reduced := reduceEntries_reduced loop
  exact
    { session := reduced.session
      catalog := rfl
      head := ⟨current.1.previous, reduced.previous, rfl, rfl⟩
      sequences := reduced.sequences
      unique := reduced.unique }

theorem reduceEntries_safe (loop : reduceEntries rules entries = .ok current)
    (valid : ∀ entry ∈ entries, validateSessionEntryV3 rules entry = .ok entry) :
    safeId current.1.activeLeafId = true ∧ current.1.fork.all SessionForkV3.valid = true := by
  refine reduceEntries_invariant
    (fun entries current => (∀ entry ∈ entries, validateSessionEntryV3 rules entry = .ok entry) →
      safeId current.1.activeLeafId = true ∧ current.1.fork.all SessionForkV3.valid = true)
    ?start ?step loop valid
  case start =>
    intro first created creates valid
    have checked := (validateSessionEntryV3_ok (valid first List.mem_cons_self)).2
    refine ⟨checked.1, ?_⟩
    have data := checked.2.2.2
    rw [(createdData?_eq_some.mp creates).1] at data
    simp only [validData, Bool.and_eq_true] at data
    exact data.2
  case step =>
    intro front current entry next _ safe step valid
    obtain ⟨leaf, fork⟩ := safe fun other member => valid other (List.mem_append_left _ member)
    have extends_ := reduceEntry_extends step
    have checked := validateSessionEntryV3_ok (valid entry (by simp))
    refine ⟨extends_.leaf checked.2.2.2.2 leaf, ?_⟩
    rw [extends_.fork]
    exact fork

end Praxis.Session
