import Praxis.Session.Stores

/-!
# The repository of sessions

`SessionRepositoryV3` changes a session through `append`: it loads the projection, lets its caller
say what is to be recorded (`EntryDraft`), makes entries of the drafts, numbered and dated behind
the head, and appends them as one commit. Where another writer was faster it starts again. Here no
other writer comes between, and the clock and the random ids of an attempt are its
`AppendSources`.

On accepted commits, with new ids and valid drafts, an attempt succeeds exactly if the reducer
accepts the entries of its drafts behind those of the session (`append_cons`).
-/

namespace Praxis.Session

set_option autoImplicit false

open Praxis.Foundations
open Praxis.Workflow (safeId safeIdChar safeIdChars isHexDigit isSha256 positiveInteger
  nonNegativeInteger maxSafeInteger)

variable {Data View T : Type} (rules : SessionRules Data View)

/-! ## Drafts -/

/-- What an entry is to record. -/
structure EntryDraft (Data : Type) where
  data : SessionEntryDataV3 Data
  runId : Option String := none
  correlation : Option (List (SessionCorrelationKeyV3 × String)) := none
  timestamp : Option Timestamp := none

/-- The drafts of a change, and what it returns. -/
structure Calculated (Data T : Type) where
  drafts : List (EntryDraft Data)
  result : T
  expectedMissing : Bool := false

/-- The clock and the random ids of one attempt. -/
structure AppendSources where
  now : Timestamp
  token : String
  entryToken : Nat → String

def notBefore (previous : Option Timestamp) (candidate : Timestamp) : Timestamp :=
  match previous with
  | none => candidate
  | some previous => if candidate.textLt previous then previous else candidate

def monotonicTimestamp (previous : Option Timestamp) (candidate : Timestamp) :
    Except SessionError Timestamp := do
  ensure (decide candidate.Canonical) .sessionEntryInvalid
  return notBefore previous candidate

section Entries

variable (sources : AppendSources) (sessionId : String)
  (projection : Option (SessionProjectionV3 Data View))

/-- The revision that a commit on the projection expects. -/
def expectedRevision : Int := (projection.map (·.snapshot.revision)).getD 0

def draftEntry (timestamp : Timestamp) (draft : EntryDraft Data) (index : Nat) :
    SessionEntryV3 Data where
  entryId := "entry-" ++ sources.entryToken index
  sessionId := sessionId
  sequence := (projection.map (·.snapshot.sequence)).getD 0 + 1 + index
  revision := expectedRevision projection + 1
  timestamp := timestamp
  runId := draft.runId
  correlation := draft.correlation
  data := draft.data

def draftEntries (drafts : List (EntryDraft Data)) :
    Except SessionError (List (SessionEntryV3 Data)) := do
  let baseline := projection.map (·.catalog.updatedAt)
  let fallbackTimestamp ← monotonicTimestamp baseline sources.now
  drafts.zipIdx.mapM fun (draft, index) => do
    let timestamp ← monotonicTimestamp baseline (draft.timestamp.getD fallbackTimestamp)
    validateSessionEntryV3 rules (draftEntry sources sessionId projection timestamp draft index)

/-! ## Appending -/

def loadProjection (log : CommitLog Data) : Except SessionError
    (Option (SessionProjectionV3 Data View)) := do
  validateReadInput { sessionId }
  if (log sessionId).isEmpty then return none
  let projection ← reduceSessionEntriesV3 rules (flattenEntries (log sessionId))
  return some projection

/-- The entries of a change, none if there is nothing to record, and its result. -/
def prepareAppend (calculated : Calculated Data T) :
    Except SessionError (Option (List (SessionEntryV3 Data)) × T) := do
  if calculated.drafts.isEmpty then return (none, calculated.result)
  ensure (!(calculated.expectedMissing && projection.isSome)) (.rule "SESSION_ALREADY_EXISTS")
  let entries ← draftEntries rules sources sessionId projection calculated.drafts
  return (some entries, calculated.result)

def commitInput (operation : String) (entries : List (SessionEntryV3 Data)) :
    CreateSessionCommitInputV3 Data where
  sessionId := sessionId
  commitId := "commit-" ++ (operation ++ "-" ++ sources.token)
  expectedRevision := expectedRevision projection
  idempotencyKey := "idem-" ++ (operation ++ "-" ++ sources.token)
  entries := entries

def appendEntries (naming : Naming) (operation : String) (entries : List (SessionEntryV3 Data))
    (log : CommitLog Data) : Except SessionError SessionCommitReceiptV3 × CommitLog Data :=
  match createSessionCommitV3 rules
      (commitInput sources sessionId projection operation entries) with
  | .error error => (.error error, log)
  | .ok commit => log.appendCommit rules naming commit

end Entries

/-- `append`: one attempt for each of the sources, as long as another writer was faster. -/
def append (naming : Naming) (sessionId operation : String)
    (build : Option (SessionProjectionV3 Data View) → Except SessionError (Calculated Data T)) :
    List AppendSources → CommitLog Data → Except SessionError T × CommitLog Data
  | [], log => (.error .sessionCommitRevisionConflict, log)
  | sources :: later, log =>
    match loadProjection rules sessionId log with
    | .error error => (.error error, log)
    | .ok projection =>
      match build projection >>= prepareAppend rules sources sessionId projection with
      | .error error => (.error error, log)
      | .ok (none, result) => (.ok result, log)
      | .ok (some entries, result) =>
        match appendEntries rules sources sessionId projection naming operation entries
          log with
        | (.ok _, log) => (.ok result, log)
        | (.error error, log) =>
          if error = .sessionCommitRevisionConflict ∧ later ≠ [] then
            append naming sessionId operation build later log
          else (.error error, log)

variable {commit : SessionCommitV3 Data} {entries : List (SessionEntryV3 Data)}

variable {naming : Naming} {log : CommitLog Data} {sessionId operation : String}
  {sources : AppendSources} {projection : Option (SessionProjectionV3 Data View)}
  {build : Option (SessionProjectionV3 Data View) → Except SessionError (Calculated Data T)}
  {result : T} {previous : Option Timestamp} {candidate : Timestamp}

theorem appendCommit_of_valid (valid : validateSessionCommitV3 rules commit = .ok commit)
    (admitted : naming.admits commit.sessionId = true) : log.appendCommit rules naming commit =
      match appendToLog rules (log commit.sessionId) commit with
      | .error error => (.error error, log)
      | .ok (receipt, commits) => (.ok receipt, Function.update log commit.sessionId commits) := by
  change (match validateSessionCommitV3 rules commit with
    | .error error => _
    | .ok commit => _) = _
  rw [valid]
  change (if !naming.admits commit.sessionId then _ else _) = _
  rw [admitted]
  rfl

theorem appendEntries_created (created : createSessionCommitV3 rules
      (commitInput sources sessionId projection operation entries) = .ok commit) :
    appendEntries rules sources sessionId projection naming operation entries log =
      log.appendCommit rules naming commit := by
  change (match createSessionCommitV3 rules
    (commitInput sources sessionId projection operation entries) with
    | .error error => _
    | .ok commit => _) = _
  rw [created]

theorem append_loaded {later : List AppendSources}
    (loaded : loadProjection rules sessionId log = .ok projection)
    (prepared : (build projection >>= prepareAppend rules sources sessionId projection) =
      .ok (some entries, result)) :
    append rules naming sessionId operation build (sources :: later) log =
      match appendEntries rules sources sessionId projection naming operation entries log with
      | (.ok _, log) => (.ok result, log)
      | (.error error, log) =>
        if error = .sessionCommitRevisionConflict ∧ later ≠ [] then
          append rules naming sessionId operation build later log
        else (.error error, log) := by
  change (match loadProjection rules sessionId log with
    | .error error => _
    | .ok projection => _) = _
  rw [loaded]
  change (match build projection >>= prepareAppend rules sources sessionId projection with
    | .error error => _
    | .ok (none, result) => _
    | .ok (some entries, result) => _) = _
  rw [prepared]

def requireExisting (projection : Option (SessionProjectionV3 Data View)) :
    Except SessionError (SessionProjectionV3 Data View) := do
  let projection ← orError .sessionNotFound projection
  ensure (projection.snapshot.lifecycle != .deleted) .sessionNotFound
  return projection

/-! ## Random ids -/

/-- The text of a random id. -/
def isUuid (token : String) : Bool :=
  (chars token).length == 36 && (chars token).all fun c => isHexDigit c || c == '-'

theorem safeIdChar_of_isHexDigit {c : Char} (hex : isHexDigit c = true) : safeIdChar c = true := by
  have alphanumeric : c.isAlphanum = true := by
    simp only [isHexDigit, Bool.or_eq_true, Bool.and_eq_true, decide_eq_true_eq] at hex
    rw [Char.isAlphanum, Bool.or_eq_true]
    rcases hex with digit | ⟨low, high⟩
    · exact .inr digit
    · refine .inl ?_
      have bound : 'f' ≤ 'z' := by decide
      have lower : c.isLower = true := by
        simp only [Char.isLower, Bool.and_eq_true, decide_eq_true_eq]
        exact ⟨low, Char.le_trans high bound⟩
      rw [Char.isAlpha, lower, Bool.or_true]
  simp [safeIdChar, alphanumeric]

theorem safeId_append_uuid {front token : String} (safe : safeId front = true)
    (short : front.toList.length ≤ 92) (uuid : isUuid token = true) :
    safeId (front ++ token) = true := by
  simp only [isUuid, chars_eq, Bool.and_eq_true, beq_iff_eq, List.all_eq_true,
    Bool.or_eq_true] at uuid
  obtain ⟨length, parts⟩ := uuid
  rw [safeId, chars_eq] at safe ⊢
  rw [String.toList_append]
  cases start : front.toList with
  | nil =>
    rw [start] at safe
    cases safe
  | cons first rest =>
    rw [start, List.length_cons] at short
    rw [start] at safe
    simp only [safeIdChars, Bool.and_eq_true, decide_eq_true_eq, List.all_eq_true] at safe
    simp only [List.cons_append, safeIdChars, Bool.and_eq_true, decide_eq_true_eq,
      List.all_eq_true, List.length_append, List.mem_append]
    refine ⟨⟨safe.1.1, by omega⟩, fun c member => ?_⟩
    rcases member with before | behind
    · exact safe.2 c before
    · rcases parts c behind with hex | dash
      · exact safeIdChar_of_isHexDigit hex
      · rw [dash]
        decide

/-- The clock shows a time, and as many random ids as there are drafts are new to the commits. -/
structure AppendSources.Fresh (sources : AppendSources) (operation : String)
    (commits : List (SessionCommitV3 Data)) (count : Nat) : Prop where
  now : sources.now.Canonical
  token : isUuid sources.token = true
  entryTokens : ∀ index < count, isUuid (sources.entryToken index) = true
  distinct : ∀ index < count, ∀ other < count,
    sources.entryToken index = sources.entryToken other → index = other
  newCommit : ∀ commit ∈ commits,
    commit.commitId ≠ "commit-" ++ (operation ++ "-" ++ sources.token) ∧
      commit.idempotencyKey ≠ "idem-" ++ (operation ++ "-" ++ sources.token)
  newEntries : ∀ entry ∈ flattenEntries commits, ∀ index < count,
    entry.entryId ≠ "entry-" ++ sources.entryToken index

/-- An operation whose commits have safe ids. -/
def SafeOperation (operation : String) : Prop :=
  (safeId ("commit-" ++ (operation ++ "-")) = true ∧
    ("commit-" ++ (operation ++ "-")).toList.length ≤ 92) ∧
  safeId ("idem-" ++ (operation ++ "-")) = true ∧
    ("idem-" ++ (operation ++ "-")).toList.length ≤ 92

instance (operation : String) : Decidable (SafeOperation operation) :=
  inferInstanceAs (Decidable ((_ ∧ _) ∧ _ ∧ _))

/-! ## What an attempt does -/

structure EntryDraft.Valid (draft : EntryDraft Data) : Prop where
  payload : validatePayload rules draft.data draft.runId = .ok ()
  runId : draft.runId.all safeId = true
  correlation : draft.correlation.all validCorrelation = true
  timestamp : ∀ timestamp, draft.timestamp = some timestamp → timestamp.Canonical
  creates : draft.data.creates = false

def draftTimestamp (sources : AppendSources) (projection : SessionProjectionV3 Data View)
    (draft : EntryDraft Data) : Timestamp :=
  notBefore (some projection.catalog.updatedAt)
    (draft.timestamp.getD (notBefore (some projection.catalog.updatedAt) sources.now))

def draftedEntries (sources : AppendSources) (sessionId : String)
    (projection : SessionProjectionV3 Data View) (drafts : List (EntryDraft Data)) :
    List (SessionEntryV3 Data) :=
  drafts.zipIdx.map fun draft =>
    draftEntry sources sessionId (some projection)
      (draftTimestamp sources projection draft.1) draft.1 draft.2

def draftedCommit (sources : AppendSources) (sessionId operation : String)
    (projection : SessionProjectionV3 Data View) (drafts : List (EntryDraft Data)) :
    SessionCommitV3 Data :=
  let input := commitInput sources sessionId (some projection) operation
    (draftedEntries sources sessionId projection drafts)
  { input with checksum := rules.checksum input }

variable {rules}

theorem notBefore_canonical (before : ∀ timestamp, previous = some timestamp → timestamp.Canonical)
    (canonical : candidate.Canonical) : (notBefore previous candidate).Canonical := by
  cases previous with
  | none => exact canonical
  | some previous =>
    by_cases less : candidate.textLt previous = true
    · rw [notBefore, if_pos less]
      exact before previous rfl
    · rw [notBefore, if_neg less]
      exact canonical

theorem monotonicTimestamp_eq (canonical : candidate.Canonical) :
    monotonicTimestamp previous candidate = .ok (notBefore previous candidate) := by
  simp [monotonicTimestamp, canonical, ok_bind, pure_ok]

section Attempt

variable {sessionId operation : String} {log : CommitLog Data} {sources : AppendSources}
  {projection : SessionProjectionV3 Data View} {drafts : List (EntryDraft Data)}

@[simp] theorem length_draftedEntries :
    (draftedEntries sources sessionId projection drafts).length = drafts.length := by
  simp [draftedEntries]

theorem mem_draftedEntries {entry : SessionEntryV3 Data}
    (member : entry ∈ draftedEntries sources sessionId projection drafts) :
    ∃ draft index, drafts[index]? = some draft ∧ entry =
      draftEntry sources sessionId (some projection) (draftTimestamp sources projection draft)
        draft index := by
  obtain ⟨⟨draft, index⟩, place, rfl⟩ := List.mem_map.mp member
  exact ⟨draft, index, List.mem_zipIdx_iff_getElem?.mp place, rfl⟩

theorem draftedEntries_consecutive :
    ((draftedEntries sources sessionId projection drafts).zip
      (draftedEntries sources sessionId projection drafts).tail).all
        (fun pair => pair.2.sequence == pair.1.sequence + 1) = true := by
  rw [List.all_eq_true]
  rintro ⟨first, second⟩ member
  obtain ⟨index, within, same⟩ := List.mem_iff_getElem.mp member
  rw [List.getElem_zip, Prod.mk.injEq, List.getElem_tail] at same
  obtain ⟨rfl, rfl⟩ := same
  simp only [draftedEntries, List.getElem_map, List.getElem_zipIdx, draftEntry, beq_iff_eq]
  push_cast
  omega

theorem log_nonempty (reduced : projectionOf rules (log sessionId) = some projection) :
    log sessionId ≠ [] := by
  intro empty
  rw [empty, projectionOf_nil] at reduced
  cases reduced

theorem projection_updatedAt (reduced : projectionOf rules (log sessionId) = some projection) :
    projection.catalog.updatedAt.Canonical := by
  obtain ⟨⟨_, _, valid⟩, current, loop, _, rfl⟩ :=
    reduceSessionEntriesV3_ok.mp (projectionOf_eq_some.mp reduced)
  have last := (reduceEntries_reduced loop).previous
  exact (validateSessionEntryV3_ok (valid _ (List.mem_of_getLast? last))).2.2.2.1

variable (kept : Kept rules sessionId (log sessionId))
  (reduced : projectionOf rules (log sessionId) = some projection)

include kept reduced

theorem projection_place : projection.snapshot.revision = (log sessionId).length ∧
    projection.snapshot.sequence = (flattenEntries (log sessionId)).length := by
  have place := kept.head_eq (log_nonempty reduced)
  obtain ⟨last, final, revision, sequence⟩ :=
    (reduceSessionEntriesV3_projected (projectionOf_eq_some.mp reduced)).head
  rw [head, final, Option.map_some, Option.some.injEq, SessionJournalHeadV3.mk.injEq] at place
  exact ⟨revision.trans place.1, sequence.trans place.2⟩

/-- There are not more commits than entries, and not too many of these. -/
theorem projection_bounds : 1 ≤ (log sessionId).length ∧
    (log sessionId).length ≤ (flattenEntries (log sessionId)).length ∧
      (flattenEntries (log sessionId)).length ≤ maxEntries := by
  refine ⟨List.length_pos_iff.mpr (log_nonempty reduced), ?_,
    (reduceSessionEntriesV3_ok.mp (projectionOf_eq_some.mp reduced)).1.2.1⟩
  have count : ∀ commits : List (SessionCommitV3 Data), (∀ commit ∈ commits, commit.entries ≠ []) →
      commits.length ≤ (flattenEntries commits).length := by
    intro commits
    induction commits with
    | nil => simp
    | cons commit rest ih =>
      intro nonempty
      have later := ih fun other member => nonempty other (List.mem_cons_of_mem _ member)
      have one := List.length_pos_iff.mpr (nonempty commit List.mem_cons_self)
      rw [← List.singleton_append, flattenEntries_append, flattenEntries_singleton,
        List.length_append, List.length_append, List.length_singleton]
      omega
  exact count _ fun commit member => (kept.validCommit member).nonempty

variable (fresh : sources.Fresh operation (log sessionId) drafts.length)
  (valid : ∀ draft ∈ drafts, draft.Valid rules)

include fresh valid

omit kept in
theorem draftTimestamp_canonical {draft : EntryDraft Data} (member : draft ∈ drafts) :
    (draftTimestamp sources projection draft).Canonical := by
  have updated := projection_updatedAt reduced
  have before : ∀ timestamp, some projection.catalog.updatedAt = some timestamp →
      timestamp.Canonical := by
    rintro _ ⟨⟩
    exact updated
  refine notBefore_canonical before ?_
  cases dated : draft.timestamp with
  | none => exact notBefore_canonical before fresh.now
  | some timestamp => exact (valid draft member).timestamp timestamp dated

theorem draftedEntries_valid (few : drafts.length ≤ maxCommitEntries) :
    ∀ entry ∈ draftedEntries sources sessionId projection drafts,
      validateSessionEntryV3 rules entry = .ok entry := by
  intro entry member
  obtain ⟨draft, index, place, rfl⟩ := mem_draftedEntries member
  have holds := valid draft (List.mem_of_getElem? place)
  have canonical := draftTimestamp_canonical reduced fresh valid (List.mem_of_getElem? place)
  obtain ⟨revision, sequence⟩ := projection_place kept reduced
  obtain ⟨some_, order, bounded⟩ := projection_bounds kept reduced
  have inside : index < drafts.length := (List.getElem?_eq_some_iff.mp place).1
  have named : safeId ("entry-" ++ sources.entryToken index) = true :=
    safeId_append_uuid (by decide +kernel) (by decide) (fresh.entryTokens index inside)
  have session : safeId sessionId = true := kept.safe (log_nonempty reduced)
  have small : (maxEntries : Int) + maxCommitEntries + 2 ≤ maxSafeInteger := by decide
  have numbered : positiveInteger (projection.snapshot.sequence + 1 + index) = true := by
    rw [positiveInteger, decide_eq_true_eq]
    omega
  have revised : positiveInteger (projection.snapshot.revision + 1) = true := by
    rw [positiveInteger, decide_eq_true_eq]
    omega
  simp [validateSessionEntryV3, draftEntry, expectedRevision, named, session, numbered, revised,
    canonical, holds.runId, holds.correlation, holds.payload, ok_bind, pure_ok]

theorem draftEntries_eq (few : drafts.length ≤ maxCommitEntries) :
    draftEntries rules sources sessionId (some projection) drafts =
      .ok (draftedEntries sources sessionId projection drafts) := by
  have fallback : monotonicTimestamp (some projection.catalog.updatedAt) sources.now =
      .ok (notBefore (some projection.catalog.updatedAt) sources.now) :=
    monotonicTimestamp_eq fresh.now
  simp only [draftEntries, Option.map_some, fallback, ok_bind]
  rw [mapM_eq_ok, draftedEntries, List.forall₂_map_right_iff, List.forall₂_same]
  rintro ⟨draft, index⟩ place
  have member : draft ∈ drafts := (List.mem_zipIdx' place).2 ▸ List.getElem_mem _
  have dated : (draft.timestamp.getD
      (notBefore (some projection.catalog.updatedAt) sources.now)).Canonical := by
    cases dated : draft.timestamp with
    | none =>
      rw [Option.getD_none]
      refine notBefore_canonical ?_ fresh.now
      rintro _ ⟨⟩
      exact projection_updatedAt reduced
    | some timestamp => exact (valid draft member).timestamp timestamp dated
  rw [monotonicTimestamp_eq dated, ok_bind]
  refine draftedEntries_valid kept reduced fresh valid few _ ?_
  exact List.mem_map.mpr ⟨(draft, index), place, rfl⟩

theorem createSessionCommitV3_drafted (safe : SafeOperation operation)
    (digests : ∀ input, isSha256 (rules.checksum input) = true) (some_ : drafts ≠ [])
    (few : drafts.length ≤ maxCommitEntries) :
    createSessionCommitV3 rules (commitInput sources sessionId (some projection) operation
      (draftedEntries sources sessionId projection drafts)) =
        .ok (draftedCommit rules sources sessionId operation projection drafts) := by
  have checked := draftedEntries_valid kept reduced fresh valid few
  have all : (draftedEntries sources sessionId projection drafts).mapM
      (validateSessionEntryV3 rules) =
        .ok (draftedEntries sources sessionId projection drafts) :=
    mapM_eq_ok.mpr (List.forall₂_same.mpr checked)
  obtain ⟨revision, sequence⟩ := projection_place kept reduced
  obtain ⟨one, order, bounded⟩ := projection_bounds kept reduced
  have session : safeId sessionId = true := kept.safe (log_nonempty reduced)
  have commitId : safeId ("commit-" ++ (operation ++ "-" ++ sources.token)) = true := by
    rw [← String.append_assoc]
    exact safeId_append_uuid safe.1.1 safe.1.2 fresh.token
  have key : safeId ("idem-" ++ (operation ++ "-" ++ sources.token)) = true := by
    rw [← String.append_assoc]
    exact safeId_append_uuid safe.2.1 safe.2.2 fresh.token
  have expected : nonNegativeInteger projection.snapshot.revision = true := by
    have small : (maxEntries : Int) ≤ maxSafeInteger := by decide
    rw [nonNegativeInteger, decide_eq_true_eq]
    omega
  have filled : draftedEntries sources sessionId projection drafts ≠ [] := by
    rw [← List.length_pos_iff, length_draftedEntries]
    exact List.length_pos_iff.mpr some_
  have fit : entriesFit (commitInput sources sessionId (some projection) operation
      (draftedEntries sources sessionId projection drafts)) = true := by
    rw [entriesFit, Bool.and_eq_true, List.all_eq_true]
    refine ⟨fun entry member => ?_, draftedEntries_consecutive⟩
    obtain ⟨draft, index, _, rfl⟩ := mem_draftedEntries member
    simp [draftEntry, commitInput, CreateSessionCommitInputV3.revision]
  have creation : creationFits (commitInput sources sessionId (some projection) operation
      (draftedEntries sources sessionId projection drafts)) = true := by
    have later : (commitInput sources sessionId (some projection) operation
        (draftedEntries sources sessionId projection drafts)).expectedRevision ≠ 0 := by
      change projection.snapshot.revision ≠ 0
      omega
    rw [creationFits, if_neg later, Bool.not_eq_true', List.any_eq_false]
    intro entry member
    obtain ⟨draft, index, place, rfl⟩ := mem_draftedEntries member
    rw [Bool.not_eq_true]
    exact (valid draft (List.mem_of_getElem? place)).creates
  simp only [createSessionCommitV3, validateSessionCommitV3, bind_eq_ok, ensure_eq_ok, pure_eq_ok,
    exists_const, Bool.and_eq_true, Bool.not_eq_true', List.isEmpty_eq_false_iff,
    decide_eq_true_eq, beq_iff_eq]
  refine ⟨⟨⟨⟨⟨⟨⟨session, commitId⟩, expected⟩, key⟩, filled⟩, ?_⟩, digests _⟩, _, all, fit,
    creation, rfl, rfl⟩
  exact length_draftedEntries.trans_le few

variable {naming : Naming} {later : List AppendSources} {result : T}
  {build : Option (SessionProjectionV3 Data View) → Except SessionError (Calculated Data T)}

/-- **An attempt** with valid drafts appends their commit if the reducer accepts its entries. -/
theorem append_cons (admitted : naming.admits sessionId = true) (safe : SafeOperation operation)
    (digests : ∀ input, isSha256 (rules.checksum input) = true) (some_ : drafts ≠ [])
    (few : drafts.length ≤ maxCommitEntries)
    (built : build (some projection) = .ok { drafts, result }) :
    append rules naming sessionId operation build (sources :: later) log =
      match reduceSessionEntriesV3 rules (flattenEntries (log sessionId) ++
          draftedEntries sources sessionId projection drafts) with
      | .ok _ => (.ok result, Function.update log sessionId (log sessionId ++
          [draftedCommit rules sources sessionId operation projection drafts]))
      | .error error =>
        if error = .sessionCommitRevisionConflict ∧ later ≠ [] then
          append rules naming sessionId operation build later log
        else (.error error, log) := by
  have nonempty := log_nonempty reduced
  have session : safeId sessionId = true := kept.safe nonempty
  have loaded : loadProjection rules sessionId log = .ok (some projection) := by
    have read : validateReadInput { sessionId } = .ok () := by simp [validateReadInput, session]
    simp [loadProjection, read, ok_bind, nonempty, projectionOf_eq_some.mp reduced, pure_ok]
  have prepared : (build (some projection) >>=
      prepareAppend rules sources sessionId (some projection)) =
        .ok (some (draftedEntries sources sessionId projection drafts), result) := by
    simp [built, ok_bind, prepareAppend, some_, draftEntries_eq kept reduced fresh valid few,
      pure_ok]
  have created := createSessionCommitV3_drafted kept reduced fresh valid safe digests some_ few
  have unused : findDuplicate (draftedCommit rules sources sessionId operation projection drafts)
      (log sessionId) = .ok none := by
    refine findDuplicate_fresh fun existing member => ?_
    rw [← Bool.not_eq_true, shares_iff, not_or]
    exact fresh.newCommit existing member
  have follows : assertSessionCommitAgainstHeadV3
      (draftedCommit rules sources sessionId operation projection drafts)
      (head (flattenEntries (log sessionId))) = .ok () := by
    obtain ⟨revision, sequence⟩ := projection_place kept reduced
    rw [kept.assertSessionCommitAgainstHeadV3_ok]
    refine ⟨revision, ?_⟩
    obtain ⟨first, rest, rfl⟩ := List.exists_cons_of_ne_nil some_
    change projection.snapshot.sequence + 1 + ((0 : Nat) : Int) = _
    rw [sequence]
    simp
  have appended : appendEntries rules sources sessionId (some projection) naming operation
      (draftedEntries sources sessionId projection drafts) log =
      match reduceSessionEntriesV3 rules (flattenEntries (log sessionId) ++
          draftedEntries sources sessionId projection drafts) with
      | .ok _ => (.ok (sessionCommitReceiptV3
          (draftedCommit rules sources sessionId operation projection drafts) false),
          Function.update log sessionId (log sessionId ++
            [draftedCommit rules sources sessionId operation projection drafts]))
      | .error error => (.error error, log) := by
    have valid' : validateSessionCommitV3 rules
        (draftedCommit rules sources sessionId operation projection drafts) =
          .ok (draftedCommit rules sources sessionId operation projection drafts) := created
    have place : (draftedCommit rules sources sessionId operation projection drafts).sessionId =
      sessionId := rfl
    have entries : (draftedCommit rules sources sessionId operation projection drafts).entries =
      draftedEntries sources sessionId projection drafts := rfl
    rw [appendEntries_created rules created, appendCommit_of_valid rules valid' admitted, place,
      appendToLog, unused, ok_bind]
    dsimp only
    rw [follows, ok_bind, entries]
    cases reduceSessionEntriesV3 rules (flattenEntries (log sessionId) ++
      draftedEntries sources sessionId projection drafts) <;> rfl
  rw [append_loaded rules loaded prepared, appended]
  cases reduceSessionEntriesV3 rules (flattenEntries (log sessionId) ++
    draftedEntries sources sessionId projection drafts) <;> rfl

end Attempt

theorem append_refused
    {projection : SessionProjectionV3 Data View} {drafts : List (EntryDraft Data)}
    (kept : Kept rules sessionId (log sessionId))
    (reduced : projectionOf rules (log sessionId) = some projection)
    (valid : ∀ draft ∈ drafts, draft.Valid rules) (admitted : naming.admits sessionId = true)
    (safe : SafeOperation operation) (digests : ∀ input, isSha256 (rules.checksum input) = true)
    (some_ : drafts ≠ []) (few : drafts.length ≤ maxCommitEntries)
    (built : build (some projection) = .ok { drafts, result }) {attempts : List AppendSources}
    (fresh : ∀ sources ∈ attempts, sources.Fresh operation (log sessionId) drafts.length)
    (refused : ∀ sources ∈ attempts, ∃ error, reduceSessionEntriesV3 rules
      (flattenEntries (log sessionId) ++ draftedEntries sources sessionId projection drafts) =
        .error error) :
    ∃ error, append rules naming sessionId operation build attempts log = (.error error, log) := by
  induction attempts with
  | nil => exact ⟨_, rfl⟩
  | cons sources later ih =>
    obtain ⟨error, rejected⟩ := refused sources List.mem_cons_self
    have others := ih (fun other member => fresh other (List.mem_cons_of_mem _ member))
      fun other member => refused other (List.mem_cons_of_mem _ member)
    rw [append_cons kept reduced (fresh sources List.mem_cons_self) valid admitted safe digests
      some_ few built, rejected]
    by_cases again : error = .sessionCommitRevisionConflict ∧ later ≠ []
    · simp only [if_pos again]
      exact others
    · simp only [if_neg again]
      exact ⟨error, rfl⟩

/-! ## The places of drafted entries -/

/-- The entry of the draft with an index may follow, dated with a timestamp. -/
structure Placed (sources : AppendSources) (sessionId : String)
    (projection : SessionProjectionV3 Data View) (used : List String) (index : Nat)
    (timestamp : Timestamp) (state : SessionStateV3 Data) : Prop where
  session : state.first.sessionId = sessionId
  sequence : state.previous.sequence = projection.snapshot.sequence + index
  revision : projection.snapshot.revision ≤ state.previous.revision ∧
    state.previous.revision ≤ projection.snapshot.revision + 1
  timestamp : timestamp.textLt state.previous.timestamp = false
  entryIds : state.entryIds = used ++
    (List.range index).map fun earlier => "entry-" ++ sources.entryToken earlier
  open_ : state.lifecycle = .open_

theorem textLt_self (timestamp : Timestamp) : timestamp.textLt timestamp = false := by
  simp [Timestamp.textLt]

theorem notBefore_textLt (previous candidate : Timestamp) :
    (notBefore (some previous) candidate).textLt previous = false := by
  by_cases less : candidate.textLt previous = true
  · rw [notBefore, if_pos less]
    exact textLt_self previous
  · rw [notBefore, if_neg less]
    rwa [Bool.not_eq_true] at less

section Placed

variable {sources : AppendSources} {sessionId operation : String} {log : CommitLog Data}
  {count index : Nat} {timestamp : Timestamp} {draft : EntryDraft Data}

theorem Placed.first {current : SessionStateV3 Data × View}
    (loop : reduceEntries rules (flattenEntries (log sessionId)) = .ok current)
    (session : current.1.first.sessionId = sessionId) (open_ : current.1.lifecycle = .open_) :
    Placed sources sessionId (projectSession current)
      ((flattenEntries (log sessionId)).map (·.entryId)) 0
      (draftTimestamp sources (projectSession current) draft) current.1 where
  session := session
  sequence := (Int.add_zero _).symm
  revision := ⟨Int.le_refl _, by
    change current.1.previous.revision ≤ current.1.previous.revision + 1
    omega⟩
  timestamp := notBefore_textLt _ _
  entryIds := by
    rw [(reduceEntries_reduced loop).entryIds]
    exact (List.append_nil _).symm
  open_ := open_

variable {projection : SessionProjectionV3 Data View} {state : SessionStateV3 Data}
  (fresh : sources.Fresh operation (log sessionId) count) (inside : index < count)
  (placed : Placed sources sessionId projection
    ((flattenEntries (log sessionId)).map (·.entryId)) index timestamp state)

include fresh inside placed

theorem Placed.reduceEntry (view : View) :
    reduceEntry rules (state, view)
        (draftEntry sources sessionId (some projection) timestamp draft index) =
      (do
        let entry := draftEntry sources sessionId (some projection) timestamp draft index
        let next ← reduceData { state with entryIds := state.entryIds ++ [entry.entryId] } entry
        let view ← ruled (rules.apply state view entry)
        return ({ next with previous := entry }, view)) := by
  have follows : assertFollows state
      (draftEntry sources sessionId (some projection) timestamp draft index) = .ok () := by
    have numbered : projection.snapshot.sequence + 1 + index =
        state.previous.sequence + 1 := by
      rw [placed.sequence]
      omega
    have revised : state.previous.revision ≤ projection.snapshot.revision + 1 ∧
        projection.snapshot.revision + 1 ≤ state.previous.revision + 1 := by
      have bounds := placed.revision
      omega
    simp [assertFollows, draftEntry, expectedRevision, placed.session, numbered, revised,
      placed.timestamp, placed.open_, ok_bind]
  have unused : useId state.entryIds
      (draftEntry sources sessionId (some projection) timestamp draft index).entryId =
        .ok (state.entryIds ++ ["entry-" ++ sources.entryToken index]) := by
    rw [useId_eq_ok]
    refine ⟨?_, rfl⟩
    rw [placed.entryIds, List.mem_append, not_or]
    constructor
    · rintro member
      obtain ⟨entry, there, same⟩ := List.mem_map.mp member
      exact fresh.newEntries entry there index inside same
    · rintro member
      obtain ⟨earlier, before, same⟩ := List.mem_map.mp member
      have less := List.mem_range.mp before
      have tokens : sources.entryToken earlier = sources.entryToken index :=
        (String.append_right_inj "entry-").mp same
      have equal := fresh.distinct earlier (by omega) index inside tokens
      omega
  simp only [Session.reduceEntry, follows, unused, ok_bind]
  rfl

omit fresh inside in
theorem Placed.next {later : Timestamp} {next : SessionStateV3 Data}
    (keeps : Keeps (draftEntry sources sessionId (some projection) timestamp draft index)
      { state with entryIds := state.entryIds ++
        [(draftEntry sources sessionId (some projection) timestamp draft index).entryId] } next)
    (open_ : next.lifecycle = .open_) (order : later.textLt timestamp = false) :
    Placed sources sessionId projection ((flattenEntries (log sessionId)).map (·.entryId))
      (index + 1) later
      { next with
        previous := draftEntry sources sessionId (some projection) timestamp draft index } where
  session := keeps.first.symm ▸ placed.session
  sequence := by
    change projection.snapshot.sequence + 1 + (index : Int) = _
    push_cast
    omega
  revision := by
    change projection.snapshot.revision ≤ projection.snapshot.revision + 1 ∧ _ ≤ _
    exact ⟨by omega, Int.le_refl _⟩
  timestamp := order
  entryIds := by
    rw [keeps.entryIds, placed.entryIds, List.range_succ, List.map_append, List.append_assoc]
    rfl
  open_ := open_

end Placed

end Praxis.Session
