import Praxis.Foundations.Paging
import Praxis.Session.JsonlStore
import Praxis.Session.Layers
import Praxis.Session.SqliteStore

/-!
# Reading a session in pages

The facade over the stores reads a session in pages and checks every page that a store gives it.
`readAllEntries` reads page after page, up to the head that the first page saw, while others append
commits between the pages.

A store answers reads as the commit log does (`AnswersReads`): what it answers is a page of the
session's entries (`CommitLog.readEntries_eq_ok`), which the facade accepts
(`CommitLog.validatePage_ok`). The loop keeps that it has read a front of the log it started with
(`Reading.step`), and every page brings it further.
-/

namespace Praxis.Session

set_option autoImplicit false

open Praxis.Foundations
open Praxis.Workflow (safeId isSha256 positiveInteger nonNegativeInteger maxSafeInteger)

variable {Data View σ : Type} (rules : SessionRules Data View)

/-! ## The facade's reads -/

/-- The check of a page: it answers the request, and its entries follow one another. -/
def validatePage (input : SessionEntryPageV3 Data) (request : ReadSessionEntriesInputV3) :
    Except SessionError (SessionEntryPageV3 Data) := do
  ensure (input.sessionId == request.sessionId && nonNegativeInteger input.nextAfterSequence &&
    nonNegativeInteger input.head.revision && nonNegativeInteger input.head.sequence)
    .sessionBackendContractInvalid
  let entries ← input.entries.mapM (validateSessionEntryV3 rules)
  let after := request.afterSequence.getD 0
  let through := request.throughSequence.getD input.head.sequence
  ensure (decide (through ≤ input.head.sequence) &&
    decide ((entries.length : Int) ≤ request.limit.getD maxReadPage) &&
    (entries.all fun entry => entry.sessionId == request.sessionId &&
      decide (after < entry.sequence) && decide (entry.sequence ≤ through)) &&
    ((entries.zip entries.tail).all fun pair => pair.2.sequence == pair.1.sequence + 1) &&
    input.nextAfterSequence == (entries.getLast?.map (·.sequence)).getD after &&
    input.hasMore == decide (input.nextAfterSequence < through)) .sessionBackendContractInvalid
  return { input with entries }

/-- `readEntries` of the facade. -/
def readEntries (store : SessionStore Data View σ) (state : σ) (input : ReadSessionEntriesInputV3) :
    Except SessionError (SessionEntryPageV3 Data) × σ :=
  match validateReadInput input with
  | .error error => (.error error, state)
  | .ok () =>
    let answer := store.readEntries state input
    (answer.1.bind fun page => validatePage rules page input, answer.2)

/-- What the loop over the pages carries. -/
structure PageCursor (Data : Type) where
  entries : List (SessionEntryV3 Data) := []
  afterSequence : Int := 0
  throughSequence : Option Int := none
  hasMore : Bool := true

def PageCursor.request (cursor : PageCursor Data) (sessionId : String) :
    ReadSessionEntriesInputV3 where
  sessionId := sessionId
  afterSequence := some cursor.afterSequence
  limit := some maxReadPage
  throughSequence := cursor.throughSequence

/-- The cursor after a page. The head of the first page stays the end of the loop. -/
def PageCursor.take (cursor : PageCursor Data) (page : SessionEntryPageV3 Data) :
    PageCursor Data where
  entries := cursor.entries ++ page.entries
  afterSequence := page.nextAfterSequence
  throughSequence := some (cursor.throughSequence.getD page.head.sequence)
  hasMore := page.hasMore

/-- Others append commits, of any session. A commit may be rejected. -/
def appendCommits (store : SessionStore Data View σ) (state : σ)
    (commits : List (SessionCommitV3 Data)) : σ :=
  commits.foldl (fun state commit => (store.appendCommit state commit).2) state

/-- The loop of `readAllEntries`, with the commits that others append after each page. -/
def readPages (store : SessionStore Data View σ) (sessionId : String) :
    Nat → (Nat → List (SessionCommitV3 Data)) → PageCursor Data → σ →
    Option (Except SessionError (List (SessionEntryV3 Data)) × σ)
  | 0, _, _, _ => none
  | fuel + 1, others, cursor, state =>
    if cursor.hasMore then
      match readEntries rules store state (cursor.request sessionId) with
      | (.error error, state) => some (.error error, state)
      | (.ok page, state) =>
        readPages store sessionId fuel (fun round => others (round + 1)) (cursor.take page)
          (appendCommits store state (others 0))
    else some (.ok cursor.entries, state)

def readAllEntries (store : SessionStore Data View σ) (fuel : Nat) (sessionId : String)
    (others : Nat → List (SessionCommitV3 Data)) (state : σ) :
    Option (Except SessionError (List (SessionEntryV3 Data)) × σ) :=
  (readPages rules store sessionId fuel others {} state).map fun (read, state) =>
    (read.bind fun entries =>
      if entries.isEmpty then .error .sessionNotFound else .ok entries, state)

/-! ## Stores that answer reads -/

/-- Every session has its commits in the other log, and maybe more after them. -/
def CommitLog.GrowsTo (log later : CommitLog Data) : Prop := ∀ id, log id <+: later id

theorem CommitLog.GrowsTo.refl (log : CommitLog Data) : log.GrowsTo log :=
  fun _ => List.prefix_rfl

theorem CommitLog.GrowsTo.trans {log middle later : CommitLog Data} (first : log.GrowsTo middle)
    (second : middle.GrowsTo later) : log.GrowsTo later :=
  fun id => (first id).trans (second id)

structure AnswersReads (store : SessionStore Data View σ) (Holds : σ → CommitLog Data → Prop) :
    Prop where
  kept : ∀ {state log}, Holds state log → ∀ id, Kept rules id (log id)
  readEntries : ∀ {state log}, Holds state log → ∀ input,
    store.readEntries state input = (log.readEntries input, state)
  grows : ∀ {state log}, Holds state log → ∀ input, ∃ later,
    Holds (store.appendCommit state input).2 later ∧ log.GrowsTo later

section Answering

variable {rules} {store : SessionStore Data View σ} {Holds : σ → CommitLog Data → Prop}

theorem CommitLog.appendCommit_grows (naming : Naming) (log : CommitLog Data)
    (input : SessionCommitV3 Data) : log.GrowsTo (log.appendCommit rules naming input).2 := by
  unfold CommitLog.appendCommit
  cases validateSessionCommitV3 rules input with
  | error error => exact .refl log
  | ok commit =>
    by_cases admitted : naming.admits commit.sessionId = true
    · cases appended : appendToLog rules (log commit.sessionId) commit with
      | error error => simpa [admitted, appended] using CommitLog.GrowsTo.refl log
      | ok result =>
        obtain ⟨receipt, commits⟩ := result
        simp only [admitted, appended, Bool.not_true, Bool.false_eq_true, ↓reduceIte]
        intro id
        by_cases same : id = commit.sessionId
        · subst same
          rw [Function.update_self]
          rcases appendToLog_ok appended with ⟨_, _, _, _, rfl⟩ | ⟨_, _, _, _, rfl⟩
          · exact List.prefix_rfl
          · exact List.prefix_append _ _
        · simp only [Function.update_of_ne same, List.prefix_rfl]
    · simpa [admitted] using CommitLog.GrowsTo.refl log

theorem Implements.answersReads {naming : Naming}
    (implements : Implements rules naming store Holds) :
    AnswersReads rules store Holds where
  kept := implements.kept
  readEntries := implements.readEntries
  grows {_ log} holds input :=
    ⟨_, (implements.appendCommit holds input).2, log.appendCommit_grows naming input⟩

theorem AnswersReads.appendCommits (answers : AnswersReads rules store Holds) {state : σ}
    {log : CommitLog Data} (holds : Holds state log) (commits : List (SessionCommitV3 Data)) :
    ∃ later, Holds (appendCommits store state commits) later ∧ log.GrowsTo later := by
  induction commits generalizing state log with
  | nil => exact ⟨log, holds, .refl log⟩
  | cons commit rest ih =>
    obtain ⟨middle, kept, first⟩ := answers.grows holds commit
    obtain ⟨later, final, second⟩ := ih kept
    exact ⟨later, final, first.trans second⟩

end Answering

/-! ## The pages of a log -/

theorem validateSessionEntryV3_sequence {input entry : SessionEntryV3 Data}
    (accepted : validateSessionEntryV3 rules input = .ok entry) :
    positiveInteger input.sequence = true := by
  simp only [validateSessionEntryV3, bind_eq_ok, ensure_eq_ok, exists_const,
    Bool.and_eq_true] at accepted
  exact accepted.1.1.1.1.1.2

theorem exists_split_of_mem_zip_tail {α : Type} {items : List α} {pair : α × α}
    (member : pair ∈ items.zip items.tail) :
    ∃ front back, items = front ++ pair.1 :: pair.2 :: back := by
  induction items with
  | nil => simp at member
  | cons first rest ih =>
    cases rest with
    | nil => simp at member
    | cons second rest =>
      rcases List.mem_cons.mp member with rfl | later
      · exact ⟨[], rest, rfl⟩
      · obtain ⟨front, back, split⟩ := ih later
        exact ⟨first :: front, back, by rw [split, List.cons_append]⟩

section Numbered

variable {entries : List (SessionEntryV3 Data)} {after through limit : Nat}

variable (numbered : entries.map (·.sequence) = numbersTo entries.length)
  {entry : SessionEntryV3 Data}

include numbered

theorem sequence_of_pageOf {front back : List (SessionEntryV3 Data)}
    (split : pageOf entries after through limit = front ++ entry :: back) :
    entry.sequence = after + front.length + 1 := by
  have order : after ≤ entries.length := by
    have long := congrArg List.length split
    rw [length_pageOf, List.length_append, List.length_cons] at long
    omega
  obtain ⟨rest, whole⟩ := pageOf_split entries after through limit
  have places : (entries.take after ++ front).map (·.sequence) ++
      entry.sequence :: (back ++ rest).map (·.sequence) = numbersTo entries.length := by
    rw [← numbered]
    conv_rhs => rw [whole, split]
    simp
  rw [numbersTo_next places]
  simp [Nat.min_eq_left order]

theorem bounds_of_mem_pageOf (member : entry ∈ pageOf entries after through limit) :
    (after : Int) < entry.sequence ∧ entry.sequence ≤ through := by
  obtain ⟨front, back, split⟩ := List.append_of_mem member
  have long := congrArg List.length split
  rw [length_pageOf, List.length_append, List.length_cons] at long
  rw [sequence_of_pageOf numbered split]
  omega

theorem pageOf_consecutive {pair : SessionEntryV3 Data × SessionEntryV3 Data}
    (member : pair ∈ (pageOf entries after through limit).zip
      (pageOf entries after through limit).tail) : pair.2.sequence = pair.1.sequence + 1 := by
  obtain ⟨front, back, split⟩ := exists_split_of_mem_zip_tail member
  have second : pageOf entries after through limit = (front ++ [pair.1]) ++ pair.2 :: back := by
    rw [split, List.append_assoc, List.singleton_append]
  rw [sequence_of_pageOf numbered split, sequence_of_pageOf numbered second]
  simp
  omega

theorem getLast?_pageOf (after through limit : Nat) :
    (((pageOf entries after through limit).getLast?).map (·.sequence)).getD (after : Int) =
      ((after + (pageOf entries after through limit).length : Nat) : Int) := by
  rcases List.eq_nil_or_concat' (pageOf entries after through limit) with
    empty | ⟨front, last, split⟩
  · simp [empty]
  · have place := sequence_of_pageOf numbered split
    rw [split]
    simp [place]
    omega

end Numbered

def pageAt (commits : List (SessionCommitV3 Data)) (sessionId : String)
    (after through limit : Nat) : SessionEntryPageV3 Data :=
  let entries := flattenEntries commits
  let selected := pageOf entries after through limit
  { sessionId
    entries := selected
    nextAfterSequence := ((after + selected.length : Nat) : Int)
    hasMore := decide (((after + selected.length : Nat) : Int) < through)
    head := { revision := commits.length, sequence := entries.length } }

section Log

variable {rules} {log : CommitLog Data} {input : ReadSessionEntriesInputV3}
  {page : SessionEntryPageV3 Data}

/-- The parts of a valid request are natural numbers. -/
theorem validateReadInput_ok (valid : validateReadInput input = .ok ()) :
    0 ≤ input.afterSequence.getD 0 ∧ input.afterSequence.getD 0 ≤ maxSafeInteger ∧
      1 ≤ input.limit.getD maxReadPage ∧ ∀ through ∈ input.throughSequence, 0 ≤ through := by
  simp only [validateReadInput, ensure_eq_ok, Bool.and_eq_true, Option.all_eq_true,
    nonNegativeInteger, decide_eq_true_eq] at valid
  obtain ⟨⟨⟨_, after⟩, limit⟩, through⟩ := valid
  refine ⟨?_, ?_, ?_, fun place given => (through place given).1⟩
  · cases given : input.afterSequence with
    | none => simp
    | some place => exact (after place given).1
  · cases given : input.afterSequence with
    | none => simp [maxSafeInteger]
    | some place => exact (after place given).2
  · cases given : input.limit with
    | none => simp [maxReadPage]
    | some limit' => exact (limit limit' given).1

/-- **A log answers a valid read with a page of the session's entries.** -/
theorem CommitLog.readEntries_eq_ok (kept : Kept rules input.sessionId (log input.sessionId)) : log.readEntries input = .ok page ↔
      validateReadInput input = .ok () ∧ log input.sessionId ≠ [] ∧
      input.throughSequence.getD (flattenEntries (log input.sessionId)).length ≤
        (flattenEntries (log input.sessionId)).length ∧
      page = pageAt (log input.sessionId) input.sessionId (input.afterSequence.getD 0).toNat
        (input.throughSequence.getD (flattenEntries (log input.sessionId)).length).toNat
        (input.limit.getD maxReadPage).toNat := by
  by_cases present : log input.sessionId = []
  · simp [CommitLog.readEntries, present, head, orError]
  simp only [CommitLog.readEntries, bind_eq_ok, kept.head_eq present, orError_eq_ok,
    Option.some.injEq, exists_eq_left', ensure_eq_ok, decide_eq_true_eq, return_eq_ok, exists_const,
    ne_eq, present, not_false_eq_true, true_and]
  have one : ∀ P : Unit → Prop, (∃ done, P done) ↔ P () := fun P => Unique.exists_iff
  rw [one]
  refine and_congr_right fun valid => and_congr_right fun within => ?_
  obtain ⟨afterNonneg, _, _, throughNonneg⟩ := validateReadInput_ok valid
  obtain ⟨after, afterEq⟩ := Int.eq_ofNat_of_zero_le afterNonneg
  have through : ∃ through : Nat,
      input.throughSequence.getD (flattenEntries (log input.sessionId)).length = through := by
    cases given : input.throughSequence with
    | none => exact ⟨_, rfl⟩
    | some place => exact Int.eq_ofNat_of_zero_le (throughNonneg place given)
  obtain ⟨through, throughEq⟩ := through
  rw [afterEq, throughEq]
  simp only [Int.toNat_natCast]
  rw [filter_numbered _ kept.sequences after through]
  have last := getLast?_pageOf kept.sequences after through (input.limit.getD maxReadPage).toNat
  rw [pageOf] at last
  rw [last]
  exact Iff.rfl

theorem Kept.head_safe {sessionId : String} {commits : List (SessionCommitV3 Data)}
    (kept : Kept rules sessionId commits) (present : commits ≠ []) :
    positiveInteger commits.length = true ∧
      positiveInteger (flattenEntries commits).length = true := by
  have place := kept.head_eq present
  obtain ⟨last, there, same⟩ := Option.map_eq_some_iff.mp place
  have member := List.mem_of_getLast? there
  obtain ⟨commit, owner, entry⟩ := List.mem_flatMap.mp member
  have valid := (kept.validCommit owner).entries last entry
  rw [SessionJournalHeadV3.mk.injEq] at same
  rw [← same.1, ← same.2]
  exact ⟨(validateSessionEntryV3_ok valid).2.2.1, validateSessionEntryV3_sequence rules valid⟩

/-- **The facade accepts every page of a log.** -/
theorem CommitLog.validatePage_ok (kept : Kept rules input.sessionId (log input.sessionId))
    (answered : log.readEntries input = .ok page) :
    validatePage rules page input = .ok page := by
  obtain ⟨valid, present, within, rfl⟩ := (readEntries_eq_ok kept).mp answered
  obtain ⟨afterNonneg, afterSafe, limitPositive, throughNonneg⟩ := validateReadInput_ok valid
  obtain ⟨revisionSafe, sequenceSafe⟩ := kept.head_safe present
  have numbered := kept.sequences
  have owned : ∀ entry ∈ flattenEntries (log input.sessionId),
      validateSessionEntryV3 rules entry = .ok entry ∧ entry.sessionId = input.sessionId := by
    intro entry member
    obtain ⟨commit, owner, inside⟩ := List.mem_flatMap.mp member
    have good := kept.validCommit owner
    exact ⟨good.entries entry inside, by rw [good.session entry inside, kept.session commit owner]⟩
  obtain ⟨after, afterEq⟩ := Int.eq_ofNat_of_zero_le afterNonneg
  obtain ⟨through, throughEq⟩ : ∃ through : Nat,
      input.throughSequence.getD (flattenEntries (log input.sessionId)).length = through := by
    cases given : input.throughSequence with
    | none => exact ⟨_, rfl⟩
    | some place => exact Int.eq_ofNat_of_zero_le (throughNonneg place given)
  obtain ⟨limit, limitEq⟩ : ∃ limit : Nat, input.limit.getD maxReadPage = limit :=
    Int.eq_ofNat_of_zero_le (by omega)
  simp only [pageAt, afterEq, throughEq, limitEq, Int.toNat_natCast]
  rw [throughEq] at within
  rw [afterEq] at afterSafe
  generalize flattenEntries (log input.sessionId) = entries at *
  simp only [validatePage, bind_eq_ok, ensure_eq_ok, exists_const, pure_eq_ok, Bool.and_eq_true,
    List.all_eq_true, beq_iff_eq, decide_eq_true_eq, afterEq, throughEq, limitEq]
  have reaches : after + (pageOf entries after through limit).length ≤
      max after entries.length := by
    rw [length_pageOf]
    omega
  refine ⟨⟨⟨⟨trivial, ?nextSafe⟩, ?revisionSafe⟩, ?sequenceSafe⟩,
    pageOf entries after through limit, ?valid, ⟨⟨⟨⟨⟨within, ?short⟩, ?each⟩, ?consecutive⟩, ?last⟩,
      trivial⟩, rfl⟩
  case nextSafe =>
    simp only [nonNegativeInteger, positiveInteger, decide_eq_true_eq] at sequenceSafe ⊢
    omega
  case revisionSafe =>
    simp only [nonNegativeInteger, positiveInteger, decide_eq_true_eq] at revisionSafe ⊢
    omega
  case sequenceSafe =>
    simp only [nonNegativeInteger, positiveInteger, decide_eq_true_eq] at sequenceSafe ⊢
    omega
  case valid =>
    refine mapM_eq_ok.mpr (List.forall₂_same.mpr fun entry member => ?_)
    exact (owned entry (mem_of_mem_pageOf member)).1
  case short =>
    rw [length_pageOf]
    omega
  case each =>
    intro entry member
    obtain ⟨later, upTo⟩ := bounds_of_mem_pageOf numbered member
    exact ⟨⟨(owned entry (mem_of_mem_pageOf member)).2, later⟩, upTo⟩
  case consecutive => exact fun pair member => pageOf_consecutive numbered member
  case last => exact (getLast?_pageOf numbered after through limit).symm

theorem AnswersReads.facade {store : SessionStore Data View σ} {Holds : σ → CommitLog Data → Prop}
    (answers : AnswersReads rules store Holds) {state : σ} (holds : Holds state log)
    (input : ReadSessionEntriesInputV3) :
    Session.readEntries rules store state input = (log.readEntries input, state) := by
  cases valid : validateReadInput input with
  | error error => simp [Session.readEntries, CommitLog.readEntries, valid, error_bind]
  | ok done =>
    simp only [Session.readEntries, valid, answers.readEntries holds input]
    cases answered : log.readEntries input with
    | error error => rfl
    | ok page =>
      have checked := CommitLog.validatePage_ok (answers.kept holds input.sessionId) answered
      exact Prod.ext checked rfl

end Log

/-! ## The loop -/

section Loop

variable {rules} {store : SessionStore Data View σ} {Holds : σ → CommitLog Data → Prop}
  {log : CommitLog Data} {sessionId : String} {cursor : PageCursor Data} {state : σ} {after : Nat}

/-- The loop has read the first entries of the log it started with, and it reads to its head. -/
structure Reading (Holds : σ → CommitLog Data → Prop) (log : CommitLog Data) (sessionId : String)
    (cursor : PageCursor Data) (state : σ) (after : Nat) : Prop where
  current : ∃ later, Holds state later ∧ log.GrowsTo later ∧
    (cursor.throughSequence = some ((flattenEntries (log sessionId)).length : Int) ∨
      cursor.throughSequence = none ∧ later = log)
  within : after ≤ (flattenEntries (log sessionId)).length
  place : cursor.afterSequence = after
  entries : cursor.entries = (flattenEntries (log sessionId)).take after
  more : cursor.hasMore = decide (after < (flattenEntries (log sessionId)).length)

theorem flattenEntries_prefix {front commits : List (SessionCommitV3 Data)}
    (first : front <+: commits) : flattenEntries front <+: flattenEntries commits := by
  obtain ⟨back, rfl⟩ := first
  rw [flattenEntries_append]
  exact List.prefix_append _ _

/-- **A page brings the loop further along the log it started with**, whatever others append
afterwards. -/
theorem Reading.step (answers : AnswersReads rules store Holds)
    (reading : Reading Holds log sessionId cursor state after)
    (kept : Kept rules sessionId (log sessionId))
    (more : after < (flattenEntries (log sessionId)).length)
    (others : List (SessionCommitV3 Data)) :
    ∃ page next, readEntries rules store state (cursor.request sessionId) = (.ok page, state) ∧
      after < next ∧
      Reading Holds log sessionId (cursor.take page) (appendCommits store state others) next := by
  obtain ⟨later, holds, grows, pinned⟩ := reading.current
  have present : log sessionId ≠ [] := by
    intro empty
    simp [empty] at more
  have prefix_ := flattenEntries_prefix (grows sessionId)
  have long := prefix_.length_le
  have laterKept := answers.kept holds sessionId
  have laterPresent : later sessionId ≠ [] := by
    intro empty
    rw [empty, flattenEntries_nil, List.length_nil] at long
    omega
  obtain ⟨_, safe⟩ := kept.head_safe present
  simp only [positiveInteger, decide_eq_true_eq] at safe
  have upTo : cursor.throughSequence.getD (flattenEntries (later sessionId)).length =
      ((flattenEntries (log sessionId)).length : Int) := by
    rcases pinned with given | ⟨given, rfl⟩
    · simp [given]
    · simp [given]
  have valid : validateReadInput (cursor.request sessionId) = .ok () := by
    have through : cursor.throughSequence.all nonNegativeInteger = true := by
      rcases pinned with given | ⟨given, _⟩
      · simp only [given, Option.all_some, nonNegativeInteger, decide_eq_true_eq]
        omega
      · simp [given]
    have place : nonNegativeInteger cursor.afterSequence = true := by
      rw [reading.place]
      simp only [nonNegativeInteger, decide_eq_true_eq]
      omega
    simp [validateReadInput, PageCursor.request, kept.safe present, place, through, maxReadPage]
  have answered : later.readEntries (cursor.request sessionId) =
      .ok (pageAt (later sessionId) sessionId after
        (flattenEntries (log sessionId)).length 512) := by
    refine (CommitLog.readEntries_eq_ok laterKept).mpr ⟨valid, laterPresent, ?_, ?_⟩
    · simp only [PageCursor.request, upTo]
      omega
    · simp [PageCursor.request, upTo, reading.place, maxReadPage]
  have same : pageOf (flattenEntries (later sessionId)) after
      (flattenEntries (log sessionId)).length 512 =
      pageOf (flattenEntries (log sessionId)) after (flattenEntries (log sessionId)).length 512 :=
    pageOf_prefix prefix_ le_rfl
  have advances : 0 < (pageOf (flattenEntries (log sessionId)) after
        (flattenEntries (log sessionId)).length 512).length ∧
      after + (pageOf (flattenEntries (log sessionId)) after
        (flattenEntries (log sessionId)).length 512).length ≤
          (flattenEntries (log sessionId)).length :=
    pageOf_advances (by decide) le_rfl more
  obtain ⟨final, finalHolds, finalGrows⟩ := answers.appendCommits holds others
  refine ⟨_, _, (answers.facade holds _).trans (Prod.ext answered rfl),
    Nat.lt_add_of_pos_right advances.1, ?_⟩
  constructor
  case current =>
    refine ⟨final, finalHolds, grows.trans finalGrows, .inl ?_⟩
    simp [PageCursor.take, pageAt, upTo]
  case within => exact advances.2
  case place => simp [PageCursor.take, pageAt, same]
  case entries =>
    simp only [PageCursor.take, pageAt, same, reading.entries]
    exact take_append_pageOf reading.within le_rfl
  case more =>
    simp only [PageCursor.take, pageAt, same, Int.ofNat_lt]

theorem Reading.readPages (answers : AnswersReads rules store Holds)
    (kept : Kept rules sessionId (log sessionId)) (fuel : Nat)
    (others : Nat → List (SessionCommitV3 Data))
    (reading : Reading Holds log sessionId cursor state after)
    (enough : (flattenEntries (log sessionId)).length - after < fuel) :
    ∃ final, readPages rules store sessionId fuel others cursor state =
      some (.ok (flattenEntries (log sessionId)), final) := by
  induction fuel generalizing others cursor state after with
  | zero => omega
  | succ fuel ih =>
    by_cases more : after < (flattenEntries (log sessionId)).length
    · obtain ⟨page, next, read, further, reading'⟩ := reading.step answers kept more (others 0)
      have continues : cursor.hasMore = true := by rw [reading.more, decide_eq_true more]
      simp only [Session.readPages, continues, ↓reduceIte, read]
      exact ih (fun round => others (round + 1)) reading' (by omega)
    · have stops : cursor.hasMore = false := by rw [reading.more, decide_eq_false more]
      have all : cursor.entries = flattenEntries (log sessionId) := by
        rw [reading.entries, List.take_of_length_le (by omega)]
      exact ⟨state, by simp [Session.readPages, stops, all]⟩

theorem Reading.start
    (holds : Holds state log) (present : 0 < (flattenEntries (log sessionId)).length) :
    Reading Holds log sessionId {} state 0 where
  current := ⟨log, holds, .refl log, .inr ⟨rfl, rfl⟩⟩
  within := Nat.zero_le _
  place := rfl
  entries := rfl
  more := (decide_eq_true present).symm

end Loop

/-- **Paged reads are complete and stable.** The JSONL and the SQLite journal answer reads as the
commit log does. For every store that does, the loop of `readAllEntries` ends and reads the entries
up to the head that its first page sees, each once and in order, whatever commits others append
between its pages; and the facade accepts every page that such a store answers. -/
theorem paged_reads_complete :
    AnswersReads rules (jsonlSessionJournalV3 rules) (JsonlHolds rules) ∧
    AnswersReads rules (sqliteSessionJournalV3 rules) (SqliteHolds rules) ∧
    ∀ {σ : Type} (store : SessionStore Data View σ) (Holds : σ → CommitLog Data → Prop),
      AnswersReads rules store Holds → ∀ state log, Holds state log →
      (∀ sessionId, log sessionId ≠ [] → ∃ page : SessionEntryPageV3 Data, ∃ count : Nat,
        readEntries rules store state (({} : PageCursor Data).request sessionId) =
          (.ok page, state) ∧
        page.head.sequence = count ∧
        (flattenEntries (log sessionId)).map (·.sequence) = numbersTo count ∧
        ∀ others fuel, count < fuel → ∃ final,
          readAllEntries rules store fuel sessionId others state =
            some (.ok (flattenEntries (log sessionId)), final)) ∧
      ∀ request page after, store.readEntries state request = (.ok page, after) →
        validatePage rules page request = .ok page := by
  refine ⟨jsonl_implements.answersReads, sqlite_implements.answersReads, ?_⟩
  intro σ store Holds answers state log holds
  constructor
  · intro sessionId present
    have kept := answers.kept holds sessionId
    have some_ : 0 < (flattenEntries (log sessionId)).length :=
      List.length_pos_of_ne_nil (kept.flattenEntries_ne_nil present)
    have reading : Reading Holds log sessionId {} state 0 := .start holds some_
    obtain ⟨page, _, read, _⟩ := reading.step answers kept some_ []
    refine ⟨page, (flattenEntries (log sessionId)).length, read, ?_, kept.sequences, ?_⟩
    · have answered := congrArg Prod.fst ((answers.facade holds _).symm.trans read)
      obtain ⟨_, _, _, rfl⟩ := (CommitLog.readEntries_eq_ok kept).mp answered
      rfl
    · intro others fuel enough
      obtain ⟨final, loop⟩ := reading.readPages answers kept fuel others (by omega)
      refine ⟨final, ?_⟩
      have nonempty := kept.flattenEntries_ne_nil present
      simp [readAllEntries, loop, nonempty, Except.bind]
  · intro request page after answered
    rw [answers.readEntries holds request, Prod.mk.injEq] at answered
    exact CommitLog.validatePage_ok (answers.kept holds request.sessionId) answered.1

def closingCommit : SessionCommitV3 Unit where
  sessionId := "session-1"
  commitId := "commit-2"
  expectedRevision := 1
  idempotencyKey := "key-2"
  entries := [{ createdEntry Unit with
    entryId := "entry-2"
    sequence := 2
    revision := 2
    data := .sessionClosed none }]
  checksum := "sha256:0000000000000000000000000000000000000000000000000000000000000000"

theorem closed_session_read_whole :
    ∃ final, readAllEntries oneDigestRules (sqliteSessionJournalV3 oneDigestRules) 2 "session-1"
      (fun _ => [closingCommit])
      ((sqliteSessionJournalV3 oneDigestRules).appendCommit {} creatingCommit).2 =
        some (.ok [createdEntry Unit], final) := by
  have valid : validateSessionCommitV3 oneDigestRules creatingCommit = .ok creatingCommit := by
    decide +kernel
  have appended : appendToLog oneDigestRules [] creatingCommit =
      .ok (sessionCommitReceiptV3 creatingCommit false, [creatingCommit]) := by
    decide +kernel
  have empty : SqliteHolds oneDigestRules {} fun _ => [] := SqliteHolds.empty
  have holds := (sqlite_implements.appendCommit empty creatingCommit).2
  have log : ((CommitLog.appendCommit oneDigestRules .all (fun _ => []) creatingCommit).2
      "session-1") = [creatingCommit] := by
    simp only [CommitLog.appendCommit, valid, appended, Naming.all, Bool.not_true,
      Bool.false_eq_true, ↓reduceIte]
    exact Function.update_self creatingCommit.sessionId _ _
  obtain ⟨_, _, complete⟩ := paged_reads_complete oneDigestRules
  obtain ⟨page, count, _, _, numbers, read⟩ := (complete _ _ sqlite_implements.answersReads _ _
    holds).1 "session-1" (by rw [log]; exact List.cons_ne_nil _ _)
  rw [log] at numbers read
  have one : count = 1 := by
    have length := congrArg List.length numbers
    rw [length_numbersTo] at length
    exact length.symm
  exact read (fun _ => [closingCommit]) 2 (by omega)

end Praxis.Session
