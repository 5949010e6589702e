import Praxis.Foundations.Runs
import Praxis.Process.ChunkedOutput

/-!
# The ledger of the calls

Every call is pending or settled, once, and by the line or the end that it met first
(`Ledger`). Each change of a connection keeps the ledger, and the queue of the notifications keeps
their order.
-/

namespace Praxis.Process

set_option autoImplicit false

open Praxis.Foundations

variable {Notification Value : Type}

/-! ## What is to hold -/

def answerOf (id : String) : LineOutcome Notification Value → Option (Except Value Value)
  | .ok (.response other answer) => if other = id then some answer else none
  | _ => none

/-- The first answer to the request under an id. -/
def answerTo (id : String) (outcomes : List (LineOutcome Notification Value)) :
    Option (Except Value Value) :=
  outcomes.findSome? (answerOf id)

def noticeOf : LineOutcome Notification Value → Option Notification
  | .ok (.notification notification) => some notification
  | _ => none

/-- The lines that have been read, as the connection has understood them. -/
def NdjsonProcessConnection.outcomes (connection : NdjsonProcessConnection Notification Value) :
    List (LineOutcome Notification Value) :=
  connection.lines.map (·.2)

/-- How a call has to be settled, given all lines that count: by the first line with its id after it
became pending, otherwise with an error. -/
def Issue.SettledBy (issue : Issue) (outcomes : List (LineOutcome Notification Value))
    (settlement : Settlement Value) : Prop :=
  match issue.since with
  | none => ∃ error, settlement = .refused error
  | some read =>
    match answerTo issue.id (outcomes.drop read) with
    | some answer => settlement = .answered answer
    | none => ∃ error, settlement = .refused error

/-- The promise of a connection. The lines that count are those that have been read and, once it has
stopped, those that were written before. -/
structure Framed (options : NdjsonProcessConnectionOptions Notification Value)
    (system : System Notification Value) : Prop where
  /-- Every call is pending or settled, once. -/
  once : (system.connection.pending.map (·.2.token) ++ system.connection.settled.map (·.1)).Perm
    (List.range system.issues.length)
  byLine : ∀ token settlement issue, (token, settlement) ∈ system.connection.settled →
    system.issues[token]? = some issue →
    issue.SettledBy (system.connection.outcomes ++ system.late) settlement
  /-- Nothing stays pending. -/
  ends : system.connection.failure.isSome ∨ system.closeFinished → system.connection.pending = []
  notices : system.connection.notifications.handed ++ system.connection.notifications.values =
    system.connection.outcomes.filterMap noticeOf
  /-- The lines are read in the order in which they were written. -/
  inOrder : system.connection.lines.map (·.1) <+: completeLines newline system.written
  /-- No byte is lost while the connection is open. -/
  whole : system.connection.stopped = false → system.written.splitOn newline =
    system.connection.lines.map (·.1) ++
      (system.connection.stdout ++ system.pipe).splitOn newline
  decoded : ∀ line ∈ system.connection.lines, ∃ pending, line.2 = decodeLine options pending line.1

/-- The condition on a step: an event that may stop an open connection finds no answer to a pending
request in the pipe. -/
def Heeds (options : NdjsonProcessConnectionOptions Notification Value)
    (system : System Notification Value) (event : ConnectionEvent) : Prop :=
  system.connection.stopped = false →
    (match event with
      | .exits => True
      | .errors _ => True
      | .closes => True
      | .timesOut _ => True
      | .writeEnds id _ failed => failed = true ∧ (system.connection.pending.lookup id).isSome
      | _ => False) →
    ∀ entry ∈ system.connection.pending, answerTo entry.1 (system.ahead options) = none

section Answers

variable {id : String} {outcomes more : List (LineOutcome Notification Value)}

theorem answerTo_append : answerTo id (outcomes ++ more) = (answerTo id outcomes).or (answerTo id more) :=
  List.findSome?_append

theorem answerTo_single (outcome : LineOutcome Notification Value) :
    answerTo id [outcome] = answerOf id outcome := by
  rw [answerTo, List.findSome?_cons]
  cases answerOf id outcome <;> rfl

theorem drop_append_of_read {read : Nat} (earlier : read ≤ outcomes.length) :
    (outcomes ++ more).drop read = outcomes.drop read ++ more :=
  List.drop_append_of_le_length earlier

end Answers

/-! ## The ledger of the calls -/

variable {request : PendingRequest}

section Ledger

open NdjsonProcessConnection

/-- What is known of a call that has been settled. -/
def Told (connection : NdjsonProcessConnection Notification Value)
    (late : List (LineOutcome Notification Value)) (issue : Issue) (settlement : Settlement Value) :
    Prop :=
  match issue.since with
  | none => ∃ error, settlement = .refused error
  | some read =>
    (∃ answer, answerTo issue.id (connection.outcomes.drop read) = some answer ∧
      settlement = .answered answer ∧ read ≤ connection.lines.length) ∨
    (∃ error, answerTo issue.id ((connection.outcomes ++ late).drop read) = none ∧
      settlement = .refused error ∧ connection.closed = true)

/-- The calls of a connection: each is pending or settled, once; no line has answered a pending one,
and the settled ones have been told the truth. -/
structure Ledger (connection : NdjsonProcessConnection Notification Value) (issues : List Issue)
    (late : List (LineOutcome Notification Value)) : Prop where
  once : (connection.pending.map (·.2.token) ++ connection.settled.map (·.1)).Perm
    (List.range issues.length)
  ids : (connection.pending.map (·.1)).Nodup
  waiting : ∀ entry ∈ connection.pending, ∃ read, issues[entry.2.token]? = some ⟨entry.1, some read⟩ ∧
    read ≤ connection.lines.length ∧
    answerTo entry.1 ((connection.outcomes ++ late).drop read) = none
  told : ∀ token settlement, (token, settlement) ∈ connection.settled →
    ∃ issue, issues[token]? = some issue ∧ Told connection late issue settlement

variable {connection other : NdjsonProcessConnection Notification Value} {issues : List Issue}
  {late : List (LineOutcome Notification Value)}

variable {issue : Issue} {line : Bytes × LineOutcome Notification Value}
  {settlement : Settlement Value} {id : String}

theorem Told.settledBy (told : Told connection late issue settlement) :
    issue.SettledBy (connection.outcomes ++ late) settlement := by
  rw [Told] at told
  rw [Issue.SettledBy]
  split at told
  · exact told
  · rename_i read _
    rcases told with ⟨answer, answered, rfl, earlier⟩ | ⟨error, unanswered, rfl, _⟩
    · have lines : read ≤ connection.outcomes.length := by
        rw [outcomes, List.length_map]
        exact earlier
      rw [drop_append_of_read lines, answerTo_append, answered]
      rfl
    · rw [unanswered]
      exact ⟨error, rfl⟩

/-- Only four of the fields matter. -/
theorem Ledger.of_same (ledger : Ledger connection issues late)
    (pending : other.pending = connection.pending) (settled : other.settled = connection.settled)
    (lines : other.lines = connection.lines) (closed : connection.closed = true → other.closed = true) :
    Ledger other issues late := by
  have outcomes : other.outcomes = connection.outcomes := congrArg (List.map Prod.snd) lines
  refine
    { once := ?_
      ids := ?_
      waiting := ?_
      told := ?_ }
  · rw [pending, settled]
    exact ledger.once
  · rw [pending]
    exact ledger.ids
  · rw [pending, lines, outcomes]
    exact ledger.waiting
  · rw [settled]
    intro token settlement member
    obtain ⟨issue, issued, told⟩ := ledger.told token settlement member
    refine ⟨issue, issued, ?_⟩
    rw [Told] at told ⊢
    split at told
    · exact told
    · rw [lines, outcomes]
      rcases told with answered | ⟨error, unanswered, refused, stopped⟩
      · exact .inl answered
      · exact .inr ⟨error, unanswered, refused, closed stopped⟩

theorem pending_perm {pending : List (String × PendingRequest)} (ids : (pending.map (·.1)).Nodup)
 (found : pending.lookup id = some request) :
    pending.Perm ((id, request) :: pending.filter (·.1 != id)) := by
  obtain ⟨before, after, rfl, others⟩ := List.lookup_eq_some_iff.mp found
  rw [List.map_append, List.map_cons, List.nodup_append, List.nodup_cons] at ids
  obtain ⟨_, ⟨absent, _⟩, _⟩ := ids
  have before_kept : before.filter (·.1 != id) = before := by
    refine List.filter_eq_self.mpr fun entry member => ?_
    have different := others entry member
    simp only [bne_iff_ne, ne_eq] at different ⊢
    exact fun same => different same.symm
  have after_kept : after.filter (·.1 != id) = after := by
    refine List.filter_eq_self.mpr fun entry member => ?_
    simp only [bne_iff_ne, ne_eq]
    exact fun same => absent (List.mem_map.mpr ⟨entry, member, same⟩)
  have kept : (before ++ (id, request) :: after).filter (·.1 != id) = before ++ after := by
    rw [List.filter_append, List.filter_cons_of_neg (by simp), before_kept, after_kept]
  rw [kept]
  exact List.perm_middle

theorem settle_once (ledger : Ledger connection issues late)
    (found : connection.pending.lookup id = some request) (settlement : Settlement Value) :
    ((connection.settle id request settlement).pending.map (·.2.token) ++
      (connection.settle id request settlement).settled.map (·.1)).Perm
      (List.range issues.length) := by
  refine List.Perm.trans ?_ ledger.once
  have perm := (pending_perm ledger.ids found).map (·.2.token)
  rw [List.map_cons] at perm
  change ((connection.pending.filter (·.1 != id)).map (·.2.token) ++
    (connection.settled ++ [(request.token, settlement)]).map (·.1)).Perm _
  rw [List.map_append, List.map_singleton, ← List.append_assoc]
  refine List.Perm.trans (List.perm_append_singleton _ _) ?_
  exact (perm.symm.append_right _)

theorem Told.read (told : Told connection [] issue settlement)
    (running : connection.closed = false) (lines : other.lines = connection.lines ++ [line]) :
    Told other [] issue settlement := by
  rw [Told] at told ⊢
  split at told
  · exact told
  · rename_i read since
    rcases told with ⟨answer, answered, settled, earlier⟩ | ⟨_, _, _, stopped⟩
    · have within : read ≤ connection.outcomes.length := by
        rw [outcomes, List.length_map]
        exact earlier
      refine .inl ⟨answer, ?_, settled, by rw [lines, List.length_append]; omega⟩
      rw [outcomes, lines, List.map_append, ← outcomes, drop_append_of_read within, answerTo_append,
        answered]
      rfl
    · rw [running] at stopped
      cases stopped

theorem answerTo_next {read : Nat} (lines : other.lines = connection.lines ++ [line])
    (earlier : read ≤ connection.lines.length)
    (unanswered : answerTo id ((connection.outcomes ++ []).drop read) = none) :
    answerTo id (other.outcomes.drop read) = answerOf id line.2 := by
  have within : read ≤ connection.outcomes.length := by
    rw [outcomes, List.length_map]
    exact earlier
  rw [List.append_nil] at unanswered
  rw [outcomes, lines, List.map_append, ← outcomes, drop_append_of_read within, answerTo_append,
    unanswered]
  exact answerTo_single _

theorem Ledger.read (ledger : Ledger connection issues []) (running : connection.closed = false)
    (silent : ∀ entry ∈ connection.pending, answerOf entry.1 line.2 = none) : Ledger
      { connection with
        stdout := []
        lines := connection.lines ++ [line] } issues [] := by
  refine
    { once := ledger.once
      ids := ledger.ids
      waiting := fun entry member => ?_
      told := fun token settlement member => ?_ }
  · obtain ⟨read, issued, earlier, unanswered⟩ := ledger.waiting entry member
    refine ⟨read, issued, by rw [List.length_append]; omega, ?_⟩
    rw [List.append_nil, answerTo_next rfl earlier unanswered, silent entry member]
  · obtain ⟨issue, issued, told⟩ := ledger.told token settlement member
    exact ⟨issue, issued, told.read running rfl⟩

theorem Ledger.answer (ledger : Ledger connection issues []) (running : connection.closed = false)
 {answer : Except Value Value} {frame : Bytes}
    (found : connection.pending.lookup id = some request)
    (lines : other.lines = connection.lines ++ [(frame, .ok (.response id answer))])
    (pending : other.pending = connection.pending.filter (·.1 != id))
    (settled : other.settled = connection.settled ++ [(request.token, .answered answer)]) :
    Ledger other issues [] := by
  have of_pending : ∀ entry ∈ other.pending, entry ∈ connection.pending ∧ entry.1 ≠ id := by
    intro entry member
    rw [pending, List.mem_filter, bne_iff_ne] at member
    exact member
  refine
    { once := ?_
      ids := ?_
      waiting := fun entry member => ?_
      told := fun token settlement member => ?_ }
  · rw [pending, settled]
    exact settle_once ledger found (.answered answer)
  · rw [pending]
    exact ledger.ids.sublist (List.filter_sublist.map _)
  · obtain ⟨member, different⟩ := of_pending entry member
    obtain ⟨read, issued, earlier, unanswered⟩ := ledger.waiting entry member
    refine ⟨read, issued, by rw [lines, List.length_append]; omega, ?_⟩
    rw [List.append_nil, answerTo_next lines earlier unanswered]
    exact if_neg (Ne.symm different)
  · rw [settled] at member
    rcases List.mem_append.mp member with before | now
    · obtain ⟨issue, issued, told⟩ := ledger.told token settlement before
      exact ⟨issue, issued, told.read running lines⟩
    · obtain ⟨rfl, rfl⟩ := Prod.mk.inj (List.mem_singleton.mp now)
      have waiting : (id, request) ∈ connection.pending := by
        refine (pending_perm ledger.ids found).mem_iff.mpr List.mem_cons_self
      obtain ⟨read, issued, earlier, unanswered⟩ := ledger.waiting _ waiting
      refine ⟨_, issued, .inl ⟨answer, ?_, rfl, by rw [lines, List.length_append]; omega⟩⟩
      rw [answerTo_next lines earlier unanswered]
      exact if_pos rfl

theorem Ledger.close (ledger : Ledger connection issues []) (running : connection.closed = false)
    (heeded : ∀ entry ∈ connection.pending, answerTo entry.1 late = none) :
    Ledger connection.startClose issues late := by
  refine
    { once := ledger.once
      ids := ledger.ids
      waiting := fun entry member => ?_
      told := fun token settlement member => ?_ }
  · obtain ⟨read, issued, earlier, unanswered⟩ := ledger.waiting entry member
    have within : read ≤ connection.outcomes.length := by
      rw [outcomes, List.length_map]
      exact earlier
    refine ⟨read, issued, earlier, ?_⟩
    rw [List.append_nil] at unanswered
    change answerTo entry.1 ((connection.outcomes ++ late).drop read) = none
    rw [drop_append_of_read within, answerTo_append, unanswered, heeded entry member]
    rfl
  · obtain ⟨issue, issued, told⟩ := ledger.told token settlement member
    refine ⟨issue, issued, ?_⟩
    rw [Told] at told ⊢
    split at told
    · exact told
    · rcases told with answered | ⟨_, _, _, stopped⟩
      · exact .inl answered
      · rw [running] at stopped
        cases stopped

theorem Ledger.refuse (ledger : Ledger connection issues late) (closed : connection.closed = true)
 (found : connection.pending.lookup id = some request)
    (error : ConnectionError) : Ledger (connection.settle id request (.refused error)) issues late := by
  refine
    { once := settle_once ledger found (.refused error)
      ids := ledger.ids.sublist (List.filter_sublist.map _)
      waiting := fun entry member => ledger.waiting entry (List.mem_of_mem_filter member)
      told := fun token settlement member => ?_ }
  rcases List.mem_append.mp member with before | now
  · exact ledger.told token settlement before
  · obtain ⟨rfl, rfl⟩ := Prod.mk.inj (List.mem_singleton.mp now)
    have waiting : (id, request) ∈ connection.pending :=
      (pending_perm ledger.ids found).mem_iff.mpr List.mem_cons_self
    obtain ⟨read, issued, _, unanswered⟩ := ledger.waiting _ waiting
    exact ⟨_, issued, .inr ⟨error, unanswered, rfl, closed⟩⟩

theorem Ledger.refuseAll (ledger : Ledger connection issues late) (closed : connection.closed = true)
    (error : ConnectionError) : Ledger (connection.rejectPending error) issues late := by
  refine
    { once := ?_
      ids := List.nodup_nil
      waiting := fun entry member => absurd member List.not_mem_nil
      told := fun token settlement member => ?_ }
  · refine List.Perm.trans ?_ ledger.once
    rw [rejectPending, List.map_nil, List.nil_append, List.map_append, List.map_map]
    exact List.perm_append_comm
  · rcases List.mem_append.mp member with before | now
    · exact ledger.told token settlement before
    · obtain ⟨entry, waiting, same⟩ := List.mem_map.mp now
      obtain ⟨rfl, rfl⟩ := Prod.mk.inj same
      obtain ⟨read, issued, _, unanswered⟩ := ledger.waiting entry waiting
      exact ⟨_, issued, .inr ⟨error, unanswered, rfl, closed⟩⟩

theorem Ledger.fail (ledger : Ledger connection issues []) (running : connection.stopped = false)
    (heeded : ∀ entry ∈ connection.pending, answerTo entry.1 late = none) (error : ConnectionError) :
    Ledger (connection.fail error) issues late := by
  have closed : connection.closed = false := (Bool.or_eq_false_iff.mp running).1
  rw [fail_of_open running]
  have refused := (ledger.close closed heeded).refuseAll rfl error
  exact refused.of_same rfl rfl rfl fun _ => rfl

theorem Ledger.giveUp (ledger : Ledger connection issues []) (running : connection.stopped = false)
    (heeded : ∀ entry ∈ connection.pending, answerTo entry.1 late = none)
 (found : connection.pending.lookup id = some request)
    (error : ConnectionError) : Ledger (connection.giveUp id request error) issues late := by
  have closed : connection.closed = false := (Bool.or_eq_false_iff.mp running).1
  have running' : (connection.settle id request (.refused error)).stopped = false := running
  rw [NdjsonProcessConnection.giveUp, fail_of_open running']
  have refused := ((ledger.close closed heeded).refuse rfl found error).refuseAll rfl error
  exact refused.of_same rfl rfl rfl fun _ => rfl

theorem issued_append {token : Nat} (issued : issues[token]? = some issue) (more : List Issue) :
    (issues ++ more)[token]? = some issue := by
  have within : token < issues.length := (List.getElem?_eq_some_iff.mp issued).1
  rw [List.getElem?_append_left within, issued]

theorem Ledger.refuseNow (ledger : Ledger connection issues late) (id : String)
    (error : ConnectionError) :
    Ledger { connection with settled := connection.settled ++ [(issues.length, .refused error)] }
      (issues ++ [⟨id, none⟩]) late := by
  refine
    { once := ?_
      ids := ledger.ids
      waiting := fun entry member => ?_
      told := fun token settlement member => ?_ }
  · rw [List.map_append, ← List.append_assoc, List.length_append, List.length_singleton,
      List.range_succ]
    exact ledger.once.append_right _
  · obtain ⟨read, issued, earlier, unanswered⟩ := ledger.waiting entry member
    exact ⟨read, issued_append issued _, earlier, unanswered⟩
  · rcases List.mem_append.mp member with before | now
    · obtain ⟨issue, issued, told⟩ := ledger.told token settlement before
      exact ⟨issue, issued_append issued _, told⟩
    · obtain ⟨rfl, rfl⟩ := Prod.mk.inj (List.mem_singleton.mp now)
      exact ⟨⟨id, none⟩, List.getElem?_concat_length, error, rfl⟩

theorem Ledger.accept (ledger : Ledger connection issues [])
    (fresh : connection.pending.lookup id = none) (method : String) (timer : Bool) :
    Ledger { connection with pending := connection.pending ++ [(id, ⟨issues.length, method, timer⟩)] }
      (issues ++ [⟨id, some connection.lines.length⟩]) [] := by
  refine
    { once := ?_
      ids := ?_
      waiting := fun entry member => ?_
      told := fun token settlement member => ?_ }
  · rw [List.map_append, List.append_assoc, List.length_append, List.length_singleton,
      List.range_succ]
    refine List.Perm.trans (List.Perm.append_left _ List.perm_append_comm) ?_
    rw [← List.append_assoc]
    exact ledger.once.append_right _
  · rw [List.map_append, List.nodup_append]
    refine ⟨ledger.ids, by simp, fun other member id' last => ?_⟩
    obtain rfl := List.mem_singleton.mp last
    obtain ⟨entry, present, rfl⟩ := List.mem_map.mp member
    have different := List.lookup_eq_none_iff.mp fresh entry present
    exact fun same => bne_iff_ne.mp different same.symm
  · rcases List.mem_append.mp member with before | now
    · obtain ⟨read, issued, earlier, unanswered⟩ := ledger.waiting entry before
      exact ⟨read, issued_append issued _, earlier, unanswered⟩
    · obtain rfl := List.mem_singleton.mp now
      refine ⟨_, List.getElem?_concat_length, le_refl _, ?_⟩
      have all : connection.outcomes.length = connection.lines.length := List.length_map _
      change answerTo id ((connection.outcomes ++ []).drop connection.lines.length) = none
      rw [List.append_nil, ← all, List.drop_length]
      rfl
  · obtain ⟨issue, issued, told⟩ := ledger.told token settlement member
    exact ⟨issue, issued_append issued _, told⟩

end Ledger

/-! ## The queue keeps the order -/

namespace AsyncQueue

variable {queue : AsyncQueue Notification}

/-- Nobody waits while there are values. -/
def Waits (queue : AsyncQueue Notification) : Prop := queue.waiters = 0 ∨ queue.values = []

/-- What has been put into the queue. -/
def through (queue : AsyncQueue Notification) : List Notification := queue.handed ++ queue.values

theorem push_through (isOpen : queue.closed = false) (waits : queue.Waits) (value : Notification) :
    (queue.push value).through = queue.through ++ [value] ∧ (queue.push value).Waits ∧
      (queue.push value).closed = false := by
  rw [push, if_neg (by simp [isOpen])]
  cases waiting : queue.waiters with
  | zero => exact ⟨by simp [through], .inl rfl, isOpen⟩
  | succ waiters =>
    have empty : queue.values = [] := by
      rcases waits with none_waits | empty
      · rw [none_waits] at waiting
        cases waiting
      · exact empty
    exact ⟨by simp [through, empty], .inr empty, isOpen⟩

theorem fail_through (waits : queue.Waits) (error : ConnectionError) :
    (queue.fail error).through = queue.through ∧ (queue.fail error).Waits := by
  rw [fail]
  split
  · exact ⟨rfl, waits⟩
  · exact ⟨rfl, .inl rfl⟩

theorem close_through (waits : queue.Waits) :
    queue.close.through = queue.through ∧ queue.close.Waits := by
  rw [close]
  split
  · exact ⟨rfl, waits⟩
  · exact ⟨rfl, .inl rfl⟩

theorem next_through (waits : queue.Waits) :
    queue.next.through = queue.through ∧ queue.next.Waits ∧ queue.next.closed = queue.closed := by
  rw [next]
  cases values : queue.values with
  | cons value rest =>
    refine ⟨by simp [through, values], .inl ?_, rfl⟩
    rcases waits with none_waits | empty
    · exact none_waits
    · rw [values] at empty
      cases empty
  | nil =>
    simp only
    split
    · exact ⟨rfl, waits, rfl⟩
    · exact ⟨by simp [through, values], .inr rfl, rfl⟩

end AsyncQueue

end Praxis.Process
