import Praxis.Process.NdjsonConnection

/-!
# Output in chunks

However the output of a child is cut into chunks, the connection reads the same lines from it: a chunk
is taken like its bytes, one after another (`chunks_alike`). Once a connection has stopped, the part
of a line that it still holds is never read again and is left out of the comparison.
-/

namespace Praxis.Process

set_option autoImplicit false

variable {Notification Value : Type}

/-! ## Parts of a connection -/

namespace NdjsonProcessConnection

variable {options : NdjsonProcessConnectionOptions Notification Value}
  {connection : NdjsonProcessConnection Notification Value}

theorem fail_of_stopped (stopped : connection.stopped = true) (error : ConnectionError) :
    connection.fail error = connection := if_pos stopped

theorem fail_of_open (running : connection.stopped = false) (error : ConnectionError) :
    connection.fail error =
      { connection.rejectPending error with
        failure := some error
        closed := true
        notifications := connection.notifications.fail error } := by
  rw [fail, if_neg (by simp [running])]

theorem fail_stopped (error : ConnectionError) : (connection.fail error).stopped = true := by
  rw [fail]
  split
  · assumption
  · rfl

@[simp] theorem fail_lines (error : ConnectionError) : (connection.fail error).lines = connection.lines := by
  rw [fail]
  split <;> rfl

@[simp] theorem fail_stdout (error : ConnectionError) :
    (connection.fail error).stdout = connection.stdout := by
  rw [fail]
  split <;> rfl

@[simp] theorem dispatch_lines (outcome : LineOutcome Notification Value) :
    (connection.dispatch outcome).lines = connection.lines := by
  rw [dispatch.eq_def]
  split
  · exact fail_lines _
  · rfl
  · split <;> rfl

@[simp] theorem dispatch_stdout (outcome : LineOutcome Notification Value) :
    (connection.dispatch outcome).stdout = connection.stdout := by
  rw [dispatch.eq_def]
  split
  · exact fail_stdout _
  · rfl
  · split <;> rfl

theorem takePart_cases (segment : Bytes) :
    (∃ error, takePart options connection segment = connection.fail error) ∨
      takePart options connection segment =
        { connection with stdout := connection.stdout ++ segment } := by
  rw [takePart]
  split
  · exact .inl ⟨_, rfl⟩
  · exact .inr rfl

theorem request_refused {id : String}
    (unavailable : (!connection.stopped && (connection.pending.lookup id).isNone) = false)
    (token : Nat) (method : String) : ∃ error, connection.request options token id method =
      { connection with settled := connection.settled ++ [(token, .refused error)] } := by
  rw [request.eq_def]
  split
  · exact ⟨_, rfl⟩
  · rename_i failure
    split
    · exact ⟨_, rfl⟩
    · rename_i closed
      split
      · exact ⟨_, rfl⟩
      · rename_i pending
        simp_all [stopped]

theorem request_accepted {id : String}
    (available : (!connection.stopped && (connection.pending.lookup id).isNone) = true)
    (token : Nat) (method : String) : connection.request options token id method =
      { connection with
        pending := connection.pending ++ [(id, ⟨token, method, options.requestTimeout⟩)] } := by
  rw [Bool.and_eq_true, Bool.not_eq_true', stopped, Bool.or_eq_false_iff] at available
  obtain ⟨⟨closed, failure⟩, fresh⟩ := available
  have no_failure : connection.failure = none := by simpa using failure
  have no_pending : (connection.pending.lookup id).isSome = false := by simpa using fresh
  simp only [request, no_failure]
  rw [if_neg (by simp [closed]), if_neg (by simp [no_pending])]

end NdjsonProcessConnection

/-! ## The cut does not matter -/

section Cut

open NdjsonProcessConnection

variable (options : NdjsonProcessConnectionOptions Notification Value)

/-- A connection as far as it matters: once it has stopped, the part of a line that it holds is never
read again. -/
def sight (connection : NdjsonProcessConnection Notification Value) :
    NdjsonProcessConnection Notification Value :=
  if connection.stopped then { connection with stdout := [] } else connection

/-- A chunk in the eyes of the loop: one byte after another. -/
def takeByte (connection : NdjsonProcessConnection Notification Value) (byte : UInt8) :
    NdjsonProcessConnection Notification Value :=
  if connection.stopped then connection
  else if byte = newline then takeLine options connection
  else takePart options connection [byte]

/-- Two connections that differ at most in what is never read again. -/
def Alike (connection other : NdjsonProcessConnection Notification Value) : Prop :=
  sight connection = sight other

/-- The part of a line that an open connection holds is within the limit. -/
def Within (connection : NdjsonProcessConnection Notification Value) : Prop :=
  connection.stopped = false → connection.stdout.length ≤ options.maxLineBytes

variable {options} {connection other : NdjsonProcessConnection Notification Value}

theorem sight_stopped : (sight connection).stopped = connection.stopped := by
  rw [sight]
  split <;> rfl

theorem Alike.stopped (alike : Alike connection other) : connection.stopped = other.stopped := by
  rw [← sight_stopped, alike, sight_stopped]

theorem Alike.eq_of_open (alike : Alike connection other) (running : connection.stopped = false) :
    connection = other := by
  have running' : other.stopped = false := alike.stopped ▸ running
  have same : sight connection = sight other := alike
  rwa [sight, sight, running, running'] at same

theorem takeBytes_of_stopped (stopped : connection.stopped = true) (bytes : Bytes) :
    bytes.foldl (takeByte options) connection = connection := by
  induction bytes with
  | nil => rfl
  | cons byte rest ih => rw [List.foldl_cons, takeByte, if_pos stopped, ih]

theorem Alike.takeBytes (alike : Alike connection other) (bytes : Bytes) :
    Alike (bytes.foldl (takeByte options) connection) (bytes.foldl (takeByte options) other) := by
  cases running : connection.stopped with
  | true =>
    rw [takeBytes_of_stopped running, takeBytes_of_stopped (alike.stopped ▸ running)]
    exact alike
  | false =>
    rw [alike.eq_of_open running]
    rfl

theorem fail_alike (error : ConnectionError) (stdout : Bytes) :
    Alike (connection.fail error) ({ connection with stdout := stdout }.fail error) := by
  cases running : connection.stopped with
  | true =>
    have running' : ({ connection with stdout := stdout }).stopped = true := running
    rw [fail_of_stopped running, fail_of_stopped running', Alike, sight, sight, if_pos running,
      if_pos running']
  | false =>
    have running' : ({ connection with stdout := stdout }).stopped = false := running
    rw [fail_of_open running, fail_of_open running']
    rfl

theorem takePart_alike {segment : Bytes} (single : newline ∉ segment)
    (running : connection.stopped = false) (within : connection.stdout.length ≤ options.maxLineBytes) :
    Alike (takePart options connection segment) (segment.foldl (takeByte options) connection) := by
  induction segment generalizing connection with
  | nil =>
    have kept : takePart options connection [] = connection := by
      rw [takePart, if_neg (by simpa using within), List.append_nil]
    rw [kept]
    rfl
  | cons byte more ih =>
    have byte_part : byte ≠ newline := fun same => single (same ▸ List.mem_cons_self)
    have single_more : newline ∉ more := fun member => single (List.mem_cons_of_mem _ member)
    have first : takeByte options connection byte = takePart options connection [byte] := by
      rw [takeByte, if_neg (by simp [running]), if_neg byte_part]
    rw [List.foldl_cons, first]
    by_cases tooLong : options.maxLineBytes < connection.stdout.length + 1
    · -- the first byte is already beyond the limit
      have failed : takePart options connection [byte] = connection.fail (.failure .oversizedStdout) :=
        if_pos (by simpa using tooLong)
      have failed' : takePart options connection (byte :: more) =
          connection.fail (.failure .oversizedStdout) :=
        if_pos (by rw [List.length_cons]; omega)
      rw [failed, failed', takeBytes_of_stopped (fail_stopped _)]
      rfl
    · have kept : takePart options connection [byte] =
          { connection with stdout := connection.stdout ++ [byte] } :=
        if_neg (by simpa using tooLong)
      rw [kept]
      refine Eq.trans ?_ (ih single_more running (by simpa using tooLong))
      rw [takePart, takePart]
      by_cases beyond : options.maxLineBytes < connection.stdout.length + (byte :: more).length
      · have beyond' : options.maxLineBytes < (connection.stdout ++ [byte]).length + more.length := by
          rw [List.length_append, List.length_singleton]
          rw [List.length_cons] at beyond
          omega
        rw [if_pos beyond, if_pos beyond']
        exact fail_alike _ _
      · have beyond' : ¬options.maxLineBytes < (connection.stdout ++ [byte]).length + more.length := by
          rw [List.length_append, List.length_singleton]
          rw [List.length_cons] at beyond
          omega
        rw [if_neg beyond, if_neg beyond', List.append_assoc]
        rfl

theorem takeLine_within : Within options (takeLine options connection) := by
  intro _
  rw [takeLine, dispatch_stdout]
  exact Nat.zero_le _

theorem feed_alike {segment rest : Bytes} (single : newline ∉ segment)
    (running : connection.stopped = false) (within : connection.stdout.length ≤ options.maxLineBytes) :
    Alike (feed options segment rest connection)
      ((segment ++ rest).foldl (takeByte options) connection) := by
  induction rest generalizing segment connection with
  | nil =>
    rw [feed, List.append_nil]
    exact takePart_alike single running within
  | cons byte rest ih =>
    rw [feed]
    by_cases ends : byte = newline
    · rw [if_pos ends, List.foldl_append, List.foldl_cons, ends]
      have part : Alike (takePart options connection segment) _ :=
        takePart_alike single running within
      cases taken : (takePart options connection segment).stopped with
      | true =>
        have stopped := part.stopped.symm.trans taken
        simp only [taken, ↓reduceIte]
        rw [takeByte, if_pos stopped, takeBytes_of_stopped stopped]
        exact part
      | false =>
        have line : takeByte options (takePart options connection segment) newline =
            takeLine options (takePart options connection segment) := by
          rw [takeByte, if_neg (by simp [taken]), if_pos rfl]
        simp only [taken, Bool.false_eq_true, ↓reduceIte]
        rw [← part.eq_of_open taken, line]
        cases read : (takeLine options (takePart options connection segment)).stopped with
        | true =>
          simp only [↓reduceIte]
          rw [takeBytes_of_stopped read]
          rfl
        | false =>
          simp only [Bool.false_eq_true, ↓reduceIte]
          exact ih List.not_mem_nil read (takeLine_within read)
    · rw [if_neg ends]
      have longer : newline ∉ segment ++ [byte] := by
        intro member
        rcases List.mem_append.mp member with earlier | last
        · exact single earlier
        · exact ends (List.mem_singleton.mp last).symm
      have rest_eq : segment ++ byte :: rest = segment ++ [byte] ++ rest := by simp
      rw [rest_eq]
      exact ih longer running within

theorem takePart_within (segment : Bytes) : Within options (takePart options connection segment) := by
  intro running
  rw [takePart] at running ⊢
  split at running
  · rw [fail_stopped] at running
    cases running
  · rename_i within
    rw [if_neg within, List.length_append]
    omega

theorem feed_within (segment rest : Bytes) : Within options (feed options segment rest connection) := by
  induction rest generalizing segment connection with
  | nil => exact takePart_within segment
  | cons byte rest ih =>
    rw [feed]
    split
    · dsimp only
      split
      · exact takePart_within segment
      · split
        · exact takeLine_within
        · exact ih []
    · exact ih _

variable (within : Within options connection)
include within

theorem onStdout_alike (chunk : Bytes) :
    Alike (connection.onStdout options chunk) (chunk.foldl (takeByte options) connection) := by
  rw [onStdout]
  cases running : connection.stopped with
  | true =>
    rw [takeBytes_of_stopped running]
    rfl
  | false => exact feed_alike List.not_mem_nil running (within running)

theorem onStdout_within (chunk : Bytes) :
    Within options (connection.onStdout options chunk) := by
  rw [onStdout]
  split
  · exact within
  · exact feed_within [] chunk

theorem chunks_alike (chunks : List Bytes) :
    Alike (chunks.foldl (onStdout options) connection)
      (chunks.flatten.foldl (takeByte options) connection) := by
  induction chunks generalizing connection with
  | nil => rfl
  | cons chunk rest ih =>
    rw [List.foldl_cons, List.flatten_cons, List.foldl_append]
    refine (ih (onStdout_within within chunk)).trans ?_
    exact (onStdout_alike within chunk).takeBytes rest.flatten

theorem onStdout_cut {chunks others : List Bytes} (same : chunks.flatten = others.flatten) :
    Alike (chunks.foldl (onStdout options) connection) (others.foldl (onStdout options) connection) := by
  refine (chunks_alike within chunks).trans ?_
  rw [same]
  exact (chunks_alike within others).symm

end Cut

end Praxis.Process
