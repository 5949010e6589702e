import Praxis.Process.RequestLedger

/-!
# Requests are settled by their lines

The lines that have been read are the first lines of what the child has written, however it was cut
(`onStdout_cut`). A call is settled by the first line with its id after it became pending, and refused
if there is none, as long as nothing but a line stops the connection while an answer lies unread in
the pipe (`requests_settle`).
-/

namespace Praxis.Process

set_option autoImplicit false

open Praxis.Foundations

variable {Notification Value : Type} {request : PendingRequest}

/-! ## A sound connection -/

section Sound

open NdjsonProcessConnection

/-- Everything that is kept of a connection, besides the framing of its lines. -/
structure Sound (options : NdjsonProcessConnectionOptions Notification Value)
    (connection : NdjsonProcessConnection Notification Value) (issues : List Issue)
    (late : List (LineOutcome Notification Value)) : Prop where
  ledger : Ledger connection issues late
  failed : connection.failure.isSome = true → connection.closed = true ∧ connection.pending = []
  early : connection.closed = false → late = []
  queueOpen : connection.closed = false → connection.notifications.closed = false
  waits : connection.notifications.Waits
  notices : connection.notifications.through = connection.outcomes.filterMap noticeOf
  decoded : ∀ line ∈ connection.lines, ∃ pending, line.2 = decodeLine options pending line.1
  within : Within options connection

variable {options : NdjsonProcessConnectionOptions Notification Value}
  {connection : NdjsonProcessConnection Notification Value} {issues : List Issue}
  {late : List (LineOutcome Notification Value)} {id : String}

theorem Sound.closed_of_stopped (sound : Sound options connection issues late)
    (stopped : connection.stopped = true) : connection.closed = true := by
  rcases Bool.or_eq_true_iff.mp stopped with closed | failed
  · exact closed
  · exact (sound.failed failed).1

theorem closed_of_running (running : connection.stopped = false) : connection.closed = false :=
  (Bool.or_eq_false_iff.mp running).1

section

variable (sound : Sound options connection issues [])
include sound

/-- A connection that has ended with the same lines and notifications is sound. -/
theorem Sound.ended {after : NdjsonProcessConnection Notification Value}
    (ledger : Ledger after issues late) (closed : after.closed = true) (pending : after.pending = [])
    (lines : after.lines = connection.lines) (waits : after.notifications.Waits)
    (through : after.notifications.through = connection.notifications.through) :
    Sound options after issues late where
  ledger := ledger
  failed _ := ⟨closed, pending⟩
  early isOpen := by
    rw [closed] at isOpen
    cases isOpen
  queueOpen isOpen := by
    rw [closed] at isOpen
    cases isOpen
  waits := waits
  notices := by rw [through, sound.notices, outcomes, outcomes, lines]
  decoded := by
    rw [lines]
    exact sound.decoded
  within running := by
    rw [closed_of_running running] at closed
    cases closed

theorem Sound.fail (running : connection.stopped = false)
    (heeded : ∀ entry ∈ connection.pending, answerTo entry.1 late = none) (error : ConnectionError) :
    Sound options (connection.fail error) issues late := by
  have through := AsyncQueue.fail_through sound.waits error
  have ledger := sound.ledger.fail running heeded error
  rw [fail_of_open running] at ledger ⊢
  exact sound.ended ledger rfl rfl rfl through.2 through.1

theorem Sound.takePart (segment : Bytes) (running : connection.stopped = false) :
    Sound options (NdjsonProcessConnection.takePart options connection segment) issues [] := by
  have within := @takePart_within _ _ options connection segment
  rcases @takePart_cases _ _ options connection segment with ⟨error, failed⟩ | kept
  · rw [failed]
    exact sound.fail running (fun _ _ => rfl) error
  · rw [kept] at within ⊢
    exact { sound with
      ledger := sound.ledger.of_same rfl rfl rfl id
      within }

theorem Sound.readLine (running : connection.stopped = false)
    {frame : Bytes} {outcome : LineOutcome Notification Value}
    (decoded : ∃ pending, outcome = decodeLine options pending frame)
    (silent : ∀ entry ∈ connection.pending, answerOf entry.1 outcome = none)
    {queue : AsyncQueue Notification} (waits : queue.Waits) (queueOpen : queue.closed = false)
    (notices : queue.through = connection.notifications.through ++ (noticeOf outcome).toList) :
    Sound options
      { connection with
        stdout := []
        lines := connection.lines ++ [(frame, outcome)]
        notifications := queue } issues [] where
  ledger :=
    (sound.ledger.read (closed_of_running running) silent).of_same rfl rfl rfl id
  failed := sound.failed
  early := fun _ => rfl
  queueOpen := fun _ => queueOpen
  waits := waits
  notices := by
    rw [notices, sound.notices]
    cases notice : noticeOf outcome <;>
      simp [outcomes, notice]
  decoded := by
    intro line member
    rcases List.mem_append.mp member with before | now
    · exact sound.decoded line before
    · obtain rfl := List.mem_singleton.mp now
      exact decoded
  within := fun _ => Nat.zero_le _

theorem Sound.takeLine (running : connection.stopped = false) :
    Sound options (NdjsonProcessConnection.takeLine options connection) issues [] := by
  have closed := closed_of_running running
  have queueOpen := sound.queueOpen closed
  have decoded : ∃ pending, decodeLine options connection.pending connection.stdout =
      decodeLine options pending connection.stdout := ⟨_, rfl⟩
  rw [NdjsonProcessConnection.takeLine]
  cases line : decodeLine options connection.pending connection.stdout with
  | error error =>
    rw [line] at decoded
    have read := sound.readLine running decoded (fun _ _ => rfl) sound.waits queueOpen (by
      simp [noticeOf])
    exact read.fail running (fun _ _ => rfl) error
  | ok message =>
    rw [line] at decoded
    cases message with
    | notification notification =>
      have pushed := AsyncQueue.push_through queueOpen sound.waits notification
      exact sound.readLine running decoded (fun _ _ => rfl) pushed.2.1 pushed.2.2 pushed.1
    | response id answer =>
      cases found : connection.pending.lookup id with
      | none =>
        have read := sound.readLine running decoded (fun entry member => ?_) sound.waits queueOpen
          (by simp [noticeOf])
        · simp only [dispatch, found]
          exact read
        · have different := List.lookup_eq_none_iff.mp found entry member
          exact if_neg (bne_iff_ne.mp different)
      | some request =>
        simp only [dispatch, found]
        refine
          { ledger := sound.ledger.answer closed found rfl rfl rfl
            failed := fun failed => ?_
            early := fun _ => rfl
            queueOpen := fun _ => queueOpen
            waits := sound.waits
            notices := ?_
            decoded := ?_
            within := fun _ => Nat.zero_le _ }
        · have stopped := (sound.failed failed).1
          rw [closed] at stopped
          cases stopped
        · refine sound.notices.trans ?_
          simp [settle, outcomes, noticeOf]
        · intro line' member
          rcases List.mem_append.mp member with before | now
          · exact sound.decoded line' before
          · obtain rfl := List.mem_singleton.mp now
            exact decoded

/-- A chunk is taken. -/
theorem Sound.feed (running : connection.stopped = false) (segment rest : Bytes) :
    Sound options (NdjsonProcessConnection.feed options segment rest connection) issues [] := by
  induction rest generalizing segment connection with
  | nil => exact sound.takePart segment running
  | cons byte rest ih =>
    rw [NdjsonProcessConnection.feed]
    split
    · have part := sound.takePart segment running
      dsimp only
      split
      · exact part
      · rename_i taken
        have taken_running := Bool.eq_false_iff.mpr taken
        have line := part.takeLine taken_running
        split
        · exact line
        · rename_i read
          exact ih line (Bool.eq_false_iff.mpr read) []
    · exact ih sound running _

end

theorem Sound.onStdout (sound : Sound options connection issues late)
    (chunk : Bytes) : Sound options (connection.onStdout options chunk) issues late := by
  rw [NdjsonProcessConnection.onStdout]
  cases running : connection.stopped with
  | true => exact sound
  | false =>
    obtain rfl := sound.early (closed_of_running running)
    exact sound.feed running [] chunk

theorem Sound.giveUp (sound : Sound options connection issues []) (running : connection.stopped = false)
    (heeded : ∀ entry ∈ connection.pending, answerTo entry.1 late = none)
 (found : connection.pending.lookup id = some request)
    (error : ConnectionError) : Sound options (connection.giveUp id request error) issues late := by
  have through := AsyncQueue.fail_through sound.waits error
  have running' : (connection.settle id request (.refused error)).stopped = false := running
  have ledger := sound.ledger.giveUp running heeded found error
  rw [NdjsonProcessConnection.giveUp, fail_of_open running'] at ledger ⊢
  exact sound.ended ledger rfl rfl rfl through.2 through.1

theorem Sound.giveUp_closed (sound : Sound options connection issues late)
    (stopped : connection.stopped = true)
    (found : connection.pending.lookup id = some request) (error : ConnectionError) :
    Sound options (connection.giveUp id request error) issues late := by
  have closed := sound.closed_of_stopped stopped
  have stopped' : (connection.settle id request (.refused error)).stopped = true := stopped
  rw [NdjsonProcessConnection.giveUp, fail_of_stopped stopped']
  refine { sound with
    ledger := sound.ledger.refuse closed found error
    failed := fun failed => ⟨closed, ?_⟩ }
  rw [(sound.failed failed).2] at found
  cases found

theorem Sound.startClose (sound : Sound options connection issues []) (running : connection.stopped = false)
    (heeded : ∀ entry ∈ connection.pending, answerTo entry.1 late = none) :
    Sound options connection.startClose issues late where
  ledger := sound.ledger.close (closed_of_running running) heeded
  failed failed := ⟨rfl, (sound.failed failed).2⟩
  early open_ := by cases open_
  queueOpen open_ := by cases open_
  within running' := by cases running'
  __ := sound

variable (sound : Sound options connection issues late)
include sound

theorem Sound.startClose_closed
    (closed : connection.closed = true) : Sound options connection.startClose issues late := by
  have same : connection.startClose = connection := by
    rw [NdjsonProcessConnection.startClose, ← closed]
  rw [same]
  exact sound

theorem Sound.finishClose
    (closed : connection.closed = true) : Sound options connection.finishClose issues late := by
  have through := AsyncQueue.close_through sound.waits
  have refused := sound.ledger.refuseAll closed (.failure .closed)
  exact { sound with
    ledger := refused.of_same rfl rfl rfl id
    failed := fun _ => ⟨closed, rfl⟩
    queueOpen := fun open_ => absurd closed (by
      change connection.closed = false at open_
      simp [open_])
    waits := through.2
    notices := through.1.trans sound.notices }

theorem Sound.next :
    Sound options { connection with notifications := connection.notifications.next } issues late := by
  have through := AsyncQueue.next_through sound.waits
  exact { sound with
    ledger := sound.ledger.of_same rfl rfl rfl id
    queueOpen := fun open_ => through.2.2.trans (sound.queueOpen open_)
    waits := through.2.1
    notices := through.1.trans sound.notices }

/-- A call is refused at once, or its request becomes pending. -/
theorem Sound.requested (id method : String) :
    Sound options (connection.request options issues.length id method)
      (issues ++
        [{ id
           since := if (!connection.stopped && (connection.pending.lookup id).isNone) = true then
             some connection.lines.length else none }]) late := by
  cases available : !connection.stopped && (connection.pending.lookup id).isNone with
  | false =>
    obtain ⟨error, refused⟩ := @request_refused _ _ options _ _ available issues.length method
    rw [refused]
    exact { sound with ledger := sound.ledger.refuseNow id error }
  | true =>
    rw [request_accepted available]
    have fresh := (Bool.and_eq_true_iff.mp available).2
    have running : connection.stopped = false := by
      simpa using (Bool.and_eq_true_iff.mp available).1
    obtain rfl := sound.early (closed_of_running running)
    exact { sound with
      ledger := sound.ledger.accept (Option.isNone_iff_eq_none.mp fresh) method options.requestTimeout
      failed := fun failed => by
        have closed := (sound.failed failed).1
        rw [closed_of_running running] at closed
        cases closed }

end Sound

/-! ## The lines are those that were written -/

section Framing

open NdjsonProcessConnection

variable {options : NdjsonProcessConnectionOptions Notification Value}
  {connection : NdjsonProcessConnection Notification Value}

/-- The lines of a stream are those that have been read, and those of the rest. -/
structure Framing (stream : Bytes) (connection : NdjsonProcessConnection Notification Value)
    (rest : Bytes) : Prop where
  split : stream.splitOn newline =
    connection.lines.map (·.1) ++ (connection.stdout ++ rest).splitOn newline
  single : newline ∉ connection.stdout

variable {stream rest : Bytes}

theorem Framing.inOrder (framing : Framing stream connection rest) :
    connection.lines.map (·.1) <+: completeLines newline stream := by
  rw [completeLines, framing.split, List.dropLast_append_of_ne_nil (List.splitOn_ne_nil _ _)]
  exact List.prefix_append _ _

theorem Framing.takePart {segment more : Bytes}
    (framing : Framing stream connection (segment ++ more)) (single : newline ∉ segment)
    (running : (NdjsonProcessConnection.takePart options connection segment).stopped = false) :
    Framing stream (NdjsonProcessConnection.takePart options connection segment) more := by
  rcases @takePart_cases _ _ options connection segment with ⟨error, failed⟩ | kept
  · rw [failed, fail_stopped] at running
    cases running
  · rw [kept]
    refine ⟨?_, fun member => ?_⟩
    · rw [framing.split, List.append_assoc]
    · rcases List.mem_append.mp member with before | now
      · exact framing.single before
      · exact single now

theorem takePart_lines (segment : Bytes) :
    (NdjsonProcessConnection.takePart options connection segment).lines = connection.lines := by
  rcases @takePart_cases _ _ options connection segment with ⟨error, failed⟩ | kept
  · rw [failed, fail_lines]
  · rw [kept]

theorem Framing.takeLine (framing : Framing stream connection (newline :: rest)) :
    Framing stream (NdjsonProcessConnection.takeLine options connection) rest := by
  have lines : (NdjsonProcessConnection.takeLine options connection).lines.map (·.1) =
      connection.lines.map (·.1) ++ [connection.stdout] := by
    rw [NdjsonProcessConnection.takeLine, dispatch_lines, List.map_append, List.map_singleton]
  have stdout : (NdjsonProcessConnection.takeLine options connection).stdout = [] := by
    rw [NdjsonProcessConnection.takeLine, dispatch_stdout]
  refine ⟨?_, by rw [stdout]; exact List.not_mem_nil⟩
  rw [lines, stdout, framing.split, splitOn_line framing.single, List.nil_append, List.append_assoc,
    List.singleton_append]

/-- The loop over a chunk keeps the framing, as far as it runs. -/
theorem Framing.feed {segment tail : Bytes}
    (framing : Framing stream connection (segment ++ (rest ++ tail))) (single : newline ∉ segment) :
    ((NdjsonProcessConnection.feed options segment rest connection).stopped = false →
      Framing stream (NdjsonProcessConnection.feed options segment rest connection) tail) ∧
    (NdjsonProcessConnection.feed options segment rest connection).lines.map (·.1) <+:
      completeLines newline stream := by
  induction rest generalizing segment connection with
  | nil =>
    refine ⟨fun running => framing.takePart single running, ?_⟩
    rw [NdjsonProcessConnection.feed, takePart_lines]
    exact framing.inOrder
  | cons byte rest ih =>
    rw [NdjsonProcessConnection.feed]
    by_cases ends : byte = newline
    · rw [if_pos ends]
      rw [ends, List.cons_append] at framing
      cases taken : (NdjsonProcessConnection.takePart options connection segment).stopped with
      | true =>
        simp only [taken, ↓reduceIte]
        refine ⟨by rintro ⟨⟩, ?_⟩
        rw [takePart_lines]
        exact framing.inOrder
      | false =>
        have line : Framing stream (NdjsonProcessConnection.takeLine options
            (NdjsonProcessConnection.takePart options connection segment)) (rest ++ tail) :=
          (framing.takePart single taken).takeLine
        simp only [taken, Bool.false_eq_true, ↓reduceIte]
        cases read : (NdjsonProcessConnection.takeLine options
            (NdjsonProcessConnection.takePart options connection segment)).stopped with
        | true =>
          simp only [read, ↓reduceIte]
          exact ⟨by rintro ⟨⟩, line.inOrder⟩
        | false =>
          simp only [Bool.false_eq_true, ↓reduceIte]
          exact ih line List.not_mem_nil
    · rw [if_neg ends]
      have longer : newline ∉ segment ++ [byte] := by
        intro member
        rcases List.mem_append.mp member with earlier | last
        · exact single earlier
        · exact ends (List.mem_singleton.mp last).symm
      have same : segment ++ (byte :: rest ++ tail) = segment ++ [byte] ++ (rest ++ tail) := by
        simp
      rw [same] at framing
      exact ih framing longer

end Framing

/-! ## The system -/

section Runs

open NdjsonProcessConnection

/-- What holds of the system in every state of a run that heeds its pipe. -/
structure Consistent (options : NdjsonProcessConnectionOptions Notification Value)
    (system : System Notification Value) : Prop where
  sound : Sound options system.connection system.issues system.late
  whole : system.connection.stopped = false →
    Framing system.written system.connection system.pipe
  inOrder : system.connection.lines.map (·.1) <+: completeLines newline system.written
  finished : system.closeFinished = true →
    system.connection.closed = true ∧ system.connection.pending = []

variable {options : NdjsonProcessConnectionOptions Notification Value}
  {system : System Notification Value}

theorem Consistent.framed (consistent : Consistent options system) : Framed options system where
  once := consistent.sound.ledger.once
  byLine token settlement issue member issued := by
    obtain ⟨issue', issued', told⟩ := consistent.sound.ledger.told token settlement member
    obtain rfl := Option.mem_unique issued issued'
    exact told.settledBy
  ends ended := by
    rcases ended with failed | finished
    · exact (consistent.sound.failed failed).2
    · exact (consistent.finished finished).2
  notices := consistent.sound.notices
  inOrder := consistent.inOrder
  whole running := (consistent.whole running).split
  decoded := consistent.sound.decoded

/-- Something other than a chunk happens to the connection. -/
theorem Consistent.after (consistent : Consistent options system)
    {connection : NdjsonProcessConnection Notification Value}
    (sound : Sound options connection system.issues (system.after options connection).late)
    (lines : connection.lines = system.connection.lines)
    (stdout : connection.stdout = system.connection.stdout)
    (stays : system.connection.stopped = true → connection.stopped = true)
    (finished : system.connection.closed = true → system.connection.pending = [] →
      connection.closed = true ∧ connection.pending = []) :
    Consistent options (system.after options connection) where
  sound := sound
  whole running := by
    cases before : system.connection.stopped with
    | true =>
      have stopped := stays before
      rw [show connection.stopped = false from running] at stopped
      cases stopped
    | false =>
      have framing := consistent.whole before
      refine ⟨?_, ?_⟩
      · change system.written.splitOn newline = connection.lines.map (·.1) ++
          (connection.stdout ++ system.pipe).splitOn newline
        rw [lines, stdout]
        exact framing.split
      · change newline ∉ connection.stdout
        rw [stdout]
        exact framing.single
  inOrder := by
    change connection.lines.map (·.1) <+: _
    rw [lines]
    exact consistent.inOrder
  finished done := finished (consistent.finished done).1 (consistent.finished done).2

theorem late_after (connection : NdjsonProcessConnection Notification Value) :
    (system.connection.stopped = false → connection.stopped = true →
      (system.after options connection).late = system.ahead options) ∧
    (system.connection.stopped = true → (system.after options connection).late = system.late) := by
  refine ⟨fun running stops => ?_, fun stopped => ?_⟩
  · simp [System.after, running, stops]
  · simp [System.after, stopped]

section

variable (consistent : Consistent options system)
include consistent

theorem Consistent.fails (error : ConnectionError) (heeded : system.connection.stopped = false →
      ∀ entry ∈ system.connection.pending, answerTo entry.1 (system.ahead options) = none) :
    Consistent options (system.after options (system.connection.fail error)) := by
  have late := @late_after _ _ options system (system.connection.fail error)
  refine consistent.after ?_ (fail_lines _) (fail_stdout _) (fun _ => fail_stopped _) fun closed empty => ?_
  · cases running : system.connection.stopped with
    | true =>
      rw [late.2 running, fail_of_stopped running]
      exact consistent.sound
    | false =>
      have sound := consistent.sound
      rw [sound.early (closed_of_running running)] at sound
      rw [late.1 running (fail_stopped _)]
      exact sound.fail running (heeded running) error
  · have stopped : system.connection.stopped = true := by rw [stopped, closed, Bool.true_or]
    rw [fail_of_stopped stopped]
    exact ⟨closed, empty⟩

theorem Consistent.givesUp {id : String}
 (found : system.connection.pending.lookup id = some request)
    (error : ConnectionError) (heeded : system.connection.stopped = false →
      ∀ entry ∈ system.connection.pending, answerTo entry.1 (system.ahead options) = none) :
    Consistent options (system.after options (system.connection.giveUp id request error)) := by
  have late := @late_after _ _ options system (system.connection.giveUp id request error)
  have stops : (system.connection.giveUp id request error).stopped = true := fail_stopped _
  refine consistent.after ?_ (fail_lines _) (fail_stdout _) (fun _ => stops) fun _ empty => ?_
  · cases running : system.connection.stopped with
    | true =>
      rw [late.2 running]
      exact consistent.sound.giveUp_closed running found error
    | false =>
      have sound := consistent.sound
      rw [sound.early (closed_of_running running)] at sound
      rw [late.1 running stops]
      exact sound.giveUp running (heeded running) found error
  · rw [empty] at found
    cases found

theorem Consistent.ahead_of_empty
    (running : system.connection.stopped = false) (empty : system.pipe = []) :
    system.ahead options = [] := by
  have single := (consistent.whole running).single
  rw [System.ahead, empty, List.append_nil, completeLines, splitOn_open single]
  rfl

theorem Consistent.of_same {other : System Notification Value}
    (connection : other.connection = system.connection) (issues : other.issues = system.issues)
    (late : other.late = system.late) (written : other.written = system.written)
    (pipe : other.pipe = system.pipe) (finished : other.closeFinished = system.closeFinished) :
    Consistent options other := by
  refine
    { sound := ?_
      whole := ?_
      inOrder := ?_
      finished := ?_ }
  · rw [connection, issues, late]
    exact consistent.sound
  · rw [connection, written, pipe]
    exact consistent.whole
  · rw [connection, written]
    exact consistent.inOrder
  · rw [connection, finished]
    exact consistent.finished

theorem Consistent.stays :
    Consistent options (system.after options system.connection) := by
  refine consistent.of_same rfl rfl ?_ rfl rfl rfl
  simp [System.after]

theorem Consistent.reads (count : Nat) :
    Consistent options
      { system with
        connection := system.connection.onStdout options (system.pipe.take count)
        pipe := system.pipe.drop count } := by
  have sound := consistent.sound.onStdout (system.pipe.take count)
  cases running : system.connection.stopped with
  | true =>
    have same : system.connection.onStdout options (system.pipe.take count) = system.connection :=
      if_pos running
    rw [same] at sound ⊢
    exact
      { sound
        whole := fun running' => by
          rw [running] at running'
          cases running'
        inOrder := consistent.inOrder
        finished := consistent.finished }
  | false =>
    have fed : system.connection.onStdout options (system.pipe.take count) =
        feed options [] (system.pipe.take count) system.connection :=
      if_neg (by simp [running])
    have framing := consistent.whole running
    rw [← List.take_append_drop count system.pipe] at framing
    have after : _ ∧ (feed options [] (system.pipe.take count) system.connection).lines.map _ <+: _ :=
      framing.feed List.not_mem_nil
    rw [fed] at sound ⊢
    exact
      { sound
        whole := after.1
        inOrder := after.2
        finished := fun done => by
          have closed := (consistent.finished done).1
          rw [closed_of_running running] at closed
          cases closed }

/-- A call is made. -/
theorem Consistent.requests (id method : String) :
    Consistent options
      { system with
        connection := system.connection.request options system.issues.length id method
        writes := if (!system.connection.stopped && (system.connection.pending.lookup id).isNone) = true
          then system.writes ++ [(id, method)] else system.writes
        issues := system.issues ++
          [{ id
             since := if (!system.connection.stopped &&
                 (system.connection.pending.lookup id).isNone) = true
               then some system.connection.lines.length else none }] } := by
  have sound := consistent.sound.requested id method
  cases available : !system.connection.stopped && (system.connection.pending.lookup id).isNone with
  | false =>
    obtain ⟨error, refused⟩ :=
      @request_refused _ _ options _ _ available system.issues.length method
    rw [available] at sound
    rw [refused] at sound ⊢
    exact
      { sound
        whole := fun running => ⟨(consistent.whole running).split, (consistent.whole running).single⟩
        inOrder := consistent.inOrder
        finished := consistent.finished }
  | true =>
    have running : system.connection.stopped = false := by
      simpa using (Bool.and_eq_true_iff.mp available).1
    have accepted : system.connection.request options system.issues.length id method = _ :=
      request_accepted available system.issues.length method
    rw [available] at sound
    rw [accepted] at sound ⊢
    exact
      { sound
        whole := fun running => ⟨(consistent.whole running).split, (consistent.whole running).single⟩
        inOrder := consistent.inOrder
        finished := fun done => by
          have closed := (consistent.finished done).1
          rw [closed_of_running running] at closed
          cases closed }

theorem Consistent.step {event : ConnectionEvent}
    {next : System Notification Value} (heeds : Heeds options system event)
    (steps : system.step options event = some next) : Consistent options next := by
  cases event with
  | childWrites bytes =>
    simp only [System.step, Option.ite_none_left_eq_some, Option.some.injEq] at steps
    obtain ⟨_, rfl⟩ := steps
    refine
      { sound := consistent.sound
        whole := fun running => ?_
        inOrder := consistent.inOrder.trans (completeLines_stay _ _)
        finished := consistent.finished }
    have framing := consistent.whole running
    refine ⟨?_, framing.single⟩
    rw [splitOn_append_of_split framing.split bytes, List.append_assoc]
  | childEndsOutput =>
    obtain rfl := Option.some.inj steps
    exact consistent.of_same rfl rfl rfl rfl rfl rfl
  | childEnds =>
    obtain rfl := Option.some.inj steps
    exact consistent.of_same rfl rfl rfl rfl rfl rfl
  | data count =>
    simp only [System.step, Option.ite_none_right_eq_some, Option.some.injEq] at steps
    obtain ⟨_, rfl⟩ := steps
    exact consistent.reads count
  | stdoutCloses =>
    simp only [System.step, Option.ite_none_right_eq_some, Option.some.injEq] at steps
    obtain ⟨⟨_, empty, _⟩, rfl⟩ := steps
    have fails := consistent.fails (.failure .stdoutClosed) fun running entry _ => by
      rw [consistent.ahead_of_empty running empty]
      rfl
    exact fails.of_same rfl rfl rfl rfl rfl rfl
  | exits =>
    simp only [System.step, Option.ite_none_right_eq_some, Option.some.injEq] at steps
    obtain ⟨_, rfl⟩ := steps
    have fails := consistent.fails (.failure .exited) fun running => heeds running trivial
    exact fails.of_same rfl rfl rfl rfl rfl rfl
  | errors kind =>
    obtain rfl := Option.some.inj steps
    exact consistent.fails (.failure kind) fun running => heeds running trivial
  | requests id method =>
    obtain rfl := Option.some.inj steps
    exact consistent.requests id method
  | timesOut id =>
    simp only [System.step, Option.ite_none_right_eq_some, Option.some.injEq] at steps
    obtain ⟨timed, rfl⟩ := steps
    cases found : system.connection.pending.lookup id with
    | none =>
      rw [found] at timed
      cases timed
    | some request =>
      rw [timeOut, found]
      exact consistent.givesUp found _ fun running => heeds running trivial
  | writeEnds id method failed =>
    simp only [System.step, Option.ite_none_right_eq_some, Option.some.injEq] at steps
    obtain ⟨_, rfl⟩ := steps
    cases failed with
    | false => exact consistent.stays.of_same rfl rfl rfl rfl rfl rfl
    | true =>
      rw [if_pos rfl, writeFailed]
      cases found : system.connection.pending.lookup id with
      | none => exact consistent.stays.of_same rfl rfl rfl rfl rfl rfl
      | some active =>
        have gives := consistent.givesUp found (.failure .writeFailed (some method)) fun running =>
          heeds running ⟨rfl, by rw [found]; rfl⟩
        exact gives.of_same rfl rfl rfl rfl rfl rfl
  | closes =>
    obtain rfl := Option.some.inj steps
    have late := @late_after _ _ options system system.connection.startClose
    refine consistent.after ?_ rfl rfl (fun _ => rfl) fun _ empty => ⟨rfl, empty⟩
    cases running : system.connection.stopped with
    | true =>
      rw [late.2 running]
      exact consistent.sound.startClose_closed (consistent.sound.closed_of_stopped running)
    | false =>
      have sound := consistent.sound
      rw [sound.early (closed_of_running running)] at sound
      rw [late.1 running rfl]
      exact sound.startClose running (heeds running trivial)
  | closeEnds =>
    simp only [System.step, Option.ite_none_right_eq_some, Option.some.injEq] at steps
    obtain ⟨closed, rfl⟩ := steps
    exact
      { sound := consistent.sound.finishClose closed
        whole := fun running => by
          have stopped : system.connection.stopped = true := by rw [stopped, closed, Bool.true_or]
          rw [show system.connection.stopped = false from running] at stopped
          cases stopped
        inOrder := consistent.inOrder
        finished := fun _ => ⟨closed, rfl⟩ }
  | nextNotification =>
    obtain rfl := Option.some.inj steps
    exact
      { sound := consistent.sound.next
        whole := fun running => ⟨(consistent.whole running).split, (consistent.whole running).single⟩
        inOrder := consistent.inOrder
        finished := consistent.finished }

end

theorem Consistent.start : Consistent options ({} : System Notification Value) where
  sound :=
    { ledger :=
        { once := List.Perm.refl _
          ids := List.nodup_nil
          waiting := fun _ member => absurd member List.not_mem_nil
          told := fun _ _ member => absurd member List.not_mem_nil }
      failed := fun failed => by cases failed
      early := fun _ => rfl
      queueOpen := fun _ => rfl
      waits := .inl rfl
      notices := rfl
      decoded := fun _ member => absurd member List.not_mem_nil
      within := fun _ => Nat.zero_le _ }
  whole _ := ⟨rfl, List.not_mem_nil⟩
  inOrder := List.prefix_rfl
  finished done := by cases done

def HeedingStep (options : NdjsonProcessConnectionOptions Notification Value)
    (system : System Notification Value) (event : ConnectionEvent)
    (next : System Notification Value) : Prop :=
  system.step options event = some next ∧ Heeds options system event

/-- **Requests are settled by their lines, whatever happens in between, as long as no answer is left in
the pipe.** In every run in which an exit, an error, a time-out, a failed write or a close never finds
an answer to a pending request among the complete lines in the pipe: every call is pending or settled,
once; it is settled by the first line with its id, or refused if there is none; the notifications are
those of the lines, in order; the lines are the first lines of what the child has written; and it does
not matter how the output is cut into chunks. -/
theorem requests_settle (options : NdjsonProcessConnectionOptions Notification Value)
    {events : List ConnectionEvent} {system : System Notification Value}
    (run : Run (HeedingStep options) {} events system) : Framed options system ∧
      ∀ chunks others : List Bytes, chunks.flatten = others.flatten →
        Alike (chunks.foldl (onStdout options) system.connection)
          (others.foldl (onStdout options) system.connection) := by
  have consistent : Consistent options system :=
    run.invariant (Consistent options) (fun consistent step => consistent.step step.2 step.1)
      Consistent.start
  exact ⟨consistent.framed, fun _ _ same => onStdout_cut consistent.sound.within same⟩

end Runs

/-! ## An answer that the exit overtakes -/

/-- A codec that answers a request with the line that is its id. -/
def echoOptions : NdjsonProcessConnectionOptions String String where
  parseJson text := some (.str text)
  decode _ line _ := .ok (.response line (.ok line))
  requestTimeout := false
  maxLineBytes := 1024

/-- The next state, where an event that cannot happen changes nothing. -/
def echo (system : System String String) (event : ConnectionEvent) : System String String :=
  (system.step echoOptions event).getD system

theorem run_echo {Ok : System String String → ConnectionEvent → Prop} {events : List ConnectionEvent}
    (allowed : Run.Allowed echo (fun system event =>
      (system.step echoOptions event).isSome = true ∧ Ok system event) {} events) :
    Run (fun system event next => system.step echoOptions event = some next ∧ Ok system event) {} events
      (events.foldl echo {}) := by
  refine (Run.of_allowed allowed).mono ?_
  rintro system event next ⟨⟨possible, ok⟩, rfl⟩
  obtain ⟨after, steps⟩ := Option.isSome_iff_exists.mp possible
  refine ⟨?_, ok⟩
  rw [echo, steps]
  rfl

/-- A request is made, and the child writes the line with its answer. -/
def asked : List ConnectionEvent := [.requests "1" "ping", .childWrites [49, 10]]

/-- The answer is read in two chunks before the exit of the child is seen. -/
def readThenExit : List ConnectionEvent := asked ++ [ConnectionEvent.data 1, .data 1, .childEnds, .exits]

/-- The exit of the child is seen before its answer is read. -/
def exitFirst : List ConnectionEvent := asked ++ [ConnectionEvent.childEnds, .exits]

theorem answer_before_exit :
    (readThenExit.foldl echo {}).connection.settled = [(0, .answered (.ok "1"))] ∧
      Framed echoOptions (readThenExit.foldl echo {}) := by
  refine ⟨by decide +kernel, (requests_settle echoOptions (run_echo ?_)).1⟩
  -- only the exit has to heed the pipe, and nothing is pending then
  have nothing : (readThenExit.dropLast.foldl echo {}).connection.pending = [] := by decide +kernel
  refine ⟨⟨by decide +kernel, fun _ never => never.elim⟩, ⟨by decide +kernel, fun _ never => never.elim⟩,
    ⟨by decide +kernel, fun _ never => never.elim⟩, ⟨by decide +kernel, fun _ never => never.elim⟩,
    ⟨by decide +kernel, fun _ never => never.elim⟩, ⟨by decide +kernel, fun _ _ entry member => ?_⟩, trivial⟩
  change entry ∈ (readThenExit.dropLast.foldl echo {}).connection.pending at member
  rw [nothing] at member
  cases member

theorem exit_before_answer :
    ∃ events system,
      Run (fun system event next => system.step echoOptions event = some next) {} events system ∧
      system.connection.settled = [(0, .refused (.failure .exited))] ∧
      ¬Framed echoOptions system := by
  have possible : Run.Allowed echo (fun system event =>
      (system.step echoOptions event).isSome = true ∧ True) {} exitFirst :=
    ⟨⟨by decide +kernel, trivial⟩, ⟨by decide +kernel, trivial⟩, ⟨by decide +kernel, trivial⟩,
      ⟨by decide +kernel, trivial⟩, trivial⟩
  have refused : (exitFirst.foldl echo {}).connection.settled = [(0, .refused (.failure .exited))] := by
    decide +kernel
  refine ⟨exitFirst, exitFirst.foldl echo {}, (run_echo possible).mono fun step => step.1, refused, ?_⟩
  intro framed
  have settled := framed.byLine 0 (.refused (.failure .exited)) ⟨"1", some 0⟩
    (by rw [refused]; exact List.mem_singleton.mpr rfl) (by decide +kernel)
  have answer : answerTo "1" (((exitFirst.foldl echo {}).connection.outcomes ++
      (exitFirst.foldl echo {}).late).drop 0) = some (.ok "1") := by
    decide +kernel
  simp only [Issue.SettledBy, answer] at settled
  cases settled

end Praxis.Process
