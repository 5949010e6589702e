import Praxis.Foundations.Fallible
import Praxis.Foundations.Json
import Praxis.Foundations.Lines

/-!
# The connection to a child process

Requests go to a child, one JSON text a line; its answers and notifications come back on its standard
output, in chunks that are cut anywhere. The connection is a state on which the events of the child,
of the timers and of the callers act. A failure rejects whatever is pending and closes the connection.
-/

namespace Praxis.Process

set_option autoImplicit false

open Praxis.Foundations

/-! ## Messages and errors -/

abbrev Bytes := List UInt8

inductive ProcessConnectionFailureKind where
  | closed
  | spawnFailed
  | launchInputFailed
  | writeFailed
  | timeout
  | malformedStdout
  | oversizedStdout
  | stdoutClosed
  | exited
deriving DecidableEq

/-- What `options.failure` makes of a kind, what the codec throws, and the error of an id that is
already pending. -/
inductive ConnectionError where
  | failure (kind : ProcessConnectionFailureKind) (method : Option String := none)
  | codec (message : String)
  | duplicate (id : String)
deriving DecidableEq

/-- A message of a child. The answer to a request is a result or an error. -/
inductive DecodedProcessMessage (Notification Value : Type) where
  | notification (notification : Notification)
  | response (id : String) (answer : Except Value Value)

/-- What a line turned out to be. -/
abbrev LineOutcome (Notification Value : Type) :=
  Except ConnectionError (DecodedProcessMessage Notification Value)

/-- The options of a connection, with `JSON.parse`. The codec is told the methods of the pending
requests. -/
structure NdjsonProcessConnectionOptions (Notification Value : Type) where
  parseJson : String → Option Json
  decode : Json → String → (String → Option String) → LineOutcome Notification Value
  requestTimeout : Bool
  maxLineBytes : Nat

/-! ## The queue of notifications -/

/-- `AsyncQueue`, with what has been handed to its readers. -/
structure AsyncQueue (Notification : Type) where
  values : List Notification := []
  waiters : Nat := 0
  closed : Bool := false
  failure : Option ConnectionError := none
  handed : List Notification := []

namespace AsyncQueue

variable {Notification : Type} (queue : AsyncQueue Notification)

def push (value : Notification) : AsyncQueue Notification :=
  if queue.closed then queue
  else match queue.waiters with
    | 0 => { queue with values := queue.values ++ [value] }
    | waiters + 1 =>
      { queue with
        waiters := waiters
        handed := queue.handed ++ [value] }

def close : AsyncQueue Notification :=
  if queue.closed then queue
  else
    { queue with
      closed := true
      waiters := 0 }

def fail (error : ConnectionError) : AsyncQueue Notification :=
  if queue.closed then queue
  else
    { queue with
      failure := some error
      closed := true
      waiters := 0 }

/-- A reader takes a value, is told that there will be none, or waits. -/
def next : AsyncQueue Notification :=
  match queue.values with
  | value :: values =>
    { queue with
      values := values
      handed := queue.handed ++ [value] }
  | [] =>
    if queue.failure.isSome || queue.closed then queue
    else { queue with waiters := queue.waiters + 1 }

end AsyncQueue

/-! ## The connection -/

/-- A pending request: which call it belongs to, its method, and whether a timer runs for it. -/
structure PendingRequest where
  token : Nat
  method : String
  timer : Bool

/-- How a call ended: with the answer of a line, or refused. -/
inductive Settlement (Value : Type) where
  | answered (answer : Except Value Value)
  | refused (error : ConnectionError)
deriving DecidableEq

/-- The state of a connection, with the calls that it has settled and the lines that it has read. -/
structure NdjsonProcessConnection (Notification Value : Type) where
  closed : Bool := false
  failure : Option ConnectionError := none
  stdout : Bytes := []
  pending : List (String × PendingRequest) := []
  notifications : AsyncQueue Notification := {}
  settled : List (Nat × Settlement Value) := []
  lines : List (Bytes × LineOutcome Notification Value) := []

def pendingMethod (pending : List (String × PendingRequest)) (id : String) : Option String :=
  (pending.lookup id).map (·.method)

def newline : UInt8 := 10

/-- A line without the carriage return at its end. -/
def normalized (frame : Bytes) : Bytes :=
  if frame.getLast? = some 13 then frame.dropLast else frame

/-- The fatal `TextDecoder`, which drops a byte order mark. -/
def decodeText (bytes : Bytes) : Option String :=
  (String.fromUTF8? ⟨bytes.toArray⟩).map fun text =>
    if text.toList.head? = some '\uFEFF' then String.ofList text.toList.tail else text

def decodeLine {Notification Value : Type} (options : NdjsonProcessConnectionOptions Notification Value)
    (pending : List (String × PendingRequest)) (frame : Bytes) :
    Except ConnectionError (DecodedProcessMessage Notification Value) := do
  let line ← orError (.failure .malformedStdout) (decodeText (normalized frame))
  let value ← orError (.failure .malformedStdout) (options.parseJson line)
  options.decode value line (pendingMethod pending)

namespace NdjsonProcessConnection

variable {Notification Value : Type} (options : NdjsonProcessConnectionOptions Notification Value)
  (connection : NdjsonProcessConnection Notification Value)

def stopped : Bool := connection.closed || connection.failure.isSome

def rejectPending (error : ConnectionError) : NdjsonProcessConnection Notification Value :=
  { connection with
    settled := connection.settled ++ connection.pending.map fun entry =>
      (entry.2.token, .refused error)
    pending := [] }

/-- `fail`. It closes the connection, too. -/
def fail (error : ConnectionError) : NdjsonProcessConnection Notification Value :=
  if connection.stopped then connection
  else
    { connection.rejectPending error with
      failure := some error
      closed := true
      notifications := connection.notifications.fail error }

/-- Takes a request from the pending ones and settles its call. -/
def settle (id : String) (request : PendingRequest) (settlement : Settlement Value) :
    NdjsonProcessConnection Notification Value :=
  { connection with
    pending := connection.pending.filter (·.1 != id)
    settled := connection.settled ++ [(request.token, settlement)] }

/-- What becomes of a line: an invalid one fails the connection, a notification is queued, and an
answer settles the request under its id, if there is one. -/
def dispatch : LineOutcome Notification Value → NdjsonProcessConnection Notification Value
  | .error error => connection.fail error
  | .ok (.notification notification) =>
    { connection with notifications := connection.notifications.push notification }
  | .ok (.response id answer) =>
    match connection.pending.lookup id with
    | none => connection
    | some request => connection.settle id request (.answered answer)

/-- The part of a line that a chunk holds, within the limit. -/
def takePart (segment : Bytes) : NdjsonProcessConnection Notification Value :=
  if options.maxLineBytes < connection.stdout.length + segment.length then
    connection.fail (.failure .oversizedStdout)
  else { connection with stdout := connection.stdout ++ segment }

/-- A line at its end. -/
def takeLine : NdjsonProcessConnection Notification Value :=
  let outcome := decodeLine options connection.pending connection.stdout
  dispatch
    { connection with
      stdout := []
      lines := connection.lines ++ [(connection.stdout, outcome)] }
    outcome

/-- The loop of `onStdout` over the rest of a chunk, with what has been seen of the current line. -/
def feed (segment : Bytes) :
    Bytes → NdjsonProcessConnection Notification Value → NdjsonProcessConnection Notification Value
  | [], connection => takePart options connection segment
  | byte :: rest, connection =>
    if byte = newline then
      let taken := takePart options connection segment
      if taken.stopped then taken
      else
        let read := takeLine options taken
        if read.stopped then read else feed [] rest read
    else feed (segment ++ [byte]) rest connection

def onStdout (chunk : Bytes) : NdjsonProcessConnection Notification Value :=
  if connection.stopped then connection else feed options [] chunk connection

def request (token : Nat) (id method : String) : NdjsonProcessConnection Notification Value :=
  let refuse := fun error =>
    { connection with settled := connection.settled ++ [(token, .refused error)] }
  match connection.failure with
  | some error => refuse error
  | none =>
    if connection.closed then refuse (.failure .closed)
    else if (connection.pending.lookup id).isSome then refuse (.duplicate id)
    else
      { connection with
        pending := connection.pending ++
          [(id,
            { token
              method
              timer := options.requestTimeout })] }

/-- The call of a request is refused, and the connection fails. -/
def giveUp (id : String) (request : PendingRequest) (error : ConnectionError) :
    NdjsonProcessConnection Notification Value :=
  (connection.settle id request (.refused error)).fail error

/-- The timer of a request. -/
def timeOut (id : String) : NdjsonProcessConnection Notification Value :=
  match connection.pending.lookup id with
  | none => connection
  | some request => connection.giveUp id request (.failure .timeout (some request.method))

/-- A request could not be written. -/
def writeFailed (id method : String) : NdjsonProcessConnection Notification Value :=
  match connection.pending.lookup id with
  | none => connection
  | some active => connection.giveUp id active (.failure .writeFailed (some method))

/-- `closeOnce`, until it waits for the child. -/
def startClose : NdjsonProcessConnection Notification Value := { connection with closed := true }

/-- The end of `closeOnce`. -/
def finishClose : NdjsonProcessConnection Notification Value :=
  { connection.rejectPending (.failure .closed) with
    notifications := connection.notifications.close }

end NdjsonProcessConnection

/-! ## The system -/

/-- A call of `request`: its id, and how many lines had been read when it became pending, if it did. -/
structure Issue where
  id : String
  since : Option Nat
deriving DecidableEq

/-- A connection and its child. The child has written what is in the pipe, and what has been read. -/
structure System (Notification Value : Type) where
  connection : NdjsonProcessConnection Notification Value := {}
  pipe : Bytes := []
  written : Bytes := []
  outputEnded : Bool := false
  ended : Bool := false
  exitSeen : Bool := false
  outputCloseSeen : Bool := false
  closeFinished : Bool := false
  writes : List (String × String) := []
  issues : List Issue := []
  /-- What the lines in the pipe were when the connection stopped. -/
  late : List (LineOutcome Notification Value) := []

/-- What may happen next. -/
inductive ConnectionEvent where
  | childWrites (bytes : Bytes)
  | childEndsOutput
  | childEnds
  | data (count : Nat)
  | stdoutCloses
  | exits
  | errors (kind : ProcessConnectionFailureKind)
  | requests (id method : String)
  | timesOut (id : String)
  | writeEnds (id method : String) (failed : Bool)
  | closes
  | closeEnds
  | nextNotification

section System

variable {Notification Value : Type} (options : NdjsonProcessConnectionOptions Notification Value)

/-- What lines would be, read one after another. -/
def readAhead (pending : List (String × PendingRequest)) :
    List Bytes → List (LineOutcome Notification Value)
  | [] => []
  | frame :: rest =>
    if options.maxLineBytes < frame.length then [.error (.failure .oversizedStdout)]
    else match decodeLine options pending frame with
      | .error error => [.error error]
      | .ok (.notification notification) => .ok (.notification notification) :: readAhead pending rest
      | .ok (.response id answer) =>
        .ok (.response id answer) :: readAhead (pending.filter (·.1 != id)) rest

namespace System

variable (system : System Notification Value)

/-- What the complete lines are that have been written and not been read. -/
def ahead : List (LineOutcome Notification Value) :=
  readAhead options system.connection.pending
    (completeLines newline (system.connection.stdout ++ system.pipe))

/-- The state after something other than a chunk has happened to the connection. If it stops the
connection, the lines in the pipe are late. -/
def after (connection : NdjsonProcessConnection Notification Value) : System Notification Value :=
  { system with
    connection
    late := if !system.connection.stopped && connection.stopped then system.ahead options
      else system.late }

/-- One event, if it can happen. -/
def step : ConnectionEvent → Option (System Notification Value)
  | .childWrites bytes =>
    if system.outputEnded then none
    else some
      { system with
        pipe := system.pipe ++ bytes
        written := system.written ++ bytes }
  | .childEndsOutput => some { system with outputEnded := true }
  | .childEnds =>
    some
      { system with
        outputEnded := true
        ended := true }
  | .data count =>
    if 0 < count ∧ count ≤ system.pipe.length then some
      { system with
        connection := system.connection.onStdout options (system.pipe.take count)
        pipe := system.pipe.drop count }
    else none
  | .stdoutCloses =>
    if system.outputEnded ∧ system.pipe = [] ∧ system.outputCloseSeen = false then some
      { system.after options (system.connection.fail (.failure .stdoutClosed)) with
        outputCloseSeen := true }
    else none
  | .exits =>
    if system.ended ∧ system.exitSeen = false then some
      { system.after options (system.connection.fail (.failure .exited)) with exitSeen := true }
    else none
  | .errors kind => some (system.after options (system.connection.fail (.failure kind)))
  | .requests id method =>
    let connection := system.connection.request options system.issues.length id method
    let accepted := !system.connection.stopped && (system.connection.pending.lookup id).isNone
    some
      { system with
        connection
        writes := if accepted then system.writes ++ [(id, method)] else system.writes
        issues := system.issues ++
          [{ id
             since := if accepted then some system.connection.lines.length else none }] }
  | .timesOut id =>
    if (system.connection.pending.lookup id).any (·.timer) then
      some (system.after options (system.connection.timeOut id))
    else none
  | .writeEnds id method failed =>
    if (id, method) ∈ system.writes then some
      { system.after options
          (if failed then system.connection.writeFailed id method else system.connection) with
        writes := system.writes.erase (id, method) }
    else none
  | .closes => some (system.after options system.connection.startClose)
  | .closeEnds =>
    if system.connection.closed then some
      { system with
        connection := system.connection.finishClose
        closeFinished := true }
    else none
  | .nextNotification =>
    some
      { system with
        connection :=
          { system.connection with notifications := system.connection.notifications.next } }

end System

end System

end Praxis.Process
