import SpoeForge.Handler

/-!
# A connection (`ForgeHandler.core_handler`, `server/handler.py:54-348`)

The coroutine of the connection and the tasks of its NOTIFYs as one state machine.
A step runs one coroutine from the await where it is suspended to its next await, or
one callback of the event loop; the events say which, and how the await ended. Any
coroutine that is not blocked may run next.

`asyncio` is modelled by what the package relies on. `TaskGroup`: a task's failure
reaches the group in a callback of its own (`done`), which cancels the other tasks and
the body; leaving the body cancels all tasks; a task cancelled before its first step
never enters its coroutine. `Semaphore`: a release hands the slot to the waiter, if
one waits. A cancelled coroutine gets `CancelledError` at the await where it is
suspended. `drain` may suspend, and may raise `ConnectionError`.
-/

namespace SpoeForge

/-- How an await on the transport ended: normally or with a `ConnectionError`. -/
inductive Io where
  | ok
  | broken (text : Str)
  deriving DecidableEq, Repr

/-- What the handler of a NOTIFY does next: it goes on (having swallowed a cancellation,
if one was pending), returns, raises a single exception other than `CancelledError`, or
ends with `CancelledError`. -/
inductive Outcome where
  | pending
  | returned (actions : Option (List ActionObj))
  | raised (e : Exc)
  | cancelled
  deriving DecidableEq, Repr

inductive TaskPhase where
  | created
  | running
  | draining
  | returned
  | raised (e : Exc)
  | cancelled
  deriving DecidableEq, Repr

/-- `task.done()`. -/
def TaskPhase.ended : TaskPhase → Bool
  | .returned | .raised _ | .cancelled => true
  | _ => false

/-- A NOTIFY task, `handler.py:295`; `reported` once its done callback has run. -/
structure Task where
  metadata : MetaData
  messages : Messages
  phase : TaskPhase
  cancelRequested : Bool
  reported : Bool
  deriving DecidableEq, Repr

/-- `tg.create_task(self._process_notify(frame, slots))`. -/
def Task.new (metadata : MetaData) (messages : Messages) : Task :=
  ⟨metadata, messages, .created, false, false⟩

/-- Where the coroutine of the connection is. -/
inductive MainPhase where
  /-- in `Frame.decode` of the handshake -/
  | handshake
  /-- draining the disconnect of a refused handshake -/
  | refusing
  /-- draining AGENT-HELLO -/
  | greeting (healthcheck : Bool)
  /-- waiting in `slots.acquire()` -/
  | acquiring
  /-- woken in `slots.acquire()` with a slot handed over -/
  | granted
  /-- holding a slot, in `Frame.decode` of the read loop -/
  | reading
  /-- draining the disconnect that the read loop wrote -/
  | replying
  /-- in `TaskGroup.__aexit__` with the exception of the body, `none` for a cancellation -/
  | exiting (exc : Option Exc)
  /-- draining the disconnect of `except* SpopFrameTooBigError` -/
  | reportingTooBig (group : List Exc)
  /-- draining the disconnect of `except* SpoeForgeError`; `raised` by the clause before -/
  | reportingProtocol (group raised : List Exc)
  /-- in `close_connection` -/
  | closing
  /-- `core_handler` has returned -/
  | returned
  /-- `core_handler` has raised a group of these -/
  | failed (group : List Exc)
  deriving DecidableEq, Repr

/-- What the connection has done so far; `source` is the task that wrote, or `none` for
the coroutine of the connection. -/
inductive Entry where
  | received (frame : Frame) (size : ℕ)
  | invoked (task : ℕ)
  | answered (task : ℕ) (actions : Option (List ActionObj))
  | wrote (source : Option ℕ) (frame : Frame) (bytes : Bytes)
  | released (task : ℕ)
  deriving DecidableEq, Repr

structure Conn where
  config : ServerConfiguration
  reader : StreamReader
  writerClosing : Bool
  log : List Entry
  main : MainPhase
  mainCancelled : Bool
  aborting : Bool
  tasks : List Task
  errors : List Exc
  slots : ℕ
  deriving DecidableEq, Repr

/-- A new connection on which the peer sends `inbound`. -/
def Conn.init (maxFrameSize maxConcurrentFrames : ℤ) (inbound : Bytes) : Conn :=
  { config := .init maxFrameSize maxConcurrentFrames
    reader := ⟨inbound⟩
    writerClosing := false
    log := []
    main := .handshake
    mainCancelled := false
    aborting := false
    tasks := []
    errors := []
    slots := 0 }

inductive Event where
  /-- the coroutine of the connection resumes -/
  | main (io : Io)
  /-- the first step of a task -/
  | start (task : ℕ)
  /-- a task in its handler resumes -/
  | handler (task : ℕ) (outcome : Outcome)
  /-- a task in `drain` resumes -/
  | drained (task : ℕ) (io : Io)
  /-- the done callback of a task -/
  | done (task : ℕ)
  /-- the transport starts closing -/
  | lost
  deriving DecidableEq, Repr

def closeConnection : Exc := ⟨.closeConnection, []⟩

def connectionError (text : Str) : Exc := ⟨.connectionError, text⟩

def semaphoreError : Exc := ⟨.valueError, str "Semaphore initial value must be >= 0"⟩

/-! ### The task group -/

def Task.requestCancel (t : Task) : Task :=
  if t.phase.ended then t else { t with cancelRequested := true }

/-- `TaskGroup._abort`. -/
def Conn.abort (s : Conn) : Conn :=
  { s with aborting := true, tasks := s.tasks.map Task.requestCancel }

/-- The body of the task group ends: `TaskGroup.__aexit__` up to its wait for the tasks. -/
def Conn.leave (s : Conn) (exc : Option Exc) : Conn :=
  let s := if s.aborting then s else s.abort
  { s with main := .exiting exc }

/-! ### Writing -/

def Conn.record (s : Conn) (e : Entry) : Conn := { s with log := s.log ++ [e] }

/-- `send_frame` up to `drain`, `handler.py:62-79`; `none` when the writer is closing. -/
def Conn.sendFrame (s : Conn) (source : Option ℕ) (frame : Frame) : Except Exc (Option Conn) := do
  let sent ← encodeToSend s.writerClosing s.config.maxFrameSize frame
  .ok (sent.map fun p => s.record (.wrote source p.1 p.2))

/-- `send_disconnect`, `handler.py:82-98`. -/
def Conn.sendDisconnect (s : Conn) (statusCode : DisconnectCode) (message : Str) :
    Except Exc (Option Conn) :=
  s.sendFrame none (disconnectFrame statusCode message)

/-- `send_disconnect_on_error`, `handler.py:100-115`. -/
def Conn.sendDisconnectOnError (s : Conn) (statusCode : DisconnectCode) (message : Str) :
    Except Exc (Option Conn) :=
  s.sendDisconnect statusCode (message.take DISCONNECT_MESSAGE_MAX_LENGTH)

/-- The body of the group sends: it waits in `draining` when it wrote, it ends with
`CloseConnection` when the writer was closing. -/
def Conn.bodySends (s : Conn) (sent : Except Exc (Option Conn)) (draining : MainPhase) : Conn :=
  match sent with
  | .error e => s.leave (some e)
  | .ok none => s.leave (some closeConnection)
  | .ok (some s) => { s with main := draining }

/-! ### Handshake -/

/-- `slots.acquire()` of the read loop. -/
def Conn.acquire (s : Conn) : Conn :=
  if 0 < s.slots then { s with slots := s.slots - 1, main := .reading }
  else { s with main := .acquiring }

/-- The bound on concurrent NOTIFYs, `handler.py:314-318`. -/
def ServerConfiguration.limit (c : ServerConfiguration) : ℤ :=
  if PIPELINING ∈ c.capabilities then c.maxConcurrentFrames else 1

/-- `asyncio.Semaphore(limit)` and the start of the read loop, `handler.py:314-319`. -/
def Conn.serve (s : Conn) : Conn :=
  if s.config.limit < 0 then
    s.leave (some semaphoreError)
  else { s with slots := s.config.limit.toNat }.acquire

/-- `Frame.decode` on the connection: the frame it gives goes into the log with the
length of its body. -/
def Conn.receive (s : Conn) : Except Exc Frame × Conn :=
  match Frame.decode s.reader s.config.maxFrameSize with
  | (.error e, reader) => (.error e, { s with reader := reader })
  | (.ok frame, reader) =>
    let size := s.reader.buffer.length - reader.buffer.length - 4
    (.ok frame, { s with reader := reader }.record (.received frame size))

/-- `handle_handshake` up to its next await, `handler.py:117-154`. -/
def Conn.handshakeStep (s : Conn) : Conn :=
  match s.receive with
  | (.error e, s) => s.leave (some e)
  | (.ok frame, s) =>
    match frame.payload with
    | .haproxyHello hello =>
      match s.config.negotiateServerCompatibility hello.supportedVersions hello.maxFrameSize
          hello.capabilities with
      | .error e => s.leave (some e)
      | .ok config =>
        let s := { s with config := config }
        if config.serverCompatible then
          s.bodySends (s.sendFrame none (agentHelloFrame config))
            (.greeting hello.healthcheck.truthy)
        else
          s.bodySends (s.sendDisconnectOnError .serverIncompatible
            (str "Handshake failed to find compatibility.")) .refusing
    | _ => s.bodySends (s.sendDisconnectOnError .invalidFrameReceived
        (str "Expected HAPROXY-HELLO, received " ++ frame.frameType.name)) .refusing

/-! ### The read loop -/

/-- One frame of the read loop, `handler.py:268-295`, and the next `slots.acquire()`. -/
def Conn.readStep (s : Conn) : Conn :=
  match s.receive with
  | (.error e, s) => s.leave (some (if e.cls = .spopEOFError then closeConnection else e))
  | (.ok frame, s) =>
    match frame.payload with
    | .haproxyDisconnect _ | .agentDisconnect _ =>
      s.bodySends (s.sendDisconnect .normal (str "Disconnecting normally")) .replying
    | .notify messages =>
      { s with tasks := s.tasks ++ [Task.new frame.metadata messages] }.acquire
    | _ => s.bodySends (s.sendDisconnectOnError .invalidFrameReceived
        (str "Expected NOTIFY or HAPROXY_DISCONNECT, received " ++ frame.frameType.name)) .replying

/-! ### The except* clauses -/

/-- What no clause handles, `handler.py:321-343`. -/
def unhandled (group : List Exc) : List Exc :=
  group.filter fun e => !(e.cls = .closeConnection || e.isSpoeForgeError || e.cls = .connectionError)

/-- The end of the `try` statement and the start of `close_connection`. -/
def Conn.finish (s : Conn) (group raised : List Exc) : Conn :=
  if unhandled group ++ raised = [] then { s with writerClosing := true, main := .closing }
  else { s with main := .failed (unhandled group ++ raised) }

def Exc.isProtocolError (e : Exc) : Bool := e.isSpoeForgeError && e.cls ≠ .spopFrameTooBigError

/-- `except* SpoeForgeError`, `handler.py:330-338`. -/
def Conn.protocolClause (s : Conn) (group raised : List Exc) : Conn :=
  match group.find? Exc.isProtocolError with
  | none => s.finish group raised
  | some e =>
    match s.sendDisconnectOnError .protocolError e.text with
    | .error x => s.finish group (raised ++ [x])
    | .ok none => s.finish group raised
    | .ok (some s) => { s with main := .reportingProtocol group raised }

/-- `except* SpopFrameTooBigError`, `handler.py:324-328`. -/
def Conn.tooBigClause (s : Conn) (group : List Exc) : Conn :=
  match group.find? fun e => e.cls = .spopFrameTooBigError with
  | none => s.protocolClause group []
  | some e =>
    match s.sendDisconnectOnError .frameTooBig e.text with
    | .error x => s.protocolClause group [x]
    | .ok none => s.protocolClause group []
    | .ok (some s) => { s with main := .reportingTooBig group }

/-- The exceptions of the group that `TaskGroup.__aexit__` raises. -/
def Conn.group (s : Conn) (exc : Option Exc) : List Exc := s.errors ++ exc.toList

/-! ### The coroutine of the connection -/

/-- The exception of an await on the transport. -/
def Io.exc : Io → List Exc
  | .ok => []
  | .broken text => [connectionError text]

/-- An await of the body on the transport ends; `next` runs if it ended normally. -/
def Conn.bodyResumes (s : Conn) (io : Io) (next : Conn) : Conn :=
  if s.mainCancelled then s.leave none
  else match io with
    | .ok => next
    | .broken text => s.leave (some (connectionError text))

def Conn.mainStep (s : Conn) (io : Io) : Option Conn :=
  match s.main with
  | .handshake => some (s.bodyResumes io s.handshakeStep)
  | .refusing => some (s.bodyResumes io (s.leave (some closeConnection)))
  | .greeting healthcheck => some (s.bodyResumes io
      (if healthcheck then s.leave (some closeConnection) else s.serve))
  | .acquiring => if s.mainCancelled then some (s.leave none) else none
  | .granted =>
    if s.mainCancelled then some ({ s with slots := s.slots + 1 }.leave none)
    else some { s with main := .reading }
  | .reading => some (s.bodyResumes io s.readStep)
  | .replying => some (s.bodyResumes io (s.leave (some closeConnection)))
  | .exiting exc => if s.tasks.all Task.reported then some (s.tooBigClause (s.group exc)) else none
  | .reportingTooBig group => some (s.protocolClause group io.exc)
  | .reportingProtocol group raised => some (s.finish group (raised ++ io.exc))
  | .closing => some { s with main := .returned }
  | .returned | .failed _ => none

/-! ### The tasks -/

def Conn.setTask (s : Conn) (i : ℕ) (t : Task) : Conn := { s with tasks := s.tasks.set i t }

/-- `slots.release()` in the `finally` clause of task `i`, `handler.py:203-204`. -/
def Conn.release (s : Conn) (i : ℕ) : Conn :=
  let s := s.record (.released i)
  if s.main = .acquiring ∧ s.mainCancelled = false then { s with main := .granted }
  else { s with slots := s.slots + 1 }

/-- The coroutine of task `i` ends through its `finally` clause. -/
def Conn.endTask (s : Conn) (i : ℕ) (t : Task) (phase : TaskPhase) : Conn :=
  (s.setTask i { t with phase := phase, cancelRequested := false }).release i

/-- The first step of a task: a cancelled one ends without entering the `try`. -/
def Conn.startTask (s : Conn) (i : ℕ) (t : Task) : Conn :=
  if t.cancelRequested then s.setTask i { t with phase := .cancelled, cancelRequested := false }
  else (s.setTask i { t with phase := .running }).record (.invoked i)

/-- The handler has returned: the ACK up to its `drain`, `handler.py:188-202`. -/
def Conn.acknowledge (s : Conn) (i : ℕ) (t : Task) (actions : Option (List ActionObj)) : Conn :=
  match ackToSend s.writerClosing s.config.maxFrameSize t.metadata actions with
  | .error e => s.endTask i t (.raised e)
  | .ok none => s.endTask i t .returned
  | .ok (some (frame, bytes)) =>
    (s.setTask i { t with phase := .draining, cancelRequested := false }).record
      (.wrote (some i) frame bytes)

def Conn.handlerStep (s : Conn) (i : ℕ) (t : Task) : Outcome → Conn
  | .pending => s.setTask i { t with cancelRequested := false }
  | .returned actions => (s.record (.answered i actions)).acknowledge i t actions
  | .raised e => s.endTask i t (.raised e)
  | .cancelled => s.endTask i t .cancelled

/-- A task's `drain` ends. -/
def Conn.drainStep (s : Conn) (i : ℕ) (t : Task) (io : Io) : Conn :=
  if t.cancelRequested then s.endTask i t .cancelled
  else match io with
    | .ok => s.endTask i t .returned
    | .broken text => s.endTask i t (.raised (connectionError text))

/-- `TaskGroup._on_task_done`. -/
def Conn.doneStep (s : Conn) (i : ℕ) (t : Task) : Conn :=
  let s := s.setTask i { t with reported := true }
  match t.phase with
  | .raised e =>
    let s := { s with errors := s.errors ++ [e] }
    if s.aborting then s else { s.abort with mainCancelled := true }
  | _ => s

/-- One step of the event loop. -/
def Conn.step (s : Conn) : Event → Option Conn
  | .main io => s.mainStep io
  | .start i =>
    match s.tasks[i]? with
    | some t => if t.phase = .created then some (s.startTask i t) else none
    | none => none
  | .handler i outcome =>
    match s.tasks[i]? with
    | some t => if t.phase = .running then some (s.handlerStep i t outcome) else none
    | none => none
  | .drained i io =>
    match s.tasks[i]? with
    | some t => if t.phase = .draining then some (s.drainStep i t io) else none
    | none => none
  | .done i =>
    match s.tasks[i]? with
    | some t => if t.phase.ended ∧ t.reported = false then some (s.doneStep i t) else none
    | none => none
  | .lost => some { s with writerClosing := true }

end SpoeForge
