import SpoeForge.Server.Steps
import SpoeForge.Wire.EndOfStream

/-!
# Bytes that arrive

`Conn` reads from all that the peer sends. On the wire the bytes arrive in pieces, and
`readexactly` waits until it has enough. `Link` is the connection with its transport, a
coroutine suspended inside `Frame.decode` included: it does what `Conn` does, however the
bytes are cut, and while it waits it holds less than a frame.
-/

namespace SpoeForge

open Runs

/-! ### Decoding in steps -/

/-- Where `Frame.decode` is suspended, with what it has read of the frame. -/
inductive DecodePoint where
  | length
  | body (lenBuf : Bytes) (frameLen : ℕ)
  deriving DecidableEq, Repr

/-- How a resumption of `Frame.decode` leaves it; the frame comes with the length of its body. -/
inductive Resumed where
  | waits (point : DecodePoint)
  | ends (result : Except Exc (Frame × ℕ))

/-- `reader.readexactly(n)` on the bytes that have arrived; `none` while it waits for more. -/
def StreamReader.await (r : StreamReader) (eof : Bool) (n : ℕ) :
    Option (Option Bytes × StreamReader) :=
  if r.buffer.length < n ∧ eof = false then none else some (r.readexactly n)

/-- `Frame.decode` from its second `readexactly`, `frame.py:160-213`. -/
def decodeRest (r : StreamReader) (eof : Bool) (lenBuf : Bytes) (frameLen : ℕ) :
    Resumed × StreamReader :=
  match r.await eof frameLen with
  | none => (.waits (.body lenBuf frameLen), r)
  | some (none, r) =>
    (.ends (.error (decodeError (str "unexpected end of stream reached while decoding frame"))), r)
  | some (some frameBuf, r) => (.ends ((decodeBody frameBuf).map fun f => (f, frameLen)), r)

/-- `Frame.decode` from its first `readexactly`, `frame.py:136-213`. -/
def decodeFirst (r : StreamReader) (eof : Bool) (maxFrameSize : ℤ) : Resumed × StreamReader :=
  match r.await eof 4 with
  | none => (.waits .length, r)
  | some (none, r) =>
    if eof && r.atEof then (.ends (.error ⟨.spopEOFError, []⟩), r)
    else (.ends (.error (decodeError
      (str "unexpected end of stream reached while decoding frame length"))), r)
  | some (some lenBuf, r) =>
    match decodeFrameLen lenBuf with
    | .error e => (.ends (.error e), r)
    | .ok frameLen =>
      if (frameLen : ℤ) > maxFrameSize then (.ends (tooBig frameLen maxFrameSize), r)
      else decodeRest r eof lenBuf frameLen

def DecodePoint.resume (point : DecodePoint) (r : StreamReader) (eof : Bool) (maxFrameSize : ℤ) :
    Resumed × StreamReader :=
  match point with
  | .length => decodeFirst r eof maxFrameSize
  | .body lenBuf frameLen => decodeRest r eof lenBuf frameLen

/-! ### The connection and its transport -/

/-- `handle_handshake` after its `Frame.decode`, `handler.py:126-154`. -/
def Conn.handshakeOn (s : Conn) : Except Exc Frame → Conn
  | .error e => s.leave (some e)
  | .ok frame =>
    match frame.payload with
    | .haproxyHello hello =>
      match s.config.negotiateServerCompatibility hello.supportedVersions hello.maxFrameSize
          hello.capabilities with
      | .error e => s.leave (some e)
      | .ok config =>
        let s := { s with config := config }
        if config.serverCompatible then
          s.bodySends (s.sendFrame none (agentHelloFrame config))
            (.greeting hello.healthcheck.truthy)
        else
          s.bodySends (s.sendDisconnectOnError .serverIncompatible
            (str "Handshake failed to find compatibility.")) .refusing
    | _ => s.bodySends (s.sendDisconnectOnError .invalidFrameReceived
        (str "Expected HAPROXY-HELLO, received " ++ frame.frameType.name)) .refusing

/-- The read loop after its `Frame.decode`, `handler.py:268-295`. -/
def Conn.readOn (s : Conn) : Except Exc Frame → Conn
  | .error e => s.leave (some (if e.cls = .spopEOFError then closeConnection else e))
  | .ok frame =>
    match frame.payload with
    | .haproxyDisconnect _ | .agentDisconnect _ =>
      s.bodySends (s.sendDisconnect .normal (str "Disconnecting normally")) .replying
    | .notify messages =>
      { s with tasks := s.tasks ++ [Task.new frame.metadata messages] }.acquire
    | _ => s.bodySends (s.sendDisconnectOnError .invalidFrameReceived
        (str "Expected NOTIFY or HAPROXY_DISCONNECT, received " ++ frame.frameType.name)) .replying

/-- The coroutine of the connection goes on with what `Frame.decode` gives. -/
def Conn.goOn (s : Conn) (result : Except Exc Frame) : Conn :=
  if s.main = .handshake then s.handshakeOn result else s.readOn result

/-- `Frame.decode` has ended: the frame it gives goes into the log. -/
def Conn.decoded (s : Conn) : Except Exc (Frame × ℕ) → Conn
  | .error e => s.goOn (.error e)
  | .ok (frame, size) => (s.record (.received frame size)).goOn (.ok frame)

/-- The coroutine of the connection resumes inside `Frame.decode`. -/
def Conn.Decoding (s : Conn) : Prop :=
  (s.main = .handshake ∨ s.main = .reading) ∧ s.mainCancelled = false

instance (s : Conn) : Decidable s.Decoding := inferInstanceAs (Decidable (_ ∧ _))

/-- A connection with its transport: the reader of `conn` holds the bytes that have arrived,
`wire` those that the peer sends after them. -/
structure Link where
  conn : Conn
  point : DecodePoint
  wire : Bytes
  eof : Bool
  deriving DecidableEq, Repr

/-- A new connection on which the peer sends `inbound`; nothing has arrived. -/
def Link.init (maxFrameSize maxConcurrentFrames : ℤ) (inbound : Bytes) : Link :=
  ⟨Conn.init maxFrameSize maxConcurrentFrames [], .length, inbound, false⟩

inductive LinkEvent where
  /-- `feed_data` with the next bytes -/
  | arrive (n : ℕ)
  /-- `feed_eof` -/
  | eof
  /-- a step of the event loop -/
  | conn (e : Event)
  deriving DecidableEq, Repr

/-- A resumption of `Frame.decode`; none while it waits. -/
def Link.decodeStep (l : Link) : Option Link :=
  match l.point.resume l.conn.reader l.eof l.conn.config.maxFrameSize with
  | (.waits point, reader) =>
    if point = l.point then none
    else some { l with point := point, conn := { l.conn with reader := reader } }
  | (.ends result, reader) =>
    some { l with point := .length, conn := Conn.decoded { l.conn with reader := reader } result }

def Link.step (l : Link) : LinkEvent → Option Link
  | .arrive n =>
    if l.eof then none
    else
      let reader := ⟨l.conn.reader.buffer ++ l.wire.take n⟩
      some { l with conn := { l.conn with reader := reader }, wire := l.wire.drop n }
  | .eof => if l.wire = [] ∧ l.eof = false then some { l with eof := true } else none
  | .conn e =>
    if e = .main .ok ∧ l.conn.Decoding then l.decodeStep
    else (l.conn.step e).map fun s => { l with conn := s }

/-! ### The reader is only read in `Frame.decode` -/

def Conn.withReader (s : Conn) (r : StreamReader) : Conn := { s with reader := r }

section Reader

variable (s : Conn) (r : StreamReader)

@[simp] theorem Conn.withReader_main : (s.withReader r).main = s.main := rfl
@[simp] theorem Conn.withReader_mainCancelled :
    (s.withReader r).mainCancelled = s.mainCancelled := rfl
@[simp] theorem Conn.withReader_tasks : (s.withReader r).tasks = s.tasks := rfl
@[simp] theorem Conn.withReader_config : (s.withReader r).config = s.config := rfl
@[simp] theorem Conn.withReader_writerClosing :
    (s.withReader r).writerClosing = s.writerClosing := rfl
@[simp] theorem Conn.withReader_reader : (s.withReader r).reader = r := rfl

theorem Conn.leave_withReader (exc : Option Exc) :
    (s.withReader r).leave exc = (s.leave exc).withReader r := by
  cases h : s.aborting <;> simp [Conn.leave, Conn.abort, Conn.withReader, h]

theorem Conn.acquire_withReader : (s.withReader r).acquire = s.acquire.withReader r := by
  unfold Conn.acquire Conn.withReader
  dsimp only
  split <;> rfl

theorem Conn.sendFrame_withReader (source : Option ℕ) (frame : Frame) :
    (s.withReader r).sendFrame source frame =
      (s.sendFrame source frame).map (Option.map fun s => s.withReader r) := by
  unfold Conn.sendFrame
  rw [Conn.withReader_writerClosing, Conn.withReader_config]
  rcases encodeToSend s.writerClosing s.config.maxFrameSize frame with e | _ | p <;> rfl

theorem Conn.bodySends_withReader (frame : Frame) (draining : MainPhase) :
    (s.withReader r).bodySends ((s.withReader r).sendFrame none frame) draining =
      (s.bodySends (s.sendFrame none frame) draining).withReader r := by
  rw [Conn.sendFrame_withReader]
  rcases s.sendFrame none frame with e | _ | s₁
  · exact s.leave_withReader r _
  · exact s.leave_withReader r _
  · rfl

theorem Conn.serve_withReader : (s.withReader r).serve = s.serve.withReader r := by
  unfold Conn.serve
  rw [Conn.withReader_config]
  split
  · exact s.leave_withReader r _
  · exact Conn.acquire_withReader { s with slots := s.config.limit.toNat } r

theorem Conn.finish_withReader (group raised : List Exc) :
    (s.withReader r).finish group raised = (s.finish group raised).withReader r := by
  unfold Conn.finish
  split <;> rfl

theorem Conn.protocolClause_withReader (group raised : List Exc) :
    (s.withReader r).protocolClause group raised =
      (s.protocolClause group raised).withReader r := by
  unfold Conn.protocolClause
  cases group.find? Exc.isProtocolError with
  | none => exact s.finish_withReader r _ _
  | some e =>
    simp only [Conn.sendDisconnectOnError, Conn.sendDisconnect, Conn.sendFrame_withReader]
    rcases s.sendFrame none (disconnectFrame .protocolError
      (e.text.take DISCONNECT_MESSAGE_MAX_LENGTH)) with x | _ | s₁
    · exact s.finish_withReader r _ _
    · exact s.finish_withReader r _ _
    · rfl

theorem Conn.tooBigClause_withReader (group : List Exc) :
    (s.withReader r).tooBigClause group = (s.tooBigClause group).withReader r := by
  unfold Conn.tooBigClause
  cases group.find? fun e => e.cls = .spopFrameTooBigError with
  | none => exact s.protocolClause_withReader r _ _
  | some e =>
    simp only [Conn.sendDisconnectOnError, Conn.sendDisconnect, Conn.sendFrame_withReader]
    rcases s.sendFrame none (disconnectFrame .frameTooBig
      (e.text.take DISCONNECT_MESSAGE_MAX_LENGTH)) with x | _ | s₁
    · exact s.protocolClause_withReader r _ _
    · exact s.protocolClause_withReader r _ _
    · rfl

theorem Conn.bodyResumes_withReader (io : Io) (next : Conn) :
    (s.withReader r).bodyResumes io (next.withReader r) = (s.bodyResumes io next).withReader r := by
  unfold Conn.bodyResumes
  rw [Conn.withReader_mainCancelled]
  split
  · exact s.leave_withReader r _
  · cases io with
    | ok => rfl
    | broken text => exact s.leave_withReader r _

theorem Conn.release_withReader (i : ℕ) :
    (s.withReader r).release i = (s.release i).withReader r := by
  rw [Conn.release_eq, Conn.release_eq, Conn.withReader_main, Conn.withReader_mainCancelled]
  split <;> rfl

theorem Conn.endTask_withReader (i : ℕ) (t : Task) (phase : TaskPhase) :
    (s.withReader r).endTask i t phase = (s.endTask i t phase).withReader r :=
  Conn.release_withReader (s.setTask i { t with phase := phase, cancelRequested := false }) r i

theorem Conn.acknowledge_withReader (i : ℕ) (t : Task) (actions : Option (List ActionObj)) :
    (s.withReader r).acknowledge i t actions = (s.acknowledge i t actions).withReader r := by
  unfold Conn.acknowledge
  rw [Conn.withReader_writerClosing, Conn.withReader_config]
  rcases ackToSend s.writerClosing s.config.maxFrameSize t.metadata actions with e | _ | p
  · exact s.endTask_withReader r i t _
  · exact s.endTask_withReader r i t _
  · rfl

theorem Conn.handlerStep_withReader (i : ℕ) (t : Task) (outcome : Outcome) :
    (s.withReader r).handlerStep i t outcome = (s.handlerStep i t outcome).withReader r := by
  cases outcome with
  | pending => rfl
  | returned actions => exact Conn.acknowledge_withReader (s.record (.answered i actions)) r i t _
  | raised e => exact s.endTask_withReader r i t _
  | cancelled => exact s.endTask_withReader r i t _

theorem Conn.drainStep_withReader (i : ℕ) (t : Task) (io : Io) :
    (s.withReader r).drainStep i t io = (s.drainStep i t io).withReader r := by
  unfold Conn.drainStep
  split
  · exact s.endTask_withReader r i t _
  · cases io <;> exact s.endTask_withReader r i t _

theorem Conn.doneStep_withReader (i : ℕ) (t : Task) :
    (s.withReader r).doneStep i t = (s.doneStep i t).withReader r := by
  unfold Conn.doneStep Conn.setTask Conn.abort Conn.withReader
  cases t.phase <;> dsimp only
  split <;> rfl

theorem Conn.mainStep_withReader (io : Io) (h : ¬(io = .ok ∧ s.Decoding)) :
    (s.withReader r).mainStep io = (s.mainStep io).map fun s => s.withReader r := by
  have hdecoding : s.main = .handshake ∨ s.main = .reading → s.mainCancelled = true ∨ io ≠ .ok := by
    intro hmain
    by_contra hnot
    rw [not_or, not_not, Bool.not_eq_true] at hnot
    exact h ⟨hnot.2, hmain, hnot.1⟩
  have hbody : ∀ next next' : Conn, s.mainCancelled = true ∨ io ≠ .ok →
      (s.withReader r).bodyResumes io next = (s.bodyResumes io next').withReader r := by
    intro next next' hnot
    unfold Conn.bodyResumes
    rw [Conn.withReader_mainCancelled]
    split
    · exact s.leave_withReader r _
    · rename_i hc
      cases io with
      | ok => exact absurd rfl (hnot.resolve_left hc)
      | broken text => exact s.leave_withReader r _
  unfold Conn.mainStep
  rw [Conn.withReader_main]
  cases hmain : s.main with
  | handshake => exact congrArg some (hbody _ _ (hdecoding (.inl hmain)))
  | reading => exact congrArg some (hbody _ _ (hdecoding (.inr hmain)))
  | refusing | replying =>
    dsimp only
    rw [Conn.leave_withReader, Conn.bodyResumes_withReader]
    rfl
  | greeting healthcheck =>
    dsimp only
    rw [Conn.leave_withReader, Conn.serve_withReader]
    cases healthcheck <;> exact congrArg some (s.bodyResumes_withReader r io _)
  | acquiring =>
    dsimp only
    rw [Conn.withReader_mainCancelled, Conn.leave_withReader]
    split <;> rfl
  | granted =>
    dsimp only
    rw [Conn.withReader_mainCancelled]
    split
    · exact congrArg some
        (Conn.leave_withReader { s with main := .granted, slots := s.slots + 1 } r none)
    · rfl
  | exiting exc =>
    dsimp only
    rw [Conn.withReader_tasks]
    split
    · exact congrArg some (s.tooBigClause_withReader r _)
    · rfl
  | reportingTooBig group => exact congrArg some (s.protocolClause_withReader r _ _)
  | reportingProtocol group raised => exact congrArg some (s.finish_withReader r _ _)
  | closing => rfl
  | returned => rfl
  | failed group => rfl

/-- A step that does not decode neither reads nor changes the reader. -/
theorem Conn.step_withReader (ev : Event) (h : ¬(ev = .main .ok ∧ s.Decoding)) :
    (s.withReader r).step ev = (s.step ev).map fun s => s.withReader r := by
  cases ev with
  | main io => exact s.mainStep_withReader r io fun hio => h ⟨by rw [hio.1], hio.2⟩
  | start i =>
    simp only [Conn.step, Conn.withReader_tasks]
    cases s.tasks[i]? with
    | none => rfl
    | some t =>
      dsimp only
      unfold Conn.startTask
      split
      · split <;> rfl
      · rfl
  | handler i outcome =>
    simp only [Conn.step, Conn.withReader_tasks]
    cases s.tasks[i]? with
    | none => rfl
    | some t =>
      dsimp only
      rw [Conn.handlerStep_withReader]
      split <;> rfl
  | drained i io =>
    simp only [Conn.step, Conn.withReader_tasks]
    cases s.tasks[i]? with
    | none => rfl
    | some t =>
      dsimp only
      rw [Conn.drainStep_withReader]
      split <;> rfl
  | done i =>
    simp only [Conn.step, Conn.withReader_tasks]
    cases s.tasks[i]? with
    | none => rfl
    | some t =>
      dsimp only
      rw [Conn.doneStep_withReader]
      split <;> rfl
  | lost => rfl

theorem Conn.handshakeOn_withReader (result : Except Exc Frame) :
    (s.withReader r).handshakeOn result = (s.handshakeOn result).withReader r := by
  cases result with
  | error e => exact s.leave_withReader r _
  | ok frame =>
    unfold Conn.handshakeOn
    dsimp only
    split
    · rename_i hello _
      rw [Conn.withReader_config]
      split
      · exact s.leave_withReader r _
      · rename_i config _
        split
        · exact Conn.bodySends_withReader { s with config := config } r _ _
        · exact Conn.bodySends_withReader { s with config := config } r _ _
    · exact s.bodySends_withReader r _ _

theorem Conn.readOn_withReader (result : Except Exc Frame) :
    (s.withReader r).readOn result = (s.readOn result).withReader r := by
  cases result with
  | error e => exact s.leave_withReader r _
  | ok frame =>
    unfold Conn.readOn
    dsimp only
    split
    · exact s.bodySends_withReader r _ _
    · exact s.bodySends_withReader r _ _
    · exact Conn.acquire_withReader { s with tasks := s.tasks ++ [Task.new frame.metadata _] } r
    · exact s.bodySends_withReader r _ _

theorem Conn.goOn_withReader (result : Except Exc Frame) :
    (s.withReader r).goOn result = (s.goOn result).withReader r := by
  unfold Conn.goOn
  rw [Conn.withReader_main]
  split
  · exact s.handshakeOn_withReader r result
  · exact s.readOn_withReader r result

theorem Conn.decoded_withReader (result : Except Exc (Frame × ℕ)) :
    (s.withReader r).decoded result = (s.decoded result).withReader r := by
  cases result with
  | error e => exact s.goOn_withReader r _
  | ok p => exact Conn.goOn_withReader (s.record (.received p.1 p.2)) r _

end Reader

end SpoeForge
