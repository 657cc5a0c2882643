import SpoeForge.Connection
import SpoeForge.Library.Runs
import SpoeForge.Wire.FrameStream

/-!
# What one step of a connection can do

`Conn.Move` lists the outcomes of a step, each with its guard; `Conn.step_move` is the
one place that looks inside `Conn.step`. The lemmas before it say which fields the
operations of the model touch.
-/

namespace SpoeForge

open Fallible Runs

/-! ### Fields -/

section Fields

variable (s : Conn) (i : ℕ) (t : Task) (exc : Option Exc) (e : Entry)

@[simp] theorem Conn.leave_main : (s.leave exc).main = .exiting exc := rfl

@[simp] theorem Conn.leave_aborting : (s.leave exc).aborting = true := by
  cases h : s.aborting <;> simp [Conn.leave, Conn.abort, h]

@[simp] theorem Conn.leave_config : (s.leave exc).config = s.config := by
  cases h : s.aborting <;> simp [Conn.leave, Conn.abort, h]

@[simp] theorem Conn.leave_reader : (s.leave exc).reader = s.reader := by
  cases h : s.aborting <;> simp [Conn.leave, Conn.abort, h]

@[simp] theorem Conn.leave_writerClosing : (s.leave exc).writerClosing = s.writerClosing := by
  cases h : s.aborting <;> simp [Conn.leave, Conn.abort, h]

@[simp] theorem Conn.leave_log : (s.leave exc).log = s.log := by
  cases h : s.aborting <;> simp [Conn.leave, Conn.abort, h]

@[simp] theorem Conn.leave_mainCancelled : (s.leave exc).mainCancelled = s.mainCancelled := by
  cases h : s.aborting <;> simp [Conn.leave, Conn.abort, h]

@[simp] theorem Conn.leave_errors : (s.leave exc).errors = s.errors := by
  cases h : s.aborting <;> simp [Conn.leave, Conn.abort, h]

@[simp] theorem Conn.leave_slots : (s.leave exc).slots = s.slots := by
  cases h : s.aborting <;> simp [Conn.leave, Conn.abort, h]

theorem Conn.leave_tasks : (s.leave exc).tasks = s.tasks ∨
    (s.leave exc).tasks = s.tasks.map Task.requestCancel := by
  cases h : s.aborting
  · exact .inr (by simp [Conn.leave, Conn.abort, h])
  · exact .inl (by simp [Conn.leave, h])

@[simp] theorem Conn.record_log : (s.record e).log = s.log ++ [e] := rfl

@[simp] theorem Conn.acquire_log : s.acquire.log = s.log := by
  unfold Conn.acquire
  split <;> rfl

@[simp] theorem Conn.acquire_tasks : s.acquire.tasks = s.tasks := by
  unfold Conn.acquire
  split <;> rfl

@[simp] theorem Conn.acquire_config : s.acquire.config = s.config := by
  unfold Conn.acquire
  split <;> rfl

@[simp] theorem Conn.acquire_reader : s.acquire.reader = s.reader := by
  unfold Conn.acquire
  split <;> rfl

@[simp] theorem Conn.acquire_writerClosing : s.acquire.writerClosing = s.writerClosing := by
  unfold Conn.acquire
  split <;> rfl

@[simp] theorem Conn.acquire_aborting : s.acquire.aborting = s.aborting := by
  unfold Conn.acquire
  split <;> rfl

@[simp] theorem Conn.acquire_mainCancelled : s.acquire.mainCancelled = s.mainCancelled := by
  unfold Conn.acquire
  split <;> rfl

@[simp] theorem Conn.acquire_errors : s.acquire.errors = s.errors := by
  unfold Conn.acquire
  split <;> rfl

theorem Conn.acquire_main : s.acquire.main = .reading ∨ s.acquire.main = .acquiring := by
  unfold Conn.acquire
  split
  · exact .inl rfl
  · exact .inr rfl

@[simp] theorem Conn.setTask_tasks : (s.setTask i t).tasks = s.tasks.set i t := rfl

theorem Conn.release_eq : s.release i =
    if s.main = .acquiring ∧ s.mainCancelled = false then
      { s.record (.released i) with main := .granted }
    else { s.record (.released i) with slots := s.slots + 1 } := rfl

@[simp] theorem Conn.release_tasks : (s.release i).tasks = s.tasks := by
  rw [Conn.release_eq]
  split <;> rfl

@[simp] theorem Conn.release_log : (s.release i).log = s.log ++ [.released i] := by
  rw [Conn.release_eq]
  split <;> rfl

@[simp] theorem Conn.release_config : (s.release i).config = s.config := by
  rw [Conn.release_eq]
  split <;> rfl

@[simp] theorem Conn.release_reader : (s.release i).reader = s.reader := by
  rw [Conn.release_eq]
  split <;> rfl

@[simp] theorem Conn.release_writerClosing : (s.release i).writerClosing = s.writerClosing := by
  rw [Conn.release_eq]
  split <;> rfl

@[simp] theorem Conn.release_aborting : (s.release i).aborting = s.aborting := by
  rw [Conn.release_eq]
  split <;> rfl

@[simp] theorem Conn.release_mainCancelled : (s.release i).mainCancelled = s.mainCancelled := by
  rw [Conn.release_eq]
  split <;> rfl

@[simp] theorem Conn.release_errors : (s.release i).errors = s.errors := by
  rw [Conn.release_eq]
  split <;> rfl

theorem Conn.release_main : (s.release i).main = s.main ∨
    (s.main = .acquiring ∧ s.mainCancelled = false ∧ (s.release i).main = .granted) := by
  rw [Conn.release_eq]
  split
  · rename_i h
    exact .inr ⟨h.1, h.2, rfl⟩
  · exact .inl rfl

end Fields

/-! ### Moves -/

/-- Where the coroutine of the connection waits for the transport in the body of the task
group. -/
def MainPhase.awaitsTransport : MainPhase → Bool
  | .handshake | .refusing | .greeting _ | .reading | .replying => true
  | _ => false

/-- The coroutine of the connection has left the body of the task group. -/
def MainPhase.left : MainPhase → Bool
  | .exiting _ | .reportingTooBig _ | .reportingProtocol _ _ | .closing | .returned
  | .failed _ => true
  | _ => false

/-- The read loop runs: the semaphore exists. -/
def MainPhase.serving : MainPhase → Bool
  | .acquiring | .granted | .reading | .replying => true
  | _ => false

/-- `s₁` is `s` after `Frame.decode` has given `frame`, read from a body of `size` bytes. -/
def Conn.Takes (s : Conn) (frame : Frame) (size : ℕ) (s₁ : Conn) : Prop :=
  ∃ reader body, Frame.decode s.reader s.config.maxFrameSize = (.ok frame, reader) ∧
    decodeBody body = .ok frame ∧ body.length = size ∧ (size : ℤ) ≤ s.config.maxFrameSize ∧
    s₁ = { s with reader := reader, log := s.log ++ [.received frame size] }

/-- The body of the group sends `frame` and then waits in `draining`. -/
inductive Conn.Sends (s : Conn) (frame : Frame) (draining : MainPhase) : Conn → Prop
  | refused (e : Exc) (hopen : s.writerClosing = false)
      (h : frame.encode s.config.maxFrameSize = .error e) : Sends s frame draining (s.leave (some e))
  | closed (h : s.writerClosing = true) : Sends s frame draining (s.leave (some closeConnection))
  | wrote (bytes : Bytes) (hopen : s.writerClosing = false)
      (h : frame.encode s.config.maxFrameSize = .ok bytes) :
      Sends s frame draining { s.record (.wrote none frame bytes) with main := draining }

theorem encodeToSend_eq (closing : Bool) (m : ℤ) (frame : Frame) :
    encodeToSend closing m frame =
      if closing then .ok none else (frame.encode m).map fun bytes => some (frame, bytes) := by
  unfold encodeToSend
  split
  · rfl
  · cases frame.encode m <;> rfl

theorem Conn.bodySends_sends (s : Conn) (frame : Frame) (draining : MainPhase) :
    s.Sends frame draining (s.bodySends (s.sendFrame none frame) draining) := by
  unfold Conn.sendFrame
  rw [encodeToSend_eq]
  cases hc : s.writerClosing with
  | true => exact .closed hc
  | false =>
    cases he : frame.encode s.config.maxFrameSize with
    | error e => exact .refused e hc he
    | ok bytes => exact .wrote bytes hc he

/-- The disconnect of a refused handshake, `handler.py:127-143`. -/
inductive HandshakeDisconnect : DisconnectCode → Str → Prop
  | incompatible : HandshakeDisconnect .serverIncompatible
      ((str "Handshake failed to find compatibility.").take DISCONNECT_MESSAGE_MAX_LENGTH)
  | expectedHello (t : FrameType) : HandshakeDisconnect .invalidFrameReceived
      ((str "Expected HAPROXY-HELLO, received " ++ t.name).take DISCONNECT_MESSAGE_MAX_LENGTH)

/-- The disconnect with which the read loop answers a frame of a type other than NOTIFY,
`handler.py:274-293`. -/
def readReply : FrameType → Frame
  | .haproxyDisconnect | .agentDisconnect =>
    disconnectFrame .normal (str "Disconnecting normally")
  | t => disconnectFrame .invalidFrameReceived
      ((str "Expected NOTIFY or HAPROXY_DISCONNECT, received " ++ t.name).take
        DISCONNECT_MESSAGE_MAX_LENGTH)

/-- The disconnect for an exception of the group, `handler.py:325-334`. -/
def errorFrame (code : DisconnectCode) (e : Exc) : Frame :=
  disconnectFrame code (e.text.take DISCONNECT_MESSAGE_MAX_LENGTH)

/-- The outcomes of `except* SpoeForgeError`. -/
inductive Conn.ReportsProtocol (s : Conn) (group raised : List Exc) : Conn → Prop
  | none (h : group.find? Exc.isProtocolError = none) :
      ReportsProtocol s group raised (s.finish group raised)
  | closed (hc : s.writerClosing = true) : ReportsProtocol s group raised (s.finish group raised)
  | refused (e x : Exc) (h : group.find? Exc.isProtocolError = some e)
      (hopen : s.writerClosing = false)
      (hx : (errorFrame .protocolError e).encode s.config.maxFrameSize = .error x) :
      ReportsProtocol s group raised (s.finish group (raised ++ [x]))
  | wrote (e : Exc) (bytes : Bytes) (h : group.find? Exc.isProtocolError = some e)
      (hopen : s.writerClosing = false)
      (hb : (errorFrame .protocolError e).encode s.config.maxFrameSize = .ok bytes) :
      ReportsProtocol s group raised
        { s.record (.wrote none (errorFrame .protocolError e) bytes) with
          main := .reportingProtocol group raised }

/-- The outcomes of the except* clauses up to their next await. -/
inductive Conn.Reports (s : Conn) (group : List Exc) : Conn → Prop
  | none (s' : Conn) (h : group.find? (fun e => e.cls = .spopFrameTooBigError) = none)
      (hnext : s.ReportsProtocol group [] s') : Reports s group s'
  | closed (s' : Conn) (hc : s.writerClosing = true) (hnext : s.ReportsProtocol group [] s') :
      Reports s group s'
  | refused (e x : Exc) (s' : Conn)
      (h : group.find? (fun e => e.cls = .spopFrameTooBigError) = some e)
      (hopen : s.writerClosing = false)
      (hx : (errorFrame .frameTooBig e).encode s.config.maxFrameSize = .error x)
      (hnext : s.ReportsProtocol group [x] s') : Reports s group s'
  | wrote (e : Exc) (bytes : Bytes)
      (h : group.find? (fun e => e.cls = .spopFrameTooBigError) = some e)
      (hopen : s.writerClosing = false)
      (hb : (errorFrame .frameTooBig e).encode s.config.maxFrameSize = .ok bytes) :
      Reports s group
        { s.record (.wrote none (errorFrame .frameTooBig e) bytes) with
          main := .reportingTooBig group }

theorem Conn.protocolClause_reports (s : Conn) (group raised : List Exc) :
    s.ReportsProtocol group raised (s.protocolClause group raised) := by
  unfold Conn.protocolClause
  cases hf : group.find? Exc.isProtocolError with
  | none => exact .none hf
  | some e =>
    simp only [Conn.sendDisconnectOnError, Conn.sendDisconnect, Conn.sendFrame, encodeToSend_eq]
    cases hc : s.writerClosing with
    | true => exact .closed hc
    | false =>
      cases he : (errorFrame .protocolError e).encode s.config.maxFrameSize with
      | error x =>
        rw [errorFrame] at he
        simp only [he, Bool.false_eq_true, if_false]
        exact .refused e x hf hc he
      | ok bytes =>
        have hw : s.ReportsProtocol group raised
            { s.record (.wrote none (errorFrame .protocolError e) bytes) with
              main := .reportingProtocol group raised } := .wrote e bytes hf hc he
        rw [errorFrame] at he
        simp only [he, Bool.false_eq_true, if_false]
        exact hw

theorem Conn.tooBigClause_reports (s : Conn) (group : List Exc) :
    s.Reports group (s.tooBigClause group) := by
  unfold Conn.tooBigClause
  cases hf : group.find? (fun e => e.cls = .spopFrameTooBigError) with
  | none => exact .none _ hf (s.protocolClause_reports group [])
  | some e =>
    simp only [Conn.sendDisconnectOnError, Conn.sendDisconnect, Conn.sendFrame, encodeToSend_eq]
    cases hc : s.writerClosing with
    | true => exact .closed _ hc (s.protocolClause_reports group [])
    | false =>
      cases he : (errorFrame .frameTooBig e).encode s.config.maxFrameSize with
      | error x =>
        have hr := Conn.Reports.refused e x _ hf hc he (s.protocolClause_reports group [x])
        rw [errorFrame] at he
        simp only [he, Bool.false_eq_true, if_false]
        exact hr
      | ok bytes =>
        have hw := Conn.Reports.wrote e bytes hf hc he
        rw [errorFrame] at he
        simp only [he, Bool.false_eq_true, if_false]
        exact hw

/-- The end of the `try` statement only moves the coroutine on, and marks the writer. -/
theorem Conn.finish_main (s : Conn) (group raised : List Exc) :
    ((unhandled group ++ raised = [] ∧
        s.finish group raised = { s with writerClosing := true, main := .closing }) ∨
      s.finish group raised = { s with main := .failed (unhandled group ++ raised) }) := by
  unfold Conn.finish
  split
  · rename_i h
    exact .inl ⟨h, rfl⟩
  · exact .inr rfl

/-- The outcomes of a step. -/
inductive Conn.Move (s : Conn) : Event → Conn → Prop
  | cancelled (io : Io) (hmain : s.main.awaitsTransport = true ∨ s.main = .acquiring)
      (hc : s.mainCancelled = true) : Move s (.main io) (s.leave none)
  | slotReturned (io : Io) (hmain : s.main = .granted) (hc : s.mainCancelled = true) :
      Move s (.main io) ({ s with slots := s.slots + 1 }.leave none)
  | broken (text : Str) (hmain : s.main.awaitsTransport = true) (hc : s.mainCancelled = false) :
      Move s (.main (.broken text)) (s.leave (some (connectionError text)))
  | ends (hmain : s.main = .refusing ∨ s.main = .replying ∨ s.main = .greeting true)
      (hc : s.mainCancelled = false) : Move s (.main .ok) (s.leave (some closeConnection))
  | noSemaphore (hmain : s.main = .greeting false) (hc : s.mainCancelled = false)
      (hlimit : s.config.limit < 0) : Move s (.main .ok) (s.leave (some semaphoreError))
  | serves (hmain : s.main = .greeting false) (hc : s.mainCancelled = false)
      (hlimit : 0 ≤ s.config.limit) :
      Move s (.main .ok) { s with slots := s.config.limit.toNat }.acquire
  | reads (io : Io) (hmain : s.main = .granted) (hc : s.mainCancelled = false) :
      Move s (.main io) { s with main := .reading }
  | decodeFails (e : Exc) (reader : StreamReader) (hmain : s.main = .handshake ∨ s.main = .reading)
      (hc : s.mainCancelled = false)
      (hdecode : Frame.decode s.reader s.config.maxFrameSize = (.error e, reader)) :
      Move s (.main .ok) ({ s with reader := reader }.leave (some
        (if s.main = MainPhase.reading ∧ e.cls = ExcClass.spopEOFError then closeConnection
          else e)))
  | helloFails (s₁ : Conn) (frame : Frame) (size : ℕ) (hello : HaproxyHello) (e : Exc)
      (hmain : s.main = .handshake) (hc : s.mainCancelled = false)
      (htakes : s.Takes frame size s₁) (hpayload : frame.payload = .haproxyHello hello)
      (hfails : s.config.negotiateServerCompatibility hello.supportedVersions hello.maxFrameSize
        hello.capabilities = .error e) : Move s (.main .ok) (s₁.leave (some e))
  | greets (s₁ s' : Conn) (frame : Frame) (size : ℕ) (hello : HaproxyHello)
      (config : ServerConfiguration) (hmain : s.main = .handshake) (hc : s.mainCancelled = false)
      (htakes : s.Takes frame size s₁) (hpayload : frame.payload = .haproxyHello hello)
      (hconfig : s.config.negotiateServerCompatibility hello.supportedVersions hello.maxFrameSize
        hello.capabilities = .ok config) (hcompatible : config.serverCompatible = true)
      (hsends : Conn.Sends { s₁ with config := config } (agentHelloFrame config)
        (.greeting hello.healthcheck.truthy) s') : Move s (.main .ok) s'
  | incompatible (s₁ s' : Conn) (frame : Frame) (size : ℕ) (hello : HaproxyHello)
      (config : ServerConfiguration) (code : DisconnectCode) (message : Str)
      (hmain : s.main = .handshake) (hc : s.mainCancelled = false)
      (htakes : s.Takes frame size s₁) (hpayload : frame.payload = .haproxyHello hello)
      (hconfig : s.config.negotiateServerCompatibility hello.supportedVersions hello.maxFrameSize
        hello.capabilities = .ok config) (hcode : HandshakeDisconnect code message)
      (hsends : Conn.Sends { s₁ with config := config } (disconnectFrame code message)
        .refusing s') : Move s (.main .ok) s'
  | notHello (s₁ s' : Conn) (frame : Frame) (size : ℕ) (code : DisconnectCode) (message : Str)
      (hmain : s.main = .handshake) (hc : s.mainCancelled = false)
      (htakes : s.Takes frame size s₁) (hpayload : ∀ hello, frame.payload ≠ .haproxyHello hello)
      (hcode : HandshakeDisconnect code message)
      (hsends : Conn.Sends s₁ (disconnectFrame code message) .refusing s') : Move s (.main .ok) s'
  | dispatches (s₁ : Conn) (frame : Frame) (size : ℕ) (messages : Messages)
      (hmain : s.main = .reading) (hc : s.mainCancelled = false) (htakes : s.Takes frame size s₁)
      (hpayload : frame.payload = .notify messages) :
      Move s (.main .ok)
        { s₁ with tasks := s₁.tasks ++ [Task.new frame.metadata messages] }.acquire
  | replies (s₁ s' : Conn) (frame : Frame) (size : ℕ) (code : DisconnectCode) (message : Str)
      (hmain : s.main = .reading) (hc : s.mainCancelled = false) (htakes : s.Takes frame size s₁)
      (hpayload : ∀ messages, frame.payload ≠ .notify messages)
      (hreply : readReply frame.frameType = disconnectFrame code message)
      (hsends : Conn.Sends s₁ (disconnectFrame code message) .replying s') : Move s (.main .ok) s'
  | reports (s' : Conn) (io : Io) (exc : Option Exc) (hmain : s.main = .exiting exc)
      (hdone : ∀ t ∈ s.tasks, t.reported = true) (hreports : s.Reports (s.group exc) s') :
      Move s (.main io) s'
  | reportsNext (s' : Conn) (io : Io) (group : List Exc) (hmain : s.main = .reportingTooBig group)
      (hreports : s.ReportsProtocol group io.exc s') : Move s (.main io) s'
  | reported (io : Io) (group raised : List Exc) (hmain : s.main = .reportingProtocol group raised) :
      Move s (.main io) (s.finish group (raised ++ io.exc))
  | closes (io : Io) (hmain : s.main = .closing) : Move s (.main io) { s with main := .returned }
  | neverStarts (i : ℕ) (t : Task) (ht : s.tasks[i]? = some t) (hphase : t.phase = .created)
      (hc : t.cancelRequested = true) :
      Move s (.start i) (s.setTask i { t with phase := .cancelled, cancelRequested := false })
  | starts (i : ℕ) (t : Task) (ht : s.tasks[i]? = some t) (hphase : t.phase = .created)
      (hc : t.cancelRequested = false) :
      Move s (.start i) ((s.setTask i { t with phase := .running }).record (.invoked i))
  | goesOn (i : ℕ) (t : Task) (ht : s.tasks[i]? = some t) (hphase : t.phase = .running) :
      Move s (.handler i .pending) (s.setTask i { t with cancelRequested := false })
  | ackFails (i : ℕ) (t : Task) (actions : Option (List ActionObj)) (e : Exc)
      (ht : s.tasks[i]? = some t) (hphase : t.phase = .running)
      (hack : ackToSend s.writerClosing s.config.maxFrameSize t.metadata actions = .error e) :
      Move s (.handler i (.returned actions))
        ((s.record (.answered i actions)).endTask i t (.raised e))
  | ackSkipped (i : ℕ) (t : Task) (actions : Option (List ActionObj))
      (ht : s.tasks[i]? = some t) (hphase : t.phase = .running)
      (hack : ackToSend s.writerClosing s.config.maxFrameSize t.metadata actions = .ok none) :
      Move s (.handler i (.returned actions))
        ((s.record (.answered i actions)).endTask i t .returned)
  | acks (i : ℕ) (t : Task) (actions : Option (List ActionObj)) (frame : Frame) (bytes : Bytes)
      (ht : s.tasks[i]? = some t) (hphase : t.phase = .running)
      (hack : ackToSend s.writerClosing s.config.maxFrameSize t.metadata actions =
        .ok (some (frame, bytes))) :
      Move s (.handler i (.returned actions))
        (((s.record (.answered i actions)).setTask i
          { t with phase := .draining, cancelRequested := false }).record
            (.wrote (some i) frame bytes))
  | handlerRaises (i : ℕ) (t : Task) (e : Exc) (ht : s.tasks[i]? = some t)
      (hphase : t.phase = .running) : Move s (.handler i (.raised e)) (s.endTask i t (.raised e))
  | handlerCancelled (i : ℕ) (t : Task) (ht : s.tasks[i]? = some t) (hphase : t.phase = .running) :
      Move s (.handler i .cancelled) (s.endTask i t .cancelled)
  | drainCancelled (i : ℕ) (t : Task) (io : Io) (ht : s.tasks[i]? = some t)
      (hphase : t.phase = .draining) (hc : t.cancelRequested = true) :
      Move s (.drained i io) (s.endTask i t .cancelled)
  | drained (i : ℕ) (t : Task) (ht : s.tasks[i]? = some t) (hphase : t.phase = .draining)
      (hc : t.cancelRequested = false) : Move s (.drained i .ok) (s.endTask i t .returned)
  | drainBroken (i : ℕ) (t : Task) (text : Str) (ht : s.tasks[i]? = some t)
      (hphase : t.phase = .draining) (hc : t.cancelRequested = false) :
      Move s (.drained i (.broken text)) (s.endTask i t (.raised (connectionError text)))
  | failureSeen (i : ℕ) (t : Task) (e : Exc) (ht : s.tasks[i]? = some t)
      (hphase : t.phase = .raised e) (hnew : t.reported = false) (ha : s.aborting = false) :
      Move s (.done i) { { s.setTask i { t with reported := true } with
        errors := s.errors ++ [e] }.abort with mainCancelled := true }
  | failureAdded (i : ℕ) (t : Task) (e : Exc) (ht : s.tasks[i]? = some t)
      (hphase : t.phase = .raised e) (hnew : t.reported = false) (ha : s.aborting = true) :
      Move s (.done i) { s.setTask i { t with reported := true } with errors := s.errors ++ [e] }
  | endSeen (i : ℕ) (t : Task) (ht : s.tasks[i]? = some t)
      (hphase : t.phase = .returned ∨ t.phase = .cancelled) (hnew : t.reported = false) :
      Move s (.done i) (s.setTask i { t with reported := true })
  | lost : Move s .lost { s with writerClosing := true }

theorem Conn.receive_takes {s s₁ : Conn} {frame : Frame} (h : s.receive = (.ok frame, s₁)) :
    ∃ size, s.Takes frame size s₁ := by
  unfold Conn.receive at h
  split at h
  · cases h
  · rename_i f reader hd
    rw [Prod.mk.injEq, Except.ok.injEq] at h
    obtain ⟨rfl, rfl⟩ := h
    obtain ⟨len, body, mid, h4, -, hle, hb, hbody⟩ := Frame.decode_ok hd
    have l4 := StreamReader.readexactly_length h4
    have lb := StreamReader.readexactly_length hb
    have hsize : body.length = s.reader.buffer.length - reader.buffer.length - 4 := by omega
    exact ⟨_, reader, body, hd, hbody, hsize, hsize ▸ hle, rfl⟩

theorem Conn.receive_fails {s s₁ : Conn} {e : Exc} (h : s.receive = (.error e, s₁)) :
    ∃ reader, Frame.decode s.reader s.config.maxFrameSize = (.error e, reader) ∧
      s₁ = { s with reader := reader } := by
  unfold Conn.receive at h
  split at h
  · rename_i e' reader hd
    rw [Prod.mk.injEq, Except.error.injEq] at h
    obtain ⟨rfl, rfl⟩ := h
    exact ⟨reader, hd, rfl⟩
  · cases h

theorem Conn.handshakeStep_move {s : Conn} (hmain : s.main = .handshake)
    (hc : s.mainCancelled = false) : s.Move (.main .ok) s.handshakeStep := by
  unfold Conn.handshakeStep
  split
  · rename_i e s₁ hr
    obtain ⟨reader, hd, rfl⟩ := Conn.receive_fails hr
    have hmove := Conn.Move.decodeFails e reader (.inl hmain) hc hd
    have hnot : ¬(s.main = .reading ∧ e.cls = .spopEOFError) := by simp [hmain]
    rw [if_neg hnot] at hmove
    exact hmove
  · rename_i frame s₁ hr
    obtain ⟨size, ht⟩ := Conn.receive_takes hr
    have hconfig : s₁.config = s.config := by
      obtain ⟨_, _, -, -, -, -, rfl⟩ := ht
      rfl
    split
    · rename_i hello hp
      rw [hconfig]
      split
      · rename_i e he
        exact .helloFails s₁ frame size hello e hmain hc ht hp he
      · rename_i config hn
        dsimp only
        split
        · rename_i hcompat
          exact .greets s₁ _ frame size hello config hmain hc ht hp hn hcompat
            (Conn.bodySends_sends _ _ _)
        · exact .incompatible s₁ _ frame size hello config _ _ hmain hc ht hp hn .incompatible
            (Conn.bodySends_sends _ _ _)
    · rename_i hp
      exact .notHello s₁ _ frame size _ _ hmain hc ht (fun hello he => hp hello he)
        (.expectedHello frame.frameType) (Conn.bodySends_sends _ _ _)

theorem Conn.readStep_move {s : Conn} (hmain : s.main = .reading)
    (hc : s.mainCancelled = false) : s.Move (.main .ok) s.readStep := by
  unfold Conn.readStep
  split
  · rename_i e s₁ hr
    obtain ⟨reader, hd, rfl⟩ := Conn.receive_fails hr
    have hmove := Conn.Move.decodeFails e reader (.inr hmain) hc hd
    have hiff : (s.main = MainPhase.reading ∧ e.cls = ExcClass.spopEOFError) ↔
        e.cls = ExcClass.spopEOFError := and_iff_right hmain
    simp only [hiff] at hmove
    exact hmove
  · rename_i frame s₁ hr
    obtain ⟨size, ht⟩ := Conn.receive_takes hr
    split
    · rename_i p hp
      exact .replies s₁ _ frame size _ _ hmain hc ht (by simp [hp])
        (by rw [Frame.frameType, hp]; rfl) (Conn.bodySends_sends _ _ _)
    · rename_i p hp
      exact .replies s₁ _ frame size _ _ hmain hc ht (by simp [hp])
        (by rw [Frame.frameType, hp]; rfl) (Conn.bodySends_sends _ _ _)
    · rename_i messages hp
      exact .dispatches s₁ frame size messages hmain hc ht hp
    · rename_i hh ha hp
      refine .replies s₁ _ frame size _ _ hmain hc ht (fun messages he => hp messages he) ?_
        (Conn.bodySends_sends _ _ _)
      unfold readReply
      split
      · rename_i htype
        cases hpay : frame.payload <;> simp [Frame.frameType, Payload.frameType, hpay] at htype
        exact absurd hpay (hh _)
      · rename_i htype
        cases hpay : frame.payload <;> simp [Frame.frameType, Payload.frameType, hpay] at htype
        exact absurd hpay (ha _)
      · rfl

/-- An await of the body on the transport is cancelled, breaks, or goes on. -/
theorem Conn.bodyResumes_move {s next : Conn} {io : Io} (hmain : s.main.awaitsTransport = true)
    (hnext : s.mainCancelled = false → s.Move (.main .ok) next) :
    s.Move (.main io) (s.bodyResumes io next) := by
  unfold Conn.bodyResumes
  split
  · rename_i hc
    exact .cancelled io (.inl hmain) hc
  · rename_i hc
    have hc : s.mainCancelled = false := by simpa using hc
    cases io with
    | ok => exact hnext hc
    | broken text => exact .broken text hmain hc

theorem Conn.mainStep_move {s s' : Conn} {io : Io} (h : s.mainStep io = some s') :
    s.Move (.main io) s' := by
  unfold Conn.mainStep at h
  split at h
  · rename_i hmain
    cases h
    exact Conn.bodyResumes_move (by rw [hmain]; rfl) (Conn.handshakeStep_move hmain)
  · rename_i hmain
    cases h
    exact Conn.bodyResumes_move (by rw [hmain]; rfl) (.ends (.inl hmain))
  · rename_i healthcheck hmain
    cases h
    refine Conn.bodyResumes_move (by rw [hmain]; rfl) fun hc => ?_
    cases healthcheck with
    | true => exact .ends (.inr (.inr hmain)) hc
    | false =>
      rw [if_neg (by decide), Conn.serve]
      split
      · rename_i hlimit
        exact .noSemaphore hmain hc hlimit
      · rename_i hlimit
        exact .serves hmain hc (by omega)
  · rename_i hmain
    split at h
    · rename_i hc
      cases h
      exact .cancelled io (.inr hmain) hc
    · cases h
  · rename_i hmain
    split at h
    · rename_i hc
      cases h
      exact .slotReturned io hmain hc
    · rename_i hc
      cases h
      exact .reads io hmain (by simpa using hc)
  · rename_i hmain
    cases h
    exact Conn.bodyResumes_move (by rw [hmain]; rfl) (Conn.readStep_move hmain)
  · rename_i hmain
    cases h
    exact Conn.bodyResumes_move (by rw [hmain]; rfl) (.ends (.inr (.inl hmain)))
  · rename_i exc hmain
    split at h
    · rename_i hdone
      cases h
      exact .reports _ io exc hmain (List.all_eq_true.mp hdone) (s.tooBigClause_reports _)
    · cases h
  · rename_i group hmain
    cases h
    exact .reportsNext _ io group hmain (s.protocolClause_reports group io.exc)
  · rename_i group raised hmain
    cases h
    exact .reported io group raised hmain
  · rename_i hmain
    cases h
    exact .closes io hmain
  · cases h
  · cases h

theorem Conn.handlerStep_move {s : Conn} {i : ℕ} {t : Task} (ht : s.tasks[i]? = some t)
    (hphase : t.phase = .running) (outcome : Outcome) :
    s.Move (.handler i outcome) (s.handlerStep i t outcome) := by
  cases outcome with
  | pending => exact .goesOn i t ht hphase
  | raised e => exact .handlerRaises i t e ht hphase
  | cancelled => exact .handlerCancelled i t ht hphase
  | returned actions =>
    simp only [Conn.handlerStep, Conn.acknowledge]
    split
    · rename_i e he
      exact .ackFails i t actions e ht hphase he
    · rename_i he
      exact .ackSkipped i t actions ht hphase he
    · rename_i frame bytes he
      exact .acks i t actions frame bytes ht hphase he

theorem Conn.drainStep_move {s : Conn} {i : ℕ} {t : Task} (ht : s.tasks[i]? = some t)
    (hphase : t.phase = .draining) (io : Io) : s.Move (.drained i io) (s.drainStep i t io) := by
  unfold Conn.drainStep
  split
  · rename_i hc
    exact .drainCancelled i t io ht hphase hc
  · rename_i hc
    have hc : t.cancelRequested = false := by simpa using hc
    cases io with
    | ok => exact .drained i t ht hphase hc
    | broken text => exact .drainBroken i t text ht hphase hc

theorem Conn.doneStep_move {s : Conn} {i : ℕ} {t : Task} (ht : s.tasks[i]? = some t)
    (hended : t.phase.ended = true) (hnew : t.reported = false) :
    s.Move (.done i) (s.doneStep i t) := by
  obtain ⟨metadata, messages, phase, cancelRequested, reported⟩ := t
  cases phase with
  | raised e =>
    unfold Conn.doneStep
    dsimp only
    split
    · rename_i ha
      exact .failureAdded i _ e ht rfl hnew ha
    · rename_i ha
      have ha : s.aborting = false := by simpa [Conn.setTask] using ha
      exact .failureSeen i _ e ht rfl hnew ha
  | returned => exact .endSeen i _ ht (.inl rfl) hnew
  | cancelled => exact .endSeen i _ ht (.inr rfl) hnew
  | created => cases hended
  | running => cases hended
  | draining => cases hended

/-- Every step is one of the moves. -/
theorem Conn.step_move {s s' : Conn} {ev : Event} (h : s.step ev = some s') : s.Move ev s' := by
  cases ev with
  | main io => exact Conn.mainStep_move h
  | start i =>
    simp only [Conn.step] at h
    split at h
    · rename_i t ht
      split at h
      · rename_i hphase
        cases h
        unfold Conn.startTask
        split
        · rename_i hc
          exact .neverStarts i t ht hphase hc
        · rename_i hc
          exact .starts i t ht hphase (by simpa using hc)
      · cases h
    · cases h
  | handler i outcome =>
    simp only [Conn.step] at h
    split at h
    · rename_i t ht
      split at h
      · rename_i hphase
        cases h
        exact Conn.handlerStep_move ht hphase outcome
      · cases h
    · cases h
  | drained i io =>
    simp only [Conn.step] at h
    split at h
    · rename_i t ht
      split at h
      · rename_i hphase
        cases h
        exact Conn.drainStep_move ht hphase io
      · cases h
    · cases h
  | done i =>
    simp only [Conn.step] at h
    split at h
    · rename_i t ht
      split at h
      · rename_i hphase
        cases h
        exact Conn.doneStep_move ht hphase.1 hphase.2
      · cases h
    · cases h
  | lost =>
    cases h
    exact .lost

/-- The handler returns a list of well-typed actions, if the event is its return. -/
def Event.WellTyped : Event → Prop
  | .handler _ (.returned (some actions)) => ∀ a ∈ actions, a.WellTyped
  | .handler _ (.returned none) | .handler _ (.raised _) => False
  | _ => True

/-! ### Connections on given frames -/

/-- HAPROXY-HELLO that offers version 2.0, a size and capabilities. -/
def helloFrame (maxFrameSize : ℤ) (capabilities : List Str) : Frame :=
  Frame.construct 0 0
    (.haproxyHello ⟨[SPOE_VERSION], .int maxFrameSize, capabilities, .none, .bool false⟩)

def notifyFrame (streamId frameId : ℤ) : Frame := Frame.construct streamId frameId (.notify [])

def haproxyDisconnectFrame : Frame :=
  Frame.construct 0 0 (.haproxyDisconnect ⟨.int 0, .str (str "normal")⟩)

/-- A connection on which the peer sends `frames`. -/
def Conn.onFrames (m c : ℤ) (frames : List Frame) : Conn :=
  Conn.init m c ((extendAll (fun f => Frame.encode f 16384) frames).toOption.getD [])

/-- The connection after the events, if all are enabled. -/
def Conn.after (m c : ℤ) (frames : List Frame) (events : List Event) : Conn :=
  (run Conn.step (Conn.onFrames m c frames) events).getD (Conn.onFrames m c frames)

/-- A connection with pipelining: NOTIFY 1 of stream 7 in its handler, NOTIFY 2 still to be
read. -/
def Conn.pipelined : Conn :=
  Conn.after 16384 2 [helloFrame 16384 [PIPELINING], notifyFrame 7 1, notifyFrame 7 2]
    [.main .ok, .main .ok, .main .ok, .start 0]

theorem Conn.pipelined_reachable : Reaches Conn.step
    (Conn.onFrames 16384 2 [helloFrame 16384 [PIPELINING], notifyFrame 7 1, notifyFrame 7 2])
    Conn.pipelined :=
  ⟨[.main .ok, .main .ok, .main .ok, .start 0], by decide +kernel⟩

end SpoeForge
