import SpoeForge.Server.Steps

/-!
# The serial loop

The loop that a connection without pipelining is said to be: read a frame; if it is a NOTIFY
run the handler and send its ACK before reading on, else reply with a disconnect and stop. It is
stated on its own, with one call in progress in place of tasks and slots; what is done before
and after the loop (the except* clauses) is shared.
-/

namespace SpoeForge

open Fallible Runs

/-! ### The serial machine -/

/-- The NOTIFY in progress: before its handler, in it, or draining its ACK. -/
structure Call where
  metadata : MetaData
  phase : TaskPhase
  deriving DecidableEq, Repr

/-- The connection, without tasks; `index` counts the NOTIFYs done. -/
structure Serial where
  conn : Conn
  index : ℕ
  call : Option Call
  deriving DecidableEq, Repr

inductive SerialEvent where
  /-- the connection reads, or ends an await on the transport -/
  | main (io : Io)
  /-- the handler of the NOTIFY read is called -/
  | call
  | handler (outcome : Outcome)
  /-- the drain of the ACK ends -/
  | drained (io : Io)
  /-- the transport starts closing -/
  | lost
  deriving DecidableEq, Repr

/-- The call is over and the next frame is read. -/
def Serial.next (t : Serial) : Serial := { t with index := t.index + 1, call := none }

/-- The loop ends with an exception, `none` for a cancellation. -/
def Serial.stop (t : Serial) (exc : Option Exc) : Serial :=
  { t with conn := t.conn.leave exc, call := none }

/-- Reply with a disconnect; the loop stops once it is drained. -/
def Serial.reply (t : Serial) (code : DisconnectCode) (message : Str) : Serial :=
  match encodeToSend t.conn.writerClosing t.conn.config.maxFrameSize
      (disconnectFrame code message) with
  | .error e => t.stop (some e)
  | .ok none => t.stop (some closeConnection)
  | .ok (some (frame, bytes)) =>
    { t with conn := { t.conn.record (.wrote none frame bytes) with main := .replying } }

/-- Read a frame. -/
def Serial.readStep (t : Serial) : Serial :=
  match t.conn.receive with
  | (.error e, conn) =>
    { t with conn := conn }.stop
      (some (if e.cls = ExcClass.spopEOFError then closeConnection else e))
  | (.ok frame, conn) =>
    let t := { t with conn := conn }
    match frame.payload with
    | .notify _ => { t with call := some ⟨frame.metadata, .created⟩ }
    | .haproxyDisconnect _ | .agentDisconnect _ => t.reply .normal (str "Disconnecting normally")
    | _ => t.reply .invalidFrameReceived
        ((str "Expected NOTIFY or HAPROXY_DISCONNECT, received " ++ frame.frameType.name).take
          DISCONNECT_MESSAGE_MAX_LENGTH)

/-- The handler returns: send the ACK. -/
def Serial.acknowledge (t : Serial) (md : MetaData) (actions : Option (List ActionObj)) :
    Serial :=
  match ackToSend t.conn.writerClosing t.conn.config.maxFrameSize md actions with
  | .error e => t.stop (some e)
  | .ok none => t.next
  | .ok (some (frame, bytes)) =>
    { t with
      conn := t.conn.record (.wrote (some t.index) frame bytes)
      call := some ⟨md, .draining⟩ }

def Serial.handlerStep (t : Serial) (md : MetaData) : Outcome → Serial
  | .pending => t
  | .returned actions =>
    { t with conn := t.conn.record (.answered t.index actions) }.acknowledge md actions
  | .raised e => t.stop (some e)
  | .cancelled => t.stop none

def Serial.drainStep (t : Serial) : Io → Serial
  | .ok => t.next
  | .broken text => t.stop (some (connectionError text))

def Serial.mainStep (t : Serial) (io : Io) : Option Serial :=
  match t.call with
  | some _ => none
  | none =>
    match t.conn.main, io with
    | .reading, .ok => some t.readStep
    | .replying, .ok => some (t.stop (some closeConnection))
    | .reading, .broken text | .replying, .broken text =>
      some (t.stop (some (connectionError text)))
    -- past the loop
    | _, _ => (t.conn.mainStep io).map fun conn => { t with conn := conn }

def Serial.step (t : Serial) : SerialEvent → Option Serial
  | .main io => t.mainStep io
  | .call =>
    match t.call with
    | some ⟨md, .created⟩ =>
      some { t with conn := t.conn.record (.invoked t.index), call := some ⟨md, .running⟩ }
    | _ => none
  | .handler outcome =>
    match t.call with
    | some ⟨md, .running⟩ => some (t.handlerStep md outcome)
    | _ => none
  | .drained io =>
    match t.call with
    | some ⟨_, .draining⟩ => some (t.drainStep io)
    | _ => none
  | .lost => some { t with conn := { t.conn with writerClosing := true } }

/-! ### What is observed of a connection -/

def Entry.isReleased : Entry → Bool
  | .released _ => true
  | _ => false

/-- The exception that the task has raised. -/
def Task.failure? (t : Task) : Option Exc :=
  match t.phase with
  | .raised e => some e
  | _ => none

/-- Where the connection is said to be: waiting for a slot is reading on, and the failure of a
task ends the loop. -/
def Conn.standing (s : Conn) : MainPhase :=
  match s.main with
  | .acquiring | .granted | .reading =>
    (s.tasks.findSome? Task.failure?).elim .reading fun e => .exiting (some e)
  | .exiting exc => .exiting (s.group exc).head?
  | main => main

/-- The connection at `main`, without tasks and slots. -/
def Conn.alone (s : Conn) (main : MainPhase) : Conn :=
  { config := s.config
    reader := s.reader
    writerClosing := s.writerClosing
    log := s.log.filter fun e => !e.isReleased
    main := main
    mainCancelled := false
    aborting := main.left
    tasks := []
    errors := []
    slots := 0 }

def Conn.observed (s : Conn) : Conn := s.alone s.standing

/-- The serial loop where the read loop of `s` starts. -/
def Serial.start (s : Conn) : Serial := ⟨s.observed, 0, none⟩

section Alone

variable (s : Conn) (main : MainPhase)

theorem Conn.alone_congr {s s' : Conn} (hconfig : s'.config = s.config)
    (hreader : s'.reader = s.reader) (hclosing : s'.writerClosing = s.writerClosing)
    (hlog : s'.log.filter (fun e => !e.isReleased) = s.log.filter fun e => !e.isReleased) :
    s'.alone main = s.alone main := by
  simp only [Conn.alone, hconfig, hreader, hclosing, hlog]

theorem Conn.alone_record {e : Entry} (he : e.isReleased = false) :
    (s.record e).alone main = (s.alone main).record e := by
  simp [Conn.alone, Conn.record, he]

@[simp] theorem Conn.leave_alone (exc : Option Exc) : (s.leave exc).alone main = s.alone main :=
  Conn.alone_congr main (by simp) (by simp) (by simp) (by simp)

theorem Conn.alone_leave (exc : Option Exc) : (s.alone main).leave exc = s.alone (.exiting exc) := by
  unfold Conn.leave
  split
  · rename_i h
    have hleft : main.left = true := h
    simp only [Conn.alone, hleft]
    rfl
  · rfl

theorem Conn.alone_goes {main' : MainPhase} (h : main'.left = main.left) :
    { s.alone main with main := main' } = s.alone main' := by
  simp only [Conn.alone, h]

theorem Conn.alone_receive :
    (s.alone main).receive = (s.receive.1, s.receive.2.alone main) := by
  have hconfig : (s.alone main).config = s.config := rfl
  have hreader : (s.alone main).reader = s.reader := rfl
  unfold Conn.receive
  rw [hconfig, hreader]
  split
  · rfl
  · simp [Conn.alone, Conn.record, Entry.isReleased]

theorem Conn.alone_sendFrame (source : Option ℕ) (frame : Frame) :
    (s.alone main).sendFrame source frame =
      (s.sendFrame source frame).map fun sent => sent.map fun s => s.alone main := by
  have hclosing : (s.alone main).writerClosing = s.writerClosing := rfl
  have hconfig : (s.alone main).config = s.config := rfl
  unfold Conn.sendFrame
  rw [hclosing, hconfig]
  cases encodeToSend s.writerClosing s.config.maxFrameSize frame with
  | error e => rfl
  | ok sent =>
    cases sent with
    | none => rfl
    | some p => simp [Except.map, s.alone_record main (e := .wrote source p.1 p.2) rfl]

end Alone

/-! ### The read loop without tasks -/

section Observed

variable (s : Conn)

theorem Conn.observed_eq {s : Conn} {main : MainPhase} (h : s.standing = main) :
    s.observed = s.alone main := by rw [Conn.observed, h]

theorem Conn.standing_of_left {s : Conn} (hleft : s.main.left = true)
    (hexiting : ∀ exc, s.main ≠ .exiting exc) : s.standing = s.main := by
  unfold Conn.standing
  split
  · rename_i hm
    rw [hm] at hleft
    cases hleft
  · rename_i hm
    rw [hm] at hleft
    cases hleft
  · rename_i hm
    rw [hm] at hleft
    cases hleft
  · rename_i exc hm
    exact absurd hm (hexiting exc)
  · rfl

theorem Conn.observed_leave (herrors : s.errors = []) (exc : Option Exc) :
    (s.leave exc).observed = s.alone (.exiting exc) := by
  have hstanding : (s.leave exc).standing = .exiting exc := by
    cases exc <;> simp [Conn.standing, Conn.group, herrors]
  rw [Conn.observed_eq hstanding, Conn.leave_alone]

theorem Conn.alone_bodySends {s : Conn} (herrors : s.errors = []) (frame : Frame) :
    (s.alone .reading).bodySends ((s.alone .reading).sendFrame none frame) .replying =
      (s.bodySends (s.sendFrame none frame) .replying).observed := by
  rw [Conn.alone_sendFrame]
  cases s.sendFrame none frame with
  | error e =>
    simp only [Conn.bodySends, Except.map]
    rw [s.observed_leave herrors, Conn.alone_leave]
  | ok sent =>
    cases sent with
    | none =>
      simp only [Conn.bodySends, Except.map, Option.map_none]
      rw [s.observed_leave herrors, Conn.alone_leave]
    | some s₁ => rfl

theorem Conn.receive_errors {s s₁ : Conn} {result : Except Exc Frame}
    (h : s.receive = (result, s₁)) : s₁.errors = s.errors := by
  unfold Conn.receive at h
  split at h <;> (cases h; rfl)

theorem Conn.alone_readStep {s : Conn} (herrors : s.errors = [])
    (h : ∀ frame s₁ messages, s.receive = (.ok frame, s₁) → frame.payload ≠ .notify messages) :
    (s.alone .reading).readStep = s.readStep.observed := by
  unfold Conn.readStep
  rw [s.alone_receive]
  rcases hr : s.receive with ⟨e | frame, s₁⟩
  · simp only
    rw [s₁.observed_leave ((Conn.receive_errors hr).trans herrors), Conn.alone_leave]
  · have herrors₁ := (Conn.receive_errors hr).trans herrors
    simp only
    split
    · exact Conn.alone_bodySends herrors₁ _
    · exact Conn.alone_bodySends herrors₁ _
    · rename_i messages hp
      exact absurd hp (h frame s₁ messages hr)
    · exact Conn.alone_bodySends herrors₁ _

/-! ### The except* clauses without tasks -/

theorem Conn.alone_finish {s : Conn} {main : MainPhase} (hleft : main.left = true)
    (group raised : List Exc) :
    (s.alone main).finish group raised = (s.finish group raised).observed := by
  unfold Conn.finish
  split
  · simp only [Conn.alone, hleft]
    rfl
  · simp only [Conn.alone, hleft]
    rfl

theorem Conn.alone_protocolClause {s : Conn} {main : MainPhase} (hleft : main.left = true)
    (group raised : List Exc) :
    (s.alone main).protocolClause group raised = (s.protocolClause group raised).observed := by
  unfold Conn.protocolClause
  split
  · exact Conn.alone_finish hleft group raised
  · rename_i e he
    simp only [Conn.sendDisconnectOnError, Conn.sendDisconnect, Conn.alone_sendFrame]
    rcases s.sendFrame none (disconnectFrame .protocolError
      (e.text.take DISCONNECT_MESSAGE_MAX_LENGTH)) with x | (_ | s₁)
    · exact Conn.alone_finish hleft _ _
    · exact Conn.alone_finish hleft _ _
    · exact s₁.alone_goes main (by rw [hleft]; rfl)

theorem Conn.alone_tooBigClause {s : Conn} {main : MainPhase} (hleft : main.left = true)
    (group : List Exc) :
    (s.alone main).tooBigClause group = (s.tooBigClause group).observed := by
  unfold Conn.tooBigClause
  split
  · exact Conn.alone_protocolClause hleft group []
  · rename_i e he
    simp only [Conn.sendDisconnectOnError, Conn.sendDisconnect, Conn.alone_sendFrame]
    rcases s.sendFrame none (disconnectFrame .frameTooBig
      (e.text.take DISCONNECT_MESSAGE_MAX_LENGTH)) with x | (_ | s₁)
    · exact Conn.alone_protocolClause hleft _ _
    · exact Conn.alone_protocolClause hleft _ _
    · exact s₁.alone_goes main (by rw [hleft]; rfl)

theorem Conn.observed_mainStep {s : Conn} (io : Io) (hleft : s.main.left = true)
    (htasks : s.tasks.all Task.reported = true)
    (hgroup : ∀ exc, s.main = .exiting exc → (s.group exc).head?.toList = s.group exc) :
    s.observed.mainStep io = (s.mainStep io).map Conn.observed := by
  unfold Conn.mainStep
  cases hm : s.main with
  | exiting exc =>
    have hstanding : s.standing = .exiting (s.group exc).head? := by simp only [Conn.standing, hm]
    rw [Conn.observed_eq hstanding]
    have hmain : (s.alone (.exiting (s.group exc).head?)).main = .exiting (s.group exc).head? := rfl
    have hnone : (s.alone (.exiting (s.group exc).head?)).tasks.all Task.reported = true := rfl
    have hexc : (s.alone (.exiting (s.group exc).head?)).group (s.group exc).head? = s.group exc :=
      hgroup exc hm
    have h : (s.alone (.exiting (s.group exc).head?)).tooBigClause (s.group exc) =
        (s.tooBigClause (s.group exc)).observed := Conn.alone_tooBigClause rfl (s.group exc)
    simp only [hmain, hnone, htasks, if_true, Option.map_some, hexc, h]
  | reportingTooBig group =>
    rw [Conn.observed_eq (Conn.standing_of_left hleft (by simp [hm])), hm]
    exact congrArg some (Conn.alone_protocolClause rfl group io.exc)
  | reportingProtocol group raised =>
    rw [Conn.observed_eq (Conn.standing_of_left hleft (by simp [hm])), hm]
    exact congrArg some (Conn.alone_finish rfl group (raised ++ io.exc))
  | closing =>
    rw [Conn.observed_eq (Conn.standing_of_left hleft (by simp [hm])), hm]
    rfl
  | returned =>
    rw [Conn.observed_eq (Conn.standing_of_left hleft (by simp [hm])), hm]
    rfl
  | failed group =>
    rw [Conn.observed_eq (Conn.standing_of_left hleft (by simp [hm])), hm]
    rfl
  | _ =>
    rw [hm] at hleft
    cases hleft

end Observed

end SpoeForge
