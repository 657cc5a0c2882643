import SpoeForge.Configuration

/-!
# Acknowledging a NOTIFY (`server/handler.py:62-80` and `169-250`)

The part of `ForgeHandler` that runs between two awaits: encoding a frame to send,
and building the ACK of a NOTIFY from what its handler returned.
-/

namespace SpoeForge

/-- What `send_frame` hands to `writer.write`, `handler.py:71-77`: `none` when the writer
is closing, else the frame with its bytes. -/
def encodeToSend (closing : Bool) (maxFrameSize : ℤ) (frame : Frame) :
    Except Exc (Option (Frame × Bytes)) :=
  if closing then .ok none
  else do
    let bytes ← frame.encode maxFrameSize
    .ok (some (frame, bytes))

/-- The ACK of a NOTIFY, `handler.py:188-193`. -/
def ackFrame (metadata : MetaData) (actions : Option (List ActionObj)) : Frame :=
  Frame.construct metadata.streamId metadata.frameId (.ack actions)

/-- `f"{action.name!r}"`. -/
def nameCheck : ActionObj → Except Exc Unit
  | .setVar action => reprCheck action.name
  | .unsetVar action => reprCheck action.name
  | .other _ name => do
    let name ← name
    reprCheck name

/-- The `for` loop of `_salvaged_ack`, `handler.py:229-243`. -/
def salvageLoop (budget : ℤ) : List ActionObj → List ActionObj → ℕ →
    Except Exc (List ActionObj)
  | [], salvaged, _ => .ok salvaged
  | action :: rest, salvaged, used =>
    match encodeActionList [action] with
    | .error e =>
      if e.cls = .spopEncodeError then do
        nameCheck action
        salvageLoop budget rest salvaged used
      else .error e
    | .ok encoded =>
      if ((used + encoded.length : ℕ) : ℤ) > budget then do
        nameCheck action
        salvageLoop budget rest salvaged used
      else salvageLoop budget rest (salvaged ++ [action]) (used + encoded.length)

/-- `_salvaged_ack`, `handler.py:206-250`. -/
def salvagedAck (maxFrameSize : ℤ) (metadata : MetaData) (actions : Option (List ActionObj)) :
    Except Exc Frame := do
  let emptyAck ← (ackFrame metadata (some [])).encode maxFrameSize
  let budget := maxFrameSize - ((emptyAck.length : ℤ) - 4)
  match actions with
  | none => .error ⟨.typeError, str "'NoneType' object is not iterable"⟩
  | some actions => do
    let salvaged ← salvageLoop budget actions [] 0
    .ok (ackFrame metadata (some salvaged))

/-- `_process_notify` from the handler's return to the await of `drain`,
`handler.py:188-202`. -/
def ackToSend (closing : Bool) (maxFrameSize : ℤ) (metadata : MetaData)
    (actions : Option (List ActionObj)) : Except Exc (Option (Frame × Bytes)) :=
  match encodeToSend closing maxFrameSize (ackFrame metadata actions) with
  | .ok sent => .ok sent
  | .error e =>
    if e.cls = .spopEncodeError ∨ e.cls = .spopFrameTooBigError then do
      let ack ← salvagedAck maxFrameSize metadata actions
      encodeToSend closing maxFrameSize ack
    else .error e

/-- The frame of `send_disconnect`, `handler.py:90-96`. -/
def disconnectFrame (statusCode : DisconnectCode) (message : Str) : Frame :=
  Frame.construct 0 0 (.agentDisconnect ⟨.int statusCode.value, .str message⟩)

/-- The AGENT-HELLO of the handshake, `handler.py:145-152`. -/
def agentHelloFrame (config : ServerConfiguration) : Frame :=
  Frame.construct 0 0
    (.agentHello ⟨.str config.version, .int config.maxFrameSize, config.capabilities⟩)

end SpoeForge
