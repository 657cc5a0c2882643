import SpoeForge.Encoders.Payloads
import SpoeForge.Decoders.Payloads

/-!
# Frames (`spop/frame.py`)

The class of a frame is the constructor of its payload; `Disconnect` is registered
for two frame types and has two. Fields that a decoder takes from a key-value list
are `Value`s, since nothing checks their types.
-/

namespace SpoeForge

open Fallible

/-! ### Comma-separated lists -/

/-- `Frame.to_spop_list`, `frame.py:294-302`. -/
def toSpopList (items : List Str) : Str := join ',' (items.map strip)

/-- `Frame.from_spop_list`, `frame.py:304-312`. -/
def fromSpopList (items : Str) : List Str :=
  (items.splitOn ',').filterMap fun item =>
    let it := strip item
    if it.isEmpty then none else some it

/-- `Frame.from_spop_list` on a value that need not be a string. -/
def fromSpopListValue : Value → Except Exc (List Str)
  | .str s => .ok (fromSpopList s)
  | .bytes _ => .error ⟨.typeError, str "a bytes-like object is required, not 'str'"⟩
  | v => .error ⟨.attributeError, str "'" ++ v.typeName ++ str "' object has no attribute 'split'"⟩

/-! ### Payloads -/

/-- `frame.py:316-335`; an absent `engine_id` is `None`. -/
structure HaproxyHello where
  supportedVersions : List Str
  maxFrameSize : Value
  capabilities : List Str
  engineId : Value
  healthcheck : Value
  deriving DecidableEq, Repr

/-- `frame.py:374-388`. -/
structure AgentHello where
  version : Value
  maxFrameSize : Value
  capabilities : List Str
  deriving DecidableEq, Repr

/-- `frame.py:419-432`. -/
structure Disconnect where
  statusCode : Value
  message : Value
  deriving DecidableEq, Repr

/-- The frame classes; `actions` is `None` or a list. -/
inductive Payload where
  | haproxyHello (p : HaproxyHello)
  | agentHello (p : AgentHello)
  | haproxyDisconnect (p : Disconnect)
  | agentDisconnect (p : Disconnect)
  | notify (messages : Messages)
  | ack (actions : Option (List ActionObj))
  deriving DecidableEq, Repr

def Payload.frameType : Payload → FrameType
  | .haproxyHello _ => .haproxyHello
  | .agentHello _ => .agentHello
  | .haproxyDisconnect _ => .haproxyDisconnect
  | .agentDisconnect _ => .agentDisconnect
  | .notify _ => .notify
  | .ack _ => .ack

structure Frame where
  metadata : MetaData
  payload : Payload
  deriving DecidableEq, Repr

def Frame.frameType (f : Frame) : FrameType := f.payload.frameType

/-! ### Keys of the key-value payloads -/

def keySupportedVersions : Str := str "supported-versions"
def keyMaxFrameSize : Str := str "max-frame-size"
def keyCapabilities : Str := str "capabilities"
def keyHealthcheck : Str := str "healthcheck"
def keyEngineId : Str := str "engine-id"
def keyVersion : Str := str "version"
def keyStatusCode : Str := str "status-code"
def keyMessage : Str := str "message"

/-- `payload[key]`. -/
def getItem (payload : Dict Str Value) (key : Str) : Except Exc Value :=
  match payload.get? key with
  | some v => .ok v
  | none => .error ⟨.keyError, str "'" ++ key ++ str "'"⟩

/-! ### Encoding -/

/-- `HaproxyHello.encode_payload`, `frame.py:337-348`. -/
def HaproxyHello.toDict (p : HaproxyHello) : Dict Str Value :=
  let payload := Dict.ofPairs
    [(keySupportedVersions, .str (toSpopList p.supportedVersions)),
     (keyMaxFrameSize, p.maxFrameSize),
     (keyCapabilities, .str (toSpopList p.capabilities)),
     (keyHealthcheck, p.healthcheck)]
  if p.engineId = .none then payload else payload.set keyEngineId p.engineId

/-- `AgentHello.encode_payload`, `frame.py:390-397`. -/
def AgentHello.toDict (p : AgentHello) : Dict Str Value :=
  Dict.ofPairs
    [(keyVersion, p.version),
     (keyMaxFrameSize, p.maxFrameSize),
     (keyCapabilities, .str (toSpopList p.capabilities))]

/-- `Disconnect.encode_payload`, `frame.py:434-440`. -/
def Disconnect.toDict (p : Disconnect) : Dict Str Value :=
  Dict.ofPairs [(keyStatusCode, p.statusCode), (keyMessage, p.message)]

/-- `encode_payload` of the frame classes. -/
def Payload.encode : Payload → Except Exc Bytes
  | .haproxyHello p => encodeKvList p.toDict
  | .agentHello p => encodeKvList p.toDict
  | .haproxyDisconnect p => encodeKvList p.toDict
  | .agentDisconnect p => encodeKvList p.toDict
  | .notify messages => encodeMessageList messages
  | .ack none => .ok []
  | .ack (some actions) => encodeActionList actions

/-- The frame without its length prefix, `frame.py:103-107`. -/
def Frame.body (f : Frame) : Except Exc Bytes := do
  let frameType ← encodeTinyInt f.frameType.value
  let metadata ← encodeMetadata f.metadata
  let payload ← f.payload.encode
  .ok (frameType ++ metadata ++ payload)

/-- `f"Frame size {frame_len} exceeds maximum size {max_frame_size}"` as an exception. -/
def tooBig {α : Type} (frameLen : ℕ) (maxFrameSize : ℤ) : Except Exc α := do
  let limit ← intStr maxFrameSize
  .error (frameTooBig
    (str "Frame size " ++ natText frameLen ++ str " exceeds maximum size " ++ limit))

/-- `Frame.encode`, `frame.py:93-121`; the last log line formats the limit. -/
def Frame.encode (f : Frame) (maxFrameSize : ℤ) : Except Exc Bytes := do
  let out ← f.body
  let length ← encodeFrameLen out.length
  if (out.length : ℤ) > maxFrameSize then tooBig out.length maxFrameSize
  else do
    let _ ← intStr maxFrameSize
    .ok (length ++ out)

/-! ### Decoding -/

/-- `HaproxyHello.decode_payload` after its key-value list, `frame.py:355-361`. -/
def HaproxyHello.ofDict (payload : Dict Str Value) : Except Exc HaproxyHello := do
  let versions ← getItem payload keySupportedVersions
  let supportedVersions ← fromSpopListValue versions
  let maxFrameSize ← getItem payload keyMaxFrameSize
  let caps ← getItem payload keyCapabilities
  let capabilities ← fromSpopListValue caps
  .ok ⟨supportedVersions, maxFrameSize, capabilities, (payload.get? keyEngineId).getD .none,
    (payload.get? keyHealthcheck).getD (.bool false)⟩

/-- `AgentHello.decode_payload` after its key-value list, `frame.py:404-408`. -/
def AgentHello.ofDict (payload : Dict Str Value) : Except Exc AgentHello := do
  let version ← getItem payload keyVersion
  let maxFrameSize ← getItem payload keyMaxFrameSize
  let caps ← getItem payload keyCapabilities
  let capabilities ← fromSpopListValue caps
  .ok ⟨version, maxFrameSize, capabilities⟩

/-- `Disconnect.decode_payload` after its key-value list, `frame.py:447-450`. -/
def Disconnect.ofDict (payload : Dict Str Value) : Except Exc Disconnect := do
  let statusCode ← getItem payload keyStatusCode
  let message ← getItem payload keyMessage
  .ok ⟨statusCode, message⟩

/-- `decode_payload` of the three classes whose payload is a key-value list. -/
def decodeKvPayload {α : Type} (ofDict : Dict Str Value → Except Exc α) (wrap : α → Payload)
    (buf : Bytes) (offset stop : ℕ) : Except Exc (Payload × ℕ) := do
  let (payload, offset) ← decodeKvList buf offset stop
  let p ← ofDict payload
  .ok (wrap p, offset)

/-- `get_frame_class(frame_type)(...).decode_payload`, `frame.py:85-91` and `193-197`. -/
def decodePayload (t : FrameType) (buf : Bytes) (offset stop : ℕ) : Except Exc (Payload × ℕ) :=
  match t with
  | .unset => .error (decodeError (str "Unknown frame type " ++ natText t.value))
  | .haproxyHello => decodeKvPayload HaproxyHello.ofDict .haproxyHello buf offset stop
  | .agentHello => decodeKvPayload AgentHello.ofDict .agentHello buf offset stop
  | .haproxyDisconnect => decodeKvPayload Disconnect.ofDict .haproxyDisconnect buf offset stop
  | .agentDisconnect => decodeKvPayload Disconnect.ofDict .agentDisconnect buf offset stop
  | .notify => do
    let (messages, offset) ← decodeListOfMessages buf offset stop
    .ok (.notify messages, offset)
  | .ack => do
    let (actions, offset) ← decodeListOfActions buf offset stop
    .ok (.ack (some actions), offset)

/-- `except KeyError as e: raise SpopDecodeError(...)`, `frame.py:198-201`. -/
def missingKey {α : Type} (t : FrameType) : Except Exc α → Except Exc α
  | .ok a => .ok a
  | .error e =>
    if e.cls = .keyError then
      .error (decodeError (str "Not all expected k,v pairs found in " ++ t.name ++
        str " payload: " ++ e.text))
    else .error e

/-- `Frame.decode` on a complete frame body, `frame.py:170-213`. -/
def decodeBody (frameBuf : Bytes) : Except Exc Frame :=
  match frameBuf[0]? with
  | none => .error (decodeError (str "unexpected end of stream identifying frame type"))
  | some b =>
    match FrameType.ofValue b.val with
    | none => .error (decodeError (str "invalid frame type: " ++ natText b.val))
    | some t => do
      let (metadata, offset) ← decodeMetadata frameBuf 1
      let (payload, offset) ← missingKey t (decodePayload t frameBuf offset frameBuf.length)
      if offset ≠ frameBuf.length then
        .error (decodeError (str "frame offset " ++ natText offset ++
          str " does not match frame length " ++ natText frameBuf.length ++
          str " - did not consume all bytes"))
      else .ok ⟨metadata, payload⟩

/-- The stream reader: the bytes the peer sends from here on, then end of file. -/
structure StreamReader where
  buffer : Bytes
  deriving DecidableEq, Repr

/-- `reader.readexactly(n)`; `none` is `IncompleteReadError`, which takes what was left. -/
def StreamReader.readexactly (r : StreamReader) (n : ℕ) : Option Bytes × StreamReader :=
  if r.buffer.length < n then (none, ⟨[]⟩) else (some (r.buffer.take n), ⟨r.buffer.drop n⟩)

/-- `reader.at_eof()`. -/
def StreamReader.atEof (r : StreamReader) : Bool := r.buffer.isEmpty

/-- `Frame.decode`, `frame.py:123-213`: the frame or the exception, and the reader after. -/
def Frame.decode (reader : StreamReader) (maxFrameSize : ℤ) : Except Exc Frame × StreamReader :=
  match reader.readexactly 4 with
  | (none, reader) =>
    if reader.atEof then (.error ⟨.spopEOFError, []⟩, reader)
    else (.error (decodeError
      (str "unexpected end of stream reached while decoding frame length")), reader)
  | (some lenBuf, reader) =>
    match decodeFrameLen lenBuf with
    | .error e => (.error e, reader)
    | .ok frameLen =>
      if (frameLen : ℤ) > maxFrameSize then (tooBig frameLen maxFrameSize, reader)
      else
        match reader.readexactly frameLen with
        | (none, reader) =>
          (.error (decodeError (str "unexpected end of stream reached while decoding frame")),
            reader)
        | (some frameBuf, reader) => (decodeBody frameBuf, reader)

/-! ### Constructing -/

/-- `Frame.construct`, `frame.py:215-255`: FIN is set and ABORT is not. -/
def Frame.construct (streamId frameId : ℤ) (payload : Payload) : Frame :=
  ⟨⟨⟨true, false⟩, streamId, frameId⟩, payload⟩

end SpoeForge
