import SpoeForge.Frame

/-!
# Buffer accesses (`spop/decoders`, `spop/frame.py`)

The functions that index a buffer, each with its own guard and index expressions as
they stand in the source: an index past the end is an `IndexError`. What they call is
taken from the modules before.
-/

namespace SpoeForge

def indexError : Exc := ⟨.exception, str "index out of range"⟩

/-- `buf[i]`. -/
def index (buf : Bytes) (i : ℕ) : Except Exc Byte :=
  match buf[i]? with
  | some b => .ok b
  | none => .error indexError

/-- `buf[-1]`. -/
def lastIndex (buf : Bytes) : Except Exc Byte :=
  match buf.getLast? with
  | some b => .ok b
  | none => .error indexError

namespace Indexed

/-- The `while True` loop of `_parse_varint`, `data_types.py:45-58`. -/
def varintLoop (buf : Bytes) (offset value shift : ℕ) : Except Exc (ℕ × ℕ) :=
  if h : offset + 1 ≥ buf.length then
    .error (decodeError (str "unexpected end of stream decoding varint"))
  else do
    let next ← index buf (offset + 1)
    if next.val < 128 then .ok (value + next.val <<< shift, offset + 1 + 1)
    else varintLoop buf (offset + 1) (value + next.val <<< shift) (shift + 7)
termination_by buf.length - offset

/-- `_parse_varint`, `data_types.py:16-58`. -/
def parseVarint : Dec ℕ := fun buf offset =>
  if offset ≥ buf.length then
    .error (decodeError (str "unexpected end of stream decoding varint"))
  else do
    let first ← index buf offset
    if first.val < 240 then .ok (first.val, offset + 1)
    else varintLoop buf offset first.val 4

/-- `decode_tiny_int`, `data_types.py:61-76`. -/
def decodeTinyInt : Dec ℕ := fun buf offset =>
  if offset ≥ buf.length then
    .error (decodeError (str "unexpected end of stream decoding tiny int"))
  else do
    let b ← index buf offset
    .ok (b.val, offset + 1)

/-- `decode_bool`, `data_types.py:136-153`. -/
def decodeBool : Dec Bool := fun buf offset =>
  if offset ≥ buf.length then
    .error (decodeError (str "unexpected end of stream decoding boolean"))
  else do
    let b ← index buf offset
    .ok (decide (b.val &&& FLAG_MASK = BOOL_TRUE), offset + 1)

/-- `auto_decode_var`, `data_types.py:225-281`. -/
def autoDecodeVar : Dec Value := fun buf offset =>
  if buf.length < offset + 1 then
    .error (decodeError (str "unexpected end of stream reading data type"))
  else do
    let b ← index buf offset
    let valType := b.val &&& TYPE_MASK
    match DataType.ofValue valType with
    | none => .error (decodeError (str "unknown data type " ++ natText valType))
    | some t => decodeByType t buf (offset + 1)

/-- `decode_metadata`, `payloads.py:38-77`. -/
def decodeMetadata : Dec MetaData := fun buf offset =>
  if offset + 4 > buf.length then
    .error (decodeError (str "unexpected end of stream decoding metadata"))
  else do
    let last ← lastIndex (slice buf offset (offset + 4))
    let flags : Flags := ⟨decide (last.val &&& FLAG_FIN = FLAG_FIN),
      decide (last.val &&& FLAG_ABORT = FLAG_ABORT)⟩
    let (streamId, offset) ← reraise (str "error decoding stream_id in metadata: ")
      (decodeInt64 buf (offset + 4))
    let (frameId, offset) ← reraise (str "error decoding frame_id in metadata: ")
      (decodeInt64 buf offset)
    .ok (⟨flags, streamId, frameId⟩, offset)

/-- One turn of the loop of `decode_list_of_actions`, `payloads.py:167-219`. -/
def decodeAction : Dec ActionObj := fun buf offset =>
  if offset + 3 > buf.length then
    .error (decodeError (str "unexpected end of stream decoding action header"))
  else do
    let a ← index buf offset
    match ActionType.ofValue a.val with
    | none => .error (decodeError (str "invalid action type: " ++ natText a.val))
    | some action => do
      let nbArgs ← index buf (offset + 1)
      let s ← index buf (offset + 2)
      match ActionScope.ofValue s.val with
      | none => .error (decodeError (str "invalid action scope: " ++ natText s.val))
      | some scope => decodeActionArgs action nbArgs.val scope buf (offset + 3)

/-- `Frame.decode` on a complete frame body, `frame.py:170-213`. -/
def decodeBody (frameBuf : Bytes) : Except Exc Frame :=
  if frameBuf.length < 1 then
    .error (decodeError (str "unexpected end of stream identifying frame type"))
  else do
    let b ← index frameBuf 0
    match FrameType.ofValue b.val with
    | none => .error (decodeError (str "invalid frame type: " ++ natText b.val))
    | some t => do
      let (metadata, offset) ← SpoeForge.decodeMetadata frameBuf 1
      let (payload, offset) ← missingKey t (decodePayload t frameBuf offset frameBuf.length)
      if offset ≠ frameBuf.length then
        .error (decodeError (str "frame offset " ++ natText offset ++
          str " does not match frame length " ++ natText frameBuf.length ++
          str " - did not consume all bytes"))
      else .ok ⟨metadata, payload⟩

end Indexed

end SpoeForge
