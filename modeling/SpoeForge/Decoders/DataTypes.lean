import SpoeForge.SpopTypes
import SpoeForge.Library.OffsetReader

/-!
# Decoders of data types (`spop/decoders/data_types.py`)

A decoder takes the buffer and an offset and gives the value with the offset after
it. `buf[offset]` past the end is the `none` of `buf[off]?`, which every decoder
turns into the error of its own guard.
-/

namespace SpoeForge

open OffsetReader

/-- A decoder of the wire format: `SpoaDec`, `spop_types.py:14-16`. -/
abbrev Dec (α : Type) := Decoder Byte Exc α

/-- `buf[i:j]`. -/
def slice (buf : Bytes) (i j : ℕ) : Bytes := (buf.drop i).take (j - i)

theorem slice_length {buf : Bytes} {i j : ℕ} (hij : i ≤ j) (hj : j ≤ buf.length) :
    (slice buf i j).length = j - i := by
  simp only [slice, List.length_take, List.length_drop]
  omega

/-- The `while True` loop of `_parse_varint`, `data_types.py:45-58`: `rest` is the buffer
after `offset`. -/
def varintLoop : Bytes → ℕ → ℕ → ℕ → Except Exc (ℕ × ℕ)
  | [], _, _, _ => .error (decodeError (str "unexpected end of stream decoding varint"))
  | next :: rest, offset, value, shift =>
    let value := value + next.val <<< shift
    if next.val < 128 then .ok (value, offset + 1 + 1)
    else varintLoop rest (offset + 1) value (shift + 7)

/-- `_parse_varint`, `data_types.py:16-58`. -/
def parseVarint : Dec ℕ := fun buf offset =>
  match buf.drop offset with
  | [] => .error (decodeError (str "unexpected end of stream decoding varint"))
  | first :: rest =>
    if first.val < 240 then .ok (first.val, offset + 1)
    else varintLoop rest offset first.val 4

/-- `decode_tiny_int`, `data_types.py:61-76`. -/
def decodeTinyInt : Dec ℕ := fun buf offset =>
  match buf[offset]? with
  | none => .error (decodeError (str "unexpected end of stream decoding tiny int"))
  | some b => .ok (b.val, offset + 1)

/-- `decode_frame_len`, `data_types.py:79-85`. -/
def decodeFrameLen (lenBuf : Bytes) : Except Exc ℕ :=
  match unpackU32 lenBuf with
  | some n => .ok n
  | none => .error (decodeError (str "unexpected error decoding frame length"))

/-- The shape the four integer decoders share: a varint, then a `ctypes` conversion. -/
def decodeInteger (convert : ℕ → ℤ) : Dec ℤ := fun buf offset => do
  let (val, offset) ← parseVarint buf offset
  .ok (convert val, offset)

/-- `decode_int32`, `data_types.py:88-97`. -/
def decodeInt32 : Dec ℤ := decodeInteger (cInt 32)

/-- `decode_int64`, `data_types.py:100-109`. -/
def decodeInt64 : Dec ℤ := decodeInteger (cInt 64)

/-- `decode_uint32`, `data_types.py:112-121`. -/
def decodeUint32 : Dec ℤ := decodeInteger (cUint 32)

/-- `decode_uint64`, `data_types.py:124-133`. -/
def decodeUint64 : Dec ℤ := decodeInteger (cUint 64)

/-- `decode_bool`, `data_types.py:136-153`. -/
def decodeBool : Dec Bool := fun buf offset =>
  match buf[offset]? with
  | none => .error (decodeError (str "unexpected end of stream decoding boolean"))
  | some b => .ok (decide (b.val &&& FLAG_MASK = BOOL_TRUE), offset + 1)

/-- `decode_ipv4`, `data_types.py:156-170`. -/
def decodeIpv4 : Dec IPv4Address := fun buf offset =>
  if h : buf.length < offset + 4 then
    .error (decodeError (str "unexpected end of stream decoding ipv4"))
  else .ok (⟨slice buf offset (offset + 4), by
    rw [slice_length (by omega) (by omega)]; omega⟩, offset + 4)

/-- `decode_ipv6`, `data_types.py:173-187`. -/
def decodeIpv6 : Dec IPv6Address := fun buf offset =>
  if h : buf.length < offset + 16 then
    .error (decodeError (str "unexpected end of stream decoding ipv6"))
  else .ok (⟨slice buf offset (offset + 16), none, by
    rw [slice_length (by omega) (by omega)]; omega⟩, offset + 16)

/-- `decode_binary`, `data_types.py:190-206`. -/
def decodeBinary : Dec Bytes := fun buf offset => do
  let (binLen, offset) ← parseVarint buf offset
  if buf.length < offset + binLen then
    .error (decodeError (str "unexpected end of stream decoding binary"))
  else .ok (slice buf offset (offset + binLen), offset + binLen)

/-- `decode_string`, `data_types.py:209-222`. -/
def decodeString : Dec Str := fun buf offset => do
  let (bytes, offset) ← decodeBinary buf offset
  .ok (latin1Decode bytes, offset)

/-- `val, offset = decode(buf, offset)` with `val` as a typed value. -/
def decodeAs {α : Type} (wrap : α → Value) (decode : Dec α) : Dec Value := fun buf offset => do
  let (val, offset) ← decode buf offset
  .ok (wrap val, offset)

/-- The type dispatch of `auto_decode_var`, `data_types.py:246-278`, at the offset after
the type byte; BOOL steps back onto it. -/
def decodeByType : DataType → Dec Value
  | .null => fun _ offset => .ok (.none, offset)
  | .bool => fun buf offset => decodeAs .bool decodeBool buf (offset - 1)
  | .int32 => decodeAs .int decodeInt32
  | .uint32 => decodeAs .int decodeUint32
  | .int64 => decodeAs .int decodeInt64
  | .uint64 => decodeAs .int decodeUint64
  | .ipv4 => decodeAs .ipv4 decodeIpv4
  | .ipv6 => decodeAs .ipv6 decodeIpv6
  | .string => decodeAs .str decodeString
  | .binary => decodeAs .bytes decodeBinary

/-- `auto_decode_var`, `data_types.py:225-281`. -/
def autoDecodeVar : Dec Value := fun buf offset =>
  match buf[offset]? with
  | none => .error (decodeError (str "unexpected end of stream reading data type"))
  | some b =>
    let valType := b.val &&& TYPE_MASK
    match DataType.ofValue valType with
    | none => .error (decodeError (str "unknown data type " ++ natText valType))
    | some t => decodeByType t buf (offset + 1)

end SpoeForge
