import SpoeForge.SpopTypes

/-!
# Encoders of data types (`spop/encoders/data_types.py`)

Every encoder gives the bytes or the exception it raises. Texts of exceptions that
quote an integer go through `intStr`, which itself can raise.
-/

namespace SpoeForge

/-- The `while` loop of `_compose_varint` and the last byte, `data_types.py:47-51`. -/
def varintTail (val : ℕ) : Bytes :=
  if val < 128 then [byte val] else byte (val ||| 0x80) :: varintTail ((val - 128) >>> 7)
termination_by val
decreasing_by
  rw [Nat.shiftRight_eq_div_pow]
  omega

/-- The bytes of a non-negative varint, `data_types.py:40-52`. -/
def varintBytes (val : ℕ) : Bytes :=
  if val < 240 then [byte val] else byte (val ||| 0xF0) :: varintTail ((val - 240) >>> 4)

/-- `_compose_varint`, `data_types.py:19-52`. -/
def composeVarint (val : ℤ) : Except Exc Bytes :=
  if val < 0 then do
    let t ← intStr val
    .error (encodeError (str "cannot encode negative number as varint: " ++ t))
  else .ok (varintBytes val.toNat)

/-- `_compose_binary`, `data_types.py:55-63`. -/
def composeBinary (val : Bytes) : Except Exc Bytes := do
  let length ← composeVarint val.length
  .ok (length ++ val)

/-- `_type_data`, `data_types.py:66-76`. -/
def typeData (dataType : DataType) (flags : ℕ) : Bytes := [byte (flags ||| dataType.value)]

/-- `encode_tiny_int`, `data_types.py:79-89`. -/
def encodeTinyInt (val : ℤ) : Except Exc Bytes :=
  if 0 ≤ val ∧ val ≤ 255 then .ok [byte val.toNat]
  else do
    let t ← intStr val
    .error (encodeError (str "tiny int must be 0-255, got " ++ t))

/-- `encode_frame_len`, `data_types.py:92-104`. -/
def encodeFrameLen (frameLen : ℕ) : Except Exc Bytes :=
  match packU32 frameLen with
  | some bs => .ok bs
  | none => .error (encodeError (str "failed to encode frame_len int"))

/-- `encode_int`, `data_types.py:107-114`. -/
def encodeInt (val : ℤ) : Except Exc Bytes := composeVarint val

/-- The text of the refusal of a string; only the log and callers of the encoder see
the quoted string, whose escapes are left out. -/
def codepointError (val : Str) : Exc :=
  encodeError (str "cannot encode string with codepoints above 255 to SPOP: '" ++ val ++ str "'")

/-- `encode_string`, `data_types.py:117-132`. -/
def encodeString (val : Str) : Except Exc Bytes :=
  match latin1Encode val with
  | some bs => composeBinary bs
  | none => .error (codepointError val)

/-- `encode_dt_null`, `data_types.py:135-143`. -/
def encodeDtNull : Except Exc Bytes := .ok (typeData .null 0)

/-- The shape the four integer encoders share: a range check, then the type byte and the
varint of what goes on the wire for the value. -/
def encodeDtInteger (dataType : DataType) (low high : ℤ) (wire : ℤ → ℤ) (name : Str) (val : ℤ) :
    Except Exc Bytes :=
  if low ≤ val ∧ val ≤ high then do
    let bs ← composeVarint (wire val)
    .ok (typeData dataType 0 ++ bs)
  else do
    let t ← intStr val
    .error (encodeError (name ++ str " value out of range: " ++ t))

/-- `encode_dt_int32`, `data_types.py:146-157`. -/
def encodeDtInt32 : ℤ → Except Exc Bytes :=
  encodeDtInteger .int32 INT32_MIN INT32_MAX (maskUint 32) (str "INT32")

/-- `encode_dt_int64`, `data_types.py:160-171`. -/
def encodeDtInt64 : ℤ → Except Exc Bytes :=
  encodeDtInteger .int64 INT64_MIN INT64_MAX (maskUint 64) (str "INT64")

/-- `encode_dt_uint32`, `data_types.py:174-184`. -/
def encodeDtUint32 : ℤ → Except Exc Bytes :=
  encodeDtInteger .uint32 0 UINT32_MAX id (str "UINT32")

/-- `encode_dt_uint64`, `data_types.py:187-197`. -/
def encodeDtUint64 : ℤ → Except Exc Bytes :=
  encodeDtInteger .uint64 0 UINT64_MAX id (str "UINT64")

/-- `encode_dt_bool`, `data_types.py:200-210`. -/
def encodeDtBool (val : Bool) : Except Exc Bytes :=
  .ok (typeData .bool (if val then BOOL_TRUE else BOOL_FALSE))

/-- `encode_dt_ipv4`, `data_types.py:213-220`. -/
def encodeDtIpv4 (val : IPv4Address) : Except Exc Bytes := .ok (typeData .ipv4 0 ++ val.packed)

/-- `encode_dt_ipv6`, `data_types.py:223-230`; `packed` has no scope id. -/
def encodeDtIpv6 (val : IPv6Address) : Except Exc Bytes := .ok (typeData .ipv6 0 ++ val.packed)

/-- `encode_dt_binary`, `data_types.py:233-240`. -/
def encodeDtBinary (val : Bytes) : Except Exc Bytes := do
  let bs ← composeBinary val
  .ok (typeData .binary 0 ++ bs)

/-- `encode_dt_string`, `data_types.py:243-257`. -/
def encodeDtString (val : Str) : Except Exc Bytes :=
  match latin1Encode val with
  | some bytes => do
    let bs ← composeBinary bytes
    .ok (typeData .string 0 ++ bs)
  | none => .error (codepointError val)

/-- `f"{x!r}"`, of which only the exception matters: `repr` raises for an integer of too
many digits and may raise for an object of another class. -/
def reprCheck : PyObj → Except Exc Unit
  | .val (.int i) => do
    let _ ← intStr i
    .ok ()
  | .other o => do
    let _ ← o.repr
    .ok ()
  | _ => .ok ()

/-- The type dispatch of `auto_encode_dt_var`, `data_types.py:271-296`. -/
def encodeByType : PyObj → Except Exc Bytes
  | .val .none => encodeDtNull
  | .val (.bool b) => encodeDtBool b
  | .val (.int i) => encodeDtInt64 i
  | .val (.ipv4 a) => encodeDtIpv4 a
  | .val (.ipv6 a) => encodeDtIpv6 a
  | .val (.bytes bs) => encodeDtBinary bs
  | .val (.str s) => encodeDtString s
  | .other o => do
    let text ← o.str
    .error (encodeError
      (str "cannot encode unsupported type <class '" ++ o.cls ++ str "'> (" ++ text ++ str ")"))

/-- `auto_encode_dt_var`, `data_types.py:260-299`. -/
def autoEncodeDtVar (val : PyObj) : Except Exc Bytes := do
  reprCheck val
  encodeByType val

end SpoeForge
