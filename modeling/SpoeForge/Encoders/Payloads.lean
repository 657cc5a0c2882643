import SpoeForge.Encoders.DataTypes

/-!
# Encoders of payloads (`spop/encoders/payloads.py`)
-/

namespace SpoeForge

open Fallible

/-- `_compose_kv_pair`, `payloads.py:24-40`. -/
def composeKvPair (k : Str) (v : Value) : Except Exc Bytes := do
  let k ← encodeString k
  let v ← autoEncodeDtVar (.val v)
  .ok (k ++ v)

/-- `operator.index(x)`: an `int`, a `bool`, or an object with `__index__`. -/
def indexOf : PyObj → Except Exc ℤ
  | .val (.int i) => .ok i
  | .val (.bool b) => .ok (if b then 1 else 0)
  | .val v => .error ⟨.typeError,
      str "'" ++ v.typeName ++ str "' object cannot be interpreted as an integer"⟩
  | .other o => o.index

/-- `out.append(x)` on a `bytearray`. -/
def appendByte (x : PyObj) : Except Exc Byte := do
  let i ← indexOf x
  if 0 ≤ i ∧ i < 256 then .ok (byte i.toNat)
  else .error ⟨.valueError, str "byte must be in range(0, 256)"⟩

/-- `encode_string(x)` where `x` need not be a string: it may be any object with `encode`. -/
def encodeStringObj : PyObj → Except Exc Bytes
  | .val (.str s) => encodeString s
  | .val v => .error ⟨.attributeError,
      str "'" ++ v.typeName ++ str "' object has no attribute 'encode'"⟩
  | .other o => do
    match ← o.encode with
    | some bs => composeBinary bs
    | none => do
      let text ← o.repr
      .error (encodeError (str "cannot encode string with codepoints above 255 to SPOP: " ++ text))

/-- `_compose_set_action`, `payloads.py:62-77`. -/
def composeSetAction (action : SetVarAction) : Except Exc Bytes := do
  let scope ← appendByte action.scope
  let name ← encodeStringObj action.name
  let value ← autoEncodeDtVar action.value
  .ok ([byte ActionType.setVar.value, byte ActionType.setVar.nbArgs, scope] ++ name ++ value)

/-- `_compose_unset_action`, `payloads.py:80-94`. -/
def composeUnsetAction (action : UnsetVarAction) : Except Exc Bytes := do
  let scope ← appendByte action.scope
  let name ← encodeStringObj action.name
  .ok ([byte ActionType.unsetVar.value, byte ActionType.unsetVar.nbArgs, scope] ++ name)

/-- `_compose_action` with its registered handlers, `payloads.py:43-94`. -/
def composeAction : ActionObj → Except Exc Bytes
  | .setVar action => composeSetAction action
  | .unsetVar action => composeUnsetAction action
  | .other cls _ => .error (encodeError (str "Unexpected Action while encoding: " ++ cls))

/-- `encode_kv_list`, `payloads.py:97-115`. -/
def encodeKvList (payload : Dict Str Value) : Except Exc Bytes :=
  extendAll (fun p => composeKvPair p.1 p.2) payload.entries

/-- One turn of the loop of `encode_message_list`, `payloads.py:135-145`. -/
def composeMessage (message : Str) (args : Args) : Except Exc Bytes :=
  if 255 < args.entries.length then
    .error (encodeError (str "message '" ++ message ++ str "' has too many args: " ++
      natText args.entries.length ++ str " (max 255)"))
  else do
    let name ← encodeString message
    let count ← encodeTinyInt args.entries.length
    let pairs ← encodeKvList args
    .ok (name ++ count ++ pairs)

/-- `encode_message_list`, `payloads.py:118-148`. -/
def encodeMessageList (messages : Messages) : Except Exc Bytes :=
  extendAll (fun m => composeMessage m.1 m.2) messages

/-- `encode_action_list`, `payloads.py:151-168`. -/
def encodeActionList (actions : List ActionObj) : Except Exc Bytes :=
  extendAll composeAction actions

/-- The least significant byte of the four flag bytes, `payloads.py:182-189`. -/
def flagsByte (flags : Flags) : Byte :=
  byte ((if flags.fin then FLAG_FIN else 0) ||| (if flags.abort then FLAG_ABORT else 0))

/-- `encode_metadata`, `payloads.py:171-196`. -/
def encodeMetadata (metadata : MetaData) : Except Exc Bytes := do
  let streamId ← encodeInt metadata.streamId
  let frameId ← encodeInt metadata.frameId
  .ok ([0, 0, 0, flagsByte metadata.flags] ++ streamId ++ frameId)

end SpoeForge
