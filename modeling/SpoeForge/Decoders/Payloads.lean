import SpoeForge.Decoders.DataTypes

/-!
# Decoders of payloads (`spop/decoders/payloads.py`)
-/

namespace SpoeForge

open OffsetReader

/-- `_parse_kv_pair`, `payloads.py:24-35`. -/
def parseKvPair : Dec (Str × Value) := fun buf offset => do
  let (key, offset) ← decodeString buf offset
  let (val, offset) ← autoDecodeVar buf offset
  .ok ((key, val), offset)

/-- `except SpopDecodeError as e: raise SpopDecodeError(f"...{e}")`. -/
def reraise {α : Type} (context : Str) : Except Exc α → Except Exc α
  | .ok a => .ok a
  | .error e =>
    if e.cls = .spopDecodeError then .error (decodeError (context ++ e.text)) else .error e

/-- `decode_metadata`, `payloads.py:38-77`; `flags_buf[-1]` is the byte at `offset + 3`. -/
def decodeMetadata : Dec MetaData := fun buf offset =>
  match buf[offset + 3]? with
  | none => .error (decodeError (str "unexpected end of stream decoding metadata"))
  | some b => do
    let flags : Flags := ⟨decide (b.val &&& FLAG_FIN = FLAG_FIN),
      decide (b.val &&& FLAG_ABORT = FLAG_ABORT)⟩
    let (streamId, offset) ← reraise (str "error decoding stream_id in metadata: ")
      (decodeInt64 buf (offset + 4))
    let (frameId, offset) ← reraise (str "error decoding frame_id in metadata: ")
      (decodeInt64 buf offset)
    .ok (⟨flags, streamId, frameId⟩, offset)

/-- `payload[key] = val`. -/
def setPair (payload : Dict Str Value) (p : Str × Value) : Dict Str Value := payload.set p.1 p.2

/-- `decode_kv_list`, `payloads.py:80-103`. -/
def decodeKvList (buf : Bytes) (offset stop : ℕ) : Except Exc (Dict Str Value × ℕ) :=
  readUntil parseKvPair setPair buf offset stop Dict.empty

/-- `for _ in range(num_args)`, `payloads.py:131-140`. -/
def decodeArgs (message : Str) : ℕ → Args → Dec Args
  | 0, args => fun _ offset => .ok (args, offset)
  | n + 1, args => fun buf offset => do
    let ((k, v), offset) ← parseKvPair buf offset
    if args.contains k then
      .error (decodeError (str "unexpected duplicate arg " ++ k ++ str " in message " ++ message))
    else decodeArgs message n (args.set k v) buf offset

/-- One turn of the loop of `decode_list_of_messages`, `payloads.py:127-142`. -/
def decodeMessage : Dec (Str × Args) := fun buf offset => do
  let (message, offset) ← decodeString buf offset
  let (numArgs, offset) ← decodeTinyInt buf offset
  let (args, offset) ← decodeArgs message numArgs Dict.empty buf offset
  .ok ((message, args), offset)

/-- `payload.append(x)`. -/
def pushBack {α : Type} (xs : List α) (x : α) : List α := xs ++ [x]

/-- `decode_list_of_messages`, `payloads.py:106-145`. -/
def decodeListOfMessages (buf : Bytes) (offset stop : ℕ) : Except Exc (Messages × ℕ) :=
  readUntil decodeMessage pushBack buf offset stop []

/-- What follows the three header bytes of an action, `payloads.py:187-219`. -/
def decodeActionArgs (action : ActionType) (nbArgs : ℕ) (scope : ActionScope) : Dec ActionObj :=
  fun buf offset =>
    match action with
    | .setVar =>
      if nbArgs ≠ ActionType.setVar.nbArgs then
        .error (decodeError (str "unexpected NB-ARGS " ++ natText nbArgs ++
          str " for SET_VAR action"))
      else do
        let ((arg, val), offset) ← parseKvPair buf offset
        .ok (.ofSet scope arg val, offset)
    | .unsetVar =>
      if nbArgs ≠ ActionType.unsetVar.nbArgs then
        .error (decodeError (str "unexpected NB-ARGS " ++ natText nbArgs ++
          str " for UNSET_VAR action"))
      else do
        let (arg, offset) ← decodeString buf offset
        .ok (.ofUnset scope arg, offset)

/-- One turn of the loop of `decode_list_of_actions`, `payloads.py:167-219`. -/
def decodeAction : Dec ActionObj := fun buf offset =>
  match buf[offset]?, buf[offset + 1]?, buf[offset + 2]? with
  | some a, some n, some s =>
    match ActionType.ofValue a.val with
    | none => .error (decodeError (str "invalid action type: " ++ natText a.val))
    | some action =>
      match ActionScope.ofValue s.val with
      | none => .error (decodeError (str "invalid action scope: " ++ natText s.val))
      | some scope => decodeActionArgs action n.val scope buf (offset + 3)
  | _, _, _ => .error (decodeError (str "unexpected end of stream decoding action header"))

/-- `decode_list_of_actions`, `payloads.py:148-223`. -/
def decodeListOfActions (buf : Bytes) (offset stop : ℕ) : Except Exc (List ActionObj × ℕ) :=
  readUntil decodeAction pushBack buf offset stop []

end SpoeForge
