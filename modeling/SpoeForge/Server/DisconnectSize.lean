import SpoeForge.Connection
import SpoeForge.Server.SendErrors

/-!
# The size of an AGENT-DISCONNECT

The truncation counts the characters of the message; the frame has 31 or 32 more bytes
around them, which the limit has to hold as well.
-/

namespace SpoeForge

open Fallible

/-! ### The two pairs of the payload -/

theorem encodeString_length {s : Str} (h : Latin1 s) :
    ∃ out, encodeString s = .ok out ∧ out.length = (varintBytes s.length).length + s.length := by
  obtain ⟨bs, hbs⟩ := latin1Encode_isSome.mpr h
  have hlen := latin1Encode_length hbs
  refine ⟨_, encodeString_ok.mpr ⟨bs, hbs, rfl⟩, ?_⟩
  rw [List.length_append, hlen]

theorem encodeDtString_length {s : Str} (h : Latin1 s) :
    ∃ out, autoEncodeDtVar (.val (.str s)) = .ok out ∧
      out.length = 1 + (varintBytes s.length).length + s.length := by
  obtain ⟨bs, hbs⟩ := latin1Encode_isSome.mpr h
  have hlen := latin1Encode_length hbs
  refine ⟨_, autoEncodeDtVar_str hbs, ?_⟩
  simp only [typeData, List.length_append, List.length_singleton, hlen]
  omega

theorem DisconnectCode.value_lt (code : DisconnectCode) : code.value < 240 := by
  cases code <;> decide

theorem encodeCode_length (code : DisconnectCode) :
    ∃ out, autoEncodeDtVar (.val (.int code.value)) = .ok out ∧ out.length = 2 := by
  have hlt := code.value_lt
  have hmask : (maskUint 64 code.value).toNat = code.value := by
    rw [maskUint, Int.emod_eq_of_lt (by omega) (by omega), Int.toNat_natCast]
  have hrange : INT64_MIN ≤ (code.value : ℤ) ∧ (code.value : ℤ) ≤ INT64_MAX := by
    simp only [INT64_MIN, INT64_MAX]
    omega
  refine ⟨_, autoEncodeDtVar_int hrange, ?_⟩
  rw [hmask, List.length_append, varintBytes_length_short hlt, typeData, List.length_singleton]

/-! ### The frame -/

theorem disconnectFrame_body (code : DisconnectCode) {message : Str} (h : Latin1 message) :
    ∃ out, (disconnectFrame code message).body = .ok out ∧
      out.length = 30 + (varintBytes message.length).length + message.length := by
  obtain ⟨k₁, hk₁, lk₁⟩ := encodeString_length (show Latin1 keyStatusCode by decide)
  obtain ⟨k₂, hk₂, lk₂⟩ := encodeString_length (show Latin1 keyMessage by decide)
  obtain ⟨v₁, hv₁, lv₁⟩ := encodeCode_length code
  obtain ⟨v₂, hv₂, lv₂⟩ := encodeDtString_length h
  have hfirst : composeKvPair keyStatusCode (.int code.value) = .ok (k₁ ++ v₁) :=
    composeKvPair_ok.mpr ⟨k₁, v₁, hk₁, hv₁, rfl⟩
  have hsecond : composeKvPair keyMessage (.str message) = .ok (k₂ ++ v₂) :=
    composeKvPair_ok.mpr ⟨k₂, v₂, hk₂, hv₂, rfl⟩
  have hpairs : extendAll (fun p => composeKvPair p.1 p.2)
      [(keyStatusCode, Value.int code.value), (keyMessage, .str message)] =
        .ok ((k₁ ++ v₁) ++ ((k₂ ++ v₂) ++ [])) := by
    simp only [extendAll, hfirst, hsecond, ok_bind]
  have hpayload : (disconnectFrame code message).payload.encode =
      .ok ((k₁ ++ v₁) ++ ((k₂ ++ v₂) ++ [])) := hpairs
  have hmeta : encodeMetadata ⟨⟨true, false⟩, 0, 0⟩ = .ok [0, 0, 0, 1, 0, 0] := by decide +kernel
  refine ⟨_, Frame.body_ok.mpr ⟨_, _, hmeta, hpayload, rfl⟩, ?_⟩
  have l₁ : keyStatusCode.length = 11 := by decide
  have l₂ : keyMessage.length = 7 := by decide
  rw [l₁, varintBytes_length_short (by decide)] at lk₁
  rw [l₂, varintBytes_length_short (by decide)] at lk₂
  simp only [List.length_append, List.length_cons, List.length_nil, lk₁, lv₁, lk₂, lv₂]
  omega

/-- The frame with a message of `n` characters is within `m`. -/
def DisconnectFits (m : ℤ) (n : ℕ) : Prop :=
  Printable m ∧ (n < 240 ∧ (n : ℤ) + 31 ≤ m ∨ (n : ℤ) + 32 ≤ m)

theorem disconnectFrame_encode (code : DisconnectCode) {message : Str} (h : Latin1 message)
    (hlen : message.length ≤ DISCONNECT_MESSAGE_MAX_LENGTH) (m : ℤ) :
    (∃ bytes, (disconnectFrame code message).encode m = .ok bytes ∧ (bytes.length : ℤ) ≤ m + 4) ↔
      DisconnectFits m message.length := by
  obtain ⟨out, hout, lout⟩ := disconnectFrame_body code h
  rw [DISCONNECT_MESSAGE_MAX_LENGTH] at hlen
  obtain ⟨len, hpack⟩ : ∃ len, packU32 out.length = some len := by
    have hvar := varintBytes_length_le (n := message.length) (by omega)
    exact packU32_ok (by omega)
  have hsize : (out.length : ℤ) ≤ m ↔
      message.length < 240 ∧ (message.length : ℤ) + 31 ≤ m ∨ (message.length : ℤ) + 32 ≤ m := by
    by_cases hs : message.length < 240
    · rw [varintBytes_length_short hs] at lout
      omega
    · rw [varintBytes_length_two (by omega) (by omega)] at lout
      omega
  rw [DisconnectFits, ← hsize]
  constructor
  · rintro ⟨bytes, he, -⟩
    obtain ⟨out', len', hout', -, hle, hprint, -⟩ := Frame.encode_ok.mp he
    rw [hout] at hout'
    cases hout'
    exact ⟨hprint, hle⟩
  · rintro ⟨hprint, hle⟩
    refine ⟨len ++ out, Frame.encode_ok.mpr ⟨out, len, hout, hpack, hle, hprint, rfl⟩, ?_⟩
    rw [List.length_append, packU32_length hpack]
    omega

/-- `send_disconnect_on_error` raises nothing: the frame with the truncated message encodes
within the limit, and it is written when the writer is open. -/
def Conn.DeliversDisconnect (s : Conn) (code : DisconnectCode) (message : Str) : Prop :=
  ∃ bytes, (disconnectFrame code (message.take DISCONNECT_MESSAGE_MAX_LENGTH)).encode
      s.config.maxFrameSize = .ok bytes ∧
    (bytes.length : ℤ) ≤ s.config.maxFrameSize + 4 ∧
    s.sendDisconnectOnError code message = .ok (if s.writerClosing then none else
      some (s.record (.wrote none
        (disconnectFrame code (message.take DISCONNECT_MESSAGE_MAX_LENGTH)) bytes)))

theorem Conn.deliversDisconnect_iff_encode (s : Conn) (code : DisconnectCode) (message : Str) :
    s.DeliversDisconnect code message ↔
      ∃ bytes, (disconnectFrame code (message.take DISCONNECT_MESSAGE_MAX_LENGTH)).encode
        s.config.maxFrameSize = .ok bytes ∧ (bytes.length : ℤ) ≤ s.config.maxFrameSize + 4 := by
  constructor
  · rintro ⟨bytes, he, hle, -⟩
    exact ⟨bytes, he, hle⟩
  · rintro ⟨bytes, he, hle⟩
    refine ⟨bytes, he, hle, ?_⟩
    cases hc : s.writerClosing with
    | true => simp [sendDisconnectOnError, sendDisconnect, sendFrame, encodeToSend, hc]
    | false => simp [sendDisconnectOnError, sendDisconnect, sendFrame, encodeToSend, hc, he]

/-- An error is reported exactly when the limit holds 31 bytes more than the characters kept of
its message, 32 from 240 characters on. -/
theorem deliversDisconnect_iff (s : Conn) (code : DisconnectCode) (message : Str)
    (h : Latin1 message) : s.DeliversDisconnect code message ↔
      DisconnectFits s.config.maxFrameSize (min message.length DISCONNECT_MESSAGE_MAX_LENGTH) := by
  have hlen : (message.take DISCONNECT_MESSAGE_MAX_LENGTH).length =
      min message.length DISCONNECT_MESSAGE_MAX_LENGTH := by
    rw [List.length_take, Nat.min_comm]
  rw [Conn.deliversDisconnect_iff_encode, ← hlen]
  exact disconnectFrame_encode code (latin1_take _ h) (by rw [hlen]; exact Nat.min_le_right _ _) _

theorem deliversDisconnect_short :
    (Conn.init 256 100 []).DeliversDisconnect .protocolError (str "unexpected end of stream") := by
  apply (deliversDisconnect_iff _ _ _ (by decide)).mpr
  exact ⟨printable_of_lt (by decide) (by decide), .inl (by decide)⟩

/-- A NOTIFY whose message has a name of 235 bytes and the argument `a` twice. -/
def duplicateArgBody : Bytes :=
  ([3, 0, 0, 0, 1, 7, 1, 235] ++ List.replicate 235 120 ++ [2, 1, 97, 0, 1, 97, 0]).map byte

def duplicateArgText : Str :=
  str "unexpected duplicate arg a in message " ++ List.replicate 235 'x'

/-- The text of the error quotes the name, and its first 256 characters make a frame of 288
bytes. -/
theorem disconnect_oversized :
    ∃ e, decodeBody duplicateArgBody = .error e ∧ duplicateArgBody.length ≤ 256 ∧ Latin1 e.text ∧
      ¬(Conn.init 256 100 []).DeliversDisconnect .protocolError e.text := by
  have hdecode : decodeBody duplicateArgBody = .error (decodeError duplicateArgText) := by
    decide +kernel
  have hlatin : Latin1 duplicateArgText := by decide +kernel
  refine ⟨_, hdecode, by decide +kernel, hlatin, fun hdelivers => ?_⟩
  have hencodes := (Conn.deliversDisconnect_iff_encode _ _ _).mp hdelivers
  rw [decodeError, disconnectFrame_encode _ (latin1_take _ hlatin) (by decide +kernel)] at hencodes
  exact absurd hencodes.2 (by decide +kernel)

end SpoeForge
