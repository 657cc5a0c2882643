import SpoeForge.Wire.TypedRoundTrip
import SpoeForge.Wire.Bodies

/-!
# Writing decoded frames again

The decoders accept more than the encoders write: four types of integers, flag bits without a
meaning, lists with spaces and empty items, keys in any order and more than once. A decoded frame
has none of this left: it is written, unless a number in it is out of the range of its encoder,
and read back as it is.
-/

namespace SpoeForge

open Fallible OffsetReader Grammar Pieces

/-! ### Values -/

/-- What a value is that came over the wire. -/
def Value.Wired : Value → Prop
  | .int i => INT64_MIN ≤ i ∧ i ≤ UINT64_MAX
  | .ipv6 a => a.scopeId = Option.none
  | .str s => Latin1 s
  | _ => True

/-- `auto_encode_dt_var` makes an INT64 of every integer. -/
def Value.Narrow : Value → Prop
  | .int i => i ≤ INT64_MAX
  | _ => True

theorem Value.Wired.noScope {v : Value} (h : v.Wired) : v.NoScope := by
  cases v with
  | ipv6 a => exact h
  | none | bool | int | ipv4 | bytes | str => exact True.intro

theorem IsTypedData.wired {v : Value} {bs : Bytes} (h : IsTypedData v bs) : v.Wired := by
  obtain ⟨b, t, data, -, hdata, -⟩ := h
  obtain ⟨hscope, hlatin, hrange⟩ := hdata.range
  cases v with
  | int i => exact ⟨(hrange i rfl).1, (hrange i rfl).2.1⟩
  | ipv6 a => exact hscope
  | str s => exact hlatin s rfl
  | none | bool | ipv4 | bytes => exact True.intro

theorem Value.Wired.encodes {v : Value} (h : v.Wired) :
    (∃ out, autoEncodeDtVar (.val v) = .ok out) ↔ v.Narrow := by
  constructor
  · rintro ⟨out, hout⟩
    cases v with
    | int i => exact (encodeDtInt64_ok.mp (autoEncodeDtVar_ok.mp hout).2).1.2
    | none | bool | ipv4 | ipv6 | bytes | str => exact True.intro
  · intro hn
    apply autoEncodeDtVar_succeeds
    · rintro s rfl
      exact h
    · rintro i rfl
      exact ⟨h.1, hn⟩

/-! ### Pairs -/

/-- A name and a value that came over the wire. -/
def WiredPair (p : Str × Value) : Prop := Latin1 p.1 ∧ p.2.Wired

theorem IsString.latin1 {s : Str} {bs : Bytes} (h : IsString s bs) : Latin1 s := by
  obtain ⟨val, -, rfl⟩ := h
  exact latin1_decode val

theorem IsKvPair.wired {p : Str × Value} {bs : Bytes} (h : IsKvPair p bs) : WiredPair p := by
  obtain ⟨x, y, hname, hvalue, -⟩ := h
  exact ⟨hname.latin1, hvalue.wired⟩

theorem WiredPair.encodes {p : Str × Value} (h : WiredPair p) :
    (∃ out, composeKvPair p.1 p.2 = .ok out) ↔ p.2.Narrow := by
  rw [← h.2.encodes]
  constructor
  · rintro ⟨out, hout⟩
    obtain ⟨x, y, -, hy, -⟩ := composeKvPair_ok.mp hout
    exact ⟨y, hy⟩
  · rintro ⟨y, hy⟩
    obtain ⟨x, hx⟩ := encodeString_latin1 h.1
    exact ⟨x ++ y, composeKvPair_ok.mpr ⟨x, y, hx, hy, rfl⟩⟩

theorem encodeKvList_encodes {d : Dict Str Value} (h : ∀ p ∈ d.entries, WiredPair p) :
    (∃ out, encodeKvList d = .ok out) ↔ ∀ p ∈ d.entries, p.2.Narrow := by
  rw [encodeKvList, extendAll_isOk]
  exact forall₂_congr fun p hp => (h p hp).encodes

theorem IsDict.wired {d : Dict Str Value} {bs : Bytes} (h : IsDict d bs) :
    ∀ p ∈ d.entries, WiredPair p := by
  obtain ⟨pairs, hpairs, rfl⟩ := h
  intro p hp
  obtain ⟨x, hx⟩ := hpairs.mem (Dict.mem_ofPairs hp)
  exact hx.wired

/-! ### Messages -/

/-- A message that came over the wire: its arguments are counted in one byte. -/
structure WiredMessage (m : Str × Args) : Prop where
  name : Latin1 m.1
  count : m.2.entries.length ≤ 255
  args : ∀ p ∈ m.2.entries, WiredPair p

theorem IsMessage.wired {m : Str × Args} {bs : Bytes} (h : IsMessage m bs) : WiredMessage m := by
  obtain ⟨name, count, pairs, hname, hcount, hpairs, -⟩ := h
  have hlt := count.isLt
  refine ⟨hname.latin1, by omega, fun p hp => ?_⟩
  obtain ⟨x, hx⟩ := hpairs.mem hp
  exact hx.wired

theorem WiredMessage.encodes {m : Str × Args} (h : WiredMessage m) :
    (∃ out, composeMessage m.1 m.2 = .ok out) ↔ ∀ p ∈ m.2.entries, p.2.Narrow := by
  rw [← encodeKvList_encodes h.args]
  constructor
  · rintro ⟨out, hout⟩
    obtain ⟨-, x, y, -, hy, -⟩ := composeMessage_ok.mp hout
    exact ⟨y, hy⟩
  · rintro ⟨y, hy⟩
    obtain ⟨x, hx⟩ := encodeString_latin1 h.name
    exact ⟨_, composeMessage_ok.mpr ⟨h.count, x, y, hx, hy, rfl⟩⟩

/-! ### Actions -/

/-- The value that an action sets. -/
def ActionObj.values : ActionObj → List Value
  | .setVar ⟨_, _, .val v⟩ => [v]
  | _ => []

theorem IsAction.carried {a : ActionObj} {bs : Bytes} (h : IsAction a bs) : a.Carried := by
  cases h with
  | set scope _ hv => exact .set scope _ _ hv.wired.noScope
  | unset scope _ => exact .unset scope _

theorem IsAction.encodes {a : ActionObj} {bs : Bytes} (h : IsAction a bs) :
    (∃ out, composeAction a = .ok out) ↔ ∀ v ∈ a.values, v.Narrow := by
  cases h with
  | @set scope name v x y hn hv =>
    have hvalues : (ActionObj.ofSet scope name v).values = [v] := rfl
    rw [hvalues, List.forall_mem_singleton, ← hv.wired.encodes]
    constructor
    · rintro ⟨out, hout⟩
      obtain ⟨-, z, -, hz, -⟩ := composeAction_set_ok.mp hout
      exact ⟨z, hz⟩
    · rintro ⟨z, hz⟩
      obtain ⟨w, hw⟩ := encodeString_latin1 hn.latin1
      exact ⟨_, composeAction_set_ok.mpr ⟨w, z, hw, hz, rfl⟩⟩
  | unset scope hn =>
    obtain ⟨w, hw⟩ := encodeString_latin1 hn.latin1
    refine iff_of_true ⟨_, composeAction_unset_ok.mpr ⟨w, hw, rfl⟩⟩ fun v hv => ?_
    cases hv

/-! ### Comma-separated lists -/

theorem clean_fromSpopList {s x : Str} (h : x ∈ fromSpopList s) : CleanItem x := by
  rw [fromSpopList_eq] at h
  exact pieces_clean h

theorem latin1_toSpopList {s : Str} (h : Latin1 s) : Latin1 (toSpopList (fromSpopList s)) := by
  intro c hc
  rcases mem_intercalate hc with rfl | ⟨y, hy, hc⟩
  · decide
  · obtain ⟨x, hx, rfl⟩ := List.mem_map.mp hy
    rw [(clean_fromSpopList hx).2.2] at hc
    rw [fromSpopList_eq] at hx
    exact h c (mem_of_mem_pieces hx hc)

/-! ### Payloads -/

/-- The values of a payload that go to `auto_encode_dt_var` and are no lists. -/
def Payload.values : Payload → List Value
  | .haproxyHello p => [p.maxFrameSize, p.healthcheck, p.engineId]
  | .agentHello p => [p.version, p.maxFrameSize]
  | .haproxyDisconnect p => [p.statusCode, p.message]
  | .agentDisconnect p => [p.statusCode, p.message]
  | .notify messages => messages.flatMap fun m => m.2.entries.map Prod.snd
  | .ack none => []
  | .ack (some actions) => actions.flatMap ActionObj.values

/-- The wire carries the payload in full, and it is written if its values are in range. -/
def Payload.Normal (p : Payload) : Prop :=
  p.Carried ∧ ((∃ out, p.encode = .ok out) ↔ ∀ v ∈ p.values, v.Narrow)

theorem wired_get {d : Dict Str Value} (hd : ∀ p ∈ d.entries, WiredPair p) {key : Str} {v : Value}
    (h : d.get? key = some v) : v.Wired := (hd _ (Dict.mem_of_get? h)).2

theorem wired_getD {d : Dict Str Value} (hd : ∀ p ∈ d.entries, WiredPair p) (key : Str) {v : Value}
    (hv : v.Wired) : ((d.get? key).getD v).Wired := by
  cases h : d.get? key with
  | none => exact hv
  | some w => exact wired_get hd h

theorem wiredPair {key : Str} {v : Value} (hkey : Latin1 key) (hv : v.Wired) :
    WiredPair (key, v) := ⟨hkey, hv⟩

theorem narrow_str (s : Str) : (Value.str s).Narrow := True.intro

theorem HaproxyHello.Of.normal {d : Dict Str Value} {p : HaproxyHello} (h : HaproxyHello.Of d p)
    (hd : ∀ e ∈ d.entries, WiredPair e) : (Payload.haproxyHello p).Normal := by
  obtain ⟨⟨s, hs, hversions⟩, hsize, ⟨c, hc, hcaps⟩, hengine, hcheck⟩ := h
  have hsize := wired_get hd hsize
  have hengine : p.engineId.Wired := hengine ▸ wired_getD hd keyEngineId True.intro
  have hcheck : p.healthcheck.Wired := hcheck ▸ wired_getD hd keyHealthcheck True.intro
  constructor
  · refine ⟨fun x hx => ?_, fun x hx => ?_, hsize.noScope, hcheck.noScope, hengine.noScope⟩
    · rw [hversions] at hx
      exact clean_fromSpopList hx
    · rw [hcaps] at hx
      exact clean_fromSpopList hx
  · have hv : Latin1 (toSpopList p.supportedVersions) := by
      rw [hversions]
      exact latin1_toSpopList (wired_get hd hs)
    have hcl : Latin1 (toSpopList p.capabilities) := by
      rw [hcaps]
      exact latin1_toSpopList (wired_get hd hc)
    have hwired : ∀ e ∈ p.toDict.entries, WiredPair e := by
      rw [p.toDict_entries]
      intro e he
      rcases List.mem_append.mp he with he | he
      · simp only [List.mem_cons, List.not_mem_nil, or_false] at he
        rcases he with rfl | rfl | rfl | rfl
        · exact wiredPair (by decide) hv
        · exact wiredPair (by decide) hsize
        · exact wiredPair (by decide) hcl
        · exact wiredPair (by decide) hcheck
      · split at he
        · cases he
        · obtain rfl := List.mem_singleton.mp he
          exact wiredPair (by decide) hengine
    rw [Payload.encode, encodeKvList_encodes hwired, p.toDict_entries]
    by_cases hn : p.engineId = .none
    · simp [hn, Payload.values, Value.Narrow]
    · simp [hn, Payload.values, Value.Narrow]

theorem AgentHello.Of.normal {d : Dict Str Value} {p : AgentHello} (h : AgentHello.Of d p)
    (hd : ∀ e ∈ d.entries, WiredPair e) : (Payload.agentHello p).Normal := by
  obtain ⟨hversion, hsize, c, hc, hcaps⟩ := h
  have hversion := wired_get hd hversion
  have hsize := wired_get hd hsize
  constructor
  · refine ⟨fun x hx => ?_, hversion.noScope, hsize.noScope⟩
    rw [hcaps] at hx
    exact clean_fromSpopList hx
  · have hcl : Latin1 (toSpopList p.capabilities) := by
      rw [hcaps]
      exact latin1_toSpopList (wired_get hd hc)
    have hwired : ∀ e ∈ p.toDict.entries, WiredPair e := by
      rw [p.toDict_entries]
      simp only [List.forall_mem_cons, List.not_mem_nil, false_implies, implies_true, and_true]
      exact ⟨wiredPair (by decide) hversion, wiredPair (by decide) hsize, wiredPair (by decide) hcl⟩
    rw [Payload.encode, encodeKvList_encodes hwired, p.toDict_entries]
    simp [Payload.values, narrow_str]

theorem Disconnect.Of.normal {d : Dict Str Value} {p : Disconnect} (h : Disconnect.Of d p)
    (hd : ∀ e ∈ d.entries, WiredPair e) : p.statusCode.NoScope ∧ p.message.NoScope ∧
      ((∃ out, encodeKvList p.toDict = .ok out) ↔ p.statusCode.Narrow ∧ p.message.Narrow) := by
  have hcode := wired_get hd h.statusCode
  have hmessage := wired_get hd h.message
  refine ⟨hcode.noScope, hmessage.noScope, ?_⟩
  have hwired : ∀ e ∈ p.toDict.entries, WiredPair e := by
    rw [p.toDict_entries]
    simp only [List.forall_mem_cons, List.not_mem_nil, false_implies, implies_true, and_true]
    exact ⟨wiredPair (by decide) hcode, wiredPair (by decide) hmessage⟩
  rw [encodeKvList_encodes hwired, p.toDict_entries]
  simp

theorem IsPayload.normal {t : FrameType} {p : Payload} {bs : Bytes} (h : IsPayload t p bs) :
    p.Normal := by
  cases t with
  | unset => cases h
  | haproxyHello =>
    obtain ⟨d, p, hd, hp, rfl⟩ := h
    exact hp.normal hd.wired
  | agentHello =>
    obtain ⟨d, p, hd, hp, rfl⟩ := h
    exact hp.normal hd.wired
  | haproxyDisconnect | agentDisconnect =>
    obtain ⟨d, p, hd, hp, rfl⟩ := h
    obtain ⟨hcode, hmessage, henc⟩ := hp.normal hd.wired
    refine ⟨⟨hcode, hmessage⟩, ?_⟩
    rw [Payload.encode, henc]
    simp [Payload.values]
  | notify =>
    obtain ⟨messages, hmessages, rfl⟩ := h
    have hwired : ∀ m ∈ messages, WiredMessage m := by
      intro m hm
      obtain ⟨x, hx⟩ := hmessages.mem hm
      exact hx.wired
    refine ⟨fun m hm p hp => ((hwired m hm).args p hp).2.noScope, ?_⟩
    rw [Payload.encode, encodeMessageList, extendAll_isOk]
    simp only [Payload.values, List.mem_flatMap, List.mem_map]
    constructor
    · rintro hall v ⟨m, hm, p, hp, rfl⟩
      exact (hwired m hm).encodes.mp (hall m hm) p hp
    · intro hall m hm
      exact (hwired m hm).encodes.mpr fun p hp => hall _ ⟨m, hm, p, hp, rfl⟩
  | ack =>
    obtain ⟨actions, hactions, rfl⟩ := h
    have hactions : ∀ a ∈ actions, ∃ x, IsAction a x := fun a ha => hactions.mem ha
    constructor
    · intro a ha
      obtain ⟨x, hx⟩ := hactions a ha
      exact hx.carried
    · rw [Payload.encode, encodeActionList, extendAll_isOk]
      simp only [Payload.values, List.mem_flatMap]
      constructor
      · rintro hall v ⟨a, ha, hv⟩
        obtain ⟨x, hx⟩ := hactions a ha
        exact hx.encodes.mp (hall a ha) v hv
      · intro hall a ha
        obtain ⟨x, hx⟩ := hactions a ha
        exact hx.encodes.mpr fun v hv => hall v ⟨a, ha, hv⟩

/-! ### Frames -/

theorem IsMetadata.lt {md : MetaData} {bs : Bytes} (h : IsMetadata md bs) :
    md.streamId < 2 ^ 63 ∧ md.frameId < 2 ^ 63 := by
  obtain ⟨a, b, c, d, s, n, x, y, -, -, rfl, -⟩ := h
  exact ⟨(cInt_bounds 63 s).2, (cInt_bounds 63 n).2⟩

theorem IsBody.carried {f : Frame} {body : Bytes} (h : IsBody f body) : f.Carried := by
  obtain ⟨md, payload, hmd, hpayload, -⟩ := h
  exact ⟨hmd.lt.1, hmd.lt.2, hpayload.normal.1⟩

theorem IsBody.encodes {f : Frame} {body : Bytes} (h : IsBody f body) :
    (∃ out, f.body = .ok out) ↔ 0 ≤ f.metadata.streamId ∧ 0 ≤ f.metadata.frameId ∧
      ∀ v ∈ f.payload.values, v.Narrow := by
  obtain ⟨md, payload, hmd, hpayload, -⟩ := h
  rw [← hpayload.normal.2]
  constructor
  · rintro ⟨out, hout⟩
    obtain ⟨x, y, hx, hy, -⟩ := Frame.body_ok.mp hout
    obtain ⟨hs, hn, -⟩ := encodeMetadata_ok.mp hx
    exact ⟨hs, hn, y, hy⟩
  · rintro ⟨hs, hn, y, hy⟩
    exact ⟨_, Frame.body_ok.mpr ⟨_, y, encodeMetadata_ok.mpr ⟨hs, hn, rfl⟩, hy, rfl⟩⟩

/-- The body of a decoded frame is written again exactly when its identifiers are not negative and
no integer in it is above INT64, and what is written of it is read back as the same frame. -/
theorem decoded_frame_again {stream rest : Bytes} {m : ℤ} {f : Frame}
    (h : Frame.decode ⟨stream⟩ m = (.ok f, ⟨rest⟩)) :
    ((∃ out, f.body = .ok out) ↔ 0 ≤ f.metadata.streamId ∧ 0 ≤ f.metadata.frameId ∧
      ∀ v ∈ f.payload.values, v.Narrow) ∧
    ∀ (limit : ℤ) (bs next : Bytes), f.encode limit = .ok bs →
      Frame.decode ⟨bs ++ next⟩ limit = (.ok f, ⟨next⟩) := by
  obtain ⟨bs, ⟨len, body, -, -, hbody, -⟩, -⟩ := Frame.decode_isFrame h
  have hbody := decodeBody_iff.mp hbody
  exact ⟨hbody.encodes, fun limit bs next hbs => Frame.decode_encode hbody.carried hbs⟩

/-- A UINT32 is written again, as an INT64; a UINT64 of `2^63` is not. -/
theorem decoded_frame_again_uint :
    (∃ out, (⟨⟨⟨true, false⟩, 7, 1⟩,
      .notify [(str "m", Dict.ofPairs [(str "a", .int 5)])]⟩ : Frame).body = .ok out) ∧
    ¬∃ out, (⟨⟨⟨true, false⟩, 7, 1⟩,
      .notify [(str "m", Dict.ofPairs [(str "a", .int (2 ^ 63))])]⟩ : Frame).body = .ok out := by
  have hsmall : Frame.decode ⟨[0, 0, 0, 14, 3, 0, 0, 0, 1, 7, 1, 1, 109, 1, 1, 97, 3, 5]⟩ 4096 =
      (.ok ⟨⟨⟨true, false⟩, 7, 1⟩, .notify [(str "m", Dict.ofPairs [(str "a", .int 5)])]⟩,
        ⟨[]⟩) := by
    decide +kernel
  have hlarge : Frame.decode ⟨[0, 0, 0, 23, 3, 0, 0, 0, 1, 7, 1, 1, 109, 1, 1, 97, 5, 240, 241, 254,
      254, 254, 254, 254, 254, 254, 6]⟩ 4096 =
      (.ok ⟨⟨⟨true, false⟩, 7, 1⟩, .notify [(str "m", Dict.ofPairs [(str "a", .int (2 ^ 63))])]⟩,
        ⟨[]⟩) := by
    decide +kernel
  constructor
  · refine (decoded_frame_again hsmall).1.mpr ⟨by decide, by decide, fun v hv => ?_⟩
    obtain rfl := List.mem_singleton.mp hv
    exact (by decide : (5 : ℤ) ≤ INT64_MAX)
  · intro hout
    have hnarrow := ((decoded_frame_again hlarge).1.mp hout).2.2 _ (List.mem_singleton_self _)
    exact absurd hnarrow (by decide : ¬(2 ^ 63 : ℤ) ≤ INT64_MAX)

end SpoeForge
