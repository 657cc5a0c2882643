import SpoeForge.Wire.EndOfStream
import SpoeForge.Wire.Grammar

/-!
# The grammar of frames

Which bytes are a frame, said without reading them: the type, the metadata, and a payload of
the language of the type. `Frame.decode` takes exactly these off the stream.
-/

namespace SpoeForge

open Fallible OffsetReader Grammar

/-! ### Metadata -/

/-- FIN and ABORT in the last of the four flag bytes; the others are free. -/
def flagsOf (b : Byte) : Flags :=
  ⟨decide (b.val &&& FLAG_FIN = FLAG_FIN), decide (b.val &&& FLAG_ABORT = FLAG_ABORT)⟩

/-- Four flag bytes, then STREAM-ID and FRAME-ID as varints that wrap to INT64. -/
def IsMetadata : Lang Byte MetaData := fun md bs =>
  ∃ (a b c d : Byte) (s n : ℕ) (x y : Bytes), IsVarint s x ∧ IsVarint n y ∧
    md = ⟨flagsOf d, cInt 64 s, cInt 64 n⟩ ∧ bs = a :: b :: c :: d :: (x ++ y)

theorem decodeInt64_recognizes :
    Recognizes decodeInt64 fun i bs => ∃ n, IsVarint n bs ∧ i = cInt 64 n :=
  parseVarint_recognizes.map (cInt 64)

theorem decodeMetadata_recognizes : Recognizes decodeMetadata IsMetadata := by
  intro buf off md off' hoff
  constructor
  · intro h
    unfold decodeMetadata at h
    split at h
    · cases h
    · rename_i d hd
      have hlt := (List.getElem?_eq_some_iff.mp hd).1
      obtain ⟨⟨i, mid⟩, hi, h⟩ := bind_eq_ok.mp h
      obtain ⟨⟨j, fin⟩, hj, h⟩ := bind_eq_ok.mp h
      cases h
      obtain ⟨x, hx, ⟨s, hs, rfl⟩, rfl⟩ :=
        (decodeInt64_recognizes buf _ _ _ (by omega)).mp (reraise_ok.mp hi)
      obtain ⟨y, hy, ⟨n, hn, rfl⟩, rfl⟩ :=
        (decodeInt64_recognizes buf _ _ _ hx.length_le).mp (reraise_ok.mp hj)
      obtain ⟨a, ha⟩ : ∃ a, buf[off]? = some a := ⟨_, List.getElem?_eq_getElem (by omega)⟩
      obtain ⟨b, hb⟩ : ∃ b, buf[off + 1]? = some b := ⟨_, List.getElem?_eq_getElem (by omega)⟩
      obtain ⟨c, hc⟩ : ∃ c, buf[off + 2]? = some c := ⟨_, List.getElem?_eq_getElem (by omega)⟩
      refine ⟨a :: b :: c :: d :: (x ++ y), ?_, ⟨a, b, c, d, s, n, x, y, hs, hn, rfl, rfl⟩, ?_⟩
      · exact at_cons.mpr ⟨ha, at_cons.mpr ⟨hb, at_cons.mpr ⟨hc, at_cons.mpr ⟨hd,
          at_append.mpr ⟨hx, hy⟩⟩⟩⟩⟩
      · simp only [List.length_append, List.length_cons]
        omega
  · rintro ⟨bs, hat, ⟨a, b, c, d, s, n, x, y, hs, hn, rfl, rfl⟩, rfl⟩
    obtain ⟨-, hat⟩ := at_cons.mp hat
    obtain ⟨-, hat⟩ := at_cons.mp hat
    obtain ⟨-, hat⟩ := at_cons.mp hat
    obtain ⟨hd, hat⟩ := at_cons.mp hat
    obtain ⟨hx, hy⟩ := at_append.mp hat
    have hstream := decodeInt64_recognizes.reads ⟨s, hs, rfl⟩ buf _ hx
    have hframe := decodeInt64_recognizes.reads ⟨n, hn, rfl⟩ buf _ hy
    simp only [decodeMetadata, hd, hstream, reraise, ok_bind, hframe, flagsOf, List.length_append,
      List.length_cons]
    congr 2
    omega

/-! ### Payloads -/

/-- Pairs up to the end; a key that comes again replaces its value. -/
def IsDict : Lang Byte (Dict Str Value) := fun d bs =>
  ∃ pairs, Many IsKvPair pairs bs ∧ d = Dict.ofPairs pairs

/-- The keys of a HAPROXY-HELLO; all others are ignored. -/
structure HaproxyHello.Of (d : Dict Str Value) (p : HaproxyHello) : Prop where
  supportedVersions : ∃ s, d.get? keySupportedVersions = some (.str s) ∧
    p.supportedVersions = fromSpopList s
  maxFrameSize : d.get? keyMaxFrameSize = some p.maxFrameSize
  capabilities : ∃ s, d.get? keyCapabilities = some (.str s) ∧ p.capabilities = fromSpopList s
  engineId : p.engineId = (d.get? keyEngineId).getD .none
  healthcheck : p.healthcheck = (d.get? keyHealthcheck).getD (.bool false)

/-- The keys of an AGENT-HELLO. -/
structure AgentHello.Of (d : Dict Str Value) (p : AgentHello) : Prop where
  version : d.get? keyVersion = some p.version
  maxFrameSize : d.get? keyMaxFrameSize = some p.maxFrameSize
  capabilities : ∃ s, d.get? keyCapabilities = some (.str s) ∧ p.capabilities = fromSpopList s

/-- The keys of a DISCONNECT. -/
structure Disconnect.Of (d : Dict Str Value) (p : Disconnect) : Prop where
  statusCode : d.get? keyStatusCode = some p.statusCode
  message : d.get? keyMessage = some p.message

/-- A payload that is a key-value list with these keys. -/
def IsKvPayload {α : Type} (Of : Dict Str Value → α → Prop) (wrap : α → Payload) :
    Lang Byte Payload := fun payload bs => ∃ d a, IsDict d bs ∧ Of d a ∧ payload = wrap a

/-- The payloads of each type. -/
def IsPayload : FrameType → Lang Byte Payload
  | .unset => fun _ _ => False
  | .haproxyHello => IsKvPayload HaproxyHello.Of .haproxyHello
  | .agentHello => IsKvPayload AgentHello.Of .agentHello
  | .haproxyDisconnect => IsKvPayload Disconnect.Of .haproxyDisconnect
  | .agentDisconnect => IsKvPayload Disconnect.Of .agentDisconnect
  | .notify => fun payload bs => ∃ messages, Many IsMessage messages bs ∧ payload = .notify messages
  | .ack => fun payload bs => ∃ actions, Many IsAction actions bs ∧ payload = .ack (some actions)

theorem getItem_str {d : Dict Str Value} {key : Str} {v : Value} {items : List Str} :
    (getItem d key = .ok v ∧ fromSpopListValue v = .ok items) ↔
      ∃ s, v = .str s ∧ d.get? key = some (.str s) ∧ items = fromSpopList s := by
  rw [getItem_ok]
  constructor
  · rintro ⟨hget, hitems⟩
    cases v with
    | str s =>
      cases hitems
      exact ⟨s, rfl, hget, rfl⟩
    | none | bool | int | ipv4 | ipv6 | bytes => cases hitems
  · rintro ⟨s, rfl, hget, rfl⟩
    exact ⟨hget, rfl⟩

theorem HaproxyHello.ofDict_ok {d : Dict Str Value} {p : HaproxyHello} :
    HaproxyHello.ofDict d = .ok p ↔ HaproxyHello.Of d p := by
  unfold HaproxyHello.ofDict
  constructor
  · intro h
    obtain ⟨v, hv, h⟩ := bind_eq_ok.mp h
    obtain ⟨vs, hvs, h⟩ := bind_eq_ok.mp h
    obtain ⟨size, hsize, h⟩ := bind_eq_ok.mp h
    obtain ⟨c, hc, h⟩ := bind_eq_ok.mp h
    obtain ⟨cs, hcs, h⟩ := bind_eq_ok.mp h
    cases h
    obtain ⟨s, -, hs, rfl⟩ := getItem_str.mp ⟨hv, hvs⟩
    obtain ⟨t, -, ht, rfl⟩ := getItem_str.mp ⟨hc, hcs⟩
    exact ⟨⟨s, hs, rfl⟩, getItem_ok.mp hsize, ⟨t, ht, rfl⟩, rfl, rfl⟩
  · rintro ⟨⟨s, hs, hvs⟩, hsize, ⟨t, ht, hcs⟩, hengine, hcheck⟩
    obtain ⟨versions, size, capabilities, engineId, healthcheck⟩ := p
    dsimp only at hvs hsize hcs hengine hcheck
    subst hvs hcs hengine hcheck
    rw [getItem_ok.mpr hs, ok_bind, getItem_ok.mpr hsize, getItem_ok.mpr ht]
    rfl

theorem AgentHello.ofDict_ok {d : Dict Str Value} {p : AgentHello} :
    AgentHello.ofDict d = .ok p ↔ AgentHello.Of d p := by
  unfold AgentHello.ofDict
  constructor
  · intro h
    obtain ⟨version, hversion, h⟩ := bind_eq_ok.mp h
    obtain ⟨size, hsize, h⟩ := bind_eq_ok.mp h
    obtain ⟨c, hc, h⟩ := bind_eq_ok.mp h
    obtain ⟨cs, hcs, h⟩ := bind_eq_ok.mp h
    cases h
    obtain ⟨t, -, ht, rfl⟩ := getItem_str.mp ⟨hc, hcs⟩
    exact ⟨getItem_ok.mp hversion, getItem_ok.mp hsize, t, ht, rfl⟩
  · rintro ⟨hversion, hsize, t, ht, hcs⟩
    obtain ⟨version, size, capabilities⟩ := p
    dsimp only at hversion hsize hcs
    subst hcs
    rw [getItem_ok.mpr hversion, ok_bind, getItem_ok.mpr hsize, ok_bind, getItem_ok.mpr ht]
    rfl

theorem Disconnect.ofDict_ok {d : Dict Str Value} {p : Disconnect} :
    Disconnect.ofDict d = .ok p ↔ Disconnect.Of d p := by
  unfold Disconnect.ofDict
  constructor
  · intro h
    obtain ⟨code, hcode, h⟩ := bind_eq_ok.mp h
    obtain ⟨message, hmessage, h⟩ := bind_eq_ok.mp h
    cases h
    exact ⟨getItem_ok.mp hcode, getItem_ok.mp hmessage⟩
  · rintro ⟨hcode, hmessage⟩
    rw [getItem_ok.mpr hcode, ok_bind, getItem_ok.mpr hmessage]
    rfl

theorem decodeKvList_iff {buf : Bytes} {off off' : ℕ} {d : Dict Str Value}
    (hoff : off ≤ buf.length) : decodeKvList buf off buf.length = .ok (d, off') ↔
      IsDict d (buf.drop off) ∧ off' = buf.length := by
  rw [decodeKvList, readUntil_recognizes parseKvPair_recognizes parseKvPair_advances setPair buf off
    _ _ _ hoff]
  constructor
  · rintro ⟨pairs, hpairs, rfl, rfl⟩
    exact ⟨⟨pairs, hpairs, rfl⟩, rfl⟩
  · rintro ⟨⟨pairs, hpairs, rfl⟩, rfl⟩
    exact ⟨pairs, hpairs, rfl, rfl⟩

theorem readUntil_iff {α : Type} {item : Dec α} {G : Lang Byte α} (h : Recognizes item G)
    (hi : Advances item) (wrap : List α → Payload) {buf : Bytes} {off off' : ℕ} {payload : Payload}
    (hoff : off ≤ buf.length) :
    (do let (xs, off) ← readUntil item pushBack buf off buf.length []
        .ok (wrap xs, off)) = .ok (payload, off') ↔
      (∃ xs, Many G xs (buf.drop off) ∧ payload = wrap xs) ∧ off' = buf.length := by
  constructor
  · intro hr
    obtain ⟨⟨xs, fin⟩, hxs, hr⟩ := bind_eq_ok.mp hr
    cases hr
    obtain ⟨as, has, rfl, rfl⟩ :=
      (readUntil_recognizes h hi pushBack buf off _ _ _ hoff).mp hxs
    rw [foldl_pushBack, List.nil_append]
    exact ⟨⟨as, has, rfl⟩, rfl⟩
  · rintro ⟨⟨xs, hxs, rfl⟩, rfl⟩
    have hr := (readUntil_recognizes h hi pushBack buf off [] _ _ hoff).mpr ⟨xs, hxs, rfl, rfl⟩
    rw [foldl_pushBack, List.nil_append] at hr
    rw [hr]
    rfl

theorem decodeKvPayload_iff {α : Type} {ofDict : Dict Str Value → Except Exc α}
    {Of : Dict Str Value → α → Prop} (hof : ∀ d a, ofDict d = .ok a ↔ Of d a) (wrap : α → Payload)
    {buf : Bytes} {off off' : ℕ} {payload : Payload} (hoff : off ≤ buf.length) :
    decodeKvPayload ofDict wrap buf off buf.length = .ok (payload, off') ↔
      IsKvPayload Of wrap payload (buf.drop off) ∧ off' = buf.length := by
  unfold decodeKvPayload
  constructor
  · intro h
    obtain ⟨⟨d, mid⟩, hd, h⟩ := bind_eq_ok.mp h
    obtain ⟨a, ha, h⟩ := bind_eq_ok.mp h
    cases h
    obtain ⟨hdict, rfl⟩ := (decodeKvList_iff hoff).mp hd
    exact ⟨⟨d, a, hdict, (hof d a).mp ha, rfl⟩, rfl⟩
  · rintro ⟨⟨d, a, hdict, ha, rfl⟩, rfl⟩
    rw [(decodeKvList_iff hoff).mpr ⟨hdict, rfl⟩, ok_bind]
    dsimp only
    rw [(hof d a).mpr ha]
    rfl

theorem decodePayload_iff (t : FrameType) {buf : Bytes} {off off' : ℕ} {payload : Payload}
    (hoff : off ≤ buf.length) : decodePayload t buf off buf.length = .ok (payload, off') ↔
      IsPayload t payload (buf.drop off) ∧ off' = buf.length := by
  cases t with
  | unset => exact iff_of_false (fun h => by cases h) fun h => h.1
  | haproxyHello =>
    exact decodeKvPayload_iff (fun d _ => HaproxyHello.ofDict_ok (d := d)) .haproxyHello hoff
  | agentHello =>
    exact decodeKvPayload_iff (fun d _ => AgentHello.ofDict_ok (d := d)) .agentHello hoff
  | haproxyDisconnect =>
    exact decodeKvPayload_iff (fun d _ => Disconnect.ofDict_ok (d := d)) .haproxyDisconnect hoff
  | agentDisconnect =>
    exact decodeKvPayload_iff (fun d _ => Disconnect.ofDict_ok (d := d)) .agentDisconnect hoff
  | notify => exact readUntil_iff decodeMessage_recognizes decodeMessage_advances .notify hoff
  | ack =>
    exact readUntil_iff decodeAction_recognizes decodeAction_advances
      (fun actions => .ack (some actions)) hoff

theorem IsPayload.frameType {t : FrameType} {payload : Payload} {bs : Bytes}
    (h : IsPayload t payload bs) : payload.frameType = t := by
  cases t with
  | unset => cases h
  | haproxyHello | agentHello | haproxyDisconnect | agentDisconnect =>
    obtain ⟨_, _, -, -, rfl⟩ := h
    rfl
  | notify | ack =>
    obtain ⟨_, -, rfl⟩ := h
    rfl

/-! ### Frames -/

/-- The body of a frame: the type, the metadata and a payload of the type. -/
def IsBody : Lang Byte Frame := fun f bs =>
  ∃ md payload, IsMetadata f.metadata md ∧ IsPayload f.frameType f.payload payload ∧
    bs = byte f.frameType.value :: (md ++ payload)

theorem FrameType.ofValue_eq_some {n : ℕ} {t : FrameType} :
    FrameType.ofValue n = some t ↔ n = t.value := by
  constructor
  · intro h
    unfold FrameType.ofValue at h
    split at h <;> cases h <;> rfl
  · rintro rfl
    exact FrameType.ofValue_value t

theorem missingKey_ok {α : Type} {t : FrameType} {x : Except Exc α} {a : α} :
    missingKey t x = .ok a ↔ x = .ok a := by
  cases x with
  | ok b => rfl
  | error e =>
    simp only [missingKey]
    split <;> simp

theorem decodeBody_iff {body : Bytes} {f : Frame} : decodeBody body = .ok f ↔ IsBody f body := by
  unfold decodeBody
  constructor
  · intro h
    split at h
    · cases h
    · rename_i b hb
      split at h
      · cases h
      · rename_i t ht
        obtain ⟨⟨md, off⟩, hm, h⟩ := bind_eq_ok.mp h
        obtain ⟨⟨payload, fin⟩, hp, h⟩ := bind_eq_ok.mp h
        have hlt := (List.getElem?_eq_some_iff.mp hb).1
        obtain ⟨x, hx, hmd, rfl⟩ := (decodeMetadata_recognizes body 1 md off hlt).mp hm
        obtain ⟨hpayload, rfl⟩ := (decodePayload_iff t hx.length_le).mp (missingKey_ok.mp hp)
        simp only [ne_eq, not_true_eq_false, if_false, Except.ok.injEq] at h
        subst h
        have htype : t = payload.frameType := hpayload.frameType.symm
        subst htype
        refine ⟨x, _, hmd, hpayload, ?_⟩
        obtain ⟨post, hpost⟩ := hx.drop
        have hrest : body.drop (1 + x.length) = post := by
          rw [← List.drop_drop, hpost, List.drop_left']
          rfl
        have hfirst : b = byte payload.frameType.value := by
          rw [← FrameType.ofValue_eq_some.mp ht, byte_of_val]
        rw [hrest, ← hpost]
        change body = byte payload.frameType.value :: body.drop 1
        rw [← hfirst]
        cases body with
        | nil => cases hb
        | cons c body =>
          cases hb
          rfl
  · rintro ⟨x, y, hmd, hpayload, rfl⟩
    have hval : FrameType.ofValue (byte f.frameType.value).val = some f.frameType := by
      rw [byte_val_of_lt (Nat.lt_trans f.frameType.value_lt (by decide))]
      exact FrameType.ofValue_value f.frameType
    have hat : At (byte f.frameType.value :: (x ++ y)) 1 x :=
      ⟨[byte f.frameType.value], y, rfl, rfl⟩
    have hdrop : (byte f.frameType.value :: (x ++ y)).drop (1 + x.length) = y := by
      rw [Nat.add_comm, List.drop_succ_cons, List.drop_left']
      rfl
    have hm := decodeMetadata_recognizes.reads hmd _ _ hat
    have hp := (decodePayload_iff f.frameType hat.length_le).mpr ⟨by rwa [hdrop], rfl⟩
    simp only [List.getElem?_cons_zero, hval, hm, ok_bind, hp, missingKey, ne_eq,
      not_true_eq_false, if_false]

/-- `Frame.decode` returns a frame exactly when the stream begins with a length within the limit
and so many bytes of a frame body; it takes these bytes and no others. -/
theorem decode_grammar (stream rest : Bytes) (m : ℤ) (f : Frame) :
    Frame.decode ⟨stream⟩ m = (.ok f, ⟨rest⟩) ↔
      ∃ len body, unpackU32 len = some body.length ∧ (body.length : ℤ) ≤ m ∧ IsBody f body ∧
        stream = len ++ body ++ rest := by
  constructor
  · intro h
    obtain ⟨bs, ⟨len, body, hlen, hle, hbody, rfl⟩, hstream⟩ := Frame.decode_isFrame h
    exact ⟨len, body, hlen, hle, decodeBody_iff.mp hbody, hstream⟩
  · rintro ⟨len, body, hlen, hle, hbody, rfl⟩
    have hframe : IsFrame m f (len ++ body) := ⟨len, body, hlen, hle, decodeBody_iff.mpr hbody, rfl⟩
    exact hframe.decode rest

end SpoeForge
