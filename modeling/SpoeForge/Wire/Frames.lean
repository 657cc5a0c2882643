import SpoeForge.Wire.Payloads
import SpoeForge.Wire.SpopLists

/-!
# Frames on the wire (`spop/frame.py`)

What an encoded frame is made of, that its body is read back as the same frame, and
that `Frame.decode` takes exactly the frame off the reader.
-/

namespace SpoeForge

open Fallible OffsetReader

/-! ### Comma-separated lists -/

/-- An item that `to_spop_list` writes as it is. -/
def CleanItem (s : Str) : Prop := s ≠ [] ∧ ',' ∉ s ∧ strip s = s

instance (s : Str) : Decidable (CleanItem s) := inferInstanceAs (Decidable (_ ∧ _ ∧ _))

theorem fromSpopList_toSpopList {xs : List Str} (h : ∀ s ∈ xs, CleanItem s) :
    fromSpopList (toSpopList xs) = xs := by
  rw [fromSpopList_toSpopList_pieces]
  exact Pieces.flatMap_pieces_eq_self.mpr h

/-! ### Frames that the wire carries in full -/

/-- What the payloads of a frame may hold for the wire to carry it in full: clean list
items, no IPv6 scope ids, an action list of well-typed actions. -/
def Payload.Carried : Payload → Prop
  | .haproxyHello p => (∀ s ∈ p.supportedVersions, CleanItem s) ∧ (∀ s ∈ p.capabilities, CleanItem s) ∧
      p.maxFrameSize.NoScope ∧ p.healthcheck.NoScope ∧ p.engineId.NoScope
  | .agentHello p => (∀ s ∈ p.capabilities, CleanItem s) ∧ p.version.NoScope ∧
      p.maxFrameSize.NoScope
  | .haproxyDisconnect p => p.statusCode.NoScope ∧ p.message.NoScope
  | .agentDisconnect p => p.statusCode.NoScope ∧ p.message.NoScope
  | .notify messages => ∀ m ∈ messages, ∀ p ∈ m.2.entries, p.2.NoScope
  | .ack none => False
  | .ack (some actions) => ∀ a ∈ actions, a.Carried

/-- A frame whose ids lie in `[0, 2^63)` and whose payload the wire carries in full. -/
structure Frame.Carried (f : Frame) : Prop where
  streamId_lt : f.metadata.streamId < 2 ^ 63
  frameId_lt : f.metadata.frameId < 2 ^ 63
  payload : f.payload.Carried

/-! ### Encoding -/

theorem encodeTinyInt_frameType (t : FrameType) :
    encodeTinyInt t.value = .ok [byte t.value] := by
  cases t <;> rfl

theorem Frame.body_ok {f : Frame} {out : Bytes} :
    f.body = .ok out ↔ ∃ md payload, encodeMetadata f.metadata = .ok md ∧
      f.payload.encode = .ok payload ∧ out = [byte f.frameType.value] ++ md ++ payload := by
  unfold Frame.body
  rw [encodeTinyInt_frameType, ok_bind]
  simp only [bind_eq_ok, Except.ok.injEq]
  constructor
  · rintro ⟨md, hm, payload, hp, rfl⟩
    exact ⟨md, payload, hm, hp, rfl⟩
  · rintro ⟨md, payload, hm, hp, rfl⟩
    exact ⟨md, hm, payload, hp, rfl⟩

theorem encodeFrameLen_ok {n : ℕ} {bs : Bytes} :
    encodeFrameLen n = .ok bs ↔ packU32 n = some bs := by
  unfold encodeFrameLen
  cases packU32 n <;> simp

theorem tooBig_ne_ok {α : Type} (n : ℕ) (m : ℤ) (a : α) : tooBig n m ≠ .ok a := by
  intro h
  obtain ⟨t, -, h⟩ := bind_eq_ok.mp h
  cases h

/-- A frame is encoded exactly when its body is, fits the limit and the four-byte length,
and the limit can be logged. -/
theorem Frame.encode_ok {f : Frame} {m : ℤ} {bs : Bytes} :
    f.encode m = .ok bs ↔ ∃ out len, f.body = .ok out ∧ packU32 out.length = some len ∧
      (out.length : ℤ) ≤ m ∧ Printable m ∧ bs = len ++ out := by
  unfold Frame.encode
  simp only [bind_eq_ok, encodeFrameLen_ok]
  constructor
  · rintro ⟨out, hout, len, hlen, h⟩
    split at h
    · exact absurd h (tooBig_ne_ok _ _ _)
    · obtain ⟨t, ht, h⟩ := bind_eq_ok.mp h
      cases h
      exact ⟨out, len, hout, hlen, by omega, (intStr_ok.mp ht).1, rfl⟩
  · rintro ⟨out, len, hout, hlen, hle, hm, rfl⟩
    refine ⟨out, hout, len, hlen, ?_⟩
    have hn : ¬(out.length : ℤ) > m := by omega
    rw [if_neg hn, intStr_ok.mpr ⟨hm, rfl⟩, ok_bind]

/-! ### Key-value payloads -/

theorem getItem_ok {payload : Dict Str Value} {key : Str} {v : Value} :
    getItem payload key = .ok v ↔ payload.get? key = some v := by
  unfold getItem
  cases payload.get? key <;> simp

theorem helloKeys_nodup :
    [keySupportedVersions, keyMaxFrameSize, keyCapabilities, keyHealthcheck, keyEngineId].Nodup := by
  decide

theorem agentHelloKeys_nodup : [keyVersion, keyMaxFrameSize, keyCapabilities].Nodup := by
  decide

theorem disconnectKeys_nodup : [keyStatusCode, keyMessage].Nodup := by
  decide

theorem HaproxyHello.toDict_entries (p : HaproxyHello) :
    p.toDict.entries = [(keySupportedVersions, .str (toSpopList p.supportedVersions)),
      (keyMaxFrameSize, p.maxFrameSize), (keyCapabilities, .str (toSpopList p.capabilities)),
      (keyHealthcheck, p.healthcheck)] ++
        if p.engineId = .none then [] else [(keyEngineId, p.engineId)] := by
  have hk : ([keySupportedVersions, keyMaxFrameSize, keyCapabilities, keyHealthcheck] ++
      [keyEngineId]).Nodup := helloKeys_nodup
  obtain ⟨hfour, -, hfive⟩ := List.nodup_append.mp hk
  have hof : (Dict.ofPairs [(keySupportedVersions, Value.str (toSpopList p.supportedVersions)),
      (keyMaxFrameSize, p.maxFrameSize), (keyCapabilities, .str (toSpopList p.capabilities)),
      (keyHealthcheck, p.healthcheck)]).entries = _ := Dict.ofPairs_entries _ hfour
  unfold HaproxyHello.toDict
  dsimp only
  split
  · rw [List.append_nil, hof]
  · rw [Dict.set_entries_of_not_mem, hof]
    rw [Dict.keys, hof]
    exact fun hm => hfive keyEngineId hm keyEngineId (List.mem_singleton_self _) rfl

theorem AgentHello.toDict_entries (p : AgentHello) :
    p.toDict.entries = [(keyVersion, p.version), (keyMaxFrameSize, p.maxFrameSize),
      (keyCapabilities, .str (toSpopList p.capabilities))] :=
  Dict.ofPairs_entries [_, _, _] agentHelloKeys_nodup

theorem Disconnect.toDict_entries (p : Disconnect) :
    p.toDict.entries = [(keyStatusCode, p.statusCode), (keyMessage, p.message)] :=
  Dict.ofPairs_entries [_, _] disconnectKeys_nodup

theorem HaproxyHello.get?_engineId (p : HaproxyHello) :
    (p.toDict.get? keyEngineId).getD .none = p.engineId := by
  by_cases he : p.engineId = .none
  · have hnot : keyEngineId ∉ p.toDict.keys := by
      rw [Dict.keys, p.toDict_entries, if_pos he]
      exact (by decide : keyEngineId ∉ [keySupportedVersions, keyMaxFrameSize,
        keyCapabilities, keyHealthcheck])
    rw [Dict.get?_of_not_mem hnot, he]
    rfl
  · have hmem : (keyEngineId, p.engineId) ∈ p.toDict.entries := by
      rw [p.toDict_entries, if_neg he]
      simp
    rw [Dict.get?_of_mem hmem, Option.getD_some]

theorem HaproxyHello.ofDict_toDict {p : HaproxyHello}
    (hv : ∀ s ∈ p.supportedVersions, CleanItem s) (hc : ∀ s ∈ p.capabilities, CleanItem s) :
    HaproxyHello.ofDict p.toDict = .ok p := by
  have hget : ∀ k v, (k, v) ∈ p.toDict.entries → getItem p.toDict k = .ok v :=
    fun k v h => getItem_ok.mpr (Dict.get?_of_mem h)
  rw [p.toDict_entries] at hget
  have hversions := hget keySupportedVersions (.str (toSpopList p.supportedVersions)) (by simp)
  have hmax := hget keyMaxFrameSize p.maxFrameSize (by simp)
  have hcaps := hget keyCapabilities (.str (toSpopList p.capabilities)) (by simp)
  have hhealth := getItem_ok.mp (hget keyHealthcheck p.healthcheck (by simp))
  simp only [HaproxyHello.ofDict, hversions, hmax, hcaps, hhealth, p.get?_engineId, ok_bind,
    fromSpopListValue, fromSpopList_toSpopList hv, fromSpopList_toSpopList hc, Option.getD_some]

theorem AgentHello.ofDict_toDict {p : AgentHello} (hc : ∀ s ∈ p.capabilities, CleanItem s) :
    AgentHello.ofDict p.toDict = .ok p := by
  have hget : ∀ k v, (k, v) ∈ p.toDict.entries → getItem p.toDict k = .ok v :=
    fun k v h => getItem_ok.mpr (Dict.get?_of_mem h)
  rw [p.toDict_entries] at hget
  have hversion := hget keyVersion p.version (by simp)
  have hmax := hget keyMaxFrameSize p.maxFrameSize (by simp)
  have hcaps := hget keyCapabilities (.str (toSpopList p.capabilities)) (by simp)
  simp only [AgentHello.ofDict, hversion, hmax, hcaps, ok_bind, fromSpopListValue,
    fromSpopList_toSpopList hc]

theorem Disconnect.ofDict_toDict (p : Disconnect) : Disconnect.ofDict p.toDict = .ok p := by
  have hget : ∀ k v, (k, v) ∈ p.toDict.entries → getItem p.toDict k = .ok v :=
    fun k v h => getItem_ok.mpr (Dict.get?_of_mem h)
  rw [p.toDict_entries] at hget
  have hcode := hget keyStatusCode p.statusCode (by simp)
  have hmessage := hget keyMessage p.message (by simp)
  simp only [Disconnect.ofDict, hcode, hmessage, ok_bind]

/-! ### Reading a frame back -/

theorem decodeKvPayload_reads {α : Type} {ofDict : Dict Str Value → Except Exc α}
    {wrap : α → Payload} {p : α} {d : Dict Str Value} {out buf : Bytes} {off : ℕ}
    (hof : ofDict d = .ok p) (hv : ∀ e ∈ d.entries, e.2.NoScope) (h : encodeKvList d = .ok out)
    (hat : At buf off out) :
    decodeKvPayload ofDict wrap buf off (off + out.length) = .ok (wrap p, off + out.length) := by
  simp only [decodeKvPayload, decodeKvList_reads hv h hat, ok_bind, hof]

/-- Every payload that ends the buffer is read back as the same payload. -/
theorem decodePayload_reads {p : Payload} {out buf : Bytes} {off : ℕ} (hp : p.Carried)
    (h : p.encode = .ok out) (hat : At buf off out) :
    decodePayload p.frameType buf off (off + out.length) = .ok (p, off + out.length) := by
  cases p with
  | haproxyHello p =>
    obtain ⟨hv, hc, hm, hh, he⟩ := hp
    refine decodeKvPayload_reads (HaproxyHello.ofDict_toDict hv hc) ?_ h hat
    intro e hmem
    rw [p.toDict_entries] at hmem
    by_cases hn : p.engineId = .none <;>
      simp only [hn, if_true, if_false, List.append_nil, List.cons_append, List.nil_append,
        List.mem_cons, List.not_mem_nil, or_false] at hmem
    · rcases hmem with rfl | rfl | rfl | rfl <;> simp [hm, hh]
    · rcases hmem with rfl | rfl | rfl | rfl | rfl <;> simp [hm, hh, he]
  | agentHello p =>
    obtain ⟨hc, hv, hm⟩ := hp
    refine decodeKvPayload_reads (AgentHello.ofDict_toDict hc) ?_ h hat
    rw [p.toDict_entries]
    simp [hm, hv]
  | haproxyDisconnect p =>
    refine decodeKvPayload_reads p.ofDict_toDict ?_ h hat
    rw [p.toDict_entries]
    simp [hp.1, hp.2]
  | agentDisconnect p =>
    refine decodeKvPayload_reads p.ofDict_toDict ?_ h hat
    rw [p.toDict_entries]
    simp [hp.1, hp.2]
  | notify messages =>
    have hr := decodeListOfMessages_reads hp h hat
    simp only [Payload.frameType, decodePayload, hr, ok_bind]
  | ack actions =>
    cases actions with
    | none => exact absurd hp id
    | some actions =>
      have hr := decodeListOfActions_reads hp h hat
      simp only [Payload.frameType, decodePayload, hr, ok_bind]

theorem decodeBody_body {f : Frame} {out : Bytes} (hf : f.Carried) (h : f.body = .ok out) :
    decodeBody out = .ok f := by
  obtain ⟨md, payload, hm, hp, rfl⟩ := Frame.body_ok.mp h
  have hat : At ([byte f.frameType.value] ++ md ++ payload) 0
      ([byte f.frameType.value] ++ md ++ payload) := ⟨[], [], by simp, rfl⟩
  obtain ⟨hhead, hpay⟩ := at_append.mp hat
  obtain ⟨htype, hmeta⟩ := at_append.mp hhead
  have hval : FrameType.ofValue (byte f.frameType.value).val = some f.frameType := by
    rw [byte_val_of_lt (Nat.lt_trans f.frameType.value_lt (by decide))]
    exact FrameType.ofValue_value f.frameType
  have hmd := decodeMetadata_reads hf.streamId_lt hf.frameId_lt hm _ _ hmeta
  have hpl := decodePayload_reads hf.payload hp hpay
  have hend : 0 + ([byte f.frameType.value] ++ md).length + payload.length =
      ([byte f.frameType.value] ++ md ++ payload).length := by
    simp only [List.length_append]
    omega
  have hmid : 0 + ([byte f.frameType.value] ++ md).length =
      0 + [byte f.frameType.value].length + md.length := by
    simp only [List.length_append]
    omega
  rw [hend, hmid] at hpl
  have hft : f.payload.frameType = f.frameType := rfl
  rw [hft] at hpl
  have h1 : 0 + [byte f.frameType.value].length = 1 := rfl
  rw [h1] at hmd hpl
  unfold decodeBody
  rw [htype.getElem?]
  simp only [hval, hmd, ok_bind, hpl, missingKey, ne_eq, not_true_eq_false, if_false]

/-- `Frame.decode` takes the bytes of one frame off the reader and gives that frame. -/
theorem Frame.decode_encode {f : Frame} {m : ℤ} {bs rest : Bytes} (hf : f.Carried)
    (h : f.encode m = .ok bs) : Frame.decode ⟨bs ++ rest⟩ m = (.ok f, ⟨rest⟩) := by
  obtain ⟨out, len, hout, hlen, hle, -, rfl⟩ := Frame.encode_ok.mp h
  have h4 : len.length = 4 := packU32_length hlen
  have hshort : ¬(len ++ out ++ rest).length < 4 := by
    simp only [List.length_append]
    omega
  have hrest : ¬(out ++ rest).length < out.length := by
    simp only [List.length_append]
    omega
  have htake : (len ++ out ++ rest).take 4 = len := by
    rw [List.append_assoc, ← h4, List.take_left']
    rfl
  have hdrop : (len ++ out ++ rest).drop 4 = out ++ rest := by
    rw [List.append_assoc, ← h4, List.drop_left']
    rfl
  have hn : ¬(out.length : ℤ) > m := by omega
  simp only [Frame.decode, StreamReader.readexactly, if_neg hshort, htake, hdrop, decodeFrameLen,
    unpackU32_packU32 hlen, if_neg hn, if_neg hrest, List.take_left', List.drop_left',
    decodeBody_body hf hout]

end SpoeForge
