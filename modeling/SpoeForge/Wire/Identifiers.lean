import SpoeForge.Handler
import SpoeForge.Wire.DecodeErrors

/-!
# Stream and frame identifiers

`decode_metadata` reads two unbounded varints and wraps them to signed 64-bit
integers; `encode_metadata` writes unbounded varints and refuses negative ones. The
ACK of a NOTIFY carries the identifiers of the NOTIFY on the wire as long as the wrap
changes neither.
-/

namespace SpoeForge

open Fallible OffsetReader

/-- The STREAM-ID and FRAME-ID varints of a frame body: they follow the type byte and the
four flag bytes. -/
def WireIds (body : Bytes) (streamId frameId : ℕ) : Prop :=
  ∃ off off', parseVarint body 5 = .ok (streamId, off) ∧
    parseVarint body off = .ok (frameId, off')

theorem decodeInt64_ok {buf : Bytes} {off off' : ℕ} {i : ℤ} :
    decodeInt64 buf off = .ok (i, off') ↔
      ∃ n, parseVarint buf off = .ok (n, off') ∧ i = cInt 64 n := by
  unfold decodeInt64 decodeInteger
  rw [bind_eq_ok]
  constructor
  · rintro ⟨⟨n, o⟩, hn, h⟩
    cases h
    exact ⟨n, hn, rfl⟩
  · rintro ⟨n, hn, rfl⟩
    exact ⟨(n, off'), hn, rfl⟩

theorem decodeMetadata_ok {buf : Bytes} {off off' : ℕ} {m : MetaData}
    (h : decodeMetadata buf off = .ok (m, off')) :
    ∃ s n mid, parseVarint buf (off + 4) = .ok (s, mid) ∧ parseVarint buf mid = .ok (n, off') ∧
      m.streamId = cInt 64 s ∧ m.frameId = cInt 64 n := by
  unfold decodeMetadata at h
  split at h
  · cases h
  · obtain ⟨⟨i, mid⟩, hs, h⟩ := bind_eq_ok.mp h
    obtain ⟨⟨j, fin⟩, hf, h⟩ := bind_eq_ok.mp h
    cases h
    obtain ⟨s, hs', rfl⟩ := decodeInt64_ok.mp (reraise_ok.mp hs)
    obtain ⟨n, hf', rfl⟩ := decodeInt64_ok.mp (reraise_ok.mp hf)
    exact ⟨s, n, mid, hs', hf', rfl, rfl⟩

theorem decodeBody_metadata {body : Bytes} {f : Frame} (h : decodeBody body = .ok f) :
    ∃ off, decodeMetadata body 1 = .ok (f.metadata, off) := by
  unfold decodeBody at h
  split at h
  · cases h
  · split at h
    · cases h
    · obtain ⟨⟨md, off⟩, hm, h⟩ := bind_eq_ok.mp h
      obtain ⟨⟨payload, off'⟩, -, h⟩ := bind_eq_ok.mp h
      dsimp only at h
      split at h
      · cases h
      · cases h
        exact ⟨off, hm⟩

theorem decodeBody_wireIds {body : Bytes} {f : Frame} (h : decodeBody body = .ok f) :
    ∃ s n, WireIds body s n ∧ f.metadata.streamId = cInt 64 s ∧ f.metadata.frameId = cInt 64 n := by
  obtain ⟨off, hm⟩ := decodeBody_metadata h
  obtain ⟨s, n, mid, hs, hn, es, en⟩ := decodeMetadata_ok hm
  exact ⟨s, n, ⟨mid, off, hs, hn⟩, es, en⟩

theorem body_wireIds {f : Frame} {out : Bytes} (h : f.body = .ok out) :
    0 ≤ f.metadata.streamId ∧ 0 ≤ f.metadata.frameId ∧
      WireIds out f.metadata.streamId.toNat f.metadata.frameId.toNat := by
  obtain ⟨md, payload, hm, -, rfl⟩ := Frame.body_ok.mp h
  obtain ⟨hs, hf, rfl⟩ := encodeMetadata_ok.mp hm
  have hat : At ([byte f.frameType.value] ++ ([0, 0, 0, flagsByte f.metadata.flags] ++
      varintBytes f.metadata.streamId.toNat ++ varintBytes f.metadata.frameId.toNat) ++ payload) 1
      ([0, 0, 0, flagsByte f.metadata.flags] ++ varintBytes f.metadata.streamId.toNat ++
        varintBytes f.metadata.frameId.toNat) := ⟨_, _, rfl, rfl⟩
  obtain ⟨hhead, hn⟩ := at_append.mp hat
  obtain ⟨-, hid⟩ := at_append.mp hhead
  rw [List.length_append, ← Nat.add_assoc] at hn
  exact ⟨hs, hf, _, _, parseVarint_reads _ _ _ hid, parseVarint_reads _ _ _ hn⟩

theorem WireIds.unique {body : Bytes} {s n s' n' : ℕ} (h : WireIds body s n)
    (h' : WireIds body s' n') : s = s' ∧ n = n' := by
  obtain ⟨off, off1, hs, hn⟩ := h
  obtain ⟨off', off1', hs', hn'⟩ := h'
  rw [hs] at hs'
  cases hs'
  rw [hn] at hn'
  cases hn'
  exact ⟨rfl, rfl⟩

theorem ackFrame_body {md : MetaData} {actions : Option (List ActionObj)} {payload : Bytes}
    (hs : 0 ≤ md.streamId) (hf : 0 ≤ md.frameId) (hp : (Payload.ack actions).encode = .ok payload) :
    (ackFrame md actions).body = .ok ([byte FrameType.ack.value] ++
      ([0, 0, 0, 1] ++ varintBytes md.streamId.toNat ++ varintBytes md.frameId.toNat) ++
        payload) := by
  have hflags : flagsByte ⟨true, false⟩ = 1 := by decide
  refine Frame.body_ok.mpr ⟨_, payload, encodeMetadata_ok.mpr ⟨hs, hf, rfl⟩, hp, ?_⟩
  simp only [ackFrame, Frame.construct, Frame.frameType, Payload.frameType, hflags]

theorem packU32_ok {n : ℕ} (h : n < 2 ^ 32) : ∃ bs, packU32 n = some bs := by
  rw [packU32, if_pos h]
  exact ⟨_, rfl⟩

/-- For every accepted body, whatever its identifiers, and every list of actions with which the
ACK fits, if it has a body at all: the ACK is encoded and carries the same identifiers exactly
when both are below `2^63`. -/
theorem ack_wireIds_iff {body : Bytes} {f : Frame} {actions : Option (List ActionObj)}
    {payload : Bytes} (m : ℤ) (h : decodeBody body = .ok f)
    (hp : (Payload.ack actions).encode = .ok payload)
    (hfits : ∀ out, (ackFrame f.metadata actions).body = .ok out →
      out.length ≤ m ∧ out.length < 2 ^ 32) (hm : Printable m) :
    ∃ s n, WireIds body s n ∧
      ((∃ bs, (ackFrame f.metadata actions).encode m = .ok bs ∧ WireIds (bs.drop 4) s n) ↔
        s < 2 ^ 63 ∧ n < 2 ^ 63) := by
  obtain ⟨s, n, hw, es, en⟩ := decodeBody_wireIds h
  refine ⟨s, n, hw, ?_⟩
  have hdrop : ∀ len out : Bytes, len.length = 4 → (len ++ out).drop 4 = out := by
    intro len out h4
    rw [← h4, List.drop_left']
    rfl
  constructor
  · rintro ⟨bs, hbs, hack⟩
    obtain ⟨out, len, hout, hlen, -, -, rfl⟩ := Frame.encode_ok.mp hbs
    rw [hdrop len out (packU32_length hlen)] at hack
    obtain ⟨hs0, hf0, hids⟩ := body_wireIds hout
    obtain ⟨hs, hn⟩ := hack.unique hids
    simp only [ackFrame, Frame.construct] at hs hn
    have ls : cInt 64 s < 2 ^ 63 := (cInt_bounds 63 s).2
    have ln : cInt 64 n < 2 ^ 63 := (cInt_bounds 63 n).2
    constructor <;> omega
  · rintro ⟨hs, hn⟩
    rw [cInt_of_lt hs] at es
    rw [cInt_of_lt hn] at en
    have hs0 : 0 ≤ f.metadata.streamId := by omega
    have hf0 : 0 ≤ f.metadata.frameId := by omega
    obtain ⟨out, hout⟩ : ∃ out, (ackFrame f.metadata actions).body = .ok out :=
      ⟨_, ackFrame_body hs0 hf0 hp⟩
    obtain ⟨hle, hlt⟩ := hfits out hout
    obtain ⟨len, hpack⟩ := packU32_ok hlt
    have hids := (body_wireIds hout).2.2
    refine ⟨_, Frame.encode_ok.mpr ⟨out, len, hout, hpack, hle, hm, rfl⟩, ?_⟩
    rw [hdrop len out (packU32_length hpack)]
    simp only [ackFrame, Frame.construct, es, en, Int.toNat_natCast] at hids
    exact hids

theorem ack_wireIds_iff_small : WireIds [3, 0, 0, 0, 1, 7, 1] 7 1 ∧
    ∃ bs, (ackFrame ⟨⟨true, false⟩, 7, 1⟩ (some [.ofUnset .session (str "a")])).encode 16384 =
      .ok bs ∧ WireIds (bs.drop 4) 7 1 := by
  have hbody : decodeBody [3, 0, 0, 0, 1, 7, 1] = .ok ⟨⟨⟨true, false⟩, 7, 1⟩, .notify []⟩ := by
    decide
  have hpayload : (Payload.ack (some [.ofUnset .session (str "a")])).encode =
      .ok [2, 2, 1, 1, 97] := by decide +kernel
  have hlength : (ackFrame ⟨⟨true, false⟩, 7, 1⟩ (some [.ofUnset .session (str "a")])).body =
      .ok [103, 0, 0, 0, 1, 7, 1, 2, 2, 1, 1, 97] := by decide +kernel
  have hids : WireIds [3, 0, 0, 0, 1, 7, 1] 7 1 := ⟨6, 7, by decide +kernel, by decide +kernel⟩
  obtain ⟨s, n, hw, hiff⟩ := ack_wireIds_iff 16384 hbody hpayload (fun out hout => by
    rw [hlength] at hout
    cases hout
    decide) (printable_of_lt (by decide) (by decide))
  obtain ⟨rfl, rfl⟩ := hids.unique hw
  exact ⟨hids, hiff.mpr (by decide)⟩

/-- No ACK can be encoded for a NOTIFY of STREAM-ID `2^63`. -/
theorem ack_wireIds_wrap :
    ¬∀ (body : Bytes) (f : Frame) (messages : Messages) (s n : ℕ), decodeBody body = .ok f →
      f.payload = .notify messages → WireIds body s n →
      ∃ bs, (ackFrame f.metadata (some [])).encode 16384 = .ok bs ∧ WireIds (bs.drop 4) s n := by
  intro h
  obtain ⟨bs, hbs, -⟩ := h ([3, 0, 0, 0, 1] ++ varintBytes (2 ^ 63) ++ [1])
    ⟨⟨⟨true, false⟩, -2 ^ 63, 1⟩, .notify []⟩ [] (2 ^ 63) 1 (by decide +kernel) rfl
    ⟨15, 16, by decide +kernel, by decide +kernel⟩
  have hnone : ((ackFrame ⟨⟨true, false⟩, -2 ^ 63, 1⟩ (some [])).encode 16384).toOption = none := by
    decide +kernel
  rw [hbs] at hnone
  cases hnone

end SpoeForge
