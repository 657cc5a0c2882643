import SpoeForge.Wire.Frames

/-!
# Streams of frames

Calling `Frame.decode` until it raises, on the concatenation of encoded frames: every
frame comes back, in order, and then the end of the stream.
-/

namespace SpoeForge

open Fallible OffsetReader

theorem StreamReader.readexactly_length {r r' : StreamReader} {n : ℕ} {bs : Bytes}
    (h : r.readexactly n = (some bs, r')) : r.buffer.length = n + r'.buffer.length := by
  unfold StreamReader.readexactly at h
  split at h
  · cases h
  · rename_i hn
    cases h
    simp only [List.length_drop]
    omega

theorem Frame.decode_ok {reader reader' : StreamReader} {m : ℤ} {f : Frame}
    (h : Frame.decode reader m = (.ok f, reader')) :
    ∃ len body mid, reader.readexactly 4 = (some len, mid) ∧ unpackU32 len = some body.length ∧
      (body.length : ℤ) ≤ m ∧ mid.readexactly body.length = (some body, reader') ∧
      decodeBody body = .ok f := by
  unfold Frame.decode at h
  split at h
  · split at h <;> cases h
  · rename_i len mid hlen
    split at h
    · cases h
    · rename_i n hn
      split at h
      · rw [Prod.mk.injEq] at h
        exact absurd h.1 (tooBig_ne_ok _ _ _)
      · rename_i hle
        split at h
        · cases h
        · rename_i body reader'' hbody
          rw [Prod.mk.injEq] at h
          obtain ⟨hb, rfl⟩ := h
          have hn' : body.length = n := by
            unfold StreamReader.readexactly at hbody
            split at hbody
            · cases hbody
            · cases hbody
              rw [List.length_take]
              omega
          have hu : unpackU32 len = some n := by
            unfold decodeFrameLen at hn
            split at hn
            · cases hn
              assumption
            · cases hn
          subst hn'
          exact ⟨len, body, mid, hlen, hu, by omega, hbody, hb⟩

theorem Frame.decode_shrinks {reader reader' : StreamReader} {m : ℤ} {f : Frame}
    (h : Frame.decode reader m = (.ok f, reader')) :
    reader'.buffer.length < reader.buffer.length := by
  obtain ⟨len, body, mid, hlen, -, -, hbody, -⟩ := Frame.decode_ok h
  have h1 := StreamReader.readexactly_length hlen
  have h2 := StreamReader.readexactly_length hbody
  omega

/-- `Frame.decode` again and again until it raises: the frames and the exception. -/
def decodeStream (maxFrameSize : ℤ) (reader : StreamReader) : List Frame × Exc :=
  match _h : Frame.decode reader maxFrameSize with
  | (.error e, _) => ([], e)
  | (.ok frame, reader) =>
    let (frames, e) := decodeStream maxFrameSize reader
    (frame :: frames, e)
termination_by reader.buffer.length
decreasing_by exact Frame.decode_shrinks _h

theorem decodeStream_error {m : ℤ} {reader reader' : StreamReader} {e : Exc}
    (h : Frame.decode reader m = (.error e, reader')) : decodeStream m reader = ([], e) := by
  rw [decodeStream]
  split
  · rename_i h'
    rw [h] at h'
    cases h'
    rfl
  · rename_i h'
    rw [h] at h'
    cases h'

theorem decodeStream_ok {m : ℤ} {reader reader' : StreamReader} {f : Frame}
    (h : Frame.decode reader m = (.ok f, reader')) :
    decodeStream m reader = (f :: (decodeStream m reader').1, (decodeStream m reader').2) := by
  rw [decodeStream]
  split
  · rename_i h'
    rw [h] at h'
    cases h'
  · rename_i h'
    rw [h] at h'
    cases h'
    rfl

/-- The frames whose encodings were written come back in order, then the end of the
stream. -/
theorem decodeStream_encode {m : ℤ} {frames : List Frame} {bs : Bytes}
    (hf : ∀ f ∈ frames, f.Carried) (h : extendAll (fun f => Frame.encode f m) frames = .ok bs) :
    decodeStream m ⟨bs⟩ = (frames, ⟨.spopEOFError, []⟩) := by
  induction frames generalizing bs with
  | nil =>
    cases h
    have hd : Frame.decode ⟨[]⟩ m = (.error ⟨.spopEOFError, []⟩, ⟨[]⟩) := rfl
    exact decodeStream_error hd
  | cons f frames ih =>
    obtain ⟨x, rest, hx, hrest, rfl⟩ := extendAll_cons_ok.mp h
    have hd : Frame.decode ⟨x ++ rest⟩ m = (.ok f, ⟨rest⟩) :=
      Frame.decode_encode (hf f (List.mem_cons_self ..)) hx
    rw [decodeStream_ok hd, ih (fun g hg => hf g (List.mem_cons_of_mem _ hg)) hrest]

theorem decodeStream_notify_ack :
    decodeStream 4096 ⟨[0, 0, 0, 21, 3, 0, 0, 0, 3, 7, 252, 3, 1, 109, 2, 1, 97, 17, 1, 98, 4, 1,
      1, 109, 0, 0, 0, 0, 37, 103, 0, 0, 0, 0, 7, 255, 240, 254, 254, 254, 254, 254, 254, 254, 6,
      1, 3, 1, 1, 120, 4, 255, 240, 254, 254, 254, 254, 254, 254, 254, 14, 2, 2, 3, 1, 121]⟩ =
    ([⟨⟨⟨true, true⟩, 7, 300⟩, .notify [(str "m", Dict.ofPairs [(str "a", .bool true),
        (str "b", .int 1)]), (str "m", Dict.empty)]⟩,
      ⟨⟨⟨false, false⟩, 7, 2 ^ 63 - 1⟩, .ack (some [.ofSet .session (str "x") (.int (-1)),
        .ofUnset .request (str "y")])⟩], ⟨.spopEOFError, []⟩) := by
  refine decodeStream_encode ?_ (by decide +kernel)
  intro f hf
  simp only [List.mem_cons, List.not_mem_nil, or_false] at hf
  rcases hf with rfl | rfl
  · exact ⟨by decide, by decide, by
      simp only [Payload.Carried]
      decide +kernel⟩
  · refine ⟨by decide, by decide, ?_⟩
    intro a ha
    simp only [List.mem_cons, List.not_mem_nil, or_false] at ha
    rcases ha with rfl | rfl
    · exact .set _ _ _ trivial
    · exact .unset _ _

end SpoeForge
