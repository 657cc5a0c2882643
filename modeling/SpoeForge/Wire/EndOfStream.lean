import SpoeForge.Library.Grammar
import SpoeForge.Wire.FrameStream
import SpoeForge.Wire.DecodeErrors

/-!
# The end of a stream

`Frame.decode` until it raises, on any byte stream followed by end of file. A failed
`readexactly` takes the bytes it got off the reader, so that `at_eof()` after it does
not tell a stream that ends between two frames from one that ends inside the length of
a frame.
-/

namespace SpoeForge

open Fallible Grammar

/-- A frame within the limit: the length of its body, then a body that decodes. -/
def IsFrame (m : ℤ) : Lang Byte Frame := fun f bs =>
  ∃ len body, unpackU32 len = some body.length ∧ (body.length : ℤ) ≤ m ∧ decodeBody body = .ok f ∧
    bs = len ++ body

/-- What is left of a stream that ends inside a frame: inside its length, or inside a body
within the limit. -/
def InsideFrame (m : ℤ) (rest : Bytes) : Prop :=
  (0 < rest.length ∧ rest.length < 4) ∨
    ∃ len part n, unpackU32 len = some n ∧ (n : ℤ) ≤ m ∧ part.length < n ∧ rest = len ++ part

/-- The stream is a number of frames and one to three bytes more. -/
def CutInLength (m : ℤ) (stream : Bytes) : Prop :=
  ∃ frames bs rest, Many (IsFrame m) frames bs ∧ 0 < rest.length ∧ rest.length < 4 ∧
    stream = bs ++ rest

/-- If decoding the stream ends with `SpopEOFError`, every byte belongs to a frame returned;
if the stream ends inside a frame, decoding it ends with `SpopDecodeError`. -/
def EndsCleanly (m : ℤ) (stream : Bytes) : Prop :=
  ((decodeStream m ⟨stream⟩).2.cls = .spopEOFError →
    Many (IsFrame m) (decodeStream m ⟨stream⟩).1 stream) ∧
  ∀ frames bs rest, Many (IsFrame m) frames bs → InsideFrame m rest → stream = bs ++ rest →
    (decodeStream m ⟨stream⟩).2.cls = .spopDecodeError

theorem unpackU32_length {len : Bytes} {n : ℕ} (h : unpackU32 len = some n) : len.length = 4 := by
  unfold unpackU32 at h
  split at h
  · rfl
  · cases h

theorem readexactly_append (bs rest : Bytes) :
    StreamReader.readexactly ⟨bs ++ rest⟩ bs.length = (some bs, ⟨rest⟩) := by
  have hle : ¬(bs ++ rest).length < bs.length := by
    rw [List.length_append]
    omega
  simp only [StreamReader.readexactly, if_neg hle, List.take_left', List.drop_left']

theorem readexactly_prefix {len : Bytes} {n : ℕ} (h : unpackU32 len = some n) (rest : Bytes) :
    StreamReader.readexactly ⟨len ++ rest⟩ 4 = (some len, ⟨rest⟩) := by
  rw [← unpackU32_length h]
  exact readexactly_append len rest

theorem readexactly_some {r r' : StreamReader} {n : ℕ} {bs : Bytes}
    (h : r.readexactly n = (some bs, r')) : r.buffer = bs ++ r'.buffer := by
  unfold StreamReader.readexactly at h
  split at h
  · cases h
  · cases h
    exact (List.take_append_drop n r.buffer).symm

/-! ### One frame -/

theorem IsFrame.decode {m : ℤ} {f : Frame} {bs : Bytes} (h : IsFrame m f bs) (rest : Bytes) :
    Frame.decode ⟨bs ++ rest⟩ m = (.ok f, ⟨rest⟩) := by
  obtain ⟨len, body, hlen, hle, hbody, rfl⟩ := h
  have hn : ¬(body.length : ℤ) > m := by omega
  simp only [Frame.decode, List.append_assoc, readexactly_prefix hlen, decodeFrameLen, hlen,
    if_neg hn, readexactly_append, hbody]

theorem Frame.decode_isFrame {reader reader' : StreamReader} {m : ℤ} {f : Frame}
    (h : Frame.decode reader m = (.ok f, reader')) :
    ∃ bs, IsFrame m f bs ∧ reader.buffer = bs ++ reader'.buffer := by
  obtain ⟨len, body, mid, hlen, hu, hle, hbody, hd⟩ := Frame.decode_ok h
  refine ⟨len ++ body, ⟨len, body, hu, hle, hd, rfl⟩, ?_⟩
  rw [readexactly_some hlen, readexactly_some hbody, List.append_assoc]

theorem Frame.decode_short {rest : Bytes} (m : ℤ) (h : rest.length < 4) :
    Frame.decode ⟨rest⟩ m = (.error ⟨.spopEOFError, []⟩, ⟨[]⟩) := by
  simp only [Frame.decode, StreamReader.readexactly, if_pos h, StreamReader.atEof]
  rfl

theorem Frame.decode_inside {m : ℤ} {len part : Bytes} {n : ℕ} (hlen : unpackU32 len = some n)
    (hle : (n : ℤ) ≤ m) (hpart : part.length < n) :
    ∃ e, Frame.decode ⟨len ++ part⟩ m = (.error e, ⟨[]⟩) ∧ e.cls = .spopDecodeError := by
  have hn : ¬(n : ℤ) > m := by omega
  have hshort : StreamReader.readexactly ⟨part⟩ n = (none, ⟨[]⟩) := if_pos hpart
  simp only [Frame.decode, readexactly_prefix hlen, decodeFrameLen, hlen, if_neg hn, hshort]
  exact ⟨_, rfl, rfl⟩

/-- Only a read of the length that runs out of bytes is an end of file. -/
theorem Frame.decode_eof {reader reader' : StreamReader} {m : ℤ} {e : Exc}
    (h : Frame.decode reader m = (.error e, reader')) (he : e.cls = .spopEOFError) :
    reader.buffer.length < 4 := by
  by_contra hge
  have hread : reader.readexactly 4 =
      (some (reader.buffer.take 4), ⟨reader.buffer.drop 4⟩) := if_neg hge
  rw [Frame.decode, hread] at h
  dsimp only at h
  cases hu : unpackU32 (reader.buffer.take 4) with
  | none =>
    simp only [decodeFrameLen, hu] at h
    cases h
    cases he
  | some n =>
    simp only [decodeFrameLen, hu] at h
    split at h
    · rw [Prod.mk.injEq] at h
      by_cases hm : Printable m
      · rw [tooBig_printable n hm] at h
        cases h.1
        cases he
      · obtain ⟨e', he', hcls⟩ := tooBig_unprintable Frame n hm
        rw [he'] at h
        cases h.1
        rw [hcls] at he
        cases he
    · split at h
      · cases h
        cases he
      · rename_i body rest hbody
        rw [Prod.mk.injEq] at h
        by_cases hb : BadHello body
        · obtain ⟨e', he', hcls⟩ := decodeBody_badHello hb
          rw [he'] at h
          cases h.1
          rcases hcls with hcls | hcls <;> rw [hcls] at he <;> cases he
        · have hcls := (decodeBody_fails hb e h.1).1
          rw [hcls] at he
          cases he

/-! ### Streams -/

theorem decodeStream_append {m : ℤ} {frames : List Frame} {bs : Bytes}
    (h : Many (IsFrame m) frames bs) (rest : Bytes) :
    decodeStream m ⟨bs ++ rest⟩ =
      (frames ++ (decodeStream m ⟨rest⟩).1, (decodeStream m ⟨rest⟩).2) := by
  obtain ⟨xs, hxs, rfl⟩ := h
  induction hxs with
  | nil => rfl
  | @cons f x frames xs hf _ ih =>
    rw [List.flatten_cons, List.append_assoc, decodeStream_ok (hf.decode _), ih]
    rfl

theorem decodeStream_split (m : ℤ) (reader : StreamReader) :
    ∃ bs rest reader', Many (IsFrame m) (decodeStream m reader).1 bs ∧
      reader.buffer = bs ++ rest ∧
      Frame.decode ⟨rest⟩ m = (.error (decodeStream m reader).2, reader') := by
  induction hk : reader.buffer.length using Nat.strongRecOn generalizing reader with
  | ind k ih =>
    cases hd : Frame.decode reader m with
    | mk r reader' =>
      cases r with
      | error e =>
        rw [decodeStream_error hd]
        exact ⟨[], reader.buffer, reader', ⟨[], .nil, rfl⟩, rfl, hd⟩
      | ok f =>
        have hlt := Frame.decode_shrinks hd
        obtain ⟨x, hx, hbuffer⟩ := Frame.decode_isFrame hd
        obtain ⟨bs, rest, last, ⟨xs, hxs, rfl⟩, hrest, he⟩ :=
          ih reader'.buffer.length (by omega) reader' rfl
        rw [decodeStream_ok hd]
        refine ⟨x ++ xs.flatten, rest, last, ⟨x :: xs, .cons hx hxs, rfl⟩, ?_, he⟩
        rw [hbuffer, hrest, List.append_assoc]

/-- Decoding a stream ends cleanly exactly when the stream does not end inside the length of
a frame. -/
theorem endsCleanly_iff (m : ℤ) (stream : Bytes) : EndsCleanly m stream ↔ ¬CutInLength m stream := by
  constructor
  · rintro ⟨-, hinside⟩ ⟨frames, bs, rest, hframes, hpos, hlt, rfl⟩
    have hcls := hinside frames bs rest hframes (.inl ⟨hpos, hlt⟩) rfl
    rw [decodeStream_append hframes, decodeStream_error (Frame.decode_short m hlt)] at hcls
    cases hcls
  · intro hcut
    constructor
    · intro heof
      obtain ⟨bs, rest, reader', hframes, hstream, hd⟩ := decodeStream_split m ⟨stream⟩
      have hlt := Frame.decode_eof hd heof
      have hnil : rest = [] := by
        by_contra hne
        exact hcut ⟨_, bs, rest, hframes, List.length_pos_iff.mpr hne, hlt, hstream⟩
      subst hnil
      obtain rfl : stream = bs := by simpa using hstream
      exact hframes
    · rintro frames bs rest hframes (⟨hpos, hlt⟩ | ⟨len, part, n, hlen, hle, hpart, rfl⟩) rfl
      · exact absurd ⟨frames, bs, rest, hframes, hpos, hlt, rfl⟩ hcut
      · obtain ⟨e, he, hcls⟩ := Frame.decode_inside hlen hle hpart
        rw [decodeStream_append hframes, decodeStream_error he]
        exact hcls

/-- Two of the four bytes of a length, then end of file: `SpopEOFError`. -/
theorem eof_inside_length : ¬∀ (m : ℤ) (stream : Bytes), EndsCleanly m stream := by
  intro h
  have hshort : ([0, 0] : Bytes).length < 4 := by decide
  have hd := decodeStream_error (Frame.decode_short 16384 hshort)
  have hframes := (h 16384 [0, 0]).1 (by rw [hd])
  rw [hd] at hframes
  obtain ⟨xs, hxs, heq⟩ := hframes
  cases hxs
  cases heq

end SpoeForge
