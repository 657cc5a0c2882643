import SpoeForge.Wire.Grammar
import Mathlib.Order.Bounds.Basic

/-!
# The one form of every varint

The strings that the decoder takes for varints are the encodings and no others
(`data_types.py:45-58` of the decoders against `data_types.py:40-52` of the encoders).
The table of the docstring, continued, gives their lengths, and their continuation
bits say where they end.
-/

namespace SpoeForge

open OffsetReader Grammar

/-! ### One wire form -/

/-- The byte of the encoding loop, from the value that the decoding loop has summed up. -/
theorem byte_continuation {b : Byte} (h : 128 ≤ b.val) (n : ℕ) :
    byte ((b.val + 2 ^ 7 * n) ||| 0x80) = b := by
  have hval : (byte ((b.val + 2 ^ 7 * n) ||| 0x80)).val = 128 + (b.val + 2 ^ 7 * n) % 128 :=
    or_continuation _
  have hlt := b.isLt
  apply Fin.ext
  rw [hval]
  omega

theorem byte_first {b : Byte} (h : 240 ≤ b.val) (n : ℕ) :
    byte ((b.val + 2 ^ 4 * n) ||| 0xF0) = b := by
  have hval : (byte ((b.val + 2 ^ 4 * n) ||| 0xF0)).val = 240 + (b.val + 2 ^ 4 * n) % 16 :=
    or_first _
  have hlt := b.isLt
  apply Fin.ext
  rw [hval]
  omega

theorem IsVarintTail.eq_varintTail {n : ℕ} {bs : Bytes} (h : IsVarintTail n bs) :
    bs = varintTail n := by
  induction h with
  | last b hb => rw [varintTail, if_pos hb, byte_of_val]
  | @more b hb n bs _ ih =>
    have hlt := b.isLt
    have hbig : ¬b.val + 2 ^ 7 * n < 128 := by omega
    have hrest : (b.val + 2 ^ 7 * n - 128) >>> 7 = n := by
      rw [Nat.shiftRight_eq_div_pow]
      omega
    rw [varintTail, if_neg hbig, byte_continuation hb, hrest, ih]

theorem IsVarint.eq_varintBytes {n : ℕ} {bs : Bytes} (h : IsVarint n bs) :
    bs = varintBytes n := by
  cases h with
  | short b hb => rw [varintBytes, if_pos hb, byte_of_val]
  | @long b hb n bs ht =>
    have hlt := b.isLt
    have hbig : ¬b.val + 2 ^ 4 * n < 240 := by omega
    have hrest : (b.val + 2 ^ 4 * n - 240) >>> 4 = n := by
      rw [Nat.shiftRight_eq_div_pow]
      omega
    rw [varintBytes, if_neg hbig, byte_first hb, hrest, ht.eq_varintTail]

/-- What the decoder consumes is what the encoder gives for the value. -/
theorem parseVarint_consumes {buf : Bytes} {off n fin : ℕ}
    (h : parseVarint buf off = .ok (n, fin)) : slice buf off fin = varintBytes n := by
  obtain ⟨bs, -, hn, -, hpiece⟩ := parseVarint_recognizes.item parseVarint_advances h
  have hbs := hn.eq_varintBytes
  rw [← hbs]
  exact hpiece

theorem parseVarint_whole (n : ℕ) (bs : Bytes) :
    parseVarint bs 0 = .ok (n, bs.length) ↔ composeVarint n = .ok bs := by
  rw [composeVarint_natCast, Except.ok.injEq]
  constructor
  · intro h
    have hc := parseVarint_consumes h
    rw [slice, List.drop_zero, Nat.sub_zero, List.take_length] at hc
    exact hc.symm
  · rintro rfl
    have hat : At (varintBytes n) 0 (varintBytes n) := ⟨[], [], by simp, rfl⟩
    have hr := parseVarint_reads n (varintBytes n) 0 hat
    rw [Nat.zero_add] at hr
    exact hr

/-- For every natural number the decoder reads the encoding back, wherever it stands; in every
buffer where the decoder succeeds it has consumed the encoding of its value; a string is a
varint of `n` exactly when it is the encoding of `n`. -/
theorem varint_bijection :
    (∀ (n : ℕ) (pre suf : Bytes), ∃ bs, composeVarint n = .ok bs ∧
      parseVarint (pre ++ bs ++ suf) pre.length = .ok (n, pre.length + bs.length)) ∧
    (∀ (buf : Bytes) (off n fin : ℕ), parseVarint buf off = .ok (n, fin) →
      composeVarint n = .ok (slice buf off fin)) ∧
    ∀ (n : ℕ) (bs : Bytes), parseVarint bs 0 = .ok (n, bs.length) ↔ composeVarint n = .ok bs := by
  refine ⟨?_, ?_, parseVarint_whole⟩
  · intro n pre suf
    have hr := parseVarint_reads n (pre ++ varintBytes n ++ suf) pre.length (at_intro _ _ _)
    exact ⟨varintBytes n, composeVarint_natCast n, hr⟩
  · intro buf off n fin h
    rw [composeVarint_natCast, parseVarint_consumes h]

/-! ### Lengths and continuation bits -/

/-- One byte below 240, or a first byte from 240 on, bytes from 128 on and a last byte
below 128. -/
def ContinuedForm (bs : Bytes) : Prop :=
  (∃ b : Byte, b.val < 240 ∧ bs = [b]) ∨
    ∃ (first : Byte) (middle : Bytes) (last : Byte), 240 ≤ first.val ∧
      (∀ b ∈ middle, 128 ≤ b.val) ∧ last.val < 128 ∧ bs = first :: middle ++ [last]

theorem varintTail_form (n : ℕ) : ∃ (middle : Bytes) (last : Byte),
    (∀ b ∈ middle, 128 ≤ b.val) ∧ last.val < 128 ∧ varintTail n = middle ++ [last] := by
  induction n using varintTail.induct with
  | case1 n hn =>
    have hv : (byte n).val = n := byte_val_of_lt (by omega)
    refine ⟨[], byte n, by simp, by rw [hv]; exact hn, ?_⟩
    rw [varintTail, if_pos hn, List.nil_append]
  | case2 n hn ih =>
    obtain ⟨middle, last, hmiddle, hlast, heq⟩ := ih
    have hv : (byte (n ||| 0x80)).val = 128 + n % 128 := or_continuation n
    refine ⟨byte (n ||| 0x80) :: middle, last, ?_, hlast, ?_⟩
    · intro b hb
      rcases List.mem_cons.mp hb with rfl | hb
      · omega
      · exact hmiddle b hb
    · rw [varintTail, if_neg hn, heq, List.cons_append]

theorem varintBytes_form (n : ℕ) : ContinuedForm (varintBytes n) := by
  rw [varintBytes]
  split
  · rename_i hn
    have hv : (byte n).val = n := byte_val_of_lt (by omega)
    exact .inl ⟨byte n, by omega, rfl⟩
  · obtain ⟨middle, last, hmiddle, hlast, heq⟩ := varintTail_form ((n - 240) >>> 4)
    have hv : (byte (n ||| 0xF0)).val = 240 + n % 16 := or_first n
    refine .inr ⟨byte (n ||| 0xF0), middle, last, by omega, hmiddle, hlast, ?_⟩
    rw [heq, List.cons_append]

theorem varintBytes_length_isLeast (n : ℕ) :
    IsLeast {k | n < varintThreshold k} (varintBytes n).length := by
  constructor
  · exact (varintBytes_length_le_iff n _).mp (Nat.le_refl _)
  · intro k hk
    exact (varintBytes_length_le_iff n k).mpr hk

theorem varintBytes_length_mono : Monotone fun n => (varintBytes n).length := by
  intro m n hmn
  have hn : n < varintThreshold (varintBytes n).length := (varintBytes_length_isLeast n).1
  exact (varintBytes_length_le_iff m _).mpr (Nat.lt_of_le_of_lt hmn hn)

/-- For every natural number: the length of the encoding is the least number of bytes whose
threshold is above it, it is not below the length of any smaller number, 10 bytes are enough
below 2^64, and the bytes say where the encoding ends. -/
theorem varint_length (n : ℕ) :
    ∃ bs, composeVarint n = .ok bs ∧ IsLeast {k | n < varintThreshold k} bs.length ∧
      (∀ m ≤ n, ∃ bs', composeVarint m = .ok bs' ∧ bs'.length ≤ bs.length) ∧
      (n < 2 ^ 64 → bs.length ≤ 10) ∧ ContinuedForm bs := by
  refine ⟨varintBytes n, composeVarint_natCast n, varintBytes_length_isLeast n, ?_, ?_,
    varintBytes_form n⟩
  · intro m hm
    exact ⟨varintBytes m, composeVarint_natCast m, varintBytes_length_mono hm⟩
  · exact varintBytes_length_le

end SpoeForge
