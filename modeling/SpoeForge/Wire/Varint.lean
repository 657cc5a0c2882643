import SpoeForge.Encoders.DataTypes
import SpoeForge.Decoders.DataTypes
import Mathlib.Tactic.Ring

/-!
# Varints

The decoder reads every varint back (`data_types.py:45-58` of the decoders against
`data_types.py:40-52` of the encoders), moves forward inside the buffer, and fails
only with a decode error. Texts of decode errors stay inside latin-1. The number of
bytes follows the table of the encoder's docstring.
-/

namespace SpoeForge

open Fallible OffsetReader

/-! ### Decode errors -/

/-- Every code point of the text is a latin-1 one. -/
def Latin1 (s : Str) : Prop := ∀ c ∈ s, c.toNat < 256

instance (s : Str) : Decidable (Latin1 s) := List.decidableBAll _ s

theorem latin1_append {s t : Str} (hs : Latin1 s) (ht : Latin1 t) : Latin1 (s ++ t) := by
  intro c hc
  rcases List.mem_append.mp hc with h | h
  · exact hs c h
  · exact ht c h

theorem latin1_take {s : Str} (n : ℕ) (hs : Latin1 s) : Latin1 (s.take n) :=
  fun c hc => hs c (List.mem_of_mem_take hc)

theorem latin1_decode (bs : Bytes) : Latin1 (latin1Decode bs) := by
  intro c hc
  obtain ⟨b, -, rfl⟩ := List.mem_map.mp hc
  rw [toNat_charOfByte]
  exact b.isLt

theorem latin1_natText (n : ℕ) : Latin1 (natText n) := by
  intro c hc
  have hd : c.isDigit = true := Nat.isDigit_of_mem_toDigits (by decide) (by decide) hc
  simp only [Char.isDigit, Bool.and_eq_true, decide_eq_true_eq, ge_iff_le] at hd
  have h9 : c.toNat ≤ 57 := hd.2
  omega

theorem latin1_intText (i : ℤ) : Latin1 (intText i) := by
  cases i with
  | ofNat n => exact latin1_natText n
  | negSucc n =>
    intro c hc
    rcases List.mem_cons.mp hc with rfl | h
    · decide
    · exact latin1_natText (n + 1) c h

/-- `SpopDecodeError` with a latin-1 text. -/
def IsDecodeError (e : Exc) : Prop := e.cls = .spopDecodeError ∧ Latin1 e.text

theorem isDecodeError (s : Str) (h : Latin1 s) : IsDecodeError (decodeError s) := ⟨rfl, h⟩

/-- The decoder fails only with a decode error. -/
abbrev DecodeFails {α : Type} (d : Dec α) : Prop := Fails IsDecodeError d

/-! ### Bytes with a continuation bit -/

theorem or_continuation (n : ℕ) : (n ||| 0x80) % 256 = 128 + n % 128 := by
  have hbyte : ∀ x : Fin 256, (x.val ||| 128) = 128 + x.val % 128 := by decide +kernel
  have h := hbyte ⟨n % 256, Nat.mod_lt _ (by decide)⟩
  dsimp only at h
  have hmod : (n ||| 128) % 2 ^ 8 = n % 2 ^ 8 ||| 128 % 2 ^ 8 := Nat.or_mod_two_pow
  simp only [Nat.reducePow, Nat.reduceMod] at hmod
  rw [hmod, h]
  omega

theorem or_first (n : ℕ) : (n ||| 0xF0) % 256 = 240 + n % 16 := by
  have hbyte : ∀ x : Fin 256, (x.val ||| 240) = 240 + x.val % 16 := by decide +kernel
  have h := hbyte ⟨n % 256, Nat.mod_lt _ (by decide)⟩
  dsimp only at h
  have hmod : (n ||| 240) % 2 ^ 8 = n % 2 ^ 8 ||| 240 % 2 ^ 8 := Nat.or_mod_two_pow
  simp only [Nat.reducePow, Nat.reduceMod] at hmod
  rw [hmod, h]
  omega

/-! ### Reading back -/

theorem varintBytes_ne_nil (n : ℕ) : varintBytes n ≠ [] := by
  rw [varintBytes]
  split <;> simp

/-- The invariant of the decoding loop: what is left of the value at the current shift. -/
theorem varintLoop_tail (n : ℕ) (rest : Bytes) (offset value shift : ℕ) :
    varintLoop (varintTail n ++ rest) offset value shift =
      .ok (value + n <<< shift, offset + 1 + (varintTail n).length) := by
  induction n using varintTail.induct generalizing offset value shift with
  | case1 n hn =>
    have hv : (byte n).val = n := byte_val_of_lt (by omega)
    rw [varintTail, if_pos hn]
    simp only [List.cons_append, List.nil_append, varintLoop, hv, if_pos hn, List.length_cons,
      List.length_nil, Nat.zero_add]
  | case2 n hn ih =>
    have hv : (byte (n ||| 0x80)).val = 128 + n % 128 := or_continuation n
    have hbig : ¬128 + n % 128 < 128 := by omega
    have hsum : 128 + n % 128 + (n - 128) / 2 ^ 7 * 2 ^ 7 = n := by omega
    have hval : value + (128 + n % 128) <<< shift + ((n - 128) >>> 7) <<< (shift + 7) =
        value + n <<< shift := by
      simp only [Nat.shiftLeft_eq, Nat.shiftRight_eq_div_pow]
      calc value + (128 + n % 128) * 2 ^ shift + (n - 128) / 2 ^ 7 * 2 ^ (shift + 7)
          = value + (128 + n % 128 + (n - 128) / 2 ^ 7 * 2 ^ 7) * 2 ^ shift := by
            rw [Nat.pow_add]; ring
        _ = value + n * 2 ^ shift := by rw [hsum]
    rw [varintTail, if_neg hn]
    simp only [List.cons_append, varintLoop, hv, if_neg hbig, ih, hval, List.length_cons]
    congr 2
    omega

theorem parseVarint_reads (n : ℕ) : Reads parseVarint n (varintBytes n) := by
  intro buf off h
  obtain ⟨post, hd⟩ := h.drop
  rw [varintBytes] at hd ⊢
  by_cases hn : n < 240
  · have hv : (byte n).val = n := byte_val_of_lt (by omega)
    rw [if_pos hn] at hd ⊢
    simp only [parseVarint, hd, List.cons_append, hv, if_pos hn, List.length_cons, List.length_nil,
      Nat.zero_add]
  · have hv : (byte (n ||| 0xF0)).val = 240 + n % 16 := or_first n
    have hbig : ¬240 + n % 16 < 240 := by omega
    have hval : 240 + n % 16 + ((n - 240) >>> 4) <<< 4 = n := by
      simp only [Nat.shiftLeft_eq, Nat.shiftRight_eq_div_pow]
      omega
    rw [if_neg hn] at hd ⊢
    simp only [parseVarint, hd, List.cons_append, hv, if_neg hbig, varintLoop_tail, hval,
      List.length_cons]
    congr 2
    omega

/-! ### Lengths -/

/-- The first value whose bytes after the first one are more than `k`. -/
def tailThreshold : ℕ → ℕ
  | 0 => 0
  | k + 1 => tailThreshold k + 2 ^ (7 * (k + 1))

/-- The first value of more than `k` bytes: the table of the docstring, continued. -/
def varintThreshold : ℕ → ℕ
  | 0 => 0
  | 1 => 240
  | k + 2 => varintThreshold (k + 1) + 2 ^ (4 + 7 * (k + 1))

example : [1, 2, 3, 4, 5].map varintThreshold = [240, 2288, 264432, 33818864, 4328786160] := by
  decide

/-- The step of the encoding loop, on thresholds. -/
theorem tailThreshold_succ (k : ℕ) : tailThreshold (k + 1) = 128 + tailThreshold k * 2 ^ 7 := by
  induction k with
  | zero => rfl
  | succ k ih =>
    have hpow : 2 ^ (7 * (k + 1 + 1)) = 2 ^ (7 * (k + 1)) * 2 ^ 7 := by
      rw [Nat.mul_succ, Nat.pow_add]
    calc tailThreshold (k + 1 + 1)
        = tailThreshold (k + 1) + 2 ^ (7 * (k + 1 + 1)) := rfl
      _ = 128 + (tailThreshold k + 2 ^ (7 * (k + 1))) * 2 ^ 7 := by rw [ih, hpow]; ring
      _ = 128 + tailThreshold (k + 1) * 2 ^ 7 := rfl

theorem varintThreshold_succ (k : ℕ) : varintThreshold (k + 1) = 240 + tailThreshold k * 2 ^ 4 := by
  induction k with
  | zero => rfl
  | succ k ih =>
    have hpow : 2 ^ (4 + 7 * (k + 1)) = 2 ^ (7 * (k + 1)) * 2 ^ 4 := by
      rw [Nat.pow_add, Nat.mul_comm]
    calc varintThreshold (k + 1 + 1)
        = varintThreshold (k + 1) + 2 ^ (4 + 7 * (k + 1)) := rfl
      _ = 240 + (tailThreshold k + 2 ^ (7 * (k + 1))) * 2 ^ 4 := by rw [ih, hpow]; ring
      _ = 240 + tailThreshold (k + 1) * 2 ^ 4 := rfl

theorem varintTail_length_le_iff (n k : ℕ) : (varintTail n).length ≤ k ↔ n < tailThreshold k := by
  induction n using varintTail.induct generalizing k with
  | case1 n hn =>
    rw [varintTail, if_pos hn, List.length_singleton]
    cases k with
    | zero => simp [tailThreshold]
    | succ k =>
      rw [tailThreshold_succ]
      omega
  | case2 n hn ih =>
    rw [varintTail, if_neg hn, List.length_cons]
    cases k with
    | zero => simp [tailThreshold]
    | succ k =>
      rw [Nat.add_le_add_iff_right, ih, tailThreshold_succ, Nat.shiftRight_eq_div_pow]
      omega

/-- The encoding of `n` fits into `k` bytes exactly when `n` is below the threshold of `k`. -/
theorem varintBytes_length_le_iff (n k : ℕ) :
    (varintBytes n).length ≤ k ↔ n < varintThreshold k := by
  rw [varintBytes]
  cases k with
  | zero =>
    split <;> simp [varintThreshold]
  | succ k =>
    rw [varintThreshold_succ]
    split
    · rw [List.length_singleton]
      omega
    · rw [List.length_cons, Nat.add_le_add_iff_right, varintTail_length_le_iff,
        Nat.shiftRight_eq_div_pow]
      omega

theorem varintBytes_length_pos (n : ℕ) : 0 < (varintBytes n).length :=
  List.length_pos_iff.mpr (varintBytes_ne_nil n)

theorem varintBytes_length_short {n : ℕ} (h : n < 240) : (varintBytes n).length = 1 := by
  have hle := (varintBytes_length_le_iff n 1).mpr h
  have hpos := varintBytes_length_pos n
  omega

theorem varintBytes_length_two {n : ℕ} (hl : 240 ≤ n) (hh : n < 2288) :
    (varintBytes n).length = 2 := by
  have hle := (varintBytes_length_le_iff n 2).mpr hh
  have hgt : ¬(varintBytes n).length ≤ 1 := by
    rw [varintBytes_length_le_iff]
    exact Nat.not_lt.mpr hl
  omega

theorem varintBytes_length_le {n : ℕ} (h : n < 2 ^ 64) : (varintBytes n).length ≤ 10 := by
  have hten : 2 ^ 64 < varintThreshold 10 := by decide
  exact (varintBytes_length_le_iff n 10).mpr (h.trans hten)

/-! ### The encoder -/

theorem composeVarint_nonneg {i : ℤ} (h : 0 ≤ i) : composeVarint i = .ok (varintBytes i.toNat) := by
  have hn : ¬i < 0 := by omega
  rw [composeVarint, if_neg hn]

theorem composeVarint_natCast (n : ℕ) : composeVarint (n : ℤ) = .ok (varintBytes n) := by
  rw [composeVarint_nonneg (Int.natCast_nonneg n), Int.toNat_natCast]

theorem composeVarint_ok {i : ℤ} {bs : Bytes} :
    composeVarint i = .ok bs ↔ 0 ≤ i ∧ bs = varintBytes i.toNat := by
  by_cases h : i < 0
  · have hn : ¬0 ≤ i := by omega
    simp only [composeVarint, if_pos h, hn, false_and, iff_false]
    intro hb
    obtain ⟨t, -, he⟩ := bind_eq_ok.mp hb
    cases he
  · rw [composeVarint_nonneg (by omega)]
    have hp : 0 ≤ i := by omega
    simp [hp, eq_comm]

/-! ### Moving forward -/

theorem varintLoop_bounds (rest : Bytes) (offset value shift n off' : ℕ)
    (h : varintLoop rest offset value shift = .ok (n, off')) :
    offset + 1 < off' ∧ off' ≤ offset + 1 + rest.length := by
  induction rest generalizing offset value shift with
  | nil => cases h
  | cons next rest ih =>
    simp only [varintLoop] at h
    split at h
    · cases h
      simp only [List.length_cons]
      omega
    · have hr := ih _ _ _ h
      simp only [List.length_cons]
      omega

theorem parseVarint_advances : Advances parseVarint := by
  intro buf off n off' h
  unfold parseVarint at h
  cases hd : buf.drop off with
  | nil =>
    rw [hd] at h
    cases h
  | cons first rest =>
    have hlen : buf.length = off + (rest.length + 1) := by
      have hl := congrArg List.length hd
      simp only [List.length_drop, List.length_cons] at hl
      omega
    rw [hd] at h
    dsimp only at h
    split at h
    · cases h
      omega
    · have hb := varintLoop_bounds _ _ _ _ _ _ h
      omega

/-! ### Failing -/

theorem varintLoop_fails (rest : Bytes) (offset value shift : ℕ) :
    FailsWithin IsDecodeError (varintLoop rest offset value shift) := by
  induction rest generalizing offset value shift with
  | nil => exact FailsWithin.error (isDecodeError _ (by decide))
  | cons next rest ih =>
    simp only [varintLoop]
    split
    · exact FailsWithin.ok _ _
    · exact ih _ _ _

theorem parseVarint_fails : DecodeFails parseVarint := by
  intro buf off
  unfold parseVarint
  split
  · exact FailsWithin.error (isDecodeError _ (by decide))
  · split
    · exact FailsWithin.ok _ _
    · exact varintLoop_fails _ _ _ _

end SpoeForge
