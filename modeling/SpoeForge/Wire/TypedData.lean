import SpoeForge.Wire.Varint

/-!
# Strings, binaries and typed data on the wire

Every decoder of `decoders/data_types.py` reads its encoder's bytes back, moves
forward inside the buffer (`decode_bool` steps back onto the type byte first), and
fails only with a decode error. An IPv6 scope id does not go on the wire.
-/

namespace SpoeForge

open Fallible OffsetReader

/-- A value that the wire carries in full. -/
def Value.NoScope : Value → Prop
  | .ipv6 a => a.scopeId = Option.none
  | _ => True

instance : (v : Value) → Decidable v.NoScope
  | .ipv6 a => inferInstanceAs (Decidable (a.scopeId = Option.none))
  | .none | .bool _ | .int _ | .ipv4 _ | .bytes _ | .str _ => isTrue trivial

@[simp] theorem Value.noScope_str (s : Str) : (Value.str s).NoScope := trivial

/-! ### What the encoders accept -/

theorem composeBinary_eq (bs : Bytes) :
    composeBinary bs = .ok (varintBytes bs.length ++ bs) := by
  simp only [composeBinary, composeVarint_natCast, ok_bind]

theorem encodeString_ok {s : Str} {out : Bytes} :
    encodeString s = .ok out ↔
      ∃ bs, latin1Encode s = some bs ∧ out = varintBytes bs.length ++ bs := by
  cases h : latin1Encode s with
  | none => simp [encodeString, h]
  | some bs => simp [encodeString, h, composeBinary_eq, eq_comm]

theorem latin1Encode_isSome {s : Str} : (∃ bs, latin1Encode s = some bs) ↔ Latin1 s := by
  constructor
  · rintro ⟨bs, h⟩ c hc
    by_contra hn
    have hnone := latin1Encode_eq_none.mpr ⟨c, hc, by omega⟩
    rw [h] at hnone
    cases hnone
  · intro h
    cases hs : latin1Encode s with
    | some bs => exact ⟨bs, rfl⟩
    | none =>
      obtain ⟨c, hc, hlt⟩ := latin1Encode_eq_none.mp hs
      have hle := h c hc
      omega

theorem encodeString_latin1 {s : Str} (h : Latin1 s) : ∃ bs, encodeString s = .ok bs := by
  obtain ⟨bs, hbs⟩ := latin1Encode_isSome.mpr h
  exact ⟨_, encodeString_ok.mpr ⟨bs, hbs, rfl⟩⟩

theorem encodeString_not_latin1 {s : Str} (h : ¬Latin1 s) :
    encodeString s = .error (codepointError s) := by
  cases hs : latin1Encode s with
  | some bs => exact absurd (latin1Encode_isSome.mp ⟨bs, hs⟩) h
  | none => rw [encodeString, hs]

theorem maskUint_nonneg (w : ℕ) (i : ℤ) : 0 ≤ maskUint w i :=
  Int.emod_nonneg _ (pow_ne_zero w (by decide))

theorem encodeDtInteger_ok {t : DataType} {low high i : ℤ} {wire : ℤ → ℤ} {name : Str} {out : Bytes}
    (hwire : low ≤ i ∧ i ≤ high → 0 ≤ wire i) :
    encodeDtInteger t low high wire name i = .ok out ↔ (low ≤ i ∧ i ≤ high) ∧
      out = typeData t 0 ++ varintBytes (wire i).toNat := by
  by_cases h : low ≤ i ∧ i ≤ high
  · simp [encodeDtInteger, h, composeVarint_nonneg (hwire h), eq_comm]
  · simp only [encodeDtInteger, h, false_and, iff_false]
    intro hb
    obtain ⟨t, -, he⟩ := bind_eq_ok.mp hb
    cases he

theorem encodeDtInt64_ok {i : ℤ} {out : Bytes} :
    encodeDtInt64 i = .ok out ↔ (INT64_MIN ≤ i ∧ i ≤ INT64_MAX) ∧
      out = typeData .int64 0 ++ varintBytes (maskUint 64 i).toNat :=
  encodeDtInteger_ok fun _ => maskUint_nonneg 64 i

theorem autoEncodeDtVar_ok {o : PyObj} {out : Bytes} :
    autoEncodeDtVar o = .ok out ↔ reprCheck o = .ok () ∧ encodeByType o = .ok out := by
  unfold autoEncodeDtVar
  rw [bind_eq_ok]
  constructor
  · rintro ⟨⟨⟩, hr, he⟩
    exact ⟨hr, he⟩
  · rintro ⟨hr, he⟩
    exact ⟨(), hr, he⟩

theorem autoEncodeDtVar_int {i : ℤ} (h : INT64_MIN ≤ i ∧ i ≤ INT64_MAX) :
    autoEncodeDtVar (.val (.int i)) =
      .ok (typeData .int64 0 ++ varintBytes (maskUint 64 i).toNat) := by
  have hprint : Printable i := by
    simp only [INT64_MIN, INT64_MAX] at h
    exact printable_of_natAbs_lt (by omega)
  have hrepr : reprCheck (.val (.int i)) = .ok () := by
    rw [reprCheck, intStr_ok.mpr ⟨hprint, rfl⟩, ok_bind]
  exact autoEncodeDtVar_ok.mpr ⟨hrepr, encodeDtInt64_ok.mpr ⟨h, rfl⟩⟩

theorem autoEncodeDtVar_str {s : Str} {bs : Bytes} (h : latin1Encode s = some bs) :
    autoEncodeDtVar (.val (.str s)) =
      .ok (typeData .string 0 ++ (varintBytes bs.length ++ bs)) := by
  apply autoEncodeDtVar_ok.mpr
  simp only [reprCheck, encodeByType, encodeDtString, h, composeBinary_eq, ok_bind, and_self]

theorem autoEncodeDtVar_bytes (bs : Bytes) : autoEncodeDtVar (.val (.bytes bs)) =
    .ok (typeData .binary 0 ++ (varintBytes bs.length ++ bs)) := by
  apply autoEncodeDtVar_ok.mpr
  simp only [reprCheck, encodeByType, encodeDtBinary, composeBinary_eq, ok_bind, and_self]

/-! ### Reading back -/

theorem decodeTinyInt_reads (b : Byte) : Reads decodeTinyInt b.val [b] := by
  intro buf off h
  simp only [decodeTinyInt, h.getElem?, List.length_singleton]

theorem decodeInteger_reads (convert : ℕ → ℤ) (n : ℕ) :
    Reads (decodeInteger convert) (convert n) (varintBytes n) := by
  intro buf off h
  simp only [decodeInteger, parseVarint_reads n buf off h, ok_bind]

theorem cInt_bounds (w n : ℕ) : -2 ^ w ≤ cInt (w + 1) n ∧ cInt (w + 1) n < 2 ^ w := by
  have hpow : (2 : ℤ) ^ (w + 1) = 2 * 2 ^ w := by rw [pow_succ, mul_comm]
  have hpowN : 2 ^ (w + 1) = 2 * 2 ^ w := by rw [pow_succ, mul_comm]
  have hcast : ((2 ^ w : ℕ) : ℤ) = 2 ^ w := by norm_cast
  have hlt : n % 2 ^ (w + 1) < 2 ^ (w + 1) := Nat.mod_lt _ (Nat.two_pow_pos _)
  rw [cInt, Nat.add_sub_cancel, hpow]
  split <;> omega

/-- `ctypes` undoes the two's complement of the encoder. -/
theorem cInt_maskUint (w : ℕ) {i : ℤ} (hl : -2 ^ w ≤ i) (hh : i < 2 ^ w) :
    cInt (w + 1) (maskUint (w + 1) i).toNat = i := by
  have hpow : (2 : ℤ) ^ (w + 1) = 2 * 2 ^ w := by rw [pow_succ, mul_comm]
  have hpowN : 2 ^ (w + 1) = 2 * 2 ^ w := by rw [pow_succ, mul_comm]
  have hcast : ((2 ^ w : ℕ) : ℤ) = 2 ^ w := by norm_cast
  have hmask : maskUint (w + 1) i = if 0 ≤ i then i else i + 2 * 2 ^ w := by
    rw [maskUint, hpow]
    split
    · exact Int.emod_eq_of_lt (by omega) (by omega)
    · rw [← Int.add_emod_right, Int.emod_eq_of_lt (by omega) (by omega)]
  have hlt : (maskUint (w + 1) i).toNat < 2 ^ (w + 1) := by
    rw [hmask, hpowN]
    split <;> omega
  rw [cInt, Nat.mod_eq_of_lt hlt, Nat.add_sub_cancel, hpow, hmask]
  split <;> split <;> omega

theorem decodeBinary_reads (bs : Bytes) :
    Reads decodeBinary bs (varintBytes bs.length ++ bs) := by
  intro buf off h
  obtain ⟨hn, hb⟩ := at_append.mp h
  have hle := hb.length_le
  have hnot : ¬buf.length < off + (varintBytes bs.length).length + bs.length := by omega
  have hs : slice buf (off + (varintBytes bs.length).length)
      (off + (varintBytes bs.length).length + bs.length) = bs := by
    rw [slice, Nat.add_sub_cancel_left]
    exact hb.slice
  simp only [decodeBinary, parseVarint_reads bs.length buf off hn, ok_bind, if_neg hnot, hs,
    List.length_append]
  rw [Nat.add_assoc]

theorem decodeString_reads {s : Str} {out : Bytes} (h : encodeString s = .ok out) :
    Reads decodeString s out := by
  obtain ⟨bs, hs, rfl⟩ := encodeString_ok.mp h
  intro buf off hat
  simp only [decodeString, decodeBinary_reads bs buf off hat, ok_bind, latin1Decode_encode hs]

theorem decodeIpv4_reads (a : IPv4Address) : Reads decodeIpv4 a a.packed := by
  intro buf off h
  have hle := h.length_le
  rw [a.length] at hle
  have hs : slice buf off (off + 4) = a.packed := by
    rw [slice, Nat.add_sub_cancel_left, ← a.length]
    exact h.slice
  have hnot : ¬buf.length < off + 4 := by omega
  simp only [decodeIpv4, dif_neg hnot, hs, a.length]

theorem decodeIpv6_reads (a : IPv6Address) (hscope : a.scopeId = none) :
    Reads decodeIpv6 a a.packed := by
  intro buf off h
  have hle := h.length_le
  rw [a.length] at hle
  have hs : slice buf off (off + 16) = a.packed := by
    rw [slice, Nat.add_sub_cancel_left, ← a.length]
    exact h.slice
  have hnot : ¬buf.length < off + 16 := by omega
  cases a
  cases hscope
  simp only [decodeIpv6, dif_neg hnot, hs] at *
  simp_all

theorem decodeAs_reads {α : Type} (wrap : α → Value) {d : Dec α} {a : α} {bs : Bytes}
    (h : Reads d a bs) : Reads (decodeAs wrap d) (wrap a) bs := by
  intro buf off hat
  simp only [decodeAs, h buf off hat, ok_bind]

theorem autoDecodeVar_reads_data {t : DataType} {v : Value} {bs : Bytes}
    (h : Reads (decodeByType t) v bs) : Reads autoDecodeVar v (typeData t 0 ++ bs) := by
  intro buf off hat
  obtain ⟨ht, hb⟩ := at_append.mp hat
  have hmask : (byte (0 ||| t.value)).val &&& TYPE_MASK = t.value := by cases t <;> decide
  have hd := h buf (off + 1) hb
  simp only [autoDecodeVar, typeData, ht.getElem?, hmask, DataType.ofValue_value, hd,
    List.length_append, List.length_singleton, Nat.add_assoc]

/-- The value of a BOOL is in the upper half of its type byte. -/
theorem autoDecodeVar_reads_bool (b : Bool) :
    Reads autoDecodeVar (.bool b) (typeData .bool (if b then BOOL_TRUE else BOOL_FALSE)) := by
  intro buf off hat
  have hget := hat.getElem?
  simp only [autoDecodeVar, hget]
  cases b <;> simp [decodeByType, decodeAs, decodeBool, hget, DataType.ofValue, typeData,
    DataType.value, TYPE_MASK, FLAG_MASK, BOOL_TRUE, BOOL_FALSE]

theorem autoDecodeVar_reads {v : Value} {out : Bytes} (hv : v.NoScope)
    (h : autoEncodeDtVar (.val v) = .ok out) : Reads autoDecodeVar v out := by
  have he := (autoEncodeDtVar_ok.mp h).2
  cases v with
  | none =>
    cases he
    rw [← List.append_nil (typeData .null 0)]
    exact autoDecodeVar_reads_data (Reads.value _)
  | bool b =>
    cases he
    exact autoDecodeVar_reads_bool b
  | int i =>
    obtain ⟨hr, rfl⟩ := encodeDtInt64_ok.mp he
    have hi := decodeAs_reads .int (decodeInteger_reads (cInt 64) (maskUint 64 i).toNat)
    simp only [INT64_MIN, INT64_MAX] at hr
    rw [cInt_maskUint 63 (by omega) (by omega)] at hi
    exact autoDecodeVar_reads_data hi
  | ipv4 a =>
    cases he
    exact autoDecodeVar_reads_data (decodeAs_reads .ipv4 (decodeIpv4_reads a))
  | ipv6 a =>
    cases he
    exact autoDecodeVar_reads_data (decodeAs_reads .ipv6 (decodeIpv6_reads a hv))
  | bytes bs =>
    rw [autoEncodeDtVar_bytes] at h
    cases h
    exact autoDecodeVar_reads_data (decodeAs_reads .bytes (decodeBinary_reads bs))
  | str s =>
    cases hs : latin1Encode s with
    | none => simp [encodeByType, encodeDtString, hs] at he
    | some bs =>
      rw [autoEncodeDtVar_str hs] at h
      cases h
      have hd := decodeString_reads (encodeString_ok.mpr ⟨bs, hs, rfl⟩)
      exact autoDecodeVar_reads_data (decodeAs_reads .str hd)

/-! ### Moving forward -/

theorem decodeTinyInt_advances : Advances decodeTinyInt := by
  intro buf off n off' h
  unfold decodeTinyInt at h
  split at h
  · cases h
  · rename_i b hb
    cases h
    have hlt := (List.getElem?_eq_some_iff.mp hb).1
    omega

theorem decodeInteger_advances (convert : ℕ → ℤ) : Advances (decodeInteger convert) :=
  parseVarint_advances.andThen fun n => Stays.value (convert n)

theorem decodeBinary_advances : Advances decodeBinary := by
  intro buf off bs off' h
  obtain ⟨⟨n, mid⟩, hn, h⟩ := bind_eq_ok.mp h
  have hmid := parseVarint_advances buf off n mid hn
  dsimp only at h
  split at h
  · cases h
  · cases h
    omega

theorem decodeString_advances : Advances decodeString :=
  decodeBinary_advances.andThen fun bs => Stays.value (latin1Decode bs)

theorem decodeIpv4_advances : Advances decodeIpv4 := by
  intro buf off a off' h
  unfold decodeIpv4 at h
  split at h
  · cases h
  · cases h
    omega

theorem decodeIpv6_advances : Advances decodeIpv6 := by
  intro buf off a off' h
  unfold decodeIpv6 at h
  split at h
  · cases h
  · cases h
    omega

theorem decodeAs_advances {α : Type} (wrap : α → Value) {d : Dec α} (h : Advances d) :
    Advances (decodeAs wrap d) := h.andThen fun a => Stays.value (wrap a)

theorem decodeByType_stays (t : DataType) (ht : t ≠ .bool) : Stays (decodeByType t) := by
  cases t with
  | null => exact Stays.value _
  | bool => exact absurd rfl ht
  | int32 => exact (decodeAs_advances .int (decodeInteger_advances _)).stays
  | uint32 => exact (decodeAs_advances .int (decodeInteger_advances _)).stays
  | int64 => exact (decodeAs_advances .int (decodeInteger_advances _)).stays
  | uint64 => exact (decodeAs_advances .int (decodeInteger_advances _)).stays
  | ipv4 => exact (decodeAs_advances .ipv4 decodeIpv4_advances).stays
  | ipv6 => exact (decodeAs_advances .ipv6 decodeIpv6_advances).stays
  | string => exact (decodeAs_advances .str decodeString_advances).stays
  | binary => exact (decodeAs_advances .bytes decodeBinary_advances).stays

theorem decodeBool_offset {buf : Bytes} {off off' : ℕ} {v : Value}
    (h : decodeAs .bool decodeBool buf off = .ok (v, off')) : off' = off + 1 := by
  obtain ⟨⟨b, mid⟩, hb, h⟩ := bind_eq_ok.mp h
  cases h
  unfold decodeBool at hb
  split at hb
  · cases hb
  · cases hb
    rfl

theorem autoDecodeVar_advances : Advances autoDecodeVar := by
  intro buf off v off' h
  unfold autoDecodeVar at h
  split at h
  · cases h
  · rename_i b hb
    have hlt := (List.getElem?_eq_some_iff.mp hb).1
    dsimp only at h
    split at h
    · cases h
    · rename_i t ht
      by_cases hbool : t = .bool
      · subst hbool
        have ho := decodeBool_offset h
        omega
      · have hs := decodeByType_stays t hbool buf (off + 1) v off' h
        have hend := hs.2 (by omega)
        omega

/-! ### Failing -/

theorem decodeTinyInt_fails : DecodeFails decodeTinyInt := by
  intro buf off
  unfold decodeTinyInt
  split
  · exact FailsWithin.error (isDecodeError _ (by decide))
  · exact FailsWithin.ok _ _

theorem decodeInteger_fails (convert : ℕ → ℤ) : DecodeFails (decodeInteger convert) :=
  parseVarint_fails.andThen fun n => Fails.value _ (convert n)

theorem decodeBool_fails : DecodeFails decodeBool := by
  intro buf off
  unfold decodeBool
  split
  · exact FailsWithin.error (isDecodeError _ (by decide))
  · exact FailsWithin.ok _ _

theorem decodeIpv4_fails : DecodeFails decodeIpv4 := by
  intro buf off
  unfold decodeIpv4
  split
  · exact FailsWithin.error (isDecodeError _ (by decide))
  · exact FailsWithin.ok _ _

theorem decodeIpv6_fails : DecodeFails decodeIpv6 := by
  intro buf off
  unfold decodeIpv6
  split
  · exact FailsWithin.error (isDecodeError _ (by decide))
  · exact FailsWithin.ok _ _

theorem decodeBinary_fails : DecodeFails decodeBinary := by
  intro buf off
  refine (parseVarint_fails buf off).bind fun p _ => ?_
  dsimp only
  split
  · exact FailsWithin.error (isDecodeError _ (by decide))
  · exact FailsWithin.ok _ _

theorem decodeString_fails : DecodeFails decodeString :=
  decodeBinary_fails.andThen fun bs => Fails.value _ (latin1Decode bs)

theorem decodeAs_fails {α : Type} (wrap : α → Value) {d : Dec α} (h : DecodeFails d) :
    DecodeFails (decodeAs wrap d) := h.andThen fun a => Fails.value _ (wrap a)

theorem decodeByType_fails (t : DataType) : DecodeFails (decodeByType t) := by
  cases t with
  | null => exact Fails.value _ _
  | bool => exact fun buf off => decodeAs_fails .bool decodeBool_fails buf (off - 1)
  | int32 => exact decodeAs_fails .int (decodeInteger_fails _)
  | uint32 => exact decodeAs_fails .int (decodeInteger_fails _)
  | int64 => exact decodeAs_fails .int (decodeInteger_fails _)
  | uint64 => exact decodeAs_fails .int (decodeInteger_fails _)
  | ipv4 => exact decodeAs_fails .ipv4 decodeIpv4_fails
  | ipv6 => exact decodeAs_fails .ipv6 decodeIpv6_fails
  | string => exact decodeAs_fails .str decodeString_fails
  | binary => exact decodeAs_fails .bytes decodeBinary_fails

theorem autoDecodeVar_fails : DecodeFails autoDecodeVar := by
  intro buf off
  unfold autoDecodeVar
  split
  · exact FailsWithin.error (isDecodeError _ (by decide))
  · dsimp only
    split
    · exact FailsWithin.error (isDecodeError _ (latin1_append (by decide)
        (latin1_natText _)))
    · exact decodeByType_fails _ buf _

end SpoeForge
