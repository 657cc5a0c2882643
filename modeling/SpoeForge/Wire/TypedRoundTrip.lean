import SpoeForge.Wire.Grammar

/-!
# Typed values both ways

What each typed encoder writes is read back as the value, wherever it stands; and what
`auto_decode_var` reads is written again by `auto_encode_dt_var`, which makes an INT64 of
every integer.
-/

namespace SpoeForge

open Fallible OffsetReader Grammar

/-! ### From the encoders to the decoder -/

/-- A value for one of the encoders `encode_dt_*`. -/
inductive TypedValue where
  | null
  | bool (b : Bool)
  | int32 (i : ℤ)
  | int64 (i : ℤ)
  | uint32 (i : ℤ)
  | uint64 (i : ℤ)
  | ipv4 (a : IPv4Address)
  | ipv6 (a : IPv6Address) (scope : a.scopeId = none)
  | string (s : Str)
  | binary (bs : Bytes)

namespace TypedValue

def encode : TypedValue → Except Exc Bytes
  | null => encodeDtNull
  | bool b => encodeDtBool b
  | int32 i => encodeDtInt32 i
  | int64 i => encodeDtInt64 i
  | uint32 i => encodeDtUint32 i
  | uint64 i => encodeDtUint64 i
  | ipv4 a => encodeDtIpv4 a
  | ipv6 a _ => encodeDtIpv6 a
  | string s => encodeDtString s
  | binary bs => encodeDtBinary bs

/-- The value that the decoder should give back. -/
def value : TypedValue → Value
  | null => .none
  | bool b => .bool b
  | int32 i => .int i
  | int64 i => .int i
  | uint32 i => .int i
  | uint64 i => .int i
  | ipv4 a => .ipv4 a
  | ipv6 a _ => .ipv6 a
  | string s => .str s
  | binary bs => .bytes bs

/-- An integer is in the range of its type, a string has no code point above 255. -/
def Encodable : TypedValue → Prop
  | int32 i => INT32_MIN ≤ i ∧ i ≤ INT32_MAX
  | int64 i => INT64_MIN ≤ i ∧ i ≤ INT64_MAX
  | uint32 i => 0 ≤ i ∧ i ≤ UINT32_MAX
  | uint64 i => 0 ≤ i ∧ i ≤ UINT64_MAX
  | string s => ∀ c ∈ s, c.toNat ≤ 255
  | _ => True

def integer? : TypedValue → Option ℤ
  | int32 i => some i
  | int64 i => some i
  | uint32 i => some i
  | uint64 i => some i
  | _ => none

end TypedValue

/-- An encodable value is encoded and read back as `v` between any bytes; for any other the
encoder raises `SpopEncodeError`. -/
def RoundTrips (encoded : Except Exc Bytes) (v : Value) (encodable : Prop) : Prop :=
  (encodable → ∃ bs, encoded = .ok bs ∧ ∀ pre suf,
    autoDecodeVar (pre ++ bs ++ suf) pre.length = .ok (v, pre.length + bs.length)) ∧
  (¬encodable → ∃ e, encoded = .error e ∧ e.cls = .spopEncodeError)

theorem RoundTrips.of_reads {bs : Bytes} {v : Value} (h : Reads autoDecodeVar v bs) :
    RoundTrips (.ok bs) v True :=
  ⟨fun _ => ⟨bs, rfl, fun pre suf => h _ _ (at_intro pre bs suf)⟩, fun hn => absurd trivial hn⟩

/-- The four integer encoders: the text of the refusal quotes the integer, which has to have
a text. -/
theorem encodeDtInteger_roundTrips {t : DataType} {low high : ℤ} {wire : ℤ → ℤ} {name : Str}
    {convert : ℕ → ℤ} (ht : decodeByType t = decodeAs .int (decodeInteger convert)) (i : ℤ)
    (hwire : low ≤ i ∧ i ≤ high → 0 ≤ wire i ∧ convert (wire i).toNat = i ∧ Printable i) :
    RoundTrips (encodeDtInteger t low high wire name i) (.int i) (low ≤ i ∧ i ≤ high) ↔
      Printable i := by
  by_cases h : low ≤ i ∧ i ≤ high
  · obtain ⟨hpos, hconvert, hprint⟩ := hwire h
    refine iff_of_true ⟨fun _ => ?_, fun hn => absurd h hn⟩ hprint
    have hreads : Reads autoDecodeVar (.int i) (typeData t 0 ++ varintBytes (wire i).toNat) := by
      apply autoDecodeVar_reads_data
      rw [ht]
      have hi := decodeAs_reads .int (decodeInteger_reads convert (wire i).toNat)
      rwa [hconvert] at hi
    exact ⟨_, (encodeDtInteger_ok fun _ => hpos).mpr ⟨h, rfl⟩,
      fun pre suf => hreads _ _ (at_intro pre _ suf)⟩
  · have he : encodeDtInteger t low high wire name i = (do
        let text ← intStr i
        .error (encodeError (name ++ str " value out of range: " ++ text))) := if_neg h
    constructor
    · rintro ⟨-, hrefuse⟩
      by_contra hprint
      obtain ⟨e, herr, hcls⟩ := hrefuse h
      obtain ⟨e', htext, hvalue⟩ := intStr_error hprint
      rw [he, htext] at herr
      cases herr
      rw [hvalue] at hcls
      cases hcls
    · intro hprint
      refine ⟨fun hr => absurd hr h, fun _ =>
        ⟨encodeError (name ++ str " value out of range: " ++ intText i), ?_, rfl⟩⟩
      rw [he, intStr_ok.mpr ⟨hprint, rfl⟩, ok_bind]

theorem cUint_toNat {w : ℕ} {i : ℤ} (hl : 0 ≤ i) (hh : i < 2 ^ w) : cUint w i.toNat = i := by
  have hcast : ((2 ^ w : ℕ) : ℤ) = 2 ^ w := by norm_cast
  rw [cUint, Nat.mod_eq_of_lt (by omega)]
  omega

/-- Every typed value round-trips between any bytes, except that for an integer of more than
4300 digits the encoder raises `ValueError` in place of `SpopEncodeError`. -/
theorem typed_round_trip_iff (x : TypedValue) :
    RoundTrips x.encode x.value x.Encodable ↔ ∀ i, x.integer? = some i → Printable i := by
  have hint : ∀ {i : ℤ}, (∀ j, some i = some j → Printable j) ↔ Printable i := by
    intro i
    simp
  have hother : ∀ j, (none : Option ℤ) = some j → Printable j := by
    intro j h
    cases h
  cases x with
  | null =>
    refine iff_of_true ?_ hother
    rw [TypedValue.encode, encodeDtNull, ← List.append_nil (typeData .null 0)]
    exact .of_reads (autoDecodeVar_reads_data (Reads.value _))
  | bool b => exact iff_of_true (.of_reads (autoDecodeVar_reads_bool b)) hother
  | int32 i =>
    rw [show (TypedValue.int32 i).integer? = some i from rfl, hint]
    apply encodeDtInteger_roundTrips rfl
    intro hr
    simp only [INT32_MIN, INT32_MAX] at hr
    exact ⟨maskUint_nonneg 32 i, cInt_maskUint 31 (by omega) (by omega),
      printable_of_natAbs_lt (by omega)⟩
  | int64 i =>
    rw [show (TypedValue.int64 i).integer? = some i from rfl, hint]
    apply encodeDtInteger_roundTrips rfl
    intro hr
    simp only [INT64_MIN, INT64_MAX] at hr
    exact ⟨maskUint_nonneg 64 i, cInt_maskUint 63 (by omega) (by omega),
      printable_of_natAbs_lt (by omega)⟩
  | uint32 i =>
    rw [show (TypedValue.uint32 i).integer? = some i from rfl, hint]
    apply encodeDtInteger_roundTrips rfl
    intro hr
    simp only [UINT32_MAX] at hr
    exact ⟨hr.1, cUint_toNat (i := i) hr.1 (by omega), printable_of_natAbs_lt (by omega)⟩
  | uint64 i =>
    rw [show (TypedValue.uint64 i).integer? = some i from rfl, hint]
    apply encodeDtInteger_roundTrips rfl
    intro hr
    simp only [UINT64_MAX] at hr
    exact ⟨hr.1, cUint_toNat (i := i) hr.1 (by omega), printable_of_natAbs_lt (by omega)⟩
  | ipv4 a =>
    exact iff_of_true (.of_reads (autoDecodeVar_reads_data
      (decodeAs_reads .ipv4 (decodeIpv4_reads a)))) hother
  | ipv6 a scope =>
    exact iff_of_true (.of_reads (autoDecodeVar_reads_data
      (decodeAs_reads .ipv6 (decodeIpv6_reads a scope)))) hother
  | string s =>
    refine iff_of_true ?_ hother
    have hl : (∀ c ∈ s, c.toNat ≤ 255) ↔ Latin1 s :=
      forall₂_congr fun c _ => Nat.lt_succ_iff.symm
    constructor
    · intro h
      obtain ⟨bs, hbs⟩ := latin1Encode_isSome.mpr (hl.mp h)
      have hreads := autoDecodeVar_reads_data (t := .string)
        (decodeAs_reads .str (decodeString_reads (encodeString_ok.mpr ⟨bs, hbs, rfl⟩)))
      refine ⟨_, ?_, fun pre suf => hreads _ _ (at_intro pre _ suf)⟩
      simp only [TypedValue.encode, encodeDtString, hbs, composeBinary_eq, ok_bind]
    · intro h
      have hnone : latin1Encode s = none := by
        cases hs : latin1Encode s with
        | none => rfl
        | some bs => exact absurd (hl.mpr (latin1Encode_isSome.mp ⟨bs, hs⟩)) h
      exact ⟨codepointError s, by rw [TypedValue.encode, encodeDtString, hnone], rfl⟩
  | binary bs =>
    refine iff_of_true ?_ hother
    rw [TypedValue.encode, encodeDtBinary, composeBinary_eq, ok_bind]
    exact .of_reads (autoDecodeVar_reads_data (decodeAs_reads .bytes (decodeBinary_reads bs)))

/-- INT32 of `10^4300`: the refusal cannot quote it. -/
theorem typed_round_trip_fails :
    ¬∀ x : TypedValue, RoundTrips x.encode x.value x.Encodable := by
  intro h
  have hrange : ¬(TypedValue.int32 (10 ^ 4300)).Encodable := by
    rintro ⟨-, hmax⟩
    exact absurd hmax (by decide +kernel)
  obtain ⟨e, he, hcls⟩ := (h (.int32 (10 ^ 4300))).2 hrange
  have hr : (TypedValue.int32 (10 ^ 4300)).encode = .error ⟨.valueError,
      str "Exceeds the limit (4300 digits) for integer string conversion"⟩ := by decide +kernel
  rw [hr] at he
  cases he
  cases hcls

/-! ### From the decoder to the encoder -/

theorem cUint_bounds (w n : ℕ) : 0 ≤ cUint w n ∧ cUint w n < 2 ^ w := by
  have hlt : n % 2 ^ w < 2 ^ w := Nat.mod_lt _ (Nat.two_pow_pos _)
  have hcast : ((2 ^ w : ℕ) : ℤ) = 2 ^ w := by norm_cast
  rw [cUint]
  omega

/-- What a value read off the wire is: only UINT64 goes beyond INT64. -/
theorem IsData.range {b : Byte} {t : DataType} {v : Value} {bs : Bytes} (h : IsData b t v bs) :
    v.NoScope ∧ (∀ s, v = .str s → Latin1 s) ∧ ∀ i, v = .int i →
      INT64_MIN ≤ i ∧ i ≤ UINT64_MAX ∧ (INT64_MAX < i → t = .uint64) := by
  have hint : ∀ i : ℤ, INT64_MIN ≤ i → i ≤ UINT64_MAX → (INT64_MAX < i → t = .uint64) →
      (Value.int i).NoScope ∧ (∀ s, Value.int i = .str s → Latin1 s) ∧ ∀ j, Value.int i = .int j →
        INT64_MIN ≤ j ∧ j ≤ UINT64_MAX ∧ (INT64_MAX < j → t = .uint64) := by
    intro i hl hh ht
    refine ⟨trivial, ?_, ?_⟩
    · intro s hs
      cases hs
    · intro j hj
      cases hj
      exact ⟨hl, hh, ht⟩
  simp only [INT64_MIN, INT64_MAX, UINT64_MAX] at hint ⊢
  cases t with
  | null =>
    obtain ⟨rfl, -⟩ := h
    exact ⟨trivial, by simp, by simp⟩
  | bool =>
    obtain ⟨rfl, -⟩ := h
    exact ⟨trivial, by simp, by simp⟩
  | int32 =>
    obtain ⟨n, -, rfl⟩ := h
    have hb : -2 ^ 31 ≤ cInt 32 n ∧ cInt 32 n < 2 ^ 31 := cInt_bounds 31 n
    apply hint <;> omega
  | uint32 =>
    obtain ⟨n, -, rfl⟩ := h
    have hb := cUint_bounds 32 n
    apply hint <;> omega
  | int64 =>
    obtain ⟨n, -, rfl⟩ := h
    have hb : -2 ^ 63 ≤ cInt 64 n ∧ cInt 64 n < 2 ^ 63 := cInt_bounds 63 n
    apply hint <;> omega
  | uint64 =>
    obtain ⟨n, -, rfl⟩ := h
    have hb := cUint_bounds 64 n
    exact hint _ (by omega) (by omega) fun _ => rfl
  | ipv4 =>
    obtain ⟨a, -, rfl⟩ := h
    exact ⟨trivial, by simp, by simp⟩
  | ipv6 =>
    obtain ⟨a, ⟨hscope, -⟩, rfl⟩ := h
    exact ⟨hscope, by simp, by simp⟩
  | string =>
    obtain ⟨s, ⟨val, -, rfl⟩, rfl⟩ := h
    exact ⟨trivial, by simpa using latin1_decode val, by simp⟩
  | binary =>
    obtain ⟨val, -, rfl⟩ := h
    exact ⟨trivial, by simp, by simp⟩

theorem autoEncodeDtVar_succeeds {v : Value} (hs : ∀ s, v = .str s → Latin1 s)
    (hi : ∀ i, v = .int i → INT64_MIN ≤ i ∧ i ≤ INT64_MAX) :
    ∃ out, autoEncodeDtVar (.val v) = .ok out := by
  cases v with
  | int i =>
    exact ⟨_, autoEncodeDtVar_int (hi i rfl)⟩
  | str s =>
    obtain ⟨bs, hbs⟩ := latin1Encode_isSome.mpr (hs s rfl)
    exact ⟨_, autoEncodeDtVar_str hbs⟩
  | bytes bs => exact ⟨_, autoEncodeDtVar_bytes bs⟩
  | none => exact ⟨_, rfl⟩
  | bool b => exact ⟨_, rfl⟩
  | ipv4 a => exact ⟨_, rfl⟩
  | ipv6 a => exact ⟨_, rfl⟩

/-- A decoded value is encoded and decoded again as itself and fits a SetVar action, except for
an integer above INT64, which only UINT64 carries: `auto_encode_dt_var` refuses it. -/
theorem echo_closure {buf : Bytes} {off off' : ℕ} {v : Value}
    (h : autoDecodeVar buf off = .ok (v, off')) :
    ((∀ i, v = .int i → i ≤ INT64_MAX) →
      (∃ out, autoEncodeDtVar (.val v) = .ok out ∧ autoDecodeVar out 0 = .ok (v, out.length)) ∧
      ∀ scope name, Latin1 name → ∃ out, composeAction (.ofSet scope name v) = .ok out) ∧
    ∀ i, v = .int i → INT64_MAX < i →
      i ≤ UINT64_MAX ∧ (∃ b, buf[off]? = some b ∧ b.val % 16 = DataType.uint64.value) ∧
      ∃ e, autoEncodeDtVar (.val v) = .error e ∧ e.cls = .spopEncodeError := by
  have hoff : off ≤ buf.length := by
    by_contra hlt
    have hnone : buf[off]? = none := List.getElem?_eq_none (by omega)
    simp only [autoDecodeVar, hnone] at h
    cases h
  obtain ⟨bs, hat, ⟨b, t, data, ht, hdata, rfl⟩, -⟩ :=
    (autoDecodeVar_recognizes buf off v off' hoff).mp h
  obtain ⟨hscope, hlatin, hrange⟩ := hdata.range
  constructor
  · intro hmax
    obtain ⟨out, hout⟩ := autoEncodeDtVar_succeeds hlatin fun i hi => ⟨(hrange i hi).1, hmax i hi⟩
    refine ⟨⟨out, hout, ?_⟩, ?_⟩
    · have hself : At out 0 out := ⟨[], [], by simp, rfl⟩
      have hread := autoDecodeVar_reads hscope hout out 0 hself
      rwa [Nat.zero_add] at hread
    · intro scope name hname
      obtain ⟨x, hx⟩ := encodeString_latin1 hname
      exact ⟨_, composeAction_set_ok.mpr ⟨x, out, hx, hout, rfl⟩⟩
  · rintro i rfl hmax
    obtain ⟨-, huint, htype⟩ := hrange i rfl
    refine ⟨huint, ⟨b, (at_cons.mp hat).1, by rw [ht, htype hmax]⟩,
      encodeError (str "INT64" ++ str " value out of range: " ++ intText i), ?_, rfl⟩
    have hprint : Printable i := by
      simp only [INT64_MAX, UINT64_MAX] at hmax huint
      exact printable_of_natAbs_lt (by omega)
    have hout : ¬(INT64_MIN ≤ i ∧ i ≤ INT64_MAX) := by omega
    simp only [autoEncodeDtVar, reprCheck, encodeByType, encodeDtInt64, encodeDtInteger,
      intStr_ok.mpr ⟨hprint, rfl⟩, if_neg hout, ok_bind]

theorem echo_closure_values :
    (∃ out, autoEncodeDtVar (.val (.int INT64_MAX)) = .ok out ∧
      autoDecodeVar out 0 = .ok (.int INT64_MAX, out.length)) ∧
    ∃ out, autoEncodeDtVar (.val (.bool true)) = .ok out ∧
      autoDecodeVar out 0 = .ok (.bool true, out.length) := by
  have hint : autoDecodeVar [5, 255, 240, 254, 254, 254, 254, 254, 254, 254, 6] 0 =
      .ok (.int INT64_MAX, 11) := by decide +kernel
  have hbool : autoDecodeVar [17] 0 = .ok (.bool true, 1) := by decide +kernel
  constructor
  · apply ((echo_closure hint).1 _).1
    intro i hi
    cases hi
    exact le_refl _
  · apply ((echo_closure hbool).1 _).1
    intro i hi
    cases hi

/-- UINT64 of `2^63` cannot be put into an action. -/
theorem echo_refused : ¬∀ (buf : Bytes) (off off' : ℕ) (v : Value),
    autoDecodeVar buf off = .ok (v, off') →
      ∃ out, autoEncodeDtVar (.val v) = .ok out ∧ autoDecodeVar out 0 = .ok (v, out.length) := by
  intro h
  have hread : autoDecodeVar [5, 240, 241, 254, 254, 254, 254, 254, 254, 254, 6] 0 =
      .ok (.int (2 ^ 63), 11) := by decide +kernel
  obtain ⟨out, hout, -⟩ := h _ _ _ _ hread
  have hrange := (encodeDtInt64_ok.mp (autoEncodeDtVar_ok.mp hout).2).1.2
  exact absurd hrange (by decide)

end SpoeForge
