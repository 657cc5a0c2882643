import SpoeForge.Library.Grammar
import SpoeForge.Wire.Payloads

/-!
# The grammar of payloads

The wire format as languages, from the varint to the lists of messages and of actions,
stated without the decoders. Every decoder recognises its language: it succeeds exactly
on the strings of the language and gives the value they denote.
-/

namespace SpoeForge

open Fallible OffsetReader Grammar

/-! ### Varints -/

/-- The bytes after the first one: seven bits each, the lowest first, and the
continuation bit counts in the sum. -/
inductive IsVarintTail : Lang Byte ℕ
  | last (b : Byte) (h : b.val < 128) : IsVarintTail b.val [b]
  | more (b : Byte) (h : 128 ≤ b.val) {n : ℕ} {bs : Bytes} (ht : IsVarintTail n bs) :
      IsVarintTail (b.val + 2 ^ 7 * n) (b :: bs)

inductive IsVarint : Lang Byte ℕ
  | short (b : Byte) (h : b.val < 240) : IsVarint b.val [b]
  | long (b : Byte) (h : 240 ≤ b.val) {n : ℕ} {bs : Bytes} (ht : IsVarintTail n bs) :
      IsVarint (b.val + 2 ^ 4 * n) (b :: bs)

theorem varintLoop_ok (rest : Bytes) (offset value shift n off' : ℕ) :
    varintLoop rest offset value shift = .ok (n, off') ↔
      ∃ t bs post, rest = bs ++ post ∧ IsVarintTail t bs ∧ n = value + t <<< shift ∧
        off' = offset + 1 + bs.length := by
  induction rest generalizing offset value shift with
  | nil =>
    constructor
    · intro h
      cases h
    · rintro ⟨t, bs, post, hnil, ht, -, -⟩
      cases ht <;> cases hnil
  | cons next rest ih =>
    simp only [varintLoop]
    by_cases hlt : next.val < 128
    · rw [if_pos hlt]
      constructor
      · intro h
        cases h
        exact ⟨next.val, [next], rest, rfl, .last next hlt, rfl, rfl⟩
      · rintro ⟨t, bs, post, hrest, ht, rfl, rfl⟩
        cases ht with
        | last b h =>
          cases hrest
          rfl
        | more b h ht =>
          cases hrest
          omega
    · have hsum : ∀ t, value + next.val <<< shift + t <<< (shift + 7) =
          value + (next.val + 2 ^ 7 * t) <<< shift := by
        intro t
        simp only [Nat.shiftLeft_eq]
        rw [Nat.pow_add]
        ring
      rw [if_neg hlt, ih]
      constructor
      · rintro ⟨t, bs, post, rfl, ht, rfl, rfl⟩
        refine ⟨_, next :: bs, post, rfl, .more next (by omega) ht, hsum t, ?_⟩
        rw [List.length_cons]
        omega
      · rintro ⟨t, bs, post, hrest, ht, rfl, rfl⟩
        cases ht with
        | last b h =>
          cases hrest
          omega
        | @more b h n bs ht =>
          cases hrest
          refine ⟨n, bs, post, rfl, ht, (hsum n).symm, ?_⟩
          rw [List.length_cons]
          omega

theorem parseVarint_recognizes : Recognizes parseVarint IsVarint := by
  intro buf off n off' hoff
  have hat : ∀ bs post, buf.drop off = bs ++ post → At buf off bs := fun bs post h =>
    ⟨buf.take off, post, by rw [List.append_assoc, ← h, List.take_append_drop], by simp [hoff]⟩
  unfold parseVarint
  constructor
  · intro h
    split at h
    · cases h
    · rename_i first rest hd
      split at h
      · rename_i hlt
        cases h
        exact ⟨[first], hat [first] rest hd, .short first hlt, rfl⟩
      · rename_i hge
        obtain ⟨t, bs, post, rfl, ht, rfl, rfl⟩ := (varintLoop_ok _ _ _ _ _ _).mp h
        refine ⟨first :: bs, hat (first :: bs) post hd, ?_, ?_⟩
        · rw [Nat.shiftLeft_eq, Nat.mul_comm]
          exact .long first (by omega) ht
        · rw [List.length_cons]
          omega
  · rintro ⟨bs, hbs, hn, rfl⟩
    obtain ⟨post, hd⟩ := hbs.drop
    rw [hd]
    cases hn with
    | short b h => simp only [List.cons_append, if_pos h, List.length_cons, List.length_nil]
    | @long b h t bs ht =>
      have hge : ¬b.val < 240 := by omega
      simp only [List.cons_append, if_neg hge]
      apply (varintLoop_ok _ _ _ _ _ _).mpr
      refine ⟨t, bs, post, rfl, ht, ?_, ?_⟩
      · rw [Nat.shiftLeft_eq, Nat.mul_comm]
      · rw [List.length_cons]
        omega

/-! ### Strings and binaries -/

/-- A length and so many bytes. -/
def IsBinary : Lang Byte Bytes := fun val bs => ∃ len, IsVarint val.length len ∧ bs = len ++ val

/-- STRING: every byte is a code point. -/
def IsString : Lang Byte Str := fun s bs => ∃ val, IsBinary val bs ∧ s = latin1Decode val

/-- `len` bytes from the offset on. -/
def takeBytes (text : Str) (len : ℕ) : Dec Bytes := fun buf offset =>
  if buf.length < offset + len then .error (decodeError text)
  else .ok (slice buf offset (offset + len), offset + len)

/-- A decoder that takes `n` bytes as they stand recognises the strings that the values of its
type are packed into. -/
theorem recognizes_packed {α : Type} {d : Dec α} {n : ℕ} {packed : α → Bytes} {valid : α → Prop}
    (hreads : ∀ a, valid a → Reads d a (packed a))
    (hok : ∀ buf off a off', d buf off = .ok (a, off') → off + n ≤ buf.length ∧ off' = off + n ∧
      valid a ∧ packed a = slice buf off (off + n)) :
    Recognizes d fun a bs => valid a ∧ bs = packed a := by
  intro buf off a off' hoff
  constructor
  · intro h
    obtain ⟨hle, rfl, ha, hpacked⟩ := hok buf off a off' h
    have hat : At buf off ((buf.drop off).take n) := at_slice hle
    rw [slice, Nat.add_sub_cancel_left] at hpacked
    have hlen : ((buf.drop off).take n).length = n := by
      rw [List.length_take, List.length_drop]
      omega
    rw [← hpacked] at hat hlen
    exact ⟨packed a, hat, ⟨ha, rfl⟩, by rw [hlen]⟩
  · rintro ⟨bs, hat, ⟨ha, rfl⟩, rfl⟩
    exact hreads a ha buf off hat

theorem takeBytes_recognizes (text : Str) (len : ℕ) :
    Recognizes (takeBytes text len) fun val bs => val.length = len ∧ bs = val := by
  apply recognizes_packed (n := len)
  · rintro val rfl buf off hat
    have hle := hat.length_le
    have hslice := hat.slice
    rw [takeBytes, if_neg (by omega), slice, Nat.add_sub_cancel_left, hslice]
  · intro buf off val off' h
    unfold takeBytes at h
    split at h
    · cases h
    · rename_i hle
      cases h
      have hlen : (slice buf off (off + len)).length = off + len - off :=
        slice_length (by omega) (by omega)
      exact ⟨by omega, rfl, by omega, rfl⟩

theorem decodeBinary_recognizes : Recognizes decodeBinary IsBinary := by
  have hd : decodeBinary = andThen parseVarint
      (takeBytes (str "unexpected end of stream decoding binary")) := rfl
  rw [hd]
  apply (parseVarint_recognizes.andThen fun n => takeBytes_recognizes _ n).congr
  intro val bs
  constructor
  · rintro ⟨n, x, y, hn, ⟨rfl, rfl⟩, rfl⟩
    exact ⟨x, hn, rfl⟩
  · rintro ⟨len, hlen, rfl⟩
    exact ⟨_, len, val, hlen, ⟨rfl, rfl⟩, rfl⟩

theorem decodeString_recognizes : Recognizes decodeString IsString :=
  decodeBinary_recognizes.map latin1Decode

theorem decodeTinyInt_recognizes :
    Recognizes decodeTinyInt fun n bs => ∃ b : Byte, n = b.val ∧ bs = [b] := by
  intro buf off n off' hoff
  constructor
  · intro h
    unfold decodeTinyInt at h
    split at h
    · cases h
    · rename_i b hb
      cases h
      exact ⟨[b], at_singleton.mpr hb, ⟨b, rfl, rfl⟩, rfl⟩
  · rintro ⟨bs, hat, ⟨b, rfl, rfl⟩, rfl⟩
    exact decodeTinyInt_reads b buf off hat

/-! ### Typed data -/

/-- The data of a value whose type byte is `b`; BOOL has none and is true when the upper half
of its type byte is 1. -/
def IsData (b : Byte) : DataType → Lang Byte Value
  | .null => Ret .none
  | .bool => Ret (.bool (decide (b.val / 16 = 1)))
  | .int32 => fun v bs => ∃ n, IsVarint n bs ∧ v = .int (cInt 32 n)
  | .uint32 => fun v bs => ∃ n, IsVarint n bs ∧ v = .int (cUint 32 n)
  | .int64 => fun v bs => ∃ n, IsVarint n bs ∧ v = .int (cInt 64 n)
  | .uint64 => fun v bs => ∃ n, IsVarint n bs ∧ v = .int (cUint 64 n)
  | .ipv4 => fun v bs => ∃ a : IPv4Address, bs = a.packed ∧ v = .ipv4 a
  | .ipv6 => fun v bs => ∃ a : IPv6Address, (a.scopeId = none ∧ bs = a.packed) ∧ v = .ipv6 a
  | .string => fun v bs => ∃ s, IsString s bs ∧ v = .str s
  | .binary => fun v bs => ∃ val, IsBinary val bs ∧ v = .bytes val

/-- TYPED-DATA: the lower half of the first byte is the type. -/
def IsTypedData : Lang Byte Value := fun v bs =>
  ∃ (b : Byte) (t : DataType) (data : Bytes), b.val % 16 = t.value ∧ IsData b t v data ∧
    bs = b :: data

theorem DataType.ofValue_eq_some {n : ℕ} {t : DataType} :
    DataType.ofValue n = some t ↔ n = t.value := by
  constructor
  · intro h
    unfold DataType.ofValue at h
    split at h <;> cases h <;> rfl
  · rintro rfl
    exact DataType.ofValue_value t

theorem decodeIpv4_recognizes :
    Recognizes decodeIpv4 fun a bs => bs = a.packed := by
  have h : Recognizes decodeIpv4 fun a bs => True ∧ bs = a.packed := by
    apply recognizes_packed (n := 4) fun a _ => decodeIpv4_reads a
    intro buf off a off' h
    unfold decodeIpv4 at h
    split at h
    · cases h
    · rename_i hle
      cases h
      exact ⟨by omega, rfl, trivial, rfl⟩
  exact h.congr fun a bs => by rw [true_and]

theorem decodeIpv6_recognizes :
    Recognizes decodeIpv6 fun a bs => a.scopeId = none ∧ bs = a.packed := by
  apply recognizes_packed (n := 16) decodeIpv6_reads
  intro buf off a off' h
  unfold decodeIpv6 at h
  split at h
  · cases h
  · rename_i hle
    cases h
    exact ⟨by omega, rfl, rfl, rfl⟩

theorem decodeAs_recognizes {α : Type} {d : Dec α} {G : Lang Byte α} (h : Recognizes d G)
    (wrap : α → Value) : Recognizes (decodeAs wrap d) fun v bs => ∃ a, G a bs ∧ v = wrap a :=
  h.map wrap

theorem decodeInteger_recognizes (convert : ℕ → ℤ) :
    Recognizes (decodeAs .int (decodeInteger convert)) fun v bs =>
      ∃ n, IsVarint n bs ∧ v = .int (convert n) := by
  have hint : Recognizes (decodeInteger convert) fun i bs => ∃ n, IsVarint n bs ∧ i = convert n :=
    parseVarint_recognizes.map convert
  apply (decodeAs_recognizes hint .int).congr
  intro v bs
  constructor
  · rintro ⟨i, ⟨n, hn, rfl⟩, rfl⟩
    exact ⟨n, hn, rfl⟩
  · rintro ⟨n, hn, rfl⟩
    exact ⟨_, ⟨n, hn, rfl⟩, rfl⟩

theorem decodeByType_recognizes (b : Byte) (t : DataType) (ht : t ≠ .bool) :
    Recognizes (decodeByType t) (IsData b t) := by
  cases t with
  | null => exact Recognizes.value _
  | bool => exact absurd rfl ht
  | int32 => exact decodeInteger_recognizes (cInt 32)
  | uint32 => exact decodeInteger_recognizes (cUint 32)
  | int64 => exact decodeInteger_recognizes (cInt 64)
  | uint64 => exact decodeInteger_recognizes (cUint 64)
  | ipv4 => exact decodeAs_recognizes decodeIpv4_recognizes .ipv4
  | ipv6 => exact decodeAs_recognizes decodeIpv6_recognizes .ipv6
  | string => exact decodeAs_recognizes decodeString_recognizes .str
  | binary => exact decodeAs_recognizes decodeBinary_recognizes .bytes

theorem decodeByType_bool {buf : Bytes} {off : ℕ} {b : Byte} (hb : buf[off]? = some b) (v : Value)
    (off' : ℕ) : decodeByType .bool buf (off + 1) = .ok (v, off') ↔
      v = .bool (decide (b.val / 16 = 1)) ∧ off' = off + 1 := by
  have hflag : ∀ b : Byte, decide (b.val &&& FLAG_MASK = BOOL_TRUE) = decide (b.val / 16 = 1) := by
    decide +kernel
  simp only [decodeByType, decodeAs, decodeBool, Nat.add_sub_cancel, hb, ok_bind, hflag,
    Except.ok.injEq, Prod.mk.injEq]
  constructor
  · rintro ⟨rfl, rfl⟩
    exact ⟨rfl, rfl⟩
  · rintro ⟨rfl, rfl⟩
    exact ⟨rfl, rfl⟩

theorem autoDecodeVar_recognizes : Recognizes autoDecodeVar IsTypedData := by
  intro buf off v off' hoff
  have hmask : ∀ b : Byte, b.val &&& TYPE_MASK = b.val % 16 :=
    fun b => Nat.and_two_pow_sub_one_eq_mod b.val 4
  constructor
  · intro h
    unfold autoDecodeVar at h
    split at h
    · cases h
    · rename_i b hb
      dsimp only at h
      rw [hmask] at h
      split at h
      · cases h
      · rename_i t ht
        rw [DataType.ofValue_eq_some] at ht
        by_cases hbool : t = .bool
        · subst hbool
          obtain ⟨rfl, rfl⟩ := (decodeByType_bool hb v off').mp h
          exact ⟨[b], at_singleton.mpr hb, ⟨b, .bool, [], ht, ⟨rfl, rfl⟩, rfl⟩, rfl⟩
        · have hlt := (List.getElem?_eq_some_iff.mp hb).1
          obtain ⟨data, hat, hdata, rfl⟩ :=
            (decodeByType_recognizes b t hbool buf (off + 1) v off' hlt).mp h
          refine ⟨b :: data, at_cons.mpr ⟨hb, hat⟩, ⟨b, t, data, ht, hdata, rfl⟩, ?_⟩
          rw [List.length_cons]
          omega
  · rintro ⟨bs, hat, ⟨b, t, data, ht, hdata, rfl⟩, rfl⟩
    obtain ⟨hb, hat⟩ := at_cons.mp hat
    have htype := DataType.ofValue_eq_some.mpr ht
    simp only [autoDecodeVar, hb, hmask, htype]
    by_cases hbool : t = .bool
    · subst hbool
      obtain ⟨rfl, rfl⟩ := hdata
      exact (decodeByType_bool hb _ _).mpr ⟨rfl, rfl⟩
    · have hle := hat.length_le
      apply (decodeByType_recognizes b t hbool buf (off + 1) v _ (by omega)).mpr
      refine ⟨data, hat, hdata, ?_⟩
      rw [List.length_cons]
      omega

/-! ### Messages -/

def IsKvPair : Lang Byte (Str × Value) := fun p bs =>
  ∃ x y, IsString p.1 x ∧ IsTypedData p.2 y ∧ bs = x ++ y

/-- STRING, one count byte, then so many pairs; the arguments are a dictionary, so that
their names are pairwise distinct. -/
def IsMessage : Lang Byte (Str × Args) := fun m bs =>
  ∃ (name : Bytes) (count : Byte) (pairs : Bytes), IsString m.1 name ∧
    count.val = m.2.entries.length ∧ Many IsKvPair m.2.entries pairs ∧
    bs = name ++ [count] ++ pairs

theorem parseKvPair_recognizes : Recognizes parseKvPair IsKvPair := by
  have hd : parseKvPair = andThen decodeString fun k => andThen autoDecodeVar fun v _ off =>
      .ok ((k, v), off) := rfl
  rw [hd]
  apply (decodeString_recognizes.andThen fun k => autoDecodeVar_recognizes.map (Prod.mk k)).congr
  intro p bs
  constructor
  · rintro ⟨k, x, y, hk, ⟨v, hv, rfl⟩, rfl⟩
    exact ⟨x, y, hk, hv, rfl⟩
  · rintro ⟨x, y, hk, hv, rfl⟩
    exact ⟨p.1, x, y, hk, ⟨p.2, hv, rfl⟩, rfl⟩

/-- The counted loop appends as many pairs as it counts to the arguments, which stay a
dictionary without a name twice. -/
theorem decodeArgs_recognizes (message : Str) (n : ℕ) (args : Args) :
    Recognizes (decodeArgs message n args) fun args' bs =>
      ∃ l, Many IsKvPair l bs ∧ l.length = n ∧ args'.entries = args.entries ++ l := by
  induction n generalizing args with
  | zero =>
    apply (Recognizes.value args).congr
    intro args' bs
    constructor
    · rintro ⟨rfl, rfl⟩
      exact ⟨[], ⟨[], .nil, rfl⟩, rfl, by simp⟩
    · rintro ⟨l, ⟨xs, hxs, rfl⟩, hlen, he⟩
      obtain rfl : l = [] := List.length_eq_zero_iff.mp hlen
      cases hxs
      exact ⟨Dict.ext_entries (by simpa using he), rfl⟩
  | succ n ih =>
    have hd : decodeArgs message (n + 1) args = andThen parseKvPair fun p =>
        if args.contains p.1 then fun _ _ => .error (decodeError
          (str "unexpected duplicate arg " ++ p.1 ++ str " in message " ++ message))
        else decodeArgs message n (args.set p.1 p.2) := by
      funext buf off
      simp only [decodeArgs, andThen]
      congr 1
      funext p
      split <;> rfl
    have hnew : ∀ p : Str × Value, Recognizes (if args.contains p.1 then fun _ _ =>
          .error (decodeError
            (str "unexpected duplicate arg " ++ p.1 ++ str " in message " ++ message))
        else decodeArgs message n (args.set p.1 p.2)) fun args' bs => p.1 ∉ args.keys ∧
          ∃ l, Many IsKvPair l bs ∧ l.length = n ∧ args'.entries = args.entries ++ p :: l := by
      intro p
      by_cases hk : p.1 ∈ args.keys
      · rw [if_pos (by simpa [Dict.contains] using hk)]
        intro buf off args' off' hoff
        constructor
        · intro h
          cases h
        · rintro ⟨bs, -, ⟨hn, -⟩, -⟩
          exact absurd hk hn
      · rw [if_neg (by simpa [Dict.contains] using hk)]
        apply (ih (args.set p.1 p.2)).congr
        intro args' bs
        simp only [args.set_entries_of_not_mem p.1 p.2 hk, List.append_assoc, hk,
          not_false_eq_true, true_and, List.singleton_append]
    rw [hd]
    apply (parseKvPair_recognizes.andThen hnew).congr
    intro args' bs
    constructor
    · rintro ⟨p, x, y, hp, ⟨-, l, ⟨xs, hxs, rfl⟩, hlen, he⟩, rfl⟩
      exact ⟨p :: l, ⟨x :: xs, .cons hp hxs, rfl⟩, by rw [List.length_cons, hlen], he⟩
    · rintro ⟨l, ⟨xs, hxs, rfl⟩, hlen, he⟩
      cases hxs with
      | nil => cases hlen
      | @cons p x l xs hp hxs =>
        have hk : p.1 ∉ args.keys := by
          have hnodup := args'.nodup
          rw [he, List.map_append, List.map_cons] at hnodup
          have hd := (List.nodup_append.mp hnodup).2.2
          exact fun hm => hd p.1 hm p.1 (List.mem_cons_self ..) rfl
        exact ⟨p, x, xs.flatten, hp, ⟨hk, l, ⟨xs, hxs, rfl⟩, by simpa using hlen, he⟩, rfl⟩

theorem decodeMessage_recognizes : Recognizes decodeMessage IsMessage := by
  have hd : decodeMessage = andThen decodeString fun name => andThen decodeTinyInt fun n =>
      andThen (decodeArgs name n Dict.empty) fun args _ off => .ok ((name, args), off) := rfl
  rw [hd]
  apply (decodeString_recognizes.andThen fun name => decodeTinyInt_recognizes.andThen fun n =>
    (decodeArgs_recognizes name n Dict.empty).map (Prod.mk name)).congr
  intro m bs
  constructor
  · rintro ⟨name, x, -, hx, ⟨n, -, pairs, ⟨count, rfl, rfl⟩,
      ⟨args, ⟨l, hl, hlen, he⟩, rfl⟩, rfl⟩, rfl⟩
    obtain rfl : args.entries = l := by simpa [Dict.empty] using he
    exact ⟨x, count, pairs, hx, hlen.symm, hl, by simp⟩
  · rintro ⟨x, count, pairs, hx, hcount, hpairs, rfl⟩
    refine ⟨m.1, x, [count] ++ pairs, hx, ⟨count.val, [count], pairs, ⟨count, rfl, rfl⟩, ?_, rfl⟩,
      by simp⟩
    exact ⟨m.2, ⟨m.2.entries, hpairs, hcount.symm, rfl⟩, rfl⟩

/-! ### Actions -/

/-- Type and count of arguments, the scope, then STRING for the name and TYPED-DATA for the
value to set. -/
inductive IsAction : Lang Byte ActionObj
  | set (scope : ActionScope) {name : Str} {v : Value} {x y : Bytes} (hn : IsString name x)
      (hv : IsTypedData v y) :
      IsAction (.ofSet scope name v) ([1, 3, byte scope.value] ++ x ++ y)
  | unset (scope : ActionScope) {name : Str} {x : Bytes} (hn : IsString name x) :
      IsAction (.ofUnset scope name) ([2, 2, byte scope.value] ++ x)

/-- What follows the three header bytes. -/
def IsActionArgs (scope : ActionScope) : ActionType → Lang Byte ActionObj
  | .setVar => fun a bs => ∃ p, IsKvPair p bs ∧ a = .ofSet scope p.1 p.2
  | .unsetVar => fun a bs => ∃ name, IsString name bs ∧ a = .ofUnset scope name

theorem decodeActionArgs_recognizes (t : ActionType) (scope : ActionScope) :
    Recognizes (decodeActionArgs t t.nbArgs scope) (IsActionArgs scope t) := by
  cases t with
  | setVar => exact parseKvPair_recognizes.map fun p => ActionObj.ofSet scope p.1 p.2
  | unsetVar => exact decodeString_recognizes.map fun name => ActionObj.ofUnset scope name

theorem decodeActionArgs_nbArgs {t : ActionType} {n : ℕ} {scope : ActionScope} {buf : Bytes}
    {off : ℕ} {r : ActionObj × ℕ} (h : decodeActionArgs t n scope buf off = .ok r) :
    n = t.nbArgs := by
  by_contra hn
  unfold decodeActionArgs at h
  cases t <;> simp only [ne_eq, hn, not_false_eq_true, if_true] at h <;> cases h

theorem ActionType.ofValue_eq_some {n : ℕ} {t : ActionType} :
    ActionType.ofValue n = some t ↔ n = t.value := by
  constructor
  · intro h
    unfold ActionType.ofValue at h
    split at h <;> cases h <;> rfl
  · rintro rfl
    exact ActionType.ofValue_value t

theorem ActionScope.ofValue_eq_some {n : ℕ} {s : ActionScope} :
    ActionScope.ofValue n = some s ↔ n = s.value := by
  constructor
  · intro h
    unfold ActionScope.ofValue at h
    split at h <;> cases h <;> rfl
  · rintro rfl
    exact ActionScope.ofValue_value s

theorem isAction_iff {a : ActionObj} {bs : Bytes} : IsAction a bs ↔
    ∃ (t : ActionType) (scope : ActionScope) (args : Bytes), IsActionArgs scope t a args ∧
      bs = [byte t.value, byte t.nbArgs, byte scope.value] ++ args := by
  constructor
  · intro h
    cases h with
    | @set scope name v x y hn hv =>
      exact ⟨.setVar, scope, x ++ y, ⟨(name, v), ⟨x, y, hn, hv, rfl⟩, rfl⟩,
        List.append_assoc ..⟩
    | unset scope hn => exact ⟨.unsetVar, scope, _, ⟨_, hn, rfl⟩, rfl⟩
  · rintro ⟨t, scope, args, hargs, rfl⟩
    cases t with
    | setVar =>
      obtain ⟨p, ⟨x, y, hn, hv, rfl⟩, rfl⟩ := hargs
      rw [← List.append_assoc]
      exact .set scope hn hv
    | unsetVar =>
      obtain ⟨name, hn, rfl⟩ := hargs
      exact .unset scope hn

theorem decodeAction_recognizes : Recognizes decodeAction IsAction := by
  have hbyte : ∀ {b : Byte} {n : ℕ}, b.val = n → b = byte n := by
    rintro b n rfl
    exact (byte_of_val b).symm
  intro buf off a off' hoff
  constructor
  · intro h
    unfold decodeAction at h
    split at h
    · rename_i b₀ b₁ b₂ h₀ h₁ h₂
      split at h
      · cases h
      · rename_i t ht
        split at h
        · cases h
        · rename_i scope hscope
          have hnb := decodeActionArgs_nbArgs h
          have hlt := (List.getElem?_eq_some_iff.mp h₂).1
          rw [hnb] at h
          obtain ⟨args, hat, hargs, rfl⟩ :=
            (decodeActionArgs_recognizes t scope buf (off + 3) a off' hlt).mp h
          obtain rfl := hbyte (ActionType.ofValue_eq_some.mp ht)
          obtain rfl := hbyte hnb
          obtain rfl := hbyte (ActionScope.ofValue_eq_some.mp hscope)
          refine ⟨_, at_cons.mpr ⟨h₀, at_cons.mpr ⟨h₁, at_cons.mpr ⟨h₂, hat⟩⟩⟩,
            isAction_iff.mpr ⟨t, scope, args, hargs, rfl⟩, ?_⟩
          simp only [List.length_cons]
          omega
    · cases h
  · rintro ⟨bs, hat, hbs, rfl⟩
    obtain ⟨t, scope, args, hargs, rfl⟩ := isAction_iff.mp hbs
    exact decodeAction_reads_header ((decodeActionArgs_recognizes t scope).reads hargs) buf off hat

/-! ### Lists -/

/-- The outcome of reading all of `p` as a string of the language: the one value that `p`
denotes and the offset at its end, or a decode error. -/
def ReadsAll {α : Type} (x : Except Exc (α × ℕ)) (G : Lang Byte α) (p : Bytes) : Prop :=
  (∀ a off, x = .ok (a, off) ↔ G a p ∧ off = p.length) ∧ (∀ a b, G a p → G b p → a = b) ∧
    ((¬∃ a, G a p) → ∃ e, x = .error e ∧ e.cls = .spopDecodeError)

theorem readUntil_readsAll {α : Type} {item : Dec α} {G : Lang Byte α} (h : Recognizes item G)
    (hi : Advances item) (hf : DecodeFails item) (p : Bytes) :
    ReadsAll (readUntil item pushBack p 0 p.length []) (Many G) p := by
  have hok : ∀ as off, readUntil item pushBack p 0 p.length [] = .ok (as, off) ↔
      Many G as p ∧ off = p.length := by
    intro as off
    rw [readUntil_recognizes h hi pushBack p 0 [] as off (Nat.zero_le _)]
    simp only [List.drop_zero, foldl_pushBack, List.nil_append]
    constructor
    · rintro ⟨bs, hbs, rfl, rfl⟩
      exact ⟨hbs, rfl⟩
    · rintro ⟨has, rfl⟩
      exact ⟨as, has, rfl, rfl⟩
  refine ⟨hok, fun as bs has hbs => ?_, fun hnone => ?_⟩
  · have h1 := (hok as p.length).mpr ⟨has, rfl⟩
    rw [(hok bs p.length).mpr ⟨hbs, rfl⟩] at h1
    cases h1
    rfl
  · cases hr : readUntil item pushBack p 0 p.length [] with
    | ok r => exact absurd ⟨r.1, ((hok r.1 r.2).mp hr).1⟩ hnone
    | error e => exact ⟨e, rfl, (readUntil_fails hf pushBack p 0 p.length [] e hr).1⟩

/-- For every byte string: the list decoders succeed exactly on the concatenations of
messages and of actions, with the list that the string denotes, and raise a decode error
otherwise. -/
theorem payload_grammar (p : Bytes) :
    ReadsAll (decodeListOfMessages p 0 p.length) (Many IsMessage) p ∧
      ReadsAll (decodeListOfActions p 0 p.length) (Many IsAction) p :=
  ⟨readUntil_readsAll decodeMessage_recognizes decodeMessage_advances decodeMessage_fails p,
    readUntil_readsAll decodeAction_recognizes decodeAction_advances decodeAction_fails p⟩

end SpoeForge
