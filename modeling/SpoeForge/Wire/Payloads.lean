import SpoeForge.Encoders.Payloads
import SpoeForge.Decoders.Payloads
import SpoeForge.Wire.TypedData

/-!
# Payloads on the wire

The decoders of `decoders/payloads.py` read back what the encoders of
`encoders/payloads.py` give, item by item and list by list, for values without an
IPv6 scope id. Every list loop ends exactly at the end of its buffer and fails only
with a decode error.
-/

namespace SpoeForge

open Fallible OffsetReader

/-! ### Key-value pairs -/

theorem encodeString_ne_nil {s : Str} {out : Bytes} (h : encodeString s = .ok out) : out ≠ [] := by
  obtain ⟨bs, -, rfl⟩ := encodeString_ok.mp h
  simp [varintBytes_ne_nil]

theorem composeKvPair_ok {k : Str} {v : Value} {out : Bytes} :
    composeKvPair k v = .ok out ↔
      ∃ x y, encodeString k = .ok x ∧ autoEncodeDtVar (.val v) = .ok y ∧ out = x ++ y := by
  unfold composeKvPair
  rw [bind_eq_ok]
  constructor
  · rintro ⟨x, hx, h⟩
    obtain ⟨y, hy, h⟩ := bind_eq_ok.mp h
    cases h
    exact ⟨x, y, hx, hy, rfl⟩
  · rintro ⟨x, y, hx, hy, rfl⟩
    exact ⟨x, hx, by rw [hy, ok_bind]⟩

theorem composeKvPair_ne_nil {k : Str} {v : Value} {out : Bytes}
    (h : composeKvPair k v = .ok out) : out ≠ [] := by
  obtain ⟨x, y, hx, -, rfl⟩ := composeKvPair_ok.mp h
  simp [encodeString_ne_nil hx]

theorem parseKvPair_reads {k : Str} {v : Value} {out : Bytes} (hv : v.NoScope)
    (h : composeKvPair k v = .ok out) : Reads parseKvPair (k, v) out := by
  obtain ⟨x, y, hx, hy, rfl⟩ := composeKvPair_ok.mp h
  intro buf off hat
  obtain ⟨hk, hd⟩ := at_append.mp hat
  simp only [parseKvPair, decodeString_reads hx buf off hk, ok_bind,
    autoDecodeVar_reads hv hy buf _ hd, List.length_append]
  rw [Nat.add_assoc]

theorem parseKvPair_advances : Advances parseKvPair :=
  decodeString_advances.andThen fun k => (autoDecodeVar_advances.andThen fun v =>
    Stays.value (k, v)).stays

theorem parseKvPair_fails : DecodeFails parseKvPair :=
  decodeString_fails.andThen fun k => autoDecodeVar_fails.andThen fun v => Fails.value _ (k, v)

theorem decodeKvList_reads {payload : Dict Str Value} {out buf : Bytes} {off : ℕ}
    (hv : ∀ p ∈ payload.entries, p.2.NoScope) (h : encodeKvList payload = .ok out)
    (hat : At buf off out) :
    decodeKvList buf off (off + out.length) = .ok (payload, off + out.length) := by
  obtain ⟨xs, hxs, rfl⟩ := extendAll_flatten h
  have hreads : List.Forall₂ (fun p x => Reads parseKvPair p x ∧ x ≠ []) payload.entries xs := by
    refine (List.forall₂_iff_get.mpr ⟨hxs.length_eq, fun i hi hi' => ?_⟩)
    have hp := hxs.get hi hi'
    exact ⟨parseKvPair_reads (hv _ (List.get_mem ..)) hp, composeKvPair_ne_nil hp⟩
  have hr := readUntil_reads setPair buf hreads off Dict.empty hat
  have hself : payload.entries.foldl setPair Dict.empty = payload := Dict.ofPairs_self payload
  rw [hself] at hr
  exact hr

theorem decodeKvList_ends {buf : Bytes} {off off' : ℕ} {payload : Dict Str Value}
    (hoff : off ≤ buf.length) (h : decodeKvList buf off buf.length = .ok (payload, off')) :
    off' = buf.length :=
  readUntil_length parseKvPair_advances setPair buf off _ hoff h

theorem decodeKvList_fails (buf : Bytes) (off stop : ℕ) :
    FailsWithin IsDecodeError (decodeKvList buf off stop) :=
  readUntil_fails parseKvPair_fails setPair buf off stop _

/-! ### Metadata -/

theorem cInt_of_lt {n : ℕ} (h : n < 2 ^ 63) : cInt 64 n = n := by
  have hmod : n % 2 ^ 64 = n := Nat.mod_eq_of_lt (by omega)
  simp only [cInt, hmod]
  split <;> omega

theorem encodeMetadata_ok {m : MetaData} {out : Bytes} :
    encodeMetadata m = .ok out ↔ 0 ≤ m.streamId ∧ 0 ≤ m.frameId ∧
      out = [0, 0, 0, flagsByte m.flags] ++ varintBytes m.streamId.toNat ++
        varintBytes m.frameId.toNat := by
  unfold encodeMetadata encodeInt
  rw [bind_eq_ok]
  constructor
  · rintro ⟨x, hx, h⟩
    obtain ⟨y, hy, h⟩ := bind_eq_ok.mp h
    obtain ⟨hs, rfl⟩ := composeVarint_ok.mp hx
    obtain ⟨hf, rfl⟩ := composeVarint_ok.mp hy
    cases h
    exact ⟨hs, hf, rfl⟩
  · rintro ⟨hs, hf, rfl⟩
    exact ⟨_, composeVarint_nonneg hs, by rw [composeVarint_nonneg hf, ok_bind]⟩

theorem flagsByte_reads (f : Flags) :
    (⟨decide ((flagsByte f).val &&& FLAG_FIN = FLAG_FIN),
      decide ((flagsByte f).val &&& FLAG_ABORT = FLAG_ABORT)⟩ : Flags) = f := by
  obtain ⟨fin, abort⟩ := f
  cases fin <;> cases abort <;> decide

theorem decodeInt64_reads (n : ℕ) : Reads decodeInt64 (cInt 64 n) (varintBytes n) :=
  decodeInteger_reads (cInt 64) n

theorem decodeMetadata_reads_wire (f : Flags) (s n : ℕ) :
    Reads decodeMetadata ⟨f, cInt 64 s, cInt 64 n⟩
      ([0, 0, 0, flagsByte f] ++ varintBytes s ++ varintBytes n) := by
  intro buf off hat
  obtain ⟨hhead, hn⟩ := at_append.mp hat
  obtain ⟨hflags, hs⟩ := at_append.mp hhead
  have hb : At buf (off + 3) [flagsByte f] := (at_append_of [0, 0, 0] hflags).2
  have h4 : off + [(0 : Byte), 0, 0, flagsByte f].length = off + 4 := rfl
  rw [h4] at hs
  rw [List.length_append, ← Nat.add_assoc, h4] at hn
  simp only [decodeMetadata, hb.getElem?, flagsByte_reads, decodeInt64_reads s buf _ hs, reraise,
    ok_bind, decodeInt64_reads n buf _ hn, List.length_append, List.length_cons, List.length_nil]
  congr 2
  omega

theorem decodeMetadata_reads {m : MetaData} {out : Bytes} (hs : m.streamId < 2 ^ 63)
    (hf : m.frameId < 2 ^ 63) (h : encodeMetadata m = .ok out) : Reads decodeMetadata m out := by
  obtain ⟨hs0, hf0, rfl⟩ := encodeMetadata_ok.mp h
  have hr := decodeMetadata_reads_wire m.flags m.streamId.toNat m.frameId.toNat
  have es : cInt 64 m.streamId.toNat = m.streamId := by
    rw [cInt_of_lt (by omega)]
    omega
  have ef : cInt 64 m.frameId.toNat = m.frameId := by
    rw [cInt_of_lt (by omega)]
    omega
  rw [es, ef] at hr
  exact hr

theorem reraise_ok {α : Type} {context : Str} {x : Except Exc α} {a : α} :
    reraise context x = .ok a ↔ x = .ok a := by
  cases x with
  | ok b => rfl
  | error e =>
    simp only [reraise]
    split <;> simp

theorem reraise_fails {α : Type} {context : Str} {x : Except Exc α} (hc : Latin1 context)
    (h : FailsWithin IsDecodeError x) : FailsWithin IsDecodeError (reraise context x) := by
  cases x with
  | ok a => exact FailsWithin.ok _ _
  | error e =>
    have he : IsDecodeError e := h e rfl
    simp only [reraise, if_pos he.1]
    exact FailsWithin.error (isDecodeError _ (latin1_append hc he.2))

theorem decodeMetadata_advances : Advances decodeMetadata := by
  intro buf off m off' h
  unfold decodeMetadata at h
  split at h
  · cases h
  · obtain ⟨⟨s, mid⟩, hs, h⟩ := bind_eq_ok.mp h
    obtain ⟨⟨f, fin⟩, hf, h⟩ := bind_eq_ok.mp h
    cases h
    have h1 := decodeInteger_advances _ _ _ _ _ (reraise_ok.mp hs)
    have h2 := decodeInteger_advances _ _ _ _ _ (reraise_ok.mp hf)
    omega

theorem decodeMetadata_fails : DecodeFails decodeMetadata := by
  intro buf off
  unfold decodeMetadata
  split
  · exact FailsWithin.error (isDecodeError _ (by decide))
  · refine (reraise_fails (by decide) (decodeInteger_fails _ buf _)).bind fun p _ => ?_
    refine (reraise_fails (by decide) (decodeInteger_fails _ buf _)).bind fun q _ => ?_
    exact FailsWithin.ok _ _

/-! ### Messages -/

theorem foldl_pushBack {α : Type} (xs acc : List α) : xs.foldl pushBack acc = acc ++ xs := by
  induction xs generalizing acc with
  | nil => simp
  | cons x xs ih => simp [ih, pushBack]

/-- The counted loop reads pairs with distinct new keys back, in order. -/
theorem decodeArgs_reads {l : List (Str × Value)} {xs : List Bytes}
    (h : List.Forall₂ (fun p x => Reads parseKvPair p x) l xs) (message : Str) (args : Args)
    (hnodup : ((args.entries ++ l).map Prod.fst).Nodup) :
    Reads (decodeArgs message l.length args) (l.foldl (fun d p => d.set p.1 p.2) args)
      xs.flatten := by
  induction h generalizing args with
  | nil => exact Reads.value args
  | @cons p x l xs hp _ ih =>
    obtain ⟨k, v⟩ := p
    intro buf off hat
    obtain ⟨hx, hxs⟩ := at_append.mp hat
    have hk : k ∉ args.keys := by
      rw [List.map_append, List.map_cons] at hnodup
      have hd := (List.nodup_append.mp hnodup).2.2
      exact fun hm => hd k hm k (List.mem_cons_self ..) rfl
    have hc : args.contains k = false := by simpa [Dict.contains] using hk
    have he := args.set_entries_of_not_mem k v hk
    have hrest := ih (args.set k v) (by rw [he]; simpa using hnodup) buf _ hxs
    simp only [List.length_cons, decodeArgs, hp buf off hx, ok_bind, hc, hrest, List.foldl_cons,
      List.flatten_cons, List.length_append, Bool.false_eq_true, if_false]
    rw [Nat.add_assoc]

theorem composeMessage_ok {name : Str} {args : Args} {out : Bytes} :
    composeMessage name args = .ok out ↔ args.entries.length ≤ 255 ∧
      ∃ x y, encodeString name = .ok x ∧ encodeKvList args = .ok y ∧
        out = x ++ [byte args.entries.length] ++ y := by
  unfold composeMessage
  by_cases hlen : 255 < args.entries.length
  · have hn : ¬args.entries.length ≤ 255 := by omega
    simp [hlen, hn]
  · have hle : args.entries.length ≤ 255 := by omega
    have htiny : encodeTinyInt (args.entries.length : ℤ) = .ok [byte args.entries.length] := by
      rw [encodeTinyInt, if_pos (by omega), Int.toNat_natCast]
    rw [if_neg hlen, bind_eq_ok, htiny]
    simp only [ok_bind, bind_eq_ok, hle, true_and, Except.ok.injEq]
    constructor
    · rintro ⟨x, hx, y, hy, rfl⟩
      exact ⟨x, y, hx, hy, rfl⟩
    · rintro ⟨x, y, hx, hy, rfl⟩
      exact ⟨x, hx, y, hy, rfl⟩

theorem composeMessage_ne_nil {name : Str} {args : Args} {out : Bytes}
    (h : composeMessage name args = .ok out) : out ≠ [] := by
  obtain ⟨-, x, y, -, -, rfl⟩ := composeMessage_ok.mp h
  simp

theorem decodeMessage_reads {name : Str} {args : Args} {out : Bytes}
    (hv : ∀ p ∈ args.entries, p.2.NoScope) (h : composeMessage name args = .ok out) :
    Reads decodeMessage (name, args) out := by
  obtain ⟨hlen, x, y, hx, hy, rfl⟩ := composeMessage_ok.mp h
  obtain ⟨xs, hxs, rfl⟩ := extendAll_flatten hy
  have hreads : List.Forall₂ (fun p x => Reads parseKvPair p x) args.entries xs := by
    refine (List.forall₂_iff_get.mpr ⟨hxs.length_eq, fun i hi hi' => ?_⟩)
    exact parseKvPair_reads (hv _ (List.get_mem ..)) (hxs.get hi hi')
  have hargs := decodeArgs_reads hreads name Dict.empty (by simpa [Dict.empty] using args.nodup)
  have hself : args.entries.foldl (fun d p => d.set p.1 p.2) Dict.empty = args :=
    Dict.ofPairs_self args
  rw [hself] at hargs
  intro buf off hat
  obtain ⟨hhead, hpairs⟩ := at_append.mp hat
  obtain ⟨hname, hcount⟩ := at_append.mp hhead
  have hc := decodeTinyInt_reads (byte args.entries.length) buf _ hcount
  rw [byte_val_of_lt (by omega)] at hc
  rw [List.length_append, ← Nat.add_assoc] at hpairs
  simp only [decodeMessage, decodeString_reads hx buf off hname, ok_bind, hc,
    hargs buf _ hpairs, List.length_append]
  simp only [Nat.add_assoc]

theorem decodeArgs_stays (message : Str) (n : ℕ) (args : Args) :
    Stays (decodeArgs message n args) := by
  induction n generalizing args with
  | zero => exact Stays.value args
  | succ n ih =>
    intro buf off r off' h
    obtain ⟨⟨⟨k, v⟩, mid⟩, hp, h⟩ := bind_eq_ok.mp h
    have h1 := parseKvPair_advances buf off _ mid hp
    dsimp only at h
    split at h
    · cases h
    · have h2 := ih _ buf mid r off' h
      have hend := h2.2 h1.2
      exact ⟨by omega, fun _ => hend⟩

theorem decodeMessage_advances : Advances decodeMessage :=
  decodeString_advances.andThen fun name => (decodeTinyInt_advances.andThen fun n =>
    (decodeArgs_stays name n Dict.empty).andThen fun args => Stays.value (name, args)).stays

theorem decodeArgs_fails {message : Str} (hm : Latin1 message) (n : ℕ) (args : Args) :
    DecodeFails (decodeArgs message n args) := by
  induction n generalizing args with
  | zero => exact Fails.value _ args
  | succ n ih =>
    intro buf off
    refine (parseKvPair_fails buf off).bind fun p hp => ?_
    obtain ⟨⟨k, v⟩, mid⟩ := p
    -- the key is quoted in the text, and comes out of the latin-1 decoder
    have hk : Latin1 k := by
      obtain ⟨⟨k', mid'⟩, hs, hp⟩ := bind_eq_ok.mp hp
      obtain ⟨⟨v', mid''⟩, -, hp⟩ := bind_eq_ok.mp hp
      cases hp
      obtain ⟨⟨bs, off'⟩, -, hs⟩ := bind_eq_ok.mp hs
      cases hs
      exact latin1_decode bs
    dsimp only
    split
    · refine FailsWithin.error (isDecodeError _ ?_)
      exact latin1_append (latin1_append (latin1_append (by decide) hk)
        (by decide)) hm
    · exact ih _ buf mid

theorem decodeString_latin1 {buf : Bytes} {off off' : ℕ} {s : Str}
    (h : decodeString buf off = .ok (s, off')) : Latin1 s := by
  obtain ⟨⟨bs, mid⟩, -, h⟩ := bind_eq_ok.mp h
  cases h
  exact latin1_decode bs

theorem decodeMessage_fails : DecodeFails decodeMessage := by
  intro buf off
  refine (decodeString_fails buf off).bind fun p hp => ?_
  refine (decodeTinyInt_fails buf _).bind fun q _ => ?_
  refine (decodeArgs_fails (decodeString_latin1 hp) _ _ buf _).bind fun r _ => ?_
  exact FailsWithin.ok _ _

theorem decodeListOfMessages_reads {messages : Messages} {out buf : Bytes} {off : ℕ}
    (hv : ∀ m ∈ messages, ∀ p ∈ m.2.entries, p.2.NoScope)
    (h : encodeMessageList messages = .ok out) (hat : At buf off out) :
    decodeListOfMessages buf off (off + out.length) = .ok (messages, off + out.length) := by
  obtain ⟨xs, hxs, rfl⟩ := extendAll_flatten h
  have hreads : List.Forall₂ (fun m x => Reads decodeMessage m x ∧ x ≠ []) messages xs := by
    refine (List.forall₂_iff_get.mpr ⟨hxs.length_eq, fun i hi hi' => ?_⟩)
    have hm := hxs.get hi hi'
    exact ⟨decodeMessage_reads (hv _ (List.get_mem ..)) hm, composeMessage_ne_nil hm⟩
  have hr := readUntil_reads pushBack buf hreads off [] hat
  rw [foldl_pushBack, List.nil_append] at hr
  exact hr

theorem decodeListOfMessages_ends {buf : Bytes} {off off' : ℕ} {messages : Messages}
    (hoff : off ≤ buf.length)
    (h : decodeListOfMessages buf off buf.length = .ok (messages, off')) : off' = buf.length :=
  readUntil_length decodeMessage_advances pushBack buf off _ hoff h

theorem decodeListOfMessages_fails (buf : Bytes) (off stop : ℕ) :
    FailsWithin IsDecodeError (decodeListOfMessages buf off stop) :=
  readUntil_fails decodeMessage_fails pushBack buf off stop _

/-! ### Actions -/

/-- A well-typed action whose value the wire carries in full. -/
inductive ActionObj.Carried : ActionObj → Prop
  | set (scope : ActionScope) (name : Str) (value : Value) (h : value.NoScope) :
      Carried (.ofSet scope name value)
  | unset (scope : ActionScope) (name : Str) : Carried (.ofUnset scope name)

theorem ActionScope.value_lt (s : ActionScope) : s.value < 256 := by
  cases s <;> decide

theorem appendByte_scope (s : ActionScope) :
    appendByte (.val (.int s.value)) = .ok (byte s.value) := by
  cases s <;> rfl

theorem composeAction_set_ok {scope : ActionScope} {name : Str} {value : Value} {out : Bytes} :
    composeAction (.ofSet scope name value) = .ok out ↔
      ∃ x y, encodeString name = .ok x ∧ autoEncodeDtVar (.val value) = .ok y ∧
        out = [byte ActionType.setVar.value, byte ActionType.setVar.nbArgs, byte scope.value] ++
          x ++ y := by
  simp only [ActionObj.ofSet, composeAction, composeSetAction, appendByte_scope, ok_bind,
    encodeStringObj, bind_eq_ok, Except.ok.injEq]
  constructor
  · rintro ⟨x, hx, y, hy, rfl⟩
    exact ⟨x, y, hx, hy, rfl⟩
  · rintro ⟨x, y, hx, hy, rfl⟩
    exact ⟨x, hx, y, hy, rfl⟩

theorem composeAction_unset_ok {scope : ActionScope} {name : Str} {out : Bytes} :
    composeAction (.ofUnset scope name) = .ok out ↔
      ∃ x, encodeString name = .ok x ∧
        out = [byte ActionType.unsetVar.value, byte ActionType.unsetVar.nbArgs,
          byte scope.value] ++ x := by
  simp only [ActionObj.ofUnset, composeAction, composeUnsetAction, appendByte_scope, ok_bind,
    encodeStringObj, bind_eq_ok, Except.ok.injEq]
  constructor
  · rintro ⟨x, hx, rfl⟩
    exact ⟨x, hx, rfl⟩
  · rintro ⟨x, hx, rfl⟩
    exact ⟨x, hx, rfl⟩

theorem composeAction_ne_nil {a : ActionObj} {out : Bytes} (h : composeAction a = .ok out) :
    out ≠ [] := by
  cases a with
  | setVar a =>
    obtain ⟨x, -, h⟩ := bind_eq_ok.mp h
    obtain ⟨y, -, h⟩ := bind_eq_ok.mp h
    obtain ⟨z, -, h⟩ := bind_eq_ok.mp h
    cases h
    simp
  | unsetVar a =>
    obtain ⟨x, -, h⟩ := bind_eq_ok.mp h
    obtain ⟨y, -, h⟩ := bind_eq_ok.mp h
    cases h
    simp
  | other cls name => cases h

/-- The three header bytes of an action, then what its type asks for. -/
theorem decodeAction_reads_header {t : ActionType} {scope : ActionScope} {a : ActionObj}
    {bs : Bytes} (h : Reads (decodeActionArgs t t.nbArgs scope) a bs) :
    Reads decodeAction a ([byte t.value, byte t.nbArgs, byte scope.value] ++ bs) := by
  intro buf off hat
  obtain ⟨hhead, hbs⟩ := at_append.mp hat
  have h0 : buf[off]? = some (byte t.value) :=
    (at_append_of [byte t.value] hhead).1.getElem?
  have h1 : buf[off + 1]? = some (byte t.nbArgs) :=
    (at_append_of [byte t.nbArgs] (at_append_of [byte t.value] hhead).2).1.getElem?
  have h2 : buf[off + 2]? = some (byte scope.value) :=
    (at_append_of [byte t.value, byte t.nbArgs] hhead).2.getElem?
  have et : ActionType.ofValue (byte t.value).val = some t := by cases t <;> rfl
  have es : ActionScope.ofValue (byte scope.value).val = some scope := by cases scope <;> rfl
  have en : (byte t.nbArgs).val = t.nbArgs := by cases t <;> rfl
  have hd := h buf (off + 3) hbs
  simp only [decodeAction, h0, h1, h2, et, es, en, hd, List.length_append, List.length_cons,
    List.length_nil]
  congr 2
  omega

theorem decodeAction_reads {a : ActionObj} {out : Bytes} (ha : a.Carried)
    (h : composeAction a = .ok out) : Reads decodeAction a out := by
  cases ha with
  | set scope name value hv =>
    obtain ⟨x, y, hx, hy, rfl⟩ := composeAction_set_ok.mp h
    rw [List.append_assoc]
    refine decodeAction_reads_header ?_
    have hp : Reads parseKvPair (name, value) (x ++ y) :=
      parseKvPair_reads hv (composeKvPair_ok.mpr ⟨x, y, hx, hy, rfl⟩)
    intro buf off hat
    simp only [decodeActionArgs, ne_eq, not_true_eq_false, if_false, hp buf off hat, ok_bind]
  | unset scope name =>
    obtain ⟨x, hx, rfl⟩ := composeAction_unset_ok.mp h
    refine decodeAction_reads_header ?_
    intro buf off hat
    simp only [decodeActionArgs, ne_eq, not_true_eq_false, if_false,
      decodeString_reads hx buf off hat, ok_bind]

theorem decodeActionArgs_advances (t : ActionType) (n : ℕ) (scope : ActionScope) :
    Advances (decodeActionArgs t n scope) := by
  intro buf off a off' h
  unfold decodeActionArgs at h
  split at h
  · split at h
    · cases h
    · obtain ⟨⟨⟨k, v⟩, mid⟩, hp, h⟩ := bind_eq_ok.mp h
      cases h
      exact parseKvPair_advances buf off _ _ hp
  · split at h
    · cases h
    · obtain ⟨⟨k, mid⟩, hp, h⟩ := bind_eq_ok.mp h
      cases h
      exact decodeString_advances buf off _ _ hp

theorem decodeAction_advances : Advances decodeAction := by
  intro buf off a off' h
  unfold decodeAction at h
  split at h
  · split at h
    · cases h
    · split at h
      · cases h
      · have ha := decodeActionArgs_advances _ _ _ _ _ _ _ h
        omega
  · cases h

theorem decodeActionArgs_fails (t : ActionType) (n : ℕ) (scope : ActionScope) :
    DecodeFails (decodeActionArgs t n scope) := by
  have htext (x y : Str) (hx : Latin1 x) (hy : Latin1 y) : Latin1 (x ++ natText n ++ y) :=
    latin1_append (latin1_append hx (latin1_natText n)) hy
  intro buf off
  unfold decodeActionArgs
  split
  · split
    · exact FailsWithin.error (isDecodeError _ (htext _ _ (by decide) (by decide)))
    · exact (parseKvPair_fails buf off).bind fun p _ => FailsWithin.ok _ _
  · split
    · exact FailsWithin.error (isDecodeError _ (htext _ _ (by decide) (by decide)))
    · exact (decodeString_fails buf off).bind fun p _ => FailsWithin.ok _ _

theorem decodeAction_fails : DecodeFails decodeAction := by
  intro buf off
  unfold decodeAction
  split
  · split
    · exact FailsWithin.error (isDecodeError _
        (latin1_append (by decide) (latin1_natText _)))
    · split
      · exact FailsWithin.error (isDecodeError _
          (latin1_append (by decide) (latin1_natText _)))
      · exact decodeActionArgs_fails _ _ _ buf _
  · exact FailsWithin.error (isDecodeError _ (by decide))

/-- What `encode_action_list` gives is read back as the same actions. -/
theorem decodeListOfActions_reads {actions : List ActionObj} {out buf : Bytes} {off : ℕ}
    (ha : ∀ a ∈ actions, a.Carried) (h : encodeActionList actions = .ok out)
    (hat : At buf off out) :
    decodeListOfActions buf off (off + out.length) = .ok (actions, off + out.length) := by
  obtain ⟨xs, hxs, rfl⟩ := extendAll_flatten h
  have hreads : List.Forall₂ (fun a x => Reads decodeAction a x ∧ x ≠ []) actions xs := by
    refine (List.forall₂_iff_get.mpr ⟨hxs.length_eq, fun i hi hi' => ?_⟩)
    have hm := hxs.get hi hi'
    exact ⟨decodeAction_reads (ha _ (List.get_mem ..)) hm, composeAction_ne_nil hm⟩
  have hr := readUntil_reads pushBack buf hreads off [] hat
  rw [foldl_pushBack, List.nil_append] at hr
  exact hr

theorem decodeListOfActions_ends {buf : Bytes} {off off' : ℕ} {actions : List ActionObj}
    (hoff : off ≤ buf.length)
    (h : decodeListOfActions buf off buf.length = .ok (actions, off')) : off' = buf.length :=
  readUntil_length decodeAction_advances pushBack buf off _ hoff h

theorem decodeListOfActions_fails (buf : Bytes) (off stop : ℕ) :
    FailsWithin IsDecodeError (decodeListOfActions buf off stop) :=
  readUntil_fails decodeAction_fails pushBack buf off stop _

end SpoeForge
