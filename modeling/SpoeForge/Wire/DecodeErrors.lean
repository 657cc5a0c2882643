import SpoeForge.Wire.FrameStream

/-!
# The exceptions of `Frame.decode` (`spop/frame.py:123-213`)

The docstring names three: `SpopEOFError`, `SpopDecodeError` and
`SpopFrameTooBigError`. The list loops and `decode_metadata` raise only decode errors;
`decode_payload` of a HELLO splits `supported-versions` and `capabilities` without
looking at their types, and another type raises `AttributeError` or `TypeError`.
-/

namespace SpoeForge

open Fallible OffsetReader

/-- The exceptions that the docstring of `Frame.decode` names. -/
def Exc.IsDocumented (e : Exc) : Prop :=
  e.cls = .spopEOFError ∨ e.cls = .spopDecodeError ∨ e.cls = .spopFrameTooBigError

instance (e : Exc) : Decidable e.IsDocumented := inferInstanceAs (Decidable (_ ∨ _ ∨ _))

/-- `isinstance(v, str)`. -/
def Value.isStr : Value → Bool
  | .str _ => true
  | _ => false

/-- The key carries something else than a string. -/
def NotStr (d : Dict Str Value) (key : Str) : Prop := ∃ v, d.get? key = some v ∧ v.isStr = false

/-- The pairs of a HELLO send `from_spop_list` something else than a string: the keys
looked up before it are there, and the list looked up first is a string. -/
def SplitsNonString : FrameType → Dict Str Value → Prop
  | .haproxyHello, d => NotStr d keySupportedVersions ∨
      ((∃ s, d.get? keySupportedVersions = some (.str s)) ∧
        (d.get? keyMaxFrameSize).isSome ∧ NotStr d keyCapabilities)
  | .agentHello, d => (d.get? keyVersion).isSome ∧ (d.get? keyMaxFrameSize).isSome ∧
      NotStr d keyCapabilities
  | _, _ => False

/-- The body is a HELLO that is well formed up to the types of its lists. -/
def BadHello (body : Bytes) : Prop :=
  ∃ b t md off d off', body[0]? = some b ∧ FrameType.ofValue b.val = some t ∧
    decodeMetadata body 1 = .ok (md, off) ∧ decodeKvList body off body.length = .ok (d, off') ∧
    SplitsNonString t d

/-! ### Payloads -/

/-- A decode error, or a missing key. -/
def IsPayloadError (e : Exc) : Prop :=
  IsDecodeError e ∨ (e.cls = .keyError ∧ Latin1 e.text)

theorem getItem_fails {d : Dict Str Value} {key : Str} (h : Latin1 key) :
    FailsWithin IsPayloadError (getItem d key) := by
  unfold getItem
  split
  · exact FailsWithin.ok _ _
  · exact FailsWithin.error (.inr ⟨rfl, latin1_append (latin1_append (by decide) h)
      (by decide)⟩)

theorem fromSpopListValue_str {v : Value} (h : v.isStr = true) :
    ∃ l, fromSpopListValue v = .ok l := by
  cases v with
  | str s => exact ⟨_, rfl⟩
  | _ => cases h

theorem fromSpopListValue_notStr {v : Value} (h : v.isStr = false) :
    ∃ e, fromSpopListValue v = .error e ∧ (e.cls = .typeError ∨ e.cls = .attributeError) := by
  cases v with
  | str s => cases h
  | bytes bs => exact ⟨_, rfl, .inl rfl⟩
  | _ => exact ⟨_, rfl, .inr rfl⟩

theorem fromSpopListValue_fails {d : Dict Str Value} {key : Str} {v : Value}
    (hv : getItem d key = .ok v) (h : ¬NotStr d key) (K : Exc → Prop) :
    FailsWithin K (fromSpopListValue v) := by
  have hs : v.isStr = true := by
    by_contra hn
    exact h ⟨v, getItem_ok.mp hv, Bool.eq_false_iff.mpr hn⟩
  obtain ⟨l, hl⟩ := fromSpopListValue_str hs
  rw [hl]
  exact FailsWithin.ok K l

theorem HaproxyHello.ofDict_fails {d : Dict Str Value} (h : ¬SplitsNonString .haproxyHello d) :
    FailsWithin IsPayloadError (HaproxyHello.ofDict d) := by
  simp only [SplitsNonString, not_or] at h
  unfold HaproxyHello.ofDict
  refine (getItem_fails (by decide)).bind fun versions hversions => ?_
  refine (fromSpopListValue_fails hversions h.1 _).bind fun sv hsv => ?_
  refine (getItem_fails (by decide)).bind fun size hsize => ?_
  refine (getItem_fails (by decide)).bind fun caps hcaps => ?_
  have hstr : ∃ s, d.get? keySupportedVersions = some (.str s) := by
    cases versions with
    | str s => exact ⟨s, getItem_ok.mp hversions⟩
    | _ => cases hsv
  have hnot : ¬NotStr d keyCapabilities := fun hn =>
    h.2 ⟨hstr, by rw [getItem_ok.mp hsize]; rfl, hn⟩
  exact (fromSpopListValue_fails hcaps hnot _).bind fun _ _ => FailsWithin.ok _ _

theorem AgentHello.ofDict_fails {d : Dict Str Value} (h : ¬SplitsNonString .agentHello d) :
    FailsWithin IsPayloadError (AgentHello.ofDict d) := by
  unfold AgentHello.ofDict
  refine (getItem_fails (by decide)).bind fun version hversion => ?_
  refine (getItem_fails (by decide)).bind fun size hsize => ?_
  refine (getItem_fails (by decide)).bind fun caps hcaps => ?_
  have hnot : ¬NotStr d keyCapabilities := fun hn =>
    h ⟨by rw [getItem_ok.mp hversion]; rfl, by rw [getItem_ok.mp hsize]; rfl, hn⟩
  exact (fromSpopListValue_fails hcaps hnot _).bind fun _ _ => FailsWithin.ok _ _

theorem Disconnect.ofDict_fails (d : Dict Str Value) :
    FailsWithin IsPayloadError (Disconnect.ofDict d) := by
  unfold Disconnect.ofDict
  refine (getItem_fails (by decide)).bind fun _ _ => ?_
  exact (getItem_fails (by decide)).bind fun _ _ => FailsWithin.ok _ _

theorem decodeKvPayload_fails {α : Type} {ofDict : Dict Str Value → Except Exc α}
    {wrap : α → Payload} {buf : Bytes} {off stop : ℕ}
    (h : ∀ d off', decodeKvList buf off stop = .ok (d, off') →
      FailsWithin IsPayloadError (ofDict d)) :
    FailsWithin IsPayloadError (decodeKvPayload ofDict wrap buf off stop) := by
  have hkv := (decodeKvList_fails buf off stop).mono fun e (he : IsDecodeError e) =>
    (Or.inl he : IsPayloadError e)
  exact hkv.bind fun p hp => (h p.1 p.2 hp).bind fun _ _ => FailsWithin.ok _ _

theorem FrameType.name_latin1 (t : FrameType) : Latin1 t.name := by
  cases t <;> decide

theorem decodePayload_fails {t : FrameType} {buf : Bytes} {off stop : ℕ}
    (h : ∀ d off', decodeKvList buf off stop = .ok (d, off') → ¬SplitsNonString t d) :
    FailsWithin IsPayloadError (decodePayload t buf off stop) := by
  cases t with
  | unset => exact FailsWithin.error (.inl (isDecodeError _ (by decide)))
  | haproxyHello => exact decodeKvPayload_fails fun d o hd => HaproxyHello.ofDict_fails (h d o hd)
  | agentHello => exact decodeKvPayload_fails fun d o hd => AgentHello.ofDict_fails (h d o hd)
  | haproxyDisconnect => exact decodeKvPayload_fails fun d _ _ => Disconnect.ofDict_fails d
  | agentDisconnect => exact decodeKvPayload_fails fun d _ _ => Disconnect.ofDict_fails d
  | notify =>
    have hm := (decodeListOfMessages_fails buf off stop).mono fun e (he : IsDecodeError e) =>
      (Or.inl he : IsPayloadError e)
    exact hm.bind fun _ _ => FailsWithin.ok _ _
  | ack =>
    have ha := (decodeListOfActions_fails buf off stop).mono fun e (he : IsDecodeError e) =>
      (Or.inl he : IsPayloadError e)
    exact ha.bind fun _ _ => FailsWithin.ok _ _

theorem missingKey_fails {α : Type} (t : FrameType) {x : Except Exc α}
    (h : FailsWithin IsPayloadError x) : FailsWithin IsDecodeError (missingKey t x) := by
  cases x with
  | ok a => exact FailsWithin.ok _ _
  | error e =>
    rcases h e rfl with he | ⟨hk, ht⟩
    · have hne : e.cls ≠ .keyError := by
        rw [he.1]
        decide
      simp only [missingKey, if_neg hne]
      exact FailsWithin.error he
    · simp only [missingKey, if_pos hk]
      refine FailsWithin.error (isDecodeError _ ?_)
      exact latin1_append (latin1_append (latin1_append (by decide) t.name_latin1)
        (by decide)) ht

/-! ### Frame bodies -/

/-- A body that is no bad HELLO fails only with a decode error. -/
theorem decodeBody_fails {body : Bytes} (h : ¬BadHello body) :
    FailsWithin IsDecodeError (decodeBody body) := by
  unfold decodeBody
  split
  · exact FailsWithin.error (isDecodeError _ (by decide))
  · rename_i b hb
    split
    · exact FailsWithin.error (isDecodeError _
        (latin1_append (by decide) (latin1_natText _)))
    · rename_i t ht
      refine (decodeMetadata_fails body 1).bind fun p hp => ?_
      obtain ⟨md, off⟩ := p
      refine (missingKey_fails t (decodePayload_fails fun d o hd hs => ?_)).bind fun q _ => ?_
      · exact h ⟨b, t, md, off, d, o, hb, ht, hp, hd, hs⟩
      · dsimp only
        split
        · refine FailsWithin.error (isDecodeError _ ?_)
          exact latin1_append (latin1_append (latin1_append (latin1_append (by decide)
            (latin1_natText _)) (by decide)) (latin1_natText _)) (by decide)
        · exact FailsWithin.ok _ _

theorem decodePayload_splitsNonString {t : FrameType} {d : Dict Str Value} {buf : Bytes}
    {off off' stop : ℕ} (hd : decodeKvList buf off stop = .ok (d, off'))
    (h : SplitsNonString t d) : ∃ e, decodePayload t buf off stop = .error e ∧
      (e.cls = .typeError ∨ e.cls = .attributeError) := by
  cases t with
  | haproxyHello =>
    rcases h with ⟨v, hv, hns⟩ | ⟨⟨s, hs⟩, hmax, v, hv, hns⟩
    · obtain ⟨e, he, hc⟩ := fromSpopListValue_notStr hns
      refine ⟨e, ?_, hc⟩
      simp only [decodePayload, decodeKvPayload, hd, ok_bind, HaproxyHello.ofDict,
        getItem_ok.mpr hv, he, error_bind]
    · obtain ⟨e, he, hc⟩ := fromSpopListValue_notStr hns
      obtain ⟨size, hsize⟩ := Option.isSome_iff_exists.mp hmax
      have hsv : fromSpopListValue (.str s) = .ok (fromSpopList s) := rfl
      refine ⟨e, ?_, hc⟩
      simp only [decodePayload, decodeKvPayload, hd, ok_bind, HaproxyHello.ofDict,
        getItem_ok.mpr hs, hsv, getItem_ok.mpr hsize, getItem_ok.mpr hv, he, error_bind]
  | agentHello =>
    obtain ⟨hver, hmax, v, hv, hns⟩ := h
    obtain ⟨e, he, hc⟩ := fromSpopListValue_notStr hns
    obtain ⟨version, hversion⟩ := Option.isSome_iff_exists.mp hver
    obtain ⟨size, hsize⟩ := Option.isSome_iff_exists.mp hmax
    refine ⟨e, ?_, hc⟩
    simp only [decodePayload, decodeKvPayload, hd, ok_bind, AgentHello.ofDict,
      getItem_ok.mpr hversion, getItem_ok.mpr hsize, getItem_ok.mpr hv, he, error_bind]
  | _ => exact absurd h id

/-- A bad HELLO raises `TypeError` or `AttributeError`. -/
theorem decodeBody_badHello {body : Bytes} (h : BadHello body) :
    ∃ e, decodeBody body = .error e ∧ (e.cls = .typeError ∨ e.cls = .attributeError) := by
  obtain ⟨b, t, md, off, d, off', hb, ht, hm, hd, hs⟩ := h
  obtain ⟨e, he, hc⟩ := decodePayload_splitsNonString hd hs
  have hne : e.cls ≠ .keyError := by
    rcases hc with hc | hc <;> rw [hc] <;> decide
  refine ⟨e, ?_, hc⟩
  simp only [decodeBody, hb, ht, hm, ok_bind, he, missingKey, if_neg hne, error_bind]

/-! ### Frames -/

/-- What is read next is a complete bad HELLO within the limit, or a frame above a limit
that no error text can quote. -/
def BadFrame (reader : StreamReader) (maxFrameSize : ℤ) : Prop :=
  ∃ len mid n, reader.readexactly 4 = (some len, mid) ∧ unpackU32 len = some n ∧
    (((n : ℤ) > maxFrameSize ∧ ¬Printable maxFrameSize) ∨
      ((n : ℤ) ≤ maxFrameSize ∧ ∃ body rest, mid.readexactly n = (some body, rest) ∧
        BadHello body))

/-- What `Frame.decode` raises on any other input, with texts that a disconnect can carry. -/
def IsFrameError (e : Exc) : Prop :=
  e = ⟨.spopEOFError, []⟩ ∨ IsDecodeError e ∨ (e.cls = .spopFrameTooBigError ∧ Latin1 e.text)

theorem IsFrameError.isDocumented {e : Exc} (h : IsFrameError e) : e.IsDocumented := by
  rcases h with rfl | h | h
  · exact .inl rfl
  · exact .inr (.inl h.1)
  · exact .inr (.inr h.1)

theorem tooBig_printable {α : Type} (n : ℕ) {m : ℤ} (h : Printable m) :
    (tooBig n m : Except Exc α) = .error (frameTooBig
      (str "Frame size " ++ natText n ++ str " exceeds maximum size " ++ intText m)) := by
  simp only [tooBig, intStr_ok.mpr ⟨h, rfl⟩, ok_bind]

theorem tooBig_unprintable (α : Type) (n : ℕ) {m : ℤ} (h : ¬Printable m) :
    ∃ e, (tooBig n m : Except Exc α) = .error e ∧ e.cls = .valueError := by
  simp only [tooBig, intStr, if_neg h, error_bind]
  exact ⟨_, rfl, rfl⟩

theorem latin1_tooBig (n : ℕ) (m : ℤ) :
    Latin1 (str "Frame size " ++ natText n ++ str " exceeds maximum size " ++ intText m) :=
  latin1_append (latin1_append (latin1_append (by decide) (latin1_natText n))
    (by decide)) (latin1_intText m)

theorem Frame.decode_fails {reader reader' : StreamReader} {m : ℤ} {e : Exc}
    (hbad : ¬BadFrame reader m) (h : Frame.decode reader m = (.error e, reader')) :
    IsFrameError e := by
  unfold Frame.decode at h
  split at h
  · split at h
    · cases h
      exact .inl rfl
    · cases h
      exact .inr (.inl (isDecodeError _ (by decide)))
  · rename_i len mid hlen
    unfold decodeFrameLen at h
    cases hu : unpackU32 len with
    | none =>
      rw [hu] at h
      cases h
      exact .inr (.inl (isDecodeError _ (by decide)))
    | some n =>
      rw [hu] at h
      dsimp only at h
      split at h
      · rename_i hgt
        have hm : Printable m := by
          by_contra hn
          exact hbad ⟨len, mid, n, hlen, hu, .inl ⟨hgt, hn⟩⟩
        rw [tooBig_printable n hm] at h
        cases h
        exact .inr (.inr ⟨rfl, latin1_tooBig n m⟩)
      · rename_i hle
        split at h
        · cases h
          exact .inr (.inl (isDecodeError _ (by decide)))
        · rename_i body rest hbody
          rw [Prod.mk.injEq] at h
          have hb : ¬BadHello body := fun hb =>
            hbad ⟨len, mid, n, hlen, hu, .inr ⟨by omega, body, rest, hbody, hb⟩⟩
          exact .inr (.inl (decodeBody_fails hb e h.1))

theorem Frame.decode_badFrame {reader : StreamReader} {m : ℤ} (h : BadFrame reader m) :
    ∃ e reader', Frame.decode reader m = (.error e, reader') ∧ ¬e.IsDocumented := by
  obtain ⟨len, mid, n, hlen, hu, ⟨hgt, hm⟩ | ⟨hle, body, rest, hbody, hb⟩⟩ := h
  · obtain ⟨e, he, hc⟩ := tooBig_unprintable Frame n hm
    refine ⟨e, mid, ?_, by simp [Exc.IsDocumented, hc]⟩
    simp only [Frame.decode, hlen, decodeFrameLen, hu, if_pos hgt, he]
  · obtain ⟨e, he, hc⟩ := decodeBody_badHello hb
    have hn : ¬(n : ℤ) > m := by omega
    refine ⟨e, rest, ?_, ?_⟩
    · simp only [Frame.decode, hlen, decodeFrameLen, hu, if_neg hn, hbody, he]
    · rcases hc with hc | hc <;> simp [Exc.IsDocumented, hc]

/-- `Frame.decode` keeps to its documented exceptions exactly when the input is no bad
frame. -/
theorem decode_documented_iff (reader : StreamReader) (m : ℤ) :
    (∀ e reader', Frame.decode reader m = (.error e, reader') → e.IsDocumented) ↔
      ¬BadFrame reader m := by
  constructor
  · intro h hb
    obtain ⟨e, reader', he, hn⟩ := Frame.decode_badFrame hb
    exact hn (h e reader' he)
  · intro hb e reader' he
    exact (Frame.decode_fails hb he).isDocumented

/-- A HAPROXY-HELLO whose `supported-versions` is an INT32: `AttributeError`. -/
theorem decode_undocumented :
    ¬∀ (reader : StreamReader) (m : ℤ) (e : Exc) (reader' : StreamReader),
      Frame.decode reader m = (.error e, reader') → e.IsDocumented := by
  intro h
  have he := h ⟨[0, 0, 0, 28, 1, 0, 0, 0, 1, 0, 0, 18, 115, 117, 112, 112, 111, 114, 116, 101, 100,
    45, 118, 101, 114, 115, 105, 111, 110, 115, 2, 2]⟩ 16384
    ⟨.attributeError, str "'int' object has no attribute 'split'"⟩ ⟨[]⟩ (by decide)
  revert he
  decide

end SpoeForge
