import SpoeForge.Indexing
import SpoeForge.Wire.DecodeErrors

/-!
# Exact consumption

The list loops come to an end, each turn moving the offset forward inside the buffer,
and end exactly at the end of the buffer. Every index is inside its buffer: a function
with its guard and index expressions is the function of the model.
-/

namespace SpoeForge

open Fallible OffsetReader

/-! ### Buffer accesses -/

theorem index_ok {buf : Bytes} {i : ℕ} {b : Byte} (h : buf[i]? = some b) :
    index buf i = .ok b := by
  rw [index, h]

theorem getElem?_cases (buf : Bytes) (i : ℕ) :
    (buf.length ≤ i ∧ buf[i]? = none) ∨ (i < buf.length ∧ ∃ b, buf[i]? = some b) := by
  by_cases h : i < buf.length
  · exact .inr ⟨h, buf[i], List.getElem?_eq_getElem h⟩
  · exact .inl ⟨by omega, List.getElem?_eq_none (by omega)⟩

theorem drop_of_getElem? {buf : Bytes} {i : ℕ} {b : Byte} (h : buf[i]? = some b) :
    buf.drop i = b :: buf.drop (i + 1) := by
  obtain ⟨hlt, rfl⟩ := List.getElem?_eq_some_iff.mp h
  exact (List.getElem_cons_drop hlt).symm

theorem indexed_varintLoop (buf : Bytes) (offset value shift : ℕ) :
    Indexed.varintLoop buf offset value shift =
      varintLoop (buf.drop (offset + 1)) offset value shift := by
  induction hk : buf.length - offset using Nat.strongRecOn generalizing offset value shift with
  | ind k ih =>
    rw [Indexed.varintLoop]
    rcases getElem?_cases buf (offset + 1) with ⟨hle, -⟩ | ⟨hlt, b, hb⟩
    · rw [dif_pos hle, List.drop_eq_nil_of_le hle, varintLoop]
    · rw [dif_neg (by omega), drop_of_getElem? hb, index_ok hb, ok_bind, varintLoop]
      split
      · rfl
      · exact ih _ (by omega) (offset + 1) _ _ rfl

theorem indexed_parseVarint : Indexed.parseVarint = parseVarint := by
  funext buf off
  unfold Indexed.parseVarint parseVarint
  rcases getElem?_cases buf off with ⟨hle, -⟩ | ⟨hlt, b, hb⟩
  · rw [if_pos hle, List.drop_eq_nil_of_le hle]
  · rw [if_neg (by omega), drop_of_getElem? hb, index_ok hb, ok_bind, indexed_varintLoop]

theorem indexed_decodeTinyInt : Indexed.decodeTinyInt = decodeTinyInt := by
  funext buf off
  unfold Indexed.decodeTinyInt decodeTinyInt
  rcases getElem?_cases buf off with ⟨hle, hb⟩ | ⟨hlt, b, hb⟩
  · rw [if_pos hle, hb]
  · rw [if_neg (by omega), hb, index_ok hb, ok_bind]

theorem indexed_decodeBool : Indexed.decodeBool = decodeBool := by
  funext buf off
  unfold Indexed.decodeBool decodeBool
  rcases getElem?_cases buf off with ⟨hle, hb⟩ | ⟨hlt, b, hb⟩
  · rw [if_pos hle, hb]
  · rw [if_neg (by omega), hb, index_ok hb, ok_bind]

theorem indexed_autoDecodeVar : Indexed.autoDecodeVar = autoDecodeVar := by
  funext buf off
  unfold Indexed.autoDecodeVar autoDecodeVar
  rcases getElem?_cases buf off with ⟨hle, hb⟩ | ⟨hlt, b, hb⟩
  · rw [if_pos (by omega), hb]
  · rw [if_neg (by omega), hb, index_ok hb]
    rfl

theorem lastIndex_slice {buf : Bytes} {off : ℕ} {b : Byte} (hb : buf[off + 3]? = some b) :
    lastIndex (slice buf off (off + 4)) = .ok b := by
  have hlt := (List.getElem?_eq_some_iff.mp hb).1
  have hlen : (slice buf off (off + 4)).length = 4 := by
    rw [slice_length (by omega) (by omega)]
    omega
  have hlast : (slice buf off (off + 4)).getLast? = some b := by
    rw [List.getLast?_eq_getElem?, hlen, slice, List.getElem?_take, if_pos (by omega),
      List.getElem?_drop]
    exact hb
  rw [lastIndex, hlast]

theorem indexed_decodeMetadata : Indexed.decodeMetadata = decodeMetadata := by
  funext buf off
  unfold Indexed.decodeMetadata decodeMetadata
  rcases getElem?_cases buf (off + 3) with ⟨hle, hb⟩ | ⟨hlt, b, hb⟩
  · rw [if_pos (by omega), hb]
  · rw [if_neg (by omega), hb, lastIndex_slice hb, ok_bind]

theorem indexed_decodeAction : Indexed.decodeAction = decodeAction := by
  funext buf off
  unfold Indexed.decodeAction decodeAction
  rcases getElem?_cases buf (off + 2) with ⟨hle, hb⟩ | ⟨hlt, s, hs⟩
  · rw [if_pos (by omega), hb]
    split
    · rename_i h
      cases h
    · rfl
  · obtain ⟨a, ha⟩ : ∃ a, buf[off]? = some a := ⟨_, List.getElem?_eq_getElem (by omega)⟩
    obtain ⟨n, hn⟩ : ∃ n, buf[off + 1]? = some n := ⟨_, List.getElem?_eq_getElem (by omega)⟩
    rw [if_neg (by omega), ha, hn, hs, index_ok ha, index_ok hn, index_ok hs, ok_bind]
    dsimp only
    cases ActionType.ofValue a.val with
    | none => rfl
    | some t => rfl

theorem indexed_decodeBody : Indexed.decodeBody = decodeBody := by
  funext buf
  unfold Indexed.decodeBody decodeBody
  rcases getElem?_cases buf 0 with ⟨hle, hb⟩ | ⟨hlt, b, hb⟩
  · rw [if_pos (by omega), hb]
  · rw [if_neg (by omega), hb, index_ok hb]
    rfl

theorem DecodeFails.index {α : Type} {d : Dec α} (h : DecodeFails d) :
    Fails (fun e => e ≠ indexError) d := by
  intro buf off e he hi
  have hcls := (h buf off e he).1
  rw [hi] at hcls
  cases hcls

theorem decodeBody_index (buf : Bytes) : FailsWithin (fun e => e ≠ indexError) (decodeBody buf) := by
  intro e he hi
  by_cases hb : BadHello buf
  · obtain ⟨e', he', hcls⟩ := decodeBody_badHello hb
    rw [he] at he'
    cases he'
    rw [hi] at hcls
    rcases hcls with h | h <;> cases h
  · have hcls := (decodeBody_fails hb e he).1
    rw [hi] at hcls
    cases hcls

/-! ### Loops -/

/-- The loop over the items from `offset` to the end of the buffer comes to an end, and if it
returns, it returns the end of the buffer. -/
def ListLoop {α γ : Type} (item : Dec α) (push : γ → α → γ) (start : γ) (buf : Bytes)
    (offset : ℕ) (result : Except Exc (γ × ℕ)) : Prop :=
  (∃ n ≤ buf.length - offset, Loops item push buf buf.length offset start n result) ∧
    ∀ r off, result = .ok (r, off) → off = buf.length

theorem readUntil_listLoop {α γ : Type} {item : Dec α} (hi : Advances item) (push : γ → α → γ)
    (start : γ) {buf : Bytes} {offset : ℕ} (h : offset ≤ buf.length) :
    ListLoop item push start buf offset (readUntil item push buf offset buf.length start) :=
  ⟨readUntil_loops hi push buf offset buf.length start, fun _ _ hr =>
    readUntil_length hi push buf offset start h hr⟩

theorem decodePayload_ends {t : FrameType} {buf : Bytes} {off off' : ℕ} {p : Payload}
    (hoff : off ≤ buf.length) (h : decodePayload t buf off buf.length = .ok (p, off')) :
    off' = buf.length := by
  have hkv : ∀ {α : Type} (ofDict : Dict Str Value → Except Exc α) (wrap : α → Payload),
      decodeKvPayload ofDict wrap buf off buf.length = .ok (p, off') → off' = buf.length := by
    intro α ofDict wrap h
    obtain ⟨⟨d, mid⟩, hd, h⟩ := bind_eq_ok.mp h
    obtain ⟨x, -, h⟩ := bind_eq_ok.mp h
    cases h
    exact decodeKvList_ends hoff hd
  cases t with
  | unset => cases h
  | haproxyHello => exact hkv _ _ h
  | haproxyDisconnect => exact hkv _ _ h
  | agentHello => exact hkv _ _ h
  | agentDisconnect => exact hkv _ _ h
  | notify =>
    obtain ⟨⟨messages, mid⟩, hm, h⟩ := bind_eq_ok.mp h
    cases h
    exact decodeListOfMessages_ends hoff hm
  | ack =>
    obtain ⟨⟨actions, mid⟩, ha, h⟩ := bind_eq_ok.mp h
    cases h
    exact decodeListOfActions_ends hoff ha

/-- Every turn of a list loop moves the offset forward and not past the buffer; so from every
offset that `decode_metadata` returns, the loops end, at the end of the buffer. The last
check of `Frame.decode` never fails, and no index is out of range. -/
theorem exact_consumption :
    (Advances parseKvPair ∧ Advances decodeMessage ∧ Advances decodeAction) ∧
    (∀ (buf : Bytes) (start offset : ℕ) (md : MetaData),
      decodeMetadata buf start = .ok (md, offset) →
        ListLoop parseKvPair setPair Dict.empty buf offset (decodeKvList buf offset buf.length) ∧
        ListLoop decodeMessage pushBack [] buf offset
          (decodeListOfMessages buf offset buf.length) ∧
        ListLoop decodeAction pushBack [] buf offset (decodeListOfActions buf offset buf.length) ∧
        ∀ t p offset', decodePayload t buf offset buf.length = .ok (p, offset') →
          offset' = buf.length) ∧
    (Fails (fun e => e ≠ indexError) Indexed.parseVarint ∧
      Fails (fun e => e ≠ indexError) Indexed.decodeTinyInt ∧
      Fails (fun e => e ≠ indexError) Indexed.decodeBool ∧
      Fails (fun e => e ≠ indexError) Indexed.autoDecodeVar ∧
      Fails (fun e => e ≠ indexError) Indexed.decodeMetadata ∧
      Fails (fun e => e ≠ indexError) Indexed.decodeAction ∧
      ∀ buf, FailsWithin (fun e => e ≠ indexError) (Indexed.decodeBody buf)) := by
  refine ⟨⟨parseKvPair_advances, decodeMessage_advances, decodeAction_advances⟩, ?_, ?_⟩
  · intro buf start offset md h
    have hle := (decodeMetadata_advances buf start md offset h).2
    exact ⟨readUntil_listLoop parseKvPair_advances setPair Dict.empty hle,
      readUntil_listLoop decodeMessage_advances pushBack [] hle,
      readUntil_listLoop decodeAction_advances pushBack [] hle,
      fun t p offset' hp => decodePayload_ends hle hp⟩
  · rw [indexed_parseVarint, indexed_decodeTinyInt, indexed_decodeBool, indexed_autoDecodeVar,
      indexed_decodeMetadata, indexed_decodeAction, indexed_decodeBody]
    exact ⟨parseVarint_fails.index, decodeTinyInt_fails.index, decodeBool_fails.index,
      autoDecodeVar_fails.index, decodeMetadata_fails.index, decodeAction_fails.index,
      decodeBody_index⟩

end SpoeForge
