import SpoeForge.Library.FirstFit
import SpoeForge.Wire.Identifiers

/-!
# The ACK of what a handler returned (`server/handler.py:188-250`)

Which objects of an action list the salvage path contains, and that it sends the ACK
of the actions that first fit keeps under the limit. An object without a `name`, or
with one that cannot be shown, breaks the log line about dropping it.
-/

namespace SpoeForge

open Fallible

/-! ### Objects that the salvage path contains -/

/-- `bytearray.append` takes it. -/
def PyObj.IsByte : PyObj → Prop
  | .val (.int i) => 0 ≤ i ∧ i < 256
  | .val (.bool _) => True
  | .val _ => False
  | .other o => ∃ i, o.index = .ok i ∧ 0 ≤ i ∧ i < 256

/-- `bytearray.append` raises nothing but `SpopEncodeError`, which only an `__index__` can. -/
def PyObj.ContainedByte (o : PyObj) : Prop :=
  o.IsByte ∨ ∃ x e, o = .other x ∧ x.index = .error e ∧ e.cls = .spopEncodeError

/-- `encode_string` gives bytes. -/
def PyObj.IsName : PyObj → Prop
  | .val (.str s) => Latin1 s
  | .val _ => False
  | .other o => ∃ bs, o.encode = .ok (some bs)

/-- `encode_string` raises nothing but `SpopEncodeError`. -/
def PyObj.ContainedName : PyObj → Prop
  | .val (.str _) => True
  | .val _ => False
  | .other o => (∀ e, o.encode = .error e → e.cls = .spopEncodeError) ∧
      (o.encode = .ok none → ∀ e, o.repr = .error e → e.cls = .spopEncodeError)

/-- Encoding the value raises nothing but `SpopEncodeError`. -/
def PyObj.Contained : PyObj → Prop
  | .val (.int i) => Printable i
  | .val _ => True
  | .other o => (∀ e, o.repr = .error e → e.cls = .spopEncodeError) ∧
      ∀ text, o.repr = .ok text → ∀ e, o.str = .error e → e.cls = .spopEncodeError

/-- Encoding the action raises nothing but `SpopEncodeError`. The name is encoded only after a
scope that is a byte, and the value only after a name that encodes. -/
def ActionObj.Contained : ActionObj → Prop
  | .setVar a => a.scope.ContainedByte ∧
      (a.scope.IsByte → a.name.ContainedName ∧ (a.name.IsName → a.value.Contained))
  | .unsetVar a => a.scope.ContainedByte ∧ (a.scope.IsByte → a.name.ContainedName)
  | .other _ _ => True

/-- The log line that drops the action can show its name. -/
def ActionObj.Shown (a : ActionObj) : Prop := nameCheck a = .ok ()

/-- Succeeds, or raises `SpopEncodeError`. -/
def EncodesOrRefuses {α : Type} (x : Except Exc α) : Prop :=
  FailsWithin (fun e => e.cls = .spopEncodeError) x

instance {α : Type} (x : Except Exc α) : Decidable (EncodesOrRefuses x) :=
  inferInstanceAs (Decidable (FailsWithin (fun e : Exc => e.cls = .spopEncodeError) x))

theorem appendByte_isByte (o : PyObj) : (∃ b, appendByte o = .ok b) ↔ o.IsByte := by
  have hrange : ∀ i : ℤ, (∃ b, (if 0 ≤ i ∧ i < 256 then .ok (byte i.toNat)
      else .error ⟨.valueError, str "byte must be in range(0, 256)"⟩ : Except Exc Byte) = .ok b) ↔
        0 ≤ i ∧ i < 256 := by
    intro i
    split <;> simp_all
  cases o with
  | val v =>
    cases v with
    | int i => exact hrange i
    | bool b => cases b <;> exact iff_of_true ⟨_, rfl⟩ trivial
    | _ => exact iff_of_false (by rintro ⟨b, hb⟩; cases hb) id
  | other o =>
    simp only [appendByte, indexOf, PyObj.IsByte]
    cases o.index with
    | error e => simp
    | ok i => simpa using hrange i

theorem appendByte_refuses (o : PyObj) : EncodesOrRefuses (appendByte o) ↔ o.ContainedByte := by
  have hrange : ∀ i : ℤ, EncodesOrRefuses (if 0 ≤ i ∧ i < 256 then .ok (byte i.toNat)
      else .error ⟨.valueError, str "byte must be in range(0, 256)"⟩ : Except Exc Byte) ↔
        0 ≤ i ∧ i < 256 := by
    intro i
    split
    · exact iff_of_true (FailsWithin.ok _ _) ‹_›
    · exact iff_of_false (fun h => by cases h _ rfl) ‹_›
  cases o with
  | val v =>
    have hval : (PyObj.val v).ContainedByte ↔ (PyObj.val v).IsByte :=
      or_iff_left fun ⟨x, e, he, _⟩ => by cases he
    rw [hval]
    cases v with
    | int i => exact hrange i
    | bool b => cases b <;> exact iff_of_true (FailsWithin.ok _ _) trivial
    | _ => exact iff_of_false (fun h => by cases h _ rfl) id
  | other o =>
    simp only [appendByte, indexOf, PyObj.ContainedByte, PyObj.IsByte, PyObj.other.injEq]
    cases hi : o.index with
    | error e =>
      rw [error_bind, EncodesOrRefuses, failsWithin_error]
      constructor
      · exact fun h => .inr ⟨o, e, rfl, hi, h⟩
      · rintro (⟨i, h, -⟩ | ⟨x, e', rfl, he, hc⟩)
        · cases h
        · rw [hi] at he
          cases he
          exact hc
    | ok i =>
      rw [ok_bind, hrange i]
      constructor
      · exact fun h => .inl ⟨i, rfl, h⟩
      · rintro (⟨i', h, hb⟩ | ⟨x, e', rfl, he, -⟩)
        · cases h
          exact hb
        · rw [hi] at he
          cases he

theorem encodeStringObj_isName (o : PyObj) : (∃ bs, encodeStringObj o = .ok bs) ↔ o.IsName := by
  cases o with
  | val v =>
    cases v with
    | str s =>
      by_cases hl : Latin1 s
      · obtain ⟨bs, hbs⟩ := encodeString_latin1 hl
        exact iff_of_true ⟨bs, hbs⟩ hl
      · refine iff_of_false (fun ⟨bs, hbs⟩ => ?_) hl
        rw [encodeStringObj, encodeString_not_latin1 hl] at hbs
        cases hbs
    | _ => exact iff_of_false (by rintro ⟨b, hb⟩; cases hb) id
  | other o =>
    simp only [encodeStringObj, PyObj.IsName]
    rcases o.encode with e | (_ | bs)
    · simp
    · cases o.repr <;> simp
    · simp [composeBinary_eq]

theorem encodeStringObj_refuses (o : PyObj) :
    EncodesOrRefuses (encodeStringObj o) ↔ o.ContainedName := by
  cases o with
  | val v =>
    cases v with
    | str s =>
      refine iff_of_true ?_ trivial
      by_cases hl : Latin1 s
      · obtain ⟨bs, hbs⟩ := encodeString_latin1 hl
        rw [encodeStringObj, hbs]
        exact FailsWithin.ok _ _
      · rw [encodeStringObj, encodeString_not_latin1 hl]
        exact FailsWithin.error rfl
    | _ => exact iff_of_false (fun h => by cases h _ rfl) id
  | other o =>
    simp only [encodeStringObj, PyObj.ContainedName]
    rcases o.encode with e | (_ | bs)
    · simp [EncodesOrRefuses, failsWithin_error]
    · cases o.repr <;> simp [EncodesOrRefuses, failsWithin_error, encodeError]
    · simp [EncodesOrRefuses, failsWithin_ok, composeBinary_eq]

theorem encodeDtInt64_refuses {i : ℤ} (h : Printable i) : EncodesOrRefuses (encodeDtInt64 i) := by
  simp only [encodeDtInt64, encodeDtInteger, composeVarint_nonneg (maskUint_nonneg 64 i),
    intStr_ok.mpr ⟨h, rfl⟩, ok_bind]
  split
  · exact FailsWithin.ok _ _
  · exact FailsWithin.error rfl

/-- Encoding a value raises nothing but `SpopEncodeError` exactly when it is contained. -/
theorem autoEncodeDtVar_contained (o : PyObj) :
    EncodesOrRefuses (autoEncodeDtVar o) ↔ o.Contained := by
  cases o with
  | other o =>
    simp only [autoEncodeDtVar, reprCheck, encodeByType, PyObj.Contained]
    cases o.repr with
    | error e => simp [EncodesOrRefuses, failsWithin_error]
    | ok text => cases o.str <;> simp [EncodesOrRefuses, failsWithin_error, encodeError]
  | val v =>
    cases v with
    | int i =>
      by_cases hi : Printable i
      · have hr : reprCheck (.val (.int i)) = .ok () := by
          simp only [reprCheck, intStr_ok.mpr ⟨hi, rfl⟩, ok_bind]
        refine iff_of_true ?_ hi
        rw [autoEncodeDtVar, hr, ok_bind]
        exact encodeDtInt64_refuses hi
      · refine iff_of_false (fun h => ?_) hi
        have he : autoEncodeDtVar (.val (.int i)) = .error ⟨.valueError,
            str "Exceeds the limit (4300 digits) for integer string conversion"⟩ := by
          simp only [autoEncodeDtVar, reprCheck, intStr, if_neg hi, error_bind]
        cases h _ he
    | str s =>
      have he : autoEncodeDtVar (.val (.str s)) = encodeDtString s := rfl
      refine iff_of_true ?_ trivial
      rw [he, encodeDtString]
      split
      · rw [composeBinary_eq, ok_bind]
        exact FailsWithin.ok _ _
      · exact FailsWithin.error rfl
    | bytes bs =>
      have he : autoEncodeDtVar (.val (.bytes bs)) = encodeDtBinary bs := rfl
      refine iff_of_true ?_ trivial
      rw [he, encodeDtBinary, composeBinary_eq, ok_bind]
      exact FailsWithin.ok _ _
    | _ => exact iff_of_true (FailsWithin.ok _ _) trivial

/-! ### Actions -/

/-- Encoding an action raises nothing but `SpopEncodeError` exactly when it is contained. -/
theorem composeAction_contained (a : ActionObj) :
    EncodesOrRefuses (composeAction a) ↔ a.Contained := by
  cases a with
  | setVar a =>
    have hvalue : EncodesOrRefuses (autoEncodeDtVar a.value) ↔ a.value.Contained :=
      autoEncodeDtVar_contained a.value
    simp only [EncodesOrRefuses] at hvalue
    simp only [ActionObj.Contained, ← appendByte_isByte, ← appendByte_refuses,
      ← encodeStringObj_isName, ← encodeStringObj_refuses, ← hvalue, composeAction,
      composeSetAction, EncodesOrRefuses, failsWithin_bind, failsWithin_ok, implies_true, and_true,
      forall_exists_index]
  | unsetVar a =>
    simp only [ActionObj.Contained, ← appendByte_isByte, ← appendByte_refuses,
      ← encodeStringObj_refuses, composeAction, composeUnsetAction, EncodesOrRefuses,
      failsWithin_bind, failsWithin_ok, implies_true, and_true, forall_exists_index]
  | other cls name => exact iff_of_true (FailsWithin.error rfl) trivial

instance (a : ActionObj) : Decidable a.Contained :=
  decidable_of_iff (EncodesOrRefuses (composeAction a)) (composeAction_contained a)

instance (a : ActionObj) : Decidable a.Shown :=
  inferInstanceAs (Decidable (nameCheck a = .ok ()))

/-! ### The salvage loop is first fit -/

/-- The length of an action's encoding. -/
def ActionObj.size (a : ActionObj) : Option ℕ :=
  match composeAction a with
  | .ok bs => some bs.length
  | .error _ => none

theorem ActionObj.size_eq_some {a : ActionObj} {n : ℕ} :
    a.size = some n ↔ ∃ bs, composeAction a = .ok bs ∧ bs.length = n := by
  unfold ActionObj.size
  cases composeAction a <;> simp

theorem ActionObj.size_eq_none {a : ActionObj} :
    a.size = none ↔ ∃ e, composeAction a = .error e := by
  unfold ActionObj.size
  cases composeAction a <;> simp

theorem encodeActionList_singleton (a : ActionObj) : encodeActionList [a] = composeAction a := by
  unfold encodeActionList extendAll
  cases composeAction a with
  | error e => rfl
  | ok bs => simp [extendAll]

theorem encodeActionList_total {as : List ActionObj} (h : ∀ a ∈ as, a.size.isSome) :
    ∃ payload, encodeActionList as = .ok payload ∧
      payload.length = FirstFit.total ActionObj.size as := by
  induction as with
  | nil => exact ⟨[], rfl, rfl⟩
  | cons a as ih =>
    obtain ⟨n, hn⟩ := Option.isSome_iff_exists.mp (h a (List.mem_cons_self ..))
    obtain ⟨bs, hbs, rfl⟩ := ActionObj.size_eq_some.mp hn
    obtain ⟨payload, hp, hlen⟩ := ih fun b hb => h b (List.mem_cons_of_mem _ hb)
    refine ⟨bs ++ payload, extendAll_cons_ok.mpr ⟨bs, payload, hbs, hp, rfl⟩, ?_⟩
    rw [List.length_append, hlen, FirstFit.total_cons_some hn]

theorem encodeActionList_isSome {as : List ActionObj} {payload : Bytes}
    (h : encodeActionList as = .ok payload) : ∀ a ∈ as, a.size.isSome := by
  intro a ha
  obtain ⟨bs, hbs⟩ := extendAll_isOk.mp ⟨payload, h⟩ a ha
  rw [ActionObj.size_eq_some.mpr ⟨bs, hbs, rfl⟩]
  rfl

/-- The salvage raises nothing: encoding the objects raises nothing but `SpopEncodeError`, and
those that first fit drops can be named in the log. -/
structure Salvageable (budget : ℕ) (actions : List ActionObj) : Prop where
  contained : ∀ a ∈ actions, a.Contained
  shown : ∀ a ∈ FirstFit.dropped ActionObj.size budget actions, a.Shown

section Salvageable

variable {a : ActionObj} {actions : List ActionObj} {budget : ℕ}

instance (budget : ℕ) (actions : List ActionObj) : Decidable (Salvageable budget actions) :=
  decidable_of_iff ((∀ a ∈ actions, a.Contained) ∧
      ∀ a ∈ FirstFit.dropped ActionObj.size budget actions, a.Shown)
    ⟨fun h => ⟨h.1, h.2⟩, fun h => ⟨h.contained, h.shown⟩⟩

theorem Salvageable.nil (budget : ℕ) : Salvageable budget [] :=
  ⟨List.forall_mem_nil _, List.forall_mem_nil _⟩

theorem Salvageable.of_shown (h : ∀ a ∈ actions, a.Contained ∧ a.Shown) (budget : ℕ) :
    Salvageable budget actions :=
  ⟨fun a ha => (h a ha).1, fun a ha => (h a ((FirstFit.dropped_sublist _ _).subset ha)).2⟩

theorem Salvageable.of_fits (hsome : ∀ a ∈ actions, a.size.isSome)
    (hfit : FirstFit.total ActionObj.size actions ≤ budget) : Salvageable budget actions := by
  refine ⟨fun a ha => ?_, ?_⟩
  · obtain ⟨n, hn⟩ := Option.isSome_iff_exists.mp (hsome a ha)
    obtain ⟨bs, hbs, -⟩ := ActionObj.size_eq_some.mp hn
    rw [← composeAction_contained, hbs]
    exact FailsWithin.ok _ _
  · rw [FirstFit.dropped_eq_nil hsome hfit]
    exact List.forall_mem_nil _

/-- An action that does not encode, or does not fit, is dropped. -/
theorem salvageable_drop (hdrop : ∀ n, a.size = some n → ¬n ≤ budget) :
    Salvageable budget (a :: actions) ↔
      (a.Contained ∧ a.Shown) ∧ Salvageable budget actions := by
  have hdropped : FirstFit.dropped ActionObj.size budget (a :: actions) =
      a :: FirstFit.dropped ActionObj.size budget actions := by
    cases hs : a.size with
    | none => simp only [FirstFit.dropped, hs]
    | some n => simp only [FirstFit.dropped, hs, if_neg (hdrop n hs)]
  constructor
  · rintro ⟨hc, hs⟩
    rw [hdropped, List.forall_mem_cons] at hs
    rw [List.forall_mem_cons] at hc
    exact ⟨⟨hc.1, hs.1⟩, hc.2, hs.2⟩
  · rintro ⟨⟨hc, hs⟩, hcs, hss⟩
    exact ⟨List.forall_mem_cons.mpr ⟨hc, hcs⟩, hdropped ▸ List.forall_mem_cons.mpr ⟨hs, hss⟩⟩

theorem salvageable_keep {n : ℕ} (hsize : a.size = some n) (hle : n ≤ budget) :
    Salvageable budget (a :: actions) ↔ Salvageable (budget - n) actions := by
  have hdropped : FirstFit.dropped ActionObj.size budget (a :: actions) =
      FirstFit.dropped ActionObj.size (budget - n) actions := by
    simp only [FirstFit.dropped, hsize, if_pos hle]
  obtain ⟨bs, hbs, -⟩ := ActionObj.size_eq_some.mp hsize
  have hc : a.Contained := by
    rw [← composeAction_contained, hbs]
    exact FailsWithin.ok _ _
  constructor
  · rintro ⟨hcs, hss⟩
    exact ⟨(List.forall_mem_cons.mp hcs).2, hdropped ▸ hss⟩
  · rintro ⟨hcs, hss⟩
    exact ⟨List.forall_mem_cons.mpr ⟨hc, hcs⟩, hdropped ▸ hss⟩

end Salvageable

/-- The loop keeps what first fit keeps of the rest of the budget. -/
theorem salvageLoop_eq {actions : List ActionObj} (budget used : ℕ)
    (h : Salvageable (budget - used) actions) (salvaged : List ActionObj) (hused : used ≤ budget) :
    salvageLoop budget actions salvaged used =
      .ok (salvaged ++ FirstFit.keep ActionObj.size (budget - used) actions) := by
  induction actions generalizing used salvaged with
  | nil => simp [salvageLoop, FirstFit.keep]
  | cons a actions ih =>
    cases hc : composeAction a with
    | error e =>
      have hsize := ActionObj.size_eq_none.mpr ⟨e, hc⟩
      obtain ⟨⟨hcontained, hshown⟩, h⟩ := (salvageable_drop (by simp [hsize])).mp h
      have hrefuse := (composeAction_contained a).mpr hcontained
      have hshown : nameCheck a = .ok () := hshown
      simp only [salvageLoop, encodeActionList_singleton, hc, if_pos (hrefuse e hc), hshown,
        ok_bind, FirstFit.keep, hsize]
      exact ih used h salvaged hused
    | ok bs =>
      have hsize := ActionObj.size_eq_some.mpr ⟨bs, hc, rfl⟩
      simp only [salvageLoop, encodeActionList_singleton, hc, FirstFit.keep, hsize]
      by_cases hle : bs.length ≤ budget - used
      · have hn : ¬((used + bs.length : ℕ) : ℤ) > budget := by omega
        rw [salvageable_keep hsize hle, Nat.sub_sub] at h
        rw [if_neg hn, if_pos hle, ih _ h _ (by omega), List.append_assoc, Nat.sub_sub]
        rfl
      · have hp : ((used + bs.length : ℕ) : ℤ) > budget := by omega
        obtain ⟨⟨-, hshown⟩, h⟩ := (salvageable_drop (by simpa [hsize] using hle)).mp h
        have hshown : nameCheck a = .ok () := hshown
        rw [if_pos hp, if_neg hle, hshown, ok_bind]
        exact ih used h salvaged hused

/-- A list that is not salvageable breaks the loop. -/
theorem salvageLoop_error {actions : List ActionObj} (budget used : ℕ)
    (h : ¬Salvageable (budget - used) actions) (salvaged : List ActionObj) (hused : used ≤ budget) :
    ∃ e, salvageLoop budget actions salvaged used = .error e := by
  induction actions generalizing used salvaged with
  | nil => exact absurd (Salvageable.nil _) h
  | cons a actions ih =>
    cases hc : composeAction a with
    | error e =>
      have hsize := ActionObj.size_eq_none.mpr ⟨e, hc⟩
      simp only [salvageLoop, encodeActionList_singleton, hc]
      by_cases he : e.cls = .spopEncodeError
      · have hcontained : a.Contained := by
          rw [← composeAction_contained, hc]
          exact FailsWithin.error he
        rw [if_pos he]
        cases hn : nameCheck a with
        | error e' => exact ⟨e', rfl⟩
        | ok u =>
          have hrest : ¬Salvageable (budget - used) actions := fun hs =>
            h ((salvageable_drop (by simp [hsize])).mpr ⟨⟨hcontained, hn⟩, hs⟩)
          exact ih used hrest salvaged hused
      · exact ⟨e, if_neg he⟩
    | ok bs =>
      have hsize := ActionObj.size_eq_some.mpr ⟨bs, hc, rfl⟩
      simp only [salvageLoop, encodeActionList_singleton, hc]
      by_cases hle : bs.length ≤ budget - used
      · have hn : ¬((used + bs.length : ℕ) : ℤ) > budget := by omega
        rw [salvageable_keep hsize hle, Nat.sub_sub] at h
        rw [if_neg hn]
        exact ih _ h _ (by omega)
      · have hp : ((used + bs.length : ℕ) : ℤ) > budget := by omega
        rw [if_pos hp]
        cases hn : nameCheck a with
        | error e' => exact ⟨e', rfl⟩
        | ok u =>
          have hcontained : a.Contained := by
            rw [← composeAction_contained, hc]
            exact FailsWithin.ok _ _
          have hrest : ¬Salvageable (budget - used) actions := fun hs =>
            h ((salvageable_drop (by simpa [hsize] using hle)).mpr ⟨⟨hcontained, hn⟩, hs⟩)
          exact ih used hrest salvaged hused

/-! ### The ACK -/

/-- The length of an ACK's body without its actions. -/
def ackHeaderLength (md : MetaData) : ℕ :=
  5 + (varintBytes md.streamId.toNat).length + (varintBytes md.frameId.toNat).length

/-- The room for actions in an ACK within the limit. -/
def ackBudget (maxFrameSize : ℤ) (md : MetaData) : ℕ := (maxFrameSize - ackHeaderLength md).toNat

/-- The actions that first fit keeps in an ACK within the limit. -/
def keptActions (maxFrameSize : ℤ) (md : MetaData) (actions : List ActionObj) : List ActionObj :=
  FirstFit.keep ActionObj.size (ackBudget maxFrameSize md) actions

/-- The length of the ACK of the actions that first fit keeps. -/
def keptLength (maxFrameSize : ℤ) (md : MetaData) (actions : List ActionObj) : ℕ :=
  ackHeaderLength md + FirstFit.total ActionObj.size (keptActions maxFrameSize md actions)

theorem ackHeaderLength_le {md : MetaData} (hs : md.streamId < 2 ^ 63) (hf : md.frameId < 2 ^ 63) :
    ackHeaderLength md ≤ 25 := by
  have ls : (varintBytes md.streamId.toNat).length ≤ 10 := varintBytes_length_le (by omega)
  have lf : (varintBytes md.frameId.toNat).length ≤ 10 := varintBytes_length_le (by omega)
  rw [ackHeaderLength]
  omega

theorem keptLength_le {m : ℤ} {md : MetaData} (h : ackHeaderLength md ≤ m)
    (actions : List ActionObj) : keptLength m md actions ≤ m := by
  have hle : FirstFit.total ActionObj.size (keptActions m md actions) ≤ ackBudget m md :=
    FirstFit.total_keep_le _ _
  rw [ackBudget] at hle
  rw [keptLength]
  omega

theorem ackBudget_of_le {m : ℤ} {md : MetaData} (h : ackHeaderLength md ≤ m) :
    m - ackHeaderLength md = ackBudget m md :=
  (Int.toNat_of_nonneg (by omega)).symm

section Ack

variable {m : ℤ} {md : MetaData}

theorem ackFrame_body_some (hs : 0 ≤ md.streamId) (hf : 0 ≤ md.frameId) {as : List ActionObj}
    {payload : Bytes} (hp : encodeActionList as = .ok payload) :
    ∃ out, (ackFrame md (some as)).body = .ok out ∧
      out.length = ackHeaderLength md + payload.length := by
  refine ⟨_, ackFrame_body hs hf hp, ?_⟩
  simp only [ackHeaderLength, List.length_append, List.length_cons, List.length_nil]
  omega

theorem ackFrame_sends (hs : 0 ≤ md.streamId) (hf : 0 ≤ md.frameId) (hm : Printable m)
    {as : List ActionObj} {payload : Bytes} (hp : encodeActionList as = .ok payload)
    (hle : (ackHeaderLength md + payload.length : ℤ) ≤ m)
    (hlt : ackHeaderLength md + payload.length < 2 ^ 32) :
    ∃ bytes, (ackFrame md (some as)).encode m = .ok bytes ∧
      bytes.length = 4 + (ackHeaderLength md + payload.length) := by
  obtain ⟨out, hout, hlen⟩ := ackFrame_body_some hs hf hp
  obtain ⟨len, hpack⟩ := packU32_ok (hlen ▸ hlt)
  refine ⟨len ++ out, Frame.encode_ok.mpr ⟨out, len, hout, hpack, by omega, hm, rfl⟩, ?_⟩
  rw [List.length_append, packU32_length hpack, hlen]

theorem ackFrame_refused (hs : 0 ≤ md.streamId) (hf : 0 ≤ md.frameId) (hm : Printable m)
    {as : List ActionObj} {payload : Bytes} (hp : encodeActionList as = .ok payload)
    (hbig : m < ackHeaderLength md + payload.length ∨
      2 ^ 32 ≤ ackHeaderLength md + payload.length) :
    ∃ e, (ackFrame md (some as)).encode m = .error e ∧
      (e.cls = .spopEncodeError ∨ e.cls = .spopFrameTooBigError) := by
  obtain ⟨out, hout, hlen⟩ := ackFrame_body_some hs hf hp
  by_cases hlt : out.length < 2 ^ 32
  · obtain ⟨len, hpack⟩ := packU32_ok hlt
    have hgt : (out.length : ℤ) > m := by omega
    simp only [Frame.encode, hout, ok_bind, encodeFrameLen_ok.mpr hpack, if_pos hgt,
      tooBig_printable out.length hm]
    exact ⟨_, rfl, .inr rfl⟩
  · simp only [Frame.encode, hout, ok_bind, encodeFrameLen, packU32, if_neg hlt, error_bind]
    exact ⟨_, rfl, .inl rfl⟩

/-- Without the salvage: the frame of all actions is refused with an error that the salvage
catches, or it is sent and first fit keeps every action. -/
theorem ackFrame_refused_or_kept (hs : 0 ≤ md.streamId) (hf : 0 ≤ md.frameId) (hm : Printable m)
    {actions : List ActionObj} {payload : Bytes} (hp : encodeActionList actions = .ok payload) :
    (∃ e, (ackFrame md (some actions)).encode m = .error e ∧
      (e.cls = .spopEncodeError ∨ e.cls = .spopFrameTooBigError)) ∨
    (keptActions m md actions = actions ∧ Salvageable (ackBudget m md) actions ∧
      keptLength m md actions < 2 ^ 32 ∧
      ∃ bytes, (ackFrame md (some actions)).encode m = .ok bytes) := by
  have hsome := encodeActionList_isSome hp
  obtain ⟨payload', hp', hlen⟩ := encodeActionList_total hsome
  rw [hp, Except.ok.injEq] at hp'
  subst hp'
  by_cases hbig : m < ackHeaderLength md + payload.length ∨
      2 ^ 32 ≤ ackHeaderLength md + payload.length
  · exact .inl (ackFrame_refused hs hf hm hp hbig)
  · have hfit : FirstFit.total ActionObj.size actions ≤ ackBudget m md := by
      rw [ackBudget]
      omega
    have hself : keptActions m md actions = actions := FirstFit.keep_eq_self hsome hfit
    have hkept : keptLength m md actions < 2 ^ 32 := by
      rw [keptLength, hself]
      omega
    obtain ⟨bytes, hb, -⟩ := ackFrame_sends hs hf hm hp (by omega) (by omega)
    exact .inr ⟨hself, .of_fits hsome hfit, hkept, bytes, hb⟩

theorem ackFrame_encode_error (hs : 0 ≤ md.streamId) (hf : 0 ≤ md.frameId)
    {as : List ActionObj} {e : Exc} (hp : encodeActionList as = .error e) :
    (ackFrame md (some as)).encode m = .error e := by
  obtain ⟨x, hx⟩ : ∃ x, encodeMetadata (ackFrame md (some as)).metadata = .ok x :=
    ⟨_, encodeMetadata_ok.mpr ⟨hs, hf, rfl⟩⟩
  have hpayload : (ackFrame md (some as)).payload.encode = .error e := hp
  simp only [Frame.encode, Frame.body, encodeTinyInt_frameType, ok_bind, hx, hpayload, error_bind]

theorem salvagedAck_eq (hs : 0 ≤ md.streamId) (hf : 0 ≤ md.frameId) (hm : Printable m)
    (hle : ackHeaderLength md ≤ m) (hlt : ackHeaderLength md < 2 ^ 32) (actions : List ActionObj) :
    salvagedAck m md (some actions) =
      (salvageLoop (m - ackHeaderLength md) actions [] 0).map
        fun kept => ackFrame md (some kept) := by
  have hempty : encodeActionList [] = .ok [] := rfl
  obtain ⟨bytes, hb, hlen⟩ := ackFrame_sends hs hf hm hempty (by simpa using hle)
    (by simpa using hlt)
  have hbudget : m - ((bytes.length : ℤ) - 4) = m - ackHeaderLength md := by
    rw [hlen]
    simp
  simp only [salvagedAck, hb, ok_bind, hbudget]
  cases salvageLoop (m - ackHeaderLength md) actions [] 0 <;> rfl

/-- The salvage of a salvageable list is first fit. -/
theorem salvagedAck_kept (hs : 0 ≤ md.streamId) (hf : 0 ≤ md.frameId) (hm : Printable m)
    (hle : ackHeaderLength md ≤ m) (hlt : ackHeaderLength md < 2 ^ 32) {actions : List ActionObj}
    (h : Salvageable (ackBudget m md) actions) : salvagedAck m md (some actions) =
      .ok (ackFrame md (some (keptActions m md actions))) := by
  have hloop := salvageLoop_eq (ackBudget m md) 0 h [] (Nat.zero_le _)
  rw [Nat.sub_zero, List.nil_append] at hloop
  rw [salvagedAck_eq hs hf hm hle hlt, ackBudget_of_le hle, hloop]
  rfl

theorem salvagedAck_error (hs : 0 ≤ md.streamId) (hf : 0 ≤ md.frameId) (hm : Printable m)
    (hle : ackHeaderLength md ≤ m) (hlt : ackHeaderLength md < 2 ^ 32) {actions : List ActionObj}
    (h : ¬Salvageable (ackBudget m md) actions) :
    ∃ e, salvagedAck m md (some actions) = .error e := by
  obtain ⟨e, he⟩ := salvageLoop_error (ackBudget m md) 0 h [] (Nat.zero_le _)
  rw [salvagedAck_eq hs hf hm hle hlt, ackBudget_of_le hle, he]
  exact ⟨e, rfl⟩

theorem keptActions_encode (hs : 0 ≤ md.streamId) (hf : 0 ≤ md.frameId) (hm : Printable m)
    (hle : ackHeaderLength md ≤ m) {actions : List ActionObj}
    (hlt : keptLength m md actions < 2 ^ 32) :
    ∃ bytes, (ackFrame md (some (keptActions m md actions))).encode m = .ok bytes ∧
      (bytes.length : ℤ) ≤ m + 4 := by
  obtain ⟨payload, hp, hlen⟩ := encodeActionList_total
    (FirstFit.keep_isSome (ackBudget m md) actions)
  have hkept := keptLength_le hle actions
  rw [keptLength, keptActions, ← hlen] at hkept hlt
  obtain ⟨bytes, hb, lb⟩ := ackFrame_sends hs hf hm hp (by omega) hlt
  exact ⟨bytes, hb, by omega⟩

/-- A salvageable list is acknowledged with the actions that first fit keeps: all of them when
they all encode and fit. -/
theorem ackToSend_contained (hs : 0 ≤ md.streamId) (hf : 0 ≤ md.frameId) (hm : Printable m)
    (hle : ackHeaderLength md ≤ m) {actions : List ActionObj}
    (h : Salvageable (ackBudget m md) actions) (hlt : keptLength m md actions < 2 ^ 32) :
    ∃ bytes, ackToSend false m md (some actions) =
      .ok (some (ackFrame md (some (keptActions m md actions)), bytes)) := by
  have hheader : ackHeaderLength md < 2 ^ 32 := by
    rw [keptLength] at hlt
    omega
  -- the second attempt, when the first one is refused with an error the salvage catches
  have hsalvage : ∀ e, (ackFrame md (some actions)).encode m = .error e →
      (e.cls = .spopEncodeError ∨ e.cls = .spopFrameTooBigError) →
      ∃ bytes, ackToSend false m md (some actions) =
        .ok (some (ackFrame md (some (keptActions m md actions)), bytes)) := by
    intro e he hcls
    obtain ⟨bytes, hb, -⟩ := keptActions_encode hs hf hm hle hlt
    refine ⟨bytes, ?_⟩
    simp only [ackToSend, encodeToSend, Bool.false_eq_true, if_false, he, error_bind, if_pos hcls,
      salvagedAck_kept hs hf hm hle hheader h, ok_bind, hb]
  cases hp : encodeActionList actions with
  | error e =>
    have hrefuse : FailsWithin (fun e => e.cls = .spopEncodeError) (encodeActionList actions) :=
      extendAll_failsWithin fun a ha => (composeAction_contained a).mpr (h.contained a ha)
    exact hsalvage e (ackFrame_encode_error hs hf hp) (.inl (hrefuse e hp))
  | ok payload =>
    rcases ackFrame_refused_or_kept hs hf hm hp with ⟨e, he, hcls⟩ | ⟨hself, -, -, bytes, hb⟩
    · exact hsalvage e he hcls
    · refine ⟨bytes, ?_⟩
      simp only [ackToSend, encodeToSend, Bool.false_eq_true, if_false, hb, ok_bind, hself]

end Ack

end SpoeForge
