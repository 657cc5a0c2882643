import SpoeForge.Server.Salvage

/-!
# What sending a frame raises

With identifiers and a limit whose decimal text Python can make, `send_frame` of the
server's own frames, and of the ACK of contained actions, raises nothing but a
`SpoeForgeError`: an encode error or a frame too big.
-/

namespace SpoeForge

open Fallible

/-- Succeeds, or raises a `SpoeForgeError`. -/
def RaisesProtocol {α : Type} (x : Except Exc α) : Prop :=
  FailsWithin (fun e => e.isSpoeForgeError = true) x

theorem EncodesOrRefuses.raises {α : Type} {x : Except Exc α} (h : EncodesOrRefuses x) :
    RaisesProtocol x :=
  h.mono fun e he => by
    have he : e.cls = .spopEncodeError := he
    simp [Exc.isSpoeForgeError, he]

/-! ### Frames -/

theorem composeVarint_refuses {i : ℤ} (h : Printable i) : EncodesOrRefuses (composeVarint i) := by
  unfold composeVarint
  split
  · rw [intStr_ok.mpr ⟨h, rfl⟩, ok_bind]
    exact FailsWithin.error rfl
  · exact FailsWithin.ok _ _

theorem encodeMetadata_refuses {md : MetaData} (hs : Printable md.streamId)
    (hf : Printable md.frameId) : EncodesOrRefuses (encodeMetadata md) :=
  (composeVarint_refuses hs).bind fun _ _ =>
    (composeVarint_refuses hf).bind fun _ _ => FailsWithin.ok _ _

theorem encodeFrameLen_refuses (n : ℕ) : EncodesOrRefuses (encodeFrameLen n) := by
  unfold encodeFrameLen
  split
  · exact FailsWithin.ok _ _
  · exact FailsWithin.error rfl

theorem Frame.encode_raises {f : Frame} {m : ℤ} (hs : Printable f.metadata.streamId)
    (hf : Printable f.metadata.frameId) (hm : Printable m)
    (hp : EncodesOrRefuses f.payload.encode) : RaisesProtocol (f.encode m) := by
  have hbody : EncodesOrRefuses f.body := by
    unfold Frame.body
    rw [encodeTinyInt_frameType, ok_bind]
    exact (encodeMetadata_refuses hs hf).bind fun _ _ => hp.bind fun _ _ => FailsWithin.ok _ _
  refine hbody.raises.bind fun out _ => (encodeFrameLen_refuses out.length).raises.bind fun len _ => ?_
  split
  · rw [tooBig_printable out.length hm]
    exact FailsWithin.error rfl
  · rw [intStr_ok.mpr ⟨hm, rfl⟩, ok_bind]
    exact FailsWithin.ok _ _

theorem encodeString_refuses (s : Str) : EncodesOrRefuses (encodeString s) := by
  unfold encodeString
  split
  · rw [composeBinary_eq]
    exact FailsWithin.ok _ _
  · exact FailsWithin.error rfl

theorem encodeKvList_refuses {d : Dict Str Value}
    (h : ∀ p ∈ d.entries, PyObj.Contained (.val p.2)) : EncodesOrRefuses (encodeKvList d) := by
  refine extendAll_failsWithin fun p hp => ?_
  exact (encodeString_refuses p.1).bind fun _ _ =>
    ((autoEncodeDtVar_contained (.val p.2)).mpr (h p hp)).bind fun _ _ => FailsWithin.ok _ _

theorem printable_zero : Printable 0 := printable_of_lt (by decide) (by decide)

theorem agentHelloFrame_raises {config : ServerConfiguration} {m : ℤ}
    (hsize : Printable config.maxFrameSize) (hm : Printable m) :
    RaisesProtocol ((agentHelloFrame config).encode m) := by
  refine Frame.encode_raises printable_zero printable_zero hm (encodeKvList_refuses fun p hp => ?_)
  have hp : p ∈ [(keyVersion, Value.str config.version), (keyMaxFrameSize, .int config.maxFrameSize),
      (keyCapabilities, .str (toSpopList config.capabilities))] := hp
  simp only [List.mem_cons, List.not_mem_nil, or_false] at hp
  rcases hp with rfl | rfl | rfl
  · trivial
  · exact hsize
  · trivial

theorem disconnectCode_printable (code : DisconnectCode) : Printable code.value := by
  cases code <;> exact printable_of_lt (by decide) (by decide)

theorem disconnectFrame_raises (code : DisconnectCode) (message : Str) {m : ℤ}
    (hm : Printable m) : RaisesProtocol ((disconnectFrame code message).encode m) := by
  refine Frame.encode_raises printable_zero printable_zero hm (encodeKvList_refuses fun p hp => ?_)
  have hp : p ∈ [(keyStatusCode, Value.int code.value), (keyMessage, .str message)] := hp
  simp only [List.mem_cons, List.not_mem_nil, or_false] at hp
  rcases hp with rfl | rfl
  · exact disconnectCode_printable code
  · trivial

/-! ### ACKs -/

theorem ackFrame_raises {md : MetaData} {m : ℤ} (hs : Printable md.streamId)
    (hf : Printable md.frameId) (hm : Printable m) {actions : List ActionObj}
    (h : ∀ a ∈ actions, a.Contained) : RaisesProtocol ((ackFrame md (some actions)).encode m) :=
  Frame.encode_raises hs hf hm
    (extendAll_failsWithin fun a ha => (composeAction_contained a).mpr (h a ha))

theorem encodeToSend_raises {closing : Bool} {m : ℤ} {frame : Frame}
    (h : RaisesProtocol (frame.encode m)) : RaisesProtocol (encodeToSend closing m frame) := by
  unfold encodeToSend
  split
  · exact FailsWithin.ok _ _
  · exact h.bind fun _ _ => FailsWithin.ok _ _

/-- The salvage of contained actions fails only on the ACK without actions. -/
theorem salvagedAck_raises {md : MetaData} {m : ℤ} (hs : Printable md.streamId)
    (hf : Printable md.frameId) (hm : Printable m) {actions : List ActionObj}
    (h : ∀ a ∈ actions, a.Contained ∧ a.Shown) :
    RaisesProtocol (salvagedAck m md (some actions)) ∧
      ∀ ack, salvagedAck m md (some actions) = .ok ack → RaisesProtocol (ack.encode m) := by
  have hempty : RaisesProtocol ((ackFrame md (some [])).encode m) :=
    ackFrame_raises hs hf hm (by simp)
  have hkept : ∀ emptyAck, (ackFrame md (some [])).encode m = .ok emptyAck →
      salvageLoop (m - ((emptyAck.length : ℤ) - 4)) actions [] 0 =
        .ok (FirstFit.keep ActionObj.size (m - ((emptyAck.length : ℤ) - 4)).toNat actions) := by
    intro emptyAck he
    obtain ⟨out, len, -, hpack, hle, -, rfl⟩ := Frame.encode_ok.mp he
    have h4 := packU32_length hpack
    have hbudget : 0 ≤ m - (((len ++ out).length : ℤ) - 4) := by
      rw [List.length_append, h4]
      omega
    have hloop := salvageLoop_eq (m - (((len ++ out).length : ℤ) - 4)).toNat 0 (.of_shown h _) []
      (Nat.zero_le _)
    rw [Int.toNat_of_nonneg hbudget] at hloop
    simpa using hloop
  constructor
  · refine hempty.bind fun emptyAck he => ?_
    simp only [hkept emptyAck he, ok_bind]
    exact FailsWithin.ok _ _
  · intro ack hack
    obtain ⟨emptyAck, he, hack⟩ := bind_eq_ok.mp hack
    simp only [hkept emptyAck he, ok_bind] at hack
    cases hack
    exact ackFrame_raises hs hf hm fun a ha => (h a ((FirstFit.keep_sublist _ _).subset ha)).1

/-- The ACK of contained actions raises nothing but a `SpoeForgeError`. -/
theorem ackToSend_raisesProtocol {closing : Bool} {md : MetaData} {m : ℤ}
    (hs : Printable md.streamId) (hf : Printable md.frameId) (hm : Printable m)
    {actions : List ActionObj} (h : ∀ a ∈ actions, a.Contained ∧ a.Shown) :
    RaisesProtocol (ackToSend closing m md (some actions)) := by
  obtain ⟨hsalvage, hack⟩ := salvagedAck_raises hs hf hm h
  have hfirst : RaisesProtocol (encodeToSend closing m (ackFrame md (some actions))) :=
    encodeToSend_raises (ackFrame_raises hs hf hm fun a ha => (h a ha).1)
  unfold ackToSend
  split
  · exact FailsWithin.ok _ _
  · rename_i e he
    split
    · exact hsalvage.bind fun ack ha => encodeToSend_raises (hack ack ha)
    · exact FailsWithin.error (hfirst e he)

/-- The identifiers are encoded before the actions: a negative one is refused whatever the
actions are. -/
theorem ackToSend_negative {closing : Bool} {md : MetaData} (m : ℤ) (hs : Printable md.streamId)
    (hf : Printable md.frameId) (hneg : md.streamId < 0 ∨ md.frameId < 0)
    (actions : Option (List ActionObj)) : RaisesProtocol (ackToSend closing m md actions) := by
  have hrefuse : EncodesOrRefuses (encodeMetadata ⟨⟨true, false⟩, md.streamId, md.frameId⟩) :=
    encodeMetadata_refuses hs hf
  obtain ⟨e, he⟩ : ∃ e, encodeMetadata ⟨⟨true, false⟩, md.streamId, md.frameId⟩ = .error e := by
    cases hmd : encodeMetadata ⟨⟨true, false⟩, md.streamId, md.frameId⟩ with
    | error e => exact ⟨e, rfl⟩
    | ok bs =>
      obtain ⟨h0, h0', -⟩ := encodeMetadata_ok.mp hmd
      exact hneg.elim (fun h => absurd h0 h.not_ge) fun h => absurd h0' h.not_ge
  have hcls : e.cls = .spopEncodeError := hrefuse e he
  have hframe : ∀ as, (ackFrame md as).encode m = .error e := by
    intro as
    simp only [Frame.encode, Frame.body, ackFrame, Frame.construct, encodeTinyInt_frameType, he,
      ok_bind, error_bind]
  cases closing with
  | true => exact FailsWithin.ok _ _
  | false =>
    simp only [ackToSend, encodeToSend, Bool.false_eq_true, if_false, hframe, error_bind,
      if_pos (Or.inl hcls), salvagedAck]
    exact FailsWithin.error (by simp [Exc.isSpoeForgeError, hcls])

theorem ActionObj.WellTyped.contained {a : ActionObj} (h : a.WellTyped)
    (hint : ∀ scope name v, a = .ofSet scope name (.int v) → Latin1 name → Printable v) :
    a.Contained ∧ a.Shown := by
  have hscope : ∀ scope : ActionScope, (PyObj.val (.int scope.value)).IsByte := by
    intro scope
    cases scope <;> exact ⟨by decide, by decide⟩
  cases h with
  | set scope name value =>
    refine ⟨⟨.inl (hscope scope), fun _ => ⟨trivial, fun hl => ?_⟩⟩, rfl⟩
    cases value with
    | int i => exact hint scope name i rfl hl
    | _ => trivial
  | unset scope name => exact ⟨⟨.inl (hscope scope), fun _ => trivial⟩, rfl⟩

end SpoeForge
