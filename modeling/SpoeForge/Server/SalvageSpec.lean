import SpoeForge.Server.Containment

/-!
# What a salvaged ACK carries

After a successful handshake the ACK without actions fits the limit, and the budget of the
salvage is the rest: the salvaged ACK fits, and first fit drops an action for a reason only.
-/

namespace SpoeForge

open Fallible FirstFit

/-- The action does not encode, or the ACK of the actions kept before it and this one is longer
than the limit. -/
def Dropped (m : ℤ) (md : MetaData) (before : List ActionObj) (a : ActionObj) : Prop :=
  (∃ e, composeAction a = .error e) ∨
    ∃ out, (ackFrame md (some (before ++ [a]))).body = .ok out ∧ m < out.length

/-- The ACK fits, carries the ids of the NOTIFY and a greedy selection of the actions, and
carries all of them exactly when their ACK encodes. -/
structure Salvages (m : ℤ) (md : MetaData) (actions : List ActionObj) (ack : Frame) : Prop where
  encodes : ∃ bytes, ack.encode m = .ok bytes ∧ (bytes.length : ℤ) ≤ m + 4
  ids : ack.metadata.streamId = md.streamId ∧ ack.metadata.frameId = md.frameId
  selection : ∃ kept, ack.payload = .ack (some kept) ∧ kept.Sublist actions ∧
    Selects (Dropped m md) [] actions kept ∧
    (kept = actions ↔ ∃ bytes, (ackFrame md (some actions)).encode m = .ok bytes)

section Kept

variable {m : ℤ} {md : MetaData}

theorem keptActions_selects (hs : 0 ≤ md.streamId) (hf : 0 ≤ md.frameId)
    (hle : ackHeaderLength md ≤ m) (actions : List ActionObj) :
    Selects (Dropped m md) [] actions (keptActions m md actions) := by
  have hnone : ∀ before a, ActionObj.size a = none → Dropped m md before a :=
    fun before a ha => .inl (ActionObj.size_eq_none.mp ha)
  have hbig : ∀ before a n, (∀ b ∈ before, (ActionObj.size b).isSome) →
      ActionObj.size a = some n →
      ackBudget m md < total ActionObj.size before + n → Dropped m md before a := by
    intro before a n hbefore ha hlt
    rw [ackBudget] at hlt
    have hall : ∀ b ∈ before ++ [a], (ActionObj.size b).isSome := by
      intro b hb
      rcases List.mem_append.mp hb with hb | hb
      · exact hbefore b hb
      · rw [List.mem_singleton.mp hb, ha]
        rfl
    obtain ⟨payload, hp, hlen⟩ := encodeActionList_total hall
    obtain ⟨out, hout, lout⟩ := ackFrame_body_some hs hf hp
    rw [total_append_singleton ha] at hlen
    exact .inr ⟨out, hout, by omega⟩
  have hempty : ∀ b ∈ ([] : List ActionObj), (ActionObj.size b).isSome := by simp
  exact keep_selects hnone hbig actions hempty (Nat.zero_le _)

theorem keptActions_eq_self_iff (hs : 0 ≤ md.streamId) (hf : 0 ≤ md.frameId) (hm : Printable m)
    (hle : ackHeaderLength md ≤ m) (hlt : m < 2 ^ 32) (actions : List ActionObj) :
    keptActions m md actions = actions ↔
      ∃ bytes, (ackFrame md (some actions)).encode m = .ok bytes := by
  constructor
  · intro hself
    have hkept := keptLength_le hle actions
    obtain ⟨bytes, hb, -⟩ := keptActions_encode hs hf hm hle (show keptLength m md actions < 2 ^ 32 by omega)
    rw [hself] at hb
    exact ⟨bytes, hb⟩
  · rintro ⟨bytes, hb⟩
    obtain ⟨out, len, hout, -, hfits, -, -⟩ := Frame.encode_ok.mp hb
    obtain ⟨mdBytes, payload, -, hp, -⟩ := Frame.body_ok.mp hout
    have hp : encodeActionList actions = .ok payload := hp
    obtain ⟨out', hout', lout⟩ := ackFrame_body_some hs hf hp
    rw [hout] at hout'
    cases hout'
    obtain ⟨payload', hp', hlen⟩ := encodeActionList_total (encodeActionList_isSome hp)
    rw [hp] at hp'
    cases hp'
    have hfit : total ActionObj.size actions ≤ ackBudget m md := by
      rw [ackBudget]
      omega
    exact keep_eq_self (encodeActionList_isSome hp) hfit

end Kept

/-- Under a limit that let AGENT-HELLO through, the salvage raises nothing and gives a greedy
selection exactly when encoding the actions raises nothing but `SpopEncodeError` and those that
are dropped can be named. -/
theorem salvaged_ack_iff (config : ServerConfiguration) (hello : Bytes)
    (hhello : (agentHelloFrame config).encode config.maxFrameSize = .ok hello)
    (hlt : config.maxFrameSize < 2 ^ 32) (md : MetaData)
    (hstream : 0 ≤ md.streamId ∧ md.streamId < 2 ^ 63)
    (hframe : 0 ≤ md.frameId ∧ md.frameId < 2 ^ 63) (actions : List ActionObj) :
    (∃ ack, salvagedAck config.maxFrameSize md (some actions) = .ok ack ∧
      Salvages config.maxFrameSize md actions ack) ↔
        Salvageable (ackBudget config.maxFrameSize md) actions := by
  obtain ⟨hlimit, hprint⟩ := agentHello_limit hhello
  have hheader := ackHeaderLength_le hstream.2 hframe.2
  have hle : ackHeaderLength md ≤ config.maxFrameSize := by omega
  constructor
  · rintro ⟨ack, hack, -⟩
    by_contra hn
    obtain ⟨e, he⟩ := salvagedAck_error hstream.1 hframe.1 hprint hle (by omega) hn
    rw [he] at hack
    cases hack
  · intro hall
    have hkept := keptLength_le hle actions
    refine ⟨_, salvagedAck_kept hstream.1 hframe.1 hprint hle (by omega) hall, ?_⟩
    exact
      { encodes := keptActions_encode hstream.1 hframe.1 hprint hle (by omega)
        ids := ⟨rfl, rfl⟩
        selection := ⟨_, rfl, keep_sublist _ _, keptActions_selects hstream.1 hframe.1 hle actions,
          keptActions_eq_self_iff hstream.1 hframe.1 hprint hle hlt actions⟩ }

/-- An action that does not encode is dropped and the one after it is kept. -/
theorem salvaged_ack_unencodable :
    ∃ ack, salvagedAck 4096 ⟨⟨true, false⟩, 7, 1⟩
        (some [.ofSet .transaction (str "a") (.str ['€']), .ofUnset .session (str "b")]) = .ok ack ∧
      Salvages 4096 ⟨⟨true, false⟩, 7, 1⟩
        [.ofSet .transaction (str "a") (.str ['€']), .ofUnset .session (str "b")] ack := by
  have hok : ((agentHelloFrame (.init 4096 100)).encode 4096).isOk = true := by decide +kernel
  cases hello : (agentHelloFrame (.init 4096 100)).encode 4096 with
  | error e =>
    rw [hello] at hok
    cases hok
  | ok bytes =>
    apply (salvaged_ack_iff (.init 4096 100) bytes hello (by decide) ⟨⟨true, false⟩, 7, 1⟩
      (by decide) (by decide) _).mpr
    decide +kernel

/-- An integer of 4301 digits: its refusal has no text, and `ValueError` leaves the salvage. -/
theorem salvaged_ack_raises :
    ((agentHelloFrame (.init 4096 100)).encode 4096).isOk = true ∧
    salvagedAck 4096 ⟨⟨true, false⟩, 7, 1⟩
      (some [.ofSet .transaction (str "x") (.int (10 ^ 4300))]) = .error ⟨.valueError,
        str "Exceeds the limit (4300 digits) for integer string conversion"⟩ := by
  constructor
  · decide +kernel
  · decide +kernel

end SpoeForge
