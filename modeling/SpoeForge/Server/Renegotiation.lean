import SpoeForge.Server.Negotiation

/-!
# A sequence of negotiations on one configuration

Every call makes the size smaller or leaves it, and decides compatibility and capabilities
anew. The three steps of a call share the compatibility flag: the version step sets it, the
size step can only clear it. A size without a text breaks the call between the two.
-/

namespace SpoeForge

open Fallible

variable (int : Str → Option ℤ)

/-- The smallest of the initial size and the offered ones. -/
def smallest (m : ℤ) (offers : List Offer) : ℤ := (offers.map Offer.haMaxFrameSize).foldl min m

/-- The object after the calls, of which some may have raised. -/
def ServerConfiguration.negotiateAll (c : ServerConfiguration) (offers : List Offer) :
    ServerConfiguration :=
  offers.foldl (fun c offer => (c.negotiate int offer).1) c

theorem smallest_append (m : ℤ) (pre : List Offer) (offer : Offer) :
    smallest m (pre ++ [offer]) = min (smallest m pre) offer.haMaxFrameSize := by
  simp [smallest]

theorem smallest_le_of_prefix (m : ℤ) {pre offers : List Offer} (h : pre <+: offers) :
    smallest m offers ≤ smallest m pre := by
  obtain ⟨post, rfl⟩ := h
  induction post using List.reverseRecOn with
  | nil => rw [List.append_nil]
  | append_singleton post offer ih =>
    rw [← List.append_assoc, smallest_append]
    exact le_trans (min_le_left _ _) ih

/-! ### One call -/

variable {int}

/-- The loop looks for an entry with the agent's major and no smaller minor. -/
theorem someCompatible_iff {ver : ℤ × ℤ} {versions : List Str} :
    someCompatible int ver versions = true ↔ ∃ v ∈ versions, ∃ minor,
      parseVersion int v = some (ver.1, minor) ∧ ver.2 ≤ minor := by
  induction versions with
  | nil => simp [someCompatible]
  | cons version rest ih =>
    rw [List.exists_mem_cons_iff, ← ih, someCompatible]
    split
    · rename_i hparse
      simp [hparse]
    · rename_i haVer hparse
      rw [hparse]
      by_cases hmajor : ver.1 = haVer.1
      · have hself : ¬ver.1 < haVer.1 := by omega
        have hminor : (∃ minor, some haVer = some (ver.1, minor) ∧ ver.2 ≤ minor) ↔
            ver.2 ≤ haVer.2 := by
          constructor
          · rintro ⟨minor, he, hle⟩
            cases he
            exact hle
          · intro hle
            exact ⟨haVer.2, by rw [hmajor], hle⟩
        rw [if_neg (by simp [hmajor]), hminor]
        by_cases hle : ver.2 ≤ haVer.2
        · simp [hmajor, hle]
        · simp [hmajor, hle]
      · have hnone : ¬∃ minor, some haVer = some (ver.1, minor) ∧ ver.2 ≤ minor := by
          rintro ⟨minor, he, -⟩
          cases he
          exact hmajor rfl
        rw [if_pos hmajor, or_iff_right hnone]

section Call

variable {c : ServerConfiguration} {ver : ℤ × ℤ}

/-- The call in one equation: it raises exactly when the new size is unprintable, after the
size and the flag have been assigned. -/
theorem negotiate_eq (hver : parseVersion int c.version = some ver) (offer : Offer) :
    c.negotiate int offer = if Unprintable (min c.maxFrameSize offer.haMaxFrameSize) then
      ({ c with
        maxFrameSize := min c.maxFrameSize offer.haMaxFrameSize
        serverCompatible := someCompatible int ver offer.supportedVersions },
        some ⟨.valueError, str "Exceeds the limit (4300 digits) for integer string conversion"⟩)
    else
      ({ c with
        maxFrameSize := min c.maxFrameSize offer.haMaxFrameSize
        serverCompatible := someCompatible int ver offer.supportedVersions &&
          decide (0 < min c.maxFrameSize offer.haMaxFrameSize)
        capabilities := SPOE_CAPABILITIES.filter fun x => x ∈ offer.haCapabilities }, none) := by
  have hsize : (Value.int offer.haMaxFrameSize).number? = some offer.haMaxFrameSize := rfl
  simp only [ServerConfiguration.negotiate, checkVersionCompatibility, hver,
    findMaxFrameSize_number hsize]
  by_cases hu : Unprintable (min c.maxFrameSize offer.haMaxFrameSize)
  · rw [if_pos hu, if_pos hu, min_comm]
  · rw [if_neg hu, if_neg hu]
    rfl

theorem negotiate_size (hver : parseVersion int c.version = some ver) (offer : Offer) :
    (c.negotiate int offer).1.maxFrameSize = min c.maxFrameSize offer.haMaxFrameSize := by
  rw [negotiate_eq hver]
  split <;> rfl

theorem negotiate_version (hver : parseVersion int c.version = some ver) (offer : Offer) :
    (c.negotiate int offer).1.version = c.version := by
  rw [negotiate_eq hver]
  split <;> rfl

end Call

/-- A call that raises nothing is one of `negotiate_server_compatibility` that returns. -/
theorem negotiate_eq_negotiateWith (c c' : ServerConfiguration) (offer : Offer) :
    c.negotiate int offer = (c', none) ↔ negotiateWith int c offer.supportedVersions
      (.int offer.haMaxFrameSize) offer.haCapabilities = .ok c' := by
  unfold ServerConfiguration.negotiate negotiateWith
  cases checkVersionCompatibility int c offer.supportedVersions with
  | error e => simp
  | ok c₁ =>
    simp only [ok_bind]
    cases findMaxFrameSize c₁ (.int offer.haMaxFrameSize) with
    | error e => simp
    | ok c₂ => simp

/-! ### Every call of a sequence -/

/-- What the object holds after the calls `pre` and a last one. -/
structure Agreed (int : Str → Option ℤ) (ver : ℤ × ℤ) (m : ℤ) (pre : List Offer) (offer : Offer)
    (c : ServerConfiguration) : Prop where
  size : c.maxFrameSize = smallest m (pre ++ [offer])
  shrinks : c.maxFrameSize ≤ smallest m pre
  compatible : c.serverCompatible = true ↔ 0 < smallest m (pre ++ [offer]) ∧
    ∃ v ∈ offer.supportedVersions, ∃ minor,
      parseVersion int v = some (ver.1, minor) ∧ ver.2 ≤ minor
  capabilities : c.capabilities = SPOE_CAPABILITIES.filter fun x => x ∈ offer.haCapabilities

/-- Two offers with the same size, well-formed versions and capabilities, in any order and any
number of times, among any malformed versions. -/
structure SameOffer (int : Str → Option ℤ) (offer offer' : Offer) : Prop where
  size : offer.haMaxFrameSize = offer'.haMaxFrameSize
  versions : ∀ v, (parseVersion int v).isSome →
    (v ∈ offer.supportedVersions ↔ v ∈ offer'.supportedVersions)
  capabilities : ∀ x, x ∈ offer.haCapabilities ↔ x ∈ offer'.haCapabilities

section Sequence

variable {ver : ℤ × ℤ} {m k : ℤ}

/-- The invariant of the calls: the version stays and the size is the smallest one. -/
theorem negotiateAll_size (hver : parseVersion int SPOE_VERSION = some ver) (pre : List Offer) :
    ((ServerConfiguration.init m k).negotiateAll int pre).version = SPOE_VERSION ∧
      ((ServerConfiguration.init m k).negotiateAll int pre).maxFrameSize = smallest m pre := by
  induction pre using List.reverseRecOn with
  | nil => exact ⟨rfl, rfl⟩
  | append_singleton pre offer ih =>
    obtain ⟨hversion, hsize⟩ := ih
    rw [← hversion] at hver
    rw [ServerConfiguration.negotiateAll, List.foldl_append, smallest_append, ← hsize]
    exact ⟨(negotiate_version hver offer).trans hversion, negotiate_size hver offer⟩

theorem negotiate_agrees_iff (hver : parseVersion int SPOE_VERSION = some ver) (pre : List Offer)
    (offer : Offer) {c : ServerConfiguration} (hversion : c.version = SPOE_VERSION)
    (hsize : c.maxFrameSize = smallest m pre) :
    ((c.negotiate int offer).2 = none ∧ Agreed int ver m pre offer (c.negotiate int offer).1) ↔
      ¬Unprintable (smallest m (pre ++ [offer])) := by
  rw [← hversion] at hver
  rw [negotiate_eq hver, smallest_append, hsize]
  by_cases hu : Unprintable (min (smallest m pre) offer.haMaxFrameSize)
  · simp [hu]
  · rw [if_neg hu]
    refine iff_of_true ⟨rfl, ?_⟩ hu
    exact
      { size := (smallest_append m pre offer).symm
        shrinks := min_le_left _ _
        compatible := by
          rw [Bool.and_eq_true, decide_eq_true_eq, someCompatible_iff, smallest_append, and_comm]
        capabilities := rfl }

theorem negotiate_sameOffer {c : ServerConfiguration} {offer offer' : Offer}
    (h : SameOffer int offer offer') : c.negotiate int offer = c.negotiate int offer' := by
  have hversions : ∀ ver, someCompatible int ver offer.supportedVersions =
      someCompatible int ver offer'.supportedVersions := by
    intro ver
    rw [Bool.eq_iff_iff, someCompatible_iff, someCompatible_iff]
    constructor
    · rintro ⟨v, hv, minor, hp, hle⟩
      exact ⟨v, (h.versions v (by rw [hp]; rfl)).mp hv, minor, hp, hle⟩
    · rintro ⟨v, hv, minor, hp, hle⟩
      exact ⟨v, (h.versions v (by rw [hp]; rfl)).mpr hv, minor, hp, hle⟩
  have hcapabilities : ∀ c, findCommonCapabilities c offer.haCapabilities =
      findCommonCapabilities c offer'.haCapabilities := by
    intro c
    simp only [findCommonCapabilities, h.capabilities]
  simp only [ServerConfiguration.negotiate, checkVersionCompatibility, hversions, hcapabilities,
    h.size]

end Sequence

/-- Every call of a sequence returns and leaves what was agreed exactly when the smallest size
is positive or has a text. What a call does never depends on order, repetition or malformed
versions. -/
theorem negotiation_iff (int : Str → Option ℤ) (ver : ℤ × ℤ)
    (hver : parseVersion int SPOE_VERSION = some ver) (m k : ℤ) (offers : List Offer) :
    ((∀ pre offer, pre ++ [offer] <+: offers →
        (((ServerConfiguration.init m k).negotiateAll int pre).negotiate int offer).2 = none ∧
        Agreed int ver m pre offer
          (((ServerConfiguration.init m k).negotiateAll int pre).negotiate int offer).1) ↔
      (offers = [] ∨ ¬Unprintable (smallest m offers))) ∧
    ∀ c offer offer', SameOffer int offer offer' →
      ServerConfiguration.negotiate int c offer = c.negotiate int offer' := by
  have hstep : ∀ pre offer, pre ++ [offer] <+: offers →
      (((((ServerConfiguration.init m k).negotiateAll int pre).negotiate int offer).2 = none ∧
        Agreed int ver m pre offer
          (((ServerConfiguration.init m k).negotiateAll int pre).negotiate int offer).1) ↔
        ¬Unprintable (smallest m (pre ++ [offer]))) := by
    intro pre offer _
    obtain ⟨hversion, hsize⟩ := negotiateAll_size (m := m) (k := k) hver pre
    exact negotiate_agrees_iff hver pre offer hversion hsize
  refine ⟨⟨?_, ?_⟩, fun c offer offer' h => negotiate_sameOffer h⟩
  · intro hall
    rcases List.eq_nil_or_concat offers with hnil | ⟨pre, offer, rfl⟩
    · exact .inl hnil
    · rw [List.concat_eq_append] at hall hstep ⊢
      exact .inr ((hstep pre offer List.prefix_rfl).mp (hall pre offer List.prefix_rfl))
  · intro h pre offer hpre
    apply (hstep pre offer hpre).mpr
    rintro ⟨hle, hprint⟩
    -- the smallest size of all is no shorter a number than the one here
    have hmin := smallest_le_of_prefix m hpre
    rcases h with rfl | h
    · exact absurd (List.prefix_nil.mp hpre) (by simp)
    · refine h ⟨le_trans hmin hle, fun hp => hprint ?_⟩
      rw [Printable] at hp ⊢
      omega

/-- A call with a malformed version in front. -/
theorem negotiation_malformed :
    let c := ((ServerConfiguration.init 4096 100).negotiate intOfStr
      ⟨[str "2", str "2.10"], 16384, [PIPELINING]⟩).1
    c.maxFrameSize = 4096 ∧ c.serverCompatible = true ∧ c.capabilities = [PIPELINING] := by
  have hall := ((negotiation_iff intOfStr (2, 0) parseVersion_agent 4096 100
    [⟨[str "2", str "2.10"], 16384, [PIPELINING]⟩]).1.mpr
      (.inr fun h => absurd h.1 (by decide))) [] _ List.prefix_rfl
  refine ⟨hall.2.size, hall.2.compatible.mpr ⟨by decide, ?_⟩, hall.2.capabilities⟩
  exact ⟨str "2.10", by simp, 10, by decide +kernel, by decide⟩

/-- The size `-10^4300` has no text: the call raises while it logs the failure, and leaves an
object that counts as compatible, without the capability that was offered. -/
theorem negotiation_stale :
    let result := (ServerConfiguration.init 4096 100).negotiate intOfStr
      ⟨[str "2.0"], -(10 ^ 4300), [PIPELINING]⟩
    result.2 ≠ none ∧ result.1.maxFrameSize ≤ 0 ∧ result.1.serverCompatible = true ∧
      result.1.capabilities = [] := by
  decide +kernel

end SpoeForge
