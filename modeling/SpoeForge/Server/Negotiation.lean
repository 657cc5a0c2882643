import SpoeForge.Configuration
import SpoeForge.Library.Fallible

/-!
# What a negotiation leaves behind

`negotiate_server_compatibility` that returns: the limit becomes the smaller of the two
sizes, the capabilities the common ones, and nothing else but the compatibility flag
changes.
-/

namespace SpoeForge

open Fallible

/-- The configuration after a negotiation. -/
structure Negotiated (c c' : ServerConfiguration) (supportedVersions : List Str)
    (haMaxFrameSize : Value) (haCapabilities : List Str) : Prop where
  version : c'.version = c.version
  maxConcurrentFrames : c'.maxConcurrentFrames = c.maxConcurrentFrames
  capabilities : c'.capabilities = SPOE_CAPABILITIES.filter fun x => x ∈ haCapabilities
  size : ∃ ha, haMaxFrameSize.number? = some ha ∧ c'.maxFrameSize = min c.maxFrameSize ha
  compatible : c'.serverCompatible = true → 0 < c'.maxFrameSize ∧
    ∃ ver, parseVersion intOfStr c.version = some ver ∧
      someCompatible intOfStr ver supportedVersions = true

theorem checkVersionCompatibility_ok {c c' : ServerConfiguration} {versions : List Str}
    (h : checkVersionCompatibility intOfStr c versions = .ok c') :
    ∃ ver, parseVersion intOfStr c.version = some ver ∧
      c' = { c with serverCompatible := someCompatible intOfStr ver versions } := by
  unfold checkVersionCompatibility at h
  split at h
  · cases h
  · rename_i ver hver
    cases h
    exact ⟨ver, hver, rfl⟩

/-- A size that is not positive and has no text. -/
def Unprintable (size : ℤ) : Prop := size ≤ 0 ∧ ¬Printable size

instance (size : ℤ) : Decidable (Unprintable size) := inferInstanceAs (Decidable (_ ∧ _))

theorem findMaxFrameSize_number {v : Value} {size : ℤ} (hv : v.number? = some size)
    {c : ServerConfiguration} :
    findMaxFrameSize c v = if Unprintable (min c.maxFrameSize size) then
      .error ⟨.valueError, str "Exceeds the limit (4300 digits) for integer string conversion"⟩
    else .ok { c with
      maxFrameSize := min c.maxFrameSize size
      serverCompatible := c.serverCompatible && decide (0 < min c.maxFrameSize size) } := by
  have hmin : (if c.maxFrameSize < size then c.maxFrameSize else size) =
      min c.maxFrameSize size := by
    split <;> omega
  simp only [findMaxFrameSize, hv, hmin, Unprintable]
  by_cases hle : min c.maxFrameSize size ≤ 0
  · have hn : ¬0 < min c.maxFrameSize size := by omega
    by_cases hprint : Printable (min c.maxFrameSize size)
    · simp [hle, hprint, intStr, hn]
    · simp [hle, hprint, intStr]
  · have hp : 0 < min c.maxFrameSize size := by omega
    simp [hle, hp]

theorem findMaxFrameSize_ok {c c' : ServerConfiguration} {v : Value}
    (h : findMaxFrameSize c v = .ok c') : ∃ ha, v.number? = some ha ∧
      c' = { c with
        maxFrameSize := min c.maxFrameSize ha
        serverCompatible := c.serverCompatible && decide (0 < min c.maxFrameSize ha) } := by
  cases hv : v.number? with
  | none =>
    simp only [findMaxFrameSize, hv] at h
    cases h
  | some ha =>
    rw [findMaxFrameSize_number hv] at h
    split at h
    · cases h
    · cases h
      exact ⟨ha, rfl, rfl⟩

theorem negotiate_ok {c c' : ServerConfiguration} {versions caps : List Str} {v : Value}
    (h : c.negotiateServerCompatibility versions v caps = .ok c') :
    Negotiated c c' versions v caps := by
  obtain ⟨c₁, h1, h⟩ := bind_eq_ok.mp h
  obtain ⟨c₂, h2, h⟩ := bind_eq_ok.mp h
  obtain ⟨ver, hver, rfl⟩ := checkVersionCompatibility_ok h1
  obtain ⟨ha, hha, rfl⟩ := findMaxFrameSize_ok h2
  cases h
  refine ⟨rfl, rfl, rfl, ⟨ha, hha, rfl⟩, fun hc => ?_⟩
  simp only [findCommonCapabilities, Bool.and_eq_true, decide_eq_true_eq] at hc
  exact ⟨hc.2, ver, hver, hc.1⟩

theorem parseVersion_agent : parseVersion intOfStr SPOE_VERSION = some (2, 0) := by
  decide +kernel

/-- The agent's own version parses; only the announced size can break a negotiation. -/
theorem negotiate_fails {c : ServerConfiguration} (hversion : c.version = SPOE_VERSION)
    {versions caps : List Str} {v : Value} {e : Exc}
    (h : c.negotiateServerCompatibility versions v caps = .error e) :
    e.cls = .typeError ∨ e.cls = .valueError := by
  rcases bind_eq_error.mp h with h | ⟨c₁, -, h⟩
  · simp only [checkVersionCompatibility, hversion, parseVersion_agent] at h
    cases h
  · rcases bind_eq_error.mp h with h | ⟨c₂, -, h⟩
    · cases hv : v.number? with
      | none =>
        simp only [findMaxFrameSize, hv] at h
        cases h
        exact .inl rfl
      | some ha =>
        rw [findMaxFrameSize_number hv] at h
        split at h
        · cases h
          exact .inr rfl
        · cases h
    · cases h

end SpoeForge
