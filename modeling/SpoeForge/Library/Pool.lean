import SpoeForge.Library.Runs

/-!
# Pools of machines

Any number of copies of one machine, each started on an input of its own, taking their
steps in any order. Every member is in a state that its machine reaches alone, by the
events of the pool that are its own; so what holds on all runs of the machine holds of
every member.
-/

namespace Pool

open Runs

variable {ι σ ε : Type}

/-- A member is started on an input, or member `k` takes a step. -/
inductive Event (ι ε : Type) where
  | start (input : ι)
  | member (k : ℕ) (e : ε)

def step (spawn : ι → σ) (step : σ → ε → Option σ) (p : List (ι × σ)) :
    Event ι ε → Option (List (ι × σ))
  | .start input => some (p ++ [(input, spawn input)])
  | .member k e =>
    match p[k]? with
    | none => none
    | some (input, s) => (step s e).map fun s' => p.set k (input, s')

/-- The steps of the members meet the condition. -/
def Each (C : σ → ε → Prop) (p : List (ι × σ)) : Event ι ε → Prop
  | .start _ => True
  | .member k e => ∀ input s, p[k]? = some (input, s) → C s e

/-- Every member has a run of its own machine. -/
def OwnRuns (spawn : ι → σ) (step : σ → ε → Option σ) (C : σ → ε → Prop) (p : List (ι × σ)) :
    Prop :=
  ∀ q ∈ p, ∃ es, Along step C (spawn q.1) es ∧ run step (spawn q.1) es = some q.2

theorem OwnRuns.step {spawn : ι → σ} {step : σ → ε → Option σ} {C : σ → ε → Prop}
    {p p' : List (ι × σ)} {ev : Event ι ε} (h : OwnRuns spawn step C p) (hc : Each C p ev)
    (hs : Pool.step spawn step p ev = some p') : OwnRuns spawn step C p' := by
  cases ev with
  | start input =>
    cases hs
    exact List.forall_mem_append.mpr ⟨h, List.forall_mem_singleton.mpr ⟨[], trivial, rfl⟩⟩
  | member k e =>
    simp only [Pool.step] at hs
    split at hs
    · cases hs
    · rename_i input s hk
      obtain ⟨s', hs', rfl⟩ := Option.map_eq_some_iff.mp hs
      obtain ⟨es, hal, hrun⟩ := h _ (List.mem_of_getElem? hk)
      intro q hq
      rcases List.mem_or_eq_of_mem_set hq with hq | rfl
      · exact h q hq
      · exact ⟨es ++ [e], hal.append hrun ⟨hc input s hk, fun _ _ => trivial⟩,
          run_append hrun (run_cons_eq_some.mpr ⟨s', hs', rfl⟩)⟩

theorem member_run {spawn : ι → σ} {step : σ → ε → Option σ} {C : σ → ε → Prop}
    {evs : List (Event ι ε)} {p : List (ι × σ)} {k : ℕ} {input : ι} {s : σ}
    (hc : Along (Pool.step spawn step) (Each C) [] evs)
    (hr : run (Pool.step spawn step) [] evs = some p) (hk : p[k]? = some (input, s)) :
    ∃ es, Along step C (spawn input) es ∧ run step (spawn input) es = some s :=
  invariant_along (fun _ _ _ _ hi hcond hs => OwnRuns.step hi hcond hs)
    (List.forall_mem_nil _) hc hr (input, s) (List.mem_of_getElem? hk)

end Pool
