import Mathlib.Data.List.Basic

/-!
# Runs of a state machine

A machine is a partial step function on states and events. A run follows a list of
events. This module has the rules that carry a property of one step over whole
runs: invariants, invariants of the runs whose steps all meet a condition, and
simulations of one machine by another.
-/

namespace Runs

variable {σ ε τ δ : Type}

/-- The state after the events, if every step is enabled. -/
def run (step : σ → ε → Option σ) (s : σ) : List ε → Option σ
  | [] => some s
  | e :: es => (step s e).bind fun s' => run step s' es

@[simp] theorem run_nil (step : σ → ε → Option σ) (s : σ) : run step s [] = some s := rfl

theorem run_cons_eq_some {step : σ → ε → Option σ} {s s' : σ} {e : ε} {es : List ε} :
    run step s (e :: es) = some s' ↔ ∃ m, step s e = some m ∧ run step m es = some s' :=
  Option.bind_eq_some_iff

theorem run_append {step : σ → ε → Option σ} {s m s' : σ} {es fs : List ε}
    (h : run step s es = some m) (h' : run step m fs = some s') :
    run step s (es ++ fs) = some s' := by
  induction es generalizing s with
  | nil =>
    cases h
    exact h'
  | cons e es ih =>
    obtain ⟨x, hx, hr⟩ := run_cons_eq_some.mp h
    exact run_cons_eq_some.mpr ⟨x, hx, ih hr⟩

/-- `s'` occurs on a run from `s`. -/
def Reaches (step : σ → ε → Option σ) (s s' : σ) : Prop := ∃ es, run step s es = some s'

/-- Every step of the run meets the condition on the state before it and its event. -/
def Along (step : σ → ε → Option σ) (C : σ → ε → Prop) (s : σ) : List ε → Prop
  | [] => True
  | e :: es => C s e ∧ ∀ s', step s e = some s' → Along step C s' es

theorem Along.cons {step : σ → ε → Option σ} {C : σ → ε → Prop} {s s' : σ} {e : ε} {es : List ε}
    (hc : C s e) (hs : step s e = some s') (h : Along step C s' es) :
    Along step C s (e :: es) := by
  refine ⟨hc, fun m hm => ?_⟩
  rw [hs] at hm
  cases hm
  exact h

/-- A run given by its states, one before each event and one after the last. -/
theorem along_of_states {step : σ → ε → Option σ} {C : σ → ε → Prop} {es : List ε} (state : ℕ → σ)
    (hstep : ∀ n (h : n < es.length), step (state n) es[n] = some (state (n + 1)))
    (hc : ∀ n (h : n < es.length), C (state n) es[n]) : Along step C (state 0) es := by
  induction es generalizing state with
  | nil => trivial
  | cons e es ih =>
    refine .cons (hc 0 (Nat.zero_lt_succ _)) (hstep 0 (Nat.zero_lt_succ _)) ?_
    exact ih (fun n => state (n + 1)) (fun n h => hstep (n + 1) (Nat.succ_lt_succ h))
      fun n h => hc (n + 1) (Nat.succ_lt_succ h)

theorem Reaches.refl (step : σ → ε → Option σ) (s : σ) : Reaches step s s := ⟨[], rfl⟩

theorem Reaches.tail {step : σ → ε → Option σ} {s m s' : σ} {e : ε} (h : Reaches step s m)
    (hs : step m e = some s') : Reaches step s s' := by
  obtain ⟨es, hr⟩ := h
  exact ⟨es ++ [e], run_append hr (run_cons_eq_some.mpr ⟨s', hs, rfl⟩)⟩

theorem Reaches.append {step : σ → ε → Option σ} {s m s' : σ} {es : List ε}
    (h : Reaches step s m) (hr : run step m es = some s') : Reaches step s s' := by
  obtain ⟨before, hb⟩ := h
  exact ⟨before ++ es, run_append hb hr⟩

/-- A property that every step meeting the condition keeps holds along every run whose
steps meet the condition. -/
theorem invariant_along {step : σ → ε → Option σ} {C : σ → ε → Prop} {Inv : σ → Prop} {s₀ : σ}
    (hstep : ∀ s e s', Reaches step s₀ s → Inv s → C s e → step s e = some s' → Inv s')
    (h₀ : Inv s₀) {s' : σ} {es : List ε} (hc : Along step C s₀ es)
    (h : run step s₀ es = some s') : Inv s' := by
  have hgo : ∀ s, Reaches step s₀ s → Inv s → Along step C s es → run step s es = some s' →
      Inv s' := by
    clear hc h
    induction es with
    | nil =>
      intro s _ hs _ h
      cases h
      exact hs
    | cons e es ih =>
      intro s hr hs hc h
      obtain ⟨m, hm, h⟩ := run_cons_eq_some.mp h
      exact ih m (hr.tail hm) (hstep s e m hr hs hc.1 hm) (hc.2 m hm) h
  exact hgo s₀ (Reaches.refl step s₀) h₀ hc h

theorem along_true (step : σ → ε → Option σ) (s : σ) (es : List ε) :
    Along step (fun _ _ => True) s es := by
  induction es generalizing s with
  | nil => trivial
  | cons e es ih => exact ⟨trivial, fun m _ => ih m⟩

theorem invariant {step : σ → ε → Option σ} {Inv : σ → Prop} {s₀ : σ}
    (hstep : ∀ s e s', Reaches step s₀ s → Inv s → step s e = some s' → Inv s') (h₀ : Inv s₀)
    {s' : σ} (h : Reaches step s₀ s') : Inv s' := by
  obtain ⟨es, hr⟩ := h
  exact invariant_along (fun s e m hs hi _ hm => hstep s e m hs hi hm) h₀ (along_true step s₀ es) hr

theorem along_of_forall {step : σ → ε → Option σ} {C : σ → ε → Prop} {s : σ} {es : List ε}
    (h : ∀ e ∈ es, ∀ s, C s e) : Along step C s es := by
  induction es generalizing s with
  | nil => trivial
  | cons e es ih =>
    exact ⟨h e (List.mem_cons_self ..) s, fun _ _ => ih fun d hd => h d (List.mem_cons_of_mem _ hd)⟩

theorem Along.and {step : σ → ε → Option σ} {C D : σ → ε → Prop} {s : σ} {es : List ε}
    (hc : Along step C s es) (hd : Along step D s es) :
    Along step (fun s e => C s e ∧ D s e) s es := by
  induction es generalizing s with
  | nil => trivial
  | cons e es ih => exact ⟨⟨hc.1, hd.1⟩, fun m hm => ih (hc.2 m hm) (hd.2 m hm)⟩

theorem Along.append {step : σ → ε → Option σ} {C : σ → ε → Prop} {s m : σ} {es fs : List ε}
    (h : Along step C s es) (hr : run step s es = some m) (h' : Along step C m fs) :
    Along step C s (es ++ fs) := by
  induction es generalizing s with
  | nil =>
    cases hr
    exact h'
  | cons e es ih =>
    obtain ⟨x, hx, hr⟩ := run_cons_eq_some.mp hr
    exact .cons h.1 hx (ih (h.2 x hx) hr)

/-- A run has at most as many counted events as a measure falls along it, if every counted
event lowers the measure and no event raises it. -/
theorem countP_add_le {step : σ → ε → Option σ} {counted : ε → Bool} {left : σ → ℕ}
    (hstep : ∀ s e s', step s e = some s' → left s' + (counted e).toNat ≤ left s) {s s' : σ}
    {es : List ε} (h : run step s es = some s') : es.countP counted + left s' ≤ left s := by
  induction es generalizing s with
  | nil =>
    cases h
    simp
  | cons e es ih =>
    obtain ⟨m, hm, h⟩ := run_cons_eq_some.mp h
    have hfirst := hstep s e m hm
    have hrest := ih h
    rw [List.countP_cons]
    cases hc : counted e <;> simp only [hc, Bool.toNat_true, Bool.toNat_false] at hfirst <;>
      simp <;> omega

/-- If from every good state that is not done some event with the property gives a good state
and lowers the measure, a run of such events ends in a done state. -/
theorem exists_run_done {step : σ → ε → Option σ} {D : ε → Prop} {Good Done : σ → Prop}
    {left : σ → ℕ} (hstep : ∀ s, Good s → ¬Done s →
      ∃ e s', D e ∧ step s e = some s' ∧ Good s' ∧ left s' < left s) {s : σ} (h : Good s) :
    ∃ es s', (∀ e ∈ es, D e) ∧ run step s es = some s' ∧ Good s' ∧ Done s' ∧
      es.length ≤ left s := by
  induction hk : left s using Nat.strongRecOn generalizing s with
  | ind k ih =>
    by_cases hd : Done s
    · exact ⟨[], s, List.forall_mem_nil _, rfl, h, hd, Nat.zero_le _⟩
    · obtain ⟨e, m, he, hm, hgood, hlt⟩ := hstep s h hd
      obtain ⟨es, s', hes, hr, hgood', hd', hlen⟩ := ih (left m) (by omega) hgood rfl
      refine ⟨e :: es, s', List.forall_mem_cons.mpr ⟨he, hes⟩,
        run_cons_eq_some.mpr ⟨m, hm, hr⟩, hgood', hd', ?_⟩
      rw [List.length_cons]
      omega

/-- Every step of the first machine that meets its condition is matched by a run of the
second one whose steps meet theirs. -/
def Simulates (step : σ → ε → Option σ) (C : σ → ε → Prop) (step' : τ → δ → Option τ)
    (D : τ → δ → Prop) (R : σ → τ → Prop) : Prop :=
  ∀ s e s' t, R s t → C s e → step s e = some s' →
    ∃ ds t', Along step' D t ds ∧ run step' t ds = some t' ∧ R s' t'

/-- A simulation of steps is one of runs. -/
theorem Simulates.run {step : σ → ε → Option σ} {C : σ → ε → Prop} {step' : τ → δ → Option τ}
    {D : τ → δ → Prop} {R : σ → τ → Prop} (h : Simulates step C step' D R) {s s' : σ} {t : τ}
    {es : List ε} (hR : R s t) (hc : Along step C s es) (hr : run step s es = some s') :
    ∃ ds t', Along step' D t ds ∧ Runs.run step' t ds = some t' ∧ R s' t' := by
  induction es generalizing s t with
  | nil =>
    cases hr
    exact ⟨[], t, trivial, rfl, hR⟩
  | cons e es ih =>
    obtain ⟨m, hm, hr⟩ := run_cons_eq_some.mp hr
    obtain ⟨ds, u, hd, hu, hRu⟩ := h s e m t hR hc.1 hm
    obtain ⟨ds', t', hd', ht', hR'⟩ := ih hRu (hc.2 m hm) hr
    exact ⟨ds ++ ds', t', hd.append hu hd', run_append hu ht', hR'⟩

end Runs
