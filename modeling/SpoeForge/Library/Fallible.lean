import Mathlib.Data.List.Forall2

/-!
# Fallible computations

Inversion of a bind in `Except`, and the loop that appends what an encoder gives
for each item of a list, stopping at the first item it refuses.
-/

namespace Fallible

variable {ε α β γ : Type}

theorem bind_eq_ok {x : Except ε α} {f : α → Except ε γ} {r : γ} :
    (x >>= f) = .ok r ↔ ∃ a, x = .ok a ∧ f a = .ok r := by
  cases x with
  | error e => simp [bind, Except.bind]
  | ok a => simp [bind, Except.bind]

theorem bind_eq_error {x : Except ε α} {f : α → Except ε γ} {e : ε} :
    (x >>= f) = .error e ↔ x = .error e ∨ ∃ a, x = .ok a ∧ f a = .error e := by
  cases x with
  | error e' => simp [bind, Except.bind]
  | ok a => simp [bind, Except.bind]

@[simp] theorem ok_bind (a : α) (f : α → Except ε γ) : ((Except.ok a : Except ε α) >>= f) = f a :=
  rfl

@[simp] theorem error_bind (e : ε) (f : α → Except ε γ) :
    ((Except.error e : Except ε α) >>= f) = .error e := rfl

/-- Every failure of `x` lies in `K`. -/
def FailsWithin (K : ε → Prop) (x : Except ε α) : Prop := ∀ e, x = .error e → K e

instance (K : ε → Prop) [DecidablePred K] (x : Except ε α) : Decidable (FailsWithin K x) :=
  match x with
  | .ok _ => isTrue fun _ h => by cases h
  | .error e => decidable_of_iff (K e) ⟨fun h _ he => by cases he; exact h, fun h => h e rfl⟩

theorem FailsWithin.ok (K : ε → Prop) (a : α) : FailsWithin K (.ok a) := by
  intro e h
  cases h

theorem FailsWithin.error {K : ε → Prop} {e : ε} (h : K e) :
    FailsWithin K (.error e : Except ε α) := by
  intro e' he
  cases he
  exact h

theorem FailsWithin.bind {K : ε → Prop} {x : Except ε α} {f : α → Except ε γ}
    (hx : FailsWithin K x) (hf : ∀ a, x = .ok a → FailsWithin K (f a)) :
    FailsWithin K (x >>= f) := by
  intro e he
  rcases bind_eq_error.mp he with h | ⟨a, ha, h⟩
  · exact hx e h
  · exact hf a ha e h

theorem failsWithin_bind {K : ε → Prop} {x : Except ε α} {f : α → Except ε γ} :
    FailsWithin K (x >>= f) ↔ FailsWithin K x ∧ ∀ a, x = .ok a → FailsWithin K (f a) := by
  refine ⟨fun h => ⟨fun e he => ?_, fun a ha e he => ?_⟩, fun h => h.1.bind h.2⟩
  · exact h e (bind_eq_error.mpr (.inl he))
  · exact h e (bind_eq_error.mpr (.inr ⟨a, ha, he⟩))

theorem failsWithin_ok (K : ε → Prop) (a : α) : FailsWithin K (.ok a) ↔ True :=
  iff_true_intro (FailsWithin.ok K a)

theorem failsWithin_error {K : ε → Prop} {e : ε} :
    FailsWithin K (.error e : Except ε α) ↔ K e :=
  ⟨fun h => h e rfl, FailsWithin.error⟩

theorem FailsWithin.mono {K L : ε → Prop} {x : Except ε α} (hx : FailsWithin K x)
    (h : ∀ e, K e → L e) : FailsWithin L x := fun e he => h e (hx e he)

/-! ### Appending encodings -/

/-- `out = []; for a in as: out.extend(f(a))`. -/
def extendAll (f : α → Except ε (List β)) : List α → Except ε (List β)
  | [] => .ok []
  | a :: as => do
    let x ← f a
    let rest ← extendAll f as
    .ok (x ++ rest)

theorem extendAll_cons_ok {f : α → Except ε (List β)} {a : α} {as : List α} {out : List β} :
    extendAll f (a :: as) = .ok out ↔
      ∃ x rest, f a = .ok x ∧ extendAll f as = .ok rest ∧ out = x ++ rest := by
  constructor
  · intro h
    obtain ⟨x, hx, h⟩ := bind_eq_ok.mp h
    obtain ⟨rest, hrest, h⟩ := bind_eq_ok.mp h
    cases h
    exact ⟨x, rest, hx, hrest, rfl⟩
  · rintro ⟨x, rest, hx, hrest, rfl⟩
    simp only [extendAll, hx, hrest, ok_bind]

theorem extendAll_snoc {f : α → Except ε (List β)} {as : List α} {a : α} {out x : List β}
    (h : extendAll f as = .ok out) (ha : f a = .ok x) : extendAll f (as ++ [a]) = .ok (out ++ x) := by
  induction as generalizing out with
  | nil =>
    cases h
    exact extendAll_cons_ok.mpr ⟨x, [], ha, rfl, (List.append_nil x).symm⟩
  | cons b as ih =>
    obtain ⟨y, rest, hy, hrest, rfl⟩ := extendAll_cons_ok.mp h
    exact extendAll_cons_ok.mpr ⟨y, rest ++ x, hy, ih hrest, List.append_assoc y rest x⟩

theorem extendAll_flatten {f : α → Except ε (List β)} {as : List α} {out : List β}
    (h : extendAll f as = .ok out) :
    ∃ xs, List.Forall₂ (fun a x => f a = .ok x) as xs ∧ out = xs.flatten := by
  induction as generalizing out with
  | nil =>
    cases h
    exact ⟨[], .nil, rfl⟩
  | cons a as ih =>
    obtain ⟨x, rest, hx, hrest, rfl⟩ := extendAll_cons_ok.mp h
    obtain ⟨xs, hxs, rfl⟩ := ih hrest
    exact ⟨x :: xs, .cons hx hxs, rfl⟩

theorem extendAll_isOk {f : α → Except ε (List β)} {as : List α} :
    (∃ out, extendAll f as = .ok out) ↔ ∀ a ∈ as, ∃ x, f a = .ok x := by
  induction as with
  | nil => simp [extendAll]
  | cons a as ih =>
    simp only [extendAll_cons_ok, List.forall_mem_cons, ← ih]
    constructor
    · rintro ⟨out, x, rest, hx, hrest, -⟩
      exact ⟨⟨x, hx⟩, ⟨rest, hrest⟩⟩
    · rintro ⟨⟨x, hx⟩, ⟨rest, hrest⟩⟩
      exact ⟨x ++ rest, x, rest, hx, hrest, rfl⟩

theorem extendAll_failsWithin {K : ε → Prop} {f : α → Except ε (List β)} {as : List α}
    (h : ∀ a ∈ as, FailsWithin K (f a)) : FailsWithin K (extendAll f as) := by
  induction as with
  | nil => exact FailsWithin.ok K []
  | cons a as ih =>
    have ha : FailsWithin K (f a) := h a (List.mem_cons_self ..)
    have has : FailsWithin K (extendAll f as) := ih fun b hb => h b (List.mem_cons_of_mem _ hb)
    exact ha.bind fun x _ => has.bind fun rest _ => FailsWithin.ok K _

section Expected

variable {f : α → Except ε (List β)} {g : α → List β}

theorem extendAll_length_le (h : ∀ a x, f a = .ok x → x = g a ∨ x = []) {as : List α}
    {out : List β} (hout : extendAll f as = .ok out) : out.length ≤ (as.flatMap g).length := by
  induction as generalizing out with
  | nil =>
    cases hout
    exact Nat.le_refl _
  | cons a as ih =>
    obtain ⟨x, rest, hx, hrest, rfl⟩ := extendAll_cons_ok.mp hout
    have hr := ih hrest
    rw [List.flatMap_cons, List.length_append, List.length_append]
    rcases h a x hx with rfl | rfl
    · omega
    · rw [List.length_nil]
      omega

/-- Where every part is the one expected or empty, the whole is the one expected only if every
part is. -/
theorem extendAll_eq_flatMap_iff (h : ∀ a x, f a = .ok x → x = g a ∨ x = []) {as : List α} :
    extendAll f as = .ok (as.flatMap g) ↔ ∀ a ∈ as, f a = .ok (g a) := by
  induction as with
  | nil => simp [extendAll]
  | cons a as ih =>
    rw [List.flatMap_cons, extendAll_cons_ok, List.forall_mem_cons, ← ih]
    constructor
    · rintro ⟨x, rest, hx, hrest, he⟩
      rcases h a x hx with rfl | rfl
      · rw [List.append_cancel_left he]
        exact ⟨hx, hrest⟩
      · -- an empty part in place of the expected one would make the whole too short
        have hlen := congrArg List.length he
        have hr := extendAll_length_le h hrest
        simp only [List.length_append, List.length_nil] at hlen
        have hga : g a = [] := List.length_eq_zero_iff.mp (by omega)
        rw [hga] at he ⊢
        rw [List.nil_append, List.nil_append] at he
        rw [he]
        exact ⟨hx, hrest⟩
    · rintro ⟨hx, hrest⟩
      exact ⟨_, _, hx, hrest, rfl⟩

end Expected

end Fallible
