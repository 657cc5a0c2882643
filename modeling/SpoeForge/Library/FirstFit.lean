import Mathlib.Algebra.BigOperators.Group.List.Basic
import Mathlib.Algebra.GroupWithZero.Nat

/-!
# First fit under a budget

Items are taken in order; one is kept when it has a size and that size fits what the
items kept before have left of the budget.
-/

namespace FirstFit

variable {α : Type} (size : α → Option ℕ)

/-- The items kept. -/
def keep : ℕ → List α → List α
  | _, [] => []
  | budget, a :: as =>
    match size a with
    | none => keep budget as
    | some n => if n ≤ budget then a :: keep (budget - n) as else keep budget as

/-- The items dropped. -/
def dropped : ℕ → List α → List α
  | _, [] => []
  | budget, a :: as =>
    match size a with
    | none => a :: dropped budget as
    | some n => if n ≤ budget then dropped (budget - n) as else a :: dropped budget as

/-- The sum of the sizes; an item without a size counts nothing. -/
def total (as : List α) : ℕ := (as.filterMap size).sum

variable {size}

theorem total_cons_some {a : α} {n : ℕ} (h : size a = some n) (as : List α) :
    total size (a :: as) = n + total size as := by
  simp [total, h]

theorem total_append_singleton {a : α} {n : ℕ} (h : size a = some n) (as : List α) :
    total size (as ++ [a]) = total size as + n := by
  simp [total, h]

theorem keep_sublist (budget : ℕ) (as : List α) : (keep size budget as).Sublist as := by
  induction as generalizing budget with
  | nil => exact List.Sublist.refl _
  | cons a as ih =>
    unfold keep
    split
    · exact (ih budget).cons a
    · split
      · exact (ih _).cons_cons a
      · exact (ih budget).cons a

theorem keep_isSome (budget : ℕ) (as : List α) : ∀ a ∈ keep size budget as, (size a).isSome := by
  induction as generalizing budget with
  | nil => simp [keep]
  | cons a as ih =>
    unfold keep
    split
    · exact ih budget
    · rename_i n hn
      split
      · intro b hb
        rcases List.mem_cons.mp hb with rfl | hb
        · rw [hn]
          rfl
        · exact ih _ b hb
      · exact ih budget

theorem total_keep_le (budget : ℕ) (as : List α) : total size (keep size budget as) ≤ budget := by
  induction as generalizing budget with
  | nil => simp [keep, total]
  | cons a as ih =>
    unfold keep
    split
    · exact ih budget
    · rename_i n hn
      split
      · rw [total_cons_some hn]
        have hrest := ih (budget - n)
        omega
      · exact ih budget

theorem keep_eq_self {budget : ℕ} {as : List α} (hsome : ∀ a ∈ as, (size a).isSome)
    (hfit : total size as ≤ budget) : keep size budget as = as := by
  induction as generalizing budget with
  | nil => rfl
  | cons a as ih =>
    obtain ⟨n, hn⟩ := Option.isSome_iff_exists.mp (hsome a (List.mem_cons_self ..))
    rw [total_cons_some hn] at hfit
    have hle : n ≤ budget := by omega
    simp only [keep, hn, if_pos hle]
    rw [ih (fun b hb => hsome b (List.mem_cons_of_mem _ hb)) (by omega)]

theorem dropped_sublist (budget : ℕ) (as : List α) : (dropped size budget as).Sublist as := by
  induction as generalizing budget with
  | nil => exact List.Sublist.refl _
  | cons a as ih =>
    unfold dropped
    split
    · exact (ih budget).cons_cons a
    · split
      · exact (ih _).cons a
      · exact (ih budget).cons_cons a

theorem dropped_eq_nil {budget : ℕ} {as : List α} (hsome : ∀ a ∈ as, (size a).isSome)
    (hfit : total size as ≤ budget) : dropped size budget as = [] := by
  induction as generalizing budget with
  | nil => rfl
  | cons a as ih =>
    obtain ⟨n, hn⟩ := Option.isSome_iff_exists.mp (hsome a (List.mem_cons_self ..))
    rw [total_cons_some hn] at hfit
    have hle : n ≤ budget := by omega
    simp only [dropped, hn, if_pos hle]
    exact ih (fun b hb => hsome b (List.mem_cons_of_mem _ hb)) (by omega)

/-- The second list is picked from the first in order, after `before` was; what is not picked is
excluded by what was picked before it. -/
inductive Selects (excluded : List α → α → Prop) : List α → List α → List α → Prop
  | nil (before : List α) : Selects excluded before [] []
  | pick {before as kept : List α} (a : α) (h : Selects excluded (before ++ [a]) as kept) :
      Selects excluded before (a :: as) (a :: kept)
  | drop {before as kept : List α} {a : α} (hex : excluded before a)
      (h : Selects excluded before as kept) : Selects excluded before (a :: as) kept

/-- First fit drops what has no size and what does not fit with the items kept before it. -/
theorem keep_selects {excluded : List α → α → Prop} {budget : ℕ}
    (hnone : ∀ before a, size a = none → excluded before a)
    (hbig : ∀ before a n, (∀ b ∈ before, (size b).isSome) → size a = some n →
      budget < total size before + n → excluded before a)
    (as : List α) {before : List α} (hsome : ∀ b ∈ before, (size b).isSome)
    (hle : total size before ≤ budget) :
    Selects excluded before as (keep size (budget - total size before) as) := by
  induction as generalizing before with
  | nil => exact .nil before
  | cons a as ih =>
    cases ha : size a with
    | none =>
      simp only [keep, ha]
      exact .drop (hnone before a ha) (ih hsome hle)
    | some n =>
      simp only [keep, ha]
      by_cases hn : n ≤ budget - total size before
      · have hmore : ∀ b ∈ before ++ [a], (size b).isSome := by
          intro b hb
          rcases List.mem_append.mp hb with hb | hb
          · exact hsome b hb
          · rw [List.mem_singleton.mp hb, ha]
            rfl
        have hrest := ih hmore (by rw [total_append_singleton ha]; omega)
        rw [total_append_singleton ha, ← Nat.sub_sub] at hrest
        rw [if_pos hn]
        exact .pick a hrest
      · rw [if_neg hn]
        exact .drop (hbig before a n hsome ha (by omega)) (ih hsome hle)

end FirstFit
