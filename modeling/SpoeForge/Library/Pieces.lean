import Mathlib.Data.List.DropRight

/-!
# Separated pieces

A list cut at a separator, each piece trimmed and the empty pieces dropped. Spaces at
the ends of the list do not count, and joining lists with the separator joins their
pieces, as long as the separator is no space.
-/

namespace Pieces

variable {α : Type} (space : α → Bool)

def trim (s : List α) : List α := (s.dropWhile space).rdropWhile space

/-- The trimmed pieces between separators that are not empty. -/
def pieces [DecidableEq α] (sep : α) (s : List α) : List (List α) :=
  ((s.splitOn sep).map (trim space)).filter fun x => !x.isEmpty

variable {space}

/-! ### Trimming -/

theorem rdropWhile_append {s q : List α} (hq : ∀ c ∈ q, space c = true) :
    (s ++ q).rdropWhile space = s.rdropWhile space := by
  induction q using List.reverseRecOn with
  | nil => rw [List.append_nil]
  | append_singleton q c ih =>
    have hc : space c = true := hq c (by simp)
    rw [← List.append_assoc, List.rdropWhile_concat_pos space _ c hc]
    exact ih fun x hx => hq x (List.mem_append_left _ hx)

theorem trim_append_left {s q : List α} (hq : ∀ c ∈ q, space c = true) :
    trim space (q ++ s) = trim space s := by
  rw [trim, List.dropWhile_append_of_pos hq, trim]

theorem trim_append_right {s q : List α} (hq : ∀ c ∈ q, space c = true) :
    trim space (s ++ q) = trim space s := by
  rw [trim, trim, List.dropWhile_append]
  split
  · rename_i hs
    rw [List.isEmpty_iff] at hs
    have hnil : q.dropWhile space = [] := by
      rw [List.dropWhile_eq_nil_iff]
      exact hq
    rw [hnil, hs]
  · exact rdropWhile_append hq

theorem trim_sublist (s : List α) : (trim space s).Sublist s :=
  (List.rdropWhile_prefix space _).sublist.trans (List.dropWhile_sublist _)

theorem exists_trim (space : α → Bool) (s : List α) : ∃ p q, (∀ c ∈ p, space c = true) ∧
    (∀ c ∈ q, space c = true) ∧ s = p ++ trim space s ++ q := by
  refine ⟨s.takeWhile space, (s.dropWhile space).rtakeWhile space,
    fun c hc => List.mem_takeWhile_imp hc, fun c hc => List.mem_rtakeWhile_imp hc, ?_⟩
  rw [List.append_assoc, trim, List.rdropWhile_append_rtakeWhile, List.takeWhile_append_dropWhile]

theorem trim_trim (s : List α) : trim space (trim space s) = trim space s := by
  obtain ⟨p, q, hp, hq, hs⟩ := exists_trim space s
  calc trim space (trim space s)
      = trim space (p ++ (trim space s ++ q)) := by rw [trim_append_left hp, trim_append_right hq]
    _ = trim space s := by rw [← List.append_assoc, ← hs]

/-! ### Pieces -/

variable [DecidableEq α] {sep : α}

theorem pieces_of_not_mem {s : List α} (h : sep ∉ s) :
    pieces space sep s = [trim space s].filter fun x => !x.isEmpty := by
  rw [pieces, List.splitOn_eq_singleton h]
  rfl

theorem pieces_append_cons (s t : List α) :
    pieces space sep (s ++ sep :: t) = pieces space sep s ++ pieces space sep t := by
  simp only [pieces, List.splitOn_append_cons_self, List.map_append, List.filter_append]

theorem not_mem_of_mem_splitOn {s x : List α} (h : x ∈ s.splitOn sep) : sep ∉ x := by
  induction hk : s.length using Nat.strongRecOn generalizing s with
  | ind k ih =>
    by_cases hs : sep ∈ s
    · obtain ⟨a, b, rfl⟩ := List.append_of_mem hs
      rw [List.length_append, List.length_cons] at hk
      rw [List.splitOn_append_cons_self] at h
      rcases List.mem_append.mp h with h | h
      · exact ih a.length (by omega) h rfl
      · exact ih b.length (by omega) h rfl
    · rw [List.splitOn_eq_singleton hs, List.mem_singleton] at h
      rwa [h]

theorem pieces_surround {p q : List α} (hsep : space sep = false) (hp : ∀ c ∈ p, space c = true)
    (hq : ∀ c ∈ q, space c = true) (s : List α) :
    pieces space sep (p ++ s ++ q) = pieces space sep s := by
  have hnot : ∀ r : List α, (∀ c ∈ r, space c = true) → sep ∉ r := by
    intro r hr hm
    rw [hr sep hm] at hsep
    cases hsep
  induction hk : s.length using Nat.strongRecOn generalizing s p q with
  | ind k ih =>
    by_cases hs : sep ∈ s
    · obtain ⟨a, b, rfl⟩ := List.append_of_mem hs
      rw [List.length_append, List.length_cons] at hk
      have ha := ih a.length (by omega) hp (q := []) (by simp) a rfl
      have hb := ih b.length (by omega) (p := []) (by simp) hq b rfl
      have hcut : p ++ (a ++ sep :: b) ++ q = (p ++ a ++ []) ++ sep :: ([] ++ b ++ q) := by simp
      rw [hcut, pieces_append_cons, ha, hb, pieces_append_cons]
    · have hs' : sep ∉ p ++ s ++ q := by simp [hs, hnot p hp, hnot q hq]
      rw [pieces_of_not_mem hs, pieces_of_not_mem hs', trim_append_right hq, trim_append_left hp]

theorem pieces_trim (hsep : space sep = false) (s : List α) :
    pieces space sep (trim space s) = pieces space sep s := by
  obtain ⟨p, q, hp, hq, hs⟩ := exists_trim space s
  conv => rhs; rw [hs]
  exact (pieces_surround hsep hp hq _).symm

theorem pieces_intercalate (xs : List (List α)) :
    pieces space sep ([sep].intercalate xs) = xs.flatMap (pieces space sep) := by
  induction xs with
  | nil => simp [pieces, trim]
  | cons x xs ih =>
    cases xs with
    | nil => simp
    | cons y ys =>
      rw [List.intercalate_cons_cons, List.append_assoc, List.singleton_append,
        pieces_append_cons, ih]
      simp only [List.flatMap_cons]

theorem pieces_clean {s x : List α} (h : x ∈ pieces space sep s) :
    x ≠ [] ∧ sep ∉ x ∧ trim space x = x := by
  obtain ⟨hx, hne⟩ := List.mem_filter.mp h
  obtain ⟨y, hy, rfl⟩ := List.mem_map.mp hx
  refine ⟨by simpa using hne, fun hm => ?_, trim_trim y⟩
  exact not_mem_of_mem_splitOn hy ((trim_sublist y).subset hm)

theorem mem_of_mem_splitOn {s x : List α} {c : α} (h : x ∈ s.splitOn sep) (hc : c ∈ x) : c ∈ s := by
  induction hk : s.length using Nat.strongRecOn generalizing s with
  | ind k ih =>
    by_cases hs : sep ∈ s
    · obtain ⟨a, b, rfl⟩ := List.append_of_mem hs
      rw [List.length_append, List.length_cons] at hk
      rw [List.splitOn_append_cons_self] at h
      rcases List.mem_append.mp h with h | h
      · exact List.mem_append_left _ (ih a.length (by omega) h rfl)
      · exact List.mem_append_right _ (List.mem_cons_of_mem _ (ih b.length (by omega) h rfl))
    · rw [List.splitOn_eq_singleton hs, List.mem_singleton] at h
      rwa [← h]

theorem mem_of_mem_pieces {s x : List α} {c : α} (h : x ∈ pieces space sep s) (hc : c ∈ x) :
    c ∈ s := by
  obtain ⟨y, hy, rfl⟩ := List.mem_map.mp (List.mem_filter.mp h).1
  exact mem_of_mem_splitOn hy ((trim_sublist y).subset hc)

omit [DecidableEq α] in
theorem mem_intercalate {xs : List (List α)} {c : α} (h : c ∈ [sep].intercalate xs) :
    c = sep ∨ ∃ x ∈ xs, c ∈ x := by
  induction xs with
  | nil => simp at h
  | cons x xs ih =>
    cases xs with
    | nil => exact .inr ⟨x, List.mem_singleton_self _, by simpa using h⟩
    | cons y ys =>
      rw [List.intercalate_cons_cons, List.append_assoc, List.singleton_append] at h
      rcases List.mem_append.mp h with h | h
      · exact .inr ⟨x, List.mem_cons_self .., h⟩
      · rcases List.mem_cons.mp h with h | h
        · exact .inl h
        · rcases ih h with h | ⟨z, hz, hc⟩
          · exact .inl h
          · exact .inr ⟨z, List.mem_cons_of_mem _ hz, hc⟩

theorem pieces_of_clean {x : List α} (h : x ≠ [] ∧ sep ∉ x ∧ trim space x = x) :
    pieces space sep x = [x] := by
  rw [pieces_of_not_mem h.2.1, h.2.2]
  simp [h.1]

/-- Lists are the pieces of what joins them exactly when every one is a piece. -/
theorem flatMap_pieces_eq_self {xs : List (List α)} :
    xs.flatMap (pieces space sep) = xs ↔ ∀ x ∈ xs, x ≠ [] ∧ sep ∉ x ∧ trim space x = x := by
  constructor
  · intro h x hx
    rw [← h] at hx
    obtain ⟨y, -, hxy⟩ := List.mem_flatMap.mp hx
    exact pieces_clean hxy
  · intro h
    induction xs with
    | nil => rfl
    | cons x xs ih =>
      rw [List.flatMap_cons, pieces_of_clean (h x (List.mem_cons_self ..)),
        ih fun y hy => h y (List.mem_cons_of_mem _ hy)]
      rfl

end Pieces
