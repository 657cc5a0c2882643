import Mathlib.Data.List.Nodup

/-!
# Insertion-ordered dictionaries

A dictionary keeps its pairs in the order in which the keys were first set; a key
set again keeps its place and takes the new value. No key occurs twice.
-/

/-- A dictionary: its pairs in insertion order. -/
structure Dict (K V : Type) where
  entries : List (K × V)
  nodup : (entries.map Prod.fst).Nodup

namespace Dict

variable {K V : Type}

theorem ext_entries {d e : Dict K V} (h : d.entries = e.entries) : d = e := by
  cases d
  cases e
  cases h
  rfl

instance [DecidableEq K] [DecidableEq V] : DecidableEq (Dict K V) := fun d e =>
  decidable_of_iff (d.entries = e.entries) ⟨ext_entries, fun h => by rw [h]⟩

instance [Repr K] [Repr V] : Repr (Dict K V) := ⟨fun d n => reprPrec d.entries n⟩

def empty : Dict K V := ⟨[], List.nodup_nil⟩

def keys (d : Dict K V) : List K := d.entries.map Prod.fst

variable [DecidableEq K]

/-- `d.get(k)`. -/
def get? (d : Dict K V) (k : K) : Option V := d.entries.lookup k

/-- `k in d`. -/
def contains (d : Dict K V) (k : K) : Bool := decide (k ∈ d.keys)

/-- The pairs after `d[k] = v`. -/
def setEntries (k : K) (v : V) : List (K × V) → List (K × V)
  | [] => [(k, v)]
  | (k', v') :: rest => if k' = k then (k, v) :: rest else (k', v') :: setEntries k v rest

theorem setEntries_keys_of_mem (k : K) (v : V) (l : List (K × V)) (h : k ∈ l.map Prod.fst) :
    (setEntries k v l).map Prod.fst = l.map Prod.fst := by
  induction l with
  | nil => simp at h
  | cons p l ih =>
    obtain ⟨k', v'⟩ := p
    by_cases hk : k' = k
    · simp [setEntries, hk]
    · have hm : k ∈ l.map Prod.fst := by
        simp only [List.map_cons, List.mem_cons] at h
        exact h.resolve_left fun he => hk he.symm
      simp only [setEntries, if_neg hk, List.map_cons, ih hm]

theorem setEntries_of_not_mem (k : K) (v : V) (l : List (K × V)) (h : k ∉ l.map Prod.fst) :
    setEntries k v l = l ++ [(k, v)] := by
  induction l with
  | nil => rfl
  | cons p l ih =>
    obtain ⟨k', v'⟩ := p
    simp only [List.map_cons, List.mem_cons, not_or] at h
    simp only [setEntries, if_neg (Ne.symm h.1), ih h.2, List.cons_append]

theorem setEntries_nodup (k : K) (v : V) (l : List (K × V)) (h : (l.map Prod.fst).Nodup) :
    ((setEntries k v l).map Prod.fst).Nodup := by
  by_cases hm : k ∈ l.map Prod.fst
  · rw [setEntries_keys_of_mem k v l hm]
    exact h
  · rw [setEntries_of_not_mem k v l hm, List.map_append, List.map_cons, List.map_nil]
    exact List.nodup_append.mpr ⟨h, List.nodup_singleton _, by
      intro a ha b hb
      rw [List.mem_singleton] at hb
      subst hb
      exact fun he => hm (he ▸ ha)⟩

/-- `d[k] = v`. -/
def set (d : Dict K V) (k : K) (v : V) : Dict K V :=
  ⟨setEntries k v d.entries, setEntries_nodup k v d.entries d.nodup⟩

/-- The dictionary displayed as `{k1: v1, k2: v2, ...}`. -/
def ofPairs (l : List (K × V)) : Dict K V := l.foldl (fun d p => d.set p.1 p.2) empty

theorem set_entries_of_not_mem (d : Dict K V) (k : K) (v : V) (h : k ∉ d.keys) :
    (d.set k v).entries = d.entries ++ [(k, v)] := setEntries_of_not_mem k v d.entries h

theorem foldl_set_entries (l : List (K × V)) (d : Dict K V)
    (h : ((d.entries ++ l).map Prod.fst).Nodup) :
    (l.foldl (fun d p => d.set p.1 p.2) d).entries = d.entries ++ l := by
  induction l generalizing d with
  | nil => simp
  | cons p l ih =>
    have hp : p.1 ∉ d.keys := by
      rw [List.map_append, List.map_cons] at h
      have hd := (List.nodup_append.mp h).2.2
      exact fun hm => hd p.1 hm p.1 (List.mem_cons_self ..) rfl
    have he := set_entries_of_not_mem d p.1 p.2 hp
    rw [List.foldl_cons, ih (d.set p.1 p.2) (by rw [he]; simpa using h), he]
    simp

theorem ofPairs_entries (l : List (K × V)) (h : (l.map Prod.fst).Nodup) :
    (ofPairs l).entries = l := by
  have hl := foldl_set_entries l (empty : Dict K V) (by simpa [empty] using h)
  simpa [ofPairs, empty] using hl

theorem ofPairs_self (d : Dict K V) : ofPairs d.entries = d :=
  ext_entries (ofPairs_entries d.entries d.nodup)

theorem lookup_setEntries (k : K) (v : V) (l : List (K × V)) (k' : K) :
    (setEntries k v l).lookup k' = if k' = k then some v else l.lookup k' := by
  induction l with
  | nil =>
    by_cases h : k' = k
    · simp [setEntries, h]
    · have hne : (k' == k) = false := by simpa using h
      simp [setEntries, List.lookup_cons, hne, h]
  | cons p l ih =>
    obtain ⟨a, b⟩ := p
    by_cases ha : a = k
    · subst ha
      by_cases h : k' = a
      · simp [setEntries, h]
      · have hne : (k' == a) = false := by simpa using h
        simp [setEntries, List.lookup_cons, hne, h]
    · by_cases h : k' = k
      · subst h
        simp only [setEntries, if_neg ha, List.lookup_cons, ih, if_true]
        have hne : (k' == a) = false := by simpa using Ne.symm ha
        simp [hne]
      · simp only [setEntries, if_neg ha, List.lookup_cons, ih, if_neg h]

theorem lookup_of_mem {l : List (K × V)} {k : K} {v : V} (hnodup : (l.map Prod.fst).Nodup)
    (h : (k, v) ∈ l) : l.lookup k = some v := by
  induction l with
  | nil => cases h
  | cons p l ih =>
    obtain ⟨k', v'⟩ := p
    rw [List.map_cons, List.nodup_cons] at hnodup
    rcases List.mem_cons.mp h with he | hm
    · cases he
      simp
    · have hkeys : k ∈ l.map Prod.fst := List.mem_map.mpr ⟨(k, v), hm, rfl⟩
      have hne : k ≠ k' := fun he => hnodup.1 (he ▸ hkeys)
      rw [List.lookup_cons, beq_eq_false_iff_ne.mpr hne]
      exact ih hnodup.2 hm

theorem get?_of_mem {d : Dict K V} {k : K} {v : V} (h : (k, v) ∈ d.entries) :
    d.get? k = some v := lookup_of_mem d.nodup h

theorem mem_of_get? {d : Dict K V} {k : K} {v : V} (h : d.get? k = some v) : (k, v) ∈ d.entries := by
  obtain ⟨l, r, hl, -⟩ := List.lookup_eq_some_iff.mp h
  rw [hl]
  exact List.mem_append_right _ (List.mem_cons_self ..)

theorem mem_setEntries {k : K} {v : V} {l : List (K × V)} {e : K × V}
    (h : e ∈ setEntries k v l) : e = (k, v) ∨ e ∈ l := by
  induction l with
  | nil => exact .inl (List.mem_singleton.mp h)
  | cons p l ih =>
    obtain ⟨k', v'⟩ := p
    by_cases hk : k' = k
    · rw [setEntries, if_pos hk] at h
      rcases List.mem_cons.mp h with h | h
      · exact .inl h
      · exact .inr (List.mem_cons_of_mem _ h)
    · rw [setEntries, if_neg hk] at h
      rcases List.mem_cons.mp h with h | h
      · exact .inr (h ▸ List.mem_cons_self ..)
      · exact (ih h).imp_right (List.mem_cons_of_mem _)

/-- Every pair of a displayed dictionary is displayed. -/
theorem mem_ofPairs {l : List (K × V)} {e : K × V} (h : e ∈ (ofPairs l).entries) : e ∈ l := by
  have hfold : ∀ (l : List (K × V)) (d : Dict K V),
      e ∈ (l.foldl (fun d p => d.set p.1 p.2) d).entries → e ∈ d.entries ∨ e ∈ l := by
    intro l
    induction l with
    | nil => exact fun d h => .inl h
    | cons p l ih =>
      intro d h
      rcases ih (d.set p.1 p.2) h with h | h
      · rcases mem_setEntries h with rfl | h
        · exact .inr (List.mem_cons_self ..)
        · exact .inl h
      · exact .inr (List.mem_cons_of_mem _ h)
  rcases hfold l empty h with h | h
  · cases h
  · exact h

theorem get?_of_not_mem {d : Dict K V} {k : K} (h : k ∉ d.keys) : d.get? k = none := by
  have hl : ∀ l : List (K × V), k ∉ l.map Prod.fst → l.lookup k = none := by
    intro l hk
    induction l with
    | nil => rfl
    | cons p l ih =>
      simp only [List.map_cons, List.mem_cons, not_or] at hk
      rw [List.lookup_cons, beq_eq_false_iff_ne.mpr hk.1]
      exact ih hk.2
  exact hl d.entries h

@[simp] theorem get?_set (d : Dict K V) (k : K) (v : V) (k' : K) :
    (d.set k v).get? k' = if k' = k then some v else d.get? k' :=
  lookup_setEntries k v d.entries k'

@[simp] theorem get?_empty (k : K) : (empty : Dict K V).get? k = none := rfl

end Dict
