import SpoeForge.Library.Pieces
import SpoeForge.Frame

/-!
# Comma-separated lists (`frame.py:294-312`)

`from_spop_list` gives the pieces of a text; joining the stripped items loses none of
theirs, and a list comes back as it was exactly when each item is a piece.
-/

namespace SpoeForge

open Pieces

theorem isSpace_comma : isSpace ',' = false := by decide

theorem fromSpopList_eq (s : Str) : fromSpopList s = pieces isSpace ',' s := by
  have hkeep : (fun item => if (strip item).isEmpty then none else some (strip item)) =
      Option.guard (fun x : Str => !x.isEmpty) ∘ strip := by
    funext item
    cases h : (strip item).isEmpty <;> simp [Option.guard, h]
  calc fromSpopList s
      = (s.splitOn ',').filterMap (Option.guard (fun x => !x.isEmpty) ∘ strip) := by
        rw [← hkeep]
        rfl
    _ = pieces isSpace ',' s := by
        rw [← List.filterMap_map, List.filterMap_eq_filter]
        rfl

theorem fromSpopList_toSpopList_pieces (xs : List Str) :
    fromSpopList (toSpopList xs) = xs.flatMap (pieces isSpace ',') := by
  rw [fromSpopList_eq, toSpopList, join, pieces_intercalate, List.flatMap_map]
  exact List.flatMap_congr fun x _ => pieces_trim isSpace_comma x

/-- Writing a list and reading it back gives the stripped pieces of its items that are not
empty; that is the list itself exactly when its items are such pieces; and a list that was
read is written and read back as it was. -/
theorem spop_lists :
    (∀ xs : List Str, fromSpopList (toSpopList xs) =
      ((xs.flatMap fun x => x.splitOn ',').map strip).filter fun x => !x.isEmpty) ∧
    (∀ xs : List Str, fromSpopList (toSpopList xs) = xs ↔
      ∀ x ∈ xs, x ≠ [] ∧ ',' ∉ x ∧ strip x = x) ∧
    ∀ s : Str, fromSpopList (toSpopList (fromSpopList s)) = fromSpopList s := by
  refine ⟨fun xs => ?_, fun xs => ?_, fun s => ?_⟩
  · rw [fromSpopList_toSpopList_pieces]
    induction xs with
    | nil => rfl
    | cons x xs ih =>
      rw [List.flatMap_cons, ih, List.flatMap_cons, List.map_append, List.filter_append]
      rfl
  · rw [fromSpopList_toSpopList_pieces]
    exact flatMap_pieces_eq_self
  · rw [fromSpopList_toSpopList_pieces, fromSpopList_eq]
    exact flatMap_pieces_eq_self.mpr fun x hx => pieces_clean hx

end SpoeForge
