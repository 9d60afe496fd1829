import Mathlib.Order.Lattice
import Mathlib.Data.List.Basic

/-!
# Sliding windows

Of a sequence that grows at its end only the elements from a cutoff on are kept, and
the cutoff only rises. The front is pruned: as the elements are in order, this drops
all that have become too small.
-/

namespace Coding

variable {α : Type} [LinearOrder α] {c d : α} {all kept : List α}

theorem dropWhile_lt_eq_filter (h : kept.Pairwise (· ≤ ·)) (c : α) :
    kept.dropWhile (· < c) = kept.filter (c ≤ ·) := by
  induction kept with
  | nil => rfl
  | cons a kept ih =>
      rw [List.pairwise_cons] at h
      by_cases ha : a < c
      · rw [List.dropWhile_cons_of_pos (by simpa using ha),
          List.filter_cons_of_neg (by simpa using ha)]
        exact ih h.2
      · have hall : ∀ b ∈ a :: kept, decide (c ≤ b) = true := by
          intro b hb
          rcases List.mem_cons.mp hb with rfl | hb
          · simpa using ha
          · simpa using (not_lt.mp ha).trans (h.1 b hb)
        rw [List.dropWhile_cons_of_neg (by simpa using ha), List.filter_eq_self.mpr hall]

/-- `kept` is in order and has what `all` has, from every cutoff on that is not less than `c`. -/
structure Window (c : α) (all kept : List α) : Prop where
  sorted : kept.Pairwise (· ≤ ·)
  recent : ∀ d, c ≤ d → kept.filter (d ≤ ·) = all.filter (d ≤ ·)

namespace Window

theorem nil : Window c ([] : List α) [] where
  sorted := List.Pairwise.nil
  recent _ _ := rfl

/-- The cutoff rises. -/
theorem later (h : Window c all kept) (hle : c ≤ d) : Window d all kept where
  sorted := h.sorted
  recent e he := h.recent e (hle.trans he)

/-- What is left when the front is pruned. -/
theorem prune (h : Window c all kept) : kept.dropWhile (· < c) = all.filter (c ≤ ·) := by
  rw [dropWhile_lt_eq_filter h.sorted, h.recent c le_rfl]

/-- An element is added after the front is pruned. -/
theorem push {t : α} (h : Window c all kept) (ht : ∀ a ∈ kept, a ≤ t) :
    Window c (all ++ [t]) (kept.dropWhile (· < c) ++ [t]) where
  sorted := by
    have hsublist := List.dropWhile_sublist (l := kept) fun a => decide (a < c)
    refine List.pairwise_append.mpr ⟨h.sorted.sublist hsublist, List.pairwise_singleton _ t, ?_⟩
    intro a ha b hb
    rw [List.mem_singleton.mp hb]
    exact ht a (hsublist.subset ha)
  recent d hd := by
    have hsame : (all.filter (c ≤ ·)).filter (d ≤ ·) = all.filter (d ≤ ·) := by
      rw [List.filter_filter]
      refine List.filter_congr fun a _ => ?_
      by_cases ha : d ≤ a
      · simp [ha, hd.trans ha]
      · simp [ha]
    rw [h.prune, List.filter_append, hsame, List.filter_append]

end Window
end Coding
