import Mathlib.Data.List.Nodup
import Mathlib.Data.List.Perm.Basic
import Mathlib.Data.List.TakeWhile

/-!
# First occurrences

The part of a sequence before the first occurrence of an element; and what a sequence
lists, each element once and in the order in which the elements occur first.
-/

namespace Coding

variable {α : Type} [DecidableEq α] {as bs ps qs : List α}

/-! ## The first occurrence of one element -/

/-- What is dropped up to the first `a` begins with it. -/
theorem of_dropWhile_ne {a x : α} {rest : List α} (h : as.dropWhile (· ≠ a) = x :: rest) :
    as = as.takeWhile (· ≠ a) ++ a :: rest ∧ a ∉ as.takeWhile (· ≠ a) := by
  have hx : x = a := by
    have hne : as.dropWhile (· ≠ a) ≠ [] := by
      rw [h]
      exact List.cons_ne_nil _ _
    have hhead := List.head_dropWhile_not _ hne
    simp only [h, List.head_cons] at hhead
    exact not_not.mp (of_decide_eq_false hhead)
  constructor
  · have has := (List.takeWhile_append_dropWhile (p := fun c => decide (c ≠ a)) (l := as)).symm
    rwa [h, hx] at has
  · intro hmem
    have hne := List.mem_takeWhile_imp hmem
    simp at hne

theorem takeWhile_ne_append {a : α} {rest : List α} (h : a ∉ as) :
    (as ++ a :: rest).takeWhile (· ≠ a) = as := by
  have hkeep : ∀ c ∈ as, decide (c ≠ a) = true :=
    fun c hc => decide_eq_true fun heq => h (heq ▸ hc)
  rw [List.takeWhile_append_of_pos hkeep, List.takeWhile_cons_of_neg (by simp), List.append_nil]

theorem dropWhile_ne_append {a : α} {rest : List α} (h : a ∉ as) :
    (as ++ a :: rest).dropWhile (· ≠ a) = a :: rest := by
  have hkeep : ∀ c ∈ as, decide (c ≠ a) = true :=
    fun c hc => decide_eq_true fun heq => h (heq ▸ hc)
  rw [List.dropWhile_append_of_pos hkeep, List.dropWhile_cons_of_neg (by simp)]

/-! ## Listing each element once -/

/-- `ps` lists the elements of `as`, ordered by first occurrence. -/
structure Lists (as ps : List α) : Prop where
  nodup : ps.Nodup
  mem_iff : ∀ a, a ∈ ps ↔ a ∈ as
  ordered : ps.Pairwise fun a b => as.idxOf a < as.idxOf b

namespace Lists

theorem nil : Lists ([] : List α) [] where
  nodup := List.nodup_nil
  mem_iff _ := Iff.rfl
  ordered := List.Pairwise.nil

theorem singleton (a : α) : Lists [a] [a] where
  nodup := List.nodup_singleton a
  mem_iff _ := Iff.rfl
  ordered := List.pairwise_singleton _ a

/-- Of a sequence that goes on, the elements are listed that were not listed before. -/
theorem append (hp : Lists as ps) (hq : Lists bs qs) :
    Lists (as ++ bs) (ps ++ qs.filter (· ∉ ps)) where
  nodup := by
    refine List.nodup_append.mpr ⟨hp.nodup, hq.nodup.filter _, ?_⟩
    rintro a ha b hb rfl
    exact of_decide_eq_true (List.mem_filter.mp hb).2 ha
  mem_iff a := by
    rw [List.mem_append, List.mem_append, List.mem_filter, decide_eq_true_eq, hp.mem_iff,
      hq.mem_iff]
    by_cases ha : a ∈ as
    · simp [ha]
    · simp [ha]
  ordered := by
    have hnot : ∀ {a : α}, a ∈ qs.filter (· ∉ ps) → a ∉ as := by
      intro a ha hmem
      exact of_decide_eq_true (List.mem_filter.mp ha).2 ((hp.mem_iff a).mpr hmem)
    refine List.pairwise_append.mpr ⟨?_, ?_, ?_⟩
    · refine hp.ordered.imp_of_mem ?_
      intro a b ha hb hlt
      rw [List.idxOf_append_of_mem ((hp.mem_iff a).mp ha),
        List.idxOf_append_of_mem ((hp.mem_iff b).mp hb)]
      exact hlt
    · refine (hq.ordered.filter _).imp_of_mem ?_
      intro a b ha hb hlt
      rw [List.idxOf_append_of_notMem (hnot ha), List.idxOf_append_of_notMem (hnot hb)]
      exact Nat.add_lt_add_left hlt _
    · intro a ha b hb
      have hmem := (hp.mem_iff a).mp ha
      rw [List.idxOf_append_of_mem hmem, List.idxOf_append_of_notMem (hnot hb)]
      have hlt := List.idxOf_lt_length_of_mem hmem
      omega

/-- A sequence is listed in one way. -/
theorem unique (hp : Lists as ps) (hq : Lists as qs) : ps = qs := by
  have hperm : ps.Perm qs := by
    refine (List.perm_ext_iff_of_nodup hp.nodup hq.nodup).mpr fun a => ?_
    rw [hp.mem_iff, hq.mem_iff]
  refine hperm.eq_of_pairwise ?_ hp.ordered hq.ordered
  intro a b _ _ hab hba
  exact absurd hab (Nat.lt_asymm hba)

end Lists
end Coding
