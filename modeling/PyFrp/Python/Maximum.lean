import Mathlib.Order.Lattice

/-!
# The greatest element

`max` of a list goes by `>`, and of several greatest elements it takes the first.
Tuples are compared at the first place where they differ, so what is greatest among
tuples is decided by the second component if the first ones are equal as values,
without being the same.
-/

namespace Python

section Max

variable {α : Type} {after : α → α → Bool} {as bs : List α} {a m n : α}

/-- `max`, where `after a b` is `a > b`. -/
def maxOf (after : α → α → Bool) : List α → Option α
  | [] => none
  | a :: as => some (as.foldl (fun best next => if after next best then next else best) a)

/-- `>` of a total preorder. -/
structure Ranks (after : α → α → Bool) : Prop where
  total : ∀ a b, after a b = false ∨ after b a = false
  trans : ∀ a b c, after a b = false → after b c = false → after a c = false

theorem Ranks.refl (h : Ranks after) (a : α) : after a a = false := by
  rcases h.total a a with h | h <;> exact h

theorem mem_foldl_max (as : List α) (a : α) :
    as.foldl (fun best next => if after next best then next else best) a ∈ a :: as := by
  induction as generalizing a with
  | nil => exact .head _
  | cons b as ih =>
      rw [List.foldl_cons]
      split
      · exact .tail _ (ih b)
      · rcases List.mem_cons.mp (ih a) with heq | hmem
        · rw [heq]
          exact .head _
        · exact .tail _ (.tail _ hmem)

/-- The best so far only gets better, and nothing that was looked at is after it. -/
theorem Ranks.foldl_max (h : Ranks after) (as : List α) (a : α) :
    ∀ b ∈ a :: as,
      after b (as.foldl (fun best next => if after next best then next else best) a) = false := by
  induction as generalizing a with
  | nil =>
      intro b hb
      rw [List.mem_singleton.mp hb]
      exact h.refl a
  | cons next as ih =>
      intro b hb
      rw [List.foldl_cons]
      split
      · rename_i hnext
        rcases List.mem_cons.mp hb with rfl | hb
        · have hle : after b next = false := by
            rcases h.total b next with hle | hle
            · exact hle
            · rw [hnext] at hle
              cases hle
          exact h.trans _ _ _ hle (ih next next (.head _))
        · exact ih next b hb
      · rename_i hnext
        rcases List.mem_cons.mp hb with rfl | hb
        · exact ih b b (.head _)
        · rcases List.mem_cons.mp hb with rfl | hb
          · exact h.trans _ _ _ (Bool.eq_false_iff.mpr hnext) (ih a a (.head _))
          · exact ih a b (.tail _ hb)

@[simp] theorem maxOf_eq_none : maxOf after as = none ↔ as = [] := by
  cases as <;> simp [maxOf]

theorem mem_of_maxOf (h : maxOf after as = some m) : m ∈ as := by
  cases as with
  | nil => cases h
  | cons a as =>
      cases h
      exact mem_foldl_max as a

theorem Ranks.maxOf (hafter : Ranks after) (h : maxOf after as = some m) :
    ∀ a ∈ as, after a m = false := by
  cases as with
  | nil => cases h
  | cons a as =>
      cases h
      exact hafter.foldl_max as a

end Max

section Tuples

variable {V S : Type} [Preorder V] [DecidableLE V] [LinearOrder S] {p q : V × S}

/-- `p > q` of pairs, where `v == w` if neither of `v` and `w` is less than the other. -/
def pairAfter (p q : V × S) : Bool :=
  if p.1 ≤ q.1 ∧ q.1 ≤ p.1 then decide (q.2 < p.2) else decide (¬ p.1 ≤ q.1)

theorem pairAfter_eq_false :
    pairAfter p q = false ↔ p.1 ≤ q.1 ∧ (q.1 ≤ p.1 → p.2 ≤ q.2) := by
  unfold pairAfter
  split
  · rename_i hequal
    simp [hequal]
  · rename_i hequal
    simp only [decide_eq_false_iff_not, not_not]
    exact ⟨fun hle => ⟨hle, fun hge => absurd ⟨hle, hge⟩ hequal⟩, And.left⟩

theorem ranks_pairAfter [Std.Total fun v w : V => v ≤ w] :
    Ranks (pairAfter (V := V) (S := S)) where
  total p q := by
    simp only [pairAfter_eq_false]
    by_cases hle : p.1 ≤ q.1
    · by_cases hge : q.1 ≤ p.1
      · rcases le_total p.2 q.2 with h | h
        · exact .inl ⟨hle, fun _ => h⟩
        · exact .inr ⟨hge, fun _ => h⟩
      · exact .inl ⟨hle, fun h => absurd h hge⟩
    · have hge : q.1 ≤ p.1 := (Std.Total.total p.1 q.1).resolve_left hle
      exact .inr ⟨hge, fun h => absurd h hle⟩
  trans p q r hpq hqr := by
    rw [pairAfter_eq_false] at hpq hqr ⊢
    refine ⟨hpq.1.trans hqr.1, fun hrp => ?_⟩
    have hqp : q.1 ≤ p.1 := hqr.1.trans hrp
    have hrq : r.1 ≤ q.1 := hrp.trans hpq.1
    exact (hpq.2 hqp).trans (hqr.2 hrq)

/-- Two greatest pairs have the same second component. -/
theorem snd_eq_of_pairAfter (hpq : pairAfter p q = false) (hqp : pairAfter q p = false) :
    p.2 = q.2 := by
  rw [pairAfter_eq_false] at hpq hqp
  exact le_antisymm (hpq.2 hqp.1) (hqp.2 hpq.1)

end Tuples
end Python
