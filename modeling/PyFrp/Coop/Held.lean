import PyFrp.Coop.Heap

/-!
# Objects that tasks hold

Tasks that share a heap of objects, where each task holds one object at most and touches
no other one. Two tasks then never hold the same object, what a task knows of its object
is not disturbed by the others, and an object that nobody holds any longer stays as it is.
-/

namespace Coop

variable {ι α : Type}

/-- The objects, and which of them each task holds. -/
structure Holdings (ι α : Type) where
  objects : Heap α
  holds : ι → Option Nat

namespace Holdings

variable {h h' : Holdings ι α} {i : ι} {r : Nat}

structure Exclusive (h : Holdings ι α) : Prop where
  bound : ∀ i r, h.holds i = some r → r < h.objects.size
  unique : ∀ i j r, h.holds i = some r → h.holds j = some r → i = j

/-- The task `i` goes on with the object that it holds, takes a new one, or none. -/
structure Moves (i : ι) (h h' : Holdings ι α) : Prop where
  others : ∀ j, j ≠ i → h'.holds j = h.holds j
  size : h.objects.size ≤ h'.objects.size
  taken : ∀ r, h'.holds i = some r →
    (h.holds i = some r ∨ h.objects.size ≤ r) ∧ r < h'.objects.size
  same : ∀ r, r < h.objects.size → h.holds i ≠ some r → h'.objects.get? r = h.objects.get? r

/-- Nobody holds the object. -/
def Orphan (h : Holdings ι α) (r : Nat) : Prop := r < h.objects.size ∧ ∀ i, h.holds i ≠ some r

/-- What the tasks know of the objects that they hold. -/
def Knows (P : ι → α → Prop) (h : Holdings ι α) : Prop :=
  ∀ i r a, h.holds i = some r → h.objects.get? r = some a → P i a

theorem Exclusive.empty (hnone : ∀ i, h.holds i = none) : h.Exclusive where
  bound i r hr := by
    rw [hnone] at hr
    cases hr
  unique i j r hr _ := by
    rw [hnone] at hr
    cases hr

/-- What another task holds is neither what the task held nor new. -/
theorem Exclusive.other {j : ι} (he : h.Exclusive) (hj : h.holds j = some r) (hne : j ≠ i) :
    r < h.objects.size ∧ h.holds i ≠ some r :=
  ⟨he.bound j r hj, fun hi => hne (he.unique j i r hj hi)⟩

theorem Exclusive.moves (he : h.Exclusive) (hm : Moves i h h') : h'.Exclusive where
  bound j r hr := by
    by_cases hj : j = i
    · subst hj
      exact (hm.taken r hr).2
    · rw [hm.others j hj] at hr
      exact Nat.lt_of_lt_of_le (he.bound j r hr) hm.size
  unique := by
    -- an object of the task that moved is not one of another task
    have hself : ∀ j r, j ≠ i → h'.holds j = some r → h'.holds i = some r → False := by
      intro j r hj hr hi
      rw [hm.others j hj] at hr
      obtain ⟨hlt, hnot⟩ := he.other hr hj
      rcases (hm.taken r hi).1 with hold | hnew
      · exact hnot hold
      · omega
    intro j k r hj hk
    by_cases hji : j = i
    · by_cases hki : k = i
      · rw [hji, hki]
      · subst hji
        exact (hself k r hki hk hj).elim
    · by_cases hki : k = i
      · subst hki
        exact (hself j r hji hj hk).elim
      · rw [hm.others j hji] at hj
        rw [hm.others k hki] at hk
        exact he.unique j k r hj hk

/-- What the other tasks know stays true. -/
theorem Knows.moves {P P' : ι → α → Prop} (hk : h.Knows P) (he : h.Exclusive) (hm : Moves i h h')
    (hothers : ∀ j r a, j ≠ i → h'.holds j = some r → P j a → P' j a)
    (hself : ∀ r a, h'.holds i = some r → h'.objects.get? r = some a → P' i a) : h'.Knows P' := by
  intro j r a hr ha
  by_cases hj : j = i
  · subst hj
    exact hself r a hr ha
  · have hold := (hm.others j hj).symm.trans hr
    obtain ⟨hlt, hnot⟩ := he.other hold hj
    rw [hm.same r hlt hnot] at ha
    exact hothers j r a hj hr (hk j r a hold ha)

/-- An object that nobody holds is nobody's for ever, and stays as it is. -/
theorem Orphan.moves (ho : h.Orphan r) (hm : Moves i h h') :
    h'.Orphan r ∧ h'.objects.get? r = h.objects.get? r := by
  obtain ⟨hlt, hnone⟩ := ho
  refine ⟨⟨Nat.lt_of_lt_of_le hlt hm.size, fun j hj => ?_⟩, hm.same r hlt (hnone i)⟩
  by_cases hji : j = i
  · subst hji
    rcases (hm.taken r hj).1 with hold | hnew
    · exact hnone j hold
    · omega
  · rw [hm.others j hji] at hj
    exact hnone j hj

/-- What nobody holds after the step was left by the task, or nobody's already. -/
theorem Orphan.of_moves (ho : h'.Orphan r) (hm : Moves i h h') :
    (h.holds i = some r ∨ h.objects.size ≤ r) ∨
      (h.Orphan r ∧ h'.objects.get? r = h.objects.get? r) := by
  by_cases hr : h.holds i = some r ∨ h.objects.size ≤ r
  · exact .inl hr
  · have hlt : r < h.objects.size := by
      by_contra hge
      exact hr (.inr (by omega))
    have hi : h.holds i ≠ some r := fun hold => hr (.inl hold)
    refine .inr ⟨⟨hlt, fun j hj => ?_⟩, hm.same r hlt hi⟩
    have hji : j ≠ i := by
      rintro rfl
      exact hi hj
    exact ho.2 j ((hm.others j hji).trans hj)

/-- An object is worked on, and held by whoever holds it. -/
def work (h : Holdings ι α) (r : Nat) (f : α → α) : Holdings ι α :=
  { h with objects := h.objects.modify r f }

theorem size_work (r : Nat) (f : α → α) : (h.work r f).objects.size = h.objects.size := by
  simp [work, Heap.modify, Heap.size]

theorem Exclusive.work (he : h.Exclusive) (r : Nat) (f : α → α) : (h.work r f).Exclusive where
  bound i q hq := by
    rw [size_work]
    exact he.bound i q hq
  unique := he.unique

theorem orphan_work (r : Nat) (f : α → α) {q : Nat} : (h.work r f).Orphan q ↔ h.Orphan q := by
  rw [Orphan, Orphan, size_work]
  rfl

theorem Knows.work {P : ι → α → Prop} {f : α → α} (hk : h.Knows P)
    (hf : ∀ i a, h.holds i = some r → h.objects.get? r = some a → P i a → P i (f a)) :
    (h.work r f).Knows P := by
  intro i q a hq ha
  have hq : h.holds i = some q := hq
  rw [Holdings.work, Heap.get?_modify] at ha
  split at ha
  · rename_i hqr
    subst hqr
    obtain ⟨b, hb, rfl⟩ := Option.map_eq_some_iff.mp ha
    exact hf i b hq hb (hk i q b hq hb)
  · exact hk i q a hq ha

end Holdings

/-! ## Turns -/

/-- What may become of an object, what is to hold of every object, and when one is released. -/
structure Discipline (α : Type) where
  later : α → α → Prop
  fine : α → Prop
  released : α → Prop
  refl : ∀ a, later a a
  trans : ∀ {a b c}, later a b → later b c → later a c

/-- The object that is held is there, and is as `P` says. -/
def Holds (objects : Heap α) (held : Option Nat) (P : α → Prop) : Prop :=
  ∀ r, held = some r → ∃ a, objects.get? r = some a ∧ P a

/-- A turn of a task that holds `held` before and `held'` after it. It lets go of objects that
are released, or of `lost`. -/
structure Turn (D : Discipline α) (lost : Option Nat) (objects : Heap α) (held : Option Nat)
    (objects' : Heap α) (held' : Option Nat) (Q : α → Prop) : Prop where
  size : objects.size ≤ objects'.size
  taken : ∀ r, held' = some r → held = some r ∨ objects.size ≤ r
  same : ∀ r, r < objects.size → held ≠ some r → objects'.get? r = objects.get? r
  later : ∀ r a, objects.get? r = some a → ∃ a', objects'.get? r = some a' ∧ D.later a a'
  fine : ∀ r a, held = some r ∨ objects.size ≤ r → objects'.get? r = some a → D.fine a
  left : ∀ r a, held = some r ∨ objects.size ≤ r → held' ≠ some r → objects'.get? r = some a →
    D.released a ∨ lost = some r
  stands : Holds objects' held' Q

theorem Holds.mono {objects : Heap α} {held : Option Nat} {P Q : α → Prop}
    (h : Holds objects held P) (hPQ : ∀ a, P a → Q a) : Holds objects held Q := by
  intro r hr
  obtain ⟨a, ha, hp⟩ := h r hr
  exact ⟨a, ha, hPQ a hp⟩

/-- An object of the task is the one that it holds. -/
theorem Holds.get {objects : Heap α} {held : Option Nat} {P : α → Prop} {r : Nat} {a : α}
    (h : Holds objects held P) (hr : held = some r ∨ objects.size ≤ r)
    (ha : objects.get? r = some a) : held = some r ∧ P a := by
  rcases hr with hr | hr
  · obtain ⟨b, hb, hp⟩ := h r hr
    rw [ha] at hb
    cases hb
    exact ⟨hr, hp⟩
  · have hlt := Heap.lt_size_of_get? ha
    omega

namespace Turn

variable {D : Discipline α} {lost held held' held'' : Option Nat}
  {objects objects' objects'' : Heap α} {P Q Q' : α → Prop}

/-- The task goes on with what it holds. -/
theorem stay (hP : Holds objects held P) (hfine : ∀ a, P a → D.fine a) (hQ : ∀ a, P a → Q a) :
    Turn D lost objects held objects held Q where
  size := Nat.le_refl _
  taken _ hr := .inl hr
  same _ _ _ := rfl
  later _ a ha := ⟨a, ha, D.refl a⟩
  fine _ a hr ha := hfine a (hP.get hr ha).2
  left _ _ hr hnot ha := absurd (hP.get hr ha).1 hnot
  stands := hP.mono hQ

/-- The task lets go of what it holds, if it holds anything. -/
theorem leave (hP : Holds objects held P) (hfine : ∀ a, P a → D.fine a)
    (hleft : ∀ r, held = some r → (∀ a, P a → D.released a) ∨ lost = some r) :
    Turn D lost objects held objects none Q where
  size := Nat.le_refl _
  taken _ hr := nomatch hr
  same _ _ _ := rfl
  later _ a ha := ⟨a, ha, D.refl a⟩
  fine _ a hr ha := hfine a (hP.get hr ha).2
  left r a hr _ ha := by
    obtain ⟨hheld, hp⟩ := hP.get hr ha
    exact (hleft r hheld).imp_left fun h => h a hp
  stands _ hr := nomatch hr

/-- The task works on the object that it holds. -/
theorem modify {r : Nat} {f : α → α} (hP : Holds objects (some r) P)
    (hlater : ∀ a, P a → D.later a (f a)) (hfine : ∀ a, P a → D.fine (f a))
    (hend : (held' = some r ∧ ∀ a, P a → Q (f a)) ∨
      (held' = none ∧ ∀ a, P a → D.released (f a))) :
    Turn D lost objects (some r) (objects.modify r f) held' Q := by
  obtain ⟨a, ha, hp⟩ := hP r rfl
  have hsize : (objects.modify r f).size = objects.size := by
    simp [Heap.modify, Heap.size]
  have hget : (objects.modify r f).get? r = some (f a) := by
    rw [Heap.get?_modify, if_pos rfl, ha]
    rfl
  constructor
  case size => omega
  case taken =>
    intro q hq
    rcases hend with ⟨hheld, -⟩ | ⟨hheld, -⟩
    · exact .inl (hheld.symm.trans hq)
    · rw [hheld] at hq
      cases hq
  case same =>
    intro q _ hne
    rw [Heap.get?_modify, if_neg fun h => hne (congrArg some h.symm)]
  case later =>
    intro q b hb
    by_cases hq : q = r
    · subst hq
      rw [ha] at hb
      cases hb
      exact ⟨f a, hget, hlater a hp⟩
    · refine ⟨b, ?_, D.refl b⟩
      rw [Heap.get?_modify, if_neg hq, hb]
  case fine =>
    intro q b hq hb
    have hlt := Heap.lt_size_of_get? hb
    rcases hq with hq | hq
    · cases hq
      rw [hget] at hb
      cases hb
      exact hfine a hp
    · omega
  case left =>
    intro q b hq hnot hb
    have hlt := Heap.lt_size_of_get? hb
    rcases hq with hq | hq
    · cases hq
      rcases hend with ⟨hheld, -⟩ | ⟨-, hreleased⟩
      · exact absurd hheld hnot
      · rw [hget] at hb
        cases hb
        exact .inl (hreleased a hp)
    · omega
  case stands =>
    intro q hq
    rcases hend with ⟨hheld, hQ⟩ | ⟨hheld, -⟩
    · rw [hheld] at hq
      cases hq
      exact ⟨f a, hget, hQ a hp⟩
    · rw [hheld] at hq
      cases hq

/-- The task takes a new object. -/
theorem take {a : α} (hfine : D.fine a) (hQ : Q a) :
    Turn D lost objects none (objects.alloc a) (some objects.size) Q := by
  have hsize : (objects.alloc a).size = objects.size + 1 := by
    simp [Heap.alloc, Heap.size]
  have hget : (objects.alloc a).get? objects.size = some a := by
    rw [Heap.get?_alloc, if_pos rfl]
  constructor
  case size => omega
  case taken =>
    intro r hr
    cases hr
    exact .inr (Nat.le_refl _)
  case same =>
    intro r hr _
    rw [Heap.get?_alloc, if_neg (by omega)]
  case later =>
    intro r b hb
    exact ⟨b, Heap.get?_alloc_of_get? hb, D.refl b⟩
  case fine =>
    intro r b hr hb
    have hlt := Heap.lt_size_of_get? hb
    rcases hr with hr | hr
    · cases hr
    · have hrs : r = objects.size := by omega
      subst hrs
      rw [hget] at hb
      cases hb
      exact hfine
  case left =>
    intro r b hr hnot hb
    have hlt := Heap.lt_size_of_get? hb
    rcases hr with hr | hr
    · cases hr
    · have hrs : r = objects.size := by omega
      exact absurd (congrArg some hrs.symm) hnot
  case stands =>
    intro r hr
    cases hr
    exact ⟨a, hget, hQ⟩

/-- One turn after the other. -/
theorem andThen (h₁ : Turn D lost objects held objects' held' Q)
    (h₂ : Turn D lost objects' held' objects'' held'' Q') :
    Turn D lost objects held objects'' held'' Q' := by
  have hsize := h₁.size
  have hsize' := h₂.size
  -- what was there before is the second turn's, or as the first one left it
  have hsecond : ∀ r, held = some r ∨ objects.size ≤ r →
      (held' = some r ∨ objects'.size ≤ r) ∨
        (held' ≠ some r ∧ objects''.get? r = objects'.get? r) := by
    intro r _
    by_cases hheld : held' = some r
    · exact .inl (.inl hheld)
    · by_cases hlt : r < objects'.size
      · exact .inr ⟨hheld, h₂.same r hlt hheld⟩
      · exact .inl (.inr (by omega))
  constructor
  case size => omega
  case taken =>
    intro r hr
    rcases h₂.taken r hr with hheld | hnew
    · exact h₁.taken r hheld
    · exact .inr (by omega)
  case same =>
    intro r hlt hne
    have hne' : held' ≠ some r := by
      intro hheld
      rcases h₁.taken r hheld with hold | hnew
      · exact hne hold
      · omega
    rw [h₂.same r (by omega) hne', h₁.same r hlt hne]
  case later =>
    intro r a ha
    obtain ⟨b, hb, hab⟩ := h₁.later r a ha
    obtain ⟨c, hc, hbc⟩ := h₂.later r b hb
    exact ⟨c, hc, D.trans hab hbc⟩
  case fine =>
    intro r a hr ha
    rcases hsecond r hr with hr' | ⟨-, hsame⟩
    · exact h₂.fine r a hr' ha
    · exact h₁.fine r a hr (hsame ▸ ha)
  case left =>
    intro r a hr hnot ha
    rcases hsecond r hr with hr' | ⟨hheld, hsame⟩
    · exact h₂.left r a hr' hnot ha
    · exact h₁.left r a hr hheld (hsame ▸ ha)
  case stands => exact h₂.stands

end Turn

namespace Turn

variable {ι : Type} {D : Discipline α} {lost : Option Nat} {i : ι} {h k : Holdings ι α}
  {Q : α → Prop}

/-- A turn of the task `i` among the others. -/
theorem moves (ht : Turn D lost h.objects (h.holds i) k.objects (k.holds i) Q)
    (hothers : ∀ j, j ≠ i → k.holds j = h.holds j) : Holdings.Moves i h k where
  others := hothers
  size := ht.size
  taken r hr := by
    obtain ⟨a, ha, -⟩ := ht.stands r hr
    exact ⟨ht.taken r hr, Heap.lt_size_of_get? ha⟩
  same := ht.same

/-- Every object is fine, after the turn as before it. -/
theorem fine_moves (ht : Turn D lost h.objects (h.holds i) k.objects (k.holds i) Q)
    (hfine : ∀ r a, h.objects.get? r = some a → D.fine a) :
    ∀ r a, k.objects.get? r = some a → D.fine a := by
  intro r a ha
  by_cases hr : h.holds i = some r ∨ h.objects.size ≤ r
  · exact ht.fine r a hr ha
  · have hlt : r < h.objects.size := by
      by_contra hge
      exact hr (.inr (by omega))
    rw [ht.same r hlt fun hold => hr (.inl hold)] at ha
    exact hfine r a ha

end Turn
end Coop
