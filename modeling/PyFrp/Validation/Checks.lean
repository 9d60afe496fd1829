import Mathlib.Data.List.Basic
import Mathlib.Data.List.Forall2

/-!
# Programs that check as they go

A program reads its input field by field, and the first field that is not
acceptable ends it. What it does is then known from the fields alone: `Follows`
ties the program to the verdicts about the fields it reads, in their order, and to
what holds of its result. The rules follow the program: `bind`, `mapM`, `ok`.
-/

namespace Validation

/-- The verdict about one field. The program has a name for some failures; the others
escape from it as they are. -/
inductive Verdict (ε : Type)
  | fine
  | refused
  | escapes (e : ε)
  deriving DecidableEq

variable {ε α β γ : Type} {p : ε → Bool}

/-- The verdict that counts. -/
def first : List (Verdict ε) → Verdict ε
  | [] => .fine
  | .fine :: vs => first vs
  | v :: _ => v

def Verdict.ofError (p : ε → Bool) (e : ε) : Verdict ε := if p e then .refused else .escapes e

/-- The program fails with the first failure among `vs`, and if there is none its result
satisfies `P`. -/
def Follows (p : ε → Bool) (x : Except ε α) (vs : List (Verdict ε)) (P : α → Prop) : Prop :=
  match x with
  | .ok a => first vs = .fine ∧ P a
  | .error e => first vs = .ofError p e

theorem Verdict.ofError_ne_fine (e : ε) : Verdict.ofError p e ≠ .fine := by
  unfold Verdict.ofError
  split
  · exact nofun
  · exact nofun

theorem first_append (vs ws : List (Verdict ε)) :
    first (vs ++ ws) = match first vs with
      | .fine => first ws
      | v => v := by
  induction vs with
  | nil => rfl
  | cons v vs ih =>
      cases v with
      | fine => exact ih
      | refused => rfl
      | escapes e => rfl

theorem first_append_of_fine {vs : List (Verdict ε)} (h : first vs = .fine)
    (ws : List (Verdict ε)) : first (vs ++ ws) = first ws := by
  rw [first_append, h]

theorem first_append_of_ne {vs : List (Verdict ε)} (h : first vs ≠ .fine)
    (ws : List (Verdict ε)) : first (vs ++ ws) = first vs := by
  rw [first_append]
  cases hv : first vs with
  | fine => exact absurd hv h
  | refused => rfl
  | escapes e => rfl

/-- If nothing escapes, the verdict that counts does not. -/
theorem first_of_forall {vs : List (Verdict ε)} (h : ∀ v ∈ vs, v = .fine ∨ v = .refused) :
    first vs = .fine ∨ first vs = .refused := by
  induction vs with
  | nil => exact .inl rfl
  | cons v vs ih =>
      rcases h v (.head _) with rfl | rfl
      · exact ih fun v' hv' => h v' (.tail _ hv')
      · exact .inr rfl

namespace Follows

variable {x : Except ε α} {vs ws : List (Verdict ε)} {P : α → Prop} {Q : β → Prop}

theorem ok {a : α} (hfine : first vs = .fine) (h : P a) : Follows p (.ok a) vs P := ⟨hfine, h⟩

theorem error {e : ε} : Follows p (.error e : Except ε α) (.ofError p e :: vs) P := by
  unfold Follows
  cases h : Verdict.ofError p e with
  | fine => exact absurd h (Verdict.ofError_ne_fine e)
  | refused => exact h.symm
  | escapes e' => exact h.symm

theorem mono {P' : α → Prop} (h : Follows p x vs P) (hP : ∀ a, P a → P' a) :
    Follows p x vs P' := by
  cases x with
  | ok a => exact ⟨h.1, hP a h.2⟩
  | error e => exact h

/-- The verdicts count only as far as the first failure. -/
theorem congr (h : Follows p x vs P) (hvs : first ws = first vs) : Follows p x ws P := by
  cases x with
  | ok a => exact ⟨hvs.trans h.1, h.2⟩
  | error e => exact hvs.trans h

theorem fine (h : Follows p x vs P) : Follows p x (.fine :: vs) P :=
  h.congr rfl

theorem bind {f : α → Except ε β} (h : Follows p x vs P)
    (hf : ∀ a, P a → Follows p (f a) ws Q) : Follows p (x >>= f) (vs ++ ws) Q := by
  cases x with
  | error e =>
      have he : first vs = .ofError p e := h
      refine (first_append_of_ne ?_ ws).trans he
      rw [he]
      exact Verdict.ofError_ne_fine e
  | ok a =>
      exact (hf a h.2).congr (first_append_of_fine h.1 ws)

/-- The end of a program, after the last check. -/
theorem bind_ok {f : α → β} (h : Follows p x vs P) (hf : ∀ a, P a → Q (f a)) :
    Follows p (x >>= fun a => .ok (f a)) vs Q := by
  cases x with
  | error e => exact h
  | ok a => exact ⟨h.1, hf a h.2⟩

theorem map {f : α → β} (h : Follows p x vs P) (hf : ∀ a, P a → Q (f a)) :
    Follows p (f <$> x) vs Q := by
  cases x with
  | error e => exact h
  | ok a => exact ⟨h.1, hf a h.2⟩

theorem mapM {f : γ → Except ε α} {fields : γ → List (Verdict ε)} {R : γ → α → Prop} :
    ∀ cs : List γ, (∀ c, c ∈ cs → Follows p (f c) (fields c) (R c)) →
      Follows p (cs.mapM f) (cs.flatMap fields) (List.Forall₂ R cs)
  | [], _ => ⟨rfl, .nil⟩
  | c :: cs, h => by
      rw [List.mapM_cons]
      have hrest := mapM cs fun c' hc' => h c' (.tail _ hc')
      refine (h c (.head _)).bind fun a ha => ?_
      exact hrest.bind_ok fun as has => .cons ha has

/-- A check with a failure of its own, before the rest of a program. -/
theorem check {c : Prop} [Decidable c] {e : ε} (he : p e = true) (h : ¬ c → Follows p x ws P) :
    Follows p (if c then .error e else x) ((if c then .refused else .fine) :: ws) P := by
  by_cases hc : c
  · rw [if_pos hc, if_pos hc]
    exact (if_pos he).symm
  · rw [if_neg hc, if_neg hc]
    exact h hc

theorem fine_of_ok {a : α} (h : Follows p (.ok a) vs P) : first vs = .fine := h.1

theorem of_ok {a : α} (h : Follows p (.ok a) vs P) : P a := h.2

theorem first_of_error {e : ε} (h : Follows p (.error e : Except ε α) vs P) :
    first vs = .ofError p e := h

/-- What is known of the program if the verdict that counts is `fine`. -/
theorem exists_ok (h : Follows p x vs P) (hfine : first vs = .fine) : ∃ a, x = .ok a ∧ P a := by
  cases x with
  | ok a => exact ⟨a, rfl, h.of_ok⟩
  | error e => exact absurd (h.first_of_error.symm.trans hfine) (Verdict.ofError_ne_fine e)

theorem exists_error (h : Follows p x vs P) (hrefused : first vs = .refused) :
    ∃ e, x = .error e ∧ p e = true := by
  cases x with
  | ok a => cases h.fine_of_ok.symm.trans hrefused
  | error e =>
      have he : Verdict.ofError p e = .refused := h.first_of_error.symm.trans hrefused
      refine ⟨e, rfl, ?_⟩
      unfold Verdict.ofError at he
      split at he
      · assumption
      · cases he

end Follows

attribute [irreducible] Follows

/-- Lists that agree item by item have a property item by item if the first list has its
own. -/
theorem forall₂_iff_of_forall₂ {R S : α → β → Prop} {T : α → Prop} {as : List α}
    {bs : List β} (h : List.Forall₂ R as bs) (hiff : ∀ a b, R a b → (S a b ↔ T a)) :
    List.Forall₂ S as bs ↔ ∀ a ∈ as, T a := by
  induction h with
  | nil => exact ⟨fun _ _ ha => absurd ha List.not_mem_nil, fun _ => .nil⟩
  | cons hab _ ih => rw [List.forall₂_cons, List.forall_mem_cons, hiff _ _ hab, ih]

/-- A loop that checks each element and appends what it makes of it. -/
theorem foldlM_append_eq_ok {f : List β → α → Except ε (List β)} {T : α → Prop}
    {g : α → Option β} (hf : ∀ acc a bs, f acc a = .ok bs ↔ T a ∧ acc ++ (g a).toList = bs)
    {as : List α} {acc bs : List β} :
    as.foldlM f acc = .ok bs ↔ (∀ a ∈ as, T a) ∧ acc ++ as.filterMap g = bs := by
  induction as generalizing acc with
  | nil =>
      rw [List.foldlM_nil]
      simp [pure, Except.pure]
  | cons a as ih =>
      rw [List.foldlM_cons, List.forall_mem_cons]
      have hcons : (a :: as).filterMap g = (g a).toList ++ as.filterMap g := by
        cases hg : g a <;> simp [hg]
      cases hstep : f acc a with
      | error e =>
          refine ⟨fun h => (by cases h), ?_⟩
          rintro ⟨⟨ha, -⟩, -⟩
          cases hstep.symm.trans ((hf _ _ _).mpr ⟨ha, rfl⟩)
      | ok next =>
          obtain ⟨ha, rfl⟩ := (hf _ _ _).mp hstep
          refine ih.trans ?_
          rw [hcons, List.append_assoc]
          exact ⟨fun ⟨has, hbs⟩ => ⟨⟨ha, has⟩, hbs⟩, fun ⟨⟨_, has⟩, hbs⟩ => ⟨has, hbs⟩⟩

end Validation
