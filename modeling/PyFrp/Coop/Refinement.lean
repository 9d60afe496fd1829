import PyFrp.Coop.System

/-!
# Refinement

A system refines another one if its states stand for states of the other, and every
step of its runs stands for a run of the other, of any length. What holds in all runs
of the abstract system then holds of what the concrete states stand for.
-/

namespace Coop.System

variable {σ α τ β υ γ : Type}

/-- The steps of `M` in the runs that meet `C` stand for runs of `A` that meet `D`. -/
structure Refines (M : System σ α) (A : System τ β) (C : σ → α → Prop) (D : τ → β → Prop)
    (abs : σ → τ) : Prop where
  init : abs M.init = A.init
  step : ∀ {s a s'}, M.ReachableUnder C s → C s a → M.step s a = some s' →
    A.Runs D (abs s) (abs s')

variable {M : System σ α} {A : System τ β} {B : System υ γ}
variable {C : σ → α → Prop} {D : τ → β → Prop} {E : υ → γ → Prop} {f : σ → τ} {g : τ → υ}

/-- One step is a run. -/
theorem Runs.single {t t' : τ} {b : β} (hd : D t b) (hs : A.step t b = some t') :
    A.Runs D t t' :=
  .tail .refl hd hs

/-- A step that changes nothing abstract stands for the run without steps. -/
theorem Runs.of_eq {t t' : τ} (h : t' = t) : A.Runs D t t' := h ▸ .refl

namespace Refines

/-- A run stands for a run. -/
theorem reachable (h : Refines M A C D f) {s : σ} (hs : M.ReachableUnder C s) :
    A.ReachableUnder D (f s) := by
  induction hs with
  | refl =>
      rw [h.init]
      exact .init
  | tail hr hc hs ih => exact ih.runs (h.step hr hc hs)

/-- An invariant of the abstract system is one of the concrete system. -/
theorem invariant (h : Refines M A C D f) {P : τ → Prop}
    (hP : ∀ {t}, A.ReachableUnder D t → P t) {s : σ} (hs : M.ReachableUnder C s) : P (f s) :=
  hP (h.reachable hs)

/-- A run that starts anywhere in a run stands for a run. -/
theorem runs (h : Refines M A C D f) {s s' : σ} (hs : M.ReachableUnder C s)
    (hr : M.Runs C s s') : A.Runs D (f s) (f s') := by
  induction hr with
  | refl => exact .refl
  | tail hr hc hstep ih => exact ih.trans (h.step (hs.runs hr) hc hstep)

theorem trans (h : Refines M A C D f) (h' : Refines A B D E g) : Refines M B C E (g ∘ f) where
  init := (congrArg g h.init).trans h'.init
  step hr hc hs := h'.runs (h.reachable hr) (h.step hr hc hs)

end Refines
end Coop.System
