import Mathlib.Order.Basic

/-!
# Transition systems and runs under a condition

A system is an initial state and a partial step function: an action that is
not enabled in a state has no successor. Runs carry a *condition* `C` on the
steps they take (`C s a`: action `a` is taken in state `s`), so that one
definition serves the plain reachable states (`C` always true) and the states
reached by runs that keep away from some branch of the program.
-/

namespace Coop

/-- A labelled transition system with an executable, partial step function. -/
structure System (σ α : Type) where
  init : σ
  step : σ → α → Option σ

namespace System

variable {σ α : Type} (M : System σ α)

/-- `M.Runs C s t`: a run from `s` to `t`, every step of which meets `C`. -/
inductive Runs (C : σ → α → Prop) (s : σ) : σ → Prop
  | refl : Runs C s s
  | tail {t u : σ} {a : α} :
      Runs C s t → C t a → M.step t a = some u → Runs C s u

/-- The states of the runs that start at `init` and meet `C` at every step. -/
def ReachableUnder (C : σ → α → Prop) (s : σ) : Prop := M.Runs C M.init s

/-- The states of the unrestricted runs. -/
def Reachable (s : σ) : Prop := M.ReachableUnder (fun _ _ => True) s

variable {M} {C : σ → α → Prop}

theorem Runs.trans {s t u : σ} (h₁ : M.Runs C s t) (h₂ : M.Runs C t u) :
    M.Runs C s u := by
  induction h₂ with
  | refl => exact h₁
  | tail _ hc hs ih => exact .tail ih hc hs

/-- A run under a condition is a run under any weaker one. -/
theorem Runs.mono {C' : σ → α → Prop} (hC : ∀ s a, C s a → C' s a) {s t : σ}
    (h : M.Runs C s t) : M.Runs C' s t := by
  induction h with
  | refl => exact .refl
  | tail _ hc hs ih => exact .tail ih (hC _ _ hc) hs

theorem ReachableUnder.reachable {s : σ} (h : M.ReachableUnder C s) :
    M.Reachable s :=
  Runs.mono (fun _ _ _ => trivial) h

theorem ReachableUnder.init : M.ReachableUnder C M.init := .refl

theorem ReachableUnder.tail {s t : σ} {a : α} (h : M.ReachableUnder C s)
    (hc : C s a) (hs : M.step s a = some t) : M.ReachableUnder C t :=
  Runs.tail h hc hs

/-- A run continued from a state of a run is a run. -/
theorem ReachableUnder.runs {s t : σ} (h : M.ReachableUnder C s)
    (hr : M.Runs C s t) : M.ReachableUnder C t :=
  Runs.trans h hr

/-- The rule of invariants: a predicate that holds initially and is kept by
every step of a run that meets `C` holds in every state of the run. The step
may use that its start is itself a state of such a run. -/
theorem ReachableUnder.invariant {P : σ → Prop} (h₀ : P M.init)
    (hstep : ∀ s a t, M.ReachableUnder C s → P s → C s a →
      M.step s a = some t → P t)
    {s : σ} (h : M.ReachableUnder C s) : P s := by
  induction h with
  | refl => exact h₀
  | tail hr hc hs ih => exact hstep _ _ _ hr ih hc hs

/-- The same rule along a run that starts anywhere. -/
theorem Runs.invariant {P : σ → Prop} {s t : σ} (h : M.Runs C s t) (h₀ : P s)
    (hstep : ∀ u a v, M.Runs C s u → P u → C u a → M.step u a = some v → P v) :
    P t := by
  induction h with
  | refl => exact h₀
  | tail hr hc hs ih => exact hstep _ _ _ hr ih hc hs

/-- The rule of progress: while `Q` fails, a step that meets `C` keeps `P` and
makes `weight` smaller. Then a run leads to `Q`. -/
theorem exists_runs_of_weight {P Q : σ → Prop} (weight : σ → Nat)
    (hstep : ∀ s, P s → ¬ Q s → ∃ a t, C s a ∧ M.step s a = some t ∧ P t ∧
      (¬ Q t → weight t < weight s))
    {s : σ} (h₀ : P s) : ∃ t, M.Runs C s t ∧ P t ∧ Q t := by
  induction hn : weight s using Nat.strongRecOn generalizing s with
  | ind n ih =>
      by_cases hq : Q s
      · exact ⟨s, .refl, h₀, hq⟩
      · obtain ⟨a, t, hc, hs, ht, hlt⟩ := hstep s h₀ hq
        have hone : M.Runs C s t := .tail .refl hc hs
        by_cases hqt : Q t
        · exact ⟨t, hone, ht, hqt⟩
        · obtain ⟨u, hu, hpu, hqu⟩ := ih (weight t) (hn ▸ hlt hqt) ht rfl
          exact ⟨u, hone.trans hu, hpu, hqu⟩

/-! ## Executing a list of actions -/

variable (M)

/-- Execute the actions in order, stopping at the first one that is not
enabled or fails the test `ok`. -/
def execWhile (ok : σ → α → Bool) : σ → List α → Option σ
  | s, [] => some s
  | s, a :: as =>
      if ok s a then (M.step s a).bind fun t => execWhile ok t as else none

/-- Execute the actions in order. -/
def exec (s : σ) (as : List α) : Option σ := M.execWhile (fun _ _ => true) s as

variable {M}

theorem runs_of_execWhile {ok : σ → α → Bool} {s t : σ} {as : List α}
    (hok : ∀ u a, M.Runs (fun _ _ => True) s u → ok u a = true → C u a)
    (h : M.execWhile ok s as = some t) : M.Runs C s t := by
  induction as generalizing s with
  | nil =>
      simp only [execWhile, Option.some.injEq] at h
      exact h ▸ .refl
  | cons a as ih =>
      simp only [execWhile] at h
      split at h
      · rename_i hcond
        obtain ⟨u, hu, hrest⟩ := Option.bind_eq_some_iff.mp h
        have hstep : M.Runs (fun _ _ => True) s u := .tail .refl trivial hu
        exact Runs.trans (.tail .refl (hok s a .refl hcond) hu)
          (ih (fun v b hv => hok v b (Runs.trans hstep hv)) hrest)
      · exact absurd h (by simp)

/-- A value read off the last state of a schedule whose steps pass `ok` is read
off a state of a run that meets `C`. -/
theorem exists_of_execWhile_map {ok : σ → α → Bool} {β : Type} {f : σ → β} {b : β}
    (as : List α) (hok : ∀ s a, M.Reachable s → ok s a = true → C s a)
    (h : (M.execWhile ok M.init as).map f = some b) :
    ∃ s, M.ReachableUnder C s ∧ f s = b := by
  obtain ⟨s, hs, hf⟩ := Option.map_eq_some_iff.mp h
  exact ⟨s, runs_of_execWhile hok hs, hf⟩

/-- The same for a schedule that is cut in two, and the run that its second part is. -/
theorem exists_runs_of_execWhile_map {ok : σ → α → Bool} {β : Type} {f : σ → σ → β} {b : β}
    (as bs : List α) (hok : ∀ s a, ok s a = true → C s a)
    (h : (M.exec M.init as).bind (fun s => (M.execWhile ok s bs).map (f s)) = some b) :
    ∃ s t, M.Reachable s ∧ M.Runs C s t ∧ f s t = b := by
  obtain ⟨s, hs, hrest⟩ := Option.bind_eq_some_iff.mp h
  obtain ⟨t, ht, hf⟩ := Option.map_eq_some_iff.mp hrest
  exact ⟨s, t, runs_of_execWhile (fun _ _ _ _ => trivial) hs,
    runs_of_execWhile (fun u a _ => hok u a) ht, hf⟩

/-- The same for a test of the last state. -/
theorem exists_of_execWhile {ok : σ → α → Bool} {P : σ → Prop} [DecidablePred P]
    (as : List α) (hok : ∀ s a, M.Reachable s → ok s a = true → C s a)
    (h : (M.execWhile ok M.init as).any (fun s => decide (P s)) = true) :
    ∃ s, M.ReachableUnder C s ∧ P s := by
  obtain ⟨s, hs, hP⟩ := (Option.any_eq_true _ _).mp h
  exact ⟨s, runs_of_execWhile hok hs, of_decide_eq_true hP⟩

theorem exists_of_exec {P : σ → Prop} [DecidablePred P] (as : List α)
    (h : (M.exec M.init as).any (fun s => decide (P s)) = true) :
    ∃ s, M.Reachable s ∧ P s :=
  exists_of_execWhile as (fun _ _ _ _ => trivial) h

end System
end Coop
