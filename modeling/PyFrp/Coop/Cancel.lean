import PyFrp.Coop.Program

/-!
# Cancellation

A task that is suspended may be cancelled: it is resumed with an exception instead of
an event, and its code up to the next suspension point is the one for that exception.
A cancelled task does not get the mutex it is queued for; if the mutex was handed to it
already, the next one in the queue gets it.

What happens to the mutexes is left open by the rule of invariants: an assertion
is kept if the segments keep it, whichever tasks may execute them.
-/

namespace Coop

/-- Stop asking for the mutex. -/
def FifoLock.withdraw {τ : Type} [DecidableEq τ] (l : FifoLock τ) (t : τ) : FifoLock τ :=
  if l.holder = some t then l.release else ⟨l.holder, l.waiters.erase t⟩

/-- A task is resumed by an event, or cancelled. -/
inductive Occurrence (τ ε : Type)
  | resume (t : τ) (e : ε)
  | cancel (t : τ)

namespace Program

variable {τ κ σ φ π ε : Type} [DecidableEq τ] [DecidableEq κ]
variable (P : Program τ κ σ φ π ε) (cancelled : σ → τ → π → Option (Segment κ φ π))

/-- The mutexes after `t` has stopped asking for the one it wants. -/
def withdraw (s : LoopState τ κ σ π) (t : τ) : κ → FifoLock τ :=
  match P.wants t (s.point t) with
  | none => s.locks
  | some k => Function.update s.locks k ((s.locks k).withdraw t)

/-- One step of an event loop in which tasks may be cancelled. -/
def cancellableStep (s : LoopState τ κ σ π) : Occurrence τ ε → Option (LoopState τ κ σ π)
  | .resume t e => P.step s (t, e)
  | .cancel t =>
      if s.running.isNone then
        (cancelled s.store t (s.point t)).map (P.commit { s with locks := P.withdraw s t } t)
      else none

def cancellable (store : σ) (start : π) : System (LoopState τ κ σ π) (Occurrence τ ε) where
  init := (P.system store start).init
  step := P.cancellableStep cancelled

variable {P cancelled}

/-- The segment that is executed by task `t` in a state. -/
inductive Executes (P : Program τ κ σ φ π ε) (cancelled : σ → τ → π → Option (Segment κ φ π))
    (s : LoopState τ κ σ π) : Occurrence τ ε → τ → Segment κ φ π → Prop
  | resume {t : τ} {e : ε} {seg : Segment κ φ π}
      (h : P.segment s.store t (s.point t) e = some seg) :
      Executes P cancelled s (.resume t e) t seg
  | cancel {t : τ} {seg : Segment κ φ π} (h : cancelled s.store t (s.point t) = some seg) :
      Executes P cancelled s (.cancel t) t seg

/-- Every step executes a segment. -/
theorem cancellableStep_cases {s s' : LoopState τ κ σ π} {a : Occurrence τ ε}
    (h : P.cancellableStep cancelled s a = some s') :
    ∃ t seg, Executes P cancelled s a t seg ∧ s'.store = P.apply seg.effect s.store ∧
      s'.point = Function.update s.point t seg.next := by
  cases a with
  | resume t e =>
      obtain ⟨-, seg, hseg, rfl⟩ := step_eq_some.mp h
      exact ⟨t, seg, .resume hseg, commit_store s t seg, commit_point s t seg⟩
  | cancel t =>
      simp only [cancellableStep] at h
      split at h
      · obtain ⟨seg, hseg, rfl⟩ := Option.map_eq_some_iff.mp h
        exact ⟨t, seg, .cancel hseg, commit_store _ t seg, commit_point _ t seg⟩
      · cases h

/-- A proof outline for tasks that may be cancelled. It does not refer to the mutexes. -/
structure CancellableOutline (P : Program τ κ σ φ π ε)
    (cancelled : σ → τ → π → Option (Segment κ φ π)) (store₀ : σ) (start : π)
    (C : LoopState τ κ σ π → Occurrence τ ε → Prop) (I : σ → Prop) (A : σ → τ → π → Prop) :
    Prop where
  initial : I store₀
  starts : ∀ t, A store₀ t start
  keeps : ∀ {s a t seg}, Executes P cancelled s a t seg → C s a → I s.store →
    (∀ u, A s.store u (s.point u)) → I (P.apply seg.effect s.store)
  establishes : ∀ {s a t seg}, Executes P cancelled s a t seg → C s a → I s.store →
    (∀ u, A s.store u (s.point u)) → A (P.apply seg.effect s.store) t seg.next
  spares : ∀ {s a t seg u}, Executes P cancelled s a t seg → C s a → I s.store →
    (∀ u, A s.store u (s.point u)) → u ≠ t → A (P.apply seg.effect s.store) u (s.point u)

/-- The store invariant and all assertions hold in every state of the runs that meet `C`. -/
theorem CancellableOutline.sound {store₀ : σ} {start : π}
    {C : LoopState τ κ σ π → Occurrence τ ε → Prop} {I : σ → Prop} {A : σ → τ → π → Prop}
    (ho : CancellableOutline P cancelled store₀ start C I A) {s : LoopState τ κ σ π}
    (h : (P.cancellable cancelled store₀ start).ReachableUnder C s) :
    I s.store ∧ ∀ t, A s.store t (s.point t) := by
  refine h.invariant (P := fun s => I s.store ∧ ∀ t, A s.store t (s.point t))
    ⟨ho.initial, ho.starts⟩ ?_
  rintro s a s' - ⟨hI, hA⟩ hc hs
  obtain ⟨t, seg, hexec, hstore, hpoint⟩ := cancellableStep_cases hs
  rw [hstore]
  refine ⟨ho.keeps hexec hc hI hA, fun u => ?_⟩
  by_cases hut : u = t
  · subst hut
    rw [hpoint, Function.update_self]
    exact ho.establishes hexec hc hI hA
  · rw [hpoint, Function.update_of_ne hut]
    exact ho.spares hexec hc hI hA hut

end Program
end Coop
