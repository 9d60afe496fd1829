import Mathlib.Logic.Function.Basic

/-!
# FIFO mutexes

A mutex with a queue of waiters, handed over in order: a release passes the
mutex to the first waiter, so a task that asks for it later, even before that
waiter has run, queues behind.
-/

namespace Coop

/-- A mutex: who holds it and who waits for it, first come first. -/
structure FifoLock (τ : Type) where
  holder : Option τ
  waiters : List τ

namespace FifoLock

variable {τ : Type}

def free : FifoLock τ := ⟨none, []⟩

/-- Can the mutex be taken without waiting? -/
def isFree (l : FifoLock τ) : Bool := l.holder.isNone && l.waiters.isEmpty

/-- Take the mutex if it is free, otherwise queue for it. -/
def acquire (l : FifoLock τ) (t : τ) : FifoLock τ :=
  if l.isFree then ⟨some t, []⟩ else ⟨l.holder, l.waiters ++ [t]⟩

/-- Give the mutex up: the first waiter gets it. -/
def release (l : FifoLock τ) : FifoLock τ :=
  match l.waiters with
  | [] => ⟨none, []⟩
  | t :: ts => ⟨some t, ts⟩

/-- Everybody who has asked for the mutex: its holder, and then those who wait. -/
def queue (l : FifoLock τ) : List τ := l.holder.toList ++ l.waiters

/-- Nobody waits for a mutex that nobody has. -/
def Handed (l : FifoLock τ) : Prop := l.holder = none → l.waiters = []

@[simp] theorem queue_release (l : FifoLock τ) : l.release.queue = l.waiters := by
  unfold release
  split
  · rename_i h
    rw [h]
    rfl
  · rename_i t ts h
    rw [h]
    rfl

theorem queue_of_isFree {l : FifoLock τ} (h : l.isFree = true) : l.queue = [] := by
  obtain ⟨hholder, hwaiters⟩ := Bool.and_eq_true_iff.mp h
  rw [queue, Option.isNone_iff_eq_none.mp hholder, List.isEmpty_iff.mp hwaiters]
  rfl

@[simp] theorem queue_acquire (l : FifoLock τ) (t : τ) : (l.acquire t).queue = l.queue ++ [t] := by
  unfold acquire
  split
  · rename_i h
    rw [queue_of_isFree h]
    rfl
  · rw [queue, queue, List.append_assoc]

theorem Handed.release (l : FifoLock τ) : l.release.Handed := by
  unfold FifoLock.release
  split
  · exact fun _ => rfl
  · intro h
    cases h

theorem Handed.acquire {l : FifoLock τ} (h : l.Handed) (t : τ) : (l.acquire t).Handed := by
  unfold FifoLock.acquire
  split
  · intro hn
    cases hn
  · rename_i hfree
    intro hn
    simp [isFree, show l.holder = none from hn, h hn] at hfree

/-- Those who wait are behind the holder. -/
theorem Handed.queue_eq {l : FifoLock τ} (h : l.Handed) {t : τ} {ts : List τ}
    (hq : l.queue = t :: ts) : l.holder = some t ∧ l.waiters = ts := by
  unfold queue at hq
  cases hh : l.holder with
  | none =>
      rw [hh, h hh] at hq
      cases hq
  | some u =>
      rw [hh] at hq
      obtain ⟨rfl, rfl⟩ := List.cons.inj hq
      exact ⟨rfl, rfl⟩

/-- Whoever asks for a mutex that is free has it. -/
theorem holder_of_isFree {l : FifoLock τ} (h : l.isFree = true) (t : τ) :
    (l.acquire t).holder = some t := by
  rw [acquire, if_pos h]

/-- Asking for a mutex never takes it from its holder. -/
theorem acquire_holder {l : FifoLock τ} {t u : τ} (h : l.holder = some u) :
    (l.acquire t).holder = some u := by
  simp [acquire, isFree, h]

end FifoLock
end Coop
