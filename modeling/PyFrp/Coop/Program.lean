import PyFrp.Coop.System
import PyFrp.Coop.Lock

/-!
# Cooperative tasks over FIFO mutexes

The event loop of a single-threaded runtime. A task is parked at a *point* of
its program; scheduling it executes one *segment*, the code between two
suspension points, which has an effect on the shared store, may release one
mutex and parks the task at the next point. At a point the task may want a
mutex (it is queued for it, or holds it and may enter), may *run on* without
giving up the processor, or is suspended until an event resumes it.

`Program.step` is the exact interleaving of such tasks: as long as a task runs
on, no other task is scheduled. The module proves mutual exclusion from a
local discipline of the segments, and a proof-outline rule in the manner of
Owicki and Gries: assertions attached to points, kept by the segments of their
own task and not interfered with by those of the others.
-/

namespace Coop

/-- The code between two suspension points, executed. -/
structure Segment (κ φ π : Type) where
  effect : φ
  next : π
  releases : Option κ

/-- Read the point of a segment as a point of a larger program. -/
def Segment.lift {κ φ π π' : Type} (f : π → π') (seg : Segment κ φ π) : Segment κ φ π' :=
  ⟨seg.effect, f seg.next, seg.releases⟩

@[simp] theorem Segment.lift_effect {κ φ π π' : Type} (f : π → π') (seg : Segment κ φ π) :
    (seg.lift f).effect = seg.effect := rfl

/-- A program of cooperative tasks `τ` over mutexes `κ`, a shared store `σ`
changed by effects `φ`, program points `π` and outside events `ε`. -/
structure Program (τ κ σ φ π ε : Type) where
  /-- What an effect does to the store. -/
  apply : φ → σ → σ
  /-- The mutex a task at this point is acquiring. -/
  wants : τ → π → Option κ
  /-- Does a task that comes to this point keep the processor? -/
  runsOn : π → Bool
  /-- One segment, resumed by an event; `none` if the event does not resume. -/
  segment : σ → τ → π → ε → Option (Segment κ φ π)

/-- A state of the event loop. -/
structure LoopState (τ κ σ π : Type) where
  store : σ
  point : τ → π
  locks : κ → FifoLock τ
  running : Option τ

namespace Program

variable {τ κ σ φ π ε : Type} [DecidableEq τ] [DecidableEq κ]
variable (P : Program τ κ σ φ π ε)

/-- May `t` be scheduled? No other task is running on, and the mutex `t`
waits for, if any, has been handed to it. -/
def canRun (s : LoopState τ κ σ π) (t : τ) : Bool :=
  (s.running.isNone || s.running = some t) &&
    match P.wants t (s.point t) with
    | none => true
    | some k => (s.locks k).holder = some t

/-- The mutexes after a segment gave one up. -/
def releaseLocks (locks : κ → FifoLock τ) : Option κ → κ → FifoLock τ
  | none => locks
  | some k => Function.update locks k (locks k).release

/-- The state in which `t` has executed `seg`. -/
def commit (s : LoopState τ κ σ π) (t : τ) (seg : Segment κ φ π) : LoopState τ κ σ π :=
  let locks := releaseLocks s.locks seg.releases
  let store := P.apply seg.effect s.store
  let point := Function.update s.point t seg.next
  match P.wants t seg.next with
  | none => ⟨store, point, locks, if P.runsOn seg.next then some t else none⟩
  | some k =>
      ⟨store, point, Function.update locks k ((locks k).acquire t),
        if (locks k).isFree then some t else none⟩

/-- One step of the event loop: `t` is resumed by the event `e`. -/
def step (s : LoopState τ κ σ π) (a : τ × ε) : Option (LoopState τ κ σ π) :=
  if P.canRun s a.1 then
    (P.segment s.store a.1 (s.point a.1) a.2).map (P.commit s a.1)
  else none

/-- The event loop as a transition system: every task starts at `start`. -/
def system (store : σ) (start : π) : System (LoopState τ κ σ π) (τ × ε) where
  init := ⟨store, fun _ => start, fun _ => .free, none⟩
  step := P.step

variable {P}

/-! ## What a step does -/

theorem step_eq_some {s s' : LoopState τ κ σ π} {t : τ} {e : ε} :
    P.step s (t, e) = some s' ↔
      P.canRun s t = true ∧
        ∃ seg, P.segment s.store t (s.point t) e = some seg ∧ P.commit s t seg = s' := by
  simp only [step]
  split
  · rename_i h
    simp [h, Option.map_eq_some_iff]
  · rename_i h
    simp [h]

@[simp] theorem commit_store (s : LoopState τ κ σ π) (t : τ) (seg : Segment κ φ π) :
    (P.commit s t seg).store = P.apply seg.effect s.store := by
  unfold commit
  cases P.wants t seg.next <;> rfl

@[simp] theorem commit_point (s : LoopState τ κ σ π) (t : τ) (seg : Segment κ φ π) :
    (P.commit s t seg).point = Function.update s.point t seg.next := by
  unfold commit
  cases P.wants t seg.next <;> rfl

/-- A task that wants no mutex next leaves the mutexes it did not release. -/
theorem commit_of_wants_none (s : LoopState τ κ σ π) {t : τ} {seg : Segment κ φ π}
    (hw : P.wants t seg.next = none) :
    (P.commit s t seg).locks = releaseLocks s.locks seg.releases ∧
      (P.commit s t seg).running = if P.runsOn seg.next then some t else none := by
  simp [commit, hw]

/-- A task that wants a mutex next gets it if it is free, and queues for it otherwise. -/
theorem commit_of_wants (s : LoopState τ κ σ π) {t : τ} {seg : Segment κ φ π} {k : κ}
    (hw : P.wants t seg.next = some k) :
    (P.commit s t seg).locks = Function.update (releaseLocks s.locks seg.releases) k
        ((releaseLocks s.locks seg.releases k).acquire t) ∧
      (P.commit s t seg).running =
        if (releaseLocks s.locks seg.releases k).isFree then some t else none := by
  simp [commit, hw]

theorem commit_point_self (s : LoopState τ κ σ π) (t : τ) (seg : Segment κ φ π) :
    (P.commit s t seg).point t = seg.next := by
  simp

theorem commit_point_of_ne (s : LoopState τ κ σ π) {t u : τ} (seg : Segment κ φ π)
    (h : u ≠ t) : (P.commit s t seg).point u = s.point u := by
  simp [Function.update_of_ne h]

omit [DecidableEq κ] in
/-- A task that wants a mutex enters only as its holder. -/
theorem canRun_holder {s : LoopState τ κ σ π} {t : τ} {k : κ}
    (h : P.canRun s t = true) (hw : P.wants t (s.point t) = some k) :
    (s.locks k).holder = some t := by
  simp only [canRun, hw, Bool.and_eq_true, decide_eq_true_eq] at h
  exact h.2

/-- A task that wants no mutex afterwards can be scheduled again at once. -/
theorem canRun_commit {s : LoopState τ κ σ π} {t : τ} {seg : Segment κ φ π}
    (hw : P.wants t seg.next = none) : P.canRun (P.commit s t seg) t = true := by
  cases hr : P.runsOn seg.next <;> simp [canRun, commit, hw, hr]

/-- A task that takes no part in a schedule stays where it is. -/
theorem point_of_exec {store₀ : σ} {start : π} {s s' : LoopState τ κ σ π} {as : List (τ × ε)}
    {u : τ} (h : (P.system store₀ start).exec s as = some s') (hu : ∀ a ∈ as, a.1 ≠ u) :
    s'.point u = s.point u := by
  induction as generalizing s with
  | nil =>
      cases h
      rfl
  | cons a as ih =>
      obtain ⟨v, hv, hrest⟩ := Option.bind_eq_some_iff.mp h
      obtain ⟨-, seg, -, rfl⟩ := step_eq_some.mp hv
      rw [ih hrest fun b hb => hu b (List.mem_cons_of_mem _ hb)]
      exact commit_point_of_ne s seg (hu a List.mem_cons_self).symm

/-- A task that keeps the processor can be scheduled again. -/
theorem canRun_commit_of_running {s : LoopState τ κ σ π} {t : τ} {seg : Segment κ φ π}
    (h : (P.commit s t seg).running = some t) : P.canRun (P.commit s t seg) t = true := by
  cases hw : P.wants t seg.next with
  | none => exact canRun_commit hw
  | some k =>
      obtain ⟨hlocks, hrunning⟩ := commit_of_wants s hw
      rw [hrunning] at h
      split at h
      · rename_i hfree
        simp [canRun, hrunning, hfree, commit_point_self, hw, hlocks,
          FifoLock.holder_of_isFree hfree]
      · cases h

/-- A mutex after a step: as it was released, and with the task in its queue if it asks
for it. -/
theorem commit_locks (s : LoopState τ κ σ π) (t : τ) (seg : Segment κ φ π) (k : κ) :
    (P.commit s t seg).locks k = releaseLocks s.locks seg.releases k ∨
      P.wants t seg.next = some k ∧
        (P.commit s t seg).locks k = (releaseLocks s.locks seg.releases k).acquire t := by
  unfold commit
  cases hw : P.wants t seg.next with
  | none => exact .inl rfl
  | some k' =>
      by_cases hk : k = k'
      · subst hk
        exact .inr ⟨rfl, Function.update_self _ _ _⟩
      · exact .inl (Function.update_of_ne hk _ _)

/-- After a step its task keeps the processor, or nobody has it. -/
theorem commit_running (s : LoopState τ κ σ π) (t : τ) (seg : Segment κ φ π) :
    (P.commit s t seg).running = none ∨ (P.commit s t seg).running = some t := by
  unfold commit
  cases P.wants t seg.next with
  | none =>
      show ite _ _ _ = _ ∨ ite _ _ _ = _
      split
      · exact .inr rfl
      · exact .inl rfl
  | some k =>
      show ite _ _ _ = _ ∨ ite _ _ _ = _
      split
      · exact .inr rfl
      · exact .inl rfl

/-- A holder keeps its mutex through a step that does not release it. -/
theorem commit_holder {s : LoopState τ κ σ π} {t u : τ} {k : κ} {seg : Segment κ φ π}
    (hu : (s.locks k).holder = some u) (hr : seg.releases ≠ some k) :
    ((P.commit s t seg).locks k).holder = some u := by
  have hrel : (releaseLocks s.locks seg.releases) k = s.locks k := by
    cases hk : seg.releases with
    | none => rfl
    | some k' =>
        have hne : k ≠ k' := fun h => hr (by rw [hk, h])
        simp [releaseLocks, Function.update_of_ne hne]
  unfold commit
  cases hw : P.wants t seg.next with
  | none => simpa [hrel] using hu
  | some k' =>
      by_cases hkk : k = k'
      · subst hkk
        simpa [hrel] using FifoLock.acquire_holder hu
      · simpa [Function.update_of_ne hkk, hrel] using hu

/-! ## Mutual exclusion -/

/-- The lock discipline of a program: `holds t p k` says that a task parked at
`p` has `k`. A segment releases only what its task has, and its task has
afterwards only what it had or entered with and did not release. -/
structure Discipline (P : Program τ κ σ φ π ε) (start : π) (holds : τ → π → κ → Prop) :
    Prop where
  start_free : ∀ t k, ¬ holds t start k
  releases : ∀ {store t p e seg k}, P.segment store t p e = some seg →
    seg.releases = some k → holds t p k ∨ P.wants t p = some k
  keeps : ∀ {store t p e seg k}, P.segment store t p e = some seg →
    holds t seg.next k →
      (holds t p k ∨ P.wants t p = some k) ∧ seg.releases ≠ some k

/-- Every task that has a mutex by its point is the holder of that mutex. -/
def Held (holds : τ → π → κ → Prop) (s : LoopState τ κ σ π) : Prop :=
  ∀ t k, holds t (s.point t) k → (s.locks k).holder = some t

variable {start : π} {holds : τ → π → κ → Prop} {store₀ : σ}
variable {C : LoopState τ κ σ π → τ × ε → Prop}

omit [DecidableEq κ] in
/-- A scheduled task is the holder of what it has and of what it enters with. -/
theorem Held.holder {s : LoopState τ κ σ π} {t : τ} {k : κ} (h : Held holds s)
    (hrun : P.canRun s t = true)
    (hk : holds t (s.point t) k ∨ P.wants t (s.point t) = some k) :
    (s.locks k).holder = some t := by
  rcases hk with hh | hw
  · exact h t k hh
  · exact canRun_holder hrun hw

omit [DecidableEq κ] in
/-- Two tasks never have one mutex: a scheduled task that has or enters `k`
is the task that has `k`. -/
theorem Held.exclusive {s : LoopState τ κ σ π} {t u : τ} {k : κ} (h : Held holds s)
    (hrun : P.canRun s t = true)
    (hk : holds t (s.point t) k ∨ P.wants t (s.point t) = some k)
    (hu : holds u (s.point u) k) : t = u := by
  have ht := h.holder hrun hk
  rw [h u k hu, Option.some.injEq] at ht
  exact ht.symm

theorem Discipline.held_step (hd : P.Discipline start holds) {s s' : LoopState τ κ σ π}
    {a : τ × ε} (h : Held holds s) (hs : P.step s a = some s') : Held holds s' := by
  obtain ⟨t, e⟩ := a
  obtain ⟨hrun, seg, hseg, rfl⟩ := step_eq_some.mp hs
  intro u k hu
  by_cases hut : u = t
  · subst hut
    rw [commit_point_self] at hu
    obtain ⟨hk, hr⟩ := hd.keeps hseg hu
    exact commit_holder (h.holder hrun hk) hr
  · rw [commit_point_of_ne s seg hut] at hu
    refine commit_holder (h u k hu) ?_
    -- a segment that releases `k` is executed by the task that has `k`
    intro hr
    exact hut (h.exclusive hrun (hd.releases hseg hr) hu).symm

/-- **Mutual exclusion.** In every reachable state the tasks have the mutexes
their points say, so no two of them have the same one. -/
theorem Discipline.held (hd : P.Discipline start holds) {s : LoopState τ κ σ π}
    (h : (P.system store₀ start).ReachableUnder C s) : Held holds s :=
  h.invariant (P := Held holds) (fun t k hh => absurd hh (hd.start_free t k))
    (fun _ _ _ _ hi _ hs => hd.held_step hi hs)

/-! ## Tasks that run on, and queues -/

/-- A task at a point where it runs on is the one that is running. -/
theorem running_of_runsOn (hstart : P.runsOn start = false)
    (hwants : ∀ t p, P.runsOn p = true → P.wants t p = none) {s : LoopState τ κ σ π}
    (h : (P.system store₀ start).ReachableUnder C s) {t : τ}
    (hr : P.runsOn (s.point t) = true) : s.running = some t := by
  refine h.invariant (P := fun s => ∀ t, P.runsOn (s.point t) = true → s.running = some t)
    (fun t hr => ?_) ?_ t hr
  · rw [show (P.system store₀ start).init.point t = start from rfl, hstart] at hr
    cases hr
  · rintro s ⟨u, e⟩ s' - ih - hs t hr
    obtain ⟨hrun, seg, -, rfl⟩ := step_eq_some.mp hs
    by_cases htu : t = u
    · subst htu
      rw [commit_point_self] at hr
      simp [commit, hwants t _ hr, hr]
    · rw [commit_point_of_ne s seg htu] at hr
      have hrunning := ih t hr
      simp only [canRun, hrunning, Option.isNone_some, Bool.false_or, Option.some.injEq,
        Bool.and_eq_true, decide_eq_true_eq] at hrun
      exact absurd hrun.1 htu

/-- A discipline that gives mutexes back: a segment releases what its task has or enters
with, unless its task goes on having it, and no task asks for what it has. -/
structure Complete (P : Program τ κ σ φ π ε) (holds : τ → π → κ → Prop) : Prop where
  gives : ∀ {store t p e seg k}, P.segment store t p e = some seg →
    holds t p k ∨ P.wants t p = some k → seg.releases = some k ∨ holds t seg.next k
  apart : ∀ {t p k}, holds t p k → P.wants t p ≠ some k

/-- The queues consist of the tasks that have the mutexes and of those that want them. -/
structure Queued (P : Program τ κ σ φ π ε) (holds : τ → π → κ → Prop)
    (s : LoopState τ κ σ π) : Prop where
  handed : ∀ k, (s.locks k).Handed
  nodup : ∀ k, (s.locks k).queue.Nodup
  member : ∀ k, ∀ t ∈ (s.locks k).queue,
    holds t (s.point t) k ∨ P.wants t (s.point t) = some k
  waiter : ∀ k, ∀ t ∈ (s.locks k).waiters, P.wants t (s.point t) = some k

omit [DecidableEq κ] in
/-- A task that is scheduled waits for nothing. -/
theorem Queued.not_waiting {s : LoopState τ κ σ π} {t : τ} (h : Queued P holds s)
    (hrun : P.canRun s t = true) (k : κ) : t ∉ (s.locks k).waiters := by
  intro hmem
  have hholder := canRun_holder hrun (h.waiter k t hmem)
  have hnodup := h.nodup k
  rw [FifoLock.queue, hholder] at hnodup
  exact (List.nodup_cons.mp hnodup).1 hmem

omit [DecidableEq τ] in
theorem Queued.released {s : LoopState τ κ σ π} (h : Queued P holds s) (r : Option κ) (k : κ) :
    (releaseLocks s.locks r k).Handed ∧ (releaseLocks s.locks r k).queue.Nodup ∧
      (∀ t ∈ (releaseLocks s.locks r k).waiters, t ∈ (s.locks k).waiters) ∧
      ∀ t ∈ (releaseLocks s.locks r k).queue, (r = some k ∧ t ∈ (s.locks k).waiters) ∨
        (r ≠ some k ∧ t ∈ (s.locks k).queue) := by
  have hold : (s.locks k).Handed ∧ (s.locks k).queue.Nodup := ⟨h.handed k, h.nodup k⟩
  cases r with
  | none => exact ⟨hold.1, hold.2, fun _ ht => ht, fun t ht => .inr ⟨nofun, ht⟩⟩
  | some k' =>
      by_cases hk : k = k'
      · subst hk
        have hlock : releaseLocks s.locks (some k) k = (s.locks k).release :=
          Function.update_self _ _ _
        rw [hlock]
        refine ⟨.release _, ?_, fun t ht => ?_, fun t ht => .inl ⟨rfl, ?_⟩⟩
        · rw [FifoLock.queue_release]
          exact (List.nodup_append.mp hold.2).2.1
        · unfold FifoLock.release at ht
          split at ht
          · cases ht
          · rename_i hw
            rw [hw]
            exact .tail _ ht
        · rwa [FifoLock.queue_release] at ht
      · have hlock : releaseLocks s.locks (some k') k = s.locks k := Function.update_of_ne hk _ _
        rw [hlock]
        exact ⟨hold.1, hold.2, fun _ ht => ht,
          fun t ht => .inr ⟨fun heq => hk (Option.some.inj heq).symm, ht⟩⟩

/-- Who is still in a queue after a release has the mutex, or asked for it before. -/
theorem Complete.member_released (hc : P.Complete holds) {s : LoopState τ κ σ π} {t : τ} {e : ε}
    {seg : Segment κ φ π} (h : Queued P holds s) (hrun : P.canRun s t = true)
    (hseg : P.segment s.store t (s.point t) e = some seg) (k : κ) (u : τ)
    (hu : u ∈ (releaseLocks s.locks seg.releases k).queue) :
    holds u ((P.commit s t seg).point u) k ∨
      P.wants u ((P.commit s t seg).point u) = some k ∧ u ≠ t := by
  obtain ⟨-, -, -, hqueue⟩ := h.released seg.releases k
  by_cases hut : u = t
  · subst hut
    rw [commit_point_self]
    rcases hqueue u hu with ⟨-, hu⟩ | ⟨hr, hu⟩
    · exact absurd hu (h.not_waiting hrun k)
    · exact .inl ((hc.gives hseg (h.member k u hu)).resolve_left hr)
  · rw [commit_point_of_ne s seg hut]
    have hu : u ∈ (s.locks k).queue := by
      rcases hqueue u hu with ⟨-, hu⟩ | ⟨-, hu⟩
      · exact List.mem_append_right _ hu
      · exact hu
    exact (h.member k u hu).imp_right fun hw => ⟨hw, hut⟩

theorem Queued.waiter_released {s : LoopState τ κ σ π} {t : τ} {seg : Segment κ φ π}
    (h : Queued P holds s) (hrun : P.canRun s t = true) (k : κ) (u : τ)
    (hu : u ∈ (releaseLocks s.locks seg.releases k).waiters) :
    P.wants u ((P.commit s t seg).point u) = some k := by
  have hu := (h.released seg.releases k).2.2.1 u hu
  have hut : u ≠ t := fun heq => h.not_waiting hrun k (heq ▸ hu)
  rw [commit_point_of_ne s seg hut]
  exact h.waiter k u hu

theorem Complete.queued_step (hc : P.Complete holds) {s s' : LoopState τ κ σ π} {a : τ × ε}
    (h : Queued P holds s) (hs : P.step s a = some s') : Queued P holds s' := by
  obtain ⟨t, e⟩ := a
  obtain ⟨hrun, seg, hseg, rfl⟩ := step_eq_some.mp hs
  have hmember := hc.member_released h hrun hseg
  have hlocks := commit_locks (P := P) s t seg
  constructor
  · intro k
    obtain ⟨hhanded, -⟩ := h.released seg.releases k
    rcases hlocks k with heq | ⟨-, heq⟩
    · rw [heq]
      exact hhanded
    · rw [heq]
      exact hhanded.acquire t
  · intro k
    obtain ⟨-, hnodup, -⟩ := h.released seg.releases k
    rcases hlocks k with heq | ⟨hw, heq⟩
    · rw [heq]
      exact hnodup
    · rw [heq, FifoLock.queue_acquire]
      refine List.nodup_append.mpr ⟨hnodup, List.pairwise_singleton _ t, ?_⟩
      intro u hu v hv huv
      obtain rfl := List.mem_singleton.mp hv
      subst huv
      rcases hmember k u hu with hh | ⟨-, hne⟩
      · rw [commit_point_self] at hh
        exact hc.apart hh hw
      · exact hne rfl
  · intro k u hu
    rcases hlocks k with heq | ⟨hw, heq⟩
    · rw [heq] at hu
      exact (hmember k u hu).imp_right And.left
    · rw [heq, FifoLock.queue_acquire, List.mem_append] at hu
      rcases hu with hu | hu
      · exact (hmember k u hu).imp_right And.left
      · obtain rfl := List.mem_singleton.mp hu
        rw [commit_point_self]
        exact .inr hw
  · intro k u hu
    rcases hlocks k with heq | ⟨hw, heq⟩
    · rw [heq] at hu
      exact h.waiter_released hrun k u hu
    · rw [heq] at hu
      unfold FifoLock.acquire at hu
      split at hu
      · cases hu
      · rcases List.mem_append.mp hu with hu | hu
        · exact h.waiter_released hrun k u hu
        · obtain rfl := List.mem_singleton.mp hu
          rw [commit_point_self]
          exact hw

theorem Complete.queued (hc : P.Complete holds) {s : LoopState τ κ σ π}
    (h : (P.system store₀ start).ReachableUnder C s) : Queued P holds s := by
  refine h.invariant (P := Queued P holds) ?_ fun _ _ _ _ hi _ hs => hc.queued_step hi hs
  exact ⟨fun _ _ => rfl, fun _ => List.nodup_nil, fun _ _ hu => (List.not_mem_nil hu).elim,
    fun _ _ hu => (List.not_mem_nil hu).elim⟩

/-- A task that asks for a mutex is in its queue. -/
def Enqueued (P : Program τ κ σ φ π ε) (s : LoopState τ κ σ π) : Prop :=
  ∀ t k, P.wants t (s.point t) = some k → t ∈ (s.locks k).queue

theorem Discipline.enqueued_step (hd : P.Discipline start holds) {s s' : LoopState τ κ σ π}
    {a : τ × ε} (hheld : Held holds s) (h : Enqueued P s) (hs : P.step s a = some s') :
    Enqueued P s' := by
  obtain ⟨t, e⟩ := a
  obtain ⟨hrun, seg, hseg, rfl⟩ := step_eq_some.mp hs
  intro u k hw
  by_cases hut : u = t
  · subst hut
    rw [commit_point_self] at hw
    rw [(commit_of_wants s hw).1, Function.update_self, FifoLock.queue_acquire]
    exact List.mem_append_right _ (.head _)
  · rw [commit_point_of_ne s seg hut] at hw
    -- only the holder leaves the queue, and that is `t`
    have hreleased : u ∈ (releaseLocks s.locks seg.releases k).queue := by
      by_cases hr : seg.releases = some k
      · have hmem := h u k hw
        rw [FifoLock.queue, hheld.holder hrun (hd.releases hseg hr)] at hmem
        rw [hr, releaseLocks, Function.update_self, FifoLock.queue_release]
        exact (List.mem_cons.mp hmem).resolve_left hut
      · cases hk : seg.releases with
        | none => exact h u k hw
        | some k' =>
            have hne : k ≠ k' := fun heq => hr (by rw [hk, heq])
            rw [releaseLocks, Function.update_of_ne hne]
            exact h u k hw
    rcases commit_locks (P := P) s t seg k with heq | ⟨-, heq⟩
    · rwa [heq]
    · rw [heq, FifoLock.queue_acquire]
      exact List.mem_append_left _ hreleased

theorem Discipline.enqueued (hd : P.Discipline start holds) (hstart : ∀ t, P.wants t start = none)
    {s : LoopState τ κ σ π} (h : (P.system store₀ start).ReachableUnder C s) : Enqueued P s := by
  refine h.invariant (P := Enqueued P) (fun t k hw => ?_)
    fun _ _ _ hr hi _ hs => hd.enqueued_step (hd.held hr) hi hs
  rw [show (P.system store₀ start).init.point t = start from rfl, hstart] at hw
  cases hw

/-- Nobody but `t` has asked for the mutex `k`. -/
def Only (s : LoopState τ κ σ π) (t : τ) (k : κ) : Prop := ∀ u ∈ (s.locks k).queue, u = t

theorem Only.commit {s : LoopState τ κ σ π} {t : τ} {k : κ} (h : Only s t k)
    (seg : Segment κ φ π) : Only (P.commit s t seg) t k := by
  have hreleased : ∀ u ∈ (releaseLocks s.locks seg.releases k).queue, u = t := by
    intro u hu
    cases hr : seg.releases with
    | none => exact h u (by rwa [hr] at hu)
    | some k' =>
        rw [hr, releaseLocks] at hu
        by_cases hk : k = k'
        · subst hk
          rw [Function.update_self, FifoLock.queue_release] at hu
          exact h u (List.mem_append_right _ hu)
        · rw [Function.update_of_ne hk] at hu
          exact h u hu
  intro u hu
  rcases commit_locks (P := P) s t seg k with heq | ⟨-, heq⟩
  · rw [heq] at hu
    exact hreleased u hu
  · rw [heq, FifoLock.queue_acquire] at hu
    rcases List.mem_append.mp hu with hu | hu
    · exact hreleased u hu
    · exact List.mem_singleton.mp hu

omit [DecidableEq κ] in
/-- A task that has the mutex it asks for to itself can be scheduled when nobody else
keeps the processor. -/
theorem canRun_of_only {s : LoopState τ κ σ π} {t : τ} (hq : Queued P holds s)
    (he : Enqueued P s) (hrunning : s.running = none ∨ s.running = some t)
    (honly : ∀ k, P.wants t (s.point t) = some k → Only s t k) : P.canRun s t = true := by
  have hfree : (s.running.isNone || s.running = some t) = true := by
    rcases hrunning with h | h <;> simp [h]
  rw [canRun, hfree, Bool.true_and]
  cases hw : P.wants t (s.point t) with
  | none => rfl
  | some k =>
      have hmem := he t k hw
      obtain ⟨u, us, hqueue⟩ := List.exists_cons_of_ne_nil (List.ne_nil_of_mem hmem)
      obtain ⟨hholder, -⟩ := (hq.handed k).queue_eq hqueue
      obtain rfl := honly k hw u (by rw [hqueue]; exact .head _)
      simp [hholder]

/-! ## Proof outlines -/

/-- What the rule of proof outlines knows of the state a segment starts in:
the run that led there meets `C`, the mutexes are where the points say, the
task may be scheduled, and the step about to be taken meets `C`. -/
structure At (P : Program τ κ σ φ π ε) (store₀ : σ) (start : π)
    (holds : τ → π → κ → Prop) (C : LoopState τ κ σ π → τ × ε → Prop)
    (s : LoopState τ κ σ π) (t : τ) (e : ε) (seg : Segment κ φ π) : Prop where
  run : (P.system store₀ start).ReachableUnder C s
  held : Held holds s
  canRun : P.canRun s t = true
  meets : C s (t, e)
  segment : P.segment s.store t (s.point t) e = some seg

/-- Every step of a run executes a segment of its task. -/
theorem At.of_step (hd : P.Discipline start holds) {s s' : LoopState τ κ σ π} {t : τ} {e : ε}
    (h : (P.system store₀ start).ReachableUnder C s) (hc : C s (t, e))
    (hs : P.step s (t, e) = some s') :
    ∃ seg, At P store₀ start holds C s t e seg ∧ s' = P.commit s t seg := by
  obtain ⟨hrun, seg, hseg, heq⟩ := step_eq_some.mp hs
  exact ⟨seg, ⟨h, hd.held h, hrun, hc, hseg⟩, heq.symm⟩

/-- A proof outline: a store invariant `I` and an assertion `A` for each task
at each point, such that every segment keeps `I`, establishes the assertion of
the point it parks at, and does not interfere with the other tasks'. -/
structure Outline (P : Program τ κ σ φ π ε) (store₀ : σ) (start : π)
    (holds : τ → π → κ → Prop) (C : LoopState τ κ σ π → τ × ε → Prop)
    (I : σ → Prop) (A : σ → τ → π → Prop) : Prop where
  initial : I store₀
  starts : ∀ t, A store₀ t start
  keeps : ∀ {s t e seg}, At P store₀ start holds C s t e seg → I s.store →
    (∀ u, A s.store u (s.point u)) → I (P.apply seg.effect s.store)
  establishes : ∀ {s t e seg}, At P store₀ start holds C s t e seg → I s.store →
    (∀ u, A s.store u (s.point u)) → A (P.apply seg.effect s.store) t seg.next
  spares : ∀ {s t e seg u}, At P store₀ start holds C s t e seg → I s.store →
    (∀ u, A s.store u (s.point u)) → u ≠ t → A (P.apply seg.effect s.store) u (s.point u)

/-- **The rule of proof outlines.** The store invariant and all assertions
hold in every state of the runs that meet `C`. -/
theorem Outline.sound (hd : P.Discipline start holds) {I : σ → Prop}
    {A : σ → τ → π → Prop} (ho : Outline P store₀ start holds C I A)
    {s : LoopState τ κ σ π} (h : (P.system store₀ start).ReachableUnder C s) :
    I s.store ∧ ∀ t, A s.store t (s.point t) := by
  refine h.invariant (P := fun s => I s.store ∧ ∀ t, A s.store t (s.point t))
    ⟨ho.initial, ho.starts⟩ ?_
  rintro s ⟨t, e⟩ s' hr ⟨hI, hA⟩ hc hs
  obtain ⟨seg, hat, rfl⟩ := At.of_step hd hr hc hs
  rw [commit_store]
  refine ⟨ho.keeps hat hI hA, fun u => ?_⟩
  by_cases hut : u = t
  · subst hut
    rw [commit_point_self]
    exact ho.establishes hat hI hA
  · rw [commit_point_of_ne s seg hut]
    exact ho.spares hat hI hA hut

end Program
end Coop
