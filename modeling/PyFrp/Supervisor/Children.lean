import PyFrp.Supervisor.Breaker
import PyFrp.Supervisor.Run

/-!
# The children of a run

`self.child` is the one child that is not reaped yet, as long as the run is not
over. A run leaves a child behind just if an exception ends it while the child
runs, or a `KeyboardInterrupt` does so inside `_terminate_child`.
-/

namespace PyFrp

open Python Coop

/-- The child that the supervisor has in a phase. -/
def Phase.child : Phase → Option String
  | .startup _ generation _ => some generation
  | .validation _ generation _ => some generation
  | .termination _ generation _ => some generation
  | .launched _ generation result => if result.returncode.isNone then some generation else none
  | .monitor m => some m.generation
  | _ => none

/-- A launch that gave no status gave a return code. -/
def Phase.Reports (p : Phase) : Prop :=
  ∀ target generation launch, p = .launched target generation launch →
    launch.status = none → launch.returncode ≠ none

namespace Supervisor

variable {config : SupervisorConfig} {environ : Environment} {s s' : Supervisor} {e : Event}

structure ChildOk (s : Supervisor) : Prop where
  child : s.child = s.phase.child
  reports : s.phase.Reports

/-- What the event does to `self.child`. -/
def childAfter (s : Supervisor) : Event → Option String
  | .popen generation => some generation
  | .waited (some _) => none
  | .report _ (some _) => none
  | _ => s.child

/-- A poll that found a return code was made by the loop of `_launch_child`. -/
def Polled (s : Supervisor) (e : Event) : Prop :=
  ∀ status code, e = .report status (some code) → ∀ target generation deadline,
    s.phase = .startup target generation deadline →
    s.clock < deadline ∧ childStatus generation status = none

theorem recordFailure_child (s : Supervisor) (target : String) :
    (s.recordFailure target).1.child = s.child := by
  unfold recordFailure
  dsimp only
  split <;> rfl

theorem clearSuppressionIfVersionChanged_child (s : Supervisor) (current : String) :
    (s.clearSuppressionIfVersionChanged current).child = s.child := by
  unfold clearSuppressionIfVersionChanged
  split <;> rfl

theorem ChildOk.retry {target : String} (hchild : s.child = none) :
    (s.retry target).ChildOk ∧ (s.retry target).child = s.child := by
  have hrec := recordFailure_child s target
  unfold Supervisor.retry
  dsimp only
  split
  · exact ⟨⟨hrec.trans hchild, nofun⟩, hrec⟩
  · exact ⟨⟨hrec.trans hchild, nofun⟩, hrec⟩

/-- A child that did not exit is monitored. -/
theorem ChildOk.runChildren {target : Option String} {generation : String} {launch : LaunchResult}
    (h : s.ChildOk) (hp : s.phase = .launched target generation launch) :
    (s.runChildren target generation launch).ChildOk ∧
      (s.runChildren target generation launch).child = s.child := by
  have hgone : launch.returncode ≠ none → s.child = none := fun hcode => by
    rw [h.child, hp]
    simp [Phase.child, hcode]
  have hserved : launch.stable = true → s.child = some generation := fun hstable => by
    have hcode : launch.returncode = none := by
      simpa using (Bool.and_eq_true_iff.mp hstable).2
    rw [h.child, hp]
    simp [Phase.child, hcode]
  have hunstable : launch.status ≠ none → ¬ launch.stable = true → launch.returncode ≠ none := by
    intro hstatus hstable hcode
    refine hstable (Bool.and_eq_true_iff.mpr ⟨?_, ?_⟩)
    · simpa [Option.isSome_iff_ne_none] using hstatus
    · simp [hcode]
  unfold Supervisor.runChildren
  split
  · rename_i hstatus
    exact ⟨⟨hgone (h.reports _ _ _ hp hstatus), nofun⟩, rfl⟩
  · rename_i hstatus
    exact ChildOk.retry (hgone (h.reports _ _ _ hp hstatus))
  · rename_i hstatus
    split
    · rename_i hstable
      exact ⟨⟨hserved hstable, nofun⟩, rfl⟩
    · rename_i hstable
      exact ⟨⟨hgone (hunstable (by simp [hstatus]) hstable), nofun⟩, rfl⟩
  · rename_i target hstatus
    have hrec := recordFailure_child s target
    split
    · split
      · rename_i hstable
        exact ⟨⟨hrec.trans (hserved hstable), nofun⟩, hrec⟩
      · rename_i hstable
        exact ⟨⟨hrec.trans (hgone (hunstable (by simp [hstatus]) hstable)), nofun⟩, hrec⟩
    · split
      · rename_i hstable
        exact ⟨⟨hserved hstable, nofun⟩, rfl⟩
      · rename_i hstable
        exact ChildOk.retry (hgone (hunstable (by simp [hstatus]) hstable))

theorem ChildOk.monitorChild {m : Monitor} {installed : Option String} (h : s.ChildOk)
    (hp : s.phase = .monitor m) :
    (s.monitorChild config m installed).ChildOk ∧
      (s.monitorChild config m installed).child = s.child := by
  have hchild : s.child = some m.generation := by
    rw [h.child, hp]
    rfl
  unfold Supervisor.monitorChild
  split
  · exact ⟨h, rfl⟩
  · cases installed with
    | none => exact ⟨⟨hchild, nofun⟩, rfl⟩
    | some current =>
        have hseen := clearSuppressionIfVersionChanged_child (s.observe current) current
        dsimp only
        split
        · exact ⟨⟨hseen.trans hchild, nofun⟩, hseen⟩
        · exact ⟨⟨hseen.trans hchild, nofun⟩, hseen⟩

theorem ChildOk.childWaited {returncode : Option Int} (h : s.ChildOk)
    (hs : s.childWaited returncode = some s') :
    s'.ChildOk ∧ s'.child = s.childAfter (.waited returncode) := by
  unfold Supervisor.childWaited at hs
  split at hs
  · rename_i hp
    cases hs
    refine ⟨⟨?_, ?_⟩, rfl⟩
    · rw [h.child, hp]
      rfl
    · rintro _ _ _ ⟨⟩ hstatus
      cases hstatus
  · cases hs
    refine ⟨⟨rfl, ?_⟩, rfl⟩
    rintro _ _ _ ⟨⟩ hstatus
    cases hstatus
  · rename_i hp
    cases hs
    refine ⟨⟨?_, nofun⟩, rfl⟩
    rw [h.child, hp]
    rfl
  · cases hs
    refine ⟨⟨rfl, ?_⟩, rfl⟩
    rintro _ _ _ ⟨⟩ -
    simp
  · dsimp only at hs
    split at hs
    · cases hs
      exact ⟨⟨rfl, nofun⟩, rfl⟩
    · cases hs
      exact ⟨⟨rfl, nofun⟩, rfl⟩
  · cases hs

theorem ChildOk.awaitReport {target : Option String} {generation : String} {deadline : Int}
    {status : Option Fields} {polled : Option Int} (h : s.ChildOk)
    (hp : s.phase = .startup target generation deadline)
    (hpoll : s.Polled (.report status polled)) :
    (s.awaitReport target generation deadline status polled).ChildOk ∧
      (s.awaitReport target generation deadline status polled).child =
        s.childAfter (.report status polled) := by
  have hchild : s.child = some generation := by
    rw [h.child, hp]
    rfl
  have hnone : ¬ (s.clock < deadline ∧ childStatus generation status = none) → polled = none := by
    intro hno
    cases polled with
    | none => rfl
    | some code => exact absurd (hpoll status code rfl _ _ _ hp) hno
  unfold Supervisor.awaitReport
  split
  · rename_i hclock
    split
    · rename_i hstatus
      rw [hnone fun hno => by simp [hno.2] at hstatus]
      exact ⟨⟨hchild, nofun⟩, rfl⟩
    · refine ⟨⟨rfl, ?_⟩, rfl⟩
      rintro _ _ _ ⟨⟩ -
      simp
    · exact ⟨h, rfl⟩
  · rename_i hclock
    rw [hnone fun hno => hclock hno.1]
    exact ⟨⟨hchild, nofun⟩, rfl⟩

theorem ChildOk.step (h : s.ChildOk) (hpoll : s.Polled e) (hs : s.step config e = some s') :
    s'.ChildOk ∧ s'.child = s.childAfter e := by
  unfold Supervisor.step at hs
  split at hs
  · split at hs
    · cases hs
      exact ⟨⟨h.child, h.reports⟩, rfl⟩
    · cases hs
  · split at hs
    · cases hs
    · cases hs
      exact ⟨⟨rfl, nofun⟩, rfl⟩
  · cases hs
    exact h.awaitReport ‹_› hpoll
  · exact h.childWaited hs
  · cases hs
    exact h.runChildren ‹_›
  · cases hs
    exact h.monitorChild ‹_›
  · rename_i hp
    cases hs
    have hchild : s.child = none := by
      rw [h.child, hp]
      rfl
    unfold Supervisor.handOver
    split
    · exact ⟨⟨hchild, nofun⟩, rfl⟩
    · exact ⟨⟨hchild, nofun⟩, rfl⟩
  · rename_i target hp
    cases hs
    have hchild : s.child = none := by
      rw [h.child, hp]
      rfl
    unfold Supervisor.waitUntilSuppressionClears
    split
    · exact ⟨h, rfl⟩
    · split
      · exact ⟨⟨h.child, h.reports⟩, rfl⟩
      · rename_i current hne
        have hseen := clearSuppressionIfVersionChanged_child (s.observe current) current
        exact ⟨⟨hseen.trans hchild, nofun⟩, hseen⟩
  · cases hs

/-- A child is started when there is none. -/
theorem ChildOk.popen {generation : String} (h : s.ChildOk)
    (hs : s.step config (.popen generation) = some s') : s.child = none := by
  rw [h.child]
  cases hp : s.phase with
  | launch target => rfl
  | _ => simp [Supervisor.step, hp] at hs

end Supervisor

namespace SupervisorRun

variable {config : SupervisorConfig} {environ : Environment} {s s' : SupervisorRun} {e : Event}

/-- The process was started and is not reaped. -/
def Unreaped (s : SupervisorRun) (generation : String) : Prop :=
  ∃ p, s.processes generation = some p ∧ p.isReaped = false

/-- No child is alive. -/
def NoneRunning (s : SupervisorRun) : Prop := ∀ generation, s.processes generation ≠ some .running

/-- `self.child` is the one child that is not reaped. -/
def OnlyChild (s : SupervisorRun) : Prop :=
  ∀ generation, s.Unreaped generation ↔ s.supervisor.child = some generation

structure RunOk (s : SupervisorRun) : Prop where
  inner : s.stage = .children → s.supervisor.ChildOk
  only : s.isOver = false → s.OnlyChild

/-- The step ends the run while the child runs: with an exception other than
`KeyboardInterrupt`, or with one that leaves a wait of `_terminate_child`. -/
def abandons (s : SupervisorRun) : Event → Bool
  | .raised _ => s.childRunning
  | .interrupt (some _) => s.childRunning
  | .interrupt none =>
      match s.supervisor.phase with
      | .termination .. => s.childRunning
      | _ => false
  | _ => false

theorem noneRunning_of_none (h : s.OnlyChild) (hchild : s.supervisor.child = none) :
    s.NoneRunning := by
  intro generation hrun
  have hmem := (h generation).mp ⟨_, hrun, rfl⟩
  rw [hchild] at hmem
  cases hmem

theorem noneRunning_iff (h : s.OnlyChild) : s.NoneRunning ↔ s.childRunning = false := by
  unfold childRunning
  cases hchild : s.supervisor.child with
  | none => simpa using noneRunning_of_none h hchild
  | some generation =>
      simp only [Option.any_some, decide_eq_false_iff_not]
      refine ⟨fun hnone => hnone generation, fun hno g hrun => ?_⟩
      have hmem := (h g).mp ⟨_, hrun, rfl⟩
      rw [hchild] at hmem
      cases hmem
      exact hno hrun

/-- The child is reaped and forgotten. -/
theorem OnlyChild.reap {code : Int} {t : Supervisor} (h : s.OnlyChild) (hchild : t.child = none) :
    OnlyChild { s.reap code with supervisor := t } := by
  intro g
  simp only [hchild, reduceCtorEq, iff_false]
  rintro ⟨p, hp, hreaped⟩
  unfold SupervisorRun.reap at hp
  cases hc : s.supervisor.child with
  | none =>
      rw [hc] at hp
      have hmem := (h g).mp ⟨p, hp, hreaped⟩
      rw [hc] at hmem
      cases hmem
  | some generation =>
      rw [hc] at hp
      by_cases hg : g = generation
      · subst hg
        simp at hp
        rw [← hp] at hreaped
        cases hreaped
      · simp only [Function.update_of_ne hg] at hp
        have hmem := (h g).mp ⟨p, hp, hreaped⟩
        rw [hc] at hmem
        cases hmem
        exact hg rfl

theorem OnlyChild.start {generation : String} {t : Supervisor} (h : s.OnlyChild)
    (hnone : s.supervisor.child = none) (hchild : t.child = some generation) :
    OnlyChild ⟨t, Function.update s.processes generation (some .running), s.stage⟩ := by
  intro g
  rw [hchild]
  by_cases hg : g = generation
  · subst hg
    exact iff_of_true ⟨.running, by simp, rfl⟩ rfl
  · refine iff_of_false ?_ fun heq => hg (Option.some.inj heq).symm
    rintro ⟨p, hp, hreaped⟩
    simp only [Function.update_of_ne hg] at hp
    have hmem := (h g).mp ⟨p, hp, hreaped⟩
    rw [hnone] at hmem
    cases hmem

theorem OnlyChild.exit {generation : String} {code : Int} (h : s.OnlyChild)
    (hrun : s.processes generation = some .running) :
    OnlyChild { s with
      processes := Function.update s.processes generation (some (.exited code)) } := by
  intro g
  refine Iff.trans ?_ (h g)
  unfold Unreaped
  by_cases hg : g = generation
  · subst hg
    exact iff_of_true ⟨_, Function.update_self .., rfl⟩ ⟨_, hrun, rfl⟩
  · simp only [Function.update_of_ne hg]

/-- The events agree with the processes, so that a poll that found a code was made. -/
theorem polled_of_agrees {e : Supervisor.Event} (h : s.agrees e = true) :
    s.supervisor.Polled e := by
  rintro status code rfl target generation deadline hp
  have heq : some code = if s.polls status then s.childCode else none := by simpa [agrees] using h
  split at heq
  · rename_i hpolls
    simpa [polls, hp] using hpolls
  · cases heq

theorem RunOk.runChildren {e : Supervisor.Event} (h : RunOk s) (hstage : s.stage = .children)
    (hs : s.runChildren config e = some s') : RunOk s' ∧ s'.stage = .children := by
  have honly : s.OnlyChild := h.only (by simp [isOver, hstage])
  unfold SupervisorRun.runChildren at hs
  split at hs
  · rename_i hagrees
    obtain ⟨t, ht, rfl⟩ := Option.map_eq_some_iff.mp hs
    obtain ⟨hok, hchild⟩ := (h.inner hstage).step (polled_of_agrees hagrees) ht
    have hsame : s.track e = s → s.supervisor.childAfter e = s.supervisor.child →
        RunOk { s.track e with supervisor := t } ∧
          ({ s.track e with supervisor := t } : SupervisorRun).stage = .children := by
      intro htrack hafter
      rw [htrack]
      refine ⟨⟨fun _ => hok, fun _ g => ?_⟩, hstage⟩
      rw [hchild, hafter]
      exact honly g
    have hreap : ∀ code, s.track e = s.reap code → s.supervisor.childAfter e = none →
        RunOk { s.track e with supervisor := t } ∧
          ({ s.track e with supervisor := t } : SupervisorRun).stage = .children := by
      intro code htrack hafter
      rw [htrack]
      refine ⟨⟨fun _ => hok, fun _ => honly.reap (hchild.trans hafter)⟩, ?_⟩
      unfold SupervisorRun.reap
      split <;> exact hstage
    cases e with
    | popen generation =>
        have hnone := (h.inner hstage).popen ht
        exact ⟨⟨fun _ => hok, fun _ => honly.start hnone hchild⟩, hstage⟩
    | waited returncode =>
        cases returncode with
        | none => exact hsame rfl rfl
        | some code => exact hreap code rfl rfl
    | report status polled =>
        cases polled with
        | none => exact hsame rfl rfl
        | some code => exact hreap code rfl rfl
    | elapse now => exact hsame rfl rfl
    | resume => exact hsame rfl rfl
    | poll installed => exact hsame rfl rfl
    | handoff state => exact hsame rfl rfl
    | slept installed => exact hsame rfl rfl
  · cases hs

theorem RunOk.of_over {r : RunResult} (hstage : s'.stage = .ended r) : RunOk s' where
  inner h := by
    rw [hstage] at h
    cases h
  only h := by simp [isOver, hstage] at h

theorem RunOk.of_stopping {p : Stopping} (hstage : s.stage = .stopping p) (honly : s.OnlyChild) :
    RunOk s where
  inner h := by
    rw [hstage] at h
    cases h
  only _ := honly

theorem isOver_of_children (h : s.stage = .children) : s.isOver = false := by
  simp [isOver, h]

/-- What a `KeyboardInterrupt` with a child that is still known leads to. -/
theorem RunOk.afterInterrupt (cleanup : Option String) (honly : s.OnlyChild) :
    RunOk (s.afterInterrupt cleanup) ∧ ((s.afterInterrupt cleanup).isOver = true →
      ((s.afterInterrupt cleanup).NoneRunning ↔ cleanup = none ∨ s.childRunning = false)) := by
  cases cleanup with
  | some text =>
      refine ⟨.of_over rfl, fun _ => (noneRunning_iff honly).trans ?_⟩
      simp
  | none =>
      unfold SupervisorRun.afterInterrupt finishInterruptedChild
      dsimp only
      split
      · rename_i hchild
        refine ⟨.of_over rfl, fun _ => ?_⟩
        exact iff_of_true (noneRunning_of_none honly hchild) (.inl rfl)
      · exact ⟨.of_stopping rfl honly, fun h => absurd h (by simp [isOver])⟩

theorem RunOk.interruptChildren {cleanup : Option String} (h : RunOk s)
    (hstage : s.stage = .children) (hs : s.interruptChildren cleanup = some s') :
    RunOk s' ∧ (s'.isOver = true → (s'.NoneRunning ↔ s.abandons (.interrupt cleanup) = false)) := by
  have honly : s.OnlyChild := h.only (isOver_of_children hstage)
  have hafter : (cleanup = none → s.abandons (.interrupt none) = false) →
      RunOk (s.afterInterrupt cleanup) ∧ ((s.afterInterrupt cleanup).isOver = true →
        ((s.afterInterrupt cleanup).NoneRunning ↔ s.abandons (.interrupt cleanup) = false)) := by
    intro hnone
    obtain ⟨hok, hover⟩ := RunOk.afterInterrupt cleanup honly
    refine ⟨hok, fun hend => (hover hend).trans ?_⟩
    cases cleanup with
    | none => simpa using hnone rfl
    | some text => simp [abandons]
  unfold SupervisorRun.interruptChildren at hs
  split at hs
  · rename_i hp
    cases hs
    exact hafter fun _ => by simp [abandons, hp]
  · rename_i hp
    cases hs
    exact hafter fun _ => by simp [abandons, hp]
  · rename_i hp
    cases hs
    -- the child is forgotten, whether it has exited or not
    have habandons : s.abandons (.interrupt cleanup) = s.childRunning := by
      cases cleanup <;> simp [abandons, hp]
    rw [habandons, ← noneRunning_iff honly]
    cases cleanup with
    | none =>
        have heq : s.withoutChild.afterInterrupt none = s.withoutChild.endWith (.returned 130) := by
          simp [SupervisorRun.afterInterrupt, finishInterruptedChild, withoutChild]
        rw [heq]
        exact ⟨.of_over rfl, fun _ => Iff.rfl⟩
    | some text => exact ⟨.of_over rfl, fun _ => Iff.rfl⟩
  · rename_i hp
    cases hs
    exact hafter fun _ => by simp [abandons, hp]
  · rename_i hp
    cases hs
    exact hafter fun _ => by simp [abandons, hp]
  · cases hs

theorem RunOk.step (h : RunOk s) (hnot : s.isOver = false) (hs : s.step config e = some s') :
    RunOk s' ∧ (s'.isOver = true → (s'.NoneRunning ↔ s.abandons e = false)) := by
  have honly := h.only hnot
  cases e with
  | exit generation code =>
      simp only [SupervisorRun.step] at hs
      split at hs
      · rename_i hrun
        cases hs
        refine ⟨⟨h.inner, fun _ => honly.exit hrun⟩, fun hend => ?_⟩
        exact absurd (hnot.symm.trans hend) (by simp)
      · cases hs
  | inner e =>
      simp only [SupervisorRun.step] at hs
      split at hs
      · rename_i hstage
        obtain ⟨hok, hstage'⟩ := h.runChildren hstage hs
        refine ⟨hok, fun hend => ?_⟩
        rw [isOver_of_children hstage'] at hend
        cases hend
      · cases hs
  | raised text =>
      have hover : ∀ {t : SupervisorRun}, t.processes = s.processes → t.stage = .ended (.raised text) →
          RunOk t ∧ (t.isOver = true → (t.NoneRunning ↔ s.abandons (.raised text) = false)) := by
        intro t hprocesses hstage
        refine ⟨.of_over hstage, fun _ => ?_⟩
        refine Iff.trans ?_ (noneRunning_iff honly)
        simp [NoneRunning, hprocesses]
      simp only [SupervisorRun.step] at hs
      split at hs
      · unfold raiseChildren at hs
        split at hs
        · cases hs
          exact hover rfl rfl
        · cases hs
        · cases hs
        · cases hs
          exact hover rfl rfl
      · cases hs
        exact hover rfl rfl
      · cases hs
  | interrupt cleanup =>
      simp only [SupervisorRun.step] at hs
      split at hs
      · rename_i hstage
        exact h.interruptChildren hstage hs
      · cases hs
  | leave cleanup =>
      simp only [SupervisorRun.step] at hs
      split at hs
      · rename_i hstage
        have hnone : ∀ code, s.supervisor.phase = .finished code → s.NoneRunning := fun code hp =>
          noneRunning_of_none honly (by rw [(h.inner hstage).child, hp]; rfl)
        unfold SupervisorRun.leave at hs
        split at hs
        · rename_i hp
          cases hs
          exact ⟨.of_over rfl, fun _ => iff_of_true (hnone _ hp) rfl⟩
        · rename_i hp
          cases hs
          exact ⟨.of_over rfl, fun _ => iff_of_true (hnone _ hp) rfl⟩
        · cases hs
      · cases hs
  | stop returncode =>
      simp only [SupervisorRun.step] at hs
      split at hs
      · rename_i p hstage
        cases returncode with
        | some code =>
            simp only [SupervisorRun.stop] at hs
            split at hs
            · cases hs
              have hreaped : OnlyChild ((s.reap code).withoutChild) := honly.reap rfl
              exact ⟨.of_over rfl, fun _ => iff_of_true (noneRunning_of_none hreaped rfl) rfl⟩
            · cases hs
        | none =>
            cases p with
            | wait =>
                cases hs
                exact ⟨.of_stopping rfl honly, fun h => absurd h (by simp [isOver])⟩
            | terminated =>
                cases hs
                exact ⟨.of_stopping rfl honly, fun h => absurd h (by simp [isOver])⟩
            | killed => cases hs
      · cases hs

theorem RunOk.initial : RunOk (initial environ) where
  inner _ := ⟨rfl, nofun⟩
  only _ generation := by
    refine iff_of_false ?_ (by simp [SupervisorRun.initial, Supervisor.initial])
    rintro ⟨p, hp, -⟩
    cases hp

/-- After the run, children can only exit. -/
theorem step_of_over (hover : s.isOver = true) (hs : s.step config e = some s') :
    s'.isOver = true ∧ (s.NoneRunning → s'.NoneRunning) := by
  obtain ⟨r, hstage⟩ : ∃ r, s.stage = .ended r := by
    unfold isOver at hover
    split at hover
    · exact ⟨_, ‹_›⟩
    · cases hover
  cases e with
  | exit generation code =>
      simp only [SupervisorRun.step] at hs
      split at hs
      · rename_i hrun
        cases hs
        exact ⟨hover, fun hnone => absurd hrun (hnone generation)⟩
      · cases hs
  | _ => simp [SupervisorRun.step, hstage] at hs

theorem runOk (h : (supervisorRun config environ).Reachable s) : RunOk s := by
  refine h.invariant .initial fun s e s' _ hok _ hs => ?_
  cases hnot : s.isOver with
  | false => exact (hok.step hnot hs).1
  | true =>
      obtain ⟨hover, -⟩ := step_of_over hnot hs
      refine ⟨fun hstage => ?_, fun hno => ?_⟩
      · rw [isOver_of_children hstage] at hover
        cases hover
      · rw [hno] at hover
        cases hover

/-! ## No orphan -/

abbrev KeepsChild (s : SupervisorRun) (e : Event) : Prop := s.abandons e = false

/-- A run leaves no child behind if none of its steps abandons one; and a step
that ends the run leaves none behind only if it does not. -/
theorem no_orphan :
    (∀ s, (supervisorRun config environ).ReachableUnder KeepsChild s → s.isOver = true →
      s.NoneRunning) ∧
    ∀ s e s', (supervisorRun config environ).Reachable s → s.isOver = false →
      (supervisorRun config environ).step s e = some s' → s'.isOver = true →
      (s'.NoneRunning ↔ KeepsChild s e) := by
  refine ⟨fun s h => ?_, fun s e s' h hnot hs hover => ((runOk h).step hnot hs).2 hover⟩
  refine h.invariant (P := fun s => s.isOver = true → s.NoneRunning) (by intro h; cases h) ?_
  intro s e s' hr hnone hkeeps hs hover
  cases hnot : s.isOver with
  | false => exact (((runOk hr.reachable).step hnot hs).2 hover).mpr hkeeps
  | true => exact (step_of_over hnot hs).2 (hnone hnot)

/-- A child is started, and reports version 0.6 in time. -/
def servedRun (generation : String) : List Event :=
  (Supervisor.served generation).map .inner

/-- A child that ignores the console and its termination is killed. -/
def killedRun : List Event :=
  servedRun "a" ++ [.interrupt none, .stop none, .stop none, .exit "a" (-9), .stop (some (-9))]

theorem no_orphan_killed : ∃ s : SupervisorRun, s.stage = .ended (.returned 130) ∧
    s.processes "a" = some (.reaped (-9)) ∧ s.NoneRunning := by
  have hrun : ((supervisorRun Supervisor.exampleSupervisor .empty).execWhile
      (fun s e => !s.abandons e) (supervisorRun Supervisor.exampleSupervisor .empty).init
      killedRun).map (fun s => (s.stage, s.processes "a")) =
      some (.ended (.returned 130), some (.reaped (-9))) := by rfl
  obtain ⟨s, hr, hs⟩ := System.exists_of_execWhile_map _ (fun _ _ _ h => by simpa using h) hrun
  obtain ⟨hstage, hprocess⟩ := Prod.mk.inj hs
  exact ⟨s, hstage, hprocess, no_orphan.1 s hr (by simp [isOver, hstage])⟩

/-- The command file cannot be written: the run raises, and its child runs on. -/
def raisedRun : List Event := servedRun "a" ++ [.inner (.poll (some "0.7")), .raised "OSError"]

/-- A child does not report for ten seconds and ignores its termination, and a
`KeyboardInterrupt` arrives while the supervisor waits for it. -/
def interruptedRun : List Event :=
  [.inner (.popen "a"), .inner (.elapse startupReportTimeout), .inner (.report none none),
    .interrupt none]

/-- Both runs leave a child behind. -/
theorem child_orphaned :
    (∃ s, (supervisorRun Supervisor.exampleSupervisor .empty).Reachable s ∧
      s.stage = .ended (.raised "OSError") ∧ s.processes "a" = some .running) ∧
    ∃ s, (supervisorRun Supervisor.exampleSupervisor .empty).Reachable s ∧
      s.stage = .ended (.returned 130) ∧ s.processes "a" = some .running := by
  have hraised : ((supervisorRun Supervisor.exampleSupervisor .empty).execWhile (fun _ _ => true)
      (supervisorRun Supervisor.exampleSupervisor .empty).init raisedRun).map
        (fun s => (s.stage, s.processes "a")) =
      some (.ended (.raised "OSError"), some .running) := by rfl
  have hinterrupted : ((supervisorRun Supervisor.exampleSupervisor .empty).execWhile
      (fun _ _ => true) (supervisorRun Supervisor.exampleSupervisor .empty).init
      interruptedRun).map (fun s => (s.stage, s.processes "a")) =
      some (.ended (.returned 130), some .running) := by rfl
  obtain ⟨s, hr, hs⟩ := System.exists_of_execWhile_map _ (fun _ _ _ _ => trivial) hraised
  obtain ⟨t, ht, hts⟩ := System.exists_of_execWhile_map _ (fun _ _ _ _ => trivial) hinterrupted
  exact ⟨⟨s, hr, (Prod.mk.inj hs).1, (Prod.mk.inj hs).2⟩,
    ⟨t, ht, (Prod.mk.inj hts).1, (Prod.mk.inj hts).2⟩⟩

/-! ## One child at a time -/

/-- Neither a `KeyboardInterrupt` nor another exception arrives. -/
def undisturbed : Event → Bool
  | .raised _ => false
  | .interrupt _ => false
  | _ => true

abbrev Undisturbed (_ : SupervisorRun) (e : Event) : Prop := undisturbed e = true

/-- The process was started and is reaped. -/
def Reaped (s : SupervisorRun) (generation : String) : Prop :=
  ∃ code, s.processes generation = some (.reaped code)

structure OneChild (config : SupervisorConfig) (s : SupervisorRun) : Prop where
  /-- `self.child` is `None` or the one child that is not reaped. -/
  only : s.OnlyChild
  /-- At a call of `Popen` every child that was started has been reaped. -/
  popen : ∀ generation s', s.step config (.inner (.popen generation)) = some s' →
    ∀ g, s.processes g ≠ none → s.Reaped g
  /-- `_monitor_child` has the child of the generation it is given, unreaped. -/
  monitor : ∀ m, s.supervisor.phase = .monitor m →
    s.supervisor.child = some m.generation ∧ s.Unreaped m.generation
  /-- When `_run_children` returns, every child that was started has been reaped. -/
  finished : ∀ code, s.supervisor.phase = .finished code → ∀ g, s.processes g ≠ none → s.Reaped g

theorem reaped_of_not_unreaped {generation : String} (h : ¬ s.Unreaped generation)
    (hstarted : s.processes generation ≠ none) : s.Reaped generation := by
  obtain ⟨p, hp⟩ := Option.ne_none_iff_exists'.mp hstarted
  cases p with
  | running => exact absurd ⟨_, hp, rfl⟩ h
  | exited code => exact absurd ⟨_, hp, rfl⟩ h
  | reaped code => exact ⟨code, hp⟩

theorem OnlyChild.reaped (h : s.OnlyChild) (hchild : s.supervisor.child = none) (g : String)
    (hstarted : s.processes g ≠ none) : s.Reaped g := by
  refine reaped_of_not_unreaped (fun hun => ?_) hstarted
  rw [(h g).mp hun] at hchild
  cases hchild

/-- Without interrupts a run stays in `_run_children`, or ends after its return. -/
structure RunsOn (s : SupervisorRun) : Prop where
  inner : s.supervisor.ChildOk
  only : s.OnlyChild
  stage : ∀ p, s.stage ≠ .stopping p

theorem RunsOn.step (h : RunsOn s) (hu : Undisturbed s e) (hs : s.step config e = some s') :
    RunsOn s' := by
  cases e with
  | exit generation code =>
      simp only [SupervisorRun.step] at hs
      split at hs
      · rename_i hrun
        cases hs
        exact ⟨h.inner, h.only.exit hrun, h.stage⟩
      · cases hs
  | inner e =>
      simp only [SupervisorRun.step] at hs
      split at hs
      · rename_i hstage
        have hok : RunOk s := ⟨fun _ => h.inner, fun _ => h.only⟩
        obtain ⟨hok', hstage'⟩ := hok.runChildren hstage hs
        exact ⟨hok'.inner hstage', hok'.only (isOver_of_children hstage'), by simp [hstage']⟩
      · cases hs
  | raised text => cases hu
  | interrupt cleanup => cases hu
  | leave cleanup =>
      simp only [SupervisorRun.step] at hs
      split at hs
      · unfold SupervisorRun.leave at hs
        split at hs
        · cases hs
          exact ⟨h.inner, h.only, by simp [SupervisorRun.endWith]⟩
        · cases hs
          exact ⟨h.inner, h.only, by simp [SupervisorRun.endWith]⟩
        · cases hs
      · cases hs
  | stop returncode =>
      simp only [SupervisorRun.step] at hs
      split at hs
      · exact absurd ‹_› (h.stage _)
      · cases hs

/-- There is one child at a time. -/
theorem one_child (h : (supervisorRun config environ).ReachableUnder Undisturbed s) :
    OneChild config s := by
  have hok : RunsOn s := by
    refine h.invariant ⟨RunOk.initial.inner rfl, RunOk.initial.only rfl, ?_⟩
      fun _ _ _ _ hok hu hs => hok.step hu hs
    simp [supervisorRun, SupervisorRun.initial]
  refine ⟨hok.only, fun generation s' hs => ?_, fun m hp => ?_, fun code hp => ?_⟩
  · simp only [SupervisorRun.step] at hs
    split at hs
    · unfold SupervisorRun.runChildren at hs
      split at hs
      · obtain ⟨t, ht, -⟩ := Option.map_eq_some_iff.mp hs
        exact hok.only.reaped (hok.inner.popen ht)
      · cases hs
    · cases hs
  · have hchild : s.supervisor.child = some m.generation := by
      rw [hok.inner.child, hp]
      rfl
    exact ⟨hchild, (hok.only _).mpr hchild⟩
  · refine hok.only.reaped ?_
    rw [hok.inner.child, hp]
    rfl

/-- The child is replaced by a second one, which is monitored. -/
theorem one_child_replaced : ∃ s : SupervisorRun, s.supervisor.child = some "b" ∧
    s.processes "a" = some (.reaped 75) ∧ OneChild Supervisor.exampleSupervisor s := by
  have hrun : ((supervisorRun Supervisor.exampleSupervisor .empty).execWhile
      (fun _ e => undisturbed e) (supervisorRun Supervisor.exampleSupervisor .empty).init
      (servedRun "a" ++ [.inner (.poll (some "0.7")), .exit "a" 75, .inner (.waited (some 75)),
        .inner (.handoff (Supervisor.returned "a" "0.7"))] ++ servedRun "b")).map
          (fun s => (s.supervisor.child, s.processes "a")) =
      some (some "b", some (.reaped 75)) := by rfl
  obtain ⟨s, hr, hs⟩ := System.exists_of_execWhile_map _ (fun _ _ _ h => h) hrun
  obtain ⟨hchild, hprocess⟩ := Prod.mk.inj hs
  exact ⟨s, hchild, hprocess, one_child hr⟩

end SupervisorRun
end PyFrp
