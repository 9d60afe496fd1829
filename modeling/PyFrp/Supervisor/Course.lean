import PyFrp.Supervisor.Children

/-!
# The course of `_run_children`

What a step of the supervisor does to the child it is about, to the version it takes
this child to have, and to the target it pursues: what the child and the files have to
say comes in at four places, and everything else is kept or dropped.
-/

namespace PyFrp

open Python Coop

/-- The generation of the child that a phase is about. -/
def Phase.generation : Phase → Option String
  | .startup _ generation _ => some generation
  | .validation _ generation _ => some generation
  | .termination _ generation _ => some generation
  | .launched _ generation _ => some generation
  | .monitor m => some m.generation
  | .restarting generation _ => some generation
  | _ => none

/-- The version that the child is taken to have. -/
def Phase.judged : Phase → Option String
  | .validation _ _ status => some status.version
  | .launched _ _ result => result.status.map ChildStatus.version
  | .monitor m => some m.childVersion
  | _ => none

/-- The target that is launched or waited for. -/
def Phase.pursued : Phase → Option String
  | .waiting target => some target
  | p => p.target

/-- The phase `p'` says nothing that `p` does not say. -/
structure Phase.Keeps (p p' : Phase) : Prop where
  generation : ∀ g, p'.generation = some g → p.generation = some g
  judged : ∀ version, p'.judged = some version → p.judged = some version
  pursued : ∀ T, p'.pursued = some T → p.pursued = some T

theorem Phase.Keeps.refl {p : Phase} : p.Keeps p := ⟨fun _ h => h, fun _ h => h, fun _ h => h⟩

theorem Phase.Keeps.finished {p : Phase} {returncode : Int} : p.Keeps (.finished returncode) :=
  ⟨nofun, nofun, nofun⟩

/-- A target goes on to be pursued, by a phase without a child. -/
theorem Phase.Keeps.again {p p' : Phase} {T : String} (hp : p.target = some T)
    (hpursued : p'.pursued = some T) (hgeneration : p'.generation = none)
    (hjudged : p'.judged = none) : p.Keeps p' where
  generation g hg := by
    rw [hgeneration] at hg
    cases hg
  judged version hversion := by
    rw [hjudged] at hversion
    cases hversion
  pursued T' hT := by
    have heq : T = T' := Option.some.inj (hpursued.symm.trans hT)
    subst heq
    cases p with
    | waiting target => cases hp
    | _ => exact hp

namespace Supervisor

variable {config : SupervisorConfig} {environ : Environment} {s s' : Supervisor} {e : Event}

/-- The step from `s` to `s'`, seen from the child. -/
inductive Course (config : SupervisorConfig) (s : Supervisor) (e : Event) (s' : Supervisor) : Prop
  | kept : s.phase.Keeps s'.phase → s'.launches = s.launches → s'.requests = s.requests →
      Course config s e s'
  | launched {target : Option String} {generation : String} : e = .popen generation →
      s.phase = .launch target → s' = s.startChild config target generation →
      Course config s e s'
  | reported {target : Option String} {generation : String} {deadline : Int}
      {payload : Option Fields} {polled : Option Int} {status : ChildStatus} :
      e = .report payload polled → s.phase = .startup target generation deadline →
      childStatus generation payload = some status →
      s' = { s with phase := .validation target generation status } → Course config s e s'
  | requested {m : Monitor} {current : String} : e = .poll (some current) → s.phase = .monitor m →
      config.autoRestart = true → m.nextCheck ≤ s.clock → current ≠ m.childVersion →
      s'.phase = .monitor
        { m with nextCheck := s.clock + config.updateInterval, requestedTarget := some current } →
      s'.launches = s.launches → s'.requests = (m.generation, current) :: s.requests →
      Course config s e s'
  | handed {generation restartTarget : String} {payload : Option Fields} {state : RestartState} :
      e = .handoff payload → s.phase = .restarting generation restartTarget →
      restartState generation payload = some state →
      s'.phase = .launch (some (nextTarget state restartTarget)) → s'.launches = s.launches →
      s'.requests = s.requests → Course config s e s'
  | freed {target current : String} : e = .slept (some current) → s.phase = .waiting target →
      s'.phase = .launch (some current) → s'.launches = s.launches → s'.requests = s.requests →
      Course config s e s'

theorem Course.retry {target generation : String} {launch : LaunchResult}
    (hp : s.phase = .launched (some target) generation launch) :
    Course config s e (s.retry target) := by
  have htarget : s.phase.target = some target := by
    rw [hp]
    rfl
  show Course config s e (if (s.recordFailure target).2 then _ else _)
  split
  · exact .kept (.again htarget rfl rfl rfl) (recordFailure_launches s target)
      (recordFailure_requests s target)
  · exact .kept (.again htarget rfl rfl rfl) (recordFailure_launches s target)
      (recordFailure_requests s target)

theorem Course.runChildren {target : Option String} {generation : String} {launch : LaunchResult}
    (hp : s.phase = .launched target generation launch) :
    Course config s e (s.runChildren target generation launch) := by
  -- a child that is monitored is the one whose status was read
  have hserved : ∀ status, launch.status = some status →
      s.phase.Keeps (.monitor ⟨generation, status.version, 0, none⟩) := by
    intro status hstatus
    rw [hp]
    refine ⟨fun _ h => h, fun version h => ?_, nofun⟩
    show launch.status.map ChildStatus.version = some version
    rw [hstatus]
    exact h
  unfold Supervisor.runChildren
  split
  · exact .kept .finished rfl rfl
  · exact .retry hp
  · rename_i status hstatus
    split
    · exact .kept (hserved status hstatus) rfl rfl
    · exact .kept .finished rfl rfl
  · rename_i status target hstatus
    have htarget : s.phase.target = some target := by
      rw [hp]
      rfl
    split
    · split
      · exact .kept (hserved status hstatus) (recordFailure_launches s target)
          (recordFailure_requests s target)
      · exact .kept (.again htarget rfl rfl rfl) (recordFailure_launches s target)
          (recordFailure_requests s target)
    · split
      · exact .kept (hserved status hstatus) rfl rfl
      · exact .retry hp

theorem Course.monitorChild {m : Monitor} {installed : Option String} (hp : s.phase = .monitor m) :
    Course config s (.poll installed) (s.monitorChild config m installed) := by
  have hkeeps : ∀ m' : Monitor, m'.generation = m.generation → m'.childVersion = m.childVersion →
      s.phase.Keeps (.monitor m') := by
    intro m' hgeneration hversion
    rw [hp]
    refine ⟨fun g h => ?_, fun version h => ?_, nofun⟩
    · exact (congrArg some hgeneration).symm.trans h
    · exact (congrArg some hversion).symm.trans h
  unfold Supervisor.monitorChild
  split
  · exact .kept .refl rfl rfl
  · rename_i hdue
    have hauto : config.autoRestart = true := by
      cases hauto : config.autoRestart with
      | true => rfl
      | false => exact absurd (.inl (by rw [hauto]; rfl)) hdue
    have hclock : m.nextCheck ≤ s.clock := by
      by_contra hlt
      exact hdue (.inr (by omega))
    cases installed with
    | none => exact .kept (hkeeps _ rfl rfl) rfl rfl
    | some current =>
        dsimp only
        split
        · exact .kept (hkeeps _ rfl rfl) (seen_launches s current) (seen_requests s current)
        · rename_i hnew
          refine .requested rfl hp hauto hclock (fun h => hnew (.inl h)) rfl
            (seen_launches s current) ?_
          exact congrArg ((m.generation, current) :: ·) (seen_requests s current)

theorem Course.childWaited {returncode : Option Int} (hs : s.childWaited returncode = some s') :
    Course config s (.waited returncode) s' := by
  unfold Supervisor.childWaited at hs
  split at hs
  · rename_i hp
    cases hs
    exact .kept (hp ▸ ⟨fun _ h => h, fun _ h => h, fun _ h => h⟩) rfl rfl
  · rename_i hp
    cases hs
    exact .kept (hp ▸ ⟨fun _ h => h, fun _ h => h, fun _ h => h⟩) rfl rfl
  · rename_i hp
    cases hs
    exact .kept (hp ▸ ⟨fun _ h => h, fun _ h => h, fun _ h => h⟩) rfl rfl
  · rename_i hp
    cases hs
    exact .kept (hp ▸ ⟨fun _ h => h, nofun, fun _ h => h⟩) rfl rfl
  · rename_i hp
    dsimp only at hs
    split at hs
    · cases hs
      exact .kept (hp ▸ ⟨fun _ h => h, nofun, nofun⟩) rfl rfl
    · cases hs
      exact .kept .finished rfl rfl
  · cases hs

theorem Course.awaitReport {target : Option String} {generation : String} {deadline : Int}
    {status : Option Fields} {polled : Option Int}
    (hp : s.phase = .startup target generation deadline) :
    Course config s (.report status polled)
      (s.awaitReport target generation deadline status polled) := by
  unfold Supervisor.awaitReport
  split
  · split
    · rename_i hstatus
      exact .reported rfl hp hstatus rfl
    · exact .kept (hp ▸ ⟨fun _ h => h, nofun, fun _ h => h⟩) rfl rfl
    · exact .kept .refl rfl rfl
  · exact .kept (hp ▸ ⟨fun _ h => h, nofun, fun _ h => h⟩) rfl rfl

theorem step_course (hs : s.step config e = some s') : Course config s e s' := by
  unfold step at hs
  split at hs
  · split at hs
    · cases hs
      exact .kept .refl rfl rfl
    · cases hs
  · rename_i hp
    split at hs
    · cases hs
    · cases hs
      exact .launched rfl hp rfl
  · cases hs
    exact .awaitReport ‹_›
  · exact .childWaited hs
  · cases hs
    exact .runChildren ‹_›
  · cases hs
    exact .monitorChild ‹_›
  · rename_i hp
    cases hs
    unfold Supervisor.handOver
    split
    · exact .kept .finished rfl rfl
    · rename_i hstate
      exact .handed rfl hp hstate rfl rfl rfl
  · rename_i hp
    cases hs
    unfold Supervisor.waitUntilSuppressionClears
    split
    · exact .kept .refl rfl rfl
    · split
      · exact .kept .refl rfl rfl
      · rename_i current _
        exact .freed rfl hp rfl (seen_launches s current) (seen_requests s current)
  · cases hs

/-- A generation is drawn once. -/
theorem popen_fresh {generation : String} (hs : s.step config (.popen generation) = some s') :
    ∃ target, s.phase = .launch target ∧ (∀ l ∈ s.launches, l.generation ≠ generation) ∧
      s' = s.startChild config target generation := by
  cases hp : s.phase with
  | launch target =>
      simp only [step, hp] at hs
      split at hs
      · cases hs
      · rename_i hfresh
        cases hs
        refine ⟨target, rfl, fun l hl heq => hfresh ?_, rfl⟩
        exact List.any_eq_true.mpr ⟨l, hl, decide_eq_true heq⟩
  | _ => simp [step, hp] at hs

end Supervisor

namespace SupervisorRun

variable {config : SupervisorConfig} {s s' : SupervisorRun} {e : Event}

/-- Outside of `_run_children` a run keeps what the supervisor knows. -/
inductive Course (config : SupervisorConfig) (s : SupervisorRun) (e : Event) (s' : SupervisorRun) :
    Prop
  | inner {e' : Supervisor.Event} : e = .inner e' → s.supervisor.Course config e' s'.supervisor →
      s.stage = .children → s'.stage = .children → Course config s e s'
  | outer : (∀ e', e ≠ .inner e') → s'.supervisor.phase = s.supervisor.phase →
      s'.supervisor.launches = s.supervisor.launches →
      s'.supervisor.requests = s.supervisor.requests →
      (s'.stage = .children → s.stage = .children) → Course config s e s'

theorem track_stage (s : SupervisorRun) (e : Supervisor.Event) : (s.track e).stage = s.stage := by
  unfold track
  split
  · rfl
  · unfold reap
    split <;> rfl
  · unfold reap
    split <;> rfl
  · rfl

theorem runChildren_eq {e : Supervisor.Event} (hs : s.runChildren config e = some s') :
    s.agrees e = true ∧ ∃ t, s.supervisor.step config e = some t ∧
      s' = { s.track e with supervisor := t } := by
  unfold runChildren at hs
  split at hs
  · rename_i hagrees
    obtain ⟨t, ht, rfl⟩ := Option.map_eq_some_iff.mp hs
    exact ⟨hagrees, t, ht, rfl⟩
  · cases hs

theorem step_course (hs : s.step config e = some s') : Course config s e s' := by
  have hafter : ∀ (t : SupervisorRun) cleanup, t.supervisor.phase = s.supervisor.phase →
      t.supervisor.launches = s.supervisor.launches →
      t.supervisor.requests = s.supervisor.requests → s.stage = .children →
      (∀ e', e ≠ .inner e') → Course config s e (t.afterInterrupt cleanup) := by
    intro t cleanup hphase hlaunches hrequests hstage he
    cases cleanup with
    | none =>
        unfold afterInterrupt finishInterruptedChild
        dsimp only
        split
        · exact .outer he hphase hlaunches hrequests fun _ => hstage
        · exact .outer he hphase hlaunches hrequests fun _ => hstage
    | some text => exact .outer he hphase hlaunches hrequests fun _ => hstage
  cases e with
  | exit generation code =>
      simp only [SupervisorRun.step] at hs
      split at hs
      · cases hs
        exact .outer (by simp) rfl rfl rfl id
      · cases hs
  | inner e =>
      simp only [SupervisorRun.step] at hs
      split at hs
      · rename_i hstage
        obtain ⟨-, t, ht, rfl⟩ := runChildren_eq hs
        exact .inner rfl (Supervisor.step_course ht) hstage ((track_stage s e).trans hstage)
      · cases hs
  | raised text =>
      simp only [SupervisorRun.step] at hs
      split at hs
      · unfold raiseChildren at hs
        split at hs
        · cases hs
          exact .outer (by simp) rfl rfl rfl (by simp [endWith])
        · cases hs
        · cases hs
        · cases hs
          exact .outer (by simp) rfl rfl rfl (by simp [endWith])
      · cases hs
        exact .outer (by simp) rfl rfl rfl (by simp [endWith])
      · cases hs
  | interrupt cleanup =>
      simp only [SupervisorRun.step] at hs
      split at hs
      · rename_i hstage
        unfold interruptChildren at hs
        split at hs
        · cases hs
          exact hafter s cleanup rfl rfl rfl hstage (by simp)
        · cases hs
          exact hafter s cleanup rfl rfl rfl hstage (by simp)
        · cases hs
          exact hafter s.withoutChild cleanup rfl rfl rfl hstage (by simp)
        · cases hs
          exact hafter s cleanup rfl rfl rfl hstage (by simp)
        · cases hs
          exact hafter s cleanup rfl rfl rfl hstage (by simp)
        · cases hs
      · cases hs
  | leave cleanup =>
      simp only [SupervisorRun.step] at hs
      split at hs
      · unfold leave at hs
        split at hs
        · cases hs
          exact .outer (by simp) rfl rfl rfl (by simp [endWith])
        · cases hs
          exact .outer (by simp) rfl rfl rfl (by simp [endWith])
        · cases hs
      · cases hs
  | stop returncode =>
      have hreap : ∀ code, (s.reap code).supervisor = s.supervisor := by
        intro code
        unfold reap
        split <;> rfl
      simp only [SupervisorRun.step] at hs
      split at hs
      · rename_i p _
        cases returncode with
        | some code =>
            simp only [SupervisorRun.stop] at hs
            split at hs
            · cases hs
              refine .outer (by simp) ?_ ?_ ?_ (by simp [endWith])
              · show (s.reap code).supervisor.phase = s.supervisor.phase
                rw [hreap]
              · show (s.reap code).supervisor.launches = s.supervisor.launches
                rw [hreap]
              · show (s.reap code).supervisor.requests = s.supervisor.requests
                rw [hreap]
            · cases hs
        | none =>
            cases p with
            | wait =>
                cases hs
                exact .outer (by simp) rfl rfl rfl (by simp)
            | terminated =>
                cases hs
                exact .outer (by simp) rfl rfl rfl (by simp)
            | killed => cases hs
      · cases hs

/-- What a step does to the processes. -/
inductive Tracks (s : SupervisorRun) (e : Event) : (String → Option Process) → Prop
  | kept : Tracks s e s.processes
  | started {generation : String} : e = .inner (.popen generation) →
      Tracks s e (Function.update s.processes generation (some .running))
  | exited {generation : String} {code : Int} : e = .exit generation code →
      Tracks s e (Function.update s.processes generation (some (.exited code)))
  | reaped {generation : String} {p : Process} {code : Int} : s.processes generation = some p →
      p.code = some code →
      Tracks s e (Function.update s.processes generation (some (.reaped code)))

theorem Tracks.reap {code : Int} (hcode : s.childCode = some code) :
    Tracks s e (s.reap code).processes := by
  unfold SupervisorRun.reap
  split
  · rename_i child hchild
    rw [childCode, hchild, Option.bind_some] at hcode
    obtain ⟨p, hp, hpcode⟩ := Option.bind_eq_some_iff.mp hcode
    exact .reaped hp hpcode
  · exact .kept

theorem Tracks.afterInterrupt (t : SupervisorRun) (ht : t.processes = s.processes)
    (cleanup : Option String) : Tracks s e (t.afterInterrupt cleanup).processes := by
  have heq : (t.afterInterrupt cleanup).processes = s.processes := by
    cases cleanup with
    | none =>
        unfold SupervisorRun.afterInterrupt finishInterruptedChild
        dsimp only
        split <;> exact ht
    | some text => exact ht
  rw [heq]
  exact .kept

theorem step_tracks (hs : s.step config e = some s') : Tracks s e s'.processes := by
  cases e with
  | exit generation code =>
      simp only [SupervisorRun.step] at hs
      split at hs
      · cases hs
        exact .exited rfl
      · cases hs
  | inner e =>
      simp only [SupervisorRun.step] at hs
      split at hs
      · obtain ⟨hagrees, t, -, rfl⟩ := runChildren_eq hs
        show Tracks s _ (s.track e).processes
        unfold track
        split
        · exact .started rfl
        · exact .reap (by simpa [agrees] using hagrees)
        · rename_i status code
          have heq : some code = if s.polls status then s.childCode else none := by
            simpa [agrees] using hagrees
          split at heq
          · exact .reap heq.symm
          · cases heq
        · exact .kept
      · cases hs
  | raised text =>
      simp only [SupervisorRun.step] at hs
      split at hs
      · unfold raiseChildren at hs
        split at hs <;> cases hs <;> exact .kept
      · cases hs
        exact .kept
      · cases hs
  | interrupt cleanup =>
      simp only [SupervisorRun.step] at hs
      split at hs
      · unfold interruptChildren at hs
        split at hs
        · cases hs
          exact .afterInterrupt s rfl cleanup
        · cases hs
          exact .afterInterrupt s rfl cleanup
        · cases hs
          exact .afterInterrupt (s := s) s.withoutChild rfl cleanup
        · cases hs
          exact .afterInterrupt s rfl cleanup
        · cases hs
          exact .afterInterrupt s rfl cleanup
        · cases hs
      · cases hs
  | leave cleanup =>
      simp only [SupervisorRun.step] at hs
      split at hs
      · unfold leave at hs
        split at hs <;> cases hs <;> exact .kept
      · cases hs
  | stop returncode =>
      simp only [SupervisorRun.step] at hs
      split at hs
      · rename_i p _
        cases returncode with
        | some code =>
            simp only [SupervisorRun.stop] at hs
            split at hs
            · cases hs
              exact .reap ‹_›
            · cases hs
        | none => cases p <;> cases hs <;> exact .kept
      · cases hs

/-- A process runs until it exits: only a process that has exited is reaped. -/
theorem running_step {generation : String} (hs : s.step config e = some s')
    (hrun : s.processes generation = some .running) :
    s'.processes generation = some .running ∨ ∃ code, e = .exit generation code := by
  have h := step_tracks hs
  generalize s'.processes = processes at h ⊢
  cases h with
  | kept => exact .inl hrun
  | @started other he =>
      by_cases hg : generation = other
      · subst hg
        exact .inl (Function.update_self ..)
      · exact .inl ((Function.update_of_ne hg ..).trans hrun)
  | @exited other code he =>
      by_cases hg : generation = other
      · subst hg
        exact .inr ⟨code, he⟩
      · exact .inl ((Function.update_of_ne hg ..).trans hrun)
  | @reaped other p code hp hcode =>
      by_cases hg : generation = other
      · subst hg
        rw [hrun] at hp
        cases hp
        cases hcode
      · exact .inl ((Function.update_of_ne hg ..).trans hrun)

end SupervisorRun
end PyFrp
