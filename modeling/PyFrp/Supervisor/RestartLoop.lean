import PyFrp.Supervisor.Children

/-!
# Restarts toward a version that never loads

Version `T` is always the installed one, and no child loads it. Each child is
stable, looks for a restart command once in an update interval, as
`wait_for_version_change` does, and exits with the restart code when it finds
one. Any time may pass between two steps.
-/

namespace PyFrp

open Python Coop

/-- The supervisor with the command file and the sleep of its child. -/
structure RestartLoop where
  supervisor : Supervisor
  -- `command.json`: the generation and the target
  command : Option (String × String)
  -- the end of the sleep in `wait_for_version_change`
  wakeUp : Option Int
  -- the child has found the command
  leaving : Bool

namespace RestartLoop

inductive Event
  | supervisor (e : Supervisor.Event)
  /-- The child begins to sleep. -/
  | sleep
  /-- The child wakes up and looks for a command. -/
  | check

def initial (environ : Environment) : RestartLoop := ⟨.initial environ, none, none, false⟩

/-- What is assumed of the installed version and of the children. -/
def asAssumed (T : String) (s : RestartLoop) : Supervisor.Event → Bool
  | .report status polled =>
      match s.supervisor.phase with
      | .startup _ generation deadline =>
          polled.isNone && s.supervisor.clock < deadline &&
            (childStatus generation status).all (·.version ≠ T)
      | _ => false
  | .waited (some code) => s.leaving && code = childRestartExitCode
  | .poll installed => installed = some T
  | .slept installed => installed = some T
  | .handoff payload =>
      match s.supervisor.phase with
      | .restarting generation _ => (restartState generation payload).all (·.targetVersion = T)
      | _ => false
  | _ => true

/-- A step of the supervisor to `t`, with what it does to the files and the child. -/
def track (s : RestartLoop) (t : Supervisor) : Supervisor.Event → RestartLoop
  | .popen _ => ⟨t, none, none, false⟩
  | .waited (some _) => { s with supervisor := t, leaving := false }
  | .poll _ =>
      { s with
        supervisor := t
        command :=
          if s.supervisor.requests.length < t.requests.length then t.requests.head? else s.command }
  | _ => { s with supervisor := t }

/-- `supervisor_restart_target()` in the child. -/
def restartTarget (s : RestartLoop) : Option String :=
  match s.command, s.supervisor.child with
  | some (generation, target), some child =>
      if generation = child ∧ target ≠ "" then some target else none
  | _, _ => none

def step (config : SupervisorConfig) (T : String) (s : RestartLoop) : Event → Option RestartLoop
  | .supervisor e =>
      if s.asAssumed T e then (s.supervisor.step config e).map fun t => s.track t e else none
  | .sleep =>
      if s.supervisor.child.isSome ∧ s.wakeUp = none then
        some { s with wakeUp := some (s.supervisor.clock + config.updateInterval) }
      else none
  | .check =>
      if s.supervisor.child.isSome ∧ s.wakeUp.any (· ≤ s.supervisor.clock) then
        match s.restartTarget with
        | some _ => some { s with leaving := true }
        | none => some { s with wakeUp := some (s.supervisor.clock + config.updateInterval) }
      else none

/-- The restart requests sent toward `T`. -/
def requestsToward (s : RestartLoop) (T : String) : Nat :=
  s.supervisor.requests.countP fun r => r.2 = T

/-- The step validates no third replacement more than the window after the first
one. -/
def inTime (T : String) (s : RestartLoop) : Event → Bool
  | .supervisor .resume =>
      match s.supervisor.phase with
      | .launched (some _) _ _ =>
          s.requestsToward T < restartFailureLimit || s.supervisor.limitReached T
      | _ => true
  | _ => true

abbrev InTime (T : String) (s : RestartLoop) (e : Event) : Prop := s.inTime T e = true

end RestartLoop

/-- The supervisor and its children while `T` is installed and never loaded. -/
def restartLoop (config : SupervisorConfig) (T : String) (environ : Environment) :
    System RestartLoop RestartLoop.Event :=
  ⟨.initial environ, RestartLoop.step config T⟩

/-! ## The phases of such runs -/

/-- The phases while `T` is installed and never loaded. -/
def Phase.Toward (T : String) : Phase → Prop
  | .launch target => target.all (· = T)
  | .startup target _ _ => target.all (· = T)
  | .validation target _ status => target.all (· = T) ∧ status.version ≠ T
  | .launched target _ result => target.all (· = T) ∧
      ∃ status, result = ⟨some status, none⟩ ∧ status.version ≠ T
  | .monitor m => m.childVersion ≠ T ∧ (m.requestedTarget = none ∨ m.requestedTarget = some T)
  | .restarting _ restartTarget => restartTarget = T
  | .finished _ => True
  | _ => False

/-- A restart was requested and its replacement is not validated yet. -/
def Phase.pending : Phase → Bool
  | .launch target => target.isSome
  | .startup target _ _ => target.isSome
  | .validation target _ _ => target.isSome
  | .launched target _ _ => target.isSome
  | .monitor m => m.requestedTarget.isSome
  | .restarting _ _ => true
  | .finished _ => true
  | _ => false

namespace Supervisor

variable {config : SupervisorConfig} {T : String} {s s' : Supervisor}

/-- The child is served, and the restart target requested of it is `target`. -/
def Serves (s : Supervisor) (target : Option String) : Prop :=
  ∃ m, s.phase = .monitor m ∧ m.requestedTarget = target

/-- Once the breaker of `T` is open, the child is served for good. -/
structure LoopOk (config : SupervisorConfig) (T : String) (s : Supervisor) : Prop where
  phase : s.phase.Toward T
  suppressed : s.suppressedTarget = none ∨ (s.suppressedTarget = some T ∧ s.Serves none)
  requests : ∀ r ∈ s.requests, r.2 = T
  auto : s.requests ≠ [] → config.autoRestart = true
  clock : 0 ≤ s.clock

/-- A third restart is requested only once, and its replacement opens the breaker. -/
structure CountOk (s : Supervisor) : Prop where
  bound : s.requests.length ≤ restartFailureLimit
  settled : s.suppressedTarget = none → s.phase.pending = false →
    s.requests.length < restartFailureLimit

theorem LoopOk.initial {environ : Environment} : LoopOk config T (initial environ) where
  phase := rfl
  suppressed := .inl rfl
  requests := by simp [Supervisor.initial]
  auto h := absurd rfl h
  clock := Int.le_refl 0

theorem CountOk.initial {environ : Environment} : CountOk (initial environ) where
  bound := Nat.zero_le _
  settled _ _ := Nat.zero_lt_succ _

/-- The breaker is shut while no child is served. -/
theorem LoopOk.unsuppressed (h : LoopOk config T s) (hp : ¬ s.Serves none) :
    s.suppressedTarget = none :=
  h.suppressed.resolve_right fun hs => hp hs.2

/-- A step that sends no request and leaves the breaker as it is. -/
theorem LoopOk.move {t : Supervisor} (h : LoopOk config T s)
    (hsup : t.suppressedTarget = s.suppressedTarget)
    (hreq : t.requests = s.requests) (hclock : s.clock ≤ t.clock) (hp : t.phase.Toward T)
    (hserves : s.Serves none → t.Serves none)
    (hpending : s.phase.pending = true → t.phase.pending = true) :
    LoopOk config T t ∧ (CountOk s → CountOk t) := by
  refine ⟨⟨hp, ?_, hreq ▸ h.requests, hreq ▸ h.auto, Int.le_trans h.clock hclock⟩, fun hc => ?_⟩
  · rw [hsup]
    exact h.suppressed.imp_right fun hs => ⟨hs.1, hserves hs.2⟩
  · refine ⟨hreq ▸ hc.bound, fun hnone hpend => ?_⟩
    rw [hreq]
    refine hc.settled (hsup ▸ hnone) ?_
    by_contra hpend'
    rw [hpending (by simpa using hpend')] at hpend
    cases hpend

/-- A phase other than that of a served child. -/
theorem not_serves {target : Option String} (hp : ∀ m, s.phase ≠ .monitor m) :
    ¬ s.Serves target := by
  rintro ⟨m, hm, -⟩
  exact hp m hm

theorem LoopOk.awaitReport {target : Option String} {generation : String} {deadline : Int}
    {status : Option Fields} (h : LoopOk config T s)
    (hp : s.phase = .startup target generation deadline) (hclock : s.clock < deadline)
    (hstatus : (childStatus generation status).all (·.version ≠ T) = true) :
    LoopOk config T (s.awaitReport target generation deadline status none) ∧
      (CountOk s → CountOk (s.awaitReport target generation deadline status none)) := by
  have hphase := h.phase
  rw [hp] at hphase
  have hno : ¬ s.Serves none := not_serves (by simp [hp])
  unfold Supervisor.awaitReport
  rw [if_pos hclock]
  cases hst : childStatus generation status with
  | none => exact ⟨h, id⟩
  | some st =>
      have hversion : st.version ≠ T := by simpa [hst] using hstatus
      exact h.move rfl rfl (Int.le_refl _) ⟨hphase, hversion⟩ (fun hs => absurd hs hno)
        (fun hpend => by simpa [hp, Phase.pending] using hpend)

/-- The child passes startup validation, or exits because `T` was requested of it. -/
theorem LoopOk.childWaited {returncode : Option Int} (h : LoopOk config T s)
    (hcode : ∀ code, returncode = some code →
      code = childRestartExitCode ∧ T ≠ "" ∧ s.Serves (some T))
    (hs : s.childWaited returncode = some s') :
    LoopOk config T s' ∧ (CountOk s → CountOk s') := by
  have hphase := h.phase
  unfold Supervisor.childWaited at hs
  split at hs
  · rename_i hp
    cases hs
    rw [hp] at hphase
    refine h.move rfl rfl (Int.le_refl _) ⟨hphase.1, _, rfl, hphase.2⟩
      (fun hserves => absurd hserves (not_serves (by simp [hp])))
      (fun hpend => by simpa [hp, Phase.pending] using hpend)
  · rename_i code hp
    obtain ⟨m, hm, -⟩ := (hcode code rfl).2.2
    rw [hp] at hm
    cases hm
  · rename_i hp
    rw [hp] at hphase
    exact hphase.elim
  · rename_i hp
    rw [hp] at hphase
    exact hphase.elim
  · rename_i m code hp
    obtain ⟨rfl, hT, m', hm, hreq⟩ := hcode code rfl
    rw [hp] at hm
    cases hm
    dsimp only at hs
    rw [if_pos rfl] at hs
    cases hs
    refine h.move rfl rfl (Int.le_refl _) ?_ (fun hserves => ?_) (fun _ => rfl)
    · simp [Phase.Toward, Monitor.restartTarget, hreq, hT]
    · obtain ⟨m', hm, hnone⟩ := hserves
      rw [hp] at hm
      cases hm
      rw [hreq] at hnone
      cases hnone
  · cases hs

theorem LoopOk.handOver {generation restartTarget : String} {payload : Option Fields}
    (h : LoopOk config T s) (hp : s.phase = .restarting generation restartTarget)
    (hstate : (restartState generation payload).all (·.targetVersion = T) = true) :
    LoopOk config T (s.handOver generation restartTarget payload) ∧
      (CountOk s → CountOk (s.handOver generation restartTarget payload)) := by
  have hphase := h.phase
  rw [hp] at hphase
  have hno : ¬ s.Serves none := not_serves (by simp [hp])
  unfold Supervisor.handOver
  cases hst : restartState generation payload with
  | none =>
      exact h.move rfl rfl (Int.le_refl _) trivial (fun hs => absurd hs hno) (fun _ => rfl)
  | some state =>
      have hversion : state.targetVersion = T := by simpa [hst] using hstate
      refine h.move rfl rfl (Int.le_refl _) ?_ (fun hs => absurd hs hno) (fun _ => rfl)
      have htarget : nextTarget state restartTarget = T := by
        unfold nextTarget
        split
        · exact hphase
        · exact hversion
      simp [Phase.Toward, htarget]

/-- Only restarts toward `T` are requested. -/
theorem LoopOk.countP (h : LoopOk config T s) :
    s.requests.countP (fun r => r.2 = T) = s.requests.length :=
  List.countP_eq_length.mpr fun r hr => decide_eq_true (h.requests r hr)

/-- The child is served; a failure in time opens the breaker. -/
theorem LoopOk.runChildren {target : Option String} {generation : String} {launch : LaunchResult}
    (h : LoopOk config T s) (hp : s.phase = .launched target generation launch) :
    LoopOk config T (s.runChildren target generation launch) ∧
      (s.runChildren target generation launch).requests = s.requests ∧
      ∃ m, (s.runChildren target generation launch).phase = .monitor m ∧
        m.requestedTarget = none ∧ m.nextCheck = 0 ∧
        (target.isSome → s.limitReached T = false →
          (s.runChildren target generation launch).suppressedTarget = none) ∧
        (CountOk s → (target.isSome → s.requests.length < restartFailureLimit ∨
          s.limitReached T = true) → CountOk (s.runChildren target generation launch)) := by
  have hphase := h.phase
  rw [hp] at hphase
  obtain ⟨htarget, status, rfl, hversion⟩ := hphase
  have hno : ¬ s.Serves none := not_serves (by simp [hp])
  have hshut := h.unsuppressed hno
  have hstable : LaunchResult.stable ⟨some status, none⟩ = true := rfl
  cases target with
  | none =>
      have heq : s.runChildren none generation ⟨some status, none⟩ =
          s.startMonitor generation status.version := by
        simp [Supervisor.runChildren, hstable]
      rw [heq]
      obtain ⟨hok, hcount⟩ := h.move (t := s.startMonitor generation status.version) rfl rfl
        (Int.le_refl _) ⟨hversion, .inl rfl⟩ (fun hs => absurd hs hno)
        (fun hpend => by simp [hp, Phase.pending] at hpend)
      exact ⟨hok, rfl, _, rfl, rfl, rfl, fun hsome => absurd hsome (by simp), fun hc _ => hcount hc⟩
  | some U =>
      have hU : U = T := by simpa using htarget
      subst hU
      have heq : s.runChildren (some U) generation ⟨some status, none⟩ =
          (s.recordFailure U).1.startMonitor generation status.version := by
        simp [Supervisor.runChildren, hstable, hversion]
      have hsup := s.recordFailure_suppressedTarget U
      have hreq := s.recordFailure_requests U
      have hclock : (s.recordFailure U).1.clock = s.clock := by
        unfold Supervisor.recordFailure
        dsimp only
        split <;> rfl
      rw [heq]
      refine ⟨⟨⟨hversion, .inl rfl⟩, ?_, ?_, ?_, ?_⟩, hreq, _, rfl, rfl, rfl, fun _ hlimit => ?_,
        fun hc htime => ⟨?_, fun hnone _ => ?_⟩⟩
      · by_cases hlimit : s.limitReached U = true
        · exact .inr ⟨hsup.trans (if_pos hlimit), _, rfl, rfl⟩
        · exact .inl (hsup.trans ((if_neg hlimit).trans hshut))
      · exact fun r hr => h.requests r (hreq ▸ hr)
      · exact fun hne => h.auto (hreq ▸ hne)
      · exact hclock ▸ h.clock
      · rw [hlimit] at hsup
        exact hsup.trans hshut
      · exact hreq ▸ hc.bound
      · show (s.recordFailure U).1.requests.length < _
        rw [hreq]
        refine (htime rfl).resolve_right fun hlimit => ?_
        rw [hlimit] at hsup
        exact absurd (hsup.symm.trans hnone) (by simp)

/-- A restart is requested of a child that is served, unless the breaker is open. -/
theorem LoopOk.monitorChild {m : Monitor} (h : LoopOk config T s) (hp : s.phase = .monitor m) :
    LoopOk config T (s.monitorChild config m (some T)) ∧
      (CountOk s → CountOk (s.monitorChild config m (some T))) ∧
      (s.Serves (some T) → (s.monitorChild config m (some T)).Serves (some T)) ∧
      (s.requests.length < (s.monitorChild config m (some T)).requests.length →
        (s.monitorChild config m (some T)).Serves (some T)) := by
  have hphase := h.phase
  rw [hp] at hphase
  unfold Supervisor.monitorChild
  split
  · exact ⟨h, id, id, fun hlt => absurd hlt (Nat.lt_irrefl _)⟩
  · rename_i hauto
    have hsame : (s.observe T).clearSuppressionIfVersionChanged T = s.observe T :=
      if_pos (h.suppressed.imp_right fun hs => hs.1)
    dsimp only
    rw [hsame]
    have hkeeps {target : Option String} {next : Int} (hserves : s.Serves target) : Serves
        { s.observe T with phase := .monitor { m with nextCheck := next } } target := by
      obtain ⟨m', hm, hnone⟩ := hserves
      rw [hp] at hm
      cases hm
      exact ⟨_, rfl, hnone⟩
    split
    · obtain ⟨hok, hcount⟩ := h.move
        (t := { s.observe T with
          phase := .monitor { m with nextCheck := s.clock + config.updateInterval } })
        rfl rfl (Int.le_refl _) hphase hkeeps
        (fun hpend => by simpa [hp, Phase.pending] using hpend)
      exact ⟨hok, hcount, hkeeps, fun hlt => absurd hlt (Nat.lt_irrefl _)⟩
    · rename_i hask
      rw [not_or, not_or] at hask
      have hnone : m.requestedTarget = none := hphase.2.resolve_right hask.2.2
      have hshut : s.suppressedTarget = none := h.suppressed.resolve_right fun hs => hask.2.1 hs.1
      refine ⟨⟨⟨hphase.1, .inr rfl⟩, .inl hshut, ?_, fun _ => ?_, h.clock⟩, fun hc => ⟨?_, ?_⟩,
        fun _ => ⟨_, rfl, rfl⟩, fun _ => ⟨_, rfl, rfl⟩⟩
      · intro r hr
        rcases List.mem_cons.mp hr with rfl | hr
        · rfl
        · exact h.requests r hr
      · simpa using (not_or.mp hauto).1
      · exact hc.settled hshut (by simp [hp, Phase.pending, hnone])
      · intro _ hpend
        cases hpend

end Supervisor
namespace RestartLoop

variable {config : SupervisorConfig} {T : String} {environ : Environment} {s s' : RestartLoop}

/-- A child that finds a command is served, and `T` was requested of it. -/
structure Ok (config : SupervisorConfig) (T : String) (s : RestartLoop) : Prop where
  inner : s.supervisor.ChildOk
  loop : s.supervisor.LoopOk config T
  command : ∀ generation target, s.command = some (generation, target) →
    target = T ∧ (s.supervisor.child = none ∨ s.supervisor.Serves (some T))
  leaving : s.leaving = true → T ≠ "" ∧ s.supervisor.Serves (some T)

theorem Ok.initial : Ok config T (initial environ) where
  inner := ⟨rfl, nofun⟩
  loop := .initial
  command _ _ h := by cases h
  leaving h := by cases h

/-- What is known of a command survives a step that serves the child as before. -/
theorem Ok.keep {t : Supervisor} (h : Ok config T s) (hinner : t.ChildOk)
    (hloop : t.LoopOk config T) (hserves : s.supervisor.Serves (some T) → t.Serves (some T))
    (hchild : s.supervisor.child = none → t.child = none) :
    Ok config T { s with supervisor := t } where
  inner := hinner
  loop := hloop
  command generation target hc :=
    ⟨(h.command generation target hc).1, (h.command generation target hc).2.imp hchild hserves⟩
  leaving hl := ⟨(h.leaving hl).1, hserves (h.leaving hl).2⟩

/-- A step of the supervisor. The count of the requests needs the failure in time. -/
theorem Ok.supervisor {e : Supervisor.Event} (h : Ok config T s)
    (hs : s.step config T (.supervisor e) = some s') :
    Ok config T s' ∧ (s.supervisor.CountOk → InTime T s (.supervisor e) → s'.supervisor.CountOk) := by
  simp only [step] at hs
  split at hs
  · rename_i hassumed
    obtain ⟨t, ht, rfl⟩ := Option.map_eq_some_iff.mp hs
    have hpoll : s.supervisor.Polled e := by
      rintro status code rfl target generation deadline hp
      simp [asAssumed, hp] at hassumed
    obtain ⟨hinner, hchild⟩ := h.inner.step hpoll ht
    cases e with
    | elapse now =>
        simp only [Supervisor.step] at ht
        split at ht
        · rename_i hle
          cases ht
          obtain ⟨hloop, hcount⟩ := h.loop.move (t := { s.supervisor with clock := now }) rfl rfl hle
            h.loop.phase id id
          exact ⟨h.keep hinner hloop id id, fun hc _ => hcount hc⟩
        · cases ht
    | popen generation =>
        cases hp : s.supervisor.phase with
        | launch target =>
            simp only [Supervisor.step, hp] at ht
            split at ht
            · cases ht
            · cases ht
              have hphase := h.loop.phase
              rw [hp] at hphase
              obtain ⟨hloop, hcount⟩ := h.loop.move
                (t := s.supervisor.startChild config target generation) rfl rfl (Int.le_refl _)
                hphase (fun hs => absurd hs (Supervisor.not_serves (by simp [hp])))
                (fun hpend => (congrArg Phase.pending hp).symm.trans hpend)
              refine ⟨⟨hinner, hloop, fun _ _ hc => ?_, fun hl => ?_⟩, fun hc _ => hcount hc⟩
              · cases hc
              · cases hl
        | _ => simp [Supervisor.step, hp] at ht
    | report status polled =>
        cases hp : s.supervisor.phase with
        | startup target generation deadline =>
            simp only [asAssumed, hp, Bool.and_eq_true, decide_eq_true_eq,
              Option.isNone_iff_eq_none] at hassumed
            obtain ⟨⟨rfl, hclock⟩, hstatus⟩ := hassumed
            simp only [Supervisor.step, hp, Option.some.injEq] at ht
            obtain ⟨hloop, hcount⟩ := h.loop.awaitReport hp hclock hstatus
            rw [ht] at hloop hcount
            refine ⟨h.keep hinner hloop (fun hs => ?_) fun hn => hchild.trans hn, fun hc _ => hcount hc⟩
            exact absurd hs (Supervisor.not_serves (by simp [hp]))
        | _ => simp [asAssumed, hp] at hassumed
    | waited returncode =>
        simp only [Supervisor.step] at ht
        cases returncode with
        | none =>
            obtain ⟨hloop, hcount⟩ := h.loop.childWaited (fun _ hcode => by cases hcode) ht
            refine ⟨h.keep hinner hloop (fun hs => ?_) fun hn => hchild.trans hn, fun hc _ => hcount hc⟩
            obtain ⟨m, hm, -⟩ := hs
            simp [Supervisor.childWaited, hm] at ht
        | some code =>
            simp only [asAssumed, Bool.and_eq_true, decide_eq_true_eq] at hassumed
            obtain ⟨hT, hserves⟩ := h.leaving hassumed.1
            obtain ⟨hloop, hcount⟩ := h.loop.childWaited
              (fun _ hcode => Option.some.inj hcode ▸ ⟨hassumed.2, hT, hserves⟩) ht
            refine ⟨⟨hinner, hloop, fun generation target hc => ?_, fun hl => ?_⟩, fun hc _ => hcount hc⟩
            · exact ⟨(h.command generation target hc).1, .inl hchild⟩
            · cases hl
    | resume =>
        cases hp : s.supervisor.phase with
        | launched target generation result =>
            simp only [Supervisor.step, hp, Option.some.injEq] at ht
            obtain ⟨hloop, -, m, -, -, -, -, hcount⟩ := h.loop.runChildren hp
            rw [ht] at hloop hcount
            refine ⟨h.keep hinner hloop (fun hs => ?_) fun hn => hchild.trans hn,
              fun hc htime => hcount hc fun hsome => ?_⟩
            · exact absurd hs (Supervisor.not_serves (by simp [hp]))
            · obtain ⟨U, rfl⟩ := Option.isSome_iff_exists.mp hsome
              have hcond : s.inTime T (.supervisor .resume) = true := htime
              simpa [inTime, hp, requestsToward, h.loop.countP] using hcond
        | _ => simp [Supervisor.step, hp] at ht
    | poll installed =>
        cases hp : s.supervisor.phase with
        | monitor m =>
            simp only [asAssumed, decide_eq_true_eq] at hassumed
            subst hassumed
            simp only [Supervisor.step, hp, Option.some.injEq] at ht
            obtain ⟨hloop, hcount, hserves, hasked⟩ := h.loop.monitorChild hp
            rw [ht] at hloop hcount hserves hasked
            refine ⟨⟨hinner, hloop, fun generation target hc => ?_, fun hl => ?_⟩, fun hc _ => hcount hc⟩
            · dsimp only [track] at hc
              split at hc
              · rename_i hlt
                exact ⟨hloop.requests _ (List.mem_of_head? hc), .inr (hasked hlt)⟩
              · obtain ⟨htarget, hor⟩ := h.command generation target hc
                exact ⟨htarget, hor.imp (fun hn => hchild.trans hn) hserves⟩
            · exact ⟨(h.leaving hl).1, hserves (h.leaving hl).2⟩
        | _ => simp [Supervisor.step, hp] at ht
    | handoff state =>
        cases hp : s.supervisor.phase with
        | restarting generation restartTarget =>
            simp only [asAssumed, hp] at hassumed
            simp only [Supervisor.step, hp, Option.some.injEq] at ht
            obtain ⟨hloop, hcount⟩ := h.loop.handOver hp hassumed
            rw [ht] at hloop hcount
            refine ⟨h.keep hinner hloop (fun hs => ?_) fun hn => hchild.trans hn, fun hc _ => hcount hc⟩
            exact absurd hs (Supervisor.not_serves (by simp [hp]))
        | _ => simp [Supervisor.step, hp] at ht
    | slept installed =>
        cases hp : s.supervisor.phase with
        | waiting target =>
            have hphase := h.loop.phase
            rw [hp] at hphase
            exact hphase.elim
        | _ => simp [Supervisor.step, hp] at ht
  · cases hs

theorem Ok.step {e : Event} (h : Ok config T s) (hs : s.step config T e = some s') :
    Ok config T s' ∧ (s.supervisor.CountOk → InTime T s e → s'.supervisor.CountOk) := by
  cases e with
  | supervisor e => exact h.supervisor hs
  | sleep =>
      simp only [RestartLoop.step] at hs
      split at hs
      · cases hs
        exact ⟨⟨h.inner, h.loop, h.command, h.leaving⟩, fun hc _ => hc⟩
      · cases hs
  | check =>
      simp only [RestartLoop.step] at hs
      split at hs
      · rename_i hwake
        split at hs
        · rename_i target htarget
          cases hs
          refine ⟨⟨h.inner, h.loop, h.command, fun _ => ?_⟩, fun hc _ => hc⟩
          -- the child finds the command of its own generation
          unfold restartTarget at htarget
          split at htarget
          · rename_i generation target child hcommand hchild
            split at htarget
            · rename_i hfound
              obtain ⟨rfl, hor⟩ := h.command _ _ hcommand
              refine ⟨hfound.2, hor.resolve_left fun hnone => ?_⟩
              rw [hchild] at hnone
              cases hnone
            · cases htarget
          · cases htarget
        · cases hs
          exact ⟨⟨h.inner, h.loop, h.command, h.leaving⟩, fun hc _ => hc⟩
      · cases hs

theorem ok (h : (restartLoop config T environ).Reachable s) : Ok config T s :=
  h.invariant .initial fun _ _ _ _ hok _ hs => (hok.step hs).1

/-- A failure that is not in time is followed by one more request. -/
theorem Ok.requests_again (h : Ok config T s) {e : Event} (hs : s.step config T e = some s')
    (hlate : ¬ InTime T s e) :
    ∃ t, s'.step config T (.supervisor (.poll (some T))) = some t ∧
      restartFailureLimit < t.requestsToward T := by
  obtain ⟨rfl, target, generation, result, hp, hcount, hlimit⟩ :
      e = .supervisor .resume ∧ ∃ target generation result,
        s.supervisor.phase = .launched (some target) generation result ∧
        restartFailureLimit ≤ s.requestsToward T ∧ s.supervisor.limitReached T = false := by
    unfold InTime inTime at hlate
    split at hlate
    · split at hlate
      · rename_i hp
        simp only [Bool.or_eq_true, decide_eq_true_eq, not_or, Nat.not_lt, Bool.not_eq_true]
          at hlate
        exact ⟨rfl, _, _, _, hp, hlate.1, hlate.2⟩
      · exact absurd rfl hlate
    · exact absurd rfl hlate
  obtain ⟨hloop, hrequests, m, hm, hnone, hnext, hshut, -⟩ := h.loop.runChildren hp
  rw [requestsToward, h.loop.countP] at hcount
  have hs' : s' = { s with
      supervisor := s.supervisor.runChildren (some target) generation result } := by
    simpa [RestartLoop.step, asAssumed, Supervisor.step, hp, track, eq_comm] using hs
  subst hs'
  -- the breaker is shut, and the child is asked at once
  have hauto : config.autoRestart = true := h.loop.auto fun hnil => by
    rw [hnil] at hcount
    exact absurd hcount (by decide)
  have hversion := hloop.phase
  rw [hm] at hversion
  have hpoll : ((s.supervisor.runChildren (some target) generation result).monitorChild config m
      (some T)).requests = (m.generation, T) :: s.supervisor.requests := by
    have hclock : ¬ (s.supervisor.runChildren (some target) generation result).clock < m.nextCheck :=
      hnext ▸ Int.not_lt.mpr hloop.clock
    simp [Supervisor.monitorChild, hauto, hclock, Supervisor.clearSuppressionIfVersionChanged,
      Supervisor.observe, hshut rfl hlimit, hnone, Ne.symm hversion.1, hrequests]
  refine ⟨_, by simp only [RestartLoop.step, asAssumed, Supervisor.step, hm]; rfl, ?_⟩
  have hall : ((m.generation, T) :: s.supervisor.requests).countP (fun r => r.2 = T) =
      s.supervisor.requests.length + 1 := by
    rw [List.countP_cons_of_pos (by simp), h.loop.countP]
  rw [requestsToward]
  exact (congrArg (List.countP fun r => r.2 = T) hpoll).trans hall ▸ Nat.lt_succ_of_le hcount

/-- The requests toward a version that never loads are bounded in the runs in
which every third failure is in time, and in no others that go on. -/
theorem restart_bound :
    (∀ s, (restartLoop config T environ).ReachableUnder (InTime T) s →
      s.requestsToward T ≤ restartFailureLimit) ∧
    ∀ s e s', (restartLoop config T environ).Reachable s →
      (restartLoop config T environ).step s e = some s' → ¬ InTime T s e →
      ∃ e' t, (restartLoop config T environ).step s' e' = some t ∧
        restartFailureLimit < t.requestsToward T := by
  refine ⟨fun s h => ?_, fun s e s' h hs hlate => ?_⟩
  · have hcount : s.supervisor.CountOk := by
      refine h.invariant (P := fun s => s.supervisor.CountOk) .initial ?_
      exact fun s e s' hr hc htime hs => ((ok hr.reachable).step hs).2 hc htime
    rw [requestsToward, (ok h.reachable).loop.countP]
    exact hcount.bound
  · obtain ⟨t, ht, hlt⟩ := (ok h).requests_again hs hlate
    exact ⟨.supervisor (.poll (some T)), t, ht, hlt⟩

/-- A child is started at the time `t` and loads version 0.6; version 0.7 is requested of it. -/
def asked (generation : String) (t : Int) : List Event :=
  [.supervisor (.popen generation), .sleep,
    .supervisor (.report (Supervisor.reported generation "0.6") none),
    .supervisor (.elapse (t + ticksPerSecond)), .supervisor (.waited none), .supervisor .resume,
    .supervisor (.elapse (t + ticksPerSecond + ticksPerSecond / 10)),
    .supervisor (.poll (some "0.7"))]

/-- The child wakes up at the time `t`, and exits. -/
def left (generation : String) (t : Int) : List Event :=
  [.supervisor (.elapse t), .check, .supervisor (.waited (some 75)),
    .supervisor (.handoff (Supervisor.returned generation "0.7"))]

/-- Three replacements, each of them one update interval after the one before. -/
def replacements (interval : Int) : List Event :=
  asked "a" 0 ++ left "a" interval ++ asked "b" interval ++ left "b" (2 * interval) ++
    asked "c" (2 * interval) ++ left "c" (3 * interval) ++ asked "d" (3 * interval)

/-- With an update interval of five seconds the third replacement opens the breaker. -/
theorem restart_bound_five : ∃ s : RestartLoop, s.supervisor.suppressedTarget = some "0.7" ∧
    s.supervisor.launches.length = 4 ∧ s.requestsToward "0.7" ≤ restartFailureLimit := by
  have hrun : ((restartLoop Supervisor.exampleSupervisor "0.7" .empty).execWhile
      (fun s e => s.inTime "0.7" e)
      (restartLoop Supervisor.exampleSupervisor "0.7" .empty).init
      (replacements (5 * ticksPerSecond))).map
        (fun s => (s.supervisor.suppressedTarget, s.supervisor.launches.length)) =
      some (some "0.7", 4) := by rfl
  obtain ⟨s, hr, hs⟩ := System.exists_of_execWhile_map _ (fun _ _ _ h => h) hrun
  obtain ⟨hsup, hlaunches⟩ := Prod.mk.inj hs
  exact ⟨s, hsup, hlaunches, restart_bound.1 s hr⟩

/-- With an update interval of twenty seconds there is never a third failure in
the window: the fourth child is asked to restart as well. -/
theorem restarts_unbounded : ∃ s : RestartLoop,
    (restartLoop ⟨true, 20 * ticksPerSecond, "channel"⟩ "0.7" .empty).Reachable s ∧
    restartFailureLimit < s.requestsToward "0.7" := by
  have hrun : ((restartLoop ⟨true, 20 * ticksPerSecond, "channel"⟩ "0.7" .empty).execWhile
      (fun _ _ => true)
      (restartLoop ⟨true, 20 * ticksPerSecond, "channel"⟩ "0.7" .empty).init
      (replacements (20 * ticksPerSecond))).map (fun s => s.requestsToward "0.7") =
      some 4 := by rfl
  obtain ⟨s, hr, hs⟩ := System.exists_of_execWhile_map _ (fun _ _ _ _ => trivial) hrun
  exact ⟨s, hr, hs ▸ (by decide)⟩

end RestartLoop
end PyFrp
