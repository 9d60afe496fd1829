import PyFrp.Supervisor.Origins

/-!
# Commands and handoffs between the supervisor and its children

A child restarts only if the supervisor has told this very process to, toward a version
that was installed and is not its own; the supervisor takes a child for what it is, and
takes over exactly the restart variables of a child that has exited to be replaced.
-/

namespace PyFrp

open Python Coop Storage

namespace ChannelRun

variable {config : SupervisorConfig} {dumps : Fields → Bytes} {loads : Bytes → Option Fields}
variable {environ : Environment} {s s' : ChannelRun} {e : Event} {g : String} {c : Child}

/-! ## Reading the files -/

/-- `json.loads` undoes `json.dump` for what was written so far. -/
abbrev JsonOk (dumps : Fields → Bytes) (loads : Bytes → Option Fields) (s : ChannelRun) : Prop :=
  ∀ payload ∈ s.saved, loads (dumps payload) = some payload

theorem readJson_eq_some {name : ChannelFile} {readable : Bool} {payload : Fields}
    (h : s.readJson loads name readable = some payload) :
    ∃ content, s.directory.files name = some content ∧ loads content = some payload := by
  unfold readJson at h
  split at h
  · exact Option.bind_eq_some_iff.mp h
  · cases h

/-- What the supervisor reads in the status file is what a child is. -/
theorem status_of_read {readable : Bool} {status : ChildStatus} (hf : Filed dumps s)
    (hj : JsonOk dumps loads s)
    (h : childStatus g (s.readJson loads .status readable) = some status) :
    ∃ c, s.children g = some c ∧ status = ⟨c.version, c.pid⟩ := by
  cases hread : s.readJson loads .status readable with
  | none =>
      rw [hread] at h
      cases h
  | some payload =>
      obtain ⟨content, hfile, hloads⟩ := readJson_eq_some hread
      obtain ⟨writer, hpublished⟩ := hf.files _ _ hfile
      cases hpublished.writes with
      | @status g' c hc hsaved =>
          rw [hj _ hsaved] at hloads
          cases hloads
          rw [hread, childStatus_statusPayload] at h
          split at h
          · rename_i hg
            subst hg
            exact ⟨c, hc, (Option.some.inj h).symm⟩
          · cases h

/-- What a child reads in the command file was requested of it. -/
theorem command_of_read {readable : Bool} {T : String} (hk : Known config s) (hf : Filed dumps s)
    (hj : JsonOk dumps loads s) (hc : s.children g = some c)
    (h : supervisorRestartTarget c.environ (s.readJson loads .command readable) = some T) :
    (g, T) ∈ s.run.supervisor.requests ∧ T ≠ "" := by
  cases hread : s.readJson loads .command readable with
  | none =>
      rw [hread, supervisorRestartTarget_none] at h
      cases h
  | some payload =>
      obtain ⟨content, hfile, hloads⟩ := readJson_eq_some hread
      obtain ⟨writer, hpublished⟩ := hf.files _ _ hfile
      cases hpublished.writes with
      | @command g' T' hrequest hsaved =>
          rw [hj _ hsaved] at hloads
          cases hloads
          rw [hread, supervisorRestartTarget_restartCommand (hk.channel g c hc)] at h
          split at h
          · rename_i hg
            obtain ⟨rfl, hT⟩ := hg
            cases h
            exact ⟨hrequest, hT⟩
          · cases h

/-- The restart state is that of a child, and these are all of its restart variables. -/
structure StateOf (c : Child) (T : String) (state : RestartState) : Prop where
  restarted : c.point = .restarted T
  target : state.targetVersion = T
  environment : ∀ key, state.environment.get? key =
    if isRestartKey key then c.environ.get? key else none

/-- What the supervisor reads in the state file was left by the child. -/
theorem state_of_read {readable : Bool} {state : RestartState} (hk : Known config s)
    (hf : Filed dumps s) (hj : JsonOk dumps loads s)
    (h : restartState g (s.readJson loads .restartState readable) = some state) :
    ∃ c, s.children g = some c ∧ StateOf c state.targetVersion state := by
  cases hread : s.readJson loads .restartState readable with
  | none =>
      rw [hread] at h
      cases h
  | some payload =>
      obtain ⟨content, hfile, hloads⟩ := readJson_eq_some hread
      obtain ⟨writer, hfinal⟩ := hf.files _ _ hfile
      cases hfinal.writes with
      | @restartState g' T c payload' hc hpublished hpayload hsaved =>
          rw [hj _ hsaved] at hloads
          cases hloads
          rw [hread] at h
          obtain ⟨hother, state', hstate', htarget, henvironment⟩ :=
            restartState_publishRestartState (hk.channel g' c hc) hpayload g
          have hg : g = g' := by
            by_contra hne
            rw [hother hne] at h
            cases h
          subst hg
          rw [hstate'] at h
          cases h
          refine ⟨c, hc, ?_, rfl, henvironment⟩
          obtain ⟨c', T', hc', hp⟩ := hfinal.restarted g rfl rfl
          rw [hc] at hc'
          cases hc'
          rw [hp] at hpublished
          cases hpublished
          rw [hp, htarget]

/-! ## What both sides agree on -/

/-- The phase is about the child that was started last. -/
def Latest (s : Supervisor) : Prop :=
  ∀ g, s.phase.generation = some g → ∃ l, s.launches.head? = some l ∧ l.generation = g

/-- The state of `c` is in the directory. -/
def Left (dumps : Fields → Bytes) (s : ChannelRun) (c : Child) (T : String) : Prop :=
  ∃ payload, s.directory.files .restartState = some (dumps (sortKeys payload)) ∧
    publishRestartState c.environ T = some payload ∧ sortKeys payload ∈ s.saved

structure Agreed (config : SupervisorConfig) (dumps : Fields → Bytes) (s : ChannelRun) : Prop where
  latest : Latest s.run.supervisor
  judged : ∀ g version, s.run.supervisor.phase.generation = some g →
    s.run.supervisor.phase.judged = some version → ∃ c, s.children g = some c ∧ c.version = version
  requests : ∀ g T, (g, T) ∈ s.run.supervisor.requests →
    T ∈ s.observed ∧ config.autoRestart = true ∧ ∃ c, s.children g = some c ∧ c.version ≠ T
  commanded : ∀ g c T, s.children g = some c → c.point.target = some T →
    (g, T) ∈ s.run.supervisor.requests ∧ T ≠ ""
  pursued : ∀ T, s.run.supervisor.phase.pursued = some T → T ∈ s.observed
  launches : ∀ l ∈ s.run.supervisor.launches, ∀ T, l.target = some T → T ∈ s.observed
  /-- The state of a child that has restarted is there until the next one is started. -/
  kept : ∀ g c T l, s.run.stage = .children → s.children g = some c → c.point = .restarted T →
    s.run.supervisor.launches.head? = some l → l.generation = g →
    Left dumps s c T

theorem Agreed.initial : Agreed config dumps (initial environ) where
  latest := nofun
  judged := nofun
  requests := nofun
  commanded := nofun
  pursued := nofun
  launches := nofun
  kept := nofun

theorem Latest.course {t t' : Supervisor} {e : Supervisor.Event} (h : Latest t)
    (hs : t.Course config e t') : Latest t' := by
  intro g hg
  cases hs with
  | kept hkeeps hlaunches _ =>
      rw [hlaunches]
      exact h g (hkeeps.generation g hg)
  | launched _ _ heq =>
      subst heq
      cases hg
      exact ⟨_, rfl, rfl⟩
  | reported _ hp _ heq =>
      subst heq
      refine h g ?_
      rw [hp]
      exact hg
  | requested _ hp _ _ _ hp' hlaunches _ =>
      rw [hlaunches]
      refine h g ?_
      rw [hp'] at hg
      rw [hp]
      exact hg
  | handed _ _ _ hp' =>
      rw [hp'] at hg
      cases hg
  | freed _ _ hp' =>
      rw [hp'] at hg
      cases hg

theorem Latest.step {t t' : SupervisorRun} {e : SupervisorRun.Event} (h : Latest t.supervisor)
    (hs : t.step config e = some t') : Latest t'.supervisor := by
  cases SupervisorRun.step_course hs with
  | inner _ hcourse => exact h.course hcourse
  | outer _ hphase hlaunches =>
      intro g hg
      rw [hphase] at hg
      rw [hlaunches]
      exact h g hg

/-- What a step does to the supervisor. -/
theorem Change.run_step (h : s.Change config dumps loads s') :
    s'.run = s.run ∨ ∃ e, s.run.step config e = some s'.run := by
  cases h with
  | supervised hrun => exact .inr ⟨_, hrun⟩
  | requested hrun => exact .inr ⟨_, hrun⟩
  | launched _ hrun => exact .inr ⟨_, hrun⟩
  | commanded => exact .inl rfl
  | wrote => exact .inl rfl
  | removed => exact .inl rfl
  | acted hc _ hact =>
      obtain ⟨-, -, -, -, hrun⟩ := hact.becomes hc
      exact .inl hrun
  | exited hrun => exact .inr ⟨_, hrun⟩

theorem latest_change (h : Agreed config dumps s) (hs : s.Change config dumps loads s') :
    Latest s'.run.supervisor := by
  rcases hs.run_step with hrun | ⟨e, hrun⟩
  · rw [hrun]
    exact h.latest
  · exact h.latest.step hrun

/-- The children stay what they are. -/
theorem exists_child_of_grows {version : String} (hg : s.Grows s')
    (h : ∃ c, s.children g = some c ∧ c.version = version) :
    ∃ c, s'.children g = some c ∧ c.version = version := by
  obtain ⟨c, hc, hversion⟩ := h
  obtain ⟨c', hc', hbecomes⟩ := hg.children g c hc
  exact ⟨c', hc', hbecomes.version.trans hversion⟩

theorem judged_change (hf : Filed dumps s) (hj : JsonOk dumps loads s)
    (h : Agreed config dumps s) (hg : s.Grows s') (hs : s.Change config dumps loads s')
    {version : String} (hgeneration : s'.run.supervisor.phase.generation = some g)
    (hjudged : s'.run.supervisor.phase.judged = some version) :
    ∃ c, s'.children g = some c ∧ c.version = version := by
  -- what was known before is known now
  have hold : s.run.supervisor.phase.generation = some g →
      s.run.supervisor.phase.judged = some version →
      ∃ c, s'.children g = some c ∧ c.version = version :=
    fun hg' hj' => exists_child_of_grows hg (h.judged g version hg' hj')
  have hstep : ∀ {e : SupervisorRun.Event} {run : SupervisorRun}, s.run.step config e = some run →
      s'.run = run → s.Reads loads e → ∃ c, s'.children g = some c ∧ c.version = version := by
    intro e run hrun heq hreads
    rw [heq] at hgeneration hjudged
    cases SupervisorRun.step_course hrun with
    | outer _ hphase =>
        rw [hphase] at hgeneration hjudged
        exact hold hgeneration hjudged
    | inner he hcourse =>
        cases hcourse with
        | kept hkeeps =>
            exact hold (hkeeps.generation g hgeneration) (hkeeps.judged version hjudged)
        | launched _ _ heq =>
            rw [heq] at hjudged
            cases hjudged
        | reported he' hp hstatus heq' =>
            rw [heq'] at hgeneration hjudged
            cases hgeneration
            cases hjudged
            obtain ⟨readable, hpayload⟩ := hreads.report _ _ (he.trans (congrArg _ he'))
            rw [hpayload] at hstatus
            obtain ⟨c, hc, hstatus⟩ := status_of_read hf hj hstatus
            exact exists_child_of_grows hg ⟨c, hc, by rw [hstatus]⟩
        | requested _ hp _ _ _ hp' =>
            rw [hp'] at hgeneration hjudged
            refine hold ?_ ?_
            · rw [hp]
              exact hgeneration
            · rw [hp]
              exact hjudged
        | handed _ _ _ hp' =>
            rw [hp'] at hgeneration
            cases hgeneration
        | freed _ _ hp' =>
            rw [hp'] at hgeneration
            cases hgeneration
  cases hs with
  | supervised hrun _ _ hreads => exact hstep hrun rfl hreads
  | requested hrun => exact hstep hrun rfl ⟨by simp, by simp⟩
  | launched _ hrun => exact hstep hrun rfl ⟨by simp, by simp⟩
  | commanded => exact hold hgeneration hjudged
  | wrote => exact hold hgeneration hjudged
  | removed => exact hold hgeneration hjudged
  | acted hc _ hact =>
      obtain ⟨-, -, -, -, hrun⟩ := hact.becomes hc
      rw [hrun] at hgeneration hjudged
      exact hold hgeneration hjudged
  | exited hrun => exact hstep hrun rfl ⟨by simp, by simp⟩

theorem requests_change (h : Agreed config dumps s) (hg : s.Grows s')
    (hs : s.Change config dumps loads s') {T : String}
    (hT : (g, T) ∈ s'.run.supervisor.requests) :
    T ∈ s'.observed ∧ config.autoRestart = true ∧ ∃ c, s'.children g = some c ∧ c.version ≠ T := by
  have hold : (g, T) ∈ s.run.supervisor.requests →
      T ∈ s'.observed ∧ config.autoRestart = true ∧
        ∃ c, s'.children g = some c ∧ c.version ≠ T := by
    intro hmem
    obtain ⟨hobserved, hauto, c, hc, hne⟩ := h.requests g T hmem
    obtain ⟨c', hc', hbecomes⟩ := hg.children g c hc
    exact ⟨hg.observed T hobserved, hauto, c', hc', hbecomes.version ▸ hne⟩
  -- only `_monitor_child` requests a restart
  have hother : ∀ {e : SupervisorRun.Event} {run : SupervisorRun},
      s.run.step config e = some run → (∀ current, e ≠ .inner (.poll (some current))) →
      run.supervisor.requests = s.run.supervisor.requests := by
    intro e run hrun hpoll
    cases SupervisorRun.step_course hrun with
    | outer _ _ _ hrequests => exact hrequests
    | inner he hcourse =>
        cases hcourse with
        | kept _ _ hrequests => exact hrequests
        | launched _ _ heq =>
            rw [heq]
            rfl
        | reported _ _ _ heq => rw [heq]
        | @requested m current he' => exact absurd (he.trans (congrArg _ he')) (hpoll current)
        | handed _ _ _ _ _ hrequests => exact hrequests
        | freed _ _ _ _ hrequests => exact hrequests
  cases hs with
  | supervised _ _ _ _ hrequests =>
      refine hold ?_
      rw [← hrequests]
      exact hT
  | @requested m current run hrun hp hauto hne _ hrequests =>
      have hmem : (g, T) ∈ (m.generation, current) :: s.run.supervisor.requests := by
        rw [← hrequests]
        exact hT
      rcases List.mem_cons.mp hmem with heq | hmem
      · cases heq
        obtain ⟨c, hc, hversion⟩ := h.judged m.generation m.childVersion
          (by rw [hp]; rfl) (by rw [hp]; rfl)
        exact ⟨.head _, hauto, c, hc, by rw [hversion]; exact Ne.symm hne⟩
      · exact hold hmem
  | launched _ hrun =>
      refine hold ?_
      rw [← hother hrun (by simp)]
      exact hT
  | commanded => exact hold hT
  | wrote => exact hold hT
  | removed => exact hold hT
  | acted hc _ hact =>
      obtain ⟨-, -, -, -, hrun⟩ := hact.becomes hc
      rw [hrun] at hT
      exact hold hT
  | exited hrun =>
      refine hold ?_
      rw [← hother hrun (by simp)]
      exact hT

/-- A child that goes on has the target it had. -/
theorem commanded_of_target {c' : Child} {T : String} (h : Agreed config dumps s)
    (hg : s.Grows s') (hc : s.children g = some c) (heq : c'.point.target = c.point.target)
    (hT : c'.point.target = some T) : (g, T) ∈ s'.run.supervisor.requests ∧ T ≠ "" := by
  obtain ⟨hrequest, hne⟩ := h.commanded g c T hc (heq.symm.trans hT)
  exact ⟨hg.requests _ hrequest, hne⟩

theorem commanded_change (hk : Known config s) (hf : Filed dumps s) (hj : JsonOk dumps loads s)
    (h : Agreed config dumps s) (hg : s.Grows s') (hs : s.Change config dumps loads s')
    {T : String} (hc : s'.children g = some c) (hT : c.point.target = some T) :
    (g, T) ∈ s'.run.supervisor.requests ∧ T ≠ "" := by
  have hold : s.children g = some c → (g, T) ∈ s'.run.supervisor.requests ∧ T ≠ "" :=
    fun hc => commanded_of_target h hg hc rfl hT
  cases hs with
  | @supervised e =>
      refine hold ?_
      rw [← (abandon_children s e).1]
      exact hc
  | requested => exact hold hc
  | launched =>
      rw [children_setChild] at hc
      split at hc
      · cases hc
        cases hT
      · exact hold hc
  | commanded => exact hold hc
  | wrote => exact hold hc
  | removed => exact hold hc
  | @acted _ generation c₀ hc₀ _ hact =>
      by_cases hgen : g = generation
      · subst hgen
        have hself : ∀ {t : ChannelRun} {c' : Child}, (t.setChild g c').children g = some c →
            c' = c := fun h => Option.some.inj ((children_setChild_self ..).symm.trans h)
        cases hact with
        | stays => exact hold hc
        | report =>
            rw [← hself hc] at hT
            cases hT
        | reported =>
            rw [← hself hc] at hT
            cases hT
        | commanded _ _ htarget _ =>
            rw [← hself hc] at hT
            cases hT
            have hcommand := command_of_read hk hf hj hc₀ htarget
            exact hcommand
        | preserve hp =>
            rw [← hself hc] at hT
            exact commanded_of_target h hg hc₀ rfl hT
        | requestRestart hp =>
            rw [← hself hc] at hT
            exact commanded_of_target h hg hc₀ (by rw [hp]; rfl) hT
        | published hp =>
            rw [← hself hc] at hT
            exact commanded_of_target h hg hc₀ (by rw [hp]; rfl) hT
      · obtain ⟨-, -, -, hother, -⟩ := hact.becomes hc₀
        exact hold ((hother g hgen).symm.trans hc)
  | exited => exact hold hc

/-- A target that is pursued was installed at some time. -/
theorem pursued_change (hk : Known config s) (hf : Filed dumps s) (hj : JsonOk dumps loads s)
    (h : Agreed config dumps s) (hg : s.Grows s') (hs : s.Change config dumps loads s') {T : String}
    (hT : s'.run.supervisor.phase.pursued = some T) : T ∈ s'.observed := by
  have hold : s.run.supervisor.phase.pursued = some T → T ∈ s'.observed :=
    fun hp => hg.observed T (h.pursued T hp)
  have hstep : ∀ {e : SupervisorRun.Event} {run : SupervisorRun}, s.run.step config e = some run →
      s'.run = run → s.Reads loads e →
      (∀ current, e = .inner (.slept (some current)) → current ∈ s'.observed) →
      T ∈ s'.observed := by
    intro e run hrun heq hreads hslept
    rw [heq] at hT
    cases SupervisorRun.step_course hrun with
    | outer _ hphase =>
        rw [hphase] at hT
        exact hold hT
    | inner he hcourse =>
        cases hcourse with
        | kept hkeeps => exact hold (hkeeps.pursued T hT)
        | launched _ hp heq =>
            refine hold ?_
            rw [heq] at hT
            rw [hp]
            exact hT
        | reported _ hp _ heq' =>
            refine hold ?_
            rw [heq'] at hT
            rw [hp]
            exact hT
        | requested _ _ _ _ _ hp' =>
            rw [hp'] at hT
            cases hT
        | @handed generation restartTarget payload state he' hp hstate hp' =>
            obtain ⟨readable, hpayload⟩ := hreads.handoff _ (he.trans (congrArg _ he'))
            rw [hpayload] at hstate
            obtain ⟨c, hc, hof⟩ := state_of_read hk hf hj hstate
            have htarget : c.point.target = some state.targetVersion := by
              rw [hof.restarted]
              rfl
            obtain ⟨hrequest, hne⟩ := h.commanded generation c _ hc htarget
            rw [hp'] at hT
            have hnext : Supervisor.nextTarget state restartTarget = state.targetVersion :=
              if_neg hne
            rw [hnext] at hT
            cases hT
            exact hg.observed _ (h.requests _ _ hrequest).1
        | freed he' _ hp' =>
            rw [hp'] at hT
            cases hT
            exact hslept _ (he.trans (congrArg _ he'))
  cases hs with
  | supervised hrun _ _ hreads =>
      refine hstep hrun rfl hreads ?_
      rintro current rfl
      exact List.mem_append_left _ (.head _)
  | requested hrun => exact hstep hrun rfl ⟨by simp, by simp⟩ (by simp)
  | launched _ hrun => exact hstep hrun rfl ⟨by simp, by simp⟩ (by simp)
  | commanded => exact hold hT
  | wrote => exact hold hT
  | removed => exact hold hT
  | acted hc _ hact =>
      obtain ⟨-, -, -, -, hrun⟩ := hact.becomes hc
      rw [hrun] at hT
      exact hold hT
  | exited hrun => exact hstep hrun rfl ⟨by simp, by simp⟩ (by simp)

theorem launches_change (h : Agreed config dumps s) (hg : s.Grows s')
    (hs : s.Change config dumps loads s') {l : Launch} (hl : l ∈ s'.run.supervisor.launches)
    {T : String} (hT : l.target = some T) : T ∈ s'.observed := by
  have hold : l ∈ s.run.supervisor.launches → T ∈ s'.observed :=
    fun hl => hg.observed T (h.launches l hl T hT)
  rcases hs.run_step with hrun | ⟨e, hrun⟩
  · rw [hrun] at hl
    exact hold hl
  · cases SupervisorRun.step_course hrun with
    | outer _ _ hlaunches =>
        rw [hlaunches] at hl
        exact hold hl
    | inner _ hcourse =>
        cases hcourse with
        | kept _ hlaunches =>
            rw [hlaunches] at hl
            exact hold hl
        | launched _ hp heq =>
            rw [heq] at hl
            rcases List.mem_cons.mp hl with rfl | hl
            · refine hg.observed T (h.pursued T ?_)
              rw [hp]
              exact hT
            · exact hold hl
        | reported _ _ _ heq =>
            rw [heq] at hl
            exact hold hl
        | requested _ _ _ _ _ _ hlaunches =>
            rw [hlaunches] at hl
            exact hold hl
        | handed _ _ _ _ hlaunches =>
            rw [hlaunches] at hl
            exact hold hl
        | freed _ _ _ hlaunches =>
            rw [hlaunches] at hl
            exact hold hl

/-! ## The state of a child that has restarted -/

/-- Without a launch the children that were started are the same. -/
theorem same_launches {e : SupervisorRun.Event} {t t' : SupervisorRun}
    (hs : t.step config e = some t') (hpopen : ∀ generation, e ≠ .inner (.popen generation))
    (hstage : t'.stage = .children) :
    t.stage = .children ∧ t'.supervisor.launches = t.supervisor.launches := by
  cases SupervisorRun.step_course hs with
  | outer _ _ hlaunches _ hback => exact ⟨hback hstage, hlaunches⟩
  | inner he hcourse hstage' =>
      refine ⟨hstage', ?_⟩
      cases hcourse with
      | kept _ hlaunches => exact hlaunches
      | @launched _ generation he' => exact absurd (he.trans (congrArg _ he')) (hpopen generation)
      | reported _ _ _ heq => rw [heq]
      | requested _ _ _ _ _ _ hlaunches => exact hlaunches
      | handed _ _ _ _ hlaunches => exact hlaunches
      | freed _ _ _ hlaunches => exact hlaunches

theorem Phase.generation_of_child {p : Phase} (h : p.child = some g) : p.generation = some g := by
  cases p with
  | launched target generation result =>
      simp only [Phase.child] at h
      split at h
      · exact h
      · cases h
  | startup => exact h
  | validation => exact h
  | termination => exact h
  | monitor => exact h
  | _ => cases h

/-- Only the child that was started last is alive. -/
theorem latest_of_running {generation : String} {l : Launch} (hok : s.run.RunOk)
    (h : Agreed config dumps s) (hstage : s.run.stage = .children)
    (hrun : s.run.processes generation = some .running)
    (hhead : s.run.supervisor.launches.head? = some l) : l.generation = generation := by
  have honly : s.run.OnlyChild := hok.only (SupervisorRun.isOver_of_children hstage)
  have hchild : s.run.supervisor.child = some generation :=
    (honly generation).mp ⟨_, hrun, rfl⟩
  rw [(hok.inner hstage).child] at hchild
  obtain ⟨l', hl', hgeneration⟩ := h.latest generation (Phase.generation_of_child hchild)
  rw [hhead] at hl'
  cases hl'
  exact hgeneration

theorem Left.keep {T : String} (h : Left dumps s c T)
    (hfile : s'.directory.files .restartState = s.directory.files .restartState)
    (hg : s.Grows s') : Left dumps s' c T := by
  obtain ⟨payload, hcontent, hpayload, hsaved⟩ := h
  exact ⟨payload, hfile.trans hcontent, hpayload, hg.saved _ hsaved⟩

/-- Other files are replaced meanwhile. -/
theorem files_of_replace {d : Directory ChannelFile Writer UInt8} {writer : Writer}
    (hs : s.directory.replace writer = some d)
    (hname : ∀ draft, s.directory.drafts writer = some draft → draft.name ≠ .restartState) :
    d.files .restartState = s.directory.files .restartState := by
  obtain ⟨draft, hdraft, -, hfiles, -⟩ := Directory.replace_eq_some hs
  rw [hfiles, Directory.setFile_files, if_neg (Ne.symm (hname draft hdraft))]

theorem kept_change (hk : Known config s) (hd : Drafting s) (hf : Filed dumps s)
    (hwhole : s.directory.Whole) (hok : s.run.RunOk) (h : Agreed config dumps s)
    (hg : s.Grows s') (hs : s.Change config dumps loads s') {T : String} {l : Launch}
    (hstage : s'.run.stage = .children) (hc : s'.children g = some c)
    (hp : c.point = .restarted T) (hhead : s'.run.supervisor.launches.head? = some l)
    (hl : l.generation = g) : Left dumps s' c T := by
  have hold : s.run.stage = .children → s.children g = some c →
      s.run.supervisor.launches.head? = some l →
      s'.directory.files .restartState = s.directory.files .restartState →
      Left dumps s' c T := fun hstage hc hhead hfile =>
    Left.keep (h.kept g c T l hstage hc hp hhead hl) hfile hg
  cases hs with
  | @supervised e run hrun hpopen =>
      obtain ⟨hstage, hlaunches⟩ := same_launches hrun hpopen hstage
      refine hold hstage ?_ (hlaunches ▸ hhead) ?_
      · rw [← (abandon_children s e).1]
        exact hc
      · show (s.abandon e).directory.files _ = _
        unfold abandon
        split
        · rw [Directory.abort_files]
        · rw [Directory.abort_files]
        · rfl
  | requested hrun =>
      obtain ⟨hstage, hlaunches⟩ := same_launches hrun (by simp) hstage
      exact hold hstage hc (hlaunches ▸ hhead) rfl
  | @launched generation version pid run _ hrun =>
      obtain ⟨-, target, -, -, -, hsupervisor⟩ := hk.fresh hrun
      have hgeneration : g = generation := by
        rw [← hl]
        have hhead' : run.supervisor.launches.head? = some l := hhead
        rw [hsupervisor] at hhead'
        cases hhead'
        rfl
      rw [children_setChild, if_pos hgeneration] at hc
      cases hc
      cases hp
  | commanded hd' =>
      refine hold hstage hc hhead (files_of_replace hd' fun draft hdraft => ?_)
      have hwrites := hf.drafts _ _ hdraft
      intro hname
      rw [hname] at hwrites
      cases hwrites
  | wrote hd' =>
      obtain ⟨-, -, hfiles, -⟩ := Directory.write_eq_some hd'
      exact hold hstage hc hhead (congrFun hfiles _)
  | removed hstage' => exact absurd hstage hstage'
  | @acted _ generation c₀ hc₀ hrunning hact =>
      obtain ⟨-, -, -, hother, hrun⟩ := hact.becomes hc₀
      rw [hrun] at hstage hhead
      have hgeneration : g = generation := by
        rw [← hl]
        exact latest_of_running hok h hstage hrunning hhead
      subst hgeneration
      -- the child itself: it has published, or its point is another one
      have hself : ∀ {t : ChannelRun} {c' : Child}, (t.setChild g c').children g = some c →
          c' = c := fun h => Option.some.inj ((children_setChild_self ..).symm.trans h)
      cases hact with
      | stays => exact hold hstage hc hhead rfl
      | report =>
          rw [← hself hc] at hp
          cases hp
      | reported =>
          rw [← hself hc] at hp
          cases hp
      | commanded =>
          rw [← hself hc] at hp
          cases hp
      | preserve hp₀ =>
          rw [← hself hc] at hp
          cases hp₀.symm.trans hp
      | requestRestart =>
          rw [← hself hc] at hp
          cases hp
      | @published d target hp₀ hd' =>
          have hcself := hself hc
          subst hcself
          cases hp
          obtain ⟨draft, hdraft, hfiles, -⟩ := hwhole.replace hd'
          obtain ⟨-, c₁, hc₁, hname⟩ := hd g draft hdraft
          rw [hc₀] at hc₁
          cases hc₁
          have hwrites := hf.drafts _ _ hdraft
          rw [hp₀] at hname
          have hname' : draft.name = .restartState := (Option.some.inj hname).symm
          have hcontent : d.files .restartState = some draft.content := by
            simp [hfiles, hname', Update.apply]
          rw [hname'] at hwrites
          generalize draft.content = content at hwrites hcontent
          cases hwrites with
          | @restartState _ T' c₁ payload hc₁ hpublished hpayload hsaved =>
              rw [hc₀] at hc₁
              cases hc₁
              rw [hp₀] at hpublished
              cases hpublished
              exact ⟨payload, hcontent, hpayload, hsaved⟩
  | @exited generation code removed run hrun =>
      obtain ⟨hstage, hlaunches⟩ := same_launches hrun (by simp) hstage
      refine hold hstage hc (hlaunches ▸ hhead) ?_
      have hfiles : (if removed then s.directory.abort (.child generation)
          else s.directory.crash (.child generation)).files = s.directory.files := by
        split
        · exact Directory.abort_files ..
        · rfl
      exact congrFun hfiles _

theorem Agreed.change (hk : Known config s) (hd : Drafting s) (hf : Filed dumps s)
    (hwhole : s.directory.Whole) (hok : s.run.RunOk) (hj : JsonOk dumps loads s)
    (h : Agreed config dumps s) (hs : s.Change config dumps loads s') : Agreed config dumps s' := by
  have hg := hs.grows hk
  exact {
    latest := latest_change h hs
    judged := fun _ _ => judged_change hf hj h hg hs
    requests := fun _ _ => requests_change h hg hs
    commanded := fun _ _ _ => commanded_change hk hf hj h hg hs
    pursued := fun _ => pursued_change hk hf hj h hg hs
    launches := fun _ hl _ => launches_change h hg hs hl
    kept := fun _ _ _ _ => kept_change hk hd hf hwhole hok h hg hs }

/-! ## The runs -/

variable {C : ChannelRun → Event → Prop}

theorem refines_run : (channelRun config dumps loads environ).Refines
    (supervisorRun config environ) C (fun _ _ => True) run where
  init := rfl
  step _ _ hs := by
    rcases (step_change hs).run_step with hrun | ⟨e, hrun⟩
    · exact .of_eq hrun
    · exact .single (b := e) trivial hrun

theorem agreed (hroot : config.root ≠ "")
    (h : (channelRun config dumps loads environ).Reachable s) (hj : JsonOk dumps loads s) :
    Agreed config dumps s := by
  -- what could be read back later could be read back before
  refine h.invariant (P := fun s => JsonOk dumps loads s → Agreed config dumps s)
    (fun _ => .initial) (fun s e s' hr hok _ hs hj' => ?_) hj
  obtain ⟨hk, hd⟩ := known_drafting hroot hr
  have hchange := step_change hs
  have hj : JsonOk dumps loads s := fun p hp => hj' p ((hchange.grows hk).saved p hp)
  have hwhole : s.directory.Whole := (refines_directory hroot).invariant Directory.whole hr
  have hrun : s.run.RunOk := refines_run.invariant SupervisorRun.runOk hr
  exact (hok hj).change hk hd (filed hroot hr) hwhole hrun hj hchange

end ChannelRun
end PyFrp
