import PyFrp.Supervisor.Supervisor

/-!
# The restart circuit breaker

The breaker of a target opens with the third failure toward it, and is to be
obeyed until another version is observed to be installed. The supervisor keeps
one suppressed target and looks at it only where it polls. Three branches get
past it; a run that takes none of them obeys every breaker.
-/

namespace PyFrp

open Python Coop

/-- The child reported its target and passed startup validation. -/
def LaunchResult.loaded (launch : LaunchResult) (target : String) : Bool :=
  launch.stable && launch.status.any (·.version = target)

/-- The child reported another version and exited during startup validation. -/
def LaunchResult.wrongAndGone (launch : LaunchResult) (target : String) : Bool :=
  launch.returncode.isSome && launch.status.any (·.version ≠ target)

/-- The restart target that is to be launched, or that was launched last. -/
def Phase.target : Phase → Option String
  | .launch target => target
  | .startup target _ _ => target
  | .validation target _ _ => target
  | .termination target _ _ => target
  | .launched target _ _ => target
  | _ => none

/-- The child that is served, or is being replaced, was asked to restart. -/
def Phase.asked : Phase → Bool
  | .monitor m => m.requestedTarget.isSome
  | .restarting _ restartTarget => restartTarget ≠ "unknown"
  | _ => false

/-- The phase `p'` is on the way to no other target than `p`, waits for no other
one, and has asked nothing new of the child. -/
structure Phase.Leads (p p' : Phase) : Prop where
  target : ∀ T, p'.target = some T → p.target = some T
  asked : p'.asked = true → p.asked = true
  waiting : ∀ T, p' = .waiting T → p = .waiting T

theorem Phase.Leads.refl {p : Phase} : p.Leads p :=
  ⟨fun _ h => h, fun h => h, fun _ h => h⟩

theorem Phase.Leads.finish {p : Phase} {returncode : Int} : p.Leads (.finished returncode) :=
  ⟨nofun, nofun, nofun⟩

theorem Phase.Leads.restart {m : Monitor} :
    (Phase.monitor m).Leads (.restarting m.generation m.restartTarget) where
  target := nofun
  asked h := by
    cases hr : m.requestedTarget with
    | none => simp [Phase.asked, Monitor.restartTarget, hr] at h
    | some target => simp [Phase.asked, hr]
  waiting := nofun

namespace Supervisor

variable {config : SupervisorConfig} {environ : Environment} {s s' : Supervisor} {e : Event}

/-- The step neither launches a child toward a target whose breaker is open, nor
requests a restart toward it. -/
def BreakerObeyed (s s' : Supervisor) : Prop :=
  (∀ l T, s'.launches = l :: s.launches → l.target = some T → T ∉ s.opened) ∧
    ∀ g T, s'.requests = (g, T) :: s.requests → T ∉ s.opened

/-- The step opens no breaker with a child that reported another version and is
gone, opens none while the breaker of another target is open, and does not
replace a child that was not asked to restart by one whose breaker is open. -/
def respectsBreaker (s : Supervisor) : Event → Bool
  | .resume =>
      match s.phase with
      | .launched (some target) _ launch =>
          launch.loaded target || !s.limitReached target ||
            (!launch.wrongAndGone target && s.opened.all (· = target))
      | _ => true
  | .handoff payload =>
      match s.phase with
      | .restarting generation restartTarget =>
          restartTarget ≠ "unknown" || (restartState generation payload).all fun state =>
            nextTarget state restartTarget ∉ s.opened
      | _ => true
  | _ => true

abbrev RespectsBreaker (s : Supervisor) (e : Event) : Prop := s.respectsBreaker e = true

/-! ## What a step does -/

/-- Another version was observed: its breaker, if open, is the only one left. -/
def seen (s : Supervisor) (current : String) : Supervisor :=
  (s.observe current).clearSuppressionIfVersionChanged current

/-- Where the supervisor goes once a failure toward `target` is recorded. -/
inductive AfterFailure (s : Supervisor) (target : String) (launch : LaunchResult) : Phase → Prop
  | waits : s.limitReached target = true → AfterFailure s target launch (.waiting target)
  | again : s.limitReached target = false →
      AfterFailure s target launch (.launch (some target))
  | gone : launch.wrongAndGone target = true →
      AfterFailure s target launch (.launch (some target))
  | served {m : Monitor} : m.requestedTarget = none →
      AfterFailure s target launch (.monitor m)

/-- The step from `s` to `s'`, seen from the breaker. -/
inductive Move (config : SupervisorConfig) (s : Supervisor) : Event → Supervisor → Prop
  | idle {e : Event} {environment : Environment} {child : Option String} {clock : Int}
      {p : Phase} : s.phase.Leads p →
      Move config s e
        { s with environment := environment, child := child, clock := clock, phase := p }
  | started {target : Option String} {generation : String} : s.phase = .launch target →
      Move config s (.popen generation) (s.startChild config target generation)
  | failed {target generation : String} {launch : LaunchResult} {p : Phase} :
      s.phase = .launched (some target) generation launch → launch.loaded target = false →
      s.AfterFailure target launch p →
      Move config s .resume { (s.recordFailure target).1 with phase := p }
  | loaded {target generation childVersion : String} {launch : LaunchResult} :
      s.phase = .launched (some target) generation launch →
      Move config s .resume ((s.clearFailures target).startMonitor generation childVersion)
  | handed {generation restartTarget : String} {payload : Option Fields}
      {state : RestartState} {environment : Environment} :
      s.phase = .restarting generation restartTarget →
      restartState generation payload = some state →
      Move config s (.handoff payload)
        { s with
          environment := environment
          phase := .launch (some (nextTarget state restartTarget)) }
  | polled {m m' : Monitor} {current : String} : s.phase = .monitor m →
      m'.requestedTarget = m.requestedTarget →
      Move config s (.poll (some current)) { s.seen current with phase := .monitor m' }
  | requested {m m' : Monitor} {current : String} : s.phase = .monitor m →
      (s.seen current).suppressedTarget ≠ some current →
      Move config s (.poll (some current))
        { s.seen current with
          phase := .monitor m', requests := (m.generation, current) :: (s.seen current).requests }
  | slept {target : String} : s.phase = .waiting target →
      Move config s (.slept (some target)) (s.observe target)
  | freed {target current : String} : s.phase = .waiting target → current ≠ target →
      Move config s (.slept (some current)) ((s.seen current).relaunch current)

section RecordFailure

variable (s : Supervisor) (target : String)

theorem recordFailure_eq :
    s.recordFailure target =
      let failures := s.failures.set target (s.recentFailures target ++ [s.clock])
      if s.limitReached target then
        ({ s with
          failures := failures
          suppressedTarget := some target
          opened := target :: s.opened }, true)
      else ({ s with failures := failures }, false) := by
  by_cases h : (s.recentFailures target).length + 1 < restartFailureLimit
  · simp [recordFailure, limitReached, h]
  · simp [recordFailure, limitReached, h, Nat.not_lt.mp h]

theorem recordFailure_opened : (s.recordFailure target).1.opened =
    if s.limitReached target then target :: s.opened else s.opened := by
  rw [recordFailure_eq]
  split <;> rfl

theorem recordFailure_suppressedTarget : (s.recordFailure target).1.suppressedTarget =
    if s.limitReached target then some target else s.suppressedTarget := by
  rw [recordFailure_eq]
  split <;> rfl

@[simp] theorem recordFailure_launches : (s.recordFailure target).1.launches = s.launches := by
  rw [recordFailure_eq]
  split <;> rfl

@[simp] theorem recordFailure_requests : (s.recordFailure target).1.requests = s.requests := by
  rw [recordFailure_eq]
  split <;> rfl

end RecordFailure

/-- A failure to load the target is recorded, and the target is launched again or
waited for. -/
theorem retry_move {target generation : String} {launch : LaunchResult}
    (hp : s.phase = .launched (some target) generation launch)
    (hl : launch.loaded target = false) : Move config s .resume (s.retry target) := by
  unfold retry
  by_cases h : s.limitReached target = true
  · have hrec : (s.recordFailure target).2 = true := by rw [recordFailure_eq, if_pos h]
    simp only [hrec, if_true]
    exact .failed hp hl (.waits h)
  · have hrec : (s.recordFailure target).2 = false := by rw [recordFailure_eq, if_neg h]
    simp only [hrec, Bool.false_eq_true, if_false]
    exact .failed hp hl (.again (by simpa using h))

theorem runChildren_move {target : Option String} {generation : String}
    {launch : LaunchResult} (hp : s.phase = .launched target generation launch) :
    Move config s .resume (s.runChildren target generation launch) := by
  unfold runChildren
  split
  · exact .idle .finish
  · rename_i target hstatus
    exact retry_move hp (by simp [LaunchResult.loaded, LaunchResult.stable, hstatus])
  · split
    · exact .idle ⟨nofun, nofun, nofun⟩
    · exact .idle .finish
  · rename_i status target hstatus
    split
    · rename_i hne
      have hl : launch.loaded target = false := by
        simp [LaunchResult.loaded, hstatus, hne]
      split
      · exact .failed hp hl (.served rfl)
      · rename_i hstable
        refine .failed hp hl (.gone ?_)
        simp only [LaunchResult.stable, hstatus, Option.isSome_some, Bool.true_and,
          Bool.not_eq_true, Option.isNone_eq_false_iff] at hstable
        simp [LaunchResult.wrongAndGone, hstatus, hne, hstable]
    · split
      · exact .loaded hp
      · rename_i hstable
        exact retry_move hp (by simp [LaunchResult.loaded, hstable])

theorem monitorChild_move {m : Monitor} {installed : Option String}
    (hp : s.phase = .monitor m) :
    Move config s (.poll installed) (s.monitorChild config m installed) := by
  unfold monitorChild
  split
  · exact .idle .refl
  · cases installed with
    | none => exact .idle (hp ▸ ⟨nofun, fun h => h, nofun⟩)
    | some current =>
        dsimp only
        split
        · exact .polled hp rfl
        · rename_i hne
          exact .requested hp fun h => hne (.inr (.inl h))

theorem childWaited_move {returncode : Option Int} (hs : s.childWaited returncode = some s') :
    Move config s (.waited returncode) s' := by
  unfold childWaited at hs
  split at hs
  · rename_i hp
    cases hs
    exact .idle (hp ▸ ⟨fun _ h => h, nofun, nofun⟩)
  · rename_i hp
    cases hs
    exact .idle (hp ▸ ⟨fun _ h => h, nofun, nofun⟩)
  · rename_i hp
    cases hs
    exact .idle (hp ▸ ⟨fun _ h => h, nofun, nofun⟩)
  · rename_i hp
    cases hs
    exact .idle (hp ▸ ⟨fun _ h => h, nofun, nofun⟩)
  · rename_i m code hp
    dsimp only at hs
    split at hs
    · cases hs
      exact .idle (hp ▸ .restart)
    · cases hs
      exact .idle .finish
  · cases hs

theorem step_move (hs : s.step config e = some s') : Move config s e s' := by
  unfold step at hs
  split at hs
  · split at hs
    · cases hs
      exact .idle .refl
    · cases hs
  · split at hs
    · cases hs
    · cases hs
      exact .started ‹_›
  · rename_i hp
    cases hs
    unfold awaitReport
    split
    · split
      · exact .idle (hp ▸ ⟨fun _ h => h, nofun, nofun⟩)
      · exact .idle (hp ▸ ⟨fun _ h => h, nofun, nofun⟩)
      · exact .idle .refl
    · exact .idle (hp ▸ ⟨fun _ h => h, nofun, nofun⟩)
  · exact childWaited_move hs
  · cases hs
    exact runChildren_move ‹_›
  · cases hs
    exact monitorChild_move ‹_›
  · rename_i hp
    cases hs
    unfold handOver
    split
    · exact .idle .finish
    · exact .handed hp ‹_›
  · rename_i hp
    cases hs
    unfold waitUntilSuppressionClears
    split
    · exact .idle .refl
    · split
      · rename_i h
        subst h
        exact .slept hp
      · exact .freed hp ‹_›
  · cases hs

/-! ## The invariant -/

/-- Every open breaker is the suppressed one, and where the supervisor is going is
not among them. -/
structure BreakerOk (s : Supervisor) : Prop where
  suppressed : ∀ T ∈ s.opened, s.suppressedTarget = some T
  target : ∀ T, s.phase.target = some T → T ∉ s.opened
  asked : s.phase.asked = true → s.opened = []
  waiting : ∀ T, s.phase = .waiting T → s.suppressedTarget = some T

theorem seen_opened (s : Supervisor) (current : String) :
    (s.seen current).opened = s.opened.filter (· = current) := by
  unfold seen clearSuppressionIfVersionChanged
  split <;> rfl

@[simp] theorem seen_launches (s : Supervisor) (current : String) :
    (s.seen current).launches = s.launches := by
  unfold seen clearSuppressionIfVersionChanged
  split <;> rfl

@[simp] theorem seen_requests (s : Supervisor) (current : String) :
    (s.seen current).requests = s.requests := by
  unfold seen clearSuppressionIfVersionChanged
  split <;> rfl

/-- What was observed is the suppressed target, if its breaker is still open. -/
theorem BreakerOk.seen (hi : BreakerOk s) {current T : String}
    (hT : T ∈ (s.seen current).opened) :
    T = current ∧ T ∈ s.opened ∧ (s.seen current).suppressedTarget = some T := by
  rw [seen_opened, List.mem_filter, decide_eq_true_eq] at hT
  obtain ⟨hmem, rfl⟩ := hT
  have hsup := hi.suppressed T hmem
  refine ⟨rfl, hmem, ?_⟩
  unfold Supervisor.seen clearSuppressionIfVersionChanged
  rw [if_pos (.inr hsup)]
  exact hsup

theorem BreakerOk.initial : BreakerOk (initial environ) :=
  ⟨nofun, nofun, nofun, nofun⟩

theorem BreakerOk.failed {target generation : String} {launch : LaunchResult} {p : Phase}
    (hi : BreakerOk s) (hc : RespectsBreaker s .resume)
    (hp : s.phase = .launched (some target) generation launch)
    (hl : launch.loaded target = false) (hnext : s.AfterFailure target launch p) :
    BreakerOk { (s.recordFailure target).1 with phase := p } := by
  have hclosed : target ∉ s.opened := hi.target target (by rw [hp]; rfl)
  simp only [RespectsBreaker, respectsBreaker, hp, hl, Bool.false_or, Bool.or_eq_true,
    Bool.not_eq_true', Bool.and_eq_true, List.all_eq_true, decide_eq_true_eq] at hc
  by_cases hlim : s.limitReached target = true
  · -- the breaker opens, and is the only one
    obtain ⟨hgone, halone⟩ : launch.wrongAndGone target = false ∧ ∀ T ∈ s.opened, T = target :=
      hc.resolve_left (by simp [hlim])
    have honly : (s.recordFailure target).1.opened = [target] := by
      rw [recordFailure_opened, if_pos hlim, List.cons_eq_cons]
      refine ⟨rfl, List.eq_nil_iff_forall_not_mem.mpr fun T hT => ?_⟩
      exact hclosed (halone T hT ▸ hT)
    have hsup : (s.recordFailure target).1.suppressedTarget = some target := by
      rw [recordFailure_suppressedTarget, if_pos hlim]
    have hmem : ∀ T ∈ (s.recordFailure target).1.opened,
        (s.recordFailure target).1.suppressedTarget = some T := by
      intro T hT
      rw [honly, List.mem_singleton] at hT
      rw [hsup, hT]
    cases hnext with
    | waits => exact ⟨hmem, nofun, nofun, fun T hT => by cases hT; exact hsup⟩
    | again h => exact absurd (hlim.symm.trans h) (by simp)
    | gone h => exact absurd (h.symm.trans hgone) (by simp)
    | served h => exact ⟨hmem, nofun, fun ha => by simp [Phase.asked, h] at ha, nofun⟩
  · have hopened : (s.recordFailure target).1.opened = s.opened := by
      rw [recordFailure_opened, if_neg hlim]
    have hmem : ∀ T ∈ (s.recordFailure target).1.opened,
        (s.recordFailure target).1.suppressedTarget = some T := by
      rw [hopened, recordFailure_suppressedTarget, if_neg hlim]
      exact hi.suppressed
    cases hnext with
    | waits h => exact absurd h hlim
    | again | gone =>
        refine ⟨hmem, fun T hT => ?_, nofun, nofun⟩
        cases hT
        exact hopened ▸ hclosed
    | served h => exact ⟨hmem, nofun, fun ha => by simp [Phase.asked, h] at ha, nofun⟩

/-- One step of a run that respects the breaker keeps the invariant. -/
theorem BreakerOk.step (hi : BreakerOk s) (hc : RespectsBreaker s e)
    (hs : Move config s e s') : BreakerOk s' := by
  cases hs with
  | idle hp =>
      exact ⟨hi.suppressed, fun T hT => hi.target T (hp.target T hT),
        fun h => hi.asked (hp.asked h), fun T hT => hi.waiting T (hp.waiting T hT)⟩
  | started hp =>
      exact ⟨hi.suppressed, fun T hT => hi.target T (by rw [hp]; exact hT), nofun, nofun⟩
  | failed hp hl hnext => exact hi.failed hc hp hl hnext
  | @loaded target _ _ _ hp =>
      have hclosed : target ∉ s.opened := hi.target target (by rw [hp]; rfl)
      refine ⟨fun T hT => ?_, nofun, nofun, nofun⟩
      have hsup := hi.suppressed T hT
      have hne : ¬ s.suppressedTarget = some target := by
        intro h
        rw [hsup, Option.some.injEq] at h
        exact hclosed (h ▸ hT)
      simp only [startMonitor, clearFailures, if_neg hne]
      exact hsup
  | @handed generation restartTarget payload state _ hp hstate =>
      refine ⟨hi.suppressed, fun T hT => ?_, nofun, nofun⟩
      cases hT
      simp only [RespectsBreaker, respectsBreaker, hp, hstate, Option.all_some, Bool.or_eq_true,
        decide_eq_true_eq] at hc
      rcases hc with hasked | hclosed
      · have hnone := hi.asked (by simpa [hp, Phase.asked] using hasked)
        simp [hnone]
      · exact hclosed
  | polled hp hm =>
      refine ⟨fun T hT => (hi.seen hT).2.2, nofun, fun ha => ?_, nofun⟩
      have hnone := hi.asked (by rw [hp]; simpa [Phase.asked, hm] using ha)
      exact (seen_opened _ _).trans (by rw [hnone]; rfl)
  | requested hp hne =>
      refine ⟨fun T hT => (hi.seen hT).2.2, nofun, fun _ => ?_, nofun⟩
      refine List.eq_nil_iff_forall_not_mem.mpr fun T hT => ?_
      obtain ⟨rfl, -, hsup⟩ := hi.seen hT
      exact hne hsup
  | slept hp =>
      refine ⟨fun T hT => hi.suppressed T (List.mem_of_mem_filter hT), fun T hT => ?_,
        fun ha => ?_, hi.waiting⟩
      · exact absurd hT (by simp [observe, hp, Phase.target])
      · exact absurd ha (by simp [observe, hp, Phase.asked])
  | @freed target current hp hne =>
      have hnone : ∀ T, T ∉ (s.seen current).opened := by
        intro T hT
        obtain ⟨rfl, hmem, -⟩ := hi.seen hT
        have hsame := (hi.suppressed T hmem).symm.trans (hi.waiting target hp)
        exact hne (Option.some.inj hsame)
      exact ⟨fun T hT => absurd hT (hnone T), fun T _ => hnone T, nofun, nofun⟩

theorem breakerOk (h : (supervision config environ).ReachableUnder RespectsBreaker s) :
    BreakerOk s :=
  h.invariant .initial fun _ _ _ _ hi hc hs => hi.step hc (step_move hs)

/-! ## The breaker is obeyed -/

/-- A child is started toward the target of the phase. -/
theorem Move.launches (hs : Move config s e s') :
    s'.launches = s.launches ∨
      ∃ l, s'.launches = l :: s.launches ∧ s.phase.target = l.target := by
  cases hs with
  | started hp => exact .inr ⟨_, rfl, by rw [hp]; rfl⟩
  | failed => exact .inl (recordFailure_launches _ _)
  | polled | requested | freed => exact .inl (seen_launches _ _)
  | _ => exact .inl rfl

/-- A restart is requested toward a version that was just observed and is not
suppressed. -/
theorem Move.requests (hs : Move config s e s') :
    s'.requests = s.requests ∨
      ∃ g T, s'.requests = (g, T) :: s.requests ∧ (s.seen T).suppressedTarget ≠ some T := by
  cases hs with
  | failed => exact .inl (recordFailure_requests _ _)
  | requested hp hne => exact .inr ⟨_, _, congrArg _ (seen_requests _ _), hne⟩
  | polled | freed => exact .inl (seen_requests _ _)
  | _ => exact .inl rfl

/-- In a run that respects the breaker, no step launches a child toward a target
whose breaker is open or requests a restart toward it. -/
theorem circuit_breaker
    (h : (supervision config environ).ReachableUnder RespectsBreaker s)
    (hs : (supervision config environ).step s e = some s') : BreakerObeyed s s' := by
  have hi := breakerOk h
  have hmove : Move config s e s' := step_move hs
  constructor
  · intro l T hl hT
    rcases hmove.launches with hsame | ⟨l', hl', htarget⟩
    · exact absurd (hsame.symm.trans hl) (List.ne_cons_self)
    · rw [hl', List.cons_eq_cons] at hl
      exact hi.target T (by rw [htarget, hl.1, hT])
  · intro g T hr hmem
    rcases hmove.requests with hsame | ⟨g', T', hr', hne⟩
    · exact absurd (hsame.symm.trans hr) (List.ne_cons_self)
    · rw [hr', List.cons_eq_cons, Prod.mk.injEq] at hr
      obtain ⟨⟨-, rfl⟩, -⟩ := hr
      have hstill : T' ∈ (s.seen T').opened := by
        rw [seen_opened]
        exact List.mem_filter.mpr ⟨hmem, by simp⟩
      exact hne (hi.seen hstill).2.2

/-- A supervisor that polls every five seconds. -/
def exampleSupervisor : SupervisorConfig := ⟨true, 5 * ticksPerSecond, "channel"⟩

/-- The report of a child of the given version. -/
def reported (generation version : String) : Option Fields :=
  some [("generation", .str generation), ("version", .str version), ("pid", .int 1)]

/-- The state a child hands over when it exits to be replaced. -/
def returned (generation target : String) : Option Fields :=
  some [("generation", .str generation), ("target_version", .str target),
    ("environment", .dict [])]

/-- The child loads version 0.6 and is served. -/
def served (generation : String) : List Event :=
  [.popen generation, .report (reported generation "0.6") none, .waited none, .resume]

/-- Version 0.7 is installed, and the child exits to be replaced by it. -/
def replaced (generation : String) : List Event :=
  [.poll (some "0.7"), .waited (some 75), .handoff (returned generation "0.7")]

/-- The child loads version 0.6 and is gone before it is served. -/
def crashed (generation : String) : List Event :=
  [.popen generation, .report (reported generation "0.6") none, .waited (some 1), .resume]

/-- Three stable children load 0.6 instead of 0.7: the breaker of 0.7 is open, no
restart toward it is requested, and one toward 0.8 is. -/
theorem circuit_breaker_open :
    ∃ s s', s.opened = ["0.7"] ∧ s'.requests = ("d", "0.8") :: s.requests ∧
      BreakerObeyed s s' := by
  have hrun : ((supervision exampleSupervisor .empty).execWhile respectsBreaker
      (supervision exampleSupervisor .empty).init
      (served "a" ++ replaced "a" ++ served "b" ++ replaced "b" ++ served "c" ++
        replaced "c" ++ served "d")).map (fun s => (s.opened,
          ((supervision exampleSupervisor .empty).step s (.poll (some "0.8"))).map
            fun s' => (s'.requests, s.requests))) =
      some (["0.7"], some ([("d", "0.8"), ("c", "0.7"), ("b", "0.7"), ("a", "0.7")],
        [("c", "0.7"), ("b", "0.7"), ("a", "0.7")])) := by rfl
  obtain ⟨s, hr, hs⟩ := System.exists_of_execWhile_map _ (fun _ _ _ h => h) hrun
  obtain ⟨hopened, hstep⟩ := Prod.mk.inj hs
  obtain ⟨s', hs', hreq⟩ := Option.map_eq_some_iff.mp hstep
  obtain ⟨hreq', hreq⟩ := Prod.mk.inj hreq
  exact ⟨s, s', hopened, by rw [hreq', hreq], circuit_breaker hr hs'⟩

/-! ## What the condition leaves out -/

/-- Toward a target whose breaker is open the next child is launched regardless. -/
theorem open_launched {T generation : String} (hp : s.phase = .launch (some T))
    (hT : T ∈ s.opened) (hfresh : generation ∉ s.launches.map Launch.generation) :
    ∃ s', s.step config (.popen generation) = some s' ∧ ¬ BreakerObeyed s s' := by
  have hany : s.launches.any (·.generation = generation) = false := by
    simpa [List.any_eq_false] using hfresh
  refine ⟨s.startChild config (some T) generation, ?_, fun h => ?_⟩
  · simp [step, hp, hany]
  · exact h.1 _ T rfl rfl hT

/-- A breaker that is opened by a child of another version that is gone does not
keep the supervisor from the next launch. -/
theorem gone_relaunched {target generation : String} {launch : LaunchResult}
    (hp : s.phase = .launched (some target) generation launch)
    (hgone : launch.wrongAndGone target = true) (hlim : s.limitReached target = true) :
    ∃ s', s.step config .resume = some s' ∧ s'.phase = .launch (some target) ∧
      target ∈ s'.opened := by
  obtain ⟨status, code⟩ := launch
  cases status with
  | none => simp [LaunchResult.wrongAndGone] at hgone
  | some status =>
      simp only [LaunchResult.wrongAndGone, Option.any_some, Bool.and_eq_true,
        decide_eq_true_eq] at hgone
      have hstable : LaunchResult.stable ⟨some status, code⟩ = false := by
        simp [LaunchResult.stable, hgone.1]
      refine ⟨(s.recordFailure target).1.relaunch target, ?_, rfl, ?_⟩
      · simp [step, hp, runChildren, hgone.2, hstable]
      · simp [relaunch, recordFailure_opened, hlim]

/-- A child that comes back on its own with a target whose breaker is open is
replaced. -/
theorem unasked_relaunched {generation restartTarget : String} {payload : Option Fields}
    {state : RestartState} (hp : s.phase = .restarting generation restartTarget)
    (hstate : restartState generation payload = some state)
    (hopen : nextTarget state restartTarget ∈ s.opened) :
    ∃ s' T, s.step config (.handoff payload) = some s' ∧ s'.phase = .launch (some T) ∧
      T ∈ s'.opened := by
  refine ⟨s.handOver generation restartTarget payload, nextTarget state restartTarget, ?_⟩
  have hstep : s.step config (.handoff payload) =
      some (s.handOver generation restartTarget payload) := by simp [step, hp]
  refine ⟨hstep, ?_⟩
  simp only [handOver, hstate]
  exact ⟨trivial, hopen⟩

/-- Three children that load 0.6 instead of 0.7 and exit: the third opens the
breaker, and the next child is launched toward 0.7 all the same. -/
theorem breaker_ignored :
    ∃ s e s', (supervision exampleSupervisor .empty).Reachable s ∧
      (supervision exampleSupervisor .empty).step s e = some s' ∧ ¬ BreakerObeyed s s' := by
  have hrun : ((supervision exampleSupervisor .empty).execWhile (fun _ _ => true)
      (supervision exampleSupervisor .empty).init
      (served "a" ++ replaced "a" ++ crashed "b" ++ crashed "c" ++ crashed "d")).map
        (fun s => (s.phase, s.opened, s.launches.map Launch.generation)) =
      some (.launch (some "0.7"), ["0.7"], ["d", "c", "b", "a"]) := by rfl
  obtain ⟨s, hr, hs⟩ := System.exists_of_execWhile_map _ (fun _ _ _ _ => trivial) hrun
  obtain ⟨hp, hs⟩ := Prod.mk.inj hs
  obtain ⟨hopened, hgens⟩ := Prod.mk.inj hs
  obtain ⟨s', hs', hbad⟩ := open_launched hp (hopened ▸ .head _)
    (show "e" ∉ s.launches.map Launch.generation by rw [hgens]; decide)
  exact ⟨s, .popen "e", s', hr, hs', hbad⟩

end Supervisor
end PyFrp
