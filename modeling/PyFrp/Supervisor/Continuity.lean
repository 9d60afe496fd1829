import PyFrp.Supervisor.Children
import PyFrp.Supervisor.Identity

/-!
# Continuity of an identity

If a role restores what it preserves, the first child that is replaced decides
the identity of all children after it. The invariant is about the environment of
the supervisor, and no failed launch touches it.
-/

namespace PyFrp

open Python Coop

/-! ## The supervisor between two handoffs -/

/-- No child has been replaced: no target is pursued. -/
def Phase.First (p : Phase) : Prop := p.target = none ∧ ∀ target, p ≠ .waiting target

namespace Supervisor

variable {config : SupervisorConfig} {s s' : Supervisor} {e : Event}

/-- A step that neither starts a child nor takes over the state of one. -/
structure Quiet (s s' : Supervisor) : Prop where
  environment : s'.environment = s.environment
  launches : s'.launches = s.launches
  child : s'.child = s.child ∨ s'.child = none
  first : s.phase.First → s'.phase.First
  launch : s'.phase = .launch none → s.phase = .launch none

theorem recordFailure_environment (s : Supervisor) (target : String) :
    (s.recordFailure target).1.environment = s.environment := by
  unfold Supervisor.recordFailure
  dsimp only
  split <;> rfl

theorem Quiet.recordFailure {p : Phase} (target : String) (hfirst : s.phase.First → p.First)
    (hlaunch : p ≠ .launch none) : Quiet s { (s.recordFailure target).1 with phase := p } where
  environment := recordFailure_environment s target
  launches := recordFailure_launches s target
  child := .inl (recordFailure_child s target)
  first := hfirst
  launch h := absurd h hlaunch

theorem Quiet.retry {target generation : String} {launch : LaunchResult}
    (hp : s.phase = .launched (some target) generation launch) : Quiet s (s.retry target) := by
  have hnot : ¬ s.phase.First := by
    rintro ⟨htarget, -⟩
    rw [hp] at htarget
    cases htarget
  show Quiet s (if (s.recordFailure target).2 then _ else _)
  split
  · exact .recordFailure target (fun h => absurd h hnot) nofun
  · exact .recordFailure target (fun h => absurd h hnot) nofun

theorem Quiet.runChildren {target : Option String} {generation : String} {launch : LaunchResult}
    (hp : s.phase = .launched target generation launch) :
    Quiet s (s.runChildren target generation launch) := by
  have hfinish : ∀ code, Quiet s (s.finish code) := fun code =>
    ⟨rfl, rfl, .inl rfl, fun _ => ⟨rfl, nofun⟩, nofun⟩
  unfold Supervisor.runChildren
  split
  · exact hfinish _
  · exact .retry hp
  · split
    · exact ⟨rfl, rfl, .inl rfl, fun _ => ⟨rfl, nofun⟩, nofun⟩
    · exact hfinish _
  · rename_i status target _
    split
    · split
      · exact .recordFailure target (fun _ => ⟨rfl, nofun⟩) nofun
      · refine .recordFailure target (fun h => ?_) nofun
        have htarget := h.1
        rw [hp] at htarget
        cases htarget
    · split
      · exact ⟨rfl, rfl, .inl rfl, fun _ => ⟨rfl, nofun⟩, nofun⟩
      · exact .retry hp

theorem Quiet.seen (current : String) (p : Phase) (requests : List (String × String))
    (hfirst : s.phase.First → p.First) (hlaunch : p ≠ .launch none) :
    Quiet s { (s.observe current).clearSuppressionIfVersionChanged current with
      phase := p, requests := requests } where
  environment := by
    unfold clearSuppressionIfVersionChanged
    split <;> rfl
  launches := seen_launches s current
  child := .inl (clearSuppressionIfVersionChanged_child _ current)
  first := hfirst
  launch h := absurd h hlaunch

theorem Quiet.awaitReport {target : Option String} {generation : String} {deadline : Int}
    {status : Option Fields} {polled : Option Int}
    (hp : s.phase = .startup target generation deadline) :
    Quiet s (s.awaitReport target generation deadline status polled) := by
  have hfirst : ∀ p : Phase, p.target = target → (∀ T, p ≠ .waiting T) →
      s.phase.First → p.First := by
    intro p htarget hwaiting h
    have hnone := h.1
    rw [hp] at hnone
    exact ⟨htarget.trans hnone, hwaiting⟩
  unfold Supervisor.awaitReport
  split
  · split
    · exact ⟨rfl, rfl, .inl rfl, hfirst _ rfl nofun, nofun⟩
    · exact ⟨rfl, rfl, .inr rfl, hfirst _ rfl nofun, nofun⟩
    · exact ⟨rfl, rfl, .inl rfl, id, id⟩
  · exact ⟨rfl, rfl, .inl rfl, hfirst _ rfl nofun, nofun⟩

theorem Quiet.childWaited {returncode : Option Int} (hs : s.childWaited returncode = some s') :
    Quiet s s' := by
  have hfirst : ∀ p : Phase, (s.phase.target = none → p.target = none) → (∀ T, p ≠ .waiting T) →
      s.phase.First → p.First :=
    fun p htarget hwaiting h => ⟨htarget h.1, hwaiting⟩
  unfold Supervisor.childWaited at hs
  split at hs
  · rename_i hp
    cases hs
    exact ⟨rfl, rfl, .inl rfl, hfirst _ (by rw [hp]; exact id) nofun, nofun⟩
  · rename_i hp
    cases hs
    exact ⟨rfl, rfl, .inr rfl, hfirst _ (by rw [hp]; exact id) nofun, nofun⟩
  · rename_i hp
    cases hs
    exact ⟨rfl, rfl, .inl rfl, hfirst _ (by rw [hp]; exact id) nofun, nofun⟩
  · rename_i hp
    cases hs
    exact ⟨rfl, rfl, .inr rfl, hfirst _ (by rw [hp]; exact id) nofun, nofun⟩
  · dsimp only at hs
    split at hs
    · cases hs
      exact ⟨rfl, rfl, .inr rfl, hfirst _ (fun _ => rfl) nofun, nofun⟩
    · cases hs
      exact ⟨rfl, rfl, .inr rfl, hfirst _ (fun _ => rfl) nofun, nofun⟩
  · cases hs

theorem Quiet.monitorChild {m : Monitor} {installed : Option String} :
    Quiet s (s.monitorChild config m installed) := by
  unfold Supervisor.monitorChild
  split
  · exact ⟨rfl, rfl, .inl rfl, id, id⟩
  · split
    · exact ⟨rfl, rfl, .inl rfl, fun _ => ⟨rfl, nofun⟩, nofun⟩
    · dsimp only
      split
      · exact .seen _ (.monitor _) _ (fun _ => ⟨rfl, nofun⟩) nofun
      · exact .seen _ (.monitor _) _ (fun _ => ⟨rfl, nofun⟩) nofun

theorem Quiet.waitUntilSuppressionClears {target : String} {installed : Option String}
    (hp : s.phase = .waiting target) : Quiet s (s.waitUntilSuppressionClears target installed) := by
  unfold Supervisor.waitUntilSuppressionClears
  split
  · exact ⟨rfl, rfl, .inl rfl, id, id⟩
  · split
    · exact ⟨rfl, rfl, .inl rfl, id, id⟩
    · exact .seen _ (.launch (some _)) _ (fun h => absurd hp (h.2 target)) nofun

theorem step_quiet (hs : s.step config e = some s') (hpopen : ∀ generation, e ≠ .popen generation)
    (hhandoff : ∀ payload, e ≠ .handoff payload) : Quiet s s' := by
  unfold Supervisor.step at hs
  split at hs
  · split at hs
    · cases hs
      exact ⟨rfl, rfl, .inl rfl, id, id⟩
    · cases hs
  · exact absurd rfl (hpopen _)
  · rename_i hp
    cases hs
    exact .awaitReport hp
  · exact .childWaited hs
  · rename_i hp
    cases hs
    exact .runChildren hp
  · cases hs
    exact .monitorChild
  · exact absurd rfl (hhandoff _)
  · rename_i hp
    cases hs
    exact .waitUntilSuppressionClears hp
  · cases hs

theorem popen_eq {generation : String} (hs : s.step config (.popen generation) = some s') :
    ∃ target, s.phase = .launch target ∧ s' = s.startChild config target generation := by
  cases hp : s.phase with
  | launch target =>
      simp only [Supervisor.step, hp] at hs
      split at hs
      · cases hs
      · cases hs
        exact ⟨target, rfl, rfl⟩
  | _ =>
      simp only [Supervisor.step, hp] at hs
      cases hs

theorem handoff_eq {payload : Option Fields} (hs : s.step config (.handoff payload) = some s') :
    ∃ generation restartTarget, s' = s.handOver generation restartTarget payload := by
  cases hp : s.phase with
  | restarting generation restartTarget =>
      simp only [Supervisor.step, hp] at hs
      cases hs
      exact ⟨generation, restartTarget, rfl⟩
  | _ =>
      simp only [Supervisor.step, hp] at hs
      cases hs

end Supervisor

/-! ## The first child that is replaced decides -/

namespace IdentityRun

variable {ι φ ε : Type} {role : Role ι φ ε} {Valid : ι → Prop} {config : SupervisorConfig}
  {environ : Environment} {s s' : IdentityRun ι}

/-- The identity `i` was preserved in the environment. -/
def Holds (role : Role ι φ ε) (i : ι) (environ : Environment) : Prop :=
  ∃ e e', role.preserve e i = .ok e' ∧ SameRestartState environ e'

/-- No child has been replaced. -/
structure First (s : IdentityRun ι) : Prop where
  phase : s.supervisor.phase.First
  unlaunched : s.supervisor.phase = .launch none →
    s.supervisor.launches = [] ∧ s.identity = none
  launched : s.supervisor.child ≠ none → s.supervisor.launches.length = 1
  unloaded : s.identity = none → s.loaded = []
  loaded : ∀ i, s.identity = some i → ∃ first, s.loaded = [first] ∧ (s.asked = [] → i = first)
  handed : s.handed = []

/-- The first child that was replaced has handed `i` over. -/
structure Later (role : Role ι φ ε) (i : ι) (s : IdentityRun ι) : Prop where
  settled : role.asks i = false
  identity : ∀ j, s.identity = some j → j = i
  environ : s.identity = none → Holds role i s.environ
  environment : Holds role i s.supervisor.environment
  loaded : ∃ first, s.loaded.getLast? = some first ∧ (s.asked = [] → first = i)
  replaced : ∀ j ∈ s.loaded.dropLast, j = i
  handed : s.handed.getLast? = some i ∧ ∀ j ∈ s.handed, j = i

structure Ok (role : Role ι φ ε) (Valid : ι → Prop) (s : IdentityRun ι) : Prop where
  valid : ∀ i, s.identity = some i → Valid i
  published : ∀ payload, s.published = some payload → ∃ i e e' e'' target,
    s.identity = some i ∧ role.preserve e i = .ok e' ∧
      requestRestart e' target = some (e'', payload)
  asked : ∀ n ∈ s.asked, n = 1 ∧ ∃ i, role.asks i = true
  stage : First s ∨ ∃ i, Valid i ∧ Later role i s

theorem Holds.prepareChildEnvironment {i : ι} {root generation : String}
    (h : Holds role i environ) : Holds role i (prepareChildEnvironment root environ generation) := by
  obtain ⟨e, e', hpreserve, hsame⟩ := h
  exact ⟨e, e', hpreserve, fun key hkey hne =>
    (get?_prepareChildEnvironment environ hkey).trans (hsame key hkey hne)⟩

theorem Ok.initial : Ok role Valid (initial environ) where
  valid _ h := nomatch h
  published _ h := nomatch h
  asked _ h := nomatch h
  stage := .inl
    { phase := ⟨rfl, nofun⟩
      unlaunched := fun _ => ⟨rfl, rfl⟩
      launched := fun h => absurd rfl h
      unloaded := fun _ => rfl
      loaded := nofun
      handed := rfl }

/-- A step of the supervisor that is quiet leaves the child alone. -/
theorem Ok.quiet {t : Supervisor} (h : Ok role Valid s) (hq : s.supervisor.Quiet t) :
    Ok role Valid { s with supervisor := t } where
  valid := h.valid
  published := h.published
  asked := h.asked
  stage := by
    rcases h.stage with hf | ⟨i, hvalid, hl⟩
    · refine .inl ⟨hq.first hf.phase, fun hp => ?_, fun hc => ?_, hf.unloaded, hf.loaded, hf.handed⟩
      · obtain ⟨hlaunches, hidentity⟩ := hf.unlaunched (hq.launch hp)
        exact ⟨hq.launches.trans hlaunches, hidentity⟩
      · have hsame : t.child = s.supervisor.child := hq.child.resolve_right hc
        show t.launches.length = 1
        rw [hq.launches]
        exact hf.launched (hsame ▸ hc)
    · exact .inr ⟨i, hvalid, hl.settled, hl.identity, hl.environ, hq.environment ▸ hl.environment, hl.loaded,
        hl.replaced, hl.handed⟩

/-- A new child finds what the supervisor has. -/
theorem Ok.popen {generation : String} {t : Supervisor} (h : Ok role Valid s)
    (hs : s.supervisor.step config (.popen generation) = some t) :
    Ok role Valid (s.startChild config generation t) := by
  obtain ⟨target, hp, rfl⟩ := Supervisor.popen_eq hs
  refine ⟨nofun, nofun, h.asked, ?_⟩
  rcases h.stage with hf | ⟨i, hvalid, hl⟩
  · have htarget : target = none := by
      have hnone := hf.phase.1
      rw [hp] at hnone
      exact hnone
    subst htarget
    obtain ⟨hlaunches, hidentity⟩ := hf.unlaunched hp
    refine .inl
      { phase := ⟨rfl, nofun⟩
        unlaunched := nofun
        launched := fun _ => ?_
        unloaded := fun _ => hf.unloaded hidentity
        loaded := nofun
        handed := hf.handed }
    show (_ :: s.supervisor.launches).length = 1
    rw [hlaunches]
    rfl
  · exact .inr ⟨i, hvalid,
      { settled := hl.settled
        identity := nofun
        environ := fun _ => hl.environment.prepareChildEnvironment
        environment := hl.environment
        loaded := hl.loaded
        replaced := hl.replaced
        handed := hl.handed }⟩

/-- The environment that the supervisor makes of a published identity. -/
theorem Ok.holds (base : Environment) {payload : Fields} {generation : String}
    {state : RestartState} (hr : role.Restores Valid) (h : Ok role Valid s)
    (hpub : s.published = some payload)
    (hstate : restartState generation (some payload) = some state) :
    ∃ i, s.identity = some i ∧ role.asks i = false ∧
      Holds role i ((replaceRestartEnvironment base state.environment).erase targetVersionEnv) := by
  obtain ⟨i, e, e', e'', target, hidentity, hpreserve, hrequest⟩ := h.published payload hpub
  exact ⟨i, hidentity, hr.settled hpreserve, e, e', hpreserve,
    sameRestartState_of_handoff hrequest hstate⟩

theorem Ok.handoff {t : Supervisor} (hr : role.Restores Valid) (h : Ok role Valid s)
    (hs : s.supervisor.step config (.handoff s.published) = some t) :
    Ok role Valid (s.handOver t) := by
  obtain ⟨generation, restartTarget, rfl⟩ := Supervisor.handoff_eq hs
  refine ⟨h.valid, h.published, h.asked, ?_⟩
  cases hstate : restartState generation s.published with
  | none =>
      have hfinish : s.supervisor.handOver generation restartTarget s.published =
          s.supervisor.finish 1 := by
        simp only [Supervisor.handOver, hstate]
      have hq : s.supervisor.Quiet (s.supervisor.finish 1) := by
        refine ⟨rfl, rfl, .inl rfl, fun _ => ⟨rfl, ?_⟩, ?_⟩
        · intro target hlaunch
          cases hlaunch
        · intro hlaunch
          cases hlaunch
      rw [hfinish]
      exact (h.quiet hq).stage
  | some state =>
      cases hpub : s.published with
      | none =>
          rw [hpub] at hstate
          cases hstate
      | some payload =>
          rw [hpub] at hstate
          obtain ⟨i, hidentity, hsettled, hholds⟩ := h.holds
            s.supervisor.environment hr hpub hstate
          have hnone : s.identity ≠ none := by
            rw [hidentity]
            exact Option.some_ne_none i
          have hreplace : s.supervisor.handOver generation restartTarget (some payload) =
              { s.supervisor with
                environment := (replaceRestartEnvironment s.supervisor.environment
                  state.environment).erase targetVersionEnv
                phase := .launch (some (Supervisor.nextTarget state restartTarget)) } := by
            simp only [Supervisor.handOver, hstate]
          have hhanded : (s.handOver (s.supervisor.handOver generation restartTarget
              (some payload))).handed = i :: s.handed := by
            rw [hreplace]
            show s.identity.toList ++ s.handed = i :: s.handed
            rw [hidentity]
            rfl
          have hidentity' : ∀ j, s.identity = some j → j = i := fun j hj =>
            (Option.some.inj (hidentity.symm.trans hj)).symm
          refine .inr ⟨i, h.valid i hidentity, hsettled, hidentity', fun h => absurd h hnone, ?_, ?_, ?_, ?_⟩
          · rw [hreplace]
            exact hholds
          · show ∃ first, s.loaded.getLast? = some first ∧ (s.asked = [] → first = i)
            rcases h.stage with hf | ⟨j, hvalid, hl⟩
            · obtain ⟨first, hloaded, hsame⟩ := hf.loaded i hidentity
              exact ⟨first, by rw [hloaded]; rfl, fun hasked => (hsame hasked).symm⟩
            · rw [hl.identity i hidentity]
              exact hl.loaded
          · show ∀ j ∈ s.loaded.dropLast, j = i
            rcases h.stage with hf | ⟨j, hvalid, hl⟩
            · obtain ⟨first, hloaded, -⟩ := hf.loaded i hidentity
              rw [hloaded]
              intro j hj
              cases hj
            · rw [hl.identity i hidentity]
              exact hl.replaced
          · rw [hhanded]
            rcases h.stage with hf | ⟨j, hvalid, hl⟩
            · rw [hf.handed]
              exact ⟨rfl, fun j hj => List.mem_singleton.mp hj⟩
            · obtain ⟨hlast, hall⟩ := hl.handed
              have hij : i = j := hl.identity i hidentity
              subst hij
              refine ⟨by rw [List.getLast?_cons, hlast]; rfl, fun j hj => ?_⟩
              rcases List.mem_cons.mp hj with rfl | hj
              · rfl
              · exact hall j hj

/-- After the first handoff, what a child loads is what was handed over. -/
theorem Ok.load_handed {i : ι} (hr : role.Restores Valid) (h : Ok role Valid s) (fresh : φ)
    (hnone : s.identity = none) (hhanded : s.handed.getLast? = some i) :
    role.load s.environ fresh = .ok i := by
  rcases h.stage with hf | ⟨j, hvalid, hl⟩
  · rw [hf.handed] at hhanded
    cases hhanded
  · obtain ⟨e, e', hpreserve, hsame⟩ := hl.environ hnone
    rw [hl.handed.1] at hhanded
    cases hhanded
    exact hr.restores hvalid hpreserve hsame

theorem Ok.load {fresh : φ} (hr : role.Restores Valid) (h : Ok role Valid s)
    (hs : s.load role fresh = some s') : Ok role Valid s' := by
  unfold IdentityRun.load at hs
  split at hs
  · rename_i generation i hchild hnone hload
    cases hs
    have hcs : s.supervisor.child ≠ none := by
      rw [hchild]
      exact nofun
    refine ⟨fun j hj => ?_, fun payload hpub => ?_, h.asked, ?_⟩
    · cases hj
      exact hr.valid_load hload
    · obtain ⟨j, e, e', e'', target, hj, -⟩ := h.published payload hpub
      rw [hnone] at hj
      cases hj
    · rcases h.stage with hf | ⟨j, hvalid, hl⟩
      · have hunloaded : s.loaded = [] := hf.unloaded hnone
        have hlaunched : s.supervisor.phase ≠ .launch none := by
          intro hp
          have hlength := hf.launched hcs
          rw [(hf.unlaunched hp).1] at hlength
          cases hlength
        refine .inl ⟨hf.phase, fun hp => absurd hp hlaunched, hf.launched, nofun, fun k hk => ?_,
          hf.handed⟩
        cases hk
        exact ⟨i, by rw [hunloaded], fun _ => rfl⟩
      · obtain ⟨first, hfirst, hasked⟩ := hl.loaded
        have hij : i = j := by
          rw [h.load_handed hr fresh hnone hl.handed.1] at hload
          exact (Except.ok.inj hload).symm
        subst hij
        refine .inr ⟨i, hvalid, hl.settled, fun k hk => ?_, nofun, hl.environment, ⟨first, ?_, hasked⟩, ?_,
          hl.handed⟩
        · cases hk
          rfl
        · rw [List.getLast?_cons, hfirst]
          rfl
        · show ∀ k ∈ (i :: s.loaded).dropLast, k = i
          have hne : s.loaded ≠ [] := by
            rintro hnil
            rw [hnil] at hfirst
            cases hfirst
          rw [List.dropLast_cons_of_ne_nil hne]
          intro k hk
          rcases List.mem_cons.mp hk with rfl | hk
          · rfl
          · exact hl.replaced k hk
  · cases hs

theorem Ok.confirm {answer : ε} (hr : role.Restores Valid) (h : Ok role Valid s)
    (hs : s.confirm role answer = some s') : Ok role Valid s' := by
  unfold IdentityRun.confirm at hs
  split at hs
  · rename_i generation i hchild hidentity
    split at hs
    · rename_i hasks
      cases hs
      have hvalid : Valid i := h.valid i hidentity
      have hfirst : First s := by
        rcases h.stage with hf | ⟨j, _, hl⟩
        · exact hf
        · rw [hl.identity i hidentity, hl.settled] at hasks
          cases hasks
      have hlaunches : s.supervisor.launches.length = 1 :=
        hfirst.launched (by rw [hchild]; exact nofun)
      refine ⟨fun j hj => ?_, fun payload hpub => ?_, fun n hn => ?_, ?_⟩
      · cases hj
        cases hlearn : role.learn i answer with
        | none => exact hvalid
        | some j => exact hr.valid_learn hvalid hasks hlearn
      · obtain ⟨j, e, e', e'', target, hj, hpreserve, -⟩ := h.published payload hpub
        rw [hidentity] at hj
        cases hj
        rw [hr.settled hpreserve] at hasks
        cases hasks
      · rcases List.mem_cons.mp hn with rfl | hn
        · exact ⟨hlaunches, i, hasks⟩
        · exact h.asked n hn
      · refine .inl ⟨hfirst.phase, fun hp => ?_, hfirst.launched, nofun, fun j _ => ?_, hfirst.handed⟩
        · rw [(hfirst.unlaunched hp).1] at hlaunches
          cases hlaunches
        · obtain ⟨first, hloaded, -⟩ := hfirst.loaded i hidentity
          exact ⟨first, hloaded, nofun⟩
    · cases hs
  · cases hs

theorem Ok.restart {target : String} (h : Ok role Valid s)
    (hs : s.restart role target = some s') : Ok role Valid s' := by
  unfold IdentityRun.restart at hs
  split at hs
  · rename_i generation i hchild hidentity
    split at hs
    · rename_i environ hpreserve
      obtain ⟨⟨environ', payload⟩, hrequest, rfl⟩ := Option.map_eq_some_iff.mp hs
      have hnone : s.identity ≠ none := by
        rw [hidentity]
        exact nofun
      refine ⟨h.valid, fun p hp => ?_, h.asked, ?_⟩
      · cases hp
        exact ⟨i, _, _, _, _, hidentity, hpreserve, hrequest⟩
      · rcases h.stage with hf | ⟨j, hvalid, hl⟩
        · exact .inl ⟨hf.phase, hf.unlaunched, hf.launched, hf.unloaded, hf.loaded, hf.handed⟩
        · exact .inr ⟨j, hvalid, hl.settled, hl.identity, fun h => absurd h hnone, hl.environment,
            hl.loaded, hl.replaced, hl.handed⟩
    · cases hs
  · cases hs

theorem Ok.step {e : Event φ ε} (hr : role.Restores Valid) (h : Ok role Valid s)
    (hs : s.step role config e = some s') : Ok role Valid s' := by
  cases e with
  | supervisor e =>
      unfold IdentityRun.step supervise at hs
      dsimp only at hs
      split at hs
      · obtain ⟨t, ht, rfl⟩ := Option.map_eq_some_iff.mp hs
        exact h.popen ht
      · cases hs
      · rename_i hpopen hhandoff
        obtain ⟨t, ht, rfl⟩ := Option.map_eq_some_iff.mp hs
        exact h.quiet (Supervisor.step_quiet ht hpopen hhandoff)
  | handoff =>
      obtain ⟨t, ht, rfl⟩ := Option.map_eq_some_iff.mp hs
      exact h.handoff hr ht
  | load fresh => exact h.load hr hs
  | confirm answer => exact h.confirm hr hs
  | restart target => exact h.restart hs

theorem ok (hr : role.Restores Valid) (h : (identityRun role config environ).Reachable s) :
    Ok role Valid s :=
  h.invariant .initial fun _ _ _ _ hi _ hs => hi.step hr hs

/-- Every child but the first starts with the identity that the first one handed
over, and only the first one asks the user. -/
theorem continuity (hr : role.Restores Valid)
    (h : (identityRun role config environ).Reachable s) :
    (∀ i ∈ s.loaded.dropLast, role.asks i = false ∧ s.handed.getLast? = some i) ∧
      (∀ n ∈ s.asked, n = 1 ∧ ∃ i, role.asks i = true) ∧
      (s.asked = [] → ∀ i ∈ s.loaded, s.loaded.getLast? = some i) := by
  have hok := ok hr h
  rcases hok.stage with hf | ⟨i, -, hl⟩
  · have hloaded : s.loaded = [] ∨ ∃ first, s.loaded = [first] := by
      cases hidentity : s.identity with
      | none => exact .inl (hf.unloaded hidentity)
      | some i =>
          obtain ⟨first, hfirst, -⟩ := hf.loaded i hidentity
          exact .inr ⟨first, hfirst⟩
    rcases hloaded with hnil | ⟨first, hfirst⟩
    · rw [hnil]
      exact ⟨nofun, hok.asked, fun _ => nofun⟩
    · rw [hfirst]
      refine ⟨nofun, hok.asked, fun _ i hi => ?_⟩
      rw [List.mem_singleton.mp hi]
      rfl
  · obtain ⟨first, hfirst, hsame⟩ := hl.loaded
    refine ⟨fun j hj => ?_, hok.asked, fun hasked j hj => ?_⟩
    · rw [hl.replaced j hj]
      exact ⟨hl.settled, hl.handed.1⟩
    · rw [hfirst]
      have hsplit : s.loaded.dropLast ++ [first] = s.loaded :=
        List.dropLast_append_getLast? first hfirst
      rw [← hsplit] at hj
      rcases List.mem_append.mp hj with hj | hj
      · rw [hl.replaced j hj, hsame hasked]
      · rw [List.mem_singleton.mp hj]

/-! ## A child that is replaced -/

/-- The first child of the example supervisor, with the identity it has by now. -/
def firstChild (environ : Environment) (identity : Option ι) (loaded : List ι) (asked : List Nat) :
    IdentityRun ι :=
  let initial : IdentityRun ι := .initial environ
  let started := initial.supervisor.startChild Supervisor.exampleSupervisor none "a"
  { initial.startChild Supervisor.exampleSupervisor "a" started with
    identity := identity, loaded := loaded, asked := asked }

theorem load_eq {generation : String} {fresh : φ} {i : ι}
    (hchild : s.supervisor.child = some generation) (hidentity : s.identity = none)
    (hload : role.load s.environ fresh = .ok i) :
    (identityRun role config environ).step s (.load fresh) =
      some { s with identity := some i, loaded := i :: s.loaded } := by
  show s.load role fresh = _
  simp only [load, hchild, hidentity, hload]

theorem confirm_eq {generation : String} {answer : ε} {i j : ι}
    (hchild : s.supervisor.child = some generation) (hidentity : s.identity = some i)
    (hasks : role.asks i = true) (hlearn : role.learn i answer = some j) :
    (identityRun role config environ).step s (.confirm answer) =
      some { s with
        identity := some j, asked := s.supervisor.launches.length :: s.asked } := by
  show s.confirm role answer = _
  simp only [confirm, hchild, hidentity, hasks, if_true, hlearn, Option.getD_some]

theorem restart_eq {generation target : String} {i : ι} {e e' : Environment} {payload : Fields}
    (hchild : s.supervisor.child = some generation) (hidentity : s.identity = some i)
    (hpreserve : role.preserve s.environ i = .ok e)
    (hrequest : requestRestart e target = some (e', payload)) :
    (identityRun role config environ).step s (.restart target) =
      some { s with environ := e', published := some payload } := by
  show s.restart role target = _
  simp only [restart, hchild, hidentity, hpreserve, hrequest, Option.map_some]

theorem reachable_loaded {fresh : φ} {i : ι}
    (hload : role.load (firstChild environ (none : Option ι) [] []).environ fresh = .ok i) :
    (identityRun role Supervisor.exampleSupervisor environ).Reachable
      (firstChild environ (some i) [i] []) := by
  have hstarted : (identityRun role Supervisor.exampleSupervisor environ).Reachable
      (firstChild environ none [] []) :=
    System.ReachableUnder.init.tail (a := .supervisor (.popen "a")) trivial rfl
  exact hstarted.tail trivial (load_eq rfl rfl hload)

/-- The first child is served and replaced, and the second one loads what the first
one has preserved. -/
theorem exists_replaced (hr : role.Restores Valid) (fresh : φ) {i : ι} {loaded : List ι}
    {asked : List Nat} {e : Environment}
    (h : (identityRun role Supervisor.exampleSupervisor environ).Reachable
      (firstChild environ (some i) loaded asked))
    (hpreserve : role.preserve (firstChild environ (some i) loaded asked).environ i = .ok e)
    (hchannel : childChannel (e.set targetVersionEnv "0.7") = some ("channel", "a")) :
    ∃ s, (identityRun role Supervisor.exampleSupervisor environ).Reachable s ∧
      s.loaded = i :: loaded ∧ s.handed = [i] ∧ s.asked = asked := by
  have hrequest : requestRestart e "0.7" = some (e.set targetVersionEnv "0.7",
      [("environment", .dict (((e.set targetVersionEnv "0.7").filterKeys isRestartKey).entries.map
          fun entry => (entry.1, .str entry.2))),
        ("generation", .str "a"), ("target_version", .str "0.7")]) := by
    simp only [requestRestart, publishRestartState, hchannel, Option.map_some]
  have hreported := h.tail (a := .supervisor (.report (Supervisor.reported "a" "0.6") none))
    trivial rfl
  have hvalidated := hreported.tail (a := .supervisor (.waited none)) trivial rfl
  have hserved := hvalidated.tail (a := .supervisor .resume) trivial rfl
  have hasked := hserved.tail (a := .supervisor (.poll (some "0.7"))) trivial rfl
  have hpublished := hasked.tail trivial (restart_eq rfl rfl hpreserve hrequest)
  have hexited := hpublished.tail (a := .supervisor (.waited (some 75))) trivial rfl
  have hhanded := hexited.tail (a := .handoff) trivial rfl
  have hstarted := hhanded.tail (a := .supervisor (.popen "b")) trivial rfl
  have hload := (ok hr hstarted).load_handed hr fresh rfl (i := i) rfl
  exact ⟨_, hstarted.tail trivial (load_eq rfl rfl hload), rfl, rfl, rfl⟩

end IdentityRun

end PyFrp
