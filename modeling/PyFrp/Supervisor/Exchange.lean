import PyFrp.Supervisor.Course
import PyFrp.Supervisor.Payloads

/-!
# The exchange between the supervisor and a child

What each side knows of the other. Every file is the work of the writer it is meant to
be from, and what is read of it is a payload of this writer: so the version that the
supervisor judges a child by is the one it has, a child restarts only as it was
commanded, and the state of a child that has restarted is there for the supervisor.
-/

namespace PyFrp

open Python Coop Storage

namespace ChannelRun

variable {config : SupervisorConfig} {dumps : Fields → Bytes} {loads : Bytes → Option Fields}
variable {environ : Environment} {s s' : ChannelRun} {e : Event} {g : String} {c : Child}

/-! ## What a step does -/

/-- A step of a child that does not exit. -/
inductive Act (config : SupervisorConfig) (dumps : Fields → Bytes) (loads : Bytes → Option Fields)
    (s : ChannelRun) (g : String) (c : Child) : ChannelRun → Prop
  | stays : Act config dumps loads s g c s
  | report {payload : Fields} : c.point = .starting →
      publishChildStatus c.environ c.version c.pid = some payload →
      Act config dumps loads s g c
        ((s.writeJson dumps (.child g) .status payload).setChild g { c with point := .reporting })
  | reported {d : Directory ChannelFile Writer UInt8} : c.point = .reporting →
      s.directory.replace (.child g) = some d →
      Act config dumps loads s g c
        ({ s with directory := d }.setChild g { c with point := .serving })
  | commanded {target : String} {readable : Bool} : c.point = .serving →
      config.autoRestart = true →
      supervisorRestartTarget c.environ (s.readJson loads .command readable) = some target →
      target ≠ c.version →
      Act config dumps loads s g c (s.setChild g { c with point := .changed target })
  | preserve {target key value : String} : c.point = .changed target → key ∈ preservedKeys →
      Act config dumps loads s g c
        (s.setChild g { c with environ := c.environ.set key value })
  | requestRestart {target : String} {environ : Environment} {payload : Fields} :
      c.point = .changed target → requestRestart c.environ target = some (environ, payload) →
      Act config dumps loads s g c
        ((s.writeJson dumps (.child g) .restartState payload).setChild g
          { c with environ := environ, point := .publishing target })
  | published {d : Directory ChannelFile Writer UInt8} {target : String} :
      c.point = .publishing target → s.directory.replace (.child g) = some d →
      Act config dumps loads s g c
        ({ s with directory := d }.setChild g { c with point := .restarted target })

/-- What the supervisor reads is what the files hold. -/
structure Reads (loads : Bytes → Option Fields) (s : ChannelRun) (e : SupervisorRun.Event) :
    Prop where
  report : ∀ payload polled, e = .inner (.report payload polled) →
    ∃ readable, payload = s.readJson loads .status readable
  handoff : ∀ payload, e = .inner (.handoff payload) →
    ∃ readable, payload = s.readJson loads .restartState readable

/-- What a step does. -/
inductive Change (config : SupervisorConfig) (dumps : Fields → Bytes)
    (loads : Bytes → Option Fields) (s : ChannelRun) : ChannelRun → Prop
  | supervised {e : SupervisorRun.Event} {run : SupervisorRun} :
      s.run.step config e = some run → (∀ generation, e ≠ .inner (.popen generation)) →
      (∀ generation code, e ≠ .exit generation code) → s.Reads loads e →
      run.supervisor.requests = s.run.supervisor.requests →
      Change config dumps loads s
        { s.abandon e with
          run := run
          observed := (observes config s.run.supervisor e).toList ++ s.observed }
  | requested {m : Monitor} {current : String} {run : SupervisorRun} :
      s.run.step config (.inner (.poll (some current))) = some run →
      s.run.supervisor.phase = .monitor m → config.autoRestart = true →
      current ≠ m.childVersion → s.commanding = false →
      run.supervisor.requests = (m.generation, current) :: s.run.supervisor.requests →
      Change config dumps loads s
        ({ s with run := run, observed := current :: s.observed }.writeJson dumps .supervisor
          .command (restartCommand m.generation current))
  | launched {generation version : String} {pid : Int} {run : SupervisorRun} :
      generation ≠ "" → s.run.step config (.inner (.popen generation)) = some run →
      Change config dumps loads s
        ({ s with run := run, directory := removeFiles s.directory }.setChild generation
          ⟨version, pid,
            prepareChildEnvironment config.root s.run.supervisor.environment generation,
            .starting⟩)
  | commanded {d : Directory ChannelFile Writer UInt8} :
      s.directory.replace .supervisor = some d →
      Change config dumps loads s { s with directory := d }
  | wrote {d : Directory ChannelFile Writer UInt8} {writer : Writer} {n : Nat} :
      s.directory.write writer n = some d → Change config dumps loads s { s with directory := d }
  | removed {name : ChannelFile} : s.run.stage ≠ .children →
      Change config dumps loads s { s with directory := s.directory.unlink name }
  | acted {s' : ChannelRun} {generation : String} {c : Child} : s.children generation = some c →
      s.run.processes generation = some .running → s.Act config dumps loads generation c s' →
      Change config dumps loads s s'
  | exited {generation : String} {code : Int} {removed : Bool} {run : SupervisorRun} :
      s.run.step config (.exit generation code) = some run →
      Change config dumps loads s
        { s with
          run := run
          directory :=
            if removed then s.directory.abort (.child generation)
            else s.directory.crash (.child generation) }

theorem requested_of_eq {t t' : Supervisor} (h : t'.requests = t.requests) :
    requested t t' = none := by
  simp [requested, h]

theorem requested_of_cons {t t' : Supervisor} {r : String × String}
    (h : t'.requests = r :: t.requests) : requested t t' = some r := by
  simp [requested, h]

/-- A step of the supervisor, with what it makes of the channel. -/
theorem supervise_eq {e : SupervisorRun.Event} (hs : s.supervise dumps config e = some s') :
    ∃ run, s.run.step config e = some run ∧ s' = s.follow dumps config e run ∧
      (s.commanding = true → duringWrite e = true) := by
  unfold supervise at hs
  split at hs
  · cases hs
  · rename_i hblocked
    obtain ⟨run, hrun, rfl⟩ := Option.map_eq_some_iff.mp hs
    refine ⟨run, hrun, rfl, fun hcommanding => ?_⟩
    simpa [hcommanding] using hblocked

/-- A step of the supervisor that asks nothing of the child. -/
theorem follow_of_requests {e : SupervisorRun.Event} {run : SupervisorRun}
    (h : run.supervisor.requests = s.run.supervisor.requests) :
    s.follow dumps config e run = { s.abandon e with
      run := run
      observed := (observes config s.run.supervisor e).toList ++ s.observed } := by
  unfold follow
  rw [requested_of_eq h]

theorem supervise_change {e : SupervisorRun.Event} (hs : s.supervise dumps config e = some s')
    (hpopen : ∀ generation, e ≠ .inner (.popen generation))
    (hexit : ∀ generation code, e ≠ .exit generation code) (hreads : s.Reads loads e) :
    Change config dumps loads s s' := by
  obtain ⟨run, hrun, rfl, hwrite⟩ := supervise_eq hs
  cases SupervisorRun.step_course hrun with
  | outer _ _ _ hrequests _ =>
      rw [follow_of_requests hrequests]
      exact .supervised hrun hpopen hexit hreads hrequests
  | @inner e' he hcourse _ _ =>
      subst he
      cases hcourse with
      | @requested m current he hp hauto hdue hne _ _ hrequests =>
          subst he
          have hcommanding : s.commanding = false := by
            cases h : s.commanding with
            | false => rfl
            | true => exact absurd (hwrite h) (by simp [duringWrite])
          have hobserves : observes config s.run.supervisor (.inner (.poll (some current))) =
              some current := by
            simp [observes, hp, hauto, hdue]
          unfold follow
          rw [requested_of_cons hrequests, hobserves]
          exact .requested hrun hp hauto hne hcommanding hrequests
      | kept _ _ hrequests =>
          rw [follow_of_requests hrequests]
          exact .supervised hrun hpopen hexit hreads hrequests
      | launched he =>
          subst he
          exact absurd rfl (hpopen _)
      | reported _ _ _ heq =>
          have hrequests : run.supervisor.requests = s.run.supervisor.requests := by rw [heq]
          rw [follow_of_requests hrequests]
          exact .supervised hrun hpopen hexit hreads hrequests
      | handed _ _ _ _ _ hrequests =>
          rw [follow_of_requests hrequests]
          exact .supervised hrun hpopen hexit hreads hrequests
      | freed _ _ _ _ hrequests =>
          rw [follow_of_requests hrequests]
          exact .supervised hrun hpopen hexit hreads hrequests

theorem launch_change {generation version : String} {pid : Int}
    (hs : s.launch dumps config generation version pid = some s') :
    Change config dumps loads s s' := by
  unfold launch at hs
  split at hs
  · cases hs
  · rename_i hgeneration
    obtain ⟨t, ht, rfl⟩ := Option.map_eq_some_iff.mp hs
    obtain ⟨run, hrun, rfl, -⟩ := supervise_eq ht
    have hrequests : run.supervisor.requests = s.run.supervisor.requests := by
      cases SupervisorRun.step_course hrun with
      | outer he => exact absurd rfl (he _)
      | inner he hcourse _ _ =>
          cases he
          cases hcourse with
          | kept _ _ hrequests => exact hrequests
          | launched _ _ heq =>
              rw [heq]
              rfl
          | reported he => cases he
          | requested he => cases he
          | handed he => cases he
          | freed he => cases he
    rw [follow_of_requests hrequests]
    exact .launched hgeneration hrun

theorem act_change {e : ChildEvent} (hchild : s.children g = some c)
    (hrunning : s.run.processes g = some .running)
    (hs : s.act dumps loads config g c e = some s') : Change config dumps loads s s' := by
  cases e with
  | report =>
      simp only [act] at hs
      split at hs
      · rename_i hp hpayload
        cases hs
        exact .acted hchild hrunning (.report hp hpayload)
      · cases hs
  | replaced =>
      simp only [act, replaced] at hs
      split at hs
      · rename_i hp
        obtain ⟨d, hd, rfl⟩ := Option.map_eq_some_iff.mp hs
        exact .acted hchild hrunning (.reported hp hd)
      · rename_i hp
        obtain ⟨d, hd, rfl⟩ := Option.map_eq_some_iff.mp hs
        exact .acted hchild hrunning (.published hp hd)
      · cases hs
  | check readable =>
      simp only [act, check] at hs
      split at hs
      · rename_i hserving
        split at hs
        · cases hs
          exact .acted hchild hrunning .stays
        · rename_i target htarget
          split at hs
          · cases hs
            exact .acted hchild hrunning .stays
          · rename_i hne
            cases hs
            exact .acted hchild hrunning (.commanded hserving.1 hserving.2 htarget hne)
      · cases hs
  | preserve key value =>
      simp only [act] at hs
      split at hs
      · rename_i hp
        split at hs
        · cases hs
          exact .acted hchild hrunning (.preserve hp ‹_›)
        · cases hs
      · cases hs
  | requestRestart =>
      simp only [act] at hs
      split at hs
      · rename_i hp
        obtain ⟨r, hr, rfl⟩ := Option.map_eq_some_iff.mp hs
        exact .acted hchild hrunning (.requestRestart hp hr)
      · cases hs
  | exit code removed =>
      simp only [act, ChannelRun.exit] at hs
      obtain ⟨run, hrun, rfl⟩ := Option.map_eq_some_iff.mp hs
      exact .exited hrun

theorem step_change (hs : s.step dumps loads config e = some s') :
    Change config dumps loads s s' := by
  cases e with
  | launch generation version pid => exact launch_change hs
  | report readable polled =>
      refine supervise_change hs nofun nofun ⟨fun payload polled' heq => ?_, nofun⟩
      cases heq
      exact ⟨readable, rfl⟩
  | handoff readable =>
      refine supervise_change hs nofun nofun ⟨nofun, fun payload heq => ?_⟩
      cases heq
      exact ⟨readable, rfl⟩
  | supervisor e =>
      simp only [step] at hs
      split at hs
      · cases hs
      · rename_i hreserved
        refine supervise_change hs ?_ ?_ ⟨?_, ?_⟩
        · rintro generation rfl
          exact hreserved rfl
        · rintro generation code rfl
          exact hreserved rfl
        · rintro payload polled rfl
          exact absurd rfl hreserved
        · rintro payload rfl
          exact absurd rfl hreserved
  | commanded =>
      obtain ⟨d, hd, rfl⟩ := Option.map_eq_some_iff.mp hs
      exact .commanded hd
  | child generation e =>
      simp only [step, stepChild] at hs
      split at hs
      · cases hs
      · split at hs
        · exact act_change ‹_› ‹_› hs
        · cases hs
  | write writer n =>
      obtain ⟨d, hd, rfl⟩ := Option.map_eq_some_iff.mp hs
      exact .wrote hd
  | remove name =>
      simp only [step] at hs
      split at hs
      · cases hs
      · cases hs
        exact .removed ‹_›

end ChannelRun
end PyFrp
