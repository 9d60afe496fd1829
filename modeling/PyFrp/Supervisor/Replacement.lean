import PyFrp.Python.Json
import PyFrp.Supervisor.Commands

/-!
# The replacement of a child, end to end

The guarantees of the file channel for the supervisor and its children together, in
every run: whoever reads a file reads all that one writer has written to it; a child
restarts only as it was told; the version that a child is judged by is its own; and the
supervisor starts the next child with what the last one has left.
-/

namespace PyFrp

open Python Coop Storage

namespace ChannelRun

variable {config : SupervisorConfig} {dumps : Fields → Bytes} {loads : Bytes → Option Fields}
variable {environ : Environment} {s s' : ChannelRun} {g : String} {c : Child}

/-! ## A run -/

def exampleStatus : Fields :=
  [("generation", .str "a"), ("pid", .int 7), ("version", .str "0.6")]

def exampleCommand : Fields :=
  [("command", .str "restart"), ("generation", .str "a"), ("target_version", .str "0.7")]

def exampleState : Fields :=
  [("environment", .dict [(poolTokenEnv, .str "secret"), (targetVersionEnv, .str "0.7")]),
    ("generation", .str "a"), ("target_version", .str "0.7")]

def exampleDumps (payload : Fields) : Bytes := encodeUtf8 ((Value.dict payload).dumps fun _ => [])

def exampleSaved : List Fields := [exampleState, exampleCommand, exampleStatus]

/-- `json.loads` for the texts of the run. -/
def exampleLoads (content : Bytes) : Option Fields :=
  exampleSaved.find? fun p => exampleDumps p = content

theorem jsonOk_example (h : s.saved <:+ exampleSaved) : JsonOk exampleDumps exampleLoads s := by
  intro p hp
  have hmem : p ∈ exampleSaved := h.subset hp
  rcases hmem with _ | ⟨_, _ | ⟨_, _ | ⟨_, hnone⟩⟩⟩
  · rfl
  · rfl
  · rfl
  · cases hnone

def exampleRun : System ChannelRun Event :=
  channelRun Supervisor.exampleSupervisor exampleDumps exampleLoads .empty

/-- A child with version 0.6 reports, and is told to restart toward version 0.7. -/
def toldToRestart : List Event :=
  [.launch "a" "0.6" 7, .child "a" .report, .write (.child "a") 200, .child "a" .replaced,
    .report true none, .supervisor (.inner (.waited none)), .supervisor (.inner .resume),
    .supervisor (.inner (.poll (some "0.7"))), .write .supervisor 200, .commanded,
    .child "a" (.check true)]

/-- It leaves its token behind, and exits. -/
def restarts : List Event :=
  [.child "a" (.preserve poolTokenEnv "secret"), .child "a" .requestRestart,
    .write (.child "a") 200, .child "a" .replaced, .child "a" (.exit 75 false),
    .supervisor (.inner (.waited (some 75)))]

theorem told_reachable : ∃ s, exampleRun.Reachable s ∧ JsonOk exampleDumps exampleLoads s ∧
    s.run.supervisor.phase = .monitor ⟨"a", "0.6", 5 * ticksPerSecond, some "0.7"⟩ ∧
    s.directory.files .command = some (exampleDumps exampleCommand) ∧
    (s.children "a").map Child.version = some "0.6" ∧
    (s.children "a").map Child.point = some (.changed "0.7") := by
  have hrun : (exampleRun.exec exampleRun.init toldToRestart).map
      (fun s => (s.saved, s.run.supervisor.phase, s.directory.files .command,
        (s.children "a").map Child.version, (s.children "a").map Child.point)) =
      some ([exampleCommand, exampleStatus],
        .monitor ⟨"a", "0.6", 5 * ticksPerSecond, some "0.7"⟩,
        some (exampleDumps exampleCommand), some "0.6", some (.changed "0.7")) := by rfl
  obtain ⟨s, hr, hs⟩ := System.exists_of_execWhile_map _ (fun _ _ _ _ => trivial) hrun
  simp only [Prod.mk.injEq] at hs
  obtain ⟨hsaved, hphase, hfile, hversion, hpoint⟩ := hs
  refine ⟨s, hr, jsonOk_example ?_, hphase, hfile, hversion, hpoint⟩
  rw [hsaved]
  exact ⟨[exampleState], rfl⟩

/-! ## The files -/

/-- Wherever a writer is interrupted or dies, for those who read the channel is a store in which
every write is one step, and what a file holds was written by one who may, and as a whole. -/
theorem channel_atomic (hroot : config.root ≠ "") :
    (channelRun config dumps loads environ).Refines (registers ChannelFile UInt8)
        (fun _ _ => True) (fun _ _ => True) (fun s => s.directory.files) ∧
      ∀ s, (channelRun config dumps loads environ).Reachable s → ∀ name content,
        s.directory.files name = some content →
          ∃ writer, s.Published dumps writer name content :=
  ⟨(refines_directory hroot).trans Directory.refines_registers,
    fun _ h => (filed hroot h).files⟩

/-- The command was written by the supervisor. -/
theorem channel_atomic_told : ∃ s, exampleRun.Reachable s ∧
    s.Published exampleDumps .supervisor .command (exampleDumps exampleCommand) := by
  obtain ⟨s, hr, -, -, hfile, -⟩ := told_reachable
  have hroot : Supervisor.exampleSupervisor.root ≠ "" := by decide
  obtain ⟨writer, hpublished⟩ := (channel_atomic hroot).2 s hr .command _ hfile
  refine ⟨s, hr, ?_⟩
  cases writer with
  | supervisor => exact hpublished
  | child generation => cases hpublished.writes

/-! ## The commands -/

/-- A child that is on its way to a restart was told to by the supervisor, toward a version that
was installed and is not the one it has. -/
theorem restart_commanded (hroot : config.root ≠ "")
    (h : (channelRun config dumps loads environ).Reachable s) (hj : JsonOk dumps loads s)
    {T : String} (hc : s.children g = some c) (hT : c.point.target = some T) :
    (g, T) ∈ s.run.supervisor.requests ∧ T ∈ s.observed ∧ T ≠ c.version ∧ T ≠ "" ∧
      config.autoRestart = true := by
  have hok := agreed hroot h hj
  obtain ⟨hrequest, hne⟩ := hok.commanded g c T hc hT
  obtain ⟨hobserved, hauto, c', hc', hversion⟩ := hok.requests g T hrequest
  rw [hc] at hc'
  cases hc'
  exact ⟨hrequest, hobserved, Ne.symm hversion, hne, hauto⟩

theorem restart_commanded_told : ∃ s : ChannelRun, ("a", "0.7") ∈ s.run.supervisor.requests ∧
    "0.7" ∈ s.observed := by
  obtain ⟨s, hr, hj, -, -, -, hpoint⟩ := told_reachable
  obtain ⟨c, hc, hp⟩ := Option.map_eq_some_iff.mp hpoint
  have hroot : Supervisor.exampleSupervisor.root ≠ "" := by decide
  obtain ⟨hrequest, hobserved, -⟩ := restart_commanded hroot hr hj hc (by rw [hp]; rfl)
  exact ⟨s, hrequest, hobserved⟩

/-! ## The versions -/

/-- The supervisor judges a child by the version it has, and every target it has launched a
child toward, or launches or waits for now, was installed. -/
theorem judged_version (hroot : config.root ≠ "")
    (h : (channelRun config dumps loads environ).Reachable s) (hj : JsonOk dumps loads s) :
    (∀ g version, s.run.supervisor.phase.generation = some g →
      s.run.supervisor.phase.judged = some version →
        ∃ c, s.children g = some c ∧ c.version = version) ∧
    (∀ l ∈ s.run.supervisor.launches, ∀ T, l.target = some T → T ∈ s.observed) ∧
    ∀ T, s.run.supervisor.phase.pursued = some T → T ∈ s.observed :=
  have hok := agreed hroot h hj
  ⟨hok.judged, hok.launches, hok.pursued⟩

theorem judged_version_told : ∃ (s : ChannelRun) (c : Child), s.children "a" = some c ∧
    c.version = "0.6" := by
  obtain ⟨s, hr, hj, hphase, -⟩ := told_reachable
  have hroot : Supervisor.exampleSupervisor.root ≠ "" := by decide
  obtain ⟨c, hc, hversion⟩ :=
    (judged_version hroot hr hj).1 "a" "0.6" (by rw [hphase]; rfl) (by rw [hphase]; rfl)
  exact ⟨s, c, hc, hversion⟩

/-! ## The handoff -/

/-- The next child is started toward `T`, with the restart variables of `c`. -/
structure Replaces (config : SupervisorConfig) (t t' : Supervisor) (c : Child) (T : String) :
    Prop where
  phase : t'.phase = .launch (some T)
  environment : ∀ next, HandedOver t.environment c.environ config.root next
    (prepareChildEnvironment config.root t'.environment next)

/-- The step of the supervisor that takes over the state of its child. -/
theorem handoff_eq {readable : Bool} {restartTarget : String}
    (hp : s.run.supervisor.phase = .restarting g restartTarget)
    (hs : s.step dumps loads config (.handoff readable) = some s') :
    s'.run.supervisor =
      s.run.supervisor.handOver g restartTarget (s.readJson loads .restartState readable) := by
  obtain ⟨run, hrun, rfl, -⟩ := supervise_eq hs
  have hfollow : ∀ e, (s.follow dumps config e run).run = run := by
    intro e
    unfold follow
    dsimp only
    split <;> rfl
  rw [hfollow]
  simp only [SupervisorRun.step] at hrun
  split at hrun
  · obtain ⟨-, t, ht, rfl⟩ := SupervisorRun.runChildren_eq hrun
    simp only [Supervisor.step, hp] at ht
    exact (Option.some.inj ht).symm
  · cases hrun

/-- A child that exits with the restart code is replaced if and only if it has restarted and the
supervisor can read what it left, and then it is replaced by one toward its target and with its
restart variables. In every other case the supervisor ends with code 1. -/
theorem handoff_complete (hroot : config.root ≠ "")
    (h : (channelRun config dumps loads environ).Reachable s)
    (hj : JsonOk dumps loads s) {restartTarget : String}
    (hp : s.run.supervisor.phase = .restarting g restartTarget) {readable : Bool}
    (hs : (channelRun config dumps loads environ).step s (.handoff readable) = some s') :
    (readable = true → ∀ c T, s.children g = some c → c.point = .restarted T →
      Replaces config s.run.supervisor s'.run.supervisor c T) ∧
    ((readable = false ∨ ∀ c T, s.children g = some c → c.point ≠ .restarted T) →
      s'.run.supervisor.phase = .finished 1) := by
  have hok := agreed hroot h hj
  have hf : Filed dumps s := filed hroot h
  obtain ⟨hk, -⟩ := known_drafting hroot h
  have heq := handoff_eq hp hs
  -- a state that was read is that of a child, and names a target
  have hreplaces : ∀ {state : RestartState},
      restartState g (s.readJson loads .restartState readable) = some state →
      ∃ c, s.children g = some c ∧ c.point = .restarted state.targetVersion ∧
        Replaces config s.run.supervisor s'.run.supervisor c state.targetVersion := by
    intro state hstate
    obtain ⟨c, hc, hof⟩ := state_of_read hk hf hj hstate
    obtain ⟨-, hne⟩ := hok.commanded g c state.targetVersion hc (by rw [hof.restarted]; rfl)
    refine ⟨c, hc, hof.restarted, ?_, fun next => ?_⟩
    · rw [heq]
      unfold Supervisor.handOver
      rw [hstate]
      have hnext : Supervisor.nextTarget state restartTarget = state.targetVersion := if_neg hne
      rw [← hnext]
    · rw [heq]
      exact handedOver_of_state _ _ _ _ hstate hof.environment
  constructor
  · rintro rfl c T hc hpoint
    obtain ⟨l, hhead, hl⟩ := hok.latest g (by rw [hp]; rfl)
    have hstage : s.run.stage = .children := by
      obtain ⟨run, hrun, -, -⟩ := supervise_eq hs
      simp only [SupervisorRun.step] at hrun
      split at hrun
      · assumption
      · cases hrun
    obtain ⟨payload, hfile, hpayload, hsaved⟩ := hok.kept g c T l hstage hc hpoint hhead hl
    have hread : s.readJson loads .restartState true = some (sortKeys payload) := by
      simp only [readJson, if_true, hfile, Option.bind_some]
      exact hj _ hsaved
    obtain ⟨-, state, hstate, htarget, -⟩ :=
      restartState_publishRestartState (hk.channel g c hc) hpayload g
    obtain ⟨c', hc', -, hreplaces⟩ := hreplaces (hread ▸ hstate)
    rw [hc] at hc'
    cases hc'
    rw [htarget] at hreplaces
    exact hreplaces
  · intro hnot
    cases hstate : restartState g (s.readJson loads .restartState readable) with
    | some state =>
        obtain ⟨c, hc, hpoint, -⟩ := hreplaces hstate
        rcases hnot with rfl | hnone
        · cases hstate
        · exact absurd hpoint (hnone c _ hc)
    | none =>
        rw [heq]
        unfold Supervisor.handOver
        rw [hstate]
        rfl

/-- The token of the first child is that of the next one. -/
theorem handoff_complete_token : ∃ s' : ChannelRun,
    s'.run.supervisor.phase = .launch (some "0.7") ∧
      (prepareChildEnvironment "channel" s'.run.supervisor.environment "b").get? poolTokenEnv =
        some "secret" := by
  have hrun : (exampleRun.exec exampleRun.init (toldToRestart ++ restarts)).map
      (fun s => (s.saved, s.run.supervisor.phase, (s.children "a").map Child.point,
        (s.children "a").bind fun c => c.environ.get? poolTokenEnv,
        (exampleRun.step s (.handoff true)).isSome)) =
      some ([exampleState, exampleCommand, exampleStatus], .restarting "a" "0.7",
        some (.restarted "0.7"), some "secret", true) := by rfl
  obtain ⟨s, hr, hs⟩ := System.exists_of_execWhile_map _ (fun _ _ _ _ => trivial) hrun
  simp only [Prod.mk.injEq] at hs
  obtain ⟨hsaved, hphase, hpoint, htoken, hstep⟩ := hs
  obtain ⟨s', hs'⟩ := Option.isSome_iff_exists.mp hstep
  obtain ⟨c, hc, hp⟩ := Option.map_eq_some_iff.mp hpoint
  have hroot : Supervisor.exampleSupervisor.root ≠ "" := by decide
  have hj : JsonOk exampleDumps exampleLoads s := jsonOk_example ⟨[], hsaved⟩
  obtain ⟨hreplaces, -⟩ := handoff_complete hroot hr hj hphase hs'
  obtain ⟨hlaunch, henvironment⟩ := hreplaces rfl c "0.7" hc hp
  refine ⟨s', hlaunch, ?_⟩
  have hkey : isRestartKey poolTokenEnv = true := by decide
  have hne : poolTokenEnv ≠ targetVersionEnv := by decide
  refine ((henvironment "b").restart poolTokenEnv hkey hne).trans ?_
  rw [hc] at htoken
  exact htoken

end ChannelRun
end PyFrp
