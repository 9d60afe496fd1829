import PyFrp.Coop.System
import PyFrp.Supervisor.Channel

/-!
# The process supervisor

`ProcessSupervisor._run_children` as a transition system. The program is cut
where it waits for the outside: each event is what one call returned (a child
that was started, a file that was read, an exit code that was collected, the
installed version), and a step runs the code up to the next such call. The clock
is read in ticks, and any time may pass between two events.
-/

namespace PyFrp

open Python Coop

/-- Ticks of the monotonic clock in a second. -/
def ticksPerSecond : Int := 1000000000

def startupReportTimeout : Int := 10 * ticksPerSecond
def restartFailureLimit : Nat := 3
def restartFailureWindow : Int := 30 * ticksPerSecond

structure SupervisorConfig where
  autoRestart : Bool
  updateInterval : Int
  -- the directory of the channel
  root : String

/-- What `_launch_child` returns. -/
structure LaunchResult where
  status : Option ChildStatus
  returncode : Option Int

namespace LaunchResult

def stable (launch : LaunchResult) : Bool :=
  launch.status.isSome && launch.returncode.isNone

/-- The code that `_run_children` returns with when the launch is the last one. -/
def exitCode (launch : LaunchResult) : Int := launch.returncode.getD 1

end LaunchResult

/-- The local variables of `_monitor_child`. -/
structure Monitor where
  generation : String
  childVersion : String
  nextCheck : Int
  requestedTarget : Option String

/-- `requested_target or "unknown"`. -/
def Monitor.restartTarget (m : Monitor) : String :=
  match m.requestedTarget with
  | none => "unknown"
  | some target => if target = "" then "unknown" else target

/-- Where the supervisor waits, with the local variables that are still needed. -/
inductive Phase
  | launch (target : Option String)
  | startup (target : Option String) (generation : String) (deadline : Int)
  | validation (target : Option String) (generation : String) (status : ChildStatus)
  -- `_terminate_child`, before and after the kill
  | termination (target : Option String) (generation : String) (killed : Bool)
  | launched (target : Option String) (generation : String) (launch : LaunchResult)
  | monitor (m : Monitor)
  | restarting (generation : String) (restartTarget : String)
  -- `_wait_until_suppression_clears`
  | waiting (target : String)
  | finished (returncode : Int)

/-- A child that was started, with the target it was started toward. -/
structure Launch where
  generation : String
  target : Option String
  environment : Environment

/-- A `ProcessSupervisor`, with the phase of `_run_children` it is in. -/
structure Supervisor where
  environment : Environment
  failures : Dict String (List Int)
  suppressedTarget : Option String
  -- the child, by its generation
  child : Option String
  phase : Phase
  clock : Int
  -- history, most recent first: children started, restarts requested, and the
  -- breakers opened since when no other installed version was observed
  launches : List Launch
  requests : List (String × String)
  opened : List String

namespace Supervisor

inductive Event
  | elapse (now : Int)
  | popen (generation : String)
  | report (status : Option Fields) (polled : Option Int)
  | waited (returncode : Option Int)
  | resume
  | poll (installed : Option String)
  | handoff (state : Option Fields)
  | slept (installed : Option String)

def initial (environ : Environment) : Supervisor where
  environment := (clearInternalEnvironment environ).erase targetVersionEnv
  failures := .empty
  suppressedTarget := none
  child := none
  phase := .launch none
  clock := 0
  launches := []
  requests := []
  opened := []

/-! ## The failures of a target -/

/-- The failures toward `target` that are still in the window. -/
def recentFailures (s : Supervisor) (target : String) : List Int :=
  ((s.failures.get? target).getD []).dropWhile fun t => t < s.clock - restartFailureWindow

/-- One more failure toward `target` is one too many. -/
def limitReached (s : Supervisor) (target : String) : Bool :=
  restartFailureLimit ≤ (s.recentFailures target).length + 1

def recordFailure (s : Supervisor) (target : String) : Supervisor × Bool :=
  let failures := s.recentFailures target ++ [s.clock]
  let recorded := { s with failures := s.failures.set target failures }
  if failures.length < restartFailureLimit then (recorded, false)
  else
    ({ recorded with suppressedTarget := some target, opened := target :: s.opened }, true)

def clearFailures (s : Supervisor) (target : String) : Supervisor :=
  { s with
    failures := s.failures.erase target
    suppressedTarget :=
      if s.suppressedTarget = some target then none else s.suppressedTarget }

def clearSuppressionIfVersionChanged (s : Supervisor) (current : String) : Supervisor :=
  if s.suppressedTarget = none ∨ s.suppressedTarget = some current then s
  else { s with failures := .empty, suppressedTarget := none }

/-- `installed_version()` returned `current`: the breakers of the other targets
are not obeyed any longer. -/
def observe (s : Supervisor) (current : String) : Supervisor :=
  { s with opened := s.opened.filter (· = current) }

/-! ## Launching a child -/

def startChild (config : SupervisorConfig) (s : Supervisor) (target : Option String)
    (generation : String) : Supervisor :=
  let environment := prepareChildEnvironment config.root s.environment generation
  { s with
    child := some generation
    phase := .startup target generation (s.clock + startupReportTimeout)
    launches := ⟨generation, target, environment⟩ :: s.launches }

/-- One turn of the loop that waits for the child to report. -/
def awaitReport (s : Supervisor) (target : Option String) (generation : String)
    (deadline : Int) (status : Option Fields) (polled : Option Int) : Supervisor :=
  if s.clock < deadline then
    match childStatus generation status, polled with
    | some status, _ => { s with phase := .validation target generation status }
    | none, some code =>
        { s with child := none, phase := .launched target generation ⟨none, some code⟩ }
    | none, none => s
  else { s with phase := .termination target generation false }

/-! ## Running the children -/

def finish (s : Supervisor) (returncode : Int) : Supervisor :=
  { s with phase := .finished returncode }

def relaunch (s : Supervisor) (target : String) : Supervisor :=
  { s with phase := .launch (some target) }

/-- Launch again, unless the breaker is open now. -/
def retry (s : Supervisor) (target : String) : Supervisor :=
  let (recorded, suppressed) := s.recordFailure target
  if suppressed then { recorded with phase := .waiting target }
  else recorded.relaunch target

def startMonitor (s : Supervisor) (generation childVersion : String) : Supervisor :=
  { s with phase := .monitor ⟨generation, childVersion, 0, none⟩ }

/-- The part of the loop of `_run_children` between `_launch_child` and the next
launch, wait or `_monitor_child`. -/
def runChildren (s : Supervisor) (target : Option String) (generation : String)
    (launch : LaunchResult) : Supervisor :=
  match launch.status, target with
  | none, none => s.finish launch.exitCode
  | none, some target => s.retry target
  | some status, none =>
      if launch.stable then s.startMonitor generation status.version
      else s.finish launch.exitCode
  | some status, some target =>
      if status.version ≠ target then
        -- whether the failure opened the breaker is not looked at
        let recorded := (s.recordFailure target).1
        if launch.stable then recorded.startMonitor generation status.version
        else recorded.relaunch target
      else if launch.stable then
        (s.clearFailures target).startMonitor generation status.version
      else s.retry target

/-- `_monitor_child`, when the wait for the child timed out. -/
def monitorChild (config : SupervisorConfig) (s : Supervisor) (m : Monitor)
    (installed : Option String) : Supervisor :=
  if !config.autoRestart ∨ s.clock < m.nextCheck then s
  else
    let m := { m with nextCheck := s.clock + config.updateInterval }
    match installed with
    | none => { s with phase := .monitor m }
    | some current =>
        let s := (s.observe current).clearSuppressionIfVersionChanged current
        if current = m.childVersion ∨ s.suppressedTarget = some current ∨
            m.requestedTarget = some current then
          { s with phase := .monitor m }
        else
          { s with
            phase := .monitor { m with requestedTarget := some current }
            requests := (m.generation, current) :: s.requests }

/-- `self.child.wait` returned: the child is gone, or the wait timed out. -/
def childWaited (s : Supervisor) (returncode : Option Int) : Option Supervisor :=
  match s.phase, returncode with
  | .validation target generation status, none =>
      some { s with phase := .launched target generation ⟨some status, none⟩ }
  | .validation target generation status, some code =>
      some { s with
        child := none, phase := .launched target generation ⟨some status, some code⟩ }
  | .termination target generation false, none =>
      some { s with phase := .termination target generation true }
  | .termination target generation _, some _ =>
      some { s with child := none, phase := .launched target generation ⟨none, some 1⟩ }
  | .monitor m, some code =>
      let s := { s with child := none }
      if code = childRestartExitCode then
        some { s with phase := .restarting m.generation m.restartTarget }
      else some (s.finish code)
  | _, _ => none

/-- `state.target_version or result.restart_target`. -/
def nextTarget (state : RestartState) (restartTarget : String) : String :=
  if state.targetVersion = "" then restartTarget else state.targetVersion

/-- What follows `_monitor_child` when the child exited to be replaced. -/
def handOver (s : Supervisor) (generation restartTarget : String)
    (payload : Option Fields) : Supervisor :=
  match restartState generation payload with
  | none => s.finish 1
  | some state =>
      let environment := replaceRestartEnvironment s.environment state.environment
      { s with
        environment := environment.erase targetVersionEnv
        phase := .launch (some (nextTarget state restartTarget)) }

/-- One turn of `_wait_until_suppression_clears`. -/
def waitUntilSuppressionClears (s : Supervisor) (target : String)
    (installed : Option String) : Supervisor :=
  match installed with
  | none => s
  | some current =>
      if current = target then s.observe current
      else
        ((s.observe current).clearSuppressionIfVersionChanged current).relaunch current

/-- The steps. A generation is drawn once. -/
def step (config : SupervisorConfig) (s : Supervisor) (e : Event) : Option Supervisor :=
  match e, s.phase with
  | .elapse now, _ => if s.clock ≤ now then some { s with clock := now } else none
  | .popen generation, .launch target =>
      if s.launches.any (·.generation = generation) then none
      else some (s.startChild config target generation)
  | .report status polled, .startup target generation deadline =>
      some (s.awaitReport target generation deadline status polled)
  | .waited returncode, _ => s.childWaited returncode
  | .resume, .launched target generation launch =>
      some (s.runChildren target generation launch)
  | .poll installed, .monitor m => some (s.monitorChild config m installed)
  | .handoff state, .restarting generation restartTarget =>
      some (s.handOver generation restartTarget state)
  | .slept installed, .waiting target =>
      some (s.waitUntilSuppressionClears target installed)
  | _, _ => none

end Supervisor

/-- The supervisor, started with the given environment. -/
def supervision (config : SupervisorConfig) (environ : Environment) :
    System Supervisor Supervisor.Event :=
  ⟨.initial environ, Supervisor.step config⟩

end PyFrp
