import Mathlib.Logic.Function.Basic
import PyFrp.Supervisor.Supervisor

/-!
# A run of the supervisor and its children

`ProcessSupervisor.run` around `_run_children`, with the child processes it
starts. A child exits when it likes, and is reaped by the `wait` or the `poll`
that sees it. An exception ends the run; a `KeyboardInterrupt` at a wait leads to
`_finish_interrupted_child` first, where no further one arrives.
-/

namespace PyFrp

open Python Coop

inductive Process
  | running
  | exited (code : Int)
  | reaped (code : Int)
  deriving DecidableEq

/-- The code of a process that is gone. -/
def Process.code : Process → Option Int
  | .running => none
  | .exited code => some code
  | .reaped code => some code

def Process.isReaped : Process → Bool
  | .reaped _ => true
  | _ => false

inductive RunResult
  | returned (code : Int)
  /-- An exception other than `KeyboardInterrupt`. -/
  | raised (text : String)
  deriving DecidableEq

/-- The waits of `_finish_interrupted_child` and of its `_terminate_child`. -/
inductive Stopping
  | wait
  | terminated
  | killed
  deriving DecidableEq

inductive Stage
  /-- In `_run_children`. -/
  | children
  /-- In `_finish_interrupted_child`. -/
  | stopping (p : Stopping)
  | ended (r : RunResult)
  deriving DecidableEq

structure SupervisorRun where
  supervisor : Supervisor
  -- the children that were started, by their generation
  processes : String → Option Process
  stage : Stage

namespace SupervisorRun

inductive Event
  /-- A child exits. -/
  | exit (generation : String) (code : Int)
  /-- A call of `_run_children` returns. -/
  | inner (e : Supervisor.Event)
  /-- A call of `_run_children` or of `_finish_interrupted_child` raises. -/
  | raised (text : String)
  /-- A `KeyboardInterrupt` leaves a wait. `cleanup` is what the removal of the
  directory raises. -/
  | interrupt (cleanup : Option String)
  /-- `_run_children` has returned, and the directory is removed. -/
  | leave (cleanup : Option String)
  /-- A wait of `_finish_interrupted_child` is over. -/
  | stop (returncode : Option Int)

def initial (environ : Environment) : SupervisorRun := ⟨.initial environ, fun _ => none, .children⟩

/-- What a `wait` or a `poll` learns of `self.child`. -/
def childCode (s : SupervisorRun) : Option Int :=
  s.supervisor.child.bind fun generation => (s.processes generation).bind Process.code

/-- `self.child` has not exited. -/
def childRunning (s : SupervisorRun) : Bool :=
  s.supervisor.child.any fun generation => s.processes generation = some .running

def reap (s : SupervisorRun) (code : Int) : SupervisorRun :=
  match s.supervisor.child with
  | some generation =>
      { s with processes := Function.update s.processes generation (some (.reaped code)) }
  | none => s

def withoutChild (s : SupervisorRun) : SupervisorRun :=
  { s with supervisor := { s.supervisor with child := none } }

def endWith (s : SupervisorRun) (r : RunResult) : SupervisorRun := { s with stage := .ended r }

def isOver (s : SupervisorRun) : Bool :=
  match s.stage with
  | .ended _ => true
  | _ => false

/-! ## `_run_children` -/

/-- One turn of the loop of `_launch_child` gets to its `poll()`. -/
def polls (s : SupervisorRun) (status : Option Fields) : Bool :=
  match s.supervisor.phase with
  | .startup _ generation deadline =>
      s.supervisor.clock < deadline && (childStatus generation status).isNone
  | _ => false

/-- The event agrees with what the processes are. -/
def agrees (s : SupervisorRun) : Supervisor.Event → Bool
  | .waited (some code) => s.childCode = some code
  | .report status polled => polled = if s.polls status then s.childCode else none
  | _ => true

/-- What the event does to the processes. -/
def track (s : SupervisorRun) : Supervisor.Event → SupervisorRun
  | .popen generation =>
      { s with processes := Function.update s.processes generation (some .running) }
  | .waited (some code) => s.reap code
  | .report _ (some code) => s.reap code
  | _ => s

def runChildren (config : SupervisorConfig) (s : SupervisorRun) (e : Supervisor.Event) :
    Option SupervisorRun :=
  if s.agrees e then
    (s.supervisor.step config e).map fun t => { s.track e with supervisor := t }
  else none

/-! ## Ends of the run -/

/-- The beginning of `_finish_interrupted_child`. -/
def finishInterruptedChild (s : SupervisorRun) : SupervisorRun :=
  if s.supervisor.child = none then s.endWith (.returned 130) else { s with stage := .stopping .wait }

/-- The `KeyboardInterrupt` arrives in `run`. -/
def afterInterrupt (s : SupervisorRun) : Option String → SupervisorRun
  | none => s.finishInterruptedChild
  | some text => s.endWith (.raised text)

def interruptChildren (s : SupervisorRun) (cleanup : Option String) : Option SupervisorRun :=
  match s.supervisor.phase with
  | .startup .. => some (s.afterInterrupt cleanup)
  | .validation .. => some (s.afterInterrupt cleanup)
  -- the `finally` clause of `_terminate_child`
  | .termination .. => some (s.withoutChild.afterInterrupt cleanup)
  | .monitor .. => some (s.afterInterrupt cleanup)
  | .waiting .. => some (s.afterInterrupt cleanup)
  | _ => none

def raiseChildren (s : SupervisorRun) (text : String) : Option SupervisorRun :=
  match s.supervisor.phase with
  | .termination .. => some (s.withoutChild.endWith (.raised text))
  | .launched .. => none
  | .finished .. => none
  | _ => some (s.endWith (.raised text))

def leave (s : SupervisorRun) (cleanup : Option String) : Option SupervisorRun :=
  match s.supervisor.phase, cleanup with
  | .finished code, none => some (s.endWith (.returned code))
  | .finished _, some text => some (s.endWith (.raised text))
  | _, _ => none

/-- A wait of `_finish_interrupted_child` is over. -/
def stop (s : SupervisorRun) (p : Stopping) : Option Int → Option SupervisorRun
  | some code =>
      if s.childCode = some code then some ((s.reap code).withoutChild.endWith (.returned 130)) else none
  | none =>
      match p with
      | .wait => some { s with stage := .stopping .terminated }
      | .terminated => some { s with stage := .stopping .killed }
      | .killed => none

def step (config : SupervisorConfig) (s : SupervisorRun) : Event → Option SupervisorRun
  | .exit generation code =>
      if s.processes generation = some .running then
        some { s with processes := Function.update s.processes generation (some (.exited code)) }
      else none
  | .inner e => if s.stage = .children then s.runChildren config e else none
  | .raised text =>
      match s.stage with
      | .children => s.raiseChildren text
      | .stopping _ => some (s.endWith (.raised text))
      | .ended _ => none
  | .interrupt cleanup => if s.stage = .children then s.interruptChildren cleanup else none
  | .leave cleanup => if s.stage = .children then s.leave cleanup else none
  | .stop returncode =>
      match s.stage with
      | .stopping p => s.stop p returncode
      | _ => none

end SupervisorRun

/-- `ProcessSupervisor.run` with the processes it starts. -/
def supervisorRun (config : SupervisorConfig) (environ : Environment) :
    System SupervisorRun SupervisorRun.Event :=
  ⟨.initial environ, SupervisorRun.step config⟩

end PyFrp
