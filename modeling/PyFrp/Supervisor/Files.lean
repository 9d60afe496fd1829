import Mathlib.Data.List.Sort
import PyFrp.Client.Trust
import PyFrp.Server.Restored
import PyFrp.Storage.Replace
import PyFrp.Supervisor.Handoff
import PyFrp.Supervisor.Run

/-!
# The supervisor and its children over the files of the channel

`SupervisorChannel` with a supervised child at its other end: what one side reads is
what is in the directory, and that is what the other side has written by
`_write_json`. The supervisor runs as in `supervisorRun`; a child reports, waits for
a command, hands its restart variables over and exits, or exits before, at any point.
`dumps` stands for `json.dump`, and `loads` for what `_read_json` makes of the bytes.
-/

namespace PyFrp

open Python Coop Storage

inductive ChannelFile
  | status
  | command
  | restartState
  deriving DecidableEq

/-- Who writes. The temporary files are named after the pid of the writer: two writers
that are alive have different ones, and one that a dead writer has left is emptied. -/
inductive Writer
  | supervisor
  | child (generation : String)
  deriving DecidableEq

/-! ## What is written -/

def sortEntries {α : Type} (entries : List (String × α)) : List (String × α) :=
  entries.insertionSort fun a b => a.1 ≤ b.1

def sortValue : Value → Value
  | .dict entries => .dict (sortEntries entries)
  | v => v

/-- `sort_keys=True`. The dicts of the channel are two deep. -/
def sortKeys (payload : Fields) : Fields :=
  (sortEntries payload).map fun e => (e.1, sortValue e.2)

def statusPayload (generation version : String) (pid : Int) : Fields :=
  [("generation", .str generation), ("version", .str version), ("pid", .int pid)]

/-- `publish_child_status`, for a supervised child. -/
def publishChildStatus (environ : Environment) (version : String) (pid : Int) : Option Fields :=
  (childChannel environ).map fun channel => statusPayload channel.2 version pid

/-- `SupervisorChannel.request_restart`. -/
def restartCommand (generation targetVersion : String) : Fields :=
  [("generation", .str generation), ("command", .str "restart"),
    ("target_version", .str targetVersion)]

/-- `supervisor_restart_target`, with what is read. -/
def supervisorRestartTarget (environ : Environment) (payload : Option Fields) : Option String :=
  match childChannel environ with
  | none => none
  | some channel =>
      match ofGeneration channel.2 payload with
      | none => none
      | some fields =>
          if (dictGet fields "command").isText "restart" then
            match dictGet fields "target_version" with
            | .str target => if target = "" then none else some target
            | _ => none
          else none

/-- The variables that a child sets before it restarts. -/
def preservedKeys : List String :=
  [poolTokenEnv, restartCertEnv, restartKeyEnv, restartServerFingerprintEnv]

/-! ## The children -/

/-- Where a supervised child is. -/
inductive ChildPoint
  | starting
  -- in `publish_child_status`
  | reporting
  | serving
  /-- `wait_for_version_change` has returned, and the child gets ready. -/
  | changed (target : String)
  -- in `publish_restart_state`
  | publishing (target : String)
  /-- `SystemExit` is raised. -/
  | restarted (target : String)
  deriving DecidableEq

structure Child where
  -- `py_frp.__version__`, which the process has loaded
  version : String
  pid : Int
  environ : Environment
  point : ChildPoint

structure ChannelRun where
  run : SupervisorRun
  directory : Directory ChannelFile Writer UInt8
  children : String → Option Child
  -- history, most recent first: what was given to `_write_json`, and what
  -- `installed_version` returned to the supervisor
  saved : List Fields
  observed : List String

namespace ChannelRun

/-- What a supervised child does. A read fails if it is not `readable`. -/
inductive ChildEvent
  | report
  /-- `os.replace` returns. -/
  | replaced
  /-- One turn of the loop of `wait_for_version_change`. -/
  | check (readable : Bool)
  | preserve (key value : String)
  | requestRestart
  /-- The process exits. If an exception has left `_write_json`, the temporary file is
  `removed`. -/
  | exit (code : Int) (removed : Bool)

inductive Event
  /-- `_launch_child` up to `Popen`, which starts the given process. -/
  | launch (generation version : String) (pid : Int)
  | report (readable : Bool) (polled : Option Int)
  | handoff (readable : Bool)
  /-- Any other event of the supervisor. -/
  | supervisor (e : SupervisorRun.Event)
  /-- `os.replace` returns in `SupervisorChannel.request_restart`. -/
  | commanded
  | child (generation : String) (e : ChildEvent)
  /-- The file system takes some bytes of a temporary file. -/
  | write (writer : Writer) (n : Nat)
  /-- The directory is removed, file by file, while a child may still run. -/
  | remove (name : ChannelFile)

def initial (environ : Environment) : ChannelRun :=
  ⟨.initial environ, .empty, fun _ => none, [], []⟩

def setChild (s : ChannelRun) (generation : String) (c : Child) : ChannelRun :=
  { s with children := Function.update s.children generation (some c) }

/-! ## The files -/

section Files

variable (dumps : Fields → Bytes) (loads : Bytes → Option Fields)

def readJson (s : ChannelRun) (name : ChannelFile) (readable : Bool) : Option Fields :=
  if readable then (s.directory.files name).bind loads else none

/-- `_write_json` up to its first write. -/
def writeJson (s : ChannelRun) (writer : Writer) (name : ChannelFile) (payload : Fields) :
    ChannelRun :=
  { s with
    directory := s.directory.create writer name (dumps (sortKeys payload))
    saved := sortKeys payload :: s.saved }

/-- `prepare_child_environment` removes what is left of the last child. -/
def removeFiles (d : Directory ChannelFile Writer UInt8) : Directory ChannelFile Writer UInt8 :=
  ((d.unlink .status).unlink .command).unlink .restartState

end Files

/-! ## The supervisor -/

/-- The supervisor is in `_write_json`. -/
def commanding (s : ChannelRun) : Bool := (s.directory.drafts .supervisor).isSome

/-- What can happen to the supervisor in `_write_json`. -/
def duringWrite : SupervisorRun.Event → Bool
  | .inner (.elapse _) => true
  | .raised _ => true
  | .interrupt _ => true
  | _ => false

/-- The event gives what a file held, or starts or ends a process. -/
def reserved : SupervisorRun.Event → Bool
  | .inner (.popen _) => true
  | .inner (.report ..) => true
  | .inner (.handoff _) => true
  | .exit .. => true
  | _ => false

/-- What `installed_version` returned. `_monitor_child` calls it when a check is due. -/
def observes (config : SupervisorConfig) (s : Supervisor) : SupervisorRun.Event → Option String
  | .inner (.poll installed) =>
      match s.phase with
      | .monitor m => if config.autoRestart ∧ m.nextCheck ≤ s.clock then installed else none
      | _ => none
  | .inner (.slept installed) => installed
  | _ => none

/-- The restart that a step has requested. -/
def requested (s t : Supervisor) : Option (String × String) :=
  if s.requests.length < t.requests.length then t.requests.head? else none

/-- An exception that leaves `_write_json` removes the temporary file. -/
def abandon (s : ChannelRun) : SupervisorRun.Event → ChannelRun
  | .raised _ => { s with directory := s.directory.abort .supervisor }
  | .interrupt _ => { s with directory := s.directory.abort .supervisor }
  | _ => s

section Supervise

variable (dumps : Fields → Bytes)

/-- The step has led the supervisor to `run`. -/
def follow (config : SupervisorConfig) (s : ChannelRun) (e : SupervisorRun.Event)
    (run : SupervisorRun) : ChannelRun :=
  let followed := { s.abandon e with
    run := run
    observed := (observes config s.run.supervisor e).toList ++ s.observed }
  match requested s.run.supervisor run.supervisor with
  | none => followed
  | some (generation, target) =>
      followed.writeJson dumps .supervisor .command (restartCommand generation target)

def supervise (config : SupervisorConfig) (s : ChannelRun) (e : SupervisorRun.Event) :
    Option ChannelRun :=
  if s.commanding && !duringWrite e then none
  else (s.run.step config e).map (s.follow dumps config e)

def launch (config : SupervisorConfig) (s : ChannelRun) (generation version : String) (pid : Int) :
    Option ChannelRun :=
  -- `uuid4().hex`
  if generation = "" then none
  else
    (s.supervise dumps config (.inner (.popen generation))).map fun t =>
      { t with directory := removeFiles t.directory }.setChild generation
        ⟨version, pid,
          prepareChildEnvironment config.root s.run.supervisor.environment generation, .starting⟩

end Supervise

/-! ## A child -/

section Children

variable (dumps : Fields → Bytes) (loads : Bytes → Option Fields)

def replaced (s : ChannelRun) (generation : String) (c : Child) : Option ChannelRun :=
  match c.point with
  | .reporting =>
      (s.directory.replace (.child generation)).map fun d =>
        { s with directory := d }.setChild generation { c with point := .serving }
  | .publishing target =>
      (s.directory.replace (.child generation)).map fun d =>
        { s with directory := d }.setChild generation { c with point := .restarted target }
  | _ => none

def check (config : SupervisorConfig) (s : ChannelRun) (generation : String) (c : Child)
    (readable : Bool) : Option ChannelRun :=
  if c.point = .serving ∧ config.autoRestart then
    match supervisorRestartTarget c.environ (s.readJson loads .command readable) with
    | none => some s
    | some target =>
        if target = c.version then some s
        else some (s.setChild generation { c with point := .changed target })
  else none

def exit (config : SupervisorConfig) (s : ChannelRun) (generation : String) (code : Int)
    (removed : Bool) : Option ChannelRun :=
  (s.run.step config (.exit generation code)).map fun run =>
    { s with
      run := run
      directory :=
        if removed then s.directory.abort (.child generation)
        else s.directory.crash (.child generation) }

def act (config : SupervisorConfig) (s : ChannelRun) (generation : String) (c : Child) :
    ChildEvent → Option ChannelRun
  | .report =>
      match c.point, publishChildStatus c.environ c.version c.pid with
      | .starting, some payload =>
          some ((s.writeJson dumps (.child generation) .status payload).setChild generation
            { c with point := .reporting })
      | _, _ => none
  | .replaced => s.replaced generation c
  | .check readable => s.check loads config generation c readable
  | .preserve key value =>
      match c.point with
      | .changed _ =>
          if key ∈ preservedKeys then
            some (s.setChild generation { c with environ := c.environ.set key value })
          else none
      | _ => none
  | .requestRestart =>
      match c.point with
      | .changed target =>
          (requestRestart c.environ target).map fun r =>
            (s.writeJson dumps (.child generation) .restartState r.2).setChild generation
              { c with environ := r.1, point := .publishing target }
      | _ => none
  | .exit code removed => s.exit config generation code removed

def stepChild (config : SupervisorConfig) (s : ChannelRun) (generation : String)
    (e : ChildEvent) : Option ChannelRun :=
  match s.children generation with
  | none => none
  | some c =>
      if s.run.processes generation = some .running then s.act dumps loads config generation c e
      else none

def step (config : SupervisorConfig) (s : ChannelRun) : Event → Option ChannelRun
  | .launch generation version pid => s.launch dumps config generation version pid
  | .report readable polled =>
      s.supervise dumps config (.inner (.report (s.readJson loads .status readable) polled))
  | .handoff readable =>
      s.supervise dumps config (.inner (.handoff (s.readJson loads .restartState readable)))
  | .supervisor e => if reserved e then none else s.supervise dumps config e
  | .commanded => (s.directory.replace .supervisor).map fun d => { s with directory := d }
  | .child generation e => s.stepChild dumps loads config generation e
  | .write writer n => (s.directory.write writer n).map fun d => { s with directory := d }
  | .remove name =>
      if s.run.stage = .children then none
      else some { s with directory := s.directory.unlink name }

end Children
end ChannelRun

/-- The supervisor, its children and the files between them. -/
def channelRun (config : SupervisorConfig) (dumps : Fields → Bytes)
    (loads : Bytes → Option Fields) (environ : Environment) :
    System ChannelRun ChannelRun.Event :=
  ⟨.initial environ, ChannelRun.step dumps loads config⟩

end PyFrp
