import PyFrp.Coop.Dict
import PyFrp.Python.Value

/-!
# The supervisor's channel

What the parent reads from the files of the channel and what it puts into the
environment of a child. A file is what `_read_json` makes of it: no payload, or
the fields of a JSON object.
-/

namespace PyFrp

open Python Coop

/-- The environment of a process. -/
abbrev Environment := Dict String String

def supervisedChildEnv := "PY_FRP_SUPERVISED_CHILD"
def supervisorRootEnv := "PY_FRP_SUPERVISOR_ROOT"
def supervisorGenerationEnv := "PY_FRP_SUPERVISOR_GENERATION"
def legacyWindowsSupervisorEnv := "PY_FRP_WINDOWS_RESTART_SUPERVISOR"
def restartEnvPrefix := "PY_FRP_RESTART_"
def targetVersionEnv := "PY_FRP_RESTART_TARGET_VERSION"
def childRestartExitCode : Int := 75

/-- `key.startswith(RESTART_ENV_PREFIX)`. -/
def isRestartKey (key : String) : Bool := restartEnvPrefix.toList.isPrefixOf key.toList

structure ChildStatus where
  version : String
  pid : Int

structure RestartState where
  targetVersion : String
  environment : Environment

/-- The payload of a file, if it was written by this generation. -/
def ofGeneration (generation : String) (payload : Option Fields) : Option Fields :=
  payload.filter fun fields => (dictGet fields "generation").isText generation

def childStatus (generation : String) (payload : Option Fields) : Option ChildStatus :=
  match ofGeneration generation payload with
  | none => none
  | some fields =>
      match dictGet fields "version", dictGet fields "pid" with
      | .str version, .int pid => some ⟨version, pid⟩
      -- a bool is an int
      | .str version, .bool pid => some ⟨version, if pid then 1 else 0⟩
      | _, _ => none

/-- The restart variables among the entries of a decoded environment. -/
def restartVariable : String × Value → Option (String × String)
  | (key, .str value) => if isRestartKey key then some (key, value) else none
  | _ => none

def restartState (generation : String) (payload : Option Fields) : Option RestartState :=
  match ofGeneration generation payload with
  | none => none
  | some fields =>
      match dictGet fields "target_version", dictGet fields "environment" with
      | .str target, .dict raw =>
          some ⟨target, Dict.empty.setAll (raw.filterMap restartVariable)⟩
      | _, _ => none

def prepareChildEnvironment (root : String) (base : Environment) (generation : String) :
    Environment :=
  ((base.set supervisedChildEnv "1").set supervisorRootEnv root).set
    supervisorGenerationEnv generation

/-- `environment.get(key)` is a text that is not empty. -/
def envGiven (environment : Environment) (key : String) : Option String :=
  (environment.get? key).filter (· ≠ "")

def isSupervisedChild (environ : Environment) : Bool :=
  environ.get? supervisedChildEnv = some "1" && (envGiven environ supervisorRootEnv).isSome &&
    (envGiven environ supervisorGenerationEnv).isSome

/-- `_child_channel`: the directory and the generation of a supervised child. -/
def childChannel (environ : Environment) : Option (String × String) :=
  if isSupervisedChild environ then
    match environ.get? supervisorRootEnv, environ.get? supervisorGenerationEnv with
    | some root, some generation => some (root, generation)
    | _, _ => none
  else none

/-- `publish_restart_state`: the payload of the file, for a supervised child. -/
def publishRestartState (environ : Environment) (targetVersion : String) : Option Fields :=
  (childChannel environ).map fun channel =>
    [("environment", .dict ((environ.filterKeys isRestartKey).entries.map fun e => (e.1, .str e.2))),
      ("generation", .str channel.2), ("target_version", .str targetVersion)]

/-- `request_restart`: the environment it leaves, and the payload of the file. -/
def requestRestart (environ : Environment) (expectedVersion : String) :
    Option (Environment × Fields) :=
  let environ := environ.set targetVersionEnv expectedVersion
  (publishRestartState environ expectedVersion).map fun payload => (environ, payload)

def clearInternalEnvironment (environment : Environment) : Environment :=
  environment.eraseAll
    [supervisedChildEnv, supervisorRootEnv, supervisorGenerationEnv, legacyWindowsSupervisorEnv]

def replaceRestartEnvironment (environment restart : Environment) : Environment :=
  (environment.eraseAll ((environment.entries.map Prod.fst).filter isRestartKey)).setAll
    restart.entries

end PyFrp
