import PyFrp.Python.Value

/-!
# Server configuration (`config.py`)

The records a configuration file or the command line is turned into, with the
defaults of the source.
-/

namespace PyFrp

open Python

structure ServerServiceConfig where
  name : String
  bindHost : String
  bindPort : Int
  token : Option String := none
  deriving DecidableEq

structure ServerConfig where
  bindHost : String := "0.0.0.0"
  bindPort : Int := 7000
  token : Option String := none
  services : List ServerServiceConfig := []
  allowDynamic : Bool := true
  sourceFlavor : String := "py-frp"
  openTimeout : PyFloat := .finite 15
  portPool : List Int := []
  poolTokens : List String := []
  poolBindHost : String := "0.0.0.0"
  deriving DecidableEq

/-- The immutable part of a `Server` object: its configuration, and the text
Python's `repr` gives (see `Python.Value.toStr`). -/
structure Server where
  config : ServerConfig
  repr : Value → String

/-- `self._configured.get(name)`: of two services of one name the dict keeps
the last. -/
def Server.configured (srv : Server) (name : String) : Option ServerServiceConfig :=
  srv.config.services.reverse.find? fun s => s.name = name

end PyFrp
