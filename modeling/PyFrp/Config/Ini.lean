import PyFrp.Config.Documents

/-!
# INI files (`config.py`)

The legacy files of frp, as `configparser` reads them without interpolation.
-/

namespace PyFrp

open Python

abbrev Options := List (String × String)

/-- A `ConfigParser`. The names of options are in lower case. -/
structure Ini where
  defaults : Options
  sections : List (String × Options)

namespace Ini

/-- A new `ConfigParser`. -/
def empty : Ini := ⟨[], []⟩

def find (options : Options) (key : String) : Option String :=
  (options.find? fun e => e.1 = key).map Prod.snd

/-- The options of a section proxy: its own, and the defaults where it has none. -/
def options (ini : Ini) (own : Options) : Options := own ++ ini.defaults

/-- `parser["common"]`, if there is this section. -/
def common (ini : Ini) : Option Options :=
  (ini.sections.find? fun e => e.1 = "common").map fun e => ini.options e.2

end Ini

namespace Config

open Ini

variable (b : Builtins)

/-- `left or right` for texts that may be missing. -/
def orElse (left right : Option String) : Option String := left.filter (· ≠ "") <|> right

def iniToken (common : Options) : Option String :=
  emptyToNone (orElse (find common "token") (find common "auth_token"))

def iniBind (common : Options) : Load (String × Int) := do
  let bindPort ← int b (.str ((find common "bind_port").getD "7000")) 7000
  match (find common "bind_addr").filter (· ≠ "") with
  | none => return ((find common "bind_host").getD "0.0.0.0", bindPort)
  | some bindAddr =>
      if ':' ∈ bindAddr.toList then splitAddr b bindAddr "0.0.0.0"
      else return (bindAddr, bindPort)

def loadFrpIniServer (ini : Ini) : Load ServerConfig := do
  let common := ini.common.getD ini.defaults
  let (bindHost, bindPort) ← iniBind b common
  return {
    bindHost := bindHost
    bindPort := ← port b bindPort true
    token := iniToken common
    allowDynamic := lower ((find common "allow_dynamic").getD "true") ∉ ["0", "false", "no"]
    sourceFlavor := "frp-ini" }

def requiredValue (row : Options) (key sectionName : String) : Load String :=
  match (find row key).filter (· ≠ "") with
  | some value => .ok value
  | none => fail ("section [" ++ sectionName ++ "] is missing " ++ key)

def iniLocalTarget (row : Options) (sectionName : String) : Load (String × Int) :=
  match (find row "local_addr").filter (· ≠ "") with
  | some localAddr => splitAddr b localAddr "127.0.0.1"
  | none => do
      let host := (find row "local_ip").getD ((find row "local_host").getD "127.0.0.1")
      return (host, ← int b (.str (← requiredValue row "local_port" sectionName)) 0)

def iniProxy (ini : Ini) (entry : String × Options) : Load ProxyConfig := do
  let row := ini.options entry.2
  let proxyType := lower ((find row "type").getD "tcp")
  if proxyType ≠ "tcp" then
    fail ("only tcp proxies are supported, got " ++ b.repr (.str proxyType))
  else
    let (localHost, localPort) ← iniLocalTarget b row entry.1
    let remoteHost := orElse (orElse (find row "remote_host") (find row "remote_ip")) (some "0.0.0.0")
    let remotePort ← int b (.str (← requiredValue row "remote_port" entry.1)) 0
    return {
      name := ← serviceName b (.str entry.1)
      localHost := localHost
      localPort := ← port b localPort false
      remoteHost := remoteHost
      remotePort := some (← port b remotePort true)
      token := emptyToNone (find row "token") }

def loadFrpIniClient (ini : Ini) : Load ClientFileConfig :=
  match ini.common with
  | none => fail "frp ini client config requires a [common] section"
  | some common => do
      let serverHost := (find common "server_addr").getD "127.0.0.1"
      let serverPort ← int b (.str ((find common "server_port").getD "7000")) 7000
      let proxies ← (ini.sections.filter fun e => e.1 ≠ "common").mapM (iniProxy b ini)
      if proxies.isEmpty then fail "frp ini client configuration must define at least one proxy"
      else
        return {
          proxies := proxies
          token := iniToken common
          sourceFlavor := "frp-ini"
          serverHost := serverHost
          serverPort := ← port b serverPort false
          serverFingerprint := emptyToNone
            (orElse (find common "server_fingerprint") (find common "serverfingerprint")) }

end Config

end PyFrp
