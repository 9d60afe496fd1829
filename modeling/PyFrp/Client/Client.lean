import PyFrp.Coop.Dict
import PyFrp.Server.Config

/-!
# The client (`client.py`, `config.py`)

What the client sends to register its proxies, the table it makes of the
reply, and what it does when it is asked to open a tunnel.
-/

namespace PyFrp

open Python Coop

structure ProxyConfig where
  name : String
  localHost : String
  localPort : Int
  remoteHost : Option String := none
  remotePort : Option Int := none
  token : Option String := none
  deriving DecidableEq

/-- The part of `ClientConfig` that a registration reads. -/
structure ClientConfig where
  proxies : List ProxyConfig
  token : Option String := none
  sourceFlavor : String := "py-frp"

/-- The immutable part of a `Client` object. -/
structure Client where
  config : ClientConfig
  priority : Int := 0
  repr : Value → String

namespace Client

/-- `proxy.token or self.config.token`. -/
def token (client : Client) (proxy : ProxyConfig) : Value :=
  match proxy.token.filter (· ≠ "") <|> client.config.token with
  | some token => .str token
  | none => .none

/-- One entry of `_service_payloads`. -/
def servicePayload (client : Client) (proxy : ProxyConfig) : Value :=
  .dict ([("name", .str proxy.name), ("token", client.token proxy)] ++
    (proxy.remoteHost.map fun host => ("remote_host", Value.str host)).toList ++
    (proxy.remotePort.map fun port => ("remote_port", Value.int port)).toList ++
    if client.config.sourceFlavor = "token-pool" then [("priority", .int client.priority)] else [])

/-- `_service_payloads`. -/
def servicePayloads (client : Client) : List Value :=
  client.config.proxies.map client.servicePayload

/-- `register_message`. -/
def registerMessage (client : Client) (force : Bool) : Fields :=
  [("type", .str "register"), ("services", .list client.servicePayloads)] ++
    if force then [("force", .bool true)] else []

/-- `_base_proxies`. -/
def baseProxies (client : Client) : Dict String ProxyConfig :=
  Dict.empty.setAll (client.config.proxies.map fun proxy => (proxy.name, proxy))

/-- The name a round of `_apply_registered_aliases` assigns a proxy to. -/
def aliasName : Value → Option String
  | .dict raw =>
      match dictGet raw "name" with
      | .str name => if name = "" then none else some name
      | _ => none
  | _ => none

/-- `_apply_registered_aliases`: the table `_proxies` after a `registered` message. -/
def applyRegisteredAliases (client : Client) (message : Fields) : Dict String ProxyConfig :=
  match dictGet message "services" with
  | .list services =>
      if services.length ≠ client.config.proxies.length then client.baseProxies
      else client.baseProxies.setAll ((services.zip client.config.proxies).filterMap fun e =>
        (aliasName e.1).map fun name => (name, e.2))
  | _ => client.baseProxies

/-- `_open_tunnel` up to the connection to the local service: the proxy it dials
for an `open` message, if any. -/
def openTunnel (client : Client) (proxies : Dict String ProxyConfig) (message : Fields) :
    Option ProxyConfig :=
  let tunnelId := (dictGet message "id").strOrEmpty client.repr
  let serviceName := (dictGet message "service").strOrEmpty client.repr
  if tunnelId = "" then none else proxies.get? serviceName

end Client

end PyFrp
