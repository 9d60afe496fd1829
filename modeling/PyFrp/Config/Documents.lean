import PyFrp.Config.Fields

/-!
# TOML and JSON documents (`config.py`)

The two layouts of a document: the one of frp, which is also the native one, and
the one of rathole.
-/

namespace PyFrp

open Python

/-- All of a `ClientConfig`. -/
structure ClientFileConfig extends ClientConfig where
  serverHost : String
  serverPort : Int
  reconnectDelay : PyFloat := .finite 3
  connectTimeout : PyFloat := .finite 10
  heartbeatInterval : PyFloat := .finite 30
  serverFingerprint : Option String := none

namespace Config

variable (b : Builtins)

/-! ## The layout of frp -/

/-- One round of `_native_server_services`. -/
def nativeServerService (defaultToken : Option String) (entry : String × Value) :
    Load ServerServiceConfig := do
  let service ← asMapping entry.2
  let bindAddr := getAny service ["bind_addr", "bindAddr", "remote_addr", "remoteAddr"]
  let defaultHost ← string b (getAny service ["bind_host", "bindHost"]) (some "0.0.0.0")
  let defaultPort := getAny service ["bind_port", "bindPort", "remote_port", "remotePort"]
  if bindAddr.isNone && defaultPort.isNone then
    fail ("server service " ++ b.repr (.str entry.1) ++ " is missing bind_addr or bind_port")
  else
    let (host, portValue) ← addrFromFields b bindAddr defaultHost (← int b defaultPort 0)
    return {
      name := ← serviceName b (.str entry.1)
      bindHost := host
      bindPort := ← port b portValue true
      token := ← stringOrNone b (getAny service ["token"] (optional defaultToken)) }

def nativeServerServices (root : Fields) (defaultToken : Option String) :
    Load (List ServerServiceConfig) := do
  let servicesTable ← asMapping (getAny root ["services"]) (some [])
  servicesTable.mapM (nativeServerService b defaultToken)

def loadFrpOrNativeServer (data : Fields) : Load ServerConfig := do
  let serverTable ← asMapping (getAny data ["server"]) (some [])
  let root :=
    if !serverTable.isEmpty && (getAny data ["mode"]).isText "server" then serverTable else data
  let bindAddr := getAny root ["bind_addr", "bindAddr"]
  let defaultHost ← string b (getAny root ["bind_host", "bindHost"]) (some "0.0.0.0")
  let defaultPort ← int b (getAny root ["bind_port", "bindPort"]) 7000
  let (bindHost, bindPort) ← addrFromFields b bindAddr defaultHost defaultPort
  let auth ← authToken b root
  let token ← stringOrNone b (getAny root ["token", "auth_token", "authToken"] (optional auth))
  let allowDynamic ← bool b (getAny root ["allow_dynamic", "allowDynamic"]) true
  let openTimeout ← positiveFloat b (getAny root ["open_timeout", "openTimeout"]) (.finite 15)
  let source := if (getAny data ["mode"]).truthy then "py-frp" else "frp"
  let services ← nativeServerServices b root token
  return {
    bindHost := bindHost
    bindPort := ← port b bindPort true
    token := token
    services := services
    allowDynamic := allowDynamic
    sourceFlavor := source
    openTimeout := openTimeout }

/-- The host and the port that a field with an address gives, or else two fields for them. -/
def localTarget (proxy : Fields) : Load (String × Int) :=
  match getAny proxy ["local_addr", "localAddr"] with
  | .none => do
      let host ← string b (getAny proxy ["local_ip", "localIP", "local_host", "localHost"])
        (some "127.0.0.1")
      return (host, ← int b (← requiredAny proxy ["local_port", "localPort"]) 0)
  | localAddr => do splitAddr b (← string b localAddr) "127.0.0.1"

def remoteTarget (proxy : Fields) : Load (String × Option Int) :=
  match getAny proxy ["remote_addr", "remoteAddr"] with
  | .none => do
      let remotePort := getAny proxy ["remote_port", "remotePort"]
      let host ← string b (getAny proxy ["remote_host", "remoteHost", "remote_ip", "remoteIP"])
        (some "0.0.0.0")
      return (host, ← if remotePort.isNone then .ok none else some <$> int b remotePort 0)
  | remoteAddr => do
      let (host, portValue) ← splitAddr b (← string b remoteAddr) "0.0.0.0"
      return (host, some portValue)

def frpOrNativeProxy (defaultToken : Option String) (row : Value) : Load ProxyConfig := do
  let proxy ← asMapping row
  let proxyType := lower (← string b (getAny proxy ["type"]) (some "tcp"))
  if proxyType ≠ "tcp" then
    fail ("only tcp proxies are supported, got " ++ b.repr (.str proxyType))
  else
    let name ← serviceName b (getAny proxy ["name"])
    let (localHost, localPort) ← localTarget b proxy
    match ← remoteTarget b proxy with
    | (_, none) =>
        fail ("proxy " ++ b.repr (.str name) ++ " is missing remote_port/remotePort")
    | (remoteHost, some remotePort) =>
        return {
          name := name
          localHost := localHost
          localPort := ← port b localPort false
          remoteHost := some remoteHost
          remotePort := some (← port b remotePort true)
          token := ← stringOrNone b (getAny proxy ["token"] (optional defaultToken)) }

/-- `{"name": name, **_as_mapping(value)}`. -/
def namedRow (entry : String × Value) : Load Value := do
  let mapping ← asMapping entry.2
  return .dict (("name", getAny mapping ["name"] (.str entry.1)) ::
    mapping.filter fun e => e.1 ≠ "name")

/-- The rows of the table of proxies. -/
def proxyRows (data : Fields) : Load (List Value) :=
  match getAny data ["proxies", "services"] (.list []) with
  | .dict table => table.mapM namedRow
  | .list rows => .ok rows
  | _ => fail "client proxies/services must be a list or table"

/-- The three delays of a client. -/
structure Delays where
  reconnectDelay : PyFloat
  connectTimeout : PyFloat
  heartbeatInterval : PyFloat

def delays (table : Fields) : Load Delays := do
  return {
    reconnectDelay :=
      ← positiveFloat b (getAny table ["reconnect_delay", "reconnectDelay"]) (.finite 3)
    connectTimeout :=
      ← positiveFloat b (getAny table ["connect_timeout", "connectTimeout"]) (.finite 10)
    heartbeatInterval :=
      ← positiveFloat b (getAny table ["heartbeat_interval", "heartbeatInterval"]) (.finite 30) }

def loadFrpOrNativeClient (data : Fields) : Load ClientFileConfig := do
  let serverAddr := getAny data ["server_addr", "serverAddr", "remote_addr", "remoteAddr"]
  let defaultHost ← string b (getAny data ["server_host", "serverHost"]) (some "127.0.0.1")
  let defaultPort ← int b (getAny data ["server_port", "serverPort"]) 7000
  let (serverHost, serverPort) ← addrFromFields b serverAddr defaultHost defaultPort
  let auth ← authToken b data
  let token ← stringOrNone b (getAny data ["token"] (optional auth))
  let delays ← delays b data
  let proxies ← (← proxyRows data).mapM (frpOrNativeProxy b token)
  if proxies.isEmpty then fail "client configuration must define at least one proxy"
  else
    return {
      proxies := proxies
      token := token
      sourceFlavor := if (getAny data ["mode"]).truthy then "py-frp" else "frp"
      serverHost := serverHost
      serverPort := ← port b serverPort false
      reconnectDelay := delays.reconnectDelay
      connectTimeout := delays.connectTimeout
      heartbeatInterval := delays.heartbeatInterval
      serverFingerprint :=
        ← stringOrNone b (getAny data ["server_fingerprint", "serverFingerprint"]) }

/-! ## The layout of rathole -/

def ratholeServerService (defaultToken : Option String) (entry : String × Value) :
    Load ServerServiceConfig := do
  let service ← asMapping entry.2
  match getAny service ["bind_addr", "bindAddr"] with
  | .none =>
      fail ("rathole server service " ++ b.repr (.str entry.1) ++ " is missing bind_addr")
  | bindAddr =>
      let (host, portValue) ← splitAddr b (← string b bindAddr) "0.0.0.0"
      return {
        name := ← serviceName b (.str entry.1)
        bindHost := host
        bindPort := ← port b portValue true
        token := ← stringOrNone b (getAny service ["token"] (optional defaultToken)) }

def loadRatholeServer (data : Fields) : Load ServerConfig := do
  let server ← requiredMapping data "server"
  let (bindHost, bindPort) ←
    splitAddr b (← string b (getAny server ["bind_addr", "bindAddr"]) (some "0.0.0.0:2333"))
      "0.0.0.0"
  let defaultToken ← stringOrNone b (getAny server ["default_token", "defaultToken"])
  let openTimeout ← positiveFloat b (getAny server ["open_timeout", "openTimeout"]) (.finite 15)
  let servicesTable ← asMapping (getAny server ["services"]) (some [])
  let services ← servicesTable.mapM (ratholeServerService b defaultToken)
  return {
    bindHost := bindHost
    bindPort := ← port b bindPort true
    token := defaultToken
    services := services
    allowDynamic := ← bool b (getAny server ["allow_dynamic", "allowDynamic"]) false
    sourceFlavor := "rathole"
    openTimeout := openTimeout }

def ratholeClientService (defaultToken : Option String) (entry : String × Value) :
    Load ProxyConfig := do
  let service ← asMapping entry.2
  match getAny service ["local_addr", "localAddr"] with
  | .none =>
      fail ("rathole client service " ++ b.repr (.str entry.1) ++ " is missing local_addr")
  | localAddr =>
      let (localHost, localPort) ← splitAddr b (← string b localAddr) "127.0.0.1"
      return {
        name := ← serviceName b (.str entry.1)
        localHost := localHost
        localPort := ← port b localPort false
        token := ← stringOrNone b (getAny service ["token"] (optional defaultToken)) }

def loadRatholeClient (data : Fields) : Load ClientFileConfig := do
  let client ← requiredMapping data "client"
  let (serverHost, serverPort) ←
    splitAddr b (← string b (getAny client ["remote_addr", "remoteAddr"]) (some "127.0.0.1:2333"))
      "127.0.0.1"
  let defaultToken ← stringOrNone b (getAny client ["default_token", "defaultToken"])
  let delays ← delays b client
  let servicesTable ← asMapping (getAny client ["services"]) (some [])
  let proxies ← servicesTable.mapM (ratholeClientService b defaultToken)
  if proxies.isEmpty then fail "rathole client configuration must define services"
  else
    return {
      proxies := proxies
      token := defaultToken
      sourceFlavor := "rathole"
      serverHost := serverHost
      serverPort := ← port b serverPort false
      reconnectDelay := delays.reconnectDelay
      connectTimeout := delays.connectTimeout
      heartbeatInterval := delays.heartbeatInterval
      serverFingerprint :=
        ← stringOrNone b (getAny client ["server_fingerprint", "serverFingerprint"]) }

/-- `_looks_like_rathole_server` and `_looks_like_rathole_client`: the document has the table
`role` with one of the keys. -/
def looksLikeRathole (data : Fields) (role : String) (keys : List String) : Bool :=
  match getAny data [role] with
  | .dict table => keys.any (hasKey table)
  | _ => false

def looksLikeRatholeServer (data : Fields) : Bool :=
  looksLikeRathole data "server" ["bind_addr", "bindAddr", "services"]

def looksLikeRatholeClient (data : Fields) : Bool :=
  looksLikeRathole data "client" ["remote_addr", "remoteAddr", "services"]

end Config

end PyFrp
