import PyFrp.Config.Validity

/-!
# What the loaders of documents make of a document

For each of the four loaders the fields of the document in the order in which they
are read, with the verdicts about them. From these it is known when a loader either
raises a `ConfigError` or returns a configuration that says what the document says.
-/

namespace PyFrp

open Python Validation

namespace Config

variable (b : Builtins)

/-! ## Servers in the layout of frp -/

def nativeBindAddr (service : Fields) : Value :=
  getAny service ["bind_addr", "bindAddr", "remote_addr", "remoteAddr"]

def nativeBindPort (service : Fields) : Value :=
  getAny service ["bind_port", "bindPort", "remote_port", "remotePort"]

/-- Where the port of a service is written. -/
def nativeServicePort (entry : String × Value) : Value :=
  portField b (nativeBindAddr (tableOf entry.2)) (nativeBindPort (tableOf entry.2))

def nativeServiceReads (entry : String × Value) : List (Verdict LoadError) :=
  [tableVerdict false entry.2,
    textVerdict b (getAny (tableOf entry.2) ["bind_host", "bindHost"]),
    if (nativeBindAddr (tableOf entry.2)).isNone && (nativeBindPort (tableOf entry.2)).isNone then
      .refused else .fine,
    intVerdict b (nativeBindPort (tableOf entry.2))] ++
  (addrVerdicts b (nativeBindAddr (tableOf entry.2)) ++
  (nameVerdicts b (.str entry.1) ++
  [portVerdict b true (intOf (nativeServicePort b entry) 0),
    textVerdict b (getAny (tableOf entry.2) ["token"])]))

variable {b : Builtins}

/-- The end of a service, in both layouts. -/
theorem serviceEnd_reads (name host : String) (field : Value) (default : Int) (service : Fields)
    (defaultToken : Option String) :
    Reads (do
        return {
          name := ← serviceName b (.str name)
          bindHost := host
          bindPort := ← port b (intOf field default) true
          token := ← stringOrNone b (getAny service ["token"] (optional defaultToken)) })
      (nameVerdicts b (.str name) ++
        [portVerdict b true (intOf field default), textVerdict b (getAny service ["token"])])
      fun s => ServiceRead field s := by
  refine (serviceName_reads _).bind fun name hname => ?_
  refine (port_reads _ true).bind fun bindPort hbind => ?_
  rw [← textVerdict_optional _ _ defaultToken]
  exact (stringOrNone_reads _).bind_ok fun token htoken =>
    ⟨hbind.2, ⟨default, hbind.1⟩, hname, htoken ▸ tokenOf_ne_empty _⟩

theorem nativeServerService_reads (defaultToken : Option String) (entry : String × Value) :
    Reads (nativeServerService b defaultToken entry) (nativeServiceReads b entry)
      fun s => ServiceRead (nativeServicePort b entry) s := by
  unfold nativeServerService nativeServiceReads
  refine (asMapping_reads entry.2).bind fun service hservice => ?_
  subst hservice
  refine (string_reads _ "0.0.0.0").bind fun defaultHost _ => ?_
  refine Follows.check rfl fun _ => ?_
  refine (int_reads _ 0).bind fun defaultPort hport => ?_
  subst hport
  refine (addrFromFields_reads _ _ defaultHost 0).bind fun addr haddr => ?_
  obtain ⟨host, portValue⟩ := addr
  have hvalue : portValue = intOf (nativeServicePort b entry) 0 := haddr.2
  subst hvalue
  exact serviceEnd_reads entry.1 host _ 0 _ defaultToken

section

variable (b : Builtins)

/-- The table that has the settings of the server. -/
def nativeRoot (data : Fields) : Fields :=
  if !(tableOf (getAny data ["server"])).isEmpty && (getAny data ["mode"]).isText "server" then
    tableOf (getAny data ["server"])
  else data

def nativeServerFields (data : Fields) : ServerFields where
  bindPort := portField b (getAny (nativeRoot data) ["bind_addr", "bindAddr"])
    (getAny (nativeRoot data) ["bind_port", "bindPort"])
  openTimeout := getAny (nativeRoot data) ["open_timeout", "openTimeout"]
  services := (tableOf (getAny (nativeRoot data) ["services"])).map (nativeServicePort b)

/-- The settings of a native server. -/
structure NativeSettings (data : Fields) (c : ServerConfig) : Prop where
  bindPort : c.bindPort = intOf (nativeServerFields b data).bindPort 7000
  bindHost : c.bindHost = hostOf b (getAny (nativeRoot data) ["bind_addr", "bindAddr"])
    (textOf b (getAny (nativeRoot data) ["bind_host", "bindHost"]) "0.0.0.0")
  token : c.token = tokenOf b (getAny (nativeRoot data) ["token", "auth_token", "authToken"]
    (optional (authOf b (nativeRoot data))))
  allowDynamic : c.allowDynamic =
    boolOf b (getAny (nativeRoot data) ["allow_dynamic", "allowDynamic"]) true
  sourceFlavor : c.sourceFlavor = if (getAny data ["mode"]).truthy then "py-frp" else "frp"

def nativeServerReads (data : Fields) : List (Verdict LoadError) :=
  [tableVerdict true (getAny data ["server"]),
    textVerdict b (getAny (nativeRoot data) ["bind_host", "bindHost"]),
    intVerdict b (getAny (nativeRoot data) ["bind_port", "bindPort"])] ++
  (addrVerdicts b (getAny (nativeRoot data) ["bind_addr", "bindAddr"]) ++
  ([authVerdict b (nativeRoot data),
    textVerdict b (getAny (nativeRoot data) ["token", "auth_token", "authToken"]),
    textVerdict b (getAny (nativeRoot data) ["allow_dynamic", "allowDynamic"]),
    positiveVerdict b (getAny (nativeRoot data) ["open_timeout", "openTimeout"]),
    tableVerdict true (getAny (nativeRoot data) ["services"])] ++
  ((tableOf (getAny (nativeRoot data) ["services"])).flatMap (nativeServiceReads b) ++
  [portVerdict b true (intOf (nativeServerFields b data).bindPort 7000)])))

end

theorem nativeServerServices_reads (root : Fields) (defaultToken : Option String) :
    Reads (nativeServerServices b root defaultToken)
      (tableVerdict true (getAny root ["services"]) ::
        (tableOf (getAny root ["services"])).flatMap (nativeServiceReads b))
      fun services => List.Forall₂ ServiceRead
        ((tableOf (getAny root ["services"])).map (nativeServicePort b)) services := by
  unfold nativeServerServices
  refine (asMapping_reads_optional _).bind fun table htable => ?_
  subst htable
  refine (Follows.mapM _ fun entry _ => nativeServerService_reads defaultToken entry).mono ?_
  intro services hservices
  exact List.forall₂_map_left_iff.mpr hservices

theorem loadFrpOrNativeServer_reads (data : Fields) :
    Reads (loadFrpOrNativeServer b data) (nativeServerReads b data)
      fun c => ServerRead b (nativeServerFields b data) c ∧ NativeSettings b data c := by
  unfold loadFrpOrNativeServer nativeServerReads
  refine (asMapping_reads_optional _).bind fun table htable => ?_
  subst htable
  refine (string_reads _ "0.0.0.0").bind fun defaultHost hdefault => ?_
  refine (int_reads _ 7000).bind fun defaultPort hport => ?_
  subst hport
  refine (addrFromFields_reads _ _ defaultHost 7000).bind fun addr haddr => ?_
  obtain ⟨bindHost, portValue⟩ := addr
  have hvalue : portValue = intOf (nativeServerFields b data).bindPort 7000 := haddr.2
  subst hvalue
  refine (authToken_reads _).bind fun auth hauth => ?_
  rw [← textVerdict_optional _ _ auth]
  refine (stringOrNone_reads _).bind fun token htoken => ?_
  refine (bool_reads _ true).bind fun allowDynamic hallow => ?_
  refine (positiveFloat_reads _ rfl).bind fun openTimeout htimeout => ?_
  refine (nativeServerServices_reads _ token).bind fun services hservices => ?_
  refine (port_reads _ true).bind_ok fun bindPort hbind => ?_
  constructor
  · exact ⟨hbind.2, ⟨7000, hbind.1⟩, htoken ▸ tokenOf_ne_empty _,
      ⟨.finite 15, nofun, htimeout⟩, hservices⟩
  · exact ⟨hbind.1, hdefault ▸ haddr.1, hauth ▸ htoken, hallow, rfl⟩

/-! ## Servers in the layout of rathole -/

section

variable (b : Builtins)

def ratholeBindAddr (service : Fields) : Value := getAny service ["bind_addr", "bindAddr"]

def ratholeServiceReads (entry : String × Value) : List (Verdict LoadError) :=
  [tableVerdict false entry.2, requiredVerdict (ratholeBindAddr (tableOf entry.2))] ++
  (splitVerdicts b (ratholeBindAddr (tableOf entry.2)) ++
  (nameVerdicts b (.str entry.1) ++
  [portVerdict b true (intOf (splitField b (ratholeBindAddr (tableOf entry.2))) 0),
    textVerdict b (getAny (tableOf entry.2) ["token"])]))

/-- The table `role` of a document. -/
def ratholeRoot (data : Fields) (role : String) : Fields := tableOf (dictGet data role)

/-- The address of a server, with the default. -/
def ratholeBindText (data : Fields) : String :=
  textOf b (ratholeBindAddr (ratholeRoot data "server")) "0.0.0.0:2333"

def ratholeServerFields (data : Fields) : ServerFields where
  bindPort := .str (portText (ratholeBindText b data))
  openTimeout := getAny (ratholeRoot data "server") ["open_timeout", "openTimeout"]
  services := (tableOf (getAny (ratholeRoot data "server") ["services"])).map fun entry =>
    splitField b (ratholeBindAddr (tableOf entry.2))

def ratholeServerReads (data : Fields) : List (Verdict LoadError) :=
  [tableVerdict false (dictGet data "server"),
    textVerdict b (ratholeBindAddr (ratholeRoot data "server")),
    splitVerdict (ratholeBindText b data),
    textVerdict b (getAny (ratholeRoot data "server") ["default_token", "defaultToken"]),
    positiveVerdict b (getAny (ratholeRoot data "server") ["open_timeout", "openTimeout"]),
    tableVerdict true (getAny (ratholeRoot data "server") ["services"])] ++
  ((tableOf (getAny (ratholeRoot data "server") ["services"])).flatMap (ratholeServiceReads b) ++
  [portVerdict b true (intOf (ratholeServerFields b data).bindPort 0),
    textVerdict b (getAny (ratholeRoot data "server") ["allow_dynamic", "allowDynamic"])])

end

theorem ratholeServerService_reads (defaultToken : Option String) (entry : String × Value) :
    Reads (ratholeServerService b defaultToken entry) (ratholeServiceReads b entry)
      fun s => ServiceRead (splitField b (ratholeBindAddr (tableOf entry.2))) s := by
  unfold ratholeServerService ratholeServiceReads
  refine (asMapping_reads entry.2).bind fun service hservice => ?_
  subst hservice
  unfold ratholeBindAddr
  cases getAny (tableOf entry.2) ["bind_addr", "bindAddr"]
  case none => exact Reads.fail _
  all_goals
    refine Follows.fine (reads_split ?_ "0.0.0.0" fun host =>
      serviceEnd_reads entry.1 host _ 0 _ defaultToken)
    exact nofun

theorem ratholeServerServices_reads (table : Fields) (defaultToken : Option String) :
    Reads (table.mapM (ratholeServerService b defaultToken))
      (table.flatMap (ratholeServiceReads b))
      fun services => List.Forall₂ ServiceRead
        (table.map fun entry => splitField b (ratholeBindAddr (tableOf entry.2))) services := by
  refine (Follows.mapM _ fun entry _ => ratholeServerService_reads defaultToken entry).mono ?_
  intro services hservices
  exact List.forall₂_map_left_iff.mpr hservices

theorem loadRatholeServer_reads (data : Fields) :
    Reads (loadRatholeServer b data) (ratholeServerReads b data)
      fun c => ServerRead b (ratholeServerFields b data) c ∧ c.sourceFlavor = "rathole" := by
  unfold loadRatholeServer ratholeServerReads ratholeBindText ratholeBindAddr ratholeRoot
  refine (requiredMapping_reads data "server").bind fun server hserver => ?_
  subst hserver
  refine (string_reads _ "0.0.0.0:2333").bind fun text htext => ?_
  subst htext
  refine (splitAddr_reads _ "0.0.0.0").bind fun addr haddr => ?_
  obtain ⟨bindHost, portValue⟩ := addr
  have hvalue : intOf (ratholeServerFields b data).bindPort 0 = portValue :=
    intOf_of_text haddr.2 0
  subst hvalue
  refine (stringOrNone_reads _).bind fun defaultToken htoken => ?_
  refine (positiveFloat_reads _ rfl).bind fun openTimeout htimeout => ?_
  refine (asMapping_reads_optional _).bind fun table htable => ?_
  subst htable
  refine (ratholeServerServices_reads _ defaultToken).bind fun services hservices => ?_
  refine (port_reads _ true).bind fun bindPort hbind => ?_
  refine (bool_reads _ false).bind_ok fun allowDynamic _ => ?_
  exact ⟨⟨hbind.2, ⟨0, hbind.1⟩, htoken ▸ tokenOf_ne_empty _, ⟨.finite 15, nofun, htimeout⟩,
    hservices⟩, rfl⟩

/-! ## Clients in the layout of frp -/

section

variable (b : Builtins)

def delayReads (table : Fields) : List (Verdict LoadError) :=
  [positiveVerdict b (getAny table ["reconnect_delay", "reconnectDelay"]),
    positiveVerdict b (getAny table ["connect_timeout", "connectTimeout"]),
    positiveVerdict b (getAny table ["heartbeat_interval", "heartbeatInterval"])]

def localReads (proxy : Fields) : List (Verdict LoadError) :=
  match getAny proxy ["local_addr", "localAddr"] with
  | .none =>
      [textVerdict b (getAny proxy ["local_ip", "localIP", "local_host", "localHost"]),
        requiredVerdict (getAny proxy ["local_port", "localPort"]),
        intVerdict b (getAny proxy ["local_port", "localPort"])]
  | addr => splitVerdicts b addr

/-- Where the local port of a proxy is written. -/
def localField (proxy : Fields) : Value :=
  match getAny proxy ["local_addr", "localAddr"] with
  | .none => getAny proxy ["local_port", "localPort"]
  | addr => splitField b addr

def remoteReads (proxy : Fields) : List (Verdict LoadError) :=
  match getAny proxy ["remote_addr", "remoteAddr"] with
  | .none =>
      [textVerdict b (getAny proxy ["remote_host", "remoteHost", "remote_ip", "remoteIP"]),
        intVerdict b (getAny proxy ["remote_port", "remotePort"])]
  | addr => splitVerdicts b addr

/-- Where the remote port of a proxy is written, if it is. -/
def remoteField (proxy : Fields) : Value :=
  match getAny proxy ["remote_addr", "remoteAddr"] with
  | .none => getAny proxy ["remote_port", "remotePort"]
  | addr => splitField b addr

def typeVerdict (proxy : Fields) : Verdict LoadError :=
  if lower (textOf b (getAny proxy ["type"]) "tcp") ≠ "tcp" then .refused else .fine

def nativeProxyReads (row : Value) : List (Verdict LoadError) :=
  [tableVerdict false row,
    textVerdict b (getAny (tableOf row) ["type"]),
    typeVerdict b (tableOf row)] ++
  (nameVerdicts b (getAny (tableOf row) ["name"]) ++
  (localReads b (tableOf row) ++
  (remoteReads b (tableOf row) ++
  [requiredVerdict (remoteField b (tableOf row)),
    portVerdict b false (intOf (localField b (tableOf row)) 0),
    portVerdict b true (intOf (remoteField b (tableOf row)) 0),
    textVerdict b (getAny (tableOf row) ["token"])])))

def nativeProxyFields (row : Value) : Value × Option Value :=
  (localField b (tableOf row), some (remoteField b (tableOf row)))

end

theorem delays_reads (table : Fields) :
    Reads (delays b table) (delayReads b table) fun d =>
      DelayRead b (getAny table ["reconnect_delay", "reconnectDelay"]) d.reconnectDelay ∧
      DelayRead b (getAny table ["connect_timeout", "connectTimeout"]) d.connectTimeout ∧
      DelayRead b (getAny table ["heartbeat_interval", "heartbeatInterval"])
        d.heartbeatInterval := by
  unfold delays delayReads
  refine (positiveFloat_reads _ rfl).bind fun reconnectDelay hreconnect => ?_
  refine (positiveFloat_reads _ rfl).bind fun connectTimeout hconnect => ?_
  refine (positiveFloat_reads _ rfl).bind_ok fun heartbeatInterval hheartbeat => ?_
  exact ⟨⟨.finite 3, nofun, hreconnect⟩, ⟨.finite 10, nofun, hconnect⟩,
    ⟨.finite 30, nofun, hheartbeat⟩⟩

theorem localTarget_reads (proxy : Fields) :
    Reads (localTarget b proxy) (localReads b proxy) fun r =>
      r.2 = intOf (localField b proxy) 0 := by
  unfold localTarget localReads localField
  cases getAny proxy ["local_addr", "localAddr"]
  case none =>
    refine (string_reads _ "127.0.0.1").bind fun host _ => ?_
    refine (requiredAny_reads proxy _).bind fun value hvalue => ?_
    rw [hvalue.1]
    exact (int_reads _ 0).bind_ok fun n hn => hn
  all_goals
    refine splitAddr_reads_of_ne ?_ "127.0.0.1" 0
    exact nofun

theorem optionalInt_reads (host : String) (value : Value) :
    Reads (if value.isNone then .ok (host, none)
      else some <$> int b value 0 >>= fun n => .ok (host, n)) [intVerdict b value]
      fun r => r.2 = if value.isNone then none else some (intOf value 0) := by
  by_cases hnone : value.isNone = true
  · have hvalue : value = .none := by
      cases value <;> first | rfl | cases hnone
    subst hvalue
    exact Follows.ok rfl rfl
  · rw [if_neg hnone, if_neg hnone]
    have hsome : Reads (some <$> int b value 0) [intVerdict b value]
        (· = some (intOf value 0)) :=
      (int_reads value 0).map fun n hn => congrArg some hn
    exact hsome.bind_ok fun n hn => hn

theorem remoteAddr_reads {addr : Value} (h : addr ≠ .none) :
    Reads (string b addr >>= fun text => splitAddr b text "0.0.0.0" >>= fun r =>
        .ok (r.1, some r.2)) (splitVerdicts b addr)
      fun r => r.2 = some (intOf (splitField b addr) 0) := by
  rw [← bind_assoc]
  exact (splitAddr_reads_of_ne h "0.0.0.0" 0).bind_ok fun r hr => congrArg some hr

theorem remoteTarget_reads (proxy : Fields) :
    Reads (remoteTarget b proxy) (remoteReads b proxy) fun r =>
      r.2 = if (remoteField b proxy).isNone then none
        else some (intOf (remoteField b proxy) 0) := by
  unfold remoteTarget remoteReads remoteField
  cases getAny proxy ["remote_addr", "remoteAddr"]
  case none =>
    refine (string_reads _ "0.0.0.0").bind fun host _ => ?_
    exact optionalInt_reads host _
  all_goals
    refine (remoteAddr_reads ?_).mono fun r hr => ?_
    · exact nofun
    · exact hr.trans (if_neg Bool.false_ne_true).symm

theorem frpOrNativeProxy_reads (defaultToken : Option String) (row : Value) :
    Reads (frpOrNativeProxy b defaultToken row) (nativeProxyReads b row)
      fun p => ProxyRead (nativeProxyFields b row) p := by
  unfold frpOrNativeProxy nativeProxyReads
  refine (asMapping_reads row).bind fun proxy hproxy => ?_
  subst hproxy
  refine (string_reads _ "tcp").bind fun proxyType htype => ?_
  subst htype
  refine Follows.check rfl fun _ => ?_
  refine (serviceName_reads _).bind fun name hname => ?_
  refine (localTarget_reads _).bind fun target hlocal => ?_
  obtain ⟨localHost, localValue⟩ := target
  have hvalue : localValue = intOf (localField b (tableOf row)) 0 := hlocal
  subst hvalue
  refine (remoteTarget_reads _).bind fun target hremote => ?_
  obtain ⟨remoteHost, remoteValue⟩ := target
  have hvalue : remoteValue = if (remoteField b (tableOf row)).isNone then none
    else some (intOf (remoteField b (tableOf row)) 0) := hremote
  subst hvalue
  unfold requiredVerdict
  by_cases hnone : (remoteField b (tableOf row)).isNone = true
  · rw [if_pos hnone, if_pos hnone]
    exact Reads.fail _
  · rw [if_neg hnone, if_neg hnone]
    refine Follows.fine ?_
    refine (port_reads _ false).bind fun localPort hlocal => ?_
    refine (port_reads _ true).bind fun remotePort hremote => ?_
    rw [← textVerdict_optional _ _ defaultToken]
    refine (stringOrNone_reads _).bind_ok fun token htoken => ?_
    exact ⟨hlocal.2, ⟨0, hlocal.1⟩, ⟨hremote.2, 0, hremote.1⟩, hname,
      htoken ▸ tokenOf_ne_empty _⟩

section

variable (b : Builtins)

/-- `{"name": name, **value}`. -/
def namedRowOf (entry : String × Value) : Value :=
  .dict (("name", getAny (tableOf entry.2) ["name"] (.str entry.1)) ::
    (tableOf entry.2).filter fun e => e.1 ≠ "name")

/-- The rows of the table of proxies. -/
def rowsOf (data : Fields) : List Value :=
  match getAny data ["proxies", "services"] (.list []) with
  | .dict table => table.map namedRowOf
  | .list rows => rows
  | _ => []

def rowReads (data : Fields) : List (Verdict LoadError) :=
  match getAny data ["proxies", "services"] (.list []) with
  | .dict table => table.flatMap fun entry => [tableVerdict false entry.2]
  | .list _ => []
  | _ => [.refused]

def nativeClientFields (data : Fields) : ClientFields where
  serverPort := portField b
    (getAny data ["server_addr", "serverAddr", "remote_addr", "remoteAddr"])
    (getAny data ["server_port", "serverPort"])
  reconnectDelay := getAny data ["reconnect_delay", "reconnectDelay"]
  connectTimeout := getAny data ["connect_timeout", "connectTimeout"]
  heartbeatInterval := getAny data ["heartbeat_interval", "heartbeatInterval"]
  proxies := (rowsOf data).map (nativeProxyFields b)

def nativeClientReads (data : Fields) : List (Verdict LoadError) :=
  [textVerdict b (getAny data ["server_host", "serverHost"]),
    intVerdict b (getAny data ["server_port", "serverPort"])] ++
  (addrVerdicts b (getAny data ["server_addr", "serverAddr", "remote_addr", "remoteAddr"]) ++
  ([authVerdict b data, textVerdict b (getAny data ["token"])] ++
  (delayReads b data ++
  (rowReads data ++
  ((rowsOf data).flatMap (nativeProxyReads b) ++
  [if (rowsOf data).isEmpty then .refused else .fine,
    portVerdict b false (intOf (nativeClientFields b data).serverPort 7000),
    textVerdict b (getAny data ["server_fingerprint", "serverFingerprint"])])))))

end

theorem namedRow_reads (entry : String × Value) :
    Reads (namedRow entry) [tableVerdict false entry.2] (namedRowOf entry = ·) := by
  unfold namedRow
  exact (asMapping_reads entry.2).bind_ok fun mapping hmapping => hmapping ▸ rfl

theorem proxyRows_reads (data : Fields) :
    Reads (proxyRows data) (rowReads data) (· = rowsOf data) := by
  unfold proxyRows rowReads rowsOf
  cases getAny data ["proxies", "services"] (.list []) with
  | dict table =>
      refine (Follows.mapM table fun entry _ => namedRow_reads entry).mono fun rows hrows => ?_
      have hmap := List.forall₂_map_left_iff.mpr hrows
      exact (List.forall₂_eq_eq_eq ▸ hmap).symm
  | list rows => exact Follows.ok rfl rfl
  | none => exact Reads.fail _
  | bool x => exact Reads.fail _
  | int n => exact Reads.fail _
  | float x => exact Reads.fail _
  | str s => exact Reads.fail _

theorem frpOrNativeProxies_reads (rows : List Value) (defaultToken : Option String) :
    Reads (rows.mapM (frpOrNativeProxy b defaultToken)) (rows.flatMap (nativeProxyReads b))
      fun proxies => List.Forall₂ ProxyRead (rows.map (nativeProxyFields b)) proxies := by
  refine (Follows.mapM _ fun row _ => frpOrNativeProxy_reads defaultToken row).mono ?_
  intro proxies hproxies
  exact List.forall₂_map_left_iff.mpr hproxies

theorem isEmpty_of_read {fields : List (Value × Option Value)} {proxies : List ProxyConfig}
    (h : List.Forall₂ ProxyRead fields proxies) : proxies.isEmpty = fields.isEmpty := by
  cases h <;> rfl

theorem loadFrpOrNativeClient_reads (data : Fields) :
    Reads (loadFrpOrNativeClient b data) (nativeClientReads b data)
      fun c => ClientRead b (nativeClientFields b data) c := by
  unfold loadFrpOrNativeClient nativeClientReads
  refine (string_reads _ "127.0.0.1").bind fun defaultHost _ => ?_
  refine (int_reads _ 7000).bind fun defaultPort hport => ?_
  subst hport
  refine (addrFromFields_reads _ _ defaultHost 7000).bind fun addr haddr => ?_
  obtain ⟨serverHost, portValue⟩ := addr
  have hvalue : portValue = intOf (nativeClientFields b data).serverPort 7000 := haddr.2
  subst hvalue
  refine (authToken_reads _).bind fun auth _ => ?_
  rw [← textVerdict_optional _ _ auth]
  refine (stringOrNone_reads _).bind fun token htoken => ?_
  refine (delays_reads data).bind fun d hd => ?_
  refine (proxyRows_reads data).bind fun rows hrows => ?_
  subst hrows
  refine (frpOrNativeProxies_reads _ token).bind fun proxies hproxies => ?_
  have hempty : proxies.isEmpty = (rowsOf data).isEmpty :=
    (isEmpty_of_read hproxies).trans List.isEmpty_map
  rw [← hempty]
  refine Follows.check rfl fun hne => ?_
  refine (port_reads _ false).bind fun serverPort hserver => ?_
  refine (stringOrNone_reads _).bind_ok fun fingerprint _ => ?_
  exact ⟨hserver.2, ⟨7000, hserver.1⟩, htoken ▸ tokenOf_ne_empty _, hd.1, hd.2.1, hd.2.2, hproxies,
    fun hnil => hne (List.isEmpty_iff.mpr hnil)⟩

/-! ## Clients in the layout of rathole -/

section

variable (b : Builtins)

def ratholeLocalAddr (service : Fields) : Value := getAny service ["local_addr", "localAddr"]

def ratholeProxyFields (entry : String × Value) : Value × Option Value :=
  (splitField b (ratholeLocalAddr (tableOf entry.2)), none)

def ratholeProxyReads (entry : String × Value) : List (Verdict LoadError) :=
  [tableVerdict false entry.2, requiredVerdict (ratholeLocalAddr (tableOf entry.2))] ++
  (splitVerdicts b (ratholeLocalAddr (tableOf entry.2)) ++
  (nameVerdicts b (.str entry.1) ++
  [portVerdict b false (intOf (splitField b (ratholeLocalAddr (tableOf entry.2))) 0),
    textVerdict b (getAny (tableOf entry.2) ["token"])]))

/-- The address of the server of a client, with the default. -/
def ratholeServerText (data : Fields) : String :=
  textOf b (getAny (ratholeRoot data "client") ["remote_addr", "remoteAddr"]) "127.0.0.1:2333"

def ratholeClientFields (data : Fields) : ClientFields where
  serverPort := .str (portText (ratholeServerText b data))
  reconnectDelay := getAny (ratholeRoot data "client") ["reconnect_delay", "reconnectDelay"]
  connectTimeout := getAny (ratholeRoot data "client") ["connect_timeout", "connectTimeout"]
  heartbeatInterval :=
    getAny (ratholeRoot data "client") ["heartbeat_interval", "heartbeatInterval"]
  proxies := (tableOf (getAny (ratholeRoot data "client") ["services"])).map
    (ratholeProxyFields b)

def ratholeClientReads (data : Fields) : List (Verdict LoadError) :=
  [tableVerdict false (dictGet data "client"),
    textVerdict b (getAny (ratholeRoot data "client") ["remote_addr", "remoteAddr"]),
    splitVerdict (ratholeServerText b data),
    textVerdict b (getAny (ratholeRoot data "client") ["default_token", "defaultToken"])] ++
  (delayReads b (ratholeRoot data "client") ++
  (tableVerdict true (getAny (ratholeRoot data "client") ["services"]) ::
  ((tableOf (getAny (ratholeRoot data "client") ["services"])).flatMap (ratholeProxyReads b) ++
  [if (tableOf (getAny (ratholeRoot data "client") ["services"])).isEmpty then .refused
      else .fine,
    portVerdict b false (intOf (ratholeClientFields b data).serverPort 0),
    textVerdict b (getAny (ratholeRoot data "client")
      ["server_fingerprint", "serverFingerprint"])])))

end

/-- The end of a proxy. -/
theorem proxyEnd_reads (name host : String) (field : Value) (default : Int) (service : Fields)
    (defaultToken : Option String) :
    Reads (do
        return {
          name := ← serviceName b (.str name)
          localHost := host
          localPort := ← port b (intOf field default) false
          token := ← stringOrNone b (getAny service ["token"] (optional defaultToken)) })
      (nameVerdicts b (.str name) ++
        [portVerdict b false (intOf field default), textVerdict b (getAny service ["token"])])
      fun p => ProxyRead (field, none) p := by
  refine (serviceName_reads _).bind fun name hname => ?_
  refine (port_reads _ false).bind fun localPort hlocal => ?_
  rw [← textVerdict_optional _ _ defaultToken]
  exact (stringOrNone_reads _).bind_ok fun token htoken =>
    ⟨hlocal.2, ⟨default, hlocal.1⟩, trivial, hname, htoken ▸ tokenOf_ne_empty _⟩

theorem ratholeClientService_reads (defaultToken : Option String) (entry : String × Value) :
    Reads (ratholeClientService b defaultToken entry) (ratholeProxyReads b entry)
      fun p => ProxyRead (ratholeProxyFields b entry) p := by
  unfold ratholeClientService ratholeProxyReads ratholeProxyFields
  refine (asMapping_reads entry.2).bind fun service hservice => ?_
  subst hservice
  unfold ratholeLocalAddr
  cases getAny (tableOf entry.2) ["local_addr", "localAddr"]
  case none => exact Reads.fail _
  all_goals
    refine Follows.fine (reads_split ?_ "127.0.0.1" fun host =>
      proxyEnd_reads entry.1 host _ 0 _ defaultToken)
    exact nofun

theorem ratholeClientServices_reads (table : Fields) (defaultToken : Option String) :
    Reads (table.mapM (ratholeClientService b defaultToken))
      (table.flatMap (ratholeProxyReads b))
      fun proxies => List.Forall₂ ProxyRead (table.map (ratholeProxyFields b)) proxies := by
  refine (Follows.mapM _ fun entry _ => ratholeClientService_reads defaultToken entry).mono ?_
  intro proxies hproxies
  exact List.forall₂_map_left_iff.mpr hproxies

theorem loadRatholeClient_reads (data : Fields) :
    Reads (loadRatholeClient b data) (ratholeClientReads b data)
      fun c => ClientRead b (ratholeClientFields b data) c := by
  unfold loadRatholeClient ratholeClientReads ratholeServerText ratholeRoot
  refine (requiredMapping_reads data "client").bind fun client hclient => ?_
  subst hclient
  refine (string_reads _ "127.0.0.1:2333").bind fun text htext => ?_
  subst htext
  refine (splitAddr_reads _ "127.0.0.1").bind fun addr haddr => ?_
  obtain ⟨serverHost, portValue⟩ := addr
  have hvalue : intOf (ratholeClientFields b data).serverPort 0 = portValue :=
    intOf_of_text haddr.2 0
  subst hvalue
  refine (stringOrNone_reads _).bind fun defaultToken htoken => ?_
  refine (delays_reads _).bind fun d hd => ?_
  refine (asMapping_reads_optional _).bind fun table htable => ?_
  subst htable
  refine (ratholeClientServices_reads _ defaultToken).bind fun proxies hproxies => ?_
  have hempty := (isEmpty_of_read hproxies).trans List.isEmpty_map
  rw [← hempty]
  refine Follows.check rfl fun hne => ?_
  refine (port_reads _ false).bind fun serverPort hserver => ?_
  refine (stringOrNone_reads _).bind_ok fun fingerprint _ => ?_
  exact ⟨hserver.2, ⟨0, hserver.1⟩, htoken ▸ tokenOf_ne_empty _, hd.1, hd.2.1, hd.2.2, hproxies,
    fun hnil => hne (List.isEmpty_iff.mpr hnil)⟩

/-! ## Documents that are loaded or refused -/

/-- Either a `ConfigError` is raised, or what is returned is as `P` says. -/
def Settles {α : Type} (x : Load α) (P : α → Prop) : Prop :=
  RaisesConfigError x ∨ ∃ c, x = .ok c ∧ P c

theorem isConfig_iff (e : LoadError) : e.isConfig = true ↔ ∃ text, e = .config text := by
  cases e with
  | config text => exact ⟨fun _ => ⟨text, rfl⟩, fun _ => rfl⟩
  | unicodeDecode => exact ⟨nofun, nofun⟩
  | configparser text => exact ⟨nofun, nofun⟩
  | overflow => exact ⟨nofun, nofun⟩
  | value => exact ⟨nofun, nofun⟩
  | recursion => exact ⟨nofun, nofun⟩

section

variable {α : Type} {x : Load α} {vs : List (Verdict LoadError)} {P : α → Prop}

theorem Reads.returns_iff (h : Reads x vs P) : (∃ c, x = .ok c) ↔ first vs = .fine := by
  constructor
  · rintro ⟨c, rfl⟩
    exact h.fine_of_ok
  · intro hfine
    obtain ⟨c, hc, -⟩ := h.exists_ok hfine
    exact ⟨c, hc⟩

theorem Reads.raises_iff (h : Reads x vs P) : RaisesConfigError x ↔ first vs = .refused := by
  constructor
  · rintro ⟨text, rfl⟩
    exact h.first_of_error
  · intro hrefused
    obtain ⟨e, he, hconfig⟩ := h.exists_error hrefused
    obtain ⟨text, rfl⟩ := (isConfig_iff e).mp hconfig
    exact ⟨text, he⟩

theorem settles_iff {V : α → Prop} {L : Prop} (h : Reads x vs P)
    (hV : ∀ c, P c → (V c ↔ L)) :
    Settles x V ↔ first vs = .refused ∨ (first vs = .fine ∧ L) := by
  unfold Settles
  rw [h.raises_iff]
  refine or_congr_right ?_
  constructor
  · rintro ⟨c, rfl, hvalid⟩
    exact ⟨h.fine_of_ok, (hV c h.of_ok).mp hvalid⟩
  · rintro ⟨hfine, hL⟩
    obtain ⟨c, hc, hP⟩ := h.exists_ok hfine
    exact ⟨c, hc, (hV c hP).mpr hL⟩

end

variable (b) in
/-- A loader does what is right with a document if and only if the first field that is not
acceptable is refused, or all fields are acceptable and none changes its number. -/
theorem load_documents_iff (data : Fields) :
    (Settles (loadFrpOrNativeServer b data) (ServerValid (nativeServerFields b data)) ↔
      first (nativeServerReads b data) = .refused ∨
        (first (nativeServerReads b data) = .fine ∧ (nativeServerFields b data).Kept b)) ∧
    (Settles (loadFrpOrNativeClient b data) (ClientValid (nativeClientFields b data)) ↔
      first (nativeClientReads b data) = .refused ∨
        (first (nativeClientReads b data) = .fine ∧ (nativeClientFields b data).Kept b)) ∧
    (Settles (loadRatholeServer b data) (ServerValid (ratholeServerFields b data)) ↔
      first (ratholeServerReads b data) = .refused ∨
        (first (ratholeServerReads b data) = .fine ∧ (ratholeServerFields b data).Kept b)) ∧
    (Settles (loadRatholeClient b data) (ClientValid (ratholeClientFields b data)) ↔
      first (ratholeClientReads b data) = .refused ∨
        (first (ratholeClientReads b data) = .fine ∧ (ratholeClientFields b data).Kept b)) :=
  ⟨settles_iff (loadFrpOrNativeServer_reads data) fun _ h => h.1.valid_iff,
    settles_iff (loadFrpOrNativeClient_reads data) fun _ h => h.valid_iff,
    settles_iff (loadRatholeServer_reads data) fun _ h => h.1.valid_iff,
    settles_iff (loadRatholeClient_reads data) fun _ h => h.valid_iff⟩

/-- `OverflowError` escapes for a port that is infinite, and a timeout may be `nan`. -/
theorem infinite_port :
    ¬ Settles (loadFrpOrNativeServer noFiles.builtins
        [("bind_port", .float (.infinite false))])
      (ServerValid (nativeServerFields noFiles.builtins
        [("bind_port", .float (.infinite false))])) ∧
    ¬ Settles (loadFrpOrNativeServer noFiles.builtins [("open_timeout", .float .nan)])
      (ServerValid (nativeServerFields noFiles.builtins [("open_timeout", .float .nan)])) := by
  have hport : loadFrpOrNativeServer noFiles.builtins
      [("bind_port", .float (.infinite false))] = .error .overflow := rfl
  have htimeout : loadFrpOrNativeServer noFiles.builtins [("open_timeout", .float .nan)] =
      .ok { openTimeout := .nan, allowDynamic := true, sourceFlavor := "frp", token := none } :=
    rfl
  constructor
  · rintro (⟨text, heq⟩ | ⟨c, heq, -⟩)
    · cases hport.symm.trans heq
    · cases hport.symm.trans heq
  · rintro (⟨text, heq⟩ | ⟨c, heq, hvalid⟩)
    · cases htimeout.symm.trans heq
    · cases htimeout.symm.trans heq
      exact hvalid.openTimeout

end Config

end PyFrp
