import PyFrp.Client.Client
import PyFrp.Server.Routes

/-!
# From a reported address to a local service

The client names its proxies by what the server answers, position by position;
the server asks for a tunnel by the name its listener captured, and asks the client
of the record it finds under it. All of them come from the record of the item, so
the route of a proxy is right as long as no other proxy of the client is registered
under its name and the record is there, and no other client's, when it is looked up.
-/

namespace PyFrp

open Python Coop Store

variable {srv : Server} {σ : Store} {c : ClientId} {client : Client}

/-- The name the server registers a proxy of client `c` under. -/
def registeredName (srv : Server) (client : Client) (c : ClientId) (proxy : ProxyConfig) : String :=
  if isPoolRegistration srv (client.servicePayload proxy) then poolServiceName c
  else strip proxy.name

/-- No two proxies are registered under one name, unless they are the same. -/
def RoutesApart (srv : Server) (client : Client) (c : ClientId) : Prop :=
  ∀ x ∈ client.config.proxies, ∀ y ∈ client.config.proxies,
    registeredName srv client c x = registeredName srv client c y → x = y

/-! ## Names -/

theorem itemName_servicePayload (proxy : ProxyConfig) {fields : Fields}
    (h : client.servicePayload proxy = .dict fields) : itemName srv fields = strip proxy.name := by
  cases h
  simp [itemName, dictGet]

theorem poolServiceName_ne (c : ClientId) : poolServiceName c ≠ "" := by
  intro h
  have := congrArg String.length h
  simp [poolServiceName] at this

/-- The record of a proxy has the name of the proxy, and it is not empty. -/
theorem Made.name {proxy : ProxyConfig} {r : RegisteredService}
    (h : Made srv c (client.servicePayload proxy) r) :
    r.name = registeredName srv client c proxy ∧ r.name ≠ "" := by
  generalize hraw : client.servicePayload proxy = raw at h
  unfold registeredName
  rw [hraw]
  cases h with
  | regular l hp hs =>
      obtain ⟨fields, rfl⟩ := serviceFromRegistration_dict hs
      obtain ⟨hallowed, -, hname, -⟩ := serviceFromRegistration_ok hs
      rw [hp, if_neg Bool.false_ne_true]
      refine ⟨hname.trans (itemName_servicePayload proxy hraw), fun hempty => hallowed (.inl ?_)⟩
      exact hname.symm.trans hempty
  | pool l hp hi hport =>
      rw [hp, if_pos rfl]
      exact ⟨rfl, poolServiceName_ne c⟩

/-! ## The table of the client -/

@[simp] theorem aliasName_value (r : ServiceReply) :
    Client.aliasName r.value = if r.name = "" then none else some r.name := rfl

/-- The pairs the table is made of. -/
theorem zip_aliases {services : List ServiceReply} (proxies : List ProxyConfig)
    (hne : ∀ r ∈ services, r.name ≠ "") :
    ((services.map ServiceReply.value).zip proxies).filterMap (fun e =>
        (Client.aliasName e.1).map fun name => (name, e.2)) =
      (services.map ServiceReply.name).zip proxies := by
  induction services generalizing proxies with
  | nil => rfl
  | cons r services ih =>
      cases proxies with
      | nil => simp
      | cons proxy proxies =>
          have hr : r.name ≠ "" := hne r (.head _)
          have htail := ih proxies fun r' hr' => hne r' (.tail _ hr')
          simp [hr, htail]

/-- Every reported name looks up a proxy that was registered under it. -/
theorem applyRegisteredAliases_get? {services : List ServiceReply} (c : ClientId)
    (hlen : services.length = client.config.proxies.length)
    (hne : ∀ r ∈ services, r.name ≠ "") {i : Nat} {r : ServiceReply}
    (hi : services[i]? = some r) :
    ∃ (j : Nat) (r' : ServiceReply) (proxy : ProxyConfig), services[j]? = some r' ∧
      client.config.proxies[j]? = some proxy ∧ r'.name = r.name ∧
      (client.applyRegisteredAliases (Message.registered c services).fields).get? r.name =
        some proxy := by
  have htable : client.applyRegisteredAliases (Message.registered c services).fields =
      client.baseProxies.setAll ((services.map ServiceReply.name).zip client.config.proxies) := by
    rw [← zip_aliases client.config.proxies hne]
    simp [Client.applyRegisteredAliases, Message.fields, dictGet, hlen]
  have hlt : i < services.length := (List.getElem?_eq_some_iff.mp hi).1
  have hassigned : ∃ proxy, (r.name, proxy) ∈
      (services.map ServiceReply.name).zip client.config.proxies := by
    refine ⟨client.config.proxies[i], List.mem_iff_getElem?.mpr ⟨i, ?_⟩⟩
    rw [List.getElem?_zip_eq_some]
    exact ⟨by simp [hi], List.getElem?_eq_getElem _⟩
  obtain ⟨proxy, hmem, hget⟩ := Dict.get?_setAll client.baseProxies hassigned
  obtain ⟨j, hj⟩ := List.mem_iff_getElem?.mp hmem
  rw [List.getElem?_zip_eq_some, List.getElem?_map] at hj
  obtain ⟨hname, hproxy⟩ := hj
  obtain ⟨r', hr', hname⟩ := Option.map_eq_some_iff.mp hname
  exact ⟨j, r', proxy, hr', hproxy, hname, by rw [htable, hget]⟩

/-! ## The route of a proxy -/

/-- The `i`-th record of an answered request is the one of the `i`-th proxy, and
it is what the `i`-th entry of the answer reports. -/
theorem answered_record {s : State} (h : (system srv).Reachable s) {q : Request}
    {services : List ServiceReply} {force : Bool}
    (hp : s.point (.control c) = .control (.sendRegistered q services))
    (hm : q.message = client.registerMessage force) :
    services.length = client.config.proxies.length ∧
    ∀ (i : Nat) (proxy : ProxyConfig), client.config.proxies[i]? = some proxy →
      ∃ r reply, q.registered[i]? = some r ∧ services[i]? = some reply ∧ reply.name = r.name ∧
        Completed srv s.store.listeners c (client.servicePayload proxy) r := by
  have hpoint := (records h).2 (.control c)
  rw [hp] at hpoint
  obtain ⟨hq, hlen, hnames⟩ := hpoint
  have hitems : q.items = client.servicePayloads := by
    have hmessage := hq.message
    rw [hm] at hmessage
    simpa [Client.registerMessage, dictGet] using hmessage.symm
  have hlen' : q.registered.length = client.config.proxies.length := by
    rw [hlen, hitems, Client.servicePayloads, List.length_map]
  refine ⟨by rw [← hlen', ← List.length_map ServiceReply.name, hnames, List.length_map], ?_⟩
  intro i proxy hi
  have hlt : i < q.registered.length := hlen' ▸ (List.getElem?_eq_some_iff.mp hi).1
  have hr : q.registered[i]? = some q.registered[i] := List.getElem?_eq_getElem hlt
  obtain ⟨raw, hraw, hcomp⟩ := hq.registered i _ hr
  rw [hitems, Client.servicePayloads, List.getElem?_map, hi, Option.map_some,
    Option.some.injEq] at hraw
  have hreply : (services.map ServiceReply.name)[i]? = some q.registered[i].name := by
    rw [hnames, List.getElem?_map, hr, Option.map_some]
  rw [List.getElem?_map] at hreply
  obtain ⟨reply, hreply, hname⟩ := Option.map_eq_some_iff.mp hreply
  exact ⟨_, reply, hr, hreply, hname, hraw ▸ hcomp⟩

/-- The `i`-th entry of the answer reports the name and, as long as it is open, the address
of a listener that was opened for the `i`-th proxy. -/
theorem answered_address {s : State} (h : (system srv).Reachable s) {q : Request}
    {services : List ServiceReply} {force : Bool}
    (hp : s.point (.control c) = .control (.sendRegistered q services))
    (hm : q.message = client.registerMessage force) {i : Nat} {proxy : ProxyConfig}
    (hproxy : client.config.proxies[i]? = some proxy) :
    ∃ r reply, q.registered[i]? = some r ∧ services[i]? = some reply ∧
      ∀ s', (system srv).Runs (fun _ _ => True) s s' →
        ∃ x, s'.store.listeners.get? r.listener = some x ∧ x.owner = c ∧
          x.item = client.servicePayload proxy ∧ x.callback = reply.name ∧
          (x.isOpen = true → x.host = reply.bindHost ∧ x.port = reply.bindPort) := by
  obtain ⟨r, reply, hr, hreply, hname, hcomp⟩ := (answered_record h hp hm).2 i proxy hproxy
  refine ⟨r, reply, hr, hreply, fun s' hrun => ?_⟩
  obtain ⟨x, hx, hcb, howner, hitem, -⟩ := hcomp.opened
  obtain ⟨y, hy, hcb', howner', hitem', hhost, hport, hopen⟩ := listener_runs hx hrun
  refine ⟨y, hy, howner'.trans howner, hitem'.trans hitem, ?_, fun ho => ?_⟩
  · rw [hcb', hcb, hname]
  · obtain ⟨hhost', hport'⟩ := addresses h hp i r reply x hr hreply hx (hopen ho)
    exact ⟨hhost.trans hhost', hport.trans hport'⟩

/-- The listener of the `i`-th record has captured the name of the `i`-th proxy. -/
theorem answered_callback {s s' : State} (h : (system srv).Reachable s) {q : Request}
    {services : List ServiceReply} {force : Bool}
    (hp : s.point (.control c) = .control (.sendRegistered q services))
    (hm : q.message = client.registerMessage force)
    (hrun : (system srv).Runs (fun _ _ => True) s s')
    {i : Nat} {r : RegisteredService} {proxy : ProxyConfig} {x : Listener}
    (hr : q.registered[i]? = some r) (hproxy : client.config.proxies[i]? = some proxy)
    (hx : s'.store.listeners.get? r.listener = some x) :
    x.callback = registeredName srv client c proxy := by
  obtain ⟨r', -, hr', -, -, hcomp⟩ := (answered_record h hp hm).2 i proxy hproxy
  rw [hr, Option.some.injEq] at hr'
  subst hr'
  obtain ⟨x₀, hx₀, hcb, -⟩ := hcomp.opened
  obtain ⟨y, hy, hcb', -⟩ := listener_runs hx₀ hrun
  rw [hx, Option.some.injEq] at hy
  rw [hy, hcb', hcb, hcomp.made.name.1]

/-- Each entry of the answer carries the name of its proxy. -/
theorem answered_name {s : State} (h : (system srv).Reachable s) {q : Request}
    {services : List ServiceReply} {force : Bool}
    (hp : s.point (.control c) = .control (.sendRegistered q services))
    (hm : q.message = client.registerMessage force) {j : Nat} {reply : ServiceReply}
    (hj : services[j]? = some reply) :
    ∃ proxy, client.config.proxies[j]? = some proxy ∧ reply.name ≠ "" ∧
      reply.name = registeredName srv client c proxy := by
  obtain ⟨hlen, hrecord⟩ := answered_record h hp hm
  have hlt : j < client.config.proxies.length := hlen ▸ (List.getElem?_eq_some_iff.mp hj).1
  obtain ⟨r, reply', -, hreply, hname, hcomp⟩ := hrecord j _ (List.getElem?_eq_getElem hlt)
  rw [hj, Option.some.injEq] at hreply
  subst hreply
  obtain ⟨hreg, hne⟩ := hcomp.made.name
  exact ⟨_, List.getElem?_eq_getElem hlt, hname ▸ hne, hname.trans hreg⟩

/-- The client looks the service of an `open` up in its table. -/
theorem openTunnel_get? (proxies : Dict String ProxyConfig) (name : String) {id : String}
    (hid : id ≠ "") :
    client.openTunnel proxies (Message.openTunnel id name).fields = proxies.get? name := by
  simp [Client.openTunnel, Message.fields, dictGet, hid]

/-- If every proxy is reached by its name, no two are registered under one. -/
theorem routesApart_of_routes (proxies : Dict String ProxyConfig)
    (hlookup : ∀ z ∈ client.config.proxies,
      proxies.get? (registeredName srv client c z) = some z) : RoutesApart srv client c := by
  intro x hx y hy hname
  have hxy := hlookup x hx
  rw [hname, hlookup y hy, Option.some.injEq] at hxy
  exact hxy.symm

/-- The table of an answered client leads each name to the proxy registered under it,
if no two proxies are registered under one. -/
theorem openTunnel_answered {s : State} (h : (system srv).Reachable s) {q : Request}
    {services : List ServiceReply} {force : Bool}
    (hp : s.point (.control c) = .control (.sendRegistered q services))
    (hm : q.message = client.registerMessage force) (hapart : RoutesApart srv client c) {i : Nat}
    {proxy : ProxyConfig} (hproxy : client.config.proxies[i]? = some proxy) {id : String}
    (hid : id ≠ "") :
    client.openTunnel (client.applyRegisteredAliases (Message.registered c services).fields)
      (Message.openTunnel id (registeredName srv client c proxy)).fields = some proxy := by
  obtain ⟨hlen, hrecord⟩ := answered_record h hp hm
  have hne : ∀ reply ∈ services, reply.name ≠ "" := by
    intro reply hmem
    obtain ⟨j, hj⟩ := List.mem_iff_getElem?.mp hmem
    obtain ⟨-, -, hne, -⟩ := answered_name h hp hm hj
    exact hne
  obtain ⟨-, reply, -, hreply, -, -⟩ := hrecord i proxy hproxy
  obtain ⟨proxy', hproxy', -, hname⟩ := answered_name h hp hm hreply
  rw [hproxy, Option.some.injEq] at hproxy'
  subst hproxy'
  -- the name leads to some proxy that is registered under it
  obtain ⟨j, reply', proxy', hj, hproxy', hsame, hget⟩ :=
    applyRegisteredAliases_get? c hlen hne hreply
  obtain ⟨proxy'', hproxy'', -, hname'⟩ := answered_name h hp hm hj
  rw [hproxy', Option.some.injEq] at hproxy''
  subst hproxy''
  rw [openTunnel_get? _ _ hid, ← hname, hget, hapart proxy' (List.mem_of_getElem? hproxy') proxy
    (List.mem_of_getElem? hproxy) (by rw [← hname', ← hname, hsame])]

/-- Connection `h` on listener `l` leads to `proxy` of client `c`, which was answered
with `services`. Its handler comes nearer to the `open` with each of its steps, it has
such a step when it is scheduled, and with the locks to itself it sends the `open`.
Every `open` for the connection goes to `c`, and the table of `c` leads it to `proxy`. -/
structure LeadsTo (srv : Server) (client : Client) (c : ClientId) (services : List ServiceReply)
    (proxy : ProxyConfig) (l : Nat) (s : State) (h : Nat) (conn : PublicConn) : Prop where
  nears : ∀ e u, 0 < ahead s h → FindsOwn c l s (.pub h, e) →
    (system srv).step s (.pub h, e) = some u → ahead u h + 1 = ahead s h
  scheduled : 0 < ahead s h → (program srv).canRun s (.pub h) = true →
    FindsOwn c l s (.pub h, .go) →
    ∃ e u, FindsOwn c l s (.pub h, e) ∧ (system srv).step s (.pub h, e) = some u
  announced : ahead s h = 0 → Announced c s.store conn
  produced : Unhindered c s h conn → ∃ u conn', (system srv).Runs (FindsOwn c l) s u ∧
    u.store.conns.get? h = some conn' ∧ Announced c u.store conn'
  resolved : ∀ c' id name, conn.ticket = some id → id ≠ "" →
    (c', .openTunnel id name) ∈ s.store.sent → c' = c ∧
    client.openTunnel (client.applyRegisteredAliases (Message.registered c services).fields)
      (Message.openTunnel id name).fields = some proxy

/-- The connections on the listener of the `i`-th record lead to the `i`-th proxy. -/
theorem answered_leadsTo {s s' : State} {q : Request} {services : List ServiceReply}
    {force : Bool} (hp : s.point (.control c) = .control (.sendRegistered q services))
    (hm : q.message = client.registerMessage force) (hapart : RoutesApart srv client c) {i : Nat}
    {r : RegisteredService} {proxy : ProxyConfig} (hr : q.registered[i]? = some r)
    (hproxy : client.config.proxies[i]? = some proxy)
    (h : (system srv).ReachableUnder (FindsOwn c r.listener) s)
    (hrun : (system srv).Runs (FindsOwn c r.listener) s s') {k : Nat} {conn : PublicConn}
    (hc : s'.store.conns.get? k = some conn) (hl : conn.listener = r.listener) :
    LeadsTo srv client c services proxy r.listener s' k conn := by
  have hr' := h.runs hrun
  refine ⟨fun e u hahead hown hs => ahead_step hc hl hahead hown hs, exists_step hc hl,
    announced_of_ahead hr' hc hl, fun hfree => ?_, fun c' id name ht hid hmem => ?_⟩
  · obtain ⟨u, conn', hruns, hc', -, -, hannounced⟩ := exists_announced hfree hr' hc hl
    exact ⟨u, conn', hruns, hc', hannounced⟩
  · -- the connection of this `open` has the same id, so it is the same one
    obtain ⟨k', conn', hc', ht', hname, hclient⟩ := (routes hr').1 c' id name hmem
    have htunnels := (tunnels hr').1
    have hsame := htunnels.unique k' k conn' conn id hc' hc ht' ht
    rw [hsame, hc, Option.some.injEq] at hc'
    subst hc'
    obtain ⟨x, hx, hcb⟩ := htunnels.accepted k conn hc
    have hall : (system srv).Runs (fun _ _ => True) s s' := hrun.mono fun _ _ _ => trivial
    have hcallback := answered_callback h.reachable hp hm hall hr hproxy (hl ▸ hx)
    refine ⟨hclient hl, ?_⟩
    rw [← hname, ← hcb, hcallback]
    exact openTunnel_answered h.reachable hp hm hapart hproxy hid

/-- **Service routing.** An answer has one entry for each proxy. The entry reports the
address of a listener that was opened for the proxy and captured its name; every
connection on it leads to the proxy, if no two different proxies are registered under
one name and the lookups find records of the client. The names lead to the right
proxies only if no two different ones share a name. -/
theorem service_routing (srv : Server) (client : Client) {s : State}
    (h : (system srv).Reachable s) {c : ClientId} {q : Request} {services : List ServiceReply}
    {force : Bool} (hp : s.point (.control c) = .control (.sendRegistered q services))
    (hm : q.message = client.registerMessage force) :
    services.length = client.config.proxies.length ∧
    (∀ (i : Nat) proxy, client.config.proxies[i]? = some proxy →
      ∃ r reply, q.registered[i]? = some r ∧ services[i]? = some reply ∧
        ∀ s', (system srv).Runs (fun _ _ => True) s s' →
          ∃ x, s'.store.listeners.get? r.listener = some x ∧ x.owner = c ∧
            x.item = client.servicePayload proxy ∧ x.callback = reply.name ∧
            (x.isOpen = true → x.host = reply.bindHost ∧ x.port = reply.bindPort)) ∧
    (RoutesApart srv client c → ∀ (i : Nat) r proxy, q.registered[i]? = some r →
      client.config.proxies[i]? = some proxy →
      (system srv).ReachableUnder (FindsOwn c r.listener) s →
      ∀ s', (system srv).Runs (FindsOwn c r.listener) s s' →
        ∀ k conn, s'.store.conns.get? k = some conn → conn.listener = r.listener →
          LeadsTo srv client c services proxy r.listener s' k conn) ∧
    ((∀ s' (i : Nat) r proxy x id, (system srv).Runs (fun _ _ => True) s s' →
      q.registered[i]? = some r → client.config.proxies[i]? = some proxy →
      s'.store.listeners.get? r.listener = some x → id ≠ "" →
      client.openTunnel (client.applyRegisteredAliases (Message.registered c services).fields)
        (Message.openTunnel id x.callback).fields = some proxy) ↔ RoutesApart srv client c) := by
  obtain ⟨hlen, hrecord⟩ := answered_record h hp hm
  refine ⟨hlen, fun i proxy hproxy => answered_address h hp hm hproxy, ?_, ?_, ?_⟩
  · intro hapart i r proxy hr hproxy h s' hrun k conn hc hl
    exact answered_leadsTo hp hm hapart hr hproxy h hrun hc hl
  · -- one name leads to one proxy
    intro hroutes
    refine routesApart_of_routes
      (client.applyRegisteredAliases (Message.registered c services).fields) fun z hz => ?_
    obtain ⟨i, hi⟩ := List.mem_iff_getElem?.mp hz
    obtain ⟨r, -, hr, -, -, hcomp⟩ := hrecord i z hi
    obtain ⟨l, hl, -⟩ := hcomp.opened
    have hroute := hroutes s i r z l "x" .refl hr hi hl (by decide)
    rwa [openTunnel_get? _ _ (by decide), answered_callback h hp hm .refl hr hi hl] at hroute
  · intro hapart s' i r proxy x id hrun hr hproxy hx hid
    rw [answered_callback h hp hm hrun hr hproxy hx]
    exact openTunnel_answered h hp hm hapart hproxy hid

def webProxy : ProxyConfig := ⟨"web", "127.0.0.1", 80, none, some 8080, none⟩

def apiProxy : ProxyConfig := ⟨"api", "127.0.0.1", 81, none, some 8081, none⟩

/-- A client that offers two local services on ports of its own choice. -/
def webClient : Client where
  config := { proxies := [webProxy, apiProxy] }
  repr := fun _ => ""

/-- What it is answered. -/
def webReplies : List ServiceReply := [⟨"web", "0.0.0.0", 8080, 0⟩, ⟨"api", "0.0.0.0", 8081, 0⟩]

/-- The registration of its proxies, when it is answered. -/
def webRequest : Request where
  message := webClient.registerMessage false
  retry := false
  force := false
  items := webClient.servicePayloads
  registered :=
    [⟨"web", "0.0.0.0", 8080, none, "a", 0, false, none, 0⟩,
      ⟨"api", "0.0.0.0", 8081, none, "a", 1, false, none, 0⟩]

def webClientRun : List Action :=
  (.control "a", .connect 0 (webClient.registerMessage false)) :: Schedule.goes (.control "a") 2 ++
    Schedule.regular "a" 8080 ++ Schedule.regular "a" 8081 ++ Schedule.goes (.control "a") 1

/-- It is sent the answer, and a user comes to each of the two ports. -/
def webUsersRun : List Action :=
  Schedule.goes (.control "a") 1 ++ [(.control "a", .drained none)] ++ Schedule.accept 0 1 "x" ++
    Schedule.goes (.pub 0) 2 ++ Schedule.accept 1 0 "y" ++ Schedule.goes (.pub 1) 1 ++
    [(.pub 0, .drained none)] ++ Schedule.goes (.pub 1) 1

theorem routesApart_web : RoutesApart Schedule.mixedServer webClient "a" := by
  unfold RoutesApart
  decide

/-- The user of the second port is led to the second proxy, the user of the first port
to the first one. -/
theorem service_routing_web : ∃ s s' conn conn', (system Schedule.mixedServer).Reachable s ∧
    conn.listener = 1 ∧ conn'.listener = 0 ∧
    s.point (.control "a") = .control (.sendRegistered webRequest webReplies) ∧
    (system Schedule.mixedServer).Runs (fun _ _ => True) s s' ∧
    s'.store.sent = [("a", .registered "a" webReplies), ("a", .openTunnel "x" "api"),
      ("a", .openTunnel "y" "web")] ∧
    s'.store.conns.get? 0 = some conn ∧
    LeadsTo Schedule.mixedServer webClient "a" webReplies apiProxy 1 s' 0 conn ∧
    s'.store.conns.get? 1 = some conn' ∧
    LeadsTo Schedule.mixedServer webClient "a" webReplies webProxy 0 s' 1 conn' ∧
    webClient.openTunnel
      (webClient.applyRegisteredAliases (Message.registered "a" webReplies).fields)
      (Message.openTunnel "x" "api").fields = some apiProxy ∧
    webClient.openTunnel
      (webClient.applyRegisteredAliases (Message.registered "a" webReplies).fields)
      (Message.openTunnel "y" "web").fields = some webProxy := by
  have hrun : ((system Schedule.mixedServer).execWhile
      (fun s a => findsOwn "a" 0 s a && findsOwn "a" 1 s a)
      (system Schedule.mixedServer).init webClientRun).bind (fun s =>
        ((system Schedule.mixedServer).execWhile
          (fun s a => findsOwn "a" 0 s a && findsOwn "a" 1 s a) s webUsersRun).map fun s' =>
            (s.point (.control "a"), s'.store.sent, s'.store.conns.get? 0,
              s'.store.conns.get? 1)) =
      some (.control (.sendRegistered webRequest webReplies),
        [("a", .registered "a" webReplies), ("a", .openTunnel "x" "api"),
          ("a", .openTunnel "y" "web")],
        some ⟨1, "api", some "x", .unresolved, false⟩,
        some ⟨0, "web", some "y", .unresolved, false⟩) := by rfl
  obtain ⟨s, hs, hrest⟩ := Option.bind_eq_some_iff.mp hrun
  obtain ⟨s', hs', heq⟩ := Option.map_eq_some_iff.mp hrest
  simp only [Prod.mk.injEq] at heq
  obtain ⟨hp, hsent, hc, hc'⟩ := heq
  -- every lookup of the run finds a record of the client
  have hown {l : Nat} (hl : l = 0 ∨ l = 1) (u : State) (a : Action)
      (h : (findsOwn "a" 0 u a && findsOwn "a" 1 u a) = true) : FindsOwn "a" l u a := by
    obtain ⟨h₀, h₁⟩ := Bool.and_eq_true_iff.mp h
    rcases hl with rfl | rfl
    · exact h₀
    · exact h₁
  have hreach {l : Nat} (hl : l = 0 ∨ l = 1) :
      (system Schedule.mixedServer).ReachableUnder (FindsOwn "a" l) s :=
    System.runs_of_execWhile (fun u a _ => hown hl u a) hs
  have hruns {l : Nat} (hl : l = 0 ∨ l = 1) :
      (system Schedule.mixedServer).Runs (FindsOwn "a" l) s s' :=
    System.runs_of_execWhile (fun u a _ => hown hl u a) hs'
  obtain ⟨-, -, hleads, -⟩ := service_routing Schedule.mixedServer webClient
    (hreach (.inl rfl)).reachable hp (Eq.refl (webClient.registerMessage false))
  have hapi := hleads routesApart_web 1 _ apiProxy rfl rfl (hreach (.inr rfl)) s' (hruns (.inr rfl))
    0 _ hc rfl
  have hweb := hleads routesApart_web 0 _ webProxy rfl rfl (hreach (.inl rfl)) s' (hruns (.inl rfl))
    1 _ hc' rfl
  refine ⟨s, s', _, _, (hreach (.inl rfl)).reachable, rfl, rfl, hp,
    (hruns (.inl rfl)).mono fun _ _ _ => trivial, hsent, hc, hapi, hc', hweb, ?_, ?_⟩
  · exact (hapi.resolved "a" "x" "api" rfl (by decide) (by rw [hsent]; exact .tail _ (.head _))).2
  · exact (hweb.resolved "a" "y" "web" rfl (by decide)
      (by rw [hsent]; exact .tail _ (.tail _ (.head _)))).2

/-- A client of a pool with the given local ports. -/
def poolClient (ports : List Int) : Client where
  config :=
    { proxies := ports.map fun port => ⟨toString port, "127.0.0.1", port, none, none, none⟩
      token := some "t" }
  repr := fun _ => ""

/-- The client sends its register message, and its items are bound to the pool. -/
def poolClientRun (ports : List Int) : List Action :=
  (.control "a", .connect 0 ((poolClient ports).registerMessage false)) ::
    Schedule.goes (.control "a") 2 ++
    (List.range ports.length).flatMap (fun i => Schedule.pool "a" i (6000 + i)) ++
    Schedule.goes (.control "a") 1

/-- Two proxies of one client: the connection came in on the port reported for the
first one, and is led to the second one. -/
theorem pool_misrouted : ∃ s, (system Schedule.poolServer).Reachable s ∧
    s.store.sent = [("a", .registered "a" [⟨"pool-a", "0.0.0.0", 6000, 0⟩,
      ⟨"pool-a", "0.0.0.0", 6001, 0⟩]), ("a", .openTunnel "x" "pool-a")] ∧
    (s.store.conns.get? 0).map PublicConn.listener = some 0 ∧
    (s.store.listeners.get? 0).map Listener.port = some 6000 ∧
    (poolClient [80, 81]).openTunnel
      ((poolClient [80, 81]).applyRegisteredAliases (Message.registered "a"
        [⟨"pool-a", "0.0.0.0", 6000, 0⟩, ⟨"pool-a", "0.0.0.0", 6001, 0⟩]).fields)
      (Message.openTunnel "x" "pool-a").fields =
        some ⟨"81", "127.0.0.1", 81, none, none, none⟩ := by
  have hrun : ((system Schedule.poolServer).execWhile (fun _ _ => true)
      (system Schedule.poolServer).init (poolClientRun [80, 81] ++ Schedule.goes (.control "a") 1 ++
        [(.control "a", .drained none)] ++ Schedule.accept 0 0 "x" ++
        Schedule.goes (.pub 0) 2)).map (fun s => (s.store.sent,
          (s.store.conns.get? 0).map PublicConn.listener,
          (s.store.listeners.get? 0).map Listener.port)) =
        some ([("a", .registered "a" [⟨"pool-a", "0.0.0.0", 6000, 0⟩,
          ⟨"pool-a", "0.0.0.0", 6001, 0⟩]), ("a", .openTunnel "x" "pool-a")],
          some 0, some 6000) := by rfl
  obtain ⟨s, hs, heq⟩ := System.exists_of_execWhile_map _ (fun _ _ _ _ => trivial) hrun
  obtain ⟨hsent, heq⟩ := Prod.mk.inj heq
  obtain ⟨hconn, hport⟩ := Prod.mk.inj heq
  exact ⟨s, hs, hsent, hconn, hport, by rfl⟩

end PyFrp
