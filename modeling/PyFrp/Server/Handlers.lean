import PyFrp.Server.Points

/-!
# The handlers of the server, segment by segment

`_handle_control`, `_handle_public` and `_handle_tunnel` with everything they
call, cut at their suspension points. Each line is the code from a point,
resumed by an event, to the next point: its effect on the shared state and the
mutex it gives up.
-/

namespace PyFrp

open Python Coop Store

/-! ## Control connections -/

/-- `_register_client` up to its loop. -/
def startRegister (current : Fields) (retry force : Bool) : ControlPoint :=
  match dictGet current "services" with
  | .list (raw :: raws) => .item ⟨current, retry, force, raw :: raws, []⟩
  | _ =>
      .raised ⟨current, retry, force, [], []⟩
        (.protocol "register message must include services")

/-- One round of the loop of `_register_client`, up to the first suspension of
`_register_pool_service` or `_register_regular_service`. After the last round
the `registered` reply is built. -/
def nextItem (srv : Server) (σ : Store) (q : Request) : ControlPoint :=
  match q.items[q.registered.length]? with
  | none => .sendRegistered q (q.registered.map σ.serviceReply)
  | some raw =>
      if isPoolRegistration srv raw then
        match poolItem srv raw with
        | .ok item => .poolEnter ⟨q, raw, item⟩
        | .error e => .rollback q q.registered e
      else
        match serviceFromRegistration srv raw with
        | .ok service => .regularBind q raw service
        | .error e => .rollback q q.registered e

/-- The loop goes on after `registered.append(registered_service)`. -/
def appended (q : Request) (r : RegisteredService) : ControlPoint :=
  .item { q with registered := q.registered ++ [r] }

/-- The record `_register_regular_service` builds. -/
def regularService (srv : Server) (c : ClientId) (service : ServerServiceConfig)
    (listener : Nat) : RegisteredService where
  name := service.name
  bindHost := service.bindHost
  bindPort := service.bindPort
  token := service.token
  client := c
  listener := listener
  configured := (srv.configured service.name).isSome

/-- The record `_bind_pool_service_locked` builds. -/
def poolService (srv : Server) (c : ClientId) (item : PoolItem) (port : Int)
    (listener : Nat) : RegisteredService where
  name := poolServiceName c
  bindHost := srv.config.poolBindHost
  bindPort := port
  token := some item.token
  client := c
  listener := listener
  configured := true
  poolToken := some item.token
  priority := item.priority

/-- The ports of the pool services. -/
def poolPorts (σ : Store) : List Int :=
  (σ.services.values.filter fun r => r.poolToken.isSome).map RegisteredService.bindPort

/-- `_bind_pool_service_locked` up to its loop. -/
def startScan (srv : Server) (σ : Store) : Scan where
  used := poolPorts σ
  ports := srv.config.portPool.insertionSort (· ≤ ·)
  lastError := none
  refused := []

/-- The listener of a service of `c`, with the socket address it got. -/
def openListener (callback host : String) (port : Int) (c : ClientId) (raw : Value) :
    Listener :=
  ⟨callback, host, port, true, c, raw, false⟩

/-- The code of the control task of session `c`. -/
def controlSegment (srv : Server) (σ : Store) (c : ClientId) :
    ControlPoint → Event → Option (Segment LockId Effect ControlPoint)
  -- `_handle_control`, up to the call of `_register_client`
  | .join first, .go =>
      if (dictGet first "type").isText "hello" then
        some ⟨.join c, .sendHello, some .server⟩
      else some ⟨.join c, .dispatch first, some .server⟩
  | .sendHello, .go => some ⟨.send c .hello, .helloSent, none⟩
  | .helloSent, .drained none => some ⟨.none, .readRegister, some (.writer c)⟩
  | .helloSent, .drained (some text) => some ⟨.none, .failed (.os text), some (.writer c)⟩
  | .readRegister, .read message => some ⟨.none, .dispatch (message.getD []), none⟩
  | .readRegister, .readError e => some ⟨.none, .failed e, none⟩
  | .dispatch current, .go =>
      if (dictGet current "type").isText "register" then
        some ⟨.none, startRegister current false (dictGet current "force").isTrue, none⟩
      else
        some ⟨.none, .failed (.protocol "control connection must register services"), none⟩
  -- `_register_client`
  | .item q, .go => some ⟨.none, nextItem srv σ q, none⟩
  -- `_register_regular_service`
  | .regularBind q raw service, .bind (.bound host port) =>
      some ⟨.listen (openListener service.name host port c raw),
        .regularBound q service σ.listeners.size, none⟩
  | .regularBind q _ _, .bind (.osError text) =>
      some ⟨.none, .rollback q q.registered (.os text), none⟩
  | .regularBind q _ _, .bind (.crash text) =>
      some ⟨.none, .rollback q q.registered (.crash text), none⟩
  | .regularBound q service l, .go =>
      some ⟨.none, .regularInsert q (regularService srv c service l), none⟩
  | .regularInsert q r, .go =>
      if σ.services.contains r.name then some ⟨.discard r, .regularTaken q r, none⟩
      else some ⟨.register r, appended q r, some .server⟩
  | .regularTaken q r, .go =>
      if σ.allClosed [r.listener] then
        some ⟨.none, .rollback q q.registered
          (.protocol s!"service {srv.repr (.str r.name)} is already registered"),
          some .server⟩
      else none
  -- `_register_pool_service` and `_bind_pool_service_locked`
  | .poolEnter p, .go => some ⟨.none, .poolScan p none (startScan srv σ), none⟩
  | .poolScan p victim scan, .go =>
      match scan.ports with
      | port :: ports =>
          if port ∈ scan.used then
            some ⟨.none, .poolScan p victim { scan with ports }, none⟩
          else some ⟨.none, .poolBind p victim { scan with ports } port, none⟩
      | [] =>
          match victim with
          | some v => some ⟨.none, .announce ⟨p, v, none, scan.lastError⟩, some .server⟩
          | none =>
              match σ.selectVictim c p.item.priority p.request.force scan.lastError with
              | .ok v => some ⟨.evict v, .poolEvict p v, none⟩
              | .error e =>
                  some ⟨.none, .rollback p.request p.request.registered e, some .server⟩
  | .poolBind p victim scan port, .bind (.bound host port') =>
      some ⟨.listen (openListener (poolServiceName c) host port' c p.raw),
        .poolBound p victim scan port σ.listeners.size, none⟩
  | .poolBind p victim scan port, .bind (.osError text) =>
      some ⟨.none, .poolScan p victim
        { scan with lastError := some text, refused := port :: scan.refused }, none⟩
  | .poolBind p _ _ _, .bind (.crash text) =>
      some ⟨.none, .rollback p.request p.request.registered (.crash text), some .server⟩
  | .poolBound p victim scan port l, .go =>
      let r := poolService srv c p.item port l
      match victim with
      | none => some ⟨.register r, appended p.request r, some .server⟩
      | some v => some ⟨.register r, .announce ⟨p, v, some r, scan.lastError⟩, some .server⟩
  | .poolEvict p v, .go =>
      if σ.allClosed (v.services.map RegisteredService.listener) then
        some ⟨.none, .poolScan p (some v) (startScan srv σ), none⟩
      else none
  | .announce p, .go => some ⟨.failPending p.victim.pending, .sendPreempted p, none⟩
  | .sendPreempted p, .go =>
      some ⟨.send p.victim.client (.preempted p.victim.priority p.call.item.priority),
        .preemptedSent p, none⟩
  | .preemptedSent p, .drained _ =>
      some ⟨.closeSession p.victim.client, .closeVictim p, some (.writer p.victim.client)⟩
  | .closeVictim p, .go =>
      match p.outcome with
      | some r => some ⟨.none, appended p.call.request r, none⟩
      | none =>
          some ⟨.none, .rollback p.call.request p.call.request.registered
            (.resourceExhausted p.lastError), none⟩
  -- the `except` clause of `_register_client`, `_drop_registered_service`
  | .rollback q [] e, .go => some ⟨.none, .raised q e, none⟩
  | .rollback q (r :: rest) e, .go => some ⟨.none, .drop q r rest e, none⟩
  | .drop q r rest e, .go => some ⟨.drop r, .dropped q r rest e, some .server⟩
  | .dropped q r rest e, .go =>
      if σ.allClosed [r.listener] then some ⟨.none, .rollback q rest e, none⟩ else none
  -- `_handle_control`, from the return of `_register_client`
  | .raised q e, .go =>
      match e with
      | .forceRequired =>
          if q.retry then some ⟨.none, .failed e, none⟩
          else some ⟨.none, .sendForceRequired e, none⟩
      | _ => some ⟨.none, .failed e, none⟩
  | .sendForceRequired e, .go =>
      some ⟨.send c (.forceRequired e.text), .forceRequiredSent, none⟩
  | .forceRequiredSent, .drained none => some ⟨.none, .readRetry, some (.writer c)⟩
  | .forceRequiredSent, .drained (some text) =>
      some ⟨.none, .failed (.os text), some (.writer c)⟩
  | .readRetry, .read none => some ⟨.none, .leave, none⟩
  | .readRetry, .read (some current) =>
      if (dictGet current "type").isText "close" then some ⟨.none, .leave, none⟩
      else if (dictGet current "type").isText "register" && (dictGet current "force").isTrue then
        some ⟨.none, startRegister current true true, none⟩
      else
        some ⟨.none, .failed
          (.protocol "force retry must register services with force enabled"), none⟩
  | .readRetry, .readError e => some ⟨.none, .failed e, none⟩
  | .sendRegistered q services, .go =>
      some ⟨.send c (.registered c services), .registeredSent q, none⟩
  | .registeredSent q, .drained none => some ⟨.none, .serve q, some (.writer c)⟩
  | .registeredSent _, .drained (some text) =>
      some ⟨.none, .failed (.os text), some (.writer c)⟩
  | .serve _, .read none => some ⟨.none, .leave, none⟩
  | .serve q, .read (some message) =>
      if (dictGet message "type").isText "ping" then
        some ⟨.none, .sendPong q (dictGet message "time"), none⟩
      else if (dictGet message "type").isText "close" then some ⟨.none, .leave, none⟩
      else some ⟨.none, .serve q, none⟩
  | .serve _, .readError e => some ⟨.none, .failed e, none⟩
  | .sendPong q time, .go => some ⟨.send c (.pong time), .pongSent q, none⟩
  | .pongSent q, .drained none => some ⟨.none, .serve q, some (.writer c)⟩
  | .pongSent _, .drained (some text) => some ⟨.none, .failed (.os text), some (.writer c)⟩
  -- the error clauses with `_best_effort_error`, which takes no write lock
  | .failed e, .go => some ⟨.send c (.error e.text e.fatal e.maxPriority), .errorSent, none⟩
  | .failed _, .closing => some ⟨.none, .leave, none⟩
  | .errorSent, .drained _ => some ⟨.none, .leave, none⟩
  -- the `finally` clause with `_remove_client`
  | .leave, .go => some ⟨.removeClient c, .left (σ.servicesOf c), some .server⟩
  | .left services, .go =>
      if σ.allClosed (services.map RegisteredService.listener) then
        some ⟨.closeSession c, .closing, none⟩
      else none
  | .closing, .go => some ⟨.none, .finished, none⟩
  | _, _ => none

/-! ## Public connections -/

/-- The pending record `_handle_public` builds. -/
def pendingTunnel (serviceName : String) (service : RegisteredService) (id : String)
    (h : Nat) : PendingTunnel :=
  ⟨id, serviceName, service.token, service.client, h⟩

/-- `_handle_public` of connection `h`, whose listener captured `serviceName`. -/
def publicSegment (σ : Store) (h : Nat) (conn : PublicConn) :
    PublicPoint → Event → Option (Segment LockId Effect PublicPoint)
  | .accepted, .go => some ⟨.none, .lookup, none⟩
  | .lookup, .ticket id =>
      match σ.services.get? conn.serviceName with
      | none => some ⟨.closeConn h, .closing none, some .server⟩
      | some service =>
          if id ∈ σ.tickets then none
          else some ⟨.ticket h id, .insert service id, some .server⟩
  | .insert service id, .go =>
      some ⟨.pend (pendingTunnel conn.serviceName service id h), .sendOpen service id,
        some .server⟩
  | .sendOpen service id, .go =>
      some ⟨.send service.client (.openTunnel id conn.serviceName), .openSent service id, none⟩
  | .openSent service id, .drained none =>
      some ⟨.none, .waitTunnel service id, some (.writer service.client)⟩
  | .openSent service id, .drained (some _) =>
      some ⟨.none, .cleanup service id none, some (.writer service.client)⟩
  | .waitTunnel service id, .go =>
      match conn.future with
      | .result k => some ⟨.none, .relay service id k, none⟩
      | .failed _ => some ⟨.none, .cleanup service id none, none⟩
      | _ => none
  -- the time-out may fire after the future was resolved
  | .waitTunnel service id, .timeout => some ⟨.giveUp h, .cleanup service id none, none⟩
  | .relay service id k, .relayEnd => some ⟨.relayed h k, .relayed service id k, none⟩
  | .relayed service id k, .go => some ⟨.none, .cleanup service id (some k), none⟩
  | .cleanup _ id tunnel, .go => some ⟨.settle h id, .closing tunnel, some .server⟩
  | .closing (some k), .go => some ⟨.closeTunnel k, .finished, none⟩
  | .closing none, .go => some ⟨.none, .finished, none⟩
  | _, _ => none

/-! ## Tunnel connections -/

/-- `tunnel_id`, `service_name` and `provided_token` of a tunnel message. -/
structure TunnelRequest where
  id : String
  service : String
  token : Option String

/-- The fields of a tunnel message, as the client's `_open_tunnel` fills them in. -/
def tunnelMessage (id service : String) (token : Value) : Fields :=
  [("type", .str "tunnel"), ("id", .str id), ("service", .str service), ("token", token)]

def tunnelRequest (srv : Server) (message : Fields) : TunnelRequest where
  id := (dictGet message "id").strOrEmpty srv.repr
  service := (dictGet message "service").strOrEmpty srv.repr
  token := optionalString srv.repr (dictGet message "token")

/-- `_handle_tunnel` up to the lock. -/
def startTunnel (srv : Server) (message : Fields) : TunnelPoint :=
  let m := tunnelRequest srv message
  if m.id = "" || m.service = "" then
    .refused (.protocol "tunnel message requires id and service")
  else .claim message

/-- The checks of `_handle_tunnel`: the connection whose future is resolved. -/
def claimed (σ : Store) (m : TunnelRequest) : Except ServerError Nat :=
  match σ.pending.get? m.id with
  | none => .error (.protocol "unknown tunnel id")
  | some p =>
      if p.serviceName ≠ m.service then
        .error (.protocol "tunnel service does not match pending connection")
      else match requireToken p.token m.token with
      | .error e => .error e
      | .ok () =>
          match σ.conns.get? p.conn with
          | none => .error (.crash "no such future")
          | some conn =>
              if conn.future.done then .error (.protocol "pending tunnel is no longer open")
              else .ok p.conn

/-- `_handle_tunnel` from the lock on; the code after the critical section does
not suspend. -/
def tunnelSegment (srv : Server) (σ : Store) (k : Nat) :
    TunnelPoint → Event → Option (Segment LockId Effect TunnelPoint)
  | .claim message, .go =>
      match claimed σ (tunnelRequest srv message) with
      | .ok h => some ⟨.pair h k, .finished, some .server⟩
      | .error e => some ⟨.none, .refused e, some .server⟩
  | .refused e, .go => some ⟨.refuse k e, .finished, none⟩
  | _, _ => none

/-! ## The server -/

/-- The code of every task. A task starts when its connection comes in: a
control session under an id not used before, a public connection on a listener
that is open. -/
def serverSegment (srv : Server) (σ : Store) :
    TaskId → Point → Event → Option (Segment LockId Effect Point)
  | .control c, .start, .connect now first =>
      if σ.clock ≤ now && !(dictGet first "type").isText "tunnel" then
        some ⟨.newSession c now, .control (.join first), none⟩
      else none
  | .control c, .control p, e => (controlSegment srv σ c p e).map (Segment.lift .control)
  | .pub h, .start, .accept l =>
      match σ.listeners.get? l with
      | some listener =>
          if listener.isOpen && h = σ.conns.size then
            some ⟨.accept l listener.callback, .pub .accepted, none⟩
          else none
      | none => none
  | .pub h, .pub p, e =>
      match σ.conns.get? h with
      | some conn => (publicSegment σ h conn p e).map (Segment.lift .pub)
      | none => none
  | .tunnel k, .start, .connectTunnel message =>
      if k = σ.tunnels.size then
        some ⟨.newTunnel, .tunnel (startTunnel srv message), none⟩
      else none
  | .tunnel k, .tunnel p, e => (tunnelSegment srv σ k p e).map (Segment.lift .tunnel)
  | _, _, _ => none

/-- The server as a program of cooperative tasks. -/
def program (srv : Server) : Program TaskId LockId Store Effect Point Event where
  apply := Effect.apply
  wants := Point.wants
  runsOn := Point.runsOn
  segment := serverSegment srv

/-- A state of the event loop that runs the server. -/
abbrev State := LoopState TaskId LockId Store Point

/-- An action: a task is resumed by an event. -/
abbrev Action := TaskId × Event

/-- The server as a transition system. -/
def system (srv : Server) : System State Action := (program srv).system .initial .start

/-! ## Schedules

The actions of common episodes, for runs of the system on concrete inputs. -/

namespace Schedule

/-- A server with one pool port that lets clients name their own ports. -/
def mixedServer : Server where
  config := { portPool := [6000], poolTokens := ["t"] }
  repr := fun _ => ""

/-- A server with two pool ports. -/
def poolServer : Server where
  config := { portPool := [6001, 6000], poolTokens := ["t"] }
  repr := fun _ => ""

def regularItem (name : String) (port : Int) : Value :=
  .dict [("name", .str name), ("remote_port", .int port)]

def webItem : Value := regularItem "web" 8080

def poolItem : Value := .dict [("token", .str "t")]

/-- A task runs through `n` segments that nothing outside resumes. -/
def goes (t : TaskId) (n : Nat) : List Action := List.replicate n (t, .go)

/-- A register message. -/
def register (force : Bool) (items : List Value) : Fields :=
  [("type", .str "register"), ("services", .list items), ("force", .bool force)]

/-- A control connection sends its register message. -/
def connect (c : ClientId) (force : Bool) (items : List Value) : List Action :=
  (.control c, .connect 0 (register force items)) :: goes (.control c) 2

/-- The next item is a regular one, and its port can be bound. -/
def regular (c : ClientId) (port : Int) : List Action :=
  goes (.control c) 1 ++ [(.control c, .bind (.bound "0.0.0.0" port))] ++ goes (.control c) 2

/-- The next item is a pool item; its scan passes `skip` ports over and binds `port`. -/
def pool (c : ClientId) (skip : Nat) (port : Int) : List Action :=
  goes (.control c) (3 + skip) ++ [(.control c, .bind (.bound "0.0.0.0" port))] ++
    goes (.control c) 1

/-- The registration is answered. -/
def answer (c : ClientId) : List Action :=
  goes (.control c) 2 ++ [(.control c, .drained none)]

/-- A public connection is accepted and looks its service up. -/
def accept (h l : Nat) (id : String) : List Action :=
  [(.pub h, .accept l), (.pub h, .go), (.pub h, .ticket id)]

end Schedule

end PyFrp
