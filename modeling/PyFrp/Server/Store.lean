import PyFrp.Coop.Dict
import PyFrp.Coop.Heap
import PyFrp.Server.Registration

/-!
# The shared state of the server (`server.py`)

The maps of a `Server` object, the objects its tasks share (control sessions,
public listeners, public and tunnel connections) and every way a task changes
them. A change is an `Effect`: the straight-line code between two suspension
points performs one of them.

Fields marked *history* are never read by the program; the statements about
runs read them.
-/

namespace PyFrp

open Python Coop

/-- A session is identified by its id, `uuid.uuid4().hex`. -/
abbrev ClientId := String

/-- `ClientSession`: the clock reading at its creation, and whether the server
has closed its writer. -/
structure ClientSession where
  createdAt : Nat
  closed : Bool

structure RegisteredService where
  name : String
  bindHost : String
  bindPort : Int
  token : Option String
  client : ClientId
  listener : Nat
  configured : Bool
  poolToken : Option String := none
  priority : Int := 0
  deriving DecidableEq

/-- `PendingTunnel`. Its future is the one of the public connection `conn`. -/
structure PendingTunnel where
  id : String
  serviceName : String
  token : Option String
  client : ClientId
  conn : Nat
  deriving DecidableEq

/-- A public listener: the service name its connection callback captured and
its socket address. History: the session and the item it was opened for, and
whether that item's registration completed. -/
structure Listener where
  callback : String
  host : String
  port : Int
  isOpen : Bool
  owner : ClientId
  item : Value
  registered : Bool

def Listener.close (l : Listener) : Listener := { l with isOpen := false }

/-- The future a public handler waits on. -/
inductive Future
  | unresolved
  | result (tunnel : Nat)
  | failed (text : String)
  | cancelled
  deriving DecidableEq

def Future.done : Future → Bool
  | .unresolved => false
  | _ => true

/-- An accepted public connection, with the locals of its `_handle_public`
call that other tasks reach. `ticket` is the tunnel id it generated. -/
structure PublicConn where
  listener : Nat
  serviceName : String
  ticket : Option String
  future : Future
  closed : Bool

def PublicConn.close (conn : PublicConn) : PublicConn := { conn with closed := true }

/-- Resolve the future unless it is done. -/
def PublicConn.resolve (f : Future) (conn : PublicConn) : PublicConn :=
  if conn.future.done then conn else { conn with future := f }

/-- An accepted tunnel connection. `refusal` is the error it was sent. -/
structure TunnelConn where
  refusal : Option ServerError
  closed : Bool

/-- One entry of the `registered` reply. -/
structure ServiceReply where
  name : String
  bindHost : String
  bindPort : Int
  priority : Int
  deriving DecidableEq

/-- The messages the server writes on a control connection. -/
inductive Message
  | hello
  | forceRequired (error : String)
  | registered (clientId : ClientId) (services : List ServiceReply)
  | pong (time : Value)
  | preempted (priority byPriority : Int)
  | error (error : String) (fatal : Bool) (maxPriority : Option Int)
  | openTunnel (id service : String)

/-- One entry of the `services` list. -/
def ServiceReply.value (r : ServiceReply) : Value :=
  .dict [("name", .str r.name), ("bind_host", .str r.bindHost), ("bind_port", .int r.bindPort),
    ("priority", .int r.priority)]

/-- The dict a message is written as. -/
def Message.fields : Message → Fields
  | .hello => [("type", .str "hello"), ("version", .int 2), ("server", .str "py-frp")]
  | .forceRequired text =>
      [("type", .str "force_required"), ("status", .str "full"), ("error", .str text)]
  | .registered clientId replies =>
      [("type", .str "registered"), ("status", .str "ok"), ("client_id", .str clientId),
        ("services", .list (replies.map ServiceReply.value))]
  | .pong time => [("type", .str "pong"), ("time", time)]
  | .preempted priority byPriority =>
      [("type", .str "error"),
        ("error", .str "connection preempted by a forced pool connection"),
        ("code", .str "preempted"), ("fatal", .bool false), ("priority", .int priority),
        ("preempted_by_priority", .int byPriority)]
  | .error text fatal limit =>
      [("type", .str "error"), ("error", .str text), ("fatal", .bool fatal)] ++
        match limit with
        | some n => [("max_priority", .int n)]
        | none => []
  | .openTunnel id service =>
      [("type", .str "open"), ("id", .str id), ("service", .str service)]

/-- The shared state. -/
structure Store where
  services : Dict String RegisteredService
  pending : Dict String PendingTunnel
  clients : Dict String ClientId
  sessions : Dict ClientId ClientSession
  listeners : Heap Listener
  conns : Heap PublicConn
  tunnels : Heap TunnelConn
  clock : Nat
  /-- History: the control messages written, oldest first. -/
  sent : List (ClientId × Message)
  /-- History: the tunnel ids generated. -/
  tickets : List String
  /-- History: the clients whose pool service was preempted. -/
  preempted : List ClientId
  /-- History: the clients whose `_remove_client` has passed its critical section. -/
  removed : List ClientId

/-- A `Server` object as its constructor leaves it. -/
def Store.initial : Store where
  services := .empty
  pending := .empty
  clients := .empty
  sessions := .empty
  listeners := .empty
  conns := .empty
  tunnels := .empty
  clock := 0
  sent := []
  tickets := []
  preempted := []
  removed := []

namespace Store

/-! ## Reading the state -/

def servicesOf (σ : Store) (c : ClientId) : List RegisteredService :=
  σ.services.values.filter fun r => r.client = c

def pendingOf (σ : Store) (c : ClientId) : List PendingTunnel :=
  σ.pending.values.filter fun p => p.client = c

/-- `service.client.created_at`. -/
def createdAt (σ : Store) (c : ClientId) : Nat :=
  match σ.sessions.get? c with
  | some session => session.createdAt
  | none => 0

/-- Has every connection the listeners accepted been closed? This is what
`wait_closed()` waits for. -/
def allClosed (σ : Store) (listeners : List Nat) : Bool :=
  σ.conns.all fun conn => conn.listener ∉ listeners || conn.closed

/-- `RegisteredService.public_address`: a closed listener has no sockets. -/
def publicAddress (σ : Store) (r : RegisteredService) : String × Int :=
  match σ.listeners.get? r.listener with
  | some l => if l.isOpen then (l.host, l.port) else (r.bindHost, r.bindPort)
  | none => (r.bindHost, r.bindPort)

/-- One entry of the `services` list of the `registered` reply. -/
def serviceReply (σ : Store) (r : RegisteredService) : ServiceReply :=
  ⟨r.name, (σ.publicAddress r).1, (σ.publicAddress r).2, r.priority⟩

/-! ## Choosing the client to preempt -/

/-- What `_register_pool_service` found out about the client it preempts. -/
structure Victim where
  client : ClientId
  services : List RegisteredService
  pending : List PendingTunnel
  priority : Int
  deriving DecidableEq

/-- `max(service.priority for service in first :: rest)`. -/
def maxPriority (first : RegisteredService) (rest : List RegisteredService) : Int :=
  rest.foldl (fun m s => max m s.priority) first.priority

/-- `min(first :: rest, key=lambda service: service.client.created_at)`. -/
def oldest (σ : Store) (first : RegisteredService) (rest : List RegisteredService) :
    RegisteredService :=
  rest.foldl (fun best s =>
    if σ.createdAt s.client < σ.createdAt best.client then s else best) first

/-- The pool services of the other clients. -/
def otherPoolServices (σ : Store) (c : ClientId) : List RegisteredService :=
  σ.services.values.filter fun s => s.poolToken.isSome && s.client ≠ c

/-- The middle of `_register_pool_service`: no port could be bound, so either
the request fails or there is a client to preempt. -/
def selectVictim (σ : Store) (c : ClientId) (priority : Int) (force : Bool)
    (lastError : Option String) : Except ServerError Victim :=
  match σ.otherPoolServices c with
  | [] => .error (.resourceExhausted lastError)
  | first :: rest =>
      if !force then .error .forceRequired
      else match (first :: rest).filter fun s => priority ≤ s.priority with
      | [] => .error (.priorityPreemption priority (maxPriority first rest))
      | e :: es =>
          let victimPriority := maxPriority e es
          match (e :: es).filter fun s => s.priority = victimPriority with
          | [] => .error (.crash "min() arg is an empty sequence")
          | v :: vs =>
              let victim := (σ.oldest v vs).client
              .ok ⟨victim, σ.servicesOf victim, σ.pendingOf victim, victimPriority⟩

/-! ## Changing the state -/

/-- `listener.close()` for each of the listeners. -/
def closeListeners (σ : Store) (ls : List Nat) : Store :=
  { σ with listeners := σ.listeners.modifyAll ls Listener.close }

/-- Resolve the futures of the public connections `hs` that are not done. -/
def resolveAll (σ : Store) (hs : List Nat) (f : Future) : Store :=
  { σ with conns := σ.conns.modifyAll hs (PublicConn.resolve f) }

/-- Pop the services by name and close their listeners. -/
def dropServices (σ : Store) (rs : List RegisteredService) : Store :=
  let σ' := { σ with services := σ.services.eraseAll (rs.map RegisteredService.name) }
  σ'.closeListeners (rs.map RegisteredService.listener)

/-- Pop the pending tunnels by id. -/
def dropPending (σ : Store) (ps : List PendingTunnel) : Store :=
  { σ with pending := σ.pending.eraseAll (ps.map PendingTunnel.id) }

/-- The insertion that completes a registration. -/
def register (σ : Store) (r : RegisteredService) : Store :=
  { σ with
    services := σ.services.set r.name r
    listeners := σ.listeners.modify r.listener fun l => { l with registered := true } }

/-- The critical section of `_remove_client` and the synchronous code after it. -/
def removeClient (σ : Store) (c : ClientId) : Store :=
  let σ' := { σ with clients := σ.clients.erase c, removed := c :: σ.removed }
  ((σ'.dropServices (σ.servicesOf c)).dropPending (σ.pendingOf c)).resolveAll
    ((σ.pendingOf c).map PendingTunnel.conn) (.failed "client disconnected")

/-- The eviction in `_register_pool_service`. -/
def evict (σ : Store) (v : Victim) : Store :=
  let σ' := { σ with preempted := v.client :: σ.preempted }
  (σ'.dropServices v.services).dropPending v.pending

def closeConn (σ : Store) (h : Nat) : Store :=
  { σ with conns := σ.conns.modify h PublicConn.close }

/-- `if self._pending.get(tunnel_id) is pending: self._pending.pop(tunnel_id)`, where
`pending` is the record of connection `h`. -/
def settled (σ : Store) (h : Nat) (id : String) : Dict String PendingTunnel :=
  match σ.pending.get? id with
  | some p => if p.conn = h then σ.pending.erase id else σ.pending
  | none => σ.pending

def closeTunnel (σ : Store) (k : Nat) : Store :=
  { σ with tunnels := σ.tunnels.modify k fun conn => { conn with closed := true } }

end Store

/-- What the code between two suspension points does to the shared state. -/
inductive Effect
  | none
  /-- `ClientSession(...)` in `_handle_control`. -/
  | newSession (c : ClientId) (now : Nat)
  /-- `self._clients[client.id] = client`. -/
  | join (c : ClientId)
  /-- `writer.write(...)` on the control connection of `c`. -/
  | send (c : ClientId) (m : Message)
  /-- `writer.close()` on the control connection of `c`. -/
  | closeSession (c : ClientId)
  /-- `start_server` bound its socket and listens. -/
  | listen (l : Listener)
  /-- `self._services[name] = registered_service`. -/
  | register (r : RegisteredService)
  /-- `listener.close()` of a service that is not registered. -/
  | discard (r : RegisteredService)
  /-- `_drop_registered_service`. -/
  | drop (r : RegisteredService)
  | evict (v : Store.Victim)
  /-- The futures of a preempted client's pending tunnels fail. -/
  | failPending (ps : List PendingTunnel)
  | removeClient (c : ClientId)
  /-- A public connection is accepted. -/
  | accept (listener : Nat) (serviceName : String)
  /-- `secrets.token_urlsafe(24)` in `_handle_public`. -/
  | ticket (h : Nat) (id : String)
  /-- `self._pending[tunnel_id] = pending`. -/
  | pend (p : PendingTunnel)
  /-- `wait_for` gives up and cancels the future. -/
  | giveUp (h : Nat)
  /-- `pipe_tunnel_streams` is over and closes both writers. -/
  | relayed (h k : Nat)
  /-- The `finally` block of `_handle_public` up to its first `close_writer`. -/
  | settle (h : Nat) (id : String)
  | closeConn (h : Nat)
  | closeTunnel (k : Nat)
  /-- A tunnel connection sent its first message. -/
  | newTunnel
  /-- `pending.future.set_result((reader, writer))`. -/
  | pair (h k : Nat)
  /-- `_handle_connection` reports the error and closes the writer. -/
  | refuse (k : Nat) (e : ServerError)

def Effect.apply : Effect → Store → Store
  | .none, σ => σ
  | .newSession c now, σ =>
      { σ with sessions := σ.sessions.set c ⟨now, false⟩, clock := now }
  | .join c, σ => { σ with clients := σ.clients.set c c }
  | .send c m, σ => { σ with sent := σ.sent ++ [(c, m)] }
  | .closeSession c, σ =>
      match σ.sessions.get? c with
      | some session => { σ with sessions := σ.sessions.set c { session with closed := true } }
      | Option.none => σ
  | .listen l, σ => { σ with listeners := σ.listeners.alloc l }
  | .register r, σ => σ.register r
  | .discard r, σ => σ.closeListeners [r.listener]
  | .drop r, σ => σ.dropServices [r]
  | .evict v, σ => σ.evict v
  | .failPending ps, σ => σ.resolveAll (ps.map PendingTunnel.conn) (.failed "client was preempted")
  | .removeClient c, σ => σ.removeClient c
  | .accept listener serviceName, σ =>
      { σ with conns := σ.conns.alloc ⟨listener, serviceName, Option.none, .unresolved, false⟩ }
  | .ticket h id, σ =>
      { σ with
        conns := σ.conns.modify h fun conn => { conn with ticket := some id }
        tickets := id :: σ.tickets }
  | .pend p, σ => { σ with pending := σ.pending.set p.id p }
  | .giveUp h, σ => σ.resolveAll [h] .cancelled
  | .relayed h k, σ => (σ.closeConn h).closeTunnel k
  | .settle h id, σ =>
      let σ' := { σ with pending := σ.settled h id }
      (σ'.resolveAll [h] .cancelled).closeConn h
  | .closeConn h, σ => σ.closeConn h
  | .closeTunnel k, σ => σ.closeTunnel k
  | .newTunnel, σ => { σ with tunnels := σ.tunnels.alloc ⟨Option.none, false⟩ }
  | .pair h k, σ => σ.resolveAll [h] (.result k)
  | .refuse k e, σ =>
      { σ with tunnels := σ.tunnels.modify k fun _ => ⟨some e, true⟩ }

end PyFrp
