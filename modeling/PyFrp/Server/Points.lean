import Mathlib.Data.List.Sort
import PyFrp.Coop.Program
import PyFrp.Server.Store

/-!
# Tasks of the server and the points they are suspended at

Three kinds of task run on the event loop: one `_handle_control` per control
connection, one `_handle_public` per public connection and one
`_handle_tunnel` per tunnel connection. A point is a place in their source
where the task may be suspended, with the locals that are live there; the
points marked *runs on* are reached without a suspension and only cut the code
into pieces with one effect each.

The mutexes are `Server._lock` and the `write_lock` of every session.
-/

namespace PyFrp

open Python Coop Store

inductive TaskId
  | control (c : ClientId)
  | pub (h : Nat)
  | tunnel (k : Nat)
  deriving DecidableEq

inductive LockId
  | server
  | writer (c : ClientId)
  deriving DecidableEq

/-- The outcome of binding and listening in `start_server`. -/
inductive BindResult
  | bound (host : String) (port : Int)
  | osError (text : String)
  | crash (text : String)

/-- What resumes a suspended task, with the outcome the environment chose. -/
inductive Event
  /-- The lock is granted, the wait is over, or the task runs on. -/
  | go
  /-- A control connection sent its first message. -/
  | connect (now : Nat) (first : Fields)
  | read (message : Option Fields)
  | readError (e : ServerError)
  /-- `drain()` ends, with the text of its `ConnectionError` if it raises one. -/
  | drained (error : Option String)
  | bind (result : BindResult)
  /-- The transport of the own writer is closing already. -/
  | closing
  /-- A listener accepted a public connection. -/
  | accept (listener : Nat)
  /-- The fresh id `secrets.token_urlsafe(24)` returned. -/
  | ticket (id : String)
  | timeout
  /-- Both directions of the relay ended, or one of them failed. -/
  | relayEnd
  /-- A tunnel connection sent its first message. -/
  | connectTunnel (message : Fields)

/-! ## Locals -/

/-- The locals of `_register_client`. The items in front of `raw_services` up
to the number of registered records are done. -/
structure Request where
  message : Fields
  retry : Bool
  force : Bool
  items : List Value
  registered : List RegisteredService

/-- The locals of a call of `_register_pool_service`. -/
structure PoolCall where
  request : Request
  raw : Value
  item : PoolItem

/-- The locals of a call of `_bind_pool_service_locked`: the ports in use when
it started and those still to try. History: the ports the system refused. -/
structure Scan where
  used : List Int
  ports : List Int
  lastError : Option String
  refused : List Int

/-- The locals of `_register_pool_service` after a preemption. -/
structure Preemption where
  call : PoolCall
  victim : Victim
  outcome : Option RegisteredService
  lastError : Option String

/-! ## Points -/

inductive ControlPoint
  /- `_handle_control`: `async with self._lock`, the hello exchange. -/
  | join (first : Fields)
  | sendHello
  | helloSent
  | readRegister
  /-- Runs on. -/
  | dispatch (current : Fields)
  /-- Runs on: the head of the loop of `_register_client`. -/
  | item (q : Request)
  /- `_register_regular_service`: in `start_server` before and after it
  listens, at the lock, in `wait_closed` under the lock. -/
  | regularBind (q : Request) (raw : Value) (service : ServerServiceConfig)
  | regularBound (q : Request) (service : ServerServiceConfig) (listener : Nat)
  | regularInsert (q : Request) (r : RegisteredService)
  | regularTaken (q : Request) (r : RegisteredService)
  /- `_register_pool_service` and `_bind_pool_service_locked`: at the lock,
  then under the lock until the call of `announce`. -/
  | poolEnter (p : PoolCall)
  /-- Runs on: the head of the loop over the ports. -/
  | poolScan (p : PoolCall) (victim : Option Victim) (scan : Scan)
  | poolBind (p : PoolCall) (victim : Option Victim) (scan : Scan) (port : Int)
  | poolBound (p : PoolCall) (victim : Option Victim) (scan : Scan) (port : Int)
      (listener : Nat)
  | poolEvict (p : PoolCall) (victim : Victim)
  /-- Runs on: the pending tunnels of the victim fail. -/
  | announce (p : Preemption)
  | sendPreempted (p : Preemption)
  | preemptedSent (p : Preemption)
  | closeVictim (p : Preemption)
  /-- Runs on: the loop of the `except` clause of `_register_client`. -/
  | rollback (q : Request) (rest : List RegisteredService) (e : ServerError)
  | drop (q : Request) (r : RegisteredService) (rest : List RegisteredService)
      (e : ServerError)
  | dropped (q : Request) (r : RegisteredService) (rest : List RegisteredService)
      (e : ServerError)
  /-- Runs on: the exception leaves `_register_client`. -/
  | raised (q : Request) (e : ServerError)
  /- `_handle_control`: the replies, the read loop, the error clauses and the
  `finally` clause with `_remove_client`. -/
  | sendForceRequired (e : ServerError)
  | forceRequiredSent
  | readRetry
  | sendRegistered (q : Request) (services : List ServiceReply)
  | registeredSent (q : Request)
  | serve (q : Request)
  | sendPong (q : Request) (time : Value)
  | pongSent (q : Request)
  /-- Runs on. -/
  | failed (e : ServerError)
  | errorSent
  | leave
  | left (services : List RegisteredService)
  | closing
  | finished

inductive PublicPoint
  | accepted
  /-- At the lock, to look the service up. -/
  | lookup
  /-- At the lock, to insert the pending record. -/
  | insert (service : RegisteredService) (id : String)
  | sendOpen (service : RegisteredService) (id : String)
  | openSent (service : RegisteredService) (id : String)
  | waitTunnel (service : RegisteredService) (id : String)
  | relay (service : RegisteredService) (id : String) (tunnel : Nat)
  | relayed (service : RegisteredService) (id : String) (tunnel : Nat)
  /-- At the lock, in the `finally` clause. -/
  | cleanup (service : RegisteredService) (id : String) (tunnel : Option Nat)
  | closing (tunnel : Option Nat)
  | finished

inductive TunnelPoint
  /-- At the lock, to look the pending record up. -/
  | claim (message : Fields)
  /-- Runs on. -/
  | refused (e : ServerError)
  | finished

inductive Point
  | start
  | control (p : ControlPoint)
  | pub (p : PublicPoint)
  | tunnel (p : TunnelPoint)

/-! ## Mutexes at the points -/

/-- The mutex a control task is acquiring. -/
def ControlPoint.wants (c : ClientId) : ControlPoint → Option LockId
  | .join _ | .regularInsert _ _ | .poolEnter _ | .drop _ _ _ _ | .leave => some .server
  | .sendHello | .sendForceRequired _ | .sendRegistered _ _ | .sendPong _ _ =>
      some (.writer c)
  | .sendPreempted p => some (.writer p.victim.client)
  | _ => none

/-- The mutex a public task is acquiring. -/
def PublicPoint.wants : PublicPoint → Option LockId
  | .lookup | .insert _ _ | .cleanup _ _ _ => some .server
  | .sendOpen service _ => some (.writer service.client)
  | _ => none

def TunnelPoint.wants : TunnelPoint → Option LockId
  | .claim _ => some .server
  | _ => none

def Point.wants : TaskId → Point → Option LockId
  | .control c, .control p => p.wants c
  | _, .pub p => p.wants
  | _, .tunnel p => p.wants
  | _, _ => none

/-- The mutex a control task parked at a point has. -/
def ControlPoint.holds (c : ClientId) : ControlPoint → Option LockId
  | .regularTaken _ _ | .poolScan _ _ _ | .poolBind _ _ _ _ | .poolBound _ _ _ _ _
  | .poolEvict _ _ => some .server
  | .helloSent | .forceRequiredSent | .registeredSent _ | .pongSent _ => some (.writer c)
  | .preemptedSent p => some (.writer p.victim.client)
  | _ => none

def Point.holds : TaskId → Point → LockId → Prop
  | .control c, .control p, k => p.holds c = some k
  | _, .pub (.openSent service _), k => k = .writer service.client
  | _, _, _ => False

def Point.runsOn : Point → Bool
  | .control (.dispatch _) | .control (.item _) | .control (.poolScan _ _ _)
  | .control (.announce _) | .control (.rollback _ _ _) | .control (.raised _ _)
  | .control (.failed _) => true
  | .tunnel (.refused _) => true
  | _ => false

end PyFrp
