import PyFrp.Server.Departures

/-!
# The process around the server (`cli.py`, `update.py`)

The handlers of the server run together with the task that owns it:
`_run_server_until_update` serves until a new package version is detected,
cancels `serve_forever`, notifies the clients, closes the server and requests
the restart; without a new version it closes the server when it is itself
cancelled. A third task stands for the transport of the control listener.

`wait_closed()` is that of Python 3.12: it ends when every connection its
listener accepted is closed.
-/

namespace PyFrp

open Python Coop Store

namespace Store

/-- `close_writer` on control connections: those that are open are closed. -/
def closeWriter (sessions : Dict ClientId ClientSession) (c : ClientId) :
    Dict ClientId ClientSession :=
  match sessions.get? c with
  | some session => sessions.set c { session with closed := true }
  | none => sessions

def closeWriters (σ : Store) (cs : List ClientId) : Store :=
  { σ with sessions := cs.foldl closeWriter σ.sessions }

/-- The critical section of `Server.close` and the synchronous code after it. -/
def clear (σ : Store) : Store :=
  let σ' := { σ with services := .empty, pending := .empty, clients := .empty }
  (σ'.resolveAll (σ.pending.values.map PendingTunnel.conn)
    (.failed "server is closing")).closeListeners
      (σ.services.values.map RegisteredService.listener)

end Store

/-- The state of the process. `idle` counts the control connections that have
not sent their first message. -/
structure ServerProcess where
  server : Store
  listening : Bool
  idle : Nat
  /-- History: the clients a `server_restarting` message was written to. -/
  notices : List ClientId

/-- Has every connection that the control listener accepted been closed? -/
def ServerProcess.allGone (σ : ServerProcess) : Bool :=
  σ.idle = 0 && σ.server.sessions.values.all ClientSession.closed &&
    σ.server.tunnels.all TunnelConn.closed

/-- Is the control connection of `c` open? -/
def ServerProcess.connected (σ : ServerProcess) (c : ClientId) : Bool :=
  (σ.server.sessions.get? c).any fun session => !session.closed

inductive ProcessTask
  | handler (t : TaskId)
  /-- `_run_server_until_update`. -/
  | main
  /-- The transport of the control listener. -/
  | listener
  deriving DecidableEq

inductive ProcessEvent
  | handler (e : Event)
  /-- The control listener accepts a connection. -/
  | connection
  /-- A connection ends before its first message. -/
  | hangup
  /-- The peer of a control or a tunnel connection closes it. -/
  | lose (c : ClientId)
  | loseTunnel (k : Nat)
  /-- `run_until_version_change` sees a new version. -/
  | detect
  /-- The task that serves is cancelled. -/
  | cancel
  /-- `close()` is called on a server that was started and does not serve forever. -/
  | close
  | go
  /-- Every notice was written or timed out; those to `sent` were written. -/
  | notified (sent : List ClientId)

/-- Where `_run_server_until_update` is suspended once it no longer serves. Is
it on its way to a restart? -/
inductive MainPoint
  /-- The cancellation of `serve_forever` is requested. -/
  | cancelling (restart : Bool)
  /-- In `wait_closed()` of `self._server.serve_forever()`, then of the exit of
  `async with self._server`. -/
  | stopping (restart : Bool)
  | leaving (restart : Bool)
  /- `notify_restarting`: at the lock, then until all notices are dealt with. -/
  | notify
  | notifying (clients : List ClientId)
  /- `close`: in `wait_closed()`, at the lock, before and after the coroutines
  of the final `gather` start. -/
  | closing (restart : Bool)
  | clearing (restart : Bool)
  | gather (restart : Bool) (services : List RegisteredService) (clients : List ClientId)
  | gathered (restart : Bool) (services : List RegisteredService)
  | closed
  /-- `request_restart` is called. -/
  | restarting

/-- A task that has left `server .start` is at a point of its own program; the
task that owns the server serves at `server .start`. -/
inductive ProcessPoint
  | server (p : Point)
  | main (p : MainPoint)

/-- The point of a handler. -/
def ProcessPoint.inServer : ProcessPoint → Point
  | .server p => p
  | .main _ => .start

inductive ProcessEffect
  | none
  | handle (φ : Effect)
  /-- The same, for the first message of a control connection. -/
  | identify (φ : Effect)
  | connection
  | hangup
  | lose (c : ClientId)
  | loseTunnel (k : Nat)
  /-- `close()` on the control listener. -/
  | stop
  | notify (clients : List ClientId)
  | clear
  | closeWriters (clients : List ClientId)

def ProcessEffect.apply : ProcessEffect → ServerProcess → ServerProcess
  | .none, σ => σ
  | .handle φ, σ => { σ with server := φ.apply σ.server }
  | .identify φ, σ => { σ with server := φ.apply σ.server, idle := σ.idle - 1 }
  | .connection, σ => { σ with idle := σ.idle + 1 }
  | .hangup, σ => { σ with idle := σ.idle - 1 }
  | .lose c, σ => { σ with server := σ.server.closeWriters [c] }
  | .loseTunnel k, σ => { σ with server := σ.server.closeTunnel k }
  | .stop, σ => { σ with listening := false }
  | .notify cs, σ => { σ with notices := σ.notices ++ cs }
  | .clear, σ => { σ with server := σ.server.clear }
  | .closeWriters cs, σ => { σ with server := σ.server.closeWriters cs }

/-! ## The tasks -/

/-- Does the event bring the first message of a control connection? -/
def Event.isFirst : Event → Bool
  | .connect _ _ | .connectTunnel _ => true
  | _ => false

/-- A handler does what it does in the server; its first message takes a
connection that was idle. -/
def handlerSegment (srv : Server) (σ : ServerProcess) (t : TaskId) (p : Point) (e : Event) :
    Option (Segment LockId ProcessEffect ProcessPoint) :=
  if e.isFirst && σ.idle = 0 then none
  else (serverSegment srv σ.server t p e).map fun seg =>
    ⟨if e.isFirst then .identify seg.effect else .handle seg.effect, .server seg.next,
      seg.releases⟩

/-- `_run_server_until_update` with `serve_forever`, `notify_restarting` and `close`. -/
def mainSegment (σ : ServerProcess) :
    ProcessPoint → ProcessEvent → Option (Segment LockId ProcessEffect ProcessPoint)
  | .server .start, .detect => some ⟨.none, .main (.cancelling true), none⟩
  | .server .start, .cancel => some ⟨.none, .main (.cancelling false), none⟩
  | .server .start, .close => some ⟨.stop, .main (.closing false), none⟩
  -- `serve_forever`
  | .main (.cancelling restart), .go => some ⟨.stop, .main (.stopping restart), none⟩
  | .main (.stopping restart), .go =>
      if σ.allGone then some ⟨.none, .main (.leaving restart), none⟩ else none
  | .main (.leaving restart), .go =>
      if σ.allGone then
        some ⟨.none, .main (if restart then .notify else .closing false), none⟩
      else none
  -- `notify_restarting`
  | .main .notify, .go =>
      some ⟨.none, .main (.notifying σ.server.clients.values), some .server⟩
  | .main (.notifying clients), .notified sent =>
      if sent.all fun c => c ∈ clients && σ.connected c then
        some ⟨.notify sent, .main (.closing true), none⟩
      else none
  -- `close`
  | .main (.closing restart), .go =>
      if σ.allGone then some ⟨.none, .main (.clearing restart), none⟩ else none
  | .main (.clearing restart), .go =>
      some ⟨.clear, .main (.gather restart σ.server.services.values σ.server.clients.values),
        some .server⟩
  | .main (.gather restart services clients), .go =>
      some ⟨.closeWriters clients, .main (.gathered restart services), none⟩
  | .main (.gathered restart services), .go =>
      if σ.server.allClosed (services.map RegisteredService.listener) then
        some ⟨.none, .main (if restart then .restarting else .closed), none⟩
      else none
  | _, _ => none

/-- What happens to the connections of the control listener. -/
def listenerSegment (σ : ServerProcess) (p : ProcessPoint) :
    ProcessEvent → Option (Segment LockId ProcessEffect ProcessPoint)
  | .connection => if σ.listening then some ⟨.connection, p, none⟩ else none
  | .hangup => if σ.idle = 0 then none else some ⟨.hangup, p, none⟩
  | .lose c => some ⟨.lose c, p, none⟩
  | .loseTunnel k => some ⟨.loseTunnel k, p, none⟩
  | _ => none

def processSegment (srv : Server) (σ : ServerProcess) :
    ProcessTask → ProcessPoint → ProcessEvent →
      Option (Segment LockId ProcessEffect ProcessPoint)
  | .handler t, p, .handler e => handlerSegment srv σ t p.inServer e
  | .handler _, _, _ => none
  | .main, p, e => mainSegment σ p e
  | .listener, p, e => listenerSegment σ p e

def ProcessPoint.wants : ProcessTask → ProcessPoint → Option LockId
  | .handler t, p => p.inServer.wants t
  | .main, .main .notify | .main, .main (.clearing _) => some .server
  | _, _ => none

def ProcessPoint.holds : ProcessTask → ProcessPoint → LockId → Prop
  | .handler t, p, k => p.inServer.holds t k
  | _, _, _ => False

/-- The process as a program of cooperative tasks. -/
def processProgram (srv : Server) :
    Program ProcessTask LockId ServerProcess ProcessEffect ProcessPoint ProcessEvent where
  apply := ProcessEffect.apply
  wants := ProcessPoint.wants
  runsOn p := p.inServer.runsOn
  segment := processSegment srv

abbrev ProcessState := LoopState ProcessTask LockId ServerProcess ProcessPoint

abbrev ProcessAction := ProcessTask × ProcessEvent

/-- The process once its control listener is open. -/
def serverProcess (srv : Server) : System ProcessState ProcessAction :=
  (processProgram srv).system ⟨.initial, true, 0, []⟩ (.server .start)

/-! ## What a step does -/

variable {srv : Server} {σ : ServerProcess}

/-- The steps of the process, by task. -/
inductive ProcessStep (srv : Server) (σ : ServerProcess) : ProcessTask → ProcessPoint →
    ProcessEvent → Segment LockId ProcessEffect ProcessPoint → Prop
  | handler {t p e seg} (hidle : e.isFirst = true → σ.idle ≠ 0)
      (h : serverSegment srv σ.server t p.inServer e = some seg) :
      ProcessStep srv σ (.handler t) p (.handler e)
        ⟨if e.isFirst then .identify seg.effect else .handle seg.effect, .server seg.next,
          seg.releases⟩
  | main {p e seg} (h : mainSegment σ p e = some seg) : ProcessStep srv σ .main p e seg
  | listener {p e seg} (h : listenerSegment σ p e = some seg) :
      ProcessStep srv σ .listener p e seg

theorem processSegment_cases {t : ProcessTask} {p : ProcessPoint} {e : ProcessEvent}
    {seg : Segment LockId ProcessEffect ProcessPoint}
    (h : processSegment srv σ t p e = some seg) : ProcessStep srv σ t p e seg := by
  revert h
  fun_cases processSegment srv σ t p e
  case case1 =>
    intro h
    unfold handlerSegment at h
    split at h
    · cases h
    · rename_i hcond
      obtain ⟨seg', hseg, rfl⟩ := Option.map_eq_some_iff.mp h
      refine .handler (fun hfirst hidle => hcond ?_) hseg
      simp [hfirst, hidle]
  case case3 => exact .main
  case case4 => exact .listener
  all_goals rintro ⟨⟩

/-- A handler does to the server what its effect does. -/
@[simp] theorem handle_server (b : Bool) (φ : Effect) (σ : ServerProcess) :
    ((if b then ProcessEffect.identify φ else .handle φ).apply σ).server =
      φ.apply σ.server := by
  cases b <;> rfl

/-- An effect on the connections of the control listener alone. -/
def ProcessEffect.aside : ProcessEffect → Bool
  | .handle _ | .identify _ | .clear => false
  | _ => true

/-- The maps, the listeners and the public connections are the same. -/
structure RecordsKept (σ σ' : Store) : Prop where
  services : σ'.services = σ.services
  pending : σ'.pending = σ.pending
  clients : σ'.clients = σ.clients
  listeners : σ'.listeners = σ.listeners
  conns : σ'.conns = σ.conns
  tickets : σ'.tickets = σ.tickets

theorem ProcessEffect.kept_of_aside {φ : ProcessEffect} (h : φ.aside = true) :
    RecordsKept σ.server (φ.apply σ).server := by
  cases φ <;> first | exact ⟨rfl, rfl, rfl, rfl, rfl, rfl⟩ | cases h

theorem listenerSegment_aside {p : ProcessPoint} {e : ProcessEvent}
    {seg : Segment LockId ProcessEffect ProcessPoint}
    (h : listenerSegment σ p e = some seg) :
    seg.effect.aside = true ∧ seg.next = p ∧ seg.releases = none := by
  revert h
  fun_cases listenerSegment σ p e
  all_goals rintro ⟨⟩
  all_goals exact ⟨rfl, rfl, rfl⟩

/-- The task that owns the server clears the maps in `close`, and changes nothing of
them elsewhere. -/
theorem mainSegment_effect {p : ProcessPoint} {e : ProcessEvent}
    {seg : Segment LockId ProcessEffect ProcessPoint} (h : mainSegment σ p e = some seg) :
    seg.effect.aside = true ∨ ∃ restart, p = .main (.clearing restart) ∧ seg.effect = .clear := by
  revert h
  fun_cases mainSegment σ p e
  all_goals rintro ⟨⟩
  all_goals first
    | exact .inl rfl
    | exact .inr ⟨_, rfl, rfl⟩

theorem mainSegment_releases {p : ProcessPoint} {e : ProcessEvent} {k : LockId}
    {seg : Segment LockId ProcessEffect ProcessPoint} (h : mainSegment σ p e = some seg)
    (hr : seg.releases = some k) : p.wants .main = some k := by
  revert h hr
  fun_cases mainSegment σ p e
  all_goals rintro ⟨⟩ ⟨⟩
  all_goals rfl

/-- A task that runs on wants no mutex. -/
theorem Point.wants_of_runsOn {t : TaskId} {p : Point} (h : p.runsOn = true) :
    p.wants t = none := by
  revert h
  fun_cases Point.runsOn p
  case case9 =>
    intro h
    cases h
  all_goals
    intro _
    cases t <;> rfl

theorem process_wants_of_runsOn (t : ProcessTask) (p : ProcessPoint)
    (h : (processProgram srv).runsOn p = true) : (processProgram srv).wants t p = none := by
  cases t with
  | handler t => exact Point.wants_of_runsOn h
  | main =>
      cases p with
      | server p => rfl
      | main p => cases h
  | listener => rfl

/-- Every task releases and keeps only what it has or enters with. -/
theorem processDiscipline (srv : Server) :
    (processProgram srv).Discipline (.server .start) ProcessPoint.holds where
  start_free t k := by
    cases t with
    | handler t => exact (discipline srv).start_free t k
    | _ => exact id
  releases {store t p e seg k} hseg hr := by
    cases processSegment_cases hseg with
    | handler hidle h => exact serverSegment_releases h hr
    | main h => exact .inr (mainSegment_releases h hr)
    | listener h =>
        rw [(listenerSegment_aside h).2.2] at hr
        cases hr
  keeps {store t p e seg k} hseg hk := by
    cases processSegment_cases hseg with
    | handler hidle h => exact serverSegment_keeps h hk
    | _ => exact absurd hk id

theorem mainSegment_gives {p : ProcessPoint} {e : ProcessEvent} {k : LockId}
    {seg : Segment LockId ProcessEffect ProcessPoint} (h : mainSegment σ p e = some seg)
    (hw : p.wants .main = some k) : seg.releases = some k := by
  revert h hw
  fun_cases mainSegment σ p e
  all_goals rintro ⟨⟩ ⟨⟩
  all_goals rfl

/-- Every task gives back what it has, and asks for nothing it has. -/
theorem processComplete (srv : Server) : (processProgram srv).Complete ProcessPoint.holds where
  gives {store t p e seg k} hseg hk := by
    cases processSegment_cases hseg with
    | handler hidle h => exact serverSegment_gives h hk
    | main h => exact .inl (mainSegment_gives h (hk.resolve_left id))
    | listener h => exact absurd (hk.resolve_left id) nofun
  apart {t p k} hk := by
    cases t with
    | handler t => exact Point.wants_of_holds hk
    | _ => exact hk.elim

end PyFrp
