import PyFrp.Client.Client
import PyFrp.Client.Trust
import PyFrp.Coop.Heap

/-!
# A run of the client

`Client.run` with the tunnel tasks it starts. All of them open connections to the
server with `_open_server_connection`, and share the fingerprint that is trusted.
Each event is what one `await` returned in one task, and a step runs that task up
to its next `await`.
-/

namespace PyFrp

open Python Coop

structure ClientSettings where
  client : Client
  serverFingerprint : Option String := none
  forceConnect : Bool := false
  -- whether `confirm_fingerprint` and `confirm_force` are given
  confirmsFingerprint : Bool := false
  confirmsForce : Bool := false
  sha256 : Bytes → Digest

namespace ClientRun

/-- What the client writes on a connection to the server. -/
inductive Written
  | message (fields : Fields)
  /-- Frames of a relay. -/
  | frames (data : Bytes)

/-- A connection to the server. -/
structure Connection where
  peer : PeerInfo
  closed : Bool
  written : List Written
  -- history: its verification failed
  refused : Bool

/-- Where `_open_server_connection` waits. -/
inductive Opening
  | connecting
  /-- For the user, on `input`. -/
  | confirming (conn : Nat) (fingerprint : String)
  /-- On `close_writer`, before `e` is raised. -/
  | refusing (conn : Nat) (e : ClientError)

/-- What a step of `_open_server_connection` leads to. -/
inductive Opened
  | opening (o : Opening)
  | opened (conn : Nat)
  | raised (e : ClientError)

/-- What ends `_run_once`. -/
inductive Raised
  | cancelled
  | error (e : ClientError)

/-- Where `run` and `_run_once` wait. -/
inductive ControlPoint
  | opening (o : Opening)
  -- the writes are drained, the reads are waited for
  | hello (conn : Nat)
  | helloReply (conn : Nat)
  | register (conn : Nat) (again : Bool)
  | registerReply (conn : Nat) (again : Bool)
  | confirmForce (conn : Nat)
  | serving (conn : Nat)
  -- the `finally` clause: the heartbeat ends, and the connection is closed
  | stopping (conn : Nat) (r : Raised)
  | closing (r : Raised)
  -- `_cancel_tunnel_tasks`
  | cancelling (r : Raised)
  | sleeping
  | ended

/-- The connection whose draining or reading can fail. -/
def ControlPoint.conversation : ControlPoint → Option Nat
  | .hello conn => some conn
  | .helloReply conn => some conn
  | .register conn _ => some conn
  | .registerReply conn _ => some conn
  | .serving conn => some conn
  | _ => none

/-- What `_open_tunnel` reads off the `open` message. -/
structure TunnelRequest where
  tunnelId : String
  serviceName : String
  token : Value

/-- Where `_open_tunnel` waits. `localError` is why there is no local connection. -/
inductive TunnelPoint
  | start (message : Fields)
  | connectLocal (r : TunnelRequest)
  | opening (r : TunnelRequest) (localError : Option String) (o : Opening)
  | sending (conn : Nat) (localError : Option String)
  | relaying (conn : Nat)
  /-- The `finally` clause. -/
  | closing (conn : Option Nat)
  | ended

def TunnelPoint.isOver : TunnelPoint → Bool
  | .ended => true
  | _ => false

structure TunnelTask where
  point : TunnelPoint
  cancelRequested : Bool := false

/-- The heartbeat task of a connection. -/
structure Heartbeat where
  conn : Nat
  failed : Bool := false

end ClientRun

structure ClientRun where
  trusted : Option String
  connections : Heap ClientRun.Connection
  proxies : Dict String ProxyConfig
  control : ClientRun.ControlPoint
  heartbeat : Option ClientRun.Heartbeat
  tunnels : Heap ClientRun.TunnelTask
  -- history: the connections whose certificate the user affirmed
  affirmed : List Nat

namespace ClientRun

inductive OpenEvent
  /-- The connection is there. `answer` is what the callback returns, if it is asked. -/
  | connected (peer : PeerInfo) (answer : Answer)
  | failed (text : String)
  | answered (answer : Answer)
  | closed

inductive ControlEvent
  | openEvent (e : OpenEvent)
  | drained
  /-- `answer` is what `confirm_force` returns, if it is asked. -/
  | received (message : Option Fields) (answer : Answer)
  | failed (text : String)
  | answered (answer : Answer)
  | heartbeatEnded
  | stopped
  | closed
  | gathered
  | slept
  | cancel

inductive TunnelEvent
  | start
  | connected
  | localFailed (text : String)
  | openEvent (e : OpenEvent) (time : PyFloat)
  | drained
  | frames (data : Bytes)
  | relayed
  | failed
  | closed
  | cancel

inductive Event
  | control (e : ControlEvent)
  | beat (time : PyFloat)
  | beatFailed
  | tunnel (i : Nat) (e : TunnelEvent)

/-! ## Connections -/

def write (s : ClientRun) (conn : Nat) (w : Written) : ClientRun :=
  { s with connections :=
      s.connections.modify conn fun k => { k with written := k.written ++ [w] } }

def close (s : ClientRun) (conn : Nat) : ClientRun :=
  { s with connections := s.connections.modify conn fun k => { k with closed := true } }

/-- The verification failed: the `except` clause of `_open_server_connection` closes the writer. -/
def refuse (s : ClientRun) (conn : Nat) : ClientRun :=
  { s with connections :=
      s.connections.modify conn fun k => { k with closed := true, refused := true } }

/-- What `_verify_server_fingerprint` makes of the peer. -/
inductive Verdict
  | accepted
  | refused (e : ClientError)
  | asks (fingerprint : String)

/-- What a mismatch raises. -/
def fingerprintChanged : SecurityError :=
  ⟨"server TLS fingerprint changed or does not match the configured value"⟩

def verifyServerFingerprint (sha256 : Bytes → Digest) (trusted : Option String) (peer : PeerInfo) :
    Verdict :=
  match peerFingerprint sha256 peer, trusted with
  | .error e, _ => .refused (.security e)
  | .ok fingerprint, some pin =>
      if fingerprintsEqual fingerprint pin then .accepted
      else .refused (.security fingerprintChanged)
  | .ok fingerprint, none => .asks fingerprint

/-- The user has answered. -/
def conclude (s : ClientRun) (conn : Nat) (fingerprint : String) (answer : Answer) :
    ClientRun × Opened :=
  match confirmFingerprint fingerprint answer with
  | .ok pin => ({ s with trusted := some pin, affirmed := conn :: s.affirmed }, .opened conn)
  | .error e => (s.refuse conn, .opening (.refusing conn e))

/-- A step of `_open_server_connection`. -/
def openServerConnection (settings : ClientSettings) (s : ClientRun) :
    Opening → OpenEvent → Option (ClientRun × Opened)
  | .connecting, .connected peer answer =>
      let conn := s.connections.size
      let t := { s with connections := s.connections.alloc ⟨peer, false, [], false⟩ }
      match verifyServerFingerprint settings.sha256 s.trusted peer with
      | .accepted => some (t, .opened conn)
      | .refused e => some (t.refuse conn, .opening (.refusing conn e))
      | .asks fingerprint =>
          if settings.confirmsFingerprint then some (t.conclude conn fingerprint answer)
          else some (t, .opening (.confirming conn fingerprint))
  | .connecting, .failed text => some (s, .raised (.other text))
  | .confirming conn fingerprint, .answered answer => some (s.conclude conn fingerprint answer)
  | .refusing _ e, .closed => some (s, .raised e)
  | _, _ => none

/-! ## The control connection -/

def helloMessage : Fields :=
  [("type", .str "hello"), ("version", .int 2), ("client", .str "py-frp")]

/-- `_message_error`. -/
def messageError (settings : ClientSettings) (message : Fields) (default : String) : String :=
  let e := dictGet message "error"
  if e.truthy then e.toStr settings.client.repr else default

/-- `message.get("type") == text`. -/
def hasType (message : Fields) (text : String) : Bool := (dictGet message "type").isText text

/-- What `_raise_error_response` raises. -/
def errorResponse (settings : ClientSettings) (message : Fields) : Option ClientError :=
  if !hasType message "error" then none
  else
    let text := messageError settings message "server error"
    some (if (dictGet message "fatal").isTrue then .fatal text else .other text)

/-- The handlers of `run`: the tunnel tasks are cancelled. -/
def afterRunOnce (s : ClientRun) (r : Raised) : ClientRun :=
  { s with
    tunnels := ⟨s.tunnels.cells.map fun t => { t with cancelRequested := true }⟩
    control := .cancelling r }

/-- The `finally` clause of `_run_once`. -/
def leaveRunOnce (s : ClientRun) (conn : Nat) (r : Raised) : ClientRun :=
  match s.heartbeat with
  | some _ => { s with control := .stopping conn r }
  | none => { s.close conn with control := .closing r }

def fail (s : ClientRun) (conn : Nat) (text : String) : ClientRun :=
  s.leaveRunOnce conn (.error (.other text))

def sendRegister (settings : ClientSettings) (s : ClientRun) (conn : Nat) (force again : Bool) :
    ClientRun :=
  { s.write conn (.message (settings.client.registerMessage force)) with
    control := .register conn again }

def helloReply (settings : ClientSettings) (s : ClientRun) (conn : Nat) : Option Fields → ClientRun
  | none => s.fail conn "server closed during hello"
  | some message =>
      match errorResponse settings message with
      | some e => s.leaveRunOnce conn (.error e)
      | none => s.sendRegister settings conn settings.forceConnect false

def forceAnswered (settings : ClientSettings) (s : ClientRun) (conn : Nat) : Answer → ClientRun
  | .raised text => s.fail conn text
  | .closed => s.leaveRunOnce conn (.error (.fatal "force connection declined; client stopped"))
  | .typed answer =>
      if isYes answer then s.sendRegister settings conn true true
      else s.leaveRunOnce conn (.error (.fatal "force connection declined; client stopped"))
  | .callback confirmed =>
      if confirmed then s.sendRegister settings conn true true
      else s.leaveRunOnce conn (.error (.fatal "force connection declined; client stopped"))

/-- The reply to the last registration. -/
def registered (settings : ClientSettings) (s : ClientRun) (conn : Nat) (message : Fields) :
    ClientRun :=
  match errorResponse settings message with
  | some e => s.leaveRunOnce conn (.error e)
  | none =>
      if !hasType message "registered" || !(dictGet message "status").isText "ok" then
        s.fail conn ("unexpected register response: " ++ settings.client.repr (.dict message))
      else
        { s with
          proxies := settings.client.applyRegisteredAliases message
          heartbeat := some { conn := conn }
          control := .serving conn }

def registerReply (settings : ClientSettings) (s : ClientRun) (conn : Nat) (again : Bool)
    (message : Option Fields) (answer : Answer) : ClientRun :=
  match message with
  | none =>
      s.fail conn
        (if again then "server closed during forced register" else "server closed during register")
  | some message =>
      if !again && hasType message "force_required" then
        if settings.forceConnect then s.sendRegister settings conn true true
        else if settings.confirmsForce then s.forceAnswered settings conn answer
        else { s with control := .confirmForce conn }
      else s.registered settings conn message

/-- One turn of the loop of `_run_once`. -/
def controlMessage (settings : ClientSettings) (s : ClientRun) (conn : Nat) :
    Option Fields → ClientRun
  | none => s.fail conn "control connection closed"
  | some message =>
      if hasType message "open" then
        { s with tunnels := s.tunnels.alloc { point := .start message } }
      else
        match errorResponse settings message with
        | some e => s.leaveRunOnce conn (.error e)
        | none =>
            if hasType message "server_restarting" then s.leaveRunOnce conn (.error .restarting)
            else s

/-- The end of a handler of `run`, once the tunnel tasks are gone. -/
def afterCancel : Raised → ControlPoint
  | .cancelled => .ended
  | .error (.security _) => .ended
  | .error (.fatal _) => .ended
  | .error _ => .sleeping

/-- `CancelledError` is raised where the task waits. -/
def cancelControl (s : ClientRun) : Option ClientRun :=
  match s.control with
  | .opening _ => some (s.afterRunOnce .cancelled)
  | .hello conn => some (s.leaveRunOnce conn .cancelled)
  | .helloReply conn => some (s.leaveRunOnce conn .cancelled)
  | .register conn _ => some (s.leaveRunOnce conn .cancelled)
  | .registerReply conn _ => some (s.leaveRunOnce conn .cancelled)
  | .confirmForce conn => some (s.leaveRunOnce conn .cancelled)
  | .serving conn => some (s.leaveRunOnce conn .cancelled)
  -- the rest of the `finally` clause is skipped
  | .stopping _ _ => some (s.afterRunOnce .cancelled)
  | .closing _ => some (s.afterRunOnce .cancelled)
  | .cancelling _ => some { s with control := .ended }
  | .sleeping => some { s with control := .ended }
  | .ended => none

def controlStep (settings : ClientSettings) (s : ClientRun) (e : ControlEvent) :
    Option ClientRun :=
  match s.control, e with
  | _, .cancel => s.cancelControl
  | .opening o, .openEvent e =>
      (openServerConnection settings s o e).map fun r =>
        match r.2 with
        | .opening o => { r.1 with control := .opening o }
        | .opened conn => { r.1.write conn (.message helloMessage) with control := .hello conn }
        | .raised e => r.1.afterRunOnce (.error e)
  | .hello conn, .drained => some { s with control := .helloReply conn }
  | .helloReply conn, .received message _ => some (s.helloReply settings conn message)
  | .register conn again, .drained => some { s with control := .registerReply conn again }
  | .registerReply conn again, .received message answer =>
      some (s.registerReply settings conn again message answer)
  | .confirmForce conn, .answered answer => some (s.forceAnswered settings conn answer)
  | .serving conn, .received message _ => some (s.controlMessage settings conn message)
  | .serving conn, .heartbeatEnded =>
      if s.heartbeat.any (·.failed) then some (s.fail conn "control heartbeat failed") else none
  | .stopping conn r, .stopped =>
      some { s.close conn with heartbeat := none, control := .closing r }
  | .closing r, .closed => some (s.afterRunOnce r)
  | .cancelling r, .gathered =>
      if s.tunnels.all fun t => t.point.isOver then
        some { s with control := afterCancel r }
      else none
  | .sleeping, .slept => some { s with control := .opening .connecting }
  | p, .failed text => p.conversation.map fun conn => s.fail conn text
  | _, _ => none

/-! ## The heartbeat -/

def pingMessage (time : PyFloat) : Fields := [("type", .str "ping"), ("time", .float time)]

def beat (s : ClientRun) (time : PyFloat) : Option ClientRun :=
  match s.heartbeat with
  | some ⟨conn, false⟩ => some (s.write conn (.message (pingMessage time)))
  | _ => none

def beatFailed (s : ClientRun) : Option ClientRun :=
  s.heartbeat.map fun h => { s with heartbeat := some { h with failed := true } }

/-! ## Tunnels -/

def tunnelMessage (r : TunnelRequest) (localError : Option String) (time : PyFloat) : Fields :=
  [("type", .str "tunnel"), ("id", .str r.tunnelId), ("service", .str r.serviceName),
    ("token", r.token), ("error", (localError.map Value.str).getD .none), ("time", .float time)]

def setTunnel (s : ClientRun) (i : Nat) (point : TunnelPoint) : ClientRun :=
  { s with tunnels := s.tunnels.modify i fun t => { t with point := point } }

/-- The head of `_open_tunnel`. -/
def startTunnel (settings : ClientSettings) (s : ClientRun) (message : Fields) : TunnelPoint :=
  match settings.client.openTunnel s.proxies message with
  | none => .ended
  | some proxy =>
      .connectLocal
        { tunnelId := (dictGet message "id").strOrEmpty settings.client.repr
          serviceName := (dictGet message "service").strOrEmpty settings.client.repr
          token := settings.client.token proxy }

/-- `CancelledError` is raised where the tunnel waits. -/
def cancelTunnel : TunnelPoint → TunnelPoint
  | .connectLocal _ => .closing none
  | .opening _ _ _ => .closing none
  | .sending conn _ => .closing (some conn)
  | .relaying conn => .closing (some conn)
  | _ => .ended

def tunnelStep (settings : ClientSettings) (s : ClientRun) (i : Nat) (t : TunnelTask)
    (e : TunnelEvent) : Option ClientRun :=
  match t.point, e with
  | p, .cancel => if t.cancelRequested then some (s.setTunnel i (cancelTunnel p)) else none
  | .start message, .start => some (s.setTunnel i (s.startTunnel settings message))
  | .connectLocal r, .connected => some (s.setTunnel i (.opening r none .connecting))
  | .connectLocal r, .localFailed text =>
      some (s.setTunnel i (.opening r (some text) .connecting))
  | .connectLocal _, .failed => some (s.setTunnel i (.closing none))
  | .opening r localError o, .openEvent e time =>
      (openServerConnection settings s o e).map fun u =>
        match u.2 with
        | .opening o => u.1.setTunnel i (.opening r localError o)
        | .opened conn =>
            (u.1.write conn (.message (tunnelMessage r localError time))).setTunnel i
              (.sending conn localError)
        | .raised _ => u.1.setTunnel i (.closing none)
  | .sending conn localError, .drained =>
      some (s.setTunnel i (if localError.isSome then .closing (some conn) else .relaying conn))
  | .sending conn _, .failed => some (s.setTunnel i (.closing (some conn)))
  | .relaying conn, .frames data => some (s.write conn (.frames data))
  | .relaying conn, .relayed => some (s.setTunnel i (.closing (some conn)))
  | .relaying conn, .failed => some (s.setTunnel i (.closing (some conn)))
  | .closing (some conn), .closed => some ((s.close conn).setTunnel i .ended)
  | .closing none, .closed => some (s.setTunnel i .ended)
  | _, _ => none

/-! ## Runs -/

/-- A new client, if its fingerprint can be read. -/
def initial (settings : ClientSettings) (environ : Environment) : ClientRun where
  trusted := ((initialFingerprint settings.serverFingerprint environ).toOption).join
  connections := .empty
  proxies := settings.client.baseProxies
  control :=
    match initialFingerprint settings.serverFingerprint environ with
    | .ok _ => .opening .connecting
    | .error _ => .ended
  heartbeat := none
  tunnels := .empty
  affirmed := []

def step (settings : ClientSettings) (s : ClientRun) : Event → Option ClientRun
  | .control e => s.controlStep settings e
  | .beat time => s.beat time
  | .beatFailed => s.beatFailed
  | .tunnel i e => (s.tunnels.get? i).bind fun t => s.tunnelStep settings i t e

end ClientRun

/-- `Client.run` of a new client. -/
def clientRun (settings : ClientSettings) (environ : Environment) :
    System ClientRun ClientRun.Event :=
  ⟨.initial settings environ, ClientRun.step settings⟩

end PyFrp
