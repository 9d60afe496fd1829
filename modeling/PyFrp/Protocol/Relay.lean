import Mathlib.Logic.Function.Basic
import PyFrp.Coop.System
import PyFrp.Protocol.Frames

/-!
# The relay of one endpoint (`protocol.py`)

`pipe_tunnel_streams` runs one task for each direction and waits for both. The
tasks share nothing: `_copy_to_tunnel` has the plain reader and the tunnel
writer, `_copy_from_tunnel` the tunnel reader and the plain writer. Each is cut
at its suspension points; a task whose cancellation was requested is resumed by
the `CancelledError` alone.

Fields marked *history* are never read by the program.
-/

namespace PyFrp

open Python Coop

/-- What a copying task raises. -/
inductive RelayError
  | transport (e : TransportError)
  /-- `ProtocolError`. -/
  | protocol (text : String)
  deriving DecidableEq

/-- How a task ended. -/
inductive TaskEnd
  | returned
  | raised (e : RelayError)
  | cancelled
  deriving DecidableEq

/-! ## `_copy_to_tunnel` -/

inductive ToPoint
  /-- In `reader.read(BUFFER_SIZE)`. -/
  | read
  /-- In `writer.drain()`, after a data frame or after the EOF frame. -/
  | drain (last : Bool)
  | done (r : TaskEnd)
  deriving DecidableEq

/-- The task of `_copy_to_tunnel` with its reader and its writer. History: the
frames it sent. -/
structure ToTunnel where
  reader : StreamReader
  writer : StreamWriter
  point : ToPoint
  cancelling : Bool
  sent : List Frame

inductive ToEvent
  | feed (data : Bytes)
  | feedEof
  | lost (e : TransportError)
  /-- `read` returns `count` bytes, or none at the end of file. -/
  | read (count : Nat)
  | drained (error : Option TransportError)
  /-- The requested cancellation is thrown. -/
  | throw

namespace ToTunnel

def start (reader : StreamReader) (writer : StreamWriter) : ToTunnel :=
  ⟨reader, writer, .read, false, []⟩

def ended (t : ToTunnel) : Option TaskEnd :=
  match t.point with
  | .done r => some r
  | _ => none

def send (t : ToTunnel) (f : Frame) (next : ToPoint) : ToTunnel :=
  { t with writer := t.writer.push (.write f.encode), point := next, sent := t.sent ++ [f] }

/-- The body of the loop of `_copy_to_tunnel` after `read`. -/
def copyToTunnel (t : ToTunnel) (chunk : Bytes) : ToTunnel :=
  if chunk = [] then t.send .eof (.drain true) else t.send (.data chunk) (.drain false)

/-- What `read` raises, without the limit of `readline`. -/
def raise (t : ToTunnel) : ReadError → ToTunnel
  | .transport e => { t with point := .done (.raised (.transport e)) }
  | _ => t

def step (t : ToTunnel) : ToEvent → Option ToTunnel
  | .feed data => (t.reader.feedData data).map fun r => { t with reader := r }
  | .feedEof => some { t with reader := t.reader.feedEof }
  | .lost e => some { t with reader := t.reader.setException e }
  | .read count =>
      if t.point = .read ∧ t.cancelling = false then
        match t.reader.read bufferSize count with
        | some (.ok chunk, r) => some (copyToTunnel { t with reader := r } chunk)
        | some (.error e, r) => some (raise { t with reader := r } e)
        | none => none
      else none
  | .drained error =>
      match t.point, error with
      | .drain last, none =>
          if t.cancelling then none
          else some { t with point := if last then .done .returned else .read }
      | .drain _, some e =>
          if t.cancelling then none else some { t with point := .done (.raised (.transport e)) }
      | _, _ => none
  | .throw =>
      if t.cancelling = true ∧ t.ended = none then
        some { t with point := .done .cancelled }
      else none

end ToTunnel

/-! ## `_copy_from_tunnel` -/

inductive FromPoint
  /-- In `reader.readexactly(5)`. -/
  | header
  /-- In `reader.readexactly(length)`. -/
  | payload (length : Nat)
  /-- In `writer.drain()`. -/
  | drain
  | done (r : TaskEnd)
  deriving DecidableEq

/-- The task of `_copy_from_tunnel` with its reader and its writer. History: the
frames it received. -/
structure FromTunnel where
  reader : StreamReader
  writer : StreamWriter
  point : FromPoint
  cancelling : Bool
  received : List Frame

inductive FromEvent
  | feed (data : Bytes)
  | feedEof
  | lost (e : TransportError)
  /-- `readexactly` is over. `eofWritten` says whether a `write_eof()` that
  follows succeeds. -/
  | read (eofWritten : Bool)
  | drained (error : Option TransportError)
  | throw

namespace FromTunnel

def start (reader : StreamReader) (writer : StreamWriter) : FromTunnel :=
  ⟨reader, writer, .header, false, []⟩

def ended (t : FromTunnel) : Option TaskEnd :=
  match t.point with
  | .done r => some r
  | _ => none

def fail (t : FromTunnel) (e : RelayError) : FromTunnel := { t with point := .done (.raised e) }

/-- Raise a `ProtocolError`. -/
def reject (t : FromTunnel) (text : String) : FromTunnel := t.fail (.protocol text)

/-- `ConnectionError` of an incomplete read, or what the transport reported. -/
def raise (t : FromTunnel) (text : String) : ReadError → FromTunnel
  | .transport e => t.fail (.transport e)
  | _ => t.fail (.transport (.connection text))

/-- The loop of `_copy_from_tunnel` after the header was read. -/
def frameHeader (t : FromTunnel) (eofWritten : Bool) (header : Bytes) : FromTunnel :=
  let frameType := header.take 1
  let length := unpack (header.drop 1)
  if frameType = [tunnelEofFrame] then
    if length ≠ 0 then t.reject "invalid encrypted tunnel EOF frame"
    else
      { t with
        writer := t.writer.push (if eofWritten then .writeEof else .close)
        point := .done .returned
        received := t.received ++ [.eof] }
  else if frameType ≠ [tunnelDataFrame] then t.reject "unknown encrypted tunnel frame type"
  else if length > bufferSize then t.reject "encrypted tunnel frame exceeds maximum size"
  else { t with point := .payload length }

/-- The loop of `_copy_from_tunnel` after the payload was read. -/
def framePayload (t : FromTunnel) (payload : Bytes) : FromTunnel :=
  { t with
    writer := t.writer.push (.write payload)
    point := .drain
    received := t.received ++ [.data payload] }

/-- `_copy_from_tunnel` from a `readexactly` on. -/
def copyFromTunnel (t : FromTunnel) (eofWritten : Bool) : Option FromTunnel :=
  match t.point with
  | .header =>
      (t.reader.readexactly 5).map fun
        | (.ok header, r) => frameHeader { t with reader := r } eofWritten header
        | (.error e, r) =>
            raise { t with reader := r } "encrypted tunnel closed before an EOF frame" e
  | .payload length =>
      (t.reader.readexactly length).map fun
        | (.ok payload, r) => framePayload { t with reader := r } payload
        | (.error e, r) => raise { t with reader := r } "encrypted tunnel data frame was truncated" e
  | _ => none

def step (t : FromTunnel) : FromEvent → Option FromTunnel
  | .feed data => (t.reader.feedData data).map fun r => { t with reader := r }
  | .feedEof => some { t with reader := t.reader.feedEof }
  | .lost e => some { t with reader := t.reader.setException e }
  | .read eofWritten => if t.cancelling then none else t.copyFromTunnel eofWritten
  | .drained error =>
      if t.point = .drain ∧ t.cancelling = false then
        match error with
        | none => some { t with point := .header }
        | some e => some (t.fail (.transport e))
      else none
  | .throw =>
      if t.cancelling = true ∧ t.ended = none then
        some { t with point := .done .cancelled }
      else none

end FromTunnel

/-! ## `pipe_tunnel_streams` -/

/-- The two tasks it creates. -/
inductive Copy
  | toTunnel
  | fromTunnel
  deriving DecidableEq

inductive PipePoint
  /-- In `asyncio.wait(pending)`. -/
  | wait (pending : List Copy)
  /-- In the `gather` of the `finally` clause; `raising` says whether a
  `CancelledError` is under way. -/
  | gather (raising : Bool)
  /-- Before and after the writers are closed. -/
  | close
  | waitClosed
  | finished
  | cancelled
  deriving DecidableEq

/-- A call of `pipe_tunnel_streams`. History: whether something outside has
requested a cancellation. -/
structure Relay where
  toTunnel : ToTunnel
  fromTunnel : FromTunnel
  pipe : PipePoint
  cancelling : Bool
  interrupted : Bool

inductive RelayEvent
  | toTunnel (e : ToEvent)
  | fromTunnel (e : FromEvent)
  /-- The call goes on. -/
  | go
  /-- The requested cancellation is thrown into the call. -/
  | throw
  /-- Something outside requests the cancellation of a task, or of the call. -/
  | cancel (task : Option Copy)

namespace Relay

def start (plainReader : StreamReader) (plainWriter : StreamWriter)
    (tunnelReader : StreamReader) (tunnelWriter : StreamWriter) : Relay where
  toTunnel := .start plainReader tunnelWriter
  fromTunnel := .start tunnelReader plainWriter
  pipe := .wait [.toTunnel, .fromTunnel]
  cancelling := false
  interrupted := false

def ended (s : Relay) : Copy → Option TaskEnd
  | .toTunnel => s.toTunnel.ended
  | .fromTunnel => s.fromTunnel.ended

def running (s : Relay) (c : Copy) : Bool := (s.ended c).isNone

/-- `task.cancel()`, without effect on a task that is done. -/
def cancelTask (s : Relay) : Copy → Relay
  | .toTunnel =>
      if s.running .toTunnel then { s with toTunnel := { s.toTunnel with cancelling := true } }
      else s
  | .fromTunnel =>
      if s.running .fromTunnel then { s with fromTunnel := { s.fromTunnel with cancelling := true } }
      else s

/-- The `finally` clause: the pending tasks are cancelled and waited for. -/
def afterLoop (s : Relay) (pending : List Copy) (raising : Bool) : Relay :=
  match pending with
  | [] => { s with pipe := if raising then .cancelled else .close }
  | _ => { pending.foldl cancelTask s with pipe := .gather raising }

/-- One round of the loop, once a task is done. -/
def round (s : Relay) (pending : List Copy) : Relay :=
  let done := pending.filter fun c => !s.running c
  let rest := pending.filter fun c => s.running c
  if done.any (fun c => s.ended c = some .cancelled) then s.afterLoop rest true
  else if done.any (fun c => s.ended c ≠ some .returned) then s.afterLoop rest false
  else if rest = [] then { s with pipe := .close }
  else { s with pipe := .wait rest }

def pipeTunnelStreams (s : Relay) : Option Relay :=
  match s.pipe with
  | .wait pending =>
      if pending.any fun c => !s.running c then some (s.round pending) else none
  | .gather raising =>
      if s.running .toTunnel || s.running .fromTunnel then none
      else some { s with pipe := if raising then .cancelled else .close }
  | .close =>
      some { s with
        fromTunnel := { s.fromTunnel with writer := s.fromTunnel.writer.closeOnce }
        toTunnel := { s.toTunnel with writer := s.toTunnel.writer.closeOnce }
        pipe := .waitClosed }
  | .waitClosed => some { s with pipe := .finished }
  | .finished => none
  | .cancelled => none

def throwPipe (s : Relay) : Option Relay :=
  match s.pipe with
  | .wait pending => some { s.afterLoop pending true with cancelling := false }
  | .gather _ =>
      -- a gather that is cancelled waits for its tasks all the same
      if s.running .toTunnel || s.running .fromTunnel then none
      else some { s with pipe := .cancelled, cancelling := false }
  | .close | .waitClosed => some { s with pipe := .cancelled, cancelling := false }
  | .finished => none
  | .cancelled => none

def step (s : Relay) : RelayEvent → Option Relay
  | .toTunnel e => (s.toTunnel.step e).map fun t => { s with toTunnel := t }
  | .fromTunnel e => (s.fromTunnel.step e).map fun t => { s with fromTunnel := t }
  | .go => if s.cancelling then none else s.pipeTunnelStreams
  | .throw => if s.cancelling then s.throwPipe else none
  | .cancel (some c) => some { s.cancelTask c with interrupted := true }
  | .cancel none => some { s with cancelling := true, interrupted := true }

end Relay

/-! ## Two endpoints and the tunnel between them -/

inductive Side
  | server
  | client
  deriving DecidableEq

def Side.other : Side → Side
  | .server => .client
  | .client => .server

/-- The relays at the two ends of a tunnel. -/
abbrev Link := Side → Relay

/-- The transport delivers what the other end has written, in order, cut into
pieces and cut off anywhere. -/
def delivers (far near : Relay) : RelayEvent → Bool
  | .fromTunnel (.feed data) =>
      (near.fromTunnel.reader.fed ++ data).isPrefixOf far.toTunnel.writer.written
  | _ => true

/-- Both relays with arbitrary plain sides. -/
def relaySystem : System Link (Side × RelayEvent) where
  init := fun _ => .start .empty .empty .empty .empty
  step l a :=
    if delivers (l a.1.other) (l a.1) a.2 then
      ((l a.1).step a.2).map fun s => Function.update l a.1 s
    else none

end PyFrp
