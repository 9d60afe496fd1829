import PyFrp.Client.Dialogue
import PyFrp.Coop.Refinement
import PyFrp.Session.Talks

/-!
# A client and the server, joined by their connections

What the client writes on its control connection is what the server reads of the session,
and the other way round: whole messages, in order. The server has other peers, of which
nothing is known, and each side may find at any time that the connection is lost. The
server does not announce a restart here.
-/

namespace PyFrp

open Python Coop Store ClientRun

/-- A control connection of the client that the server has accepted. -/
structure ControlLink where
  session : ClientId
  -- how many messages of the client the server has read
  read : Nat
  -- and how many messages of the server the client
  taken : Nat

structure Joint where
  client : ClientRun
  server : State
  -- by connection
  links : Dict Nat ControlLink

inductive JointEvent
  /-- The client goes on, without a message of the server. -/
  | client (e : ClientRun.Event)
  /-- The server goes on, without a message of the client. -/
  | server (a : Action)
  /-- The server accepts the connection and reads its first message. -/
  | accept (conn : Nat) (c : ClientId) (now : Nat)
  /-- The server reads the next message. -/
  | read (conn : Nat)
  /-- The server has read everything, and the client has closed the connection. -/
  | eof (conn : Nat)
  /-- The client reads the next message. `answer` is what `confirm_force` returns. -/
  | take (answer : Answer)

namespace Joint

/-- What the server wrote for the session. -/
def messages (j : Joint) (c : ClientId) : List Message := j.server.store.messages c

def written (j : Joint) (conn : Nat) : List Written := j.client.writtenOn conn

def isClosed (j : Joint) (conn : Nat) : Bool := (j.client.connections.get? conn).any (·.closed)

def isLinked (j : Joint) (c : ClientId) : Bool := j.links.values.any fun l => l.session = c

/-- The client reads a message on its control connection. -/
def takesMessage : ClientRun.Event → Bool
  | .control (.received (some _) _) => true
  | _ => false

/-- The task of a session of the client reads. -/
def readsMessage (j : Joint) : Action → Bool
  | (.control c, .read _) => j.isLinked c
  | _ => false

/-- The link of the control connection. -/
def controlLink (j : Joint) : Option (Nat × ControlLink) :=
  match j.client.control with
  | .helloReply conn => (j.links.get? conn).map (conn, ·)
  | .registerReply conn _ => (j.links.get? conn).map (conn, ·)
  | .serving conn => (j.links.get? conn).map (conn, ·)
  | _ => none

def withLink (j : Joint) (conn : Nat) (l : ControlLink) : Joint :=
  { j with links := j.links.set conn l }

/-- The task of the session takes a step. -/
def serve (srv : Server) (j : Joint) (a : Action) : Option Joint :=
  ((system srv).step j.server a).map fun s => { j with server := s }

def step (settings : ClientSettings) (srv : Server) (j : Joint) : JointEvent → Option Joint
  | .client e =>
      if takesMessage e then none
      else (ClientRun.step settings j.client e).map fun t => { j with client := t }
  | .server a => if j.readsMessage a then none else j.serve srv a
  | .accept conn c now =>
      match j.links.get? conn, (j.written conn).head? with
      | none, some (.message first) =>
          (j.serve srv (.control c, .connect now first)).map (·.withLink conn ⟨c, 1, 0⟩)
      | _, _ => none
  | .read conn =>
      match j.links.get? conn with
      | some l =>
          match (j.written conn)[l.read]? with
          | some (.message m) =>
              (j.serve srv (.control l.session, .read (some m))).map
                (·.withLink conn { l with read := l.read + 1 })
          | _ => none
      | none => none
  | .eof conn =>
      match j.links.get? conn with
      | some l =>
          if j.isClosed conn && l.read = (j.written conn).length then
            j.serve srv (.control l.session, .read none)
          else none
      | none => none
  | .take answer =>
      match j.controlLink with
      | some (conn, l) =>
          match (j.messages l.session)[l.taken]? with
          | some m =>
              (ClientRun.step settings j.client (.control (.received (some m.fields) answer))).map
                fun t => { j with client := t }.withLink conn { l with taken := l.taken + 1 }
          | none => none
      | none => none

end Joint

/-- `Client.run` of a new client, and a new server. -/
def joint (settings : ClientSettings) (environ : Environment) (srv : Server) :
    System Joint JointEvent where
  init := ⟨(clientRun settings environ).init, (system srv).init, .empty⟩
  step := Joint.step settings srv

namespace Joint

variable {settings : ClientSettings} {environ : Environment} {srv : Server} {j j' : Joint}

/-! ## What a step is -/

/-- The steps of the two sides. -/
inductive Steps (settings : ClientSettings) (srv : Server) (j : Joint) :
    JointEvent → Joint → Prop
  | client {e t} (he : takesMessage e = false) (hs : ClientRun.step settings j.client e = some t) :
      Steps settings srv j (.client e) { j with client := t }
  | server {a s} (ha : j.readsMessage a = false) (hs : (system srv).step j.server a = some s) :
      Steps settings srv j (.server a) { j with server := s }
  | accept {conn c now first s} (hl : j.links.get? conn = none)
      (hw : (j.written conn).head? = some (.message first))
      (hs : (system srv).step j.server (.control c, .connect now first) = some s) :
      Steps settings srv j (.accept conn c now) ({ j with server := s }.withLink conn ⟨c, 1, 0⟩)
  | read {conn l m s} (hl : j.links.get? conn = some l)
      (hw : (j.written conn)[l.read]? = some (.message m))
      (hs : (system srv).step j.server (.control l.session, .read (some m)) = some s) :
      Steps settings srv j (.read conn)
        ({ j with server := s }.withLink conn { l with read := l.read + 1 })
  | eof {conn l s} (hl : j.links.get? conn = some l) (hclosed : j.isClosed conn = true)
      (hs : (system srv).step j.server (.control l.session, .read none) = some s) :
      Steps settings srv j (.eof conn) { j with server := s }
  | take {conn l m answer t} (hl : j.controlLink = some (conn, l))
      (hm : (j.messages l.session)[l.taken]? = some m)
      (hs : ClientRun.step settings j.client (.control (.received (some m.fields) answer)) =
        some t) :
      Steps settings srv j (.take answer)
        ({ j with client := t }.withLink conn { l with taken := l.taken + 1 })

theorem step_cases {e : JointEvent} (hs : j.step settings srv e = some j') :
    Steps settings srv j e j' := by
  cases e with
  | client e =>
      simp only [step] at hs
      split at hs
      · cases hs
      · rename_i he
        obtain ⟨t, ht, rfl⟩ := Option.map_eq_some_iff.mp hs
        exact .client (Bool.eq_false_iff.mpr he) ht
  | server a =>
      simp only [step] at hs
      split at hs
      · cases hs
      · rename_i ha
        obtain ⟨s, hserve, rfl⟩ := Option.map_eq_some_iff.mp hs
        exact .server (Bool.eq_false_iff.mpr ha) hserve
  | accept conn c now =>
      simp only [step] at hs
      split at hs
      · rename_i first hl hw
        obtain ⟨j₁, hserve, rfl⟩ := Option.map_eq_some_iff.mp hs
        obtain ⟨s, hstep, rfl⟩ := Option.map_eq_some_iff.mp hserve
        exact .accept hl hw hstep
      · cases hs
  | read conn =>
      simp only [step] at hs
      split at hs
      · rename_i l hl
        split at hs
        · rename_i m hw
          obtain ⟨j₁, hserve, rfl⟩ := Option.map_eq_some_iff.mp hs
          obtain ⟨s, hstep, rfl⟩ := Option.map_eq_some_iff.mp hserve
          exact .read hl hw hstep
        · cases hs
      · cases hs
  | eof conn =>
      simp only [step] at hs
      split at hs
      · rename_i l hl
        split at hs
        · rename_i hclosed
          obtain ⟨s, hserve, rfl⟩ := Option.map_eq_some_iff.mp hs
          exact .eof hl (Bool.and_eq_true_iff.mp hclosed).1 hserve
        · cases hs
      · cases hs
  | take answer =>
      simp only [step] at hs
      split at hs
      · rename_i conn l hl
        split at hs
        · rename_i m hm
          obtain ⟨t, ht, rfl⟩ := Option.map_eq_some_iff.mp hs
          exact .take hl hm ht
        · cases hs
      · cases hs

/-- A run of the two is a run of the client. -/
theorem client_refines {C : Joint → JointEvent → Prop} :
    System.Refines (joint settings environ srv) (clientRun settings environ) C (fun _ _ => True)
      Joint.client where
  init := rfl
  step _ _ hstep := by
    cases step_cases hstep with
    | client he hs => exact .single trivial hs
    | take hl hm hs => exact .single (b := .control (.received _ _)) trivial hs
    | server ha hs => exact .refl
    | accept hl hw hs => exact .refl
    | read hl hw hs => exact .refl
    | eof hl hclosed hs => exact .refl

/-- A run of the two is a run of the server, under a condition that the tasks of the sessions
always meet. -/
theorem server_refines {D : State → Action → Prop} (hD : ∀ s c e, D s (.control c, e)) :
    System.Refines (joint settings environ srv) (system srv)
      (fun j e => ∀ a, e = .server a → D j.server a) D Joint.server where
  init := rfl
  step _ hmeets hstep := by
    cases step_cases hstep with
    | client he hs => exact .refl
    | take hl hm hs => exact .refl
    | server ha hs => exact .single (hmeets _ rfl) hs
    | accept hl hw hs => exact .single (hD _ _ _) hs
    | read hl hw hs => exact .single (hD _ _ _) hs
    | eof hl hclosed hs => exact .single (hD _ _ _) hs

end Joint

end PyFrp
