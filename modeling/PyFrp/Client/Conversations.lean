import PyFrp.Client.Pinned
import PyFrp.Coop.Held

/-!
# What is said on a connection to the server

The control task and each tunnel hold one connection at most. What is written on it is
known from where the task waits, and every handler is a turn on that connection.
-/

namespace PyFrp

open Python Coop

namespace ClientRun

variable {settings : ClientSettings} {s t u : ClientRun} {lost : Option Nat}

/-! ## Conversations -/

/-- What is written up to the last registration. -/
def registration (settings : ClientSettings) (again : Bool) : List Written :=
  [.message helloMessage, .message (settings.client.registerMessage settings.forceConnect)] ++
    if again then [.message (settings.client.registerMessage true)] else []

/-- The registration, and a message for every round of the heartbeat. -/
def Served (settings : ClientSettings) (w : List Written) : Prop :=
  ∃ (again : Bool) (times : List PyFloat),
    w = registration settings again ++ times.map fun time => .message (pingMessage time)

/-- What can be written on a connection, from its beginning. -/
inductive Conversation (settings : ClientSettings) : List Written → Prop
  | silent : Conversation settings []
  | greeted : Conversation settings [.message helloMessage]
  | served {w : List Written} (h : Served settings w) : Conversation settings w
  | failed (r : TunnelRequest) (text : String) (time : PyFloat) :
      Conversation settings [.message (tunnelMessage r (some text) time)]
  | relayed (r : TunnelRequest) (time : PyFloat) (chunks : List Bytes) :
      Conversation settings (.message (tunnelMessage r none time) :: chunks.map .frames)

/-- A connection keeps its peer and what was written. Nothing becomes of a closed one. -/
def Connection.Later (k k' : Connection) : Prop :=
  k'.peer = k.peer ∧ k.written <+: k'.written ∧ (k.closed = true → k' = k)

def discipline (settings : ClientSettings) : Discipline Connection where
  later := Connection.Later
  fine k := Conversation settings k.written
  released k := k.closed = true
  refl k := ⟨rfl, List.prefix_refl _, fun _ => rfl⟩
  trans := by
    rintro a b c ⟨hpeer, hwritten, hclosed⟩ ⟨hpeer', hwritten', hclosed'⟩
    refine ⟨hpeer'.trans hpeer, hwritten.trans hwritten', fun ha => ?_⟩
    have hb := hclosed ha
    subst hb
    exact hclosed' ha

/-! ## Who holds which connection -/

def Opening.conn : Opening → Option Nat
  | .connecting => none
  | .confirming conn _ => some conn
  | .refusing conn _ => some conn

def Opened.conn : Opened → Option Nat
  | .opening o => o.conn
  | .opened conn => some conn
  | .raised _ => none

def ControlPoint.conn : ControlPoint → Option Nat
  | .opening o => o.conn
  | .hello conn => some conn
  | .helloReply conn => some conn
  | .register conn _ => some conn
  | .registerReply conn _ => some conn
  | .confirmForce conn => some conn
  | .serving conn => some conn
  | .stopping conn _ => some conn
  | _ => none

def TunnelPoint.conn : TunnelPoint → Option Nat
  | .opening _ _ o => o.conn
  | .sending conn _ => some conn
  | .relaying conn => some conn
  | .closing conn => conn
  | _ => none

def tunnelPoint (s : ClientRun) (i : Nat) : Option TunnelPoint := (s.tunnels.get? i).map (·.point)

/-- The tasks: the control task, and the tunnels. -/
def heldBy (s : ClientRun) : Option Nat → Option Nat
  | none => s.control.conn
  | some i => (s.tunnelPoint i).bind (·.conn)

def holding (s : ClientRun) : Holdings (Option Nat) Connection := ⟨s.connections, s.heldBy⟩

/-- The connection is open, and what is written on it is a conversation. -/
def Speaks (settings : ClientSettings) (k : Connection) : Prop :=
  k.closed = false ∧ Conversation settings k.written

def Opening.Stands : Opening → Connection → Prop
  | .refusing _ _, k => k.closed = true ∧ k.written = []
  | _, k => k.closed = false ∧ k.written = []

def Opened.Stands : Opened → Connection → Prop
  | .opening o, k => o.Stands k
  | _, k => k.closed = false ∧ k.written = []

/-- What the control task knows of the connection that it holds. -/
def ControlPoint.Stands (settings : ClientSettings) : ControlPoint → Connection → Prop
  | .opening o, k => o.Stands k
  | .hello _, k => k.closed = false ∧ k.written = [.message helloMessage]
  | .helloReply _, k => k.closed = false ∧ k.written = [.message helloMessage]
  | .register _ again, k => k.closed = false ∧ k.written = registration settings again
  | .registerReply _ again, k => k.closed = false ∧ k.written = registration settings again
  | .confirmForce _, k => k.closed = false ∧ k.written = registration settings false
  | .serving _, k => k.closed = false ∧ Served settings k.written
  | _, k => Speaks settings k

def TunnelPoint.Stands (settings : ClientSettings) : TunnelPoint → Connection → Prop
  | .opening _ _ o, k => o.Stands k
  | .sending _ localError, k => k.closed = false ∧
      ∃ r time, k.written = [.message (tunnelMessage r localError time)]
  | .relaying _, k => k.closed = false ∧ ∃ r time chunks,
      k.written = .message (tunnelMessage r none time) :: List.map Written.frames chunks
  | _, k => Speaks settings k

def Stands (settings : ClientSettings) (s : ClientRun) : Option Nat → Connection → Prop
  | none, k => s.control.Stands settings k
  | some i, k => ∀ p, s.tunnelPoint i = some p → p.Stands settings k

theorem conversation_tunnel (r : TunnelRequest) (localError : Option String) (time : PyFloat) :
    Conversation settings [.message (tunnelMessage r localError time)] := by
  cases localError with
  | none => exact .relayed r time []
  | some text => exact .failed r text time

theorem served_registration (again : Bool) : Served settings (registration settings again) :=
  ⟨again, [], (List.append_nil _).symm⟩

theorem Served.beat {w : List Written} (h : Served settings w) (time : PyFloat) :
    Served settings (w ++ [.message (pingMessage time)]) := by
  obtain ⟨again, times, rfl⟩ := h
  refine ⟨again, times ++ [time], ?_⟩
  rw [List.map_append, List.append_assoc]
  rfl

theorem Opening.Stands.fine {o : Opening} {k : Connection} (h : o.Stands k) :
    Conversation settings k.written := by
  have hwritten : k.written = [] := by
    cases o with
    | connecting => exact h.2
    | confirming conn fingerprint => exact h.2
    | refusing conn e => exact h.2
  rw [hwritten]
  exact .silent

/-- Past the opening of the connection, it is open. -/
theorem ControlPoint.Stands.speaks {p : ControlPoint} {k : Connection}
    (h : p.Stands settings k) (hp : ∀ o, p ≠ .opening o) : Speaks settings k := by
  have hof : ∀ w, k.closed = false ∧ k.written = w → Conversation settings w →
      Speaks settings k := by
    rintro w ⟨hopen, rfl⟩ hw
    exact ⟨hopen, hw⟩
  cases p with
  | opening o => exact absurd rfl (hp o)
  | hello conn => exact hof _ h .greeted
  | helloReply conn => exact hof _ h .greeted
  | register conn again => exact hof _ h (.served (served_registration again))
  | registerReply conn again => exact hof _ h (.served (served_registration again))
  | confirmForce conn => exact hof _ h (.served (served_registration false))
  | serving conn => exact ⟨h.1, .served h.2⟩
  | stopping conn r => exact h
  | closing r => exact h
  | cancelling r => exact h
  | sleeping => exact h
  | ended => exact h

theorem ControlPoint.Stands.fine {p : ControlPoint} {k : Connection} (h : p.Stands settings k) :
    Conversation settings k.written := by
  cases p with
  | opening o => exact Opening.Stands.fine h
  | _ => exact (ControlPoint.Stands.speaks h (by simp)).2

theorem TunnelPoint.Stands.fine {p : TunnelPoint} {k : Connection} (h : p.Stands settings k) :
    Conversation settings k.written := by
  cases p with
  | opening r localError o => exact Opening.Stands.fine h
  | sending conn localError =>
      obtain ⟨-, r, time, hwritten⟩ := h
      rw [hwritten]
      exact conversation_tunnel r localError time
  | relaying conn =>
      obtain ⟨-, r, time, chunks, hwritten⟩ := h
      rw [hwritten]
      exact .relayed r time chunks
  | start message => exact h.2
  | connectLocal r => exact h.2
  | closing conn => exact h.2
  | ended => exact h.2

/-! ## Working on a connection -/

variable {conn : Nat}

theorem later_write (settings : ClientSettings) {k : Connection} (w : Written)
    (hopen : k.closed = false) :
    (discipline settings).later k { k with written := k.written ++ [w] } := by
  refine ⟨rfl, List.prefix_append _ _, fun hclosed => ?_⟩
  rw [hopen] at hclosed
  cases hclosed

theorem later_closed (settings : ClientSettings) {k : Connection} (refused : Bool)
    (hopen : k.closed = false) :
    (discipline settings).later k { k with closed := true, refused := refused } := by
  refine ⟨rfl, List.prefix_refl _, fun hclosed => ?_⟩
  rw [hopen] at hclosed
  cases hclosed

theorem close_turn {Q : Connection → Prop}
    (hk : Holds s.connections (some conn) (Speaks settings)) :
    Turn (discipline settings) lost s.connections (some conn) (s.close conn).connections none Q :=
  .modify hk (fun k h => later_closed settings k.refused h.1) (fun _ h => h.2)
    (.inr ⟨rfl, fun _ _ => rfl⟩)

theorem write_turn {P Q : Connection → Prop} (w : Written)
    (hk : Holds s.connections (some conn) P) (hopen : ∀ k, P k → k.closed = false)
    (hsaid : ∀ k, P k → Conversation settings (k.written ++ [w]) ∧
      Q { k with written := k.written ++ [w] }) :
    Turn (discipline settings) lost s.connections (some conn) (s.write conn w).connections
      (some conn) Q :=
  .modify hk (fun k h => later_write settings w (hopen k h)) (fun k h => (hsaid k h).1)
    (.inl ⟨rfl, fun k h => (hsaid k h).2⟩)

/-! ## Opening a connection -/

theorem conclude_turn {fingerprint : String} {answer : Answer} {r : Opened}
    (hk : Holds s.connections (some conn) fun k => k.closed = false ∧ k.written = [])
    (hs : s.conclude conn fingerprint answer = (t, r)) :
    Turn (discipline settings) lost s.connections (some conn) t.connections r.conn r.Stands ∧
      SameTasks s t := by
  have hsilent : ∀ k : Connection, k.closed = false ∧ k.written = [] →
      Conversation settings k.written := by
    rintro k ⟨-, hwritten⟩
    rw [hwritten]
    exact .silent
  unfold conclude at hs
  split at hs
  · cases hs
    exact ⟨.stay hk hsilent fun _ h => h, rfl, rfl, rfl⟩
  · cases hs
    exact ⟨.modify hk (fun k h => later_closed settings true h.1) hsilent
      (.inl ⟨rfl, fun k h => ⟨rfl, h.2⟩⟩), rfl, rfl, rfl⟩

theorem open_turn (lost : Option Nat) {o : Opening} {e : OpenEvent} {r : Opened}
    (hk : Holds s.connections o.conn o.Stands)
    (hs : openServerConnection settings s o e = some (t, r)) :
    Turn (discipline settings) lost s.connections o.conn t.connections r.conn r.Stands ∧
      SameTasks s t := by
  unfold openServerConnection at hs
  split at hs
  · rename_i peer answer
    have htake : Turn (discipline settings) lost s.connections none (s.opened peer).connections
        (some s.connections.size) fun k => k.closed = false ∧ k.written = [] :=
      .take .silent ⟨rfl, rfl⟩
    dsimp only at hs
    split at hs
    · cases hs
      exact ⟨htake, rfl, rfl, rfl⟩
    · cases hs
      refine ⟨htake.andThen (.modify htake.stands (fun k h => later_closed settings true h.1) ?_
        (.inl ⟨rfl, fun k h => ⟨rfl, h.2⟩⟩)), rfl, rfl, rfl⟩
      rintro k ⟨-, hwritten⟩
      show Conversation settings k.written
      rw [hwritten]
      exact .silent
    · split at hs
      · obtain ⟨hturn, hsame⟩ := conclude_turn htake.stands (Option.some.inj hs)
        exact ⟨htake.andThen hturn, hsame.control, hsame.heartbeat, hsame.tunnels⟩
      · cases hs
        exact ⟨htake, rfl, rfl, rfl⟩
  · cases hs
    exact ⟨.stay hk (fun _ h => Opening.Stands.fine h) fun _ h => h, rfl, rfl, rfl⟩
  · exact conclude_turn hk (Option.some.inj hs)
  · cases hs
    exact ⟨.leave hk (fun _ h => Opening.Stands.fine h) fun _ _ => .inl fun _ h => h.1, rfl, rfl,
      rfl⟩
  · cases hs

end ClientRun

end PyFrp
