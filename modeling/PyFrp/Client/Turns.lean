import PyFrp.Client.Conversations

/-!
# The turns of the client's tasks

Every step of the control task is a turn on the connection that it holds, and so is every
step of a tunnel. The heartbeat is there while the control connection is served, and no
longer than it takes to end a client that is cancelled.
-/

namespace PyFrp

open Python Coop

namespace ClientRun

variable {settings : ClientSettings} {s t u : ClientRun} {lost : Option Nat} {conn : Nat}

/-! ## The heartbeat -/

/-- The heartbeat of the connection may be there. -/
def ControlPoint.Attends : ControlPoint → Nat → Prop
  | .serving c, conn => c = conn
  | .stopping c _, conn => c = conn
  | .cancelling .cancelled, _ => True
  | .ended, _ => True
  | _, _ => False

/-- There is no heartbeat, and there are no tunnels at work. -/
def ControlPoint.Resting : ControlPoint → Prop
  | .serving _ => False
  | .stopping _ _ => False
  | .closing _ => False
  | .cancelling _ => False
  | .ended => False
  | _ => True

theorem ControlPoint.Attends.eq {p : ControlPoint} {c c' : Nat} (h : p.Attends c)
    (hc : p.conn = some c') : c' = c := by
  cases p with
  | serving d => exact (Option.some.inj hc).symm.trans h
  | stopping d r => exact (Option.some.inj hc).symm.trans h
  | opening o => exact h.elim
  | hello d => exact h.elim
  | helloReply d => exact h.elim
  | register d again => exact h.elim
  | registerReply d again => exact h.elim
  | confirmForce d => exact h.elim
  | closing r => cases hc
  | cancelling r => cases hc
  | sleeping => cases hc
  | ended => cases hc

theorem ControlPoint.Resting.not_attends {p : ControlPoint} (h : p.Resting) (c : Nat) :
    ¬ p.Attends c := by
  cases p with
  | serving d => exact h.elim
  | stopping d r => exact h.elim
  | cancelling r => exact h.elim
  | ended => exact h.elim
  | _ => exact id

/-! ## The control task -/

/-- What a step of the control task does. -/
structure ControlDoes (settings : ClientSettings) (lost : Option Nat) (s t : ClientRun) : Prop where
  turn : Turn (discipline settings) lost s.connections s.control.conn t.connections t.control.conn
    (t.control.Stands settings)
  tunnels : ∀ i, t.tunnelPoint i = s.tunnelPoint i ∨
    (s.tunnelPoint i = none ∧ ∃ message, t.tunnelPoint i = some (.start message))
  begun : s.heartbeat = none →
    t.heartbeat = none ∨ ∃ conn, t.heartbeat = some { conn := conn } ∧ t.control = .serving conn
  attended : ∀ h, s.heartbeat = some h → s.control.Attends h.conn →
    t.heartbeat = none ∨
      (t.heartbeat = some h ∧ t.connections = s.connections ∧ t.control.Attends h.conn)
  rested : t.control.Resting → t.tunnels = s.tunnels ∧
    (s.control.Resting ∨ s.tunnels.all fun task => task.point.isOver)

/-- The connection is not served yet. -/
structure Talks (s : ClientRun) (conn : Nat) : Prop where
  held : s.control.conn = some conn
  quiet : s.heartbeat = none
  resting : s.control.Resting

/-- The task waits somewhere else, with the connection that it has. -/
theorem goto_does {p : ControlPoint} (hk : Holds s.connections s.control.conn
      (s.control.Stands settings))
    (hconn : p.conn = s.control.conn) (hQ : ∀ k, s.control.Stands settings k → p.Stands settings k)
    (hattends : ∀ c, s.control.Attends c → p.Attends c)
    (hrested : p.Resting → s.control.Resting ∨ s.tunnels.all fun task => task.point.isOver) :
    ControlDoes settings lost s { s with control := p } where
  turn := by
    rw [hconn]
    exact .stay hk (fun _ h => h.fine) hQ
  tunnels i := .inl rfl
  begun hnone := .inl hnone
  attended h hh hatt := .inr ⟨hh, rfl, hattends _ hatt⟩
  rested hp := ⟨rfl, hrested hp⟩

theorem tunnelPoint_of_eq (h : t.tunnels = s.tunnels) (i : Nat) :
    t.tunnelPoint i = s.tunnelPoint i := by
  rw [tunnelPoint, tunnelPoint, h]

theorem tunnelPoint_afterRunOnce (r : Raised) (i : Nat) :
    (s.afterRunOnce r).tunnelPoint i = s.tunnelPoint i := by
  simp only [tunnelPoint, afterRunOnce, Heap.get?, List.getElem?_map, Option.map_map]
  rfl

theorem afterRunOnce_does {r : Raised}
    (hk : Holds s.connections s.control.conn (s.control.Stands settings))
    (hleft : ∀ c, s.control.conn = some c →
      (∀ k, s.control.Stands settings k → k.closed = true) ∨ lost = some c)
    (hr : ∀ c, s.control.Attends c → r = .cancelled) :
    ControlDoes settings lost s (s.afterRunOnce r) where
  turn := .leave hk (fun _ h => h.fine) hleft
  tunnels i := .inl (tunnelPoint_afterRunOnce r i)
  begun hnone := .inl hnone
  attended h hh hatt := by
    have hcancelled := hr _ hatt
    subst hcancelled
    exact .inr ⟨hh, rfl, trivial⟩
  rested hp := hp.elim

theorem leaveRunOnce_does (hconn : s.control.conn = some conn)
    (hk : Holds s.connections (some conn) (Speaks settings)) (r : Raised) :
    ControlDoes settings lost s (s.leaveRunOnce conn r) := by
  unfold leaveRunOnce
  split
  · rename_i beat hbeat
    constructor
    case turn =>
      rw [hconn]
      exact .stay hk (fun _ h => h.2) fun _ h => h
    case tunnels => exact fun i => .inl rfl
    case begun => exact fun hnone => .inl hnone
    case attended => exact fun h hh hatt => .inr ⟨hh, rfl, hatt.eq hconn⟩
    case rested => exact fun hp => hp.elim
  · rename_i hnone
    constructor
    case turn =>
      rw [hconn]
      exact close_turn hk
    case tunnels => exact fun i => .inl rfl
    case begun => exact fun hnone => .inl hnone
    case attended =>
      intro h hh _
      rw [hnone] at hh
      cases hh
    case rested => exact fun hp => hp.elim

theorem fail_does (hconn : s.control.conn = some conn)
    (hk : Holds s.connections (some conn) (Speaks settings)) (text : String) :
    ControlDoes settings lost s (s.fail conn text) :=
  leaveRunOnce_does hconn hk _

theorem sendRegister_does {force again : Bool} {w : List Written} (ht : Talks s conn)
    (hk : Holds s.connections (some conn) fun k => k.closed = false ∧ k.written = w)
    (hw : w ++ [.message (settings.client.registerMessage force)] = registration settings again) :
    ControlDoes settings lost s (s.sendRegister settings conn force again) where
  turn := by
    rw [ht.held]
    refine write_turn _ hk (fun _ h => h.1) ?_
    rintro k ⟨hopen, rfl⟩
    refine ⟨?_, hopen, hw⟩
    rw [hw]
    exact .served (served_registration again)
  tunnels i := .inl rfl
  begun hnone := .inl hnone
  attended h hh := by
    rw [ht.quiet] at hh
    cases hh
  rested _ := ⟨rfl, .inl ht.resting⟩

/-- What was said is a conversation. -/
theorem holds_speaks {w : List Written} (hw : Conversation settings w)
    (hk : Holds s.connections (some conn) fun k => k.closed = false ∧ k.written = w) :
    Holds s.connections (some conn) (Speaks settings) :=
  hk.mono fun _ h => ⟨h.1, h.2 ▸ hw⟩

theorem helloReply_does (ht : Talks s conn)
    (hk : Holds s.connections (some conn) fun k =>
      k.closed = false ∧ k.written = [.message helloMessage])
    (message : Option Fields) :
    ControlDoes settings lost s (s.helloReply settings conn message) := by
  have hspeaks : Holds s.connections (some conn) (Speaks settings) := holds_speaks .greeted hk
  unfold helloReply
  split
  · exact fail_does ht.held hspeaks _
  · split
    · exact leaveRunOnce_does ht.held hspeaks _
    · exact sendRegister_does ht hk rfl

theorem forceAnswered_does (ht : Talks s conn)
    (hk : Holds s.connections (some conn) fun k =>
      k.closed = false ∧ k.written = registration settings false)
    (answer : Answer) :
    ControlDoes settings lost s (s.forceAnswered settings conn answer) := by
  have hspeaks := holds_speaks (.served (served_registration false)) hk
  unfold forceAnswered
  split
  · exact fail_does ht.held hspeaks _
  · exact leaveRunOnce_does ht.held hspeaks _
  · split
    · exact sendRegister_does ht hk rfl
    · exact leaveRunOnce_does ht.held hspeaks _
  · split
    · exact sendRegister_does ht hk rfl
    · exact leaveRunOnce_does ht.held hspeaks _

theorem registered_does {again : Bool} (ht : Talks s conn)
    (hk : Holds s.connections (some conn) fun k =>
      k.closed = false ∧ k.written = registration settings again)
    (message : Fields) : ControlDoes settings lost s (s.registered settings conn message) := by
  have hserved : Served settings (registration settings again) := served_registration again
  have hspeaks := holds_speaks (.served hserved) hk
  unfold registered
  split
  · exact leaveRunOnce_does ht.held hspeaks _
  · split
    · exact fail_does ht.held hspeaks _
    · constructor
      case turn =>
        rw [ht.held]
        exact .stay hk (fun _ h => .served (h.2 ▸ hserved)) fun _ h => ⟨h.1, h.2 ▸ hserved⟩
      case tunnels => exact fun i => .inl rfl
      case begun => exact fun _ => .inr ⟨conn, rfl, rfl⟩
      case attended =>
        intro h hh _
        rw [ht.quiet] at hh
        cases hh
      case rested => exact fun hp => hp.elim

theorem registerReply_does {again : Bool} (ht : Talks s conn)
    (hk : Holds s.connections (some conn) fun k =>
      k.closed = false ∧ k.written = registration settings again)
    (hpoint : s.control = .registerReply conn again)
    (message : Option Fields) (answer : Answer) :
    ControlDoes settings lost s (s.registerReply settings conn again message answer) := by
  have hspeaks := holds_speaks (.served (served_registration again)) hk
  unfold registerReply
  split
  · exact fail_does ht.held hspeaks _
  · split
    · rename_i message hasks
      have hfirst : again = false := by
        cases again with
        | false => rfl
        | true => simp at hasks
      subst hfirst
      split
      · exact sendRegister_does ht hk rfl
      · split
        · exact forceAnswered_does ht hk answer
        · have hstands : Holds s.connections s.control.conn (s.control.Stands settings) := by
            rw [hpoint]
            exact hk
          refine goto_does hstands ?_ ?_ ?_ ?_
          · rw [hpoint]
            rfl
          · rw [hpoint]
            exact fun _ h => h
          · rw [hpoint]
            exact fun _ h => h.elim
          · exact fun _ => .inl ht.resting
    · exact registered_does ht hk _

theorem controlMessage_does (hpoint : s.control = .serving conn)
    (hk : Holds s.connections s.control.conn (s.control.Stands settings))
    (message : Option Fields) :
    ControlDoes settings lost s (s.controlMessage settings conn message) := by
  have hconn : s.control.conn = some conn := by
    rw [hpoint]
    rfl
  have hspeaks : Holds s.connections (some conn) (Speaks settings) := by
    rw [← hconn]
    exact hk.mono fun k h => h.speaks (by simp [hpoint])
  unfold controlMessage
  split
  · exact fail_does hconn hspeaks _
  · rename_i message
    split
    · refine ⟨.stay hk (fun _ h => h.fine) fun _ h => h, fun i => ?_, fun hnone => .inl hnone,
        fun h hh hatt => .inr ⟨hh, rfl, hatt⟩, fun hp => ?_⟩
      · by_cases hi : i = s.tunnels.size
        · subst hi
          refine .inr ⟨?_, message, ?_⟩
          · show (s.tunnels.get? s.tunnels.size).map _ = none
            rw [Heap.get?, List.getElem?_eq_none (Nat.le_refl _)]
            rfl
          · simp only [tunnelPoint, Heap.get?_alloc, if_pos, Option.map_some]
        · refine .inl ?_
          simp only [tunnelPoint, Heap.get?_alloc, if_neg hi]
      · have hresting : s.control.Resting := hp
        rw [hpoint] at hresting
        exact hresting.elim
    · split
      · exact leaveRunOnce_does hconn hspeaks _
      · split
        · exact leaveRunOnce_does hconn hspeaks _
        · exact goto_does hk rfl (fun _ h => h) (fun _ h => h) fun hp => .inl hp

/-! ## Connections that are abandoned -/

/-- The connection whose cleanup is skipped, because the client is cancelled. -/
def abandons (s : ClientRun) : Event → Option Nat
  | .control .cancel =>
      match s.control with
      | .opening (.confirming conn _) => some conn
      | .stopping conn _ => some conn
      | _ => none
  | _ => none

/-- The connection whose cleanup is cut short, because a tunnel is cancelled while it closes
its connections. -/
def interrupts (s : ClientRun) : Event → Option Nat
  | .tunnel i .cancel =>
      match s.tunnelPoint i with
      | some (.closing conn) => conn
      | _ => none
  | _ => none

def loses (s : ClientRun) (e : Event) : Option Nat := (s.abandons e).or (s.interrupts e)

theorem cancelControl_does (hk : Holds s.connections s.control.conn (s.control.Stands settings))
    (hs : s.cancelControl = some t) :
    ControlDoes settings (s.abandons (.control .cancel)) s t := by
  have hleave : ∀ conn, s.control.conn = some conn → (∀ o, s.control ≠ .opening o) →
      ControlDoes settings (s.abandons (.control .cancel)) s (s.leaveRunOnce conn .cancelled) := by
    intro conn hconn hp
    refine leaveRunOnce_does hconn ?_ _
    rw [← hconn]
    exact hk.mono fun k h => h.speaks hp
  unfold cancelControl at hs
  split at hs
  all_goals rename_i hpoint
  · rename_i o
    cases hs
    refine afterRunOnce_does hk ?_ fun _ _ => rfl
    intro c hc
    rw [hpoint] at hc
    simp only [abandons, hpoint]
    cases o with
    | connecting => cases hc
    | confirming conn fingerprint => exact .inr hc
    | refusing conn e => exact .inl fun _ h => h.1
  · cases hs
    exact hleave _ (by rw [hpoint]; rfl) (by simp [hpoint])
  · cases hs
    exact hleave _ (by rw [hpoint]; rfl) (by simp [hpoint])
  · cases hs
    exact hleave _ (by rw [hpoint]; rfl) (by simp [hpoint])
  · cases hs
    exact hleave _ (by rw [hpoint]; rfl) (by simp [hpoint])
  · cases hs
    exact hleave _ (by rw [hpoint]; rfl) (by simp [hpoint])
  · cases hs
    exact hleave _ (by rw [hpoint]; rfl) (by simp [hpoint])
  · rename_i conn r
    cases hs
    refine afterRunOnce_does hk ?_ fun _ _ => rfl
    intro c hc
    rw [hpoint] at hc
    refine .inr ?_
    simp only [abandons, hpoint]
    exact hc
  · cases hs
    refine afterRunOnce_does hk ?_ fun _ _ => rfl
    intro c hc
    rw [hpoint] at hc
    cases hc
  · cases hs
    refine goto_does hk ?_ ?_ (fun _ _ => trivial) fun hp => hp.elim
    · rw [hpoint]
      rfl
    · rw [hpoint]
      exact fun _ h => h
  · cases hs
    refine goto_does hk ?_ ?_ (fun _ _ => trivial) fun hp => hp.elim
    · rw [hpoint]
      rfl
    · rw [hpoint]
      exact fun _ h => h
  · cases hs

/-- The control task has opened its connection, or is told why it cannot. -/
theorem controlOpened_does {o : Opening} {e : OpenEvent} {r : ClientRun × Opened}
    (hpoint : s.control = .opening o) (hnone : s.heartbeat = none)
    (hk : Holds s.connections o.conn o.Stands)
    (hs : openServerConnection settings s o e = some r) :
    ControlDoes settings lost s
      (match r.2 with
        | .opening o => { r.1 with control := .opening o }
        | .opened conn => { r.1.write conn (.message helloMessage) with control := .hello conn }
        | .raised e => r.1.afterRunOnce (.error e)) := by
  obtain ⟨t, opened⟩ := r
  obtain ⟨hturn, hsame⟩ := open_turn lost hk hs
  have hconn : s.control.conn = o.conn := by
    rw [hpoint]
    rfl
  have hresting : s.control.Resting := by
    rw [hpoint]
    trivial
  have hnone' : t.heartbeat = none := hsame.heartbeat.trans hnone
  rw [← hconn] at hturn
  cases opened with
  | opening o' =>
      constructor
      case turn => exact hturn
      case tunnels => exact fun i => .inl (tunnelPoint_of_eq hsame.tunnels i)
      case begun => exact fun _ => .inl hnone'
      case attended => exact fun _ _ _ => .inl hnone'
      case rested => exact fun _ => ⟨hsame.tunnels, .inl hresting⟩
  | opened conn =>
      constructor
      case turn =>
        refine hturn.andThen (write_turn _ hturn.stands (fun _ h => h.1) ?_)
        rintro k ⟨hopen, hwritten⟩
        have hsaid : k.written ++ [.message helloMessage] = [.message helloMessage] := by
          rw [hwritten]
          rfl
        refine ⟨?_, hopen, hsaid⟩
        rw [hsaid]
        exact .greeted
      case tunnels => exact fun i => .inl (tunnelPoint_of_eq hsame.tunnels i)
      case begun => exact fun _ => .inl hnone'
      case attended => exact fun _ _ _ => .inl hnone'
      case rested => exact fun _ => ⟨hsame.tunnels, .inl hresting⟩
  | raised e' =>
      constructor
      case turn => exact { hturn with stands := nofun }
      case tunnels =>
        exact fun i => .inl ((tunnelPoint_afterRunOnce _ i).trans
          (tunnelPoint_of_eq hsame.tunnels i))
      case begun => exact fun _ => .inl hnone'
      case attended => exact fun _ _ _ => .inl hnone'
      case rested => exact fun hp => hp.elim

theorem ControlPoint.conversation_held {p : ControlPoint} (hp : p.conversation = some conn) :
    p.conn = some conn ∧ ∀ o, p ≠ .opening o := by
  cases p with
  | opening o => cases hp
  | confirmForce c => cases hp
  | stopping c r => cases hp
  | closing r => cases hp
  | cancelling r => cases hp
  | sleeping => cases hp
  | ended => cases hp
  | _ => exact ⟨hp, by simp⟩

/-- While the task rests there is no heartbeat. -/
theorem quiet_of_resting (hheart : ∀ h, s.heartbeat = some h → s.control.Attends h.conn)
    (hresting : s.control.Resting) : s.heartbeat = none := by
  cases hbeat : s.heartbeat with
  | none => rfl
  | some h => exact absurd (hheart h hbeat) (hresting.not_attends h.conn)

theorem controlStep_does {e : ControlEvent}
    (hk : Holds s.connections s.control.conn (s.control.Stands settings))
    (hheart : ∀ h, s.heartbeat = some h → s.control.Attends h.conn)
    (hs : s.controlStep settings e = some t) :
    ControlDoes settings (s.abandons (.control e)) s t := by
  have hquiet := quiet_of_resting hheart
  have htalks : ∀ conn, s.control.conn = some conn → s.control.Resting → Talks s conn :=
    fun conn hconn hresting => ⟨hconn, hquiet hresting, hresting⟩
  have hk' := hk
  unfold controlStep at hs
  split at hs
  -- `cancel`
  · exact cancelControl_does hk hs
  any_goals (rename_i hpoint; rw [hpoint] at hk' htalks hquiet)
  -- `opening`
  · obtain ⟨r, hr, rfl⟩ := Option.map_eq_some_iff.mp hs
    exact controlOpened_does hpoint (hquiet trivial) hk' hr
  -- `hello`
  · cases hs
    refine goto_does hk ?_ ?_ ?_ fun _ => .inl ?_
    · rw [hpoint]
      rfl
    · rw [hpoint]
      exact fun _ h => h
    · rw [hpoint]
      exact fun _ h => h
    · rw [hpoint]
      trivial
  · cases hs
    exact helloReply_does (htalks _ rfl trivial) hk' _
  -- `register`
  · cases hs
    refine goto_does hk ?_ ?_ ?_ fun _ => .inl ?_
    · rw [hpoint]
      rfl
    · rw [hpoint]
      exact fun _ h => h
    · rw [hpoint]
      exact fun _ h => h
    · rw [hpoint]
      trivial
  · cases hs
    exact registerReply_does (htalks _ rfl trivial) hk' hpoint _ _
  · cases hs
    exact forceAnswered_does (htalks _ rfl trivial) hk' _
  -- `serving`
  · cases hs
    exact controlMessage_does hpoint hk _
  · rename_i conn
    split at hs
    · cases hs
      refine fail_does ?_ ?_ _
      · rw [hpoint]
        rfl
      · exact hk'.mono fun k h => ⟨h.1, .served h.2⟩
    · cases hs
  -- the `finally` clause
  · rename_i conn r
    cases hs
    refine ⟨?_, fun i => .inl rfl, fun _ => .inl rfl, fun _ _ _ => .inl rfl, fun hp => hp.elim⟩
    rw [hpoint]
    exact close_turn hk'
  · rename_i r
    cases hs
    refine afterRunOnce_does hk ?_ ?_
    · rw [hpoint]
      exact nofun
    · rw [hpoint]
      exact fun _ h => h.elim
  · rename_i r
    split at hs
    · rename_i hover
      cases hs
      refine goto_does hk ?_ ?_ ?_ fun _ => .inr hover
      · rw [hpoint]
        unfold afterCancel
        split <;> rfl
      · rw [hpoint]
        intro k h
        unfold afterCancel
        split <;> exact h
      · rw [hpoint]
        intro c hatt
        cases r with
        | cancelled => trivial
        | error e => exact hatt.elim
    · cases hs
  · cases hs
    refine ⟨?_, fun i => .inl rfl, fun hnone => .inl hnone, fun h hh hatt => ?_, fun _ => ⟨rfl, ?_⟩⟩
    · rw [hpoint]
      exact .stay (P := fun _ => False) nofun nofun nofun
    · rw [hpoint] at hatt
      exact hatt.elim
    · rw [hpoint]
      exact .inl trivial
  -- the conversation fails
  · obtain ⟨conn, hconn, rfl⟩ := Option.map_eq_some_iff.mp hs
    obtain ⟨hheld, hp⟩ := ControlPoint.conversation_held hconn
    refine fail_does hheld ?_ _
    rw [← hheld]
    exact hk.mono fun k h => h.speaks hp
  · cases hs

/-! ## The tunnels -/

/-- What a step of the tunnel `i` does. -/
structure TunnelDoes (settings : ClientSettings) (lost : Option Nat) (i : Nat)
    (s t : ClientRun) : Prop where
  turn : Turn (discipline settings) lost s.connections (s.heldBy (some i)) t.connections
    (t.heldBy (some i)) (Stands settings t (some i))
  others : ∀ j, j ≠ i → t.tunnelPoint j = s.tunnelPoint j
  control : t.control = s.control
  heartbeat : t.heartbeat = s.heartbeat
  ended : s.tunnelPoint i = some .ended → t.tunnelPoint i = some .ended

theorem tunnelPoint_setTunnel (i j : Nat) (p : TunnelPoint) :
    (s.setTunnel i p).tunnelPoint j =
      if j = i then (s.tunnelPoint j).map fun _ => p else s.tunnelPoint j := by
  simp only [tunnelPoint, setTunnel, Heap.get?_modify]
  split
  · rw [Option.map_map, Option.map_map]
    rfl
  · rfl

theorem setTunnel_does {i : Nat} {p q : TunnelPoint} (hpoint : s.tunnelPoint i = some p)
    (hsame : SameTasks s u)
    (hturn : Turn (discipline settings) lost s.connections p.conn u.connections q.conn
      (q.Stands settings))
    (hover : p = .ended → q = .ended) : TunnelDoes settings lost i s (u.setTunnel i q) := by
  have hq : (u.setTunnel i q).tunnelPoint i = some q := by
    rw [tunnelPoint_setTunnel, if_pos rfl, tunnelPoint_of_eq hsame.tunnels, hpoint]
    rfl
  have hheld : s.heldBy (some i) = p.conn := by
    simp only [heldBy, hpoint, Option.bind_some]
  have hheld' : (u.setTunnel i q).heldBy (some i) = q.conn := by
    simp only [heldBy, hq, Option.bind_some]
  constructor
  case turn =>
    rw [hheld, hheld']
    refine { hturn with stands := hturn.stands.mono fun k h p' hp' => ?_ }
    rw [hq] at hp'
    cases hp'
    exact h
  case others =>
    intro j hj
    rw [tunnelPoint_setTunnel, if_neg hj, tunnelPoint_of_eq hsame.tunnels]
  case control => exact hsame.control
  case heartbeat => exact hsame.heartbeat
  case ended =>
    intro hend
    rw [hpoint] at hend
    cases hend
    rw [hq, hover rfl]

/-- The user is asked about the connection of the tunnel. -/
def TunnelPoint.Asks : TunnelPoint → Prop
  | .opening _ _ (.confirming _ _) => True
  | _ => False

theorem cancelTunnel_turn {i : Nat} {p : TunnelPoint} (hpoint : s.tunnelPoint i = some p)
    (hasks : ¬ p.Asks) (hk : Holds s.connections p.conn (p.Stands settings)) :
    Turn (discipline settings) (s.loses (.tunnel i .cancel)) s.connections p.conn s.connections
      (cancelTunnel p).conn ((cancelTunnel p).Stands settings) := by
  have hlost : s.loses (.tunnel i .cancel) = s.interrupts (.tunnel i .cancel) := Option.none_or
  rw [hlost]
  simp only [interrupts, hpoint]
  cases p with
  | start message => exact .leave hk (fun _ h => h.fine) nofun
  | connectLocal r => exact .leave hk (fun _ h => h.fine) nofun
  | opening r localError o =>
      refine .leave hk (fun _ h => h.fine) fun c hc => ?_
      cases o with
      | connecting => cases hc
      | confirming conn fingerprint => exact absurd trivial hasks
      | refusing conn e => exact .inl fun _ h => h.1
  | sending conn localError => exact .stay hk (fun _ h => h.fine) fun _ h => ⟨h.1, h.fine⟩
  | relaying conn => exact .stay hk (fun _ h => h.fine) fun _ h => ⟨h.1, h.fine⟩
  | closing conn => exact .leave hk (fun _ h => h.fine) fun c hc => .inr hc
  | ended => exact .leave hk (fun _ h => h.fine) nofun

/-- A tunnel has opened its connection, or is told why it cannot. -/
theorem tunnelOpened_does {i : Nat} {o : Opening} {e : OpenEvent} {r : ClientRun × Opened}
    {request : TunnelRequest} {localError : Option String} {time : PyFloat}
    (hpoint : s.tunnelPoint i = some (.opening request localError o))
    (hk : Holds s.connections o.conn o.Stands)
    (hs : openServerConnection settings s o e = some r) :
    TunnelDoes settings lost i s
      (match r.2 with
        | .opening o => r.1.setTunnel i (.opening request localError o)
        | .opened conn =>
            (r.1.write conn (.message (tunnelMessage request localError time))).setTunnel i
              (.sending conn localError)
        | .raised _ => r.1.setTunnel i (.closing none)) := by
  obtain ⟨t, opened⟩ := r
  obtain ⟨hturn, hsame⟩ := open_turn lost hk hs
  cases opened with
  | opening o' => exact setTunnel_does hpoint hsame hturn nofun
  | opened conn =>
      have hsent : Turn (discipline settings) lost t.connections (some conn)
          (t.write conn (.message (tunnelMessage request localError time))).connections (some conn)
          (TunnelPoint.Stands settings (.sending conn localError)) := by
        refine write_turn _ hturn.stands (fun _ h => h.1) ?_
        rintro k ⟨hopen, hwritten⟩
        have hsaid : k.written ++ [.message (tunnelMessage request localError time)] =
            [.message (tunnelMessage request localError time)] := by
          rw [hwritten]
          rfl
        refine ⟨?_, hopen, request, time, hsaid⟩
        rw [hsaid]
        exact conversation_tunnel request localError time
      exact setTunnel_does hpoint ⟨hsame.control, hsame.heartbeat, hsame.tunnels⟩
        (hturn.andThen hsent) nofun
  | raised e' => exact setTunnel_does hpoint hsame { hturn with stands := nofun } nofun

/-- The frames are written on the connection of the tunnel. -/
theorem relaying_does {i : Nat} (data : Bytes) (hpoint : s.tunnelPoint i = some (.relaying conn))
    (hk : Holds s.connections (some conn) (TunnelPoint.Stands settings (.relaying conn))) :
    TunnelDoes settings lost i s (s.write conn (.frames data)) := by
  have hpoint' : (s.write conn (.frames data)).tunnelPoint i = some (.relaying conn) := hpoint
  have hheld : s.heldBy (some i) = some conn := by
    simp only [heldBy, hpoint, Option.bind_some, TunnelPoint.conn]
  refine ⟨?_, fun j _ => rfl, rfl, rfl, fun h => h⟩
  rw [hheld, show (s.write conn (.frames data)).heldBy (some i) = some conn from hheld]
  refine write_turn _ hk (fun _ h => h.1) ?_
  rintro k ⟨hopen, r, time, chunks, hwritten⟩
  have hsaid : k.written ++ [.frames data] =
      .message (tunnelMessage r none time) :: List.map Written.frames (chunks ++ [data]) := by
    rw [hwritten, List.map_append]
    rfl
  refine ⟨?_, fun p hp => ?_⟩
  · rw [hsaid]
    exact .relayed r time _
  · rw [hpoint'] at hp
    cases hp
    exact ⟨hopen, r, time, _, hsaid⟩

theorem tunnelStep_does {i : Nat} {task : TunnelTask} {e : TunnelEvent}
    (htask : s.tunnels.get? i = some task) (hasks : ¬ task.point.Asks)
    (hk : Holds s.connections task.point.conn (task.point.Stands settings))
    (hs : s.tunnelStep settings i task e = some t) :
    TunnelDoes settings (s.loses (.tunnel i e)) i s t := by
  have hpoint : s.tunnelPoint i = some task.point := by
    rw [tunnelPoint, htask]
    rfl
  have hsame : SameTasks s s := ⟨rfl, rfl, rfl⟩
  unfold tunnelStep at hs
  split at hs
  -- `cancel`
  · split at hs
    · cases hs
      refine setTunnel_does hpoint hsame (cancelTunnel_turn hpoint hasks hk) fun hend => ?_
      rw [hend]
      rfl
    · cases hs
  any_goals (rename_i hp; rw [hp] at hk hpoint)
  -- `start` and `connectLocal`
  · cases hs
    refine setTunnel_does hpoint hsame ?_ nofun
    unfold startTunnel
    split <;> exact .stay (P := fun _ => False) nofun nofun nofun
  · cases hs
    exact setTunnel_does hpoint hsame (.stay (P := fun _ => False) nofun nofun nofun) nofun
  · cases hs
    exact setTunnel_does hpoint hsame (.stay (P := fun _ => False) nofun nofun nofun) nofun
  · cases hs
    exact setTunnel_does hpoint hsame (.stay (P := fun _ => False) nofun nofun nofun) nofun
  -- `opening`
  · obtain ⟨r, hr, rfl⟩ := Option.map_eq_some_iff.mp hs
    exact tunnelOpened_does hpoint hk hr
  -- `sending`
  · rename_i conn localError
    cases hs
    refine setTunnel_does hpoint hsame ?_ nofun
    cases localError with
    | none =>
        refine .stay hk (fun _ h => h.fine) ?_
        rintro k ⟨hopen, r, time, hwritten⟩
        exact ⟨hopen, r, time, [], hwritten⟩
    | some text => exact .stay hk (fun _ h => h.fine) fun _ h => ⟨h.1, h.fine⟩
  · cases hs
    exact setTunnel_does hpoint hsame
      (.stay hk (fun _ h => h.fine) fun _ h => ⟨h.1, h.fine⟩) nofun
  -- `relaying`
  · cases hs
    exact relaying_does _ hpoint hk
  · cases hs
    exact setTunnel_does hpoint hsame
      (.stay hk (fun _ h => h.fine) fun _ h => ⟨h.1, h.fine⟩) nofun
  · cases hs
    exact setTunnel_does hpoint hsame
      (.stay hk (fun _ h => h.fine) fun _ h => ⟨h.1, h.fine⟩) nofun
  -- `closing`
  · cases hs
    exact setTunnel_does hpoint ⟨rfl, rfl, rfl⟩ (close_turn hk) nofun
  · cases hs
    exact setTunnel_does hpoint hsame (.stay (P := fun _ => False) nofun nofun nofun) nofun
  · cases hs

end ClientRun

end PyFrp
