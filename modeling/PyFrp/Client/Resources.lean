import PyFrp.Client.Pinning
import PyFrp.Client.Turns

/-!
# The connections that a client keeps open

Over every run: whose a connection is, what was written on it, and which connections are
left open.
-/

namespace PyFrp

open Python Coop

namespace ClientRun

variable {settings : ClientSettings} {environ : Environment} {s t : ClientRun}
  {lost : Option Nat} {i : Option Nat}

/-- What a step of the task `i` does. -/
structure Does (settings : ClientSettings) (lost : Option Nat) (i : Option Nat)
    (s t : ClientRun) : Prop where
  turn : Turn (discipline settings) lost s.connections (s.heldBy i) t.connections (t.heldBy i)
    (Stands settings t i)
  others : ∀ j, j ≠ i → t.heldBy j = s.heldBy j
  known : ∀ j r k, j ≠ i → t.heldBy j = some r → Stands settings s j k → Stands settings t j k

theorem ControlDoes.does (h : ControlDoes settings lost s t) : Does settings lost none s t where
  turn := h.turn
  others := by
    intro j hj
    cases j with
    | none => exact absurd rfl hj
    | some j =>
        rcases h.tunnels j with hsame | ⟨hnone, message, hstart⟩
        · simp only [heldBy, hsame]
        · simp only [heldBy, hnone, hstart, Option.bind_none, Option.bind_some, TunnelPoint.conn]
  known := by
    intro j r k hj hr hk
    cases j with
    | none => exact absurd rfl hj
    | some j =>
        rcases h.tunnels j with hsame | ⟨-, message, hstart⟩
        · intro p hp
          rw [hsame] at hp
          exact hk p hp
        · simp only [heldBy, hstart, Option.bind_some, TunnelPoint.conn] at hr
          cases hr

theorem TunnelDoes.does {i : Nat} (h : TunnelDoes settings lost i s t) :
    Does settings lost (some i) s t where
  turn := h.turn
  others := by
    intro j hj
    cases j with
    | none => simp only [heldBy, h.control]
    | some j =>
        have hne : j ≠ i := fun heq => hj (congrArg some heq)
        simp only [heldBy, h.others j hne]
  known := by
    intro j r k hj _ hk
    cases j with
    | none =>
        show t.control.Stands settings k
        rw [h.control]
        exact hk
    | some j =>
        have hne : j ≠ i := fun heq => hj (congrArg some heq)
        intro p hp
        rw [h.others j hne] at hp
        exact hk p hp

/-! ## Order -/

/-- What is known of the connection that the heartbeat writes on. -/
structure HeartOk (settings : ClientSettings) (s : ClientRun) (conn : Nat) : Prop where
  served : ∃ k, s.connections.get? conn = some k ∧ k.closed = false ∧ Served settings k.written
  attended : s.control.Attends conn
  apart : ∀ i, s.heldBy (some i) ≠ some conn

/-- What holds in every state of a run. -/
structure Orderly (settings : ClientSettings) (s : ClientRun) : Prop where
  exclusive : s.holding.Exclusive
  knows : s.holding.Knows (Stands settings s)
  spoken : ∀ conn k, s.connections.get? conn = some k → Conversation settings k.written
  heart : ∀ h, s.heartbeat = some h → HeartOk settings s h.conn
  rested : s.control.Resting → ∀ i p, s.tunnelPoint i = some p → p = .ended
  pinned : ∃ pin, Ok settings.sha256 pin s

/-- Nobody has the connection any more, and it is open. -/
def Abandoned (s : ClientRun) (conn : Nat) : Prop :=
  s.holding.Orphan conn ∧ ∃ k, s.connections.get? conn = some k ∧ k.closed = false

/-- A step from `s` to `t` that loses the connection `lost`, if any. -/
structure Advances (settings : ClientSettings) (lost : Option Nat) (s t : ClientRun) : Prop where
  orderly : Orderly settings t
  later : ∀ conn k, s.connections.get? conn = some k →
    ∃ k', t.connections.get? conn = some k' ∧ k.Later k'
  stays : ∀ conn, s.Abandoned conn → t.Abandoned conn
  left : ∀ conn, t.Abandoned conn → lost = some conn ∨ s.Abandoned conn

theorem Orderly.holds (h : Orderly settings s) (i : Option Nat) :
    Holds s.connections (s.heldBy i) (Stands settings s i) := by
  intro r hr
  have hlt := h.exclusive.bound i r hr
  obtain ⟨k, hk⟩ : ∃ k, s.connections.get? r = some k :=
    ⟨_, List.getElem?_eq_getElem hlt⟩
  exact ⟨k, hk, h.knows i r k hr hk⟩

theorem Does.moves (h : Does settings lost i s t) : Holdings.Moves i s.holding t.holding :=
  Turn.moves (h := s.holding) (k := t.holding) h.turn h.others

theorem Does.advances (hd : Does settings lost i s t) (h : Orderly settings s)
    (hheart : ∀ b, t.heartbeat = some b → t.holding.Exclusive → HeartOk settings t b.conn)
    (hrested : t.control.Resting → ∀ i p, t.tunnelPoint i = some p → p = .ended)
    (hpinned : ∃ pin, Ok settings.sha256 pin t) : Advances settings lost s t where
  orderly :=
    { exclusive := h.exclusive.moves hd.moves
      knows := by
        refine h.knows.moves h.exclusive hd.moves hd.known fun r k hr hk => ?_
        obtain ⟨k', hk', hstands⟩ := hd.turn.stands r hr
        rw [show t.connections.get? r = some k from hk] at hk'
        cases hk'
        exact hstands
      spoken := Turn.fine_moves (h := s.holding) (k := t.holding) hd.turn h.spoken
      heart := fun b hb => hheart b hb (h.exclusive.moves hd.moves)
      rested := hrested
      pinned := hpinned }
  later := hd.turn.later
  stays := by
    rintro conn ⟨horphan, k, hk, hopen⟩
    obtain ⟨horphan', hsame⟩ := horphan.moves hd.moves
    exact ⟨horphan', k, hsame.trans hk, hopen⟩
  left := by
    rintro conn ⟨horphan, k, hk, hopen⟩
    rcases horphan.of_moves hd.moves with hmine | ⟨horphan', hsame⟩
    · rcases hd.turn.left conn k hmine (horphan.2 i) hk with hclosed | hlost
      · have hclosed : k.closed = true := hclosed
        rw [hopen] at hclosed
        cases hclosed
      · exact .inl hlost
    · exact .inr ⟨horphan', k, hsame.symm.trans hk, hopen⟩

theorem TunnelPoint.eq_ended {p : TunnelPoint} (h : p.isOver = true) : p = .ended := by
  cases p <;> simp [isOver] at h ⊢

/-- The heartbeat begins with the connection that is served, or it is the one that was there. -/
theorem ControlDoes.heartOk {b : Heartbeat} (hdoes : ControlDoes settings lost s t)
    (h : Orderly settings s) (hexclusive : t.holding.Exclusive) (hb : t.heartbeat = some b) :
    HeartOk settings t b.conn := by
  cases hbeat : s.heartbeat with
  | none =>
      rcases hdoes.begun hbeat with hnone | ⟨conn, hnew, hserving⟩
      · rw [hnone] at hb
        cases hb
      · rw [hnew] at hb
        cases hb
        have hheld : t.heldBy none = some conn := by
          simp only [heldBy, hserving, ControlPoint.conn]
        obtain ⟨k, hk, hstands⟩ := hdoes.turn.stands conn hheld
        rw [hserving] at hstands
        refine ⟨⟨k, hk, hstands⟩, ?_, fun i hi => ?_⟩
        · rw [hserving]
          rfl
        · cases hexclusive.unique none (some i) conn hheld hi
  | some b' =>
      have hok := h.heart b' hbeat
      rcases hdoes.attended b' hbeat hok.attended with hnone | ⟨hsame, hconns, hattends⟩
      · rw [hnone] at hb
        cases hb
      · rw [hsame] at hb
        cases hb
        refine ⟨?_, hattends, fun i hi => ?_⟩
        · rw [hconns]
          exact hok.served
        · rw [hdoes.does.others (some i) (Option.some_ne_none i)] at hi
          exact hok.apart i hi

theorem control_advances {e : ControlEvent} (h : Orderly settings s)
    (hpinned : ∃ pin, Ok settings.sha256 pin t) (hs : s.controlStep settings e = some t) :
    Advances settings (s.abandons (.control e)) s t := by
  have hdoes := controlStep_does (h.holds none) (fun b hb => (h.heart b hb).attended) hs
  refine hdoes.does.advances h (fun b hb hexclusive => hdoes.heartOk h hexclusive hb) ?_ hpinned
  intro hresting i p hp
  obtain ⟨htunnels, hwas⟩ := hdoes.rested hresting
  rw [tunnelPoint_of_eq htunnels] at hp
  rcases hwas with hwas | hover
  · exact h.rested hwas i p hp
  · obtain ⟨task, htask, rfl⟩ := Option.map_eq_some_iff.mp hp
    exact TunnelPoint.eq_ended ((Heap.all_iff _ _).mp hover i task htask)

/-- A tunnel opens its connection with a trusted fingerprint. -/
theorem Orderly.not_asks {i : Nat} {task : TunnelTask} (h : Orderly settings s)
    (htask : s.tunnels.get? i = some task) : ¬ task.point.Asks := by
  obtain ⟨pin, hok⟩ := h.pinned
  obtain ⟨htrusted, hpoint⟩ := hok.tunnels i task htask
  intro hasks
  unfold TunnelPoint.Asks at hasks
  split at hasks
  · rename_i hp
    rw [hp] at hpoint
    exact htrusted hpoint.1
  · exact hasks

theorem Orderly.tunnelDoes {i : Nat} {task : TunnelTask} {e : TunnelEvent}
    (h : Orderly settings s) (htask : s.tunnels.get? i = some task)
    (hs : s.tunnelStep settings i task e = some t) :
    TunnelDoes settings (s.loses (.tunnel i e)) i s t := by
  have hpoint : s.tunnelPoint i = some task.point := by
    rw [tunnelPoint, htask]
    rfl
  have hheld : s.heldBy (some i) = task.point.conn := by
    simp only [heldBy, hpoint, Option.bind_some]
  refine tunnelStep_does htask (h.not_asks htask) ?_ hs
  rw [← hheld]
  exact (h.holds (some i)).mono fun k hstands => hstands _ hpoint

theorem tunnel_advances {i : Nat} {task : TunnelTask} {e : TunnelEvent} (h : Orderly settings s)
    (hpinned : ∃ pin, Ok settings.sha256 pin t) (htask : s.tunnels.get? i = some task)
    (hs : s.tunnelStep settings i task e = some t) :
    Advances settings (s.loses (.tunnel i e)) s t := by
  have hpoint : s.tunnelPoint i = some task.point := by
    rw [tunnelPoint, htask]
    rfl
  have hdoes := h.tunnelDoes htask hs
  refine hdoes.does.advances h ?_ ?_ hpinned
  · intro b hb _
    rw [hdoes.heartbeat] at hb
    have hok := h.heart b hb
    obtain ⟨k, hkb, hserved⟩ := hok.served
    have hlt := Heap.lt_size_of_get? hkb
    refine ⟨⟨k, (hdoes.turn.same b.conn hlt (hok.apart i)).trans hkb, hserved⟩, ?_, ?_⟩
    · rw [hdoes.control]
      exact hok.attended
    · intro j hj
      by_cases hji : j = i
      · subst hji
        rcases hdoes.turn.taken b.conn hj with hold | hnew
        · exact hok.apart j hold
        · omega
      · rw [hdoes.does.others (some j) fun heq => hji (Option.some.inj heq)] at hj
        exact hok.apart j hj
  · intro hresting j p hp
    rw [hdoes.control] at hresting
    have hover := h.rested hresting
    by_cases hji : j = i
    · subst hji
      have hended : task.point = .ended := hover j _ hpoint
      rw [hended] at hpoint
      rw [hdoes.ended hpoint] at hp
      exact (Option.some.inj hp).symm
    · rw [hdoes.others j hji] at hp
      exact hover j p hp

/-! ## The heartbeat -/

def Connection.ping (time : PyFloat) (k : Connection) : Connection :=
  { k with written := k.written ++ [.message (pingMessage time)] }

/-- What the control task knows of the connection stays true when the heartbeat writes on it. -/
theorem ControlPoint.Stands.ping {p : ControlPoint} {conn : Nat} {k : Connection} {time : PyFloat}
    (h : p.Stands settings k) (hattends : p.Attends conn) (hheld : p.conn = some conn)
    (hserved : Served settings k.written) : p.Stands settings (k.ping time) := by
  cases p with
  | serving c => exact ⟨h.1, hserved.beat time⟩
  | stopping c r => exact ⟨h.1, .served (hserved.beat time)⟩
  | opening o => exact hattends.elim
  | hello c => exact hattends.elim
  | helloReply c => exact hattends.elim
  | register c again => exact hattends.elim
  | registerReply c again => exact hattends.elim
  | confirmForce c => exact hattends.elim
  | closing r => exact hattends.elim
  | cancelling r => cases hheld
  | sleeping => exact hattends.elim
  | ended => cases hheld

theorem ping_advances {b : Heartbeat} {time : PyFloat} (h : Orderly settings s)
    (hbeat : s.heartbeat = some b)
    (hpinned : ∃ pin, Ok settings.sha256 pin
      { s with connections := s.connections.modify b.conn (Connection.ping time) }) :
    Advances settings none s
      { s with connections := s.connections.modify b.conn (Connection.ping time) } := by
  have hok := h.heart b hbeat
  obtain ⟨k, hk, hopen, hserved⟩ := hok.served
  have hping : (s.connections.modify b.conn (Connection.ping time)).get? b.conn =
      some (k.ping time) := by
    rw [Heap.get?_modify, if_pos rfl, hk]
    rfl
  have hother : ∀ conn, conn ≠ b.conn →
      (s.connections.modify b.conn (Connection.ping time)).get? conn =
        s.connections.get? conn := fun conn hne => by rw [Heap.get?_modify, if_neg hne]
  have habandoned : ∀ conn,
      Abandoned { s with connections := s.connections.modify b.conn (Connection.ping time) } conn ↔
        s.Abandoned conn := by
    intro conn
    refine and_congr (Holdings.orphan_work (h := s.holding) b.conn _) ?_
    by_cases hconn : conn = b.conn
    · subst hconn
      simp only [hping, hk, Option.some.injEq, exists_eq_left', Connection.ping]
    · simp only [hother conn hconn]
  constructor
  case later =>
    intro conn k' hk'
    by_cases hconn : conn = b.conn
    · subst hconn
      rw [hk] at hk'
      cases hk'
      exact ⟨_, hping, later_write settings _ hopen⟩
    · exact ⟨k', (hother conn hconn).trans hk', (discipline settings).refl k'⟩
  case stays => exact fun conn => (habandoned conn).mpr
  case left => exact fun conn hleft => .inr ((habandoned conn).mp hleft)
  case orderly =>
    constructor
    case exclusive => exact h.exclusive.work b.conn _
    case knows =>
      have hknows := h.knows.work (r := b.conn) (f := Connection.ping time) ?_
      · intro j r k' hr hk'
        have hstands := hknows j r k' hr hk'
        cases j with
        | none => exact hstands
        | some j => exact hstands
      · intro j k' hj hk' hstands
        rw [show s.connections.get? b.conn = some k' from hk'] at hk
        cases hk
        cases j with
        | none => exact hstands.ping hok.attended hj hserved
        | some j => exact absurd hj (hok.apart j)
    case spoken =>
      intro conn k' hk'
      by_cases hconn : conn = b.conn
      · subst hconn
        rw [hping] at hk'
        cases hk'
        exact .served (hserved.beat time)
      · rw [hother conn hconn] at hk'
        exact h.spoken conn k' hk'
    case heart =>
      intro b' hb'
      rw [show s.heartbeat = some b' from hb'] at hbeat
      cases hbeat
      exact ⟨⟨_, hping, hopen, hserved.beat time⟩, hok.attended, hok.apart⟩
    case rested => exact h.rested
    case pinned => exact hpinned

/-- A heartbeat that fails is there until the connection is left. -/
theorem beatFailed_advances {b : Heartbeat} (h : Orderly settings s)
    (hbeat : s.heartbeat = some b)
    (hpinned : ∃ pin, Ok settings.sha256 pin
      { s with heartbeat := some { b with failed := true } }) :
    Advances settings none s { s with heartbeat := some { b with failed := true } } where
  orderly :=
    { exclusive := h.exclusive
      knows := by
        intro j r k hr hk
        have hstands := h.knows j r k hr hk
        cases j with
        | none => exact hstands
        | some j => exact hstands
      spoken := h.spoken
      heart := by
        intro b' hb'
        cases hb'
        have hok := h.heart b hbeat
        exact ⟨hok.served, hok.attended, hok.apart⟩
      rested := h.rested
      pinned := hpinned }
  later conn k hk := ⟨k, hk, (discipline settings).refl k⟩
  stays conn hconn := hconn
  left conn hconn := .inr hconn

/-! ## Runs -/

theorem step_advances {e : Event} (h : Orderly settings s) (hs : step settings s e = some t) :
    Advances settings (s.loses e) s t := by
  have hpinned : ∃ pin, Ok settings.sha256 pin t :=
    h.pinned.imp fun _ hok => (step_ok hok hs).ok
  cases e with
  | control e =>
      have hlost : s.loses (.control e) = s.abandons (.control e) := Option.or_none
      rw [hlost]
      exact control_advances h hpinned hs
  | beat time =>
      have hs : s.beat time = some t := hs
      unfold beat at hs
      split at hs
      · rename_i conn hbeat
        cases hs
        exact ping_advances h hbeat hpinned
      · cases hs
  | beatFailed =>
      obtain ⟨b, hbeat, rfl⟩ := Option.map_eq_some_iff.mp hs
      exact beatFailed_advances h hbeat hpinned
  | tunnel i e =>
      obtain ⟨task, htask, hs⟩ := Option.bind_eq_some_iff.mp hs
      exact tunnel_advances h hpinned htask hs

theorem initial_conn (settings : ClientSettings) (environ : Environment) :
    (initial settings environ).control.conn = none := by
  unfold initial
  dsimp only
  split <;> rfl

theorem initial_orderly (settings : ClientSettings) (environ : Environment) :
    Orderly settings (initial settings environ) where
  exclusive := Holdings.Exclusive.empty fun i => by
    cases i with
    | none => exact initial_conn settings environ
    | some i => rfl
  knows := nofun
  spoken := nofun
  heart := nofun
  rested := nofun
  pinned := ⟨_, initial_ok settings environ⟩

theorem runs_orderly {C : ClientRun → Event → Prop}
    (h : (clientRun settings environ).ReachableUnder C s) : Orderly settings s :=
  h.invariant (P := Orderly settings) (initial_orderly settings environ)
    fun _ _ _ _ hu _ hs => (step_advances hu hs).orderly

theorem runs_later {conn : Nat} {k : Connection} (h : Orderly settings s)
    (hr : (clientRun settings environ).Runs (fun _ _ => True) s t)
    (hk : s.connections.get? conn = some k) :
    Orderly settings t ∧ ∃ k', t.connections.get? conn = some k' ∧ k.Later k' := by
  induction hr with
  | refl => exact ⟨h, k, hk, (discipline settings).refl k⟩
  | tail _ _ hs ih =>
      obtain ⟨horderly, k', hk', hlater⟩ := ih
      have hstep := step_advances horderly hs
      obtain ⟨k'', hk'', hlater'⟩ := hstep.later conn k' hk'
      exact ⟨hstep.orderly, k'', hk'', (discipline settings).trans hlater hlater'⟩

/-! ## Connections that are left open -/

/-- No tunnel is cancelled while it closes its connections. -/
def Uninterrupted (s : ClientRun) (e : Event) : Prop := s.interrupts e = none

/-- The client was cancelled. -/
def ControlPoint.Over : ControlPoint → Prop
  | .cancelling .cancelled => True
  | .ended => True
  | _ => False

theorem uninterrupted_control (e : ControlEvent) : s.Uninterrupted (.control e) := rfl

theorem uninterrupted_beat (time : PyFloat) : s.Uninterrupted (.beat time) := rfl

theorem uninterrupted_tunnel {i : Nat} {e : TunnelEvent} (he : e ≠ .cancel) :
    s.Uninterrupted (.tunnel i e) := by
  cases e with
  | cancel => exact absurd rfl he
  | _ => rfl

theorem loses_of_uninterrupted {e : Event} (he : s.Uninterrupted e) : s.loses e = s.abandons e := by
  have he : s.interrupts e = none := he
  rw [loses, he, Option.or_none]

theorem abandons_cases {e : Event} {conn : Nat} (he : s.abandons e = some conn)
    (hs : step settings s e = some t) :
    t = s.afterRunOnce .cancelled ∧ s.control.conn = some conn ∧
      ∀ k, s.control.Stands settings k → k.closed = false := by
  unfold abandons at he
  split at he
  · have hs : s.cancelControl = some t := by
      rw [← hs]
      simp only [step, controlStep]
    split at he
    · rename_i c fingerprint hpoint
      cases he
      simp only [cancelControl, hpoint, Option.some.injEq] at hs
      refine ⟨hs.symm, ?_, ?_⟩
      · rw [hpoint]
        rfl
      · rw [hpoint]
        exact fun k h => h.1
    · rename_i c r hpoint
      cases he
      simp only [cancelControl, hpoint, Option.some.injEq] at hs
      refine ⟨hs.symm, ?_, ?_⟩
      · rw [hpoint]
        rfl
      · rw [hpoint]
        exact fun k h => h.1
    · cases he
  · cases he

/-- A connection whose cleanup is skipped is nobody's, and open. -/
theorem abandoned_of_abandons {e : Event} {conn : Nat} (h : Orderly settings s)
    (he : s.abandons e = some conn) (hs : step settings s e = some t) : t.Abandoned conn := by
  obtain ⟨rfl, hconn, hopen⟩ := abandons_cases he hs
  obtain ⟨k, hk, hstands⟩ := h.holds none conn hconn
  refine ⟨⟨Heap.lt_size_of_get? hk, fun i hi => ?_⟩, k, hk, hopen k hstands⟩
  have hi : (s.afterRunOnce .cancelled).heldBy i = some conn := hi
  cases i with
  | none => cases hi
  | some i =>
      simp only [heldBy, tunnelPoint_afterRunOnce] at hi
      cases h.exclusive.unique none (some i) conn hconn hi

theorem ControlPoint.Over.cases {p : ControlPoint} (h : p.Over) :
    p = .cancelling .cancelled ∨ p = .ended := by
  cases p with
  | cancelling r =>
      cases r with
      | cancelled => exact .inl rfl
      | error e => exact h.elim
  | ended => exact .inr rfl
  | _ => exact h.elim

/-- A client that was cancelled only ends. -/
theorem controlStep_over {e : ControlEvent} (h : s.control.Over)
    (hs : s.controlStep settings e = some t) : t.control = .ended := by
  rcases h.cases with hpoint | hpoint
  · cases e with
    | cancel =>
        simp only [controlStep, cancelControl, hpoint, Option.some.injEq] at hs
        rw [← hs]
    | gathered =>
        simp only [controlStep, hpoint] at hs
        split at hs
        · cases hs
          rfl
        · cases hs
    | _ => simp [controlStep, hpoint, ControlPoint.conversation] at hs
  · cases e <;> simp [controlStep, cancelControl, hpoint, ControlPoint.conversation] at hs

theorem step_over {e : Event} (horderly : Orderly settings s) (h : s.control.Over)
    (hs : step settings s e = some t) : t.control.Over := by
  cases e with
  | control e =>
      rw [controlStep_over h hs]
      trivial
  | beat time =>
      have hs : s.beat time = some t := hs
      unfold beat at hs
      split at hs
      · cases hs
        exact h
      · cases hs
  | beatFailed =>
      obtain ⟨b, -, rfl⟩ := Option.map_eq_some_iff.mp hs
      exact h
  | tunnel i e =>
      obtain ⟨task, htask, hs⟩ := Option.bind_eq_some_iff.mp hs
      rw [(horderly.tunnelDoes htask hs).control]
      exact h

/-- In a run in which no tunnel is interrupted, what is left open was abandoned, and then the
client is over. -/
theorem exists_abandons {conn : Nat}
    (h : (clientRun settings environ).ReachableUnder Uninterrupted t) (ht : t.Abandoned conn) :
    t.control.Over ∧ ∃ s e u, (clientRun settings environ).ReachableUnder Uninterrupted s ∧
      s.abandons e = some conn ∧ (clientRun settings environ).step s e = some u ∧
      (clientRun settings environ).Runs Uninterrupted u t := by
  induction h with
  | refl =>
      obtain ⟨⟨hlt, -⟩, -⟩ := ht
      cases hlt
  | @tail s t e hr he hs ih =>
      have horderly : Orderly settings s := runs_orderly hr
      have hs' : step settings s e = some t := hs
      rcases (step_advances horderly hs').left conn ht with hlost | hwas
      · rw [loses_of_uninterrupted he] at hlost
        obtain ⟨rfl, -⟩ := abandons_cases hlost hs'
        exact ⟨trivial, s, e, _, hr, hlost, hs, .refl⟩
      · obtain ⟨hover, s₀, e₀, u, hs₀, habandons, hstep, hruns⟩ := ih hwas
        exact ⟨step_over horderly hover hs', s₀, e₀, u, hs₀, habandons, hstep,
          hruns.tail he hs⟩

theorem runs_abandoned {conn : Nat} {C : ClientRun → Event → Prop} (horderly : Orderly settings s)
    (hs : s.Abandoned conn) (hr : (clientRun settings environ).Runs C s t) : t.Abandoned conn := by
  have hboth : Orderly settings t ∧ t.Abandoned conn := by
    induction hr with
    | refl => exact ⟨horderly, hs⟩
    | tail _ _ hstep ih =>
        have hadvances := step_advances ih.1 hstep
        exact ⟨hadvances.orderly, hadvances.stays conn ih.2⟩
  exact hboth.2

/-! ## A tunnel beside the control connection -/

/-- The certificate is the one that is trusted. -/
theorem trusted_eq {certificate : Bytes} (hcert : certificate ≠ []) (digest : Digest)
    (answer : Answer) (htrusted : s.trusted = some (formatFingerprint digest)) :
    openServerConnection (exampleSettings digest) s .connecting
        (.connected (.tls (some certificate)) answer) =
      some (s.opened (.tls (some certificate)), .opened s.connections.size) := by
  have hpeer := peerFingerprint_given hcert (exampleSettings digest).sha256
  have haccepted : verifyServerFingerprint (exampleSettings digest).sha256 s.trusted
      (.tls (some certificate)) = .accepted := by
    unfold verifyServerFingerprint
    rw [hpeer, htrusted]
    show (if fingerprintsEqual (formatFingerprint digest) (formatFingerprint digest) then
      Verdict.accepted else .refused (.security fingerprintChanged)) = .accepted
    rw [if_pos (fingerprintsEqual_format digest.2)]
  unfold openServerConnection
  dsimp only
  rw [haccepted]
  rfl

theorem step_tunnelOpened {i : Nat} {e : OpenEvent} {conn : Nat} {task : TunnelTask}
    {r : TunnelRequest} {localError : Option String} {time : PyFloat}
    (htask : s.tunnels.get? i = some task)
    (hpoint : task.point = .opening r localError .connecting)
    (hopen : openServerConnection settings s .connecting e = some (t, .opened conn)) :
    (clientRun settings environ).step s (.tunnel i (.openEvent e time)) =
      some ((t.write conn (.message (tunnelMessage r localError time))).setTunnel i
        (.sending conn localError)) := by
  simp only [clientRun, step, htask, Option.bind_some, tunnelStep, hpoint, hopen, Option.map_some]

def exampleRegistered : Fields := [("type", .str "registered"), ("status", .str "ok")]

def exampleOpen : Fields := [("type", .str "open"), ("id", .str "t1"), ("service", .str "web")]

/-- The client has registered, and relays the first tunnel that it is asked for. Then it loses
its control connection, and connects again. -/
theorem exists_relaying {certificate : Bytes} (hcert : certificate ≠ []) (digest : Digest)
    (time : PyFloat) :
    ∃ (s t : ClientRun) (k₀ k₁ l₀ l₁ : Connection),
      (clientRun (exampleSettings digest) .empty).ReachableUnder Uninterrupted s ∧
      (s.heldBy none = some 0 ∧ s.heldBy (some 0) = some 1 ∧ s.heartbeat.isSome = true ∧
        s.connections.get? 0 = some k₀ ∧ k₀.written.length = 2 ∧
        s.connections.get? 1 = some k₁ ∧ k₁.written.length = 2) ∧
      (clientRun (exampleSettings digest) .empty).Runs Uninterrupted s t ∧
      t.control = .opening .connecting ∧ t.tunnelPoint 0 = some .ended ∧
      t.connections.get? 0 = some l₀ ∧ l₀.written.length = 3 ∧
      t.connections.get? 1 = some l₁ ∧ l₁.written.length = 2 := by
  have hinit : (clientRun (exampleSettings digest) .empty).ReachableUnder Uninterrupted
      (initial (exampleSettings digest) .empty) := System.ReachableUnder.init
  have haffirmed := affirmed_eq (s := initial (exampleSettings digest) .empty) hcert digest rfl
  have hhello := hinit.tail (uninterrupted_control _) (step_opened rfl haffirmed)
  have hdrained := hhello.tail (a := .control .drained) (uninterrupted_control _) rfl
  have hregister := hdrained.tail (a := .control (.received (some []) .closed))
    (uninterrupted_control _) rfl
  have hsent := hregister.tail (a := .control .drained) (uninterrupted_control _) rfl
  have hserving := hsent.tail (a := .control (.received (some exampleRegistered) .closed))
    (uninterrupted_control _) rfl
  have hasked := hserving.tail (a := .control (.received (some exampleOpen) .closed))
    (uninterrupted_control _) rfl
  have hstarted := hasked.tail (a := .tunnel 0 .start) (uninterrupted_tunnel (by nofun)) rfl
  have hdialled := hstarted.tail (a := .tunnel 0 .connected) (uninterrupted_tunnel (by nofun)) rfl
  have hopened := hdialled.tail
    (a := .tunnel 0 (.openEvent (.connected (.tls (some certificate)) .closed) time))
    (uninterrupted_tunnel (by nofun))
    (step_tunnelOpened rfl rfl (trusted_eq hcert digest .closed rfl))
  have hrelaying := hopened.tail (a := .tunnel 0 .drained) (uninterrupted_tunnel (by nofun)) rfl
  have hframes := hrelaying.tail (a := .tunnel 0 (.frames [0x2A]))
    (uninterrupted_tunnel (by nofun)) rfl
  -- the heartbeat is stopped, and then the tunnel is cancelled
  have hstay : ∀ {s}, (clientRun (exampleSettings digest) .empty).ReachableUnder Uninterrupted s →
      (clientRun (exampleSettings digest) .empty).Runs Uninterrupted s s := fun _ => .refl
  have hbeat := (hstay hframes).tail (a := .beat time) (uninterrupted_beat _) rfl
  have hlost := hbeat.tail (a := .control (.received none .closed)) (uninterrupted_control _) rfl
  have hstopped := hlost.tail (a := .control .stopped) (uninterrupted_control _) rfl
  have hclosed := hstopped.tail (a := .control .closed) (uninterrupted_control _) rfl
  have hcancelled := hclosed.tail (a := .tunnel 0 .cancel) (show interrupts _ _ = none from rfl) rfl
  have hended := hcancelled.tail (a := .tunnel 0 .closed) (uninterrupted_tunnel (by nofun)) rfl
  have hgathered := hended.tail (a := .control .gathered) (uninterrupted_control _) rfl
  have hslept := hgathered.tail (a := .control .slept) (uninterrupted_control _) rfl
  exact ⟨_, _, _, _, _, _, hframes, ⟨rfl, rfl, rfl, rfl, rfl, rfl, rfl⟩, hslept, rfl, rfl, rfl, rfl,
    rfl, rfl⟩

/-- The user is asked on the terminal. -/
def askingSettings (digest : Digest) : ClientSettings :=
  { exampleSettings digest with confirmsFingerprint := false }

theorem asked_eq {certificate : Bytes} (hcert : certificate ≠ []) (digest : Digest)
    (htrusted : s.trusted = none) :
    openServerConnection (askingSettings digest) s .connecting
        (.connected (.tls (some certificate)) .closed) =
      some (s.opened (.tls (some certificate)),
        .opening (.confirming s.connections.size (formatFingerprint digest))) := by
  have hpeer := peerFingerprint_given hcert (askingSettings digest).sha256
  have hasks : verifyServerFingerprint (askingSettings digest).sha256 s.trusted
      (.tls (some certificate)) = .asks (formatFingerprint digest) := by
    unfold verifyServerFingerprint
    rw [hpeer, htrusted]
    rfl
  unfold openServerConnection
  dsimp only
  rw [hasks]
  rfl

end ClientRun

open ClientRun in
/-- Two tasks never have the same connection. What is written on a connection, from its
beginning, is one of the conversations. The heartbeat writes on an open one that was
registered: that of the control task, if it has one, and never that of a tunnel. A connection
keeps its peer and what was written on it, and once it is closed nothing becomes of it. -/
theorem connections_apart (settings : ClientSettings) (environ : Environment) {s : ClientRun}
    (h : (clientRun settings environ).Reachable s) :
    (∀ i j conn, s.heldBy i = some conn → s.heldBy j = some conn → i = j) ∧
    (∀ conn k, s.connections.get? conn = some k → Conversation settings k.written) ∧
    (∀ b, s.heartbeat = some b →
      (∃ k, s.connections.get? b.conn = some k ∧ k.closed = false ∧ Served settings k.written) ∧
      (∀ conn, s.heldBy none = some conn → conn = b.conn) ∧
      ∀ i, s.heldBy (some i) ≠ some b.conn) ∧
    ∀ conn k t, s.connections.get? conn = some k →
      (clientRun settings environ).Runs (fun _ _ => True) s t →
      ∃ k', t.connections.get? conn = some k' ∧ k'.peer = k.peer ∧ k.written <+: k'.written ∧
        (k.closed = true → k' = k) := by
  have horderly : Orderly settings s := runs_orderly h
  refine ⟨horderly.exclusive.unique, horderly.spoken, ?_, ?_⟩
  · intro b hb
    obtain ⟨hserved, hattended, hapart⟩ := horderly.heart b hb
    exact ⟨hserved, fun conn hconn => hattended.eq hconn, hapart⟩
  · intro conn k t hk hr
    exact (runs_later horderly hr hk).2

open ClientRun in
/-- The client relays a tunnel, beside its control connection. -/
theorem connections_apart_relaying :
    ∃ (s : ClientRun) (k₀ k₁ : Connection), s.heldBy none = some 0 ∧ s.heldBy (some 0) = some 1 ∧
      s.connections.get? 0 = some k₀ ∧ k₀.written.length = 2 ∧
      Conversation (exampleSettings exampleDigest) k₀.written ∧
      s.connections.get? 1 = some k₁ ∧ k₁.written.length = 2 ∧
      Conversation (exampleSettings exampleDigest) k₁.written := by
  have hcert : exampleDer ≠ [] := nofun
  obtain ⟨s, -, k₀, k₁, -, -, hs, ⟨hcontrol, htunnel, -, hk₀, hwritten₀, hk₁, hwritten₁⟩, -⟩ :=
    exists_relaying hcert exampleDigest (.finite 0)
  obtain ⟨-, hspoken, -⟩ := connections_apart (exampleSettings exampleDigest) .empty hs.reachable
  exact ⟨s, k₀, k₁, hcontrol, htunnel, hk₀, hwritten₀, hspoken 0 k₀ hk₀, hk₁, hwritten₁,
    hspoken 1 k₁ hk₁⟩

open ClientRun in
/-- In a run in which no tunnel is cancelled while it closes its connections, a connection is
left open by all tasks if and only if the client was cancelled while the user was asked about
it, or while its heartbeat was stopped. It then stays open. -/
theorem abandoned_iff (settings : ClientSettings) (environ : Environment) {t : ClientRun}
    (h : (clientRun settings environ).ReachableUnder Uninterrupted t) (conn : Nat) :
    ((∀ i, t.heldBy i ≠ some conn) ∧
        ∃ k, t.connections.get? conn = some k ∧ k.closed = false) ↔
      ∃ s e u, (clientRun settings environ).ReachableUnder Uninterrupted s ∧
        s.abandons e = some conn ∧ (clientRun settings environ).step s e = some u ∧
        (clientRun settings environ).Runs Uninterrupted u t := by
  constructor
  · rintro ⟨hnone, k, hk, hopen⟩
    exact (exists_abandons h ⟨⟨Heap.lt_size_of_get? hk, hnone⟩, k, hk, hopen⟩).2
  · rintro ⟨s, e, u, hs, habandons, hstep, hruns⟩
    have horderly : Orderly settings s := runs_orderly hs
    have hu := abandoned_of_abandons horderly habandons hstep
    obtain ⟨⟨-, hnone⟩, hopen⟩ :=
      runs_abandoned (step_advances horderly hstep).orderly hu hruns
    exact ⟨hnone, hopen⟩

open ClientRun in
/-- The client is cancelled while the user is asked about the first certificate. -/
theorem abandoned_iff_asked :
    ∃ (t : ClientRun), t.control = .cancelling .cancelled ∧ (∀ i, t.heldBy i ≠ some 0) ∧
      ∃ k, t.connections.get? 0 = some k ∧ k.closed = false := by
  have hcert : exampleDer ≠ [] := nofun
  have hinit : (clientRun (askingSettings exampleDigest) .empty).ReachableUnder Uninterrupted
      (initial (askingSettings exampleDigest) .empty) := System.ReachableUnder.init
  have hasked := asked_eq (s := initial (askingSettings exampleDigest) .empty) hcert
    exampleDigest rfl
  have hconfirming := hinit.tail (uninterrupted_control _) (step_opening rfl hasked)
  have hcancelled := hconfirming.tail (a := .control .cancel) (uninterrupted_control _) rfl
  refine ⟨_, rfl, (abandoned_iff (askingSettings exampleDigest) .empty hcancelled 0).mpr ?_⟩
  exact ⟨_, .control .cancel, _, hconfirming, rfl, rfl, .refl⟩

open ClientRun in
/-- In such a run, as long as no server is served and whenever the client waits to connect
again, all tunnels have ended, there is no heartbeat, and every connection is closed but the one
that the control task has. -/
theorem resting_closed (settings : ClientSettings) (environ : Environment) {s : ClientRun}
    (h : (clientRun settings environ).ReachableUnder Uninterrupted s)
    (hresting : s.control.Resting) :
    (∀ i p, s.tunnelPoint i = some p → p = .ended) ∧ s.heartbeat = none ∧
      ∀ conn k, s.connections.get? conn = some k → k.closed = false →
        s.control.conn = some conn := by
  have horderly : Orderly settings s := runs_orderly h
  have hended := horderly.rested hresting
  refine ⟨hended, quiet_of_resting (fun b hb => (horderly.heart b hb).attended) hresting, ?_⟩
  intro conn k hk hopen
  by_contra hcontrol
  have habandoned : s.Abandoned conn := by
    refine ⟨⟨Heap.lt_size_of_get? hk, fun i hi => ?_⟩, k, hk, hopen⟩
    have hi : s.heldBy i = some conn := hi
    cases i with
    | none => exact hcontrol hi
    | some i =>
        obtain ⟨p, hp, hconn⟩ := Option.bind_eq_some_iff.mp hi
        rw [hended i p hp] at hconn
        cases hconn
  rcases (exists_abandons h habandoned).1.cases with hpoint | hpoint
  · rw [hpoint] at hresting
    exact hresting
  · rw [hpoint] at hresting
    exact hresting

open ClientRun in
/-- The control connection is lost while a tunnel is relayed, and the client connects again. -/
theorem resting_closed_reconnecting :
    ∃ (s t : ClientRun) (k₀ k₁ : Connection),
      (clientRun (exampleSettings exampleDigest) .empty).ReachableUnder Uninterrupted s ∧
      s.heldBy none = some 0 ∧ s.heldBy (some 0) = some 1 ∧ s.heartbeat.isSome = true ∧
      (clientRun (exampleSettings exampleDigest) .empty).Runs Uninterrupted s t ∧
      t.control = .opening .connecting ∧ t.tunnelPoint 0 = some .ended ∧ t.heartbeat = none ∧
      t.connections.get? 0 = some k₀ ∧ k₀.written.length = 3 ∧ k₀.closed = true ∧
      t.connections.get? 1 = some k₁ ∧ k₁.written.length = 2 ∧ k₁.closed = true := by
  have hcert : exampleDer ≠ [] := nofun
  obtain ⟨s, t, -, -, k₀, k₁, hs, ⟨hcontrol, htunnel, hbeat, -⟩, ht, hresting, hended, hk₀,
    hwritten₀, hk₁, hwritten₁⟩ := exists_relaying hcert exampleDigest (.finite 0)
  obtain ⟨-, hnone, hothers⟩ :=
    resting_closed (exampleSettings exampleDigest) .empty (hs.runs ht) (by rw [hresting]; trivial)
  have hclosed : ∀ conn k, t.connections.get? conn = some k → k.closed = true := by
    intro conn k hk
    by_contra hopen
    have hheld := hothers conn k hk (Bool.eq_false_iff.mpr hopen)
    rw [hresting] at hheld
    cases hheld
  exact ⟨s, t, k₀, k₁, hs, hcontrol, htunnel, hbeat, ht, hresting, hended, hnone, hk₀, hwritten₀,
    hclosed 0 k₀ hk₀, hk₁, hwritten₁, hclosed 1 k₁ hk₁⟩

end PyFrp
