import PyFrp.Server.Cancellation
import PyFrp.Server.Closing

/-!
# Tunnel connections that are handed over

A tunnel connection is handed to a public handler through a future: the task that
resolves it keeps no reference, and the handler has one only after its wait has
ended well. If the wait ends otherwise, nobody closes the tunnel connection.
The module proves that in runs without such a step a handler leaves nothing behind,
whatever is cancelled, removed and preempted meanwhile.
-/

namespace PyFrp

open Python Coop Store

/-- The tunnel connection a future was resolved with. -/
def Future.tunnel : Future → Option Nat
  | .result k => some k
  | _ => none

def Store.tunnelClosed (σ : Store) (k : Nat) : Bool := (σ.tunnels.get? k).any TunnelConn.closed

/-- Nothing is left of public connection `h`: no pending record, no open connection, and
no open tunnel connection that was accepted for it. -/
structure Released (σ : Store) (h : Nat) (conn : PublicConn) : Prop where
  pending : ∀ r ∈ σ.pending.values, r.conn ≠ h
  closed : conn.closed = true
  tunnel : ∀ k, conn.future = .result k → σ.tunnelClosed k = true

def released (σ : Store) (h : Nat) (conn : PublicConn) : Bool :=
  (σ.pending.values.all fun r => r.conn ≠ h) && conn.closed &&
    conn.future.tunnel.all σ.tunnelClosed

/-- What the runtime leaves of the connection of a handler that ends cancelled. -/
def PublicConn.endCancelled (closes : Bool) (conn : PublicConn) : PublicConn :=
  { conn with closed := conn.closed || closes }

/-! ## Steps that leave nothing behind -/

/-- The wait for a tunnel connection ends without one. -/
def PublicPoint.abandons : PublicPoint → Event → Bool
  | .openSent _ _, .drained (some _) => true
  | .waitTunnel _ _, .timeout => true
  | _, _ => false

/-- The handler is at the lock of its `finally` clause and has no tunnel connection. -/
def PublicPoint.gaveUp : PublicPoint → Bool
  | .cleanup _ _ none => true
  | _ => false

/-- No wait is abandoned after a tunnel connection was accepted, none is accepted for a
handler that has given up, and no handler is cancelled outside its `try` block while
something is left of its connection. -/
def careful (srv : Server) (closes : Bool) (s : State) : Occurrence TaskId Event → Bool
  | .resume (.pub h) e =>
      match s.point (.pub h), s.store.conns.get? h with
      | .pub p, some conn => !p.abandons e || conn.future.tunnel.isNone
      | _, _ => true
  | .resume (.tunnel k) _ =>
      match s.point (.tunnel k) with
      | .tunnel (.claim message) =>
          match claimed s.store (tunnelRequest srv message) with
          | .ok h =>
              match s.point (.pub h) with
              | .pub p => !p.gaveUp
              | _ => true
          | .error _ => true
      | _ => true
  | .cancel (.pub h) =>
      match s.point (.pub h), s.store.conns.get? h with
      | .pub p, some conn =>
          match p with
          | .sendOpen _ _ | .openSent _ _ | .waitTunnel _ _ => conn.future.tunnel.isNone
          | .relay _ _ _ | .relayed _ _ _ => true
          | _ => released s.store h (conn.endCancelled closes)
      | _, _ => true
  | _ => true

abbrev Careful (srv : Server) (closes : Bool) (s : State) (a : Occurrence TaskId Event) : Prop :=
  careful srv closes s a = true

variable {srv : Server} {closes : Bool} {σ : Store} {φ : Effect} {t : TaskId} {p : Point}
variable {seg : Segment LockId Effect Point} {h : Nat} {conn : PublicConn} {q q' : PublicPoint}

theorem Future.tunnel_eq_some {f : Future} {k : Nat} : f.tunnel = some k ↔ f = .result k := by
  cases f <;> simp [tunnel]

theorem released_iff : released σ h conn = true ↔ Released σ h conn := by
  unfold released
  simp only [Bool.and_eq_true, List.all_eq_true, decide_eq_true_eq, Option.all_eq_true,
    Future.tunnel_eq_some]
  exact ⟨fun ⟨⟨hp, hc⟩, ht⟩ => ⟨hp, hc, ht⟩, fun ⟨hp, hc, ht⟩ => ⟨⟨hp, hc⟩, ht⟩⟩

theorem not_result_of_isNone (hf : conn.future.tunnel.isNone = true) (k : Nat) :
    conn.future ≠ .result k := by
  intro heq
  rw [heq] at hf
  cases hf

/-! ## Tunnel connections -/

/-- A tunnel connection stays where it is, and closed if it is. -/
theorem Effect.tunnels_of_get? {k : Nat} {x : TunnelConn} (hk : σ.tunnels.get? k = some x) :
    ∃ y, (φ.apply σ).tunnels.get? k = some y ∧ (x.closed = true → y.closed = true) := by
  have hmodify : ∀ i (f : TunnelConn → TunnelConn), (∀ y, (f y).closed = true) →
      ∃ y, (σ.tunnels.modify i f).get? k = some y ∧ (x.closed = true → y.closed = true) := by
    intro i f hf
    rw [Heap.get?_modify, hk]
    split
    · exact ⟨f x, rfl, fun _ => hf x⟩
    · exact ⟨x, rfl, id⟩
  cases φ with
  | newTunnel => exact ⟨x, Heap.get?_alloc_of_get? hk, id⟩
  | closeTunnel i => exact hmodify i _ fun _ => rfl
  | relayed i k' => exact hmodify k' _ fun _ => rfl
  | refuse i e => exact hmodify i _ fun _ => rfl
  | closeSession c =>
      simp only [Effect.apply]
      split <;> exact ⟨x, hk, id⟩
  | _ => exact ⟨x, hk, id⟩

theorem tunnelClosed_apply {k : Nat} (hk : σ.tunnelClosed k = true) :
    (φ.apply σ).tunnelClosed k = true := by
  obtain ⟨x, hx, hclosed⟩ := (Option.any_eq_true _ _).mp hk
  obtain ⟨y, hy, hmono⟩ := Effect.tunnels_of_get? (φ := φ) hx
  exact (Option.any_eq_true _ _).mpr ⟨y, hy, hmono hclosed⟩

/-- The tunnel connections that were accepted are there. -/
def Accepted (σ : Store) : Prop :=
  ∀ h conn k, σ.conns.get? h = some conn → conn.future = .result k →
    ∃ x, σ.tunnels.get? k = some x

theorem Accepted.apply (hI : Accepted σ)
    (hpair : ∀ h k, φ = .pair h k → ∃ x, σ.tunnels.get? k = some x) : Accepted (φ.apply σ) := by
  intro h conn k hc hf
  have hold : ∃ x, σ.tunnels.get? k = some x := by
    rcases Effect.of_conns hc with ⟨conn₀, hc₀, rfl⟩ | ⟨⟨l, name, -, rfl⟩, -⟩
    · rcases connAfter_result hf with hφ | hf
      · exact hpair h k hφ
      · exact hI h conn₀ k hc₀ hf
    · cases hf
  obtain ⟨x, hx⟩ := hold
  obtain ⟨y, hy, -⟩ := Effect.tunnels_of_get? (φ := φ) hx
  exact ⟨y, hy⟩

/-! ## What a public handler holds -/

/-- An accepted tunnel connection is closed, or the handler waits for it or has it; a pending
record is one of a handler that has not settled yet, and a settled handler has closed its
connection. -/
structure Holding (σ : Store) (h : Nat) (q : PublicPoint) (conn : PublicConn) : Prop where
  tunnel : ∀ k, conn.future = .result k →
    σ.tunnelClosed k = true ∨ q.waiting.isSome = true ∨ q.tunnel = some k
  pending : ∀ id r, σ.pending.get? id = some r → r.conn = h → q.pends.isSome = true
  closed : q.settled = true → conn.closed = true

theorem Holding.apply (hq : Holding σ h q conn)
    (hpend : ∀ r, φ = .pend r → r.conn = h → q.pends.isSome = true)
    (hpair : ∀ k, φ = .pair h k → q.waiting.isSome = true) :
    Holding (φ.apply σ) h q (φ.connAfter σ h conn) where
  tunnel k hf := by
    rcases connAfter_result hf with hφ | hf
    · exact .inr (.inl (hpair k hφ))
    · exact (hq.tunnel k hf).imp_left tunnelClosed_apply
  pending id r hr hconn := by
    rcases Effect.of_pending hr with ⟨hφ, -⟩ | ⟨hr, -⟩
    · exact hpend r hφ hconn
    · exact hq.pending id r hr hconn
  closed hs := by
    simp only [Effect.connAfter, hq.closed hs, Bool.true_or]

/-- The handler goes on, with what it holds. -/
theorem Holding.next (hq : Holding σ h q conn)
    (htunnel : ∀ k, conn.future = .result k → q.waiting.isSome = true ∨ q.tunnel = some k →
      σ.tunnelClosed k = true ∨ q'.waiting.isSome = true ∨ q'.tunnel = some k)
    (hpend : q.pends.isSome = true → q'.pends.isSome = true ∨
      ∀ id r, σ.pending.get? id = some r → r.conn ≠ h)
    (hclosed : q'.settled = true → q.settled = true ∨ conn.closed = true) :
    Holding σ h q' conn where
  tunnel k hf := by
    rcases hq.tunnel k hf with hk | hk
    · exact .inl hk
    · exact htunnel k hf hk
  pending id r hr hconn := by
    rcases hpend (hq.pending id r hr hconn) with h | h
    · exact h
    · exact absurd hconn (h id r hr)
  closed hs := by
    rcases hclosed hs with h | h
    · exact hq.closed h
    · exact h

theorem Released.holding (hr : Released σ h conn) : Holding σ h q conn where
  tunnel k hf := .inl (hr.tunnel k hf)
  pending id r hk hconn := absurd hconn (hr.pending r ((Dict.mem_values _ _).mpr ⟨id, hk⟩))
  closed _ := hr.closed

theorem Holding.released (hq : Holding σ h .finished conn) : Released σ h conn where
  pending r hr := by
    obtain ⟨id, hid⟩ := (Dict.mem_values _ _).mp hr
    exact fun hconn => absurd (hq.pending id r hid hconn) (by simp [PublicPoint.pends])
  closed := hq.closed rfl
  tunnel k hf := by
    simpa [PublicPoint.waiting, PublicPoint.tunnel] using hq.tunnel k hf

/-! ## Steps of the handler -/

/-- A handler that has a tunnel connection waiting for it takes it, unless it abandons it. -/
theorem publicSegment_takes {e : Event} {seg : Segment LockId Effect PublicPoint} {k : Nat}
    (hseg : publicSegment σ h conn q e = some seg) (hf : conn.future = .result k)
    (hw : q.waiting.isSome = true) :
    q.abandons e = true ∨ seg.next.waiting.isSome = true ∨ seg.next.tunnel = some k := by
  revert hseg
  fun_cases publicSegment σ h conn q e
  all_goals rintro ⟨⟩
  all_goals first
    | exact .inl rfl
    | exact .inr (.inl rfl)
    | exact absurd hw Bool.false_ne_true
    | skip
  · rename_i hresult
    cases hf.symm.trans hresult
    exact .inr (.inr rfl)
  · rename_i hfailed
    cases hf.symm.trans hfailed

section PublicStep

variable {seg : Segment LockId Effect PublicPoint}

/-- A handler keeps its tunnel connection until it closes it. -/
theorem PublicStep.tunnel {k : Nat} (hs : PublicStep σ h conn q seg) (hk : q.tunnel = some k) :
    seg.next.tunnel = some k ∨ seg.effect = .closeTunnel k := by
  cases hs with
  | relayEnd => exact .inl hk
  | relayed => exact .inl hk
  | cleanup => exact .inl hk
  | closeTunnel =>
      cases hk
      exact .inr rfl
  | _ => cases hk

/-- A record is there until the handler settles it. -/
theorem PublicStep.listed (hs : PublicStep σ h conn q seg) (hq : q.pends.isSome = true) :
    seg.next.pends.isSome = true ∨
      ∃ service id, q.locals = some (service, id) ∧ seg.effect = .settle h id := by
  cases hs with
  | sendOpen | opened | openFailed | paired | disconnected | timeout | relayEnd | relayed =>
      exact .inl rfl
  | cleanup => exact .inr ⟨_, _, rfl, rfl⟩
  | _ => cases hq

theorem PublicStep.settles (hs : PublicStep σ h conn q seg) (hn : seg.next.settled = true) :
    q.settled = true ∨ seg.effect.closesConn = some h := by
  cases hs with
  | miss => exact .inr rfl
  | cleanup => exact .inr rfl
  | closeTunnel | close => exact .inl rfl
  | _ => cases hn

theorem PublicStep.not_pair {k : Nat} (hs : PublicStep σ h conn q seg) :
    seg.effect ≠ .pair h k := by
  cases hs <;> nofun

theorem PublicStep.lists {r : PendingTunnel} (hs : PublicStep σ h conn q seg)
    (hφ : seg.effect = .pend r) : seg.next.pends.isSome = true := by
  cases hs with
  | insert => rfl
  | _ => cases hφ

/-- The handler itself keeps hold, if it abandons no tunnel connection. -/
theorem Holding.step {e : Event} (hq : Holding σ h q conn)
    (hseg : publicSegment σ h conn q e = some seg) (hI : TunnelsOk σ) (hA : Accepted σ)
    (hc : σ.conns.get? h = some conn) (hp : TicketOk σ (.pub h) (.pub q))
    (hcareful : q.abandons e = true → ∀ k, conn.future ≠ .result k) :
    Holding (seg.effect.apply σ) h seg.next (seg.effect.connAfter σ h conn) where
  tunnel k hf := by
    have hs := publicSegment_cases hseg
    have hf := (connAfter_result hf).resolve_left hs.not_pair
    rcases hq.tunnel k hf with hclosed | hw | hk
    · exact .inl (tunnelClosed_apply hclosed)
    · rcases publicSegment_takes hseg hf hw with habandons | hnext
      · exact absurd hf (hcareful habandons k)
      · exact .inr hnext
    · rcases hs.tunnel hk with hnext | hφ
      · exact .inr (.inr hnext)
      · obtain ⟨x, hx⟩ := hA h conn k hc hf
        refine .inl ((Option.any_eq_true _ _).mpr ⟨{ x with closed := true }, ?_, rfl⟩)
        rw [hφ]
        exact (Heap.get?_modify _ _ _ _).trans (by rw [if_pos rfl, hx]; rfl)
  pending id r hr hconn := by
    have hs := publicSegment_cases hseg
    rcases Effect.of_pending hr with ⟨hφ, -⟩ | ⟨hr, -, -, hsettled⟩
    · exact hs.lists hφ
    · rcases hs.listed (hq.pending id r hr hconn) with hnext | ⟨service, id', hlocals, hφ⟩
      · exact hnext
      · -- the record is the one of the handler's own tunnel id
        obtain ⟨-, conn', hc', hid, -⟩ := hI.pending id r hr
        obtain ⟨conn'', hc'', -, hticket, -⟩ := hp
        rw [hconn, hc''] at hc'
        cases hc'
        cases hid.symm.trans (hticket service id' hlocals)
        exact absurd hconn (hsettled h hφ)
  closed hn := by
    have hs := publicSegment_cases hseg
    rcases hs.settles hn with hsettled | hφ
    · simp only [Effect.connAfter, hq.closed hsettled, Bool.true_or]
    · simp only [Effect.connAfter, hφ, decide_true, Bool.or_true]

end PublicStep

/-! ## Cancelled handlers -/

theorem connAfter_endCancelled :
    (endCancelled closes (.closeConn h)).connAfter σ h conn = conn.endCancelled closes := by
  cases closes with
  | true => simp [endCancelled, Effect.connAfter, Effect.issues, Effect.resolves,
      Effect.closesConn, PublicConn.endCancelled]
  | false => simp [endCancelled, Effect.connAfter, Effect.issues, Effect.resolves,
      Effect.closesConn, PublicConn.endCancelled]

/-- A calm effect takes nothing from what is released. -/
theorem Released.calm (hr : Released σ h conn) (hφ : φ.calm = true) :
    Released (φ.apply σ) h conn where
  pending r hmem := by
    obtain ⟨id, hid⟩ := (Dict.mem_values _ _).mp hmem
    have hold := (Effect.of_pending hid).resolve_left fun h => Effect.ne_of_calm hφ rfl h.1
    exact hr.pending r ((Dict.mem_values _ _).mpr ⟨id, hold.1⟩)
  closed := hr.closed
  tunnel k hf := tunnelClosed_apply (hr.tunnel k hf)

theorem Holding.calm (hq : Holding σ h q conn) (hφ : φ.calm = true) :
    Holding (φ.apply σ) h q (φ.connAfter σ h conn) :=
  hq.apply (fun _ heq => absurd heq (Effect.ne_of_calm hφ rfl))
    fun _ heq => absurd heq (Effect.ne_of_calm hφ rfl)

/-- A cancelled handler keeps hold, if no tunnel connection waits for it and nothing is left
when it ends. -/
theorem Holding.cancelled {seg : Segment LockId Effect PublicPoint} (hq : Holding σ h q conn)
    (hseg : publicCancelled closes h q = some seg)
    (hw : q.waiting.isSome = true → ∀ k, conn.future ≠ .result k)
    (hends : seg.next = .finished → Released σ h (conn.endCancelled closes)) :
    Holding (seg.effect.apply σ) h seg.next (seg.effect.connAfter σ h conn) := by
  have hended : seg = ⟨endCancelled closes (.closeConn h), .finished, none⟩ →
      Holding (seg.effect.apply σ) h seg.next (seg.effect.connAfter σ h conn) := by
    rintro rfl
    dsimp only
    rw [connAfter_endCancelled]
    exact ((hends rfl).calm (endCancelled_calm rfl)).holding
  -- the wait ends without a tunnel connection, and none was accepted
  have hgiven : ∀ {φ : Effect}, φ.calm = true → q.waiting.isSome = true → ∀ service id,
      Holding (φ.apply σ) h (.cleanup service id none) (φ.connAfter σ h conn) := by
    intro φ hφ hwait service id
    refine (hq.calm hφ).next (fun k hf => ?_) (fun _ => .inl rfl) nofun
    have hf := (connAfter_result hf).resolve_left (Effect.ne_of_calm hφ rfl)
    exact absurd hf (hw hwait k)
  cases q with
  | accepted | lookup | insert | cleanup | closing =>
      cases hseg
      exact hended rfl
  | sendOpen | openSent | waitTunnel =>
      cases hseg
      exact hgiven rfl rfl _ _
  | relay | relayed =>
      cases hseg
      exact (hq.calm rfl).next (fun k _ hk => .inr hk) (fun _ => .inl rfl) nofun
  | finished => cases hseg

/-! ## Runs -/

/-- The assertion at the points: what a public handler holds, and that the connection of a
tunnel task that has started is there. -/
def HandoverOk (σ : Store) : TaskId → Point → Prop
  | .pub h, .pub q => ∀ conn, σ.conns.get? h = some conn → Holding σ h q conn
  | .pub h, _ => σ.conns.get? h = none
  | .tunnel k, .tunnel _ => ∃ x, σ.tunnels.get? k = some x
  | _, _ => True

/-- The assertion of another task is not interfered with. -/
theorem HandoverOk.spared {u : TaskId} (hu : HandoverOk σ u p) (hticket : TicketOk σ u p)
    (haccept : ∀ l name, φ = .accept l name → u ≠ .pub σ.conns.size)
    (hpend : ∀ r, φ = .pend r → u ≠ .pub r.conn)
    (hpair : ∀ h k q, φ = .pair h k → u = .pub h → p = .pub q → q.waiting.isSome = true) :
    HandoverOk (φ.apply σ) u p := by
  have hconn : ∀ {h}, u = .pub h → σ.conns.get? h = none → (φ.apply σ).conns.get? h = none := by
    rintro h rfl hnone
    cases hc : (φ.apply σ).conns.get? h with
    | none => rfl
    | some conn =>
        rcases Effect.of_conns hc with ⟨conn₀, hc₀, -⟩ | ⟨⟨l, name, hφ, -⟩, hsize⟩
        · cases hnone.symm.trans hc₀
        · exact absurd (by rw [hsize]) (haccept l name hφ)
  cases u with
  | control c => cases p <;> trivial
  | pub h =>
      cases p with
      | pub q =>
          obtain ⟨conn, hc, -⟩ := hticket
          intro conn' hc'
          rw [Effect.conns_of_get? hc] at hc'
          cases hc'
          refine (hu conn hc).apply ?_ ?_
          · rintro r hφ rfl
            exact absurd rfl (hpend r hφ)
          · exact fun k hφ => hpair h k q hφ rfl rfl
      | _ => exact hconn rfl hu
  | tunnel k =>
      cases p with
      | tunnel q =>
          obtain ⟨x, hx⟩ := hu
          obtain ⟨y, hy, -⟩ := Effect.tunnels_of_get? (φ := φ) hx
          exact ⟨y, hy⟩
      | _ => trivial

theorem HandoverOk.calm {u : TaskId} (hu : HandoverOk σ u p) (hticket : TicketOk σ u p)
    (hφ : φ.calm = true) : HandoverOk (φ.apply σ) u p := by
  refine hu.spared hticket ?_ ?_ ?_
  · exact fun _ _ heq => absurd heq (Effect.ne_of_calm hφ rfl)
  · exact fun _ heq => absurd heq (Effect.ne_of_calm hφ rfl)
  · exact fun _ _ _ heq => absurd heq (Effect.ne_of_calm hφ rfl)

/-- A handler whose record is there waits for a tunnel connection, has one, or has given up. -/
theorem waiting_of_pends (hpends : q.pends.isSome = true) (hgave : q.gaveUp = false)
    (htunnel : q.tunnel = none) : q.waiting.isSome = true := by
  cases q with
  | sendOpen | openSent | waitTunnel => rfl
  | relay | relayed => cases htunnel
  | cleanup service id tunnel =>
      cases tunnel with
      | none => cases hgave
      | some k => cases htunnel
  | _ => cases hpends

/-- A tunnel connection is accepted for a handler that waits for it. -/
theorem waiting_of_claimed {s : State} {k : Nat} {e : Event} {message : Fields}
    (hc : Careful srv closes s (.resume (.tunnel k) e))
    (hpoint : s.point (.tunnel k) = .tunnel (.claim message))
    (hclaim : claimed s.store (tunnelRequest srv message) = .ok h)
    (hq : s.point (.pub h) = .pub q) (hticket : TicketOk s.store (.pub h) (.pub q))
    (hholds : HandoverOk s.store (.pub h) (.pub q)) : q.waiting.isSome = true := by
  obtain ⟨r, conn, hr, -, -, hconn, hget, hdone⟩ := claimed_eq_ok.mp hclaim
  refine waiting_of_pends ((hholds conn hget).pending _ r hr hconn) ?_ ?_
  · simp only [Careful, careful, hpoint, hclaim, hq, Bool.not_eq_true'] at hc
    exact hc
  · obtain ⟨conn', hget', -, -, hresult⟩ := hticket
    cases hget.symm.trans hget'
    cases htunnel : q.tunnel with
    | none => rfl
    | some k' =>
        rw [hresult k' htunnel] at hdone
        cases hdone

theorem publicSegment_of_serverSegment {e : Event}
    (hseg : serverSegment srv σ (.pub h) (.pub q) e = some seg) :
    ∃ conn seg', σ.conns.get? h = some conn ∧ publicSegment σ h conn q e = some seg' ∧
      seg = seg'.lift .pub := by
  simp only [serverSegment] at hseg
  split at hseg
  · rename_i conn hc
    obtain ⟨seg', hseg', rfl⟩ := Option.map_eq_some_iff.mp hseg
    exact ⟨conn, seg', hc, hseg', rfl⟩
  · cases hseg

/-- A step of the server establishes what its task holds. -/
theorem HandoverOk.step {s : State} {e : Event} (hu : HandoverOk s.store t (s.point t))
    (hseg : serverSegment srv s.store t (s.point t) e = some seg)
    (hcareful : Careful srv closes s (.resume t e)) (hI : TunnelsOk s.store)
    (hA : Accepted s.store) (hp : TicketOk s.store t (s.point t)) :
    HandoverOk (seg.effect.apply s.store) t seg.next := by
  generalize hpoint : s.point t = p at hu hseg hp
  have hs := serverSegment_cases hseg
  cases hs with
  | connect hnow => trivial
  | control hs => trivial
  | @accept l listener hl ho =>
      intro conn hc
      rcases Effect.of_conns hc with ⟨conn₀, hc₀, -⟩ | ⟨⟨l', name, -, rfl⟩, -⟩
      · cases hu.symm.trans hc₀
      · refine ⟨nofun, ?_, nofun⟩
        intro id r hr hconn
        -- no record is one of a connection that comes in
        have hr := (Effect.of_pending hr).resolve_left nofun
        obtain ⟨-, conn, hget, -⟩ := hI.pending id r hr.1
        rw [hconn] at hget
        cases hu.symm.trans hget
  | @pub h conn q seg hc hs =>
      obtain ⟨conn', seg', hc', hseg', heq⟩ := publicSegment_of_serverSegment hseg
      rw [heq]
      intro conn₁ hc₁
      rw [Effect.conns_of_get? hc'] at hc₁
      cases hc₁
      refine (hu conn' hc').step hseg' hI hA hc' hp fun habandons => ?_
      simp only [Careful, careful, hpoint, hc', habandons, Bool.not_true, Bool.false_or] at hcareful
      exact not_result_of_isNone hcareful
  | connectTunnel message =>
      exact ⟨⟨none, false⟩, (Heap.get?_alloc _ _ _).trans (if_pos rfl)⟩
  | @tunnel k q seg hs =>
      obtain ⟨x, hx⟩ := hu
      obtain ⟨y, hy, -⟩ := Effect.tunnels_of_get? (φ := seg.effect) hx
      exact ⟨y, hy⟩

/-- A cancellation establishes what its task holds. -/
theorem HandoverOk.cancelled {s : State} (hu : HandoverOk s.store t (s.point t))
    (hs : CancelledStep closes t (s.point t) seg) (hcareful : Careful srv closes s (.cancel t))
    (hp : TicketOk s.store t (s.point t)) :
    HandoverOk (seg.effect.apply s.store) t seg.next := by
  generalize hpoint : s.point t = p at hu hs hp
  cases hs with
  | control h => trivial
  | @pub h q seg hseg =>
      obtain ⟨conn, hc, -⟩ := hp
      intro conn₁ hc₁
      rw [Segment.lift_effect, Effect.conns_of_get? hc] at hc₁
      cases hc₁
      simp only [Careful, careful, hpoint, hc] at hcareful
      refine (hu conn hc).cancelled hseg ?_ ?_
      · intro hw
        cases q with
        | sendOpen | openSent | waitTunnel => exact not_result_of_isNone hcareful
        | _ => cases hw
      · intro hn
        cases q with
        | accepted | lookup | insert | cleanup | closing => exact released_iff.mp hcareful
        | finished => cases hseg
        | _ =>
            cases hseg
            cases hn
  | @tunnel k q seg h =>
      obtain ⟨x, hx⟩ := hu
      obtain ⟨y, hy, -⟩ := Effect.tunnels_of_get? (φ := seg.effect) hx
      exact ⟨y, hy⟩

theorem handoverOutline (srv : Server) (closes : Bool) :
    (program srv).CancellableOutline (serverCancelled closes) .initial .start
      (Careful srv closes) (fun σ => TunnelsOk σ ∧ Accepted σ)
      (fun σ t p => TicketOk σ t p ∧ HandoverOk σ t p) where
  initial := by
    refine ⟨(tunnelOutline srv fun _ _ => True).initial, ?_⟩
    intro h conn k hc
    cases hc
  starts t := by
    refine ⟨(tunnelOutline srv fun _ _ => True).starts t, ?_⟩
    cases t <;> trivial
  keeps {s a t seg} hexec hc hI hA := by
    cases hexec with
    | resume hseg =>
        have hs := serverSegment_cases hseg
        refine ⟨hI.1.apply hs (hA t).1, hI.2.apply ?_⟩
        intro h k hφ
        obtain ⟨rfl, -, message, hpoint, -⟩ := hs.pairs hφ
        have hthere := (hA (.tunnel k)).2
        rw [hpoint] at hthere
        exact hthere
    | cancel hseg =>
        have hcalm := (serverCancelled_cases hseg).calm
        exact ⟨hI.1.calm hcalm,
          hI.2.apply fun _ _ hφ => absurd hφ (Effect.ne_of_calm hcalm rfl)⟩
  establishes {s a t seg} hexec hc hI hA := by
    cases hexec with
    | resume hseg =>
        exact ⟨(serverSegment_cases hseg).ticketOk (hA t).1,
          (hA t).2.step hseg hc hI.1 hI.2 (hA t).1⟩
    | cancel hseg =>
        have hs := serverCancelled_cases hseg
        exact ⟨hs.ticketOk (hA t).1, (hA t).2.cancelled hs hc (hA t).1⟩
  spares {s a t seg u} hexec hc hI hA hne := by
    cases hexec with
    | resume hseg =>
        have hs := serverSegment_cases hseg
        refine ⟨(hA u).1.spared hne (hA t).1 hs, (hA u).2.spared (hA u).1 ?_ ?_ ?_⟩
        · rintro l name hφ rfl
          exact hne (hs.accepts hφ).1.symm
        · rintro r hφ rfl
          obtain ⟨h, conn, service, id, rfl, -, -, rfl, -⟩ := hs.pends hφ
          exact hne rfl
        · rintro h k q hφ rfl hq
          obtain ⟨rfl, -, message, hpoint, hclaim⟩ := hs.pairs hφ
          have hticket := (hA (.pub h)).1
          have hholds := (hA (.pub h)).2
          rw [hq] at hticket hholds
          exact waiting_of_claimed hc hpoint hclaim hq hticket hholds
    | cancel hseg =>
        have hcalm := (serverCancelled_cases hseg).calm
        exact ⟨(hA u).1.calm hcalm, (hA u).2.calm (hA u).1 hcalm⟩

/-- In a run of careful steps, whatever is cancelled, a public handler that has finished has
left nothing behind. -/
theorem handler_releases {s : State} (hs : (cancellableServer srv closes).ReachableUnder
      (Careful srv closes) s) (hfinished : s.point (.pub h) = .pub .finished) :
    ∃ conn, s.store.conns.get? h = some conn ∧ Released s.store h conn := by
  obtain ⟨hticket, hholds⟩ := ((handoverOutline srv closes).sound hs).2 (.pub h)
  rw [hfinished] at hticket hholds
  obtain ⟨conn, hc, -⟩ := hticket
  exact ⟨conn, hc, (hholds conn hc).released⟩

/-! ## Runs of one connection -/

/-- The actions of a run without cancellations. -/
def resumed (as : List Action) : List (Occurrence TaskId Event) := as.map fun a => .resume a.1 a.2

/-- A client registers a service, a public connection asks for a tunnel, and one is accepted
for it. -/
def acceptedTunnel : List Action :=
  Schedule.connect "a" false [Schedule.webItem] ++ Schedule.regular "a" 8080 ++
    Schedule.answer "a" ++ Schedule.accept 0 0 "id" ++
    [(.pub 0, .go), (.pub 0, .go), (.pub 0, .drained none),
      (.tunnel 0, .connectTunnel (tunnelMessage "id" "web" .none)), (.tunnel 0, .go)]

/-- The handler takes the tunnel connection and is cancelled in the relay. -/
theorem handler_releases_cancelled :
    ∃ s, (cancellableServer Schedule.mixedServer true).Reachable s ∧
      ∃ conn, s.store.conns.get? 0 = some conn ∧ Released s.store 0 conn := by
  obtain ⟨s, hs, hfinished⟩ := System.exists_of_execWhile_map
    (M := cancellableServer Schedule.mixedServer true) (C := Careful Schedule.mixedServer true)
    (f := fun s => s.point (.pub 0)) (b := .pub .finished)
    (resumed acceptedTunnel ++ [.resume (.pub 0) .go, .cancel (.pub 0), .resume (.pub 0) .go,
      .resume (.pub 0) .go])
    (fun _ _ _ h => h) (by rfl)
  exact ⟨s, hs.reachable, handler_releases hs hfinished⟩

/-- The wait times out after the tunnel connection was accepted: nobody closes it. -/
theorem tunnel_left_open :
    ∃ s, (cancellableServer Schedule.mixedServer true).Reachable s ∧
      s.point (.pub 0) = .pub .finished ∧
      ∃ conn, s.store.conns.get? 0 = some conn ∧ ¬ Released s.store 0 conn := by
  have hrun : ((cancellableServer Schedule.mixedServer true).execWhile (fun _ _ => true)
      (cancellableServer Schedule.mixedServer true).init
      (resumed (acceptedTunnel ++ [(.pub 0, .timeout), (.pub 0, .go), (.pub 0, .go)]))).map
        (fun s => (s.point (.pub 0), s.store.conns.get? 0, s.store.tunnelClosed 0)) =
      some (.pub .finished, some ⟨0, "web", some "id", .result 0, true⟩, false) := by rfl
  obtain ⟨s, hs, hread⟩ := System.exists_of_execWhile_map _ (fun _ _ _ _ => trivial) hrun
  simp only [Prod.mk.injEq] at hread
  obtain ⟨hpoint, hconn, hopen⟩ := hread
  refine ⟨s, hs, hpoint, _, hconn, fun h => ?_⟩
  rw [h.tunnel 0 rfl] at hopen
  cases hopen

end PyFrp
