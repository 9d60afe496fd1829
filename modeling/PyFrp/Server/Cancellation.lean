import PyFrp.Coop.Cancel
import PyFrp.Server.Departures

/-!
# Cancelled handlers

What a `CancelledError` does to each handler, at every point where it may be
suspended. In its `try` block a handler goes on with its `finally` clause; in front of
that block and in the clause it ends at once.
-/

namespace PyFrp

open Python Coop Store

/-- What the runtime does when a handler ends cancelled: it may close the transport of
its connection. -/
def endCancelled (closes : Bool) (φ : Effect) : Effect := if closes then φ else .none

/-- `_handle_control`: `_register_client` catches no `CancelledError`, so nothing is
rolled back. -/
def controlCancelled (closes : Bool) (c : ClientId) :
    ControlPoint → Option (Segment LockId Effect ControlPoint)
  | .dispatch _ | .item _ | .poolScan _ _ _ | .announce _ | .rollback _ _ _ | .raised _ _
  | .failed _ | .finished => none
  -- in front of the `try` block, and in the `finally` clause
  | .join _ | .leave | .left _ | .closing =>
      some ⟨endCancelled closes (.closeSession c), .finished, none⟩
  | p => some ⟨.none, .leave, p.holds c⟩

/-- `_handle_public`. -/
def publicCancelled (closes : Bool) (h : Nat) :
    PublicPoint → Option (Segment LockId Effect PublicPoint)
  | .accepted | .lookup | .insert _ _ | .cleanup _ _ _ | .closing _ =>
      some ⟨endCancelled closes (.closeConn h), .finished, none⟩
  | .sendOpen service id => some ⟨.none, .cleanup service id none, none⟩
  | .openSent service id =>
      some ⟨.none, .cleanup service id none, some (.writer service.client)⟩
  -- the future is cancelled with the wait, if it is not resolved yet
  | .waitTunnel service id => some ⟨.giveUp h, .cleanup service id none, none⟩
  | .relay service id k | .relayed service id k =>
      some ⟨.none, .cleanup service id (some k), none⟩
  | .finished => none

/-- `_handle_tunnel`, which waits for the lock only. -/
def tunnelCancelled (closes : Bool) (k : Nat) :
    TunnelPoint → Option (Segment LockId Effect TunnelPoint)
  | .claim _ => some ⟨endCancelled closes (.closeTunnel k), .finished, none⟩
  | .refused _ | .finished => none

def serverCancelled (closes : Bool) (_σ : Store) :
    TaskId → Point → Option (Segment LockId Effect Point)
  | .control c, .control p => (controlCancelled closes c p).map (Segment.lift .control)
  | .pub h, .pub p => (publicCancelled closes h p).map (Segment.lift .pub)
  | .tunnel k, .tunnel p => (tunnelCancelled closes k p).map (Segment.lift .tunnel)
  | _, _ => none

/-- The server, with handlers that may be cancelled. -/
def cancellableServer (srv : Server) (closes : Bool) : System State (Occurrence TaskId Event) :=
  (program srv).cancellable (serverCancelled closes) .initial .start

variable {closes : Bool} {σ : Store} {φ : Effect} {t : TaskId} {p : Point}
variable {seg : Segment LockId Effect Point}

/-! ## The effects of a cancellation -/

/-- An effect that resolves no future with a tunnel connection and changes no record. -/
def Effect.calm : Effect → Bool
  | .none | .giveUp _ | .closeConn _ | .closeSession _ | .closeTunnel _ => true
  | _ => false

theorem endCancelled_calm (h : φ.calm = true) : (endCancelled closes φ).calm = true := by
  cases closes with
  | true => exact h
  | false => rfl

/-- A cancelled task is a handler. -/
inductive CancelledStep (closes : Bool) : TaskId → Point → Segment LockId Effect Point → Prop
  | control {c : ClientId} {q : ControlPoint} {seg : Segment LockId Effect ControlPoint}
      (h : controlCancelled closes c q = some seg) :
      CancelledStep closes (.control c) (.control q) (seg.lift .control)
  | pub {h : Nat} {q : PublicPoint} {seg : Segment LockId Effect PublicPoint}
      (hseg : publicCancelled closes h q = some seg) :
      CancelledStep closes (.pub h) (.pub q) (seg.lift .pub)
  | tunnel {k : Nat} {q : TunnelPoint} {seg : Segment LockId Effect TunnelPoint}
      (h : tunnelCancelled closes k q = some seg) :
      CancelledStep closes (.tunnel k) (.tunnel q) (seg.lift .tunnel)

theorem serverCancelled_cases (h : serverCancelled closes σ t p = some seg) :
    CancelledStep closes t p seg := by
  revert h
  fun_cases serverCancelled closes σ t p
  case case1 c q =>
    intro h
    obtain ⟨seg', hseg, rfl⟩ := Option.map_eq_some_iff.mp h
    exact .control hseg
  case case2 h q =>
    intro h
    obtain ⟨seg', hseg, rfl⟩ := Option.map_eq_some_iff.mp h
    exact .pub hseg
  case case3 k q =>
    intro h
    obtain ⟨seg', hseg, rfl⟩ := Option.map_eq_some_iff.mp h
    exact .tunnel hseg
  case case4 => exact nofun

theorem controlCancelled_calm {c : ClientId} {q : ControlPoint}
    {seg : Segment LockId Effect ControlPoint} (h : controlCancelled closes c q = some seg) :
    seg.effect.calm = true := by
  revert h
  fun_cases controlCancelled closes c q
  all_goals rintro ⟨⟩
  all_goals first
    | rfl
    | exact endCancelled_calm rfl

theorem publicCancelled_calm {h : Nat} {q : PublicPoint}
    {seg : Segment LockId Effect PublicPoint} (hseg : publicCancelled closes h q = some seg) :
    seg.effect.calm = true := by
  cases q with
  | accepted | lookup | insert | cleanup | closing =>
      cases hseg
      exact endCancelled_calm rfl
  | finished => cases hseg
  | _ =>
      cases hseg
      rfl

theorem tunnelCancelled_calm {k : Nat} {q : TunnelPoint}
    {seg : Segment LockId Effect TunnelPoint} (h : tunnelCancelled closes k q = some seg) :
    seg.effect.calm = true := by
  cases q with
  | claim message =>
      cases h
      exact endCancelled_calm rfl
  | _ => cases h

theorem CancelledStep.calm (h : CancelledStep closes t p seg) : seg.effect.calm = true := by
  cases h with
  | control h => exact controlCancelled_calm h
  | pub h => exact publicCancelled_calm h
  | tunnel h => exact tunnelCancelled_calm h

theorem Effect.ne_of_calm {ψ : Effect} (h : φ.calm = true) (hψ : ψ.calm = false) : φ ≠ ψ := by
  rintro rfl
  rw [h] at hψ
  cases hψ

theorem TunnelsOk.calm (hI : TunnelsOk σ) (hφ : φ.calm = true) : TunnelsOk (φ.apply σ) := by
  have hconn : ∀ {h conn}, (φ.apply σ).conns.get? h = some conn →
      ∃ conn₀, σ.conns.get? h = some conn₀ ∧ conn.listener = conn₀.listener ∧
        conn.serviceName = conn₀.serviceName ∧ (∀ id, conn.ticket = some id →
          conn₀.ticket = some id) ∧ ∀ k, conn.future = .result k → conn₀.future = .result k := by
    intro h conn hc
    rcases Effect.of_conns hc with ⟨conn₀, hc₀, rfl⟩ | ⟨⟨l, name, rfl, -⟩, -⟩
    · refine ⟨conn₀, hc₀, rfl, rfl, fun id ht => ?_, fun k hf => ?_⟩
      · exact (connAfter_ticket ht).resolve_left (Effect.ne_of_calm hφ rfl)
      · exact (connAfter_result hf).resolve_left (Effect.ne_of_calm hφ rfl)
    · cases hφ
  constructor
  · intro h conn hc
    obtain ⟨conn₀, hc₀, hlistener, hname, -⟩ := hconn hc
    obtain ⟨x, hx, hcb⟩ := hI.accepted h conn₀ hc₀
    rw [hlistener, hname]
    exact ⟨_, Effect.listeners_of_get? hx, hcb⟩
  · intro h conn id hc ht
    obtain ⟨conn₀, hc₀, -, -, hticket, -⟩ := hconn hc
    have hold := hI.issued h conn₀ id hc₀ (hticket id ht)
    rw [Effect.apply_tickets]
    split
    · exact .tail _ hold
    · exact hold
  · intro h₁ h₂ conn₁ conn₂ id hc₁ hc₂ ht₁ ht₂
    obtain ⟨conn₁', hc₁', -, -, hticket₁, -⟩ := hconn hc₁
    obtain ⟨conn₂', hc₂', -, -, hticket₂, -⟩ := hconn hc₂
    exact hI.unique h₁ h₂ conn₁' conn₂' id hc₁' hc₂' (hticket₁ id ht₁) (hticket₂ id ht₂)
  · intro k r hk
    have hold := (Effect.of_pending hk).resolve_left fun h => Effect.ne_of_calm hφ rfl h.1
    obtain ⟨hid, conn, hc, ht, hname⟩ := hI.pending k r hold.1
    refine ⟨hid, _, Effect.conns_of_get? hc, ?_, hname⟩
    cases φ <;> first | exact ht | cases hφ
  · intro h₁ h₂ conn₁ conn₂ k hc₁ hc₂ hf₁ hf₂
    obtain ⟨conn₁', hc₁', -, -, -, hfuture₁⟩ := hconn hc₁
    obtain ⟨conn₂', hc₂', -, -, -, hfuture₂⟩ := hconn hc₂
    exact hI.paired h₁ h₂ conn₁' conn₂' k hc₁' hc₂' (hfuture₁ k hf₁) (hfuture₂ k hf₂)

theorem TicketOk.calm {u : TaskId} (hu : TicketOk σ u p) (hφ : φ.calm = true) :
    TicketOk (φ.apply σ) u p := by
  cases u with
  | control c => trivial
  | pub h =>
      cases p with
      | pub p =>
          obtain ⟨conn, hc, hnone, hlocals, htunnel⟩ := hu
          have hticket : (φ.connAfter σ h conn).ticket = conn.ticket := by
            cases φ <;> first | rfl | cases hφ
          refine ⟨_, Effect.conns_of_get? hc, ?_, ?_, fun k hk => ?_⟩
          · rw [hticket]
            exact hnone
          · rw [hticket]
            exact hlocals
          · rw [connAfter_done (by rw [htunnel k hk]; rfl), htunnel k hk]
      | _ => trivial
  | tunnel k =>
      intro hfin h conn hc hf
      rcases Effect.of_conns hc with ⟨conn₀, hc₀, rfl⟩ | ⟨⟨l, name, rfl, -⟩, -⟩
      · exact hu hfin h conn₀ hc₀ ((connAfter_result hf).resolve_left (Effect.ne_of_calm hφ rfl))
      · cases hφ

/-- A public task that goes on with no more than it had knows the same of its connection. -/
theorem TicketOk.next {h : Nat} {q q' : PublicPoint} (hq : TicketOk σ (.pub h) (.pub q))
    (hstart : q' ≠ .accepted ∧ q' ≠ .lookup)
    (hlocals : ∀ service id, q'.locals = some (service, id) → q.locals = some (service, id))
    (htunnel : ∀ k, q'.tunnel = some k → q.tunnel = some k) :
    TicketOk σ (.pub h) (.pub q') := by
  obtain ⟨conn, hc, -, hticket, hresult⟩ := hq
  refine ⟨conn, hc, fun hq' => ?_, fun service id hl => ?_, fun k hk => ?_⟩
  · rcases hq' with hq' | hq'
    · exact absurd hq' hstart.1
    · exact absurd hq' hstart.2
  · exact hticket service id (hlocals service id hl)
  · exact hresult k (htunnel k hk)

theorem CancelledStep.ticketOk (h : CancelledStep closes t p seg) (hp : TicketOk σ t p) :
    TicketOk (seg.effect.apply σ) t seg.next := by
  have hcalm := hp.calm h.calm
  cases h with
  | control h => trivial
  | @pub i q seg hseg =>
      refine hcalm.next ?_ ?_ ?_
      all_goals cases q <;> cases hseg
      all_goals simp [PublicPoint.locals, PublicPoint.tunnel]
  | @tunnel k q seg h =>
      cases q <;> cases h
      exact fun hfin => absurd rfl hfin

end PyFrp
