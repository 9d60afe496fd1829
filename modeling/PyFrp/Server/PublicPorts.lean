import PyFrp.Server.Pairing

/-!
# Public ports and the clients that opened them

A public connection is routed by the service name its listener captured, not by
the listener. As long as every lookup finds a service of the client the listener
was opened for, the connection concerns that client alone: it is the only one
that is sent an `open` for it, and the only one that learns its tunnel id.
-/

namespace PyFrp

open Python Coop Store

variable {srv : Server} {σ : Store} {φ : Effect} {c : ClientId}
variable {t : TaskId} {p : Point} {seg : Segment LockId Effect Point}

/-- The client whose registration opened the listener that accepted connection `h`. -/
def Store.portOwner (σ : Store) (h : Nat) : Option ClientId :=
  (σ.conns.get? h).bind fun conn => (σ.listeners.get? conn.listener).map Listener.owner

/-- A public task finds only services of the client that opened the port. -/
def looksUpOwner (s : State) : Action → Bool
  | (.pub h, _) =>
      match s.point (.pub h), s.store.conns.get? h with
      | .pub .lookup, some conn =>
          (s.store.services.get? conn.serviceName).all fun r =>
            s.store.portOwner h = some r.client
      | _, _ => true
  | _ => true

abbrev LooksUpOwner (s : State) (a : Action) : Prop := looksUpOwner s a = true

/-- The owner of the port of a connection does not change. -/
theorem portOwner_apply {h : Nat} (ho : σ.portOwner h = some c) :
    (φ.apply σ).portOwner h = some c := by
  obtain ⟨conn, hc, hl⟩ := Option.bind_eq_some_iff.mp ho
  obtain ⟨x, hx, hown⟩ := Option.map_eq_some_iff.mp hl
  have hlistener : (φ.connAfter σ h conn).listener = conn.listener := rfl
  have howner : (φ.listenerAfter σ conn.listener x).owner = x.owner := rfl
  simp only [portOwner, Effect.conns_of_get? hc, Option.bind_some, hlistener,
    Effect.listeners_of_get? hx, Option.map_some, howner, hown]

/-- Pending records and `open` messages concern the owner of the port. -/
structure PortsOk (σ : Store) : Prop where
  pending : ∀ k r, σ.pending.get? k = some r → σ.portOwner r.conn = some r.client
  sent : ∀ c id name, (c, .openTunnel id name) ∈ σ.sent →
    ∃ h conn, σ.conns.get? h = some conn ∧ conn.ticket = some id ∧ σ.portOwner h = some c

/-- A public task works with a service of the owner of its port. -/
def OwnerOk (σ : Store) : TaskId → Point → Prop
  | .pub h, .pub p => ∀ service id, p.locals = some (service, id) →
      σ.portOwner h = some service.client
  | _, _ => True

theorem PublicStep.ownerOk {h : Nat} {conn : PublicConn} {p : PublicPoint}
    {seg : Segment LockId Effect PublicPoint} (hs : PublicStep σ h conn p seg)
    (hp : OwnerOk σ (.pub h) (.pub p))
    (hl : p = .lookup → ∀ service, σ.services.get? conn.serviceName = some service →
      σ.portOwner h = some service.client) :
    OwnerOk (seg.effect.apply σ) (.pub h) (.pub seg.next) := by
  intro service id hlocals
  refine portOwner_apply ?_
  cases hs with
  | found hservice hid =>
      cases hlocals
      exact hl rfl _ hservice
  | accepted | miss | cleanup | closeTunnel | close => cases hlocals
  | _ => exact hp service id hlocals

/-- A step keeps the tunnel id of every connection. -/
theorem sent_kept {id : String} (hs : ServerStep srv σ t p seg) (hp : TicketOk σ t p)
    (h : ∃ h conn, σ.conns.get? h = some conn ∧ conn.ticket = some id ∧ σ.portOwner h = some c) :
    ∃ h conn, (seg.effect.apply σ).conns.get? h = some conn ∧ conn.ticket = some id ∧
      (seg.effect.apply σ).portOwner h = some c := by
  obtain ⟨h, conn, hc, ht, ho⟩ := h
  exact ⟨h, _, Effect.conns_of_get? hc, hp.ticket_kept hs hc ht, portOwner_apply ho⟩

theorem portsOutline (srv : Server) :
    (program srv).Outline .initial .start Point.holds LooksUpOwner PortsOk OwnerOk where
  initial := by
    constructor
    · intro k r hk
      cases hk
    · intro c id name hmem
      cases hmem
  starts t := by cases t <;> trivial
  keeps {s t e seg} hat hI hA := by
    have hs := serverSegment_cases hat.segment
    have hticket := (tunnels hat.run).2 t
    constructor
    · intro k r hk
      refine portOwner_apply ?_
      rcases Effect.of_pending hk with ⟨hφ, rfl⟩ | ⟨hk, -⟩
      · obtain ⟨h, conn, service, id, rfl, hp, -, rfl, -⟩ := hs.pends hφ
        have hok := hA (.pub h)
        rw [hp] at hok
        exact hok service id rfl
      · exact hI.pending k r hk
    · intro c id name hmem
      refine sent_kept hs hticket ?_
      rcases Effect.of_sent hmem with hφ | hold
      · -- the `open` a public task sends is the one of its connection
        obtain ⟨h, conn, service, rfl, hp, rfl, hc, -, -⟩ := hs.opens hφ
        have hok := hA (.pub h)
        rw [hp] at hok hticket
        obtain ⟨conn', hc', -, hlocals, -⟩ := hticket
        exact ⟨h, conn', hc', hlocals service id rfl, hok service id rfl⟩
      · exact hI.sent c id name hold
  establishes {s t e seg} hat hI hA := by
    have hs := serverSegment_cases hat.segment
    have hok := hA t
    have hmeets := hat.meets
    generalize hp : s.point t = p at hs hok
    cases hs with
    | accept => nofun
    | pub hc hs =>
        refine hs.ownerOk hok ?_
        rintro rfl service hservice
        simpa [LooksUpOwner, looksUpOwner, hp, hc, hservice] using hmeets
    | _ => trivial
  spares {s t e seg u} hat hI hA hne := by
    have hok := hA u
    revert hok
    generalize s.point u = p
    intro hok
    cases u with
    | pub h =>
        cases p with
        | pub p => exact fun service id hl => portOwner_apply (hok service id hl)
        | _ => trivial
    | _ => trivial

/-- **A public port reaches only the client that opened it.** Every `open` is for
one connection, and goes to the client that opened its port; a connection is
paired with a tunnel connection that presents an id only this client was sent. -/
theorem port_owner (srv : Server) {s : State}
    (h : (system srv).ReachableUnder LooksUpOwner s) :
    (∀ c id name, (c, .openTunnel id name) ∈ s.store.sent →
      ∃ i conn, s.store.conns.get? i = some conn ∧ conn.ticket = some id ∧
        s.store.portOwner i = some c ∧
        ∀ j conn', s.store.conns.get? j = some conn' → conn'.ticket = some id → j = i) ∧
    (∀ a s' i k, (system srv).step s a = some s' → ¬ Paired s i k → Paired s' i k →
      ∃ message r, a.1 = .tunnel k ∧ s.point (.tunnel k) = .tunnel (.claim message) ∧
        s.store.pending.get? (tunnelRequest srv message).id = some r ∧ r.conn = i ∧
        s.store.portOwner i = some r.client ∧
        ∀ c name, (c, .openTunnel (tunnelRequest srv message).id name) ∈ s.store.sent →
          c = r.client) := by
  have hports := ((portsOutline srv).sound (discipline srv) h).1
  have htunnels := (tunnels h).1
  constructor
  · intro c id name hmem
    obtain ⟨i, conn, hc, ht, ho⟩ := hports.sent c id name hmem
    exact ⟨i, conn, hc, ht, ho, fun j conn' hc' ht' =>
      htunnels.unique j i conn' conn id hc' hc ht' ht⟩
  · intro a s' i k hs hnot hp
    obtain ⟨ha, message, hpt, hm⟩ := pairs_step hs hnot hp
    obtain ⟨r, -, hr, -, -, rfl, -, -⟩ := claimed_eq_ok.mp hm
    obtain ⟨-, conn, hc, ht, -⟩ := htunnels.pending _ r hr
    refine ⟨message, r, ha, hpt, hr, rfl, hports.pending _ r hr, fun c name hmem => ?_⟩
    -- the connection of this `open` has the same id, so it is the same one
    obtain ⟨j, conn', hc', ht', ho'⟩ := hports.sent c _ name hmem
    rw [htunnels.unique j r.conn conn' conn _ hc' hc ht' ht, hports.pending _ r hr,
      Option.some.injEq] at ho'
    exact ho'.symm

/-- A public connection to the service of `a` is asked of `a`. -/
theorem port_owner_run : ∃ s, (system Schedule.mixedServer).ReachableUnder LooksUpOwner s ∧
    ("a", .openTunnel "x" "web") ∈ s.store.sent ∧
    ∃ i conn, s.store.conns.get? i = some conn ∧ conn.ticket = some "x" ∧
      s.store.portOwner i = some "a" := by
  have hrun : ((system Schedule.mixedServer).execWhile looksUpOwner
      (system Schedule.mixedServer).init (Schedule.connect "a" false [Schedule.webItem] ++
        Schedule.regular "a" 8080 ++ Schedule.answer "a" ++ Schedule.accept 0 0 "x" ++
        Schedule.goes (.pub 0) 2)).map (fun s => s.store.sent) =
      some [("a", .registered "a" [⟨"web", "0.0.0.0", 8080, 0⟩]),
        ("a", .openTunnel "x" "web")] := by rfl
  obtain ⟨s, hs, hsent⟩ := System.exists_of_execWhile_map _ (fun _ _ _ h => h) hrun
  have hmem : ("a", .openTunnel "x" "web") ∈ s.store.sent := by
    rw [hsent]
    exact .tail _ (.head _)
  obtain ⟨i, conn, hc, ht, ho, -⟩ := (port_owner Schedule.mixedServer hs).1 "a" "x" "web" hmem
  exact ⟨s, hs, hmem, i, conn, hc, ht, ho⟩

/-- Client `b` registers the name `a` has: its listener accepts connections while the
duplicate is not noticed yet. -/
def duplicateRun : List Action :=
  Schedule.connect "a" false [Schedule.webItem] ++ Schedule.regular "a" 8080 ++
    Schedule.answer "a" ++
    Schedule.connect "b" false [Schedule.regularItem "web" 9090] ++
    Schedule.goes (.control "b") 1 ++ [(.control "b", .bind (.bound "0.0.0.0" 9090))] ++
    Schedule.accept 0 1 "x" ++ Schedule.goes (.pub 0) 2

/-- The connection on the port of `b` is asked of `a`. -/
theorem port_crossed : ∃ s, (system Schedule.mixedServer).Reachable s ∧
    s.store.portOwner 0 = some "b" ∧
    (s.store.conns.get? 0).bind PublicConn.ticket = some "x" ∧
    ("a", .openTunnel "x" "web") ∈ s.store.sent := by
  have hrun : ((system Schedule.mixedServer).execWhile (fun _ _ => true)
      (system Schedule.mixedServer).init duplicateRun).map (fun s =>
        (s.store.portOwner 0, (s.store.conns.get? 0).bind PublicConn.ticket, s.store.sent)) =
      some (some "b", some "x", [("a", .registered "a" [⟨"web", "0.0.0.0", 8080, 0⟩]),
        ("a", .openTunnel "x" "web")]) := by rfl
  obtain ⟨s, hs, heq⟩ := System.exists_of_execWhile_map _ (fun _ _ _ _ => trivial) hrun
  simp only [Prod.mk.injEq] at heq
  obtain ⟨howner, hticket, hsent⟩ := heq
  refine ⟨s, hs, howner, hticket, ?_⟩
  rw [hsent]
  exact .tail _ (.head _)

end PyFrp
