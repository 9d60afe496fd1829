import Mathlib.Data.Fintype.EquivFin
import PyFrp.Server.Tunnels

/-!
# From a public connection to the `open` of its client

A public handler asks the client of the record it finds under the name its
listener captured. As long as every connection on a listener finds a record of one
client, that client is asked for it and no other one, under that name, and the
handler is never more than four of its own steps away from asking.
-/

namespace PyFrp

open Python Coop Store

variable {srv : Server} {σ : Store} {φ : Effect} {c : ClientId} {l : Nat}
variable {t : TaskId} {p : Point} {seg : Segment LockId Effect Point}

/-! ## The condition -/

/-- The handler of a connection on listener `l` finds a record of client `c`. -/
def findsOwn (c : ClientId) (l : Nat) (s : State) : Action → Bool
  | (.pub h, _) =>
      match s.point (.pub h), s.store.conns.get? h with
      | .pub .lookup, some conn =>
          conn.listener ≠ l || (s.store.services.get? conn.serviceName).any fun r => r.client = c
      | _, _ => true
  | _ => true

abbrev FindsOwn (c : ClientId) (l : Nat) (s : State) (a : Action) : Prop := findsOwn c l s a = true

theorem FindsOwn.service {s : State} {e : Event} {h : Nat} {conn : PublicConn}
    (hown : FindsOwn c l s (.pub h, e)) (hp : s.point (.pub h) = .pub .lookup)
    (hc : s.store.conns.get? h = some conn) (hl : conn.listener = l) :
    ∃ service, s.store.services.get? conn.serviceName = some service ∧ service.client = c := by
  simpa [FindsOwn, findsOwn, hp, hc, hl, Option.any_eq_true] using hown

/-! ## How far a handler is from its `open` -/

/-- The steps a public task takes before it has sent its `open`. -/
def PublicPoint.ahead : PublicPoint → Nat
  | .accepted => 4
  | .lookup => 3
  | .insert _ _ => 2
  | .sendOpen _ _ => 1
  | _ => 0

def ahead (s : State) (h : Nat) : Nat :=
  match s.point (.pub h) with
  | .pub p => p.ahead
  | _ => 0

/-- Client `c` has been asked for a tunnel for `conn`, by the name its listener captured. -/
def Announced (c : ClientId) (σ : Store) (conn : PublicConn) : Prop :=
  ∃ id, conn.ticket = some id ∧ (c, .openTunnel id conn.serviceName) ∈ σ.sent

/-- A client is asked by the name a listener captured, and for the connections on `l`
it is `c`. -/
def OpensOk (c : ClientId) (l : Nat) (σ : Store) : Prop :=
  ∀ c' id name, (c', .openTunnel id name) ∈ σ.sent →
    ∃ h conn, σ.conns.get? h = some conn ∧ conn.ticket = some id ∧ conn.serviceName = name ∧
      (conn.listener = l → c' = c)

/-- The task of a connection on `l` works with a record of `c`, and `c` has been asked
once the task is past its `open`. A task that has not started has no connection. -/
def RouteOk (c : ClientId) (l : Nat) (σ : Store) : TaskId → Point → Prop
  | .pub h, .pub p => ∀ conn, σ.conns.get? h = some conn → conn.listener = l →
      (∀ service id, p.locals = some (service, id) → service.client = c) ∧
      (p.ahead = 0 → Announced c σ conn)
  | .pub h, _ => σ.conns.get? h = none
  | _, _ => True

/-! ## Steps keep it -/

theorem Announced.step {h : Nat} {conn : PublicConn} (ha : Announced c σ conn)
    (hs : ServerStep srv σ t p seg) (hp : TicketOk σ t p) (hc : σ.conns.get? h = some conn) :
    Announced c (seg.effect.apply σ) (seg.effect.connAfter σ h conn) := by
  obtain ⟨id, ht, hmem⟩ := ha
  exact ⟨id, hp.ticket_kept hs hc ht, Effect.sent_of_mem hmem⟩

theorem PublicStep.routeOk (srv : Server) {h : Nat} {conn : PublicConn} {p : PublicPoint}
    {seg : Segment LockId Effect PublicPoint} (hs : PublicStep σ h conn p seg)
    (hc : σ.conns.get? h = some conn) (hticket : TicketOk σ (.pub h) (.pub p))
    (hp : RouteOk c l σ (.pub h) (.pub p))
    (hown : p = .lookup → conn.listener = l →
      ∃ service, σ.services.get? conn.serviceName = some service ∧ service.client = c) :
    RouteOk c l (seg.effect.apply σ) (.pub h) (.pub seg.next) := by
  intro conn' hc' hl
  rw [Effect.conns_of_get? hc, Option.some.injEq] at hc'
  subst hc'
  obtain ⟨hlocals, hsent⟩ := hp conn hc hl
  have hserver : ServerStep srv σ (.pub h) (.pub p) (seg.lift .pub) := .pub hc hs
  have hkept (hpast : p.ahead = 0) := (hsent hpast).step hserver hticket hc
  cases hs with
  | accepted => exact ⟨nofun, nofun⟩
  | miss hs =>
      obtain ⟨service, hservice, -⟩ := hown rfl hl
      rw [hs] at hservice
      cases hservice
  | found hs hid =>
      obtain ⟨service, hservice, hclient⟩ := hown rfl hl
      rw [hs, Option.some.injEq] at hservice
      subst hservice
      refine ⟨fun service' id' heq => ?_, nofun⟩
      cases heq
      exact hclient
  | insert => exact ⟨hlocals, nofun⟩
  | @sendOpen service id =>
      obtain ⟨conn', hc', -, hid, -⟩ := hticket
      rw [hc, Option.some.injEq] at hc'
      subst hc'
      refine ⟨hlocals, fun _ => ⟨id, hid service id rfl, ?_⟩⟩
      rw [← hlocals service id rfl]
      exact List.mem_append_right _ (.head _)
  | cleanup | closeTunnel | close => exact ⟨nofun, fun _ => hkept rfl⟩
  | _ => exact ⟨hlocals, fun _ => hkept rfl⟩

/-- No step of another task accepts the connection of a public task. -/
theorem ServerStep.conn_before {h : Nat} {conn : PublicConn} (hs : ServerStep srv σ t p seg)
    (ht : t ≠ .pub h) (hc : (seg.effect.apply σ).conns.get? h = some conn) :
    ∃ conn₀, σ.conns.get? h = some conn₀ ∧ conn = seg.effect.connAfter σ h conn₀ := by
  rcases Effect.of_conns hc with hold | ⟨⟨_, _, hφ, -⟩, rfl⟩
  · exact hold
  · exact absurd (hs.accepts hφ).1 ht

theorem RouteOk.spared {u : TaskId} {p' : Point} (hu : RouteOk c l σ u p') (hne : u ≠ t)
    (hp : TicketOk σ t p) (hs : ServerStep srv σ t p seg) :
    RouteOk c l (seg.effect.apply σ) u p' := by
  cases u with
  | pub h =>
      cases p' with
      | pub p' =>
          intro conn hc hl
          obtain ⟨conn₀, hc₀, rfl⟩ := hs.conn_before hne.symm hc
          obtain ⟨hlocals, hsent⟩ := hu conn₀ hc₀ hl
          exact ⟨hlocals, fun hpast => (hsent hpast).step hs hp hc₀⟩
      | _ =>
          refine Option.eq_none_iff_forall_ne_some.mpr fun conn hc => ?_
          obtain ⟨conn₀, hc₀, -⟩ := hs.conn_before hne.symm hc
          have hnone : σ.conns.get? h = none := hu
          rw [hc₀] at hnone
          cases hnone
  | _ => trivial

theorem OpensOk.step (hI : OpensOk c l σ) (hs : ServerStep srv σ t p seg) (hp : TicketOk σ t p)
    (hroute : RouteOk c l σ t p) : OpensOk c l (seg.effect.apply σ) := by
  intro c' id name hmem
  rcases Effect.of_sent hmem with hφ | hold
  · -- the `open` a public task sends is the one of its connection
    obtain ⟨h, conn, service, rfl, rfl, rfl, hc, hname, -⟩ := hs.opens hφ
    have hlocal : conn.ticket = some id := by
      obtain ⟨conn', hc', -, hlocals, -⟩ := hp
      rw [hc, Option.some.injEq] at hc'
      exact hc' ▸ hlocals service id rfl
    have ht := hp.ticket_kept hs hc hlocal
    exact ⟨h, _, Effect.conns_of_get? hc, ht, hname, fun hl => (hroute conn hc hl).1 service id rfl⟩
  · obtain ⟨h, conn, hc, ht, hname, hclient⟩ := hI c' id name hold
    exact ⟨h, _, Effect.conns_of_get? hc, hp.ticket_kept hs hc ht, hname, hclient⟩

theorem routesOutline (srv : Server) (c : ClientId) (l : Nat) :
    (program srv).Outline .initial .start Point.holds (FindsOwn c l) (OpensOk c l)
      (RouteOk c l) where
  initial := by
    intro c' id name hmem
    cases hmem
  starts t := by cases t <;> trivial
  keeps hat hI hA := hI.step (serverSegment_cases hat.segment) ((tunnels hat.run).2 _) (hA _)
  establishes {s t e seg} hat hI hA := by
    have hs := serverSegment_cases hat.segment
    have hroute := hA t
    have hticket := (tunnels hat.run).2 t
    have hmeets := hat.meets
    generalize hp : s.point t = p at hs hroute hticket
    cases hs with
    | accept => exact fun _ _ _ => ⟨nofun, nofun⟩
    | pub hc hs =>
        refine hs.routeOk srv hc hticket hroute ?_
        rintro rfl hl
        exact hmeets.service hp hc hl
    | _ => trivial
  spares hat hI hA hne :=
    (hA _).spared hne ((tunnels hat.run).2 _) (serverSegment_cases hat.segment)

theorem routes {s : State} (h : (system srv).ReachableUnder (FindsOwn c l) s) :
    OpensOk c l s.store ∧ ∀ t, RouteOk c l s.store t (s.point t) :=
  (routesOutline srv c l).sound (discipline srv) h

/-! ## The way to the `open` -/

/-- The task of an accepted connection is at a point of `_handle_public`. -/
theorem exists_point {s : State} {h : Nat} {conn : PublicConn}
    (hr : (system srv).ReachableUnder (FindsOwn c l) s) (hc : s.store.conns.get? h = some conn) :
    ∃ p, s.point (.pub h) = .pub p := by
  have hroute := (routes hr).2 (.pub h)
  cases hp : s.point (.pub h) with
  | pub p => exact ⟨p, rfl⟩
  | _ =>
      rw [hp] at hroute
      have hnone : s.store.conns.get? h = none := hroute
      rw [hc] at hnone
      cases hnone

theorem announced_of_ahead {s : State} {h : Nat} {conn : PublicConn}
    (hr : (system srv).ReachableUnder (FindsOwn c l) s) (hc : s.store.conns.get? h = some conn)
    (hl : conn.listener = l) (hdone : ahead s h = 0) : Announced c s.store conn := by
  obtain ⟨p, hp⟩ := exists_point hr hc
  have hroute := (routes hr).2 (.pub h)
  rw [hp] at hroute
  rw [ahead, hp] at hdone
  exact (hroute conn hc hl).2 hdone

/-- Every step of the task of a connection on `l` brings it nearer to its `open`. -/
theorem ahead_step {s u : State} {e : Event} {h : Nat} {conn : PublicConn}
    (hc : s.store.conns.get? h = some conn) (hl : conn.listener = l) (hahead : 0 < ahead s h)
    (hown : FindsOwn c l s (.pub h, e)) (hs : (system srv).step s (.pub h, e) = some u) :
    ahead u h + 1 = ahead s h := by
  obtain ⟨-, seg, hseg, rfl⟩ := Program.step_eq_some.mp hs
  have hstep := serverSegment_cases hseg
  have hservice (hp : s.point (.pub h) = .pub .lookup) := hown.service hp hc hl
  unfold ahead at hahead ⊢
  rw [Program.commit_point_self]
  generalize s.point (.pub h) = p at hstep hservice hahead
  cases hstep with
  | accept => cases hahead
  | pub hc' hs =>
      rw [hc, Option.some.injEq] at hc'
      subst hc'
      cases hs with
      | accepted | found | insert | sendOpen => rfl
      | miss hmiss =>
          obtain ⟨service, hfound, -⟩ := hservice rfl
          rw [hmiss] at hfound
          cases hfound
      | _ => cases hahead

/-- A task that is scheduled on its way to the `open` takes a step. -/
theorem exists_step {s : State} {h : Nat} {conn : PublicConn}
    (hc : s.store.conns.get? h = some conn) (hl : conn.listener = l) (hahead : 0 < ahead s h)
    (hrun : (program srv).canRun s (.pub h) = true) (hown : FindsOwn c l s (.pub h, .go)) :
    ∃ e u, FindsOwn c l s (.pub h, e) ∧ (system srv).step s (.pub h, e) = some u := by
  have hsegment : ∃ e seg, serverSegment srv s.store (.pub h) (s.point (.pub h)) e = some seg := by
    have hservice (hp : s.point (.pub h) = .pub .lookup) := hown.service hp hc hl
    unfold ahead at hahead
    generalize s.point (.pub h) = p at hservice hahead
    cases p with
    | pub p =>
        have hstep {e seg} (hseg : publicSegment s.store h conn p e = some seg) :
            ∃ e seg, serverSegment srv s.store (.pub h) (.pub p) e = some seg :=
          ⟨e, seg.lift .pub, by simp [serverSegment, hc, hseg]⟩
        cases p with
        | accepted | insert | sendOpen => exact hstep (e := .go) rfl
        | lookup =>
            obtain ⟨service, hfound, -⟩ := hservice rfl
            obtain ⟨id, hid⟩ := Infinite.exists_notMem_finset s.store.tickets.toFinset
            rw [List.mem_toFinset] at hid
            have hseg : publicSegment s.store h conn .lookup (.ticket id) =
                some ⟨.ticket h id, .insert service id, some .server⟩ := by
              simp [publicSegment, hfound, hid]
            exact hstep hseg
        | _ => cases hahead
    | _ => cases hahead
  obtain ⟨e, seg, hseg⟩ := hsegment
  exact ⟨e, _, hown, Program.step_eq_some.mpr ⟨hrun, seg, hseg, rfl⟩⟩

/-- The lock of the server and the write lock of `c` are there for the task of connection
`h` alone, and if it has not looked its service up yet there is a record of `c` to find. -/
structure Unhindered (c : ClientId) (s : State) (h : Nat) (conn : PublicConn) : Prop where
  running : s.running = none ∨ s.running = some (.pub h)
  server : Program.Only s (.pub h) .server
  writer : Program.Only s (.pub h) (.writer c)
  service : 2 < ahead s h →
    ∃ service, s.store.services.get? conn.serviceName = some service ∧ service.client = c

theorem Unhindered.canRun {s : State} {h : Nat} {conn : PublicConn}
    (hfree : Unhindered c s h conn) (hr : (system srv).ReachableUnder (FindsOwn c l) s)
    (hc : s.store.conns.get? h = some conn) (hl : conn.listener = l) (hahead : 0 < ahead s h) :
    (program srv).canRun s (.pub h) = true := by
  have henqueued := (discipline srv).enqueued (fun t => by cases t <;> rfl) hr
  refine Program.canRun_of_only ((complete srv).queued hr) henqueued hfree.running fun k hw => ?_
  obtain ⟨p, hp⟩ := exists_point hr hc
  have hroute := (routes hr).2 (.pub h)
  have hw : (s.point (.pub h)).wants (.pub h) = some k := hw
  rw [hp] at hroute hw
  rw [ahead, hp] at hahead
  have hlocals := (hroute conn hc hl).1
  cases p with
  | lookup | insert =>
      cases hw
      exact hfree.server
  | sendOpen service id =>
      cases hw
      rw [hlocals service id rfl]
      exact hfree.writer
  | accepted => cases hw
  | _ => cases hahead

theorem Unhindered.findsOwn {s : State} {h : Nat} {conn : PublicConn} {e : Event}
    (hfree : Unhindered c s h conn) (hc : s.store.conns.get? h = some conn) :
    FindsOwn c l s (.pub h, e) := by
  have hservice := hfree.service
  unfold ahead at hservice
  simp only [FindsOwn, PyFrp.findsOwn, hc]
  generalize s.point (.pub h) = p at hservice
  cases p with
  | pub p =>
      cases p with
      | lookup =>
          obtain ⟨service, hfound, hclient⟩ := hservice (by decide)
          simp [hfound, hclient]
      | _ => rfl
  | _ => rfl

/-- A public task leaves the records as they are. -/
theorem services_step {s u : State} {e : Event} {h : Nat}
    (hs : (system srv).step s (.pub h, e) = some u) : u.store.services = s.store.services := by
  obtain ⟨-, seg, hseg, rfl⟩ := Program.step_eq_some.mp hs
  have hstep := serverSegment_cases hseg
  rw [Program.commit_store]
  generalize s.point (.pub h) = p at hstep
  cases hstep with
  | accept => rfl
  | pub _ hstep => cases hstep <;> rfl

theorem Unhindered.step {s : State} {h : Nat} {conn : PublicConn}
    (hfree : Unhindered c s h conn) (hr : (system srv).ReachableUnder (FindsOwn c l) s)
    (hc : s.store.conns.get? h = some conn) (hl : conn.listener = l) (hahead : 0 < ahead s h) :
    ∃ e u conn', FindsOwn c l s (.pub h, e) ∧ (system srv).step s (.pub h, e) = some u ∧
      u.store.conns.get? h = some conn' ∧ conn'.listener = l ∧
      conn'.serviceName = conn.serviceName ∧ Unhindered c u h conn' ∧
      ahead u h + 1 = ahead s h := by
  obtain ⟨e, u, hown, hs⟩ :=
    exists_step hc hl hahead (hfree.canRun hr hc hl hahead) (hfree.findsOwn hc)
  have hnearer := ahead_step hc hl hahead hown hs
  have hservices := services_step hs
  obtain ⟨-, seg, -, rfl⟩ := Program.step_eq_some.mp (id hs)
  refine ⟨e, _, seg.effect.connAfter s.store h conn, hown, hs, ?_, hl, rfl, ?_, hnearer⟩
  · rw [Program.commit_store]
    exact Effect.conns_of_get? hc
  · refine ⟨Program.commit_running s _ seg, hfree.server.commit seg, hfree.writer.commit seg,
      fun hlate => ?_⟩
    rw [hservices]
    exact hfree.service (by omega)

/-- A task that is alone with the locks comes to its `open`. -/
theorem exists_announced {s : State} {h : Nat} {conn : PublicConn}
    (hfree : Unhindered c s h conn) (hr : (system srv).ReachableUnder (FindsOwn c l) s)
    (hc : s.store.conns.get? h = some conn) (hl : conn.listener = l) :
    ∃ u conn', (system srv).Runs (FindsOwn c l) s u ∧ u.store.conns.get? h = some conn' ∧
      conn'.listener = l ∧ conn'.serviceName = conn.serviceName ∧ Announced c u.store conn' := by
  induction hn : ahead s h generalizing s conn with
  | zero => exact ⟨s, conn, .refl, hc, hl, rfl, announced_of_ahead hr hc hl hn⟩
  | succ n ih =>
      obtain ⟨e, u, conn', hown, hs, hc', hl', hname, hfree', hnearer⟩ :=
        hfree.step hr hc hl (by omega)
      obtain ⟨v, conn'', hrun, hc'', hl'', hname', hannounced⟩ :=
        ih hfree' (hr.tail hown hs) hc' hl' (by omega)
      have hone : (system srv).Runs (FindsOwn c l) s u := .tail .refl hown hs
      exact ⟨v, conn'', hone.trans hrun, hc'', hl'', hname'.trans hname, hannounced⟩

/-! ## The reported addresses -/

/-- An entry of the answer has the socket address of the listener of its record, if
that is still open. -/
def AddressOk (σ : Store) : TaskId → Point → Prop
  | .control _, .control (.sendRegistered q services) =>
      ∀ (i : Nat) r reply x, q.registered[i]? = some r → services[i]? = some reply →
        σ.listeners.get? r.listener = some x → x.isOpen = true →
        x.host = reply.bindHost ∧ x.port = reply.bindPort
  | _, _ => True

theorem ControlStep.addressOk {p : ControlPoint} {seg : Segment LockId Effect ControlPoint}
    (hs : ControlStep srv σ c p seg) :
    AddressOk (seg.effect.apply σ) (.control c) (.control seg.next) := by
  cases hs with
  | item hn =>
      cases hn with
      | done hnone =>
          intro i r reply x hr hreply hx hopen
          rw [List.getElem?_map, hr, Option.map_some, Option.some.injEq] at hreply
          have hx : σ.listeners.get? r.listener = some x := hx
          rw [← hreply]
          simp [serviceReply, publicAddress, hx, hopen]
      | _ => trivial
  | @session p seg hp hn hq hs hg hφ =>
      cases hnext : seg.next with
      | sendRegistered q services => exact absurd hnext (hs q services)
      | _ => trivial
  | _ => trivial

/-- A listener keeps its address, and once it is closed it stays closed. -/
theorem AddressOk.apply {c : ClientId} {p : ControlPoint}
    (h : AddressOk σ (.control c) (.control p)) (hp : ControlOk srv σ.listeners c p) :
    AddressOk (φ.apply σ) (.control c) (.control p) := by
  cases p with
  | sendRegistered q services =>
      intro i r reply x hr hreply hx hopen
      obtain ⟨raw, -, hcomp⟩ := hp.1.registered i r hr
      obtain ⟨y, hy, -⟩ := hcomp.opened
      rw [Effect.listeners_of_get? hy, Option.some.injEq] at hx
      subst hx
      exact h i r reply y hr hreply hy (Bool.and_eq_true_iff.mp hopen).1
  | _ => trivial

theorem addressOutline (srv : Server) (C : State → Action → Prop) :
    (program srv).Outline .initial .start Point.holds C (fun _ => True) AddressOk where
  initial := trivial
  starts t := by cases t <;> trivial
  keeps _ _ _ := trivial
  establishes {s t e seg} hat _ _ := by
    have hs := serverSegment_cases hat.segment
    generalize s.point t = p at hs
    cases hs with
    | control hs => exact hs.addressOk
    | _ => trivial
  spares {s t e seg u} hat _ hA _ := by
    have haddress := hA u
    have hrecords := (records hat.run).2 u
    revert haddress hrecords
    generalize s.point u = p
    intro haddress hrecords
    cases u with
    | control c =>
        cases p with
        | control p => exact haddress.apply hrecords
        | _ => trivial
    | _ => trivial

/-- An answer reports the addresses of the listeners that are open. -/
theorem addresses {s : State} (h : (system srv).Reachable s) {q : Request}
    {services : List ServiceReply}
    (hp : s.point (.control c) = .control (.sendRegistered q services)) (i : Nat)
    (r : RegisteredService) (reply : ServiceReply) (x : Listener)
    (hr : q.registered[i]? = some r) (hreply : services[i]? = some reply)
    (hx : s.store.listeners.get? r.listener = some x) (hopen : x.isOpen = true) :
    x.host = reply.bindHost ∧ x.port = reply.bindPort := by
  have haddress := ((addressOutline srv _).sound (discipline srv) h).2 (.control c)
  rw [hp] at haddress
  exact haddress i r reply x hr hreply hx hopen

/-- What stays of a listener along a run. -/
theorem listener_runs {C : State → Action → Prop} {s s' : State} {i : Nat} {x : Listener}
    (hx : s.store.listeners.get? i = some x) (hrun : (system srv).Runs C s s') :
    ∃ y, s'.store.listeners.get? i = some y ∧ y.callback = x.callback ∧ y.owner = x.owner ∧
      y.item = x.item ∧ y.host = x.host ∧ y.port = x.port ∧
      (y.isOpen = true → x.isOpen = true) := by
  induction hrun with
  | refl => exact ⟨x, hx, rfl, rfl, rfl, rfl, rfl, id⟩
  | tail _ _ hs ih =>
      obtain ⟨y, hy, hcb, howner, hitem, hhost, hport, hopen⟩ := ih
      obtain ⟨-, seg, -, rfl⟩ := Program.step_eq_some.mp hs
      rw [Program.commit_store]
      exact ⟨seg.effect.listenerAfter _ i y, Effect.listeners_of_get? hy, hcb, howner, hitem, hhost,
        hport, fun ho => hopen (Bool.and_eq_true_iff.mp ho).1⟩

end PyFrp
