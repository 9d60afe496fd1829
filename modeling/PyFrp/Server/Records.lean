import PyFrp.Server.Effects
import PyFrp.Server.Steps

/-!
# Where the records come from

In every reachable state, every record in `_services` and every record a
handler carries in its locals was made of one registration item, for a
listener that was opened for that item; and the locals of a registration are
in step with the items of its request.
-/

namespace PyFrp

open Python Coop Store

variable {srv : Server} {σ : Store} {φ : Effect} {c : ClientId}

/-! ## Records and their items -/

/-- `r` is the record the server makes of `raw` for session `c`. -/
inductive Made (srv : Server) (c : ClientId) : Value → RegisteredService → Prop
  | regular {raw service} (l : Nat) (hp : isPoolRegistration srv raw = false)
      (hs : serviceFromRegistration srv raw = .ok service) :
      Made srv c raw (regularService srv c service l)
  | pool {raw item port} (l : Nat) (hp : isPoolRegistration srv raw = true)
      (hi : poolItem srv raw = .ok item) (hport : port ∈ srv.config.portPool) :
      Made srv c raw (poolService srv c item port l)

theorem Made.client {raw : Value} {r : RegisteredService} (h : Made srv c raw r) :
    r.client = c := by
  cases h <;> rfl

/-- Listener `l` was opened by session `c` for the service `name` of the item
`raw`; `registered` says whether the registration was completed. -/
def Opened (ls : Heap Listener) (c : ClientId) (raw : Value) (name : String)
    (registered : Bool) (l : Nat) : Prop :=
  ∃ x, ls.get? l = some x ∧ x.callback = name ∧ x.owner = c ∧ x.item = raw ∧
    x.registered = registered

/-- `r` is the record of a completed registration of `raw` by `c`. -/
structure Completed (srv : Server) (ls : Heap Listener) (c : ClientId) (raw : Value)
    (r : RegisteredService) : Prop where
  made : Made srv c raw r
  opened : Opened ls c raw r.name true r.listener

/-- `r` is the record of a registration whose listener is open already. -/
structure Opening (srv : Server) (ls : Heap Listener) (c : ClientId) (raw : Value)
    (r : RegisteredService) : Prop where
  made : Made srv c raw r
  opened : Opened ls c raw r.name false r.listener

/-- An effect spares the listeners of `c`: it completes none of their registrations. -/
def Effect.Spares (σ : Store) (c : ClientId) (φ : Effect) : Prop :=
  ∀ l x, φ.completes = some l → σ.listeners.get? l = some x → x.owner ≠ c

theorem Opened.apply {raw : Value} {name : String} {l : Nat} {b : Bool}
    (h : Opened σ.listeners c raw name b l) (hφ : φ.Spares σ c) :
    Opened (φ.apply σ).listeners c raw name b l := by
  obtain ⟨x, hx, hcb, hc, hi, hb⟩ := h
  refine ⟨_, Effect.listeners_of_get? hx, hcb, hc, hi, ?_⟩
  have hne : φ.completes ≠ some l := fun hl => hφ l x hl hx hc
  simp [Effect.listenerAfter, hne, hb]

/-- A completed registration stays completed. -/
theorem Opened.registered {raw : Value} {name : String} {l : Nat}
    (h : Opened σ.listeners c raw name true l) :
    Opened (φ.apply σ).listeners c raw name true l := by
  obtain ⟨x, hx, hcb, hc, hi, hb⟩ := h
  exact ⟨_, Effect.listeners_of_get? hx, hcb, hc, hi, by simp [Effect.listenerAfter, hb]⟩

theorem Completed.apply {raw : Value} {r : RegisteredService}
    (h : Completed srv σ.listeners c raw r) : Completed srv (φ.apply σ).listeners c raw r :=
  ⟨h.made, h.opened.registered⟩

theorem Opening.apply {raw : Value} {r : RegisteredService}
    (h : Opening srv σ.listeners c raw r) (hφ : φ.Spares σ c) :
    Opening srv (φ.apply σ).listeners c raw r :=
  ⟨h.made, h.opened.apply hφ⟩

/-- The insertion completes a registration. -/
theorem Opening.register {raw : Value} {r : RegisteredService}
    (h : Opening srv σ.listeners c raw r) :
    Completed srv ((Effect.register r).apply σ).listeners c raw r := by
  obtain ⟨x, hx, hcb, hc, hi, -⟩ := h.opened
  refine ⟨h.made, _, Effect.listeners_of_get? hx, hcb, hc, hi, ?_⟩
  simp [Effect.listenerAfter, Effect.completes]

/-- A listener opened for a record is there. -/
theorem Opened.listen {raw : Value} {name host : String} {port : Int} :
    Opened ((Effect.listen (openListener name host port c raw)).apply σ).listeners c raw name
      false σ.listeners.size :=
  ⟨openListener name host port c raw, by simp [Effect.apply], rfl, rfl, rfl, rfl⟩

/-! ## The assertions at the points -/

/-- The records of a request belong to its first items, one each. -/
structure RequestOk (srv : Server) (ls : Heap Listener) (c : ClientId) (q : Request) : Prop where
  message : dictGet q.message "services" = .list q.items
  registered : ∀ (i : Nat) (r : RegisteredService), q.registered[i]? = some r →
    ∃ raw, q.items[i]? = some raw ∧ Completed srv ls c raw r

/-- The item a request comes to next. -/
def Request.current (q : Request) (raw : Value) : Prop :=
  q.items[q.registered.length]? = some raw

/-- A call of `_register_pool_service` with the locals it read from its item. -/
structure CallOk (srv : Server) (ls : Heap Listener) (c : ClientId) (p : PoolCall) : Prop where
  request : RequestOk srv ls c p.request
  current : p.request.current p.raw
  pool : isPoolRegistration srv p.raw = true
  item : poolItem srv p.raw = .ok p.item

/-- The assertion at each point of a control task. -/
def ControlOk (srv : Server) (ls : Heap Listener) (c : ClientId) : ControlPoint → Prop
  | .item q => RequestOk srv ls c q
  | .regularBind q raw service =>
      RequestOk srv ls c q ∧ q.current raw ∧ isPoolRegistration srv raw = false ∧
        serviceFromRegistration srv raw = .ok service
  | .regularBound q service l =>
      RequestOk srv ls c q ∧
        ∃ raw, q.current raw ∧ isPoolRegistration srv raw = false ∧
          Opening srv ls c raw (regularService srv c service l)
  | .regularInsert q r | .regularTaken q r =>
      RequestOk srv ls c q ∧
        ∃ raw, q.current raw ∧ isPoolRegistration srv raw = false ∧ Opening srv ls c raw r
  | .poolEnter p | .poolEvict p _ => CallOk srv ls c p
  | .poolScan p _ scan => CallOk srv ls c p ∧ ∀ port ∈ scan.ports, port ∈ srv.config.portPool
  | .poolBind p _ scan port =>
      CallOk srv ls c p ∧ ∀ port' ∈ port :: scan.ports, port' ∈ srv.config.portPool
  | .poolBound p _ _ port l =>
      CallOk srv ls c p ∧ Opening srv ls c p.raw (poolService srv c p.item port l)
  | .announce p | .sendPreempted p | .preemptedSent p | .closeVictim p =>
      CallOk srv ls c p.call ∧ ∀ r, p.outcome = some r → Completed srv ls c p.call.raw r
  | .rollback q rest _ => RequestOk srv ls c q ∧ ∀ r ∈ rest, r ∈ q.registered
  | .drop q r rest _ | .dropped q r rest _ =>
      RequestOk srv ls c q ∧ ∀ r' ∈ r :: rest, r' ∈ q.registered
  | .sendRegistered q services =>
      RequestOk srv ls c q ∧ q.registered.length = q.items.length ∧
        services.map ServiceReply.name = q.registered.map RegisteredService.name
  | .registeredSent q | .serve q | .sendPong q _ | .pongSent q =>
      RequestOk srv ls c q ∧ q.registered.length = q.items.length
  | _ => True

/-- The record a public task works with was registered under the name its
listener captured. -/
def PublicOk (srv : Server) (σ : Store) (h : Nat) (p : PublicPoint) : Prop :=
  ∀ service id, p.locals = some (service, id) →
    (∃ raw, Completed srv σ.listeners service.client raw service) ∧
      ∃ conn, σ.conns.get? h = some conn ∧ conn.serviceName = service.name

def PointOk (srv : Server) (σ : Store) : TaskId → Point → Prop
  | .control c, .control p => ControlOk srv σ.listeners c p
  | .pub h, .pub p => PublicOk srv σ h p
  | _, _ => True

/-- Every record in `_services` is stored under its name and was registered. -/
def RecordsOk (srv : Server) (σ : Store) : Prop :=
  ∀ k r, σ.services.get? k = some r →
    r.name = k ∧ ∃ raw, Completed srv σ.listeners r.client raw r

/-! ## Steps keep the assertions -/

theorem RequestOk.apply {q : Request} (h : RequestOk srv σ.listeners c q) :
    RequestOk srv (φ.apply σ).listeners c q := by
  refine ⟨h.message, fun i r hr => ?_⟩
  obtain ⟨raw, hraw, hc⟩ := h.registered i r hr
  exact ⟨raw, hraw, hc.apply⟩

/-- The loop goes on with one more record. -/
theorem RequestOk.append {ls : Heap Listener} {q : Request} {raw : Value}
    {r : RegisteredService} (h : RequestOk srv ls c q) (hraw : q.current raw)
    (hr : Completed srv ls c raw r) :
    RequestOk srv ls c { q with registered := q.registered ++ [r] } := by
  refine ⟨h.message, fun i r' hi => ?_⟩
  rw [List.getElem?_append] at hi
  split at hi
  · exact h.registered i r' hi
  · rename_i hge
    obtain ⟨hlt, rfl⟩ := List.getElem?_eq_some_iff.mp hi
    have hi0 : i = q.registered.length := by
      simp only [List.length_singleton] at hlt
      omega
    subst hi0
    simpa using ⟨raw, hraw, hr⟩

theorem CallOk.apply {p : PoolCall} (h : CallOk srv σ.listeners c p) :
    CallOk srv (φ.apply σ).listeners c p :=
  ⟨h.request.apply, h.current, h.pool, h.item⟩

/-- An effect that spares the listeners of `c` does not interfere with it. -/
theorem ControlOk.apply {p : ControlPoint} (h : ControlOk srv σ.listeners c p)
    (hφ : φ.Spares σ c) : ControlOk srv (φ.apply σ).listeners c p := by
  cases p
  case item => exact RequestOk.apply h
  case poolEnter | poolEvict => exact CallOk.apply h
  case regularBound | regularInsert | regularTaken =>
    obtain ⟨hq, raw, hraw, hp, ho⟩ := h
    exact ⟨hq.apply, raw, hraw, hp, ho.apply hφ⟩
  case poolBound => exact ⟨h.1.apply, h.2.apply hφ⟩
  case announce | sendPreempted | preemptedSent | closeVictim =>
    exact ⟨h.1.apply, fun r hr => (h.2 r hr).apply⟩
  case regularBind | rollback | drop | dropped | sendRegistered | registeredSent | serve
      | sendPong | pongSent =>
    exact ⟨h.1.apply, h.2⟩
  case poolScan | poolBind => exact ⟨h.1.apply, h.2⟩
  all_goals trivial

theorem ControlOk.completed {ls : Heap Listener} {p : ControlPoint} {q : Request}
    (h : ControlOk srv ls c p) (hq : p.completed = some q) :
    RequestOk srv ls c q ∧ q.registered.length = q.items.length := by
  cases p <;> cases hq
  case sendRegistered => exact ⟨h.1, h.2.1⟩
  all_goals exact h

theorem controlOk_of_session {ls : Heap Listener} {p : ControlPoint} (hp : p.session = true)
    (hs : ∀ q services, p ≠ .sendRegistered q services)
    (hq : ∀ q, p.completed = some q →
      RequestOk srv ls c q ∧ q.registered.length = q.items.length) : ControlOk srv ls c p := by
  cases p
  case sendRegistered q services => exact absurd rfl (hs q services)
  case registeredSent | serve | sendPong | pongSent => exact hq _ rfl
  all_goals trivial

/-- A request that has no next item is done. -/
theorem RequestOk.length_eq {ls : Heap Listener} {q : Request} (h : RequestOk srv ls c q)
    (hn : q.items[q.registered.length]? = none) : q.registered.length = q.items.length := by
  have hge : q.items.length ≤ q.registered.length := List.getElem?_eq_none_iff.mp hn
  rcases Nat.lt_or_ge q.items.length q.registered.length with hlt | hle
  · obtain ⟨raw, hraw, -⟩ := h.registered _ _ (List.getElem?_eq_getElem hlt)
    rw [List.getElem?_eq_none (le_refl _)] at hraw
    cases hraw
  · omega

theorem ControlStep.establishes {p : ControlPoint} {seg : Segment LockId Effect ControlPoint}
    (hs : ControlStep srv σ c p seg) (h : ControlOk srv σ.listeners c p) :
    ControlOk srv (seg.effect.apply σ).listeners c seg.next := by
  cases hs with
  | item hn =>
      have hq : RequestOk srv σ.listeners c _ := h
      cases hn with
      | done hnone => exact ⟨hq.apply, hq.length_eq hnone, by simp [serviceReply]⟩
      | pool hraw hp hi => exact ⟨hq, hraw, hp, hi⟩
      | regular hraw hp hs => exact ⟨hq, hraw, hp, hs⟩
      | refused e => exact ⟨hq, fun _ hr => hr⟩
  | regularListen host port =>
      obtain ⟨hq, hraw, hp, hs⟩ := h
      exact ⟨hq.apply, _, hraw, hp, .regular _ hp hs, .listen⟩
  | regularRefused e => exact ⟨h.1, fun _ hr => hr⟩
  | regularBound => exact h
  | regularDiscard hc =>
      obtain ⟨hq, raw, hraw, hp, ho⟩ := h
      exact ⟨hq.apply, raw, hraw, hp, ho.apply nofun⟩
  | regularInsert hc =>
      obtain ⟨hq, raw, hraw, -, ho⟩ := h
      exact hq.apply.append hraw ho.register
  | regularTaken e hc => exact ⟨h.1, fun _ hr => hr⟩
  | poolEnter => exact ⟨h, by simp [startScan]⟩
  | poolSkip hp hu => exact ⟨h.1, fun port hport => h.2 port (by rw [hp]; exact .tail _ hport)⟩
  | poolTry hp hu => exact ⟨h.1, fun port hport => h.2 port (by rw [hp]; exact hport)⟩
  | poolFull hp => exact ⟨h.1, nofun⟩
  | poolEvict hp hv => exact h.1.apply
  | poolDenied hp hv => exact ⟨h.1.request, fun _ hr => hr⟩
  | poolListen host port' =>
      obtain ⟨hcall, hports⟩ := h
      exact ⟨hcall.apply, .pool _ hcall.pool hcall.item (hports _ (.head _)), .listen⟩
  | poolRefused text => exact ⟨h.1, fun port hport => h.2 port (.tail _ hport)⟩
  | poolCrash e => exact ⟨h.1.request, fun _ hr => hr⟩
  | poolInsert => exact h.1.request.apply.append h.1.current h.2.register
  | poolReplace =>
      refine ⟨h.1.apply, ?_⟩
      intro r heq
      cases heq
      exact h.2.register
  | poolRescan hc => exact ⟨h, by simp [startScan]⟩
  | announce => exact ⟨h.1.apply, fun r hr => (h.2 r hr).apply⟩
  | sendPreempted => exact ⟨h.1.apply, fun r hr => (h.2 r hr).apply⟩
  | preemptedSent => exact ⟨h.1.apply, fun r hr => (h.2 r hr).apply⟩
  | preempted ho => exact h.1.request.append h.1.current (h.2 _ ho)
  | preemptedInVain e ho => exact ⟨h.1.request, fun _ hr => hr⟩
  | rolledBack => trivial
  | rollback => exact h
  | drop => exact ⟨h.1.apply, h.2⟩
  | dropped hc => exact ⟨h.1, fun r hr => h.2 r (.tail _ hr)⟩
  | leave => trivial
  | begin hp hg hq hm => exact ⟨hm, by simp [hq]⟩
  | session hp hn hq hs hg hφ =>
      refine controlOk_of_session hn hs fun q hq' => ?_
      obtain ⟨hreq, hlen⟩ := h.completed (hq q hq')
      exact ⟨hreq.apply, hlen⟩

theorem Opening.owner {raw : Value} {r : RegisteredService} {x : Listener}
    (h : Opening srv σ.listeners c raw r) (hx : σ.listeners.get? r.listener = some x) :
    x.owner = c := by
  obtain ⟨y, hy, -, hc, -⟩ := h.opened
  rw [hx, Option.some.injEq] at hy
  rw [hy, hc]

/-- The record a step registers is the one whose listener its task has opened. -/
theorem ControlStep.registers {p : ControlPoint} {seg : Segment LockId Effect ControlPoint}
    {r : RegisteredService} (hs : ControlStep srv σ c p seg)
    (h : ControlOk srv σ.listeners c p) (hr : seg.effect = .register r) :
    ∃ raw, Opening srv σ.listeners c raw r := by
  cases hs with
  | session hp hn hq hs hg hφ => exact absurd hr (hφ.ne rfl)
  | regularInsert hc =>
      cases hr
      obtain ⟨-, raw, -, -, ho⟩ := h
      exact ⟨raw, ho⟩
  | poolInsert =>
      cases hr
      exact ⟨_, h.2⟩
  | poolReplace =>
      cases hr
      exact ⟨_, h.2⟩
  | _ => cases hr

theorem ServerStep.registers {t : TaskId} {p : Point} {seg : Segment LockId Effect Point}
    {r : RegisteredService} (hs : ServerStep srv σ t p seg) (h : PointOk srv σ t p)
    (hr : seg.effect = .register r) :
    ∃ c raw, t = .control c ∧ Opening srv σ.listeners c raw r := by
  obtain ⟨c, p', seg', rfl, rfl, rfl, hcall⟩ := hs.ofCall (by rw [hr]; rfl)
  obtain ⟨raw, ho⟩ := hcall.registers h hr
  exact ⟨c, raw, rfl, ho⟩

/-- Only the own control task completes a registration of `c`. -/
theorem ServerStep.spares {t : TaskId} {p : Point} {seg : Segment LockId Effect Point}
    (hs : ServerStep srv σ t p seg) (h : PointOk srv σ t p) (ht : t ≠ .control c) :
    seg.effect.Spares σ c := by
  intro l x hl hx hown
  cases hφ : seg.effect with
  | register r =>
      rw [hφ] at hl
      cases hl
      obtain ⟨c', raw, rfl, ho⟩ := hs.registers h hφ
      exact ht (congrArg TaskId.control ((ho.owner hx).symm.trans hown))
  | _ =>
      rw [hφ] at hl
      cases hl

theorem PublicOk.apply {h : Nat} {p : PublicPoint} (hp : PublicOk srv σ h p) :
    PublicOk srv (φ.apply σ) h p := by
  intro service id hl
  obtain ⟨⟨raw, hc⟩, conn, hconn, hname⟩ := hp service id hl
  exact ⟨⟨raw, hc.apply⟩, _, Effect.conns_of_get? hconn, hname⟩

theorem PublicStep.establishes {h : Nat} {conn : PublicConn} {p : PublicPoint}
    {seg : Segment LockId Effect PublicPoint} (hs : PublicStep σ h conn p seg)
    (hc : σ.conns.get? h = some conn) (hr : RecordsOk srv σ) (hp : PublicOk srv σ h p) :
    PublicOk srv (seg.effect.apply σ) h seg.next := by
  cases hs with
  | found hservice hid =>
      intro service id heq
      cases heq
      obtain ⟨hname, raw, hcomp⟩ := hr _ _ hservice
      exact ⟨⟨raw, hcomp.apply⟩, _, Effect.conns_of_get? hc, hname.symm⟩
  | accepted | miss | closeTunnel | close | cleanup => rintro service id ⟨⟩
  | insert => exact PublicOk.apply (p := .sendOpen _ _) hp
  | _ => exact hp.apply

theorem ServerStep.recordsOk {t : TaskId} {p : Point} {seg : Segment LockId Effect Point}
    (hs : ServerStep srv σ t p seg) (h : PointOk srv σ t p) (hr : RecordsOk srv σ) :
    RecordsOk srv (seg.effect.apply σ) := by
  intro k r hk
  rcases Effect.of_services hk with ⟨hφ, rfl⟩ | ⟨hk, -, -⟩
  · obtain ⟨c, raw, rfl, ho⟩ := hs.registers h hφ
    rw [hφ, ho.made.client]
    exact ⟨rfl, raw, ho.register⟩
  · obtain ⟨hname, raw, hc⟩ := hr k r hk
    exact ⟨hname, raw, hc.apply⟩

/-! ## The proof outline -/

variable {C : State → Action → Prop}

theorem recordsOutline (srv : Server) (C : State → Action → Prop) :
    (program srv).Outline .initial .start Point.holds C (RecordsOk srv) (PointOk srv) where
  initial := by rintro k r ⟨⟩
  starts t := by cases t <;> trivial
  keeps hat hI hA := (serverSegment_cases hat.segment).recordsOk (hA _) hI
  establishes {s t e seg} hat hI hA := by
    have hp := hA t
    have hseg := serverSegment_cases hat.segment
    revert hp hseg
    generalize s.point t = p
    intro hp hseg
    cases hseg with
    | connect hnow => trivial
    | control hs => exact hs.establishes hp
    | accept hl ho => rintro service id ⟨⟩
    | pub hc hs => exact hs.establishes hc hI hp
    | connectTunnel message => trivial
    | tunnel hs => trivial
  spares {s t e seg u} hat hI hA hne := by
    have hp := hA u
    revert hp
    generalize s.point u = p
    intro hp
    cases u with
    | control c =>
        cases p with
        | control p =>
            have hstep := serverSegment_cases hat.segment
            exact ControlOk.apply hp (hstep.spares (hA t) hne.symm)
        | _ => trivial
    | pub h =>
        cases p with
        | pub p => exact PublicOk.apply hp
        | _ => trivial
    | tunnel k => trivial

theorem records {s : State} (h : (system srv).ReachableUnder C s) :
    RecordsOk srv s.store ∧ ∀ t, PointOk srv s.store t (s.point t) :=
  (recordsOutline srv C).sound (discipline srv) h

end PyFrp
