import PyFrp.Server.Handlers
import PyFrp.Server.Items

/-!
# What the tasks of the server can do

The inversion of the segments: a relation with one named case for every kind
of step, so that no later proof has to take the handlers apart again. The many
steps of a control task around a registration (the hello exchange, the
replies, the read loop, the error clauses) are one case: they leave the maps
of the server alone and carry at most the completed request along.
-/

namespace PyFrp

open Python Coop Store

variable {srv : Server} {σ : Store} {c : ClientId}

/-! ## Control tasks -/

/-- A point of `_handle_control` outside `_register_client`. -/
def ControlPoint.session : ControlPoint → Bool
  | .join _ | .sendHello | .helloSent | .readRegister | .dispatch _ | .raised _ _
  | .sendForceRequired _ | .forceRequiredSent | .readRetry | .sendRegistered _ _
  | .registeredSent _ | .serve _ | .sendPong _ _ | .pongSent _ | .failed _ | .errorSent
  | .leave | .left _ | .closing | .finished => true
  | _ => false

/-- The request that `_register_client` completed. -/
def ControlPoint.completed : ControlPoint → Option Request
  | .sendRegistered q _ | .registeredSent q | .serve q | .sendPong q _ | .pongSent q => some q
  | _ => none

/-- A point after the critical section of `_remove_client`. -/
def ControlPoint.gone : ControlPoint → Bool
  | .left _ | .closing | .finished => true
  | _ => false

/-- A change a session makes to its own bookkeeping and control connection. -/
inductive SessionEffect (c : ClientId) : ControlPoint → Effect → Prop
  | none {p} : SessionEffect c p .none
  | join {p} : SessionEffect c p (.join c)
  | registered {q services} :
      SessionEffect c (.sendRegistered q services) (.send c (.registered c services))
  | send {p m} (hm : ∀ id service, m ≠ .openTunnel id service)
      (hr : ∀ services, m ≠ .registered c services) : SessionEffect c p (.send c m)
  | close {p} : SessionEffect c p (.closeSession c)

def Effect.ofSession : Effect → Bool
  | .none | .join _ | .send _ _ | .closeSession _ => true
  | _ => false

theorem SessionEffect.ne {p : ControlPoint} {φ φ' : Effect} (h : SessionEffect c p φ)
    (hφ' : φ'.ofSession = false) : φ ≠ φ' := by
  rintro rfl
  cases h <;> cases hφ'

/-- Where a round of the loop of `_register_client` comes to. -/
inductive NextItem (srv : Server) (σ : Store) (q : Request) : ControlPoint → Prop
  | done (h : q.items[q.registered.length]? = none) :
      NextItem srv σ q (.sendRegistered q (q.registered.map σ.serviceReply))
  | pool {raw item} (hraw : q.items[q.registered.length]? = some raw)
      (hp : isPoolRegistration srv raw = true) (hi : poolItem srv raw = .ok item) :
      NextItem srv σ q (.poolEnter ⟨q, raw, item⟩)
  | regular {raw service} (hraw : q.items[q.registered.length]? = some raw)
      (hp : isPoolRegistration srv raw = false)
      (hs : serviceFromRegistration srv raw = .ok service) :
      NextItem srv σ q (.regularBind q raw service)
  | refused (e : ServerError) : NextItem srv σ q (.rollback q q.registered e)

theorem nextItem_cases (srv : Server) (σ : Store) (q : Request) :
    NextItem srv σ q (nextItem srv σ q) := by
  fun_cases nextItem srv σ q
  case case1 h => exact .done h
  case case2 raw hraw hp item hi => exact .pool hraw hp hi
  case case3 => exact .refused _
  case case4 raw hraw hp service hs => exact .regular hraw (Bool.eq_false_iff.mpr hp) hs
  case case5 => exact .refused _

theorem startRegister_cases (current : Fields) (retry force : Bool) :
    (∃ q, q.registered = [] ∧ dictGet q.message "services" = .list q.items ∧
        startRegister current retry force = .item q) ∨
      ∃ q e, startRegister current retry force = .raised q e := by
  unfold startRegister
  split
  · rename_i h
    exact .inl ⟨_, rfl, h, rfl⟩
  · exact .inr ⟨_, _, rfl⟩

/-- The steps of the control task of session `c`. -/
inductive ControlStep (srv : Server) (σ : Store) (c : ClientId) :
    ControlPoint → Segment LockId Effect ControlPoint → Prop
  | item {q next} (h : NextItem srv σ q next) : ControlStep srv σ c (.item q) ⟨.none, next, none⟩
  | regularListen {q raw service} (host : String) (port : Int) :
      ControlStep srv σ c (.regularBind q raw service)
        ⟨.listen (openListener service.name host port c raw),
          .regularBound q service σ.listeners.size, none⟩
  | regularRefused {q raw service} (e : ServerError) :
      ControlStep srv σ c (.regularBind q raw service)
        ⟨.none, .rollback q q.registered e, none⟩
  | regularBound {q service l} :
      ControlStep srv σ c (.regularBound q service l)
        ⟨.none, .regularInsert q (regularService srv c service l), none⟩
  | regularDiscard {q r} (h : σ.services.contains r.name = true) :
      ControlStep srv σ c (.regularInsert q r) ⟨.discard r, .regularTaken q r, none⟩
  | regularInsert {q r} (h : ¬ σ.services.contains r.name = true) :
      ControlStep srv σ c (.regularInsert q r) ⟨.register r, appended q r, some .server⟩
  | regularTaken {q r} (e : ServerError) (h : σ.allClosed [r.listener] = true) :
      ControlStep srv σ c (.regularTaken q r)
        ⟨.none, .rollback q q.registered e, some .server⟩
  | poolEnter {p} :
      ControlStep srv σ c (.poolEnter p) ⟨.none, .poolScan p none (startScan srv σ), none⟩
  | poolSkip {p victim scan port ports} (hp : scan.ports = port :: ports)
      (hu : port ∈ scan.used) :
      ControlStep srv σ c (.poolScan p victim scan)
        ⟨.none, .poolScan p victim { scan with ports }, none⟩
  | poolTry {p victim scan port ports} (hp : scan.ports = port :: ports)
      (hu : port ∉ scan.used) :
      ControlStep srv σ c (.poolScan p victim scan)
        ⟨.none, .poolBind p victim { scan with ports } port, none⟩
  | poolFull {p v scan} (hp : scan.ports = []) :
      ControlStep srv σ c (.poolScan p (some v) scan)
        ⟨.none, .announce ⟨p, v, none, scan.lastError⟩, some .server⟩
  | poolEvict {p v scan} (hp : scan.ports = [])
      (hv : σ.selectVictim c p.item.priority p.request.force scan.lastError = .ok v) :
      ControlStep srv σ c (.poolScan p none scan) ⟨.evict v, .poolEvict p v, none⟩
  | poolDenied {p scan e} (hp : scan.ports = [])
      (hv : σ.selectVictim c p.item.priority p.request.force scan.lastError = .error e) :
      ControlStep srv σ c (.poolScan p none scan)
        ⟨.none, .rollback p.request p.request.registered e, some .server⟩
  | poolListen {p victim scan port} (host : String) (port' : Int) :
      ControlStep srv σ c (.poolBind p victim scan port)
        ⟨.listen (openListener (poolServiceName c) host port' c p.raw),
          .poolBound p victim scan port σ.listeners.size, none⟩
  | poolRefused {p victim scan port} (text : String) :
      ControlStep srv σ c (.poolBind p victim scan port)
        ⟨.none, .poolScan p victim
          { scan with lastError := some text, refused := port :: scan.refused }, none⟩
  | poolCrash {p victim scan port} (e : ServerError) :
      ControlStep srv σ c (.poolBind p victim scan port)
        ⟨.none, .rollback p.request p.request.registered e, some .server⟩
  | poolInsert {p scan port l} :
      ControlStep srv σ c (.poolBound p none scan port l)
        ⟨.register (poolService srv c p.item port l),
          appended p.request (poolService srv c p.item port l), some .server⟩
  | poolReplace {p v scan port l} :
      ControlStep srv σ c (.poolBound p (some v) scan port l)
        ⟨.register (poolService srv c p.item port l),
          .announce ⟨p, v, some (poolService srv c p.item port l), scan.lastError⟩,
          some .server⟩
  | poolRescan {p v} (h : σ.allClosed (v.services.map RegisteredService.listener) = true) :
      ControlStep srv σ c (.poolEvict p v)
        ⟨.none, .poolScan p (some v) (startScan srv σ), none⟩
  | announce {p} :
      ControlStep srv σ c (.announce p) ⟨.failPending p.victim.pending, .sendPreempted p, none⟩
  | sendPreempted {p} :
      ControlStep srv σ c (.sendPreempted p)
        ⟨.send p.victim.client (.preempted p.victim.priority p.call.item.priority),
          .preemptedSent p, none⟩
  | preemptedSent {p} :
      ControlStep srv σ c (.preemptedSent p)
        ⟨.closeSession p.victim.client, .closeVictim p, some (.writer p.victim.client)⟩
  | preempted {p r} (h : p.outcome = some r) :
      ControlStep srv σ c (.closeVictim p) ⟨.none, appended p.call.request r, none⟩
  | preemptedInVain {p} (e : ServerError) (h : p.outcome = none) :
      ControlStep srv σ c (.closeVictim p)
        ⟨.none, .rollback p.call.request p.call.request.registered e, none⟩
  | rolledBack {q e} : ControlStep srv σ c (.rollback q [] e) ⟨.none, .raised q e, none⟩
  | rollback {q r rest e} :
      ControlStep srv σ c (.rollback q (r :: rest) e) ⟨.none, .drop q r rest e, none⟩
  | drop {q r rest e} :
      ControlStep srv σ c (.drop q r rest e) ⟨.drop r, .dropped q r rest e, some .server⟩
  | dropped {q r rest e} (h : σ.allClosed [r.listener] = true) :
      ControlStep srv σ c (.dropped q r rest e) ⟨.none, .rollback q rest e, none⟩
  | leave :
      ControlStep srv σ c .leave ⟨.removeClient c, .left (σ.servicesOf c), some .server⟩
  | begin {p q} (hp : p.session = true) (hg : p.gone = false) (hq : q.registered = [])
      (hm : dictGet q.message "services" = .list q.items) :
      ControlStep srv σ c p ⟨.none, .item q, none⟩
  | session {p seg} (hp : p.session = true) (hn : seg.next.session = true)
      (hq : ∀ q, seg.next.completed = some q → p.completed = some q)
      (hs : ∀ q services, seg.next ≠ .sendRegistered q services)
      (hg : seg.next.gone = p.gone) (hφ : SessionEffect c p seg.effect) : ControlStep srv σ c p seg

/-- A registration begins, or its message has no list of services. -/
theorem ControlStep.start {p : ControlPoint} (current : Fields) (retry force : Bool)
    (hp : p.session = true) (hg : p.gone = false) :
    ControlStep srv σ c p ⟨.none, startRegister current retry force, none⟩ := by
  rcases startRegister_cases current retry force with ⟨q, hq, hm, h⟩ | ⟨q, e, h⟩
  · rw [h]
    exact .begin hp hg hq hm
  · rw [h]
    exact .session hp rfl nofun nofun hg.symm .none

theorem controlSegment_cases {p : ControlPoint} {e : Event}
    {seg : Segment LockId Effect ControlPoint} (h : controlSegment srv σ c p e = some seg) :
    ControlStep srv σ c p seg := by
  revert h
  fun_cases controlSegment srv σ c p e
  all_goals intro h
  all_goals cases h
  all_goals first
    | exact .start _ _ _ rfl rfl
    | exact .item (nextItem_cases srv σ _)
    -- a step of a registration is the one case for its two points
    | constructor <;> first | assumption | rfl
    | exact .session rfl rfl (fun _ h => h) nofun rfl (by constructor <;> nofun)
    | exact .session rfl rfl nofun nofun rfl (by constructor)

/-! ## Public and tunnel tasks -/

/-- The steps of `_handle_public` of connection `h`. -/
inductive PublicStep (σ : Store) (h : Nat) (conn : PublicConn) :
    PublicPoint → Segment LockId Effect PublicPoint → Prop
  | accepted : PublicStep σ h conn .accepted ⟨.none, .lookup, none⟩
  | miss (hs : σ.services.get? conn.serviceName = none) :
      PublicStep σ h conn .lookup ⟨.closeConn h, .closing none, some .server⟩
  | found {service id} (hs : σ.services.get? conn.serviceName = some service)
      (hid : id ∉ σ.tickets) :
      PublicStep σ h conn .lookup ⟨.ticket h id, .insert service id, some .server⟩
  | insert {service id} :
      PublicStep σ h conn (.insert service id)
        ⟨.pend (pendingTunnel conn.serviceName service id h), .sendOpen service id,
          some .server⟩
  | sendOpen {service id} :
      PublicStep σ h conn (.sendOpen service id)
        ⟨.send service.client (.openTunnel id conn.serviceName), .openSent service id, none⟩
  | opened {service id} :
      PublicStep σ h conn (.openSent service id)
        ⟨.none, .waitTunnel service id, some (.writer service.client)⟩
  | openFailed {service id} :
      PublicStep σ h conn (.openSent service id)
        ⟨.none, .cleanup service id none, some (.writer service.client)⟩
  | paired {service id k} (hf : conn.future = .result k) :
      PublicStep σ h conn (.waitTunnel service id) ⟨.none, .relay service id k, none⟩
  | disconnected {service id text} (hf : conn.future = .failed text) :
      PublicStep σ h conn (.waitTunnel service id) ⟨.none, .cleanup service id none, none⟩
  | timeout {service id} :
      PublicStep σ h conn (.waitTunnel service id)
        ⟨.giveUp h, .cleanup service id none, none⟩
  | relayEnd {service id k} :
      PublicStep σ h conn (.relay service id k) ⟨.relayed h k, .relayed service id k, none⟩
  | relayed {service id k} :
      PublicStep σ h conn (.relayed service id k)
        ⟨.none, .cleanup service id (some k), none⟩
  | cleanup {service id tunnel} :
      PublicStep σ h conn (.cleanup service id tunnel)
        ⟨.settle h id, .closing tunnel, some .server⟩
  | closeTunnel {k} :
      PublicStep σ h conn (.closing (some k)) ⟨.closeTunnel k, .finished, none⟩
  | close : PublicStep σ h conn (.closing none) ⟨.none, .finished, none⟩

/-- The record and the tunnel id a public task works with. -/
def PublicPoint.locals : PublicPoint → Option (RegisteredService × String)
  | .insert service id | .sendOpen service id | .openSent service id | .waitTunnel service id
  | .relay service id _ | .relayed service id _ | .cleanup service id _ => some (service, id)
  | _ => none

theorem publicSegment_cases {h : Nat} {conn : PublicConn} {p : PublicPoint} {e : Event}
    {seg : Segment LockId Effect PublicPoint} (hseg : publicSegment σ h conn p e = some seg) :
    PublicStep σ h conn p seg := by
  revert hseg
  fun_cases publicSegment σ h conn p e
  all_goals intro hseg
  all_goals cases hseg
  all_goals constructor <;> assumption

/-- What a tunnel message has to match. -/
theorem claimed_eq_ok {σ : Store} {m : TunnelRequest} {h : Nat} :
    claimed σ m = .ok h ↔
      ∃ p conn, σ.pending.get? m.id = some p ∧ p.serviceName = m.service ∧
        (p.token = none ∨ m.token = p.token) ∧ p.conn = h ∧
        σ.conns.get? h = some conn ∧ conn.future.done = false := by
  constructor
  · fun_cases claimed σ m
    case case6 p hp hs ht conn hc hd =>
      intro heq
      cases heq
      exact ⟨p, conn, hp, not_not.mp hs, requireToken_ok.mp ht, rfl, hc, Bool.eq_false_iff.mpr hd⟩
    all_goals nofun
  · rintro ⟨p, conn, hp, hs, ht, rfl, hc, hd⟩
    simp [claimed, hp, hs, requireToken_ok.mpr ht, hc, hd]

/-- The steps of `_handle_tunnel` of connection `k`. -/
inductive TunnelStep (srv : Server) (σ : Store) (k : Nat) :
    TunnelPoint → Segment LockId Effect TunnelPoint → Prop
  | pair {message h} (hm : claimed σ (tunnelRequest srv message) = .ok h) :
      TunnelStep srv σ k (.claim message) ⟨.pair h k, .finished, some .server⟩
  | reject {message e} (hm : claimed σ (tunnelRequest srv message) = .error e) :
      TunnelStep srv σ k (.claim message) ⟨.none, .refused e, some .server⟩
  | refuse {e} : TunnelStep srv σ k (.refused e) ⟨.refuse k e, .finished, none⟩

theorem tunnelSegment_cases {k : Nat} {p : TunnelPoint} {e : Event}
    {seg : Segment LockId Effect TunnelPoint} (h : tunnelSegment srv σ k p e = some seg) :
    TunnelStep srv σ k p seg := by
  revert h
  fun_cases tunnelSegment srv σ k p e
  all_goals intro h
  all_goals cases h
  all_goals constructor <;> assumption

/-! ## The server -/

/-- The steps of the server. -/
inductive ServerStep (srv : Server) (σ : Store) :
    TaskId → Point → Segment LockId Effect Point → Prop
  | connect {c now first} (hnow : σ.clock ≤ now) :
      ServerStep srv σ (.control c) .start ⟨.newSession c now, .control (.join first), none⟩
  | control {c p seg} (h : ControlStep srv σ c p seg) :
      ServerStep srv σ (.control c) (.control p) (seg.lift .control)
  | accept {l listener} (hl : σ.listeners.get? l = some listener)
      (ho : listener.isOpen = true) :
      ServerStep srv σ (.pub σ.conns.size) .start
        ⟨.accept l listener.callback, .pub .accepted, none⟩
  | pub {h conn p seg} (hc : σ.conns.get? h = some conn) (hs : PublicStep σ h conn p seg) :
      ServerStep srv σ (.pub h) (.pub p) (seg.lift .pub)
  | connectTunnel (message : Fields) :
      ServerStep srv σ (.tunnel σ.tunnels.size) .start
        ⟨.newTunnel, .tunnel (startTunnel srv message), none⟩
  | tunnel {k p seg} (h : TunnelStep srv σ k p seg) :
      ServerStep srv σ (.tunnel k) (.tunnel p) (seg.lift .tunnel)

theorem serverSegment_cases {t : TaskId} {p : Point} {e : Event}
    {seg : Segment LockId Effect Point} (h : serverSegment srv σ t p e = some seg) :
    ServerStep srv σ t p seg := by
  revert h
  fun_cases serverSegment srv σ t p e
  case case1 c now first hcond =>
    intro heq
    cases heq
    rw [Bool.and_eq_true, decide_eq_true_eq] at hcond
    exact .connect hcond.1
  case case3 c p =>
    intro h
    obtain ⟨seg', hseg, rfl⟩ := Option.map_eq_some_iff.mp h
    exact .control (controlSegment_cases hseg)
  case case4 h l listener hl hcond =>
    intro heq
    cases heq
    rw [Bool.and_eq_true, decide_eq_true_eq] at hcond
    obtain ⟨ho, rfl⟩ := hcond
    exact .accept hl ho
  case case7 h p conn hconn =>
    intro h
    obtain ⟨seg', hseg, rfl⟩ := Option.map_eq_some_iff.mp h
    exact .pub hconn (publicSegment_cases hseg)
  case case9 message =>
    intro heq
    cases heq
    exact .connectTunnel message
  case case11 k p =>
    intro h
    obtain ⟨seg', hseg, rfl⟩ := Option.map_eq_some_iff.mp h
    exact .tunnel (tunnelSegment_cases hseg)
  all_goals rintro ⟨⟩

/-- An effect that only the control tasks have, and not in their sessions. -/
def Effect.ofCall : Effect → Bool
  | .listen _ | .register _ | .discard _ | .drop _ | .evict _ | .failPending _
  | .removeClient _ => true
  | _ => false

theorem ServerStep.ofCall {t : TaskId} {p : Point} {seg : Segment LockId Effect Point}
    (hs : ServerStep srv σ t p seg) (hφ : seg.effect.ofCall = true) :
    ∃ c p' seg', t = .control c ∧ p = .control p' ∧ seg = seg'.lift .control ∧
      ControlStep srv σ c p' seg' := by
  cases hs with
  | control hs => exact ⟨_, _, _, rfl, rfl, rfl, hs⟩
  | pub hc hs => cases hs <;> cases hφ
  | tunnel hs => cases hs <;> cases hφ
  | _ => cases hφ

/-! ## The mutexes -/

@[simp] theorem startRegister_holds (current : Fields) (retry force : Bool) :
    (startRegister current retry force).holds c = none := by
  rcases startRegister_cases current retry force with ⟨q, -, -, h⟩ | ⟨q, e, h⟩ <;> rw [h] <;> rfl

@[simp] theorem nextItem_holds (q : Request) : (nextItem srv σ q).holds c = none := by
  generalize nextItem srv σ q = next, nextItem_cases srv σ q = h
  cases h <;> rfl

theorem controlSegment_releases {p : ControlPoint} {e : Event} {k : LockId}
    {seg : Segment LockId Effect ControlPoint} (h : controlSegment srv σ c p e = some seg)
    (hr : seg.releases = some k) : p.holds c = some k ∨ p.wants c = some k := by
  revert h hr
  fun_cases controlSegment srv σ c p e
  all_goals rintro ⟨⟩ hr
  all_goals simp_all [ControlPoint.holds, ControlPoint.wants]

theorem controlSegment_keeps {p : ControlPoint} {e : Event} {k : LockId}
    {seg : Segment LockId Effect ControlPoint} (h : controlSegment srv σ c p e = some seg)
    (hk : seg.next.holds c = some k) :
    (p.holds c = some k ∨ p.wants c = some k) ∧ seg.releases ≠ some k := by
  revert h hk
  fun_cases controlSegment srv σ c p e
  all_goals rintro ⟨⟩ hk
  all_goals first
    | (cases hk; done)
    | (cases hk; exact ⟨.inl rfl, nofun⟩)
    | (cases hk; exact ⟨.inr rfl, nofun⟩)
    | simp at hk

theorem publicSegment_releases {σ : Store} {h : Nat} {conn : PublicConn} {p : PublicPoint}
    {e : Event} {k : LockId} {seg : Segment LockId Effect PublicPoint}
    (hseg : publicSegment σ h conn p e = some seg) (hr : seg.releases = some k) :
    Point.holds (.pub h) (.pub p) k ∨ p.wants = some k := by
  cases publicSegment_cases hseg
  all_goals cases hr
  all_goals first
    | exact .inr rfl
    | exact .inl rfl

theorem publicSegment_keeps {σ : Store} {h : Nat} {conn : PublicConn} {p : PublicPoint}
    {e : Event} {k : LockId} {seg : Segment LockId Effect PublicPoint}
    (hseg : publicSegment σ h conn p e = some seg)
    (hk : Point.holds (.pub h) (.pub seg.next) k) :
    p.wants = some k ∧ seg.releases ≠ some k := by
  cases publicSegment_cases hseg
  case sendOpen service id =>
    have hk : k = .writer service.client := hk
    exact ⟨congrArg some hk.symm, nofun⟩
  all_goals exact absurd hk id

theorem serverSegment_releases {t : TaskId} {p : Point} {e : Event} {k : LockId}
    {seg : Segment LockId Effect Point} (hseg : serverSegment srv σ t p e = some seg)
    (hr : seg.releases = some k) : Point.holds t p k ∨ p.wants t = some k := by
  revert hseg hr
  fun_cases serverSegment srv σ t p e
  case case3 c p =>
    intro hseg hr
    obtain ⟨seg', hseg', rfl⟩ := Option.map_eq_some_iff.mp hseg
    exact controlSegment_releases hseg' hr
  case case7 h p conn hconn =>
    intro hseg hr
    obtain ⟨seg', hseg', rfl⟩ := Option.map_eq_some_iff.mp hseg
    exact publicSegment_releases hseg' hr
  case case11 k p =>
    intro hseg hr
    obtain ⟨seg', hseg', rfl⟩ := Option.map_eq_some_iff.mp hseg
    cases tunnelSegment_cases hseg' <;> cases hr <;> exact .inr rfl
  all_goals rintro ⟨⟩ ⟨⟩

theorem serverSegment_keeps {t : TaskId} {p : Point} {e : Event} {k : LockId}
    {seg : Segment LockId Effect Point} (hseg : serverSegment srv σ t p e = some seg)
    (hk : Point.holds t seg.next k) :
    (Point.holds t p k ∨ p.wants t = some k) ∧ seg.releases ≠ some k := by
  revert hseg hk
  fun_cases serverSegment srv σ t p e
  case case3 c p =>
    intro hseg hk
    obtain ⟨seg', hseg', rfl⟩ := Option.map_eq_some_iff.mp hseg
    exact controlSegment_keeps hseg' hk
  case case7 h p conn hconn =>
    intro hseg hk
    obtain ⟨seg', hseg', rfl⟩ := Option.map_eq_some_iff.mp hseg
    obtain ⟨hw, hr⟩ := publicSegment_keeps hseg' hk
    exact ⟨.inr hw, hr⟩
  case case11 k p =>
    intro hseg hk
    obtain ⟨seg', hseg', rfl⟩ := Option.map_eq_some_iff.mp hseg
    cases tunnelSegment_cases hseg' <;> exact absurd hk id
  all_goals rintro ⟨⟩ hk
  all_goals first
    | exact absurd hk id
    | cases hk

/-- Every task releases and keeps only what it has or enters with. -/
theorem discipline (srv : Server) : (program srv).Discipline .start Point.holds where
  start_free t k := by cases t <;> exact id
  releases := serverSegment_releases
  keeps := serverSegment_keeps

/-- A control task gives back what it has or enters with, or goes on having it. -/
theorem controlSegment_gives {p : ControlPoint} {e : Event} {k : LockId}
    {seg : Segment LockId Effect ControlPoint} (h : controlSegment srv σ c p e = some seg)
    (hk : p.holds c = some k ∨ p.wants c = some k) :
    seg.releases = some k ∨ seg.next.holds c = some k := by
  revert h hk
  fun_cases controlSegment srv σ c p e
  all_goals rintro ⟨⟩ hk
  all_goals rcases hk with hk | hk
  all_goals first
    | (cases hk; done)
    | (cases hk; exact .inl rfl)
    | (cases hk; exact .inr rfl)

theorem serverSegment_gives {t : TaskId} {p : Point} {e : Event} {k : LockId}
    {seg : Segment LockId Effect Point} (hseg : serverSegment srv σ t p e = some seg)
    (hk : Point.holds t p k ∨ p.wants t = some k) :
    seg.releases = some k ∨ Point.holds t seg.next k := by
  revert hseg hk
  fun_cases serverSegment srv σ t p e
  case case3 c p =>
    intro hseg hk
    obtain ⟨seg', hseg', rfl⟩ := Option.map_eq_some_iff.mp hseg
    exact controlSegment_gives hseg' hk
  case case7 h p conn hconn =>
    intro hseg hk
    obtain ⟨seg', hseg', rfl⟩ := Option.map_eq_some_iff.mp hseg
    cases publicSegment_cases hseg'
    all_goals rcases hk with hk | hk
    all_goals first
      | exact absurd hk id
      | (cases hk; done)
      | (cases hk; exact .inl rfl)
      | (cases hk; exact .inr rfl)
  case case11 k p =>
    intro hseg hk
    obtain ⟨seg', hseg', rfl⟩ := Option.map_eq_some_iff.mp hseg
    cases tunnelSegment_cases hseg'
    all_goals rcases hk with hk | hk
    all_goals first
      | exact absurd hk id
      | (cases hk; done)
      | (cases hk; exact .inl rfl)
  all_goals rintro ⟨⟩ hk
  all_goals rcases hk with hk | hk
  all_goals first
    | exact absurd hk id
    | cases hk

/-- No task asks for a mutex it has. -/
theorem Point.wants_of_holds {t : TaskId} {p : Point} {k : LockId} (h : Point.holds t p k) :
    p.wants t ≠ some k := by
  revert h
  fun_cases Point.holds t p k
  case case1 c p =>
    intro h hw
    cases p <;> first | (cases h; done) | cases hw
  case case2 =>
    intro _ hw
    cases t <;> cases hw
  case case3 => exact False.elim

/-- Every task gives back what it has or enters with, and asks for nothing it has. -/
theorem complete (srv : Server) : (program srv).Complete Point.holds where
  gives := serverSegment_gives
  apart := Point.wants_of_holds

end PyFrp
