import PyFrp.Server.Tunnels
import PyFrp.Server.Victims

/-!
# The priority rule of forced registrations

One call of `_register_pool_service`, from the moment it has the server lock, run
against an operating system that binds some of the ports. The other tasks go on
meanwhile, but what the call changes of `_services` and `_pending` is decided by the
state it found.
-/

namespace PyFrp

open Python Coop Store

variable {srv : Server} {σ : Store} {c : ClientId} {C : State → Action → Prop}
variable {s : State} {t : TaskId} {e : Event} {seg : Segment LockId Effect Point}

/-! ## What the lock protects -/

/-- Does an effect change `_pending`? -/
def Effect.changesPending : Effect → Bool
  | .pend _ | .settle _ _ | .evict _ | .removeClient _ => true
  | _ => false

theorem Effect.pending_of_not_changes {φ : Effect} (h : φ.changesPending = false) :
    (φ.apply σ).pending = σ.pending := by
  rw [Effect.apply_pending]
  cases φ <;> first | rfl | cases h

theorem ServerStep.locked_pending {t : TaskId} {p : Point} {seg : Segment LockId Effect Point}
    (hs : ServerStep srv σ t p seg) (h : seg.effect.changesPending = true) :
    Point.holds t p .server ∨ p.wants t = some .server := by
  cases hs with
  | control hs =>
      refine hs.locked ?_
      revert h
      have hc := hs.ofControl
      revert hc
      simp only [Segment.lift_effect]
      generalize Segment.effect _ = φ
      intro hc h
      cases φ <;> first | rfl | cases h; done | cases hc
  | pub hc hs => cases hs <;> first | exact .inr rfl | cases h
  | tunnel hs => cases hs <;> cases h
  | _ => cases h

/-- The pending records stay as they are while another task has the server lock. -/
theorem pending_of_held {u : TaskId}
    (hat : (program srv).At .initial .start Point.holds C s t e seg) (hne : u ≠ t)
    (hu : Point.holds u (s.point u) .server) :
    (seg.effect.apply s.store).pending = s.store.pending := by
  refine Effect.pending_of_not_changes (Bool.eq_false_iff.mpr fun hch => ?_)
  have hk := (serverSegment_cases hat.segment).locked_pending hch
  exact hne (hat.held.exclusive hat.canRun hk hu).symm

/-! ## The age of a client -/

theorem Effect.createdAt_apply {φ : Effect} {c' : ClientId} (h : ∀ now, φ ≠ .newSession c' now) :
    (φ.apply σ).createdAt c' = σ.createdAt c' := by
  cases φ with
  | newSession c now =>
      have hne : c' ≠ c := fun heq => h now (by rw [heq])
      simp [Effect.apply, createdAt, hne]
  | closeSession c =>
      simp only [Effect.apply]
      cases hget : σ.sessions.get? c with
      | none => rfl
      | some session =>
          by_cases hc : c' = c
          · subst hc
            simp [createdAt, hget]
          · simp [createdAt, hc]
  | _ => rfl

theorem ServerStep.newSession {p : Point} {now : Nat} (hs : ServerStep srv σ t p seg)
    (hφ : seg.effect = .newSession c now) : t = .control c ∧ p = .start := by
  cases hs with
  | connect hnow =>
      cases hφ
      exact ⟨rfl, rfl⟩
  | control hs =>
      cases hs with
      | session hp hn hq hs hg hφ' => exact absurd hφ (hφ'.ne rfl)
      | _ => cases hφ
  | pub hc hs => cases hs <;> cases hφ
  | tunnel hs => cases hs <;> cases hφ
  | _ => cases hφ

/-- A session that has started keeps its age. -/
theorem createdAt_runs {s' : State} {c' : ClientId} (hstart : s.point (.control c') ≠ .start)
    (hrun : (system srv).Runs C s s') :
    s'.point (.control c') ≠ .start ∧ s'.store.createdAt c' = s.store.createdAt c' := by
  refine hrun.invariant (P := fun u => u.point (.control c') ≠ .start ∧
    u.store.createdAt c' = s.store.createdAt c') ⟨hstart, rfl⟩ ?_
  rintro u ⟨t, e⟩ v - ⟨hpt, hage⟩ - hs
  obtain ⟨-, seg, hseg, rfl⟩ := Program.step_eq_some.mp hs
  have hstep := serverSegment_cases hseg
  constructor
  · by_cases ht : t = .control c'
    · subst ht
      rw [Program.commit_point_self]
      generalize u.point (.control c') = p at hstep
      cases hstep <;> nofun
    · rwa [Program.commit_point_of_ne u seg (Ne.symm ht)]
  · rw [Program.commit_store, ← hage]
    refine Effect.createdAt_apply fun now hφ => hpt ?_
    obtain ⟨rfl, hp⟩ := hstep.newSession hφ
    exact hp

/-- The session of a record has started. -/
theorem started {k : String} {r : RegisteredService} (h : (system srv).ReachableUnder C s)
    (hk : s.store.services.get? k = some r) : s.point (.control r.client) ≠ .start := by
  have hinv : ∀ k r, s.store.services.get? k = some r → s.point (.control r.client) ≠ .start := by
    refine h.invariant (P := fun s => ∀ k r, s.store.services.get? k = some r →
      s.point (.control r.client) ≠ .start) nofun ?_
    rintro s ⟨t, e⟩ s' hr hI hc hs k r hk
    obtain ⟨seg, hat, rfl⟩ := Program.At.of_step (discipline srv) hr hc hs
    have hstep := serverSegment_cases hat.segment
    rw [Program.commit_store] at hk
    by_cases ht : t = .control r.client
    · subst ht
      rw [Program.commit_point_self]
      generalize s.point (.control r.client) = p at hstep
      cases hstep <;> nofun
    · rw [Program.commit_point_of_ne s seg (Ne.symm ht)]
      rcases Effect.of_services hk with ⟨hφ, -⟩ | ⟨hk, -⟩
      · obtain ⟨c, raw, rfl, ho⟩ := hstep.registers ((records hr).2 t) hφ
        exact absurd (by rw [ho.made.client]) ht
      · exact hI k r hk
  exact hinv k r hk

/-! ## One call under the lock -/

/-- A point in the critical section of `_register_pool_service`. -/
def ControlPoint.inCall : ControlPoint → Bool
  | .poolScan _ _ _ | .poolBind _ _ _ _ | .poolBound _ _ _ _ _ | .poolEvict _ _ => true
  | _ => false

/-- The outcome of binding a port agrees with what the operating system can bind. -/
def Answers (os : Int → Bool) (port : Int) : BindResult → Prop
  | .bound _ _ => os port = true
  | .osError _ => os port = false
  | .crash _ => False

/-- The steps while `c` is in its critical section. Its first scan is answered by `os`;
what a second scan is answered is left open. -/
structure DuringCall (os : Int → Bool) (c : ClientId) (s : State) (a : Action) : Prop where
  inside : ∃ pt, s.point (.control c) = .control pt ∧ pt.inCall = true
  answers : ∀ p scan port r, a = (.control c, .bind r) →
    s.point (.control c) = .control (.poolBind p none scan port) → Answers os port r

/-- Some pool port is unassigned and can be bound. -/
def Bindable (srv : Server) (os : Int → Bool) (σ : Store) : Prop :=
  ∃ port ∈ srv.config.portPool, port ∉ poolPorts σ ∧ os port = true

/-- No session's pool name is taken by a regular service of another session. -/
def PoolNamesOwn (s : State) : Prop :=
  ∀ c r, s.point (.control c) ≠ .start → s.store.services.get? (poolServiceName c) = some r →
    r.poolToken.isSome = true ∨ r.client = c

/-- No client has lost or got anything. -/
structure Unchanged (σ σ' : Store) : Prop where
  services : σ'.services = σ.services
  pending : σ'.pending = σ.pending

/-- No client but `c` has lost or got anything. -/
structure OthersKept (σ σ' : Store) (c : ClientId) : Prop where
  services : ∀ k r, r.client ≠ c → (σ'.services.get? k = some r ↔ σ.services.get? k = some r)
  pending : σ'.pending = σ.pending

/-- `V` has lost everything, and no third client anything. -/
structure Evicted (σ σ' : Store) (c V : ClientId) : Prop where
  gone : ∀ k r, σ'.services.get? k = some r → r.client ≠ V
  services : ∀ k r, r.client ≠ V → r.client ≠ c →
    (σ'.services.get? k = some r ↔ σ.services.get? k = some r)
  pending : ∀ k r, σ'.pending.get? k = some r ↔ σ.pending.get? k = some r ∧ r.client ≠ V

/-- A point of the call after it has evicted `v`. -/
def ControlPoint.AfterEviction (p : PoolCall) (v : Victim) : ControlPoint → Prop
  | .poolEvict p' v' => p' = p ∧ v' = v
  | .poolScan p' v' _ | .poolBind p' v' _ _ | .poolBound p' v' _ _ _ => p' = p ∧ v' = some v
  | .announce pr => pr.victim = v
  | .rollback _ _ _ => True
  | _ => False

/-- Where a call of `c` that found the state `σ` has come to, and what it has changed. -/
inductive CallState (srv : Server) (os : Int → Bool) (c : ClientId) (p : PoolCall)
    (σ σ' : Store) : ControlPoint → Prop
  | scan {scan} (same : Unchanged σ σ') (hr : ∀ x ∈ scan.refused, os x = false) :
      CallState srv os c p σ σ' (.poolScan p none scan)
  | bind {scan port} (same : Unchanged σ σ') (hr : ∀ x ∈ scan.refused, os x = false) :
      CallState srv os c p σ σ' (.poolBind p none scan port)
  | bound {scan port l} (same : Unchanged σ σ') (hb : Bindable srv os σ) :
      CallState srv os c p σ σ' (.poolBound p none scan port l)
  | inserted {q} (kept : OthersKept σ σ' c) (hb : Bindable srv os σ) :
      CallState srv os c p σ σ' (.item q)
  | denied {q rest e} (same : Unchanged σ σ') (hb : ¬ Bindable srv os σ)
      (he : DenialRule σ c p.item.priority p.request.force e) :
      CallState srv os c p σ σ' (.rollback q rest e)
  | evicted {v pt} (gone : Evicted σ σ' c v.client) (hb : ¬ Bindable srv os σ)
      (hf : p.request.force = true) (hv : VictimRule σ c p.item.priority v.client)
      (hpt : pt.AfterEviction p v) : CallState srv os c p σ σ' pt

/-! ## What its steps change -/

theorem poolServiceName_inj {c c' : ClientId} (h : poolServiceName c = poolServiceName c') :
    c = c' :=
  (String.append_right_inj "pool-").mp h

/-- A pool service that has the name of `c` is its own. -/
theorem client_of_poolServiceName {r : RegisteredService} (hrec : RecordsOk srv σ)
    (h : σ.services.get? (poolServiceName c) = some r) (hp : r.poolToken.isSome = true) :
    r.client = c := by
  obtain ⟨hname, raw, hc⟩ := hrec _ r h
  have hpool := (hc.made.pool_record hp).1
  rw [hname] at hpool
  exact (poolServiceName_inj hpool).symm

theorem PoolNamesOwn.own {s : State} {r : RegisteredService} (hn : PoolNamesOwn s)
    (hrec : RecordsOk srv s.store) (hc : s.point (.control c) ≠ .start)
    (h : s.store.services.get? (poolServiceName c) = some r) : r.client = c :=
  (hn c r hc h).elim (client_of_poolServiceName hrec h) id

/-- The insertion of a pool service changes nothing for the other clients. -/
theorem get?_register_other {r r' : RegisteredService} {k : String}
    (hkey : ∀ r, σ.services.get? (poolServiceName c) = some r → r.client = c)
    (hname : r.name = poolServiceName c) (hr : r.client = c) (hr' : r'.client ≠ c) :
    ((Effect.register r).apply σ).services.get? k = some r' ↔ σ.services.get? k = some r' := by
  have happly : ((Effect.register r).apply σ).services = σ.services.set r.name r := rfl
  rw [happly, Dict.get?_set]
  by_cases hk : k = r.name
  · rw [if_pos hk]
    constructor
    · intro h
      cases h
      exact absurd hr hr'
    · intro h
      rw [hk, hname] at h
      exact absurd (hkey r' h) hr'
  · rw [if_neg hk]

theorem evicted_evict {v : Victim} (hrec : RecordsOk srv σ) (hpend : TunnelsOk σ)
    (hs : v.services = σ.servicesOf v.client) (hp : v.pending = σ.pendingOf v.client) :
    Evicted σ ((Effect.evict v).apply σ) c v.client := by
  have hservices : ((Effect.evict v).apply σ).services =
      σ.services.eraseAll (v.services.map RegisteredService.name) := rfl
  have hpending : ((Effect.evict v).apply σ).pending =
      σ.pending.eraseAll (v.pending.map PendingTunnel.id) := rfl
  -- a record is popped just when it belongs to the victim
  have hpopped : ∀ {k : String} {r : RegisteredService}, σ.services.get? k = some r →
      (k ∈ v.services.map RegisteredService.name ↔ r.client = v.client) := by
    intro k r hk
    rw [hs, List.mem_map]
    constructor
    · rintro ⟨r', hr', rfl⟩
      obtain ⟨⟨k', hk'⟩, hc⟩ := Store.mem_servicesOf.mp hr'
      rw [(hrec k' r' hk').1, hk', Option.some.injEq] at hk
      rw [← hk, hc]
    · intro hc
      exact ⟨r, Store.mem_servicesOf.mpr ⟨⟨k, hk⟩, hc⟩, (hrec k r hk).1⟩
  have hpurged : ∀ {k : String} {r : PendingTunnel}, σ.pending.get? k = some r →
      (k ∈ v.pending.map PendingTunnel.id ↔ r.client = v.client) := by
    intro k r hk
    rw [hp, List.mem_map]
    constructor
    · rintro ⟨r', hr', rfl⟩
      obtain ⟨⟨k', hk'⟩, hc⟩ := Store.mem_pendingOf.mp hr'
      rw [(hpend.pending k' r' hk').1, hk', Option.some.injEq] at hk
      rw [← hk, hc]
    · intro hc
      exact ⟨r, Store.mem_pendingOf.mpr ⟨⟨k, hk⟩, hc⟩, (hpend.pending k r hk).1⟩
  refine ⟨fun k r hk => ?_, fun k r hV _ => ?_, fun k r => ?_⟩
  · rw [hservices, Dict.get?_eraseAll] at hk
    split at hk
    · cases hk
    · rename_i hnot
      exact fun hc => hnot ((hpopped hk).mpr hc)
  · rw [hservices, Dict.get?_eraseAll]
    split
    · rename_i hmem
      exact iff_of_false (by simp) fun hk => hV ((hpopped hk).mp hmem)
    · rfl
  · rw [hpending, Dict.get?_eraseAll]
    split
    · rename_i hmem
      refine iff_of_false (by simp) ?_
      rintro ⟨hk, hV⟩
      exact hV ((hpurged hk).mp hmem)
    · rename_i hnot
      exact ⟨fun hk => ⟨hk, fun hc => hnot ((hpurged hk).mpr hc)⟩, fun h => h.1⟩

theorem Evicted.register {σ' : Store} {V : ClientId} {r : RegisteredService}
    (h : Evicted σ σ' c V) (hV : V ≠ c)
    (hkey : ∀ r, σ.services.get? (poolServiceName c) = some r → r.client = c)
    (hname : r.name = poolServiceName c) (hr : r.client = c) :
    Evicted σ ((Effect.register r).apply σ') c V := by
  have happly : ((Effect.register r).apply σ').services = σ'.services.set r.name r := rfl
  refine ⟨fun k r' hk => ?_, fun k r' hV' hc => ?_, h.pending⟩
  · rw [happly, Dict.get?_set] at hk
    split at hk
    · cases hk
      rw [hr]
      exact hV.symm
    · exact h.gone k r' hk
  · rw [happly, Dict.get?_set]
    split
    · rename_i hk
      refine iff_of_false (fun heq => ?_) fun hget => ?_
      · cases heq
        exact hc hr
      · rw [hk, hname] at hget
        exact hc (hkey r' hget)
    · exact h.services k r' hV' hc

theorem Evicted.congr {σ' σ'' : Store} {V : ClientId} (h : Evicted σ σ' c V)
    (hs : σ''.services = σ'.services) (hp : σ''.pending = σ'.pending) : Evicted σ σ'' c V :=
  ⟨fun k r hk => h.gone k r (hs ▸ hk), fun k r hV hc => hs ▸ h.services k r hV hc,
    fun k r => hp ▸ h.pending k r⟩

theorem CallState.congr {os : Int → Bool} {p : PoolCall} {σ' σ'' : Store} {pt : ControlPoint}
    (h : CallState srv os c p σ σ' pt) (hs : σ''.services = σ'.services)
    (hp : σ''.pending = σ'.pending) : CallState srv os c p σ σ'' pt := by
  cases h with
  | scan same hr => exact .scan ⟨hs.trans same.services, hp.trans same.pending⟩ hr
  | bind same hr => exact .bind ⟨hs.trans same.services, hp.trans same.pending⟩ hr
  | bound same hb => exact .bound ⟨hs.trans same.services, hp.trans same.pending⟩ hb
  | inserted kept hb =>
      exact .inserted ⟨fun k r hc => hs ▸ kept.services k r hc, hp.trans kept.pending⟩ hb
  | denied same hb he =>
      exact .denied ⟨hs.trans same.services, hp.trans same.pending⟩ hb he
  | evicted gone hb hf hv hpt => exact .evicted (gone.congr hs hp) hb hf hv hpt

/-! ## The rules, for the state the call found -/

section Rules

variable {σ' : Store} {priority : Int}

theorem otherPoolServices_congr (hs : σ'.services = σ.services) :
    σ'.otherPoolServices c = σ.otherPoolServices c := by
  rw [otherPoolServices, hs, otherPoolServices]

theorem mem_otherPoolServices {r : RegisteredService} :
    r ∈ σ.otherPoolServices c ↔
      (∃ k, σ.services.get? k = some r) ∧ r.poolToken.isSome = true ∧ r.client ≠ c := by
  simp [otherPoolServices, Dict.mem_values]

theorem VictimRule.congr {V : ClientId} (h : VictimRule σ' c priority V)
    (hs : σ'.services = σ.services)
    (hage : ∀ k r, σ.services.get? k = some r → σ'.createdAt r.client = σ.createdAt r.client) :
    VictimRule σ c priority V := by
  obtain ⟨r, hr, rfl, hge, hmax, hold⟩ := h
  rw [otherPoolServices_congr hs] at hr hmax hold
  refine ⟨r, hr, rfl, hge, hmax, fun r' hr' heq => ?_⟩
  have hle := hold r' hr' heq
  obtain ⟨⟨k, hk⟩, -⟩ := mem_otherPoolServices.mp hr
  obtain ⟨⟨k', hk'⟩, -⟩ := mem_otherPoolServices.mp hr'
  rwa [hage k r hk, hage k' r' hk'] at hle

theorem DenialRule.congr {force : Bool} {e : ServerError} (h : DenialRule σ' c priority force e)
    (hs : σ'.services = σ.services) : DenialRule σ c priority force e := by
  have hothers := otherPoolServices_congr (c := c) hs
  cases h with
  | alone cause h => exact .alone cause (hothers ▸ h)
  | unforced h hf => exact .unforced (hothers ▸ h) hf
  | outranked hf hlt hmem hle =>
      exact .outranked hf (hothers ▸ hlt) (hothers ▸ hmem) (hothers ▸ hle)

theorem VictimRule.ne {V : ClientId} (h : VictimRule σ c priority V) : V ≠ c := by
  obtain ⟨r, hr, rfl, -⟩ := h
  exact (mem_otherPoolServices.mp hr).2.2

end Rules

/-! ## The steps of the call -/

/-- A scan that is over has found every port assigned or refused. -/
theorem not_bindable {os : Int → Bool} {σ' : Store} {scan : Scan} (hok : ScanOk srv σ' scan [])
    (hs : σ'.services = σ.services) (hr : ∀ x ∈ scan.refused, os x = false) :
    ¬ Bindable srv os σ := by
  rintro ⟨port, hport, hfree, hos⟩
  obtain ⟨done, hdone, hpassed⟩ := hok.passed
  have hmem : port ∈ done := by
    rw [← List.append_nil done, ← hdone]
    exact (List.perm_insertionSort _ _).mem_iff.mpr hport
  rcases hpassed port hmem with hused | href
  · rw [hok.used, poolPorts_congr hs] at hused
    exact hfree hused
  · rw [hr port href] at hos
    cases hos

theorem serverSegment_control {pt : ControlPoint} {e : Event} {seg : Segment LockId Effect Point}
    (hseg : serverSegment srv σ (.control c) (.control pt) e = some seg) :
    ∃ seg', controlSegment srv σ c pt e = some seg' ∧ seg = seg'.lift .control := by
  simp only [serverSegment] at hseg
  obtain ⟨seg', hseg', rfl⟩ := Option.map_eq_some_iff.mp hseg
  exact ⟨seg', hseg', rfl⟩

/-- What is known of a state the call has come to. -/
structure CallContext (srv : Server) (c : ClientId) (σ σ' : Store) (pt : ControlPoint) : Prop where
  own : ∀ r, σ.services.get? (poolServiceName c) = some r → r.client = c
  records : RecordsOk srv σ'
  tunnels : TunnelsOk σ'
  point : ControlOk srv σ'.listeners c pt
  scan : ScanAt srv σ' pt
  age : ∀ k r, σ.services.get? k = some r → σ'.createdAt r.client = σ.createdAt r.client

/-- The steps of the call before it evicts a client. -/
theorem CallState.scanStep {os : Int → Bool} {p : PoolCall} {σ' : Store} {scan : Scan}
    {seg : Segment LockId Effect ControlPoint} (same : Unchanged σ σ')
    (hr : ∀ x ∈ scan.refused, os x = false)
    (hx : CallContext srv c σ σ' (.poolScan p none scan))
    (hs : ControlStep srv σ' c (.poolScan p none scan) seg) :
    CallState srv os c p σ (seg.effect.apply σ') seg.next := by
  have hscan : ScanOk srv σ' scan scan.ports := hx.scan
  cases hs with
  | poolSkip hp hu => exact .scan same hr
  | poolTry hp hu => exact .bind same hr
  | poolEvict hp hv =>
      rw [hp] at hscan
      obtain ⟨hservices, hpending⟩ := selectVictim_ok hv
      obtain ⟨hf, hrule⟩ := selectVictim_rule hv
      have hev := evicted_evict (c := c) hx.records hx.tunnels hservices hpending
      refine .evicted ⟨hev.gone, fun k r hV hc => ?_, fun k r => ?_⟩
        (not_bindable hscan same.services hr) hf (hrule.congr same.services hx.age) ⟨rfl, rfl⟩
      · rw [hev.services k r hV hc, same.services]
      · rw [hev.pending k r, same.pending]
  | poolDenied hp hv =>
      rw [hp] at hscan
      exact .denied same (not_bindable hscan same.services hr)
        ((selectVictim_denial hv).congr same.services)
  | begin hp => cases hp
  | session hp => cases hp

/-- The first scan tries a port. -/
theorem CallState.bindStep {os : Int → Bool} {p : PoolCall} {σ' : Store} {scan : Scan} {port : Int}
    {e : Event} {seg : Segment LockId Effect ControlPoint} (same : Unchanged σ σ')
    (hr : ∀ x ∈ scan.refused, os x = false)
    (hx : CallContext srv c σ σ' (.poolBind p none scan port))
    (hans : ∀ r, e = .bind r → Answers os port r)
    (hs : controlSegment srv σ' c (.poolBind p none scan port) e = some seg) :
    CallState srv os c p σ (seg.effect.apply σ') seg.next := by
  obtain ⟨hscan, hfree⟩ : ScanOk srv σ' scan (port :: scan.ports) ∧ port ∉ scan.used := hx.scan
  have hports : ∀ x ∈ port :: scan.ports, x ∈ srv.config.portPool := hx.point.2
  cases e with
  | bind r =>
      have hos := hans r rfl
      cases r with
      | bound host port' =>
          cases hs
          rw [hscan.used, poolPorts_congr same.services] at hfree
          exact .bound ⟨same.services, same.pending⟩ ⟨port, hports port (.head _), hfree, hos⟩
      | osError text =>
          cases hs
          refine .scan same fun x hx => ?_
          rcases List.mem_cons.mp hx with rfl | hx
          · exact hos
          · exact hr x hx
      | crash text => exact hos.elim
  | _ => cases hs

/-- The steps of the call after it has evicted a client. -/
theorem CallState.evictedStep {os : Int → Bool} {p : PoolCall} {σ' : Store} {v : Victim}
    {pt : ControlPoint} {seg : Segment LockId Effect ControlPoint}
    (gone : Evicted σ σ' c v.client) (hb : ¬ Bindable srv os σ) (hf : p.request.force = true)
    (hv : VictimRule σ c p.item.priority v.client) (hpt : pt.AfterEviction p v)
    (hin : pt.inCall = true) (hx : CallContext srv c σ σ' pt) (hs : ControlStep srv σ' c pt seg) :
    CallState srv os c p σ (seg.effect.apply σ') seg.next := by
  cases hs with
  | poolSkip hp hu => exact .evicted gone hb hf hv hpt
  | poolTry hp hu => exact .evicted gone hb hf hv hpt
  | poolFull hp =>
      obtain ⟨rfl, hvic⟩ := hpt
      exact .evicted gone hb hf hv (Option.some.inj hvic)
  | poolListen host port' => exact .evicted (gone.congr rfl rfl) hb hf hv hpt
  | poolRefused text => exact .evicted gone hb hf hv hpt
  | poolCrash err => exact .evicted gone hb hf hv trivial
  | poolReplace =>
      obtain ⟨rfl, hvic⟩ := hpt
      exact .evicted (gone.register hv.ne hx.own rfl rfl) hb hf hv
        (Option.some.inj hvic)
  | poolRescan hc =>
      obtain ⟨rfl, rfl⟩ := hpt
      exact .evicted gone hb hf hv ⟨rfl, rfl⟩
  | poolEvict | poolDenied | poolInsert => cases hpt.2
  | begin hp => cases pt <;> first | cases hp; done | cases hin
  | session hp => cases pt <;> first | cases hp; done | cases hin
  | _ => cases hin

/-- A step of any task during the call. -/
theorem CallState.step {os : Int → Bool} {p : PoolCall} {pt : ControlPoint}
    (hat : (program srv).At .initial .start Point.holds C s t e seg)
    (hcall : DuringCall os c s (t, e)) (hpt : s.point (.control c) = .control pt)
    (hx : CallContext srv c σ s.store pt) (h : CallState srv os c p σ s.store pt) :
    ∃ pt', ((program srv).commit s t seg).point (.control c) = .control pt' ∧
      CallState srv os c p σ (seg.effect.apply s.store) pt' := by
  have hin : pt.inCall = true := by
    obtain ⟨pt', hpt', hin⟩ := hcall.inside
    rw [hpt] at hpt'
    cases hpt'
    exact hin
  by_cases ht : t = .control c
  · subst ht
    obtain ⟨seg', hseg, rfl⟩ := serverSegment_control (hpt ▸ hat.segment)
    refine ⟨seg'.next, Program.commit_point_self _ _ _, ?_⟩
    have hs := controlSegment_cases hseg
    cases h with
    | scan same hr => exact scanStep same hr hx hs
    | bind same hr =>
        refine bindStep same hr hx (fun r he => ?_) hseg
        exact hcall.answers _ _ _ r (by rw [he]) hpt
    | bound same hb =>
        cases hs with
        | poolInsert =>
            have hkey : ∀ r, s.store.services.get? (poolServiceName c) = some r → r.client = c :=
              fun r hr => hx.own r (same.services ▸ hr)
            refine .inserted ⟨fun k r hc => ?_, same.pending⟩ hb
            exact (get?_register_other hkey rfl rfl hc).trans (by rw [same.services])
        | begin hp => cases hp
        | session hp => cases hp
    | inserted | denied => cases hin
    | evicted gone hb hf hv hpt => exact evictedStep gone hb hf hv hpt hin hx hs
  · -- the maps do not change while the call has the lock
    have hheld : Point.holds (.control c) (s.point (.control c)) .server := by
      rw [hpt]
      cases pt <;> first | rfl | cases hin
    refine ⟨pt, by rw [Program.commit_point_of_ne s seg (Ne.symm ht), hpt], ?_⟩
    exact h.congr (services_of_held hat (Ne.symm ht) hheld) (pending_of_held hat (Ne.symm ht) hheld)

/-- A call of `_register_pool_service` for session `c` that takes the lock in `s`. -/
structure CallStarts (srv : Server) (c : ClientId) (p : PoolCall) (s s₁ : State) : Prop where
  reachable : (system srv).Reachable s
  point : s.point (.control c) = .control (.poolEnter p)
  step : (system srv).step s (.control c, .go) = some s₁

theorem CallStarts.after {p : PoolCall} {s₁ : State} (h : CallStarts srv c p s s₁) :
    s₁.store = s.store ∧
      s₁.point (.control c) = .control (.poolScan p none (startScan srv s.store)) ∧
      (program srv).canRun s₁ (.control c) = true := by
  obtain ⟨-, seg, hseg, rfl⟩ := Program.step_eq_some.mp h.step
  have hseg : serverSegment srv s.store (.control c) (.control (.poolEnter p)) .go = some seg :=
    h.point ▸ hseg
  cases hseg
  exact ⟨rfl, Program.commit_point_self _ _ _, Program.canRun_commit rfl⟩

theorem callState {os : Int → Bool} {p : PoolCall} {s₁ s' : State} (h : CallStarts srv c p s s₁)
    (hn : PoolNamesOwn s) (hrun : (system srv).Runs (DuringCall os c) s₁ s') :
    ∃ pt, s'.point (.control c) = .control pt ∧
      CallState srv os c p s.store s'.store pt := by
  obtain ⟨hstore, hpoint, -⟩ := h.after
  have hreach : (system srv).Reachable s₁ := h.reachable.tail trivial h.step
  refine hrun.invariant (P := fun u => ∃ pt, u.point (.control c) = .control pt ∧
    CallState srv os c p s.store u.store pt) ⟨_, hpoint, .scan ⟨?_, ?_⟩ nofun⟩ ?_
  · rw [hstore]
  · rw [hstore]
  · rintro u ⟨t, e⟩ v hru ⟨pt, hpt, hstate⟩ hcall hs
    have hu : (system srv).Reachable u := hreach.runs (hru.mono fun _ _ _ => trivial)
    obtain ⟨seg, hat, rfl⟩ := Program.At.of_step (discipline srv) hu trivial hs
    rw [Program.commit_store]
    obtain ⟨hrec, hpoints⟩ := records hu
    have hok := hpoints (.control c)
    have hscan := (scans hu).2 (.control c)
    rw [hpt] at hok hscan
    have hown : ∀ r, s.store.services.get? (poolServiceName c) = some r → r.client = c :=
      fun r => hn.own (records h.reachable).1 (by rw [h.point]; nofun)
    refine hstate.step hat hcall hpt ⟨hown, hrec, (tunnels hu).1, hok, hscan, fun k r hk => ?_⟩
    have hrun' : (system srv).Runs (fun _ _ => True) s u :=
      (System.Runs.tail .refl trivial h.step).trans (hru.mono fun _ _ _ => trivial)
    exact (createdAt_runs (started h.reachable hk) hrun').2

/-! ## The call gets somewhere -/

/-- A point of the scan that precedes any eviction. -/
def ControlPoint.inFirstScan : ControlPoint → Bool
  | .poolScan _ none _ | .poolBind _ none _ _ | .poolBound _ none _ _ _ => true
  | _ => false

/-- The task of the call executes one more segment. -/
theorem DuringCall.advance (os : Int → Bool) (e : Event) {pt : ControlPoint}
    (seg : Segment LockId Effect ControlPoint) (hrun : (program srv).canRun s (.control c) = true)
    (hpt : s.point (.control c) = .control pt) (hin : pt.inCall = true)
    (hans : ∀ p scan port r, e = .bind r → pt = .poolBind p none scan port → Answers os port r)
    (hseg : controlSegment srv s.store c pt e = some seg) (hw : seg.next.wants c = none) :
    ∃ u, (system srv).Runs (DuringCall os c) s u ∧ u.point (.control c) = .control seg.next ∧
      (program srv).canRun u (.control c) = true := by
  have hserver : (program srv).segment s.store (.control c) (s.point (.control c)) e =
      some (seg.lift .control) := by
    rw [hpt]
    show (controlSegment srv s.store c pt e).map (Segment.lift Point.control) = _
    rw [hseg]
    rfl
  have hcall : DuringCall os c s (.control c, e) := by
    refine ⟨⟨pt, hpt, hin⟩, fun p scan port r ha hpt' => ?_⟩
    cases ha
    rw [hpt] at hpt'
    cases hpt'
    exact hans p scan port r rfl rfl
  exact ⟨_, .tail .refl hcall (Program.step_eq_some.mpr ⟨hrun, _, hserver, rfl⟩),
    Program.commit_point_self _ _ _, Program.canRun_commit hw⟩

/-- The same for a segment that nothing outside resumes. -/
theorem DuringCall.go (os : Int → Bool) {pt : ControlPoint}
    (seg : Segment LockId Effect ControlPoint) (hrun : (program srv).canRun s (.control c) = true)
    (hpt : s.point (.control c) = .control pt) (hin : pt.inCall = true)
    (hseg : controlSegment srv s.store c pt .go = some seg) (hw : seg.next.wants c = none) :
    ∃ u, (system srv).Runs (DuringCall os c) s u ∧ u.point (.control c) = .control seg.next ∧
      (program srv).canRun u (.control c) = true :=
  DuringCall.advance os .go seg hrun hpt hin (fun _ _ _ _ he => by cases he) hseg hw

/-- A scan that has a port left to try. -/
theorem controlSegment_scan (srv : Server) (σ : Store) (c : ClientId) (p : PoolCall) {scan : Scan}
    {port : Int} {ports : List Int} (h : scan.ports = port :: ports) :
    controlSegment srv σ c (.poolScan p none scan) .go =
      if port ∈ scan.used then some ⟨.none, .poolScan p none { scan with ports }, none⟩
      else some ⟨.none, .poolBind p none { scan with ports } port, none⟩ := by
  obtain ⟨used, _, lastError, refused⟩ := scan
  cases h
  rfl

/-- A first scan that has none left. -/
theorem controlSegment_scanned (srv : Server) (σ : Store) (c : ClientId) (p : PoolCall)
    {scan : Scan} (h : scan.ports = []) :
    controlSegment srv σ c (.poolScan p none scan) .go =
      match σ.selectVictim c p.item.priority p.request.force scan.lastError with
      | .ok v => some ⟨.evict v, .poolEvict p v, none⟩
      | .error e => some ⟨.none, .rollback p.request p.request.registered e, some .server⟩ := by
  obtain ⟨used, _, lastError, refused⟩ := scan
  cases h
  rfl

/-- The first scan comes to an end: by induction on the ports it has still to try. -/
theorem firstScan_ends (srv : Server) (os : Int → Bool) (c : ClientId) (p : PoolCall)
    (ports : List Int) : ∀ (s : State) (scan : Scan), scan.ports = ports →
      s.point (.control c) = .control (.poolScan p none scan) →
      (program srv).canRun s (.control c) = true →
      ∃ u pt, (system srv).Runs (DuringCall os c) s u ∧
        u.point (.control c) = .control pt ∧ pt.inFirstScan = false := by
  induction ports with
  | nil =>
      intro s scan hports hpt hrun
      have hseg := controlSegment_scanned srv s.store c p hports
      cases hv : s.store.selectVictim c p.item.priority p.request.force scan.lastError with
      | ok v =>
          rw [hv] at hseg
          obtain ⟨u, hu, hpt', -⟩ := DuringCall.go os _ hrun hpt rfl hseg rfl
          exact ⟨u, _, hu, hpt', rfl⟩
      | error err =>
          rw [hv] at hseg
          obtain ⟨u, hu, hpt', -⟩ := DuringCall.go os _ hrun hpt rfl hseg rfl
          exact ⟨u, _, hu, hpt', rfl⟩
  | cons port ports ih =>
      intro s scan hports hpt hrun
      have hseg := controlSegment_scan srv s.store c p hports
      by_cases hused : port ∈ scan.used
      · rw [if_pos hused] at hseg
        obtain ⟨u, hu, hpt₁, hrun₁⟩ := DuringCall.go os _ hrun hpt rfl hseg rfl
        obtain ⟨v, pt, hv, hend⟩ := ih u { scan with ports } rfl hpt₁ hrun₁
        exact ⟨v, pt, hu.trans hv, hend⟩
      · rw [if_neg hused] at hseg
        obtain ⟨u, hu, hpt₁, hrun₁⟩ := DuringCall.go os _ hrun hpt rfl hseg rfl
        cases hos : os port with
        | true =>
            obtain ⟨v, hv, hpt₂, hrun₂⟩ := DuringCall.advance os (.bind (.bound "" port))
              ⟨.listen (openListener (poolServiceName c) "" port c p.raw),
                .poolBound p none { scan with ports } port u.store.listeners.size, none⟩
              hrun₁ hpt₁ rfl (by rintro _ _ _ _ ⟨⟩ ⟨⟩; exact hos) rfl rfl
            obtain ⟨w, hw, hpt₃, -⟩ := DuringCall.go os
              ⟨.register (poolService srv c p.item port u.store.listeners.size),
                appended p.request (poolService srv c p.item port u.store.listeners.size),
                some .server⟩
              hrun₂ hpt₂ rfl rfl rfl
            exact ⟨w, _, (hu.trans hv).trans hw, hpt₃, rfl⟩
        | false =>
            obtain ⟨v, hv, hpt₂, hrun₂⟩ := DuringCall.advance os (.bind (.osError ""))
              ⟨.none, .poolScan p none
                { scan with ports, lastError := some "", refused := port :: scan.refused }, none⟩
              hrun₁ hpt₁ rfl (by rintro _ _ _ _ ⟨⟩ ⟨⟩; exact hos) rfl rfl
            obtain ⟨w, pt, hw, hend⟩ := ih v _ rfl hpt₂ hrun₂
            exact ⟨w, pt, (hu.trans hv).trans hw, hend⟩

/-! ## The rule -/

theorem ControlPoint.AfterEviction.not_inFirstScan {p : PoolCall} {v : Victim} {pt : ControlPoint}
    (h : pt.AfterEviction p v) : pt.inFirstScan = false := by
  cases pt with
  | poolScan | poolBind | poolBound =>
      obtain ⟨-, rfl⟩ := h
      rfl
  | _ => rfl

theorem Unchanged.othersKept {σ' : Store} (h : Unchanged σ σ') : OthersKept σ σ' c :=
  ⟨fun k r _ => by rw [h.services], h.pending⟩

/-- A pool service with a smaller number is kept. -/
theorem Evicted.keeps {σ' : Store} {V : ClientId} {priority : Int} {k : String}
    {r : RegisteredService} (h : Evicted σ σ' c V) (hrec : RecordsOk srv σ)
    (hV : VictimRule σ c priority V) (hk : σ.services.get? k = some r)
    (hp : r.poolToken.isSome = true) (hc : r.client ≠ c) (hlt : r.priority < priority) :
    σ'.services.get? k = some r := by
  refine (h.services k r ?_ hc).mpr hk
  -- the pool service of the victim is its only one
  rintro rfl
  obtain ⟨r', hr', hclient, hge, -⟩ := hV
  obtain ⟨⟨k', hk'⟩, hp', -⟩ := mem_otherPoolServices.mp hr'
  obtain rfl := poolService_unique hrec hk' hk hp' hp hclient
  rw [hk, Option.some.injEq] at hk'
  subst hk'
  omega

theorem CallState.keeps {os : Int → Bool} {p : PoolCall} {σ' : Store} {pt : ControlPoint}
    (h : CallState srv os c p σ σ' pt) (hrec : RecordsOk srv σ) {k : String}
    {r : RegisteredService} (hk : σ.services.get? k = some r) (hp : r.poolToken.isSome = true)
    (hc : r.client ≠ c) (hlt : r.priority < p.item.priority) : σ'.services.get? k = some r := by
  cases h with
  | scan same hr => rw [same.services, hk]
  | bind same hr => rw [same.services, hk]
  | bound same hb => rw [same.services, hk]
  | inserted kept hb => exact (kept.services k r hc).mpr hk
  | denied same hb he => rw [same.services, hk]
  | evicted gone hb hf hv hpt => exact gone.keeps hrec hv hk hp hc hlt

/-- If a port can be bound, it is bound. -/
theorem CallState.bindable {os : Int → Bool} {p : PoolCall} {σ' : Store} {pt : ControlPoint}
    (h : CallState srv os c p σ σ' pt) (hb : Bindable srv os σ) :
    OthersKept σ σ' c ∧ (pt.inFirstScan = false → ∃ q, pt = .item q) := by
  cases h with
  | scan same hr => exact ⟨same.othersKept, nofun⟩
  | bind same hr => exact ⟨same.othersKept, nofun⟩
  | bound same hb => exact ⟨same.othersKept, nofun⟩
  | inserted kept hb => exact ⟨kept, fun _ => ⟨_, rfl⟩⟩
  | denied same hnb he => exact absurd hb hnb
  | evicted gone hnb hf hv hafter => exact absurd hb hnb

/-- If none can, a call without force fails. -/
theorem CallState.unforced {os : Int → Bool} {p : PoolCall} {σ' : Store} {pt : ControlPoint}
    (h : CallState srv os c p σ σ' pt) (hnb : ¬ Bindable srv os σ)
    (hf : p.request.force = false) :
    Unchanged σ σ' ∧ (pt.inFirstScan = false → ∃ q rest e, pt = .rollback q rest e) := by
  cases h with
  | scan same hr => exact ⟨same, nofun⟩
  | bind same hr => exact ⟨same, nofun⟩
  | bound same hb => exact absurd hb hnb
  | inserted kept hb => exact absurd hb hnb
  | denied same hb he => exact ⟨same, fun _ => ⟨_, _, _, rfl⟩⟩
  | evicted gone hb hf' hv hafter =>
      rw [hf] at hf'
      cases hf'

/-- A forced call evicts a client when some service may be preempted. -/
theorem CallState.eligible {os : Int → Bool} {p : PoolCall} {σ' : Store} {pt : ControlPoint}
    (h : CallState srv os c p σ σ' pt) (hnb : ¬ Bindable srv os σ)
    (hf : p.request.force = true)
    (hge : ∃ r ∈ σ.otherPoolServices c, p.item.priority ≤ r.priority) :
    (pt.inFirstScan = true → Unchanged σ σ') ∧
      (pt.inFirstScan = false → ∃ V, VictimRule σ c p.item.priority V ∧ Evicted σ σ' c V) := by
  obtain ⟨r, hr, hge⟩ := hge
  cases h with
  | scan same hr => exact ⟨fun _ => same, nofun⟩
  | bind same hr => exact ⟨fun _ => same, nofun⟩
  | bound same hb => exact absurd hb hnb
  | inserted kept hb => exact absurd hb hnb
  | denied same hb he =>
      cases he with
      | alone cause hnone =>
          rw [hnone] at hr
          cases hr
      | unforced hsome hf' =>
          rw [hf] at hf'
          cases hf'
      | outranked hf' hlt hmem hle =>
          have := hlt r hr
          omega
  | evicted gone hb hf' hv hafter =>
      refine ⟨fun hin => ?_, fun _ => ⟨_, hv, gone⟩⟩
      rw [hafter.not_inFirstScan] at hin
      cases hin

/-- A forced call fails when every other pool service has a smaller number. -/
theorem CallState.outranked {os : Int → Bool} {p : PoolCall} {σ' : Store} {pt : ControlPoint}
    (h : CallState srv os c p σ σ' pt) (hnb : ¬ Bindable srv os σ)
    (hf : p.request.force = true)
    (hlt : ∀ r ∈ σ.otherPoolServices c, r.priority < p.item.priority) :
    Unchanged σ σ' ∧
      (pt.inFirstScan = false → ∃ q rest e, pt = .rollback q rest e ∧
        ((σ.otherPoolServices c = [] ∧ ∃ cause, e = .resourceExhausted cause) ∨
          ∃ largest, e = .priorityPreemption p.item.priority largest ∧
            (∃ r ∈ σ.otherPoolServices c, r.priority = largest) ∧
            ∀ r ∈ σ.otherPoolServices c, r.priority ≤ largest)) := by
  cases h with
  | scan same hr => exact ⟨same, nofun⟩
  | bind same hr => exact ⟨same, nofun⟩
  | bound same hb => exact absurd hb hnb
  | inserted kept hb => exact absurd hb hnb
  | denied same hb he =>
      refine ⟨same, fun _ => ⟨_, _, _, rfl, ?_⟩⟩
      cases he with
      | alone cause hnone => exact .inl ⟨hnone, cause, rfl⟩
      | unforced hsome hf' =>
          rw [hf] at hf'
          cases hf'
      | outranked hf' hlt hmem hle => exact .inr ⟨_, rfl, hmem, hle⟩
  | evicted gone hb hf' hv hafter =>
      obtain ⟨r, hr, -, hge, -⟩ := hv
      have := hlt r hr
      omega

/-- **Preemption.** What a call of `_register_pool_service` does is decided by the ports
that can be bound, the force flag and the priorities of the pool services of the other
clients: a port is bound and nobody else loses anything; or the call is denied and
changes nothing; or one client is evicted by the priority rule. -/
theorem preemption (srv : Server) (os : Int → Bool) {c : ClientId} {p : PoolCall} {s s₁ : State}
    (h : CallStarts srv c p s s₁) (hn : PoolNamesOwn s) :
    (∃ u pt, (system srv).Runs (DuringCall os c) s₁ u ∧ u.point (.control c) = .control pt ∧
      pt.inFirstScan = false) ∧
    ∀ u pt, (system srv).Runs (DuringCall os c) s₁ u → u.point (.control c) = .control pt →
      (Bindable srv os s.store → OthersKept s.store u.store c ∧
        (pt.inFirstScan = false → ∃ q, pt = .item q)) ∧
      (¬ Bindable srv os s.store → p.request.force = false → Unchanged s.store u.store ∧
        (pt.inFirstScan = false → ∃ q rest e, pt = .rollback q rest e)) ∧
      (¬ Bindable srv os s.store → p.request.force = true →
        (∃ r ∈ s.store.otherPoolServices c, p.item.priority ≤ r.priority) →
        (pt.inFirstScan = true → Unchanged s.store u.store) ∧
        (pt.inFirstScan = false → ∃ V, VictimRule s.store c p.item.priority V ∧
          Evicted s.store u.store c V)) ∧
      (¬ Bindable srv os s.store → p.request.force = true →
        (∀ r ∈ s.store.otherPoolServices c, r.priority < p.item.priority) →
        Unchanged s.store u.store ∧
        (pt.inFirstScan = false → ∃ q rest e, pt = .rollback q rest e ∧
          ((s.store.otherPoolServices c = [] ∧ ∃ cause, e = .resourceExhausted cause) ∨
            ∃ largest, e = .priorityPreemption p.item.priority largest ∧
              (∃ r ∈ s.store.otherPoolServices c, r.priority = largest) ∧
              ∀ r ∈ s.store.otherPoolServices c, r.priority ≤ largest))) ∧
      (∀ k r, s.store.services.get? k = some r → r.poolToken.isSome = true → r.client ≠ c →
        r.priority < p.item.priority → u.store.services.get? k = some r) := by
  obtain ⟨-, hpoint, hrun₁⟩ := h.after
  refine ⟨firstScan_ends srv os c p _ s₁ _ rfl hpoint hrun₁, fun u pt hrun hpt => ?_⟩
  obtain ⟨pt', hpt', hstate⟩ := callState h hn hrun
  rw [hpt] at hpt'
  cases hpt'
  exact ⟨hstate.bindable, hstate.unforced, hstate.eligible, hstate.outranked,
    fun k r hk hp hc hlt => hstate.keeps (records h.reachable).1 hk hp hc hlt⟩

/-- The forced call of a client `d` with the default priority. -/
def forcedCall : PoolCall :=
  ⟨⟨Schedule.register true [Schedule.poolItem], false, true, [Schedule.poolItem], []⟩,
    Schedule.poolItem, ⟨"t", 0⟩⟩

/-- The pool is full, and the forced call of `d` evicts a client. -/
theorem preemption_forced : ∃ s s₁ u V, CallStarts Schedule.mixedServer "d" forcedCall s s₁ ∧
    (system Schedule.mixedServer).Runs (DuringCall (fun _ => false) "d") s₁ u ∧
    VictimRule s.store "d" 0 V ∧ Evicted s.store u.store "d" V := by
  have hrun : ((system Schedule.mixedServer).execWhile (fun _ _ => true)
      (system Schedule.mixedServer).init
      (Schedule.connect "a" false [Schedule.poolItem] ++ Schedule.pool "a" 0 6000 ++
        Schedule.answer "a" ++ Schedule.connect "d" true [Schedule.poolItem] ++
        Schedule.goes (.control "d") 1)).map
          (fun s => (s.point (.control "d"), s.store.services.entries,
            (program Schedule.mixedServer).canRun s (.control "d"))) =
      some (.control (.poolEnter forcedCall),
        [("pool-a", ⟨"pool-a", "0.0.0.0", 6000, some "t", "a", 0, true, some "t", 0⟩)], true) := by
    rfl
  obtain ⟨s, hs, heq⟩ := System.exists_of_execWhile_map _ (fun _ _ _ _ => trivial) hrun
  simp only [Prod.mk.injEq] at heq
  obtain ⟨hpoint, hentries, hcan⟩ := heq
  have hget : ∀ k r, s.store.services.get? k = some r ↔
      (k, r) = ("pool-a", ⟨"pool-a", "0.0.0.0", 6000, some "t", "a", 0, true, some "t", 0⟩) := by
    intro k r
    rw [Dict.get?_eq_some_iff, hentries, List.mem_singleton]
  have hseg : (program Schedule.mixedServer).segment s.store (.control "d")
      (s.point (.control "d")) .go =
      some (Segment.lift .control ⟨.none, .poolScan forcedCall none
        (startScan Schedule.mixedServer s.store), none⟩) := by
    rw [hpoint]
    rfl
  have hstart : CallStarts Schedule.mixedServer "d" forcedCall s _ :=
    ⟨hs, hpoint, Program.step_eq_some.mpr ⟨hcan, _, hseg, rfl⟩⟩
  have hnames : PoolNamesOwn s := by
    intro c r _ hr
    rw [(Prod.mk.inj ((hget _ _).mp hr)).2]
    exact .inl rfl
  obtain ⟨⟨u, pt, hu, hpt, hend⟩, hrule⟩ :=
    preemption Schedule.mixedServer (fun _ => false) hstart hnames
  obtain ⟨-, hevict⟩ := (hrule u pt hu hpt).2.2.1 (by rintro ⟨_, _, _, ⟨⟩⟩) rfl
    ⟨_, mem_otherPoolServices.mpr ⟨⟨_, (hget _ _).mpr rfl⟩, rfl, by decide⟩, by decide⟩
  obtain ⟨V, hV, hgone⟩ := hevict hend
  exact ⟨s, _, u, V, hstart, hu, hV, hgone⟩

/-- A forced call whose only port is refused, with no other client there: the error
carries no largest number. -/
theorem preemption_alone : ∃ s, (system Schedule.mixedServer).Reachable s ∧
    s.store.services.entries = [] ∧
    s.store.sent = [("d", .error
      "resource insufficient: no available port in the configured pool" true none)] := by
  have hrun : ((system Schedule.mixedServer).execWhile (fun _ _ => true)
      (system Schedule.mixedServer).init
      (Schedule.connect "d" true [Schedule.poolItem] ++ Schedule.goes (.control "d") 3 ++
        [(.control "d", .bind (.osError "in use"))] ++ Schedule.goes (.control "d") 4)).map
          (fun s => (s.store.services.entries, s.store.sent)) =
      some ([], [("d", .error
        "resource insufficient: no available port in the configured pool" true none)]) := by rfl
  obtain ⟨s, hs, heq⟩ := System.exists_of_execWhile_map _ (fun _ _ _ _ => trivial) hrun
  obtain ⟨hentries, hsent⟩ := Prod.mk.inj heq
  exact ⟨s, hs, hentries, hsent⟩

end PyFrp
