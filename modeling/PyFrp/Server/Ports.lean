import Mathlib.Data.Finset.Card
import PyFrp.Server.Records

/-!
# The port pool

The ports of the pool services are distinct and a scan assigns the least port
that is neither taken nor refused. Both rest on the server lock: only its
holder changes `_services`, and a scan never gives it up.
-/

namespace PyFrp

open Python Coop Store

variable {srv : Server} {σ : Store} {c : ClientId} {C : State → Action → Prop}

/-! ## Only the holder of the lock changes the services -/

/-- Does an effect change `_services`? -/
def Effect.changesServices : Effect → Bool
  | .register _ | .drop _ | .evict _ | .removeClient _ => true
  | _ => false

theorem Effect.services_of_not_changes {φ : Effect} (h : φ.changesServices = false) :
    (φ.apply σ).services = σ.services := by
  rw [Effect.apply_services]
  cases φ <;> first | rfl | cases h

theorem ControlStep.locked {p : ControlPoint} {seg : Segment LockId Effect ControlPoint}
    (hs : ControlStep srv σ c p seg) (h : seg.effect.changesServices = true) :
    p.holds c = some .server ∨ p.wants c = some .server := by
  cases hs with
  | session hp hn hq hs hg hφ =>
      revert h hφ
      generalize seg.effect = φ
      rintro h ⟨⟩ <;> cases h
  | regularInsert | drop | leave => exact .inr rfl
  | poolInsert | poolReplace | poolEvict => exact .inl rfl
  | _ => cases h

theorem ServerStep.locked {t : TaskId} {p : Point} {seg : Segment LockId Effect Point}
    (hs : ServerStep srv σ t p seg) (h : seg.effect.changesServices = true) :
    Point.holds t p .server ∨ p.wants t = some .server := by
  cases hs with
  | control hs => exact hs.locked h
  | pub hc hs => cases hs <;> cases h
  | tunnel hs => cases hs <;> cases h
  | _ => cases h

/-- The services stay as they are while another task has the server lock. -/
theorem services_of_held {s : State} {t u : TaskId} {e : Event}
    {seg : Segment LockId Effect Point}
    (hat : (program srv).At .initial .start Point.holds C s t e seg) (hne : u ≠ t)
    (hu : Point.holds u (s.point u) .server) :
    (seg.effect.apply s.store).services = s.store.services := by
  refine Effect.services_of_not_changes (Bool.eq_false_iff.mpr fun hch => ?_)
  have hk := (serverSegment_cases hat.segment).locked hch
  exact hne (hat.held.exclusive hat.canRun hk hu).symm

/-! ## Scans -/

/-- The scan knows the ports in use, and what it has passed over was in use or
refused. `rest` are the ports it has not passed over yet. -/
structure ScanOk (srv : Server) (σ : Store) (scan : Scan) (rest : List Int) : Prop where
  used : scan.used = poolPorts σ
  passed : ∃ done, srv.config.portPool.insertionSort (· ≤ ·) = done ++ rest ∧
    ∀ port ∈ done, port ∈ scan.used ∨ port ∈ scan.refused

/-- What is known of the locals of `_bind_pool_service_locked` at its points. -/
def ScanAt (srv : Server) (σ : Store) : ControlPoint → Prop
  | .poolScan _ _ scan => ScanOk srv σ scan scan.ports
  | .poolBind _ _ scan port | .poolBound _ _ scan port _ =>
      ScanOk srv σ scan (port :: scan.ports) ∧ port ∉ scan.used
  | _ => True

/-- Two pool services never have one port. -/
def PortsDistinct (σ : Store) : Prop :=
  ∀ k₁ k₂ r₁ r₂, σ.services.get? k₁ = some r₁ → σ.services.get? k₂ = some r₂ →
    r₁.poolToken.isSome = true → r₂.poolToken.isSome = true → r₁.bindPort = r₂.bindPort →
    k₁ = k₂

def ScanPointOk (srv : Server) (σ : Store) : TaskId → Point → Prop
  | .control _, .control p => ScanAt srv σ p
  | _, _ => True

theorem mem_poolPorts {port : Int} :
    port ∈ poolPorts σ ↔
      ∃ k r, σ.services.get? k = some r ∧ r.poolToken.isSome = true ∧ r.bindPort = port := by
  simp only [poolPorts, List.mem_map, List.mem_filter, Dict.mem_values]
  constructor
  · rintro ⟨r, ⟨⟨k, hk⟩, hp⟩, hport⟩
    exact ⟨k, r, hk, hp, hport⟩
  · rintro ⟨k, r, hk, hp, hport⟩
    exact ⟨r, ⟨⟨k, hk⟩, hp⟩, hport⟩

theorem poolPorts_congr {σ' : Store} (hs : σ'.services = σ.services) :
    poolPorts σ' = poolPorts σ := by
  rw [poolPorts, hs, poolPorts]

theorem ScanAt.congr {σ' : Store} {p : ControlPoint} (h : ScanAt srv σ p)
    (hs : σ'.services = σ.services) : ScanAt srv σ' p := by
  have hports := poolPorts_congr hs
  cases p
  case poolScan => exact ⟨h.used.trans hports.symm, h.passed⟩
  case poolBind | poolBound => exact ⟨⟨h.1.used.trans hports.symm, h.1.passed⟩, h.2⟩
  all_goals trivial

/-- At the points of a scan the task has the server lock. -/
theorem ScanAt.of_not_held {p : ControlPoint} (h : p.holds c ≠ some .server) :
    ScanAt srv σ p := by
  cases p
  case poolScan | poolBind | poolBound => exact absurd rfl h
  all_goals trivial

theorem ScanOk.start (srv : Server) (σ : Store) :
    ScanOk srv σ (startScan srv σ) (startScan srv σ).ports :=
  ⟨rfl, [], rfl, nofun⟩

/-- The scan passes over a port that is in use or was refused. -/
theorem ScanOk.pass {scan scan' : Scan} {port : Int} {rest : List Int}
    (h : ScanOk srv σ scan (port :: rest)) (hu : scan'.used = scan.used)
    (hr : ∀ x ∈ scan.refused, x ∈ scan'.refused)
    (hp : port ∈ scan'.used ∨ port ∈ scan'.refused) : ScanOk srv σ scan' rest := by
  obtain ⟨done, hdone, hpassed⟩ := h.passed
  refine ⟨hu.trans h.used, done ++ [port], by rw [hdone]; simp, fun x hx => ?_⟩
  rcases List.mem_append.mp hx with hx | hx
  · rcases hpassed x hx with hused | href
    · exact .inl (hu ▸ hused)
    · exact .inr (hr x href)
  · rw [List.mem_singleton.mp hx]
    exact hp

theorem ControlStep.scans {p : ControlPoint} {seg : Segment LockId Effect ControlPoint}
    (hs : ControlStep srv σ c p seg) (h : ScanAt srv σ p) :
    ScanAt srv (seg.effect.apply σ) seg.next := by
  cases hs with
  | item hn => cases hn <;> trivial
  | poolEnter => exact ScanOk.start srv σ
  | poolRescan hc => exact ScanOk.start srv σ
  | poolSkip hp hu =>
      have hscan : ScanOk srv σ _ _ := h
      rw [hp] at hscan
      exact hscan.pass rfl (fun _ hx => hx) (.inl hu)
  | poolTry hp hu =>
      have hscan : ScanOk srv σ _ _ := h
      rw [hp] at hscan
      exact ⟨⟨hscan.used, hscan.passed⟩, hu⟩
  | poolListen host port' => exact ScanAt.congr (p := .poolBind _ _ _ _) h rfl
  | poolRefused text => exact h.1.pass rfl (fun _ hx => .tail _ hx) (.inr (.head _))
  | session hp hn hq hs hg hφ =>
      revert hn
      generalize seg.next = next
      intro hn
      cases next <;> trivial
  | _ => trivial

/-- A new pool service takes a port no other pool service has. -/
theorem PortsDistinct.register {r : RegisteredService} (h : PortsDistinct σ)
    (hr : r.poolToken.isSome = true → r.bindPort ∉ poolPorts σ) :
    PortsDistinct ((Effect.register r).apply σ) := by
  have hnew : ∀ {k : String} {r' : RegisteredService}, σ.services.get? k = some r' →
      r.poolToken.isSome = true → r'.poolToken.isSome = true → r.bindPort ≠ r'.bindPort :=
    fun hk hp hp' heq => hr hp (mem_poolPorts.mpr ⟨_, _, hk, hp', heq.symm⟩)
  intro k₁ k₂ r₁ r₂ h₁ h₂ hp₁ hp₂ heq
  rcases Effect.of_services h₁ with ⟨hr₁, hk₁⟩ | ⟨h₁, -, -⟩ <;>
    rcases Effect.of_services h₂ with ⟨hr₂, hk₂⟩ | ⟨h₂, -, -⟩
  · cases hr₁
    cases hr₂
    rw [hk₁, hk₂]
  · cases hr₁
    exact absurd heq (hnew h₂ hp₁ hp₂)
  · cases hr₂
    exact absurd heq.symm (hnew h₁ hp₂ hp₁)
  · exact h k₁ k₂ r₁ r₂ h₁ h₂ hp₁ hp₂ heq

/-- The record a step registers is no pool service, or has a port that is free. -/
theorem ControlStep.registers_free {p : ControlPoint} {r : RegisteredService}
    {seg : Segment LockId Effect ControlPoint} (hs : ControlStep srv σ c p seg)
    (h : ControlOk srv σ.listeners c p) (hscan : ScanAt srv σ p)
    (hr : seg.effect = .register r) (hp : r.poolToken.isSome = true) :
    r.bindPort ∉ poolPorts σ := by
  cases hs with
  | session hp hn hq hs hg hφ => exact absurd hr (hφ.ne rfl)
  | regularInsert hc =>
      cases hr
      obtain ⟨-, raw, -, hraw, ho⟩ := h
      generalize r = r' at *
      cases ho.made with
      | regular l hp' hs => cases hp
      | pool l hp' hi hport => rw [hraw] at hp'; cases hp'
  | poolInsert | poolReplace =>
      cases hr
      rw [← hscan.1.used]
      exact hscan.2
  | _ => cases hr

theorem scanOutline (srv : Server) (C : State → Action → Prop) :
    (program srv).Outline .initial .start Point.holds C PortsDistinct (ScanPointOk srv) where
  initial _ _ _ _ h := by cases h
  starts t := by cases t <;> trivial
  keeps {s t e seg} hat hI hA := by
    cases hφ : seg.effect with
    | register r =>
        refine PortsDistinct.register hI fun hp => ?_
        have hrec := (records hat.run).2 t
        have hscan := hA t
        have hseg := serverSegment_cases hat.segment
        obtain ⟨c, p, seg', rfl, hpt, rfl, hcall⟩ := hseg.ofCall (by rw [hφ]; rfl)
        rw [hpt] at hrec hscan
        exact hcall.registers_free hrec hscan hφ hp
    | _ =>
        rw [← hφ]
        intro k₁ k₂ r₁ r₂ h₁ h₂
        have hold : ∀ {k : String} {r : RegisteredService},
            (seg.effect.apply s.store).services.get? k = some r →
              s.store.services.get? k = some r := by
          intro k r hk
          rcases Effect.of_services hk with ⟨hr, -⟩ | ⟨hk, -⟩
          · rw [hφ] at hr
            cases hr
          · exact hk
        exact hI k₁ k₂ r₁ r₂ (hold h₁) (hold h₂)
  establishes {s t e seg} hat hI hA := by
    have hp := hA t
    have hseg := serverSegment_cases hat.segment
    revert hp hseg
    generalize s.point t = p
    intro hp hseg
    cases hseg with
    | control hs => exact hs.scans hp
    | _ => trivial
  spares {s t e seg u} hat hI hA hne := by
    have hp := hA u
    have hkeep := services_of_held (u := u) hat hne
    revert hp hkeep
    generalize s.point u = p
    intro hp hkeep
    cases u with
    | control c =>
        cases p with
        | control p =>
            by_cases hh : p.holds c = some .server
            · exact ScanAt.congr hp (hkeep hh)
            · exact ScanAt.of_not_held hh
        | _ => trivial
    | _ => trivial

theorem scans {s : State} (h : (system srv).ReachableUnder C s) :
    PortsDistinct s.store ∧ ∀ t, ScanPointOk srv s.store t (s.point t) :=
  (scanOutline srv C).sound (discipline srv) h

/-! ## The records of the pool -/

/-- What every record of a pool service has. -/
theorem Made.pool_record {raw : Value} {r : RegisteredService} (h : Made srv c raw r)
    (hp : r.poolToken.isSome = true) :
    r.name = poolServiceName c ∧ r.bindPort ∈ srv.config.portPool ∧
      ∃ token ∈ srv.config.poolTokens, r.poolToken = some token := by
  cases h with
  | regular l hp' hs => cases hp
  | pool l hp' hi hport =>
      obtain ⟨fields, rfl⟩ := isPoolRegistration_dict hp'
      exact ⟨rfl, hport, _, (poolItem_ok hi).2, rfl⟩

/-- A client has one pool service: it is named after the client, and stored under
that name. -/
theorem poolService_unique (hrec : RecordsOk srv σ) {k₁ k₂ : String} {r₁ r₂ : RegisteredService}
    (h₁ : σ.services.get? k₁ = some r₁) (h₂ : σ.services.get? k₂ = some r₂)
    (hp₁ : r₁.poolToken.isSome = true) (hp₂ : r₂.poolToken.isSome = true)
    (hc : r₁.client = r₂.client) : k₁ = k₂ := by
  obtain ⟨hk₁, raw₁, hc₁⟩ := hrec k₁ r₁ h₁
  obtain ⟨hk₂, raw₂, hc₂⟩ := hrec k₂ r₂ h₂
  rw [← hk₁, ← hk₂, (hc₁.made.pool_record hp₁).1, (hc₂.made.pool_record hp₂).1, hc]

theorem poolPorts_nodup (h : PortsDistinct σ) : (poolPorts σ).Nodup := by
  have hentries : σ.services.entries.Nodup := List.Nodup.of_map _ σ.services.nodup
  have hrw : poolPorts σ =
      (σ.services.entries.filter fun e => e.2.poolToken.isSome).map fun e => e.2.bindPort := by
    simp [poolPorts, Dict.values, List.filter_map, List.map_map, Function.comp_def]
  rw [hrw]
  refine List.Nodup.map_on ?_ (hentries.filter _)
  rintro ⟨k₁, r₁⟩ h₁ ⟨k₂, r₂⟩ h₂ heq
  obtain ⟨h₁, hp₁⟩ := List.mem_filter.mp h₁
  obtain ⟨h₂, hp₂⟩ := List.mem_filter.mp h₂
  rw [← Dict.get?_eq_some_iff] at h₁ h₂
  obtain rfl := h k₁ k₂ r₁ r₂ h₁ h₂ hp₁ hp₂ heq
  rw [h₁, Option.some.injEq] at h₂
  rw [h₂]

theorem poolPorts_subset {s : State} (h : (system srv).ReachableUnder C s) :
    poolPorts s.store ⊆ srv.config.portPool := by
  intro port hport
  obtain ⟨k, r, hk, hp, rfl⟩ := mem_poolPorts.mp hport
  obtain ⟨-, raw, hc⟩ := (records h).1 k r hk
  exact (hc.made.pool_record hp).2.1

/-! ## Through a scan -/

def ControlPoint.scanning : ControlPoint → Bool
  | .poolScan _ _ _ | .poolBind _ _ _ _ | .poolBound _ _ _ _ _ => true
  | _ => false

/-- The control task of `c` is in a scan. -/
def Scanning (c : ClientId) (s : State) : Prop :=
  ∃ p, s.point (.control c) = .control p ∧ p.scanning = true

/-- The runs within one scan of `c`. -/
def DuringScan (c : ClientId) (s : State) (_ : Action) : Prop := Scanning c s

theorem ControlPoint.session_of_scanning {p : ControlPoint} (h : p.scanning = true) :
    p.session = false := by
  cases p <;> trivial

theorem ControlStep.scanning {p : ControlPoint} {seg : Segment LockId Effect ControlPoint}
    (hs : ControlStep srv σ c p seg) (hp : p.scanning = true)
    (hn : seg.next.scanning = true) : seg.effect.changesServices = false := by
  cases hs with
  | session hp' => exact absurd hp' (by simp [ControlPoint.session_of_scanning hp])
  | begin hp' => exact absurd hp' (by simp [ControlPoint.session_of_scanning hp])
  | poolSkip | poolTry | poolListen | poolRefused => rfl
  | _ => trivial

/-- The ports in use do not change during a scan. -/
theorem poolPorts_step {s s' : State} {a : Action} (h : (system srv).ReachableUnder C s)
    (hc : C s a) (hs : (system srv).step s a = some s') (hscan : Scanning c s)
    (hscan' : Scanning c s') : poolPorts s'.store = poolPorts s.store := by
  obtain ⟨t, e⟩ := a
  obtain ⟨seg, hat, rfl⟩ := Program.At.of_step (discipline srv) h hc hs
  have hkeep : (seg.effect.apply s.store).services = s.store.services := by
    obtain ⟨p, hp, hpscan⟩ := hscan
    by_cases ht : t = .control c
    · subst ht
      obtain ⟨p', hp', hpscan'⟩ := hscan'
      rw [Program.commit_point_self] at hp'
      have hseg := serverSegment_cases hat.segment
      rw [hp] at hseg
      cases hseg with
      | control hstep =>
          cases hp'
          exact Effect.services_of_not_changes (hstep.scanning hpscan hpscan')
    · refine services_of_held hat (Ne.symm ht) ?_
      rw [hp]
      cases p <;> first | rfl | cases hpscan
  rw [Program.commit_store]
  exact congrArg (fun d => (d.values.filter fun r => r.poolToken.isSome).map
    RegisteredService.bindPort) hkeep

theorem poolPorts_duringScan {s s' : State} (h : (system srv).Reachable s)
    (hrun : (system srv).Runs (DuringScan c) s s') (hscan : Scanning c s') :
    poolPorts s'.store = poolPorts s.store := by
  induction hrun with
  | refl => rfl
  | tail hrun hc hs ih =>
      have hreach := h.runs (hrun.mono fun _ _ _ => trivial)
      rw [poolPorts_step hreach trivial hs hc hscan, ih hc]

/-- A scan that has bound a port has found every smaller one assigned or refused. -/
theorem scan_passed {s : State} {p : PoolCall} {victim : Option Victim} {scan : Scan} {port : Int}
    {l : Nat} (h : (system srv).Reachable s)
    (hpt : s.point (.control c) = .control (.poolBound p victim scan port l)) {x : Int}
    (hx : x ∈ srv.config.portPool) (hlt : x < port) :
    x ∈ poolPorts s.store ∨ x ∈ scan.refused := by
  have hpoint := (scans h).2 (.control c)
  rw [hpt] at hpoint
  obtain ⟨hok, -⟩ := hpoint
  obtain ⟨done, hdone, hpassed⟩ := hok.passed
  -- the ports are scanned in increasing order, so `x` was passed over
  have hmem : x ∈ done ++ port :: scan.ports := by
    rw [← hdone]
    exact (List.perm_insertionSort _ _).mem_iff.mpr hx
  have hsorted := List.pairwise_insertionSort (· ≤ ·) srv.config.portPool
  rw [hdone] at hsorted
  rw [← hok.used]
  rcases List.mem_append.mp hmem with hd | hd
  · exact hpassed x hd
  · have htail := (List.pairwise_append.mp hsorted).2.1
    rcases List.mem_cons.mp hd with heq | hd
    · omega
    · have := List.rel_of_pairwise_cons htail hd
      omega

/-- **Pool allocation.** -/
theorem pool_allocation (srv : Server) {s : State} (h : (system srv).Reachable s) :
    (∀ k r, s.store.services.get? k = some r → r.name = k) ∧
    (∀ k r, s.store.services.get? k = some r → r.poolToken.isSome = true →
      r.bindPort ∈ srv.config.portPool ∧
        ∃ token ∈ srv.config.poolTokens, r.poolToken = some token) ∧
    (∀ k₁ k₂ r₁ r₂, s.store.services.get? k₁ = some r₁ → s.store.services.get? k₂ = some r₂ →
      r₁.poolToken.isSome = true → r₂.poolToken.isSome = true →
      (r₁.bindPort = r₂.bindPort → k₁ = k₂) ∧ (r₁.client = r₂.client → k₁ = k₂)) ∧
    (s.store.services.values.filter fun r => r.poolToken.isSome).length ≤
      srv.config.portPool.toFinset.card ∧
    (∀ c s' p victim scan port l, (system srv).Runs (DuringScan c) s s' →
      s'.point (.control c) = .control (.poolBound p victim scan port l) →
      ∀ x ∈ srv.config.portPool, x < port → x ∈ poolPorts s.store ∨ x ∈ scan.refused) := by
  obtain ⟨hrec, -⟩ := records h
  obtain ⟨hports, -⟩ := scans h
  refine ⟨fun k r hk => (hrec k r hk).1, ?_, ?_, ?_, ?_⟩
  · intro k r hk hp
    obtain ⟨-, raw, hc⟩ := hrec k r hk
    exact (hc.made.pool_record hp).2
  · intro k₁ k₂ r₁ r₂ h₁ h₂ hp₁ hp₂
    exact ⟨hports k₁ k₂ r₁ r₂ h₁ h₂ hp₁ hp₂, poolService_unique hrec h₁ h₂ hp₁ hp₂⟩
  · have hlen : (poolPorts s.store).length ≤ srv.config.portPool.toFinset.card := by
      rw [← List.toFinset_card_of_nodup (poolPorts_nodup hports)]
      exact Finset.card_le_card fun x hx =>
        List.mem_toFinset.mpr (poolPorts_subset h (List.mem_toFinset.mp hx))
    simpa [poolPorts] using hlen
  · intro c s' p victim scan port l hrun hpt x hx hlt
    have hreach := h.runs (hrun.mono fun _ _ _ => trivial)
    rw [← poolPorts_duringScan h hrun ⟨_, hpt, rfl⟩]
    exact scan_passed hreach hpt hx hlt

/-- Two pool clients take the two ports of the pool, the lower one first. -/
theorem pool_allocation_two : ∃ s, (system Schedule.poolServer).Reachable s ∧
    poolPorts s.store = [6000, 6001] ∧
    (∀ k r, s.store.services.get? k = some r → r.name = k) ∧
    (s.store.services.values.filter fun r => r.poolToken.isSome).length ≤
      ([6001, 6000] : List Int).toFinset.card := by
  have hrun : ((system Schedule.poolServer).execWhile (fun _ _ => true)
      (system Schedule.poolServer).init
      (Schedule.connect "a" false [Schedule.poolItem] ++ Schedule.pool "a" 0 6000 ++
        Schedule.answer "a" ++ Schedule.connect "b" false [Schedule.poolItem] ++
        Schedule.pool "b" 1 6001)).map
          (fun s => poolPorts s.store) = some [6000, 6001] := by rfl
  obtain ⟨s, hs, hports⟩ := System.exists_of_execWhile_map _ (fun _ _ _ _ => trivial) hrun
  obtain ⟨hname, -, -, hlen, -⟩ := pool_allocation Schedule.poolServer hs
  exact ⟨s, hs, hports, hname, hlen⟩

end PyFrp
