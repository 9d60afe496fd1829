import PyFrp.Server.Records

/-!
# Tunnel ids, pending records and pairings

Every public connection has at most one tunnel id and every tunnel id one
connection; a pending record is the one of the connection that has its id; and
a tunnel connection resolves at most one future.
-/

namespace PyFrp

open Python Coop Store

variable {srv : Server} {σ : Store} {φ : Effect} {c : ClientId} {C : State → Action → Prop}
variable {t : TaskId} {p : Point} {seg : Segment LockId Effect Point}

/-! ## Which task has which effect -/

/-- The effects of control tasks. -/
def Effect.ofControl : Effect → Bool
  | .none | .newSession _ _ | .join _ | .send _ _ | .closeSession _ | .listen _ | .register _
  | .discard _ | .drop _ | .evict _ | .failPending _ | .removeClient _ => true
  | _ => false

theorem ControlStep.ofControl {p : ControlPoint} {seg : Segment LockId Effect ControlPoint}
    (hs : ControlStep srv σ c p seg) : seg.effect.ofControl = true := by
  cases hs with
  | session hp hn hq hs hg hφ =>
      revert hφ
      generalize seg.effect = φ
      rintro ⟨⟩ <;> rfl
  | _ => rfl

theorem ControlStep.effect_ne {p : ControlPoint} {seg : Segment LockId Effect ControlPoint}
    (hs : ControlStep srv σ c p seg) (hφ : φ.ofControl = false) : seg.effect ≠ φ := by
  rintro rfl
  rw [hs.ofControl] at hφ
  cases hφ

/-- A control task never asks its client to open a tunnel. -/
theorem ControlStep.not_open {p : ControlPoint} {seg : Segment LockId Effect ControlPoint}
    {c' : ClientId} {id name : String} (hs : ControlStep srv σ c p seg) :
    seg.effect ≠ .send c' (.openTunnel id name) := by
  cases hs with
  | session hp hn hq hs hg hφ =>
      intro h
      rw [h] at hφ
      cases hφ with
      | send hm hr => exact hm id name rfl
  | _ => nofun

theorem ServerStep.accepts {l : Nat} {name : String} (hs : ServerStep srv σ t p seg)
    (hφ : seg.effect = .accept l name) :
    t = .pub σ.conns.size ∧ ∃ x, σ.listeners.get? l = some x ∧ x.isOpen = true ∧
      x.callback = name := by
  cases hs with
  | accept hl ho =>
      cases hφ
      exact ⟨rfl, _, hl, ho, rfl⟩
  | control hs => exact absurd hφ (hs.effect_ne rfl)
  | pub hc hs => cases hs <;> cases hφ
  | tunnel hs => cases hs <;> cases hφ
  | _ => cases hφ

theorem ServerStep.issues {h : Nat} {id : String} (hs : ServerStep srv σ t p seg)
    (hφ : seg.effect = .ticket h id) :
    t = .pub h ∧ p = .pub .lookup ∧ id ∉ σ.tickets ∧
      ∃ conn service, σ.conns.get? h = some conn ∧
        σ.services.get? conn.serviceName = some service ∧ seg.next = .pub (.insert service id) := by
  cases hs with
  | control hs => exact absurd hφ (hs.effect_ne rfl)
  | pub hc hs =>
      cases hs with
      | found hservice hid =>
          cases hφ
          exact ⟨rfl, rfl, hid, _, _, hc, hservice, rfl⟩
      | _ => cases hφ
  | tunnel hs => cases hs <;> cases hφ
  | _ => cases hφ

theorem ServerStep.pends {r : PendingTunnel} (hs : ServerStep srv σ t p seg)
    (hφ : seg.effect = .pend r) :
    ∃ h conn service id, t = .pub h ∧ p = .pub (.insert service id) ∧
      σ.conns.get? h = some conn ∧ r = pendingTunnel conn.serviceName service id h ∧
      seg.next = .pub (.sendOpen service id) := by
  cases hs with
  | control hs => exact absurd hφ (hs.effect_ne rfl)
  | pub hc hs =>
      cases hs with
      | insert =>
          cases hφ
          exact ⟨_, _, _, _, rfl, rfl, hc, rfl, rfl⟩
      | _ => cases hφ
  | tunnel hs => cases hs <;> cases hφ
  | _ => cases hφ

theorem ServerStep.pairs {h k : Nat} (hs : ServerStep srv σ t p seg)
    (hφ : seg.effect = .pair h k) :
    t = .tunnel k ∧ seg.next = .tunnel .finished ∧
      ∃ message, p = .tunnel (.claim message) ∧
        claimed σ (tunnelRequest srv message) = .ok h := by
  cases hs with
  | control hs => exact absurd hφ (hs.effect_ne rfl)
  | pub hc hs => cases hs <;> cases hφ
  | tunnel hs =>
      cases hs with
      | pair hm =>
          cases hφ
          exact ⟨rfl, rfl, _, rfl, hm⟩
      | _ => cases hφ
  | _ => cases hφ

theorem ServerStep.opens {id name : String} (hs : ServerStep srv σ t p seg)
    (hφ : seg.effect = .send c (.openTunnel id name)) :
    ∃ h conn service, t = .pub h ∧ p = .pub (.sendOpen service id) ∧ service.client = c ∧
      σ.conns.get? h = some conn ∧ conn.serviceName = name ∧
      seg.next = .pub (.openSent service id) := by
  cases hs with
  | control hs => exact absurd hφ hs.not_open
  | pub hc hs =>
      cases hs with
      | sendOpen =>
          cases hφ
          exact ⟨_, _, _, rfl, rfl, rfl, hc, rfl, rfl⟩
      | _ => cases hφ
  | tunnel hs => cases hs <;> cases hφ
  | _ => cases hφ

/-! ## The invariant -/

/-- What is known of the public connections and the pending records. -/
structure TunnelsOk (σ : Store) : Prop where
  accepted : ∀ h conn, σ.conns.get? h = some conn →
    ∃ x, σ.listeners.get? conn.listener = some x ∧ x.callback = conn.serviceName
  issued : ∀ h conn id, σ.conns.get? h = some conn → conn.ticket = some id → id ∈ σ.tickets
  unique : ∀ h₁ h₂ conn₁ conn₂ id, σ.conns.get? h₁ = some conn₁ →
    σ.conns.get? h₂ = some conn₂ → conn₁.ticket = some id → conn₂.ticket = some id → h₁ = h₂
  pending : ∀ k r, σ.pending.get? k = some r →
    r.id = k ∧ ∃ conn, σ.conns.get? r.conn = some conn ∧ conn.ticket = some k ∧
      conn.serviceName = r.serviceName
  paired : ∀ h₁ h₂ conn₁ conn₂ k, σ.conns.get? h₁ = some conn₁ →
    σ.conns.get? h₂ = some conn₂ → conn₁.future = .result k → conn₂.future = .result k → h₁ = h₂

/-- The tunnel connection a public task was handed. -/
def PublicPoint.tunnel : PublicPoint → Option Nat
  | .relay _ _ k | .relayed _ _ k => some k
  | .cleanup _ _ k | .closing k => k
  | _ => none

/-- The assertion at each point: what a public task knows of its connection,
and that a tunnel task has resolved no future before it is finished. -/
def TicketOk (σ : Store) : TaskId → Point → Prop
  | .pub h, .pub p => ∃ conn, σ.conns.get? h = some conn ∧
      (p = .accepted ∨ p = .lookup → conn.ticket = none) ∧
      (∀ service id, p.locals = some (service, id) → conn.ticket = some id) ∧
      ∀ k, p.tunnel = some k → conn.future = .result k
  | .tunnel k, p => p ≠ .tunnel .finished →
      ∀ h conn, σ.conns.get? h = some conn → conn.future ≠ .result k
  | _, _ => True

theorem connAfter_ticket {i : Nat} {conn : PublicConn} {id : String}
    (h : (φ.connAfter σ i conn).ticket = some id) :
    φ = .ticket i id ∨ conn.ticket = some id := by
  cases φ with
  | ticket j id' =>
      simp only [Effect.connAfter, Effect.issues] at h
      split at h
      · rename_i hij
        cases h
        exact .inl (by rw [hij])
      · exact .inr h
  | _ => exact .inr h

theorem connAfter_result {i k : Nat} {conn : PublicConn}
    (h : (φ.connAfter σ i conn).future = .result k) :
    φ = .pair i k ∨ conn.future = .result k := by
  simp only [Effect.connAfter] at h
  split at h
  · rename_i hmem
    cases φ with
    | pair j k' =>
        cases h
        rw [List.mem_singleton.mp hmem.1]
        exact .inl rfl
    | _ => cases h
  · exact .inr h

/-- A resolved future stays as it is. -/
theorem connAfter_done {i : Nat} {conn : PublicConn} (h : conn.future.done = true) :
    (φ.connAfter σ i conn).future = conn.future := by
  simp [Effect.connAfter, h]

/-! ## Steps keep it -/

/-- A tunnel id is generated for a connection that has none. -/
theorem TicketOk.no_ticket {h : Nat} {conn : PublicConn} (hp : TicketOk σ t p)
    (hs : ServerStep srv σ t p seg) {id : String} (hφ : seg.effect = .ticket h id)
    (hc : σ.conns.get? h = some conn) : conn.ticket = none := by
  obtain ⟨rfl, rfl, -⟩ := hs.issues hφ
  obtain ⟨conn', hc', hnone, -⟩ := hp
  rw [hc, Option.some.injEq] at hc'
  rw [hc']
  exact hnone (.inr rfl)

/-- The tunnel id of a connection does not change. -/
theorem TicketOk.ticket_kept {h : Nat} {conn : PublicConn} {id : String}
    (hp : TicketOk σ t p) (hs : ServerStep srv σ t p seg) (hc : σ.conns.get? h = some conn)
    (ht : conn.ticket = some id) :
    (seg.effect.connAfter σ h conn).ticket = some id := by
  cases hφ : seg.effect with
  | ticket h' id' =>
      simp only [Effect.connAfter, Effect.issues]
      split
      · rename_i heq
        subst heq
        rw [hp.no_ticket hs hφ hc] at ht
        cases ht
      · exact ht
  | _ => exact ht

theorem TunnelsOk.issued_apply (hI : TunnelsOk σ) :
    ∀ h conn id, (seg.effect.apply σ).conns.get? h = some conn → conn.ticket = some id →
      id ∈ (seg.effect.apply σ).tickets := by
  intro h conn id hc ht
  rw [Effect.apply_tickets]
  rcases Effect.of_conns hc with ⟨conn₀, hc₀, rfl⟩ | ⟨⟨l, name, hφ, rfl⟩, -⟩
  · rcases connAfter_ticket ht with hφ | ht
    · rw [hφ]
      exact .head _
    · have hold := hI.issued h conn₀ id hc₀ ht
      split
      · exact .tail _ hold
      · exact hold
  · cases ht

theorem TunnelsOk.unique_apply (hI : TunnelsOk σ) (hs : ServerStep srv σ t p seg) :
    ∀ h₁ h₂ conn₁ conn₂ id, (seg.effect.apply σ).conns.get? h₁ = some conn₁ →
      (seg.effect.apply σ).conns.get? h₂ = some conn₂ → conn₁.ticket = some id →
      conn₂.ticket = some id → h₁ = h₂ := by
  have hcase : ∀ {h : Nat} {conn : PublicConn} {id : String},
      (seg.effect.apply σ).conns.get? h = some conn → conn.ticket = some id →
        (seg.effect = .ticket h id ∧ id ∉ σ.tickets) ∨
          ∃ conn₀, σ.conns.get? h = some conn₀ ∧ conn₀.ticket = some id := by
    intro h conn id hc ht
    rcases Effect.of_conns hc with ⟨conn₀, hc₀, rfl⟩ | ⟨⟨l, name, hφ, rfl⟩, -⟩
    · rcases connAfter_ticket ht with hφ | ht
      · exact .inl ⟨hφ, (hs.issues hφ).2.2.1⟩
      · exact .inr ⟨conn₀, hc₀, ht⟩
    · cases ht
  intro h₁ h₂ conn₁ conn₂ id hc₁ hc₂ ht₁ ht₂
  rcases hcase hc₁ ht₁ with ⟨hφ₁, hnew₁⟩ | ⟨conn₁', hc₁', ht₁'⟩ <;>
    rcases hcase hc₂ ht₂ with ⟨hφ₂, hnew₂⟩ | ⟨conn₂', hc₂', ht₂'⟩
  · rw [hφ₁] at hφ₂
    cases hφ₂
    rfl
  · exact absurd (hI.issued _ _ _ hc₂' ht₂') hnew₁
  · exact absurd (hI.issued _ _ _ hc₁' ht₁') hnew₂
  · exact hI.unique _ _ _ _ _ hc₁' hc₂' ht₁' ht₂'

theorem TunnelsOk.pending_apply (hI : TunnelsOk σ) (hs : ServerStep srv σ t p seg)
    (hp : TicketOk σ t p) :
    ∀ k r, (seg.effect.apply σ).pending.get? k = some r →
      r.id = k ∧ ∃ conn, (seg.effect.apply σ).conns.get? r.conn = some conn ∧
        conn.ticket = some k ∧ conn.serviceName = r.serviceName := by
  intro k r hk
  rcases Effect.of_pending hk with ⟨hφ, rfl⟩ | ⟨hk, -⟩
  · obtain ⟨h, conn, service, id, rfl, rfl, hc, rfl, -⟩ := hs.pends hφ
    obtain ⟨conn', hc', -, hlocals, -⟩ := hp
    rw [hc, Option.some.injEq] at hc'
    subst hc'
    refine ⟨rfl, _, Effect.conns_of_get? hc, ?_, rfl⟩
    rw [hφ]
    exact hlocals service id rfl
  · obtain ⟨hid, conn, hc, ht, hname⟩ := hI.pending k r hk
    exact ⟨hid, _, Effect.conns_of_get? hc, hp.ticket_kept hs hc ht, hname⟩

theorem TunnelsOk.paired_apply (hI : TunnelsOk σ) (hs : ServerStep srv σ t p seg)
    (hp : TicketOk σ t p) :
    ∀ h₁ h₂ conn₁ conn₂ k, (seg.effect.apply σ).conns.get? h₁ = some conn₁ →
      (seg.effect.apply σ).conns.get? h₂ = some conn₂ → conn₁.future = .result k →
      conn₂.future = .result k → h₁ = h₂ := by
  have hcase : ∀ {h k : Nat} {conn : PublicConn},
      (seg.effect.apply σ).conns.get? h = some conn → conn.future = .result k →
        (seg.effect = .pair h k ∧ ∀ h' conn', σ.conns.get? h' = some conn' →
          conn'.future ≠ .result k) ∨
          ∃ conn₀, σ.conns.get? h = some conn₀ ∧ conn₀.future = .result k := by
    intro h k conn hc hf
    rcases Effect.of_conns hc with ⟨conn₀, hc₀, rfl⟩ | ⟨⟨l, name, hφ, rfl⟩, -⟩
    · rcases connAfter_result hf with hφ | hf
      · obtain ⟨rfl, -, message, rfl, -⟩ := hs.pairs hφ
        exact .inl ⟨hφ, hp nofun⟩
      · exact .inr ⟨conn₀, hc₀, hf⟩
    · cases hf
  intro h₁ h₂ conn₁ conn₂ k hc₁ hc₂ hf₁ hf₂
  rcases hcase hc₁ hf₁ with ⟨hφ₁, hnew₁⟩ | ⟨conn₁', hc₁', hf₁'⟩ <;>
    rcases hcase hc₂ hf₂ with ⟨hφ₂, hnew₂⟩ | ⟨conn₂', hc₂', hf₂'⟩
  · rw [hφ₁] at hφ₂
    cases hφ₂
    rfl
  · exact absurd hf₂' (hnew₁ _ _ hc₂')
  · exact absurd hf₁' (hnew₂ _ _ hc₁')
  · exact hI.paired _ _ _ _ _ hc₁' hc₂' hf₁' hf₂'

theorem TunnelsOk.accepted_apply (hI : TunnelsOk σ) (hs : ServerStep srv σ t p seg) :
    ∀ h conn, (seg.effect.apply σ).conns.get? h = some conn →
      ∃ x, (seg.effect.apply σ).listeners.get? conn.listener = some x ∧
        x.callback = conn.serviceName := by
  intro h conn hc
  rcases Effect.of_conns hc with ⟨conn₀, hc₀, rfl⟩ | ⟨⟨l, name, hφ, rfl⟩, -⟩
  · obtain ⟨x, hx, hname⟩ := hI.accepted h conn₀ hc₀
    exact ⟨_, Effect.listeners_of_get? hx, hname⟩
  · obtain ⟨-, x, hx, -, hname⟩ := hs.accepts hφ
    exact ⟨_, Effect.listeners_of_get? hx, hname⟩

theorem TunnelsOk.apply (hI : TunnelsOk σ) (hs : ServerStep srv σ t p seg)
    (hp : TicketOk σ t p) : TunnelsOk (seg.effect.apply σ) :=
  ⟨hI.accepted_apply hs, hI.issued_apply, hI.unique_apply hs, hI.pending_apply hs hp,
    hI.paired_apply hs hp⟩

/-- The assertion of another task is not interfered with. -/
theorem TicketOk.spared {u : TaskId} {p' : Point} (hu : TicketOk σ u p') (hne : u ≠ t)
    (hp : TicketOk σ t p) (hs : ServerStep srv σ t p seg) :
    TicketOk (seg.effect.apply σ) u p' := by
  cases u with
  | control c => trivial
  | pub h =>
      cases p' with
      | pub p' =>
          obtain ⟨conn, hc, hnone, hlocals, htunnel⟩ := hu
          refine ⟨_, Effect.conns_of_get? hc, fun hpt => ?_, fun service id hl => ?_,
            fun k hk => ?_⟩
          · -- only the task itself generates its tunnel id
            rw [Option.eq_none_iff_forall_ne_some]
            intro id ht
            rcases connAfter_ticket ht with hφ | ht
            · exact hne (hs.issues hφ).1.symm
            · rw [hnone hpt] at ht
              cases ht
          · exact hp.ticket_kept hs hc (hlocals service id hl)
          · have hf := htunnel k hk
            rw [connAfter_done (by rw [hf]; rfl), hf]
      | _ => trivial
  | tunnel k =>
      intro hfin h conn hc hf
      rcases Effect.of_conns hc with ⟨conn₀, hc₀, rfl⟩ | ⟨⟨l, name, hφ, rfl⟩, -⟩
      · rcases connAfter_result hf with hφ | hf
        · exact hne (hs.pairs hφ).1.symm
        · exact hu hfin h conn₀ hc₀ hf
      · cases hf

theorem PublicStep.ticketOk {h : Nat} {conn : PublicConn} {p : PublicPoint}
    {seg : Segment LockId Effect PublicPoint} (hs : PublicStep σ h conn p seg)
    (hc : σ.conns.get? h = some conn) (hp : TicketOk σ (.pub h) (.pub p)) :
    TicketOk (seg.effect.apply σ) (.pub h) (.pub seg.next) := by
  obtain ⟨conn', hc', hnone, hlocals, htunnel⟩ := hp
  rw [hc, Option.some.injEq] at hc'
  subst hc'
  cases hs with
  | accepted =>
      refine ⟨conn, hc, fun _ => hnone (.inl rfl), ?_, ?_⟩ <;>
        simp [PublicPoint.locals, PublicPoint.tunnel]
  | miss =>
      refine ⟨_, Effect.conns_of_get? hc, ?_, ?_, ?_⟩ <;>
        simp [PublicPoint.locals, PublicPoint.tunnel]
  | found hservice hid =>
      refine ⟨_, Effect.conns_of_get? hc, by simp, ?_, by simp [PublicPoint.tunnel]⟩
      intro service id heq
      cases heq
      simp [Effect.connAfter, Effect.issues]
  | insert => exact ⟨_, Effect.conns_of_get? hc, by simp, hlocals, by simp [PublicPoint.tunnel]⟩
  | sendOpen => exact ⟨_, Effect.conns_of_get? hc, by simp, hlocals, by simp [PublicPoint.tunnel]⟩
  | opened => exact ⟨conn, hc, by simp, hlocals, by simp [PublicPoint.tunnel]⟩
  | openFailed => exact ⟨conn, hc, by simp, hlocals, by simp [PublicPoint.tunnel]⟩
  | paired hf =>
      refine ⟨conn, hc, by simp, hlocals, ?_⟩
      intro k heq
      cases heq
      exact hf
  | disconnected hf => exact ⟨conn, hc, by simp, hlocals, by simp [PublicPoint.tunnel]⟩
  | timeout => exact ⟨_, Effect.conns_of_get? hc, by simp, hlocals, by simp [PublicPoint.tunnel]⟩
  | relayEnd =>
      refine ⟨_, Effect.conns_of_get? hc, by simp, hlocals, fun k hk => ?_⟩
      rw [connAfter_done (by rw [htunnel k hk]; rfl), htunnel k hk]
  | relayed => exact ⟨conn, hc, by simp, hlocals, htunnel⟩
  | cleanup =>
      refine ⟨_, Effect.conns_of_get? hc, by simp, by simp [PublicPoint.locals], fun k hk => ?_⟩
      rw [connAfter_done (by rw [htunnel k hk]; rfl), htunnel k hk]
  | closeTunnel =>
      refine ⟨_, Effect.conns_of_get? hc, ?_, ?_, ?_⟩ <;>
        simp [PublicPoint.locals, PublicPoint.tunnel]
  | close =>
      refine ⟨conn, hc, ?_, ?_, ?_⟩ <;> simp [PublicPoint.locals, PublicPoint.tunnel]

/-- A step establishes the assertion of the point its task comes to. -/
theorem ServerStep.ticketOk (hs : ServerStep srv σ t p seg) (hp : TicketOk σ t p) :
    TicketOk (seg.effect.apply σ) t seg.next := by
  cases hs with
  | connect hnow => trivial
  | control hs => trivial
  | @accept l listener hl ho =>
      refine ⟨⟨l, listener.callback, none, .unresolved, false⟩, ?_, fun _ => rfl, nofun, nofun⟩
      exact (Heap.get?_alloc _ _ _).trans (if_pos rfl)
  | pub hc hs => exact hs.ticketOk hc hp
  | connectTunnel message => exact fun _ => hp nofun
  | tunnel hs =>
      cases hs with
      | pair hm => exact fun h => absurd rfl h
      | reject hm => exact fun _ => hp nofun
      | refuse => exact fun h => absurd rfl h

theorem tunnelOutline (srv : Server) (C : State → Action → Prop) :
    (program srv).Outline .initial .start Point.holds C TunnelsOk TicketOk where
  initial := by
    constructor
    · intro h conn heq
      cases heq
    · intro h conn id heq
      cases heq
    · intro h₁ h₂ conn₁ conn₂ id heq
      cases heq
    · intro k r heq
      cases heq
    · intro h₁ h₂ conn₁ conn₂ k heq
      cases heq
  starts t := by
    cases t with
    | tunnel k => exact fun _ h conn hc => absurd hc nofun
    | _ => trivial
  keeps {s t e seg} hat hI hA := hI.apply (serverSegment_cases hat.segment) (hA t)
  establishes {s t e seg} hat hI hA := (serverSegment_cases hat.segment).ticketOk (hA t)
  spares {s t e seg u} hat hI hA hne :=
    (hA u).spared hne (hA t) (serverSegment_cases hat.segment)

theorem tunnels {s : State} (h : (system srv).ReachableUnder C s) :
    TunnelsOk s.store ∧ ∀ t, TicketOk s.store t (s.point t) :=
  (tunnelOutline srv C).sound (discipline srv) h

/-- A step that sends an `open` is the one of a public task. -/
theorem opens_step {s s' : State} {a : Action} {id name : String}
    (hs : (system srv).step s a = some s')
    (hsent : s'.store.sent = s.store.sent ++ [(c, .openTunnel id name)]) :
    ∃ h conn service, a.1 = .pub h ∧ s.point (.pub h) = .pub (.sendOpen service id) ∧
      service.client = c ∧ s.store.conns.get? h = some conn ∧ conn.serviceName = name := by
  obtain ⟨t, e⟩ := a
  obtain ⟨-, seg, hseg, rfl⟩ := Program.step_eq_some.mp hs
  rw [Program.commit_store] at hsent
  have hsent : (seg.effect.apply s.store).sent = _ := hsent
  have hφ : seg.effect = .send c (.openTunnel id name) := by
    rw [Effect.apply_sent] at hsent
    split at hsent
    · rename_i c' m hφ
      have hlast := List.append_cancel_left hsent
      simp only [List.cons.injEq, Prod.mk.injEq, and_true] at hlast
      rw [hφ, hlast.1, hlast.2]
    · exact absurd hsent (by simp)
  obtain ⟨h, conn, service, rfl, hp, hc, hconn, hname, -⟩ := (serverSegment_cases hseg).opens hφ
  exact ⟨h, conn, service, rfl, hp, hc, hconn, hname⟩

end PyFrp
