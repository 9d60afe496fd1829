import PyFrp.Server.Tunnels

/-!
# Clients the server has given up

A client is gone once `_remove_client` has passed its critical section for it,
or once a forced registration has evicted it. The module is about what is left
of such a client: its services, its pending records and the public users that
wait for it.
-/

namespace PyFrp

open Python Coop Store

variable {srv : Server} {σ : Store} {φ : Effect} {c : ClientId} {C : State → Action → Prop}
variable {t : TaskId} {p : Point} {seg : Segment LockId Effect Point}

/-- The server has given `c` up. -/
def Store.Gone (σ : Store) (c : ClientId) : Prop := c ∈ σ.removed ∨ c ∈ σ.preempted

/-- The step of task `t` in `s` is a critical section that purges `c`: the one of
`_remove_client`, or the eviction in `_register_pool_service`. -/
def Purging (s : State) (c : ClientId) : TaskId → Prop
  | .control c' =>
      match s.point (.control c') with
      | .control .leave => c = c'
      | .control (.poolScan p none scan) =>
          scan.ports = [] ∧ ∃ v, s.store.selectVictim c' p.item.priority p.request.force
            scan.lastError = .ok v ∧ v.client = c
      | _ => False
  | _ => False

theorem Purging.point {s : State} (h : Purging s c t) :
    s.point t = .control .leave ∨ ∃ p scan, s.point t = .control (.poolScan p none scan) := by
  cases t with
  | control c' =>
      simp only [Purging] at h
      split at h
      · rename_i hp
        exact .inl hp
      · rename_i q scan hp
        exact .inr ⟨q, scan, hp⟩
      · exact h.elim
  | _ => exact h.elim

/-! ## Removed clients have no services -/

theorem ServerStep.removes {c : ClientId} (hs : ServerStep srv σ t p seg)
    (hφ : seg.effect = .removeClient c) :
    t = .control c ∧ p = .control .leave ∧ seg.next = .control (.left (σ.servicesOf c)) := by
  obtain ⟨c', p', seg', rfl, rfl, rfl, hcall⟩ := hs.ofCall (by rw [hφ]; rfl)
  cases hcall with
  | leave =>
      cases hφ
      exact ⟨rfl, rfl, rfl⟩
  | session hp hn hq hs hg hφ' => exact absurd hφ (hφ'.ne rfl)
  | _ => cases hφ

theorem ServerStep.evicts {v : Victim} (hs : ServerStep srv σ t p seg)
    (hφ : seg.effect = .evict v) :
    ∃ c q scan, t = .control c ∧ p = .control (.poolScan q none scan) ∧ scan.ports = [] ∧
      σ.selectVictim c q.item.priority q.request.force scan.lastError = .ok v ∧
      seg.next = .control (.poolEvict q v) := by
  obtain ⟨c, p', seg', rfl, rfl, rfl, hcall⟩ := hs.ofCall (by rw [hφ]; rfl)
  cases hcall with
  | poolEvict hp hv =>
      cases hφ
      exact ⟨_, _, _, rfl, rfl, hp, hv, rfl⟩
  | session hp hn hq hs hg hφ' => exact absurd hφ (hφ'.ne rfl)
  | _ => cases hφ

/-- No service of a removed client is left. -/
def RemovedOk (σ : Store) : Prop :=
  ∀ c ∈ σ.removed, ∀ k r, σ.services.get? k = some r → r.client ≠ c

/-- A client is removed just if its task is past the critical section. -/
def LeftOk (σ : Store) : TaskId → Point → Prop
  | .control c, p => c ∈ σ.removed → ∃ p', p = .control p' ∧ p'.gone = true
  | _, _ => True

theorem ControlStep.gone {p : ControlPoint} {seg : Segment LockId Effect ControlPoint}
    (hs : ControlStep srv σ c p seg) (hp : p.gone = true) :
    seg.next.gone = true ∧ ∀ r, seg.effect ≠ .register r := by
  cases hs with
  | session hp' hn hq hs hg hφ => exact ⟨hg.trans hp, fun r => hφ.ne rfl⟩
  | begin hp' hg hq hm =>
      rw [hp] at hg
      cases hg
  | _ => cases hp

theorem mem_removed_apply (hs : ServerStep srv σ t p seg)
    (hc : c ∈ (seg.effect.apply σ).removed) :
    c ∈ σ.removed ∨ (seg.effect = .removeClient c ∧ t = .control c) := by
  rw [Effect.apply_removed] at hc
  split at hc
  · rename_i c' hφ
    rcases List.mem_cons.mp hc with rfl | hc
    · exact .inr ⟨hφ, (hs.removes hφ).1⟩
    · exact .inl hc
  · exact .inl hc

theorem removedOutline (srv : Server) (C : State → Action → Prop) :
    (program srv).Outline .initial .start Point.holds C RemovedOk LeftOk where
  initial := fun c hc => absurd hc List.not_mem_nil
  starts t := by
    cases t with
    | control c => exact fun hc => absurd hc List.not_mem_nil
    | _ => trivial
  keeps {s t e seg} hat hI hA := by
    intro c hc k r hk
    have hs := serverSegment_cases hat.segment
    have hrec := records hat.run
    rcases Effect.of_services hk with ⟨hφ, rfl⟩ | ⟨hk, hnot, -⟩
    · -- a removed client registers nothing
      rintro rfl
      obtain ⟨c, raw, rfl, ho⟩ := hs.registers (hrec.2 _) hφ
      have hc' : r.client ∈ s.store.removed := by
        rcases mem_removed_apply hs hc with hc | ⟨hφ', -⟩
        · exact hc
        · rw [hφ] at hφ'
          cases hφ'
      rw [ho.made.client] at hc'
      obtain ⟨p, hp, hgone⟩ := hA (.control c) hc'
      rw [hp] at hs
      cases hs with
      | control hs => exact (hs.gone hgone).2 r hφ
    · rcases mem_removed_apply hs hc with hc | ⟨hφ, -⟩
      · exact hI c hc k r hk
      · -- the critical section pops every service of `c`
        rintro rfl
        refine hnot ?_
        rw [hφ, ← (hrec.1 k r hk).1]
        exact List.mem_map_of_mem (mem_servicesOf.mpr ⟨⟨k, hk⟩, rfl⟩)
  establishes {s t e seg} hat hI hA := by
    have hs := serverSegment_cases hat.segment
    cases t with
    | control c =>
        intro hc
        rcases mem_removed_apply hs hc with hc | ⟨hφ, -⟩
        · obtain ⟨p, hp, hgone⟩ := hA (.control c) hc
          rw [hp] at hs
          cases hs with
          | control hs => exact ⟨_, rfl, (hs.gone hgone).1⟩
        · exact ⟨_, (hs.removes hφ).2.2, rfl⟩
    | _ => trivial
  spares {s t e seg u} hat hI hA hne := by
    have hs := serverSegment_cases hat.segment
    cases u with
    | control c =>
        intro hc
        rcases mem_removed_apply hs hc with hc | ⟨-, rfl⟩
        · exact hA (.control c) hc
        · exact absurd rfl hne
    | _ => trivial

theorem removed {s : State} (h : (system srv).ReachableUnder C s) :
    RemovedOk s.store ∧ ∀ t, LeftOk s.store t (s.point t) :=
  (removedOutline srv C).sound (discipline srv) h

/-! ## No record is inserted for a client that is gone -/

/-- The step keeps away from the two ways in which a pending record comes late:
no critical section purges a client while a public task that has read one of
its services waits for the lock to insert its record, and no public task reads
a service that a client registered after it was evicted. -/
structure NoLateInsert (s : State) (a : Action) : Prop where
  insert : ∀ c, Purging s c a.1 → ∀ h service id,
    s.point (.pub h) = .pub (.insert service id) → service.client ≠ c
  lookup : ∀ h conn service, a.1 = .pub h → s.point (.pub h) = .pub .lookup →
    s.store.conns.get? h = some conn →
    s.store.services.get? conn.serviceName = some service →
    service.client ∉ s.store.preempted

/-- A step that gives a client up is in one of the two critical sections, and
pops all its pending records. -/
theorem gone_apply {s : State} (hs : ServerStep srv s.store t (s.point t) seg)
    (hc : (seg.effect.apply s.store).Gone c) :
    s.store.Gone c ∨
      (Purging s c t ∧ seg.effect.purges s.store = s.store.pendingOf c) := by
  rcases hc with hc | hc
  · rcases mem_removed_apply hs hc with hc | ⟨hφ, rfl⟩
    · exact .inl (.inl hc)
    · obtain ⟨-, hp, -⟩ := hs.removes hφ
      refine .inr ⟨?_, by rw [hφ]; rfl⟩
      simp only [Purging, hp]
  · rw [Effect.apply_preempted] at hc
    split at hc
    · rename_i v hφ
      rcases List.mem_cons.mp hc with rfl | hc
      · obtain ⟨c, q, scan, rfl, hp, hports, hv, -⟩ := hs.evicts hφ
        refine .inr ⟨?_, ?_⟩
        · simp only [Purging, hp]
          exact ⟨hports, v, hv, rfl⟩
        · rw [hφ]
          exact (selectVictim_ok hv).2
      · exact .inl (.inr hc)
    · exact .inl (.inr hc)

/-- No pending record belongs to a client that is gone. -/
def PendingKept (σ : Store) : Prop :=
  ∀ k r, σ.pending.get? k = some r → ¬ σ.Gone r.client

/-- A public task that is about to insert its record has a client that is not gone. -/
def InsertOk (σ : Store) : TaskId → Point → Prop
  | .pub _, .pub (.insert service _) => ¬ σ.Gone service.client
  | _, _ => True

theorem PublicStep.insertOk {h : Nat} {conn : PublicConn} {p : PublicPoint}
    {seg : Segment LockId Effect PublicPoint} (hs : PublicStep σ h conn p seg)
    (hl : p = .lookup → ∀ service, σ.services.get? conn.serviceName = some service →
      ¬ σ.Gone service.client) :
    InsertOk (seg.effect.apply σ) (.pub h) (.pub seg.next) := by
  cases hs with
  | found hservice hid => exact hl rfl _ hservice
  | _ => trivial

theorem insertOutline (srv : Server) {C : State → Action → Prop}
    (hC : ∀ s a, C s a → NoLateInsert s a) :
    (program srv).Outline .initial .start Point.holds C PendingKept InsertOk where
  initial := fun k r hk => by cases hk
  starts t := by cases t <;> trivial
  keeps {s t e seg} hat hI hA := by
    have hs := serverSegment_cases hat.segment
    intro k r hk hgone
    rcases Effect.of_pending hk with ⟨hφ, rfl⟩ | ⟨hk, hnot, -⟩
    · obtain ⟨h, conn, service, id, rfl, hp, hc, rfl, -⟩ := hs.pends hφ
      have hins := hA (.pub h)
      rw [hp] at hins
      rw [hφ] at hgone
      exact hins hgone
    · rcases gone_apply hs hgone with hgone | ⟨-, hpurge⟩
      · exact hI k r hk hgone
      · refine hnot ?_
        rw [hpurge, ← ((tunnels hat.run).1.pending k r hk).1]
        exact List.mem_map_of_mem (mem_pendingOf.mpr ⟨⟨k, hk⟩, rfl⟩)
  establishes {s t e seg} hat hI hA := by
    have hs := serverSegment_cases hat.segment
    have hlook := (hC _ _ hat.meets).lookup
    revert hs hlook
    generalize hp : s.point t = p
    intro hs hlook
    cases hs with
    | pub hc hs =>
        refine hs.insertOk ?_
        rintro rfl service hservice hgone
        rcases hgone with hgone | hgone
        · exact (removed hat.run).1 _ hgone _ _ hservice rfl
        · exact hlook _ _ _ rfl hp hc hservice hgone
    | _ => trivial
  spares {s t e seg u} hat hI hA hne := by
    have hs := serverSegment_cases hat.segment
    have hu := hA u
    have hins := (hC _ _ hat.meets).insert
    revert hu hins
    generalize hp : s.point u = p
    intro hu hins
    cases u with
    | pub h =>
        cases p with
        | pub p =>
            cases p with
            | insert service id =>
                intro hgone
                rcases gone_apply hs hgone with hgone | ⟨hpurge, -⟩
                · exact hu hgone
                · exact hins _ hpurge h service id hp rfl
            | _ => trivial
        | _ => trivial
    | _ => trivial

/-! ## Public users that wait for a client that is gone -/

/-- A public task between the insertion of its record and the end of its wait. -/
def PublicPoint.waiting : PublicPoint → Option (RegisteredService × String)
  | .sendOpen service id | .openSent service id | .waitTunnel service id => some (service, id)
  | _ => none

/-- A public task between the insertion of its record and the settlement of its future. -/
def PublicPoint.pends : PublicPoint → Option (RegisteredService × String)
  | .sendOpen service id | .openSent service id | .waitTunnel service id
  | .relay service id _ | .relayed service id _ | .cleanup service id _ => some (service, id)
  | _ => none

/-- The eviction whose pending records a control task has popped, while their
futures are not failed yet. -/
def ControlPoint.evicting : ControlPoint → Option Victim
  | .poolScan _ victim _ | .poolBind _ victim _ _ | .poolBound _ victim _ _ _ => victim
  | .poolEvict _ v => some v
  | .announce p => some p.victim
  | _ => none

/-- Client `c'` is evicting `c` and has still to fail the future of connection `h`. -/
def Evicting (s : State) (c' c : ClientId) (h : Nat) : Prop :=
  ∃ q v, s.point (.control c') = .control q ∧ q.evicting = some v ∧ v.client = c ∧
    ∃ r ∈ v.pending, r.conn = h

/-- The second scan of an eviction is not ended by an exception other than `OSError`. -/
def NoCrash (s : State) (a : Action) : Prop :=
  ∀ c q v scan port text, a = (.control c, .bind (.crash text)) →
    s.point (.control c) ≠ .control (.poolBind q (some v) scan port)

/-- A public task that waits on an unresolved future has its record in `_pending`,
unless its client is being evicted. -/
def WaitingOk (s : State) : Prop :=
  ∀ h q service id conn, s.point (.pub h) = .pub q → q.waiting = some (service, id) →
    s.store.conns.get? h = some conn → conn.future.done = false →
    (∃ r, s.store.pending.get? id = some r ∧ r.conn = h ∧ r.client = service.client) ∨
      ∃ c', Evicting s c' service.client h

/-- A public task whose future is unresolved after its record was inserted has the record
in `_pending`, unless its client is being evicted. -/
def PendsOk (s : State) : Prop :=
  ∀ h q service id conn, s.point (.pub h) = .pub q → q.pends = some (service, id) →
    s.store.conns.get? h = some conn → conn.future.done = false →
    (∃ r, s.store.pending.get? id = some r ∧ r.conn = h ∧ r.client = service.client) ∨
      ∃ c', Evicting s c' service.client h

theorem PublicPoint.pends_of_waiting {p : PublicPoint} {service : RegisteredService}
    {id : String} (h : p.waiting = some (service, id)) : p.pends = some (service, id) := by
  cases p <;> first | exact h | cases h

theorem PublicPoint.locals_of_pends {p : PublicPoint} {service : RegisteredService}
    {id : String} (h : p.pends = some (service, id)) : p.locals = some (service, id) := by
  cases p <;> first | exact h | cases h

theorem PendsOk.waiting {s : State} (h : PendsOk s) : WaitingOk s :=
  fun i q service id conn hp hw => h i q service id conn hp (PublicPoint.pends_of_waiting hw)

/-- The steps of a public task after which its record should be there. -/
theorem PublicStep.pends {h : Nat} {conn : PublicConn} {p : PublicPoint}
    {seg : Segment LockId Effect PublicPoint} {service : RegisteredService} {id : String}
    (hs : PublicStep σ h conn p seg) (hw : seg.next.pends = some (service, id)) :
    seg.effect = .pend (pendingTunnel conn.serviceName service id h) ∨
      (p.pends = some (service, id) ∧ (seg.effect.apply σ).pending = σ.pending) := by
  cases hs with
  | insert =>
      cases hw
      exact .inl rfl
  | accepted => cases hw
  | miss => cases hw
  | found => cases hw
  | cleanup => cases hw
  | closeTunnel => cases hw
  | close => cases hw
  | _ => exact .inr ⟨hw, rfl⟩

/-- An eviction goes on until the futures of its pending records are failed. -/
theorem controlSegment_evicting {p : ControlPoint} {e : Event} {v : Victim}
    {seg : Segment LockId Effect ControlPoint} (h : controlSegment srv σ c p e = some seg)
    (hv : p.evicting = some v)
    (hcrash : ∀ text q scan port, e = .bind (.crash text) → p ≠ .poolBind q (some v) scan port) :
    seg.next.evicting = some v ∨ seg.effect = .failPending v.pending := by
  revert h hv hcrash
  fun_cases controlSegment srv σ c p e
  all_goals rintro ⟨⟩ hv hcrash
  all_goals first
    | (cases hv; done)
    | exact .inl hv
    | (cases hv; exact .inr rfl)
    | (cases hv; exact absurd rfl (hcrash _ _ _ _ rfl))

theorem ServerStep.settles {h : Nat} {id : String} (hs : ServerStep srv σ t p seg)
    (hφ : seg.effect = .settle h id) : t = .pub h := by
  cases hs with
  | control hs => exact absurd hφ (hs.effect_ne rfl)
  | pub hc hs => cases hs <;> first | (cases hφ; rfl) | cases hφ
  | tunnel hs => cases hs <;> cases hφ
  | _ => cases hφ

/-- What becomes of the record of a waiting task in a step of another task: it
stays, or its client is given up. -/
theorem pending_of_other {s : State} {h : Nat} {id : String} {r : PendingTunnel}
    {conn : PublicConn} (hs : ServerStep srv s.store t (s.point t) seg)
    (hI : TunnelsOk s.store) (hp : TicketOk s.store t (s.point t)) (ht : t ≠ .pub h)
    (hc : s.store.conns.get? h = some conn) (hid : conn.ticket = some id)
    (hr : s.store.pending.get? id = some r) (hrc : r.conn = h) :
    (seg.effect.apply s.store).pending.get? id = some r ∨ r ∈ seg.effect.purges s.store := by
  by_cases hmem : id ∈ (seg.effect.purges s.store).map PendingTunnel.id
  · -- a purged id is the id of a record of the map, so of this one
    obtain ⟨r', hr', hid'⟩ := List.mem_map.mp hmem
    refine .inr ?_
    have hin : ∃ k, s.store.pending.get? k = some r' := by
      cases hφ : seg.effect with
      | evict v =>
          obtain ⟨c, q, scan, -, -, -, hv, -⟩ := hs.evicts hφ
          rw [hφ] at hr'
          have hr' : r' ∈ v.pending := hr'
          rw [(selectVictim_ok hv).2] at hr'
          exact (mem_pendingOf.mp hr').1
      | removeClient c =>
          rw [hφ] at hr'
          exact (mem_pendingOf.mp hr').1
      | _ =>
          rw [hφ] at hr'
          cases hr'
    obtain ⟨k, hk⟩ := hin
    rw [← (hI.pending k r' hk).1, hid', hr, Option.some.injEq] at hk
    rw [hk]
    exact hr'
  · refine .inl (Effect.pending_of_get? hr hmem (fun r' hφ heq => ?_) fun i hφ heq => ?_)
    · obtain ⟨h', conn', service, id', rfl, hp', hc', rfl, -⟩ := hs.pends hφ
      rw [hp'] at hp
      obtain ⟨conn'', hc'', -, hlocals, -⟩ := hp
      have heq : id = id' := heq
      have hh := hI.unique h h' conn conn'' id hc hc'' hid (heq ▸ hlocals service id' rfl)
      exact ht (by rw [hh])
    · have := hs.settles hφ
      rw [← heq, hrc] at this
      exact ht this

/-- A future that an effect resolves is done afterwards. -/
theorem connAfter_resolved {h : Nat} {conn : PublicConn} (hmem : h ∈ (φ.resolves σ).1) :
    (φ.connAfter σ h conn).future.done = true := by
  cases hd : conn.future.done with
  | true => rw [connAfter_done hd, hd]
  | false =>
      simp only [Effect.connAfter, hmem, hd, and_self, if_true]
      cases φ <;> first | rfl | cases hmem

/-- An eviction is still under way after a step of another task. -/
theorem Evicting.other {s s' : State} {c' : ClientId} {h : Nat} (hev : Evicting s c' c h)
    (hpoint : s'.point = Function.update s.point t p) (ht : t ≠ .control c') :
    Evicting s' c' c h := by
  obtain ⟨q, v, hq, hrest⟩ := hev
  exact ⟨q, v, by rw [hpoint, Function.update_of_ne ht.symm, hq], hrest⟩

/-- An unresolved future was unresolved before the step. -/
theorem not_done_before {h : Nat} {conn conn₀ : PublicConn} (hc₀ : σ.conns.get? h = some conn₀)
    (hc : (φ.apply σ).conns.get? h = some conn) (hf : conn.future.done = false) :
    conn = φ.connAfter σ h conn₀ ∧ conn₀.future.done = false := by
  have heq : conn = φ.connAfter σ h conn₀ :=
    Option.some.inj (hc.symm.trans (Effect.conns_of_get? hc₀))
  refine ⟨heq, ?_⟩
  cases hd : conn₀.future.done with
  | false => rfl
  | true =>
      rw [heq, connAfter_done hd, hd] at hf
      cases hf

theorem pends_own {s s' : State} {h : Nat} {q : PublicPoint} {service : RegisteredService}
    {id : String} {conn : PublicConn} (hs : ServerStep srv s.store (.pub h) p seg)
    (hpoint : s'.point = Function.update s.point (.pub h) seg.next)
    (hp : s.point (.pub h) = p) (hP : PendsOk s) (hq : seg.next = .pub q)
    (hw : q.pends = some (service, id))
    (hc : (seg.effect.apply s.store).conns.get? h = some conn) (hf : conn.future.done = false) :
    (∃ r, (seg.effect.apply s.store).pending.get? id = some r ∧ r.conn = h ∧
        r.client = service.client) ∨ ∃ c', Evicting s' c' service.client h := by
  cases hs with
  | accept hl ho =>
      cases hq
      cases hw
  | @pub _ conn₀ _ _ hc₀ hs =>
      cases hq
      rcases hs.pends hw with hφ | ⟨hw₀, hpend⟩
      · refine .inl ⟨pendingTunnel conn₀.serviceName service id h, ?_, rfl, rfl⟩
        rw [Effect.apply_pending, Segment.lift_effect, hφ]
        exact (Dict.get?_set _ _ _ _).trans (if_pos rfl)
      · obtain ⟨-, hf₀⟩ := not_done_before hc₀ hc hf
        rcases hP h _ service id conn₀ hp hw₀ hc₀ hf₀ with ⟨r, hr, hrest⟩ | ⟨c', hev⟩
        · exact .inl ⟨r, (congrArg (fun d => d.get? id) hpend).trans hr, hrest⟩
        · exact .inr ⟨c', hev.other hpoint nofun⟩

/-- The step of a task, read off the store and the points before and after it. -/
theorem PendsOk.step {s s' : State} {e : Event} (hP : PendsOk s) (hI : TunnelsOk s.store)
    (hA : ∀ u, TicketOk s.store u (s.point u)) (hcrash : NoCrash s (t, e))
    (hseg : serverSegment srv s.store t (s.point t) e = some seg)
    (hstore : s'.store = seg.effect.apply s.store)
    (hpoint : s'.point = Function.update s.point t seg.next) : PendsOk s' := by
  have hs := serverSegment_cases hseg
  intro h q service id conn hp hw hconn hf
  rw [hstore] at hconn ⊢
  rw [hpoint] at hp
  by_cases ht : t = .pub h
  · subst ht
    rw [Function.update_self] at hp
    exact pends_own hs hpoint rfl hP hp hw hconn hf
  · rw [Function.update_of_ne (Ne.symm ht)] at hp
    obtain ⟨conn₀, hconn₀, -, hlocals, -⟩ : TicketOk s.store (.pub h) (.pub q) := by
      rw [← hp]
      exact hA _
    have hid := hlocals service id (PublicPoint.locals_of_pends hw)
    obtain ⟨heq, hf₀⟩ := not_done_before hconn₀ hconn hf
    rcases hP h q service id conn₀ hp hw hconn₀ hf₀ with ⟨r, hr, hrc, hrs⟩ | ⟨c', hev⟩
    · rcases pending_of_other hs hI (hA t) ht hconn₀ hid hr hrc with hr | hpurge
      · exact .inl ⟨r, hr, hrc, hrs⟩
      · cases hφ : seg.effect with
        | evict v =>
            obtain ⟨c', q', scan, rfl, -, -, hv, hnext⟩ := hs.evicts hφ
            rw [hφ] at hpurge
            have hrv : r ∈ v.pending := hpurge
            have hrv' := hrv
            rw [(selectVictim_ok hv).2] at hrv'
            refine .inr ⟨c', .poolEvict q' v, v, ?_, rfl, ?_, r, hrv, hrc⟩
            · rw [hpoint, Function.update_self, hnext]
            · rw [← hrs, (mem_pendingOf.mp hrv').2]
        | removeClient c' =>
            -- the future of a removed client's record is failed at once
            rw [hφ] at hpurge
            have hmem : h ∈ (seg.effect.resolves s.store).1 := by
              rw [hφ, ← hrc]
              exact List.mem_map_of_mem hpurge
            rw [heq, connAfter_resolved hmem] at hf
            cases hf
        | _ =>
            rw [hφ] at hpurge
            cases hpurge
    · by_cases htc : t = .control c'
      · subst htc
        obtain ⟨q', v, hq', hv, hvc, hmem⟩ := hev
        rw [hq'] at hseg
        obtain ⟨seg', hseg', rfl⟩ := Option.map_eq_some_iff.mp hseg
        have hcr : ∀ text q'' scan port, e = .bind (.crash text) →
            q' ≠ .poolBind q'' (some v) scan port := by
          rintro text q'' scan port rfl rfl
          exact hcrash c' q'' v scan port text rfl hq'
        rcases controlSegment_evicting hseg' hv hcr with hnext | hfail
        · refine .inr ⟨c', seg'.next, v, ?_, hnext, hvc, hmem⟩
          rw [hpoint, Function.update_self]
          rfl
        · obtain ⟨r, hr, hrc⟩ := hmem
          have hmem' : h ∈ ((seg'.lift Point.control).effect.resolves s.store).1 := by
            rw [Segment.lift_effect, hfail, ← hrc]
            exact List.mem_map_of_mem hr
          rw [heq, connAfter_resolved hmem'] at hf
          cases hf
      · exact .inr ⟨c', hev.other hpoint htc⟩

theorem pends {s : State} (hC : ∀ s a, C s a → NoCrash s a)
    (h : (system srv).ReachableUnder C s) : PendsOk s := by
  refine h.invariant (P := PendsOk) (fun h q service id conn hp => ?_) ?_
  · cases hp
  · rintro s ⟨t, e⟩ s' hr hP hc hs
    obtain ⟨seg, hat, rfl⟩ := Program.At.of_step (discipline srv) hr hc hs
    obtain ⟨hI, hA⟩ := tunnels hr
    exact hP.step hI hA (hC s _ hc) hat.segment (Program.commit_store _ _ _)
      (Program.commit_point _ _ _)

theorem waiting {s : State} (hC : ∀ s a, C s a → NoCrash s a)
    (h : (system srv).ReachableUnder C s) : WaitingOk s :=
  (pends hC h).waiting

/-! ## Clients that are gone are left alone -/

/-- The step keeps away from late records, purges no client for which a public
task is about to send its `open`, and does not break an eviction off. -/
structure NoLateOpen (s : State) (a : Action) : Prop extends NoLateInsert s a where
  sendOpen : ∀ c, Purging s c a.1 → ∀ h service id,
    s.point (.pub h) = .pub (.sendOpen service id) → service.client ≠ c
  crash : NoCrash s a

/-- A public task that is about to send its `open` has a client that is not gone. -/
def SendOk (σ : Store) : TaskId → Point → Prop
  | .pub _, .pub (.sendOpen service _) => ¬ σ.Gone service.client
  | _, _ => True

theorem lateInsert {s : State} (hC : ∀ s a, C s a → NoLateInsert s a)
    (h : (system srv).ReachableUnder C s) :
    PendingKept s.store ∧ ∀ t, InsertOk s.store t (s.point t) :=
  (insertOutline srv hC).sound (discipline srv) h

theorem sendOutline (srv : Server) :
    (program srv).Outline .initial .start Point.holds NoLateOpen (fun _ => True) SendOk where
  initial := trivial
  starts t := by cases t <;> trivial
  keeps _ _ _ := trivial
  establishes {s t e seg} hat hI hA := by
    have hs := serverSegment_cases hat.segment
    have hins := (lateInsert (fun _ _ h => h.toNoLateInsert) hat.run).2 t
    revert hs hins
    generalize s.point t = p
    intro hs hins
    cases hs with
    | pub hc hs =>
        cases hs with
        | insert => exact hins
        | _ => trivial
    | _ => trivial
  spares {s t e seg u} hat hI hA hne := by
    have hs := serverSegment_cases hat.segment
    have hu := hA u
    have hsend := hat.meets.sendOpen
    revert hu hsend
    generalize hp : s.point u = p
    intro hu hsend
    cases u with
    | pub h =>
        cases p with
        | pub p =>
            cases p with
            | sendOpen service id =>
                intro hgone
                rcases gone_apply hs hgone with hgone | ⟨hpurge, -⟩
                · exact hu hgone
                · exact hsend _ hpurge h service id hp rfl
            | _ => trivial
        | _ => trivial
    | _ => trivial

/-- **Clients that are gone own nothing.** In a run that keeps away from late
records, a client that is gone has no pending record, is asked to open no
tunnel, and no public user waits for it, except while its eviction is still
under way. -/
theorem gone_left_alone (srv : Server) {s : State}
    (h : (system srv).ReachableUnder NoLateOpen s) {c : ClientId} (hc : s.store.Gone c) :
    (∀ k r, s.store.pending.get? k = some r → r.client ≠ c) ∧
    (∀ a s' id name, (system srv).step s a = some s' →
      s'.store.sent ≠ s.store.sent ++ [(c, .openTunnel id name)]) ∧
    (∀ h q service id conn, s.point (.pub h) = .pub q → q.waiting = some (service, id) →
      service.client = c → s.store.conns.get? h = some conn →
      conn.future.done = true ∨ ∃ c', Evicting s c' c h) := by
  have hpend := (lateInsert (fun _ _ h => h.toNoLateInsert) h).1
  refine ⟨?_, ?_, ?_⟩
  · rintro k r hk rfl
    exact hpend k r hk hc
  · intro a s' id name hstep hsent
    obtain ⟨h', conn, service, -, hp, rfl, -⟩ := opens_step hstep hsent
    have hsend := ((sendOutline srv).sound (discipline srv) h).2 (.pub h')
    rw [hp] at hsend
    exact hsend hc
  · rintro h' q service id conn hp hw rfl hconn
    cases hd : conn.future.done with
    | true => exact .inl rfl
    | false =>
        rcases waiting (fun _ _ h => h.crash) h h' q service id conn hp hw hconn hd with
          ⟨r, hr, -, hrs⟩ | hev
        · exact absurd (hrs ▸ hc) (hpend id r hr)
        · exact .inr hev

instance : DecidablePred σ.Gone := fun _ => inferInstanceAs (Decidable (_ ∨ _))

/-- The step is in none of the two critical sections, or no public task is about to
insert its record or to send its `open`; nobody was evicted, and no bind crashes. -/
def keepsWaiting (s : State) (a : Action) : Bool :=
  s.store.preempted.isEmpty &&
  (match s.point a.1 with
    | .control .leave | .control (.poolScan _ none _) =>
        (List.range s.store.conns.size).all fun h =>
          match s.point (.pub h) with
          | .pub (.insert _ _) | .pub (.sendOpen _ _) => false
          | _ => true
    | _ => true) &&
  match a.2 with
  | .bind (.crash _) => false
  | _ => true

theorem keepsWaiting_ok {s : State} {a : Action} (hr : (system srv).Reachable s)
    (h : keepsWaiting s a = true) : NoLateOpen s a := by
  rw [keepsWaiting, Bool.and_eq_true, Bool.and_eq_true, List.isEmpty_iff] at h
  obtain ⟨⟨hpre, hpurge⟩, hbind⟩ := h
  -- a public task has a connection from its first segment on
  have hlt : ∀ h q, s.point (.pub h) = .pub q → h ∈ List.range s.store.conns.size := by
    intro h q hq
    have hok := (tunnels hr).2 (.pub h)
    rw [hq] at hok
    obtain ⟨conn, hconn, -⟩ := hok
    exact List.mem_range.mpr (Heap.lt_size_of_get? hconn)
  have hall : ∀ c, Purging s c a.1 → ∀ h ∈ List.range s.store.conns.size,
      (match s.point (.pub h) with
        | .pub (.insert _ _) | .pub (.sendOpen _ _) => false
        | _ => true) = true := by
    intro c hc
    rcases hc.point with hp | ⟨q, scan, hp⟩
    · rw [hp] at hpurge
      exact List.all_eq_true.mp hpurge
    · rw [hp] at hpurge
      exact List.all_eq_true.mp hpurge
  refine ⟨⟨?_, ?_⟩, ?_, ?_⟩
  · intro c hc h service id hq
    have hno := hall c hc h (hlt h _ hq)
    rw [hq] at hno
    cases hno
  · intro h conn service _ _ _ _ hmem
    rw [hpre] at hmem
    cases hmem
  · intro c hc h service id hq
    have hno := hall c hc h (hlt h _ hq)
    rw [hq] at hno
    cases hno
  · rintro c q v scan port text rfl
    cases hbind

/-- A public user of the service of `a` waits for its tunnel. -/
def waitRun : List Action :=
  Schedule.connect "a" false [Schedule.webItem] ++ Schedule.regular "a" 8080 ++
    Schedule.answer "a" ++ Schedule.accept 0 0 "x" ++ Schedule.goes (.pub 0) 2 ++
    [(.pub 0, .drained none)]

/-- Client `a` disconnects. -/
def leaveRun : List Action := [(.control "a", .read none), (.control "a", .go)]

/-- The service of the client `a`, which was the first to listen. -/
def webService : RegisteredService := ⟨"web", "0.0.0.0", 8080, none, "a", 0, false, none, 0⟩

/-- The user of `a` has its record in `_pending`, and `a` disconnects. -/
theorem gone_left_alone_leave : ∃ s₀ s r conn,
    (system Schedule.mixedServer).ReachableUnder NoLateOpen s₀ ∧
    s₀.store.pending.get? "x" = some r ∧ r.client = "a" ∧ r.conn = 0 ∧
    (system Schedule.mixedServer).Runs NoLateOpen s₀ s ∧ s.store.Gone "a" ∧
    (∀ k r, s.store.pending.get? k = some r → r.client ≠ "a") ∧
    s.point (.pub 0) = .pub (.waitTunnel webService "x") ∧
    s.store.conns.get? 0 = some conn ∧
    (conn.future.done = true ∨ ∃ c', Evicting s c' "a" 0) := by
  have hrun : ((system Schedule.mixedServer).execWhile keepsWaiting
      (system Schedule.mixedServer).init waitRun).bind (fun s₀ =>
        ((system Schedule.mixedServer).execWhile keepsWaiting s₀ leaveRun).map fun s =>
          ((s₀.store.pending.get? "x").map fun r => (r.client, r.conn),
            decide (s.store.Gone "a"), s.point (.pub 0),
            (s.store.conns.get? 0).map PublicConn.listener)) =
      some (some ("a", 0), true, .pub (.waitTunnel webService "x"), some 0) := by rfl
  obtain ⟨s₀, hs₀, hrest⟩ := Option.bind_eq_some_iff.mp hrun
  obtain ⟨s, hs, heq⟩ := Option.map_eq_some_iff.mp hrest
  obtain ⟨hpending, hrest⟩ := Prod.mk.inj heq
  obtain ⟨hgone, hrest⟩ := Prod.mk.inj hrest
  obtain ⟨hp, hconn⟩ := Prod.mk.inj hrest
  obtain ⟨r, hr, hfields⟩ := Option.map_eq_some_iff.mp hpending
  obtain ⟨conn, hc, -⟩ := Option.map_eq_some_iff.mp hconn
  obtain ⟨hclient, hrconn⟩ := Prod.mk.inj hfields
  have hgone : s.store.Gone "a" := of_decide_eq_true hgone
  have h₀ : (system Schedule.mixedServer).ReachableUnder NoLateOpen s₀ :=
    System.runs_of_execWhile (fun _ _ => keepsWaiting_ok) hs₀
  have hleave : (system Schedule.mixedServer).Runs NoLateOpen s₀ s :=
    System.runs_of_execWhile (fun _ _ hu => keepsWaiting_ok (h₀.reachable.runs hu)) hs
  obtain ⟨hnone, -, hwaiting⟩ := gone_left_alone Schedule.mixedServer (h₀.runs hleave) hgone
  exact ⟨s₀, s, r, conn, h₀, hr, hclient, hrconn, hleave, hgone, hnone, hp, hc,
    hwaiting 0 _ webService "x" conn hp rfl rfl hc⟩

/-- While client `d` scans the pool, a public connection to the service of `a` is
accepted and `a` disconnects. The lock goes to the public task, which looks the
service up, then to `a`, which is removed, then to the public task again. -/
def lateRun : List Action :=
  Schedule.connect "a" false [Schedule.webItem] ++ Schedule.regular "a" 8080 ++
    Schedule.answer "a" ++
    Schedule.connect "d" false [Schedule.poolItem] ++ Schedule.goes (.control "d") 3 ++
    [(.pub 0, .accept 0), (.pub 0, .go), (.control "a", .read none),
      (.control "d", .bind (.bound "0.0.0.0" 6000))] ++ Schedule.goes (.control "d") 3 ++
    [(.pub 0, .ticket "x"), (.control "a", .go), (.pub 0, .go)]

/-- A pending record outlives the removal of its client. -/
theorem late_record : ∃ s, (system Schedule.mixedServer).Reachable s ∧
    s.store.Gone "a" ∧ ∃ r ∈ s.store.pending.values, r.client = "a" :=
  System.exists_of_exec lateRun (by decide)

end PyFrp
