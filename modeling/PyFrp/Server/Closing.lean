import PyFrp.Server.Shutdown

/-!
# What a closed server leaves behind

`Server.close` empties its maps in one critical section and stops no handler:
what a handler inserts after that section stays. The module proves that nothing
is left if no handler does, and shows a run in which one does.
-/

namespace PyFrp

open Python Coop Store

variable {srv : Server} {σ σ' : Store} {φ : Effect} {c : ClientId} {t : TaskId} {p : Point}
variable {seg : Segment LockId Effect Point} {C : ProcessState → ProcessAction → Prop}

/-! ## Settled futures -/

/-- Is the future of the task's record settled? -/
def PublicPoint.settled : PublicPoint → Bool
  | .closing _ | .finished => true
  | _ => false

/-- A public task that has settled the future of its record left it done. -/
def SettledOk (σ : Store) : TaskId → Point → Prop
  | .pub h, .pub p => p.settled = true →
      ∀ conn, σ.conns.get? h = some conn → conn.ticket ≠ none → conn.future.done = true
  | _, _ => True

theorem PublicStep.settledOk {h : Nat} {conn : PublicConn} {p : PublicPoint}
    {seg : Segment LockId Effect PublicPoint} (hs : PublicStep σ h conn p seg)
    (hc : σ.conns.get? h = some conn) (hp : TicketOk σ (.pub h) (.pub p))
    (hq : SettledOk σ (.pub h) (.pub p)) :
    SettledOk (seg.effect.apply σ) (.pub h) (.pub seg.next) := by
  cases hs with
  | miss =>
      intro _ conn' hc' ht
      obtain ⟨conn₀, hc₀, hnone, -⟩ := hp
      rw [hc, Option.some.injEq] at hc₀
      rw [Effect.conns_of_get? hc, Option.some.injEq] at hc'
      subst hc' hc₀
      exact absurd (hnone (.inr rfl)) ht
  | cleanup =>
      intro _ conn' hc' ht
      rw [Effect.conns_of_get? hc, Option.some.injEq] at hc'
      rw [← hc']
      exact connAfter_resolved (List.mem_singleton.mpr rfl)
  | closeTunnel => exact hq
  | close => exact hq
  | _ => exact fun h => by cases h

theorem ServerStep.settledOk (hs : ServerStep srv σ t p seg) (hp : TicketOk σ t p)
    (hq : SettledOk σ t p) : SettledOk (seg.effect.apply σ) t seg.next := by
  cases hs with
  | pub hc hs => exact hs.settledOk hc hp hq
  | accept => exact fun h => by cases h
  | _ => trivial

theorem SettledOk.spared {u : TaskId} {q : Point} (hq : SettledOk σ u q) (hne : u ≠ t)
    (hs : ServerStep srv σ t p seg) : SettledOk (seg.effect.apply σ) u q := by
  cases u with
  | pub h =>
      cases q with
      | pub q =>
          intro hsettled conn hc ht
          rcases Effect.of_conns hc with ⟨conn₀, hc₀, rfl⟩ | ⟨⟨l, name, hφ, rfl⟩, -⟩
          · obtain ⟨id, hid⟩ := Option.ne_none_iff_exists'.mp ht
            rcases connAfter_ticket hid with hφ | hid
            · exact absurd (hs.issues hφ).1.symm hne
            · have hdone := hq hsettled conn₀ hc₀ (by rw [hid]; simp)
              rw [connAfter_done hdone, hdone]
          · exact absurd rfl ht
      | _ => trivial
  | _ => trivial

/-! ## The critical section of `close` -/

/-- What the critical section leaves of a public connection. -/
def clearedConn (σ : Store) (h : Nat) (conn : PublicConn) : PublicConn :=
  if h ∈ σ.pending.values.map PendingTunnel.conn then
    conn.resolve (.failed "server is closing")
  else conn

theorem clear_conns (σ : Store) (h : Nat) :
    σ.clear.conns.get? h = (σ.conns.get? h).map (clearedConn σ h) := by
  have hcells : σ.clear.conns = σ.conns.modifyAll (σ.pending.values.map PendingTunnel.conn)
      (PublicConn.resolve (.failed "server is closing")) := rfl
  rw [hcells, Heap.get?_modifyAll _ _ (PublicConn.resolve_resolve _)]
  unfold clearedConn
  split
  · rfl
  · exact Option.map_id'.symm

theorem clear_listeners (σ : Store) (i : Nat) :
    σ.clear.listeners.get? i = (σ.listeners.get? i).map fun l =>
      if i ∈ σ.services.values.map RegisteredService.listener then l.close else l := by
  have hcells : σ.clear.listeners = σ.listeners.modifyAll
      (σ.services.values.map RegisteredService.listener) Listener.close := rfl
  rw [hcells, Heap.get?_modifyAll _ Listener.close (fun _ => rfl)]
  split
  · rfl
  · exact Option.map_id'.symm

/-- Only an unresolved future of a pending record changes. -/
theorem clearedConn_cases (σ : Store) (h : Nat) (conn : PublicConn) :
    clearedConn σ h conn = conn ∨ (conn.future.done = false ∧
      clearedConn σ h conn = { conn with future := .failed "server is closing" }) := by
  unfold clearedConn PublicConn.resolve
  split
  · split
    · exact .inl rfl
    · rename_i hd
      exact .inr ⟨Bool.eq_false_iff.mpr hd, rfl⟩
  · exact .inl rfl

@[simp] theorem clearedConn_ticket (σ : Store) (h : Nat) (conn : PublicConn) :
    (clearedConn σ h conn).ticket = conn.ticket := by
  rcases clearedConn_cases σ h conn with heq | ⟨-, heq⟩ <;> rw [heq]

@[simp] theorem clearedConn_listener (σ : Store) (h : Nat) (conn : PublicConn) :
    (clearedConn σ h conn).listener = conn.listener := by
  rcases clearedConn_cases σ h conn with heq | ⟨-, heq⟩ <;> rw [heq]

@[simp] theorem clearedConn_closed (σ : Store) (h : Nat) (conn : PublicConn) :
    (clearedConn σ h conn).closed = conn.closed := by
  rcases clearedConn_cases σ h conn with heq | ⟨-, heq⟩ <;> rw [heq]

@[simp] theorem clearedConn_serviceName (σ : Store) (h : Nat) (conn : PublicConn) :
    (clearedConn σ h conn).serviceName = conn.serviceName := by
  rcases clearedConn_cases σ h conn with heq | ⟨-, heq⟩ <;> rw [heq]

/-- A future is the result of a tunnel afterwards just if it was before. -/
theorem clearedConn_result {h k : Nat} {conn : PublicConn} :
    (clearedConn σ h conn).future = .result k ↔ conn.future = .result k := by
  rcases clearedConn_cases σ h conn with heq | ⟨hd, heq⟩ <;> rw [heq]
  constructor
  · intro hf
    cases hf
  · intro hf
    rw [hf] at hd
    cases hd

theorem clearedConn_done {h : Nat} {conn : PublicConn} (hd : conn.future.done = true) :
    (clearedConn σ h conn).future.done = true := by
  rcases clearedConn_cases σ h conn with heq | ⟨-, heq⟩ <;> rw [heq]
  · exact hd
  · rfl

theorem clearedConn_of_mem {h : Nat} {conn : PublicConn}
    (hmem : h ∈ σ.pending.values.map PendingTunnel.conn) :
    (clearedConn σ h conn).future.done = true := by
  rw [clearedConn, if_pos hmem, PublicConn.resolve]
  split
  · assumption
  · rfl

theorem of_clear_conns {h : Nat} {conn : PublicConn} (hc : σ.clear.conns.get? h = some conn) :
    ∃ conn₀, σ.conns.get? h = some conn₀ ∧ conn = clearedConn σ h conn₀ := by
  rw [clear_conns] at hc
  obtain ⟨conn₀, hc₀, rfl⟩ := Option.map_eq_some_iff.mp hc
  exact ⟨conn₀, hc₀, rfl⟩

theorem TunnelsOk.clear (hI : TunnelsOk σ) : TunnelsOk σ.clear where
  accepted h conn hc := by
    obtain ⟨conn₀, hc₀, rfl⟩ := of_clear_conns hc
    obtain ⟨x, hx, hcb⟩ := hI.accepted h conn₀ hc₀
    refine ⟨_, by rw [clearedConn_listener, clear_listeners, hx]; rfl, ?_⟩
    rw [clearedConn_serviceName, ← hcb]
    split <;> rfl
  issued h conn id hc ht := by
    obtain ⟨conn₀, hc₀, rfl⟩ := of_clear_conns hc
    exact hI.issued h conn₀ id hc₀ (clearedConn_ticket σ h conn₀ ▸ ht)
  unique h₁ h₂ conn₁ conn₂ id hc₁ hc₂ ht₁ ht₂ := by
    obtain ⟨conn₁', hc₁', rfl⟩ := of_clear_conns hc₁
    obtain ⟨conn₂', hc₂', rfl⟩ := of_clear_conns hc₂
    rw [clearedConn_ticket] at ht₁ ht₂
    exact hI.unique h₁ h₂ conn₁' conn₂' id hc₁' hc₂' ht₁ ht₂
  pending k r hk := by cases hk
  paired h₁ h₂ conn₁ conn₂ k hc₁ hc₂ hf₁ hf₂ := by
    obtain ⟨conn₁', hc₁', rfl⟩ := of_clear_conns hc₁
    obtain ⟨conn₂', hc₂', rfl⟩ := of_clear_conns hc₂
    rw [clearedConn_result] at hf₁ hf₂
    exact hI.paired h₁ h₂ conn₁' conn₂' k hc₁' hc₂' hf₁ hf₂

theorem TicketOk.clear (hA : TicketOk σ t p) : TicketOk σ.clear t p := by
  cases t with
  | control c => trivial
  | pub h =>
      cases p with
      | pub p =>
          obtain ⟨conn, hc, hnone, hlocals, htunnel⟩ := hA
          refine ⟨clearedConn σ h conn, by rw [clear_conns, hc]; rfl, ?_, ?_, ?_⟩
          · rw [clearedConn_ticket]
            exact hnone
          · rw [clearedConn_ticket]
            exact hlocals
          · exact fun k hk => clearedConn_result.mpr (htunnel k hk)
      | _ => trivial
  | tunnel k =>
      intro hfin h conn hc hf
      obtain ⟨conn₀, hc₀, rfl⟩ := of_clear_conns hc
      exact hA hfin h conn₀ hc₀ (clearedConn_result.mp hf)

theorem SettledOk.clear (hA : SettledOk σ t p) : SettledOk σ.clear t p := by
  cases t with
  | pub h =>
      cases p with
      | pub p =>
          intro hsettled conn hc ht
          obtain ⟨conn₀, hc₀, rfl⟩ := of_clear_conns hc
          rw [clearedConn_ticket] at ht
          exact clearedConn_done (hA hsettled conn₀ hc₀ ht)
      | _ => trivial
  | _ => trivial

theorem RecordsKept.tunnelsOk (h : RecordsKept σ σ') (hI : TunnelsOk σ) : TunnelsOk σ' := by
  constructor
  · rw [h.conns, h.listeners]
    exact hI.accepted
  · rw [h.conns, h.tickets]
    exact hI.issued
  · rw [h.conns]
    exact hI.unique
  · rw [h.conns, h.pending]
    exact hI.pending
  · rw [h.conns]
    exact hI.paired

theorem RecordsKept.ticketOk (h : RecordsKept σ σ') (hA : TicketOk σ t p) : TicketOk σ' t p := by
  unfold TicketOk at hA ⊢
  rw [h.conns]
  exact hA

theorem RecordsKept.settledOk (h : RecordsKept σ σ') (hA : SettledOk σ t p) :
    SettledOk σ' t p := by
  unfold SettledOk at hA ⊢
  rw [h.conns]
  exact hA

/-! ## Invariants of the process -/

/-- Is the owner of the server past the critical section of `close`? -/
def ProcessPoint.cleared : ProcessPoint → Bool
  | .main (.gather _ _ _) | .main (.gathered _ _) | .main .closed | .main .restarting => true
  | _ => false

/-- Has `close` returned? -/
def ProcessPoint.closed : ProcessPoint → Bool
  | .main .closed | .main .restarting => true
  | _ => false

theorem ProcessPoint.cleared_of_closed {p : ProcessPoint} (h : p.closed = true) :
    p.cleared = true := by
  revert h
  fun_cases ProcessPoint.closed p
  · exact fun _ => rfl
  · exact fun _ => rfl
  · intro h
    cases h

theorem mainSegment_cleared {σ : ServerProcess} {p : ProcessPoint} {e : ProcessEvent}
    {seg : Segment LockId ProcessEffect ProcessPoint} (h : mainSegment σ p e = some seg)
    (haside : seg.effect.aside = true) (hc : seg.next.cleared = true) : p.cleared = true := by
  revert h haside hc
  fun_cases mainSegment σ p e
  case case7 restart _ =>
    rintro ⟨⟩ - hc
    cases restart <;> cases hc
  case case14 =>
    rintro ⟨⟩ haside
    cases haside
  all_goals rintro ⟨⟩ - hc
  all_goals first
    | rfl
    | cases hc

/-- What a step does to the server: the step of a handler, the critical section of `close`,
or nothing. -/
theorem ProcessStep.server_cases {σ : ServerProcess} {t : ProcessTask} {p : ProcessPoint}
    {e : ProcessEvent} {seg : Segment LockId ProcessEffect ProcessPoint}
    (hs : ProcessStep srv σ t p e seg) :
    (∃ t' e' seg', t = .handler t' ∧ e = .handler e' ∧
      serverSegment srv σ.server t' p.inServer e' = some seg' ∧
      (seg.effect.apply σ).server = seg'.effect.apply σ.server ∧
      seg.next = .server seg'.next) ∨
    (t = .main ∧ (∃ restart, p = .main (.clearing restart)) ∧
      (seg.effect.apply σ).server = σ.server.clear) ∨
    ((∀ t', t ≠ .handler t') ∧ RecordsKept σ.server (seg.effect.apply σ).server ∧
      (seg.next.cleared = true → p.cleared = true)) := by
  cases hs with
  | handler hidle h => exact .inl ⟨_, _, _, rfl, rfl, h, handle_server _ _ _, rfl⟩
  | main h =>
      rcases mainSegment_effect h with haside | ⟨restart, hp, hφ⟩
      · exact .inr (.inr ⟨nofun, ProcessEffect.kept_of_aside haside, mainSegment_cleared h haside⟩)
      · exact .inr (.inl ⟨rfl, ⟨restart, hp⟩, by rw [hφ]; rfl⟩)
  | listener h =>
      obtain ⟨haside, hnext, -⟩ := listenerSegment_aside h
      exact .inr (.inr ⟨nofun, ProcessEffect.kept_of_aside haside, by rw [hnext]; exact id⟩)

/-- The assertion at the points of the process: that of the server at those of its handlers. -/
def HandlerOk (σ : ServerProcess) : ProcessTask → ProcessPoint → Prop
  | .handler t, p => TicketOk σ.server t p.inServer ∧ SettledOk σ.server t p.inServer
  | _, _ => True

theorem processOutline (srv : Server) (C : ProcessState → ProcessAction → Prop) :
    (processProgram srv).Outline ⟨.initial, true, 0, []⟩ (.server .start) ProcessPoint.holds C
      (fun σ => TunnelsOk σ.server) HandlerOk where
  initial := (tunnelOutline srv fun _ _ => True).initial
  starts t := by
    cases t with
    | handler t =>
        refine ⟨(tunnelOutline srv fun _ _ => True).starts t, ?_⟩
        cases t <;> trivial
    | _ => trivial
  keeps {s t e seg} hat hI hA := by
    rcases (processSegment_cases hat.segment).server_cases with
      ⟨t', e', seg', rfl, rfl, hseg, hstore, -⟩ | ⟨-, -, hstore⟩ | ⟨-, hkept, -⟩
    · exact hstore ▸ hI.apply (serverSegment_cases hseg) (hA (.handler t')).1
    · exact hstore ▸ hI.clear
    · exact hkept.tunnelsOk hI
  establishes {s t e seg} hat hI hA := by
    rcases (processSegment_cases hat.segment).server_cases with
      ⟨t', e', seg', rfl, rfl, hseg, hstore, hnext⟩ | ⟨rfl, -, -⟩ | ⟨hne, -, -⟩
    · have hs := serverSegment_cases hseg
      obtain ⟨hticket, hsettled⟩ := hA (.handler t')
      rw [hnext]
      show TicketOk (seg.effect.apply s.store).server t' seg'.next ∧
        SettledOk (seg.effect.apply s.store).server t' seg'.next
      rw [hstore]
      exact ⟨hs.ticketOk hticket, hs.settledOk hticket hsettled⟩
    · trivial
    · cases t with
      | handler t' => exact absurd rfl (hne t')
      | _ => trivial
  spares {s t e seg u} hat hI hA hne := by
    cases u with
    | handler u =>
        obtain ⟨hticket, hsettled⟩ := hA (.handler u)
        show TicketOk (seg.effect.apply s.store).server u _ ∧
          SettledOk (seg.effect.apply s.store).server u _
        rcases (processSegment_cases hat.segment).server_cases with
          ⟨t', e', seg', rfl, rfl, hseg, hstore, -⟩ | ⟨-, -, hstore⟩ | ⟨-, hkept, -⟩
        · have hs := serverSegment_cases hseg
          have hut : u ≠ t' := fun heq => hne (congrArg ProcessTask.handler heq)
          rw [hstore]
          exact ⟨hticket.spared hut (hA (.handler t')).1 hs, hsettled.spared hut hs⟩
        · rw [hstore]
          exact ⟨hticket.clear, hsettled.clear⟩
        · exact ⟨hkept.ticketOk hticket, hkept.settledOk hsettled⟩
    | _ => trivial

/-- The handlers and the server, read as a state of the server alone. -/
def serverView (s : ProcessState) : State :=
  ⟨s.store.server, fun t => (s.point (.handler t)).inServer, fun _ => .free, none⟩

theorem processTunnels {s : ProcessState} (h : (serverProcess srv).ReachableUnder C s) :
    TunnelsOk s.store.server ∧ ∀ t, TicketOk s.store.server t ((serverView s).point t) ∧
      SettledOk s.store.server t ((serverView s).point t) := by
  obtain ⟨hI, hA⟩ := (processOutline srv C).sound (processDiscipline srv) h
  exact ⟨hI, fun t => hA (.handler t)⟩

theorem view_handler (s : ProcessState) (t : TaskId) {q : Point}
    {seg : Segment LockId ProcessEffect ProcessPoint} (hnext : seg.next = .server q) :
    (serverView ((processProgram srv).commit s (.handler t) seg)).point =
      Function.update (serverView s).point t q := by
  funext u
  by_cases hut : u = t
  · subst hut
    rw [Function.update_self]
    exact congrArg ProcessPoint.inServer ((Program.commit_point_self _ _ _).trans hnext)
  · rw [Function.update_of_ne hut]
    exact congrArg ProcessPoint.inServer
      (Program.commit_point_of_ne s seg fun heq => hut (ProcessTask.handler.inj heq))

theorem view_other (s : ProcessState) {t : ProcessTask}
    (seg : Segment LockId ProcessEffect ProcessPoint) (hne : ∀ t', t ≠ .handler t') :
    (serverView ((processProgram srv).commit s t seg)).point = (serverView s).point := by
  funext u
  exact congrArg ProcessPoint.inServer (Program.commit_point_of_ne s seg (hne u).symm)

/-- A step of the process, read as what it does to the server and its handlers. -/
theorem view_step {s s' : ProcessState} {a : ProcessAction}
    (h : (serverProcess srv).step s a = some s') :
    (∃ t e seg, a = (.handler t, .handler e) ∧
      serverSegment srv s.store.server t ((serverView s).point t) e = some seg ∧
      (serverView s').store = seg.effect.apply s.store.server ∧
      (serverView s').point = Function.update (serverView s).point t seg.next ∧
      s'.point .main = s.point .main) ∨
    (a.1 = .main ∧ (∃ restart, s.point .main = .main (.clearing restart)) ∧
      (serverView s').store = s.store.server.clear ∧
      (serverView s').point = (serverView s).point) ∨
    (RecordsKept s.store.server s'.store.server ∧
      (serverView s').point = (serverView s).point ∧
      ((s'.point .main).cleared = true → (s.point .main).cleared = true)) := by
  obtain ⟨t, e⟩ := a
  obtain ⟨hrun, seg, hseg, rfl⟩ := Program.step_eq_some.mp h
  rcases (processSegment_cases hseg).server_cases with
    ⟨t', e', seg', rfl, rfl, hseg', hstore, hnext⟩ | ⟨rfl, hp, hstore⟩ | ⟨hne, hkept, hcleared⟩
  · refine .inl ⟨t', e', seg', rfl, hseg', ?_, view_handler s t' hnext,
      Program.commit_point_of_ne s seg nofun⟩
    exact (congrArg ServerProcess.server (Program.commit_store _ _ _)).trans hstore
  · refine .inr (.inl ⟨rfl, hp, ?_, view_other s seg nofun⟩)
    exact (congrArg ServerProcess.server (Program.commit_store _ _ _)).trans hstore
  · refine .inr (.inr ⟨?_, view_other s seg hne, ?_⟩)
    · rw [Program.commit_store]
      exact hkept
    · by_cases ht : t = .main
      · subst ht
        rw [Program.commit_point_self]
        exact hcleared
      · rw [Program.commit_point_of_ne s seg (Ne.symm ht)]
        exact id

/-! ## Nothing is left -/

/-- Does the task go on with code that adds to what `close` clears: a client, a listener,
a service or a pending record? -/
def Point.adds : Point → Event → Bool
  | .control (.join _), .go | .control (.regularInsert _ _), .go
  | .control (.poolBound _ _ _ _ _), .go | .pub (.insert _ _), .go => true
  | .control (.regularBind _ _ _), .bind (.bound _ _)
  | .control (.poolBind _ _ _ _), .bind (.bound _ _) => true
  | _, _ => false

def Effect.adds : Effect → Bool
  | .join _ | .listen _ | .register _ | .pend _ => true
  | _ => false

theorem serverSegment_adds {e : Event} (h : serverSegment srv σ t p e = some seg)
    (hp : p.adds e = false) : seg.effect.adds = false := by
  revert h
  fun_cases serverSegment srv σ t p e
  case case3 c p =>
    intro h
    obtain ⟨seg', hseg, rfl⟩ := Option.map_eq_some_iff.mp h
    revert hseg hp
    fun_cases controlSegment srv σ c p e
    all_goals rintro hp ⟨⟩
    all_goals first
      | rfl
      | cases hp
  case case7 i p conn hconn =>
    intro h
    obtain ⟨seg', hseg, rfl⟩ := Option.map_eq_some_iff.mp h
    revert hseg hp
    fun_cases publicSegment σ i conn p e
    all_goals rintro hp ⟨⟩
    all_goals first
      | rfl
      | cases hp
  case case11 k p =>
    intro h
    obtain ⟨seg', hseg, rfl⟩ := Option.map_eq_some_iff.mp h
    cases tunnelSegment_cases hseg <;> rfl
  all_goals rintro ⟨⟩
  all_goals rfl

/-- The step does not get in the way of `close`. When the maps are cleared, every open
public listener is that of a service; from then on no handler adds to them; and the second
scan of an eviction is not ended by an exception other than `OSError`. -/
structure ClosesLast (s : ProcessState) (a : ProcessAction) : Prop where
  clears : ∀ restart, a.1 = .main → s.point .main = .main (.clearing restart) →
    ∀ i l, s.store.server.listeners.get? i = some l → l.isOpen = true →
      i ∈ s.store.server.services.values.map RegisteredService.listener
  adds : (s.point .main).cleared = true → ∀ t e, a = (.handler t, .handler e) →
    ((serverView s).point t).adds e = false
  crash : ∀ t e, a = (.handler t, .handler e) → NoCrash (serverView s) (t, e)

/-- The maps are empty, no public listener is open, and no eviction is under way. -/
structure Emptied (s : State) : Prop where
  services : ∀ k, s.store.services.get? k = none
  pending : ∀ k, s.store.pending.get? k = none
  clients : ∀ k, s.store.clients.get? k = none
  listeners : ∀ i l, s.store.listeners.get? i = some l → l.isOpen = false
  evicting : ∀ c q, s.point (.control c) = .control q → q.evicting = none

theorem Store.values_ne_of_selectVictim {priority : Int} {force : Bool}
    {lastError : Option String} {v : Victim}
    (h : σ.selectVictim c priority force lastError = .ok v) : σ.services.values ≠ [] := by
  intro hnil
  have hother : σ.otherPoolServices c = [] := by rw [otherPoolServices, hnil]; rfl
  rw [selectVictim, hother] at h
  cases h

theorem ControlPoint.evicting_of_session {p : ControlPoint} (h : p.session = true) :
    p.evicting = none := by
  cases p <;> first | rfl | cases h

/-- An eviction begins only with its effect. -/
theorem ControlStep.evicting {p : ControlPoint} {seg : Segment LockId Effect ControlPoint}
    {v : Victim} (hs : ControlStep srv σ c p seg) (hv : seg.next.evicting = some v) :
    p.evicting = some v ∨ seg.effect = .evict v := by
  cases hs with
  | poolEvict hp hv' =>
      cases hv
      exact .inr rfl
  | session hp hn hq hs hg hφ =>
      rw [ControlPoint.evicting_of_session hn] at hv
      cases hv
  | item h => cases h <;> cases hv
  | _ => first | exact .inl hv | cases hv

/-- Whoever evicts a client has the lock of the server, or is running. -/
theorem ControlPoint.locked_of_evicting {p : ControlPoint} {v : Victim}
    (h : p.evicting = some v) :
    p.holds c = some .server ∨ (Point.control p).runsOn = true := by
  cases p <;> first | exact .inl rfl | exact .inr rfl | cases h

theorem Emptied.step {s s' : State} {e : Event} (hE : Emptied s)
    (hseg : serverSegment srv s.store t (s.point t) e = some seg)
    (hadds : (s.point t).adds e = false) (hstore : s'.store = seg.effect.apply s.store)
    (hpoint : s'.point = Function.update s.point t seg.next) : Emptied s' := by
  have hs := serverSegment_cases hseg
  have hφ := serverSegment_adds hseg hadds
  have hne : ∀ φ : Effect, φ.adds = true → seg.effect ≠ φ := by
    rintro φ h rfl
    rw [hφ] at h
    cases h
  refine ⟨fun k => ?_, fun k => ?_, fun k => ?_, fun i l hl => ?_, fun c q hq => ?_⟩
  · rw [hstore, Option.eq_none_iff_forall_ne_some]
    intro r hr
    rcases Effect.of_services hr with ⟨heq, -⟩ | ⟨hk, -⟩
    · exact hne _ rfl heq
    · rw [hE.services k] at hk
      cases hk
  · rw [hstore, Option.eq_none_iff_forall_ne_some]
    intro r hr
    rcases Effect.of_pending hr with ⟨heq, -⟩ | ⟨hk, -⟩
    · exact hne _ rfl heq
    · rw [hE.pending k] at hk
      cases hk
  · rw [hstore, Option.eq_none_iff_forall_ne_some]
    intro c hc
    rcases Effect.of_clients hc with heq | hk
    · exact hne _ rfl heq
    · rw [hE.clients k] at hk
      cases hk
  · rw [hstore] at hl
    rcases Effect.of_listeners hl with ⟨l₀, hl₀, rfl⟩ | ⟨heq, -⟩
    · show (l₀.isOpen && _) = false
      rw [hE.listeners i l₀ hl₀, Bool.false_and]
    · exact absurd heq (hne _ rfl)
  · rw [Option.eq_none_iff_forall_ne_some]
    intro v hv
    rw [hpoint] at hq
    by_cases hct : TaskId.control c = t
    · subst hct
      rw [Function.update_self] at hq
      have hno : seg.effect ≠ .evict v := by
        intro heq
        obtain ⟨c', q', scan, -, -, -, hsel, -⟩ := hs.evicts heq
        refine values_ne_of_selectVictim hsel (List.eq_nil_iff_forall_not_mem.mpr fun r hr => ?_)
        obtain ⟨k, hk⟩ := (Dict.mem_values _ _).mp hr
        rw [hE.services k] at hk
        cases hk
      revert hs
      generalize hp : s.point (.control c) = p
      intro hs
      cases hs with
      | connect hnow =>
          cases hq
          cases hv
      | control hs =>
          cases hq
          rcases hs.evicting hv with hev | heq
          · rw [hE.evicting c _ hp] at hev
            cases hev
          · exact hno heq
    · rw [Function.update_of_ne hct] at hq
      rw [hE.evicting c q hq] at hv
      cases hv

theorem Emptied.congr {s s' : State} (hE : Emptied s) (hk : RecordsKept s.store s'.store)
    (hpoint : s'.point = s.point) : Emptied s' := by
  constructor
  · rw [hk.services]
    exact hE.services
  · rw [hk.pending]
    exact hE.pending
  · rw [hk.clients]
    exact hE.clients
  · rw [hk.listeners]
    exact hE.listeners
  · rw [hpoint]
    exact hE.evicting

theorem Evicting.congr {s s' : State} {c' : ClientId} {h : Nat} (hev : Evicting s c' c h)
    (hpoint : s'.point = s.point) : Evicting s' c' c h := by
  unfold Evicting at hev ⊢
  rw [hpoint]
  exact hev

theorem PendsOk.congr {s s' : State} (hP : PendsOk s) (hk : RecordsKept s.store s'.store)
    (hpoint : s'.point = s.point) : PendsOk s' := by
  intro h q service id conn hp hw hc hf
  rw [hpoint] at hp
  rw [hk.conns] at hc
  rw [hk.pending]
  exact (hP h q service id conn hp hw hc hf).imp_right fun ⟨c', hev⟩ => ⟨c', hev.congr hpoint⟩

/-- The futures of the records that `close` clears are done. -/
theorem PendsOk.clear {s s' : State} (hP : PendsOk s) (hstore : s'.store = s.store.clear)
    (hpoint : s'.point = s.point) : PendsOk s' := by
  intro h q service id conn hp hw hc hf
  rw [hpoint] at hp
  rw [hstore] at hc
  obtain ⟨conn₀, hc₀, rfl⟩ := of_clear_conns hc
  have hf₀ : conn₀.future.done = false := by
    cases hd : conn₀.future.done with
    | false => rfl
    | true =>
        rw [clearedConn_done hd] at hf
        cases hf
  rcases hP h q service id conn₀ hp hw hc₀ hf₀ with ⟨r, hr, hrc, -⟩ | ⟨c', hev⟩
  · have hmem : h ∈ s.store.pending.values.map PendingTunnel.conn :=
      List.mem_map.mpr ⟨r, (Dict.mem_values _ _).mpr ⟨id, hr⟩, hrc⟩
    rw [clearedConn_of_mem hmem] at hf
    cases hf
  · exact .inr ⟨c', hev.congr hpoint⟩

/-- While the critical section of `close` runs, no eviction is under way. -/
theorem no_eviction {s : ProcessState} {restart : Bool}
    (h : (serverProcess srv).ReachableUnder C s)
    (hrun : (processProgram srv).canRun s .main = true)
    (hp : s.point .main = .main (.clearing restart)) (c : ClientId) (q : ControlPoint)
    (hq : (serverView s).point (.control c) = .control q) : q.evicting = none := by
  rw [Option.eq_none_iff_forall_ne_some]
  intro v hv
  rcases ControlPoint.locked_of_evicting (c := c) hv with hholds | hruns
  · have hheld := (processDiscipline srv).held h
    have hu : ProcessPoint.holds (.handler (.control c)) (s.point (.handler (.control c)))
        .server := by
      show Point.holds (.control c) ((serverView s).point (.control c)) .server
      rw [hq]
      exact hholds
    have hw : (processProgram srv).wants .main (s.point .main) = some .server := by
      rw [hp]
      rfl
    cases hheld.exclusive hrun (.inr hw) hu
  · have hrunning : s.running = some (.handler (.control c)) := by
      refine Program.running_of_runsOn rfl process_wants_of_runsOn h ?_
      show ((serverView s).point (.control c)).runsOn = true
      rw [hq]
      exact hruns
    rw [Program.canRun, hrunning] at hrun
    simp at hrun

/-- The critical section of `close` empties the maps, if every open listener is that of a
service. -/
theorem Emptied.clear {s s' : State} (hstore : s'.store = s.store.clear)
    (hpoint : s'.point = s.point)
    (hl : ∀ i l, s.store.listeners.get? i = some l → l.isOpen = true →
      i ∈ s.store.services.values.map RegisteredService.listener)
    (hev : ∀ c q, s.point (.control c) = .control q → q.evicting = none) : Emptied s' := by
  refine ⟨fun k => ?_, fun k => ?_, fun k => ?_, fun i l hget => ?_, by rw [hpoint]; exact hev⟩
  · rw [hstore]
    rfl
  · rw [hstore]
    rfl
  · rw [hstore]
    rfl
  · rw [hstore, clear_listeners] at hget
    obtain ⟨l₀, hl₀, rfl⟩ := Option.map_eq_some_iff.mp hget
    split
    · rfl
    · rename_i hnot
      cases ho : l₀.isOpen with
      | false => rfl
      | true => exact absurd (hl i l₀ hl₀ ho) hnot

/-- The records and futures at every point, and what is left once the maps are cleared. -/
theorem closes_last {s : ProcessState} (h : (serverProcess srv).ReachableUnder ClosesLast s) :
    PendsOk (serverView s) ∧ ((s.point .main).cleared = true → Emptied (serverView s)) := by
  refine h.invariant (P := fun s => PendsOk (serverView s) ∧
    ((s.point .main).cleared = true → Emptied (serverView s))) ⟨?_, fun hclear => ?_⟩ ?_
  · intro i q service id conn hp
    cases hp
  · cases hclear
  · rintro s a s' hr ⟨hP, hE⟩ hc hs
    obtain ⟨hI, hA⟩ := processTunnels hr
    rcases view_step hs with ⟨t, e, seg, rfl, hseg, hstore, hpoint, hmain⟩ |
      ⟨ha, ⟨restart, hp⟩, hstore, hpoint⟩ | ⟨hkept, hpoint, hcleared⟩
    · refine ⟨hP.step hI (fun u => (hA u).1) (hc.crash t e rfl) hseg hstore hpoint, ?_⟩
      intro hclear
      rw [hmain] at hclear
      exact (hE hclear).step hseg (hc.adds hclear t e rfl) hstore hpoint
    · refine ⟨hP.clear hstore hpoint, fun _ => ?_⟩
      obtain ⟨t, e⟩ := a
      obtain ⟨hrun, -⟩ := Program.step_eq_some.mp hs
      have ha : t = .main := ha
      subst ha
      exact .clear hstore hpoint (hc.clears restart rfl hp) (no_eviction hr hrun hp)
    · exact ⟨hP.congr hkept hpoint, fun hclear => (hE (hcleared hclear)).congr hkept hpoint⟩

/-- **A closed server leaves nothing behind.** In a run in which no handler gets in the way
of `close`, the maps are empty once it has returned, no public listener is open, and the
future of every pending record that a public handler ever inserted is resolved. -/
theorem close_leaves_nothing (srv : Server) {s : ProcessState}
    (h : (serverProcess srv).ReachableUnder ClosesLast s)
    (hc : (s.point .main).closed = true) :
    s.store.server.services.values = [] ∧ s.store.server.pending.values = [] ∧
    s.store.server.clients.values = [] ∧
    (∀ i l, s.store.server.listeners.get? i = some l → l.isOpen = false) ∧
    ∀ i q conn, (serverView s).point (.pub i) = .pub q →
      s.store.server.conns.get? i = some conn → conn.ticket ≠ none →
      (∀ service id, q ≠ .insert service id) → conn.future.done = true := by
  obtain ⟨hP, hE⟩ := closes_last h
  have hE := hE (ProcessPoint.cleared_of_closed hc)
  refine ⟨Dict.values_eq_nil hE.services, Dict.values_eq_nil hE.pending,
    Dict.values_eq_nil hE.clients, hE.listeners, ?_⟩
  intro i q conn hq hconn ht hinsert
  obtain ⟨hticket, hsettled⟩ := (processTunnels h).2 (.pub i)
  rw [hq] at hticket hsettled
  have hpends : ∀ service id, q.pends = some (service, id) → conn.future.done = true := by
    intro service id hpends
    cases hd : conn.future.done with
    | true => rfl
    | false =>
        rcases hP i q service id conn hq hpends hconn hd with ⟨r, hr, -⟩ | ⟨c', p, v, hp, hv, -⟩
        · rw [hE.pending id] at hr
          cases hr
        · rw [hE.evicting c' p hp] at hv
          cases hv
  have hnone : ¬ (q = .accepted ∨ q = .lookup) := by
    intro hq
    obtain ⟨conn', hconn', hnone, -⟩ := hticket
    rw [hconn, Option.some.injEq] at hconn'
    rw [hconn'] at ht
    exact ht (hnone hq)
  cases q with
  | accepted => exact absurd (.inl rfl) hnone
  | lookup => exact absurd (.inr rfl) hnone
  | insert service id => exact absurd rfl (hinsert service id)
  | closing k => exact hsettled rfl conn hconn ht
  | finished => exact hsettled rfl conn hconn ht
  | _ => exact hpends _ _ rfl

/-- The test that a schedule passes for `ClosesLast`. -/
def closesLast (s : ProcessState) (a : ProcessAction) : Bool :=
  (match s.point .main with
    | .main (.clearing _) =>
        (List.range s.store.server.listeners.size).all fun i =>
          (s.store.server.listeners.get? i).all fun l =>
            !l.isOpen || i ∈ s.store.server.services.values.map RegisteredService.listener
    | _ => true) &&
  match a with
  | (.handler t, .handler e) =>
      !((s.point .main).cleared && ((serverView s).point t).adds e) &&
        match e with
        | .bind (.crash _) => false
        | _ => true
  | _ => true

theorem closesLast_spec {s : ProcessState} {a : ProcessAction} (h : closesLast s a = true) :
    ClosesLast s a := by
  obtain ⟨hclears, hrest⟩ := Bool.and_eq_true_iff.mp h
  refine ⟨fun restart _ hp i l hl ho => ?_, fun hcleared t e ha => ?_, fun t e ha => ?_⟩
  · rw [hp] at hclears
    have hi := List.all_eq_true.mp hclears i (List.mem_range.mpr (Heap.lt_size_of_get? hl))
    rw [hl] at hi
    simpa [ho] using hi
  · subst ha
    simpa [hcleared] using (Bool.and_eq_true_iff.mp hrest).1
  · subst ha
    rintro c q v scan port text heq
    obtain ⟨-, rfl⟩ := Prod.mk.inj heq
    cases (Bool.and_eq_true_iff.mp hrest).2

namespace Schedule

/-- The handlers' part of a schedule. -/
def handlers (as : List Action) : List ProcessAction := as.map fun a => (.handler a.1, .handler a.2)

/-- The control listener accepts a connection. -/
def incoming : ProcessAction := (.listener, .connection)

/-- `close()` is called and passes `n` of its suspension points. -/
def close (n : Nat) : List ProcessAction :=
  (.main, .close) :: List.replicate n (.main, .go)

end Schedule

/-- A public user waits for a tunnel of client `a`, whose connection is lost, when the server
is closed. -/
def closeRun : List ProcessAction :=
  Schedule.incoming :: Schedule.handlers (Schedule.connect "a" false [Schedule.webItem] ++
    Schedule.regular "a" 8080 ++ Schedule.answer "a" ++ Schedule.accept 0 0 "x" ++
    Schedule.goes (.pub 0) 2 ++ [(.pub 0, .drained none)]) ++
  (.listener, .lose "a") :: Schedule.close 3 ++
  Schedule.handlers (Schedule.goes (.pub 0) 2) ++ [(.main, .go)]

theorem close_leaves_nothing_run : ∃ s,
    (serverProcess Schedule.mixedServer).ReachableUnder ClosesLast s ∧
    s.store.server.listeners.size = 1 ∧ s.store.server.services.values = [] ∧
    ∀ i l, s.store.server.listeners.get? i = some l → l.isOpen = false := by
  have hok : ∀ s a, (serverProcess Schedule.mixedServer).Reachable s → closesLast s a = true →
      ClosesLast s a := fun _ _ _ => closesLast_spec
  obtain ⟨s, hs, hsize, hclosed⟩ := System.exists_of_execWhile closeRun hok
    (P := fun s => s.store.server.listeners.size = 1 ∧ (s.point .main).closed = true) (by decide)
  obtain ⟨hservices, -, -, hlisteners, -⟩ := close_leaves_nothing Schedule.mixedServer hs hclosed
  exact ⟨s, hs, hsize, hservices, hlisteners⟩

/-- Client `a` is in `start_server` for its item when its connection is lost and the server
is closed. -/
def lateInsertRun : List ProcessAction :=
  Schedule.incoming :: Schedule.handlers (Schedule.connect "a" false [Schedule.webItem] ++
    Schedule.goes (.control "a") 1) ++
  (.listener, .lose "a") :: Schedule.close 4 ++
  Schedule.handlers ([(.control "a", .bind (.bound "0.0.0.0" 8080))] ++
    Schedule.goes (.control "a") 2)

/-- After `close` has returned a handler registers a service, and its listener is open. -/
theorem insert_after_close : ∃ s, (serverProcess Schedule.mixedServer).Reachable s ∧
    (s.point .main).closed = true ∧ ∃ r ∈ s.store.server.services.values,
      (s.store.server.listeners.get? r.listener).any Listener.isOpen = true :=
  System.exists_of_exec lateInsertRun (by decide)

end PyFrp
