import Mathlib.Data.Fintype.EquivFin
import PyFrp.Server.Closing

/-!
# The restart for a new version

Once a new version is detected, the process cancels `serve_forever`, which waits
until the control connections are closed, and only then notifies the clients and
closes their connections. The module is about the runs in which the peers are
silent from the detection on: they lead to the restart if no control connection
is open, and to no restart as long as one is.
-/

namespace PyFrp

open Python Coop Store

variable {srv : Server} {c : ClientId} {s s' : ProcessState} {σ : ServerProcess}

/-! ## Steps of the process itself -/

/-- Does the process resume the task by itself? Everything else comes from a peer. -/
def Event.own : Event → Bool
  | .connect _ _ | .read _ | .readError _ | .accept _ | .relayEnd | .connectTunnel _ => false
  | _ => true

theorem Event.isFirst_of_own {e : Event} (h : e.own = true) : e.isFirst = false := by
  cases e <;> first | rfl | cases h

def ProcessEvent.own : ProcessEvent → Bool
  | .handler e => e.own
  | .go | .notified _ => true
  | _ => false

/-- The step is one of the process itself. -/
def Own (_ : ProcessState) (a : ProcessAction) : Prop := a.2.own = true

/-- The process comes from `s` to the restart by its own steps, and every client connected
in `s` was sent the notice while its connection was open. -/
def RestartsAlone (srv : Server) (s : ProcessState) : Prop :=
  ∃ s', (serverProcess srv).Runs Own s s' ∧ s'.point .main = .main .restarting ∧
    ∀ c, s.store.connected c = true → c ∈ s'.store.notices

/-- An effect that opens a connection. -/
def Effect.opens : Effect → Bool
  | .newSession _ _ | .newTunnel | .accept _ _ => true
  | _ => false

/-- An effect that leaves the control connections to the process. -/
def ProcessEffect.quiet : ProcessEffect → Bool
  | .handle φ => !φ.opens
  | .none | .stop | .notify _ | .clear | .closeWriters _ => true
  | _ => false

theorem SessionEffect.opens {p : ControlPoint} {φ : Effect} (h : SessionEffect c p φ) :
    φ.opens = false := by
  cases h <;> rfl

theorem serverSegment_opens {σ : Store} {t : TaskId} {p : Point} {e : Event}
    {seg : Segment LockId Effect Point} (h : serverSegment srv σ t p e = some seg)
    (he : e.own = true) : seg.effect.opens = false := by
  revert h
  fun_cases serverSegment srv σ t p e
  case case3 c p =>
    intro h
    obtain ⟨seg', hseg, rfl⟩ := Option.map_eq_some_iff.mp h
    cases controlSegment_cases hseg with
    | session hp hn hq hs hg hφ => exact hφ.opens
    | _ => rfl
  case case7 i p conn hconn =>
    intro h
    obtain ⟨seg', hseg, rfl⟩ := Option.map_eq_some_iff.mp h
    cases publicSegment_cases hseg <;> rfl
  case case11 k p =>
    intro h
    obtain ⟨seg', hseg, rfl⟩ := Option.map_eq_some_iff.mp h
    cases tunnelSegment_cases hseg <;> rfl
  all_goals rintro ⟨⟩
  all_goals first
    | rfl
    | cases he

theorem mainSegment_quiet {p : ProcessPoint} {e : ProcessEvent}
    {seg : Segment LockId ProcessEffect ProcessPoint} (h : mainSegment σ p e = some seg) :
    seg.effect.quiet = true := by
  revert h
  fun_cases mainSegment σ p e
  all_goals rintro ⟨⟩
  all_goals rfl

theorem ProcessStep.quiet {t : ProcessTask} {p : ProcessPoint} {e : ProcessEvent}
    {seg : Segment LockId ProcessEffect ProcessPoint} (hs : ProcessStep srv σ t p e seg)
    (he : e.own = true) : seg.effect.quiet = true := by
  cases hs with
  | @handler _ _ e seg hidle h =>
      have hfirst := Event.isFirst_of_own he
      rw [if_neg (by rw [hfirst]; exact Bool.false_ne_true)]
      show (!seg.effect.opens) = true
      rw [serverSegment_opens h he]
      rfl
  | main h => exact mainSegment_quiet h
  | listener h =>
      revert h
      fun_cases listenerSegment σ p e
      all_goals rintro ⟨⟩
      all_goals cases he

/-! ## Open control connections -/

theorem connected_iff : σ.connected c = true ↔
    ∃ session, σ.server.sessions.get? c = some session ∧ session.closed = false := by
  unfold ServerProcess.connected
  cases σ.server.sessions.get? c <;> simp

theorem Effect.of_sessions {σ : Store} {φ : Effect} {session : ClientSession}
    (hφ : φ.opens = false) (h : (φ.apply σ).sessions.get? c = some session)
    (ho : session.closed = false) :
    ∃ session₀, σ.sessions.get? c = some session₀ ∧ session₀.closed = false := by
  cases φ with
  | newSession c' now => cases hφ
  | closeSession c' =>
      simp only [Effect.apply] at h
      split at h
      · rw [Dict.get?_set] at h
        split at h
        · cases h
          cases ho
        · exact ⟨session, h, ho⟩
      · exact ⟨session, h, ho⟩
  | _ => exact ⟨session, h, ho⟩

theorem of_closeWriters {cs : List ClientId} {sessions : Dict ClientId ClientSession}
    {session : ClientSession} (h : (cs.foldl closeWriter sessions).get? c = some session)
    (ho : session.closed = false) : sessions.get? c = some session := by
  induction cs generalizing sessions with
  | nil => exact h
  | cons c' cs ih =>
      have hone := ih h
      unfold closeWriter at hone
      split at hone
      · rw [Dict.get?_set] at hone
        split at hone
        · cases hone
          cases ho
        · exact hone
      · exact hone

/-- No control connection is opened by the process itself. -/
theorem ProcessEffect.connected_apply {φ : ProcessEffect} (hφ : φ.quiet = true)
    (h : (φ.apply σ).connected c = true) : σ.connected c = true := by
  obtain ⟨session, hsession, ho⟩ := connected_iff.mp h
  refine connected_iff.mpr ?_
  cases φ with
  | handle φ => exact Effect.of_sessions (Bool.not_eq_true' _ ▸ hφ) hsession ho
  | closeWriters cs => exact ⟨session, of_closeWriters hsession ho, ho⟩
  | none => exact ⟨session, hsession, ho⟩
  | stop => exact ⟨session, hsession, ho⟩
  | notify cs => exact ⟨session, hsession, ho⟩
  | clear => exact ⟨session, hsession, ho⟩
  | _ => cases hφ

theorem ProcessEffect.idle_apply {φ : ProcessEffect} (hφ : φ.quiet = true) :
    (φ.apply σ).idle = σ.idle := by
  cases φ <;> first | rfl | cases hφ

theorem ServerProcess.allGone_iff : σ.allGone = true ↔ σ.idle = 0 ∧
    (∀ c, σ.connected c = false) ∧
    ∀ k conn, σ.server.tunnels.get? k = some conn → conn.closed = true := by
  unfold ServerProcess.allGone
  rw [Bool.and_eq_true, Bool.and_eq_true, decide_eq_true_eq, Heap.all_iff, and_assoc,
    List.all_eq_true]
  refine and_congr_right fun _ => and_congr_left fun _ => ⟨fun h c => ?_, fun h session hs => ?_⟩
  · rw [Bool.eq_false_iff]
    intro hc
    obtain ⟨session, hs, ho⟩ := connected_iff.mp hc
    rw [h session ((Dict.mem_values _ _).mpr ⟨c, hs⟩)] at ho
    cases ho
  · obtain ⟨c, hs⟩ := (Dict.mem_values _ _).mp hs
    cases hd : session.closed with
    | true => rfl
    | false =>
        have hc := h c
        rw [connected_iff.mpr ⟨session, hs, hd⟩] at hc
        cases hc

/-! ## No restart while a connection is open -/

/-- Has `wait_closed()` of `serve_forever` still to end? -/
def ProcessPoint.serving : ProcessPoint → Bool
  | .server .start | .main (.cancelling _) | .main (.stopping _) => true
  | _ => false

/-- The owner of the server leaves `serve_forever` only when every control connection is
closed. -/
theorem mainSegment_serving {p : ProcessPoint} {e : ProcessEvent}
    {seg : Segment LockId ProcessEffect ProcessPoint} (h : mainSegment σ p e = some seg)
    (he : e.own = true) (hp : p.serving = true) :
    (seg.effect.apply σ).notices = σ.notices ∧
      (seg.next.serving = true ∨ σ.allGone = true) := by
  revert h
  fun_cases mainSegment σ p e
  case case1 => cases he
  case case2 => cases he
  case case3 => cases he
  case case4 =>
    rintro ⟨⟩
    exact ⟨rfl, .inl rfl⟩
  case case5 hgone =>
    rintro ⟨⟩
    exact ⟨rfl, .inr hgone⟩
  all_goals rintro ⟨⟩
  all_goals cases hp

/-- Notices are sent to clients that are connected. -/
theorem mainSegment_notices {p : ProcessPoint} {e : ProcessEvent}
    {seg : Segment LockId ProcessEffect ProcessPoint} (h : mainSegment σ p e = some seg)
    (hc : ∀ c, σ.connected c = false) : (seg.effect.apply σ).notices = σ.notices := by
  revert h
  fun_cases mainSegment σ p e
  case case10 clients sent hsent =>
    rintro ⟨⟩
    show σ.notices ++ sent = σ.notices
    have hnil : sent = [] := List.eq_nil_iff_forall_not_mem.mpr fun c hmem => by
      have hopen := List.all_eq_true.mp hsent c hmem
      rw [hc c, Bool.and_false] at hopen
      cases hopen
    rw [hnil, List.append_nil]
  all_goals rintro ⟨⟩
  all_goals rfl

theorem notices_of_not_main {t : ProcessTask} {p : ProcessPoint} {e : ProcessEvent}
    {seg : Segment LockId ProcessEffect ProcessPoint} (hs : ProcessStep srv σ t p e seg)
    (ht : t ≠ .main) : (seg.effect.apply σ).notices = σ.notices := by
  cases hs with
  | @handler _ _ e seg hidle h =>
      cases he : e.isFirst <;> rfl
  | main h => exact absurd rfl ht
  | listener h =>
      revert h
      fun_cases listenerSegment σ p e
      all_goals rintro ⟨⟩
      all_goals rfl

/-- While the peers are silent, no notice is sent, and the owner of the server stays in
`serve_forever` unless no control connection is open. -/
theorem serving_or_gone (h : (serverProcess srv).Runs Own s s')
    (hp : (s.point .main).serving = true) (hn : s.store.notices = []) :
    s'.store.notices = [] ∧ s'.store.idle = s.store.idle ∧
      ((s'.point .main).serving = true ∨
        (s.store.idle = 0 ∧ ∀ c, s'.store.connected c = false)) := by
  refine h.invariant (P := fun s' => s'.store.notices = [] ∧ s'.store.idle = s.store.idle ∧
    ((s'.point .main).serving = true ∨ (s.store.idle = 0 ∧ ∀ c, s'.store.connected c = false)))
    ⟨hn, rfl, .inl hp⟩ ?_
  rintro u ⟨t, e⟩ v - ⟨hn, hidle, hor⟩ (he : e.own = true) hstep
  obtain ⟨-, seg, hseg, rfl⟩ := Program.step_eq_some.mp hstep
  have hs := processSegment_cases hseg
  have hquiet := hs.quiet he
  rw [Program.commit_store]
  show (seg.effect.apply u.store).notices = [] ∧ (seg.effect.apply u.store).idle = _ ∧ _
  refine ⟨?_, (ProcessEffect.idle_apply hquiet).trans hidle, ?_⟩
  · by_cases ht : t = .main
    · subst ht
      cases hs with
      | main h =>
          rcases hor with hp | ⟨-, hc⟩
          · exact (mainSegment_serving h he hp).1.trans hn
          · exact (mainSegment_notices h hc).trans hn
    · exact (notices_of_not_main hs ht).trans hn
  · have hgone : ∀ c, u.store.connected c = false →
        (seg.effect.apply u.store).connected c = false := by
      intro c hc
      cases hafter : (seg.effect.apply u.store).connected c with
      | false => rfl
      | true =>
          rw [ProcessEffect.connected_apply hquiet hafter] at hc
          cases hc
    rcases hor with hp | ⟨hidle₀, hc⟩
    · by_cases ht : t = .main
      · subst ht
        rw [Program.commit_point_self]
        cases hs with
        | main h =>
            rcases (mainSegment_serving h he hp).2 with hnext | hall
            · exact .inl hnext
            · obtain ⟨hidle₀, hc, -⟩ := ServerProcess.allGone_iff.mp hall
              exact .inr ⟨hidle ▸ hidle₀, fun c => hgone c (hc c)⟩
      · rw [Program.commit_point_of_ne u seg (Ne.symm ht)]
        exact .inl hp
    · exact .inr ⟨hidle₀, fun c => hgone c (hc c)⟩

/-- A restart by the process alone shows that no control connection was open. -/
theorem RestartsAlone.nobody (h : RestartsAlone srv s) (hp : (s.point .main).serving = true)
    (hn : s.store.notices = []) : s.store.idle = 0 ∧ ∀ c, s.store.connected c = false := by
  obtain ⟨s', hrun, hrestart, hnotices⟩ := h
  obtain ⟨hn', -, hor⟩ := serving_or_gone hrun hp hn
  rcases hor with hserving | ⟨hidle, -⟩
  · rw [hrestart] at hserving
    cases hserving
  · refine ⟨hidle, fun c => ?_⟩
    cases hc : s.store.connected c with
    | false => rfl
    | true =>
        have hmem := hnotices c hc
        rw [hn'] at hmem
        cases hmem

/-- Is the owner of the server past `notify_restarting`? -/
def ProcessPoint.noticed : ProcessPoint → Bool
  | .main (.closing restart) | .main (.clearing restart) | .main (.gather restart _ _)
  | .main (.gathered restart _) => restart
  | .main .restarting => true
  | _ => false

theorem mainSegment_noticed {p : ProcessPoint} {e : ProcessEvent}
    {seg : Segment LockId ProcessEffect ProcessPoint} (h : mainSegment σ p e = some seg)
    (hn : seg.next.noticed = false) :
    p.noticed = false ∧ (seg.effect.apply σ).notices = σ.notices := by
  revert h hn
  fun_cases mainSegment σ p e
  case case16 restart _ _ =>
    rintro ⟨⟩ hn
    cases restart
    · exact ⟨rfl, rfl⟩
    · cases hn
  all_goals rintro ⟨⟩ hn
  all_goals first
    | exact ⟨rfl, rfl⟩
    | exact ⟨hn, rfl⟩
    | cases hn

theorem notices_eq_nil (h : (serverProcess srv).Reachable s)
    (hp : (s.point .main).noticed = false) : s.store.notices = [] := by
  refine h.invariant (P := fun s => (s.point .main).noticed = false → s.store.notices = [])
    (fun _ => rfl) ?_ hp
  rintro u ⟨t, e⟩ v - ih - hstep
  obtain ⟨-, seg, hseg, rfl⟩ := Program.step_eq_some.mp hstep
  have hs := processSegment_cases hseg
  rw [Program.commit_store]
  by_cases ht : t = .main
  · subst ht
    rw [Program.commit_point_self]
    intro hn
    cases hs with
    | main h =>
        obtain ⟨hp, heq⟩ := mainSegment_noticed h hn
        exact heq.trans (ih hp)
  · rw [Program.commit_point_of_ne u seg (Ne.symm ht)]
    exact fun hn => (notices_of_not_main hs ht).trans (ih hn)

/-! ## Nobody is connected -/

/-- No control connection is open, no public connection of a registered service is, and no
control handler is entering or inside `_register_client`. -/
structure NobodyConnected (s : ProcessState) : Prop where
  gone : s.store.allGone = true
  services : s.store.server.allClosed
    (s.store.server.services.values.map RegisteredService.listener) = true
  sessions : ∀ c p, (serverView s).point (.control c) = .control p →
    p.session = true ∧ ∀ first, p ≠ .join first

theorem Effect.of_tunnels {σ : Store} {φ : Effect} {k : Nat} {conn : TunnelConn}
    (hφ : φ.opens = false)
    (hclosed : ∀ k conn, σ.tunnels.get? k = some conn → conn.closed = true)
    (h : (φ.apply σ).tunnels.get? k = some conn) : conn.closed = true := by
  have hmodify : ∀ k' (f : TunnelConn → TunnelConn), (∀ conn, (f conn).closed = true) →
      (σ.tunnels.modify k' f).get? k = some conn → conn.closed = true := by
    intro k' f hf h
    rw [Heap.get?_modify] at h
    split at h
    · obtain ⟨conn₀, -, rfl⟩ := Option.map_eq_some_iff.mp h
      exact hf conn₀
    · exact hclosed k conn h
  cases φ with
  | newTunnel => cases hφ
  | closeTunnel k' => exact hmodify k' _ (fun _ => rfl) h
  | relayed i k' => exact hmodify k' _ (fun _ => rfl) h
  | refuse k' e => exact hmodify k' _ (fun _ => rfl) h
  | closeSession c =>
      simp only [Effect.apply] at h
      split at h <;> exact hclosed k conn h
  | _ => exact hclosed k conn h

/-- Closed control connections stay closed as long as the process is left to itself. -/
theorem ProcessEffect.allGone_apply {φ : ProcessEffect} (hφ : φ.quiet = true)
    (h : σ.allGone = true) : (φ.apply σ).allGone = true := by
  obtain ⟨hidle, hconn, htunnels⟩ := ServerProcess.allGone_iff.mp h
  refine ServerProcess.allGone_iff.mpr ⟨(idle_apply hφ).trans hidle, fun c => ?_,
    fun k conn hk => ?_⟩
  · cases hc : (φ.apply σ).connected c with
    | false => rfl
    | true =>
        rw [← hconn c, connected_apply hφ hc]
  · cases φ with
    | handle φ => exact Effect.of_tunnels (Bool.not_eq_true' _ ▸ hφ) htunnels hk
    | none => exact htunnels k conn hk
    | stop => exact htunnels k conn hk
    | notify cs => exact htunnels k conn hk
    | clear => exact htunnels k conn hk
    | closeWriters cs => exact htunnels k conn hk
    | _ => cases hφ

theorem Effect.allClosed_apply {σ : Store} {φ : Effect} {ls ls' : List Nat}
    (hφ : φ.opens = false) (hsub : ∀ l ∈ ls', l ∈ ls) (h : σ.allClosed ls = true) :
    (φ.apply σ).allClosed ls' = true := by
  refine allClosed_iff.mpr fun i conn hc hmem => ?_
  rcases Effect.of_conns hc with ⟨conn₀, hc₀, rfl⟩ | ⟨⟨l, name, rfl, -⟩, -⟩
  · show (conn₀.closed || _) = true
    rw [allClosed_iff.mp h i conn₀ hc₀ (hsub _ hmem), Bool.true_or]
  · cases hφ

theorem allClosed_clear {σ : Store} {ls : List Nat} (h : σ.allClosed ls = true) :
    σ.clear.allClosed ls = true := by
  refine allClosed_iff.mpr fun i conn hc hmem => ?_
  obtain ⟨conn₀, hc₀, rfl⟩ := of_clear_conns hc
  rw [clearedConn_listener] at hmem
  rw [clearedConn_closed]
  exact allClosed_iff.mp h i conn₀ hc₀ hmem

/-- A step of a handler that registers nothing and enters no registration. -/
theorem NobodyConnected.handler {t : TaskId} {e : Event} {seg : Segment LockId Effect Point}
    (h : NobodyConnected s)
    (hseg : serverSegment srv s.store.server t ((serverView s).point t) e = some seg)
    (he : e.own = true) (hreg : ∀ r, seg.effect ≠ .register r)
    (hnext : ∀ p, seg.next = .control p → p.session = true ∧ ∀ first, p ≠ .join first)
    (hstore : s'.store = (ProcessEffect.handle seg.effect).apply s.store)
    (hpoint : (serverView s').point = Function.update (serverView s).point t seg.next) :
    NobodyConnected s' := by
  have hopens := serverSegment_opens hseg he
  constructor
  · rw [hstore]
    exact ProcessEffect.allGone_apply (by rw [ProcessEffect.quiet, hopens]; rfl) h.gone
  · rw [hstore]
    refine Effect.allClosed_apply hopens (fun l hl => ?_) h.services
    obtain ⟨r, hr, rfl⟩ := List.mem_map.mp hl
    obtain ⟨k, hk⟩ := (Dict.mem_values _ _).mp hr
    rcases Effect.of_services hk with ⟨hφ, -⟩ | ⟨hk, -⟩
    · exact absurd hφ (hreg r)
    · exact List.mem_map_of_mem ((Dict.mem_values _ _).mpr ⟨k, hk⟩)
  · intro c p hp
    rw [hpoint] at hp
    by_cases hct : TaskId.control c = t
    · subst hct
      rw [Function.update_self] at hp
      exact hnext p hp
    · rw [Function.update_of_ne hct] at hp
      exact h.sessions c p hp

/-- A step of the task that owns the server. -/
theorem NobodyConnected.main {p : ProcessPoint} {e : ProcessEvent}
    {seg : Segment LockId ProcessEffect ProcessPoint} (h : NobodyConnected s)
    (hseg : mainSegment s.store p e = some seg) :
    NobodyConnected ((processProgram srv).commit s .main seg) := by
  have hquiet := mainSegment_quiet hseg
  constructor
  · rw [Program.commit_store]
    exact ProcessEffect.allGone_apply hquiet h.gone
  · rw [Program.commit_store]
    show (seg.effect.apply s.store).server.allClosed
      ((seg.effect.apply s.store).server.services.values.map _) = true
    rcases mainSegment_effect hseg with haside | ⟨-, -, hφ⟩
    · have hkept := ProcessEffect.kept_of_aside (σ := s.store) haside
      rw [hkept.services, allClosed, hkept.conns]
      exact h.services
    · rw [hφ]
      exact allClosed_iff.mpr fun i conn _ hmem => by cases hmem
  · rw [view_other (t := .main) s seg nofun]
    exact h.sessions

/-! ## The lock of the server comes free -/

/-- A task is at a point of its own program. -/
def Placed : TaskId → Point → Prop
  | .control _, .control _ | .pub _, .pub _ | .tunnel _, .tunnel _ | _, .start => True
  | _, _ => False

theorem ServerStep.placed {σ : Store} {t : TaskId} {p : Point} {seg : Segment LockId Effect Point}
    (hs : ServerStep srv σ t p seg) : Placed t seg.next := by
  cases hs <;> trivial

theorem placed (h : (serverProcess srv).Reachable s) (t : TaskId) :
    Placed t ((serverView s).point t) := by
  refine h.invariant (P := fun s => ∀ t, Placed t ((serverView s).point t)) (fun t => ?_) ?_ t
  · cases t <;> trivial
  · intro u a v _ ih _ hstep t
    rcases view_step hstep with ⟨t', e, seg, -, hseg, -, hpoint, -⟩ | ⟨-, -, -, hpoint⟩ |
      ⟨-, hpoint, -⟩
    · rw [hpoint]
      by_cases htt : t = t'
      · subst htt
        rw [Function.update_self]
        exact (serverSegment_cases hseg).placed
      · rw [Function.update_of_ne htt]
        exact ih t
    · rw [hpoint]
      exact ih t
    · rw [hpoint]
      exact ih t

theorem exists_fresh (ids : List String) : ∃ id, id ∉ ids := by
  obtain ⟨id, hid⟩ := Infinite.exists_notMem_finset ids.toFinset
  exact ⟨id, fun h => hid (List.mem_toFinset.mpr h)⟩

/-- Where a handler comes to from a critical section that is not part of a registration: it
rests, asks for the lock again, or runs on for one segment more. -/
inductive AfterSection (t : TaskId) : Point → Prop
  | rests {p} (hw : p.wants t = none) (hr : p.runsOn = false) : AfterSection t p
  | again {p} (hw : p.wants t = some .server) : AfterSection t p
  | sends {h service id} (ht : t = .pub h) : AfterSection t (.pub (.sendOpen service id))
  | refuses {k e} (ht : t = .tunnel k) : AfterSection t (.tunnel (.refused e))

/-- The step of a handler leads to no registration. -/
structure NoRegistration (seg : Segment LockId Effect Point) : Prop where
  effect : ∀ r, seg.effect ≠ .register r
  next : ∀ p, seg.next = .control p → p.session = true ∧ ∀ first, p ≠ .join first

theorem PublicStep.noRegistration {σ : Store} {i : Nat} {conn : PublicConn} {p : PublicPoint}
    {seg : Segment LockId Effect PublicPoint} (hs : PublicStep σ i conn p seg) :
    NoRegistration (seg.lift .pub) := by
  refine ⟨fun r hr => ?_, fun p hp => by cases hp⟩
  rw [Segment.lift_effect] at hr
  cases hs <;> cases hr

theorem TunnelStep.noRegistration {σ : Store} {k : Nat} {p : TunnelPoint}
    {seg : Segment LockId Effect TunnelPoint} (hs : TunnelStep srv σ k p seg) :
    NoRegistration (seg.lift .tunnel) := by
  refine ⟨fun r hr => ?_, fun p hp => by cases hp⟩
  rw [Segment.lift_effect] at hr
  cases hs <;> cases hr

theorem publicSection (σ : Store) (i : Nat) (conn : PublicConn) {p : PublicPoint}
    (hw : p.wants = some .server) : ∃ e seg, e.own = true ∧
      publicSegment σ i conn p e = some seg ∧ seg.releases = some .server ∧
      AfterSection (.pub i) (.pub seg.next) := by
  cases p with
  | lookup =>
      obtain ⟨id, hid⟩ := exists_fresh σ.tickets
      cases hservice : σ.services.get? conn.serviceName with
      | none =>
          refine ⟨.ticket id, ⟨.closeConn i, .closing none, some .server⟩, rfl, ?_, rfl,
            .rests rfl rfl⟩
          rw [publicSegment, hservice]
      | some service =>
          refine ⟨.ticket id, ⟨.ticket i id, .insert service id, some .server⟩, rfl, ?_, rfl,
            .again rfl⟩
          rw [publicSegment, hservice]
          exact if_neg hid
  | insert service id => exact ⟨.go, _, rfl, rfl, rfl, .sends rfl⟩
  | cleanup service id k => exact ⟨.go, _, rfl, rfl, rfl, .rests rfl rfl⟩
  | _ => cases hw

theorem tunnelSection (srv : Server) (σ : Store) (k : Nat) {p : TunnelPoint}
    (hw : p.wants = some .server) : ∃ seg, tunnelSegment srv σ k p .go = some seg ∧
      seg.releases = some .server ∧ AfterSection (.tunnel k) (.tunnel seg.next) := by
  cases p with
  | claim message =>
      cases hclaim : claimed σ (tunnelRequest srv message) with
      | ok i =>
          refine ⟨⟨.pair i k, .finished, some .server⟩, ?_, rfl, .rests rfl rfl⟩
          rw [tunnelSegment, hclaim]
      | error e =>
          refine ⟨⟨.none, .refused e, some .server⟩, ?_, rfl, .refuses rfl⟩
          rw [tunnelSegment, hclaim]
  | _ => cases hw

/-- A handler that has come to the lock can go through its critical section. -/
theorem critical_section {t : TaskId} (h : (serverProcess srv).Reachable s)
    (hn : NobodyConnected s) (hw : ((serverView s).point t).wants t = some .server) :
    ∃ e seg, e.own = true ∧
      serverSegment srv s.store.server t ((serverView s).point t) e = some seg ∧
      seg.releases = some .server ∧ NoRegistration seg ∧ AfterSection t seg.next := by
  have hplaced := placed h t
  have hticket := ((processTunnels h).2 t).1
  have hsessions := hn.sessions
  revert hw hplaced hticket hsessions
  generalize hp : (serverView s).point t = p
  intro hw hplaced hticket hsessions
  cases t with
  | control c =>
      cases p with
      | start => cases hw
      | control p =>
          obtain ⟨hsession, hjoin⟩ := hsessions c p hp
          cases p with
          | join first => exact absurd rfl (hjoin first)
          | leave =>
              refine ⟨.go, _, rfl, rfl, rfl, ⟨fun r hr => ?_, fun p hp => ?_⟩, .rests rfl rfl⟩
              · cases hr
              · cases hp
                exact ⟨rfl, nofun⟩
          | _ => first | (cases hw; done) | cases hsession
      | _ => exact hplaced.elim
  | pub i =>
      cases p with
      | start => cases hw
      | pub p =>
          obtain ⟨conn, hc, -⟩ := hticket
          obtain ⟨e, seg, he, hseg, hrel, hafter⟩ := publicSection s.store.server i conn hw
          refine ⟨e, seg.lift .pub, he, ?_, hrel, (publicSegment_cases hseg).noRegistration, hafter⟩
          rw [serverSegment, hc]
          exact congrArg (Option.map _) hseg
      | _ => exact hplaced.elim
  | tunnel k =>
      cases p with
      | start => cases hw
      | tunnel p =>
          obtain ⟨seg, hseg, hrel, hafter⟩ := tunnelSection srv s.store.server k hw
          refine ⟨.go, seg.lift .tunnel, rfl, ?_, hrel, (tunnelSegment_cases hseg).noRegistration,
            hafter⟩
          rw [serverSegment, hseg]
          rfl
      | _ => exact hplaced.elim

/-- A segment of a handler, as one of the process. -/
def handled (seg : Segment LockId Effect Point) : Segment LockId ProcessEffect ProcessPoint :=
  ⟨.handle seg.effect, .server seg.next, seg.releases⟩

theorem handler_runs {t : TaskId} {e : Event} {seg : Segment LockId Effect Point}
    (hrun : (processProgram srv).canRun s (.handler t) = true) (he : e.own = true)
    (hseg : serverSegment srv s.store.server t ((serverView s).point t) e = some seg) :
    (serverProcess srv).Runs Own s ((processProgram srv).commit s (.handler t) (handled seg)) := by
  have hstep : handlerSegment srv s.store t ((serverView s).point t) e = some (handled seg) := by
    rw [handlerSegment, Event.isFirst_of_own he, hseg]
    rfl
  exact .tail .refl (show Own s (.handler t, .handler e) from he)
    (Program.step_eq_some.mpr ⟨hrun, handled seg, hstep, rfl⟩)

theorem NobodyConnected.handled {t : TaskId} {e : Event} {seg : Segment LockId Effect Point}
    (h : NobodyConnected s)
    (hseg : serverSegment srv s.store.server t ((serverView s).point t) e = some seg)
    (he : e.own = true) (hno : NoRegistration seg) :
    NobodyConnected ((processProgram srv).commit s (.handler t) (handled seg)) :=
  h.handler hseg he hno.effect hno.next (Program.commit_store _ _ _) (view_handler s t rfl)

/-- The segment after a critical section that goes on at once. -/
theorem AfterSection.goes_on {t : TaskId} {p : Point} (ha : AfterSection t p)
    (hrest : p.runsOn = true ∨ ∃ k, p.wants t = some k ∧ k ≠ .server)
    (hp : (serverView s).point t = p) (h : (serverProcess srv).Reachable s) :
    ∃ seg, serverSegment srv s.store.server t ((serverView s).point t) .go = some seg ∧
      seg.releases = none ∧ seg.next.wants t = none ∧ seg.next.runsOn = false ∧
      NoRegistration seg := by
  rw [hp]
  cases ha with
  | rests hw hr =>
      rcases hrest with hrest | ⟨k, hk, -⟩
      · rw [hr] at hrest
        cases hrest
      · rw [hw] at hk
        cases hk
  | again hw =>
      rcases hrest with hrest | ⟨k, hk, hne⟩
      · rw [Point.wants_of_runsOn hrest] at hw
        cases hw
      · rw [hw] at hk
        exact absurd (Option.some.inj hk).symm hne
  | @sends i service id ht =>
      subst ht
      have hticket := ((processTunnels h).2 (.pub i)).1
      rw [hp] at hticket
      obtain ⟨conn, hc, -⟩ := hticket
      refine ⟨_, by rw [serverSegment, hc]; rfl, rfl, rfl, rfl, ?_⟩
      have hs : PublicStep s.store.server i conn (.sendOpen service id) _ := .sendOpen
      exact hs.noRegistration
  | @refuses k e ht =>
      subst ht
      refine ⟨_, rfl, rfl, rfl, rfl, ?_⟩
      have hs : TunnelStep srv s.store.server k (.refused e) _ := .refuse
      exact hs.noRegistration

/-- In a state in which nobody is connected, whoever is in the queue for the lock of the
server waits at a critical section. -/
theorem NobodyConnected.wants_of_queued (hn : NobodyConnected s) {t : TaskId}
    (hk : Point.holds t ((serverView s).point t) .server ∨
      ((serverView s).point t).wants t = some .server) :
    ((serverView s).point t).wants t = some .server := by
  refine hk.resolve_left fun hholds => ?_
  have hsessions := hn.sessions
  revert hholds hsessions
  generalize hp : (serverView s).point t = p
  intro hholds hsessions
  cases t with
  | control c =>
      cases p with
      | control p =>
          obtain ⟨hsession, -⟩ := hsessions c p hp
          cases p <;> first | (cases hholds; done) | cases hsession
      | pub p => cases p <;> cases hholds
      | _ => exact hholds
  | _ =>
      cases p with
      | pub p => cases p <;> cases hholds
      | _ => exact hholds

/-- The step of a handler out of its critical section: what becomes of the queue, and when
the handler goes on. -/
theorem commit_section {u : TaskId} {seg : Segment LockId Effect Point} {rest : List ProcessTask}
    (hrel : seg.releases = some .server) (hwaiters : (s.locks .server).waiters = rest)
    (hrest : rest ≠ []) :
    (∃ more, (((processProgram srv).commit s (.handler u) (handled seg)).locks .server).queue =
      rest ++ more) ∧
    (((processProgram srv).commit s (.handler u) (handled seg)).running = none ∨
      (((processProgram srv).commit s (.handler u) (handled seg)).running = some (.handler u) ∧
        (seg.next.runsOn = true ∨ ∃ k, seg.next.wants u = some k ∧ k ≠ .server))) := by
  have hfree : (Program.releaseLocks s.locks (handled seg).releases .server).queue = rest := by
    show (Program.releaseLocks s.locks seg.releases .server).queue = rest
    rw [hrel]
    show (Function.update s.locks .server (s.locks .server).release .server).queue = rest
    rw [Function.update_self, FifoLock.queue_release, hwaiters]
  cases hw : seg.next.wants u with
  | none =>
      have hw : (processProgram srv).wants (.handler u) (handled seg).next = none := hw
      obtain ⟨hlocks, hrunning⟩ := Program.commit_of_wants_none s hw
      refine ⟨⟨[], by rw [hlocks, hfree, List.append_nil]⟩, ?_⟩
      cases hr : seg.next.runsOn with
      | true =>
          have hr : (processProgram srv).runsOn (handled seg).next = true := hr
          exact .inr ⟨by rw [hrunning, if_pos hr], .inl rfl⟩
      | false =>
          have hr : (processProgram srv).runsOn (handled seg).next = false := hr
          exact .inl (by rw [hrunning, hr]; rfl)
  | some k =>
      have hw : (processProgram srv).wants (.handler u) (handled seg).next = some k := hw
      obtain ⟨hlocks, hrunning⟩ := Program.commit_of_wants s hw
      by_cases hk : k = .server
      · subst hk
        refine ⟨⟨[.handler u], ?_⟩, .inl ?_⟩
        · rw [hlocks, Function.update_self, FifoLock.queue_acquire, hfree]
        · -- somebody else is in the queue
          rw [hrunning, if_neg]
          intro hisFree
          rw [FifoLock.queue_of_isFree hisFree] at hfree
          exact hrest hfree.symm
      · refine ⟨⟨[], ?_⟩, ?_⟩
        · rw [hlocks, Function.update_of_ne (Ne.symm hk), hfree, List.append_nil]
        · rw [hrunning]
          split
          · exact .inr ⟨rfl, .inr ⟨k, rfl, hk⟩⟩
          · exact .inl rfl

/-- The first of those who have asked for the lock of the server goes through its critical
section, and comes to rest. -/
theorem serve_head {u : TaskId} {rest : List ProcessTask}
    (h : (serverProcess srv).Reachable s) (hn : NobodyConnected s) (hrunning : s.running = none)
    (hq : (s.locks .server).queue = .handler u :: rest) (hrest : rest ≠ []) :
    ∃ s', (serverProcess srv).Runs Own s s' ∧ NobodyConnected s' ∧ s'.running = none ∧
      s'.point .main = s.point .main ∧ ∃ more, (s'.locks .server).queue = rest ++ more := by
  have hqueued := (processComplete srv).queued h
  obtain ⟨hholder, hwaiters⟩ := (hqueued.handed .server).queue_eq hq
  have hw : ((serverView s).point u).wants u = some .server :=
    hn.wants_of_queued (hqueued.member .server (.handler u) (hq ▸ List.mem_cons_self))
  have hrun : (processProgram srv).canRun s (.handler u) = true := by
    have hw : (processProgram srv).wants (.handler u) (s.point (.handler u)) = some .server := hw
    simp [Program.canRun, hrunning, hw, hholder]
  obtain ⟨e, seg, he, hseg, hrel, hno, hafter⟩ := critical_section h hn hw
  have hruns := handler_runs hrun he hseg
  have hn' := hn.handled hseg he hno
  have hreach := h.runs (hruns.mono fun _ _ _ => trivial)
  obtain ⟨⟨more, hqueue⟩, hgo⟩ := commit_section hrel hwaiters hrest
  have hmain : ∀ (s : ProcessState) (seg : Segment LockId ProcessEffect ProcessPoint),
      ((processProgram srv).commit s (.handler u) seg).point .main = s.point .main :=
    fun s seg => Program.commit_point_of_ne s seg fun h => by cases h
  rcases hgo with hnone | ⟨hsome, hgoes⟩
  · exact ⟨_, hruns, hn', hnone, hmain _ _, more, hqueue⟩
  · have hpoint : (serverView ((processProgram srv).commit s (.handler u) (handled seg))).point u =
        seg.next := by
      rw [view_handler s u rfl]
      exact Function.update_self _ _ _
    obtain ⟨seg₂, hseg₂, hrel₂, hw₂, hr₂, hno₂⟩ := hafter.goes_on hgoes hpoint hreach
    have hruns₂ := handler_runs (Program.canRun_commit_of_running hsome) rfl hseg₂
    have hw₂ : (processProgram srv).wants (.handler u) (handled seg₂).next = none := hw₂
    have hr₂ : (processProgram srv).runsOn (handled seg₂).next = false := hr₂
    obtain ⟨hlocks₂, hrunning₂⟩ := Program.commit_of_wants_none
      ((processProgram srv).commit s (.handler u) (handled seg)) hw₂
    refine ⟨_, hruns.trans hruns₂, hn'.handled hseg₂ rfl hno₂, ?_, ?_, more, ?_⟩
    · rw [hrunning₂, hr₂]
      rfl
    · rw [hmain, hmain]
    · rw [hlocks₂]
      show ((Program.releaseLocks _ seg₂.releases) .server).queue = _
      rw [hrel₂]
      exact hqueue

/-- Everybody who asked for the lock before the owner of the server goes through a critical
section, and then the owner can enter its own. -/
theorem lock_comes {ahead behind : List ProcessTask} (h : (serverProcess srv).Reachable s)
    (hn : NobodyConnected s) (hrunning : s.running = none ∨ ahead = [] ∧ s.running = some .main)
    (hq : (s.locks .server).queue = ahead ++ .main :: behind) (hahead : .main ∉ ahead)
    (hw : (processProgram srv).wants .main (s.point .main) = some .server) :
    ∃ s', (serverProcess srv).Runs Own s s' ∧ NobodyConnected s' ∧
      s'.point .main = s.point .main ∧ (processProgram srv).canRun s' .main = true := by
  induction ahead generalizing s behind with
  | nil =>
      have hqueued := (processComplete srv).queued h
      obtain ⟨hholder, -⟩ := (hqueued.handed .server).queue_eq hq
      refine ⟨s, .refl, hn, rfl, ?_⟩
      rcases hrunning with hrunning | ⟨-, hrunning⟩ <;>
        simp [Program.canRun, hrunning, hw, hholder]
  | cons t ahead ih =>
      have hnone : s.running = none := hrunning.resolve_right fun h => by cases h.1
      cases t with
      | main => exact absurd List.mem_cons_self hahead
      | listener =>
          -- the transport of the listener never asks for the lock
          have hmember := ((processComplete srv).queued h).member .server .listener
            (hq ▸ List.mem_cons_self)
          cases hmember.resolve_left id
      | handler u =>
          rw [List.cons_append] at hq
          have hrest : ahead ++ ProcessTask.main :: behind ≠ [] :=
            List.append_ne_nil_of_right_ne_nil _ (List.cons_ne_nil _ _)
          obtain ⟨s', hruns, hn', hrunning', hmain, more, hq'⟩ := serve_head h hn hnone hq hrest
          have h' := h.runs (hruns.mono fun _ _ _ => trivial)
          rw [List.append_assoc] at hq'
          obtain ⟨s'', hruns', hn'', hmain', hrun⟩ := ih h' hn' (.inl hrunning') hq'
            (fun hmem => hahead (List.mem_cons_of_mem _ hmem)) (hmain ▸ hw)
          exact ⟨s'', hruns.trans hruns', hn'', hmain'.trans hmain, hrun⟩

/-! ## The way to the restart -/

theorem main_runs {p : ProcessPoint} {e : ProcessEvent}
    {seg : Segment LockId ProcessEffect ProcessPoint} (hp : s.point .main = p)
    (hrun : (processProgram srv).canRun s .main = true) (he : e.own = true)
    (hseg : mainSegment s.store p e = some seg) :
    (serverProcess srv).Runs Own s ((processProgram srv).commit s .main seg) := by
  subst hp
  exact .tail .refl (show Own s (.main, e) from he)
    (Program.step_eq_some.mpr ⟨hrun, seg, hseg, rfl⟩)

/-- Where the owner of the server has come to, alone and with nobody connected. -/
structure Arrived (srv : Server) (s₁ s : ProcessState) (p : MainPoint) : Prop where
  runs : (serverProcess srv).Runs Own s₁ s
  nobody : NobodyConnected s
  point : s.point .main = .main p
  canRun : (processProgram srv).canRun s .main = true

variable {s₁ : ProcessState}

/-- The owner goes on to a point at which it does not ask for the lock. -/
theorem Arrived.goes {p q : MainPoint} {e : ProcessEvent} {φ : ProcessEffect}
    {r : Option LockId} (h : Arrived srv s₁ s p) (he : e.own = true)
    (hseg : mainSegment s.store (.main p) e = some ⟨φ, .main q, r⟩)
    (hw : ProcessPoint.wants .main (.main q) = none) :
    Arrived srv s₁ ((processProgram srv).commit s .main ⟨φ, .main q, r⟩) q where
  runs := h.runs.trans (main_runs h.point h.canRun he hseg)
  nobody := h.nobody.main hseg
  point := Program.commit_point_self _ _ _
  canRun := Program.canRun_commit hw

/-- The owner asks for the lock, and gets it. -/
theorem Arrived.enters {p q : MainPoint} {e : ProcessEvent} {φ : ProcessEffect}
    (h : Arrived srv s₁ s p) (hreach : (serverProcess srv).Reachable s₁) (he : e.own = true)
    (hseg : mainSegment s.store (.main p) e = some ⟨φ, .main q, none⟩)
    (hw : ProcessPoint.wants .main (.main q) = some .server)
    (hp : ProcessPoint.wants .main (.main p) = none) :
    ∃ s', Arrived srv s₁ s' q := by
  have hruns := main_runs h.point h.canRun he hseg
  have hreach' := hreach.runs (h.runs.mono fun _ _ _ => trivial)
  have hreach'' := hreach'.runs (hruns.mono fun _ _ _ => trivial)
  have hw : (processProgram srv).wants .main
      (Segment.mk φ (ProcessPoint.main q) (none : Option LockId)).next = some .server := hw
  obtain ⟨hlocks, hrunning⟩ := Program.commit_of_wants s hw
  have hqueued := (processComplete srv).queued hreach'
  -- the owner is not in the queue before it asks
  have hahead : .main ∉ (s.locks .server).queue := by
    intro hmem
    rcases hqueued.member .server .main hmem with hholds | hwants
    · exact hholds
    · rw [h.point] at hwants
      have hwants : ProcessPoint.wants .main (.main p) = some .server := hwants
      rw [hp] at hwants
      cases hwants
  have hq : (((processProgram srv).commit s .main ⟨φ, .main q, none⟩).locks .server).queue =
      (s.locks .server).queue ++ .main :: [] := by
    rw [hlocks, Function.update_self, FifoLock.queue_acquire]
    rfl
  have hfree : ((processProgram srv).commit s .main ⟨φ, .main q, none⟩).running = none ∨
      (s.locks .server).queue = [] ∧
        ((processProgram srv).commit s .main ⟨φ, .main q, none⟩).running = some .main := by
    rw [hrunning]
    split
    · rename_i hisFree
      exact .inr ⟨FifoLock.queue_of_isFree hisFree, rfl⟩
    · exact .inl rfl
  have hpoint := Program.commit_point_self (P := processProgram srv) s .main
    ⟨φ, ProcessPoint.main q, none⟩
  obtain ⟨s', hruns', hn', hmain, hrun⟩ := lock_comes hreach'' (h.nobody.main hseg) hfree hq
    hahead (by rw [hpoint]; exact hw)
  exact ⟨s', (h.runs.trans hruns).trans hruns', hn', hmain.trans hpoint, hrun⟩

/-- With nobody connected the owner of the server goes all the way to the restart. -/
theorem Arrived.restarts (h : Arrived srv s₁ s (.cancelling true))
    (hreach : (serverProcess srv).Reachable s₁) :
    ∃ s', (serverProcess srv).Runs Own s₁ s' ∧ s'.point .main = .main .restarting := by
  -- `serve_forever` ends, since every control connection is closed
  have hstopping := h.goes (e := .go) (q := .stopping true) rfl rfl rfl
  have hleaving := hstopping.goes (e := .go) (q := .leaving true) rfl
    (if_pos hstopping.nobody.gone) rfl
  obtain ⟨s₂, hnotify⟩ := hleaving.enters (e := .go) (q := .notify) hreach rfl
    (if_pos hleaving.nobody.gone) rfl rfl
  -- nobody is there to be notified
  have hnotifying := hnotify.goes (e := .go) rfl rfl rfl
  have hclosing := hnotifying.goes (e := .notified []) (q := .closing true) rfl rfl rfl
  obtain ⟨s₃, hclearing⟩ := hclosing.enters (e := .go) (q := .clearing true) hreach rfl
    (if_pos hclosing.nobody.gone) rfl rfl
  have hgather := hclearing.goes (e := .go) rfl rfl rfl
  have hgathered := hgather.goes (e := .go) rfl rfl rfl
  have hlast := hgathered.goes (e := .go) (q := .restarting) rfl (if_pos ?_) rfl
  · exact ⟨_, hlast.runs, hlast.point⟩
  · rw [Program.commit_store, Program.commit_store]
    exact allClosed_clear hclearing.nobody.services

theorem mainSegment_detect {p : ProcessPoint} {e : ProcessEvent}
    {seg : Segment LockId ProcessEffect ProcessPoint} (h : mainSegment σ p e = some seg)
    (he : e = .detect) : p = .server .start ∧ seg = ⟨.none, .main (.cancelling true), none⟩ := by
  revert h
  fun_cases mainSegment σ p e
  case case1 =>
    rintro ⟨⟩
    exact ⟨rfl, rfl⟩
  all_goals cases he
  rintro ⟨⟩

theorem of_detect {s s₁ : ProcessState}
    (hd : (serverProcess srv).step s (.main, .detect) = some s₁) :
    mainSegment s.store (s.point .main) .detect = some ⟨.none, .main (.cancelling true), none⟩ ∧
      s₁ = (processProgram srv).commit s .main ⟨.none, .main (.cancelling true), none⟩ := by
  obtain ⟨-, seg, hseg, rfl⟩ := Program.step_eq_some.mp hd
  have hmain : mainSegment s.store (s.point .main) .detect = some seg := hseg
  obtain ⟨-, rfl⟩ := mainSegment_detect hmain rfl
  exact ⟨hmain, rfl⟩

/-- If the process restarts by itself once the new version is detected, then no control
connection was idle or had a session. -/
theorem nobody_of_restartsAlone {s s₁ : ProcessState} (h : (serverProcess srv).Reachable s)
    (hd : (serverProcess srv).step s (.main, .detect) = some s₁) (hr : RestartsAlone srv s₁) :
    s.store.idle = 0 ∧ ∀ c, s.store.connected c = false := by
  have hs₁ : (serverProcess srv).Reachable s₁ := h.tail trivial hd
  obtain ⟨-, rfl⟩ := of_detect hd
  have hnil := notices_eq_nil hs₁ (by rw [Program.commit_point_self]; rfl)
  have hnobody := hr.nobody (by rw [Program.commit_point_self]; rfl) hnil
  rwa [Program.commit_store] at hnobody

/-- **Restarts that depend on no peer.** From the detection of a new version the process
comes to the restart by itself if nobody is connected, and only if no control connection is
idle or has a session. -/
theorem restarts_alone (srv : Server) {s s₁ : ProcessState}
    (h : (serverProcess srv).Reachable s)
    (hd : (serverProcess srv).step s (.main, .detect) = some s₁) :
    (NobodyConnected s → RestartsAlone srv s₁) ∧
    (RestartsAlone srv s₁ → s.store.idle = 0 ∧ ∀ c, s.store.connected c = false) := by
  refine ⟨fun hn => ?_, nobody_of_restartsAlone h hd⟩
  have hs₁ : (serverProcess srv).Reachable s₁ := h.tail trivial hd
  obtain ⟨hmain, rfl⟩ := of_detect hd
  have harrived : Arrived srv _ _ (.cancelling true) :=
    ⟨.refl, hn.main hmain, Program.commit_point_self _ _ _, Program.canRun_commit rfl⟩
  obtain ⟨s', hruns, hrestarting⟩ := harrived.restarts hs₁
  refine ⟨s', hruns, hrestarting, fun c hc => ?_⟩
  rw [(ServerProcess.allGone_iff.mp harrived.nobody.gone).2.1 c] at hc
  cases hc

/-- Client `a` registers a service and is answered. -/
def registeredRun : List ProcessAction :=
  Schedule.incoming :: Schedule.handlers (Schedule.connect "a" false [Schedule.webItem] ++
    Schedule.regular "a" 8080 ++ Schedule.answer "a")

/-- Then it disconnects, and its handler ends. -/
def departedRun : List ProcessAction :=
  registeredRun ++ Schedule.handlers ((.control "a", .read none) :: Schedule.goes (.control "a") 3)

/-- Is a control handler at this point neither entering nor inside `_register_client`? -/
def Point.outside : Point → Bool
  | .control (.join _) => false
  | .control p => p.session
  | _ => true

theorem restarts_alone_departed : ∃ s s₁, (serverProcess Schedule.mixedServer).Reachable s ∧
    (serverProcess Schedule.mixedServer).step s (.main, .detect) = some s₁ ∧
    s.store.server.listeners.size = 1 ∧ RestartsAlone Schedule.mixedServer s₁ := by
  obtain ⟨s, hexec, htest⟩ := (Option.any_eq_true _ _).mp (show
    ((serverProcess Schedule.mixedServer).exec (serverProcess Schedule.mixedServer).init
      departedRun).any (fun s => decide (s.store.server.listeners.size = 1) && s.store.allGone &&
        s.store.server.allClosed
          (s.store.server.services.values.map RegisteredService.listener) &&
        ((serverView s).point (.control "a")).outside &&
        ((serverProcess Schedule.mixedServer).step s (.main, .detect)).isSome) = true by decide)
  simp only [Bool.and_eq_true, decide_eq_true_eq] at htest
  obtain ⟨⟨⟨⟨hsize, hgone⟩, hservices⟩, houtside⟩, hdetect⟩ := htest
  obtain ⟨s₁, hd⟩ := Option.isSome_iff_exists.mp hdetect
  have hs : (serverProcess Schedule.mixedServer).Reachable s :=
    System.runs_of_execWhile (fun _ _ _ _ => trivial) hexec
  have htasks : ∀ t ∈ departedRun.map Prod.fst, t = .listener ∨ t = .handler (.control "a") := by
    decide
  have hstay : ∀ c, c ≠ "a" → s.point (.handler (.control c)) = .server .start := by
    intro c hc
    refine Program.point_of_exec hexec fun a ha heq => ?_
    rcases htasks _ (List.mem_map_of_mem ha) with htask | htask
    · rw [heq] at htask
      cases htask
    · rw [heq] at htask
      cases htask
      exact hc rfl
  have hnobody : NobodyConnected s := by
    refine ⟨hgone, hservices, fun c p hp => ?_⟩
    by_cases hc : c = "a"
    · subst hc
      rw [hp] at houtside
      cases p <;> first | (cases houtside; done) | exact ⟨rfl, nofun⟩
    · have hp : (s.point (.handler (.control c))).inServer = .control p := hp
      rw [hstay c hc] at hp
      cases hp
  exact ⟨s, s₁, hs, hd, hsize, (restarts_alone Schedule.mixedServer hs hd).1 hnobody⟩

/-- Client `a` stays connected and is silent, and the update never gets to the restart. -/
theorem restart_stuck : ∃ s s₁, (serverProcess Schedule.mixedServer).Reachable s ∧
    (serverProcess Schedule.mixedServer).step s (.main, .detect) = some s₁ ∧
    s.store.connected "a" = true ∧ ¬ RestartsAlone Schedule.mixedServer s₁ := by
  obtain ⟨s, hs, hconnected, hdetect⟩ := System.exists_of_exec registeredRun
    (M := serverProcess Schedule.mixedServer)
    (P := fun s => s.store.connected "a" = true ∧
      ((serverProcess Schedule.mixedServer).step s (.main, .detect)).isSome = true) (by decide)
  obtain ⟨s₁, hd⟩ := Option.isSome_iff_exists.mp hdetect
  refine ⟨s, s₁, hs, hd, hconnected, fun hr => ?_⟩
  rw [(nobody_of_restartsAlone hs hd hr).2 "a"] at hconnected
  cases hconnected

end PyFrp
