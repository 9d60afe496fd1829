import PyFrp.Server.Tunnels

/-!
# Waiting for a listener to close

`wait_closed()` of a listener is over when every connection it accepted has been
closed, and a public task may need the server lock to get that far. A control
task that waits with the lock in its hands then waits for good.
-/

namespace PyFrp

open Python Coop Store

variable {srv : Server} {σ : Store} {c : ClientId} {C : State → Action → Prop}

/-- The listeners a control task waits for in `wait_closed()`. -/
def ControlPoint.waitsFor : ControlPoint → List Nat
  | .regularTaken _ r => [r.listener]
  | .poolEvict _ v => v.services.map RegisteredService.listener
  | .dropped _ r _ _ => [r.listener]
  | .left services => services.map RegisteredService.listener
  | _ => []

/-- The listeners it waits for while it has the server lock. -/
def ControlPoint.lockedWait (c : ClientId) (p : ControlPoint) : List Nat :=
  if p.holds c = some .server then p.waitsFor else []

def awaited (s : State) (c : ClientId) : List Nat :=
  match s.point (.control c) with
  | .control p => p.lockedWait c
  | _ => []

theorem ControlPoint.mem_lockedWait {p : ControlPoint} {l : Nat} :
    l ∈ p.lockedWait c ↔ p.holds c = some .server ∧ l ∈ p.waitsFor := by
  unfold lockedWait
  split
  · rename_i hlock
    exact ⟨fun hl => ⟨hlock, hl⟩, And.right⟩
  · rename_i hlock
    exact ⟨nofun, fun h => absurd h.1 hlock⟩

theorem mem_awaited {s : State} {l : Nat} : l ∈ awaited s c ↔ ∃ p : ControlPoint,
    s.point (.control c) = .control p ∧ p.holds c = some .server ∧ l ∈ p.waitsFor := by
  unfold awaited
  constructor
  · intro hl
    split at hl
    · rename_i p hp
      exact ⟨p, hp, ControlPoint.mem_lockedWait.mp hl⟩
    · cases hl
  · rintro ⟨p, hp, hl⟩
    simpa only [hp] using ControlPoint.mem_lockedWait.mpr hl

/-- Does a public task with an open connection have to take the server lock before
it can close it? A task that has been handed a tunnel relays, and closes then. -/
def PublicPoint.needsLock (f : Future) : PublicPoint → Bool
  | .accepted | .lookup | .insert _ _ | .relayed _ _ _ | .cleanup _ _ _ => true
  | .sendOpen _ _ | .openSent _ _ | .waitTunnel _ _ =>
      match f with
      | .result _ => false
      | _ => true
  | .relay _ _ _ | .closing _ | .finished => false

def needsLock (s : State) (h : Nat) : Bool :=
  match s.point (.pub h), s.store.conns.get? h with
  | .pub p, some conn => !conn.closed && p.needsLock conn.future
  | _, _ => false

theorem needsLock_iff {s : State} {h : Nat} :
    needsLock s h = true ↔ ∃ p conn, s.point (.pub h) = .pub p ∧
      s.store.conns.get? h = some conn ∧ conn.closed = false ∧
      p.needsLock conn.future = true := by
  unfold needsLock
  constructor
  · intro hn
    split at hn
    · rename_i p conn hp hc
      simp only [Bool.and_eq_true, Bool.not_eq_true'] at hn
      exact ⟨p, conn, hp, hc, hn⟩
    · cases hn
  · rintro ⟨p, conn, hp, hc, ho, hn⟩
    simp [hp, hc, ho, hn]

/-! ## The condition -/

/-- The listeners a control task closes when it goes on to wait for them with the
server lock: the one of a name that is taken, those of an evicted client. -/
def ControlPoint.closesLocked (σ : Store) (c : ClientId) : ControlPoint → List Nat
  | .regularInsert _ r => if σ.services.contains r.name then [r.listener] else []
  | .poolScan p none scan =>
      if scan.ports = [] then
        match σ.selectVictim c p.item.priority p.request.force scan.lastError with
        | .ok v => v.services.map RegisteredService.listener
        | .error _ => []
      else []
  | _ => []

/-- A public task gives up a tunnel it was handed: the write of its `open` fails, or
the time-out comes in before it has resumed. -/
def LosesTunnel : PublicPoint → Future → Event → Prop
  | .openSent _ _, .result _, .drained (some _) => True
  | .waitTunnel _ _, .result _, .timeout => True
  | _, _, _ => False

/-- A step does not begin a wait under the lock for a connection whose task needs the
lock, nor does the task of a connection that is waited for so lose its tunnel. -/
structure NoLockedWait (s : State) (a : Action) : Prop where
  begins : ∀ c p, a.1 = .control c → s.point (.control c) = .control p →
    ∀ l ∈ p.closesLocked s.store c, ∀ h conn, s.store.conns.get? h = some conn →
      conn.listener = l → needsLock s h = false
  keeps : ∀ h p conn c, a.1 = .pub h → s.point (.pub h) = .pub p →
    s.store.conns.get? h = some conn → conn.listener ∈ awaited s c →
    ¬ LosesTunnel p conn.future a.2

/-! ## Steps -/

/-- A control task comes to a wait under the lock only by closing the listeners. -/
theorem ControlStep.awaits {p : ControlPoint} {seg : Segment LockId Effect ControlPoint}
    {l : Nat} (hs : ControlStep srv σ c p seg) (hl : l ∈ seg.next.lockedWait c) :
    l ∈ p.closesLocked σ c ∧ l ∈ seg.effect.closes σ := by
  cases hs with
  | item hn => cases hn <;> exact absurd hl (by simp [ControlPoint.lockedWait, ControlPoint.holds])
  | regularDiscard hc =>
      simp only [ControlPoint.closesLocked, hc, if_true]
      exact ⟨hl, hl⟩
  | poolEvict hp hv =>
      simp only [ControlPoint.closesLocked, hp, hv, if_true]
      exact ⟨hl, hl⟩
  | session hp hn hq hs hg hφ =>
      revert hl hn
      generalize seg.next = next
      intro hl hn
      cases next <;> first | cases hn; done | exact absurd hl List.not_mem_nil
  | _ => exact absurd hl List.not_mem_nil

/-- The own step of a public task that comes to need the lock. -/
theorem publicSegment_needsLock {h : Nat} {conn : PublicConn} {p : PublicPoint} {e : Event}
    {seg : Segment LockId Effect PublicPoint} (hseg : publicSegment σ h conn p e = some seg)
    (ho : (seg.effect.connAfter σ h conn).closed = false)
    (hn : seg.next.needsLock (seg.effect.connAfter σ h conn).future = true) :
    p.needsLock conn.future = true ∨ LosesTunnel p conn.future e := by
  cases p with
  | accepted | lookup | insert | relayed | cleanup => exact .inl rfl
  | sendOpen service id =>
      cases e <;> cases hseg
      exact .inl hn
  | openSent service id =>
      cases e with
      | drained error =>
          cases error <;> cases hseg
          · exact .inl hn
          · cases hf : conn.future with
            | result k => exact .inr trivial
            | _ => exact .inl rfl
      | _ => cases hseg
  | waitTunnel service id =>
      cases hf : conn.future with
      | result k =>
          cases e with
          | timeout => exact .inr trivial
          | go =>
              simp only [publicSegment, hf] at hseg
              cases hseg
              cases hn
          | _ => cases hseg
      | _ => exact .inl rfl
  | relay service id k =>
      cases e <;> cases hseg
      simp [Effect.connAfter, Effect.closesConn] at ho
  | closing tunnel => cases tunnel <;> cases e <;> cases hseg <;> cases hn
  | finished => cases e <;> cases hseg

/-- No other task closes the connection of a public task. -/
theorem ServerStep.closesConn {t : TaskId} {p : Point} {seg : Segment LockId Effect Point}
    {h : Nat} (hs : ServerStep srv σ t p seg) (hφ : seg.effect.closesConn = some h) :
    t = .pub h := by
  cases hs with
  | control hs =>
      have hc := hs.ofControl
      revert hφ hc
      simp only [Segment.lift_effect]
      generalize Segment.effect _ = φ
      intro hφ hc
      cases φ <;> first | cases hφ; done | cases hc
  | pub hc hs => cases hs <;> cases hφ <;> rfl
  | tunnel hs => cases hs <;> cases hφ
  | _ => cases hφ

/-- Only a tunnel can make the lock unnecessary. -/
theorem PublicPoint.needsLock_of_after {φ : Effect} {h : Nat} {conn : PublicConn}
    {p : PublicPoint} (hn : p.needsLock (φ.connAfter σ h conn).future = true) :
    p.needsLock conn.future = true := by
  cases hf : conn.future with
  | result k => rwa [connAfter_done (by rw [hf]; rfl), hf] at hn
  | _ => cases p <;> first | rfl | exact hn

theorem serverSegment_pub {h : Nat} {p : PublicPoint} {e : Event}
    {seg : Segment LockId Effect Point}
    (hseg : serverSegment srv σ (.pub h) (.pub p) e = some seg) :
    ∃ conn seg', σ.conns.get? h = some conn ∧ publicSegment σ h conn p e = some seg' ∧
      seg = seg'.lift .pub := by
  simp only [serverSegment] at hseg
  split at hseg
  · rename_i conn hc
    obtain ⟨seg', hseg', rfl⟩ := Option.map_eq_some_iff.mp hseg
    exact ⟨conn, seg', hc, hseg', rfl⟩
  · cases hseg

variable {s : State} {t : TaskId} {e : Event} {seg : Segment LockId Effect Point} {h : Nat}

/-- A connection comes to need the lock when it is accepted, or when its task loses
its tunnel. -/
theorem needsLock_step (hat : (program srv).At .initial .start Point.holds C s t e seg)
    {conn : PublicConn} (hc : (seg.effect.apply s.store).conns.get? h = some conn)
    (hn : needsLock ((program srv).commit s t seg) h = true) :
    (∃ conn₀, s.store.conns.get? h = some conn₀ ∧ conn₀.listener = conn.listener ∧
      (needsLock s h = true ∨
        ∃ p, t = .pub h ∧ s.point (.pub h) = .pub p ∧ LosesTunnel p conn₀.future e)) ∨
    t = .pub h ∧ ∃ x, s.store.listeners.get? conn.listener = some x ∧ x.isOpen = true := by
  obtain ⟨p, conn', hp, hc', ho, hn⟩ := needsLock_iff.mp hn
  rw [Program.commit_store] at hc'
  have hsame : some conn = some conn' := hc.symm.trans hc'
  cases hsame
  have hstep := serverSegment_cases hat.segment
  rcases Effect.of_conns hc with ⟨conn₀, hc₀, rfl⟩ | ⟨⟨l, name, hφ, rfl⟩, rfl⟩
  · refine .inl ⟨conn₀, hc₀, rfl, ?_⟩
    have ho₀ : conn₀.closed = false := by
      simp only [Effect.connAfter, Bool.or_eq_false_iff] at ho
      exact ho.1
    by_cases ht : t = .pub h
    · subst ht
      rw [Program.commit_point_self] at hp
      cases hp₀ : s.point (.pub h) with
      | pub p₀ =>
          have hseg : serverSegment srv s.store (.pub h) (.pub p₀) e = some seg :=
            hp₀ ▸ hat.segment
          obtain ⟨conn₁, seg', hc₁, hseg', rfl⟩ := serverSegment_pub hseg
          rw [hc₀, Option.some.injEq] at hc₁
          subst hc₁
          cases hp
          rcases publicSegment_needsLock hseg' ho hn with hn₀ | hlost
          · exact .inl (needsLock_iff.mpr ⟨p₀, conn₀, hp₀, hc₀, ho₀, hn₀⟩)
          · exact .inr ⟨p₀, rfl, rfl, hlost⟩
      | start =>
          -- a task that starts has a new connection
          rw [hp₀] at hstep
          generalize hh : TaskId.pub h = t at hstep
          cases hstep with
          | accept hl ho =>
              cases hh
              have := Heap.lt_size_of_get? hc₀
              omega
          | _ => cases hh
      | _ =>
          rw [hp₀] at hstep
          cases hstep
    · rw [Program.commit_point_of_ne s seg (Ne.symm ht)] at hp
      exact .inl (needsLock_iff.mpr ⟨p, conn₀, hp, hc₀, ho₀, p.needsLock_of_after hn⟩)
  · obtain ⟨ht, x, hx, hopen, -⟩ := hstep.accepts hφ
    exact .inr ⟨ht, x, hx, hopen⟩

/-! ## The invariant -/

/-- The listeners a control task waits for with the lock are closed, and no
connection of theirs needs the lock. -/
def WaitOk (s : State) : Prop :=
  ∀ c, ∀ l ∈ awaited s c,
    (∃ x, s.store.listeners.get? l = some x ∧ x.isOpen = false) ∧
    ∀ h conn, s.store.conns.get? h = some conn → conn.listener = l → needsLock s h = false

/-- The listeners a control task is about to close are there. -/
theorem closesLocked_exists (hr : (system srv).ReachableUnder C s) {p : ControlPoint} {l : Nat}
    (hp : s.point (.control c) = .control p) (hl : l ∈ p.closesLocked s.store c) :
    ∃ x, s.store.listeners.get? l = some x := by
  obtain ⟨hrec, hpoint⟩ := records hr
  have hok := hpoint (.control c)
  rw [hp] at hok
  revert hl
  fun_cases ControlPoint.closesLocked s.store c p
  case case1 q r hin =>
    intro hl
    obtain ⟨-, raw, -, -, ho⟩ := hok
    obtain ⟨x, hx, -⟩ := ho.opened
    rw [List.mem_singleton.mp hl]
    exact ⟨x, hx⟩
  case case3 q scan hports v hv =>
    intro hl
    obtain ⟨r, hr, rfl⟩ := List.mem_map.mp hl
    rw [(selectVictim_ok hv).1] at hr
    obtain ⟨⟨k, hk⟩, -⟩ := Store.mem_servicesOf.mp hr
    obtain ⟨-, raw, hc⟩ := hrec k r hk
    obtain ⟨x, hx, -⟩ := hc.opened
    exact ⟨x, hx⟩
  all_goals exact fun hl => absurd hl List.not_mem_nil

theorem waitOk_step (hat : (program srv).At .initial .start Point.holds C s t e seg)
    (hC : NoLockedWait s (t, e)) (hI : WaitOk s) : WaitOk ((program srv).commit s t seg) := by
  intro c l hl
  have hstep := serverSegment_cases hat.segment
  rw [Program.commit_store]
  by_cases ht : t = .control c
  · -- the task has just begun to wait
    subst ht
    have hclosing : ∃ p, s.point (.control c) = .control p ∧ l ∈ p.closesLocked s.store c ∧
        l ∈ seg.effect.closes s.store := by
      simp only [awaited, Program.commit_point_self] at hl
      generalize hp : s.point (.control c) = p at hstep
      cases hstep with
      | connect hnow => exact absurd hl nofun
      | control hs => exact ⟨_, rfl, hs.awaits hl⟩
    obtain ⟨p, hp, hl', hcl⟩ := hclosing
    obtain ⟨x, hx⟩ := closesLocked_exists hat.run hp hl'
    refine ⟨⟨_, Effect.listeners_of_get? hx, by simp [Effect.listenerAfter, hcl]⟩, ?_⟩
    rintro h conn hc rfl
    rw [Bool.eq_false_iff]
    intro hn
    rcases needsLock_step hat hc hn with ⟨conn₀, hc₀, hlis, hn₀ | ⟨-, hpub, -⟩⟩ | ⟨hpub, -⟩
    · rw [hC.begins c p rfl hp _ hl' h conn₀ hc₀ hlis] at hn₀
      cases hn₀
    · cases hpub
    · cases hpub
  · -- no new connection comes in, and those that are there keep their tunnels
    have hl₀ : l ∈ awaited s c := by
      rwa [awaited, Program.commit_point_of_ne s seg (Ne.symm ht)] at hl
    obtain ⟨⟨x, hx, hclosed⟩, hconns⟩ := hI c l hl₀
    refine ⟨⟨_, Effect.listeners_of_get? hx, by simp [Effect.listenerAfter, hclosed]⟩, ?_⟩
    rintro h conn hc rfl
    rw [Bool.eq_false_iff]
    intro hn
    rcases needsLock_step hat hc hn with
      ⟨conn₀, hc₀, hlis, hn₀ | ⟨p, hpub, hp, hlost⟩⟩ | ⟨-, y, hy, hopen⟩
    · rw [hconns h conn₀ hc₀ hlis] at hn₀
      cases hn₀
    · exact hC.keeps h p conn₀ c hpub hp hc₀ (hlis ▸ hl₀) hlost
    · rw [hx, Option.some.injEq] at hy
      rw [← hy, hclosed] at hopen
      cases hopen

/-- **No deadlock on the server lock.** In a run that begins no wait under the lock for
a connection whose task needs it, no such wait is ever for one. -/
theorem no_deadlock (srv : Server) {s : State}
    (h : (system srv).ReachableUnder NoLockedWait s) (c : ClientId) (p : ControlPoint)
    (hp : s.point (.control c) = .control p) (hlock : Point.holds (.control c) (.control p) .server)
    (l : Nat) (hl : l ∈ p.waitsFor) (i : Nat) (conn : PublicConn)
    (hc : s.store.conns.get? i = some conn) (hconn : conn.listener = l) :
    needsLock s i = false := by
  have hI : WaitOk s := by
    refine h.invariant (P := WaitOk) (fun c l hl => absurd hl List.not_mem_nil) ?_
    rintro s ⟨t, e⟩ s' hr hI hC hs
    obtain ⟨seg, hat, rfl⟩ := Program.At.of_step (discipline srv) hr hC hs
    exact waitOk_step hat hC hI
  exact (hI c l (mem_awaited.mpr ⟨p, hp, hlock, hl⟩)).2 i conn hc hconn

/-! ## A wait for a connection that needs the lock -/

/-- A control task goes on when every connection it waits for is closed. -/
theorem ControlStep.waited {p : ControlPoint} {seg : Segment LockId Effect ControlPoint}
    {l i : Nat} {conn : PublicConn} (hs : ControlStep srv σ c p seg) (hl : l ∈ p.lockedWait c)
    (hc : σ.conns.get? i = some conn) (hconn : conn.listener = l) : conn.closed = true := by
  have hclosed : ∀ {ls : List Nat}, σ.allClosed ls = true → l ∈ ls → conn.closed = true :=
    fun hall hmem => Store.allClosed_iff.mp hall i conn hc (hconn ▸ hmem)
  cases hs with
  | regularTaken e h => exact hclosed h hl
  | poolRescan h => exact hclosed h hl
  | begin hp hg hq hm => cases p <;> first | cases hp; done | exact absurd hl nofun
  | session hp hn hq hs hg hφ => cases p <;> first | cases hp; done | exact absurd hl nofun
  | _ => exact absurd hl nofun

theorem PublicPoint.needsLock_congr {p : PublicPoint} {f f' : Future} (h : p.needsLock f = true)
    (hf : ∀ k, f' = .result k → ∃ k', f = .result k') : p.needsLock f' = true := by
  cases p with
  | sendOpen | openSent | waitTunnel =>
      cases hf' : f' with
      | result k =>
          obtain ⟨k', rfl⟩ := hf k hf'
          cases h
      | _ => rfl
  | _ => exact h

theorem PublicStep.needsLock {conn : PublicConn} {p : PublicPoint}
    {seg : Segment LockId Effect PublicPoint} (hs : PublicStep σ h conn p seg)
    (hw : p.wants ≠ some .server) (hn : p.needsLock conn.future = true) :
    (seg.effect.connAfter σ h conn).closed = conn.closed ∧
      seg.next.needsLock (seg.effect.connAfter σ h conn).future = true := by
  cases hs with
  | accepted => exact ⟨Bool.or_false _, rfl⟩
  | sendOpen => exact ⟨Bool.or_false _, hn⟩
  | opened => exact ⟨Bool.or_false _, hn⟩
  | openFailed => exact ⟨Bool.or_false _, rfl⟩
  | disconnected hf => exact ⟨Bool.or_false _, rfl⟩
  | timeout => exact ⟨Bool.or_false _, rfl⟩
  | relayed => exact ⟨Bool.or_false _, rfl⟩
  | paired hf =>
      rw [hf] at hn
      cases hn
  | relayEnd | closeTunnel | close => cases hn
  | miss | found | insert | cleanup => exact absurd rfl hw

/-- A connection that needs the lock needs it until some task takes it. -/
theorem needsLock_kept (hat : (program srv).At .initial .start Point.holds C s t e seg)
    (hw : (s.point t).wants t ≠ some .server) (hn : needsLock s h = true) :
    needsLock ((program srv).commit s t seg) h = true := by
  obtain ⟨p, conn, hp, hc, ho, hn⟩ := needsLock_iff.mp hn
  have hstep := serverSegment_cases hat.segment
  by_cases ht : t = .pub h
  · subst ht
    rw [hp] at hstep hw
    cases hstep with
    | pub hc' hs =>
        rw [hc, Option.some.injEq] at hc'
        subst hc'
        obtain ⟨hclosed, hn'⟩ := hs.needsLock hw hn
        refine needsLock_iff.mpr ⟨_, _, Program.commit_point_self s _ _, ?_, hclosed.trans ho, hn'⟩
        rw [Program.commit_store]
        exact Effect.conns_of_get? hc
  · refine needsLock_iff.mpr ⟨p, seg.effect.connAfter s.store h conn, ?_, ?_, ?_, ?_⟩
    · rw [Program.commit_point_of_ne s seg (Ne.symm ht), hp]
    · rw [Program.commit_store]
      exact Effect.conns_of_get? hc
    · have hne : seg.effect.closesConn ≠ some h := fun hφ => ht (hstep.closesConn hφ)
      simp [Effect.connAfter, ho, hne]
    · refine PublicPoint.needsLock_congr hn fun k hk => ?_
      rcases connAfter_result hk with hφ | hf
      · -- a pairing is made by a task that takes the lock
        obtain ⟨rfl, -, message, hpt, -⟩ := hstep.pairs hφ
        rw [hpt] at hw
        exact absurd rfl hw
      · exact ⟨k, hf⟩

/-- A control task that waits under the lock for a connection that needs it waits for
good, and the connection is never closed. -/
theorem deadlock {s s' : State} {l i : Nat} {conn : PublicConn} (h : (system srv).Reachable s)
    (hl : l ∈ awaited s c) (hc : s.store.conns.get? i = some conn) (hconn : conn.listener = l)
    (hn : needsLock s i = true) (hrun : (system srv).Runs (fun _ _ => True) s s') :
    s'.point (.control c) = s.point (.control c) ∧ needsLock s' i = true := by
  have hinv : s'.point (.control c) = s.point (.control c) ∧ needsLock s' i = true ∧
      ∃ conn', s'.store.conns.get? i = some conn' ∧ conn'.listener = l := by
    refine hrun.invariant (P := fun u => u.point (.control c) = s.point (.control c) ∧
      needsLock u i = true ∧ ∃ conn', u.store.conns.get? i = some conn' ∧ conn'.listener = l)
      ⟨rfl, hn, conn, hc, hconn⟩ ?_
    rintro u ⟨t, e⟩ v hru ⟨hpoint, hn, conn', hc', hconn'⟩ - hs
    obtain ⟨seg, hat, rfl⟩ := Program.At.of_step (discipline srv) (h.runs hru) trivial hs
    have hstep := serverSegment_cases hat.segment
    obtain ⟨p, hp, hlock, hlp⟩ := mem_awaited.mp hl
    rw [← hpoint] at hp
    have hholds : Point.holds (.control c) (u.point (.control c)) .server := hp ▸ hlock
    have hne : t ≠ .control c := by
      rintro rfl
      rw [hp] at hstep
      cases hstep with
      | control hcs =>
          obtain ⟨p', conn'', -, hc'', ho, -⟩ := needsLock_iff.mp hn
          rw [hc', Option.some.injEq] at hc''
          rw [← hc'', hcs.waited (ControlPoint.mem_lockedWait.mpr ⟨hlock, hlp⟩) hc' hconn'] at ho
          cases ho
    refine ⟨?_, needsLock_kept hat ?_ hn, ?_⟩
    · rw [Program.commit_point_of_ne u seg hne.symm, hpoint]
    · intro hw
      exact hne (hat.held.exclusive hat.canRun (.inr hw) hholds)
    · rw [Program.commit_store]
      exact ⟨_, Effect.conns_of_get? hc', hconn'⟩
  exact ⟨hinv.1, hinv.2.1⟩

/-! ## Runs -/

/-- The step begins no wait under the lock while a connection needs it, and no public
task gives a tunnel up. -/
def waitsFreely (s : State) (a : Action) : Bool :=
  (match a.1, s.point a.1 with
    | .control c, .control p => (p.closesLocked s.store c).isEmpty ||
        (List.range s.store.conns.size).all fun h => !needsLock s h
    | _, _ => true) &&
  match a.2 with
  | .timeout | .drained (some _) => false
  | _ => true

theorem waitsFreely_ok {s : State} {a : Action} (h : waitsFreely s a = true) :
    NoLockedWait s a := by
  obtain ⟨hbegins, hkeeps⟩ := Bool.and_eq_true_iff.mp h
  constructor
  · intro c p hc hp l hl i conn hi hlis
    rw [hc, hp] at hbegins
    rcases Bool.or_eq_true_iff.mp hbegins with hnone | hall
    · rw [List.isEmpty_iff.mp hnone] at hl
      cases hl
    · have hfree := List.all_eq_true.mp hall i (List.mem_range.mpr (Heap.lt_size_of_get? hi))
      simpa using hfree
  · intro i p conn c _ _ _ _ hlost
    generalize a.2 = e at hkeeps hlost
    unfold LosesTunnel at hlost
    split at hlost
    · cases hkeeps
    · cases hkeeps
    · exact hlost

/-- A public user of the pool client `a` has its tunnel, and `a` is evicted by a forced
registration of `d`. -/
def relayingRun : List Action :=
  Schedule.connect "a" false [Schedule.poolItem] ++ Schedule.pool "a" 0 6000 ++
    Schedule.answer "a" ++ Schedule.accept 0 0 "x" ++ Schedule.goes (.pub 0) 2 ++
    [(.pub 0, .drained none), (.tunnel 0, .connectTunnel (tunnelMessage "x" "pool-a" (.str "t"))),
      (.tunnel 0, .go), (.pub 0, .go)] ++
    Schedule.connect "d" true [Schedule.poolItem] ++ Schedule.goes (.control "d") 4

/-- The control task of `d` has the lock and waits for the connection of the user, whose
task relays and will close it without the lock. -/
theorem no_deadlock_relaying : ∃ s conn,
    (system Schedule.mixedServer).ReachableUnder NoLockedWait s ∧ awaited s "d" = [0] ∧
    s.store.conns.get? 0 = some conn ∧ conn.listener = 0 ∧ conn.closed = false ∧
    needsLock s 0 = false := by
  have hrun : ((system Schedule.mixedServer).execWhile waitsFreely
      (system Schedule.mixedServer).init relayingRun).map (fun s => (awaited s "d",
        (s.store.conns.get? 0).map fun conn => (conn.listener, conn.closed))) =
      some ([0], some (0, false)) := by rfl
  obtain ⟨s, hs, heq⟩ := System.exists_of_execWhile_map _ (fun _ _ _ => waitsFreely_ok) hrun
  obtain ⟨haw, hconn⟩ := Prod.mk.inj heq
  obtain ⟨conn, hc, hfields⟩ := Option.map_eq_some_iff.mp hconn
  obtain ⟨hlis, hopen⟩ := Prod.mk.inj hfields
  obtain ⟨p, hp, hlock, hl⟩ := mem_awaited.mp (haw ▸ List.mem_singleton_self 0)
  exact ⟨s, conn, hs, haw, hc, hlis, hopen,
    no_deadlock Schedule.mixedServer hs "d" p hp hlock 0 hl 0 conn hc hlis⟩

/-- A public user waits for a tunnel of the pool client `a`, which is evicted by a
forced registration of `d`; the time-out of the user comes in. -/
def deadlockRun : List Action :=
  Schedule.connect "a" false [Schedule.poolItem] ++ Schedule.pool "a" 0 6000 ++
    Schedule.answer "a" ++ Schedule.accept 0 0 "x" ++ Schedule.goes (.pub 0) 2 ++
    [(.pub 0, .drained none)] ++ Schedule.connect "d" true [Schedule.poolItem] ++
    Schedule.goes (.control "d") 4 ++ [(.pub 0, .timeout)]

/-- The control task of `d` has the lock and waits for the connection of the user,
whose task waits for the lock. -/
theorem eviction_deadlock : ∃ s, (system Schedule.mixedServer).Reachable s ∧
    awaited s "d" = [0] ∧ (s.locks .server).holder = some (.control "d") ∧
    (s.locks .server).waiters = [.pub 0] ∧
    (s.store.conns.get? 0).map PublicConn.listener = some 0 ∧ needsLock s 0 = true := by
  have hrun : ((system Schedule.mixedServer).execWhile (fun _ _ => true)
      (system Schedule.mixedServer).init deadlockRun).map (fun s => (awaited s "d",
        (s.locks .server).holder, (s.locks .server).waiters,
        (s.store.conns.get? 0).map PublicConn.listener, needsLock s 0)) =
      some ([0], some (.control "d"), [.pub 0], some 0, true) := by rfl
  obtain ⟨s, hs, heq⟩ := System.exists_of_execWhile_map _ (fun _ _ _ _ => trivial) hrun
  simp only [Prod.mk.injEq] at heq
  obtain ⟨haw, hholder, hwaiters, hconn, hn⟩ := heq
  exact ⟨s, hs, haw, hholder, hwaiters, hconn, hn⟩

end PyFrp
