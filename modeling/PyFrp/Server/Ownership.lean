import PyFrp.Server.Leaks
import PyFrp.Server.Preemption

/-!
# Ownership between clients

Every change of `_services` and every closing of a listener is made by the
control task of some session. The tasks of the other sessions leave what a
client owns alone, except for an eviction, and except for a rollback that pops
a name which has come to belong to somebody else.
-/

namespace PyFrp

open Python Coop Store

variable {srv : Server} {σ : Store} {φ : Effect} {b c : ClientId} {C : State → Action → Prop}
variable {t : TaskId} {p : Point} {seg : Segment LockId Effect Point}

/-- What `b` owns in `σ` it owns in `σ'`: its records are in `_services`, and its
open listeners are open. -/
structure Kept (σ σ' : Store) (b : ClientId) : Prop where
  services : ∀ k r, σ.services.get? k = some r → r.client = b → σ'.services.get? k = some r
  listeners : ∀ l x, σ.listeners.get? l = some x → x.owner = b → x.isOpen = true →
    ∃ x', σ'.listeners.get? l = some x' ∧ x'.owner = b ∧ x'.isOpen = true

theorem Kept.refl (σ : Store) (b : ClientId) : Kept σ σ b :=
  ⟨fun _ _ hk _ => hk, fun _ x hx ho hopen => ⟨x, hx, ho, hopen⟩⟩

theorem Kept.trans {σ₁ σ₂ σ₃ : Store} (h₁ : Kept σ₁ σ₂ b) (h₂ : Kept σ₂ σ₃ b) :
    Kept σ₁ σ₃ b := by
  refine ⟨fun k r hk hr => h₂.services k r (h₁.services k r hk hr) hr, ?_⟩
  intro l x hx ho hopen
  obtain ⟨x', hx', ho', hopen'⟩ := h₁.listeners l x hx ho hopen
  exact h₂.listeners l x' hx' ho' hopen'

/-- The step of task `t` is the eviction branch of a forced pool registration,
and its victim is `b`. -/
def Evicts (s : State) (b : ClientId) : TaskId → Prop
  | .control c =>
      ∃ p scan v, s.point (.control c) = .control (.poolScan p none scan) ∧ scan.ports = [] ∧
        p.request.force = true ∧
        s.store.selectVictim c p.item.priority true scan.lastError = .ok v ∧ v.client = b
  | _ => False

/-- A rollback pops no name under which another client is registered. -/
def popsOwn (s : State) : Action → Bool
  | (.control c, _) =>
      match s.point (.control c) with
      | .control (.drop _ r _ _) => (s.store.services.get? r.name).all fun r' => r'.client = c
      | _ => true
  | _ => true

abbrev PopsOwn (s : State) (a : Action) : Prop := popsOwn s a = true

/-! ## What the effects of a task take away -/

/-- An effect takes nothing from `b` if it pops, replaces and closes nothing of it. -/
theorem Effect.kept
    (hpop : ∀ k r, σ.services.get? k = some r → r.client = b →
      k ∉ (φ.removes σ).map RegisteredService.name ∧ ∀ r', φ = .register r' → k ≠ r'.name)
    (hclose : ∀ l x, σ.listeners.get? l = some x → x.owner = b → l ∉ φ.closes σ) :
    Kept σ (φ.apply σ) b := by
  constructor
  · intro k r hk hr
    obtain ⟨hnot, hnew⟩ := hpop k r hk hr
    exact Effect.services_of_get? hk hnot hnew
  · intro l x hx ho hopen
    refine ⟨_, Effect.listeners_of_get? hx, ho, ?_⟩
    simp [Effect.listenerAfter, hopen, hclose l x hx ho]

/-- The listener of a completed registration is the one of its session. -/
theorem Completed.owner {raw : Value} {r : RegisteredService} {x : Listener}
    (h : Completed srv σ.listeners c raw r) (hx : σ.listeners.get? r.listener = some x) :
    x.owner = c := by
  obtain ⟨y, hy, -, hc, -⟩ := h.opened
  rw [hx, Option.some.injEq] at hy
  rw [hy, hc]

/-- Popping services of `c` takes nothing from another client. -/
theorem kept_of_servicesOf (hrec : RecordsOk srv σ) (hb : c ≠ b)
    (hremoves : φ.removes σ = σ.servicesOf c) (hcloses : φ.closes σ =
      (σ.servicesOf c).map RegisteredService.listener) (hreg : ∀ r, φ ≠ .register r) :
    Kept σ (φ.apply σ) b := by
  refine Effect.kept (fun k r hk hr => ⟨?_, fun r' h => absurd h (hreg r')⟩) ?_
  · rw [hremoves]
    intro hmem
    obtain ⟨r', hr', hname⟩ := List.mem_map.mp hmem
    obtain ⟨⟨k', hk'⟩, hc⟩ := mem_servicesOf.mp hr'
    rw [← (hrec k' r' hk').1, hname, hk, Option.some.injEq] at hk'
    rw [← hk', hr] at hc
    exact hb hc.symm
  · rw [hcloses]
    intro l x hx ho hmem
    obtain ⟨r', hr', rfl⟩ := List.mem_map.mp hmem
    obtain ⟨⟨k', hk'⟩, hc⟩ := mem_servicesOf.mp hr'
    obtain ⟨-, raw, hcomp⟩ := hrec k' r' hk'
    exact hb (hc.symm.trans ((hcomp.owner hx).symm.trans ho))

/-- A record that is registered takes a name no other client has. -/
theorem registers_own {s : State} (hs : ServerStep srv s.store (.control c) (s.point (.control c)) seg)
    (hrec : RecordsOk srv s.store) (hn : PoolNamesOwn s) {r r' : RegisteredService}
    (hφ : seg.effect = .register r) (hk : s.store.services.get? r.name = some r') :
    r'.client = c := by
  obtain ⟨c', p', seg', ht, hp, rfl, hcall⟩ := hs.ofCall (by rw [hφ]; rfl)
  cases ht
  have hpool : r.name = poolServiceName c → r'.client = c := by
    intro hname
    exact hn.own hrec (by rw [hp]; nofun) (hname ▸ hk)
  cases hcall with
  | regularInsert hc =>
      cases hφ
      simp [Dict.contains, hk] at hc
  | poolInsert | poolReplace =>
      cases hφ
      exact hpool rfl
  | session hp' hn' hq hs' hg hφ' => exact absurd hφ (hφ'.ne rfl)
  | _ => cases hφ

/-- A listener that is closed without being registered is the one of its session. -/
theorem discards_own {s : State} (hs : ServerStep srv s.store t (s.point t) seg)
    (hpt : PointOk srv s.store t (s.point t)) {r : RegisteredService} {x : Listener}
    (hφ : seg.effect = .discard r) (hx : s.store.listeners.get? r.listener = some x) :
    t = .control x.owner := by
  obtain ⟨c', p', seg', rfl, hp, rfl, hcall⟩ := hs.ofCall (by rw [hφ]; rfl)
  rw [hp] at hpt
  cases hcall with
  | regularDiscard hc =>
      cases hφ
      obtain ⟨-, raw, -, -, ho⟩ := hpt
      rw [ho.owner hx]
  | session hp' hn hq hs' hg hφ' => exact absurd hφ (hφ'.ne rfl)
  | _ => cases hφ

/-- A rollback drops records of its own session. -/
theorem drops_own {s : State} (hs : ServerStep srv s.store t (s.point t) seg)
    (hpt : PointOk srv s.store t (s.point t)) {r : RegisteredService}
    (hφ : seg.effect = .drop r) :
    ∃ c q rest e raw, t = .control c ∧ s.point (.control c) = .control (.drop q r rest e) ∧
      Completed srv s.store.listeners c raw r := by
  obtain ⟨c, q, rest, e, rfl, hp⟩ := hs.drops hφ
  rw [hp] at hpt
  obtain ⟨hq, hmem⟩ := hpt
  obtain ⟨i, hi⟩ := List.getElem?_of_mem (hmem r (.head _))
  obtain ⟨raw, -, hc⟩ := hq.registered i r hi
  exact ⟨c, q, rest, e, raw, rfl, hp, hc⟩

/-! ## Steps of the other tasks -/

/-- A step of another task takes nothing from `b`, unless it evicts it. -/
theorem kept_of_step {s : State} {e : Event} (hs : ServerStep srv s.store t (s.point t) seg)
    (hrec : RecordsOk srv s.store) (hpt : PointOk srv s.store t (s.point t))
    (hown : ∀ r r', seg.effect = .register r → s.store.services.get? r.name = some r' →
      t = .control r'.client) (hpop : PopsOwn s (t, e)) (hb : t ≠ .control b) :
    Kept s.store (seg.effect.apply s.store) b ∨ Evicts s b t := by
  cases hφ : seg.effect with
  | register r =>
      refine .inl (Effect.kept (fun k r' hk hr => ⟨List.not_mem_nil, ?_⟩) fun _ _ _ _ =>
        List.not_mem_nil)
      intro r₀ heq hname
      cases heq
      exact hb (hr ▸ hown r r' hφ (hname ▸ hk))
  | discard r =>
      refine .inl (Effect.kept (fun _ _ _ _ => ⟨List.not_mem_nil, by simp⟩) ?_)
      intro l x hx ho hmem
      obtain rfl := List.mem_singleton.mp hmem
      exact hb (ho ▸ discards_own hs hpt hφ hx)
  | drop r =>
      obtain ⟨c, q, rest, err, raw, rfl, hp, hc⟩ := drops_own hs hpt hφ
      refine .inl (Effect.kept (fun k r' hk hr => ⟨?_, by simp⟩) ?_)
      · -- the record under the name is one of the session itself
        intro hmem
        obtain rfl := List.mem_singleton.mp hmem
        simp only [PopsOwn, popsOwn, hp, hk, Option.all_some, decide_eq_true_eq] at hpop
        exact hb (by rw [← hpop, hr])
      · intro l x hx ho hmem
        obtain rfl := List.mem_singleton.mp hmem
        exact hb (by rw [← hc.owner hx, ho])
  | evict v =>
      obtain ⟨c, q, scan, rfl, hp, hports, hv, -⟩ := hs.evicts hφ
      by_cases hvb : v.client = b
      · obtain ⟨hforce, -⟩ := selectVictim_rule hv
        exact .inr ⟨q, scan, v, hp, hports, hforce, hforce ▸ hv, hvb⟩
      · obtain ⟨hservices, -⟩ := selectVictim_ok hv
        refine .inl (kept_of_servicesOf hrec hvb hservices ?_ (by simp))
        exact congrArg (List.map RegisteredService.listener) hservices
  | removeClient c =>
      obtain ⟨rfl, -, -⟩ := hs.removes hφ
      exact .inl (kept_of_servicesOf hrec (fun h => hb (by rw [h])) rfl rfl (by simp))
  | _ =>
      exact .inl (Effect.kept (fun _ _ _ _ => ⟨List.not_mem_nil, by simp⟩) fun _ _ _ _ =>
        List.not_mem_nil)

/-- A rollback that pops the name of another client takes its record away. -/
theorem popped_of_step {s s' : State} {a : Action} (hs : (system srv).step s a = some s')
    (hpop : ¬ PopsOwn s a) :
    ∃ b, a.1 ≠ .control b ∧ ¬ Kept s.store s'.store b ∧ ¬ Evicts s b a.1 := by
  obtain ⟨t, e⟩ := a
  obtain ⟨-, seg, hseg, rfl⟩ := Program.step_eq_some.mp hs
  have hstep := serverSegment_cases hseg
  cases t with
  | control c =>
      simp only [PopsOwn, popsOwn] at hpop
      split at hpop
      · rename_i q r rest err hp
        rw [Option.all_eq_true] at hpop
        push Not at hpop
        obtain ⟨r', hr', hne⟩ := hpop
        have hne : r'.client ≠ c := by simpa using hne
        refine ⟨r'.client, ?_, ?_, ?_⟩
        · intro heq
          cases heq
          exact hne rfl
        · intro hkept
          have hk := hkept.services r.name r' hr' rfl
          rw [Program.commit_store] at hk
          have hk : (seg.effect.apply s.store).services.get? r.name = some r' := hk
          rw [hp] at hstep
          have hφ : seg.effect = .drop r := by
            cases hstep with
            | control hstep =>
                cases hstep with
                | drop => rfl
                | begin hp' => cases hp'
                | session hp' => cases hp'
          rw [Effect.apply_services, hφ] at hk
          simp [Effect.removes] at hk
        · rintro ⟨q', scan, v, hp', -⟩
          rw [hp] at hp'
          cases hp'
      · exact absurd rfl hpop
  | _ => exact absurd rfl hpop

/-! ## Runs -/

/-- The step is the one of another task than that of `b` and does not evict `b`;
no rollback in it pops the name of another client. -/
structure LeavesAlone (b : ClientId) (s : State) (a : Action) : Prop where
  names : PoolNamesOwn s
  pops : PopsOwn s a
  other : a.1 ≠ .control b
  spares : ¬ Evicts s b a.1

/-- **Ownership isolation.** A step takes nothing from the clients on whose
behalf it is not made, except from the victim of an eviction, if and only if no
rollback in it pops the name of another client; and along a run of such steps a
client that is not evicted keeps everything it owns. -/
theorem ownership (srv : Server) {s : State} (h : (system srv).Reachable s)
    (hn : PoolNamesOwn s) :
    (∀ a s', (system srv).step s a = some s' →
      ((∀ b, a.1 ≠ .control b → Kept s.store s'.store b ∨ Evicts s b a.1) ↔ PopsOwn s a)) ∧
    ∀ b s', (system srv).Runs (LeavesAlone b) s s' → Kept s.store s'.store b := by
  have hstep : ∀ {u u' : State} {a : Action}, (system srv).Reachable u → PoolNamesOwn u →
      PopsOwn u a → (system srv).step u a = some u' →
      ∀ b, a.1 ≠ .control b → Kept u.store u'.store b ∨ Evicts u b a.1 := by
    intro u u' a hu hnames hpop hs b hb
    obtain ⟨t, e⟩ := a
    obtain ⟨seg, hat, rfl⟩ := Program.At.of_step (discipline srv) hu trivial hs
    obtain ⟨hrec, hpt⟩ := records hu
    rw [Program.commit_store]
    refine kept_of_step (serverSegment_cases hat.segment) hrec (hpt t) ?_ hpop hb
    intro r r' hφ hk
    have hs := serverSegment_cases hat.segment
    obtain ⟨c, p', seg', rfl, -, -, -⟩ := hs.ofCall (by rw [hφ]; rfl)
    rw [registers_own hs hrec hnames hφ hk]
  refine ⟨fun a s' hs => ⟨fun hkept => ?_, fun hpop => hstep h hn hpop hs⟩, ?_⟩
  · by_contra hpop
    obtain ⟨b, hb, hnot, hev⟩ := popped_of_step hs hpop
    exact (hkept b hb).elim hnot hev
  · intro b s' hrun
    refine hrun.invariant (P := fun u => Kept s.store u.store b) (.refl _ _) ?_
    intro u a v hu hkept hc hs
    have hreach : (system srv).Reachable u := h.runs (hu.mono fun _ _ _ => trivial)
    exact hkept.trans ((hstep hreach hc.names hc.pops hs b hc.other).resolve_right hc.spares)

/-- The names of pool services are longer than these. -/
theorem poolNamesOwn_of_short {s : State} (h : (system srv).Reachable s)
    (hshort : ∀ r ∈ s.store.services.values, r.poolToken.isSome = true ∨ r.name.length < 5) :
    PoolNamesOwn s := by
  intro c r _ hk
  rcases hshort r ((Dict.mem_values _ _).mpr ⟨_, hk⟩) with hpool | hlt
  · exact .inl hpool
  · rw [((records h).1 _ r hk).1] at hlt
    have hlen : (poolServiceName c).length = 5 + c.length := String.length_append ..
    omega

/-- Client `a` registers a service. -/
def registerRun : List Action :=
  Schedule.connect "a" false [Schedule.webItem] ++ Schedule.regular "a" 8080 ++
    Schedule.answer "a"

theorem ownership_web : ∃ s r, (system Schedule.mixedServer).Reachable s ∧
    s.store.services.get? "web" = some r ∧ r.client = "a" ∧
    ∀ s', (system Schedule.mixedServer).Runs (LeavesAlone "a") s s' →
      s'.store.services.get? "web" = some r := by
  obtain ⟨s, hs, hshort, hany⟩ := System.exists_of_exec (M := system Schedule.mixedServer)
    (P := fun s => (∀ r ∈ s.store.services.values, r.poolToken.isSome = true ∨ r.name.length < 5) ∧
      (s.store.services.get? "web").any (fun r => r.client = "a") = true) registerRun (by decide)
  obtain ⟨r, hr, hc⟩ := (Option.any_eq_true _ _).mp hany
  have hc : r.client = "a" := by simpa using hc
  obtain ⟨-, hruns⟩ := ownership Schedule.mixedServer hs (poolNamesOwn_of_short hs hshort)
  exact ⟨s, r, hs, hr, hc, fun s' hrun => (hruns "a" s' hrun).services "web" r hr hc⟩

/-- Client `a` has registered two items of three when `d` evicts it; `b` takes the
name of the second one; the third one fails and `a` rolls back. -/
def popRun : List Action :=
  Schedule.connect "a" false
      [Schedule.poolItem, Schedule.webItem, Schedule.regularItem "ssh" 8081] ++
    Schedule.pool "a" 0 6000 ++ Schedule.regular "a" 8080 ++ Schedule.goes (.control "a") 1 ++
    Schedule.connect "d" true [Schedule.poolItem] ++ Schedule.goes (.control "d") 6 ++
    [(.control "d", .bind (.bound "0.0.0.0" 6000))] ++ Schedule.goes (.control "d") 3 ++
    Schedule.connect "b" false [Schedule.webItem] ++ Schedule.regular "b" 8080 ++
    Schedule.answer "b" ++
    [(.control "a", .bind (.osError "address in use"))] ++ Schedule.goes (.control "a") 4

/-- The record a rollback of the control task of `c` is about to pop. -/
def dropping (s : State) (c : ClientId) : Option String :=
  match s.point (.control c) with
  | .control (.drop _ r _ _) => some r.name
  | _ => none

theorem dropping_not_evicts {s : State} {name : String} (h : dropping s c = some name) :
    ¬ Evicts s b (.control c) := by
  rintro ⟨p, scan, v, hp, -⟩
  rw [dropping, hp] at h
  cases h

/-- The rollback of `a` takes the record of `b` away. -/
theorem rollback_pops_other : ∃ s s' r, (system Schedule.mixedServer).Reachable s ∧
    PoolNamesOwn s ∧ (system Schedule.mixedServer).step s (.control "a", .go) = some s' ∧
    ¬ Evicts s "b" (.control "a") ∧ s.store.services.get? "web" = some r ∧ r.client = "b" ∧
    s'.store.services.get? "web" = none := by
  have hrun : ((system Schedule.mixedServer).execWhile (fun _ _ => true)
      (system Schedule.mixedServer).init popRun).map (fun s =>
        (s.store.services.values.map fun r => (r.name, r.client, r.poolToken), dropping s "a",
          (s.store.services.get? "web").map RegisteredService.client,
          ((system Schedule.mixedServer).step s (.control "a", .go)).map fun s' =>
            s'.store.services.contains "web")) =
      some ([("pool-d", "d", some "t"), ("web", "b", none)], some "web", some "b",
        some false) := by rfl
  obtain ⟨s, hs, heq⟩ := System.exists_of_execWhile_map _ (fun _ _ _ _ => trivial) hrun
  simp only [Prod.mk.injEq] at heq
  obtain ⟨hvalues, hdrop, hweb, hstep⟩ := heq
  obtain ⟨s', hs', hgone⟩ := Option.map_eq_some_iff.mp hstep
  obtain ⟨r, hr, hc⟩ := Option.map_eq_some_iff.mp hweb
  refine ⟨s, s', r, hs, poolNamesOwn_of_short hs ?_, hs', dropping_not_evicts hdrop, hr, hc, ?_⟩
  · intro r' hr'
    have hmem := List.mem_map_of_mem (f := fun r => (r.name, r.client, r.poolToken)) hr'
    rw [hvalues] at hmem
    simp only [List.mem_cons, Prod.mk.injEq, List.not_mem_nil, or_false] at hmem
    rcases hmem with ⟨-, -, htoken⟩ | ⟨hname, -, -⟩
    · exact .inl (by rw [htoken]; rfl)
    · exact .inr (by rw [hname]; decide)
  · simpa [Dict.contains] using hgone

end PyFrp
