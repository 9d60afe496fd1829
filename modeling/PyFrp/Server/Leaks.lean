import PyFrp.Server.Departures

/-!
# Open listeners and the records that own them

Cleanup finds a listener only through its record. A record that is replaced, or
popped by the name of another one, leaves its listener open for good; in runs
without such a step no listener is ever lost.
-/

namespace PyFrp

open Python Coop Store

variable {srv : Server} {σ : Store} {φ : Effect} {c : ClientId} {C : State → Action → Prop}
variable {t : TaskId} {p : Point} {seg : Segment LockId Effect Point}

/-! ## Listeners of unfinished registrations -/

/-- The listener of the registration a control task is in the middle of. -/
def ControlPoint.opening : ControlPoint → Option Nat
  | .regularBound _ _ l => some l
  | .regularInsert _ r => some r.listener
  | .poolBound _ _ _ _ l => some l
  | _ => none

/-- The only listener of `c` that is open and not registered yet is the one its
task is registering. -/
def OpeningOk (σ : Store) : TaskId → Point → Prop
  | .control c, p => ∀ l x, σ.listeners.get? l = some x → x.owner = c → x.isOpen = true →
      x.registered = false → ∃ p', p = .control p' ∧ p'.opening = some l
  | _, _ => True

/-- A listener is opened for the session of the task that opens it. -/
theorem ServerStep.listens {x : Listener} (hs : ServerStep srv σ t p seg)
    (hφ : seg.effect = .listen x) :
    x.registered = false ∧ t = .control x.owner ∧
      ∃ p', seg.next = .control p' ∧ p'.opening = some σ.listeners.size := by
  obtain ⟨c, p', seg', rfl, rfl, rfl, hcall⟩ := hs.ofCall (by rw [hφ]; rfl)
  cases hcall with
  | regularListen host port =>
      cases hφ
      exact ⟨rfl, rfl, _, rfl, rfl⟩
  | poolListen host port =>
      cases hφ
      exact ⟨rfl, rfl, _, rfl, rfl⟩
  | session hp hn hq hs hg hφ' => exact absurd hφ (hφ'.ne rfl)
  | _ => cases hφ

/-- A registration keeps its listener until it is registered or closed. -/
theorem ControlStep.opening {p : ControlPoint} {seg : Segment LockId Effect ControlPoint}
    {l : Nat} (hs : ControlStep srv σ c p seg) (hp : p.opening = some l) :
    seg.next.opening = some l ∨ seg.effect.completes = some l ∨ l ∈ seg.effect.closes σ := by
  cases hs with
  | session hp' => cases p <;> cases hp <;> cases hp'
  | begin hp' => cases p <;> cases hp <;> cases hp'
  | regularBound => exact .inl hp
  | regularDiscard hc =>
      cases hp
      exact .inr (.inr (.head _))
  | regularInsert hc => exact .inr (.inl hp)
  | poolInsert => exact .inr (.inl hp)
  | poolReplace => exact .inr (.inl hp)
  | _ => cases hp

theorem openingOutline (srv : Server) (C : State → Action → Prop) :
    (program srv).Outline .initial .start Point.holds C (fun _ => True) OpeningOk where
  initial := trivial
  starts t := by
    cases t with
    | control c => exact fun l x hx => by cases hx
    | _ => trivial
  keeps _ _ _ := trivial
  establishes {s t e seg} hat hI hA := by
    have hs := serverSegment_cases hat.segment
    cases t with
    | control c =>
        intro l x hx hown hopen hreg
        rcases Effect.of_listeners hx with ⟨x₀, hx₀, rfl⟩ | ⟨hφ, rfl⟩
        · simp only [Effect.listenerAfter, Bool.and_eq_true, Bool.or_eq_false_iff,
            decide_eq_true_eq, decide_eq_false_iff_not] at hown hopen hreg
          obtain ⟨p, hp, hl⟩ := hA (.control c) l x₀ hx₀ hown hopen.1 hreg.1
          rw [hp] at hs
          cases hs with
          | control hs =>
              rcases hs.opening hl with hnext | hdone | hclosed
              · exact ⟨_, rfl, hnext⟩
              · exact absurd hdone hreg.2
              · exact absurd hclosed hopen.2
        · exact (hs.listens hφ).2.2
    | _ => trivial
  spares {s t e seg u} hat hI hA hne := by
    have hs := serverSegment_cases hat.segment
    cases u with
    | control c =>
        intro l x hx hown hopen hreg
        rcases Effect.of_listeners hx with ⟨x₀, hx₀, rfl⟩ | ⟨hφ, rfl⟩
        · simp only [Effect.listenerAfter, Bool.and_eq_true, Bool.or_eq_false_iff] at hopen hreg
          exact hA (.control c) l x₀ hx₀ hown hopen.1 hreg.1
        · rw [(hs.listens hφ).2.1, hown] at hne
          exact absurd rfl hne
    | _ => trivial

/-! ## Listeners of completed registrations -/

/-- The step replaces no record by a pool service, and pops none by the name of
another one. -/
def keepsRecords (s : State) : Action → Bool
  | (.control c, _) =>
      match s.point (.control c) with
      | .control (.poolBound _ _ _ _ _) => !s.store.services.contains (poolServiceName c)
      | .control (.drop _ r _ _) =>
          (s.store.services.get? r.name).all fun r' => r'.listener = r.listener
      | _ => true
  | _ => true

abbrev KeepsRecords (s : State) (a : Action) : Prop := keepsRecords s a = true

/-- Every registered listener that is open has its record in `_services`. -/
def ListenersOwned (σ : Store) : Prop :=
  ∀ l x, σ.listeners.get? l = some x → x.registered = true → x.isOpen = true →
    ∃ k r, σ.services.get? k = some r ∧ r.listener = l

theorem ServerStep.drops {r : RegisteredService} (hs : ServerStep srv σ t p seg)
    (hφ : seg.effect = .drop r) :
    ∃ c q rest e, t = .control c ∧ p = .control (.drop q r rest e) := by
  obtain ⟨c, p', seg', rfl, rfl, rfl, hcall⟩ := hs.ofCall (by rw [hφ]; rfl)
  cases hcall with
  | drop =>
      cases hφ
      exact ⟨_, _, _, _, rfl, rfl⟩
  | session hp hn hq hs hg hφ' => exact absurd hφ (hφ'.ne rfl)
  | _ => cases hφ

/-- A record that is popped takes its listener along. -/
theorem KeepsRecords.closes {s : State} {e : Event} {k : String} {r : RegisteredService}
    (hkeep : KeepsRecords s (t, e)) (hs : ServerStep srv s.store t (s.point t) seg)
    (hrec : RecordsOk srv s.store) (hk : s.store.services.get? k = some r)
    (hmem : k ∈ (seg.effect.removes s.store).map RegisteredService.name) :
    r.listener ∈ seg.effect.closes s.store := by
  obtain ⟨r', hr', hname⟩ := List.mem_map.mp hmem
  -- the services of a client are all popped, so the record itself is
  have hof : ∀ c, r' ∈ s.store.servicesOf c → r' = r := by
    intro c hc
    obtain ⟨⟨k', hk'⟩, -⟩ := mem_servicesOf.mp hc
    rw [← (hrec k' r' hk').1, hname, hk] at hk'
    exact (Option.some.inj hk').symm
  cases hφ : seg.effect with
  | drop r₀ =>
      obtain ⟨c, q, rest, e', ht, hp⟩ := hs.drops hφ
      rw [hφ] at hr'
      obtain rfl := List.mem_singleton.mp hr'
      subst ht
      simp only [KeepsRecords, keepsRecords, hp, hname, hk, Option.all_some,
        decide_eq_true_eq] at hkeep
      exact List.mem_singleton.mpr hkeep
  | evict v =>
      obtain ⟨c, q, scan, -, -, -, hv, -⟩ := hs.evicts hφ
      rw [hφ] at hr'
      have hr' : r' ∈ v.services := hr'
      have heq := hof v.client ((selectVictim_ok hv).1 ▸ hr')
      exact heq ▸ List.mem_map_of_mem hr'
  | removeClient c =>
      rw [hφ] at hr'
      have heq := hof c hr'
      exact heq ▸ List.mem_map_of_mem hr'
  | _ =>
      rw [hφ] at hr'
      cases hr'

/-- A record that is registered takes a name that is free. -/
theorem KeepsRecords.free {s : State} {e : Event} {r : RegisteredService}
    (hkeep : KeepsRecords s (t, e)) (hs : ServerStep srv s.store t (s.point t) seg)
    (hφ : seg.effect = .register r) : s.store.services.get? r.name = none := by
  obtain ⟨c, p', seg', rfl, hp, rfl, hcall⟩ := hs.ofCall (by rw [hφ]; rfl)
  cases hcall with
  | regularInsert hc =>
      cases hφ
      simpa [Dict.contains] using hc
  | poolInsert | poolReplace =>
      cases hφ
      simp only [KeepsRecords, keepsRecords, hp, Dict.contains, Bool.not_eq_true',
        Option.isSome_eq_false_iff, Option.isNone_iff_eq_none] at hkeep
      exact hkeep
  | session hp hn hq hs hg hφ' => exact absurd hφ (hφ'.ne rfl)
  | _ => cases hφ

theorem ownedOutline (srv : Server) :
    (program srv).Outline .initial .start Point.holds KeepsRecords ListenersOwned
      (fun _ _ _ => True) where
  initial := fun l x hx => by cases hx
  starts _ := trivial
  keeps {s t e seg} hat hI hA := by
    have hs := serverSegment_cases hat.segment
    have hrec := (records hat.run).1
    intro l x hx hreg hopen
    rcases Effect.of_listeners hx with ⟨x₀, hx₀, rfl⟩ | ⟨hφ, -⟩
    · simp only [Effect.listenerAfter, Bool.and_eq_true, Bool.or_eq_true,
        decide_eq_true_eq] at hreg hopen
      rcases hreg with hreg | hdone
      · obtain ⟨k, r, hk, rfl⟩ := hI l x₀ hx₀ hreg hopen.1
        refine ⟨k, r, Effect.services_of_get? hk ?_ ?_, rfl⟩
        · exact fun hmem => hopen.2 (hat.meets.closes hs hrec hk hmem)
        · rintro r' hφ rfl
          rw [hat.meets.free hs hφ] at hk
          cases hk
      · cases hφ : seg.effect with
        | register r =>
            rw [hφ] at hdone
            exact ⟨r.name, r, Effect.services_register _ r, Option.some.inj hdone⟩
        | _ =>
            rw [hφ] at hdone
            cases hdone
    · rw [(hs.listens hφ).1] at hreg
      cases hreg
  establishes _ _ _ := trivial
  spares _ _ _ _ := trivial

/-- **No listener is leaked.** In a run that keeps its records, every listener
of a completed registration that is still open belongs to exactly one record,
of the session that registered it; and a removed client has no open listener. -/
theorem no_leak (srv : Server) {s : State} (h : (system srv).ReachableUnder KeepsRecords s) :
    (∀ l x, s.store.listeners.get? l = some x → x.registered = true → x.isOpen = true →
      ∃ k r, s.store.services.get? k = some r ∧ r.listener = l ∧ r.client = x.owner ∧
        ∀ k' r', s.store.services.get? k' = some r' → r'.listener = l → k' = k) ∧
    (∀ c ∈ s.store.removed, ∀ l x, s.store.listeners.get? l = some x → x.owner = c →
      x.isOpen = false) := by
  have hrec := (records h).1
  have hown := ((ownedOutline srv).sound (discipline srv) h).1
  have hopening := ((openingOutline srv _).sound (discipline srv) h).2
  have howner : ∀ k r x, s.store.services.get? k = some r →
      s.store.listeners.get? r.listener = some x → x.callback = k ∧ x.owner = r.client := by
    intro k r x hk hx
    obtain ⟨hname, raw, hc⟩ := hrec k r hk
    obtain ⟨y, hy, hcb, hcl, -⟩ := hc.opened
    rw [hx, Option.some.injEq] at hy
    rw [hy, hcb, hcl]
    exact ⟨hname, rfl⟩
  constructor
  · intro l x hx hreg hopen
    obtain ⟨k, r, hk, rfl⟩ := hown l x hx hreg hopen
    obtain ⟨hcb, hcl⟩ := howner k r x hk hx
    refine ⟨k, r, hk, rfl, hcl.symm, fun k' r' hk' hl => ?_⟩
    -- the callback of a listener names its record
    rw [← hl] at hx
    rw [← hcb, (howner k' r' x hk' hx).1]
  · rintro c hc l x hx rfl
    cases hopen : x.isOpen with
    | false => rfl
    | true =>
        cases hreg : x.registered with
        | true =>
            obtain ⟨k, r, hk, rfl⟩ := hown l x hx hreg hopen
            exact absurd (howner k r x hk hx).2.symm ((removed h).1 _ hc k r hk)
        | false =>
            obtain ⟨p, hp, hl⟩ := hopening (.control x.owner) l x hx rfl hopen hreg
            obtain ⟨p', hp', hgone⟩ := (removed h).2 (.control x.owner) hc
            rw [hp] at hp'
            cases hp'
            cases p <;> cases hgone <;> cases hl

theorem no_leak_pool : ∃ s, (system Schedule.poolServer).ReachableUnder KeepsRecords s ∧
    ∃ x, s.store.listeners.get? 0 = some x ∧
      ∃ k r, s.store.services.get? k = some r ∧ r.listener = 0 ∧ r.client = x.owner := by
  obtain ⟨s, hs, hany⟩ := System.exists_of_execWhile (M := system Schedule.poolServer)
    (C := KeepsRecords)
    (P := fun s => (s.store.listeners.get? 0).any (fun x => x.registered && x.isOpen) = true)
    (Schedule.connect "a" false [Schedule.poolItem] ++ Schedule.pool "a" 0 6000 ++
      Schedule.answer "a")
    (fun _ _ _ h => h) (by decide)
  obtain ⟨x, hx, hb⟩ := (Option.any_eq_true _ _).mp hany
  rw [Bool.and_eq_true] at hb
  obtain ⟨k, r, hk, hl, hc, -⟩ := (no_leak Schedule.poolServer hs).1 0 x hx hb.1 hb.2
  exact ⟨s, hs, x, hx, k, r, hk, hl, hc⟩

/-- One message registers two pool services: the second record replaces the first. -/
def twoPoolItemsRun : List Action :=
  Schedule.connect "a" false [Schedule.poolItem, Schedule.poolItem] ++ Schedule.pool "a" 0 6000 ++
    Schedule.pool "a" 1 6001 ++ Schedule.answer "a" ++
    [(.control "a", .read none), (.control "a", .go)]

theorem pool_leak : ∃ s, (system Schedule.poolServer).Reachable s ∧ "a" ∈ s.store.removed ∧
    ∃ x, s.store.listeners.get? 0 = some x ∧ x.owner = "a" ∧ x.registered = true ∧
      x.isOpen = true ∧ ∀ r ∈ s.store.services.values, r.listener ≠ 0 := by
  obtain ⟨s, hs, hc, hany, hno⟩ := System.exists_of_exec (M := system Schedule.poolServer)
    (P := fun s => "a" ∈ s.store.removed ∧
      (s.store.listeners.get? 0).any
        (fun x => decide (x.owner = "a") && x.registered && x.isOpen) = true ∧
      ∀ r ∈ s.store.services.values, r.listener ≠ 0)
    twoPoolItemsRun (by decide)
  obtain ⟨x, hx, hb⟩ := (Option.any_eq_true _ _).mp hany
  simp only [Bool.and_eq_true, decide_eq_true_eq] at hb
  exact ⟨s, hs, hc, x, hx, hb.1.1, hb.1.2, hb.2, hno⟩

end PyFrp
