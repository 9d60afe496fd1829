import PyFrp.Server.Ownership

/-!
# Registrations that fail (`server.py`)

A call of `_register_client` with no other operation interleaved. Its `except`
clause takes back what the call has registered. It does not give back what the
call has taken from another client.
-/

namespace PyFrp

open Python Coop Store

variable {srv : Server} {σ σ₀ : Store} {b c : ClientId} {p : ControlPoint}
variable {seg : Segment LockId Effect ControlPoint} {s s' : State} {a : Action}

/-! ## The call -/

/-- The steps of a call of `_register_client` for `c`, and of no other task. -/
structure Registering (c : ClientId) (s : State) (a : Action) : Prop where
  task : a.1 = .control c
  inside : ∃ p, s.point (.control c) = .control p ∧ p.session = false

/-- The locals of the call. -/
def ControlPoint.request : ControlPoint → Option Request
  | .item q | .regularBind q _ _ | .regularBound q _ _ | .regularInsert q _ | .regularTaken q _
  | .rollback q _ _ | .drop q _ _ _ | .dropped q _ _ _ | .raised q _ | .sendRegistered q _ =>
      some q
  | .poolEnter p | .poolScan p _ _ | .poolBind p _ _ _ | .poolBound p _ _ _ _ | .poolEvict p _ =>
      some p.request
  | .announce p | .sendPreempted p | .preemptedSent p | .closeVictim p => some p.call.request
  | _ => none

/-- The records that the call has registered and not dropped again. -/
def ControlPoint.undo : ControlPoint → List RegisteredService
  | .item q | .regularBind q _ _ | .regularBound q _ _ | .regularInsert q _ | .regularTaken q _
  | .sendRegistered q _ => q.registered
  | .poolEnter p | .poolScan p _ _ | .poolBind p _ _ _ | .poolBound p _ _ _ _ | .poolEvict p _ =>
      p.request.registered
  | .announce p | .sendPreempted p | .preemptedSent p | .closeVictim p =>
      p.call.request.registered ++ p.outcome.toList
  | .rollback _ rest _ | .dropped _ _ rest _ => rest
  | .drop _ r rest _ => r :: rest
  | _ => []

/-- The locals of the call that do not change. -/
theorem ControlStep.request (hs : ControlStep srv σ c p seg) (hp : p.session = false) :
    ∃ q q', p.request = some q ∧ seg.next.request = some q' ∧
      q' = { q with registered := q'.registered } := by
  cases hs with
  | item h => cases h <;> exact ⟨_, _, rfl, rfl, rfl⟩
  | leave => cases hp
  | begin hp' => simp [hp] at hp'
  | session hp' => simp [hp] at hp'
  | _ => exact ⟨_, _, rfl, rfl, rfl⟩

/-- Does the effect register a record or drop one? -/
def Effect.ofRecord : Effect → Bool
  | .register _ | .drop _ => true
  | _ => false

/-- A record is registered, or dropped, or neither. -/
theorem ControlStep.undo (hs : ControlStep srv σ c p seg) (hp : p.session = false) :
    (∃ r, seg.effect = .register r ∧ seg.next.undo = p.undo ++ [r]) ∨
      (∃ r, seg.effect = .drop r ∧ p.undo = r :: seg.next.undo) ∨
      (seg.effect.ofRecord = false ∧ seg.next.undo = p.undo) := by
  cases hs with
  | item h => cases h <;> exact .inr (.inr ⟨rfl, rfl⟩)
  | regularInsert h => exact .inl ⟨_, rfl, rfl⟩
  | poolInsert => exact .inl ⟨_, rfl, rfl⟩
  | poolReplace => exact .inl ⟨_, rfl, rfl⟩
  | drop => exact .inr (.inl ⟨_, rfl, rfl⟩)
  | preempted h =>
      refine .inr (.inr ⟨rfl, ?_⟩)
      simp [ControlPoint.undo, appended, h]
  | preemptedInVain e h =>
      refine .inr (.inr ⟨rfl, ?_⟩)
      simp [ControlPoint.undo, h]
  | poolFull => exact .inr (.inr ⟨rfl, by simp [ControlPoint.undo]⟩)
  | leave => cases hp
  | begin hp' => simp [hp] at hp'
  | session hp' => simp [hp] at hp'
  | _ => exact .inr (.inr ⟨rfl, rfl⟩)

/-- Only an eviction takes pending tunnels away. -/
theorem ControlStep.pending (hs : ControlStep srv σ c p seg) (hp : p.session = false)
    (hev : ∀ v, seg.effect ≠ .evict v) : (seg.effect.apply σ).pending = σ.pending := by
  rw [Effect.apply_pending]
  cases hs with
  | poolEvict => exact absurd rfl (hev _)
  | leave => cases hp
  | begin hp' => simp [hp] at hp'
  | session hp' => simp [hp] at hp'
  | _ => rfl

/-- A step of the call. -/
theorem Registering.step (h : (system srv).Reachable s) (hc : Registering c s a)
    (hs : (system srv).step s a = some s') :
    ∃ p seg, s.point (.control c) = .control p ∧ p.session = false ∧
      ControlStep srv s.store c p seg ∧ s'.store = seg.effect.apply s.store ∧
      s'.point (.control c) = .control seg.next := by
  obtain ⟨t, e⟩ := a
  obtain ⟨p, hp, hsession⟩ := hc.inside
  obtain rfl : t = .control c := hc.task
  obtain ⟨seg, hat, rfl⟩ := Program.At.of_step (discipline srv) h trivial hs
  obtain ⟨seg', hseg, rfl⟩ := serverSegment_control (hp ▸ hat.segment)
  refine ⟨p, seg', hp, hsession, controlSegment_cases hseg, ?_, ?_⟩
  · exact Program.commit_store _ _ _
  · exact Program.commit_point_self _ _ _

/-! ## What the call has to take back -/

/-- Is the listener open? -/
def Store.Listening (σ : Store) (l : Nat) : Prop :=
  ∃ x, σ.listeners.get? l = some x ∧ x.isOpen = true

theorem Effect.listening_iff {φ : Effect} {l : Nat} :
    (φ.apply σ).Listening l ↔ (σ.Listening l ∧ l ∉ φ.closes σ) ∨
      ∃ x, φ = .listen x ∧ x.isOpen = true ∧ l = σ.listeners.size := by
  constructor
  · rintro ⟨x, hx, hopen⟩
    rcases Effect.of_listeners hx with ⟨x₀, hx₀, rfl⟩ | ⟨hφ, hl⟩
    · simp only [Effect.listenerAfter, Bool.and_eq_true, decide_eq_true_eq] at hopen
      exact .inl ⟨⟨x₀, hx₀, hopen.1⟩, hopen.2⟩
    · exact .inr ⟨x, hφ, hopen, hl⟩
  · rintro (⟨⟨x, hx, hopen⟩, hl⟩ | ⟨x, rfl, hopen, rfl⟩)
    · exact ⟨_, Effect.listeners_of_get? hx, by simp [Effect.listenerAfter, hopen, hl]⟩
    · exact ⟨x, by simp [Effect.apply], hopen⟩

section

variable (hs : ControlStep srv σ c p seg) (hp : p.session = false)
variable (hev : ∀ v, seg.effect ≠ .evict v)
include hs hp

/-- A record is registered for the listener that the task has open, under a name that is
free, or that is its own. -/
theorem ControlStep.register {r : RegisteredService} (hφ : seg.effect = .register r) :
    p.opening = some r.listener ∧
      (σ.services.get? r.name = none ∨ r.name = poolServiceName c) := by
  cases hs with
  | regularInsert h =>
      cases hφ
      refine ⟨rfl, .inl ?_⟩
      simpa [Dict.contains] using h
  | poolInsert =>
      cases hφ
      exact ⟨rfl, .inr rfl⟩
  | poolReplace =>
      cases hφ
      exact ⟨rfl, .inr rfl⟩
  | session hp' => simp [hp] at hp'
  | _ => cases hφ

/-- A listener is opened, or goes on being the one of the unfinished registration. -/
theorem ControlStep.next_opening {l : Nat} (hl : seg.next.opening = some l) :
    p.opening = some l ∨ l = σ.listeners.size := by
  cases hs with
  | item h => cases h <;> cases hl
  | regularListen => exact .inr (Option.some.inj hl).symm
  | poolListen => exact .inr (Option.some.inj hl).symm
  | regularBound => exact .inl hl
  | leave => cases hp
  | begin hp' => simp [hp] at hp'
  | session hp' => simp [hp] at hp'
  | _ => cases hl

theorem ControlStep.opens {x : Listener} (hφ : seg.effect = .listen x) :
    seg.next.opening = some σ.listeners.size := by
  cases hs with
  | regularListen => rfl
  | poolListen => rfl
  | session hp' => simp [hp] at hp'
  | _ => cases hφ

include hev

/-- The call closes its own listeners. -/
theorem ControlStep.closes {l : Nat} (hl : l ∈ seg.effect.closes σ) :
    p.opening = some l ∨ l ∈ p.undo.map RegisteredService.listener := by
  cases hs with
  | regularDiscard =>
      obtain rfl := List.mem_singleton.mp hl
      exact .inl rfl
  | drop =>
      obtain rfl := List.mem_singleton.mp hl
      exact .inr (.head _)
  | poolEvict => exact absurd rfl (hev _)
  | leave => cases hp
  | begin hp' => simp [hp] at hp'
  | session hp' => simp [hp] at hp'
  | _ => cases hl

theorem ControlStep.removes (hφ : seg.effect.ofRecord = false) : seg.effect.removes σ = [] := by
  cases hs with
  | drop => cases hφ
  | poolEvict => exact absurd rfl (hev _)
  | leave => cases hp
  | begin hp' => simp [hp] at hp'
  | session hp' => simp [hp] at hp'
  | _ => rfl

end

/-- What the call has changed since `σ₀`, which dropping its records takes back. -/
structure Undoable (σ₀ σ : Store) (p : ControlPoint) : Prop where
  services : σ.services.eraseAll (p.undo.map RegisteredService.name) = σ₀.services
  pending : σ.pending = σ₀.pending
  grown : ∀ l, σ.listeners.get? l = none → σ₀.listeners.get? l = none
  own : ∀ l, l ∈ p.undo.map RegisteredService.listener ∨ p.opening = some l →
    σ₀.listeners.get? l = none
  still : ∀ l, σ₀.Listening l → σ.Listening l
  opened : ∀ l, σ.Listening l →
    σ₀.Listening l ∨ l ∈ p.undo.map RegisteredService.listener ∨ p.opening = some l

theorem Undoable.step (h : Undoable σ₀ σ p) (hs : ControlStep srv σ c p seg)
    (hp : p.session = false) (hev : ∀ v, seg.effect ≠ .evict v)
    (hfree : σ₀.services.get? (poolServiceName c) = none) :
    Undoable σ₀ (seg.effect.apply σ) seg.next where
  services := by
    rw [Effect.apply_services]
    rcases hs.undo hp with ⟨r, hφ, hundo⟩ | ⟨r, hφ, hundo⟩ | ⟨hquiet, hundo⟩
    · rw [hφ, hundo, List.map_append]
      show (σ.services.set r.name r).eraseAll (_ ++ [r.name]) = _
      have hnone : σ₀.services.get? r.name = none := by
        rcases (hs.register hp hφ).2 with hnone | hname
        · rw [← h.services, Dict.get?_eraseAll, hnone, ite_self]
        · rw [hname, hfree]
      rw [Dict.eraseAll_set _ _ (by rw [h.services, hnone]), h.services]
    · rw [← h.services, hφ, hundo]
      rfl
    · rw [hundo, ← h.services]
      split
      · rename_i r hφ
        rw [hφ] at hquiet
        cases hquiet
      · rw [hs.removes hp hev hquiet]
        rfl
  pending := (hs.pending hp hev).trans h.pending
  grown l hl := by
    refine h.grown l ?_
    cases hx : σ.listeners.get? l with
    | none => rfl
    | some x =>
        rw [Effect.listeners_of_get? hx] at hl
        cases hl
  own l hl := by
    have hsize : σ.listeners.get? σ.listeners.size = none := by
      simp [Heap.get?]
    rcases hl with hl | hl
    · rcases hs.undo hp with ⟨r, hφ, hundo⟩ | ⟨r, hφ, hundo⟩ | ⟨-, hundo⟩
      · rw [hundo, List.map_append, List.mem_append] at hl
        rcases hl with hl | hl
        · exact h.own l (.inl hl)
        · obtain rfl := List.mem_singleton.mp hl
          exact h.own _ (.inr (hs.register hp hφ).1)
      · exact h.own l (.inl (by rw [hundo]; exact .tail _ hl))
      · exact h.own l (.inl (hundo ▸ hl))
    · rcases hs.next_opening hp hl with hl | rfl
      · exact h.own l (.inr hl)
      · exact h.grown _ hsize
  still l hl := by
    refine Effect.listening_iff.mpr (.inl ⟨h.still l hl, fun hclosed => ?_⟩)
    obtain ⟨x, hx, -⟩ := hl
    rw [h.own l (hs.closes hp hev hclosed).symm] at hx
    cases hx
  opened l hl := by
    rcases Effect.listening_iff.mp hl with ⟨hl, hopen⟩ | ⟨x, hφ, -, rfl⟩
    · rcases h.opened l hl with hl | hl | hl
      · exact .inl hl
      · rcases hs.undo hp with ⟨r, hφ, hundo⟩ | ⟨r, hφ, hundo⟩ | ⟨-, hundo⟩
        · refine .inr (.inl ?_)
          rw [hundo, List.map_append]
          exact List.mem_append_left _ hl
        · rw [hundo] at hl
          rcases List.mem_cons.mp hl with rfl | hl
          · rw [hφ] at hopen
            exact absurd (List.mem_singleton.mpr rfl) hopen
          · exact .inr (.inl hl)
        · exact .inr (.inl (hundo ▸ hl))
      · rcases hs.opening hl with hnext | hdone | hclosed
        · exact .inr (.inr hnext)
        · -- the registration is complete
          rcases hs.undo hp with ⟨r, hφ, hundo⟩ | ⟨r, hφ, -⟩ | ⟨hquiet, -⟩
          · rw [hφ] at hdone
            obtain rfl := Option.some.inj hdone
            refine .inr (.inl ?_)
            rw [hundo, List.map_append]
            exact List.mem_append_right _ (List.mem_singleton.mpr rfl)
          · rw [hφ] at hdone
            cases hdone
          · cases hφ : seg.effect with
            | register r =>
                rw [hφ] at hquiet
                cases hquiet
            | _ =>
                rw [hφ] at hdone
                cases hdone
        · exact absurd hclosed hopen
    · exact .inr (.inr (hs.opens hp hφ))

/-! ## Registrations without force -/

/-- A run of the call that evicts nobody. -/
theorem undoable_of_runs {current : Fields} {retry : Bool} (h : (system srv).Reachable s)
    (hstart : s.point (.control c) = .control (startRegister current retry false))
    (hfree : s.store.services.get? (poolServiceName c) = none)
    (hrun : (system srv).Runs (Registering c) s s') :
    ∃ p q, s'.point (.control c) = .control p ∧ p.request = some q ∧ q.message = current ∧
      q.force = false ∧ Undoable s.store s'.store p := by
  refine hrun.invariant (P := fun u => ∃ p q, u.point (.control c) = .control p ∧
    p.request = some q ∧ q.message = current ∧ q.force = false ∧ Undoable s.store u.store p) ?_ ?_
  · have hundo : (startRegister current retry false).undo = [] ∧
        (startRegister current retry false).opening = none := by
      unfold startRegister
      split <;> exact ⟨rfl, rfl⟩
    have hrequest : ∃ q, (startRegister current retry false).request = some q ∧
        q.message = current ∧ q.force = false := by
      unfold startRegister
      split <;> exact ⟨_, rfl, rfl, rfl⟩
    obtain ⟨q, hq, hm, hf⟩ := hrequest
    refine ⟨_, q, hstart, hq, hm, hf, ?_⟩
    constructor <;> simp [hundo, Dict.eraseAll]
  · rintro u a v hu ⟨p, q, hp, hq, hm, hf, hundo⟩ hc hs
    obtain ⟨p', seg, hp', hsession, hstep, hstore, hnext⟩ :=
      hc.step (h.runs (hu.mono fun _ _ _ => trivial)) hs
    rw [hp] at hp'
    cases hp'
    obtain ⟨q₀, q', hq₀, hq', heq⟩ := hstep.request hsession
    rw [hq] at hq₀
    cases hq₀
    have hev : ∀ v, seg.effect ≠ .evict v := by
      intro v hφ
      cases hstep with
      | poolEvict hports hv =>
          cases hq
          rw [hf] at hv
          cases (selectVictim_rule hv).1
      | leave => cases hsession
      | session hp' => simp [hsession] at hp'
      | _ => cases hφ
    refine ⟨_, q', hnext, hq', ?_, ?_, hstore ▸ hundo.step hstep hsession hev hfree⟩
    · rw [heq]
      exact hm
    · rw [heq]
      exact hf

/-- **A registration without force that fails changes nothing**, and one that succeeds
leaves the records of `_services` as they are. -/
theorem register_unforced {current : Fields} {retry : Bool} (h : (system srv).Reachable s)
    (hstart : s.point (.control c) = .control (startRegister current retry false))
    (hname : ∀ r, s.store.services.get? (poolServiceName c) = some r → r.poolToken.isSome = true)
    (hnone : s.store.servicesOf c = [])
    (hrun : (system srv).Runs (Registering c) s s') :
    (∀ q e, s'.point (.control c) = .control (.raised q e) →
      s'.store.services = s.store.services ∧ s'.store.pending = s.store.pending ∧
        ∀ l, s'.store.Listening l ↔ s.store.Listening l) ∧
    (∀ q services, s'.point (.control c) = .control (.sendRegistered q services) →
      (∃ items, dictGet current "services" = .list items ∧
        List.Forall₂ (Completed srv s'.store.listeners c) items q.registered) ∧
      ∀ k r, s.store.services.get? k = some r → s'.store.services.get? k = some r) := by
  have hfree : s.store.services.get? (poolServiceName c) = none := by
    cases hk : s.store.services.get? (poolServiceName c) with
    | none => rfl
    | some r =>
        have hown := client_of_poolServiceName (records h).1 hk (hname r hk)
        have hmem : r ∈ s.store.servicesOf c := mem_servicesOf.mpr ⟨⟨_, hk⟩, hown⟩
        rw [hnone] at hmem
        cases hmem
  obtain ⟨p, q, hp, hq, hm, -, hundo⟩ := undoable_of_runs h hstart hfree hrun
  have hreach : (system srv).Reachable s' := h.runs (hrun.mono fun _ _ _ => trivial)
  refine ⟨fun q' e hraised => ?_, fun q' services hreturned => ?_⟩
  · rw [hp] at hraised
    cases hraised
    refine ⟨hundo.services, hundo.pending, fun l => ⟨fun hl => ?_, hundo.still l⟩⟩
    rcases hundo.opened l hl with hl | hl | hl
    · exact hl
    · cases hl
    · cases hl
  · rw [hp] at hreturned
    cases hreturned
    obtain rfl : q' = q := Option.some.inj hq
    have hok := (records hreach).2 (.control c)
    rw [hp] at hok
    obtain ⟨hrequest, hlen, -⟩ := hok
    refine ⟨⟨q'.items, hm ▸ hrequest.message, ?_⟩, fun k r hk => ?_⟩
    · refine List.forall₂_iff_get.mpr ⟨hlen.symm, fun i hi hi' => ?_⟩
      obtain ⟨raw, hraw, hc⟩ := hrequest.registered i _ (List.getElem?_eq_getElem hi')
      rw [List.getElem?_eq_getElem hi] at hraw
      cases hraw
      exact hc
    · rw [← hundo.services, Dict.get?_eraseAll] at hk
      split at hk
      · cases hk
      · exact hk

/-! ## Registrations with force -/

/-- The other clients have the services, open listeners and pending tunnels that they had. -/
structure OthersSame (σ σ' : Store) (c : ClientId) : Prop where
  kept : ∀ b, b ≠ c → Kept σ σ' b
  gained : ∀ b, b ≠ c → Kept σ' σ b
  pending : ∀ id t, t.client ≠ c → (σ'.pending.get? id = some t ↔ σ.pending.get? id = some t)

/-- The next step of `c` stores a pool service in the place of the record of another client. -/
def Replaces (c : ClientId) (s : State) : Prop :=
  ∃ p victim scan port l r, s.point (.control c) = .control (.poolBound p victim scan port l) ∧
    s.store.services.get? (poolServiceName c) = some r ∧ r.client ≠ c

/-- The next step of `c` takes something from another client. -/
def Disturbs (c : ClientId) (s : State) : Prop :=
  (∃ b, Evicts s b (.control c)) ∨ Replaces c s

/-- The steps of a call that take nothing from another client. -/
structure Undisturbing (c : ClientId) (s : State) (a : Action) : Prop where
  call : Registering c s a
  spares : ¬ Disturbs c s

/-- The names of the records are those of services of `c`. -/
def OwnNames (σ : Store) (c : ClientId) (rs : List RegisteredService) : Prop :=
  ∀ r ∈ rs, ∀ r', σ.services.get? r.name = some r' → r'.client = c

/-- No client but the one whose task makes the step gets anything. -/
theorem gained_of_step {t : TaskId} {pt : Point} {seg : Segment LockId Effect Point}
    (hs : ServerStep srv σ t pt seg) (hok : PointOk srv σ t pt) (hb : t ≠ .control b) :
    Kept (seg.effect.apply σ) σ b := by
  constructor
  · intro k r hk hr
    rcases Effect.of_services hk with ⟨hφ, -⟩ | ⟨hk, -⟩
    · obtain ⟨c', raw, rfl, ho⟩ := hs.registers hok hφ
      rw [← hr, ho.made.client] at hb
      exact absurd rfl hb
    · exact hk
  · intro l x hx hown hopen
    rcases Effect.of_listeners hx with ⟨x₀, hx₀, rfl⟩ | ⟨hφ, -⟩
    · simp only [Effect.listenerAfter, Bool.and_eq_true] at hopen
      exact ⟨x₀, hx₀, hown, hopen.1⟩
    · exact absurd (hown ▸ (hs.listens hφ).2.1) hb

/-- A name that belongs to `c` goes on belonging to it. -/
theorem OwnNames.step {rs : List RegisteredService} (h : OwnNames σ c rs)
    (hs : ControlStep srv σ c p seg) (hok : ControlOk srv σ.listeners c p) :
    OwnNames (seg.effect.apply σ) c rs := by
  intro r hr r' hk
  rcases Effect.of_services hk with ⟨hφ, -⟩ | ⟨hk, -⟩
  · obtain ⟨raw, ho⟩ := hs.registers hok hφ
    exact ho.made.client
  · exact h r hr r' hk

theorem OwnNames.next (h : OwnNames σ c p.undo) (hs : ControlStep srv σ c p seg)
    (hok : ControlOk srv σ.listeners c p) (hp : p.session = false) :
    OwnNames (seg.effect.apply σ) c seg.next.undo := by
  have hstep := h.step hs hok
  rcases hs.undo hp with ⟨r, hφ, hundo⟩ | ⟨r, -, hundo⟩ | ⟨-, hundo⟩
  · rw [hundo]
    intro r₁ hr₁ r' hk
    rcases List.mem_append.mp hr₁ with hr₁ | hr₁
    · exact hstep r₁ hr₁ r' hk
    · -- the record just stored
      obtain rfl := List.mem_singleton.mp hr₁
      rw [hφ, Effect.services_register] at hk
      cases hk
      obtain ⟨raw, ho⟩ := hs.registers hok hφ
      exact ho.made.client
  · intro r₁ hr₁
    exact hstep r₁ (hundo ▸ .tail _ hr₁)
  · rw [hundo]
    exact hstep

/-- A step of the call that disturbs nobody. -/
theorem Undisturbing.step (h : (system srv).Reachable s) (hc : Undisturbing c s a)
    (hs : (system srv).step s a = some s')
    (hnames : ∀ p, s.point (.control c) = .control p → OwnNames s.store c p.undo) :
    OthersSame s.store s'.store c ∧
      ∀ p, s'.point (.control c) = .control p → OwnNames s'.store c p.undo := by
  obtain ⟨p, seg, hp, hsession, hstep, hstore, hnext⟩ := hc.call.step h hs
  obtain ⟨hrec, hpoints⟩ := records h
  have hok := hpoints (.control c)
  have hserver : ServerStep srv s.store (.control c) (s.point (.control c))
      (seg.lift .control) := hp ▸ .control hstep
  have hctl : ControlOk srv s.store.listeners c p := by
    rw [hp] at hok
    exact hok
  have hev : ∀ v, seg.effect ≠ .evict v := by
    intro v hφ
    obtain ⟨c', q, scan, hc', hpoint, hports, hv, -⟩ := hserver.evicts hφ
    cases hc'
    refine hc.spares (.inl ⟨v.client, q, scan, v, hpoint, hports, ?_, ?_, rfl⟩)
    · exact (selectVictim_rule hv).1
    · exact (selectVictim_rule hv).1 ▸ hv
  have hown : ∀ r r', seg.effect = .register r → s.store.services.get? r.name = some r' →
      TaskId.control c = .control r'.client := by
    intro r r' hφ hk
    refine congrArg TaskId.control (Eq.symm ?_)
    cases hstep with
    | regularInsert hfree =>
        cases hφ
        simp [Dict.contains, hk] at hfree
    | poolInsert | poolReplace =>
        cases hφ
        by_contra hne
        exact hc.spares (.inr ⟨_, _, _, _, _, _, hp, hk, hne⟩)
    | session hp' => simp [hsession] at hp'
    | _ => cases hφ
  have hpops : PopsOwn s (.control c, a.2) := by
    simp only [PopsOwn, popsOwn, hp]
    split
    · rename_i q r rest e hpoint
      cases hpoint
      rw [Option.all_eq_true]
      intro r' hr'
      exact decide_eq_true (hnames _ hp r (.head _) r' hr')
    · rfl
  refine ⟨⟨fun b hb => ?_, fun b hb => ?_, fun id t _ => ?_⟩, fun p' hp' => ?_⟩
  · rw [hstore]
    have htask : TaskId.control c ≠ .control b := fun heq => hb (TaskId.control.inj heq).symm
    refine (kept_of_step hserver hrec hok hown hpops htask).resolve_right fun hevicts => ?_
    exact hc.spares (.inl ⟨b, hevicts⟩)
  · rw [hstore]
    exact gained_of_step hserver hok fun heq => hb (TaskId.control.inj heq).symm
  · rw [hstore, hstep.pending hsession hev]
  · rw [hnext] at hp'
    cases hp'
    rw [hstore]
    exact (hnames p hp).next hstep hctl hsession

/-- A step of the call that disturbs somebody takes a service away. -/
theorem Disturbs.step (h : (system srv).Reachable s) (hc : Registering c s a)
    (hd : Disturbs c s) (hs : (system srv).step s a = some s') :
    ∃ b, b ≠ c ∧ ¬ Kept s.store s'.store b := by
  obtain ⟨p, seg, hp, hsession, hstep, hstore, -⟩ := hc.step h hs
  have hlost : ∀ {k r}, s.store.services.get? k = some r → r.client ≠ c →
      (seg.effect.apply s.store).services.get? k ≠ some r →
      ∃ b, b ≠ c ∧ ¬ Kept s.store s'.store b := by
    intro k r hk hne hgone
    refine ⟨r.client, hne, fun hkept => hgone ?_⟩
    rw [← hstore]
    exact hkept.services k r hk rfl
  rcases hd with ⟨b, q, scan, v, hpoint, hports, hforce, hv, -⟩ | ⟨q, victim, scan, port, l, r,
    hpoint, hk, hne⟩
  · rw [hp] at hpoint
    cases hpoint
    have hφ : seg.effect = .evict v := by
      cases hstep with
      | poolSkip hports' => simp [hports] at hports'
      | poolTry hports' => simp [hports] at hports'
      | poolEvict _ hv' =>
          rw [hforce, hv] at hv'
          cases hv'
          rfl
      | poolDenied _ hv' =>
          rw [hforce, hv] at hv'
          cases hv'
      | begin hp' => cases hp'
      | session hp' => cases hp'
    obtain ⟨-, r, hr, hclient, -⟩ := selectVictim_rule hv
    obtain ⟨⟨k, hk⟩, -, hne⟩ := mem_otherPoolServices.mp hr
    refine hlost hk hne ?_
    have hname := ((records h).1 k r hk).1
    rw [Effect.apply_services, hφ]
    show (s.store.services.eraseAll (v.services.map RegisteredService.name)).get? k ≠ some r
    rw [Dict.get?_eraseAll, if_pos]
    · exact nofun
    · rw [(selectVictim_ok hv).1, ← hname]
      exact List.mem_map_of_mem (mem_servicesOf.mpr ⟨⟨k, hk⟩, hclient⟩)
  · rw [hp] at hpoint
    cases hpoint
    refine hlost hk hne ?_
    have hφ : seg.effect = .register (poolService srv c q.item port l) := by
      cases hstep with
      | poolInsert => rfl
      | poolReplace => rfl
      | begin hp' => cases hp'
      | session hp' => cases hp'
    rw [hφ]
    intro heq
    rw [show poolServiceName c = (poolService srv c q.item port l).name from rfl,
      Effect.services_register] at heq
    cases heq
    exact hne rfl

theorem OthersSame.refl (σ : Store) (c : ClientId) : OthersSame σ σ c :=
  ⟨fun b _ => .refl σ b, fun b _ => .refl σ b, fun _ _ _ => Iff.rfl⟩

theorem OthersSame.trans {σ₁ σ₂ σ₃ : Store} (h₁ : OthersSame σ₁ σ₂ c)
    (h₂ : OthersSame σ₂ σ₃ c) : OthersSame σ₁ σ₃ c where
  kept b hb := (h₁.kept b hb).trans (h₂.kept b hb)
  gained b hb := (h₂.gained b hb).trans (h₁.gained b hb)
  pending id t ht := (h₂.pending id t ht).trans (h₁.pending id t ht)

section

variable {current : Fields} {retry force : Bool} (h : (system srv).Reachable s)
variable (hstart : s.point (.control c) = .control (startRegister current retry force))
include h hstart

theorem others_of_runs (hrun : (system srv).Runs (Undisturbing c) s s') :
    OthersSame s.store s'.store c ∧
      ∀ p, s'.point (.control c) = .control p → OwnNames s'.store c p.undo := by
  refine hrun.invariant (P := fun u => OthersSame s.store u.store c ∧
    ∀ p, u.point (.control c) = .control p → OwnNames u.store c p.undo)
    ⟨.refl _ _, fun p hp => ?_⟩ ?_
  · rw [hstart] at hp
    cases hp
    have hundo : (startRegister current retry force).undo = [] := by
      unfold startRegister
      split <;> rfl
    rw [hundo]
    exact fun r hr => nomatch hr
  · rintro u a v hu ⟨hsame, hnames⟩ hc hs
    obtain ⟨hstep, hnext⟩ := hc.step (h.runs (hu.mono fun _ _ _ => trivial)) hs hnames
    exact ⟨hsame.trans hstep, hnext⟩

/-- What has been taken from another client is not given back. -/
theorem runs_or_lost (hrun : (system srv).Runs (Registering c) s s') :
    (system srv).Runs (Undisturbing c) s s' ∨ ∃ b, b ≠ c ∧ ¬ Kept s.store s'.store b := by
  refine hrun.invariant (P := fun u => (system srv).Runs (Undisturbing c) s u ∨
    ∃ b, b ≠ c ∧ ¬ Kept s.store u.store b) (.inl .refl) ?_
  rintro u a v hu hstate hc hs
  have hreach : (system srv).Reachable u := h.runs (hu.mono fun _ _ _ => trivial)
  rcases hstate with hund | ⟨b, hb, hlost⟩
  · by_cases hd : Disturbs c u
    · obtain ⟨b, hb, hlost⟩ := hd.step hreach hc hs
      refine .inr ⟨b, hb, fun hkept => hlost ?_⟩
      exact (((others_of_runs h hstart hund).1).gained b hb).trans hkept
    · exact .inl (.tail hund ⟨hc, hd⟩ hs)
  · refine .inr ⟨b, hb, fun hkept => hlost (hkept.trans ?_)⟩
    obtain ⟨p, seg, hp, -, hstep, hstore, -⟩ := hc.step hreach hs
    have hserver : ServerStep srv u.store (.control c) (u.point (.control c))
        (seg.lift .control) := hp ▸ .control hstep
    rw [hstore]
    exact gained_of_step hserver ((records hreach).2 _) fun heq => hb (TaskId.control.inj heq).symm

/-- **A registration takes nothing from the other clients**, whether it fails or not, if and
only if it evicts no client and replaces no record of another one. -/
theorem register_spares_iff (hrun : (system srv).Runs (Registering c) s s') :
    OthersSame s.store s'.store c ↔ (system srv).Runs (Undisturbing c) s s' := by
  constructor
  · intro hsame
    refine (runs_or_lost h hstart hrun).resolve_right ?_
    rintro ⟨b, hb, hlost⟩
    exact hlost (hsame.kept b hb)
  · intro hund
    exact (others_of_runs h hstart hund).1

end

/-! ## Failing registrations -/

/-- The test for `Registering`. -/
def registering (c : ClientId) (s : State) (a : Action) : Bool :=
  match s.point (.control c) with
  | .control p => decide (a.1 = .control c) && !p.session
  | _ => false

theorem registering_spec (h : registering c s a = true) : Registering c s a := by
  unfold registering at h
  split at h
  · rename_i p hp
    simp only [Bool.and_eq_true, decide_eq_true_eq, Bool.not_eq_true'] at h
    exact ⟨h.1, p, hp, h.2⟩
  · cases h

/-- The call has neither come to the end of a scan nor to a pool name that is taken. -/
def undisturbing (c : ClientId) (s : State) (a : Action) : Bool :=
  registering c s a && match s.point (.control c) with
    | .control (.poolScan _ none scan) => !scan.ports.isEmpty
    | .control (.poolBound _ _ _ _ _) => !s.store.services.contains (poolServiceName c)
    | _ => true

theorem undisturbing_spec (h : undisturbing c s a = true) : Undisturbing c s a := by
  rw [undisturbing, Bool.and_eq_true] at h
  obtain ⟨hcall, hpoint⟩ := h
  refine ⟨registering_spec hcall, ?_⟩
  rintro (⟨b, q, scan, v, hp, hports, -⟩ | ⟨q, victim, scan, port, l, r, hp, hk, -⟩)
  · simp [hp, hports] at hpoint
  · simp [hp, Dict.contains, hk] at hpoint

/-- A pool item, and an item that is no object. -/
def badItems : List Value := [Schedule.poolItem, .str "web"]

/-- The locals of a call for both. -/
def badRequest (force : Bool) : Request :=
  ⟨Schedule.register force badItems, false, force, badItems, []⟩

theorem register_unforced_bad : ∃ s s', (system Schedule.mixedServer).Reachable s ∧
    (system Schedule.mixedServer).Runs (Registering "d") s s' ∧
    s.store.services.entries.length = 1 ∧ s'.store.services = s.store.services ∧
    s'.store.pending = s.store.pending ∧ s.store.listeners.size < s'.store.listeners.size ∧
    ∀ l, s'.store.Listening l ↔ s.store.Listening l := by
  have hrun : ((system Schedule.mixedServer).exec (system Schedule.mixedServer).init
      (Schedule.connect "a" false [Schedule.webItem] ++ Schedule.regular "a" 8080 ++
        Schedule.answer "a" ++ Schedule.connect "d" false badItems)).bind (fun s =>
      ((system Schedule.mixedServer).execWhile (registering "d") s
        (Schedule.pool "d" 0 6000 ++ Schedule.goes (.control "d") 5)).map fun s' =>
          (s.point (.control "d"), s.store.services.entries.map fun e => (e.1, e.2.client),
            s.store.listeners.size, s'.store.listeners.size, s'.point (.control "d"))) =
      some (.control (.item (badRequest false)), [("web", "a")], 1, 2,
        .control (.raised { badRequest false with
          registered := [⟨"pool-d", "0.0.0.0", 6000, some "t", "d", 1, true, some "t", 0⟩] }
          (.protocol "service registration must be an object"))) := by
    rfl
  obtain ⟨s, s', hs, hcall, heq⟩ := System.exists_runs_of_execWhile_map _ _
    (fun _ _ h => registering_spec h) hrun
  simp only [Prod.mk.injEq] at heq
  obtain ⟨hstart, hentries, hsize, hsize', hraised⟩ := heq
  have hget : ∀ k r, s.store.services.get? k = some r → k = "web" ∧ r.client = "a" := by
    intro k r hk
    have hmem := List.mem_map_of_mem (f := fun e : String × RegisteredService => (e.1, e.2.client))
      ((Dict.get?_eq_some_iff _ k r).mp hk)
    rw [hentries] at hmem
    simpa using hmem
  have hstart : s.point (.control "d") =
      .control (startRegister (Schedule.register false badItems) false false) := hstart
  obtain ⟨hsame, -⟩ := register_unforced hs hstart
    (fun r hr => absurd (hget _ r hr).1 (by decide))
    (by
      refine List.eq_nil_iff_forall_not_mem.mpr fun r hr => ?_
      obtain ⟨⟨k, hk⟩, hclient⟩ := mem_servicesOf.mp hr
      rw [(hget k r hk).2] at hclient
      exact absurd hclient (by decide)) hcall
  obtain ⟨hservices, hpending, hlistening⟩ := hsame _ _ hraised
  refine ⟨s, s', hs, hcall, ?_, hservices, hpending, by rw [hsize, hsize']; decide, hlistening⟩
  have hlen := congrArg List.length hentries
  simpa using hlen

/-- The registration fails after it has bound a free port: nobody notices. -/
theorem register_spares_bad : ∃ s s', (system Schedule.mixedServer).Reachable s ∧
    (system Schedule.mixedServer).Runs (Registering "d") s s' ∧
    s'.point (.control "d") = .control (.raised { badRequest true with
      registered := [⟨"pool-d", "0.0.0.0", 6000, some "t", "d", 1, true, some "t", 0⟩] }
      (.protocol "service registration must be an object")) ∧
    OthersSame s.store s'.store "d" := by
  have hrun : ((system Schedule.mixedServer).exec (system Schedule.mixedServer).init
      (Schedule.connect "a" false [Schedule.webItem] ++ Schedule.regular "a" 8080 ++
        Schedule.answer "a" ++ Schedule.connect "d" true badItems)).bind (fun s =>
      ((system Schedule.mixedServer).execWhile (undisturbing "d") s
        (Schedule.pool "d" 0 6000 ++ Schedule.goes (.control "d") 5)).map fun s' =>
          (s.point (.control "d"), s'.point (.control "d"))) =
      some (.control (.item (badRequest true)), .control (.raised { badRequest true with
          registered := [⟨"pool-d", "0.0.0.0", 6000, some "t", "d", 1, true, some "t", 0⟩] }
          (.protocol "service registration must be an object"))) := by
    rfl
  obtain ⟨s, s', hs, hcall, heq⟩ := System.exists_runs_of_execWhile_map _ _
    (fun _ _ h => undisturbing_spec h) hrun
  obtain ⟨hstart, hraised⟩ := Prod.mk.inj heq
  have hstart : s.point (.control "d") =
      .control (startRegister (Schedule.register true badItems) false true) := hstart
  have hcall' := hcall.mono fun _ _ h => h.call
  exact ⟨s, s', hs, hcall', hraised, (register_spares_iff hs hstart hcall').mpr hcall⟩

/-- The registration evicts `a` for its first item, and fails at the second one. -/
theorem eviction_in_vain : ∃ s s' q e, (system Schedule.mixedServer).Reachable s ∧
    s.point (.control "d") =
      .control (startRegister (Schedule.register true badItems) false true) ∧
    (system Schedule.mixedServer).Runs (Registering "d") s s' ∧
    s'.point (.control "d") = .control (.raised q e) ∧
    s'.store.services.entries = [] ∧ ¬ OthersSame s.store s'.store "d" := by
  have hrun : ((system Schedule.mixedServer).exec (system Schedule.mixedServer).init
      (Schedule.connect "a" false [Schedule.poolItem] ++ Schedule.pool "a" 0 6000 ++
        Schedule.answer "a" ++ Schedule.connect "d" true badItems)).bind (fun s =>
      ((system Schedule.mixedServer).execWhile (registering "d") s
        (Schedule.goes (.control "d") 6 ++ [(.control "d", .bind (.bound "0.0.0.0" 6000))] ++
          Schedule.goes (.control "d") 3 ++ [(.control "d", .drained none)] ++
          Schedule.goes (.control "d") 6)).map fun s' =>
            (s.point (.control "d"), s.store.services.entries, s'.store.services.entries,
              s'.point (.control "d"))) =
      some (.control (.item (badRequest true)),
        [("pool-a", ⟨"pool-a", "0.0.0.0", 6000, some "t", "a", 0, true, some "t", 0⟩)], [],
        .control (.raised { badRequest true with
          registered := [⟨"pool-d", "0.0.0.0", 6000, some "t", "d", 1, true, some "t", 0⟩] }
          (.protocol "service registration must be an object"))) := by
    rfl
  obtain ⟨s, s', hs, hcall, heq⟩ := System.exists_runs_of_execWhile_map _ _
    (fun _ _ h => registering_spec h) hrun
  simp only [Prod.mk.injEq] at heq
  obtain ⟨hstart, hbefore, hafter, hraised⟩ := heq
  refine ⟨s, s', _, _, hs, hstart, hcall, hraised, hafter, fun hsame => ?_⟩
  have hk : s.store.services.get? "pool-a" =
      some ⟨"pool-a", "0.0.0.0", 6000, some "t", "a", 0, true, some "t", 0⟩ :=
    (Dict.get?_eq_some_iff _ _ _).mpr (hbefore ▸ .head _)
  have hk' := (hsame.kept "a" (by decide)).services _ _ hk rfl
  rw [Dict.get?_eq_some_iff, hafter] at hk'
  cases hk'

end PyFrp
