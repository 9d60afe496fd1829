import PyFrp.Server.Preemption

/-!
# Nobody is written to before it registers something

A public task writes to the owner of a service, and a control task to the client that it
preempts. Both have opened a listener, and a client does so only after it has greeted.
-/

namespace PyFrp

open Python Coop Store

variable {srv : Server} {σ : Store} {φ : Effect} {c : ClientId} {C : State → Action → Prop}

/-- The messages that other tasks write on a control connection. -/
def Message.foreign : Message → Bool
  | .openTunnel _ _ => true
  | .preempted _ _ => true
  | _ => false

/-- The client has opened a listener. -/
def Store.Owned (σ : Store) (c : ClientId) : Prop :=
  ∃ l x, σ.listeners.get? l = some x ∧ x.owner = c

/-- Up to the call of `_register_client`. -/
def ControlPoint.early : ControlPoint → Bool
  | .join _ | .sendHello | .helloSent | .readRegister | .dispatch _ => true
  | _ => false

def ControlPoint.victim : ControlPoint → Option Victim
  | .poolScan _ v _ | .poolBind _ v _ _ | .poolBound _ v _ _ _ => v
  | .poolEvict _ v => some v
  | .announce p | .sendPreempted p | .preemptedSent p | .closeVictim p => some p.victim
  | _ => none

/-- The assertion at each point. -/
def GreetingOk (σ : Store) : TaskId → Point → Prop
  | .control c, .start => ¬ σ.Owned c
  | .control c, .control p =>
      (p.early = true → ¬ σ.Owned c) ∧ ∀ v, p.victim = some v → σ.Owned v.client
  | _, _ => True

/-! ## Steps -/

theorem Store.Owned.apply (h : σ.Owned c) : (φ.apply σ).Owned c := by
  obtain ⟨l, x, hx, hc⟩ := h
  exact ⟨l, _, Effect.listeners_of_get? hx, hc⟩

/-- A client owns its listeners from when they are opened. -/
theorem Store.Owned.of_apply (h : (φ.apply σ).Owned c) :
    σ.Owned c ∨ ∃ x, φ = .listen x ∧ x.owner = c := by
  obtain ⟨l, x, hx, hc⟩ := h
  rcases Effect.of_listeners hx with ⟨x₀, hx₀, rfl⟩ | ⟨hφ, -⟩
  · exact .inl ⟨l, x₀, hx₀, hc⟩
  · exact .inr ⟨x, hφ, hc⟩

theorem Completed.owned {raw : Value} {r : RegisteredService}
    (h : Completed srv σ.listeners c raw r) : σ.Owned c := by
  obtain ⟨x, hx, -, hc, -⟩ := h.opened
  exact ⟨_, x, hx, hc⟩

theorem early_startRegister (current : Fields) (retry force : Bool) :
    (startRegister current retry force).early = false := by
  rcases startRegister_cases current retry force with ⟨q, -, -, h⟩ | ⟨q, e, h⟩
  · rw [h]
    rfl
  · rw [h]
    rfl

theorem early_nextItem (q : Request) : (nextItem srv σ q).early = false := by
  have h := nextItem_cases srv σ q
  revert h
  generalize nextItem srv σ q = p
  intro h
  cases h with
  | done h => rfl
  | pool hraw hp hi => rfl
  | regular hraw hp hs => rfl
  | refused e => rfl

/-- A task does not come back to its greeting. -/
theorem controlSegment_early {p : ControlPoint} {e : Event}
    {seg : Segment LockId Effect ControlPoint} (h : controlSegment srv σ c p e = some seg)
    (hnext : seg.next.early = true) : p.early = true := by
  revert h hnext
  fun_cases controlSegment srv σ c p e
  all_goals intro h hnext
  all_goals cases h
  all_goals dsimp only at hnext
  all_goals first
    | rfl
    | rw [early_startRegister] at hnext; cases hnext
    | rw [early_nextItem] at hnext; cases hnext
    | cases hnext

/-- The same for a task that is there, or begins. -/
theorem serverSegment_early {p : Point} {e : Event} {seg : Segment LockId Effect Point}
    {q : ControlPoint} (h : serverSegment srv σ (.control c) p e = some seg)
    (hnext : seg.next = .control q) (hq : q.early = true) :
    p = .start ∨ ∃ p', p = .control p' ∧ p'.early = true := by
  cases p with
  | start => exact .inl rfl
  | control p' =>
      obtain ⟨seg', hseg, rfl⟩ := Option.map_eq_some_iff.mp h
      cases hnext
      exact .inr ⟨p', rfl, controlSegment_early hseg hq⟩
  | pub p' => cases h
  | tunnel p' => cases h

theorem victim_of_session {p : ControlPoint} (h : p.session = true) : p.victim = none := by
  cases p <;> first | rfl | cases h

/-- A victim is chosen among the owners of the services. -/
theorem ControlStep.victim {p : ControlPoint} {seg : Segment LockId Effect ControlPoint}
    {v : Victim} (hs : ControlStep srv σ c p seg) (hv : seg.next.victim = some v) :
    p.victim = some v ∨ ∃ r ∈ σ.otherPoolServices c, r.client = v.client := by
  cases hs with
  | poolEvict hp hselect =>
      cases hv
      obtain ⟨-, r, hr, hclient, -⟩ := selectVictim_rule hselect
      exact .inr ⟨r, hr, hclient⟩
  | session hp hn hq hs hg hφ =>
      rw [victim_of_session hn] at hv
      cases hv
  | item h =>
      cases h <;> cases hv
  | poolSkip | poolTry | poolFull | poolListen | poolRefused | poolReplace | poolRescan
  | announce | sendPreempted | preemptedSent => exact .inl hv
  | _ => cases hv

theorem ServerStep.listens_late {t : TaskId} {p : Point} {seg : Segment LockId Effect Point}
    {x : Listener} (hs : ServerStep srv σ t p seg) (hφ : seg.effect = .listen x) :
    t = .control x.owner ∧ ∀ q, seg.next = .control q → q.early = false := by
  obtain ⟨c, p', seg', rfl, rfl, rfl, hcall⟩ := hs.ofCall (by rw [hφ]; rfl)
  cases hcall with
  | session hp hn hq hs hg hsession => exact absurd hφ (hsession.ne rfl)
  | regularListen host port =>
      cases hφ
      refine ⟨rfl, ?_⟩
      intro q hq
      cases hq
      rfl
  | poolListen host port =>
      cases hφ
      refine ⟨rfl, ?_⟩
      intro q hq
      cases hq
      rfl
  | _ => cases hφ

/-! ## The proof outline -/

theorem greetingOutline (srv : Server) (C : State → Action → Prop) :
    (program srv).Outline .initial .start Point.holds C (fun _ => True) GreetingOk where
  initial := trivial
  starts t := by
    cases t with
    | control c => exact nofun
    | pub h => trivial
    | tunnel k => trivial
  keeps _ _ _ := trivial
  establishes {s t e seg} hat _ hA := by
    have hs := serverSegment_cases hat.segment
    have hrecords := (records hat.run).1
    cases t with
    | pub h => cases hp : s.point (.pub h) <;> rw [hp] at hs <;> cases hs <;> trivial
    | tunnel k => cases hp : s.point (.tunnel k) <;> rw [hp] at hs <;> cases hs <;> trivial
    | control c =>
        have hok := hA (.control c)
        have hseg : serverSegment srv s.store (.control c) (s.point (.control c)) e = some seg :=
          hat.segment
        have hlisten : ∀ x, seg.effect = .listen x → ∀ q, seg.next = .control q →
            q.early = false := fun x hφ => (hs.listens_late hφ).2
        revert hok hs hseg
        generalize s.point (.control c) = p
        intro hs hok hseg
        cases hs with
        | connect hnow =>
            refine ⟨fun _ howned => ?_, nofun⟩
            rcases howned.of_apply with howned | ⟨x, hφ, -⟩
            · exact hok howned
            · cases hφ
        | control hs =>
            rename_i p seg
            refine ⟨fun hq howned => ?_, fun v hv => ?_⟩
            · rcases howned.of_apply with howned | ⟨x, hφ, -⟩
              · rcases serverSegment_early hseg rfl hq with hp | ⟨p', hp, hearly⟩
                · cases hp
                · cases hp
                  exact hok.1 hearly howned
              · rw [hlisten x hφ _ rfl] at hq
                cases hq
            · rcases hs.victim hv with hold | ⟨r, hr, hclient⟩
              · exact (hok.2 v hold).apply
              · -- the services of the victim were registered by it
                obtain ⟨⟨k, hk⟩, -⟩ := mem_otherPoolServices.mp hr
                obtain ⟨-, raw, hcomp⟩ := hrecords k r hk
                rw [hclient] at hcomp
                exact hcomp.owned.apply
  spares {s t e seg u} hat _ hA hne := by
    have hs := serverSegment_cases hat.segment
    have hok := hA u
    cases u with
    | pub h => cases hp : s.point (.pub h) <;> trivial
    | tunnel k => cases hp : s.point (.tunnel k) <;> trivial
    | control c =>
        have howned : (seg.effect.apply s.store).Owned c → s.store.Owned c := by
          intro h
          rcases h.of_apply with h | ⟨x, hφ, hx⟩
          · exact h
          · exact absurd ((hs.listens_late hφ).1.trans (congrArg _ hx)).symm hne
        revert hok
        cases s.point (.control c) with
        | start => exact fun hok h => hok (howned h)
        | control p =>
            exact fun hok => ⟨fun hp h => hok.1 hp (howned h), fun v hv => (hok.2 v hv).apply⟩
        | pub p => exact fun _ => trivial
        | tunnel p => exact fun _ => trivial

theorem greeting {s : State} (h : (system srv).ReachableUnder C s) (t : TaskId) :
    GreetingOk s.store t (s.point t) :=
  ((greetingOutline srv C).sound (discipline srv) h).2 t

/-! ## Messages of other tasks -/

/-- Another task writes to a client only when the client has opened a listener. -/
theorem foreign_send {s : State} {t : TaskId} {seg : Segment LockId Effect Point} {m : Message}
    (h : (system srv).ReachableUnder C s) (hs : ServerStep srv s.store t (s.point t) seg)
    (hφ : seg.effect = .send c m) (ht : t ≠ .control c) :
    m.foreign = true ∧ s.store.Owned c := by
  have hok := greeting h t
  have hpoint := (records h).2 t
  revert hs hok hpoint
  generalize s.point t = p
  intro hs hok hpoint
  cases hs with
  | control hs =>
      rename_i c' p seg
      cases hs with
      | sendPreempted =>
          cases hφ
          exact ⟨rfl, hok.2 _ rfl⟩
      | session hp hn hq hs hg hsession =>
          have hφ : seg.effect = .send c m := hφ
          rw [hφ] at hsession
          cases hsession <;> exact absurd rfl ht
      | _ => cases hφ
  | pub hc hs =>
      cases hs with
      | sendOpen =>
          cases hφ
          obtain ⟨⟨raw, hcomp⟩, -⟩ := hpoint _ _ rfl
          exact ⟨rfl, hcomp.owned⟩
      | _ => cases hφ
  | tunnel hs => cases hs <;> cases hφ
  | _ => cases hφ

end PyFrp
