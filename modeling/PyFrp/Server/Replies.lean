import PyFrp.Server.Tunnels

/-!
# The order of the messages on a control connection

A service is visible from its insertion on, before its client has been sent the
`registered` reply. As long as no public task looks up such a service, the
reply comes before every `open`.
-/

namespace PyFrp

open Python Coop Store

variable {srv : Server} {σ : Store} {φ : Effect} {c : ClientId}
variable {t : TaskId} {p : Point} {seg : Segment LockId Effect Point}

def Message.isRegistered : Message → Bool
  | .registered _ _ => true
  | _ => false

/-- `c` has been sent its `registered` reply. -/
def Store.answered (σ : Store) (c : ClientId) : Bool :=
  σ.sent.any fun e => e.1 = c && e.2.isRegistered

/-- A public task looks up a service only if its client has been answered. -/
def looksUpAnswered (s : State) : Action → Bool
  | (.pub h, _) =>
      match s.point (.pub h), s.store.conns.get? h with
      | .pub .lookup, some conn =>
          (s.store.services.get? conn.serviceName).all fun r => s.store.answered r.client
      | _, _ => true
  | _ => true

abbrev LooksUpAnswered (s : State) (a : Action) : Prop := looksUpAnswered s a = true

/-- Every `open` on a control connection comes after a `registered`. -/
def RepliesFirst (σ : Store) : Prop :=
  ∀ (i : Nat) c id name, σ.sent[i]? = some (c, .openTunnel id name) →
    ∃ j < i, ∃ m, σ.sent[j]? = some (c, m) ∧ m.isRegistered = true

/-- A public task works with a service of a client that has been answered. -/
def AnsweredOk (σ : Store) : TaskId → Point → Prop
  | .pub _, .pub p => ∀ service id, p.locals = some (service, id) →
      σ.answered service.client = true
  | _, _ => True

theorem Store.answered_iff :
    σ.answered c = true ↔ ∃ m, (c, m) ∈ σ.sent ∧ m.isRegistered = true := by
  simp only [answered, List.any_eq_true, Bool.and_eq_true, decide_eq_true_eq, Prod.exists]
  constructor
  · rintro ⟨c', m, hmem, rfl, hm⟩
    exact ⟨m, hmem, hm⟩
  · rintro ⟨m, hmem, hm⟩
    exact ⟨c, m, hmem, rfl, hm⟩

/-- Messages are only added. -/
theorem answered_apply (h : σ.answered c = true) : (φ.apply σ).answered c = true := by
  obtain ⟨m, hmem, hm⟩ := answered_iff.mp h
  exact answered_iff.mpr ⟨m, Effect.sent_of_mem hmem, hm⟩

theorem RepliesFirst.apply (h : RepliesFirst σ)
    (hopen : ∀ c id name, φ = .send c (.openTunnel id name) → σ.answered c = true) :
    RepliesFirst (φ.apply σ) := by
  intro i c id name hi
  rw [Effect.apply_sent] at hi ⊢
  split at hi
  · rename_i c' m
    rw [List.getElem?_append] at hi
    split at hi
    · obtain ⟨j, hj, m', hm', hreg⟩ := h i c id name hi
      refine ⟨j, hj, m', ?_, hreg⟩
      rw [List.getElem?_append_left (by omega), hm']
    · -- the new message: its client has been answered already
      rename_i hge
      obtain ⟨hlt, heq⟩ := List.getElem?_eq_some_iff.mp hi
      simp only [List.getElem_singleton, Prod.mk.injEq] at heq
      obtain ⟨rfl, rfl⟩ := heq
      obtain ⟨m', hmem, hreg⟩ := answered_iff.mp (hopen c' id name rfl)
      obtain ⟨j, hj⟩ := List.getElem?_of_mem hmem
      have hjlt := (List.getElem?_eq_some_iff.mp hj).1
      exact ⟨j, by omega, m', by rw [List.getElem?_append_left hjlt, hj], hreg⟩
  · exact h i c id name hi

theorem PublicStep.answeredOk {h : Nat} {conn : PublicConn} {p : PublicPoint}
    {seg : Segment LockId Effect PublicPoint} (hs : PublicStep σ h conn p seg)
    (hp : AnsweredOk σ (.pub h) (.pub p))
    (hl : p = .lookup → ∀ service, σ.services.get? conn.serviceName = some service →
      σ.answered service.client = true) :
    AnsweredOk (seg.effect.apply σ) (.pub h) (.pub seg.next) := by
  intro service id hlocals
  refine answered_apply ?_
  cases hs with
  | found hservice hid =>
      cases hlocals
      exact hl rfl _ hservice
  | accepted | miss | cleanup | closeTunnel | close => cases hlocals
  | _ => exact hp service id hlocals

theorem repliesOutline (srv : Server) :
    (program srv).Outline .initial .start Point.holds LooksUpAnswered RepliesFirst AnsweredOk where
  initial i c id name hi := by cases hi
  starts t := by cases t <;> trivial
  keeps {s t e seg} hat hI hA := by
    refine RepliesFirst.apply hI fun c id name hφ => ?_
    obtain ⟨h, conn, service, rfl, hp, rfl, -⟩ := (serverSegment_cases hat.segment).opens hφ
    have hok := hA (.pub h)
    rw [hp] at hok
    exact hok service id rfl
  establishes {s t e seg} hat hI hA := by
    have hs := serverSegment_cases hat.segment
    have hok := hA t
    have hmeets := hat.meets
    generalize hp : s.point t = p at hs hok
    cases hs with
    | accept => nofun
    | pub hc hs =>
        refine hs.answeredOk hok ?_
        rintro rfl service hservice
        simpa [LooksUpAnswered, looksUpAnswered, hp, hc, hservice] using hmeets
    | _ => trivial
  spares {s t e seg u} hat hI hA hne := by
    have hok := hA u
    revert hok
    generalize s.point u = p
    intro hok
    cases u with
    | pub h =>
        cases p with
        | pub p => exact fun service id hl => answered_apply (hok service id hl)
        | _ => trivial
    | _ => trivial

/-- **The reply comes first.** -/
theorem reply_first (srv : Server) {s : State}
    (h : (system srv).ReachableUnder LooksUpAnswered s) (i : Nat) (c : ClientId)
    (id name : String) (hi : s.store.sent[i]? = some (c, .openTunnel id name)) :
    ∃ j < i, ∃ m, s.store.sent[j]? = some (c, m) ∧ m.isRegistered = true :=
  ((repliesOutline srv).sound (discipline srv) h).1 i c id name hi

/-- A client is answered, and asked to open a tunnel. -/
theorem reply_first_run : ∃ s, (system Schedule.mixedServer).ReachableUnder LooksUpAnswered s ∧
    s.store.sent = [("a", .registered "a" [⟨"web", "0.0.0.0", 8080, 0⟩]),
      ("a", .openTunnel "x" "web")] ∧
    ∃ j < 1, ∃ m, s.store.sent[j]? = some ("a", m) ∧ m.isRegistered = true := by
  obtain ⟨s, hs, hsent⟩ := System.exists_of_execWhile_map (M := system Schedule.mixedServer)
    (C := LooksUpAnswered) (f := fun s => s.store.sent)
    (Schedule.connect "a" false [Schedule.webItem] ++ Schedule.regular "a" 8080 ++
      Schedule.answer "a" ++ Schedule.accept 0 0 "x" ++ Schedule.goes (.pub 0) 2)
    (fun _ _ _ h => h) (by rfl)
  exact ⟨s, hs, hsent, reply_first _ hs 1 "a" "x" "web" (by rw [hsent]; rfl)⟩

/-- A message with two items: while the second one is bound, a public connection
to the first one is accepted. -/
def earlyOpenRun : List Action :=
  Schedule.connect "a" false [Schedule.webItem, Schedule.regularItem "api" 8081] ++
    Schedule.regular "a" 8080 ++ Schedule.goes (.control "a") 1 ++ Schedule.accept 0 0 "x" ++
    Schedule.goes (.pub 0) 2

/-- The first message on a control connection is an `open`. -/
theorem early_open : ∃ s, (system Schedule.mixedServer).Reachable s ∧
    s.store.sent = [("a", .openTunnel "x" "web")] := by
  have hrun : ((system Schedule.mixedServer).execWhile (fun _ _ => true)
      (system Schedule.mixedServer).init earlyOpenRun).map (fun s => s.store.sent) =
        some [("a", .openTunnel "x" "web")] := by rfl
  exact System.exists_of_execWhile_map earlyOpenRun (fun _ _ _ _ => trivial) hrun

end PyFrp
