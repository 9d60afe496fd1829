import PyFrp.Server.Departures

/-!
# Pairing public connections with tunnel connections

A tunnel connection is paired with a public one by resolving the future the
public task waits on. A future is resolved once, a tunnel connection resolves
one future at most, and only a message that matches a pending record does.
-/

namespace PyFrp

open Python Coop Store

variable {srv : Server} {c : ClientId} {C : State → Action → Prop}

/-- Public connection `h` has been handed tunnel connection `k`. -/
def Paired (s : State) (h k : Nat) : Prop :=
  ∃ conn, s.store.conns.get? h = some conn ∧ conn.future = .result k

/-- A resolved future is left alone by every step. -/
theorem done_step {s s' : State} {a : Action} {h : Nat} {conn : PublicConn}
    (hs : (system srv).step s a = some s') (hc : s.store.conns.get? h = some conn)
    (hd : conn.future.done = true) :
    ∃ conn', s'.store.conns.get? h = some conn' ∧ conn'.future = conn.future := by
  obtain ⟨t, e⟩ := a
  obtain ⟨-, seg, -, rfl⟩ := Program.step_eq_some.mp hs
  rw [Program.commit_store]
  exact ⟨_, Effect.conns_of_get? hc, connAfter_done hd⟩

theorem done_runs {s s' : State} {h : Nat} {conn : PublicConn}
    (hrun : (system srv).Runs C s s') (hc : s.store.conns.get? h = some conn)
    (hd : conn.future.done = true) :
    ∃ conn', s'.store.conns.get? h = some conn' ∧ conn'.future = conn.future := by
  induction hrun with
  | refl => exact ⟨conn, hc, rfl⟩
  | tail _ _ hs ih =>
      obtain ⟨conn₁, hc₁, hf₁⟩ := ih
      obtain ⟨conn₂, hc₂, hf₂⟩ := done_step hs hc₁ (by rw [hf₁, hd])
      exact ⟨conn₂, hc₂, hf₂.trans hf₁⟩

theorem Paired.runs {s s' : State} {h k : Nat} (hp : Paired s h k)
    (hrun : (system srv).Runs C s s') : Paired s' h k := by
  obtain ⟨conn, hc, hf⟩ := hp
  obtain ⟨conn', hc', hf'⟩ := done_runs hrun hc (by rw [hf]; rfl)
  exact ⟨conn', hc', hf'.trans hf⟩

/-- A step that pairs two connections is the one of a tunnel task whose message
matches a pending record with an unresolved future. -/
theorem pairs_step {s s' : State} {a : Action} {h k : Nat} (hs : (system srv).step s a = some s')
    (hnot : ¬ Paired s h k) (hp : Paired s' h k) :
    a.1 = .tunnel k ∧ ∃ message, s.point (.tunnel k) = .tunnel (.claim message) ∧
      claimed s.store (tunnelRequest srv message) = .ok h := by
  obtain ⟨t, e⟩ := a
  obtain ⟨-, seg, hseg, rfl⟩ := Program.step_eq_some.mp hs
  obtain ⟨conn, hc, hf⟩ := hp
  rw [Program.commit_store] at hc
  rcases Effect.of_conns hc with ⟨conn₀, hc₀, rfl⟩ | ⟨⟨l, name, hφ, rfl⟩, -⟩
  · rcases connAfter_result hf with hφ | hf
    · obtain ⟨rfl, -, hclaim⟩ := (serverSegment_cases hseg).pairs hφ
      exact ⟨rfl, hclaim⟩
    · exact absurd ⟨conn₀, hc₀, hf⟩ hnot
  · cases hf

theorem paired_commit {s : State} {t : TaskId} {seg : Segment LockId Effect Point} {h k : Nat}
    {conn : PublicConn} (hφ : seg.effect = .pair h k) (hc : s.store.conns.get? h = some conn)
    (hd : conn.future.done = false) : Paired ((program srv).commit s t seg) h k := by
  refine ⟨seg.effect.connAfter s.store h conn, ?_, ?_⟩
  · rw [Program.commit_store]
    exact Effect.conns_of_get? hc
  · simp [Effect.connAfter, hφ, Effect.resolves, hd]

/-- A step of a tunnel task whose message matches pairs its connection; every
other step of it leaves the pending records and the futures as they are. -/
theorem tunnel_step {s s' : State} {e : Event} {k : Nat}
    (hs : (system srv).step s (.tunnel k, e) = some s') :
    (∃ message h, s.point (.tunnel k) = .tunnel (.claim message) ∧
        claimed s.store (tunnelRequest srv message) = .ok h ∧ Paired s' h k) ∨
      ((∀ message h, s.point (.tunnel k) = .tunnel (.claim message) →
          claimed s.store (tunnelRequest srv message) ≠ .ok h) ∧
        s'.store.pending = s.store.pending ∧ s'.store.conns = s.store.conns) := by
  obtain ⟨-, seg, hseg, rfl⟩ := Program.step_eq_some.mp hs
  have hstep := serverSegment_cases hseg
  rw [Program.commit_store]
  generalize hpt : s.point (.tunnel k) = p at hstep
  cases hstep with
  | connectTunnel message => exact .inr ⟨nofun, rfl, rfl⟩
  | tunnel hstep =>
      cases hstep with
      | @pair message h hm =>
          obtain ⟨r, conn, -, -, -, -, hc, hd⟩ := claimed_eq_ok.mp hm
          exact .inl ⟨message, h, rfl, hm, paired_commit rfl hc hd⟩
      | reject hm =>
          refine .inr ⟨?_, rfl, rfl⟩
          rintro message h ⟨⟩ hok
          rw [hm] at hok
          cases hok
      | refuse => exact .inr ⟨nofun, rfl, rfl⟩

/-- A time-out leaves a resolved future. -/
theorem timeout_step {s s' : State} {h : Nat} {service : RegisteredService} {id : String}
    (hp : s.point (.pub h) = .pub (.waitTunnel service id))
    (hs : (system srv).step s (.pub h, .timeout) = some s') :
    ∃ conn, s'.store.conns.get? h = some conn ∧ conn.future.done = true := by
  obtain ⟨-, seg, hseg, rfl⟩ := Program.step_eq_some.mp hs
  rw [hp] at hseg
  rw [Program.commit_store]
  have hseg : serverSegment srv s.store (.pub h) (.pub (.waitTunnel service id)) .timeout =
      some seg := hseg
  simp only [serverSegment] at hseg
  split at hseg
  · rename_i conn hc
    cases hseg
    exact ⟨_, Effect.conns_of_get? hc, connAfter_resolved (.head _)⟩
  · cases hseg

/-- A connection keeps its partner. -/
theorem Paired.partner {s s' : State} {i k k' : Nat} (h : Paired s i k)
    (hrun : (system srv).Runs C s s') (h' : Paired s' i k') : k = k' := by
  obtain ⟨conn, hc, hf⟩ := h.runs hrun
  obtain ⟨conn', hc', hf'⟩ := h'
  rw [hc, Option.some.injEq] at hc'
  rw [hc', hf'] at hf
  cases hf
  rfl

/-- A future that is not done has no partner yet. -/
theorem not_paired {s : State} {i k : Nat} {conn : PublicConn}
    (hc : s.store.conns.get? i = some conn) (hd : conn.future.done = false) : ¬ Paired s i k := by
  rintro ⟨conn', hc', hf⟩
  rw [hc, Option.some.injEq] at hc'
  rw [hc', hf] at hd
  cases hd

/-- A pairing step is the one of a message that matches a pending record of a
client that is not gone. -/
theorem pairs_matching {s u : State} (h : (system srv).ReachableUnder NoLateInsert s)
    {a : Action} {i k : Nat} (hs : (system srv).step s a = some u) (hnot : ¬ Paired s i k)
    (hp : Paired u i k) :
    ∃ message r conn, a.1 = .tunnel k ∧ s.point (.tunnel k) = .tunnel (.claim message) ∧
      s.store.pending.get? (tunnelRequest srv message).id = some r ∧ r.conn = i ∧
      r.serviceName = (tunnelRequest srv message).service ∧
      (∀ token, r.token = some token → (tunnelRequest srv message).token = some token) ∧
      s.store.conns.get? i = some conn ∧ conn.future.done = false ∧ ¬ s.store.Gone r.client := by
  obtain ⟨ha, message, hpt, hm⟩ := pairs_step hs hnot hp
  obtain ⟨r, conn, hr, hname, htok, rfl, hc, hd⟩ := claimed_eq_ok.mp hm
  refine ⟨message, r, conn, ha, hpt, hr, rfl, hname, ?_, hc, hd,
    (lateInsert (fun _ _ h => h) h).1 _ r hr⟩
  intro token htoken
  rcases htok with hnone | heq
  · rw [hnone] at htoken
    cases htoken
  · exact heq.trans htoken

/-- **Tunnel pairing.** Along a run that keeps away from late records, a
connection has one partner at most; a pairing step is the one of a message that
matches a pending record with an unresolved future, whose client is not gone;
a rejected message changes nothing and a matching one is not rejected; and a
future that timed out or was failed stays as it is. -/
theorem tunnel_pairing (srv : Server) {s s' : State}
    (h : (system srv).ReachableUnder NoLateInsert s)
    (hrun : (system srv).Runs NoLateInsert s s') :
    (∀ i k k', Paired s i k → Paired s' i k' → k = k') ∧
    (∀ i i' k, Paired s i k → Paired s' i' k → i = i') ∧
    (∀ a u i k, (system srv).step s' a = some u → ¬ Paired s' i k → Paired u i k →
      ∃ message r conn, a.1 = .tunnel k ∧ s'.point (.tunnel k) = .tunnel (.claim message) ∧
        s'.store.pending.get? (tunnelRequest srv message).id = some r ∧ r.conn = i ∧
        r.serviceName = (tunnelRequest srv message).service ∧
        (∀ token, r.token = some token → (tunnelRequest srv message).token = some token) ∧
        s'.store.conns.get? i = some conn ∧ conn.future.done = false ∧
        ¬ s'.store.Gone r.client) ∧
    (∀ e u k, (system srv).step s' (.tunnel k, e) = some u →
      (∃ i, ¬ Paired s' i k ∧ Paired u i k) ∨
        (u.store.pending = s'.store.pending ∧ u.store.conns = s'.store.conns)) ∧
    (∀ e u k i message, s'.point (.tunnel k) = .tunnel (.claim message) →
      claimed s'.store (tunnelRequest srv message) = .ok i →
      (system srv).step s' (.tunnel k, e) = some u → Paired u i k) ∧
    (∀ i conn, s.store.conns.get? i = some conn → conn.future.done = true →
      ∃ conn', s'.store.conns.get? i = some conn' ∧ conn'.future = conn.future) ∧
    (∀ u i service id, s'.point (.pub i) = .pub (.waitTunnel service id) →
      (system srv).step s' (.pub i, .timeout) = some u →
      ∃ conn, u.store.conns.get? i = some conn ∧ conn.future.done = true) := by
  have hr' := h.runs hrun
  refine ⟨fun i k k' hp hp' => hp.partner hrun hp', ?_,
    fun a u i k hs hnot hp => pairs_matching hr' hs hnot hp, ?_, ?_,
    fun i conn hc hd => done_runs hrun hc hd,
    fun u i service id hpt hs => timeout_step hpt hs⟩
  · intro i i' k hp hp'
    obtain ⟨conn, hc, hf⟩ := hp.runs hrun
    obtain ⟨conn', hc', hf'⟩ := hp'
    exact (tunnels hr').1.paired i i' conn conn' k hc hc' hf hf'
  · intro e u k hs
    rcases tunnel_step hs with ⟨message, i, hpt, hm, hp⟩ | ⟨-, hsame⟩
    · obtain ⟨r, conn, -, -, -, rfl, hc, hd⟩ := claimed_eq_ok.mp hm
      exact .inl ⟨_, not_paired hc hd, hp⟩
    · exact .inr hsame
  · intro e u k i message hpt hm hs
    rcases tunnel_step hs with ⟨message', i', hpt', hm', hp⟩ | ⟨hnot, -⟩
    · rw [hpt] at hpt'
      cases hpt'
      rw [hm] at hm'
      cases hm'
      exact hp
    · exact absurd hm (hnot message i hpt)

instance {s : State} {h k : Nat} : Decidable (Paired s h k) :=
  decidable_of_iff ((s.store.conns.get? h).any (fun conn => conn.future = .result k) = true) (by
    simp [Paired, Option.any_eq_true])

/-- Nobody was preempted, and the step removes and evicts nobody. -/
def nobodyLeaves (s : State) (a : Action) : Bool :=
  s.store.preempted.isEmpty && match s.point a.1 with
    | .control .leave => false
    | .control (.poolScan _ none _) => false
    | _ => true

/-- A public connection is paired with a tunnel connection of `a`. -/
def pairRun : List Action :=
  Schedule.connect "a" false [Schedule.webItem] ++ Schedule.regular "a" 8080 ++
    Schedule.answer "a" ++
    Schedule.accept 0 0 "x" ++ Schedule.goes (.pub 0) 2 ++
    [(.pub 0, .drained none), (.tunnel 0, .connectTunnel (tunnelMessage "x" "web" .none)),
      (.tunnel 0, .go)]

theorem tunnel_pairing_run : ∃ s, (system Schedule.mixedServer).ReachableUnder NoLateInsert s ∧
    Paired s 0 0 ∧ ∀ i, Paired s i 0 → i = 0 := by
  have hok : ∀ s a, (system Schedule.mixedServer).Reachable s → nobodyLeaves s a = true →
      NoLateInsert s a := by
    intro s a _ hsa
    rw [nobodyLeaves, Bool.and_eq_true, List.isEmpty_iff] at hsa
    refine ⟨fun c hpurge => ?_, fun h conn service _ _ _ _ hmem => ?_⟩
    · rcases hpurge.point with hp | ⟨q, scan, hp⟩ <;> simp [hp] at hsa
    · rw [hsa.1] at hmem
      cases hmem
  obtain ⟨s, hs, hp⟩ := System.exists_of_execWhile pairRun hok (P := fun s => Paired s 0 0)
    (by decide)
  exact ⟨s, hs, hp, fun i hi => (tunnel_pairing Schedule.mixedServer hs .refl).2.1 i 0 0 hi hp⟩

/-- The record of a removed client is inserted late, and paired. -/
theorem late_pairing : ∃ s u, (system Schedule.mixedServer).Reachable s ∧ s.store.Gone "a" ∧
    (∃ r ∈ s.store.pending.values, r.client = "a" ∧ r.conn = 0) ∧ ¬ Paired s 0 0 ∧
    (system Schedule.mixedServer).step s (.tunnel 0, .go) = some u ∧ Paired u 0 0 := by
  obtain ⟨s, hs, hg, hr, hnot, hany⟩ := System.exists_of_exec (M := system Schedule.mixedServer)
    (P := fun s => s.store.Gone "a" ∧
      (∃ r ∈ s.store.pending.values, r.client = "a" ∧ r.conn = 0) ∧ ¬ Paired s 0 0 ∧
      ((system Schedule.mixedServer).step s (.tunnel 0, .go)).any (fun u => Paired u 0 0) = true)
    (lateRun ++ [(.pub 0, .go), (.tunnel 0, .connectTunnel (tunnelMessage "x" "web" .none))])
    (by decide)
  obtain ⟨u, hu, hp⟩ := (Option.any_eq_true _ _).mp hany
  exact ⟨s, u, hs, hg, hr, hnot, hu, of_decide_eq_true hp⟩

end PyFrp
