import PyFrp.Server.Store

/-!
# What the effects do to each part of the store

For each map of the server, which effects change it and what a lookup finds
afterwards. The invariants of the store are derived from these lemmas, not
from the effects themselves.
-/

namespace PyFrp

open Python Coop

variable {φ : Effect} {σ : Store}

/-! ## Services -/

/-- The records an effect pops by name. -/
def Effect.removes (σ : Store) : Effect → List RegisteredService
  | .drop r => [r]
  | .evict v => v.services
  | .removeClient c => σ.servicesOf c
  | _ => []

theorem Effect.apply_services (φ : Effect) (σ : Store) :
    (φ.apply σ).services = match φ with
      | .register r => σ.services.set r.name r
      | φ => σ.services.eraseAll ((φ.removes σ).map RegisteredService.name) := by
  cases φ
  case closeSession c =>
    simp only [Effect.apply]
    split <;> rfl
  all_goals rfl

/-- A record in the map was just registered, or was there and is not popped. -/
theorem Effect.of_services {k : String} {r : RegisteredService}
    (h : (φ.apply σ).services.get? k = some r) :
    (φ = .register r ∧ k = r.name) ∨
      (σ.services.get? k = some r ∧ k ∉ (φ.removes σ).map RegisteredService.name ∧
        ∀ r', φ = .register r' → k ≠ r'.name) := by
  rw [Effect.apply_services] at h
  split at h
  · rename_i r'
    rw [Dict.get?_set] at h
    split at h
    · rename_i hk
      cases h
      exact .inl ⟨rfl, hk⟩
    · rename_i hk
      refine .inr ⟨h, List.not_mem_nil, ?_⟩
      intro _ heq
      cases heq
      exact hk
  · rename_i hφ
    rw [Dict.get?_eraseAll] at h
    split at h
    · cases h
    · rename_i hk
      exact .inr ⟨h, hk, fun r' hr => absurd hr (hφ r')⟩

/-- A record stays in the map unless it is popped or replaced. -/
theorem Effect.services_of_get? {k : String} {r : RegisteredService}
    (h : σ.services.get? k = some r) (hk : k ∉ (φ.removes σ).map RegisteredService.name)
    (hr : ∀ r', φ = .register r' → k ≠ r'.name) : (φ.apply σ).services.get? k = some r := by
  rw [Effect.apply_services]
  split
  · rename_i r'
    rw [Dict.get?_set, if_neg (hr r' rfl), h]
  · rw [Dict.get?_eraseAll, if_neg hk, h]

/-- The insertion stores the record under its name. -/
theorem Effect.services_register (σ : Store) (r : RegisteredService) :
    ((Effect.register r).apply σ).services.get? r.name = some r :=
  (Dict.get?_set _ _ _ _).trans (if_pos rfl)

theorem Store.mem_servicesOf {c : ClientId} {r : RegisteredService} :
    r ∈ σ.servicesOf c ↔ (∃ k, σ.services.get? k = some r) ∧ r.client = c := by
  simp [Store.servicesOf, Dict.mem_values]

/-! ## Listeners -/

/-- The listeners an effect closes. -/
def Effect.closes (σ : Store) : Effect → List Nat
  | .discard r => [r.listener]
  | φ => (φ.removes σ).map RegisteredService.listener

/-- The listener whose registration an effect completes. -/
def Effect.completes : Effect → Option Nat
  | .register r => some r.listener
  | _ => Option.none

theorem Effect.apply_listeners (φ : Effect) (σ : Store) :
    (φ.apply σ).listeners = match φ with
      | .listen l => σ.listeners.alloc l
      | .register r => σ.listeners.modify r.listener fun l => { l with registered := true }
      | φ => σ.listeners.modifyAll (φ.closes σ) Listener.close := by
  cases φ
  case closeSession c =>
    simp only [Effect.apply]
    split <;> rfl
  all_goals rfl

/-- What an effect leaves of a listener. -/
def Effect.listenerAfter (σ : Store) (φ : Effect) (i : Nat) (l : Listener) : Listener :=
  { l with
    isOpen := l.isOpen && decide (i ∉ φ.closes σ)
    registered := l.registered || decide (φ.completes = some i) }

theorem Effect.listeners_of_get? {i : Nat} {l : Listener}
    (h : σ.listeners.get? i = some l) :
    (φ.apply σ).listeners.get? i = some (φ.listenerAfter σ i l) := by
  rw [Effect.apply_listeners]
  split
  · rw [Heap.get?_alloc_of_get? h]
    simp [listenerAfter, closes, removes, completes]
  · rename_i r
    rw [Heap.get?_modify, h]
    by_cases hi : i = r.listener
    · simp [listenerAfter, closes, removes, completes, hi]
    · simp [listenerAfter, closes, removes, completes, hi, Ne.symm hi]
  · rename_i hr
    rw [Heap.get?_modifyAll _ Listener.close (fun _ => rfl), h]
    have hc : φ.completes = Option.none := by
      cases φ
      case register => exact (hr _ rfl).elim
      all_goals rfl
    by_cases hi : i ∈ φ.closes σ
    · simp [listenerAfter, hi, hc, Listener.close]
    · simp [listenerAfter, hi, hc]

/-- A listener was there before the effect, or has just been opened. -/
theorem Effect.of_listeners {i : Nat} {l : Listener}
    (h : (φ.apply σ).listeners.get? i = some l) :
    (∃ l₀, σ.listeners.get? i = some l₀ ∧ l = φ.listenerAfter σ i l₀) ∨
      (φ = .listen l ∧ i = σ.listeners.size) := by
  cases hi : σ.listeners.get? i with
  | some l₀ =>
      rw [Effect.listeners_of_get? hi] at h
      exact .inl ⟨l₀, rfl, (Option.some.inj h).symm⟩
  | none =>
      rw [Effect.apply_listeners] at h
      split at h
      · rename_i l'
        rw [Heap.get?_alloc] at h
        split at h
        · rename_i heq
          cases h
          exact .inr ⟨rfl, heq⟩
        · exact absurd (hi ▸ h) nofun
      · rw [Heap.get?_modify, hi] at h
        exact absurd h (by simp)
      · rw [Heap.get?_modifyAll _ Listener.close (fun _ => rfl), hi] at h
        exact absurd h (by simp)

/-! ## Pending tunnels -/

/-- The pending records an effect pops by id. -/
def Effect.purges (σ : Store) : Effect → List PendingTunnel
  | .evict v => v.pending
  | .removeClient c => σ.pendingOf c
  | _ => []

theorem Effect.apply_pending (φ : Effect) (σ : Store) :
    (φ.apply σ).pending = match φ with
      | .pend p => σ.pending.set p.id p
      | .settle h id => σ.settled h id
      | φ => σ.pending.eraseAll ((φ.purges σ).map PendingTunnel.id) := by
  cases φ
  case closeSession c =>
    simp only [Effect.apply]
    split <;> rfl
  all_goals rfl

theorem Store.of_settled {h : Nat} {id k : String} {p : PendingTunnel}
    (hk : (σ.settled h id).get? k = some p) :
    σ.pending.get? k = some p ∧ (k = id → p.conn ≠ h) := by
  unfold settled at hk
  split at hk
  · rename_i p' hp'
    split at hk
    · rw [Dict.get?_erase] at hk
      split at hk
      · cases hk
      · rename_i hne
        exact ⟨hk, fun h => absurd h hne⟩
    · rename_i hne
      refine ⟨hk, ?_⟩
      rintro rfl
      rw [hp'] at hk
      cases hk
      exact hne
  · rename_i hnone
    refine ⟨hk, ?_⟩
    rintro rfl
    rw [hnone] at hk
    cases hk

/-- A pending record in the map was just inserted, or was there and is not popped. -/
theorem Effect.of_pending {k : String} {p : PendingTunnel}
    (h : (φ.apply σ).pending.get? k = some p) :
    (φ = .pend p ∧ k = p.id) ∨
      (σ.pending.get? k = some p ∧ k ∉ (φ.purges σ).map PendingTunnel.id ∧
        (∀ p', φ = .pend p' → k ≠ p'.id) ∧ ∀ i, φ = .settle i k → p.conn ≠ i) := by
  rw [Effect.apply_pending] at h
  split at h
  · rename_i p'
    rw [Dict.get?_set] at h
    split at h
    · rename_i hk
      cases h
      exact .inl ⟨rfl, hk⟩
    · rename_i hk
      refine .inr ⟨h, List.not_mem_nil, ?_, by simp⟩
      intro _ heq
      cases heq
      exact hk
  · obtain ⟨hp, hne⟩ := Store.of_settled h
    refine .inr ⟨hp, List.not_mem_nil, by simp, ?_⟩
    intro i heq
    cases heq
    exact hne rfl
  · rename_i hφ hs
    rw [Dict.get?_eraseAll] at h
    split at h
    · cases h
    · rename_i hk
      exact .inr ⟨h, hk, fun p' hp => absurd hp (hφ p'), fun i hi => absurd hi (hs i k)⟩

theorem Store.settled_of_get? {h : Nat} {id k : String} {p : PendingTunnel}
    (hk : σ.pending.get? k = some p) (hne : k = id → p.conn ≠ h) :
    (σ.settled h id).get? k = some p := by
  unfold settled
  split
  · rename_i p' hp'
    split
    · rename_i hconn
      rw [Dict.get?_erase, if_neg, hk]
      rintro rfl
      rw [hp', Option.some.injEq] at hk
      subst hk
      exact hne rfl hconn
    · exact hk
  · exact hk

/-- A pending record stays in the map unless it is popped, settled or replaced. -/
theorem Effect.pending_of_get? {k : String} {p : PendingTunnel}
    (h : σ.pending.get? k = some p) (hk : k ∉ (φ.purges σ).map PendingTunnel.id)
    (hp : ∀ p', φ = .pend p' → k ≠ p'.id) (hs : ∀ i, φ = .settle i k → p.conn ≠ i) :
    (φ.apply σ).pending.get? k = some p := by
  rw [Effect.apply_pending]
  split
  · rename_i p'
    rw [Dict.get?_set, if_neg (hp p' rfl), h]
  · rename_i i id
    refine Store.settled_of_get? h ?_
    rintro rfl
    exact hs i rfl
  · rw [Dict.get?_eraseAll, if_neg hk, h]

theorem Store.mem_pendingOf {c : ClientId} {p : PendingTunnel} :
    p ∈ σ.pendingOf c ↔ (∃ k, σ.pending.get? k = some p) ∧ p.client = c := by
  simp [Store.pendingOf, Dict.mem_values]

/-! ## Clients -/

/-- A client in the map was just inserted, or was there. -/
theorem Effect.of_clients {k : String} {c : ClientId}
    (h : (φ.apply σ).clients.get? k = some c) : φ = .join c ∨ σ.clients.get? k = some c := by
  cases φ with
  | join c' =>
      simp only [Effect.apply, Dict.get?_set] at h
      split at h
      · cases h
        exact .inl rfl
      · exact .inr h
  | removeClient c' =>
      have h : (σ.clients.erase c').get? k = some c := h
      rw [Dict.get?_erase] at h
      split at h
      · cases h
      · exact .inr h
  | closeSession c' =>
      simp only [Effect.apply] at h
      split at h <;> exact .inr h
  | _ => exact .inr h

/-! ## Public connections -/

/-- The public connections whose futures an effect resolves, and the outcome. -/
def Effect.resolves (σ : Store) : Effect → List Nat × Future
  | .removeClient c => ((σ.pendingOf c).map PendingTunnel.conn, .failed "client disconnected")
  | .failPending ps => (ps.map PendingTunnel.conn, .failed "client was preempted")
  | .giveUp h => ([h], .cancelled)
  | .settle h _ => ([h], .cancelled)
  | .pair h k => ([h], .result k)
  | _ => ([], .unresolved)

/-- The public connection whose writer an effect closes. -/
def Effect.closesConn : Effect → Option Nat
  | .relayed h _ => some h
  | .settle h _ => some h
  | .closeConn h => some h
  | _ => Option.none

/-- The public connection an effect generates a tunnel id for. -/
def Effect.issues : Effect → Option (Nat × String)
  | .ticket h id => some (h, id)
  | _ => Option.none

/-- What an effect leaves of a public connection. -/
def Effect.connAfter (σ : Store) (φ : Effect) (i : Nat) (conn : PublicConn) : PublicConn :=
  { conn with
    ticket := match φ.issues with
      | some (h, id) => if i = h then some id else conn.ticket
      | Option.none => conn.ticket
    future :=
      if i ∈ (φ.resolves σ).1 ∧ conn.future.done = false then (φ.resolves σ).2 else conn.future
    closed := conn.closed || decide (φ.closesConn = some i) }

theorem Store.allClosed_iff {ls : List Nat} : σ.allClosed ls = true ↔
    ∀ i conn, σ.conns.get? i = some conn → conn.listener ∈ ls → conn.closed = true := by
  unfold Store.allClosed
  rw [Heap.all_iff]
  refine forall₃_congr fun i conn _ => ?_
  by_cases hmem : conn.listener ∈ ls <;> simp [hmem]

theorem PublicConn.resolve_resolve (f : Future) (conn : PublicConn) :
    (conn.resolve f).resolve f = conn.resolve f := by
  unfold PublicConn.resolve
  cases hd : conn.future.done <;> simp [hd]

theorem Effect.apply_conns (φ : Effect) (σ : Store) :
    (φ.apply σ).conns = match φ with
      | .accept l name => σ.conns.alloc ⟨l, name, Option.none, .unresolved, false⟩
      | .ticket h id => σ.conns.modify h fun conn => { conn with ticket := some id }
      | .relayed h _ => σ.conns.modify h PublicConn.close
      | .closeConn h => σ.conns.modify h PublicConn.close
      | .settle h _ =>
          (σ.conns.modifyAll [h] (PublicConn.resolve .cancelled)).modify h PublicConn.close
      | φ => σ.conns.modifyAll (φ.resolves σ).1 (PublicConn.resolve (φ.resolves σ).2) := by
  cases φ
  case closeSession c =>
    simp only [Effect.apply]
    split <;> rfl
  all_goals rfl

theorem Effect.conns_of_get? {i : Nat} {conn : PublicConn} (h : σ.conns.get? i = some conn) :
    (φ.apply σ).conns.get? i = some (φ.connAfter σ i conn) := by
  rw [Effect.apply_conns]
  split
  · rw [Heap.get?_alloc_of_get? h]
    simp [connAfter, resolves, issues, closesConn]
  · rename_i j id
    rw [Heap.get?_modify, h]
    by_cases hi : i = j <;> simp [connAfter, resolves, issues, closesConn, hi]
  · rename_i j k
    rw [Heap.get?_modify, h]
    by_cases hi : i = j
    · simp [connAfter, resolves, issues, closesConn, hi, PublicConn.close]
    · simp [connAfter, resolves, issues, closesConn, hi, Ne.symm hi]
  · rename_i j
    rw [Heap.get?_modify, h]
    by_cases hi : i = j
    · simp [connAfter, resolves, issues, closesConn, hi, PublicConn.close]
    · simp [connAfter, resolves, issues, closesConn, hi, Ne.symm hi]
  · rename_i j id
    rw [Heap.get?_modify, Heap.get?_modifyAll _ _ (PublicConn.resolve_resolve _), h]
    by_cases hi : i = j
    · cases hd : conn.future.done <;>
        simp [connAfter, resolves, issues, closesConn, hi, PublicConn.close, PublicConn.resolve, hd]
    · simp [connAfter, resolves, issues, closesConn, hi, Ne.symm hi]
  · have hc : φ.closesConn = Option.none := by
      cases φ <;> first | rfl | (exfalso; simp_all)
    have ht : φ.issues = Option.none := by
      cases φ <;> first | rfl | (exfalso; simp_all)
    rw [Heap.get?_modifyAll _ _ (PublicConn.resolve_resolve _), h]
    by_cases hi : i ∈ (φ.resolves σ).1
    · cases hd : conn.future.done <;> simp [connAfter, hc, ht, hi, PublicConn.resolve, hd]
    · simp [connAfter, hc, ht, hi]

/-- A public connection was there before the effect, or has just been accepted. -/
theorem Effect.of_conns {i : Nat} {conn : PublicConn}
    (h : (φ.apply σ).conns.get? i = some conn) :
    (∃ conn₀, σ.conns.get? i = some conn₀ ∧ conn = φ.connAfter σ i conn₀) ∨
      (∃ l name, φ = .accept l name ∧ conn = ⟨l, name, Option.none, .unresolved, false⟩) ∧
        i = σ.conns.size := by
  cases hi : σ.conns.get? i with
  | some conn₀ =>
      rw [Effect.conns_of_get? hi] at h
      exact .inl ⟨conn₀, rfl, (Option.some.inj h).symm⟩
  | none =>
      rw [Effect.apply_conns] at h
      split at h
      · rename_i l name
        rw [Heap.get?_alloc] at h
        split at h
        · rename_i heq
          exact .inr ⟨⟨l, name, rfl, (Option.some.inj h).symm⟩, heq⟩
        · exact absurd (hi ▸ h) nofun
      all_goals
        simp [hi, Heap.get?_modifyAll _ _ (PublicConn.resolve_resolve _)] at h

/-! ## Histories -/

theorem Effect.apply_sent (φ : Effect) (σ : Store) :
    (φ.apply σ).sent = match φ with
      | .send c m => σ.sent ++ [(c, m)]
      | _ => σ.sent := by
  cases φ
  case closeSession c =>
    simp only [Effect.apply]
    split <;> rfl
  all_goals rfl

theorem Effect.sent_of_mem {e : ClientId × Message} (h : e ∈ σ.sent) : e ∈ (φ.apply σ).sent := by
  rw [Effect.apply_sent]
  split
  · exact List.mem_append_left _ h
  · exact h

/-- A message was there before the effect, or has just been sent. -/
theorem Effect.of_sent {c : ClientId} {m : Message} (h : (c, m) ∈ (φ.apply σ).sent) :
    φ = .send c m ∨ (c, m) ∈ σ.sent := by
  rw [Effect.apply_sent] at h
  split at h
  · rcases List.mem_append.mp h with hold | hnew
    · exact .inr hold
    · cases List.mem_singleton.mp hnew
      exact .inl rfl
  · exact .inr h

theorem Effect.apply_tickets (φ : Effect) (σ : Store) :
    (φ.apply σ).tickets = match φ with
      | .ticket _ id => id :: σ.tickets
      | _ => σ.tickets := by
  cases φ
  case closeSession c =>
    simp only [Effect.apply]
    split <;> rfl
  all_goals rfl

theorem Effect.apply_preempted (φ : Effect) (σ : Store) :
    (φ.apply σ).preempted = match φ with
      | .evict v => v.client :: σ.preempted
      | _ => σ.preempted := by
  cases φ
  case closeSession c =>
    simp only [Effect.apply]
    split <;> rfl
  all_goals rfl

theorem Effect.apply_removed (φ : Effect) (σ : Store) :
    (φ.apply σ).removed = match φ with
      | .removeClient c => c :: σ.removed
      | _ => σ.removed := by
  cases φ
  case closeSession c =>
    simp only [Effect.apply]
    split <;> rfl
  all_goals rfl

/-! ## The client to preempt -/

theorem Store.selectVictim_ok {c : ClientId} {priority : Int} {force : Bool}
    {lastError : Option String} {v : Victim} (h : σ.selectVictim c priority force lastError = .ok v) :
    v.services = σ.servicesOf v.client ∧ v.pending = σ.pendingOf v.client := by
  revert h
  fun_cases Store.selectVictim σ c priority force lastError
  all_goals rintro ⟨⟩
  exact ⟨rfl, rfl⟩

end PyFrp
