import PyFrp.Server.Ports

/-!
# The client a forced registration preempts

What `_register_pool_service` chooses when no port could be bound, stated by the
priorities and ages of the pool services instead of by its passes over them.
-/

namespace PyFrp

open Python Coop Store

variable {srv : Server} {σ : Store} {c : ClientId}

/-! ## The passes -/

theorem le_maxPriority (first : RegisteredService) (rest : List RegisteredService) :
    ∀ r ∈ first :: rest, r.priority ≤ maxPriority first rest := by
  have hfold : ∀ (rs : List RegisteredService) (m : Int),
      m ≤ rs.foldl (fun m s => max m s.priority) m ∧
        ∀ r ∈ rs, r.priority ≤ rs.foldl (fun m s => max m s.priority) m := by
    intro rs
    induction rs with
    | nil => exact fun m => ⟨le_refl m, nofun⟩
    | cons r rs ih =>
        intro m
        obtain ⟨hm, hrs⟩ := ih (max m r.priority)
        refine ⟨le_trans (le_max_left _ _) hm, fun r' hr' => ?_⟩
        rcases List.mem_cons.mp hr' with rfl | hr'
        · exact le_trans (le_max_right _ _) hm
        · exact hrs r' hr'
  intro r hr
  rcases List.mem_cons.mp hr with rfl | hr
  · exact (hfold rest r.priority).1
  · exact (hfold rest first.priority).2 r hr

theorem exists_maxPriority (first : RegisteredService) (rest : List RegisteredService) :
    ∃ r ∈ first :: rest, r.priority = maxPriority first rest := by
  unfold maxPriority
  induction rest generalizing first with
  | nil => exact ⟨first, .head _, rfl⟩
  | cons r rest ih =>
      rcases le_total first.priority r.priority with hle | hle
      · obtain ⟨x, hx, hp⟩ := ih r
        refine ⟨x, .tail _ hx, ?_⟩
        rw [hp, List.foldl_cons, max_eq_right hle]
      · obtain ⟨x, hx, hp⟩ := ih first
        refine ⟨x, ?_, by rw [hp, List.foldl_cons, max_eq_left hle]⟩
        rcases List.mem_cons.mp hx with rfl | hx
        · exact .head _
        · exact .tail _ (.tail _ hx)

/-- The oldest is one of the services, and no other one's client is older. -/
theorem oldest_spec (σ : Store) (first : RegisteredService) (rest : List RegisteredService) :
    σ.oldest first rest ∈ first :: rest ∧ ∀ r ∈ first :: rest,
      σ.createdAt (σ.oldest first rest).client ≤ σ.createdAt r.client := by
  unfold oldest
  induction rest generalizing first with
  | nil => exact ⟨.head _, by simp⟩
  | cons r rest ih =>
      rw [List.foldl_cons]
      split
      · rename_i hlt
        obtain ⟨hmem, hmin⟩ := ih r
        refine ⟨.tail _ hmem, fun x hx => ?_⟩
        rcases List.mem_cons.mp hx with rfl | hx
        · exact le_trans (hmin r (.head _)) (le_of_lt hlt)
        · exact hmin x hx
      · rename_i hge
        obtain ⟨hmem, hmin⟩ := ih first
        refine ⟨?_, fun x hx => ?_⟩
        · rcases List.mem_cons.mp hmem with heq | hmem
          · rw [heq]
            exact .head _
          · exact .tail _ (.tail _ hmem)
        · rcases List.mem_cons.mp hx with rfl | hx
          · exact hmin x (.head _)
          · rcases List.mem_cons.mp hx with rfl | hx
            · exact le_trans (hmin first (.head _)) (not_lt.mp hge)
            · exact hmin x (.tail _ hx)

/-! ## The choice -/

/-- `V` is preempted by `c` at `priority`: a pool service of `V` has the largest number
among those of the other clients, it may be preempted, and no client with that number
is older. -/
def VictimRule (σ : Store) (c : ClientId) (priority : Int) (V : ClientId) : Prop :=
  ∃ r ∈ σ.otherPoolServices c, r.client = V ∧ priority ≤ r.priority ∧
    (∀ r' ∈ σ.otherPoolServices c, r'.priority ≤ r.priority) ∧
    ∀ r' ∈ σ.otherPoolServices c, r'.priority = r.priority →
      σ.createdAt V ≤ σ.createdAt r'.client

/-- Why a registration of `c` at `priority` preempts no client. -/
inductive DenialRule (σ : Store) (c : ClientId) (priority : Int) (force : Bool) :
    ServerError → Prop
  | alone (cause : Option String) (h : σ.otherPoolServices c = []) :
      DenialRule σ c priority force (.resourceExhausted cause)
  | unforced (h : σ.otherPoolServices c ≠ []) (hf : force = false) :
      DenialRule σ c priority force .forceRequired
  | outranked {largest : Int} (hf : force = true)
      (hlt : ∀ r ∈ σ.otherPoolServices c, r.priority < priority)
      (hmem : ∃ r ∈ σ.otherPoolServices c, r.priority = largest)
      (hle : ∀ r ∈ σ.otherPoolServices c, r.priority ≤ largest) :
      DenialRule σ c priority force (.priorityPreemption priority largest)

theorem selectVictim_rule {priority : Int} {force : Bool} {lastError : Option String}
    {v : Victim} (h : σ.selectVictim c priority force lastError = .ok v) :
    force = true ∧ VictimRule σ c priority v.client := by
  revert h
  fun_cases Store.selectVictim σ c priority force lastError
  case case5 first rest hothers hforce e es heligible victimPriority x xs hfilter victim =>
    intro heq
    cases heq
    refine ⟨by simpa using hforce, ?_⟩
    obtain ⟨hmem, hmin⟩ := oldest_spec σ x xs
    rw [← hfilter, List.mem_filter] at hmem
    obtain ⟨hmem, hprio⟩ := hmem
    have hprio : (σ.oldest x xs).priority = maxPriority e es := by simpa using hprio
    have hmem' := hmem
    rw [← heligible, List.mem_filter] at hmem'
    obtain ⟨hother, hge⟩ := hmem'
    have hge : priority ≤ (σ.oldest x xs).priority := by simpa using hge
    -- a service that may not be preempted has a smaller number
    have hall : ∀ r ∈ σ.otherPoolServices c, r.priority ≤ (σ.oldest x xs).priority := by
      intro r hr
      rw [hothers] at hr
      by_cases hrp : priority ≤ r.priority
      · rw [hprio]
        refine le_maxPriority e es r ?_
        rw [← heligible, List.mem_filter]
        exact ⟨hr, by simpa using hrp⟩
      · omega
    refine ⟨σ.oldest x xs, hothers ▸ hother, rfl, hge, hall, fun r hr heq => ?_⟩
    refine hmin r ?_
    rw [← hfilter, List.mem_filter, ← heligible, List.mem_filter]
    rw [hothers] at hr
    refine ⟨⟨hr, by simp [heq, hge]⟩, by simp [heq, hprio, victimPriority]⟩
  all_goals rintro ⟨⟩

theorem selectVictim_denial {priority : Int} {force : Bool} {lastError : Option String}
    {e : ServerError} (h : σ.selectVictim c priority force lastError = .error e) :
    DenialRule σ c priority force e := by
  revert h
  fun_cases Store.selectVictim σ c priority force lastError
  case case1 hnone =>
    intro heq
    cases heq
    exact .alone lastError hnone
  case case2 first rest hothers hforce =>
    intro heq
    cases heq
    exact .unforced (by simp [hothers]) (by simpa using hforce)
  case case3 first rest hothers hforce hnone =>
    intro heq
    cases heq
    rw [List.filter_eq_nil_iff] at hnone
    refine .outranked (by simpa using hforce) ?_ ?_ ?_
    · intro r hr
      rw [hothers] at hr
      have := hnone r hr
      simp only [decide_eq_true_eq] at this
      omega
    · rw [hothers]
      exact exists_maxPriority first rest
    · rw [hothers]
      exact le_maxPriority first rest
  case case4 first rest hothers hforce e es heligible victimPriority hnone =>
    -- the largest number is the one of some service
    obtain ⟨r, hr, hp⟩ := exists_maxPriority e es
    rw [List.filter_eq_nil_iff] at hnone
    exact absurd (decide_eq_true hp) (hnone r hr)
  all_goals rintro ⟨⟩

end PyFrp
