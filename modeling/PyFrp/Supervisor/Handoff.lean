import PyFrp.Supervisor.Supervisor

/-!
# The handoff of the restart variables

A child that restarts publishes its restart variables, and the supervisor
replaces its own by them. What the next child finds in its environment is stated
here, key by key.
-/

namespace PyFrp

open Python Coop

/-- The two environments agree on what a child leaves to its successor. -/
def SameRestartState (e e' : Environment) : Prop :=
  ∀ key, isRestartKey key = true → key ≠ targetVersionEnv → e.get? key = e'.get? key

theorem SameRestartState.get? {e e' : Environment} (h : SameRestartState e e') {key : String}
    (hkey : (isRestartKey key && key ≠ targetVersionEnv) = true) : e.get? key = e'.get? key := by
  rw [Bool.and_eq_true] at hkey
  exact h key hkey.1 (by simpa using hkey.2)

theorem get?_prepareChildEnvironment {root generation key : String} (base : Environment)
    (hkey : isRestartKey key = true) :
    (prepareChildEnvironment root base generation).get? key = base.get? key := by
  have hne : ∀ other, isRestartKey other = false → key ≠ other := by
    rintro other hother rfl
    rw [hkey] at hother
    cases hother
  have hgeneration : key ≠ supervisorGenerationEnv := hne _ (by decide)
  have hroot : key ≠ supervisorRootEnv := hne _ (by decide)
  have hchild : key ≠ supervisedChildEnv := hne _ (by decide)
  simp only [prepareChildEnvironment, Dict.get?_set, hgeneration, hroot, hchild, if_false]

theorem get?_replaceRestartEnvironment (base restart : Environment) (key : String) :
    (replaceRestartEnvironment base restart).get? key =
      (restart.get? key).or (if isRestartKey key then none else base.get? key) := by
  rw [replaceRestartEnvironment, Dict.get?_setAll_entries, Dict.get?_eraseAll]
  congr 1
  by_cases hkey : isRestartKey key = true
  · rw [if_pos hkey]
    split
    · rfl
    · rename_i hmem
      rw [Option.eq_none_iff_forall_not_mem]
      intro value hvalue
      have hentry : (key, value) ∈ base.entries := (Dict.get?_eq_some_iff base key value).mp hvalue
      exact hmem (List.mem_filter.mpr ⟨List.mem_map_of_mem hentry, hkey⟩)
  · rw [if_neg hkey, if_neg fun hmem => hkey (List.mem_filter.mp hmem).2]

/-- The restart variables of a decoded environment. -/
theorem filterMap_restartVariable {es : List (String × String)}
    (hes : ∀ e ∈ es, isRestartKey e.1 = true) :
    (es.map fun e => (e.1, Value.str e.2)).filterMap restartVariable = es := by
  induction es with
  | nil => rfl
  | cons e es ih =>
      have he : restartVariable (e.1, .str e.2) = some e := if_pos (hes e (.head _))
      rw [List.map_cons, List.filterMap_cons_some he, ih fun e he => hes e (.tail _ he)]

/-- The supervisor reads what the child published, key by key. -/
theorem restartState_of_requestRestart {environ environ' : Environment} {target generation : String}
    {payload : Fields} {state : RestartState}
    (hrequest : requestRestart environ target = some (environ', payload))
    (hstate : restartState generation (some payload) = some state) :
    state.targetVersion = target ∧ environ' = environ.set targetVersionEnv target ∧
      ∀ key, state.environment.get? key = if isRestartKey key then environ'.get? key else none := by
  simp only [requestRestart, publishRestartState, Option.map_map, Option.map_eq_some_iff,
    Function.comp_apply, Prod.mk.injEq] at hrequest
  obtain ⟨channel, -, henviron, rfl⟩ := hrequest
  have hkeys : ∀ e ∈ (environ'.filterKeys isRestartKey).entries, isRestartKey e.1 = true :=
    fun e he => (List.mem_filter.mp he).2
  simp only [henviron] at hstate
  simp only [restartState, ofGeneration, Option.filter_some] at hstate
  split at hstate
  · cases hstate
  · rename_i fields hfields
    split at hfields
    · cases hfields
      change some (RestartState.mk target (Dict.empty.setAll (((environ'.filterKeys
        isRestartKey).entries.map fun e => (e.1, .str e.2)).filterMap restartVariable))) =
          some state at hstate
      rw [filterMap_restartVariable hkeys] at hstate
      cases hstate
      refine ⟨rfl, henviron.symm, fun key => ?_⟩
      rw [Dict.get?_setAll_entries, Dict.get?_filterKeys, Dict.get?_empty, Option.or_none]
    · cases hfields

/-- The supervisor leaves to the next child what the last one published. -/
theorem sameRestartState_of_handoff {environ environ' base : Environment}
    {target generation : String} {payload : Fields} {state : RestartState}
    (hrequest : requestRestart environ target = some (environ', payload))
    (hstate : restartState generation (some payload) = some state) :
    SameRestartState ((replaceRestartEnvironment base state.environment).erase targetVersionEnv)
      environ := by
  obtain ⟨-, rfl, hget⟩ := restartState_of_requestRestart hrequest hstate
  intro key hkey hne
  rw [Dict.get?_erase, if_neg hne, get?_replaceRestartEnvironment, hget, if_pos hkey, if_pos hkey,
    Option.or_none, Dict.get?_set, if_neg hne]

/-! ## The environment of the next child -/

def supervisionKeys : List String :=
  [supervisedChildEnv, supervisorRootEnv, supervisorGenerationEnv]

/-- The environment of a child that is started by a supervisor with the environment
`supervisor`, after a child with the environment `child`. -/
structure HandedOver (supervisor child : Environment) (root generation : String)
    (next : Environment) : Prop where
  restart : ∀ key, isRestartKey key = true → key ≠ targetVersionEnv →
    next.get? key = child.get? key
  target : next.get? targetVersionEnv = none
  supervised : next.get? supervisedChildEnv = some "1"
  root : next.get? supervisorRootEnv = some root
  generation : next.get? supervisorGenerationEnv = some generation
  rest : ∀ key, isRestartKey key = false → key ∉ supervisionKeys →
    next.get? key = supervisor.get? key

/-- Only the restart variables of the child matter. -/
theorem HandedOver.congr {supervisor child child' next next' : Environment}
    {root generation : String} (h : HandedOver supervisor child root generation next)
    (h' : HandedOver supervisor child' root generation next')
    (hsame : ∀ key, isRestartKey key = true → child.get? key = child'.get? key) (key : String) :
    next.get? key = next'.get? key := by
  by_cases hrestart : isRestartKey key = true
  · by_cases htarget : key = targetVersionEnv
    · rw [htarget, h.target, h'.target]
    · rw [h.restart key hrestart htarget, h'.restart key hrestart htarget, hsame key hrestart]
  · by_cases hkeys : key ∈ supervisionKeys
    · rcases hkeys with _ | ⟨_, _ | ⟨_, _ | ⟨_, hnone⟩⟩⟩
      · rw [h.supervised, h'.supervised]
      · rw [h.root, h'.root]
      · rw [h.generation, h'.generation]
      · cases hnone
    · rw [h.rest key (Bool.eq_false_iff.mpr hrestart) hkeys,
        h'.rest key (Bool.eq_false_iff.mpr hrestart) hkeys]

theorem get?_prepareChildEnvironment_rest {root generation key : String} (base : Environment)
    (hkey : key ∉ supervisionKeys) :
    (prepareChildEnvironment root base generation).get? key = base.get? key := by
  have hchild : key ≠ supervisedChildEnv := fun h => hkey (h ▸ .head _)
  have hroot : key ≠ supervisorRootEnv := fun h => hkey (h ▸ .tail _ (.head _))
  have hgeneration : key ≠ supervisorGenerationEnv :=
    fun h => hkey (h ▸ .tail _ (.tail _ (.head _)))
  simp only [prepareChildEnvironment, Dict.get?_set, hgeneration, hroot, hchild, if_false]

theorem environment_handOver {s : Supervisor} {generation restartTarget : String}
    {payload : Option Fields} {state : RestartState}
    (hstate : restartState generation payload = some state) :
    (s.handOver generation restartTarget payload).environment =
      (replaceRestartEnvironment s.environment state.environment).erase targetVersionEnv := by
  unfold Supervisor.handOver
  rw [hstate]

/-- The next child of a supervisor that takes over the restart variables of `environ`. -/
theorem handedOver_of_state (s : Supervisor) (restartTarget root next : String)
    {environ : Environment} {generation : String} {payload : Option Fields} {state : RestartState}
    (hstate : restartState generation payload = some state)
    (hget : ∀ key, state.environment.get? key =
      if isRestartKey key then environ.get? key else none) :
    HandedOver s.environment environ root next
      (prepareChildEnvironment root (s.handOver generation restartTarget payload).environment next) := by
  rw [environment_handOver hstate]
  constructor
  · intro key hkey hne
    rw [get?_prepareChildEnvironment _ hkey, Dict.get?_erase, if_neg hne,
      get?_replaceRestartEnvironment, hget, if_pos hkey, if_pos hkey, Option.or_none]
  · have hkey : isRestartKey targetVersionEnv = true := by decide
    rw [get?_prepareChildEnvironment _ hkey, Dict.get?_erase, if_pos rfl]
  · have hroot : supervisedChildEnv ≠ supervisorRootEnv := by decide
    have hgeneration : supervisedChildEnv ≠ supervisorGenerationEnv := by decide
    simp only [prepareChildEnvironment, Dict.get?_set, hroot, hgeneration, if_false, if_true]
  · have hgeneration : supervisorRootEnv ≠ supervisorGenerationEnv := by decide
    simp only [prepareChildEnvironment, Dict.get?_set, hgeneration, if_false, if_true]
  · simp only [prepareChildEnvironment, Dict.get?_set, if_true]
  · intro key hkey hkeys
    have htarget : key ≠ targetVersionEnv := by
      rintro rfl
      exact absurd hkey (by decide)
    rw [get?_prepareChildEnvironment_rest _ hkeys, Dict.get?_erase, if_neg htarget,
      get?_replaceRestartEnvironment, hget, hkey]
    rfl

/-- The supervisor that takes over the state of a child starts the next one with it. -/
theorem handedOver (s : Supervisor) (restartTarget root next : String)
    {environ environ' : Environment} {target generation : String} {payload : Fields}
    {state : RestartState} (hrequest : requestRestart environ target = some (environ', payload))
    (hstate : restartState generation (some payload) = some state) :
    HandedOver s.environment environ root next
      (prepareChildEnvironment root
        (s.handOver generation restartTarget (some payload)).environment next) := by
  obtain ⟨-, rfl, hget⟩ := restartState_of_requestRestart hrequest hstate
  have h := handedOver_of_state s restartTarget root next hstate hget
  -- the child itself has its target among its restart variables
  refine { h with restart := fun key hkey hne => ?_ }
  rw [h.restart key hkey hne, Dict.get?_set, if_neg hne]

/-- The next child finds the restart variables of the last one, the three variables of its
supervision, and else the environment of the supervisor; of the last child it learns nothing
else. -/
theorem handoff_exact (s : Supervisor) (restartTarget root next : String)
    {environ environ' : Environment} {target generation : String} {payload : Fields}
    (hrequest : requestRestart environ target = some (environ', payload))
    (hstate : restartState generation (some payload) ≠ none) :
    HandedOver s.environment environ root next
      (prepareChildEnvironment root
        (s.handOver generation restartTarget (some payload)).environment next) ∧
    ∀ (other other' : Environment) (target' generation' restartTarget' : String)
      (payload' : Fields), requestRestart other target' = some (other', payload') →
      restartState generation' (some payload') ≠ none →
      (∀ key, isRestartKey key = true → environ.get? key = other.get? key) →
      ∀ key, (prepareChildEnvironment root
          (s.handOver generation restartTarget (some payload)).environment next).get? key =
        (prepareChildEnvironment root
          (s.handOver generation' restartTarget' (some payload')).environment next).get? key := by
  obtain ⟨state, hstate⟩ := Option.ne_none_iff_exists'.mp hstate
  have hhanded := handedOver s restartTarget root next hrequest hstate
  refine ⟨hhanded, ?_⟩
  intro other other' target' generation' restartTarget' payload' hrequest' hstate' hsame
  obtain ⟨state', hstate'⟩ := Option.ne_none_iff_exists'.mp hstate'
  exact hhanded.congr (handedOver s restartTarget' root next hrequest' hstate') hsame

/-- The environment of a supervised child with a token. -/
def childEnviron : Environment :=
  ((((Dict.empty.set supervisedChildEnv "1").set supervisorRootEnv "/run").set
    supervisorGenerationEnv "a").set "PY_FRP_RESTART_SERVER_TOKEN" "secret").set "PATH" "/bin"

/-- What this child publishes. -/
def childPayload : Fields :=
  [("environment", .dict [("PY_FRP_RESTART_SERVER_TOKEN", .str "secret"),
      (targetVersionEnv, .str "2.0")]),
    ("generation", .str "a"), ("target_version", .str "2.0")]

theorem handoff_exact_token :
    (prepareChildEnvironment "/run"
      ((Supervisor.initial (Dict.empty.set "PATH" "/usr/bin")).handOver "a" "unknown"
        (some childPayload)).environment "b").get? "PY_FRP_RESTART_SERVER_TOKEN" =
      some "secret" := by
  have hrequest : requestRestart childEnviron "2.0" =
      some (childEnviron.set targetVersionEnv "2.0", childPayload) := rfl
  have hstate : restartState "a" (some childPayload) ≠ none := Option.some_ne_none _
  have hexact := handoff_exact (Supervisor.initial (Dict.empty.set "PATH" "/usr/bin"))
    "unknown" "/run" "b" hrequest hstate
  have htoken : "PY_FRP_RESTART_SERVER_TOKEN" ≠ targetVersionEnv := by decide
  exact hexact.1.restart "PY_FRP_RESTART_SERVER_TOKEN" (by decide) htoken

end PyFrp
