import PyFrp.Supervisor.Files

/-!
# What the two sides read of each other

`_write_json` sorts the keys, so a payload comes back with its entries in another
order. What each reader finds in a payload of the other side is stated here.
-/

namespace PyFrp

open Python Coop

/-! ## Sorted payloads -/

theorem sortEntries_perm {α : Type} (entries : List (String × α)) :
    (sortEntries entries).Perm entries :=
  List.perm_insertionSort _ _

theorem dictGet_of_mem {fields : Fields} {key : String} {v : Value}
    (hnodup : (fields.map Prod.fst).Nodup) (hmem : (key, v) ∈ fields) : dictGet fields key = v := by
  induction fields with
  | nil => cases hmem
  | cons e es ih =>
      rw [List.map_cons, List.nodup_cons] at hnodup
      unfold dictGet
      rcases List.mem_cons.mp hmem with heq | hmem
      · subst heq
        simp
      · have hne : e.1 ≠ key := fun heq =>
          hnodup.1 (heq ▸ List.mem_map_of_mem (f := Prod.fst) hmem)
        rw [List.find?_cons_of_neg (by simpa using hne)]
        exact ih hnodup.2 hmem

/-- A lookup does not see the order of the entries. -/
theorem dictGet_sortKeys {fields : Fields} {key : String} {v : Value}
    (hnodup : (fields.map Prod.fst).Nodup) (hmem : (key, v) ∈ fields) :
    dictGet (sortKeys fields) key = sortValue v := by
  have hkeys : (sortKeys fields).map Prod.fst = (sortEntries fields).map Prod.fst := by
    simp [sortKeys]
  refine dictGet_of_mem ?_ ?_
  · rw [hkeys]
    exact ((sortEntries_perm fields).map Prod.fst).nodup_iff.mpr hnodup
  · exact List.mem_map.mpr ⟨(key, v), (sortEntries_perm fields).mem_iff.mpr hmem, rfl⟩

theorem ofGeneration_sortKeys {fields : Fields} {generation generation' : String}
    (hnodup : (fields.map Prod.fst).Nodup) (hmem : ("generation", .str generation') ∈ fields) :
    ofGeneration generation (some (sortKeys fields)) =
      if generation' = generation then some (sortKeys fields) else none := by
  have hget : dictGet (sortKeys fields) "generation" = .str generation' :=
    dictGet_sortKeys hnodup hmem
  show Option.filter _ _ = _
  rw [Option.filter_some, hget]
  simp [Value.isText]

/-! ## The status of a child -/

theorem childStatus_statusPayload (generation generation' version : String) (pid : Int) :
    childStatus generation (some (sortKeys (statusPayload generation' version pid))) =
      if generation' = generation then some ⟨version, pid⟩ else none := by
  have hnodup : ((statusPayload generation' version pid).map Prod.fst).Nodup := by
    show ["generation", "version", "pid"].Nodup
    decide
  have hversion : dictGet (sortKeys (statusPayload generation' version pid)) "version" =
      .str version := dictGet_sortKeys hnodup (.tail _ (.head _))
  have hpid : dictGet (sortKeys (statusPayload generation' version pid)) "pid" = .int pid :=
    dictGet_sortKeys hnodup (.tail _ (.tail _ (.head _)))
  unfold childStatus
  rw [ofGeneration_sortKeys hnodup (.head _)]
  split
  · rename_i hnone
    split at hnone
    · cases hnone
    · rw [if_neg ‹_›]
  · rename_i fields hfields
    split at hfields
    · rw [if_pos ‹_›]
      cases hfields
      rw [hversion, hpid]
    · cases hfields

/-! ## The command -/

theorem supervisorRestartTarget_restartCommand {environ : Environment} {root generation : String}
    (hchannel : childChannel environ = some (root, generation)) (generation' target : String) :
    supervisorRestartTarget environ (some (sortKeys (restartCommand generation' target))) =
      if generation' = generation ∧ target ≠ "" then some target else none := by
  have hnodup : ((restartCommand generation' target).map Prod.fst).Nodup := by
    show ["generation", "command", "target_version"].Nodup
    decide
  have hcommand : dictGet (sortKeys (restartCommand generation' target)) "command" =
      .str "restart" := dictGet_sortKeys hnodup (.tail _ (.head _))
  have htarget : dictGet (sortKeys (restartCommand generation' target)) "target_version" =
      .str target := dictGet_sortKeys hnodup (.tail _ (.tail _ (.head _)))
  unfold supervisorRestartTarget
  rw [hchannel]
  dsimp only
  rw [ofGeneration_sortKeys hnodup (.head _)]
  by_cases hgeneration : generation' = generation
  · rw [if_pos hgeneration]
    dsimp only
    rw [hcommand, htarget]
    by_cases hempty : target = "" <;> simp [Value.isText, hgeneration, hempty]
  · rw [if_neg hgeneration, if_neg fun h => hgeneration h.1]

theorem supervisorRestartTarget_none (environ : Environment) :
    supervisorRestartTarget environ none = none := by
  unfold supervisorRestartTarget
  split <;> rfl

/-! ## The restart state -/

/-- A dict that is assigned the entries of another one, in any order, is like it. -/
theorem get?_setAll_perm {es : List (String × String)} {d : Environment}
    (hperm : es.Perm d.entries) (key : String) :
    (Dict.empty.setAll es : Environment).get? key = d.get? key := by
  have hnodup : (es.map Prod.fst).Nodup := (hperm.map Prod.fst).nodup_iff.mpr d.nodup
  have hget := Dict.get?_setAll_entries Dict.empty (⟨es, hnodup⟩ : Environment) key
  rw [Dict.get?_empty, Option.or_none] at hget
  refine hget.trans (Option.ext fun v => ?_)
  show Dict.get? _ _ = some v ↔ _
  rw [Dict.get?_eq_some_iff, Dict.get?_eq_some_iff]
  exact hperm.mem_iff

/-- What the supervisor reads of a child that has published its restart variables. -/
theorem restartState_publishRestartState {environ : Environment} {root generation target : String}
    {payload : Fields} (hchannel : childChannel environ = some (root, generation))
    (hpayload : publishRestartState environ target = some payload) (generation' : String) :
    (generation' ≠ generation → restartState generation' (some (sortKeys payload)) = none) ∧
    ∃ state, restartState generation (some (sortKeys payload)) = some state ∧
      state.targetVersion = target ∧
      ∀ key, state.environment.get? key = if isRestartKey key then environ.get? key else none := by
  have heq : payload =
      [("environment", .dict ((environ.filterKeys isRestartKey).entries.map
          fun e => (e.1, .str e.2))),
        ("generation", .str generation), ("target_version", .str target)] := by
    unfold publishRestartState at hpayload
    rw [hchannel] at hpayload
    exact (Option.some.inj hpayload).symm
  have hnodup : (payload.map Prod.fst).Nodup := by
    rw [heq]
    show ["environment", "generation", "target_version"].Nodup
    decide
  have hgeneration : ("generation", Value.str generation) ∈ payload := by
    rw [heq]
    exact .tail _ (.head _)
  have htarget : dictGet (sortKeys payload) "target_version" = .str target :=
    dictGet_sortKeys hnodup (by rw [heq]; exact .tail _ (.tail _ (.head _)))
  have henvironment : dictGet (sortKeys payload) "environment" =
      .dict (sortEntries ((environ.filterKeys isRestartKey).entries.map fun e => (e.1, .str e.2))) :=
    dictGet_sortKeys hnodup (by rw [heq]; exact .head _)
  have hkeys : ∀ e ∈ (environ.filterKeys isRestartKey).entries, isRestartKey e.1 = true :=
    fun e he => (List.mem_filter.mp he).2
  constructor
  · intro hne
    unfold restartState
    rw [ofGeneration_sortKeys hnodup hgeneration, if_neg (Ne.symm hne)]
  · unfold restartState
    rw [ofGeneration_sortKeys hnodup hgeneration, if_pos rfl]
    dsimp only
    rw [htarget, henvironment]
    refine ⟨_, rfl, rfl, fun key => ?_⟩
    have hperm := ((sortEntries_perm ((environ.filterKeys isRestartKey).entries.map
      fun e => (e.1, Value.str e.2))).filterMap restartVariable)
    rw [filterMap_restartVariable hkeys] at hperm
    rw [get?_setAll_perm hperm, Dict.get?_filterKeys]

end PyFrp
