import Mathlib.Data.List.Nodup

/-!
# Insertion-ordered dictionaries

The dictionary of a scripting language: unique keys, iteration in insertion
order, assignment to a present key keeps its place. Uniqueness of the keys is
a field, so an ill-formed dictionary cannot be built.
-/

namespace Coop

/-- An insertion-ordered dictionary. -/
structure Dict (κ α : Type) where
  entries : List (κ × α)
  nodup : (entries.map Prod.fst).Nodup

namespace Dict

variable {κ α : Type}

def empty : Dict κ α := ⟨[], List.nodup_nil⟩

/-- The values in insertion order. -/
def values (d : Dict κ α) : List α := d.entries.map Prod.snd

variable [DecidableEq κ]

/-- `d.get(k)`. -/
def get? (d : Dict κ α) (k : κ) : Option α :=
  (d.entries.find? fun e => e.1 = k).map Prod.snd

/-- `k in d`. -/
def contains (d : Dict κ α) (k : κ) : Bool := (d.get? k).isSome

/-- The entries after `d[k] = v`. -/
private def setEntries (k : κ) (v : α) : List (κ × α) → List (κ × α)
  | [] => [(k, v)]
  | e :: es => if e.1 = k then (k, v) :: es else e :: setEntries k v es

private theorem mem_setEntries_keys (k : κ) (v : α) (es : List (κ × α)) (x : κ) :
    x ∈ (setEntries k v es).map Prod.fst ↔ x = k ∨ x ∈ es.map Prod.fst := by
  induction es with
  | nil => simp [setEntries]
  | cons e es ih =>
      by_cases he : e.1 = k
      · simp [setEntries, he]
      · simp only [setEntries, if_neg he, List.map_cons, List.mem_cons, ih]
        tauto

private theorem setEntries_nodup (k : κ) (v : α) (es : List (κ × α))
    (h : (es.map Prod.fst).Nodup) : ((setEntries k v es).map Prod.fst).Nodup := by
  induction es with
  | nil => simp [setEntries]
  | cons e es ih =>
      rw [List.map_cons, List.nodup_cons] at h
      by_cases he : e.1 = k
      · simp only [setEntries, if_pos he, List.map_cons, List.nodup_cons]
        exact ⟨he ▸ h.1, h.2⟩
      · simp only [setEntries, if_neg he, List.map_cons, List.nodup_cons]
        refine ⟨?_, ih h.2⟩
        rw [mem_setEntries_keys]
        rintro (hk | hm)
        · exact he hk
        · exact h.1 hm

/-- `d[k] = v`. -/
def set (d : Dict κ α) (k : κ) (v : α) : Dict κ α :=
  ⟨setEntries k v d.entries, setEntries_nodup k v d.entries d.nodup⟩

/-- `d.pop(k, None)`. -/
def erase (d : Dict κ α) (k : κ) : Dict κ α :=
  ⟨d.entries.filter fun e => e.1 ≠ k,
    d.nodup.sublist (List.filter_sublist.map Prod.fst)⟩

/-- `for k in ks: d.pop(k, None)`. -/
def eraseAll (d : Dict κ α) (ks : List κ) : Dict κ α := ks.foldl erase d

/-- `for k, v in es: d[k] = v`. -/
def setAll (d : Dict κ α) (es : List (κ × α)) : Dict κ α :=
  es.foldl (fun d e => d.set e.1 e.2) d

/-- The entries whose keys are chosen. -/
def filterKeys (d : Dict κ α) (p : κ → Bool) : Dict κ α :=
  ⟨d.entries.filter fun e => p e.1, d.nodup.sublist (List.filter_sublist.map Prod.fst)⟩

/-! ## Lookups after each operation -/

@[simp] theorem get?_empty (k : κ) : (empty : Dict κ α).get? k = none := rfl

@[simp] theorem get?_set (d : Dict κ α) (k x : κ) (v : α) :
    (d.set k v).get? x = if x = k then some v else d.get? x := by
  obtain ⟨es, hes⟩ := d
  simp only [set, get?]
  clear hes
  induction es with
  | nil =>
      by_cases hx : x = k
      · simp [setEntries, hx]
      · simp [setEntries, hx, Ne.symm hx]
  | cons e es ih =>
      by_cases he : e.1 = k
      · by_cases hx : x = k
        · simp [setEntries, he, hx]
        · simp [setEntries, he, hx, Ne.symm hx]
      · simp only [setEntries, if_neg he, List.find?_cons]
        by_cases hex : e.1 = x
        · have hx : x ≠ k := hex ▸ he
          simp [hex, hx]
        · simpa [hex] using ih

@[simp] theorem get?_erase (d : Dict κ α) (k x : κ) :
    (d.erase k).get? x = if x = k then none else d.get? x := by
  obtain ⟨es, hes⟩ := d
  simp only [erase, get?]
  clear hes
  induction es with
  | nil => simp
  | cons e es ih =>
      by_cases hek : e.1 = k
      · rw [List.filter_cons_of_neg (by simpa using hek), ih]
        by_cases hx : x = k
        · simp [hx]
        · have hex : e.1 ≠ x := fun h => hx (h ▸ hek)
          simp [hx, hex]
      · rw [List.filter_cons_of_pos (by simpa using hek)]
        by_cases hex : e.1 = x
        · have hx : x ≠ k := hex ▸ hek
          simp [hex, hx]
        · simpa [hex] using ih

@[simp] theorem get?_eraseAll (ks : List κ) (d : Dict κ α) (x : κ) :
    (d.eraseAll ks).get? x = if x ∈ ks then none else d.get? x := by
  induction ks generalizing d with
  | nil => simp [eraseAll]
  | cons k ks ih =>
      have hstep : d.eraseAll (k :: ks) = (d.erase k).eraseAll ks := rfl
      rw [hstep, ih, get?_erase]
      by_cases hk : x = k <;> by_cases hks : x ∈ ks <;> simp [hk, hks]

theorem get?_setAll_of_not_mem {es : List (κ × α)} (d : Dict κ α) {k : κ}
    (h : ¬ ∃ v, (k, v) ∈ es) : (d.setAll es).get? k = d.get? k := by
  induction es generalizing d with
  | nil => rfl
  | cons e es ih =>
      have hne : k ≠ e.1 := fun hk => h ⟨e.2, hk ▸ .head _⟩
      have hstep : d.setAll (e :: es) = (d.set e.1 e.2).setAll es := rfl
      rw [hstep, ih (d.set e.1 e.2) fun ⟨v, hv⟩ => h ⟨v, .tail _ hv⟩]
      simp [hne]

/-- A key that is assigned looks up one of the values it is assigned. -/
theorem get?_setAll {es : List (κ × α)} (d : Dict κ α) {k : κ}
    (h : ∃ v, (k, v) ∈ es) : ∃ v, (k, v) ∈ es ∧ (d.setAll es).get? k = some v := by
  induction es generalizing d with
  | nil =>
      obtain ⟨v, hv⟩ := h
      cases hv
  | cons e es ih =>
      have hstep : d.setAll (e :: es) = (d.set e.1 e.2).setAll es := rfl
      by_cases hlater : ∃ v, (k, v) ∈ es
      · obtain ⟨v, hmem, hv⟩ := ih (d.set e.1 e.2) hlater
        exact ⟨v, .tail _ hmem, hstep ▸ hv⟩
      · obtain ⟨v, hv⟩ := h
        rcases List.mem_cons.mp hv with rfl | hmem
        · refine ⟨v, .head _, ?_⟩
          rw [hstep, get?_setAll_of_not_mem _ hlater]
          simp
        · exact absurd ⟨v, hmem⟩ hlater

theorem get?_eq_some_iff (d : Dict κ α) (k : κ) (v : α) :
    d.get? k = some v ↔ (k, v) ∈ d.entries := by
  obtain ⟨es, hes⟩ := d
  simp only [get?]
  induction es with
  | nil => simp
  | cons e es ih =>
      rw [List.map_cons, List.nodup_cons] at hes
      by_cases he : e.1 = k
      · simp only [List.find?_cons, he, decide_true, Option.map_some, Option.some.injEq,
          List.mem_cons]
        constructor
        · intro hv
          exact .inl (Prod.ext he.symm hv.symm)
        · rintro (heq | hmem)
          · rw [← heq]
          · exact absurd (he ▸ List.mem_map_of_mem (f := Prod.fst) hmem) hes.1
      · have hne : (k, v) ≠ e := fun h => he (by rw [← h])
        simp only [List.find?_cons, he, decide_false, List.mem_cons, hne, false_or]
        exact ih hes.2

theorem get?_filterKeys (d : Dict κ α) (p : κ → Bool) (k : κ) :
    (d.filterKeys p).get? k = if p k then d.get? k else none := by
  have hmem : ∀ v, (d.filterKeys p).get? k = some v ↔ (k, v) ∈ d.entries ∧ p k = true := by
    intro v
    rw [get?_eq_some_iff]
    exact List.mem_filter
  split
  · rename_i hp
    ext v
    rw [hmem, get?_eq_some_iff]
    simp [hp]
  · rename_i hp
    rw [Option.eq_none_iff_forall_not_mem]
    intro v hv
    exact hp ((hmem v).mp hv).2

/-- A dictionary is updated by another one. -/
theorem get?_setAll_entries (d d' : Dict κ α) (k : κ) :
    (d.setAll d'.entries).get? k = (d'.get? k).or (d.get? k) := by
  cases hk : d'.get? k with
  | none =>
      refine get?_setAll_of_not_mem d ?_
      rintro ⟨v, hv⟩
      rw [(get?_eq_some_iff d' k v).mpr hv] at hk
      cases hk
  | some v =>
      have hv : (k, v) ∈ d'.entries := (get?_eq_some_iff d' k v).mp hk
      obtain ⟨w, hw, hget⟩ := get?_setAll d ⟨v, hv⟩
      rw [hget, ← (get?_eq_some_iff d' k w).mpr hw, hk]
      rfl

/-- The values are what the keys look up. -/
theorem mem_values (d : Dict κ α) (v : α) : v ∈ d.values ↔ ∃ k, d.get? k = some v := by
  simp only [values, List.mem_map, Prod.exists, exists_eq_right, get?_eq_some_iff]

/-! ## Insertions taken back -/

theorem values_eq_nil {d : Dict κ α} (h : ∀ k, d.get? k = none) : d.values = [] := by
  refine List.eq_nil_iff_forall_not_mem.mpr fun v hv => ?_
  obtain ⟨k, hk⟩ := (mem_values d v).mp hv
  rw [h k] at hk
  cases hk

omit [DecidableEq κ] in
theorem ext_entries {d d' : Dict κ α} (h : d.entries = d'.entries) : d = d' := by
  cases d
  cases d'
  cases h
  rfl

theorem entries_eraseAll (ks : List κ) (d : Dict κ α) :
    (d.eraseAll ks).entries = d.entries.filter fun e => e.1 ∉ ks := by
  induction ks generalizing d with
  | nil => simp [eraseAll]
  | cons k ks ih =>
      have hstep : d.eraseAll (k :: ks) = (d.erase k).eraseAll ks := rfl
      rw [hstep, ih, erase, List.filter_filter]
      refine List.filter_congr fun e _ => ?_
      by_cases hk : e.1 = k <;> by_cases hks : e.1 ∈ ks <;> simp [hk, hks]

private theorem filter_setEntries {k : κ} {v : α} {p : κ × α → Bool}
    (hp : ∀ v, p (k, v) = false) (es : List (κ × α)) :
    (setEntries k v es).filter p = es.filter p := by
  induction es with
  | nil => simp [setEntries, hp]
  | cons e es ih =>
      by_cases he : e.1 = k
      · have hpe : p e = false := by
          obtain ⟨k', v'⟩ := e
          cases he
          exact hp v'
        simp [setEntries, he, hp, hpe]
      · simp only [setEntries, if_neg he, List.filter_cons, ih]

/-- Popping the key too takes an insertion back, if the key is not left without it. -/
theorem eraseAll_set (d : Dict κ α) {ks : List κ} {k : κ} (v : α)
    (h : (d.eraseAll ks).get? k = none) :
    (d.set k v).eraseAll (ks ++ [k]) = d.eraseAll ks := by
  refine ext_entries ?_
  rw [entries_eraseAll, entries_eraseAll, set, filter_setEntries (fun v => by simp)]
  refine List.filter_congr fun e he => ?_
  by_cases hk : e.1 = k
  · have hks : k ∈ ks := by
      by_contra hks
      rw [get?_eraseAll, if_neg hks] at h
      rw [(get?_eq_some_iff d k e.2).mpr (hk ▸ he)] at h
      cases h
    simp [hk, hks]
  · simp [hk]

end Dict
end Coop
