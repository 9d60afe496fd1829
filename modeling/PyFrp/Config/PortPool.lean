import Mathlib.Data.Finset.Insert
import PyFrp.Coding.Occurrences
import PyFrp.Config.Fields
import PyFrp.Python.Numerals

/-!
# Port pools (`pool.py`)

The ports of a pool are written as ports and ranges between commas, in one or more
texts. The parser goes through texts, items and ranges and remembers the ports it has
seen; what comes out is the list of the ports, each once.
-/

namespace PyFrp

open Python Coding

namespace Pool

variable (b : Builtins)

/-- `_port`. -/
def port (value : String) : Load Int :=
  match intOfText value with
  | none => Config.fail ("port " ++ b.repr (.str value) ++ " is not an integer")
  | some port =>
      if 1 ≤ port ∧ port ≤ 65535 then .ok port
      else Config.fail ("port " ++ toString port ++ " is outside the valid range")

/-- `item.split("-", 1)`, if there is a dash. -/
def splitDash (item : String) : Option (String × String) :=
  match item.toList.dropWhile (· ≠ '-') with
  | _ :: stop => some (String.ofList (item.toList.takeWhile (· ≠ '-')), String.ofList stop)
  | [] => none

/-- `range(start, stop + 1)`. -/
def portRange (start stop : Int) : List Int :=
  (List.range (stop + 1 - start).toNat).map fun (i : Nat) => start + i

/-- The candidates of one item. -/
def candidates (item : String) : Load (List Int) :=
  match splitDash item with
  | some (startText, endText) => do
      let start ← port b startText
      let stop ← port b endText
      if stop < start then
        Config.fail ("invalid descending port range " ++ b.repr (.str item))
      else return portRange start stop
  | none => do return [← port b item]

/-- The locals of `parse_port_pools`: the ports found and those seen are the same. -/
structure Found where
  ports : List Int
  seen : Finset Int
  agree : ∀ port, port ∈ seen ↔ port ∈ ports

namespace Found

def empty : Found := ⟨[], ∅, fun _ => Iff.rfl⟩

/-- One round of the innermost loop. -/
def add (found : Found) (port : Int) : Found :=
  if port ∈ found.seen then found
  else ⟨found.ports ++ [port], insert port found.seen, fun p => by
    rw [Finset.mem_insert, List.mem_append, List.mem_singleton, found.agree, or_comm]⟩

end Found

/-- One round of the loop over the parts of a text. -/
def addPart (found : Found) (part : String) : Load Found :=
  let item := strip part
  if item = "" then .ok found
  else do return (← candidates b item).foldl Found.add found

/-- `value.split(",")`. -/
def splitComma (value : String) : List String :=
  (value.toList.splitOn ',').map String.ofList

def parsePortPools (values : List String) : Load (List Int) := do
  let found ← values.foldlM (fun found value => (splitComma value).foldlM (addPart b) found) .empty
  if found.ports = [] then Config.fail "port pool must include at least one port"
  else return found.ports

def parsePortPool (value : String) : Load (List Int) := parsePortPools b [value]

/-! ## What the texts say -/

/-- The items of the texts: what is between commas, without blanks around it. -/
def items (values : List String) : List String :=
  ((values.flatMap splitComma).map strip).filter (· ≠ "")

/-- The text of a port. -/
structure IsPort (text : String) (n : Int) : Prop where
  int : intOfText text = some n
  positive : 1 ≤ n
  small : n ≤ 65535

/-- What an item says: a port, or all ports from one to another. -/
inductive Denotes (item : String) : List Int → Prop
  | port {n : Int} (h : IsPort item n) : Denotes item [n]
  | range {startText endText : String} {m n : Int}
      (hitem : item.toList = startText.toList ++ '-' :: endText.toList)
      (hfirst : '-' ∉ startText.toList) (hm : IsPort startText m) (hn : IsPort endText n)
      (h : m ≤ n) : Denotes item (portRange m n)

variable {b}

@[simp] theorem mem_portRange {m n p : Int} : p ∈ portRange m n ↔ m ≤ p ∧ p ≤ n := by
  simp only [portRange, List.mem_map, List.mem_range]
  constructor
  · rintro ⟨i, hi, rfl⟩
    omega
  · rintro ⟨hm, hn⟩
    exact ⟨(p - m).toNat, by omega, by omega⟩

theorem Denotes.ne_nil {item : String} {ports : List Int} (h : Denotes item ports) :
    ports ≠ [] := by
  cases h with
  | port h => exact List.cons_ne_nil _ _
  | @range startText endText m n hitem hfirst hm hn h =>
      exact List.ne_nil_of_mem (mem_portRange.mpr ⟨le_refl m, h⟩)

/-! ## Items -/

theorem port_cases (text : String) :
    (∃ n, port b text = .ok n ∧ IsPort text n) ∨
      ((∃ message, port b text = .error (.config message)) ∧ ∀ n, ¬ IsPort text n) := by
  unfold port
  cases hint : intOfText text with
  | none =>
      refine .inr ⟨⟨_, rfl⟩, fun n h => ?_⟩
      cases hint.symm.trans h.int
  | some n =>
      dsimp only
      split
      · rename_i hrange
        exact .inl ⟨n, rfl, hint, hrange.1, hrange.2⟩
      · rename_i hrange
        refine .inr ⟨⟨_, rfl⟩, fun m h => hrange ?_⟩
        cases hint.symm.trans h.int
        exact ⟨h.positive, h.small⟩

theorem not_mem_of_splitDash {item : String} (h : splitDash item = none) : '-' ∉ item.toList := by
  unfold splitDash at h
  split at h
  · cases h
  · rename_i heq
    intro hmem
    have hall := List.dropWhile_eq_nil_iff.mp heq '-' hmem
    exact absurd hall (by decide)

theorem splitDash_eq_some {item startText endText : String} :
    splitDash item = some (startText, endText) ↔
      item.toList = startText.toList ++ '-' :: endText.toList ∧ '-' ∉ startText.toList := by
  unfold splitDash
  constructor
  · intro h
    split at h
    · rename_i heq
      simp only [Option.some.injEq, Prod.mk.injEq] at h
      obtain ⟨rfl, rfl⟩ := h
      rw [String.toList_ofList, String.toList_ofList]
      exact of_dropWhile_ne heq
    · cases h
  · rintro ⟨hitem, hfirst⟩
    rw [hitem, dropWhile_ne_append hfirst, takeWhile_ne_append hfirst]
    simp

/-- Without a dash, only a port can be meant. -/
theorem Denotes.of_no_dash {item : String} {ports : List Int} (hsplit : splitDash item = none)
    (h : Denotes item ports) : ∃ n, IsPort item n ∧ ports = [n] := by
  cases h with
  | @port n h => exact ⟨n, h, rfl⟩
  | range hitem hfirst hm hn h =>
      have hdash := not_mem_of_splitDash hsplit
      rw [hitem] at hdash
      exact absurd (List.mem_append_right _ (.head _)) hdash

/-- An item with a dash is no port: as an integer it is not positive. -/
theorem Denotes.of_dash {item startText endText : String} {ports : List Int}
    (hsplit : splitDash item = some (startText, endText)) (h : Denotes item ports) :
    ∃ m n, IsPort startText m ∧ IsPort endText n ∧ m ≤ n ∧ ports = portRange m n := by
  cases h with
  | @port n h =>
      have hmem : '-' ∈ item.toList := by
        rw [(splitDash_eq_some.mp hsplit).1]
        exact List.mem_append_right _ (.head _)
      have hneg := intOfText_nonpos hmem h.int
      have hpos := h.positive
      omega
  | @range _ _ m n hitem hfirst hm hn h =>
      cases hsplit.symm.trans (splitDash_eq_some.mpr ⟨hitem, hfirst⟩)
      exact ⟨m, n, hm, hn, h, rfl⟩

theorem IsPort.unique {text : String} {m n : Int} (hm : IsPort text m) (hn : IsPort text n) :
    m = n :=
  Option.some.inj (hm.int.symm.trans hn.int)

theorem Denotes.unique {item : String} {ports others : List Int} (h : Denotes item ports)
    (hother : Denotes item others) : ports = others := by
  cases hsplit : splitDash item with
  | none =>
      obtain ⟨m, hm, rfl⟩ := h.of_no_dash hsplit
      obtain ⟨n, hn, rfl⟩ := hother.of_no_dash hsplit
      rw [hm.unique hn]
  | some parts =>
      obtain ⟨m, n, hm, hn, -, rfl⟩ := h.of_dash hsplit
      obtain ⟨m', n', hm', hn', -, rfl⟩ := hother.of_dash hsplit
      rw [hm.unique hm', hn.unique hn']

/-- What `int` says of an item decides its candidates. -/
theorem candidates_cases (item : String) :
    (∃ ports, candidates b item = .ok ports ∧ Denotes item ports) ∨
      ((∃ message, candidates b item = .error (.config message)) ∧
        ∀ ports, ¬ Denotes item ports) := by
  unfold candidates
  cases hsplit : splitDash item with
  | none =>
      rcases port_cases (b := b) item with ⟨n, hok, hn⟩ | ⟨⟨message, herror⟩, hno⟩
      · rw [hok]
        exact .inl ⟨[n], rfl, .port hn⟩
      · rw [herror]
        refine .inr ⟨⟨message, rfl⟩, fun ports h => ?_⟩
        obtain ⟨n, hn, -⟩ := h.of_no_dash hsplit
        exact hno n hn
  | some parts =>
      obtain ⟨hitem, hfirst⟩ := splitDash_eq_some.mp hsplit
      dsimp only
      rcases port_cases (b := b) parts.1 with ⟨m, hok, hm⟩ | ⟨⟨message, herror⟩, hno⟩
      · rcases port_cases (b := b) parts.2 with ⟨n, hok', hn⟩ | ⟨⟨message, herror⟩, hno⟩
        · rw [hok, hok']
          by_cases hlt : n < m
          · refine .inr ⟨⟨_, if_pos hlt⟩, fun ports h => ?_⟩
            obtain ⟨m', n', hm', hn', hle, -⟩ := h.of_dash hsplit
            rw [hm.unique hm', hn.unique hn'] at hlt
            exact absurd hlt (not_lt.mpr hle)
          · exact .inl ⟨portRange m n, if_neg hlt, .range hitem hfirst hm hn (not_lt.mp hlt)⟩
        · rw [hok, herror]
          refine .inr ⟨⟨message, rfl⟩, fun ports h => ?_⟩
          obtain ⟨_, n, -, hn, -, -⟩ := h.of_dash hsplit
          exact hno n hn
      · rw [herror]
        refine .inr ⟨⟨message, rfl⟩, fun ports h => ?_⟩
        obtain ⟨m, _, hm, -, -, -⟩ := h.of_dash hsplit
        exact hno m hm

theorem mapM_candidates_cases (its : List String) :
    (∃ said, its.mapM (candidates b) = .ok said ∧ List.Forall₂ Denotes its said) ∨
      ((∃ message, its.mapM (candidates b) = .error (.config message)) ∧
        ∃ item ∈ its, ∀ ports, ¬ Denotes item ports) := by
  induction its with
  | nil => exact .inl ⟨[], rfl, .nil⟩
  | cons item its ih =>
      rw [List.mapM_cons]
      rcases candidates_cases (b := b) item with ⟨ports, hok, hports⟩ | ⟨⟨message, herror⟩, hno⟩
      · rw [hok]
        rcases ih with ⟨said, hsaid, hall⟩ | ⟨⟨message, herror⟩, other, hmem, hno⟩
        · rw [hsaid]
          exact .inl ⟨ports :: said, rfl, .cons hports hall⟩
        · rw [herror]
          exact .inr ⟨⟨message, rfl⟩, other, .tail _ hmem, hno⟩
      · rw [herror]
        exact .inr ⟨⟨message, rfl⟩, item, .head _, hno⟩

/-! ## The loops -/

@[simp] theorem Found.ports_add (found : Found) (p : Int) :
    (found.add p).ports = found.ports ++ [p].filter (· ∉ found.ports) := by
  unfold add
  split
  · rename_i hseen
    have hmem := (found.agree p).mp hseen
    simp [hmem]
  · rename_i hseen
    have hmem : p ∉ found.ports := fun h => hseen ((found.agree p).mpr h)
    simp [hmem]

/-- The innermost loop goes on listing. -/
theorem lists_foldl_add {before : List Int} (ports : List Int) {found : Found}
    (h : Lists before found.ports) :
    Lists (before ++ ports) (ports.foldl Found.add found).ports := by
  induction ports generalizing before found with
  | nil => simpa using h
  | cons p ports ih =>
      have hadd : Lists (before ++ [p]) (found.add p).ports := by
        rw [Found.ports_add]
        exact h.append (.singleton p)
      simpa using ih hadd

/-- Going through items is reading them all and then adding what they say. -/
theorem foldlM_candidates (its : List String) (found : Found) :
    its.foldlM (fun found item => do return (← candidates b item).foldl Found.add found) found =
      (do return (← its.mapM (candidates b)).flatten.foldl Found.add found : Load Found) := by
  induction its generalizing found with
  | nil => rfl
  | cons item its ih =>
      rw [List.foldlM_cons, List.mapM_cons]
      cases candidates b item with
      | error e => rfl
      | ok ports =>
          refine (ih (ports.foldl Found.add found)).trans ?_
          cases its.mapM (candidates b) with
          | error e => rfl
          | ok said => exact congrArg Except.ok (List.foldl_append ..).symm

theorem addPart_eq : addPart b = fun found part =>
    if decide (strip part ≠ "") = true then do
      return (← candidates b (strip part)).foldl Found.add found
    else pure found := by
  funext found part
  unfold addPart
  by_cases hblank : strip part = ""
  · simp only [hblank, ne_eq, not_true, decide_false, if_true]
    rfl
  · simp only [hblank, ne_eq, not_false_eq_true, decide_true, if_true, if_false]

theorem foldlM_values (values : List String) (found : Found) :
    values.foldlM (fun found value => (splitComma value).foldlM (addPart b) found) found =
      (items values).foldlM
        (fun found item => do return (← candidates b item).foldl Found.add found) found := by
  unfold items
  rw [List.foldlM_filter, List.foldlM_map, addPart_eq]
  induction values generalizing found with
  | nil => rfl
  | cons value values ih =>
      rw [List.foldlM_cons, List.flatMap_cons, List.foldlM_append]
      exact bind_congr fun found => ih found

/-- Every text is read as its items. -/
theorem parsePortPools_eq (values : List String) :
    parsePortPools b values = (do
      let said ← (items values).mapM (candidates b)
      let found := said.flatten.foldl Found.add .empty
      if found.ports = [] then Config.fail "port pool must include at least one port"
      else return found.ports) := by
  unfold parsePortPools
  rw [foldlM_values, foldlM_candidates]
  cases (items values).mapM (candidates b) with
  | error e => rfl
  | ok said => rfl

/-- The items of the texts can be read, and `said` is what they say. -/
structure Says (values : List String) (said : List (List Int)) : Prop where
  some_item : items values ≠ []
  denotes : List.Forall₂ Denotes (items values) said

theorem parsePortPools_cases (b : Builtins) (values : List String) :
    (∃ said ports, parsePortPools b values = .ok ports ∧ Says values said ∧
        Lists said.flatten ports) ∨
      ((∃ message, parsePortPools b values = .error (.config message)) ∧
        (items values = [] ∨ ∃ item ∈ items values, ∀ ports, ¬ Denotes item ports)) := by
  rw [parsePortPools_eq]
  rcases mapM_candidates_cases (b := b) (items values) with
    ⟨said, hok, hall⟩ | ⟨⟨message, herror⟩, hno⟩
  · rw [hok]
    have hlists := @lists_foldl_add [] said.flatten .empty .nil
    rw [List.nil_append] at hlists
    by_cases hnone : items values = []
    · rw [hnone] at hall
      cases hall
      exact .inr ⟨⟨_, rfl⟩, .inl hnone⟩
    · refine .inl ⟨said, _, if_neg ?_, ⟨hnone, hall⟩, hlists⟩
      intro hports
      obtain ⟨item, its, hits⟩ := List.exists_cons_of_ne_nil hnone
      rw [hits] at hall
      cases hall with
      | @cons _ ports _ said hfirst hrest =>
          obtain ⟨p, hp⟩ := List.exists_mem_of_ne_nil _ hfirst.ne_nil
          have hmem := (hlists.mem_iff p).mpr (List.mem_append_left _ hp)
          rw [hports] at hmem
          cases hmem
  · rw [herror]
    exact .inr ⟨⟨message, rfl⟩, .inr hno⟩

theorem forall₂_unique {its : List String} {said others : List (List Int)}
    (h : List.Forall₂ Denotes its said) (hother : List.Forall₂ Denotes its others) :
    said = others := by
  induction h generalizing others with
  | nil =>
      cases hother
      rfl
  | cons hfirst hrest ih =>
      cases hother with
      | cons hfirst' hrest' => rw [hfirst.unique hfirst', ih hrest']

theorem exists_of_forall₂ {its : List String} {said : List (List Int)} {item : String}
    (h : List.Forall₂ Denotes its said) (hmem : item ∈ its) : ∃ ports, Denotes item ports := by
  induction h with
  | nil => cases hmem
  | @cons _ ports _ _ hfirst hrest ih =>
      cases hmem with
      | head => exact ⟨ports, hfirst⟩
      | tail _ hmem => exact ih hmem

/-- A pool is parsed if every item says something, and then it has what they say. -/
theorem parsePortPools_eq_ok {values : List String} {ports : List Int} :
    parsePortPools b values = .ok ports ↔ ∃ said, Says values said ∧ Lists said.flatten ports := by
  rcases parsePortPools_cases b values with
    ⟨said, found, hok, hsays, hlists⟩ | ⟨⟨message, herror⟩, hno⟩
  · rw [hok, Except.ok.injEq]
    constructor
    · rintro rfl
      exact ⟨said, hsays, hlists⟩
    · rintro ⟨others, hothers, hports⟩
      rw [forall₂_unique hothers.denotes hsays.denotes] at hports
      exact hlists.unique hports
  · rw [herror]
    refine ⟨fun h => (by cases h), ?_⟩
    rintro ⟨said, hsays, -⟩
    rcases hno with hnone | ⟨item, hmem, hno⟩
    · exact absurd hnone hsays.some_item
    · obtain ⟨ports, hports⟩ := exists_of_forall₂ hsays.denotes hmem
      exact absurd hports (hno ports)

/-! ## Several texts -/

theorem splitComma_intercalate (value : String) (values : List String) :
    splitComma (",".intercalate (value :: values)) = (value :: values).flatMap splitComma := by
  induction values generalizing value with
  | nil => simp
  | cons next values ih =>
      rw [String.intercalate_cons_of_ne_nil (List.cons_ne_nil _ _), List.flatMap_cons, ← ih next]
      have htext : (value ++ "," ++ ",".intercalate (next :: values)).toList =
          value.toList ++ ',' :: (",".intercalate (next :: values)).toList := by
        simp
      unfold splitComma
      rw [htext, List.splitOn_append_cons_self, List.map_append]

theorem items_intercalate (values : List String) :
    items [",".intercalate values] = items values := by
  cases values with
  | nil => decide
  | cons value values => simp only [items, List.flatMap_singleton, splitComma_intercalate]

theorem items_append (values others : List String) :
    items (values ++ others) = items values ++ items others := by
  simp [items]

theorem Says.append {values others : List String} {said said' : List (List Int)}
    (h : Says values said) (h' : Says others said') : Says (values ++ others) (said ++ said') where
  some_item := by
    rw [items_append]
    exact List.append_ne_nil_of_left_ne_nil h.some_item _
  denotes := by
    rw [items_append]
    exact List.rel_append h.denotes h'.denotes

/-- Only the items count: a pool is parsed if there are items and each of them says something,
and then it lists the ports they say. -/
theorem parsePortPools_spec (b : Builtins) (values : List String) :
    (∀ e, parsePortPools b values = .error e → ∃ message, e = .config message) ∧
      ((∃ e, parsePortPools b values = .error e) ↔
        items values = [] ∨ ∃ item ∈ items values, ∀ ports, ¬ Denotes item ports) ∧
      (∀ ports, parsePortPools b values = .ok ports →
        ∃ said, List.Forall₂ Denotes (items values) said ∧ Lists said.flatten ports) ∧
      (∀ others, items others = items values →
        parsePortPools b others = parsePortPools b values) ∧
      parsePortPools b [",".intercalate values] = parsePortPools b values ∧
      ∀ others ps qs, parsePortPools b values = .ok ps → parsePortPools b others = .ok qs →
        parsePortPools b (values ++ others) = .ok (ps ++ qs.filter (· ∉ ps)) := by
  have hitems : ∀ others, items others = items values →
      parsePortPools b others = parsePortPools b values := by
    intro others h
    rw [parsePortPools_eq, parsePortPools_eq, h]
  refine ⟨?_, ?_, ?_, hitems, hitems _ (items_intercalate values), ?_⟩
  · intro e he
    rcases parsePortPools_cases b values with ⟨_, _, hok, -, -⟩ | ⟨⟨message, herror⟩, -⟩
    · cases hok.symm.trans he
    · exact ⟨message, Except.error.inj (he.symm.trans herror)⟩
  · constructor
    · rintro ⟨e, he⟩
      rcases parsePortPools_cases b values with ⟨_, _, hok, -, -⟩ | ⟨-, hno⟩
      · cases hok.symm.trans he
      · exact hno
    · intro hno
      cases hparse : parsePortPools b values with
      | error e => exact ⟨e, rfl⟩
      | ok ports =>
          obtain ⟨said, hsays, -⟩ := parsePortPools_eq_ok.mp hparse
          rcases hno with hnone | ⟨item, hmem, hno⟩
          · exact absurd hnone hsays.some_item
          · obtain ⟨ports, hports⟩ := exists_of_forall₂ hsays.denotes hmem
            exact absurd hports (hno ports)
  · intro ports hparse
    obtain ⟨said, hsays, hlists⟩ := parsePortPools_eq_ok.mp hparse
    exact ⟨said, hsays.denotes, hlists⟩
  · intro others ps qs hps hqs
    obtain ⟨said, hsaid, hp⟩ := parsePortPools_eq_ok.mp hps
    obtain ⟨said', hsaid', hq⟩ := parsePortPools_eq_ok.mp hqs
    refine parsePortPools_eq_ok.mpr ⟨said ++ said', hsaid.append hsaid', ?_⟩
    rw [List.flatten_append]
    exact hp.append hq

end Pool
end PyFrp
