import PyFrp.Config.Documents
import PyFrp.Validation.Checks

/-!
# What the readers of fields make of a value

For each reader of `Config.Fields` the verdict about the value, and the result if
there is one. A `ConfigError` refuses a value. What else is raised escapes: an
infinity has no integer, an integer may be too large for a float or too long for a
text, and a value may be nested too deeply for a text.
-/

namespace PyFrp

open Python Validation

def LoadError.isConfig : LoadError → Bool
  | .config _ => true
  | _ => false

namespace Config

variable {b : Builtins} {α : Type}

/-- What a program of a loader does. -/
abbrev Reads (x : Load α) (vs : List (Verdict LoadError)) (P : α → Prop) : Prop :=
  Follows LoadError.isConfig x vs P

theorem Reads.fail {vs : List (Verdict LoadError)} {P : α → Prop} (text : String) :
    Reads (fail text) (.refused :: vs) P :=
  Follows.error (p := LoadError.isConfig) (e := .config text)

/-! ## Texts -/

section

variable (b : Builtins)

/-- Why `str(value)` fails. -/
def noText (value : Value) : Option LoadError :=
  if b.reprDepth < value.depth then some .recursion
  else if value.hasLongInt then some .value
  else none

def textVerdict (value : Value) : Verdict LoadError :=
  match noText b value with
  | some e => .escapes e
  | none => .fine

/-- A message with the value is raised. -/
def refusal (value : Value) : Verdict LoadError :=
  match noText b value with
  | some e => .escapes e
  | none => .refused

end

theorem noText_of_depth {value : Value} (hdepth : value.depth = 0)
    (hlong : value.hasLongInt = false) : noText b value = none := by
  unfold noText
  rw [hdepth, hlong, if_neg (Nat.not_lt_zero _)]
  rfl

@[simp] theorem noText_str (text : String) : noText b (.str text) = none :=
  noText_of_depth rfl rfl

@[simp] theorem noText_none : noText b .none = none := noText_of_depth rfl rfl

@[simp] theorem noText_bool (value : Bool) : noText b (.bool value) = none :=
  noText_of_depth rfl rfl

theorem str_reads (value : Value) :
    Reads (str b value) [textVerdict b value] (· = value.toStr b.repr) := by
  unfold str textVerdict noText
  split
  · exact Follows.error (p := LoadError.isConfig) (e := .recursion)
  · split
    · exact Follows.error (p := LoadError.isConfig) (e := .value)
    · exact Follows.ok rfl rfl

theorem repr_reads (value : Value) :
    Reads (repr b value) [textVerdict b value] fun _ => True := by
  unfold repr
  split
  · unfold textVerdict
    rw [noText_str]
    exact Follows.ok rfl trivial
  · exact (str_reads value).mono fun _ _ => trivial

/-- A message that shows the value. -/
theorem refuse_reads (value : Value) (message : String → String) {P : α → Prop} :
    Reads (repr b value >>= fun text => fail (message text)) [refusal b value] P := by
  have hfails : Reads (repr b value >>= fun text => fail (message text))
      ([textVerdict b value] ++ [.refused]) P :=
    (repr_reads value).bind fun text _ => Reads.fail (message text)
  refine hfails.congr ?_
  unfold refusal textVerdict
  cases noText b value <;> rfl

/-- The text of a value, with the default for `None`. -/
def textOf (b : Builtins) (value : Value) (default : String) : String :=
  match value with
  | .none => default
  | value => value.toStr b.repr

theorem string_of_ne {value : Value} (h : value ≠ .none) (default : Option String) :
    string b value default = str b value := by
  cases value <;> first | exact absurd rfl h | rfl

theorem textOf_of_ne {value : Value} (h : value ≠ .none) (default : String) :
    textOf b value default = value.toStr b.repr := by
  cases value <;> first | exact absurd rfl h | rfl

theorem string_reads (value : Value) (default : String) :
    Reads (string b value (some default)) [textVerdict b value]
      (· = textOf b value default) := by
  by_cases h : value = .none
  · rw [h, textVerdict, noText_none]
    exact Follows.ok rfl rfl
  · rw [string_of_ne h, textOf_of_ne h]
    exact str_reads value

/-- A text that is required of a value that is there. -/
theorem string_reads_of_ne {value : Value} (h : value ≠ .none) :
    Reads (string b value) [textVerdict b value] (· = value.toStr b.repr) := by
  rw [string_of_ne h]
  exact str_reads value

theorem emptyToNone_ne_empty {value : Option String} {text : String}
    (h : emptyToNone value = some text) : text ≠ "" := by
  unfold emptyToNone at h
  rw [Option.filter_eq_some_iff] at h
  simpa using h.2

theorem stringOrNone_of_ne {value : Value} (h : value ≠ .none) :
    stringOrNone b value = str b value >>= fun text => .ok (emptyToNone (some text)) := by
  cases value <;> first | exact absurd rfl h | rfl

section

variable (b : Builtins)

/-- The text of a value, unless it is empty. -/
def tokenOf (value : Value) : Option String :=
  match value with
  | .none => none
  | value => emptyToNone (some (value.toStr b.repr))

/-- Whether a value says yes, with the default for `None`. -/
def boolOf (value : Value) (default : Bool) : Bool :=
  match value with
  | .none => default
  | .bool x => x
  | value => lower (strip (value.toStr b.repr)) ∈ ["1", "true", "yes", "on"]

end

theorem tokenOf_of_ne {value : Value} (h : value ≠ .none) :
    tokenOf b value = emptyToNone (some (value.toStr b.repr)) := by
  cases value <;> first | exact absurd rfl h | rfl

theorem tokenOf_ne_empty (value : Value) : tokenOf b value ≠ some "" := by
  intro htoken
  by_cases h : value = .none
  · rw [h] at htoken
    cases htoken
  · rw [tokenOf_of_ne h] at htoken
    exact emptyToNone_ne_empty htoken rfl

theorem stringOrNone_reads (value : Value) :
    Reads (stringOrNone b value) [textVerdict b value] (· = tokenOf b value) := by
  by_cases h : value = .none
  · rw [h, textVerdict, noText_none]
    exact Follows.ok rfl rfl
  · rw [stringOrNone_of_ne h, tokenOf_of_ne h]
    refine (str_reads value).bind_ok fun text htext => ?_
    rw [htext]

theorem bool_of_value {value : Value} (hnone : value ≠ .none) (hbool : ∀ x, value ≠ .bool x)
    (default : Bool) : bool b value default = str b value >>= fun text =>
      .ok (decide (lower (strip text) ∈ ["1", "true", "yes", "on"])) := by
  cases value <;> first | exact absurd rfl hnone | exact absurd rfl (hbool _) | rfl

theorem boolOf_of_value {value : Value} (hnone : value ≠ .none) (hbool : ∀ x, value ≠ .bool x)
    (default : Bool) : boolOf b value default =
      decide (lower (strip (value.toStr b.repr)) ∈ ["1", "true", "yes", "on"]) := by
  cases value <;> first | exact absurd rfl hnone | exact absurd rfl (hbool _) | rfl

theorem bool_reads (value : Value) (default : Bool) :
    Reads (bool b value default) [textVerdict b value] (· = boolOf b value default) := by
  by_cases hnone : value = .none
  · rw [hnone, textVerdict, noText_none]
    exact Follows.ok rfl rfl
  · by_cases hbool : ∃ x, value = .bool x
    · obtain ⟨x, rfl⟩ := hbool
      rw [textVerdict, noText_bool]
      exact Follows.ok rfl rfl
    · have hvalue : ∀ x, value ≠ .bool x := fun x hx => hbool ⟨x, hx⟩
      rw [bool_of_value hnone hvalue, boolOf_of_value hnone hvalue]
      refine (str_reads value).bind_ok fun text htext => ?_
      rw [htext]

section

variable (b : Builtins)

/-- `str(value or "").strip()`. -/
def nameText (value : Value) : String := strip (value.strOrEmpty b.repr)

def nameVerdicts (value : Value) : List (Verdict LoadError) :=
  [if value.truthy then textVerdict b value else .fine,
    if nameText b value = "" then .refused else .fine]

end

theorem serviceName_reads (value : Value) :
    Reads (serviceName b value) (nameVerdicts b value) fun name => name ≠ "" := by
  have hname : ∀ text, text = value.strOrEmpty b.repr →
      Reads (if strip text = "" then fail "service/proxy name must not be empty"
        else .ok (strip text)) [if nameText b value = "" then .refused else .fine]
          fun name => name ≠ "" := by
    intro text htext
    unfold nameText
    rw [← htext]
    exact Follows.check rfl fun hne => Follows.ok rfl hne
  unfold serviceName nameVerdicts
  unfold Value.strOrEmpty at hname
  dsimp only
  split
  · rename_i htruthy
    rw [if_pos htruthy] at hname
    exact (str_reads value).bind hname
  · rename_i htruthy
    rw [if_neg htruthy] at hname
    exact Follows.fine (hname "" rfl)

/-! ## Tables -/

def tableOf : Value → Fields
  | .dict mapping => mapping
  | _ => []

/-- The verdict about a table that may be missing if it is `optional`. -/
def tableVerdict (optional : Bool) : Value → Verdict LoadError
  | .dict _ => .fine
  | .none => if optional then .fine else .refused
  | _ => .refused

theorem asMapping_reads (value : Value) :
    Reads (asMapping value) [tableVerdict false value] (· = tableOf value) := by
  cases value with
  | dict mapping => exact Follows.ok rfl rfl
  | none => exact Reads.fail _
  | bool value => exact Reads.fail _
  | int n => exact Reads.fail _
  | float x => exact Reads.fail _
  | str s => exact Reads.fail _
  | list items => exact Reads.fail _

theorem asMapping_reads_optional (value : Value) :
    Reads (asMapping value (some [])) [tableVerdict true value] (· = tableOf value) := by
  cases value with
  | dict mapping => exact Follows.ok rfl rfl
  | none => exact Follows.ok rfl rfl
  | bool value => exact Reads.fail _
  | int n => exact Reads.fail _
  | float x => exact Reads.fail _
  | str s => exact Reads.fail _
  | list items => exact Reads.fail _

theorem requiredMapping_reads (data : Fields) (key : String) :
    Reads (requiredMapping data key) [tableVerdict false (dictGet data key)]
      (· = tableOf (dictGet data key)) := by
  unfold requiredMapping
  cases dictGet data key with
  | dict mapping => exact Follows.ok rfl rfl
  | none => exact Reads.fail _
  | bool value => exact Reads.fail _
  | int n => exact Reads.fail _
  | float x => exact Reads.fail _
  | str s => exact Reads.fail _
  | list items => exact Reads.fail _

def requiredVerdict (value : Value) : Verdict LoadError :=
  if value.isNone then .refused else .fine

theorem requiredAny_reads (mapping : Fields) (keys : List String) :
    Reads (requiredAny mapping keys) [requiredVerdict (getAny mapping keys)]
      fun value => value = getAny mapping keys ∧ value ≠ .none := by
  unfold requiredAny
  cases getAny mapping keys with
  | none => exact Reads.fail _
  | bool value => exact Follows.ok rfl ⟨rfl, nofun⟩
  | int n => exact Follows.ok rfl ⟨rfl, nofun⟩
  | float x => exact Follows.ok rfl ⟨rfl, nofun⟩
  | str s => exact Follows.ok rfl ⟨rfl, nofun⟩
  | list items => exact Follows.ok rfl ⟨rfl, nofun⟩
  | dict entries => exact Follows.ok rfl ⟨rfl, nofun⟩

section

variable (b : Builtins)

def authVerdict (mapping : Fields) : Verdict LoadError :=
  match getAny mapping ["auth"] with
  | .dict auth => textVerdict b (getAny auth ["token"])
  | _ => .fine

/-- The token of the table `auth`. -/
def authOf (mapping : Fields) : Option String :=
  match getAny mapping ["auth"] with
  | .dict auth => tokenOf b (getAny auth ["token"])
  | _ => none

end

@[simp] theorem textVerdict_optional (mapping : Fields) (keys : List String)
    (text : Option String) :
    textVerdict b (getAny mapping keys (optional text)) = textVerdict b (getAny mapping keys) := by
  unfold getAny
  split
  · rfl
  · cases text with
    | none => rfl
    | some text =>
        show textVerdict b (.str text) = textVerdict b .none
        unfold textVerdict
        rw [noText_str, noText_none]

theorem authToken_reads (mapping : Fields) :
    Reads (authToken b mapping) [authVerdict b mapping] (· = authOf b mapping) := by
  unfold authToken authVerdict authOf
  cases getAny mapping ["auth"] with
  | dict auth => exact stringOrNone_reads _
  | none => exact Follows.ok rfl rfl
  | bool value => exact Follows.ok rfl rfl
  | int n => exact Follows.ok rfl rfl
  | float x => exact Follows.ok rfl rfl
  | str s => exact Follows.ok rfl rfl
  | list items => exact Follows.ok rfl rfl

/-! ## Numbers -/

section

variable (b : Builtins)

def intVerdict (value : Value) : Verdict LoadError :=
  match value with
  | .none => .fine
  | value =>
      match value.int? with
      | .ok _ => .fine
      | .error .overflowError => .escapes .overflow
      | .error _ => refusal b value

def portVerdict (allowZero : Bool) (value : Int) : Verdict LoadError :=
  if (if allowZero then 0 else 1) ≤ value ∧ value ≤ 65535 then .fine else refusal b (.int value)

def positiveVerdict (value : Value) : Verdict LoadError :=
  match value with
  | .none => .fine
  | value =>
      match value.float? b.floatOfText with
      | .ok result => if result.nonpositive then refusal b value else .fine
      | .error .overflowError => .escapes .overflow
      | .error _ => refusal b value

end

/-- The integer that is read, with the default for `None`. -/
def intOf (value : Value) (default : Int) : Int :=
  match value with
  | .none => default
  | value => value.int?.toOption.getD default

/-- The number that is read, with the default for `None`. -/
def floatOf (b : Builtins) (value : Value) (default : PyFloat) : PyFloat :=
  match value with
  | .none => default
  | value => (value.float? b.floatOfText).toOption.getD default

theorem int_reads_of_ne (value : Value) (default : Int) :
    Reads (match value.int? with
      | .ok n => .ok n
      | .error .overflowError => .error .overflow
      | .error _ => do fail ("value " ++ (← repr b value) ++ " is not an integer"))
      [match value.int? with
        | .ok _ => .fine
        | .error .overflowError => .escapes .overflow
        | .error _ => refusal b value]
      (· = value.int?.toOption.getD default) := by
  cases value.int? with
  | ok n => exact Follows.ok rfl rfl
  | error e =>
      cases e with
      | overflowError => exact Follows.error (p := LoadError.isConfig) (e := .overflow)
      | typeError => exact refuse_reads value _
      | valueError => exact refuse_reads value _

theorem int_reads (value : Value) (default : Int) :
    Reads (int b value default) [intVerdict b value] (· = intOf value default) := by
  cases value with
  | none => exact Follows.ok rfl rfl
  | bool x => exact int_reads_of_ne (b := b) (.bool x) default
  | int n => exact int_reads_of_ne (b := b) (.int n) default
  | float x => exact int_reads_of_ne (b := b) (.float x) default
  | str s => exact int_reads_of_ne (b := b) (.str s) default
  | list items => exact int_reads_of_ne (b := b) (.list items) default
  | dict entries => exact int_reads_of_ne (b := b) (.dict entries) default

/-- The port is one that can be bound, or connected to. -/
def PortInRange (allowZero : Bool) (value : Int) : Prop :=
  (if allowZero then 0 else 1) ≤ value ∧ value ≤ 65535

theorem port_reads (value : Int) (allowZero : Bool) :
    Reads (port b value allowZero) [portVerdict b allowZero value]
      fun n => n = value ∧ PortInRange allowZero n := by
  unfold port portVerdict
  dsimp only
  by_cases hrange : (if allowZero then (0 : Int) else 1) ≤ value ∧ value ≤ 65535
  · rw [if_pos hrange, if_pos hrange]
    exact Follows.ok rfl ⟨rfl, hrange⟩
  · rw [if_neg hrange, if_neg hrange]
    exact refuse_reads (.int value) _

theorem positiveFloat_reads_of_float (value : Value) (default : PyFloat)
    (x : Except IntError PyFloat) :
    Reads (match x with
      | .ok result =>
          if result.nonpositive then do
            fail ("value " ++ (← repr b value) ++ " must be greater than zero")
          else .ok result
      | .error .overflowError => .error .overflow
      | .error _ => do fail ("value " ++ (← repr b value) ++ " is not a number"))
      [match x with
        | .ok result => if result.nonpositive then refusal b value else .fine
        | .error .overflowError => .escapes .overflow
        | .error _ => refusal b value]
      fun y => y = x.toOption.getD default ∧ y.nonpositive = false := by
  cases x with
  | ok result =>
      dsimp only
      split
      · exact refuse_reads value _
      · rename_i hpositive
        exact Follows.ok rfl ⟨rfl, Bool.eq_false_iff.mpr hpositive⟩
  | error e =>
      cases e with
      | overflowError => exact Follows.error (p := LoadError.isConfig) (e := .overflow)
      | typeError => exact refuse_reads value _
      | valueError => exact refuse_reads value _

theorem positiveFloat_reads (value : Value) {default : PyFloat}
    (hdefault : default.nonpositive = false) :
    Reads (positiveFloat b value default) [positiveVerdict b value]
      fun x => x = floatOf b value default ∧ x.nonpositive = false := by
  cases value
  case none => exact Follows.ok rfl ⟨rfl, hdefault⟩
  all_goals
    unfold positiveFloat positiveVerdict floatOf
    dsimp only
    -- Unification would compute the float of an integer.
    generalize Value.float? b.floatOfText _ = x
    exact positiveFloat_reads_of_float _ default x

/-! ## Addresses -/

/-- The host and the port in the text of an address. -/
def addrParts (text : String) : Option (String × String) :=
  let text := strip text
  if text = "" then none
  else if text.toList.head? = some '[' then bracketed text
  else splitLastColon text

/-- What the text of an address has for the port. -/
def portText (text : String) : String := ((addrParts text).map Prod.snd).getD ""

/-- The host in the text of an address, with the default for an empty one. -/
def hostText (text defaultHost : String) : String :=
  match addrParts text with
  | none => ""
  | some (host, _) => if host = "" then defaultHost else host

def splitVerdict (text : String) : Verdict LoadError :=
  match addrParts text with
  | none => .refused
  | some (_, digits) => if (intOfText digits).isSome then .fine else .refused

theorem refusal_str (text : String) : refusal b (.str text) = .refused := by
  rw [refusal, noText_str]

theorem intVerdict_str (text : String) :
    intVerdict b (.str text) = if (intOfText text).isSome then .fine else .refused := by
  simp only [intVerdict, Value.int?]
  cases intOfText text with
  | none => exact refusal_str text
  | some n => rfl

theorem intOf_str (text : String) (default : Int) :
    intOf (.str text) default = (intOfText text).getD default := by
  simp only [intOf, Value.int?]
  cases intOfText text <;> rfl

theorem intOf_of_text {text : String} {n : Int} (h : intOfText text = some n) (default : Int) :
    intOf (.str text) default = n := by
  rw [intOf_str, h]
  rfl

/-- The number of a text. -/
theorem int_reads_text (text : String) (default : Int) :
    Reads (int b (.str text) default) [if (intOfText text).isSome then .fine else .refused]
      fun n => intOfText text = some n := by
  unfold int
  simp only [Value.int?]
  cases intOfText text with
  | none =>
      rw [← refusal_str (b := b) text]
      exact refuse_reads (.str text) fun shown => "value " ++ shown ++ " is not an integer"
  | some n => exact Follows.ok rfl rfl

theorem bracketed_ne_empty {value host digits : String}
    (h : bracketed value = some (host, digits)) : host ≠ "" := by
  unfold bracketed at h
  split at h
  · dsimp only at h
    split at h
    · split at h
      · rename_i hparts
        cases h
        simpa using hparts.1
      · cases h
    · cases h
  · cases h

theorem splitAddr_reads (text defaultHost : String) :
    Reads (splitAddr b text defaultHost) [splitVerdict text] fun r =>
      r.1 = hostText text defaultHost ∧ intOfText (portText text) = some r.2 := by
  have hport : ∀ host digits : String,
      Reads (int b (.str digits) 0 >>= fun n => .ok (host, n))
        [if (intOfText digits).isSome then .fine else .refused] fun r =>
          r.1 = host ∧ intOfText digits = some r.2 :=
    fun host digits => (int_reads_text digits 0).bind_ok fun _ hn => ⟨rfl, hn⟩
  have hrefused : ∀ message : String → String,
      Reads (repr b (.str (strip text)) >>= fun shown => fail (message shown)) [.refused]
        fun r : String × Int => r.1 = "" ∧ intOfText "" = some r.2 := by
    intro message
    rw [← refusal_str (b := b) (strip text)]
    exact refuse_reads (.str (strip text)) message
  unfold splitAddr splitVerdict portText hostText addrParts
  dsimp only
  split
  · exact Reads.fail _
  · split
    · cases hbracketed : bracketed (strip text) with
      | none => exact hrefused fun shown => "invalid address " ++ shown
      | some parts =>
          have hhost := bracketed_ne_empty hbracketed
          dsimp only
          rw [if_neg hhost]
          exact hport parts.1 parts.2
    · cases splitLastColon (strip text) with
      | none => exact hrefused fun shown => "address " ++ shown ++ " must include a port"
      | some parts => exact hport _ parts.2

section

variable (b : Builtins)

/-- The verdicts about a value that must be an address with a port. -/
def splitVerdicts (addr : Value) : List (Verdict LoadError) :=
  [textVerdict b addr, splitVerdict (addr.toStr b.repr)]

/-- The port of an address. -/
def splitField (addr : Value) : Value := .str (portText (addr.toStr b.repr))

def addrVerdicts (addr : Value) : List (Verdict LoadError) :=
  match addr with
  | .none => []
  | addr =>
      [textVerdict b addr,
        if ':' ∈ (addr.toStr b.repr).toList then splitVerdict (addr.toStr b.repr) else .fine]

/-- Where the port is written: in the address, or in a field of its own. -/
def portField (addr field : Value) : Value :=
  match addr with
  | .none => field
  | addr => if ':' ∈ (addr.toStr b.repr).toList then splitField b addr else field

/-- The host that is read with an address, with the default for `None` and for an empty one
before a port. -/
def hostOf (addr : Value) (defaultHost : String) : String :=
  match addr with
  | .none => defaultHost
  | addr =>
      if ':' ∈ (addr.toStr b.repr).toList then hostText (addr.toStr b.repr) defaultHost
      else addr.toStr b.repr

end

/-- An address with a port in a value that is there. -/
theorem splitAddr_reads_of_ne {addr : Value} (h : addr ≠ .none) (defaultHost : String)
    (default : Int) :
    Reads (string b addr >>= fun text => splitAddr b text defaultHost) (splitVerdicts b addr)
      fun r => r.2 = intOf (splitField b addr) default := by
  refine (string_reads_of_ne h).bind fun text htext => ?_
  subst htext
  exact (splitAddr_reads _ defaultHost).mono fun r hr => (intOf_of_text hr.2 default).symm

/-- Such an address, before the rest of a program. -/
theorem reads_split {addr : Value} (h : addr ≠ .none) (defaultHost : String)
    {k : String × Int → Load α} {vs : List (Verdict LoadError)} {P : α → Prop}
    (hk : ∀ host, Reads (k (host, intOf (splitField b addr) 0)) vs P) :
    Reads (string b addr >>= fun text => splitAddr b text defaultHost >>= k)
      (splitVerdicts b addr ++ vs) P := by
  rw [← bind_assoc]
  refine (splitAddr_reads_of_ne h defaultHost 0).bind ?_
  intro r hr
  obtain ⟨host, n⟩ := r
  have hn : n = intOf (splitField b addr) 0 := hr
  rw [hn]
  exact hk host

theorem addrFromFields_reads_of_ne {addr : Value} (h : addr ≠ .none) (field : Value)
    (defaultHost : String) (default : Int) :
    Reads (string b addr >>= fun text =>
        if ':' ∈ text.toList then splitAddr b text defaultHost
        else .ok (text, intOf field default))
      [textVerdict b addr,
        if ':' ∈ (addr.toStr b.repr).toList then splitVerdict (addr.toStr b.repr) else .fine]
      fun r =>
        r.1 = (if ':' ∈ (addr.toStr b.repr).toList then hostText (addr.toStr b.repr) defaultHost
          else addr.toStr b.repr) ∧
        r.2 = intOf (if ':' ∈ (addr.toStr b.repr).toList then splitField b addr else field)
          default := by
  refine (string_reads_of_ne h).bind fun text htext => ?_
  rw [splitField, ← htext]
  split
  · exact (splitAddr_reads text defaultHost).mono fun r hr =>
      ⟨hr.1, (intOf_of_text hr.2 default).symm⟩
  · exact Follows.ok rfl ⟨rfl, rfl⟩

theorem addrFromFields_reads (addr field : Value) (defaultHost : String) (default : Int) :
    Reads (addrFromFields b addr defaultHost (intOf field default)) (addrVerdicts b addr)
      fun r => r.1 = hostOf b addr defaultHost ∧ r.2 = intOf (portField b addr field) default := by
  cases addr
  case none => exact Follows.ok rfl ⟨rfl, rfl⟩
  all_goals
    refine addrFromFields_reads_of_ne ?_ field defaultHost default
    exact nofun

end Config

end PyFrp
