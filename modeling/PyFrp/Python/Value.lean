import Mathlib.Data.Rat.Floor

/-!
# Python values

The values `json.loads` produces, and the built-ins the program applies to
them. `repr` stands for the text Python gives to a float, a list or a dict;
the program never looks into it, so it stays a parameter.
-/

namespace Python

/-- A float. The finite ones are taken as exact rationals. -/
inductive PyFloat
  | finite (q : Rat)
  | infinite (negative : Bool)
  | nan
  deriving DecidableEq

/-- A decoded JSON value. The keys of a dict are unique. -/
inductive Value
  | none
  | bool (b : Bool)
  | int (n : Int)
  | float (x : PyFloat)
  | str (s : String)
  | list (items : List Value)
  | dict (entries : List (String × Value))

/-- The entries of a dict, as the callers of `message.get` see them. -/
abbrev Fields := List (String × Value)

/-- `fields.get(key)`. -/
def dictGet (fields : Fields) (key : String) : Value :=
  match fields.find? (fun e => e.1 = key) with
  | some e => e.2
  | Option.none => .none

namespace Value

/-- `bool(value)`. -/
def truthy : Value → Bool
  | .none => false
  | .bool b => b
  | .int n => n ≠ 0
  | .float (.finite q) => q ≠ 0
  | .float _ => true
  | .str s => s ≠ ""
  | .list items => !items.isEmpty
  | .dict entries => !entries.isEmpty

/-- `value is None`. -/
def isNone : Value → Bool
  | .none => true
  | _ => false

/-- `value is True`. -/
def isTrue : Value → Bool
  | .bool b => b
  | _ => false

/-- `value == text` for a string `text`. -/
def isText (text : String) : Value → Bool
  | .str s => s = text
  | _ => false

/-- `str(value)`. -/
def toStr (repr : Value → String) : Value → String
  | .none => "None"
  | .bool true => "True"
  | .bool false => "False"
  | .int n => toString n
  | .str s => s
  | v => repr v

/-- `str(value or "")`. -/
def strOrEmpty (repr : Value → String) (v : Value) : String :=
  if v.truthy then v.toStr repr else ""

@[simp] theorem strOrEmpty_str (repr : Value → String) (s : String) :
    (Value.str s).strOrEmpty repr = s := by
  by_cases hs : s = "" <;> simp [strOrEmpty, truthy, toStr, hs]

end Value

/-! ## Text -/

/-- `char.isspace()`. -/
def isSpace (c : Char) : Bool :=
  c.toNat ∈ [0x9, 0xa, 0xb, 0xc, 0xd, 0x1c, 0x1d, 0x1e, 0x1f, 0x20, 0x85, 0xa0, 0x1680,
    0x2000, 0x2001, 0x2002, 0x2003, 0x2004, 0x2005, 0x2006, 0x2007, 0x2008, 0x2009, 0x200a,
    0x2028, 0x2029, 0x202f, 0x205f, 0x3000]

/-- Drop the characters of class `p` at both ends. -/
def stripChars (p : Char → Bool) (cs : List Char) : List Char :=
  ((cs.dropWhile p).reverse.dropWhile p).reverse

/-- `text.strip()`. -/
def strip (text : String) : String := String.ofList (stripChars isSpace text.toList)

/-- The capitals of a character. Where they are not all ASCII they are not
looked at, and the character stands for them. -/
def upperChar : Char → List Char
  | 'ß' => ['S', 'S']
  | 'ı' => ['I']
  | 'ſ' => ['S']
  | 'ﬀ' => ['F', 'F']
  | 'ﬁ' => ['F', 'I']
  | 'ﬂ' => ['F', 'L']
  | 'ﬃ' => ['F', 'F', 'I']
  | 'ﬄ' => ['F', 'F', 'L']
  | 'ﬅ' => ['S', 'T']
  | 'ﬆ' => ['S', 'T']
  | c => [c.toUpper]

/-- `text.upper()`. -/
def upper (text : String) : String := String.ofList (text.toList.flatMap upperChar)

/-- `text.lower()`. A capital that is not ASCII is not looked at, and stands for itself. -/
def lower (text : String) : String := String.ofList (text.toList.map Char.toLower)

theorem stripChars_eq_self {p : Char → Bool} {cs : List Char} (h : ∀ c ∈ cs, p c = false) :
    stripChars p cs = cs := by
  have hdrop : ∀ cs : List Char, (∀ c ∈ cs, p c = false) → cs.dropWhile p = cs := by
    intro cs hcs
    cases cs with
    | nil => rfl
    | cons c cs => exact List.dropWhile_cons_of_neg (by simp [hcs c (.head _)])
  have hreverse : ∀ c ∈ cs.reverse, p c = false := fun c hc => h c (List.mem_reverse.mp hc)
  rw [stripChars, hdrop _ h, hdrop _ hreverse, List.reverse_reverse]

theorem strip_eq_self {text : String} (h : ∀ c ∈ text.toList, isSpace c = false) :
    strip text = text := by
  rw [strip, stripChars_eq_self h, String.ofList_toList]

theorem upper_eq_self {text : String} (h : ∀ c ∈ text.toList, upperChar c = [c]) :
    upper text = text := by
  have hself : text.toList.flatMap upperChar = text.toList := by
    rw [List.flatMap_congr h, List.flatMap_singleton']
  rw [upper, hself, String.ofList_toList]

/-- The code points of the digit zero in each decimal system of Unicode. -/
def decimalZeros : List Nat :=
  [0x30, 0x660, 0x6f0, 0x7c0, 0x966, 0x9e6, 0xa66, 0xae6, 0xb66, 0xbe6, 0xc66, 0xce6,
    0xd66, 0xde6, 0xe50, 0xed0, 0xf20, 0x1040, 0x1090, 0x17e0, 0x1810, 0x1946, 0x19d0,
    0x1a80, 0x1a90, 0x1b50, 0x1bb0, 0x1c40, 0x1c50, 0xa620, 0xa8d0, 0xa900, 0xa9d0, 0xa9f0,
    0xaa50, 0xabf0, 0xff10, 0x104a0, 0x10d30, 0x11066, 0x110f0, 0x11136, 0x111d0, 0x112f0,
    0x11450, 0x114d0, 0x11650, 0x116c0, 0x11730, 0x118e0, 0x11950, 0x11c50, 0x11d50,
    0x11da0, 0x16a60, 0x16ac0, 0x16b50, 0x1d7ce, 0x1d7d8, 0x1d7e2, 0x1d7ec, 0x1d7f6,
    0x1e140, 0x1e2f0, 0x1e950, 0x1fbf0]

def decimalDigit (c : Char) : Option Nat :=
  (decimalZeros.find? fun z => z ≤ c.toNat ∧ c.toNat < z + 10).map fun z => c.toNat - z

/-- Digits with single underscores between them; `afterDigit` says whether the
last character read was a digit. -/
def digits (acc : Nat) (afterDigit : Bool) : List Char → Option Nat
  | [] => if afterDigit then some acc else none
  | '_' :: cs => if afterDigit then digits acc false cs else none
  | c :: cs => (decimalDigit c).bind fun d => digits (10 * acc + d) true cs

/-- The digits `int` accepts of a text, `sys.get_int_max_str_digits()`. -/
def intMaxStrDigits : Nat := 4300

/-- `int(text)`; `none` for its `ValueError`. The separators 0x1c to 0x1f are
white space to `strip` but not to `int`. -/
def intOfText (text : String) : Option Int :=
  let cs := stripChars (fun c => isSpace c && !(0x1c ≤ c.toNat && c.toNat ≤ 0x1f)) text.toList
  let magnitude (cs : List Char) : Option Nat :=
    if intMaxStrDigits < (cs.filter (· ≠ '_')).length then none else digits 0 false cs
  match cs with
  | '+' :: cs => (magnitude cs).map Int.ofNat
  | '-' :: cs => (magnitude cs).map fun n => -(n : Int)
  | cs => (magnitude cs).map Int.ofNat

/-- What `int(value)` raises. -/
inductive IntError
  | typeError
  | valueError
  | overflowError
  deriving DecidableEq

/-- `int(value)`. A float is cut off toward zero. -/
def Value.int? : Value → Except IntError Int
  | .bool b => .ok (if b then 1 else 0)
  | .int n => .ok n
  | .float (.finite q) => .ok (if 0 ≤ q then ⌊q⌋ else ⌈q⌉)
  | .float (.infinite _) => .error .overflowError
  | .float .nan => .error .valueError
  | .str s => match intOfText s with
    | some n => .ok n
    | Option.none => .error .valueError
  | _ => .error .typeError

/-- The nearest of the integers that have 53 significant bits, and of two the even one. -/
def roundToFloat (n : Nat) : Nat :=
  let unit := 2 ^ (n.log2 + 1 - 53)
  let q := n / unit
  let twice := 2 * (n % unit)
  if unit < twice ∨ (twice = unit ∧ q % 2 = 1) then (q + 1) * unit else q * unit

/-- `float(value)`, for the float of a text `floatOfText`. -/
def Value.float? (floatOfText : String → Option PyFloat) : Value → Except IntError PyFloat
  | .bool b => .ok (.finite (if b then 1 else 0))
  | .int n =>
      let magnitude := roundToFloat n.natAbs
      if 2 ^ 1024 ≤ magnitude then .error .overflowError
      else .ok (.finite (if n < 0 then -(magnitude : Rat) else magnitude))
  | .float x => .ok x
  | .str s => match floatOfText s with
    | some x => .ok x
    | Option.none => .error .valueError
  | _ => .error .typeError

/-- `x <= 0`. -/
def PyFloat.nonpositive : PyFloat → Bool
  | .finite q => q ≤ 0
  | .infinite negative => negative
  | .nan => false

/-! ## Integers that have no text -/

/-- `str(n)` raises `ValueError`. -/
def intTooLong (n : Int) : Bool := intMaxStrDigits < (Nat.toDigits 10 n.natAbs).length

theorem decimalDigit_lt {c : Char} {d : Nat} (h : decimalDigit c = some d) : d < 10 := by
  obtain ⟨z, hz, rfl⟩ := Option.map_eq_some_iff.mp h
  have hrange := List.find?_some hz
  simp only [Bool.decide_and, Bool.and_eq_true, decide_eq_true_eq] at hrange
  omega

/-- Digits are a number with no more digits. -/
theorem digits_lt : ∀ {cs : List Char} {acc : Nat} {afterDigit : Bool} {n : Nat},
    digits acc afterDigit cs = some n → n < (acc + 1) * 10 ^ (cs.filter (· ≠ '_')).length
  | [], acc, afterDigit, n, h => by
      unfold digits at h
      split at h
      · cases h
        simp
      · cases h
  | c :: cs, acc, afterDigit, n, h => by
      by_cases hc : c = '_'
      · subst hc
        simp only [digits] at h
        split at h
        · simpa using digits_lt h
        · cases h
      · have hdigits : digits acc afterDigit (c :: cs) =
            (decimalDigit c).bind fun d => digits (10 * acc + d) true cs := by
          rw [digits.eq_def]
          split
          · rename_i heq
            cases heq
          · rename_i heq
            cases heq
            exact absurd rfl hc
          · rename_i heq
            cases heq
            rfl
        rw [hdigits] at h
        obtain ⟨d, hd, hrest⟩ := Option.bind_eq_some_iff.mp h
        have hlt := digits_lt hrest
        have hdigit := decimalDigit_lt hd
        have hlength : ((c :: cs).filter (· ≠ '_')).length =
            (cs.filter (· ≠ '_')).length + 1 := by simp [hc]
        rw [hlength, pow_succ]
        calc n < (10 * acc + d + 1) * 10 ^ (cs.filter (· ≠ '_')).length := hlt
          _ ≤ (10 * (acc + 1)) * 10 ^ (cs.filter (· ≠ '_')).length :=
              Nat.mul_le_mul_right _ (by omega)
          _ = (acc + 1) * (10 ^ (cs.filter (· ≠ '_')).length * 10) := by ring

/-- A number that is read from a text can be shown. -/
theorem intTooLong_of_text {text : String} {n : Int} (h : intOfText text = some n) :
    intTooLong n = false := by
  have hmagnitude : ∀ (cs : List Char) (m : Nat),
      (if intMaxStrDigits < (cs.filter (· ≠ '_')).length then none
        else digits 0 false cs) = some m → (Nat.toDigits 10 m).length ≤ intMaxStrDigits := by
    intro cs m hm
    split at hm
    · cases hm
    · rename_i hlength
      have hlt := digits_lt hm
      rw [Nat.zero_add, one_mul] at hlt
      refine (Nat.length_toDigits_le_iff (by decide) (by decide)).mpr (hlt.trans_le ?_)
      exact Nat.pow_le_pow_right (by decide) (not_lt.mp hlength)
  unfold intTooLong
  rw [decide_eq_false_iff_not, not_lt]
  unfold intOfText at h
  dsimp only at h
  split at h
  · obtain ⟨m, hm, rfl⟩ := Option.map_eq_some_iff.mp h
    exact hmagnitude _ m hm
  · obtain ⟨m, hm, rfl⟩ := Option.map_eq_some_iff.mp h
    simp only [Option.pure_def, Option.bind_eq_bind, Option.bind_eq_some_iff,
      Option.some.injEq] at hm
    obtain ⟨m, hm, rfl⟩ := hm
    rw [Int.natAbs_neg]
    exact hmagnitude _ m hm
  · obtain ⟨m, hm, rfl⟩ := Option.map_eq_some_iff.mp h
    exact hmagnitude _ m hm

mutual

/-- `str(value)` and `repr(value)` raise `ValueError`. -/
def Value.hasLongInt : Value → Bool
  | .int n => intTooLong n
  | .list items => anyLongInt items
  | .dict entries => anyEntryLongInt entries
  | _ => false
termination_by structural v => v

def anyLongInt : List Value → Bool
  | [] => false
  | v :: vs => v.hasLongInt || anyLongInt vs
termination_by structural vs => vs

def entryHasLongInt : String × Value → Bool
  | (_, v) => v.hasLongInt
termination_by structural e => e

def anyEntryLongInt : List (String × Value) → Bool
  | [] => false
  | e :: es => entryHasLongInt e || anyEntryLongInt es
termination_by structural es => es

end

/-! ## Nesting -/

mutual

/-- How deeply lists and dicts are nested in a value. -/
def Value.depth : Value → Nat
  | .list items => depthOfItems items + 1
  | .dict entries => depthOfEntries entries + 1
  | _ => 0
termination_by structural v => v

def depthOfItems : List Value → Nat
  | [] => 0
  | v :: vs => max v.depth (depthOfItems vs)
termination_by structural vs => vs

def depthOfEntry : String × Value → Nat
  | (_, v) => v.depth
termination_by structural e => e

def depthOfEntries : List (String × Value) → Nat
  | [] => 0
  | e :: es => max (depthOfEntry e) (depthOfEntries es)
termination_by structural es => es

end

example : roundToFloat 9007199254740993 = 9007199254740992 := by decide

example : intOfText " -6_000\n" = some (-6000) := by decide

end Python
