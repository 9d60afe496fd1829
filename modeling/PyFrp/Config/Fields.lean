import PyFrp.Client.Client

/-!
# The fields of a configuration (`config.py`)

How the loaders read numbers, texts and addresses. What goes wrong is told by a
`ConfigError`, except where Python raises something else first.
-/

namespace PyFrp

open Python

/-- What a loader raises. -/
inductive LoadError
  | config (text : String)
  | unicodeDecode
  /-- A `configparser.Error`. -/
  | configparser (text : String)
  /-- An `OverflowError`. -/
  | overflow
  /-- A `ValueError` that is none of the above. -/
  | value
  /-- A `RecursionError`. -/
  | recursion

abbrev Load := Except LoadError

/-- The built-ins of Python that are not looked into. -/
structure Builtins where
  repr : Value → String
  /-- `float(text)`; `none` for its `ValueError`. -/
  floatOfText : String → Option PyFloat
  /-- How deep a value may be for `repr` to stay below the recursion limit. -/
  reprDepth : Nat

namespace Config

variable (b : Builtins)

def fail {α : Type} (text : String) : Load α := .error (.config text)

/-- `str(value)`. -/
def str (value : Value) : Load String :=
  if b.reprDepth < value.depth then .error .recursion
  else if value.hasLongInt then .error .value
  else .ok (value.toStr b.repr)

/-- `repr(value)`. -/
def repr (value : Value) : Load String :=
  match value with
  | .str s => .ok (b.repr (.str s))
  | value => str b value

/-! ## Tables -/

/-- `key in mapping`. -/
def hasKey (mapping : Fields) (key : String) : Bool := mapping.any fun e => e.1 = key

def getAny (mapping : Fields) (keys : List String) (default : Value := .none) : Value :=
  match keys.find? (hasKey mapping) with
  | some key => dictGet mapping key
  | none => default

def requiredAny (mapping : Fields) (keys : List String) : Load Value :=
  match getAny mapping keys with
  | .none => fail ("missing required field " ++ "/".intercalate keys)
  | value => .ok value

def asMapping (value : Value) (default : Option Fields := none) : Load Fields :=
  match value, default with
  | .none, some default => .ok default
  | .dict mapping, _ => .ok mapping
  | _, _ => fail "expected a table/object"

def requiredMapping (data : Fields) (key : String) : Load Fields :=
  match dictGet data key with
  | .dict mapping => .ok mapping
  | _ => fail ("configuration requires [" ++ key ++ "] table")

/-! ## Texts -/

def string (value : Value) (default : Option String := none) : Load String :=
  match value, default with
  | .none, none => fail "missing required string value"
  | .none, some default => .ok default
  | value, _ => str b value

def emptyToNone (value : Option String) : Option String :=
  (value.map strip).filter (· ≠ "")

def stringOrNone (value : Value) : Load (Option String) :=
  match value with
  | .none => .ok none
  | value => do return emptyToNone (some (← str b value))

def bool (value : Value) (default : Bool) : Load Bool :=
  match value with
  | .none => .ok default
  | .bool value => .ok value
  | value => do return lower (strip (← str b value)) ∈ ["1", "true", "yes", "on"]

def serviceName (value : Value) : Load String := do
  let name := strip (← if value.truthy then str b value else .ok "")
  if name = "" then fail "service/proxy name must not be empty" else return name

def authToken (mapping : Fields) : Load (Option String) :=
  match getAny mapping ["auth"] with
  | .dict auth => stringOrNone b (getAny auth ["token"])
  | _ => .ok none

/-- A text or `None`, as the default of a field. -/
def optional (value : Option String) : Value := (value.map Value.str).getD .none

/-! ## Numbers -/

def int (value : Value) (default : Int) : Load Int :=
  match value with
  | .none => .ok default
  | value =>
      match value.int? with
      | .ok n => .ok n
      | .error .overflowError => .error .overflow
      | .error _ => do fail ("value " ++ (← repr b value) ++ " is not an integer")

/-- `_port` of an integer. -/
def port (value : Int) (allowZero : Bool) : Load Int :=
  let lower := if allowZero then 0 else 1
  if lower ≤ value ∧ value ≤ 65535 then .ok value
  else do fail ("port " ++ (← repr b (.int value)) ++ " is outside the valid range")

def positiveFloat (value : Value) (default : PyFloat) : Load PyFloat :=
  match value with
  | .none => .ok default
  | value =>
      match value.float? b.floatOfText with
      | .ok result =>
          if result.nonpositive then do
            fail ("value " ++ (← repr b value) ++ " must be greater than zero")
          else .ok result
      | .error .overflowError => .error .overflow
      | .error _ => do fail ("value " ++ (← repr b value) ++ " is not a number")

/-! ## Addresses -/

/-- `re.fullmatch(r"\[([^\]]+)\]:(\d+)", value)`: the host and the digits. -/
def bracketed (value : String) : Option (String × String) :=
  match value.toList with
  | '[' :: rest =>
      let host := rest.takeWhile (· ≠ ']')
      match rest.dropWhile (· ≠ ']') with
      | ']' :: ':' :: digits =>
          if host ≠ [] ∧ digits ≠ [] ∧ digits.all fun c => (decimalDigit c).isSome then
            some (String.ofList host, String.ofList digits)
          else none
      | _ => none
  | _ => none

/-- `value.rsplit(":", 1)`, if there is a colon. -/
def splitLastColon (value : String) : Option (String × String) :=
  let reversed := value.toList.reverse
  match reversed.dropWhile (· ≠ ':') with
  | _ :: host =>
      some (String.ofList host.reverse, String.ofList (reversed.takeWhile (· ≠ ':')).reverse)
  | [] => none

def splitAddr (value defaultHost : String) : Load (String × Int) :=
  let value := strip value
  if value = "" then fail "address must not be empty"
  else if value.toList.head? = some '[' then
    match bracketed value with
    | some (host, portText) => do return (host, ← int b (.str portText) 0)
    | none => do fail ("invalid address " ++ (← repr b (.str value)))
  else
    match splitLastColon value with
    | some (host, portText) => do
        return (if host = "" then defaultHost else host, ← int b (.str portText) 0)
    | none => do fail ("address " ++ (← repr b (.str value)) ++ " must include a port")

def addrFromFields (addr : Value) (defaultHost : String) (defaultPort : Int) :
    Load (String × Int) :=
  match addr with
  | .none => .ok (defaultHost, defaultPort)
  | addr => do
      let text ← string b addr
      if ':' ∈ text.toList then splitAddr b text defaultHost else return (text, defaultPort)

end Config

end PyFrp
