import PyFrp.Python.Stream
import PyFrp.Python.Value

/-!
# Compact JSON

The text of `json.dumps(value, ensure_ascii=False, separators=(",", ":"))` and
its bytes. The text of a float stays a parameter, `floatRepr`. Strings are those
that have an encoding: a `String` has no lone surrogates.
-/

namespace Python

/-! ## UTF-8 -/

/-- `text.encode("utf-8")`. -/
def encodeUtf8 (text : List Char) : Bytes := text.flatMap String.utf8EncodeChar

/-- `data.decode("utf-8")`; `none` for its `UnicodeDecodeError`. -/
def decodeUtf8 (data : Bytes) : Option (List Char) :=
  data.toByteArray.utf8Decode?.map Array.toList

theorem decodeUtf8_encodeUtf8 (text : List Char) : decodeUtf8 (encodeUtf8 text) = some text := by
  have h : text.utf8Encode.utf8Decode? = some text.toArray := List.utf8Decode?_utf8Encode
  unfold decodeUtf8 encodeUtf8
  exact (congrArg (Option.map Array.toList) h).trans rfl

theorem newline_mem_utf8EncodeChar {c : Char} (h : newline ∈ String.utf8EncodeChar c) :
    c = '\n' := by
  unfold String.utf8EncodeChar at h
  dsimp only at h
  have hbyte : ∀ n : Nat, newline = UInt8.ofNat n → n % 2 ^ 8 = 10 := fun n hn => by
    simpa [newline] using (congrArg UInt8.toNat hn).symm
  split at h
  · have hn := hbyte _ (List.mem_singleton.mp h)
    refine Char.ext (UInt32.toNat_inj.mp ?_)
    show c.val.toNat = 10
    omega
  · -- all bytes of a longer encoding have the highest bit
    exfalso
    split at h
    · simp only [List.mem_cons, List.not_mem_nil, or_false] at h
      rcases h with h | h <;> have := hbyte _ h <;> omega
    · split at h
      · simp only [List.mem_cons, List.not_mem_nil, or_false] at h
        rcases h with h | h | h <;> have := hbyte _ h <;> omega
      · simp only [List.mem_cons, List.not_mem_nil, or_false] at h
        rcases h with h | h | h | h <;> have := hbyte _ h <;> omega

/-- A text without a line feed is encoded without one. -/
theorem newline_mem_encodeUtf8 {text : List Char} (h : newline ∈ encodeUtf8 text) :
    '\n' ∈ text := by
  obtain ⟨c, hc, hmem⟩ := List.mem_flatMap.mp h
  exact newline_mem_utf8EncodeChar hmem ▸ hc

/-! ## `json.dumps` -/

/-- The characters of a string, escaped. -/
def escapeChar (c : Char) : List Char :=
  if c = '"' then ['\\', '"']
  else if c = '\\' then ['\\', '\\']
  else if c = '\n' then ['\\', 'n']
  else if c = '\r' then ['\\', 'r']
  else if c = '\t' then ['\\', 't']
  else if c.toNat = 0x8 then ['\\', 'b']
  else if c.toNat = 0xc then ['\\', 'f']
  else if c.toNat < 0x20 then
    ['\\', 'u', '0', '0', Nat.digitChar (c.toNat / 16), Nat.digitChar (c.toNat % 16)]
  else [c]

def quote (s : String) : List Char := '"' :: s.toList.flatMap escapeChar ++ ['"']

/-- `str(n)`. -/
def intText (n : Int) : List Char :=
  if n < 0 then '-' :: Nat.toDigits 10 n.natAbs else Nat.toDigits 10 n.natAbs

mutual

def Value.dumps (floatRepr : PyFloat → List Char) : Value → List Char
  | .none => ['n', 'u', 'l', 'l']
  | .bool true => ['t', 'r', 'u', 'e']
  | .bool false => ['f', 'a', 'l', 's', 'e']
  | .int n => intText n
  | .float x => floatRepr x
  | .str s => quote s
  | .list items => '[' :: dumpsItems floatRepr items ++ [']']
  | .dict entries => '{' :: dumpsEntries floatRepr entries ++ ['}']
termination_by structural v => v

def dumpsItems (floatRepr : PyFloat → List Char) : List Value → List Char
  | [] => []
  | [v] => v.dumps floatRepr
  | v :: w :: vs => v.dumps floatRepr ++ ',' :: dumpsItems floatRepr (w :: vs)
termination_by structural vs => vs

def dumpsEntry (floatRepr : PyFloat → List Char) : String × Value → List Char
  | (key, v) => quote key ++ ':' :: v.dumps floatRepr
termination_by structural e => e

def dumpsEntries (floatRepr : PyFloat → List Char) : List (String × Value) → List Char
  | [] => []
  | [e] => dumpsEntry floatRepr e
  | e :: f :: es => dumpsEntry floatRepr e ++ ',' :: dumpsEntries floatRepr (f :: es)
termination_by structural es => es

end

example : (Value.dict [("type", .str "pong"), ("time", .list [.int (-3), .none])]).dumps
    (fun _ => []) = "\x7b\"type\":\"pong\",\"time\":[-3,null]\x7d".toList := by decide

theorem newline_not_mem_escapeChar (c : Char) : '\n' ∉ escapeChar c := by
  have hdigit : ∀ n < 16, Nat.digitChar n ≠ '\n' := by decide
  unfold escapeChar
  repeat' split
  all_goals try decide
  · rename_i hlt
    have h₁ := hdigit (c.toNat / 16) (by omega)
    have h₂ := hdigit (c.toNat % 16) (by omega)
    simp [h₁.symm, h₂.symm]
  · rename_i hnl _ _ _ _ _
    simpa using Ne.symm hnl

theorem newline_not_mem_quote (s : String) : '\n' ∉ quote s := by
  simp [quote, newline_not_mem_escapeChar]

theorem newline_not_mem_intText (n : Int) : '\n' ∉ intText n := by
  have hdigits : '\n' ∉ Nat.toDigits 10 n.natAbs := fun h => by
    have := Nat.isDigit_of_mem_toDigits (by decide) (by decide) h
    exact absurd this (by decide)
  unfold intText
  split <;> simp [hdigits]

/-- Compact JSON is one line. -/
theorem Value.newline_not_mem_dumps {floatRepr : PyFloat → List Char}
    (hfloat : ∀ x, '\n' ∉ floatRepr x) (v : Value) : '\n' ∉ v.dumps floatRepr := by
  refine Value.dumps.induct (fun v => '\n' ∉ v.dumps floatRepr)
    (fun es => '\n' ∉ dumpsEntries floatRepr es) (fun e => '\n' ∉ dumpsEntry floatRepr e)
    (fun vs => '\n' ∉ dumpsItems floatRepr vs) ?_ ?_ ?_ ?_ ?_ ?_ ?_ ?_ ?_ ?_ ?_ ?_ ?_ ?_ ?_ v
  all_goals intros
  all_goals simp_all [Value.dumps, dumpsItems, dumpsEntry, dumpsEntries, newline_not_mem_quote,
    newline_not_mem_intText]

end Python
