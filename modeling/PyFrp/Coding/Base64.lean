import Mathlib.Data.List.Basic

/-!
# Base64

Three bytes are four digits of six bits, and the last group is padded. What is
written reads back.
-/

namespace Coding

namespace Base64

def alphabet : List Char :=
  "ABCDEFGHIJKLMNOPQRSTUVWXYZabcdefghijklmnopqrstuvwxyz0123456789+/".toList

def digit (n : Nat) : Char := alphabet.getD n 'A'

def value (c : Char) : Option Nat := if c ∈ alphabet then some (alphabet.idxOf c) else none

def encode : List UInt8 → List Char
  | [] => []
  | [a] => [digit (a.toNat / 4), digit (a.toNat % 4 * 16), '=', '=']
  | [a, b] =>
      [digit (a.toNat / 4), digit (a.toNat % 4 * 16 + b.toNat / 16), digit (b.toNat % 16 * 4), '=']
  | a :: b :: c :: bytes =>
      digit (a.toNat / 4) :: digit (a.toNat % 4 * 16 + b.toNat / 16) ::
        digit (b.toNat % 16 * 4 + c.toNat / 64) :: digit (c.toNat % 64) :: encode bytes

/-- The bytes of the last group, of which `w` and `x` are the first digits. -/
def decodePadded (w x : Nat) (y z : Char) : Option (List UInt8) :=
  if z ≠ '=' then none
  else if y = '=' then some [UInt8.ofNat (w * 4 + x / 16)]
  else (value y).map fun y => [UInt8.ofNat (w * 4 + x / 16), UInt8.ofNat (x % 16 * 16 + y / 4)]

def decode : List Char → Option (List UInt8)
  | [] => some []
  | w :: x :: y :: z :: text =>
      match value w, value x, value y, value z with
      | some w, some x, some y, some z =>
          (decode text).map fun bytes =>
            UInt8.ofNat (w * 4 + x / 16) :: UInt8.ofNat (x % 16 * 16 + y / 4) ::
              UInt8.ofNat (y % 4 * 64 + z) :: bytes
      | some w, some x, _, none => if text = [] then decodePadded w x y z else none
      | _, _, _, _ => none
  | _ => none

set_option maxRecDepth 8000 in
theorem value_digit {n : Nat} (h : n < 64) : value (digit n) = some n := by
  have hall : ∀ n < 64, value (digit n) = some n := by decide
  exact hall n h

set_option maxRecDepth 8000 in
theorem digit_ne_pad {n : Nat} (h : n < 64) : digit n ≠ '=' := by
  have hall : ∀ n < 64, digit n ≠ '=' := by decide
  exact hall n h

theorem value_pad : value '=' = none := by decide

theorem decode_encode (bytes : List UInt8) : decode (encode bytes) = some bytes := by
  induction bytes using encode.induct with
  | case1 => rfl
  | case2 a =>
      have ha : a.toNat < 256 := a.toNat_lt
      have hbyte : a.toNat / 4 * 4 + a.toNat % 4 * 16 / 16 = a.toNat := by omega
      simp only [encode, decode, value_digit (show a.toNat / 4 < 64 by omega),
        value_digit (show a.toNat % 4 * 16 < 64 by omega), value_pad, decodePadded, ne_eq,
        not_true_eq_false, if_false, if_true, hbyte, UInt8.ofNat_toNat]
  | case3 a b =>
      have ha : a.toNat < 256 := a.toNat_lt
      have hb : b.toNat < 256 := b.toNat_lt
      have hfirst : a.toNat / 4 * 4 + (a.toNat % 4 * 16 + b.toNat / 16) / 16 = a.toNat := by omega
      have hsecond : (a.toNat % 4 * 16 + b.toNat / 16) % 16 * 16 + b.toNat % 16 * 4 / 4 =
          b.toNat := by omega
      have hlast : b.toNat % 16 * 4 < 64 := by omega
      simp only [encode, decode, value_digit (show a.toNat / 4 < 64 by omega),
        value_digit (show a.toNat % 4 * 16 + b.toNat / 16 < 64 by omega), value_digit hlast,
        value_pad, decodePadded, digit_ne_pad hlast, ne_eq, not_true_eq_false, if_false, if_true,
        Option.map_some, hfirst, hsecond, UInt8.ofNat_toNat]
  | case4 a b c bytes ih =>
      have ha : a.toNat < 256 := a.toNat_lt
      have hb : b.toNat < 256 := b.toNat_lt
      have hc : c.toNat < 256 := c.toNat_lt
      have hfirst : a.toNat / 4 * 4 + (a.toNat % 4 * 16 + b.toNat / 16) / 16 = a.toNat := by omega
      have hsecond : (a.toNat % 4 * 16 + b.toNat / 16) % 16 * 16 +
          (b.toNat % 16 * 4 + c.toNat / 64) / 4 = b.toNat := by omega
      have hthird : (b.toNat % 16 * 4 + c.toNat / 64) % 4 * 64 + c.toNat % 64 = c.toNat := by omega
      simp only [encode, decode, value_digit (show a.toNat / 4 < 64 by omega),
        value_digit (show a.toNat % 4 * 16 + b.toNat / 16 < 64 by omega),
        value_digit (show b.toNat % 16 * 4 + c.toNat / 64 < 64 by omega),
        value_digit (show c.toNat % 64 < 64 by omega), ih, Option.map_some, hfirst, hsecond, hthird,
        UInt8.ofNat_toNat]

end Base64
end Coding
