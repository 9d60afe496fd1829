import Mathlib.Data.List.Flatten

/-!
# Bytes in hexadecimal

Two capital digits a byte, the high one first. What is written reads back.
-/

namespace Coding

def hexDigits : List Char := "0123456789ABCDEF".toList

def hexDigit (n : Nat) : Char := hexDigits.getD n '0'

def hexValue (digit : Char) : Nat := hexDigits.idxOf digit

def hexByte (byte : UInt8) : List Char := [hexDigit (byte.toNat / 16), hexDigit (byte.toNat % 16)]

/-- The bytes of an even number of digits. -/
def fromHex : List Char → List UInt8
  | high :: low :: digits =>
      UInt8.ofNat (16 * hexValue high + hexValue low) :: fromHex digits
  | _ => []

theorem hexDigit_mem {n : Nat} (h : n < 16) : hexDigit n ∈ hexDigits := by
  have hall : ∀ n < 16, hexDigit n ∈ hexDigits := by decide
  exact hall n h

theorem hexValue_hexDigit {n : Nat} (h : n < 16) : hexValue (hexDigit n) = n := by
  have hall : ∀ n < 16, hexValue (hexDigit n) = n := by decide
  exact hall n h

theorem mem_hexDigits_of_mem_hexByte {byte : UInt8} {c : Char} (h : c ∈ hexByte byte) :
    c ∈ hexDigits := by
  have hlt : byte.toNat < 256 := byte.toNat_lt
  simp only [hexByte, List.mem_cons, List.not_mem_nil, or_false] at h
  rcases h with rfl | rfl
  · exact hexDigit_mem (by omega)
  · exact hexDigit_mem (by omega)

theorem length_flatMap_hexByte (bytes : List UInt8) :
    (bytes.flatMap hexByte).length = 2 * bytes.length := by
  induction bytes with
  | nil => rfl
  | cons byte bytes ih =>
      rw [List.flatMap_cons, List.length_append, ih, List.length_cons]
      simp only [hexByte, List.length_cons, List.length_nil]
      omega

theorem fromHex_flatMap_hexByte (bytes : List UInt8) :
    fromHex (bytes.flatMap hexByte) = bytes := by
  induction bytes with
  | nil => rfl
  | cons byte bytes ih =>
      have hlt : byte.toNat < 256 := byte.toNat_lt
      have hbyte : 16 * (byte.toNat / 16) + byte.toNat % 16 = byte.toNat := by omega
      simp only [List.flatMap_cons, hexByte, List.cons_append, List.nil_append, fromHex]
      rw [hexValue_hexDigit (by omega), hexValue_hexDigit (by omega), hbyte, ih, UInt8.ofNat_toNat]

end Coding
