import Mathlib.Data.List.Basic

/-!
# Prefix codes

A code is prefix-free if no code word is empty or a prefix of another one. A
sequence of code words can then be cut off anywhere: what arrives determines
the messages that arrived, and they are the first ones of the sequence.
-/

namespace Coding

variable {α β : Type}

/-- `enc` is a prefix code on the messages that are `ok`. -/
structure PrefixCode (enc : α → List β) (ok : α → Prop) : Prop where
  nonempty : ∀ {a}, ok a → enc a ≠ []
  free : ∀ {a b}, ok a → ok b → enc a <+: enc b → a = b

namespace PrefixCode

variable {enc : α → List β} {ok : α → Prop}

/-- Two code words at the head of one text are the same. -/
theorem head_eq (hc : PrefixCode enc ok) {a b : α} {text : List β} (ha : ok a) (hb : ok b)
    (h₁ : enc a <+: text) (h₂ : enc b <+: text) : a = b := by
  rcases List.prefix_or_prefix_of_prefix h₁ h₂ with h | h
  · exact hc.free ha hb h
  · exact (hc.free hb ha h).symm

/-- The messages of a prefix of an encoding are the first ones of the encoding. -/
theorem prefix_of_flatMap (hc : PrefixCode enc ok) {xs ys : List α} (hx : ∀ a ∈ xs, ok a)
    (hy : ∀ a ∈ ys, ok a) (h : xs.flatMap enc <+: ys.flatMap enc) : xs <+: ys := by
  induction xs generalizing ys with
  | nil => exact List.nil_prefix
  | cons x xs ih =>
      have hword : enc x <+: ys.flatMap enc := by
        rw [List.flatMap_cons] at h
        exact (List.prefix_append _ _).trans h
      cases ys with
      | nil => exact absurd (List.prefix_nil.mp hword) (hc.nonempty (hx x (.head _)))
      | cons y ys =>
          have hxy : x = y :=
            hc.head_eq (hx x (.head _)) (hy y (.head _)) hword (List.prefix_append _ _)
          subst hxy
          rw [List.flatMap_cons, List.flatMap_cons, List.prefix_append_right_inj] at h
          exact (List.prefix_cons_inj x).mpr
            (ih (fun a ha => hx a (.tail _ ha)) (fun a ha => hy a (.tail _ ha)) h)

/-- What follows the messages that arrived is the beginning of the encoding of the others. -/
theorem rest_of_flatMap (hc : PrefixCode enc ok) {xs ys : List α} {rest : List β}
    (hx : ∀ a ∈ xs, ok a) (hy : ∀ a ∈ ys, ok a) (h : xs.flatMap enc ++ rest <+: ys.flatMap enc) :
    ∃ zs, ys = xs ++ zs ∧ rest <+: zs.flatMap enc := by
  obtain ⟨zs, rfl⟩ := hc.prefix_of_flatMap hx hy ((List.prefix_append _ _).trans h)
  rw [List.flatMap_append, List.prefix_append_right_inj] at h
  exact ⟨zs, rfl, h⟩

end PrefixCode

/-! ## Texts that begin with code words -/

/-- The longest sequence of code words at the beginning of a text, and what follows it. -/
structure Parsed (enc : α → List β) (ok : α → Prop) (text : List β) (xs : List α)
    (rest : List β) : Prop where
  text_eq : text = xs.flatMap enc ++ rest
  valid : ∀ a ∈ xs, ok a
  longest : ∀ a, ok a → ¬ enc a <+: rest

namespace Parsed

variable {enc : α → List β} {ok : α → Prop} {text rest : List β} {xs : List α}

/-- Every other sequence at the beginning of the text is shorter. -/
theorem prefix_of_flatMap (hc : PrefixCode enc ok) (h : Parsed enc ok text xs rest)
    {ys : List α} (hy : ∀ a ∈ ys, ok a) (hbegin : ys.flatMap enc <+: text) : ys <+: xs := by
  obtain ⟨rfl, hx, hlongest⟩ := h
  induction ys generalizing xs with
  | nil => exact List.nil_prefix
  | cons y ys ih =>
      have hok : ok y := hy y (.head _)
      rw [List.flatMap_cons] at hbegin
      have hword : enc y <+: xs.flatMap enc ++ rest := (List.prefix_append _ _).trans hbegin
      cases xs with
      | nil => exact absurd hword (hlongest y hok)
      | cons x xs =>
          rw [List.flatMap_cons, List.append_assoc] at hbegin hword
          have hxy : y = x :=
            hc.head_eq hok (hx x (.head _)) hword (List.prefix_append _ _)
          subst hxy
          rw [List.prefix_append_right_inj] at hbegin
          exact (List.prefix_cons_inj y).mpr
            (ih (fun a ha => hy a (.tail _ ha)) (fun a ha => hx a (.tail _ ha)) hbegin)

theorem unique (hc : PrefixCode enc ok) (h : Parsed enc ok text xs rest) {ys : List α}
    {rest' : List β} (h' : Parsed enc ok text ys rest') : xs = ys ∧ rest = rest' := by
  have hxy : xs <+: ys :=
    h'.prefix_of_flatMap hc h.valid (h.text_eq ▸ List.prefix_append _ _)
  have hyx : ys <+: xs :=
    h.prefix_of_flatMap hc h'.valid (h'.text_eq ▸ List.prefix_append _ _)
  have heq : xs = ys := hxy.eq_of_length (Nat.le_antisymm hxy.length_le hyx.length_le)
  subst heq
  exact ⟨rfl, List.append_cancel_left (h.text_eq.symm.trans h'.text_eq)⟩

end Parsed

/-- Every text has such a sequence. -/
theorem PrefixCode.exists_parsed {enc : α → List β} {ok : α → Prop} (hc : PrefixCode enc ok)
    (text : List β) : ∃ xs rest, Parsed enc ok text xs rest := by
  induction hn : text.length using Nat.strongRecOn generalizing text with
  | ind n ih =>
      by_cases hword : ∃ a, ok a ∧ enc a <+: text
      · obtain ⟨a, ha, tail, rfl⟩ := hword
        have hpos := List.length_pos_iff.mpr (hc.nonempty ha)
        rw [List.length_append] at hn
        obtain ⟨xs, rest, htext, hvalid, hlongest⟩ := ih tail.length (by omega) tail rfl
        refine ⟨a :: xs, rest, ?_, ?_, hlongest⟩
        · rw [List.flatMap_cons, List.append_assoc, ← htext]
        · exact List.forall_mem_cons.mpr ⟨ha, hvalid⟩
      · exact ⟨[], text, rfl, nofun, fun a ha hbegin => hword ⟨a, ha, hbegin⟩⟩

end Coding
