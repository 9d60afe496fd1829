import Mathlib.Data.List.TakeWhile
import PyFrp.Python.Value

/-!
# Numerals

What `int` makes of the text of a number, and of a text with a hyphen in it.
-/

namespace Python

theorem decimalDigit_digitChar {d : Nat} (h : d < 10) :
    decimalDigit (Nat.digitChar d) = some d := by
  have hall : ∀ d < 10, decimalDigit (Nat.digitChar d) = some d := by decide
  exact hall d h

theorem isSome_decimalDigit {c : Char} (h : c.isDigit = true) : (decimalDigit c).isSome = true := by
  obtain ⟨hlow, hhigh⟩ := Char.isDigit_iff_toNat.mp h
  rw [decimalDigit, Option.isSome_map, List.find?_isSome]
  exact ⟨0x30, .head _, decide_eq_true ⟨hlow, Nat.lt_succ_of_le hhigh⟩⟩

/-- One more digit at the end of a numeral. -/
theorem digits_append {cs : List Char} {acc n d : Nat} {afterDigit : Bool} {c : Char}
    (h : digits acc afterDigit cs = some n) (hc : decimalDigit c = some d) :
    digits acc afterDigit (cs ++ [c]) = some (10 * n + d) := by
  have hne : c ≠ '_' := by
    rintro rfl
    cases hc
  induction cs generalizing acc afterDigit with
  | nil =>
      unfold digits at h
      split at h
      · cases h
        simp [digits, hc]
      · cases h
  | cons x cs ih =>
      by_cases hx : x = '_'
      · subst hx
        simp only [List.cons_append, digits] at h ⊢
        split at h
        · rename_i hafter
          rw [if_pos hafter]
          exact ih h
        · cases h
      · simp only [List.cons_append, digits] at h ⊢
        obtain ⟨d', hd', hrest⟩ := Option.bind_eq_some_iff.mp h
        rw [hd']
        exact ih hrest

theorem digits_toDigits (n : Nat) : digits 0 false (Nat.toDigits 10 n) = some n := by
  induction n using Nat.strongRecOn with
  | ind n ih =>
      rw [Nat.toDigits_eq_if (by decide)]
      split
      · rename_i hlt
        simp [digits, decimalDigit_digitChar hlt]
      · rename_i hge
        have hrest := ih (n / 10) (by omega)
        rw [digits_append hrest (decimalDigit_digitChar (Nat.mod_lt n (by decide)))]
        congr 1
        omega

theorem isSpace_of_isDigit {c : Char} (h : c.isDigit = true) : isSpace c = false := by
  obtain ⟨hlow, hhigh⟩ := Char.isDigit_iff_toNat.mp h
  have hlow : 48 ≤ c.toNat := hlow
  have hhigh : c.toNat ≤ 57 := hhigh
  simp only [isSpace, List.mem_cons, List.not_mem_nil, or_false, decide_eq_false_iff_not]
  omega

/-- The text of a number that is not too long reads back. -/
theorem intOfText_toString {n : Nat} (h : intTooLong n = false) :
    intOfText (toString n) = some (n : Int) := by
  have hdigit : ∀ c ∈ Nat.toDigits 10 n, c.isDigit = true :=
    fun c hc => Nat.isDigit_of_mem_toDigits (by decide) (by decide) hc
  have htext : (toString n).toList = Nat.toDigits 10 n := by
    rw [Nat.toString_eq_ofList_toDigits, String.toList_ofList]
  have hstrip : stripChars (fun c => isSpace c && !(0x1c ≤ c.toNat && c.toNat ≤ 0x1f))
      (Nat.toDigits 10 n) = Nat.toDigits 10 n := by
    refine stripChars_eq_self fun c hc => ?_
    rw [isSpace_of_isDigit (hdigit c hc), Bool.false_and]
  have hlength : ((Nat.toDigits 10 n).filter (· ≠ '_')).length ≤ intMaxStrDigits := by
    simp only [intTooLong, decide_eq_false_iff_not, not_lt, Int.natAbs_natCast] at h
    exact (List.length_filter_le _ _).trans h
  unfold intOfText
  rw [htext, hstrip]
  dsimp only
  split
  · rename_i cs heq
    exact absurd (hdigit '+' (heq ▸ .head _)) (by decide)
  · rename_i cs heq
    exact absurd (hdigit '-' (heq ▸ .head _)) (by decide)
  · rw [if_neg (not_lt.mpr hlength), digits_toDigits]
    rfl

/-! ## Hyphens -/

theorem hyphen_not_mem_of_digits {cs : List Char} {acc n : Nat} {afterDigit : Bool}
    (h : digits acc afterDigit cs = some n) : '-' ∉ cs := by
  induction cs generalizing acc afterDigit with
  | nil => exact List.not_mem_nil
  | cons x cs ih =>
      by_cases hx : x = '_'
      · subst hx
        simp only [digits] at h
        split at h
        · simpa using ih h
        · cases h
      · simp only [digits] at h
        obtain ⟨d, hd, hrest⟩ := Option.bind_eq_some_iff.mp h
        intro hmem
        rcases List.mem_cons.mp hmem with rfl | hmem
        · cases hd
        · exact ih hrest hmem

/-- Stripping drops only what is in the class. -/
theorem mem_stripChars {p : Char → Bool} {cs : List Char} {c : Char} (hc : c ∈ cs)
    (hp : p c = false) : c ∈ stripChars p cs := by
  have hdrop : ∀ cs : List Char, c ∈ cs → c ∈ cs.dropWhile p := by
    intro cs hcs
    rw [← List.takeWhile_append_dropWhile (p := p) (l := cs)] at hcs
    rcases List.mem_append.mp hcs with htake | hrest
    · rw [List.mem_takeWhile_imp htake] at hp
      cases hp
    · exact hrest
  rw [stripChars, List.mem_reverse]
  exact hdrop _ (List.mem_reverse.mpr (hdrop _ hc))

/-- A text with a hyphen in it denotes no positive number. -/
theorem intOfText_nonpos {text : String} {n : Int} (hmem : '-' ∈ text.toList)
    (h : intOfText text = some n) : n ≤ 0 := by
  have hstrip := mem_stripChars
    (p := fun c => isSpace c && !(0x1c ≤ c.toNat && c.toNat ≤ 0x1f)) hmem (by decide)
  have hnot : ∀ (cs : List Char) (m : Nat),
      (if intMaxStrDigits < (cs.filter (· ≠ '_')).length then none
        else digits 0 false cs) = some m → '-' ∉ cs := by
    intro cs m hm
    split at hm
    · cases hm
    · exact hyphen_not_mem_of_digits hm
  unfold intOfText at h
  dsimp only at h
  split at h
  · rename_i cs heq
    obtain ⟨m, hm, -⟩ := Option.map_eq_some_iff.mp h
    rw [heq] at hstrip
    exact absurd (List.mem_of_ne_of_mem (by decide) hstrip) (hnot cs m hm)
  · obtain ⟨m, hm, rfl⟩ := Option.map_eq_some_iff.mp h
    simp only [Option.pure_def, Option.bind_eq_bind, Option.bind_eq_some_iff,
      Option.some.injEq] at hm
    obtain ⟨m, -, rfl⟩ := hm
    exact Int.neg_nonpos_of_nonneg (Int.natCast_nonneg m)
  · obtain ⟨m, hm, -⟩ := Option.map_eq_some_iff.mp h
    exact absurd hstrip (hnot _ m hm)

end Python
