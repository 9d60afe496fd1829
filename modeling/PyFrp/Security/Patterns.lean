import PyFrp.Security.Fingerprint

/-!
# Fingerprint patterns (`security.py`)

What it means that a fingerprint with a wildcard covers a digest, and that
`fingerprints_equal` decides it, whichever side has the wildcard and however the
fingerprint is written.
-/

namespace PyFrp

open Python Coding

/-- The digest has the bytes before the wildcard, any bytes, and those after it. -/
def Fingerprint.Covers (p : Fingerprint) (digest : Bytes) : Prop :=
  if p.wildcard then ∃ middle, digest = p.leading ++ middle ++ p.trailing
  else digest = p.leading

/-! ## The bytes at both ends -/

theorem drop_eq_of_append {before after : Bytes} :
    (before ++ after).drop ((before ++ after).length - after.length) = after := by
  have hlength : (before ++ after).length - after.length = before.length := by
    rw [List.length_append]
    omega
  rw [hlength, List.drop_left]

/-- Bytes at the two ends that do not overlap. -/
theorem ends_iff {actual leading trailing : Bytes}
    (h : leading.length + trailing.length ≤ actual.length) :
    (actual.take leading.length = leading ∧
      actual.drop (actual.length - trailing.length) = trailing) ↔
      ∃ middle, actual = leading ++ middle ++ trailing := by
  constructor
  · rintro ⟨hleading, htrailing⟩
    refine ⟨(actual.take (actual.length - trailing.length)).drop leading.length, ?_⟩
    have hfirst : (actual.take (actual.length - trailing.length)).take leading.length =
        leading := by
      rw [List.take_take, Nat.min_eq_left (by omega)]
      exact hleading
    calc actual
        = actual.take (actual.length - trailing.length) ++
            actual.drop (actual.length - trailing.length) := (List.take_append_drop _ _).symm
      _ = actual.take (actual.length - trailing.length) ++ trailing := by rw [htrailing]
      _ = ((actual.take (actual.length - trailing.length)).take leading.length ++
            (actual.take (actual.length - trailing.length)).drop leading.length) ++
              trailing := by rw [List.take_append_drop]
      _ = leading ++ (actual.take (actual.length - trailing.length)).drop leading.length ++
            trailing := by rw [hfirst]
  · rintro ⟨middle, rfl⟩
    constructor
    · rw [List.append_assoc, List.take_left]
    · exact drop_eq_of_append

/-- The empty bytes after a wildcard are those after the end. -/
theorem actualTrailing_eq (actual trailing : Bytes) :
    (if trailing = [] then [] else actual.drop (actual.length - trailing.length)) =
      actual.drop (actual.length - trailing.length) := by
  by_cases hempty : trailing = []
  · rw [if_pos hempty, hempty]
    exact (List.drop_length (l := actual)).symm
  · rw [if_neg hempty]

theorem wildcardFingerprintMatches_iff {actual leading trailing : Bytes}
    (hactual : actual.length = 32) (hfits : leading.length + trailing.length ≤ 32) :
    wildcardFingerprintMatches actual leading trailing = true ↔
      ∃ middle, actual = leading ++ middle ++ trailing := by
  have hguard : ¬ (actual.length ≠ 32 ∨
      actual.length < leading.length + trailing.length) := by omega
  unfold wildcardFingerprintMatches
  rw [if_neg hguard, ← ends_iff (by omega)]
  simp only [actualTrailing_eq, Bool.and_eq_true, decide_eq_true_eq]

/-! ## What `fingerprints_equal` decides -/

theorem fingerprintsEqual_eq_false {value : String} {e : SecurityError}
    (h : parseFingerprint value = .error e) (other : String) :
    fingerprintsEqual value other = false := by
  unfold fingerprintsEqual
  rw [h]

theorem fingerprintsEqual_comm (left right : String) :
    fingerprintsEqual left right = fingerprintsEqual right left := by
  unfold fingerprintsEqual
  cases parseFingerprint left with
  | error e =>
      cases parseFingerprint right <;> rfl
  | ok l =>
      cases parseFingerprint right with
      | error e => rfl
      | ok r =>
          dsimp only
          cases hl : l.wildcard with
          | true =>
              cases hr : r.wildcard with
              | true => simp [eq_comm]
              | false => rfl
          | false =>
              cases hr : r.wildcard with
              | true => rfl
              | false => simp [eq_comm]

/-- Only what is parsed of a text counts. -/
theorem fingerprintsEqual_congr {value value' : String}
    (h : parseFingerprint value = parseFingerprint value') (other : String) :
    fingerprintsEqual other value = fingerprintsEqual other value' := by
  unfold fingerprintsEqual
  rw [h]

theorem fingerprintsEqual_format_iff {digest : Bytes} (hdigest : digest.length = 32)
    {value : String} {p : Fingerprint} (h : parseFingerprint value = .ok p) :
    fingerprintsEqual (formatFingerprint digest) value = true ↔ p.Covers digest := by
  unfold fingerprintsEqual Fingerprint.Covers
  rw [parseFingerprint_format hdigest, h]
  dsimp only
  cases hwildcard : p.wildcard with
  | true =>
      simp only [Bool.false_and, Bool.false_eq_true, if_false, if_true]
      exact wildcardFingerprintMatches_iff hdigest (p.fits hwildcard)
  | false =>
      simp only [Bool.false_and, Bool.false_eq_true, if_false]
      exact decide_eq_true_iff

/-- An accepted text stands for the digests that its pattern covers, in whatever order and
form it is compared; a text that is not accepted stands for none. -/
theorem fingerprint_patterns (value : String) :
    (∀ p, parseFingerprint value = .ok p →
      (∀ digest : Bytes, digest.length = 32 →
        (fingerprintsEqual (formatFingerprint digest) value = true ↔ p.Covers digest)) ∧
      normalizeFingerprint value = .ok p.render ∧
      parseFingerprint p.render = .ok p ∧
      normalizeFingerprint p.render = .ok p.render ∧
      ∀ other, fingerprintsEqual other p.render = fingerprintsEqual other value) ∧
    (∀ e, parseFingerprint value = .error e → ∀ other,
      fingerprintsEqual value other = false ∧ fingerprintsEqual other value = false) ∧
    ∀ other, fingerprintsEqual value other = fingerprintsEqual other value := by
  refine ⟨fun p hp => ?_, fun e he other => ?_, fingerprintsEqual_comm value⟩
  · have hnormal : normalizeFingerprint value = .ok p.render :=
      normalizeFingerprint_eq_ok.mpr ⟨p, hp, rfl⟩
    exact ⟨fun digest hdigest => fingerprintsEqual_format_iff hdigest hp, hnormal,
      p.parse_render, normalizeFingerprint_normal hnormal,
      fingerprintsEqual_congr (p.parse_render.trans hp.symm)⟩
  · have hvalue := fingerprintsEqual_eq_false he other
    exact ⟨hvalue, (fingerprintsEqual_comm other value).trans hvalue⟩

/-- A bare wildcard covers every digest. -/
theorem fingerprint_patterns_bare :
    fingerprintsEqual (formatFingerprint (List.replicate 32 171)) "..." = true := by
  have hfits : (([] : Bytes).length + ([] : Bytes).length) ≤ 32 := by decide
  have hfull : true = false → ([] : Bytes).length = 32 ∧ ([] : Bytes) = [] := by
    intro h
    cases h
  have hparse : parseFingerprint "..." = .ok ⟨[], [], true, fun _ => hfits, hfull⟩ := rfl
  have hcovers := ((fingerprint_patterns "...").1 _ hparse).1 (List.replicate 32 171) rfl
  refine hcovers.mpr ?_
  show ∃ middle, _
  exact ⟨List.replicate 32 171, (List.append_nil _).symm⟩

end PyFrp
