import PyFrp.Coding.Hex
import PyFrp.Python.Stream
import PyFrp.Python.Value

/-!
# Certificate fingerprints (`security.py`)

A trusted fingerprint is written as up to 32 hexadecimal bytes, with at most one
`...` that stands for any bytes between the others. Its normal form reads back
as the same fingerprint.
-/

namespace PyFrp

open Python Coding

/-- A `SecurityError`, by its text. -/
structure SecurityError where
  text : String
  deriving DecidableEq

/-- What `[:\-\s]` matches. -/
def isSeparator (c : Char) : Bool := c = ':' || c = '-' || isSpace c

def parseFingerprintBytes (value : List Char) : Except SecurityError Bytes :=
  if value.any fun c => !(hexDigits.contains c || isSeparator c) then
    .error ⟨"server fingerprint contains invalid characters"⟩
  else
    let hexValue := value.filter fun c => !isSeparator c
    if hexValue.length % 2 ≠ 0 then
      .error ⟨"server fingerprint bytes must use two hexadecimal digits"⟩
    else .ok (fromHex hexValue)

/-! ## Fingerprints with a wildcard -/

/-- What `_parse_fingerprint` returns: the bytes before and after the wildcard. -/
structure Fingerprint where
  leading : Bytes
  trailing : Bytes
  wildcard : Bool
  fits : wildcard = true → leading.length + trailing.length ≤ 32
  full : wildcard = false → leading.length = 32 ∧ trailing = []

/-- `text.count("...")`. -/
def countWildcards : List Char → Nat
  | '.' :: '.' :: '.' :: text => countWildcards text + 1
  | _ :: text => countWildcards text
  | [] => 0

/-- `text.split("...", 1)`, if there is something to split at. -/
def splitWildcard : List Char → Option (List Char × List Char)
  | '.' :: '.' :: '.' :: text => some ([], text)
  | c :: text => (splitWildcard text).map fun parts => (c :: parts.1, parts.2)
  | [] => none

def scheme : List Char := "SHA256:".toList

def withoutScheme (text : List Char) : List Char :=
  if scheme.isPrefixOf text then text.drop 7 else text

def parseFingerprint (value : String) : Except SecurityError Fingerprint :=
  let text := withoutScheme (upper (strip value)).toList
  if 1 < countWildcards text then
    .error ⟨"server fingerprint may contain at most one '...' wildcard"⟩
  else
    match splitWildcard text with
    | none =>
        match parseFingerprintBytes text with
        | .error e => .error e
        | .ok digest =>
            if h : digest.length = 32 then .ok ⟨digest, [], false, nofun, fun _ => ⟨h, rfl⟩⟩
            else .error ⟨"server fingerprint must contain exactly 32 SHA-256 bytes"⟩
    | some (rawLeading, rawTrailing) =>
        match parseFingerprintBytes rawLeading, parseFingerprintBytes rawTrailing with
        | .error e, _ => .error e
        | .ok _, .error e => .error e
        | .ok leading, .ok trailing =>
            if h : leading.length + trailing.length ≤ 32 then
              .ok ⟨leading, trailing, true, fun _ => h, nofun⟩
            else .error ⟨"server fingerprint wildcard contains more than 32 fixed bytes"⟩

namespace Fingerprint

def parts (p : Fingerprint) : List (List Char) :=
  p.leading.map hexByte ++
    if p.wildcard then ['.', '.', '.'] :: p.trailing.map hexByte else []

/-- The normal form. -/
def render (p : Fingerprint) : String := String.ofList (scheme ++ [':'].intercalate p.parts)

end Fingerprint

def normalizeFingerprint (value : String) : Except SecurityError String :=
  (parseFingerprint value).map Fingerprint.render

def formatFingerprint (digest : Bytes) : String :=
  String.ofList (scheme ++ [':'].intercalate (digest.map hexByte))

def wildcardFingerprintMatches (actual leading trailing : Bytes) : Bool :=
  if actual.length ≠ 32 ∨ actual.length < leading.length + trailing.length then false
  else
    let actualTrailing :=
      if trailing = [] then [] else actual.drop (actual.length - trailing.length)
    actual.take leading.length = leading && actualTrailing = trailing

def fingerprintsEqual (left right : String) : Bool :=
  match parseFingerprint left, parseFingerprint right with
  | .ok l, .ok r =>
      if l.wildcard && r.wildcard then l.render = r.render
      else if l.wildcard then wildcardFingerprintMatches r.leading l.leading l.trailing
      else if r.wildcard then wildcardFingerprintMatches l.leading r.leading r.trailing
      else l.leading = r.leading
  | _, _ => false

/-! ## The normal form reads back -/

theorem mapError_eq_ok {α δ δ' : Type} {x : Except δ α} {f : δ → δ'} {a : α} :
    x.mapError f = .ok a ↔ x = .ok a := by
  cases x <;> simp [Except.mapError]

theorem map_eq_ok {α β δ : Type} {x : Except δ α} {f : α → β} {b : β} :
    x.map f = .ok b ↔ ∃ a, x = .ok a ∧ f a = b := by
  cases x <;> simp [Except.map]

theorem isSeparator_of_mem {c : Char} (h : c ∈ hexDigits) : isSeparator c = false := by
  have hall : hexDigits.all (fun c => !isSeparator c) = true := by decide
  simpa using List.all_eq_true.mp hall c h

/-- Digits and colons read as the bytes of the digits. -/
theorem parseFingerprintBytes_of_filter {text : List Char} {bytes : Bytes}
    (hchars : ∀ c ∈ text, c ∈ hexDigits ∨ c = ':')
    (hfilter : (text.filter fun c => !isSeparator c) = bytes.flatMap hexByte) :
    parseFingerprintBytes text = .ok bytes := by
  have hvalid : (text.any fun c => !(hexDigits.contains c || isSeparator c)) = false := by
    rw [List.any_eq_false]
    intro c hc
    rcases hchars c hc with hdigit | rfl
    · simp [hdigit]
    · decide
  simp only [parseFingerprintBytes, hvalid, Bool.false_eq_true, if_false, hfilter,
    length_flatMap_hexByte, Nat.mul_mod_right, ne_eq, not_true_eq_false, fromHex_flatMap_hexByte]

theorem filter_hexByte (byte : UInt8) :
    ((hexByte byte).filter fun c => !isSeparator c) = hexByte byte := by
  rw [List.filter_eq_self]
  intro c hc
  simp [isSeparator_of_mem (mem_hexDigits_of_mem_hexByte hc)]

theorem mem_after {bytes : Bytes} {c : Char} (h : c ∈ bytes.flatMap fun b => ':' :: hexByte b) :
    c ∈ hexDigits ∨ c = ':' := by
  obtain ⟨b, _, hb⟩ := List.mem_flatMap.mp h
  rcases List.mem_cons.mp hb with rfl | hdigit
  · exact .inr rfl
  · exact .inl (mem_hexDigits_of_mem_hexByte hdigit)

theorem mem_before {bytes : Bytes} {c : Char}
    (h : c ∈ bytes.flatMap fun b => hexByte b ++ [':']) : c ∈ hexDigits ∨ c = ':' := by
  obtain ⟨b, _, hb⟩ := List.mem_flatMap.mp h
  rcases List.mem_append.mp hb with hdigit | hcolon
  · exact .inl (mem_hexDigits_of_mem_hexByte hdigit)
  · exact .inr (List.mem_singleton.mp hcolon)

/-- Bytes with a colon before each of them. -/
theorem parseFingerprintBytes_after (bytes : Bytes) :
    parseFingerprintBytes (bytes.flatMap fun b => ':' :: hexByte b) = .ok bytes := by
  refine parseFingerprintBytes_of_filter (fun c hc => mem_after hc) ?_
  have hcolon : isSeparator ':' = true := by decide
  simp [List.filter_flatMap, hcolon, filter_hexByte]

/-- Bytes with a colon after each of them. -/
theorem parseFingerprintBytes_before (bytes : Bytes) :
    parseFingerprintBytes (bytes.flatMap fun b => hexByte b ++ [':']) = .ok bytes := by
  refine parseFingerprintBytes_of_filter (fun c hc => mem_before hc) ?_
  have hcolon : isSeparator ':' = true := by decide
  simp [List.filter_flatMap, hcolon, filter_hexByte]

/-! ### The text around the wildcard -/

theorem splitWildcard_of_no_dot {text : List Char} (h : '.' ∉ text) :
    splitWildcard text = none := by
  induction text with
  | nil => rfl
  | cons c text ih =>
      have hc : c ≠ '.' := fun he => h (he ▸ .head _)
      rw [splitWildcard.eq_2 c text (by intro _ he; exact absurd he hc),
        ih fun hm => h (.tail _ hm), Option.map_none]

theorem countWildcards_append {text rest : List Char} (h : '.' ∉ text) :
    countWildcards (text ++ rest) = countWildcards rest := by
  induction text with
  | nil => rfl
  | cons c text ih =>
      have hc : c ≠ '.' := fun he => h (he ▸ .head _)
      rw [List.cons_append, countWildcards.eq_2 _ _ (by intro _ he; exact absurd he hc)]
      exact ih fun hm => h (.tail _ hm)

theorem splitWildcard_append {text rest : List Char} (h : '.' ∉ text) :
    splitWildcard (text ++ '.' :: '.' :: '.' :: rest) = some (text, rest) := by
  induction text with
  | nil => rfl
  | cons c text ih =>
      have hc : c ≠ '.' := fun he => h (he ▸ .head _)
      rw [List.cons_append, splitWildcard.eq_2 _ _ (by intro _ he; exact absurd he hc),
        ih fun hm => h (.tail _ hm), Option.map_some]

theorem countWildcards_of_no_dot {text : List Char} (h : '.' ∉ text) : countWildcards text = 0 := by
  rw [← List.append_nil text, countWildcards_append h]
  rfl

/-- Parts that are joined by colons, seen from one of them. -/
theorem intercalate_append_cons (before after : Bytes) (part : List Char) :
    [':'].intercalate (before.map hexByte ++ part :: after.map hexByte) =
      (before.flatMap fun b => hexByte b ++ [':']) ++
        (part ++ after.flatMap fun b => ':' :: hexByte b) := by
  induction before with
  | nil =>
      show [':'].intercalate (part :: after.map hexByte) = part ++ after.flatMap _
      induction after generalizing part with
      | nil => simp
      | cons b after ih =>
          rw [List.map_cons, List.intercalate_cons_cons, ih]
          simp
  | cons b before ih =>
      have hne : before.map hexByte ++ part :: after.map hexByte ≠ [] := by simp
      rw [List.map_cons, List.cons_append, List.intercalate_cons_of_ne_nil hne, ih]
      simp

/-- The capitals that a normal form is written in need no change. -/
theorem normalChar {c : Char} (h : c ∈ scheme ∨ c ∈ hexDigits ∨ c = ':' ∨ c = '.') :
    isSpace c = false ∧ upperChar c = [c] := by
  have hscheme : scheme.all (fun c => !isSpace c && upperChar c == [c]) = true := by decide
  have hdigits : hexDigits.all (fun c => !isSpace c && upperChar c == [c]) = true := by decide
  rcases h with h | h | rfl | rfl
  · simpa using List.all_eq_true.mp hscheme c h
  · simpa using List.all_eq_true.mp hdigits c h
  · decide
  · decide

/-- What is parsed of a text with the scheme and capitals only. -/
theorem withoutScheme_of_normal {body : List Char}
    (h : ∀ c ∈ body, c ∈ hexDigits ∨ c = ':' ∨ c = '.') :
    withoutScheme (upper (strip (String.ofList (scheme ++ body)))).toList = body := by
  have hnormal : ∀ c ∈ (String.ofList (scheme ++ body)).toList,
      isSpace c = false ∧ upperChar c = [c] := by
    intro c hc
    rw [String.toList_ofList] at hc
    rcases List.mem_append.mp hc with hc | hc
    · exact normalChar (.inl hc)
    · exact normalChar (.inr (h c hc))
  rw [strip_eq_self fun c hc => (hnormal c hc).1, upper_eq_self fun c hc => (hnormal c hc).2,
    String.toList_ofList, withoutScheme, if_pos (by simp [List.prefix_append])]
  rfl

theorem Fingerprint.parse_wildcard {leading trailing : Bytes}
    (h : leading.length + trailing.length ≤ 32) :
    parseFingerprint (Fingerprint.mk leading trailing true (fun _ => h) nofun).render =
      .ok ⟨leading, trailing, true, fun _ => h, nofun⟩ := by
  have hparts : [':'].intercalate
      (Fingerprint.mk leading trailing true (fun _ => h) nofun).parts =
        (leading.flatMap fun b => hexByte b ++ [':']) ++
          '.' :: '.' :: '.' :: trailing.flatMap fun b => ':' :: hexByte b :=
    intercalate_append_cons leading trailing ['.', '.', '.']
  have hleading : '.' ∉ leading.flatMap fun b => hexByte b ++ [':'] := fun hm =>
    absurd (mem_before hm) (by decide)
  have htrailing : '.' ∉ trailing.flatMap fun b => ':' :: hexByte b := fun hm =>
    absurd (mem_after hm) (by decide)
  have hcount : ∀ text, '.' ∉ text → countWildcards ('.' :: '.' :: '.' :: text) = 1 := by
    intro text htext
    rw [countWildcards, countWildcards_of_no_dot htext]
  have htext : withoutScheme (upper (strip
      (Fingerprint.mk leading trailing true (fun _ => h) nofun).render)).toList =
        (leading.flatMap fun b => hexByte b ++ [':']) ++
          '.' :: '.' :: '.' :: trailing.flatMap fun b => ':' :: hexByte b := by
    rw [Fingerprint.render, hparts]
    refine withoutScheme_of_normal fun c hc => ?_
    rcases List.mem_append.mp hc with hc | hc
    · exact (mem_before hc).imp_right .inl
    · simp only [List.mem_cons] at hc
      rcases hc with rfl | rfl | rfl | hc
      · exact .inr (.inr rfl)
      · exact .inr (.inr rfl)
      · exact .inr (.inr rfl)
      · exact (mem_after hc).imp_right .inl
  simp only [parseFingerprint, htext, countWildcards_append hleading, hcount _ htrailing,
    splitWildcard_append hleading, parseFingerprintBytes_before, parseFingerprintBytes_after,
    Nat.lt_irrefl, if_false, dif_pos h]

theorem Fingerprint.parse_digest {digest : Bytes} (h : digest.length = 32) :
    parseFingerprint (Fingerprint.mk digest [] false nofun fun _ => ⟨h, rfl⟩).render =
      .ok ⟨digest, [], false, nofun, fun _ => ⟨h, rfl⟩⟩ := by
  cases digest with
  | nil => cases h
  | cons b bytes =>
      have hparts : [':'].intercalate
          (Fingerprint.mk (b :: bytes) [] false nofun fun _ => ⟨h, rfl⟩).parts =
            hexByte b ++ bytes.flatMap fun b => ':' :: hexByte b := by
        show [':'].intercalate ((b :: bytes).map hexByte ++ []) = _
        rw [List.append_nil]
        exact intercalate_append_cons [] bytes (hexByte b)
      have hmem : ∀ c ∈ hexByte b ++ bytes.flatMap fun b => ':' :: hexByte b,
          c ∈ hexDigits ∨ c = ':' := by
        intro c hc
        rcases List.mem_append.mp hc with hc | hc
        · exact .inl (mem_hexDigits_of_mem_hexByte hc)
        · exact mem_after hc
      have hdot : '.' ∉ hexByte b ++ bytes.flatMap fun b => ':' :: hexByte b := fun hm =>
        absurd (hmem _ hm) (by decide)
      have hbytes : parseFingerprintBytes
          (hexByte b ++ bytes.flatMap fun b => ':' :: hexByte b) = .ok (b :: bytes) := by
        refine parseFingerprintBytes_of_filter hmem ?_
        have hcolon : isSeparator ':' = true := by decide
        simp [List.filter_flatMap, hcolon, filter_hexByte]
      have htext : withoutScheme (upper (strip
          (Fingerprint.mk (b :: bytes) [] false nofun fun _ => ⟨h, rfl⟩).render)).toList =
            hexByte b ++ bytes.flatMap fun b => ':' :: hexByte b := by
        rw [Fingerprint.render, hparts]
        exact withoutScheme_of_normal fun c hc => (hmem c hc).imp_right .inl
      simp only [parseFingerprint, htext, countWildcards_of_no_dot hdot,
        splitWildcard_of_no_dot hdot, hbytes, Nat.not_lt_zero, if_false, dif_pos h]

/-- A normal form reads as the fingerprint it is the form of. -/
theorem Fingerprint.parse_render (p : Fingerprint) : parseFingerprint p.render = .ok p := by
  obtain ⟨leading, trailing, wildcard, fits, full⟩ := p
  cases wildcard with
  | true => exact parse_wildcard (fits rfl)
  | false =>
      obtain ⟨hlength, rfl⟩ := full rfl
      exact parse_digest hlength

theorem normalizeFingerprint_eq_ok {value normal : String} :
    normalizeFingerprint value = .ok normal ↔ ∃ p, parseFingerprint value = .ok p ∧ p.render = normal :=
  map_eq_ok

theorem normalizeFingerprint_normal {value normal : String}
    (h : normalizeFingerprint value = .ok normal) : normalizeFingerprint normal = .ok normal := by
  obtain ⟨p, -, rfl⟩ := normalizeFingerprint_eq_ok.mp h
  exact normalizeFingerprint_eq_ok.mpr ⟨p, p.parse_render, rfl⟩

theorem normalizeFingerprint_ne_empty {value normal : String}
    (h : normalizeFingerprint value = .ok normal) : normal ≠ "" := by
  obtain ⟨p, -, rfl⟩ := normalizeFingerprint_eq_ok.mp h
  intro hempty
  have htext : scheme ++ [':'].intercalate p.parts = [] := by
    rw [← String.toList_ofList (l := scheme ++ [':'].intercalate p.parts)]
    exact congrArg String.toList hempty
  exact absurd (List.append_eq_nil_iff.mp htext).1 (by decide)

theorem parseFingerprint_format {digest : Bytes} (h : digest.length = 32) :
    parseFingerprint (formatFingerprint digest) =
      .ok ⟨digest, [], false, nofun, fun _ => ⟨h, rfl⟩⟩ := by
  have hformat : formatFingerprint digest =
      (Fingerprint.mk digest [] false nofun fun _ => ⟨h, rfl⟩).render := by
    simp [formatFingerprint, Fingerprint.render, Fingerprint.parts]
  rw [hformat, Fingerprint.parse_render]

theorem normalizeFingerprint_format {digest : Bytes} (h : digest.length = 32) :
    normalizeFingerprint (formatFingerprint digest) = .ok (formatFingerprint digest) := by
  rw [normalizeFingerprint, parseFingerprint_format h]
  simp [Except.map, formatFingerprint, Fingerprint.render, Fingerprint.parts]

theorem fingerprintsEqual_format {digest : Bytes} (h : digest.length = 32) :
    fingerprintsEqual (formatFingerprint digest) (formatFingerprint digest) = true := by
  unfold fingerprintsEqual
  rw [parseFingerprint_format h]
  exact decide_eq_true rfl

end PyFrp
