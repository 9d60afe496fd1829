import Mathlib.Data.List.Basic

/-!
# Host literals

The grammar of DNS names, IPv4 literals and IPv6 literals, the last with
compression, with an IPv4 literal at the end and with a zone.
-/

namespace Coding

/-- The ways to write a host. -/
inductive HostForm
  | name
  | ipv4
  | ipv6
  deriving DecidableEq

namespace Host

/-- The parts with a separator between them. -/
abbrev joined (separator : Char) (parts : List (List Char)) : List Char :=
  [separator].intercalate parts

/-- A part of a DNS name. -/
structure Label (cs : List Char) : Prop where
  length : 1 ≤ cs.length ∧ cs.length ≤ 63
  chars : ∀ c ∈ cs, c.isAlphanum = true ∨ c = '-' ∨ c = '_'
  ends : cs.head? ≠ some '-' ∧ cs.getLast? ≠ some '-'

inductive Name : List Char → Prop
  | labels {first : List Char} {rest : List (List Char)}
      (h : ∀ label ∈ first :: rest, Label label) : Name (joined '.' (first :: rest))
  /-- With the dot of the root. -/
  | rooted {cs : List Char} (h : Name cs) : Name (cs ++ ['.'])

inductive Ipv4 : List Char → Prop
  | octets {a b c d : Nat} (ha : a < 256) (hb : b < 256) (hc : c < 256) (hd : d < 256) :
      Ipv4 (joined '.' ([a, b, c, d].map (Nat.toDigits 10)))

def hexadecimals : List Char := "0123456789abcdefABCDEF".toList

/-- Sixteen bits of an IPv6 address. -/
structure Hextet (cs : List Char) : Prop where
  length : 1 ≤ cs.length ∧ cs.length ≤ 4
  chars : ∀ c ∈ cs, c ∈ hexadecimals

/-- Hextets, the last of which may be an IPv4 literal that stands for two. -/
inductive Groups : Nat → List (List Char) → Prop
  | nil : Groups 0 []
  | ipv4 {quad : List Char} (h : Ipv4 quad) : Groups 2 [quad]
  | cons {n : Nat} {hextet : List Char} {groups : List (List Char)} (h : Hextet hextet)
      (hs : Groups n groups) : Groups (n + 1) (hextet :: groups)

/-- A character of the name of a zone. -/
def isZoneChar (c : Char) : Bool := c.isAlphanum || c ∈ ['-', '.', '_', '~']

inductive Ipv6 : List Char → Prop
  | full {groups : List (List Char)} (h : Groups 8 groups) : Ipv6 (joined ':' groups)
  /-- `::` stands for the hextets that are missing. -/
  | compressed {n : Nat} {front back : List (List Char)} (hf : ∀ hextet ∈ front, Hextet hextet)
      (hb : Groups n back) (h : front.length + n ≤ 7) :
      Ipv6 (joined ':' front ++ ':' :: ':' :: joined ':' back)
  | zoned {cs zone : List Char} (h : Ipv6 cs) (hne : zone ≠ [])
      (hz : ∀ c ∈ zone, isZoneChar c = true) : Ipv6 (cs ++ '%' :: zone)

end Host

/-- The text is a host, written in this form. -/
def IsHost (form : HostForm) (text : List Char) : Prop :=
  match form with
  | .name => Host.Name text
  | .ipv4 => Host.Ipv4 text
  | .ipv6 => Host.Ipv6 text

namespace Host

/-! ## The characters of a host -/

/-- A character of a host that is no colon. -/
def isPlain (c : Char) : Bool := c.isAlphanum || c ∈ ['-', '.', '_', '~', '%']

theorem isPlain_of_isAlphanum {c : Char} (h : c.isAlphanum = true) : isPlain c = true := by
  rw [isPlain, h, Bool.true_or]

theorem isPlain_of_mem {c : Char} (h : c ∈ hexadecimals) : isPlain c = true := by
  have hall : hexadecimals.all isPlain = true := by decide
  exact List.all_eq_true.mp hall c h

/-- A plain character is printed, and is no space. -/
theorem graphic_of_isPlain {c : Char} (h : isPlain c = true) :
    0x21 ≤ c.toNat ∧ c.toNat ≤ 0x7e := by
  rw [isPlain, Bool.or_eq_true, decide_eq_true_eq] at h
  rcases h with h | h
  · change ((decide (65 ≤ c.val ∧ c.val ≤ 90) ||
      (decide (97 ≤ c.val) && decide (c.val ≤ 122))) ||
      (decide (48 ≤ c.val) && decide (c.val ≤ 57))) = true at h
    simp only [Bool.or_eq_true, Bool.and_eq_true, decide_eq_true_eq,
      UInt32.le_iff_toNat_le] at h
    change ((65 ≤ c.toNat ∧ c.toNat ≤ 90) ∨ (97 ≤ c.toNat ∧ c.toNat ≤ 122)) ∨
      (48 ≤ c.toNat ∧ c.toNat ≤ 57) at h
    omega
  · have hall : ['-', '.', '_', '~', '%'].all
        (fun c => 0x21 ≤ c.toNat ∧ c.toNat ≤ 0x7e) = true := by decide
    exact of_decide_eq_true (List.all_eq_true.mp hall c h)

theorem mem_joined {separator c : Char} {parts : List (List Char)}
    (h : c ∈ joined separator parts) : c = separator ∨ ∃ part ∈ parts, c ∈ part := by
  induction parts with
  | nil => exact absurd h List.not_mem_nil
  | cons part parts ih =>
      by_cases hne : parts = []
      · subst hne
        rw [joined, List.intercalate_singleton] at h
        exact .inr ⟨part, .head _, h⟩
      · rw [joined, List.intercalate_cons_of_ne_nil hne, List.mem_append, List.mem_append,
          List.mem_singleton] at h
        rcases h with (h | h) | h
        · exact .inr ⟨part, .head _, h⟩
        · exact .inl h
        · exact (ih h).imp_right fun ⟨part, hmem, hc⟩ => ⟨part, .tail _ hmem, hc⟩

/-- There is a separator after every part but the last. -/
theorem length_le_count_joined (separator : Char) (parts : List (List Char)) :
    parts.length ≤ (joined separator parts).count separator + 1 := by
  induction parts with
  | nil => exact Nat.zero_le _
  | cons part parts ih =>
      by_cases hne : parts = []
      · subst hne
        exact Nat.le_add_left 1 _
      · have hjoined : joined separator (part :: parts) =
            part ++ [separator] ++ joined separator parts :=
          List.intercalate_cons_of_ne_nil hne
        rw [hjoined, List.count_append, List.count_append, List.count_singleton_self,
          List.length_cons]
        omega

theorem Label.plain {cs : List Char} (h : Label cs) : ∀ c ∈ cs, isPlain c = true := by
  intro c hc
  rcases h.chars c hc with hc | rfl | rfl
  · exact isPlain_of_isAlphanum hc
  · rfl
  · rfl

theorem Name.plain {cs : List Char} (h : Name cs) : ∀ c ∈ cs, isPlain c = true := by
  induction h with
  | labels h =>
      intro c hc
      rcases mem_joined hc with rfl | ⟨label, hmem, hc⟩
      · rfl
      · exact (h label hmem).plain c hc
  | rooted h ih =>
      intro c hc
      rcases List.mem_append.mp hc with hc | hc
      · exact ih c hc
      · rw [List.mem_singleton.mp hc]
        rfl

theorem Ipv4.plain {cs : List Char} (h : Ipv4 cs) : ∀ c ∈ cs, isPlain c = true := by
  cases h with
  | octets ha hb hc hd =>
      intro c hmem
      rcases mem_joined hmem with rfl | ⟨octet, hmem, hc⟩
      · rfl
      · obtain ⟨n, -, rfl⟩ := List.mem_map.mp hmem
        have hdigit : c.isDigit = true := Nat.isDigit_of_mem_toDigits (by decide) (by decide) hc
        refine isPlain_of_isAlphanum ?_
        rw [Char.isAlphanum, hdigit, Bool.or_true]

theorem Hextet.plain {cs : List Char} (h : Hextet cs) : ∀ c ∈ cs, isPlain c = true :=
  fun c hc => isPlain_of_mem (h.chars c hc)

theorem Groups.plain {n : Nat} {groups : List (List Char)} (h : Groups n groups) :
    ∀ group ∈ groups, ∀ c ∈ group, isPlain c = true := by
  induction h with
  | nil => exact fun group hmem => absurd hmem List.not_mem_nil
  | ipv4 h =>
      intro group hmem
      rw [List.mem_singleton.mp hmem]
      exact h.plain
  | cons h hs ih =>
      intro group hmem
      rcases List.mem_cons.mp hmem with rfl | hmem
      · exact h.plain
      · exact ih group hmem

/-- Only the last group stands for two hextets. -/
theorem Groups.le_length {n : Nat} {groups : List (List Char)} (h : Groups n groups) :
    n ≤ groups.length + 1 := by
  induction h with
  | nil => exact Nat.zero_le _
  | ipv4 h => exact Nat.le_refl _
  | cons h hs ih => exact Nat.succ_le_succ ih

theorem plain_or_colon {groups : List (List Char)}
    (h : ∀ group ∈ groups, ∀ c ∈ group, isPlain c = true) {c : Char}
    (hc : c ∈ joined ':' groups) : isPlain c = true ∨ c = ':' := by
  rcases mem_joined hc with rfl | ⟨group, hmem, hc⟩
  · exact .inr rfl
  · exact .inl (h group hmem c hc)

theorem Ipv6.plain {cs : List Char} (h : Ipv6 cs) :
    ∀ c ∈ cs, isPlain c = true ∨ c = ':' := by
  induction h with
  | full h => exact fun c hc => plain_or_colon h.plain hc
  | compressed hf hb h =>
      intro c hc
      rcases List.mem_append.mp hc with hc | hc
      · exact plain_or_colon (fun hextet hmem => (hf hextet hmem).plain) hc
      · rcases List.mem_cons.mp hc with rfl | hc
        · exact .inr rfl
        · rcases List.mem_cons.mp hc with rfl | hc
          · exact .inr rfl
          · exact plain_or_colon hb.plain hc
  | zoned h hne hz ih =>
      intro c hc
      rcases List.mem_append.mp hc with hc | hc
      · exact ih c hc
      · rcases List.mem_cons.mp hc with rfl | hc
        · exact .inl rfl
        · have hzone := hz c hc
          rw [isZoneChar, Bool.or_eq_true] at hzone
          rcases hzone with hzone | hzone
          · exact .inl (isPlain_of_isAlphanum hzone)
          · have hall : ['-', '.', '_', '~'].all isPlain = true := by decide
            exact .inl (List.all_eq_true.mp hall c (of_decide_eq_true hzone))

/-- An IPv6 literal has more than one colon. -/
theorem Ipv6.colons {cs : List Char} (h : Ipv6 cs) : 2 ≤ cs.count ':' := by
  induction h with
  | @full groups h =>
      have hlength := h.le_length
      have hcount := length_le_count_joined ':' groups
      omega
  | compressed hf hb h =>
      simp only [List.count_append, List.count_cons_self]
      omega
  | zoned h hne hz ih =>
      rw [List.count_append]
      omega

theorem Name.ne_nil {cs : List Char} (h : Name cs) : cs ≠ [] := by
  cases h with
  | labels h =>
      have hlabel := (h _ (.head _)).length
      rename_i first rest
      cases first with
      | nil => exact absurd hlabel.1 (by decide)
      | cons c first =>
          rw [joined, List.intercalate_cons_cons_left]
          exact List.cons_ne_nil _ _
  | rooted h => exact List.append_ne_nil_of_right_ne_nil _ (List.cons_ne_nil _ _)

theorem Ipv4.ne_nil {cs : List Char} (h : Ipv4 cs) : cs ≠ [] := by
  cases h with
  | octets ha hb hc hd =>
      simp [joined]

end Host

variable {form : HostForm} {text : List Char}

theorem IsHost.plain (h : IsHost form text) (hform : form ≠ .ipv6) :
    ∀ c ∈ text, Host.isPlain c = true := by
  cases form with
  | name => exact Host.Name.plain h
  | ipv4 => exact Host.Ipv4.plain h
  | ipv6 => exact absurd rfl hform

theorem IsHost.plain_or_colon (h : IsHost form text) :
    ∀ c ∈ text, Host.isPlain c = true ∨ c = ':' := by
  cases form with
  | name => exact fun c hc => .inl (Host.Name.plain h c hc)
  | ipv4 => exact fun c hc => .inl (Host.Ipv4.plain h c hc)
  | ipv6 => exact Host.Ipv6.plain h

theorem IsHost.ne_nil (h : IsHost form text) : text ≠ [] := by
  cases form with
  | name => exact Host.Name.ne_nil h
  | ipv4 => exact Host.Ipv4.ne_nil h
  | ipv6 =>
      rintro rfl
      exact absurd (Host.Ipv6.colons h) (by decide)

theorem IsHost.colons (h : IsHost .ipv6 text) : 2 ≤ text.count ':' := Host.Ipv6.colons h

end Coding
