import PyFrp.Coding.Hosts
import PyFrp.Coding.Occurrences
import PyFrp.Config.Failures
import PyFrp.Python.Numerals

/-!
# Addresses that are read back (`config.py`)

An address with a port reads back as the host and the port it was written from.
A field that has only the host does not, if the host is an IPv6 literal: one of
its colons is taken for the one in front of a port.
-/

namespace PyFrp

open Python Coding

namespace Config

/-- How a host and a port are written in one address. -/
def writtenAddr (form : HostForm) (host : String) (port : Nat) : String :=
  match form with
  | .ipv6 => "[" ++ host ++ "]:" ++ toString port
  | _ => host ++ ":" ++ toString port

variable {b : Builtins} {form : HostForm} {host : String} {port : Nat}

/-! ## The text of a port -/

theorem toList_toString (n : Nat) : (toString n).toList = Nat.toDigits 10 n := by
  rw [Nat.toString_eq_ofList_toDigits, String.toList_ofList]

theorem isDigit_of_mem_port {c : Char} (h : c ∈ (toString port).toList) : c.isDigit = true := by
  rw [toList_toString] at h
  exact Nat.isDigit_of_mem_toDigits (by decide) (by decide) h

theorem int_port (h : port ≤ 65535) : int b (.str (toString port)) 0 = .ok (port : Int) := by
  have hshort : intTooLong (port : Int) = false := by
    have hlength : (Nat.toDigits 10 port).length ≤ 5 :=
      (Nat.length_toDigits_le_iff (by decide) (by decide)).mpr (by omega)
    simp only [intTooLong, Int.natAbs_natCast, decide_eq_false_iff_not, not_lt]
    exact hlength.trans (by decide)
  simp only [int, Value.int?, intOfText_toString hshort]

/-! ## Splitting at the last colon -/

theorem splitLastColon_append {digits : String} (h : ':' ∉ digits.toList) :
    splitLastColon (host ++ ":" ++ digits) = some (host, digits) := by
  have hreverse : (host ++ ":" ++ digits).toList.reverse =
      digits.toList.reverse ++ ':' :: host.toList.reverse := by
    simp
  have hback : ':' ∉ digits.toList.reverse := fun hmem => h (List.mem_reverse.mp hmem)
  unfold splitLastColon
  dsimp only
  rw [hreverse, dropWhile_ne_append hback, takeWhile_ne_append hback]
  simp

theorem of_splitLastColon {text front back : String}
    (h : splitLastColon text = some (front, back)) :
    text.toList = front.toList ++ ':' :: back.toList ∧ ':' ∉ back.toList := by
  unfold splitLastColon at h
  dsimp only at h
  split at h
  · rename_i c rest heq
    simp only [Option.some.injEq, Prod.mk.injEq] at h
    obtain ⟨rfl, rfl⟩ := h
    obtain ⟨htext, hback⟩ := of_dropWhile_ne heq
    constructor
    · have hreverse := congrArg List.reverse htext
      rw [List.reverse_reverse] at hreverse
      refine hreverse.trans ?_
      rw [List.reverse_append, List.reverse_cons, String.toList_ofList, String.toList_ofList,
        List.append_assoc, List.singleton_append]
    · intro hmem
      rw [String.toList_ofList, List.mem_reverse] at hmem
      exact hback hmem
  · cases h

/-- What is in front of the last of several colons is another text. -/
theorem ne_of_splitLastColon {text front back : String} (hcount : 2 ≤ text.toList.count ':')
    (h : splitLastColon text = some (front, back)) : front ≠ "" ∧ front ≠ text := by
  obtain ⟨htext, hback⟩ := of_splitLastColon h
  rw [htext, List.count_append, List.count_cons_self, List.count_eq_zero_of_not_mem hback] at hcount
  constructor
  · rintro rfl
    simp at hcount
  · rintro rfl
    have hlength := congrArg List.length htext
    simp at hlength

/-! ## Hosts -/

theorem isSpace_of_host (h : IsHost form host.toList) : ∀ c ∈ host.toList, isSpace c = false := by
  intro c hc
  rcases h.plain_or_colon c hc with hplain | rfl
  · obtain ⟨hlow, hhigh⟩ := Host.graphic_of_isPlain hplain
    simp only [isSpace, List.mem_cons, List.not_mem_nil, or_false, decide_eq_false_iff_not]
    omega
  · rfl

theorem ne_of_host {c : Char} (h : IsHost form host.toList) (hc : Host.isPlain c = false)
    (hcolon : c ≠ ':') : c ∉ host.toList := by
  intro hmem
  rcases h.plain_or_colon c hmem with hplain | rfl
  · rw [hc] at hplain
    cases hplain
  · exact hcolon rfl

/-! ## Reading back -/

theorem isSpace_of_writtenAddr (h : IsHost form host.toList) :
    ∀ c ∈ (writtenAddr form host port).toList, isSpace c = false := by
  have hport : ∀ c ∈ (toString port).toList, isSpace c = false :=
    fun c hc => isSpace_of_isDigit (isDigit_of_mem_port hc)
  have hhost := isSpace_of_host h
  intro c hc
  cases form with
  | ipv6 =>
      simp only [writtenAddr, String.toList_append, List.mem_append] at hc
      rcases hc with ((hc | hc) | hc) | hc
      · rw [List.mem_singleton.mp hc]
        rfl
      · exact hhost c hc
      · have hall : "]:".toList.all (fun c => isSpace c = false) = true := by decide
        exact of_decide_eq_true (List.all_eq_true.mp hall c hc)
      · exact hport c hc
  | _ =>
      simp only [writtenAddr, String.toList_append, List.mem_append] at hc
      rcases hc with (hc | hc) | hc
      · exact hhost c hc
      · rw [List.mem_singleton.mp hc]
        rfl
      · exact hport c hc

theorem bracketed_writtenAddr (h : IsHost .ipv6 host.toList) :
    bracketed (writtenAddr .ipv6 host port) = some (host, toString port) := by
  have htext : (writtenAddr .ipv6 host port).toList =
      '[' :: (host.toList ++ ']' :: ':' :: (toString port).toList) := by
    simp [writtenAddr]
  have hhost : ']' ∉ host.toList := ne_of_host h rfl (by decide)
  have hdigits : (toString port).toList.all (fun c => (decimalDigit c).isSome) = true :=
    List.all_eq_true.mpr fun c hc => isSome_decimalDigit (isDigit_of_mem_port hc)
  have hne : (toString port).toList ≠ [] := by
    rw [toList_toString]
    exact Nat.toDigits_ne_nil
  unfold bracketed
  simp only [htext, takeWhile_ne_append hhost, dropWhile_ne_append hhost]
  rw [if_pos ⟨h.ne_nil, hne, hdigits⟩, String.ofList_toList, String.ofList_toList]

/-- An address with a port reads back. -/
theorem splitAddr_writtenAddr (hhost : IsHost form host.toList) (hport : port ≤ 65535)
    (defaultHost : String) :
    splitAddr b (writtenAddr form host port) defaultHost = .ok (host, (port : Int)) := by
  have hne : host ≠ "" := fun h => hhost.ne_nil (by rw [h]; rfl)
  unfold splitAddr
  dsimp only
  rw [strip_eq_self (isSpace_of_writtenAddr hhost)]
  by_cases hform : form = .ipv6
  · subst hform
    rw [bracketed_writtenAddr hhost]
    dsimp only
    rw [if_neg (by simp [writtenAddr]), if_pos (by simp [writtenAddr]), int_port hport]
    rfl
  · have hwritten : writtenAddr form host port = host ++ ":" ++ toString port := by
      cases form <;> first | rfl | exact absurd rfl hform
    have hcolon : ':' ∉ (toString port).toList :=
      fun h => absurd (isDigit_of_mem_port h) (by decide)
    have hhead : (host ++ ":" ++ toString port).toList.head? ≠ some '[' := by
      intro hhead
      rw [String.append_assoc, String.toList_append,
        List.head?_append_of_ne_nil _ hhost.ne_nil] at hhead
      exact ne_of_host hhost rfl (by decide) (List.mem_of_head? hhead)
    rw [hwritten, if_neg (by simp), if_neg hhead, splitLastColon_append hcolon]
    dsimp only
    rw [if_neg hne, int_port hport]
    rfl

/-- A field that has only the host reads back if there is no colon in it. -/
theorem addrFromFields_of_plain {defaultPort : Int} (h : ':' ∉ host.toList)
    (defaultHost : String) :
    addrFromFields b (.str host) defaultHost defaultPort = .ok (host, defaultPort) := by
  unfold addrFromFields
  dsimp only
  rw [show string b (.str host) = .ok host from rfl]
  exact if_neg h

/-- An IPv6 literal without a port is split, and another host comes out. -/
theorem addrFromFields_ipv6 {defaultPort : Int} (h : IsHost .ipv6 host.toList)
    (defaultHost : String) :
    addrFromFields b (.str host) defaultHost defaultPort ≠ .ok (host, defaultPort) := by
  have hcolon : ':' ∈ host.toList :=
    List.count_pos_iff.mp (lt_of_lt_of_le (by decide) h.colons)
  have hhead : host.toList.head? ≠ some '[' :=
    fun hhead => ne_of_host h rfl (by decide) (List.mem_of_head? hhead)
  unfold addrFromFields
  dsimp only
  rw [show string b (.str host) = .ok host from rfl]
  intro heq
  replace heq : splitAddr b host defaultHost = .ok (host, defaultPort) :=
    (if_pos hcolon).symm.trans heq
  have hne : host ≠ "" := fun hempty => h.ne_nil (by rw [hempty]; rfl)
  unfold splitAddr at heq
  dsimp only at heq
  rw [strip_eq_self (isSpace_of_host h), if_neg hne, if_neg hhead] at heq
  cases hsplit : splitLastColon host with
  | none =>
      rw [hsplit] at heq
      cases heq
  | some parts =>
      obtain ⟨front, back⟩ := parts
      obtain ⟨hfront, hother⟩ := ne_of_splitLastColon h.colons hsplit
      rw [hsplit] at heq
      dsimp only at heq
      rw [if_neg hfront] at heq
      cases hint : int b (.str back) 0 with
      | error e =>
          rw [hint] at heq
          cases heq
      | ok n =>
          rw [hint] at heq
          cases heq
          exact hother rfl

variable (b) in
/-- **Hosts read back**, with a port in one address and alone in an address field beside
the field of the port, if and only if they are no IPv6 literals. -/
theorem host_reads_back_iff {port' : Int} (defaultHost : String)
    (hhost : IsHost form host.toList) (hport : port ≤ 65535) :
    (splitAddr b (writtenAddr form host port) defaultHost = .ok (host, (port : Int)) ∧
      addrFromFields b (.str host) defaultHost port' = .ok (host, port')) ↔ form ≠ .ipv6 := by
  constructor
  · rintro ⟨-, hfield⟩ rfl
    exact addrFromFields_ipv6 hhost defaultHost hfield
  · intro hform
    have hcolon : ':' ∉ host.toList :=
      fun hmem => absurd (hhost.plain hform ':' hmem) (by decide)
    exact ⟨splitAddr_writtenAddr hhost hport defaultHost,
      addrFromFields_of_plain hcolon defaultHost⟩

theorem localhost_reads_back :
    splitAddr noFiles.builtins (writtenAddr .name "localhost" 7001) "0.0.0.0" =
        .ok ("localhost", 7001) ∧
      addrFromFields noFiles.builtins (.str "localhost") "0.0.0.0" 7000 =
        .ok ("localhost", 7000) := by
  have hchars : "localhost".toList.all
      (fun c => c.isAlphanum = true ∨ c = '-' ∨ c = '_') = true := by decide
  have hlabel : Host.Label "localhost".toList :=
    ⟨by decide, fun c hc => of_decide_eq_true (List.all_eq_true.mp hchars c hc), by decide⟩
  have hhost : IsHost .name "localhost".toList :=
    @Host.Name.labels _ [] fun label hmem => List.mem_singleton.mp hmem ▸ hlabel
  exact (host_reads_back_iff noFiles.builtins "0.0.0.0" hhost (by decide)).mpr (by decide)

/-- The last group of an IPv6 literal is taken for the port. -/
theorem ipv6_field_split : IsHost .ipv6 "::1".toList ∧
    addrFromFields noFiles.builtins (.str "::1") "127.0.0.1" 7000 = .ok (":", 1) ∧
    addrFromFields noFiles.builtins (.str "::1") "127.0.0.1" 7000 ≠ .ok ("::1", 7000) := by
  have hchars : ∀ c ∈ ['1'], c ∈ Host.hexadecimals := by
    intro c hc
    rw [List.mem_singleton.mp hc]
    decide
  have hback : Host.Groups 1 [['1']] := .cons ⟨by decide, hchars⟩ .nil
  have hhost : IsHost .ipv6 "::1".toList :=
    @Host.Ipv6.compressed 1 [] [['1']] (fun hextet hmem => absurd hmem List.not_mem_nil) hback
      (by decide)
  exact ⟨hhost, rfl, addrFromFields_ipv6 hhost "127.0.0.1"⟩

end Config
end PyFrp
