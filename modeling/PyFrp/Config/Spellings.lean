import PyFrp.Config.Ini
import PyFrp.Config.Modes

/-!
# One server in two spellings

The settings of an frp server, as the section `common` of an INI file and as the root
table of a document, with the same texts. The two loaders read the texts on their own:
this module says on which texts they agree.
-/

namespace PyFrp

open Python Validation

namespace Config

open Ini

variable {b : Builtins} {entries : Options}

/-- The keys that both spellings have. -/
def commonKeys : List String :=
  ["bind_addr", "bind_host", "bind_port", "token", "auth_token", "allow_dynamic"]

/-- Some of the keys, with texts that a line of an INI file can have. -/
structure Spelled (entries : Options) : Prop where
  keys : ∀ e ∈ entries, e.1 ∈ commonKeys
  stripped : ∀ e ∈ entries, strip e.2 = e.2

/-- The INI file. -/
def iniSpelling (entries : Options) : Ini := ⟨[], [("common", entries)]⟩

/-- The document. -/
def documentSpelling (entries : Options) : Fields := entries.map fun e => (e.1, .str e.2)

/-! ## The texts of the document -/

theorem hasKey_documentSpelling (entries : Options) (key : String) :
    hasKey (documentSpelling entries) key = (find entries key).isSome := by
  unfold hasKey documentSpelling find
  rw [List.any_map, Option.isSome_map, List.isSome_find?]
  rfl

theorem dictGet_documentSpelling (entries : Options) (key : String) :
    dictGet (documentSpelling entries) key = optional (find entries key) := by
  unfold dictGet documentSpelling find
  induction entries with
  | nil => rfl
  | cons e es ih =>
      rw [List.map_cons, List.find?_cons, List.find?_cons]
      by_cases hkey : e.1 = key
      · simp only [hkey, decide_true]
        rfl
      · simp only [hkey, decide_false]
        exact ih

/-- The first of the keys that is there. -/
theorem getAny_documentSpelling (entries : Options) (key : String) (keys : List String)
    (default : Value) :
    getAny (documentSpelling entries) (key :: keys) default =
      match find entries key with
      | some text => .str text
      | none => getAny (documentSpelling entries) keys default := by
  unfold getAny
  rw [List.find?_cons, hasKey_documentSpelling]
  cases hfind : find entries key with
  | none => rfl
  | some text =>
      show dictGet (documentSpelling entries) key = .str text
      rw [dictGet_documentSpelling, hfind]
      rfl

namespace Spelled

theorem find_eq_none (h : Spelled entries) {key : String} (hkey : key ∉ commonKeys) :
    find entries key = none := by
  unfold find
  rw [Option.map_eq_none_iff, List.find?_eq_none]
  intro e he hfound
  exact hkey (of_decide_eq_true hfound ▸ h.keys e he)

theorem getAny_missing (h : Spelled entries) {keys : List String}
    (hkeys : ∀ key ∈ keys, key ∉ commonKeys) (default : Value) :
    getAny (documentSpelling entries) keys default = default := by
  induction keys with
  | nil => rfl
  | cons key keys ih =>
      rw [getAny_documentSpelling, h.find_eq_none (hkeys key (.head _))]
      exact ih fun key' hkey' => hkeys key' (.tail _ hkey')

/-- The other spelling of a key is not there. -/
theorem getAny_alias (h : Spelled entries) (key : String) {other : String}
    (hother : other ∉ commonKeys) :
    getAny (documentSpelling entries) [key, other] = optional (find entries key) := by
  rw [getAny_documentSpelling, getAny_documentSpelling, h.find_eq_none hother]
  cases find entries key <;> rfl

theorem strip_eq (h : Spelled entries) {key text : String} (hfind : find entries key = some text) :
    strip text = text := by
  obtain ⟨e, he, rfl⟩ := Option.map_eq_some_iff.mp hfind
  exact h.stripped e (List.mem_of_find?_eq_some he)

theorem nativeRoot (h : Spelled entries) :
    Config.nativeRoot (documentSpelling entries) = documentSpelling entries := by
  unfold Config.nativeRoot
  rw [h.getAny_missing (by decide)]
  rfl

end Spelled

/-! ## What both loaders check -/

/-- Where the port is written. -/
def spelledPort (entries : Options) : Value :=
  match find entries "bind_addr" with
  | none => .str ((find entries "bind_port").getD "7000")
  | some text =>
      if ':' ∈ text.toList then .str (portText text)
      else .str ((find entries "bind_port").getD "7000")

/-- The verdict about an address that may be missing. -/
def spelledAddr (addr : Option String) : Verdict LoadError :=
  match addr with
  | none => .fine
  | some text => if ':' ∈ text.toList then splitVerdict text else .fine

def spelledReads (b : Builtins) (entries : Options) : List (Verdict LoadError) :=
  [intVerdict b (.str ((find entries "bind_port").getD "7000")),
    spelledAddr (find entries "bind_addr"),
    portVerdict b true (intOf (spelledPort entries) 7000)]

/-- What is compared of a server. -/
def settings (c : ServerConfig) : String × Int × Option String × Bool :=
  (c.bindHost, c.bindPort, c.token, c.allowDynamic)

/-! ## The document -/

def documentHost (entries : Options) : String :=
  match find entries "bind_addr" with
  | none => (find entries "bind_host").getD "0.0.0.0"
  | some text =>
      if ':' ∈ text.toList then hostText text ((find entries "bind_host").getD "0.0.0.0")
      else text

def documentToken (entries : Options) : Option String :=
  emptyToNone (find entries "token" <|> find entries "auth_token")

def documentAllows (entries : Options) : Bool :=
  match find entries "allow_dynamic" with
  | none => true
  | some text => lower (strip text) ∈ ["1", "true", "yes", "on"]

theorem textVerdict_str (text : String) : textVerdict b (.str text) = .fine := by
  rw [textVerdict, noText_str]

theorem textVerdict_none : textVerdict b .none = .fine := by
  rw [textVerdict, noText_none]

theorem textOf_optional (text : Option String) (default : String) :
    textOf b (optional text) default = text.getD default := by
  cases text <;> rfl

theorem intVerdict_optional (text : Option String) :
    intVerdict b (optional text) = intVerdict b (.str (text.getD "7000")) := by
  cases text with
  | none => exact (intVerdict_str "7000").symm
  | some text => rfl

theorem spelledPort_eq (entries : Options) :
    intOf (portField b (optional (find entries "bind_addr"))
      (optional (find entries "bind_port"))) 7000 = intOf (spelledPort entries) 7000 := by
  have hport : intOf (optional (find entries "bind_port")) 7000 =
      intOf (.str ((find entries "bind_port").getD "7000")) 7000 := by
    cases find entries "bind_port" with
    | none => rfl
    | some text => rfl
  unfold spelledPort
  cases find entries "bind_addr" with
  | none => exact hport
  | some text =>
      show intOf (if ':' ∈ text.toList then _ else _) 7000 = _
      dsimp only
      split
      · rfl
      · exact hport

theorem textVerdict_token (entries : Options) (keys : List String) :
    textVerdict b (getAny (documentSpelling entries) keys) = .fine := by
  induction keys with
  | nil => exact textVerdict_none
  | cons key keys ih =>
      rw [getAny_documentSpelling]
      cases find entries key with
      | none => exact ih
      | some text => exact textVerdict_str text

theorem authVerdict_spelled (h : Spelled entries) :
    authVerdict b (documentSpelling entries) = .fine := by
  unfold authVerdict
  rw [h.getAny_missing (by decide)]

theorem first_nativeServerReads (h : Spelled entries) :
    first (nativeServerReads b (documentSpelling entries)) = first (spelledReads b entries) := by
  unfold nativeServerReads nativeServerFields
  rw [h.nativeRoot]
  simp only [textVerdict_token, authVerdict_spelled h]
  rw [h.getAny_missing (show ∀ key ∈ ["server"], key ∉ commonKeys by decide) .none,
    h.getAny_missing (show ∀ key ∈ ["services"], key ∉ commonKeys by decide) .none,
    h.getAny_missing
      (show ∀ key ∈ ["open_timeout", "openTimeout"], key ∉ commonKeys by decide) .none,
    h.getAny_alias "bind_port" (show "bindPort" ∉ commonKeys by decide),
    h.getAny_alias "bind_addr" (show "bindAddr" ∉ commonKeys by decide), intVerdict_optional]
  simp only [spelledPort_eq]
  unfold spelledReads
  generalize intVerdict b _ = port
  generalize portVerdict b true _ = range
  cases find entries "bind_addr" with
  | none => cases port <;> rfl
  | some text =>
      have haddr : addrVerdicts b (optional (some text)) =
          [.fine, if ':' ∈ text.toList then splitVerdict text else .fine] := by
        rw [← textVerdict_str (b := b) text]
        rfl
      rw [haddr]
      unfold spelledAddr
      dsimp only
      generalize (if ':' ∈ text.toList then splitVerdict text else .fine) = addr
      cases port <;> cases addr <;> rfl

theorem authOf_spelled (h : Spelled entries) : authOf b (documentSpelling entries) = none := by
  unfold authOf
  rw [h.getAny_missing (by decide)]

/-- The token of the document: the first of the keys that is there. -/
theorem tokenOf_spelled (h : Spelled entries) :
    tokenOf b (getAny (documentSpelling entries) ["token", "auth_token", "authToken"]
      (optional (authOf b (documentSpelling entries)))) = documentToken entries := by
  have hother : "authToken" ∉ commonKeys := by decide
  rw [authOf_spelled h, getAny_documentSpelling, getAny_documentSpelling,
    getAny_documentSpelling, h.find_eq_none hother]
  unfold documentToken
  cases find entries "token" with
  | some token => rfl
  | none =>
      cases find entries "auth_token" with
      | some token => rfl
      | none => rfl

theorem settings_document (h : Spelled entries) {c : ServerConfig}
    (hc : NativeSettings b (documentSpelling entries) c) :
    settings c = (documentHost entries, intOf (spelledPort entries) 7000, documentToken entries,
      documentAllows entries) := by
  have hport : c.bindPort = intOf (spelledPort entries) 7000 := by
    rw [hc.bindPort]
    unfold nativeServerFields
    rw [h.nativeRoot, h.getAny_alias "bind_port" (show "bindPort" ∉ commonKeys by decide),
      h.getAny_alias "bind_addr" (show "bindAddr" ∉ commonKeys by decide)]
    exact spelledPort_eq entries
  have hhost : c.bindHost = documentHost entries := by
    rw [hc.bindHost, h.nativeRoot,
      h.getAny_alias "bind_host" (show "bindHost" ∉ commonKeys by decide),
      h.getAny_alias "bind_addr" (show "bindAddr" ∉ commonKeys by decide), textOf_optional]
    unfold documentHost
    cases find entries "bind_addr" <;> rfl
  have htoken : c.token = documentToken entries := by
    rw [hc.token, h.nativeRoot]
    exact tokenOf_spelled h
  have hallow : c.allowDynamic = documentAllows entries := by
    rw [hc.allowDynamic, h.nativeRoot,
      h.getAny_alias "allow_dynamic" (show "allowDynamic" ∉ commonKeys by decide)]
    unfold documentAllows
    cases find entries "allow_dynamic" <;> rfl
  unfold settings
  rw [hport, hhost, htoken, hallow]

theorem loadFrpOrNativeServer_spelled (h : Spelled entries) :
    Reads (loadFrpOrNativeServer b (documentSpelling entries)) (spelledReads b entries) fun c =>
      settings c = (documentHost entries, intOf (spelledPort entries) 7000,
        documentToken entries, documentAllows entries) :=
  ((loadFrpOrNativeServer_reads _).congr (first_nativeServerReads h).symm).mono
    fun _ hc => settings_document h hc.2

/-! ## The INI file -/

def iniHost (entries : Options) : String :=
  match (find entries "bind_addr").filter (· ≠ "") with
  | none => (find entries "bind_host").getD "0.0.0.0"
  | some text => if ':' ∈ text.toList then hostText text "0.0.0.0" else text

def iniAllows (entries : Options) : Bool :=
  lower ((find entries "allow_dynamic").getD "true") ∉ ["0", "false", "no"]

theorem common_spelled (entries : Options) : (iniSpelling entries).common = some entries := by
  unfold iniSpelling Ini.common Ini.options
  simp

theorem iniBind_reads (entries : Options) :
    Reads (iniBind b entries)
      [intVerdict b (.str ((find entries "bind_port").getD "7000")),
        spelledAddr (find entries "bind_addr")]
      fun r => r.1 = iniHost entries ∧ r.2 = intOf (spelledPort entries) 7000 := by
  unfold iniBind iniHost spelledPort
  refine (int_reads _ 7000).bind fun port hport => ?_
  subst hport
  cases find entries "bind_addr" with
  | none => exact Follows.ok rfl ⟨rfl, rfl⟩
  | some text =>
      unfold spelledAddr
      by_cases hempty : text = ""
      · subst hempty
        exact Follows.ok rfl ⟨rfl, rfl⟩
      · have hfilter : (some text).filter (· ≠ "") = some text := by simp [hempty]
        rw [hfilter]
        dsimp only
        split
        · exact (splitAddr_reads text "0.0.0.0").mono fun r hr =>
            ⟨hr.1, (intOf_of_text hr.2 7000).symm⟩
        · exact Follows.ok rfl ⟨rfl, rfl⟩

theorem loadFrpIniServer_spelled (entries : Options) :
    Reads (loadFrpIniServer b (iniSpelling entries)) (spelledReads b entries) fun c =>
      settings c = (iniHost entries, intOf (spelledPort entries) 7000, iniToken entries,
        iniAllows entries) := by
  unfold loadFrpIniServer
  rw [common_spelled]
  refine (iniBind_reads entries).bind fun addr haddr => ?_
  obtain ⟨bindHost, portValue⟩ := addr
  obtain ⟨hhost, hvalue⟩ := haddr
  dsimp only at hhost hvalue
  subst hhost hvalue
  refine (port_reads _ true).bind_ok fun bindPort hbind => ?_
  rw [hbind.1]
  rfl

/-! ## Where they agree -/

theorem intVerdict_str_ne_escapes (text : String) :
    intVerdict b (.str text) = .fine ∨ intVerdict b (.str text) = .refused := by
  rw [intVerdict_str]
  split
  · exact .inl rfl
  · exact .inr rfl

theorem splitVerdict_ne_escapes (text : String) :
    splitVerdict text = .fine ∨ splitVerdict text = .refused := by
  unfold splitVerdict
  split
  · exact .inr rfl
  · split
    · exact .inl rfl
    · exact .inr rfl

theorem intTooLong_intOf (text : String) : intTooLong (intOf (.str text) 7000) = false := by
  rw [intOf_str]
  cases h : intOfText text with
  | none => decide
  | some n => exact intTooLong_of_text h

/-- What is wrong with a port that is read from a text can be said. -/
theorem portVerdict_ne_escapes (text : String) (allowZero : Bool) :
    portVerdict b allowZero (intOf (.str text) 7000) = .fine ∨
      portVerdict b allowZero (intOf (.str text) 7000) = .refused := by
  have htext : noText b (.int (intOf (.str text) 7000)) = none :=
    noText_of_depth rfl (intTooLong_intOf text)
  unfold portVerdict refusal
  rw [htext]
  by_cases hrange : (if allowZero then (0 : Int) else 1) ≤ intOf (.str text) 7000 ∧
      intOf (.str text) 7000 ≤ 65535
  · rw [if_pos hrange]
    exact .inl rfl
  · rw [if_neg hrange]
    exact .inr rfl

/-- Nothing but a `ConfigError` is raised. -/
theorem first_spelledReads (entries : Options) :
    first (spelledReads b entries) = .fine ∨ first (spelledReads b entries) = .refused := by
  have hport := intVerdict_str_ne_escapes (b := b) ((find entries "bind_port").getD "7000")
  have haddr : spelledAddr (find entries "bind_addr") = .fine ∨
      spelledAddr (find entries "bind_addr") = .refused := by
    unfold spelledAddr
    split
    · exact .inl rfl
    · split
      · exact splitVerdict_ne_escapes _
      · exact .inl rfl
  have hrange : portVerdict b true (intOf (spelledPort entries) 7000) = .fine ∨
      portVerdict b true (intOf (spelledPort entries) 7000) = .refused := by
    unfold spelledPort
    split
    · exact portVerdict_ne_escapes _ true
    · split
      · exact portVerdict_ne_escapes _ true
      · exact portVerdict_ne_escapes _ true
  refine first_of_forall ?_
  rintro v (_ | ⟨_, _ | ⟨_, _ | ⟨_, hv⟩⟩⟩)
  · exact hport
  · exact haddr
  · exact hrange
  · cases hv

section

variable (entries : Options)

/-- An empty address counts for the document only, and so does the host beside an address
that has none. -/
def SameHost : Prop :=
  match find entries "bind_addr" with
  | none => True
  | some text =>
      if text = "" then (find entries "bind_host").getD "0.0.0.0" = ""
      else ':' ∈ text.toList → (addrParts text).map Prod.fst = some "" →
        (find entries "bind_host").getD "0.0.0.0" = "0.0.0.0"

/-- An empty token hides the other one from the document only. -/
def SameToken : Prop :=
  find entries "token" = some "" → ∀ token, find entries "auth_token" = some token → token = ""

/-- The INI file knows the words for no, the document those for yes. -/
def SameAllows : Prop :=
  ∀ text, find entries "allow_dynamic" = some text →
    lower text ∈ ["1", "true", "yes", "on"] ∨ lower text ∈ ["0", "false", "no"]

end

theorem hostText_eq_iff (text host₁ host₂ : String) :
    hostText text host₁ = hostText text host₂ ↔
      ((addrParts text).map Prod.fst = some "" → host₁ = host₂) := by
  unfold hostText
  cases addrParts text with
  | none => exact ⟨fun _ => nofun, fun _ => rfl⟩
  | some parts =>
      obtain ⟨host, port⟩ := parts
      by_cases hempty : host = ""
      · subst hempty
        exact ⟨fun heq _ => heq, fun heq => heq rfl⟩
      · dsimp only
        rw [if_neg hempty, if_neg hempty]
        exact iff_of_true rfl fun hhost => absurd (Option.some.inj hhost) hempty

theorem host_iff (entries : Options) :
    iniHost entries = documentHost entries ↔ SameHost entries := by
  unfold iniHost documentHost SameHost
  cases find entries "bind_addr" with
  | none => exact iff_of_true rfl trivial
  | some text =>
      by_cases hempty : text = ""
      · subst hempty
        exact Iff.rfl
      · have hfilter : (some text).filter (· ≠ "") = some text := by simp [hempty]
        rw [hfilter]
        dsimp only
        rw [if_neg hempty]
        by_cases hcolon : ':' ∈ text.toList
        · rw [if_pos hcolon, if_pos hcolon, hostText_eq_iff]
          constructor
          · intro heq _ hhost
            exact (heq hhost).symm
          · intro heq hhost
            exact (heq hcolon hhost).symm
        · rw [if_neg hcolon, if_neg hcolon]
          exact iff_of_true rfl fun hcolon' => absurd hcolon' hcolon

theorem emptyToNone_eq_none_iff {text : String} (h : strip text = text) :
    emptyToNone (some text) = none ↔ text = "" := by
  unfold emptyToNone
  rw [Option.map_some, h]
  by_cases hempty : text = ""
  · simp [hempty]
  · simp [hempty]

theorem token_iff (h : Spelled entries) :
    iniToken entries = documentToken entries ↔ SameToken entries := by
  unfold iniToken documentToken SameToken orElse
  cases htoken : find entries "token" with
  | none => exact iff_of_true rfl nofun
  | some token =>
      by_cases hempty : token = ""
      · subst hempty
        have hstrip : strip "" = "" := by decide
        have hdocument : emptyToNone (some "") = none :=
          (emptyToNone_eq_none_iff hstrip).mpr rfl
        show emptyToNone (find entries "auth_token") = emptyToNone (some "") ↔ _
        rw [hdocument]
        cases hauth : find entries "auth_token" with
        | none => exact iff_of_true rfl fun _ => nofun
        | some auth =>
            rw [emptyToNone_eq_none_iff (h.strip_eq hauth)]
            constructor
            · intro hauth _ token htoken
              cases htoken
              exact hauth
            · intro hall
              exact hall rfl auth rfl
      · have hfilter : (some token).filter (· ≠ "") = some token := by simp [hempty]
        rw [hfilter]
        refine iff_of_true rfl fun heq => ?_
        exact absurd (Option.some.inj heq) hempty

/-- No word says both yes and no. -/
theorem yes_iff_not_no (word : String) :
    (decide (word ∉ ["0", "false", "no"]) = decide (word ∈ ["1", "true", "yes", "on"])) ↔
      word ∈ ["1", "true", "yes", "on"] ∨ word ∈ ["0", "false", "no"] := by
  rw [decide_eq_decide]
  by_cases hyes : word ∈ ["1", "true", "yes", "on"]
  · have hno : word ∉ ["0", "false", "no"] := by
      have hall : ∀ w ∈ ["1", "true", "yes", "on"], w ∉ ["0", "false", "no"] := by decide
      exact hall word hyes
    exact iff_of_true (iff_of_true hno hyes) (.inl hyes)
  · by_cases hno : word ∈ ["0", "false", "no"]
    · exact iff_of_true (iff_of_false (not_not.mpr hno) hyes) (.inr hno)
    · exact iff_of_false (fun hiff => hyes (hiff.mp hno)) fun hor => hor.elim hyes hno

theorem allows_iff (h : Spelled entries) :
    iniAllows entries = documentAllows entries ↔ SameAllows entries := by
  unfold iniAllows documentAllows SameAllows
  cases hallow : find entries "allow_dynamic" with
  | none =>
      have hdefault : decide (lower "true" ∉ ["0", "false", "no"]) = true := by decide
      exact iff_of_true hdefault nofun
  | some text =>
      dsimp only [Option.getD_some]
      rw [h.strip_eq hallow, yes_iff_not_no]
      constructor
      · intro hword text' heq
        cases heq
        exact hword
      · intro hall
        exact hall text rfl

theorem agree_iff_of_reads {α : Type} {x y : Load α} {vs : List (Verdict LoadError)} {u v : α}
    (hx : Reads x vs (· = u)) (hy : Reads y vs (· = v)) :
    Agree x y ↔ first vs = .refused ∨ (first vs = .fine ∧ u = v) := by
  unfold Agree
  rw [hx.raises_iff, hy.raises_iff, and_self, or_comm]
  refine or_congr_right ?_
  constructor
  · rintro ⟨c, rfl, rfl⟩
    exact ⟨hx.fine_of_ok, hx.of_ok.symm.trans hy.of_ok⟩
  · rintro ⟨hfine, rfl⟩
    obtain ⟨c, hc, rfl⟩ := hx.exists_ok hfine
    obtain ⟨c', hc', rfl⟩ := hy.exists_ok hfine
    exact ⟨c', hc, hc'⟩

variable (b) in
/-- The two spellings agree if and only if the address or the port is refused in both, or
they have one host, one token and one word for dynamic services. -/
theorem spellings_agree_iff (h : Spelled entries) :
    Agree (settings <$> loadFrpIniServer b (iniSpelling entries))
        (settings <$> loadFrpOrNativeServer b (documentSpelling entries)) ↔
      first (spelledReads b entries) = .refused ∨
        (SameHost entries ∧ SameToken entries ∧ SameAllows entries) := by
  have hini : Reads (settings <$> loadFrpIniServer b (iniSpelling entries))
      (spelledReads b entries) (· = _) := (loadFrpIniServer_spelled entries).map fun _ hc => hc
  have hdocument : Reads (settings <$> loadFrpOrNativeServer b (documentSpelling entries))
      (spelledReads b entries) (· = _) := (loadFrpOrNativeServer_spelled h).map fun _ hc => hc
  rw [agree_iff_of_reads hini hdocument, ← host_iff, ← token_iff h, ← allows_iff h]
  simp only [Prod.mk.injEq, true_and]
  rcases first_spelledReads (b := b) entries with hfine | hrefused
  · simp [hfine]
  · simp [hrefused]

theorem spellings_agree_yes :
    Agree (settings <$> loadFrpIniServer noFiles.builtins
        (iniSpelling [("bind_addr", "0.0.0.0:7001"), ("allow_dynamic", "yes")]))
      (settings <$> loadFrpOrNativeServer noFiles.builtins
        (documentSpelling [("bind_addr", "0.0.0.0:7001"), ("allow_dynamic", "yes")])) := by
  have hspelled : Spelled [("bind_addr", "0.0.0.0:7001"), ("allow_dynamic", "yes")] :=
    ⟨by decide, by decide⟩
  have hiff := spellings_agree_iff noFiles.builtins hspelled
  refine hiff.mpr (.inr ⟨?_, nofun, ?_⟩)
  · intro _ hhost
    exact absurd hhost (by decide)
  · rintro text heq
    cases heq
    exact .inl (by decide)

/-- The word `off` is no to the document only. -/
theorem spellings_disagree_off :
    Spelled [("allow_dynamic", "off")] ∧
    ¬ Agree (settings <$> loadFrpIniServer noFiles.builtins
        (iniSpelling [("allow_dynamic", "off")]))
      (settings <$> loadFrpOrNativeServer noFiles.builtins
        (documentSpelling [("allow_dynamic", "off")])) := by
  have hini : settings <$> loadFrpIniServer noFiles.builtins
      (iniSpelling [("allow_dynamic", "off")]) = .ok ("0.0.0.0", 7000, none, true) := rfl
  have hdocument : settings <$> loadFrpOrNativeServer noFiles.builtins
      (documentSpelling [("allow_dynamic", "off")]) = .ok ("0.0.0.0", 7000, none, false) := rfl
  refine ⟨⟨by decide, by decide⟩, ?_⟩
  rintro (⟨c, hc, hc'⟩ | ⟨⟨text, herror⟩, -⟩)
  · cases hini.symm.trans hc
    cases hdocument.symm.trans hc'
  · cases hini.symm.trans herror

end Config

end PyFrp
