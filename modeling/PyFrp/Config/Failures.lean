import PyFrp.Config.Load

/-!
# Files that cannot be loaded

What is wrong with a file before its settings are looked at, and what the loaders
make of it.
-/

namespace PyFrp

open Python

namespace Config

inductive Failure
  /-- `open` raises `OSError`: there is no such file, or it cannot be opened. -/
  | unopened
  /-- `open` raises `ValueError`. -/
  | noPath
  | notUtf8
  | malformed
  /-- The parser gives up on the document for another reason. -/
  | unparsed
  deriving DecidableEq

def failureOf : ParseError → Failure
  | .malformed _ => .malformed
  | _ => .unparsed

/-- What the parser that the suffix chooses raises, if it does. -/
def parseError (w : World) (path : ConfigPath) (text : List Char) : Option ParseError :=
  if isIni path then
    match w.ini (universalNewlines text) with
    | .error e => some e
    | .ok _ => none
  else if isJson path then
    match w.json (universalNewlines text) with
    | .error e => some e
    | .ok _ => none
  else
    match w.toml text with
    | .error e => some e
    | .ok _ => none

/-- What is wrong with the file. -/
def failure (w : World) (path : ConfigPath) : Option Failure :=
  match w.files path with
  | .error (.os _) => some .unopened
  | .error .value => some .noPath
  | .ok data =>
      match decodeUtf8 data with
      | none => some .notUtf8
      | some text => (parseError w path text).map failureOf

/-- The handlers name what went wrong. -/
def Failure.Named : Failure → Prop
  | .unopened => True
  | .malformed => True
  | _ => False

/-- A `ConfigError` is raised. -/
def RaisesConfigError {α : Type} (r : Load α) : Prop := ∃ text, r = .error (.config text)

variable {w : World} {path : ConfigPath} {f : Failure}

theorem invalidSyntax_iff (path : ConfigPath) (e : ParseError) :
    (∃ text, invalidSyntax path e = .config text) ↔ (failureOf e).Named := by
  cases e with
  | malformed text => exact ⟨fun _ => trivial, fun _ => ⟨_, rfl⟩⟩
  | value => exact ⟨nofun, nofun⟩
  | recursion => exact ⟨nofun, nofun⟩

theorem unnamed_ne_config (e : ParseError) (text : String) : unnamed e ≠ .config text := by
  cases e <;> exact nofun

/-- The ways in which a file fails. -/
theorem failure_cases (hf : failure w path = some f) :
    (∃ text, w.files path = .error (.os text) ∧ f = .unopened) ∨
    (w.files path = .error .value ∧ f = .noPath) ∨
    ∃ data, w.files path = .ok data ∧
      ((decodeUtf8 data = none ∧ f = .notUtf8) ∨
        ∃ text e, decodeUtf8 data = some text ∧ parseError w path text = some e ∧
          f = failureOf e) := by
  unfold failure at hf
  split at hf
  · rename_i text hfile
    exact .inl ⟨text, hfile, (Option.some.inj hf).symm⟩
  · rename_i hfile
    exact .inr (.inl ⟨hfile, (Option.some.inj hf).symm⟩)
  · rename_i data hfile
    refine .inr (.inr ⟨data, hfile, ?_⟩)
    split at hf
    · rename_i htext
      exact .inl ⟨htext, (Option.some.inj hf).symm⟩
    · rename_i text htext
      obtain ⟨e, he, rfl⟩ := Option.map_eq_some_iff.mp hf
      exact .inr ⟨text, e, htext, he, rfl⟩

theorem parse_document {text : List Char} {e : ParseError} (hini : isIni path = false)
    (he : parseError w path text = some e) :
    (isJson path = true ∧ w.json (universalNewlines text) = .error e) ∨
      (isJson path = false ∧ w.toml text = .error e) := by
  unfold parseError at he
  rw [hini, if_neg Bool.false_ne_true] at he
  split at he
  · rename_i hjson
    split at he
    · rename_i hparse
      exact .inl ⟨hjson, Option.some.inj he ▸ hparse⟩
    · cases he
  · rename_i hjson
    split at he
    · rename_i hparse
      exact .inr ⟨Bool.eq_false_iff.mpr hjson, Option.some.inj he ▸ hparse⟩
    · cases he

theorem parse_ini {text : List Char} {e : ParseError} (hini : isIni path = true)
    (he : parseError w path text = some e) : w.ini (universalNewlines text) = .error e := by
  unfold parseError at he
  rw [if_pos hini] at he
  split at he
  · rename_i hparse
    exact Option.some.inj he ▸ hparse
  · cases he

/-- Of a TOML or JSON file that fails, a `ConfigError` is made if the failure is named. -/
theorem loadMappingFile_failure (hini : isIni path = false) (hf : failure w path = some f) :
    ∃ e, loadMappingFile w path = .error e ∧ ((∃ text, e = .config text) ↔ f.Named) := by
  unfold loadMappingFile
  rcases failure_cases hf with ⟨text, hfile, rfl⟩ | ⟨hfile, rfl⟩ |
    ⟨data, hfile, ⟨htext, rfl⟩ | ⟨text, e, htext, he, rfl⟩⟩
  · rw [hfile]
    exact ⟨_, rfl, fun _ => trivial, fun _ => ⟨_, rfl⟩⟩
  · rw [hfile]
    exact ⟨_, rfl, nofun, nofun⟩
  · simp only [hfile, htext]
    exact ⟨_, rfl, nofun, nofun⟩
  · refine ⟨invalidSyntax path e, ?_, invalidSyntax_iff path e⟩
    simp only [hfile, htext]
    rcases parse_document hini he with ⟨hjson, hparse⟩ | ⟨hjson, hparse⟩
    · rw [if_pos hjson, hparse]
    · rw [if_neg (Bool.eq_false_iff.mp hjson), hparse]
      rfl

/-- An INI file that cannot be opened is read as an empty one. -/
theorem loadIni_unopened (hf : failure w path = some .unopened) : loadIni w path = .ok .empty := by
  unfold loadIni
  rcases failure_cases hf with ⟨text, hfile, -⟩ | ⟨-, h⟩ | ⟨-, -, ⟨-, h⟩ | ⟨-, e, -, -, h⟩⟩
  · rw [hfile]
  · cases h
  · cases h
  · cases e <;> cases h

/-- Any other failure of an INI file is raised as it is. -/
theorem loadIni_failure (hini : isIni path = true) (hf : failure w path = some f)
    (hopened : f ≠ .unopened) : ∃ e, loadIni w path = .error e ∧ ∀ text, e ≠ .config text := by
  unfold loadIni
  rcases failure_cases hf with ⟨text, hfile, rfl⟩ | ⟨hfile, rfl⟩ |
    ⟨data, hfile, ⟨htext, rfl⟩ | ⟨text, e, htext, he, rfl⟩⟩
  · exact absurd rfl hopened
  · rw [hfile]
    exact ⟨_, rfl, nofun⟩
  · simp only [hfile, htext]
    exact ⟨_, rfl, nofun⟩
  · refine ⟨unnamed e, ?_, unnamed_ne_config e⟩
    simp only [hfile, htext, parse_ini hini he]
    rfl

/-- The settings of a server that is given none. -/
theorem loadFrpIniServer_empty (b : Builtins) :
    loadFrpIniServer b .empty = .ok { sourceFlavor := "frp-ini" } := by
  rfl

/-! ## The loaders -/

/-- How a file that fails is loaded: neither loader gets to its settings, except that an INI
file that cannot be opened has none. -/
theorem load_failure (hf : failure w path = some f) :
    (∃ e, loadServerConfig w path = .error e ∧ loadClientConfig w path = .error e ∧
      ((∃ text, e = .config text) ↔ isIni path = false ∧ f.Named) ∧
      ¬ (isIni path = true ∧ f = .unopened)) ∨
    (isIni path = true ∧ f = .unopened ∧
      loadServerConfig w path = .ok { sourceFlavor := "frp-ini" } ∧
      RaisesConfigError (loadClientConfig w path)) := by
  unfold loadServerConfig loadClientConfig
  cases hini : isIni path with
  | false =>
      obtain ⟨e, he, hnamed⟩ := loadMappingFile_failure hini hf
      refine .inl ⟨e, ?_, ?_, ?_, nofun⟩
      · rw [if_neg Bool.false_ne_true, he]
        rfl
      · rw [if_neg Bool.false_ne_true, he]
        rfl
      · rw [hnamed]
        exact ⟨fun h => ⟨rfl, h⟩, fun h => h.2⟩
  | true =>
      by_cases hopened : f = .unopened
      · rw [hopened] at hf
        refine .inr ⟨rfl, hopened, ?_, ?_⟩
        · rw [if_pos rfl, loadIni_unopened hf]
          exact loadFrpIniServer_empty w.builtins
        · rw [if_pos rfl, loadIni_unopened hf]
          exact ⟨_, rfl⟩
      · obtain ⟨e, he, hnot⟩ := loadIni_failure hini hf hopened
        refine .inl ⟨e, ?_, ?_, ?_, fun h => hopened h.2⟩
        · rw [if_pos rfl, he]
          rfl
        · rw [if_pos rfl, he]
          rfl
        · exact ⟨fun ⟨text, h⟩ => absurd h (hnot text), nofun⟩

theorem raisesConfigError_error {α : Type} (e : LoadError) :
    RaisesConfigError (.error e : Load α) ↔ ∃ text, e = .config text := by
  constructor
  · rintro ⟨text, h⟩
    exact ⟨text, Except.error.inj h⟩
  · rintro ⟨text, rfl⟩
    exact ⟨text, rfl⟩

/-- Both loaders raise `ConfigError` for a file that fails exactly if it is a TOML or JSON file
whose failure is named by a handler. The one of the client does so for an INI file that cannot
be opened, too. -/
theorem load_fails_closed_iff (w : World) (path : ConfigPath) :
    ((∀ f, failure w path = some f →
        RaisesConfigError (loadServerConfig w path) ∧
          RaisesConfigError (loadClientConfig w path)) ↔
      ∀ f, failure w path = some f → isIni path = false ∧ f.Named) ∧
    ((∀ f, failure w path = some f → RaisesConfigError (loadClientConfig w path)) ↔
      ∀ f, failure w path = some f →
        (isIni path = false ∧ f.Named) ∨ (isIni path = true ∧ f = .unopened)) := by
  constructor
  · refine forall_congr' fun f => imp_congr_right fun hf => ?_
    rcases load_failure hf with ⟨e, hserver, hclient, hnamed, -⟩ | ⟨hini, -, hserver, -⟩
    · rw [hserver, hclient, raisesConfigError_error, raisesConfigError_error, and_self, hnamed]
    · rw [hserver, hini]
      exact ⟨fun ⟨⟨_, h⟩, _⟩ => (nomatch h), nofun⟩
  · refine forall_congr' fun f => imp_congr_right fun hf => ?_
    rcases load_failure hf with ⟨e, -, hclient, hnamed, hnot⟩ | ⟨hini, hopened, -, hclient⟩
    · rw [hclient, raisesConfigError_error, hnamed, or_iff_left hnot]
    · exact iff_of_true hclient (.inr ⟨hini, hopened⟩)

/-- A world with no files. -/
def noFiles : World where
  builtins := ⟨fun _ => "", fun _ => none, 1000⟩
  files path := .error (.os ("[Errno 2] No such file or directory: '" ++ path.text ++ "'"))
  json _ := .error (.malformed "Expecting value: line 1 column 1 (char 0)")
  toml _ := .ok []
  ini _ := .ok .empty

/-- A server is started without a token and for any service when its INI file is missing. -/
theorem missing_ini_server :
    failure noFiles ⟨"frps.ini", "frps.ini"⟩ = some .unopened ∧
      loadServerConfig noFiles ⟨"frps.ini", "frps.ini"⟩ =
        .ok { token := none, allowDynamic := true, sourceFlavor := "frp-ini" } ∧
      ¬ RaisesConfigError (loadServerConfig noFiles ⟨"frps.ini", "frps.ini"⟩) := by
  have hserver : loadServerConfig noFiles ⟨"frps.ini", "frps.ini"⟩ =
      .ok { sourceFlavor := "frp-ini" } := by rfl
  refine ⟨rfl, hserver, ?_⟩
  rw [hserver]
  rintro ⟨text, h⟩
  cases h

end Config

end PyFrp
