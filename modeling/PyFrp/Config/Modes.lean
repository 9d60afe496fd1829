import PyFrp.Config.Readings

/-!
# The mode of a document and its layout

A document may say by its `mode` that it has the settings of a native server in the
table `server`. The layout is chosen by the keys of this table alone. Unless these
are keys of rathole, the two agree.
-/

namespace PyFrp

open Python Validation

namespace Config

variable {b : Builtins} {α : Type}

/-- The same is returned, or both raise a `ConfigError`. -/
def Agree (x y : Load α) : Prop :=
  (∃ c, x = .ok c ∧ y = .ok c) ∨ (RaisesConfigError x ∧ RaisesConfigError y)

/-- The document says that the table has the settings of a native server. -/
structure NativeMode (data table : Fields) : Prop where
  mode : (getAny data ["mode"]).isText "server" = true
  server : getAny data ["server"] = .dict table
  nonempty : table ≠ []

/-! ## The token of the table -/

theorem nativeRoot_of_mode {data table : Fields} (h : NativeMode data table) :
    nativeRoot data = table := by
  unfold nativeRoot
  rw [h.server, h.mode]
  cases table with
  | nil => exact absurd rfl h.nonempty
  | cons e es => rfl

theorem getAny_cons_of_ne {mapping : Fields} {key : String} (keys : List String)
    (h : getAny mapping [key] ≠ .none) (default : Value) :
    getAny mapping (key :: keys) default = getAny mapping [key] := by
  unfold getAny at h ⊢
  rw [List.find?_cons] at h ⊢
  rw [List.find?_cons]
  cases hkey : hasKey mapping key with
  | true => rfl
  | false =>
      rw [hkey] at h
      exact absurd rfl h

theorem token_of_settings {data table : Fields} {token : String} {c : ServerConfig}
    (hmode : NativeMode data table)
    (htoken : tokenOf b (getAny table ["token"]) = some token) (h : NativeSettings b data c) :
    c.token = some token := by
  have hne : getAny table ["token"] ≠ .none := by
    intro hnone
    rw [hnone] at htoken
    cases htoken
  rw [h.token, nativeRoot_of_mode hmode, getAny_cons_of_ne _ hne, htoken]

/-! ## The loader that is chosen -/

theorem loadServerConfig_of_mapping {w : World} {path : ConfigPath} {data : Fields}
    (hini : isIni path = false) (hdata : loadMappingFile w path = .ok data) :
    loadServerConfig w path =
      if looksLikeRatholeServer data then loadRatholeServer w.builtins data
      else loadFrpOrNativeServer w.builtins data := by
  unfold loadServerConfig
  rw [hini, hdata]
  rfl

theorem agree_self_iff (x : Load α) :
    Agree x x ↔ (∃ c, x = .ok c) ∨ RaisesConfigError x := by
  unfold Agree
  rw [and_self]
  refine or_congr_left ?_
  exact ⟨fun ⟨c, hc, _⟩ => ⟨c, hc⟩, fun ⟨c, hc⟩ => ⟨c, hc, hc⟩⟩

/-- The two layouts never give the same configuration. -/
theorem agree_rathole_iff (data : Fields) :
    Agree (loadRatholeServer b data) (loadFrpOrNativeServer b data) ↔
      RaisesConfigError (loadRatholeServer b data) ∧
        RaisesConfigError (loadFrpOrNativeServer b data) := by
  constructor
  · rintro (⟨c, hrathole, hnative⟩ | hboth)
    · have hread := loadRatholeServer_reads (b := b) data
      have hread' := loadFrpOrNativeServer_reads (b := b) data
      rw [hrathole] at hread
      rw [hnative] at hread'
      have hflavor := hread'.of_ok.2.sourceFlavor
      rw [hread.of_ok.2] at hflavor
      split at hflavor <;> exact absurd hflavor (by decide)
    · exact hboth
  · exact .inr

/-- For a document with the mode of a native server, the loader agrees with the native one
if and only if the keys are not those of rathole and no other error escapes, or both layouts
refuse the document. The token of the table is then never lost. -/
theorem loadServerConfig_agrees_iff {w : World} {path : ConfigPath} {data table : Fields}
    (hini : isIni path = false) (hdata : loadMappingFile w path = .ok data)
    (hmode : NativeMode data table) :
    (Agree (loadServerConfig w path) (loadFrpOrNativeServer w.builtins data) ∧
      ∀ token, tokenOf w.builtins (getAny table ["token"]) = some token →
        ∀ c, loadServerConfig w path = .ok c → c.token = some token) ↔
    (looksLikeRatholeServer data = false ∧
      (first (nativeServerReads w.builtins data) = .fine ∨
        first (nativeServerReads w.builtins data) = .refused)) ∨
    (looksLikeRatholeServer data = true ∧
      first (ratholeServerReads w.builtins data) = .refused ∧
        first (nativeServerReads w.builtins data) = .refused) := by
  have hnative := loadFrpOrNativeServer_reads (b := w.builtins) data
  have hrathole := loadRatholeServer_reads (b := w.builtins) data
  rw [loadServerConfig_of_mapping hini hdata, ← hnative.returns_iff, ← hnative.raises_iff,
    ← hrathole.raises_iff]
  cases hlooks : looksLikeRatholeServer data with
  | false =>
      rw [if_neg Bool.false_ne_true, agree_self_iff]
      constructor
      · rintro ⟨hsettled, -⟩
        exact .inl ⟨rfl, hsettled⟩
      · rintro (⟨-, hsettled⟩ | ⟨hfalse, -⟩)
        · refine ⟨hsettled, fun token htoken c hc => ?_⟩
          rw [hc] at hnative
          exact token_of_settings hmode htoken hnative.of_ok.2
        · cases hfalse
  | true =>
      rw [if_pos rfl, agree_rathole_iff data]
      constructor
      · rintro ⟨hboth, -⟩
        exact .inr ⟨rfl, hboth⟩
      · rintro (⟨hfalse, -⟩ | ⟨-, hboth⟩)
        · cases hfalse
        · refine ⟨hboth, fun token _ c hc => ?_⟩
          obtain ⟨text, herror⟩ := hboth.1
          cases herror.symm.trans hc

/-- A world in which every file has the document. -/
def documentWorld (data : Fields) : World where
  builtins := ⟨fun _ => "", fun _ => none, 1000⟩
  files _ := .ok []
  json _ := .ok (.dict data)
  toml _ := .ok data
  ini _ := .ok .empty

/-- The mode of a native server, whose port has a field of its own. -/
def fieldsDocument : Fields :=
  [("mode", .str "server"),
    ("server", .dict [("bind_port", .int 7000), ("token", .str "secret")])]

theorem loadServerConfig_agrees_fields :
    Agree (loadServerConfig (documentWorld fieldsDocument) ⟨"frps.toml", "frps.toml"⟩)
      (loadFrpOrNativeServer (documentWorld fieldsDocument).builtins fieldsDocument) := by
  have hmode : NativeMode fieldsDocument [("bind_port", .int 7000), ("token", .str "secret")] :=
    ⟨rfl, rfl, nofun⟩
  have hini : isIni ⟨"frps.toml", "frps.toml"⟩ = false := rfl
  have hiff := loadServerConfig_agrees_iff (w := documentWorld fieldsDocument) hini rfl hmode
  have hlooks : looksLikeRatholeServer fieldsDocument = false := rfl
  exact (hiff.mpr (.inl ⟨hlooks, .inl rfl⟩)).1

/-- The mode of a native server, whose port is part of its address. -/
def addressDocument : Fields :=
  [("mode", .str "server"),
    ("server", .dict [("bind_addr", .str "0.0.0.0:7000"), ("token", .str "secret")])]

/-- The token is lost with the address in one field. -/
theorem native_token_lost :
    NativeMode addressDocument
      [("bind_addr", .str "0.0.0.0:7000"), ("token", .str "secret")] ∧
    loadServerConfig (documentWorld addressDocument) ⟨"frps.toml", "frps.toml"⟩ =
      .ok { token := none, allowDynamic := false, sourceFlavor := "rathole" } ∧
    ¬ Agree (loadServerConfig (documentWorld addressDocument) ⟨"frps.toml", "frps.toml"⟩)
      (loadFrpOrNativeServer (documentWorld addressDocument).builtins addressDocument) := by
  have hload : loadServerConfig (documentWorld addressDocument) ⟨"frps.toml", "frps.toml"⟩ =
      .ok { token := none, allowDynamic := false, sourceFlavor := "rathole" } := rfl
  have hnative : loadFrpOrNativeServer (documentWorld addressDocument).builtins
      addressDocument = .ok { token := some "secret", sourceFlavor := "py-frp" } := rfl
  refine ⟨⟨rfl, rfl, nofun⟩, hload, ?_⟩
  rintro (⟨c, hc, hc'⟩ | ⟨⟨text, herror⟩, -⟩)
  · cases hload.symm.trans hc
    cases hnative.symm.trans hc'
  · cases hload.symm.trans herror

end Config

end PyFrp
