import PyFrp.Client.Trust
import PyFrp.Server.Config

/-!
# What a configless server restores (`cli.py`, `security.py`)

The token of its port pool, and its TLS certificate and key. Both are fresh
unless the environment has them from an earlier child.
-/

namespace PyFrp

open Python Coop

def poolTokenEnv := "PY_FRP_RESTART_POOL_TOKEN"
def restartCertEnv := "PY_FRP_RESTART_TLS_CERT"
def restartKeyEnv := "PY_FRP_RESTART_TLS_KEY"

/-- `base64.b64encode` and `b64decode` with `validate`, where `none` is a `ValueError`. -/
structure Base64 where
  encode : Bytes → String
  decode : String → Option Bytes
  decode_encode : ∀ bytes, decode (encode bytes) = some bytes
  decode_empty : decode "" = some []

/-- `cryptography` and `ssl`: the digest of the certificate in a PEM file, and
whether a certificate and a key are loaded into a context. -/
structure TlsLibrary where
  certificateDigest : Bytes → Option Digest
  loadCertChain : Bytes → Bytes → Bool
  certificateDigest_empty : certificateDigest [] = none
  loadCertChain_empty : ∀ certificate, loadCertChain certificate [] = false

/-! ## Tokens -/

/-- The letters and digits, without those that look alike. -/
def tokenAlphabet : List Char :=
  "abcdefghijklmnopqrstuvwxyzABCDEFGHIJKLMNOPQRSTUVWXYZ0123456789".toList.filter
    fun c => c ∉ "IO01l".toList

/-- `generate_tokens(1, length=length)`. The characters are those `choose` picks. -/
def generateToken (length : Int) (choose : Nat → Fin tokenAlphabet.length) :
    Except ChildError String :=
  if length ≤ 0 then .error (.config "token length must be greater than zero")
  else .ok (String.ofList ((List.range length.toNat).map fun i => tokenAlphabet.get (choose i)))

/-- The command line of a configless server, with `--port-pool` parsed. -/
structure ServerArgs where
  bindHost : String
  bindPort : Int
  portPool : List Int
  poolBindHost : Option String
  tokenLength : Int

/-- The configuration of a configless server with the given token. -/
def ServerArgs.config (args : ServerArgs) (token : String) : ServerConfig where
  bindHost := args.bindHost
  bindPort := args.bindPort
  services := []
  allowDynamic := false
  sourceFlavor := "token-pool"
  portPool := args.portPool
  poolTokens := [token]
  poolBindHost := (args.poolBindHost.filter (· ≠ "")).getD args.bindHost

/-- `_load_server_command_config` without `--config`. -/
def loadServerCommandConfig (args : ServerArgs) (environ : Environment)
    (choose : Nat → Fin tokenAlphabet.length) : Except ChildError ServerConfig :=
  match envGiven environ poolTokenEnv with
  | some preserved => .ok (args.config preserved)
  | none => (generateToken args.tokenLength choose).map args.config

/-! ## TLS material -/

structure ServerTLS where
  fingerprint : String
  certificatePem : Bytes
  privateKeyPem : Bytes
  deriving DecidableEq

def restoredTlsMaterial (base64 : Base64) (environ : Environment) :
    Except SecurityError (Option (Bytes × Bytes)) :=
  match envGiven environ restartCertEnv, envGiven environ restartKeyEnv with
  | none, none => .ok none
  | some certificate, some privateKey =>
      match base64.decode certificate, base64.decode privateKey with
      | some certificate, some privateKey => .ok (some (certificate, privateKey))
      | _, _ => .error ⟨"preserved TLS restart state is invalid"⟩
  | _, _ => .error ⟨"preserved TLS restart state is incomplete"⟩

/-- The part of `create_server_tls` that checks the material. -/
def loadTlsMaterial (tls : TlsLibrary) (material : Bytes × Bytes) :
    Except SecurityError ServerTLS :=
  match tls.certificateDigest material.1 with
  | none => .error ⟨"preserved TLS certificate is invalid"⟩
  | some digest =>
      if tls.loadCertChain material.1 material.2 then
        .ok ⟨formatFingerprint digest, material.1, material.2⟩
      else .error ⟨"preserved TLS certificate and private key are invalid"⟩

/-- `create_server_tls`. `generated` is what `_generate_tls_material` makes. -/
def createServerTls (base64 : Base64) (tls : TlsLibrary) (environ : Environment)
    (generated : Bytes × Bytes) : Except SecurityError ServerTLS :=
  match restoredTlsMaterial base64 environ with
  | .error e => .error e
  | .ok restored => loadTlsMaterial tls (restored.getD generated)

def ServerTLS.preserveForRestart (base64 : Base64) (t : ServerTLS) (environ : Environment) :
    Environment :=
  (environ.set restartCertEnv (base64.encode t.certificatePem)).set restartKeyEnv
    (base64.encode t.privateKeyPem)

/-! ## The role of a configless server -/

structure ServerIdentity where
  config : ServerConfig
  tls : ServerTLS
  deriving DecidableEq

/-- The random choices of a server that restores nothing. -/
structure Fresh where
  choose : Nat → Fin tokenAlphabet.length
  material : Bytes × Bytes

/-- The server loads its configuration, and then starts. -/
def loadServer (base64 : Base64) (tls : TlsLibrary) (args : ServerArgs) (environ : Environment)
    (fresh : Fresh) : Except ChildError ServerIdentity :=
  match loadServerCommandConfig args environ fresh.choose with
  | .error e => .error e
  | .ok config =>
      match createServerTls base64 tls environ fresh.material with
      | .error e => .error (.security e)
      | .ok t => .ok ⟨config, t⟩

def preserveServerRestartState (base64 : Base64) (environ : Environment) (i : ServerIdentity) :
    Environment :=
  let environ :=
    match i.config.poolTokens with
    | token :: _ =>
        if i.config.sourceFlavor = "token-pool" then environ.set poolTokenEnv token else environ
    | [] => environ
  i.tls.preserveForRestart base64 environ

/-- A configless server. It asks the user nothing. -/
def serverRole (base64 : Base64) (tls : TlsLibrary) (args : ServerArgs) :
    Role ServerIdentity Fresh Unit where
  load := loadServer base64 tls args
  asks _ := false
  learn _ _ := none
  preserve environ i := .ok (preserveServerRestartState base64 environ i)

/-- The configuration has a token, and the material passed its check. -/
def ServerIdentityOk (tls : TlsLibrary) (args : ServerArgs) (i : ServerIdentity) : Prop :=
  ∃ token certificate privateKey, token ≠ "" ∧ i.config = args.config token ∧
    loadTlsMaterial tls (certificate, privateKey) = .ok i.tls

theorem loadServerCommandConfig_eq {args : ServerArgs} {environ : Environment}
    {choose : Nat → Fin tokenAlphabet.length} {config : ServerConfig}
    (h : loadServerCommandConfig args environ choose = .ok config) :
    ∃ token, token ≠ "" ∧ config = args.config token := by
  unfold loadServerCommandConfig at h
  split at h
  · rename_i preserved hpreserved
    cases h
    rw [envGiven, Option.filter_eq_some_iff] at hpreserved
    exact ⟨preserved, by simpa using hpreserved.2, rfl⟩
  · obtain ⟨token, htoken, hconfig⟩ := map_eq_ok.mp h
    refine ⟨token, ?_, hconfig.symm⟩
    unfold generateToken at htoken
    split at htoken
    · cases htoken
    · rename_i hpos
      cases htoken
      intro hempty
      have hlength := congrArg (fun text => text.toList.length) hempty
      simp only [String.toList_ofList, List.length_map, List.length_range] at hlength
      have : args.tokenLength.toNat = 0 := hlength
      omega

theorem loadTlsMaterial_eq {tls : TlsLibrary} {material : Bytes × Bytes} {t : ServerTLS}
    (h : loadTlsMaterial tls material = .ok t) :
    t.certificatePem = material.1 ∧ t.privateKeyPem = material.2 ∧ material.1 ≠ [] ∧
      material.2 ≠ [] := by
  unfold loadTlsMaterial at h
  split at h
  · cases h
  · rename_i digest hdigest
    split at h
    · rename_i hchain
      cases h
      refine ⟨rfl, rfl, fun hnil => ?_, fun hnil => ?_⟩
      · rw [hnil, tls.certificateDigest_empty] at hdigest
        cases hdigest
      · rw [hnil, tls.loadCertChain_empty] at hchain
        cases hchain
    · cases h

theorem Base64.encode_ne_empty (base64 : Base64) {bytes : Bytes} (h : bytes ≠ []) :
    base64.encode bytes ≠ "" := by
  intro hempty
  have hdecode := base64.decode_encode bytes
  rw [hempty, base64.decode_empty] at hdecode
  exact h (Option.some.inj hdecode).symm

theorem envGiven_of_get? {environ : Environment} {key value : String}
    (h : environ.get? key = some value) (hne : value ≠ "") : envGiven environ key = some value := by
  rw [envGiven, h, Option.filter_some, if_pos (by simp [hne])]

theorem serverRole_restores (base64 : Base64) (tls : TlsLibrary) (args : ServerArgs) :
    (serverRole base64 tls args).Restores (ServerIdentityOk tls args) where
  valid_load {environ fresh i} h := by
    simp only [serverRole, loadServer] at h
    split at h
    · cases h
    · rename_i config hconfig
      split at h
      · cases h
      · rename_i t ht
        cases h
        obtain ⟨token, hne, heq⟩ := loadServerCommandConfig_eq hconfig
        unfold createServerTls at ht
        split at ht
        · cases ht
        · exact ⟨token, _, _, hne, heq, ht⟩
  valid_learn _ hasks _ := nomatch hasks
  settled _ := rfl
  restores {environ i environ' environ'' fresh} hvalid hpreserve hsame := by
    obtain ⟨token, certificate, privateKey, hne, hconfig, hload⟩ := hvalid
    obtain ⟨hcert, hkey, hcertificate, hprivateKey⟩ := loadTlsMaterial_eq hload
    have henviron : environ' = ((environ.set poolTokenEnv token).set restartCertEnv
        (base64.encode certificate)).set restartKeyEnv (base64.encode privateKey) := by
      rw [← Except.ok.inj hpreserve, preserveServerRestartState, hconfig]
      show ((environ.set poolTokenEnv token).set restartCertEnv
        (base64.encode i.tls.certificatePem)).set restartKeyEnv
          (base64.encode i.tls.privateKeyPem) = _
      rw [hcert, hkey]
    have htoken : envGiven environ'' poolTokenEnv = some token := by
      refine envGiven_of_get? ?_ hne
      rw [hsame.get? (by decide), henviron, Dict.get?_set, if_neg (by decide), Dict.get?_set,
        if_neg (by decide), Dict.get?_set, if_pos rfl]
    have hgivenCert : envGiven environ'' restartCertEnv = some (base64.encode certificate) := by
      refine envGiven_of_get? ?_ (base64.encode_ne_empty hcertificate)
      rw [hsame.get? (by decide), henviron, Dict.get?_set, if_neg (by decide), Dict.get?_set,
        if_pos rfl]
    have hgivenKey : envGiven environ'' restartKeyEnv = some (base64.encode privateKey) := by
      refine envGiven_of_get? ?_ (base64.encode_ne_empty hprivateKey)
      rw [hsame.get? (by decide), henviron, Dict.get?_set, if_pos rfl]
    have hrestored : restoredTlsMaterial base64 environ'' = .ok (some (certificate, privateKey)) := by
      rw [restoredTlsMaterial, hgivenCert, hgivenKey]
      simp only [base64.decode_encode]
    have hcommand : loadServerCommandConfig args environ'' fresh.choose = .ok i.config := by
      rw [loadServerCommandConfig, htoken, hconfig]
    show loadServer base64 tls args environ'' fresh = .ok i
    simp only [loadServer, hcommand, createServerTls, hrestored, Option.getD_some, hload]

end PyFrp
