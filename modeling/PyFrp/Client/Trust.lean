import PyFrp.Supervisor.Identity

/-!
# The fingerprint a client trusts (`client.py`)

Where the fingerprint comes from, what the user is asked about a certificate, and
what is left to the next child.
-/

namespace PyFrp

open Python Coop

def restartServerFingerprintEnv := "PY_FRP_RESTART_SERVER_FINGERPRINT"

/-- A SHA-256 digest. -/
abbrev Digest := { digest : Bytes // digest.length = 32 }

/-- What `get_extra_info` tells of the server, if the writer has it. -/
inductive PeerInfo
  | unavailable
  | plain
  | tls (certificate : Option Bytes)

def peerFingerprint (sha256 : Bytes → Digest) : PeerInfo → Except SecurityError String
  | .unavailable => .error ⟨"connection does not expose TLS information"⟩
  | .plain => .error ⟨"server connection is not encrypted with TLS"⟩
  | .tls certificate =>
      match certificate.filter (· ≠ []) with
      | none => .error ⟨"server did not provide a TLS certificate"⟩
      | some certificate => .ok (formatFingerprint (sha256 certificate))

/-- What ends an attempt of the client to connect. -/
inductive ClientError
  | security (e : SecurityError)
  /-- A `FatalClientError`. -/
  | fatal (text : String)
  /-- A `ServerRestartingError`. -/
  | restarting
  /-- Any other exception. -/
  | other (text : String)

/-- What comes back from the user. -/
inductive Answer
  /-- `input` returned a line. -/
  | typed (answer : String)
  /-- `input` raised `EOFError` or `KeyboardInterrupt`. -/
  | closed
  /-- The callback returned. -/
  | callback (confirmed : Bool)
  /-- `input` or the callback raised another exception. -/
  | raised (text : String)

/-- `answer.strip().lower() in {"y", "yes"}`. The capitals of these letters are ASCII. -/
def isYes (answer : String) : Bool :=
  String.ofList ((strip answer).toList.map Char.toLower) ∈ ["y", "yes"]

/-- The end of `_verify_server_fingerprint`: the fingerprint that is trusted now. -/
def confirmFingerprint (fingerprint : String) : Answer → Except ClientError String
  | .closed => .error (.security ⟨"server fingerprint was not confirmed"⟩)
  | .raised text => .error (.other text)
  | .typed answer =>
      if isYes answer then .ok fingerprint
      else .error (.security ⟨"server fingerprint was rejected"⟩)
  | .callback confirmed =>
      if confirmed then .ok fingerprint
      else .error (.security ⟨"server fingerprint was rejected"⟩)

/-- `configured_fingerprint`. -/
def configuredFingerprint (serverFingerprint : Option String) (environ : Environment) :
    Option String :=
  serverFingerprint.filter (· ≠ "") <|> envGiven environ restartServerFingerprintEnv

/-- `_trusted_fingerprint` of a new `Client`. -/
def initialFingerprint (serverFingerprint : Option String) (environ : Environment) :
    Except SecurityError (Option String) :=
  match configuredFingerprint serverFingerprint environ with
  | none => .ok none
  | some value => (normalizeFingerprint value).map some

def preserveFingerprintForRestart (environ : Environment) :
    Option String → Except SecurityError Environment
  | none => .error ⟨"cannot restart safely before a server TLS fingerprint has been trusted"⟩
  | some fingerprint => .ok (environ.set restartServerFingerprintEnv fingerprint)

/-! ## The role of a client -/

/-- A client that is given `serverFingerprint`. Its identity is the fingerprint it
trusts; it asks the user about the certificate of the server if there is none. -/
def clientRole (sha256 : Bytes → Digest) (serverFingerprint : Option String) :
    Role (Option String) Unit (PeerInfo × Answer) where
  load environ _ := (initialFingerprint serverFingerprint environ).mapError .security
  asks trusted := trusted.isNone
  learn _ confirmation :=
    match peerFingerprint sha256 confirmation.1 with
    | .ok fingerprint => (confirmFingerprint fingerprint confirmation.2).toOption.map some
    | .error _ => none
  preserve environ trusted := (preserveFingerprintForRestart environ trusted).mapError .security

/-- The fingerprint is the configured one, or in normal form. -/
def TrustedOk (serverFingerprint trusted : Option String) : Prop :=
  match serverFingerprint.filter (· ≠ "") with
  | some value => (normalizeFingerprint value).map some = .ok trusted
  | none => ∀ fingerprint, trusted = some fingerprint →
      normalizeFingerprint fingerprint = .ok fingerprint

theorem confirmFingerprint_eq {fingerprint trusted : String} {answer : Answer}
    (h : confirmFingerprint fingerprint answer = .ok trusted) : trusted = fingerprint := by
  cases answer with
  | closed => cases h
  | raised text => cases h
  | typed answer =>
      simp only [confirmFingerprint] at h
      split at h
      · cases h
        rfl
      · cases h
  | callback confirmed =>
      simp only [confirmFingerprint] at h
      split at h
      · cases h
        rfl
      · cases h

theorem peerFingerprint_eq {sha256 : Bytes → Digest} {peer : PeerInfo} {fingerprint : String}
    (h : peerFingerprint sha256 peer = .ok fingerprint) :
    ∃ certificate, peer = .tls (some certificate) ∧
      fingerprint = formatFingerprint (sha256 certificate) := by
  cases peer with
  | unavailable => cases h
  | plain => cases h
  | tls certificate =>
      simp only [peerFingerprint] at h
      split at h
      · cases h
      · rename_i given hgiven
        cases h
        rw [Option.filter_eq_some_iff] at hgiven
        exact ⟨given, by rw [hgiven.1], rfl⟩

theorem initialFingerprint_given {serverFingerprint : Option String} {value : String}
    (h : serverFingerprint.filter (· ≠ "") = some value) (environ : Environment) :
    initialFingerprint serverFingerprint environ = (normalizeFingerprint value).map some := by
  have hconfigured : configuredFingerprint serverFingerprint environ = some value := by
    rw [configuredFingerprint, h]
    rfl
  rw [initialFingerprint, hconfigured]

/-- A fingerprint in normal form is restored as it is. -/
theorem initialFingerprint_restored {serverFingerprint : Option String} {fingerprint : String}
    {environ : Environment} (hnone : serverFingerprint.filter (· ≠ "") = none)
    (hnormal : normalizeFingerprint fingerprint = .ok fingerprint)
    (hget : environ.get? restartServerFingerprintEnv = some fingerprint) :
    initialFingerprint serverFingerprint environ = .ok (some fingerprint) := by
  have hne : fingerprint ≠ "" := normalizeFingerprint_ne_empty hnormal
  have hconfigured : configuredFingerprint serverFingerprint environ = some fingerprint := by
    rw [configuredFingerprint, hnone, envGiven, hget, Option.filter_some, if_pos (by simp [hne])]
    rfl
  rw [initialFingerprint, hconfigured]
  show (normalizeFingerprint fingerprint).map some = _
  rw [hnormal]
  rfl

theorem clientRole_restores (sha256 : Bytes → Digest) (serverFingerprint : Option String) :
    (clientRole sha256 serverFingerprint).Restores (TrustedOk serverFingerprint) where
  valid_load {environ fresh trusted} h := by
    have hinitial : initialFingerprint serverFingerprint environ = .ok trusted := mapError_eq_ok.mp h
    unfold TrustedOk
    split
    · rename_i value hvalue
      rw [← hinitial, initialFingerprint_given hvalue]
    · intro fingerprint htrusted
      unfold initialFingerprint at hinitial
      split at hinitial
      · cases hinitial
        cases htrusted
      · rename_i value hvalue
        obtain ⟨normal, hnormal, hsome⟩ := map_eq_ok.mp hinitial
        rw [← Option.some.inj (hsome.trans htrusted)]
        exact normalizeFingerprint_normal hnormal
  valid_learn {trusted confirmation trusted'} hvalid hasks h := by
    have hnone : trusted = none := Option.isNone_iff_eq_none.mp hasks
    unfold TrustedOk at hvalid ⊢
    split
    · rename_i value hvalue
      rw [hvalue] at hvalid
      obtain ⟨normal, -, hsome⟩ := map_eq_ok.mp hvalid
      rw [hnone] at hsome
      cases hsome
    · intro fingerprint htrusted
      simp only [clientRole] at h
      split at h
      · rename_i shown hshown
        obtain ⟨certificate, -, hformat⟩ := peerFingerprint_eq hshown
        cases hanswer : confirmFingerprint shown confirmation.2 with
        | error e =>
            rw [hanswer] at h
            cases h
        | ok confirmed =>
            rw [hanswer] at h
            have hsame : confirmed = fingerprint :=
              Option.some.inj ((Option.some.inj h).trans htrusted)
            rw [← hsame, confirmFingerprint_eq hanswer, hformat]
            exact normalizeFingerprint_format (sha256 certificate).2
      · cases h
  settled {environ trusted environ'} h := by
    cases trusted with
    | none => nomatch h
    | some fingerprint => rfl
  restores {environ trusted environ' environ'' fresh} hvalid hpreserve hsame := by
    cases trusted with
    | none => nomatch hpreserve
    | some fingerprint =>
        have henviron : environ.set restartServerFingerprintEnv fingerprint = environ' :=
          Except.ok.inj hpreserve
        have hget : environ''.get? restartServerFingerprintEnv = some fingerprint := by
          rw [hsame.get? (by decide), ← henviron, Dict.get?_set, if_pos rfl]
        refine mapError_eq_ok.mpr ?_
        unfold TrustedOk at hvalid
        split at hvalid
        · rename_i value hvalue
          rw [initialFingerprint_given hvalue, hvalid]
        · rename_i hnone
          exact initialFingerprint_restored hnone (hvalid fingerprint rfl) hget

end PyFrp
