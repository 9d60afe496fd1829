import PyFrp.Coding.Base64
import PyFrp.Server.Restored
import PyFrp.Supervisor.Continuity

/-!
# Identities over any number of restarts

The role of a configless server and the role of a client restore what they
preserve, so that continuity holds of both.
-/

namespace PyFrp

open Python Coop

/-- The children of a configless server use one token and one certificate with its
key. Those of a client start with the fingerprint that the first one ended with, and
only the first one asks the user. -/
theorem identity_continuity (config : SupervisorConfig) (environ : Environment) (base64 : Base64)
    (tls : TlsLibrary) (args : ServerArgs) (sha256 : Bytes → Digest)
    (serverFingerprint : Option String) :
    (∀ s, (identityRun (serverRole base64 tls args) config environ).Reachable s →
      ∀ i ∈ s.loaded, s.loaded.getLast? = some i) ∧
    ∀ s, (identityRun (clientRole sha256 serverFingerprint) config environ).Reachable s →
      (∀ trusted ∈ s.loaded.dropLast, trusted.isSome = true ∧
        s.handed.getLast? = some trusted) ∧ ∀ n ∈ s.asked, n = 1 := by
  refine ⟨fun s h => ?_, fun s h => ?_⟩
  · obtain ⟨-, hasked, hsame⟩ := IdentityRun.continuity (serverRole_restores base64 tls args) h
    refine hsame (List.eq_nil_iff_forall_not_mem.mpr fun n hn => ?_)
    obtain ⟨-, i, hasks⟩ := hasked n hn
    cases hasks
  · obtain ⟨hkept, hasked, -⟩ :=
      IdentityRun.continuity (clientRole_restores sha256 serverFingerprint) h
    refine ⟨fun trusted ht => ?_, fun n hn => (hasked n hn).1⟩
    obtain ⟨hsettled, hhanded⟩ := hkept trusted ht
    refine ⟨?_, hhanded⟩
    have hnone : trusted.isNone = false := hsettled
    rw [← Option.not_isNone, hnone]
    rfl

/-! ## A server and a client that are replaced -/

def exampleBase64 : Base64 where
  encode bytes := String.ofList (Coding.Base64.encode bytes)
  decode text := Coding.Base64.decode text.toList
  decode_encode bytes := by rw [String.toList_ofList, Coding.Base64.decode_encode]
  decode_empty := rfl

/-- The bytes of a PEM file, of which the first dash is left out. -/
def pemBytes (text : String) : Bytes := 45 :: text.toList.map fun c => UInt8.ofNat c.toNat

/-- An Ed25519 certificate that signs itself. -/
def exampleCertificate : Bytes := pemBytes
  "----BEGIN CERTIFICATE-----
MIHSMIGFAhRDRd7Sq5lD5/STr5Jm7ZjNtBbOojAFBgMrZXAwDDEKMAgGA1UEAwwB
YTAeFw0yNjExMjAwMjM5NDVaFw0yNjExMjcwMjM5NDVaMAwxCjAIBgNVBAMMAWEw
KjAFBgMrZXADIQC+FG2E/rHEJrvTmtt0eawiTQvmM6AhK36kpnZIZNh7szAFBgMr
ZXADQQAK7N4/qz/VILPR269m28XX+ZaxdayJdzL3bAJlLaZO8zJZimI6lhCtX2Y9
bGfQJ1zKx09AbbamGJ8Nq7QdaLUJ
-----END CERTIFICATE-----
"

/-- Its key. -/
def examplePrivateKey : Bytes := pemBytes
  "----BEGIN PRIVATE KEY-----
MC4CAQAwBQYDK2VwBCIEIASCoLSfRlZ3gDesD4USwBU+xiEX8keESgLJf8OLJp/c
-----END PRIVATE KEY-----
"

/-- The SHA-256 digest of the certificate. -/
def exampleDigest : Digest :=
  ⟨[0x0C, 0x10, 0x6C, 0x0C, 0x7B, 0x4B, 0x65, 0x15, 0x57, 0xA7, 0x17, 0x39, 0xDC, 0xA0, 0x06, 0xF1,
    0x8D, 0x48, 0x90, 0xC8, 0xAF, 0x08, 0xF7, 0xC3, 0x63, 0x94, 0x00, 0xAF, 0x24, 0xB3, 0x00, 0x07],
    rfl⟩

/-- The library, as it is to one certificate and its key. -/
def TlsLibrary.only (certificate privateKey : Bytes) (digest : Digest) (hcert : certificate ≠ [])
    (hkey : privateKey ≠ []) : TlsLibrary where
  certificateDigest given := if given = certificate then some digest else none
  loadCertChain given key := given = certificate && key = privateKey
  certificateDigest_empty := if_neg (Ne.symm hcert)
  loadCertChain_empty given := by simp [Ne.symm hkey]

theorem loadTlsMaterial_only {certificate privateKey : Bytes} {digest : Digest}
    {hcert : certificate ≠ []} {hkey : privateKey ≠ []} :
    loadTlsMaterial (.only certificate privateKey digest hcert hkey) (certificate, privateKey) =
      .ok ⟨formatFingerprint digest, certificate, privateKey⟩ := by
  simp [loadTlsMaterial, TlsLibrary.only]

/-- A server that finds nothing to restore makes its own token and material. -/
theorem loadServer_fresh {base64 : Base64} {tls : TlsLibrary} {args : ServerArgs}
    {environ : Environment} {fresh : Fresh} {token : String} {t : ServerTLS}
    (hpool : envGiven environ poolTokenEnv = none) (hcert : envGiven environ restartCertEnv = none)
    (hkey : envGiven environ restartKeyEnv = none)
    (htoken : generateToken args.tokenLength fresh.choose = .ok token)
    (htls : loadTlsMaterial tls fresh.material = .ok t) :
    loadServer base64 tls args environ fresh = .ok ⟨args.config token, t⟩ := by
  simp only [loadServer, loadServerCommandConfig, hpool, htoken, Except.map, createServerTls,
    restoredTlsMaterial, hcert, hkey, Option.getD_none, htls]

def exampleArgs : ServerArgs := ⟨"0.0.0.0", 7000, [6000], none, 4⟩

def exampleFresh (certificate privateKey : Bytes) : Fresh :=
  ⟨fun _ => ⟨0, by decide⟩, (certificate, privateKey)⟩

/-- The server with the token of four letters and the given material. -/
def exampleServer (certificate privateKey : Bytes) (digest : Digest) : ServerIdentity :=
  ⟨exampleArgs.config "aaaa", ⟨formatFingerprint digest, certificate, privateKey⟩⟩

theorem server_replaced {certificate privateKey : Bytes} (digest : Digest)
    (hcert : certificate ≠ []) (hkey : privateKey ≠ []) :
    ∃ s, (identityRun (serverRole exampleBase64 (.only certificate privateKey digest hcert hkey)
        exampleArgs) Supervisor.exampleSupervisor .empty).Reachable s ∧
      s.loaded = [exampleServer certificate privateKey digest,
        exampleServer certificate privateKey digest] := by
  have htoken : generateToken exampleArgs.tokenLength (exampleFresh certificate privateKey).choose =
      .ok "aaaa" := rfl
  have htls : loadTlsMaterial (.only certificate privateKey digest hcert hkey)
      (exampleFresh certificate privateKey).material =
        .ok ⟨formatFingerprint digest, certificate, privateKey⟩ := loadTlsMaterial_only
  have hload : (serverRole exampleBase64 (.only certificate privateKey digest hcert hkey)
      exampleArgs).load (IdentityRun.firstChild .empty (none : Option ServerIdentity) [] []).environ
        (exampleFresh certificate privateKey) = .ok (exampleServer certificate privateKey digest) := by
    show loadServer exampleBase64 (.only certificate privateKey digest hcert hkey) exampleArgs
      (IdentityRun.firstChild .empty (none : Option ServerIdentity) [] []).environ
        (exampleFresh certificate privateKey) = .ok (exampleServer certificate privateKey digest)
    refine loadServer_fresh ?_ ?_ ?_ htoken htls
    · rfl
    · rfl
    · rfl
  obtain ⟨s, hs, hloaded, -, -⟩ := IdentityRun.exists_replaced
    (serverRole_restores exampleBase64 (.only certificate privateKey digest hcert hkey) exampleArgs)
    (exampleFresh certificate privateKey) (IdentityRun.reachable_loaded hload) rfl rfl
  exact ⟨s, hs, hloaded⟩

/-- The user affirms the certificate that the server shows to the first client. -/
theorem client_replaced {certificate : Bytes} (digest : Digest) (hcert : certificate ≠ []) :
    ∃ s, (identityRun (clientRole (fun _ => digest) none) Supervisor.exampleSupervisor
        .empty).Reachable s ∧
      s.loaded = [some (formatFingerprint digest), none] ∧ s.asked = [1] := by
  have hpeer : peerFingerprint (fun _ => digest) (.tls (some certificate)) =
      .ok (formatFingerprint digest) := by
    simp [peerFingerprint, Option.filter_some, hcert]
  have hanswer : confirmFingerprint (formatFingerprint digest) (.typed " Yes ") =
      .ok (formatFingerprint digest) := by
    simp only [confirmFingerprint]
    exact if_pos (by decide)
  have hlearn : (clientRole (fun _ => digest) none).learn none
      (.tls (some certificate), .typed " Yes ") = some (some (formatFingerprint digest)) := by
    simp only [clientRole, hpeer, hanswer, Except.toOption, Option.map_some]
  have hload : (clientRole (fun _ => digest) none).load
      (IdentityRun.firstChild .empty (none : Option (Option String)) [] []).environ () =
        .ok none := rfl
  have hasked : (identityRun (clientRole (fun _ => digest) none) Supervisor.exampleSupervisor
      .empty).Reachable
        (IdentityRun.firstChild .empty (some (some (formatFingerprint digest))) [none] [1]) :=
    (IdentityRun.reachable_loaded hload).tail trivial
      (IdentityRun.confirm_eq rfl rfl rfl hlearn)
  obtain ⟨s, hs, hloaded, -, hask⟩ := IdentityRun.exists_replaced
    (clientRole_restores (fun _ => digest) none) () hasked rfl rfl
  exact ⟨s, hs, hloaded, hask⟩

/-- Both are replaced once. -/
theorem identity_continuity_replaced :
    (∃ s : IdentityRun ServerIdentity, s.loaded.length = 2 ∧
      ∀ i ∈ s.loaded, s.loaded.getLast? = some i) ∧
    ∃ s : IdentityRun (Option String), s.loaded = [some (formatFingerprint exampleDigest), none] ∧
      s.asked = [1] ∧ (∀ trusted ∈ s.loaded.dropLast, trusted.isSome = true ∧
        s.handed.getLast? = some trusted) ∧ ∀ n ∈ s.asked, n = 1 := by
  have hcert : exampleCertificate ≠ [] := nofun
  have hkey : examplePrivateKey ≠ [] := nofun
  have hboth := identity_continuity Supervisor.exampleSupervisor .empty exampleBase64
    (.only exampleCertificate examplePrivateKey exampleDigest hcert hkey) exampleArgs
    (fun _ => exampleDigest) none
  obtain ⟨s, hs, hloaded⟩ := server_replaced exampleDigest hcert hkey
  obtain ⟨t, ht, hloaded', hasked⟩ := client_replaced exampleDigest hcert
  exact ⟨⟨s, by rw [hloaded]; rfl, hboth.1 s hs⟩, t, hloaded', hasked, hboth.2 t ht⟩

end PyFrp
