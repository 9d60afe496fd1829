import PyFrp.Server.Tunnels

/-!
# The tokens of registrations and of tunnels

A tunnel message has to present the token of the pending record, which is the
one of the record of the service. A registration is checked against a token
that is computed elsewhere. The two agree except for a configured service
without a token of its own on a server that has a default token.
-/

namespace PyFrp

open Python Coop Store

variable {srv : Server} {σ : Store} {c : ClientId} {C : State → Action → Prop}

/-- No token is empty, as the loaders of configuration files see to. -/
def ServerConfig.TokensOk (config : ServerConfig) : Prop :=
  config.token ≠ some "" ∧ ∀ s ∈ config.services, s.token ≠ some ""

/-- The token a registration item provides. -/
def itemToken : Value → Value
  | .dict fields => dictGet fields "token"
  | _ => .none

/-- The same item with another token. -/
def withToken (token : Value) : Value → Value
  | .dict fields => .dict (("token", token) :: fields.filter fun e => e.1 ≠ "token")
  | raw => raw

/-- The checks of an item before anything is bound. -/
def checkItem (srv : Server) (raw : Value) : Except ServerError Unit :=
  if isPoolRegistration srv raw then (poolItem srv raw).map fun _ => ()
  else (serviceFromRegistration srv raw).map fun _ => ()

/-- The token check of a tunnel for the record `p` of the item `raw` accepts the
token of the item, and rejects whatever the registration of the item rejects. -/
structure TunnelCheckOk (srv : Server) (σ : Store) (raw : Value) (p : PendingTunnel) : Prop where
  accepts : claimed σ (tunnelRequest srv (tunnelMessage p.id p.serviceName (itemToken raw))) ≠
    .error .authentication
  rejects : ∀ u, checkItem srv (withToken u raw) = .error .authentication →
    claimed σ (tunnelRequest srv (tunnelMessage p.id p.serviceName u)) = .error .authentication

/-- A regular item that names a configured service without a token, on a server
with a default token. -/
def FallsBack (srv : Server) : Value → Prop
  | .dict fields =>
      isPoolRegistration srv (.dict fields) = false ∧ srv.config.token.isSome = true ∧
        ∃ service, srv.configured (itemName srv fields) = some service ∧ service.token = none
  | _ => False

/-! ## Items with another token -/

/-- The other fields of the item. -/
theorem dictGet_withToken {k : String} (h : k ≠ "token") (u : Value) (fields : Fields) :
    dictGet (("token", u) :: fields.filter fun e => e.1 ≠ "token") k = dictGet fields k := by
  rw [dictGet_cons, if_neg (Ne.symm h), dictGet_filter h]

@[simp] theorem isPoolRegistration_withToken (u raw : Value) :
    isPoolRegistration srv (withToken u raw) = isPoolRegistration srv raw := by
  cases raw with
  | dict fields =>
      simp only [withToken, isPoolRegistration,
        dictGet_withToken (k := "remote_port") (by decide),
        dictGet_withToken (k := "remotePort") (by decide)]
  | _ => rfl

/-! ## What each check rejects -/

/-- The token check of a tunnel that carries the id and the service of a record. -/
theorem claimed_authentication {p : PendingTunnel} (hp : σ.pending.get? p.id = some p)
    (u : Value) :
    claimed σ (tunnelRequest srv (tunnelMessage p.id p.serviceName u)) = .error .authentication ↔
      ¬ (p.token = none ∨ optionalString srv.repr u = p.token) := by
  have hid : tunnelRequest srv (tunnelMessage p.id p.serviceName u) =
      ⟨p.id, p.serviceName, optionalString srv.repr u⟩ := by
    simp [tunnelRequest, tunnelMessage, dictGet]
  rw [hid]
  simp only [claimed, hp, ne_eq, not_true_eq_false, if_false]
  cases ht : requireToken p.token (optionalString srv.repr u) with
  | error e =>
      obtain ⟨rfl, hne⟩ := requireToken_error.mp ht
      exact iff_of_true rfl hne
  | ok =>
      refine iff_of_false ?_ (not_not.mpr (requireToken_ok.mp ht))
      -- the errors after the token check are others
      intro h
      dsimp only at h
      split at h
      · cases h
      · split at h <;> cases h

/-- A pool registration is rejected unless its token is one of the pool. -/
theorem checkItem_pool {fields : Fields} (hp : isPoolRegistration srv (.dict fields) = true) :
    checkItem srv (.dict fields) = .error .authentication ↔
      ∀ token ∈ srv.config.poolTokens,
        optionalString srv.repr (dictGet fields "token") ≠ some token := by
  simp only [checkItem, hp, if_true, poolItem]
  cases htoken : optionalString srv.repr (dictGet fields "token") with
  | none => exact iff_of_true rfl (by simp)
  | some token =>
      simp only
      split
      · rename_i hmem
        refine iff_of_false ?_ fun h => h token hmem rfl
        cases getWithDefault fields "priority" (.int 0) <;> rintro ⟨⟩
      · rename_i hmem
        refine iff_of_true rfl ?_
        intro token' hmem' heq
        cases heq
        exact hmem hmem'

/-- An accepted regular item is rejected with just the tokens that are not expected. -/
theorem checkItem_regular {fields : Fields} {service : ServerServiceConfig}
    (hp : isPoolRegistration srv (.dict fields) = false)
    (h : serviceFromRegistration srv (.dict fields) = .ok service) (u : Value) :
    checkItem srv (withToken u (.dict fields)) = .error .authentication ↔
      ¬ (expectedToken srv (itemName srv fields) = none ∨
        optionalString srv.repr u = expectedToken srv (itemName srv fields)) := by
  have hname : itemName srv (("token", u) :: fields.filter fun e => e.1 ≠ "token") =
      itemName srv fields := by
    unfold itemName
    rw [dictGet_withToken (by decide)]
  have hnot := (serviceFromRegistration_ok h).allowed
  rw [checkItem, isPoolRegistration_withToken, hp, withToken]
  rcases serviceFromRegistration_cases srv
      (("token", u) :: fields.filter fun e => e.1 ≠ "token") with ⟨hn, -⟩ | ⟨-, d, hr, hd, -⟩
  · exact absurd (hname ▸ hn) hnot
  · rw [if_neg Bool.false_ne_true, hr, hname, dictGet_cons, if_pos rfl]
    cases htoken : requireToken (expectedToken srv (itemName srv fields))
        (optionalString srv.repr u) with
    | error e =>
        obtain ⟨rfl, hne⟩ := requireToken_error.mp htoken
        exact iff_of_true rfl hne
    | ok =>
        refine iff_of_false (fun hauth => hd ?_) (not_not.mpr (requireToken_ok.mp htoken))
        cases d with
        | error e =>
            cases hauth
            rfl
        | ok s => cases hauth

/-! ## The two checks of one service -/

/-- The record of a configured service has the expected token, unless it has none. -/
theorem expectedToken_eq (hc : srv.config.TokensOk) (fields : Fields) {service}
    (h : srv.configured (itemName srv fields) = some service) :
    expectedToken srv (itemName srv fields) = (service.token <|> srv.config.token) := by
  have hne := hc.2 service (configured_mem h)
  simp only [expectedToken, h]
  cases htoken : service.token with
  | none => rfl
  | some token =>
      have hnonempty : token ≠ "" := fun he => hne (by rw [htoken, he])
      simp [Option.filter, hnonempty]

/-- The check of a tunnel against the check of the registration, by the tokens the
two expect. -/
theorem tunnelCheckOk_iff {raw : Value} {p : PendingTunnel} {expected : Option String}
    (hp : σ.pending.get? p.id = some p)
    (haccepted : expected = none ∨ optionalString srv.repr (itemToken raw) = expected)
    (hrejects : ∀ u, checkItem srv (withToken u raw) = .error .authentication ↔
      ¬ (expected = none ∨ optionalString srv.repr u = expected))
    (htoken : p.token = none ∨ p.token = expected ∨
      expected = none ∧ optionalString srv.repr (itemToken raw) = p.token) :
    TunnelCheckOk srv σ raw p ↔ ¬ (p.token = none ∧ expected.isSome = true) := by
  constructor
  · rintro h ⟨hnone, hsome⟩
    -- a tunnel without a token is accepted, but not a registration
    have hrej := h.rejects .none ((hrejects .none).mpr ?_)
    · exact (claimed_authentication hp .none).mp hrej (.inl hnone)
    · rintro (h | h)
      · rw [h] at hsome
        cases hsome
      · rw [← h] at hsome
        cases hsome
  · intro hnot
    have hsame : p.token = none ∧ expected = none ∨ p.token = expected ∨
        expected = none ∧ optionalString srv.repr (itemToken raw) = p.token := by
      rcases htoken with h | h
      · refine .inl ⟨h, ?_⟩
        rw [← Option.not_isSome_iff_eq_none]
        exact fun hsome => hnot ⟨h, hsome⟩
      · exact .inr h
    constructor
    · rw [ne_eq, claimed_authentication hp, not_not]
      rcases hsame with ⟨h, -⟩ | h | ⟨-, h⟩
      · exact .inl h
      · exact h ▸ haccepted
      · exact .inr h
    · intro u hu
      rw [claimed_authentication hp]
      rw [hrejects u] at hu
      rcases hsame with ⟨-, h⟩ | h | ⟨h, -⟩
      · exact absurd (.inl h) hu
      · exact h ▸ hu
      · exact absurd (.inl h) hu

theorem Made.tunnelCheck_pool {raw : Value} {item : PoolItem} {p : PendingTunnel}
    (hpool : isPoolRegistration srv raw = true) (hi : poolItem srv raw = .ok item)
    (hp : σ.pending.get? p.id = some p) (htoken : p.token = some item.token) :
    TunnelCheckOk srv σ raw p := by
  obtain ⟨fields, rfl⟩ := isPoolRegistration_dict hpool
  obtain ⟨hprovided, hmem⟩ := poolItem_ok hi
  constructor
  · rw [ne_eq, claimed_authentication hp, not_not, htoken]
    exact .inr hprovided
  · intro u hu
    rw [withToken, checkItem_pool ((isPoolRegistration_withToken u _).trans hpool), dictGet_cons,
      if_pos rfl] at hu
    rw [claimed_authentication hp, htoken]
    rintro (h | h)
    · cases h
    · exact hu _ hmem h

theorem Made.tunnelCheck_regular (hc : srv.config.TokensOk) {fields : Fields}
    {service : ServerServiceConfig} {p : PendingTunnel}
    (hpool : isPoolRegistration srv (.dict fields) = false)
    (hs : serviceFromRegistration srv (.dict fields) = .ok service)
    (hp : σ.pending.get? p.id = some p) (htoken : p.token = service.token) :
    TunnelCheckOk srv σ (.dict fields) p ↔ ¬ FallsBack srv (.dict fields) := by
  obtain ⟨-, haccepted, -, hservice⟩ := serviceFromRegistration_ok hs
  rw [hservice] at htoken
  cases hconf : srv.configured (itemName srv fields) with
  | some configured =>
      have hexp := expectedToken_eq hc fields hconf
      simp only [serviceToken, hconf] at htoken
      rw [tunnelCheckOk_iff hp haccepted (checkItem_regular hpool hs)]
      · simp only [FallsBack, hpool, hconf, hexp, htoken, Option.some.injEq, true_and]
        cases hself : configured.token <;> simp [hself]
      · rw [hexp, htoken]
        cases configured.token with
        | none => exact .inl rfl
        | some token => exact .inr (.inl rfl)
  | none =>
      have hexp : expectedToken srv (itemName srv fields) = srv.config.token := by
        simp [expectedToken, hconf]
      simp only [serviceToken, hconf] at htoken
      rw [hexp] at haccepted
      rw [tunnelCheckOk_iff hp haccepted (fun u => hexp ▸ checkItem_regular hpool hs u)]
      · -- without a default token nothing is rejected, and with one the record has it
        refine iff_of_true ?_ ?_
        · rintro ⟨hnone, hsome⟩
          rw [hnone] at htoken
          cases hdefault : srv.config.token with
          | none => simp [hdefault] at hsome
          | some token =>
              cases hprovided : optionalString srv.repr (dictGet fields "token") <;>
                simp [hprovided, hdefault] at htoken
        · rintro ⟨-, -, configured, h, -⟩
          rw [hconf] at h
          cases h
      · rw [htoken]
        cases hdefault : srv.config.token with
        | none => exact .inr (.inr ⟨rfl, by simp [itemToken]⟩)
        | some token =>
            rw [hdefault] at haccepted
            rcases haccepted with h | h
            · cases h
            · exact .inr (.inl (by rw [h]; rfl))

/-- The check of a tunnel against the check of the registration. -/
theorem Made.tunnelCheck (hc : srv.config.TokensOk) {raw : Value} {r : RegisteredService}
    (hm : Made srv c raw r) {p : PendingTunnel} (hp : σ.pending.get? p.id = some p)
    (htoken : p.token = r.token) : TunnelCheckOk srv σ raw p ↔ ¬ FallsBack srv raw := by
  cases hm with
  | regular l hpool hs =>
      obtain ⟨fields, rfl⟩ := serviceFromRegistration_dict hs
      exact tunnelCheck_regular hc hpool hs hp htoken
  | pool l hpool hi hport =>
      refine iff_of_true (tunnelCheck_pool hpool hi hp htoken) ?_
      obtain ⟨fields, rfl⟩ := isPoolRegistration_dict hpool
      rintro ⟨hp, -⟩
      rw [hpool] at hp
      cases hp

/-! ## The pending records of a run -/

/-- Every pending record was made of a record that was registered. -/
def PendingMade (srv : Server) (σ : Store) : Prop :=
  ∀ id p, σ.pending.get? id = some p →
    ∃ raw r, Completed srv σ.listeners p.client raw r ∧ p = pendingTunnel r.name r id p.conn

theorem pendingMade {s : State} (h : (system srv).ReachableUnder C s) :
    PendingMade srv s.store := by
  refine h.invariant (P := fun s => PendingMade srv s.store) (fun id p hp => by cases hp) ?_
  rintro s ⟨t, e⟩ s' hr hI hc hs id p hp
  obtain ⟨seg, hat, rfl⟩ := Program.At.of_step (discipline srv) hr hc hs
  rw [Program.commit_store] at hp ⊢
  have hstep := serverSegment_cases hat.segment
  rcases Effect.of_pending hp with ⟨hφ, rfl⟩ | ⟨hp, -⟩
  · obtain ⟨h, conn, service, id, rfl, hpt, hconn, rfl, -⟩ := hstep.pends hφ
    have hpoint := (records hr).2 (.pub h)
    rw [hpt] at hpoint
    obtain ⟨⟨raw, hcomp⟩, conn', hconn', hname⟩ := hpoint service id rfl
    rw [hconn, Option.some.injEq] at hconn'
    subst hconn'
    exact ⟨raw, service, hcomp.apply, by rw [hname]; rfl⟩
  · obtain ⟨raw, r, hcomp, heq⟩ := hI id p hp
    exact ⟨raw, r, hcomp.apply, heq⟩

/-- **Tunnels are authorized like registrations**, but for the services that fall
back on the default token of the server. -/
theorem tunnel_token (srv : Server) (hc : srv.config.TokensOk) {s : State}
    (h : (system srv).Reachable s) (id : String) (p : PendingTunnel)
    (hp : s.store.pending.get? id = some p) :
    (∃ raw r, Completed srv s.store.listeners p.client raw r ∧
      p = pendingTunnel r.name r id p.conn) ∧
    ∀ raw r, Completed srv s.store.listeners p.client raw r →
      p = pendingTunnel r.name r id p.conn →
        (TunnelCheckOk srv s.store raw p ↔ ¬ FallsBack srv raw) := by
  refine ⟨pendingMade h id p hp, fun raw r hcomp heq => ?_⟩
  have hid : p.id = id := ((tunnels h).1.pending id p hp).1
  exact hcomp.made.tunnelCheck hc (hid ▸ hp) (by rw [heq]; rfl)

/-- A server with a default token and a configured service that has none. -/
def tokenServer : Server where
  config := { token := some "X", services := [⟨"web", "0.0.0.0", 8080, none⟩] }
  repr := fun _ => ""

/-- An item with the default token. -/
def tokenItem (name : String) : Value :=
  .dict [("name", .str name), ("token", .str "X"), ("remote_port", .int 8081)]

/-- The service is registered, and a public connection to it waits for its tunnel. -/
def tokenRun (name : String) : List Action :=
  Schedule.connect "a" false [tokenItem name] ++ Schedule.regular "a" 8081 ++
    Schedule.answer "a" ++ Schedule.accept 0 0 "x" ++ Schedule.goes (.pub 0) 2

/-- A service of a name that is not configured. -/
theorem tunnel_token_dynamic : ∃ s p, (system tokenServer).Reachable s ∧
    s.store.pending.get? "x" = some p ∧ TunnelCheckOk tokenServer s.store (tokenItem "api") p := by
  have hrun : ((system tokenServer).execWhile (fun _ _ => true) (system tokenServer).init
      (tokenRun "api")).map (fun s => (s.store.pending.get? "x", s.store.listeners.get? 0)) =
        some (some ⟨"x", "api", some "X", "a", 0⟩,
          some ⟨"api", "0.0.0.0", 8081, true, "a", tokenItem "api", true⟩) := by rfl
  obtain ⟨s, hs, heq⟩ := System.exists_of_execWhile_map _ (fun _ _ _ _ => trivial) hrun
  obtain ⟨hp, hl⟩ := Prod.mk.inj heq
  have hmade : Made tokenServer "a" (tokenItem "api")
      (regularService tokenServer "a" ⟨"api", "0.0.0.0", 8081, some "X"⟩ 0) :=
    .regular 0 rfl rfl
  have htoken := (tunnel_token tokenServer ⟨by decide, by decide⟩ hs "x" _ hp).2 _ _
    ⟨hmade, _, hl, rfl, rfl, rfl, rfl⟩ rfl
  refine ⟨s, _, hs, hp, htoken.mpr ?_⟩
  rintro ⟨-, -, configured, h, -⟩
  cases h

/-- The configured service: its registration needs the default token, but its
tunnel is paired without any. -/
theorem tunnel_token_missing : ∃ s, (system tokenServer).Reachable s ∧
    s.store.pending.get? "x" = some ⟨"x", "web", none, "a", 0⟩ ∧
    checkItem tokenServer (tokenItem "web") = .ok () ∧
    checkItem tokenServer (withToken .none (tokenItem "web")) = .error .authentication ∧
    claimed s.store (tunnelRequest tokenServer (tunnelMessage "x" "web" .none)) = .ok 0 := by
  have hrun : ((system tokenServer).execWhile (fun _ _ => true) (system tokenServer).init
      (tokenRun "web")).map (fun s => (s.store.pending.get? "x",
        claimed s.store (tunnelRequest tokenServer (tunnelMessage "x" "web" .none)))) =
        some (some ⟨"x", "web", none, "a", 0⟩, .ok 0) := by rfl
  obtain ⟨s, hs, heq⟩ := System.exists_of_execWhile_map _ (fun _ _ _ _ => trivial) hrun
  obtain ⟨hp, hclaimed⟩ := Prod.mk.inj heq
  exact ⟨s, hs, hp, rfl, rfl, hclaimed⟩

end PyFrp
