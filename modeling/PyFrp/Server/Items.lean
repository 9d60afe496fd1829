import PyFrp.Server.Registration

/-!
# What the checks of a registration item come to

For each check the inputs it accepts and what it makes of them, so that no
later proof takes `_service_from_registration` apart again.
-/

namespace PyFrp

open Python

variable {srv : Server}

/-! ## Fields -/

theorem dictGet_cons (k k' : String) (v : Value) (fields : Fields) :
    dictGet ((k, v) :: fields) k' = if k = k' then v else dictGet fields k' := by
  by_cases h : k = k' <;> simp [dictGet, h]

theorem dictGet_filter {k k' : String} (h : k' ≠ k) (fields : Fields) :
    dictGet (fields.filter fun e => e.1 ≠ k) k' = dictGet fields k' := by
  induction fields with
  | nil => rfl
  | cons e fields ih =>
      obtain ⟨k₀, v⟩ := e
      by_cases hk : k₀ = k
      · subst hk
        rw [List.filter_cons_of_neg (by simp), dictGet_cons, if_neg (Ne.symm h), ih]
      · rw [List.filter_cons_of_pos (by simpa using hk), dictGet_cons, dictGet_cons, ih]

/-! ## Tokens -/

theorem requireToken_ok {expected provided : Option String} :
    requireToken expected provided = .ok () ↔ expected = none ∨ provided = expected := by
  unfold requireToken
  cases expected with
  | none => simp
  | some token => by_cases h : provided = some token <;> simp [h]

theorem requireToken_error {expected provided : Option String} {e : ServerError} :
    requireToken expected provided = .error e ↔
      e = .authentication ∧ ¬ (expected = none ∨ provided = expected) := by
  rw [← requireToken_ok]
  unfold requireToken
  split <;> simp [eq_comm]

/-! ## Pool items -/

theorem poolItem_ok {fields : Fields} {item : PoolItem}
    (h : poolItem srv (.dict fields) = .ok item) :
    optionalString srv.repr (dictGet fields "token") = some item.token ∧
      item.token ∈ srv.config.poolTokens := by
  revert h
  simp only [poolItem]
  cases htoken : optionalString srv.repr (dictGet fields "token") with
  | none => nofun
  | some token =>
      simp only
      split
      · rename_i hmem
        cases registrationPriority (getWithDefault fields "priority" (.int 0)) with
        | error e => nofun
        | ok priority =>
            intro heq
            cases heq
            exact ⟨rfl, hmem⟩
      · nofun

/-- A pool registration is a dict. -/
theorem isPoolRegistration_dict {raw : Value} (h : isPoolRegistration srv raw = true) :
    ∃ fields, raw = .dict fields := by
  cases raw with
  | dict fields => exact ⟨fields, rfl⟩
  | _ => cases h

/-! ## Regular items -/

/-- The name of a regular item. -/
def itemName (srv : Server) (fields : Fields) : String :=
  strip ((dictGet fields "name").strOrEmpty srv.repr)

theorem configured_mem {name : String} {service : ServerServiceConfig}
    (h : srv.configured name = some service) : service ∈ srv.config.services :=
  List.mem_reverse.mp (List.mem_of_find?_eq_some h)

/-- The token `_service_from_registration` expects for the service `name`. -/
def expectedToken (srv : Server) (name : String) : Option String :=
  match srv.configured name with
  | some service => service.token.filter (· ≠ "") <|> srv.config.token
  | none => srv.config.token

theorem registrationPort_ne_authentication (v : Value) :
    registrationPort v ≠ .error .authentication := by
  unfold registrationPort
  split
  · nofun
  · nofun
  · split <;> nofun

/-- The names `_service_from_registration` refuses with any token. -/
def RefusedName (srv : Server) (name : String) : Prop :=
  name = "" ∨ srv.configured name = none ∧ srv.config.allowDynamic = false

/-- The token of the service a regular item is accepted for. -/
def serviceToken (srv : Server) (fields : Fields) : Option String :=
  match srv.configured (itemName srv fields) with
  | some service => service.token
  | none => optionalString srv.repr (dictGet fields "token") <|> srv.config.token

theorem configured_name {name : String} {service : ServerServiceConfig}
    (h : srv.configured name = some service) : service.name = name := by
  simpa using List.find?_some h

/-- What becomes of an item with an unconfigured name once its token is accepted. -/
theorem dynamicPort_cases {port : Value} {text : String} {service : Int → ServerServiceConfig}
    {d : Except ServerError ServerServiceConfig}
    (hd : (if port.isNone then .error (.protocol text)
      else (registrationPort port).map service) = d) :
    d ≠ .error .authentication ∧ ∀ s, d = .ok s → ∃ n, s = service n := by
  subst hd
  split
  · exact ⟨nofun, nofun⟩
  · cases hport : registrationPort port with
    | error e =>
        refine ⟨fun h => ?_, nofun⟩
        cases h
        exact registrationPort_ne_authentication _ hport
    | ok n =>
        refine ⟨nofun, fun s h => ?_⟩
        cases h
        exact ⟨n, rfl⟩

/-- `_service_from_registration`: the name is refused, or the token is checked
first and no later error is one of authentication. -/
theorem serviceFromRegistration_cases (srv : Server) (fields : Fields) :
    (RefusedName srv (itemName srv fields) ∧
      ∃ text, serviceFromRegistration srv (.dict fields) = .error (.protocol text)) ∨
    (¬ RefusedName srv (itemName srv fields) ∧
      ∃ d, serviceFromRegistration srv (.dict fields) =
          ((requireToken (expectedToken srv (itemName srv fields))
            (optionalString srv.repr (dictGet fields "token"))).bind fun _ => d) ∧
        d ≠ .error .authentication ∧
        ∀ service, d = .ok service →
          service.name = itemName srv fields ∧ service.token = serviceToken srv fields) := by
  unfold RefusedName expectedToken serviceToken itemName
  simp only [serviceFromRegistration]
  split
  · rename_i hname
    exact .inl ⟨.inl hname, _, rfl⟩
  · rename_i hname
    split
    · rename_i service hconf
      simp only [hconf]
      refine .inr ⟨?_, .ok service, rfl, by simp, ?_⟩
      · rintro (h | ⟨h, -⟩)
        · exact hname h
        · cases h
      · intro s heq
        cases heq
        exact ⟨configured_name hconf, rfl⟩
    · rename_i hconf
      simp only [hconf]
      split
      · rename_i hdyn
        exact .inl ⟨.inr ⟨trivial, by simpa using hdyn⟩, _, rfl⟩
      · rename_i hdyn
        obtain ⟨hauth, hmade⟩ := dynamicPort_cases rfl
        refine .inr ⟨?_, _, rfl, hauth, fun service hs => ?_⟩
        · rintro (h | ⟨-, h⟩)
          · exact hname h
          · rw [h] at hdyn
            exact hdyn rfl
        · obtain ⟨n, rfl⟩ := hmade service hs
          exact ⟨rfl, rfl⟩

/-- What is known of an accepted regular item and of its service. -/
structure AcceptedItem (srv : Server) (fields : Fields) (service : ServerServiceConfig) : Prop where
  allowed : ¬ RefusedName srv (itemName srv fields)
  token : expectedToken srv (itemName srv fields) = none ∨
    optionalString srv.repr (dictGet fields "token") = expectedToken srv (itemName srv fields)
  serviceName : service.name = itemName srv fields
  serviceToken : service.token = serviceToken srv fields

theorem serviceFromRegistration_ok {fields : Fields} {service : ServerServiceConfig}
    (h : serviceFromRegistration srv (.dict fields) = .ok service) :
    AcceptedItem srv fields service := by
  rcases serviceFromRegistration_cases srv fields with ⟨-, text, hr⟩ | ⟨hn, d, hr, -, hd⟩
  · rw [hr] at h
    cases h
  · rw [hr] at h
    cases htoken : requireToken (expectedToken srv (itemName srv fields))
        (optionalString srv.repr (dictGet fields "token")) with
    | error e =>
        rw [htoken] at h
        cases h
    | ok =>
        rw [htoken] at h
        obtain ⟨hname, hservice⟩ := hd service h
        exact ⟨hn, requireToken_ok.mp htoken, hname, hservice⟩

/-- A regular item is a dict. -/
theorem serviceFromRegistration_dict {raw : Value} {service : ServerServiceConfig}
    (h : serviceFromRegistration srv raw = .ok service) : ∃ fields, raw = .dict fields := by
  cases raw with
  | dict fields => exact ⟨fields, rfl⟩
  | _ => cases h

end PyFrp
