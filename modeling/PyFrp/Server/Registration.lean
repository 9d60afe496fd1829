import PyFrp.Server.Config

/-!
# Registration items (`server.py`)

The checks a registration item goes through before anything is bound, and the
errors the server raises, with their texts.
-/

namespace PyFrp

open Python

/-! ## Errors -/

/-- The exceptions that end a registration or a connection. `os` stands for
`OSError` and `ConnectionError`, `crash` for every other exception. -/
inductive ServerError
  | protocol (text : String)
  | authentication
  | resourceExhausted (cause : Option String)
  | forceRequired
  | priorityPreemption (priority maxPriority : Int)
  | os (text : String)
  | crash (text : String)
  deriving DecidableEq

namespace ServerError

/-- `str(exc)`. -/
def text : ServerError → String
  | .protocol text => text
  | .authentication => "authentication failed"
  | .resourceExhausted _ =>
      "resource insufficient: no available port in the configured pool"
  | .forceRequired =>
      "resource insufficient: the port pool is full; force connection can " ++
        "disconnect an eligible equal-or-lower-priority pool client"
  | .priorityPreemption priority maxPriority =>
      s!"forced connection denied: client priority {priority} cannot preempt any " ++
        s!"existing client; maximum existing priority is {maxPriority}"
  | .os text => text
  | .crash text => text

/-- `isinstance(exc, (AuthenticationError, ResourceExhaustedError))`. -/
def fatal : ServerError → Bool
  | .authentication => true
  | .resourceExhausted _ => true
  | .forceRequired => true
  | .priorityPreemption _ _ => true
  | _ => false

/-- `exc.max_priority` of a `PriorityPreemptionError`. -/
def maxPriority : ServerError → Option Int
  | .priorityPreemption _ maxPriority => some maxPriority
  | _ => none

end ServerError

/-! ## Field checks -/

/-- `_optional_string`. -/
def optionalString (repr : Value → String) (value : Value) : Option String :=
  if value.isNone then none
  else if value.toStr repr = "" then none else some (value.toStr repr)

/-- `_require_token`. -/
def requireToken (expected provided : Option String) : Except ServerError Unit :=
  if expected.isSome && provided ≠ expected then .error .authentication else .ok ()

/-- `_port`. The `OverflowError` of an infinite float is not caught. -/
def registrationPort (value : Value) : Except ServerError Int :=
  match value.int? with
  | .error .overflowError => .error (.crash "cannot convert float infinity to integer")
  | .error _ => .error (.protocol "remote_port must be an integer")
  | .ok port =>
      if 0 ≤ port ∧ port ≤ 65535 then .ok port
      else .error (.protocol "remote_port is outside the valid range")

/-- `_priority`. -/
def registrationPriority : Value → Except ServerError Int
  | .int n => .ok n
  | _ => .error (.protocol "priority must be an integer")

/-- `message.get(key, default)`. -/
def getWithDefault (fields : Fields) (key : String) (default : Value) : Value :=
  if fields.any (fun e => e.1 = key) then dictGet fields key else default

/-! ## Items -/

/-- `_is_pool_registration`. -/
def isPoolRegistration (srv : Server) : Value → Bool
  | .dict raw =>
      !srv.config.portPool.isEmpty &&
        (dictGet raw "remote_port").isNone && (dictGet raw "remotePort").isNone
  | _ => false

/-- The locals of `_register_pool_service` that come from the item. -/
structure PoolItem where
  token : String
  priority : Int
  deriving DecidableEq

/-- The head of `_register_pool_service`: what it reads of the item. -/
def poolItem (srv : Server) : Value → Except ServerError PoolItem
  | .dict raw =>
      match optionalString srv.repr (dictGet raw "token") with
      | some token =>
          if token ∈ srv.config.poolTokens then
            (registrationPriority (getWithDefault raw "priority" (.int 0))).map
              fun priority => ⟨token, priority⟩
          else .error .authentication
      | none => .error .authentication
  | _ => .error (.protocol "service registration must be an object")

/-- `_service_from_registration`. -/
def serviceFromRegistration (srv : Server) : Value → Except ServerError ServerServiceConfig
  | .dict raw =>
      let name := strip ((dictGet raw "name").strOrEmpty srv.repr)
      let provided := optionalString srv.repr (dictGet raw "token")
      if name = "" then .error (.protocol "service name must not be empty")
      else match srv.configured name with
      | some service =>
          -- `configured.token or self.config.token`
          (requireToken (service.token.filter (· ≠ "") <|> srv.config.token) provided).map
            fun _ => service
      | none =>
          if !srv.config.allowDynamic then
            .error (.protocol
              s!"service {srv.repr (.str name)} is not configured on this server")
          else (requireToken srv.config.token provided).bind fun _ =>
            if (dictGet raw "remote_port").isNone then
              .error (.protocol
                s!"dynamic service {srv.repr (.str name)} is missing remote_port")
            else (registrationPort (dictGet raw "remote_port")).map fun port =>
              let host := (dictGet raw "remote_host").strOrEmpty srv.repr
              { name, bindHost := if host = "" then "0.0.0.0" else host, bindPort := port
                token := provided <|> srv.config.token }
  | _ => .error (.protocol "service registration must be an object")

/-- `_pool_service_name`. -/
def poolServiceName (client : String) : String := "pool-" ++ client

end PyFrp
