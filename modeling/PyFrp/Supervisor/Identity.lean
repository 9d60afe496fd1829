import PyFrp.Security.Fingerprint
import PyFrp.Supervisor.Breaker
import PyFrp.Supervisor.Handoff

/-!
# The identity of a child across restarts

A server keeps its token and its certificate, a client the fingerprint it trusts.
What a child does with such an identity is a role: it is loaded from the
environment, may be confirmed by the user, and is put back into the environment
before a restart. The supervisor's run is taken together with its current child.
-/

namespace PyFrp

open Python Coop

/-- What ends a child that does not get to serve. -/
inductive ChildError
  /-- A `ConfigError`. -/
  | config (text : String)
  | security (e : SecurityError)
  /-- A `RuntimeError`. -/
  | runtime (text : String)

/-- What a child does with its identity `ι`. It may need fresh material `φ`, and
the user's answer `ε`. -/
structure Role (ι φ ε : Type) where
  load : Environment → φ → Except ChildError ι
  asks : ι → Bool
  learn : ι → ε → Option ι
  preserve : Environment → ι → Except ChildError Environment

/-- The role restores the identities that are `Valid`, and a preserved one is not asked about. -/
structure Role.Restores {ι φ ε : Type} (role : Role ι φ ε) (Valid : ι → Prop) : Prop where
  valid_load : ∀ {environ fresh i}, role.load environ fresh = .ok i → Valid i
  valid_learn : ∀ {i answer j}, Valid i → role.asks i = true → role.learn i answer = some j →
    Valid j
  settled : ∀ {environ i environ'}, role.preserve environ i = .ok environ' → role.asks i = false
  restores : ∀ {environ i environ' environ'' fresh}, Valid i →
    role.preserve environ i = .ok environ' → SameRestartState environ'' environ' →
    role.load environ'' fresh = .ok i

structure IdentityRun (ι : Type) where
  supervisor : Supervisor
  -- the current child: `os.environ`, its identity, and `restart-state.json`
  environ : Environment
  identity : Option ι
  published : Option Fields
  -- history, most recent first: the identities loaded and handed over, and for
  -- each question to the user the number of children that had been started
  loaded : List ι
  handed : List ι
  asked : List Nat

namespace IdentityRun

variable {ι φ ε : Type}

inductive Event (φ ε : Type)
  | supervisor (e : Supervisor.Event)
  /-- The supervisor reads what the child has published. -/
  | handoff
  | load (fresh : φ)
  | confirm (answer : ε)
  /-- The child preserves its identity and requests the restart. -/
  | restart (target : String)

def initial (environ : Environment) : IdentityRun ι :=
  ⟨.initial environ, .empty, none, none, [], [], []⟩

def startChild (config : SupervisorConfig) (s : IdentityRun ι) (generation : String)
    (t : Supervisor) : IdentityRun ι :=
  { s with
    supervisor := t
    environ := prepareChildEnvironment config.root s.supervisor.environment generation
    identity := none
    published := none }

def handOver (s : IdentityRun ι) (t : Supervisor) : IdentityRun ι :=
  { s with
    supervisor := t
    handed := if t.phase.target.isSome then s.identity.toList ++ s.handed else s.handed }

def supervise (config : SupervisorConfig) (s : IdentityRun ι) (e : Supervisor.Event) :
    Option (IdentityRun ι) :=
  match e with
  | .popen generation => (s.supervisor.step config e).map (s.startChild config generation)
  | .handoff _ => none
  | _ => (s.supervisor.step config e).map fun t => { s with supervisor := t }

def load (role : Role ι φ ε) (s : IdentityRun ι) (fresh : φ) : Option (IdentityRun ι) :=
  match s.supervisor.child, s.identity, role.load s.environ fresh with
  | some _, none, .ok i => some { s with identity := some i, loaded := i :: s.loaded }
  | _, _, _ => none

def confirm (role : Role ι φ ε) (s : IdentityRun ι) (answer : ε) : Option (IdentityRun ι) :=
  match s.supervisor.child, s.identity with
  | some _, some i =>
      if role.asks i then
        some { s with
          identity := some ((role.learn i answer).getD i)
          asked := s.supervisor.launches.length :: s.asked }
      else none
  | _, _ => none

def restart (role : Role ι φ ε) (s : IdentityRun ι) (target : String) : Option (IdentityRun ι) :=
  match s.supervisor.child, s.identity with
  | some _, some i =>
      match role.preserve s.environ i with
      | .ok environ =>
          (requestRestart environ target).map fun r =>
            { s with environ := r.1, published := some r.2 }
      | .error _ => none
  | _, _ => none

def step (role : Role ι φ ε) (config : SupervisorConfig) (s : IdentityRun ι) :
    Event φ ε → Option (IdentityRun ι)
  | .supervisor e => s.supervise config e
  | .handoff => (s.supervisor.step config (.handoff s.published)).map s.handOver
  | .load fresh => s.load role fresh
  | .confirm answer => s.confirm role answer
  | .restart target => s.restart role target

end IdentityRun

/-- The supervisor of children of the given role. -/
def identityRun {ι φ ε : Type} (role : Role ι φ ε) (config : SupervisorConfig)
    (environ : Environment) : System (IdentityRun ι) (IdentityRun.Event φ ε) :=
  ⟨.initial environ, IdentityRun.step role config⟩

end PyFrp
