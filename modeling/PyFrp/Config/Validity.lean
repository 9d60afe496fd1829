import PyFrp.Config.Failures
import PyFrp.Config.Verdicts

/-!
# Configurations that say what the document says

Where a document writes the numbers of a configuration, when a configuration has
these numbers and is usable, and which numbers a loader changes: a port with a
fraction loses it, and a delay may be no number at all.
-/

namespace PyFrp

open Python Validation

namespace Config

variable {b : Builtins}

/-! ## Ports -/

/-- The number that a value writes. -/
def written : Value → Option Rat
  | .int n => some n
  | .float (.finite q) => some q
  | .str s => (intOfText s).map fun n : Int => (n : Rat)
  | _ => none

/-- The port is the number that is written for it. -/
def Keeps (value : Value) (port : Int) : Prop := ∀ q, written value = some q → (port : Rat) = q

/-- The value is not a float with a fraction. -/
def Whole (value : Value) : Prop := ∀ q, value = .float (.finite q) → ∃ n : Int, q = n

theorem truncate_eq_iff (q : Rat) :
    ((if 0 ≤ q then ⌊q⌋ else ⌈q⌉ : Int) : Rat) = q ↔ ∃ n : Int, q = n := by
  constructor
  · intro h
    exact ⟨_, h.symm⟩
  · rintro ⟨n, rfl⟩
    rw [Int.floor_intCast, Int.ceil_intCast, ite_self]

/-- Only a fraction is lost. -/
theorem keeps_iff (value : Value) (default : Int) :
    Keeps value (intOf value default) ↔ Whole value := by
  unfold Keeps Whole
  cases value with
  | float x =>
      cases x with
      | finite q =>
          show (∀ q', some q = some q' → _) ↔ _
          have hcut : ((intOf (.float (.finite q)) default : Int) : Rat) = q ↔
              ∃ n : Int, q = n := truncate_eq_iff q
          constructor
          · intro h q' hq'
            cases hq'
            exact hcut.mp (h q rfl)
          · intro h q' hq'
            cases hq'
            exact hcut.mpr (h q rfl)
      | infinite negative => exact ⟨fun _ => nofun, fun _ => nofun⟩
      | nan => exact ⟨fun _ => nofun, fun _ => nofun⟩
  | int n =>
      refine ⟨fun _ => nofun, fun _ q hq => ?_⟩
      cases hq
      rfl
  | str s =>
      refine ⟨fun _ => nofun, fun _ q hq => ?_⟩
      obtain ⟨n, hn, rfl⟩ := Option.map_eq_some_iff.mp hq
      rw [intOf_str, hn]
      rfl
  | none => exact ⟨fun _ => nofun, fun _ => nofun⟩
  | bool x => exact ⟨fun _ => nofun, fun _ => nofun⟩
  | list items => exact ⟨fun _ => nofun, fun _ => nofun⟩
  | dict entries => exact ⟨fun _ => nofun, fun _ => nofun⟩

/-! ## Delays -/

/-- The delay is a number greater than zero. -/
def Positive : PyFloat → Prop
  | .finite q => 0 < q
  | .infinite negative => negative = false
  | .nan => False

/-- The value does not stand for a float that is no number. -/
def NotNan (b : Builtins) (value : Value) : Prop := value.float? b.floatOfText ≠ .ok .nan

theorem positive_iff {x : PyFloat} (h : x.nonpositive = false) : Positive x ↔ x ≠ .nan := by
  cases x with
  | finite q =>
      refine ⟨fun _ => nofun, fun _ => ?_⟩
      have hq : ¬ q ≤ 0 := of_decide_eq_false h
      exact not_le.mp hq
  | infinite negative => exact ⟨fun _ => nofun, fun _ => h⟩
  | nan => exact ⟨fun hfalse => hfalse.elim, fun hne => hne rfl⟩

theorem floatOf_eq_nan_iff {value : Value} {default : PyFloat} (hdefault : default ≠ .nan) :
    floatOf b value default = .nan ↔ value.float? b.floatOfText = .ok .nan := by
  cases value
  case none => exact ⟨fun h => absurd h hdefault, nofun⟩
  all_goals
    unfold floatOf
    dsimp only
    -- Unification would compute the float of an integer.
    generalize Value.float? b.floatOfText _ = x
    cases x with
    | ok y => exact ⟨congrArg Except.ok, Except.ok.inj⟩
    | error e => exact ⟨fun h => absurd h hdefault, nofun⟩

/-- What is known of a delay that is read. -/
def DelayRead (b : Builtins) (value : Value) (x : PyFloat) : Prop :=
  ∃ default, default ≠ .nan ∧ x = floatOf b value default ∧ x.nonpositive = false

theorem DelayRead.positive_iff {value : Value} {x : PyFloat} (h : DelayRead b value x) :
    Positive x ↔ NotNan b value := by
  obtain ⟨default, hdefault, rfl, hpositive⟩ := h
  rw [Config.positive_iff hpositive, NotNan, ne_eq, ne_eq, floatOf_eq_nan_iff hdefault]

/-! ## Servers -/

/-- Where a document writes the numbers of a server. -/
structure ServerFields where
  bindPort : Value
  openTimeout : Value
  services : List Value

structure ServiceValid (bindPort : Value) (s : ServerServiceConfig) : Prop where
  port : PortInRange true s.bindPort
  keeps : Keeps bindPort s.bindPort
  name : s.name ≠ ""
  token : s.token ≠ some ""

structure ServerValid (f : ServerFields) (c : ServerConfig) : Prop where
  port : PortInRange true c.bindPort
  keeps : Keeps f.bindPort c.bindPort
  token : c.token ≠ some ""
  openTimeout : Positive c.openTimeout
  services : List.Forall₂ ServiceValid f.services c.services

/-- No number changes. -/
def ServerFields.Kept (b : Builtins) (f : ServerFields) : Prop :=
  Whole f.bindPort ∧ NotNan b f.openTimeout ∧ ∀ bindPort ∈ f.services, Whole bindPort

/-- What a loader of servers makes of a service. -/
def ServiceRead (bindPort : Value) (s : ServerServiceConfig) : Prop :=
  PortInRange true s.bindPort ∧ (∃ default, s.bindPort = intOf bindPort default) ∧
    s.name ≠ "" ∧ s.token ≠ some ""

/-- What a loader of servers makes of a document. -/
structure ServerRead (b : Builtins) (f : ServerFields) (c : ServerConfig) : Prop where
  port : PortInRange true c.bindPort
  bindPort : ∃ default, c.bindPort = intOf f.bindPort default
  token : c.token ≠ some ""
  openTimeout : DelayRead b f.openTimeout c.openTimeout
  services : List.Forall₂ ServiceRead f.services c.services

theorem keeps_of_read {value : Value} {port : Int} (h : ∃ default, port = intOf value default) :
    Keeps value port ↔ Whole value := by
  obtain ⟨default, rfl⟩ := h
  exact keeps_iff value default

theorem ServiceRead.valid_iff {bindPort : Value} {s : ServerServiceConfig}
    (h : ServiceRead bindPort s) : ServiceValid bindPort s ↔ Whole bindPort := by
  obtain ⟨hport, hread, hname, htoken⟩ := h
  rw [← keeps_of_read hread]
  exact ⟨fun hvalid => hvalid.keeps, fun hkeeps => ⟨hport, hkeeps, hname, htoken⟩⟩

theorem ServerRead.valid_iff {f : ServerFields} {c : ServerConfig} (h : ServerRead b f c) :
    ServerValid f c ↔ f.Kept b := by
  have hservices : List.Forall₂ ServiceValid f.services c.services ↔
      ∀ bindPort ∈ f.services, Whole bindPort :=
    forall₂_iff_of_forall₂ h.services fun _ _ => ServiceRead.valid_iff
  unfold ServerFields.Kept
  rw [← hservices, ← keeps_of_read h.bindPort, ← h.openTimeout.positive_iff]
  constructor
  · intro hvalid
    exact ⟨hvalid.keeps, hvalid.openTimeout, hvalid.services⟩
  · rintro ⟨hkeeps, hpositive, hservices⟩
    exact ⟨h.port, hkeeps, h.token, hpositive, hservices⟩

/-! ## Clients -/

/-- Where a document writes the numbers of a client. A proxy may have no remote port. -/
structure ClientFields where
  serverPort : Value
  reconnectDelay : Value
  connectTimeout : Value
  heartbeatInterval : Value
  proxies : List (Value × Option Value)

/-- A port of a proxy, if it has one. -/
def RemoteValid : Option Value → Option Int → Prop
  | none, none => True
  | some value, some port => PortInRange true port ∧ Keeps value port
  | _, _ => False

structure ProxyValid (f : Value × Option Value) (p : ProxyConfig) : Prop where
  localPort : PortInRange false p.localPort
  keeps : Keeps f.1 p.localPort
  remotePort : RemoteValid f.2 p.remotePort
  name : p.name ≠ ""
  token : p.token ≠ some ""

structure ClientValid (f : ClientFields) (c : ClientFileConfig) : Prop where
  port : PortInRange false c.serverPort
  keeps : Keeps f.serverPort c.serverPort
  token : c.token ≠ some ""
  reconnectDelay : Positive c.reconnectDelay
  connectTimeout : Positive c.connectTimeout
  heartbeatInterval : Positive c.heartbeatInterval
  proxies : List.Forall₂ ProxyValid f.proxies c.proxies
  nonempty : c.proxies ≠ []

def ProxyKept (f : Value × Option Value) : Prop :=
  Whole f.1 ∧ ∀ value, f.2 = some value → Whole value

/-- No number changes. -/
def ClientFields.Kept (b : Builtins) (f : ClientFields) : Prop :=
  Whole f.serverPort ∧ NotNan b f.reconnectDelay ∧ NotNan b f.connectTimeout ∧
    NotNan b f.heartbeatInterval ∧ ∀ proxy ∈ f.proxies, ProxyKept proxy

def RemoteRead : Option Value → Option Int → Prop
  | none, none => True
  | some value, some port => PortInRange true port ∧ ∃ default, port = intOf value default
  | _, _ => False

/-- What a loader of clients makes of a proxy. -/
structure ProxyRead (f : Value × Option Value) (p : ProxyConfig) : Prop where
  port : PortInRange false p.localPort
  localPort : ∃ default, p.localPort = intOf f.1 default
  remotePort : RemoteRead f.2 p.remotePort
  name : p.name ≠ ""
  token : p.token ≠ some ""

/-- What a loader of clients makes of a document. -/
structure ClientRead (b : Builtins) (f : ClientFields) (c : ClientFileConfig) : Prop where
  port : PortInRange false c.serverPort
  serverPort : ∃ default, c.serverPort = intOf f.serverPort default
  token : c.token ≠ some ""
  reconnectDelay : DelayRead b f.reconnectDelay c.reconnectDelay
  connectTimeout : DelayRead b f.connectTimeout c.connectTimeout
  heartbeatInterval : DelayRead b f.heartbeatInterval c.heartbeatInterval
  proxies : List.Forall₂ ProxyRead f.proxies c.proxies
  nonempty : c.proxies ≠ []

theorem RemoteRead.valid_iff {value : Option Value} {port : Option Int}
    (h : RemoteRead value port) :
    RemoteValid value port ↔ ∀ v, value = some v → Whole v := by
  cases value with
  | none =>
      cases port with
      | none => exact ⟨fun _ => nofun, fun _ => trivial⟩
      | some port => exact h.elim
  | some value =>
      cases port with
      | none => exact h.elim
      | some port =>
          obtain ⟨hport, hread⟩ := h
          show _ ∧ _ ↔ _
          rw [keeps_of_read hread]
          constructor
          · rintro ⟨-, hwhole⟩ v hv
            cases hv
            exact hwhole
          · intro hwhole
            exact ⟨hport, hwhole value rfl⟩

theorem ProxyRead.valid_iff {f : Value × Option Value} {p : ProxyConfig} (h : ProxyRead f p) :
    ProxyValid f p ↔ ProxyKept f := by
  unfold ProxyKept
  rw [← keeps_of_read h.localPort, ← h.remotePort.valid_iff]
  constructor
  · intro hvalid
    exact ⟨hvalid.keeps, hvalid.remotePort⟩
  · rintro ⟨hkeeps, hremote⟩
    exact ⟨h.port, hkeeps, hremote, h.name, h.token⟩

theorem ClientRead.valid_iff {f : ClientFields} {c : ClientFileConfig} (h : ClientRead b f c) :
    ClientValid f c ↔ f.Kept b := by
  have hproxies : List.Forall₂ ProxyValid f.proxies c.proxies ↔
      ∀ proxy ∈ f.proxies, ProxyKept proxy :=
    forall₂_iff_of_forall₂ h.proxies fun _ _ => ProxyRead.valid_iff
  unfold ClientFields.Kept
  rw [← hproxies, ← keeps_of_read h.serverPort, ← h.reconnectDelay.positive_iff,
    ← h.connectTimeout.positive_iff, ← h.heartbeatInterval.positive_iff]
  constructor
  · intro hvalid
    exact ⟨hvalid.keeps, hvalid.reconnectDelay, hvalid.connectTimeout,
      hvalid.heartbeatInterval, hvalid.proxies⟩
  · rintro ⟨hkeeps, hreconnect, hconnect, hheartbeat, hproxies⟩
    exact ⟨h.port, hkeeps, h.token, hreconnect, hconnect, hheartbeat, hproxies, h.nonempty⟩

end Config

end PyFrp
