import PyFrp.Client.Conversations
import PyFrp.Server.Greeting
import PyFrp.Server.Rollback

/-!
# The task of a session that a client of this program has opened

What the task has read and written is known from where it waits. It reads the messages
one after the other that such a client writes, and never has reason to complain.
-/

namespace PyFrp

open Python Coop Store

variable {settings : ClientSettings} {srv : Server} {σ : Store} {c : ClientId}
  {closed : Prop} {r : Nat} {T : List Message} {q : Request} {p : ControlPoint}

/-! ## What the task has said -/

/-- The messages that the task of the session wrote itself. -/
def ownMessages (T : List Message) : List Message := T.filter fun m => !m.foreign

/-- Up to the answer. `asked` is the text of `force_required`, if it was sent. -/
def introduction (asked : Option String) : List Message :=
  .hello :: (asked.map Message.forceRequired).toList

def answer (c : ClientId) (asked : Option String) (services : List ServiceReply)
    (times : List Value) : List Message :=
  introduction asked ++ .registered c services :: times.map Message.pong

/-- The messages after an effect. -/
def messagesAfter (c : ClientId) (T : List Message) : Effect → List Message
  | .send c' m => if c' = c then T ++ [m] else T
  | _ => T

@[simp] theorem ownMessages_append (T : List Message) (m : Message) :
    ownMessages (T ++ [m]) = if m.foreign then ownMessages T else ownMessages T ++ [m] := by
  cases h : m.foreign <;> simp [ownMessages, h]

/-! ## The assertions at the points -/

/-- The request is the first one of the client, or the one it was asked for. -/
def Requested (settings : ClientSettings) (r : Nat) (T : List Message) (q : Request) : Prop :=
  ∃ asked, ownMessages T = introduction asked ∧ asked.isSome = q.retry ∧ r = 2 + q.retry.toNat ∧
    q.message = settings.client.registerMessage (q.retry || settings.forceConnect)

/-- The request is answered. -/
def Replied (c : ClientId) (r : Nat) (T : List Message) (q : Request) : Prop :=
  ∃ asked services times, ownMessages T = answer c asked services times ∧
    asked.isSome = q.retry ∧ 2 + q.retry.toNat ≤ r

/-- What the task has said so far, without an error. -/
def Talked (c : ClientId) (T : List Message) : Prop :=
  ∃ asked, ownMessages T = introduction asked ∨
    ∃ services times, ownMessages T = answer c asked services times

/-- What it has said in the end. -/
def Said (c : ClientId) (T : List Message) : Prop :=
  ∃ asked tail, (∀ m ∈ tail, ∃ text fatal limit, m = .error text fatal limit) ∧
    (ownMessages T = introduction asked ++ tail ∨
      ∃ services times, ownMessages T = answer c asked services times ++ tail)

/-- `r` messages were read, and `T` written. The client may have `closed` the connection. -/
def SessionOk (settings : ClientSettings) (c : ClientId) (closed : Prop) (r : Nat)
    (T : List Message) : ControlPoint → Prop
  | .join first => T = [] ∧ r = 1 ∧ first = ClientRun.helloMessage
  | .sendHello => T = [] ∧ r = 1
  | .helloSent | .readRegister => ownMessages T = introduction none ∧ r = 1
  | .dispatch current => ownMessages T = introduction none ∧
      (r = 2 ∧ current = settings.client.registerMessage settings.forceConnect ∨
        closed ∧ current = [])
  | .sendForceRequired _ => ownMessages T = introduction none ∧ r = 2
  | .forceRequiredSent | .readRetry => ∃ text, ownMessages T = introduction (some text) ∧ r = 2
  | .registeredSent q | .serve q | .sendPong q _ | .pongSent q => Replied c r T q
  | .failed _ => Talked c T
  | .errorSent | .leave | .left _ | .closing | .finished => Said c T
  | p => ∀ q, p.request = some q → Requested settings r T q

/-- The messages that the task waits for. -/
def Expects (settings : ClientSettings) : ControlPoint → Fields → Prop
  | .readRegister, m => m = settings.client.registerMessage settings.forceConnect
  | .readRetry, m => m = settings.client.registerMessage true
  | .serve _, m => ∃ time, m = ClientRun.pingMessage time
  | _, _ => True

/-- How many messages were read after an event. -/
def readAfter (r : Nat) : Event → Nat
  | .read (some _) => r + 1
  | _ => r

theorem request_nextItem (q : Request) : (nextItem srv σ q).request = some q := by
  have h := nextItem_cases srv σ q
  revert h
  generalize nextItem srv σ q = p
  intro h
  cases h <;> rfl

theorem sessionOk_of_request (hp : p.request = some q) (hq : Requested settings r T q) :
    SessionOk settings c closed r T p := by
  revert hp
  cases p with
  | join | sendHello | helloSent | readRegister | dispatch | sendForceRequired | forceRequiredSent
  | readRetry | registeredSent | serve | sendPong | pongSent | failed | errorSent | leave | left
  | closing | finished => exact fun hp => nomatch hp
  | _ =>
      intro hp q' hq'
      rw [hp] at hq'
      cases hq'
      exact hq

theorem request_startRegister (current : Fields) (retry force : Bool) :
    ∃ q, (startRegister current retry force).request = some q ∧ q.message = current ∧
      q.retry = retry := by
  unfold startRegister
  split
  · exact ⟨_, rfl, rfl, rfl⟩
  · exact ⟨_, rfl, rfl, rfl⟩

theorem Requested.talked (h : Requested settings r T q) : Talked c T := by
  obtain ⟨asked, hown, -⟩ := h
  exact ⟨asked, .inl hown⟩

theorem Replied.talked (h : Replied c r T q) : Talked c T := by
  obtain ⟨asked, services, times, hown, -⟩ := h
  exact ⟨asked, .inr ⟨services, times, hown⟩⟩

theorem Talked.said (h : Talked c T) : Said c T := by
  obtain ⟨asked, hown | ⟨services, times, hown⟩⟩ := h
  · exact ⟨asked, [], nofun, .inl (by rw [hown, List.append_nil])⟩
  · exact ⟨asked, [], nofun, .inr ⟨services, times, by rw [hown, List.append_nil]⟩⟩

/-- The error is the last thing that is said. -/
theorem Talked.error {text : String} {fatal : Bool} {limit : Option Int} (h : Talked c T) :
    Said c (T ++ [.error text fatal limit]) := by
  have hone : ∀ m ∈ [Message.error text fatal limit],
      ∃ text fatal limit, m = .error text fatal limit := by
    intro m hm
    exact ⟨text, fatal, limit, List.mem_singleton.mp hm⟩
  have happend : ownMessages (T ++ [.error text fatal limit]) =
      ownMessages T ++ [.error text fatal limit] := ownMessages_append T _
  obtain ⟨asked, hown | ⟨services, times, hown⟩⟩ := h
  · exact ⟨asked, _, hone, .inl (by rw [happend, hown])⟩
  · exact ⟨asked, _, hone, .inr ⟨services, times, by rw [happend, hown]⟩⟩

theorem Replied.pong {time : Value} (h : Replied c r T q) : Replied c r (T ++ [.pong time]) q := by
  obtain ⟨asked, services, times, hown, hasked, hr⟩ := h
  refine ⟨asked, services, times ++ [time], ?_, hasked, hr⟩
  have happend : ownMessages (T ++ [.pong time]) = ownMessages T ++ [.pong time] :=
    ownMessages_append T _
  rw [happend, hown]
  simp [answer]

theorem Requested.registered {services : List ServiceReply} (h : Requested settings r T q) :
    Replied c r (T ++ [.registered c services]) q := by
  obtain ⟨asked, hown, hasked, hr, -⟩ := h
  refine ⟨asked, services, [], ?_, hasked, hr.ge⟩
  have happend : ownMessages (T ++ [.registered c services]) =
      ownMessages T ++ [.registered c services] := ownMessages_append T _
  rw [happend, hown]
  rfl

theorem Replied.read (h : Replied c r T q) : Replied c (r + 1) T q := by
  obtain ⟨asked, services, times, hown, hasked, hr⟩ := h
  exact ⟨asked, services, times, hown, hasked, hr.trans (Nat.le_succ r)⟩

/-- What the own messages and the request are decides. -/
theorem Requested.congr {T' : List Message} {q' : Request} (h : Requested settings r T q)
    (hT : ownMessages T' = ownMessages T) (hq : q'.message = q.message ∧ q'.retry = q.retry) :
    Requested settings r T' q' := by
  obtain ⟨asked, hown, hrest⟩ := h
  refine ⟨asked, hT.trans hown, ?_⟩
  rw [hq.1, hq.2]
  exact hrest

/-! ## The conversation -/

/-- The handler is over, but for its clean-up. -/
def ControlPoint.over : ControlPoint → Bool
  | .errorSent | .leave | .left _ | .closing | .finished => true
  | _ => false

/-- The points of the handler at which an exception is its error. -/
def ControlPoint.fails : ControlPoint → Bool
  | .helloSent | .readRegister | .dispatch _ | .forceRequiredSent | .readRetry | .registeredSent _
  | .serve _ | .pongSent _ => true
  | p => p.request.isSome

/-- The steps of `_handle_control`, by what the task reads and writes. -/
inductive TalkStep (c : ClientId) : ControlPoint → Event → Effect → ControlPoint → Prop
  | greeted {first} (h : (dictGet first "type").isText "hello" = true) :
      TalkStep c (.join first) .go (.join c) .sendHello
  | ungreeted {first} (h : ¬ (dictGet first "type").isText "hello" = true) :
      TalkStep c (.join first) .go (.join c) (.dispatch first)
  | hello : TalkStep c .sendHello .go (.send c .hello) .helloSent
  | helloSent : TalkStep c .helloSent (.drained none) .none .readRegister
  | readRegister {message} :
      TalkStep c .readRegister (.read message) .none (.dispatch (message.getD []))
  | register {current : Fields} {next : ControlPoint} {q : Request}
      (h : (dictGet current "type").isText "register" = true)
      (hq : next.request = some q) (hm : q.message = current) (hr : q.retry = false) :
      TalkStep c (.dispatch current) .go .none next
  | forced {q : Request} {e : ServerError} (h : q.retry = false) :
      TalkStep c (.raised q e) .go .none (.sendForceRequired e)
  | forceRequired {e} :
      TalkStep c (.sendForceRequired e) .go (.send c (.forceRequired e.text)) .forceRequiredSent
  | forceRequiredSent : TalkStep c .forceRequiredSent (.drained none) .none .readRetry
  | declined : TalkStep c .readRetry (.read none) .none .leave
  | retryClosed {m} (h : (dictGet m "type").isText "close" = true) :
      TalkStep c .readRetry (.read (some m)) .none .leave
  | retried {m : Fields} {next : ControlPoint} {q : Request}
      (h : ¬ (dictGet m "type").isText "close" = true)
      (hq : next.request = some q) (hm : q.message = m) (hr : q.retry = true) :
      TalkStep c .readRetry (.read (some m)) .none next
  | retryRefused {m e}
      (h : ¬ ((dictGet m "type").isText "register" && (dictGet m "force").isTrue) = true) :
      TalkStep c .readRetry (.read (some m)) .none (.failed e)
  | registered {q : Request} {services : List ServiceReply} :
      TalkStep c (.sendRegistered q services) .go (.send c (.registered c services))
        (.registeredSent q)
  | registeredSent {q : Request} : TalkStep c (.registeredSent q) (.drained none) .none (.serve q)
  | ended {q : Request} : TalkStep c (.serve q) (.read none) .none .leave
  | ping {q : Request} {m : Fields} (h : (dictGet m "type").isText "ping" = true) :
      TalkStep c (.serve q) (.read (some m)) .none (.sendPong q (dictGet m "time"))
  | closed {q : Request} {m : Fields} (h : ¬ (dictGet m "type").isText "ping" = true)
      (hc : (dictGet m "type").isText "close" = true) :
      TalkStep c (.serve q) (.read (some m)) .none .leave
  | ignored {q : Request} {m : Fields} (h : ¬ (dictGet m "type").isText "ping" = true)
      (hc : ¬ (dictGet m "type").isText "close" = true) :
      TalkStep c (.serve q) (.read (some m)) .none (.serve q)
  | pong {q : Request} {time : Value} :
      TalkStep c (.sendPong q time) .go (.send c (.pong time)) (.pongSent q)
  | pongSent {q : Request} : TalkStep c (.pongSent q) (.drained none) .none (.serve q)
  | error {e} :
      TalkStep c (.failed e) .go (.send c (.error e.text e.fatal e.maxPriority)) .errorSent
  | unsaid {e} : TalkStep c (.failed e) .closing .none .leave
  | registering {p next : ControlPoint} {e : Event} {φ : Effect} {q q' : Request}
      (hp : p.request = some q) (hn : next.request = some q')
      (hq : q'.message = q.message ∧ q'.retry = q.retry) (he : ∀ message, e ≠ .read message)
      (hφ : ∀ m, φ = .send c m → m.foreign = true) : TalkStep c p e φ next
  | failed {p : ControlPoint} {e : Event} {error : ServerError} (hp : p.fails = true)
      (he : ∀ message, e ≠ .read message) : TalkStep c p e .none (.failed error)
  | leaves {p next : ControlPoint} {e : Event} {φ : Effect} (hp : p.over = true)
      (hn : next.over = true) (he : ∀ message, e ≠ .read message)
      (hφ : ∀ m, φ ≠ .send c m) : TalkStep c p e φ next

theorem controlSegment_talks {e : Event} {seg : Segment LockId Effect ControlPoint}
    (h : controlSegment srv σ c p e = some seg) : TalkStep c p e seg.effect seg.next := by
  have hregister : ∀ (current : Fields) (force : Bool),
      (dictGet current "type").isText "register" = true →
      TalkStep c (.dispatch current) .go .none (startRegister current false force) := by
    intro current force htype
    obtain ⟨q, hq, hm, hr⟩ := request_startRegister current false force
    exact .register htype hq hm hr
  have hretry : ∀ (current : Fields) (force : Bool),
      ¬ (dictGet current "type").isText "close" = true →
      TalkStep c .readRetry (.read (some current)) .none (startRegister current true force) := by
    intro current force htype
    obtain ⟨q, hq, hm, hr⟩ := request_startRegister current true force
    exact .retried htype hq hm hr
  revert h
  fun_cases controlSegment srv σ c p e
  all_goals intro h
  all_goals cases h
  all_goals first
    | exact hregister _ _ ‹_›
    | exact hretry _ _ ‹_›
    | exact .forced (Bool.eq_false_iff.mpr ‹_›)
    | exact .retryRefused ‹_›
    | exact .registering rfl (request_nextItem _) ⟨rfl, rfl⟩ (fun _ he => by cases he)
        fun _ hφ => by cases hφ
    | exact .registering rfl rfl ⟨rfl, rfl⟩ (fun _ he => by cases he)
        fun _ hφ => by cases hφ <;> rfl
    | exact .leaves rfl rfl (fun _ he => by cases he) fun _ hφ => by cases hφ
    | exact .failed rfl fun _ he => by cases he
    | constructor <;> assumption

theorem messagesAfter_send (c : ClientId) (T : List Message) (m : Message) :
    messagesAfter c T (.send c m) = T ++ [m] := if_pos rfl

theorem messagesAfter_of_ne {φ : Effect} (hφ : ∀ m, φ ≠ .send c m) :
    messagesAfter c T φ = T := by
  unfold messagesAfter
  split
  · rename_i c' m
    exact if_neg fun hc => hφ m (by rw [hc])
  · rfl

/-- What other tasks write is not its own. -/
theorem ownMessages_after {φ : Effect} (hφ : ∀ m, φ = .send c m → m.foreign = true) :
    ownMessages (messagesAfter c T φ) = ownMessages T := by
  by_cases hsend : ∃ m, φ = .send c m
  · obtain ⟨m, rfl⟩ := hsend
    rw [messagesAfter_send, ownMessages_append, if_pos (hφ m rfl)]
  · rw [messagesAfter_of_ne fun m hm => hsend ⟨m, hm⟩]

theorem readAfter_of_ne {e : Event} (he : ∀ message, e ≠ .read message) : readAfter r e = r := by
  cases e with
  | read message => exact absurd rfl (he message)
  | _ => rfl

theorem SessionOk.requested (h : SessionOk settings c closed r T p) (hp : p.request = some q) :
    Requested settings r T q := by
  cases p with
  | join | sendHello | helloSent | readRegister | dispatch | sendForceRequired | forceRequiredSent
  | readRetry | registeredSent | serve | sendPong | pongSent | failed | errorSent | leave | left
  | closing | finished => cases hp
  | _ => exact h q hp

theorem SessionOk.talked (h : SessionOk settings c closed r T p) (hp : p.fails = true) :
    Talked c T := by
  cases p with
  | helloSent | readRegister | dispatch => exact ⟨none, .inl h.1⟩
  | forceRequiredSent | readRetry =>
      obtain ⟨text, hown, -⟩ := h
      exact ⟨some text, .inl hown⟩
  | registeredSent | serve | pongSent => exact Replied.talked h
  | join | sendHello | sendForceRequired | sendPong | failed | errorSent | leave | left | closing
  | finished => cases hp
  | _ => exact (h _ rfl).talked

theorem sessionOk_of_over (hp : p.over = true) :
    SessionOk settings c closed r T p ↔ Said c T := by
  cases p with
  | errorSent | leave | left | closing | finished => exact Iff.rfl
  | _ => cases hp

/-- A step of the task, if what it reads is what it expects. -/
theorem TalkStep.sessionOk {e : Event} {φ : Effect} {next : ControlPoint}
    (hs : TalkStep c p e φ next) (h : SessionOk settings c closed r T p)
    (hread : ∀ m, e = .read (some m) → Expects settings p m) (heof : e = .read none → closed) :
    SessionOk settings c closed (readAfter r e) (messagesAfter c T φ) next := by
  cases hs with
  -- the greeting
  | greeted htype => exact ⟨h.1, h.2.1⟩
  | ungreeted hnot =>
      rw [h.2.2] at hnot
      exact absurd rfl hnot
  | hello =>
      refine ⟨?_, h.2⟩
      rw [h.1, messagesAfter_send]
      rfl
  | helloSent => exact h
  -- the registration
  | @readRegister message =>
      refine ⟨h.1, ?_⟩
      cases message with
      | none => exact .inr ⟨heof rfl, rfl⟩
      | some m => exact .inl ⟨congrArg (· + 1) h.2, hread m rfl⟩
  | register htype hq hm hr =>
      obtain ⟨hown, ⟨hread, hcurrent⟩ | ⟨-, hcurrent⟩⟩ := h
      · refine sessionOk_of_request hq ⟨none, hown, ?_, ?_, ?_⟩
        · rw [hr]
          rfl
        · rw [hr]
          exact hread
        · rw [hm, hr]
          exact hcurrent
      · rw [hcurrent] at htype
        cases htype
  | registering hp hn hq he hφ =>
      rw [readAfter_of_ne he]
      exact sessionOk_of_request hn ((h.requested hp).congr (ownMessages_after hφ) hq)
  -- the retry
  | forced hretry =>
      obtain ⟨asked, hown, hasked, hr, -⟩ := h _ rfl
      rw [hretry] at hasked hr
      cases asked with
      | none => exact ⟨hown, hr⟩
      | some text => cases hasked
  | @forceRequired e =>
      refine ⟨e.text, ?_, h.2⟩
      rw [messagesAfter_send, ownMessages_append, h.1]
      rfl
  | forceRequiredSent => exact h
  | declined =>
      obtain ⟨text, hown, -⟩ := h
      exact Talked.said ⟨some text, .inl hown⟩
  | retryClosed hclose =>
      rw [hread _ rfl] at hclose
      cases hclose
  | retried hclose hq hm hr =>
      obtain ⟨text, hown, hcount⟩ := h
      refine sessionOk_of_request hq ⟨some text, hown, ?_, ?_, ?_⟩
      · rw [hr]
        rfl
      · rw [hr]
        exact congrArg (· + 1) hcount
      · rw [hm, hr]
        exact hread _ rfl
  | retryRefused hnot =>
      rw [hread _ rfl] at hnot
      exact absurd rfl hnot
  -- the answers
  | registered =>
      rw [messagesAfter_send]
      exact (h _ rfl).registered
  | registeredSent => exact h
  | ended => exact Talked.said (Replied.talked h)
  | ping htype => exact Replied.read h
  | closed htype hclose => exact Talked.said (Replied.talked h)
  | ignored htype hclose => exact Replied.read h
  | pong =>
      rw [messagesAfter_send]
      exact Replied.pong h
  | pongSent => exact h
  -- the end
  | failed hp he => exact h.talked hp
  | error =>
      rw [messagesAfter_send]
      exact Talked.error h
  | unsaid => exact Talked.said h
  | leaves hp hn he hφ =>
      rw [messagesAfter_of_ne hφ]
      exact (sessionOk_of_over hn).mpr ((sessionOk_of_over hp).mp h)

/-! ## The session as a whole -/

/-- What the server wrote for the session. -/
def Store.messages (σ : Store) (c : ClientId) : List Message :=
  (σ.sent.filter fun e => e.1 = c).map Prod.snd

theorem messages_apply (φ : Effect) (σ : Store) (c : ClientId) :
    (φ.apply σ).messages c = messagesAfter c (σ.messages c) φ := by
  rw [messages, Effect.apply_sent]
  cases φ with
  | send c' m =>
      show ((σ.sent ++ [(c', m)]).filter fun e => e.1 = c).map Prod.snd =
        if c' = c then σ.messages c ++ [m] else σ.messages c
      rw [List.filter_append, List.map_append]
      by_cases hc : c' = c <;> simp [hc, messages]
  | _ => rfl

/-- Messages are only added. -/
theorem messages_prefix (φ : Effect) (σ : Store) (c : ClientId) :
    σ.messages c <+: (φ.apply σ).messages c := by
  rw [messages_apply]
  unfold messagesAfter
  split
  · split
    · exact List.prefix_append _ _
    · exact List.prefix_refl _
  · exact List.prefix_refl _

/-- What other tasks write makes no difference. -/
theorem SessionOk.congr {T' : List Message} (h : SessionOk settings c closed r T p)
    (hT : ownMessages T' = ownMessages T) (hp : p.early = false) :
    SessionOk settings c closed r T' p := by
  unfold SessionOk Requested Replied Talked Said at *
  rw [hT]
  cases p with
  | join | sendHello | helloSent | readRegister | dispatch => cases hp
  | _ => exact h

theorem SessionOk.mono {closed' : Prop} (h : SessionOk settings c closed r T p)
    (hclosed : closed → closed') : SessionOk settings c closed' r T p := by
  cases p with
  | dispatch current => exact ⟨h.1, h.2.imp_right fun h => ⟨hclosed h.1, h.2⟩⟩
  | _ => exact h

theorem SessionOk.said (h : SessionOk settings c closed r T p) :
    (T = [] ∧ ((∃ first, p = .join first) ∨ p = .sendHello)) ∨ Said c T := by
  have hintroduced : ∀ {asked}, ownMessages T = introduction asked → Said c T :=
    fun hown => Talked.said ⟨_, .inl hown⟩
  cases p with
  | join first => exact .inl ⟨h.1, .inl ⟨first, rfl⟩⟩
  | sendHello => exact .inl ⟨h.1, .inr rfl⟩
  | helloSent | readRegister | dispatch | sendForceRequired => exact .inr (hintroduced h.1)
  | forceRequiredSent | readRetry =>
      obtain ⟨text, hown, -⟩ := h
      exact .inr (hintroduced hown)
  | registeredSent | serve | sendPong | pongSent => exact .inr (Replied.talked h).said
  | failed => exact .inr h.said
  | errorSent | leave | left | closing | finished => exact .inr h
  | _ => exact .inr (h _ rfl).talked.said

theorem Said.ne_nil (h : Said c T) : T ≠ [] := by
  rintro rfl
  obtain ⟨asked, tail, -, hown | ⟨services, times, hown⟩⟩ := h <;> cases hown

/-- The first message of the task is its greeting. -/
theorem controlSegment_silent {e : Event} {seg : Segment LockId Effect ControlPoint}
    {m : Message} (h : SessionOk settings c closed r [] p)
    (hseg : controlSegment srv σ c p e = some seg) (hm : m ∈ messagesAfter c [] seg.effect) :
    m = .hello := by
  rcases h.said with ⟨-, ⟨first, rfl⟩ | rfl⟩ | hsaid
  · cases e with
    | go =>
        simp only [controlSegment] at hseg
        split at hseg <;> cases hseg <;> cases hm
    | _ => cases hseg
  · cases e with
    | go =>
        cases hseg
        simpa [messagesAfter] using hm
    | _ => cases hseg
  · exact absurd rfl hsaid.ne_nil

/-! ## Steps of the server -/

/-- What is known of the session. -/
structure SessionAt (settings : ClientSettings) (closed : Prop) (r : Nat) (s : State)
    (c : ClientId) (p : ControlPoint) : Prop where
  point : s.point (.control c) = .control p
  ok : SessionOk settings c closed r (s.store.messages c) p
  greeted : ∀ m, (s.store.messages c).head? = some m → m = .hello

theorem head_messagesAfter {φ : Effect} (hT : ∀ m, T.head? = some m → m = .hello)
    (hnew : T = [] → ∀ m ∈ messagesAfter c [] φ, m = .hello) :
    ∀ m, (messagesAfter c T φ).head? = some m → m = .hello := by
  intro m hm
  cases T with
  | nil => exact hnew rfl m (List.mem_of_head? hm)
  | cons m' T =>
      refine hT m ?_
      rw [← hm]
      unfold messagesAfter
      split
      · split <;> rfl
      · rfl

/-- A step of another task, which may write to the session. -/
theorem SessionAt.other {C : State → Action → Prop} {s : State} {t : TaskId}
    {seg : Segment LockId Effect Point} (h : SessionAt settings closed r s c p)
    (hreach : (system srv).ReachableUnder C s) (hs : ServerStep srv s.store t (s.point t) seg)
    (ht : t ≠ .control c) :
    SessionOk settings c closed r (messagesAfter c (s.store.messages c) seg.effect) p ∧
      ∀ m, (messagesAfter c (s.store.messages c) seg.effect).head? = some m → m = .hello := by
  by_cases hφ : ∃ m, seg.effect = .send c m
  · obtain ⟨m, hφ⟩ := hφ
    obtain ⟨hforeign, howned⟩ := foreign_send hreach hs hφ ht
    have hok := greeting hreach (.control c)
    rw [h.point] at hok
    have hearly : p.early = false := Bool.eq_false_iff.mpr fun hp => hok.1 hp howned
    have hafter : messagesAfter c (s.store.messages c) seg.effect = s.store.messages c ++ [m] := by
      rw [hφ, messagesAfter_send]
    refine ⟨?_, head_messagesAfter h.greeted fun hsilent => ?_⟩
    · rw [hafter]
      refine h.ok.congr ?_ hearly
      rw [ownMessages_append, hforeign]
      rfl
    · rcases h.ok.said with ⟨-, ⟨first, rfl⟩ | rfl⟩ | hsaid
      · cases hearly
      · cases hearly
      · exact absurd hsilent hsaid.ne_nil
  · rw [messagesAfter_of_ne fun m hm => hφ ⟨m, hm⟩]
    exact ⟨h.ok, h.greeted⟩

/-- A step of the server, by whatever task. -/
theorem SessionAt.step {C : State → Action → Prop} {s s' : State} {t : TaskId} {e : Event}
    (h : SessionAt settings closed r s c p) (hreach : (system srv).ReachableUnder C s)
    (hs : (system srv).step s (t, e) = some s')
    (hread : ∀ m, (t, e) = (.control c, .read (some m)) → Expects settings p m)
    (heof : (t, e) = (.control c, .read none) → closed) :
    ∃ p', SessionAt settings closed (if t = .control c then readAfter r e else r) s' c p' := by
  obtain ⟨-, seg, hseg, rfl⟩ := Program.step_eq_some.mp hs
  have hmessages : ((program srv).commit s t seg).store.messages c =
      messagesAfter c (s.store.messages c) seg.effect := by
    rw [Program.commit_store]
    exact messages_apply seg.effect s.store c
  by_cases ht : t = .control c
  · subst ht
    rw [h.point] at hseg
    obtain ⟨seg, hcontrol, rfl⟩ := Option.map_eq_some_iff.mp hseg
    refine ⟨seg.next, Program.commit_point_self s _ _, ?_, ?_⟩
    · rw [if_pos rfl, hmessages]
      exact (controlSegment_talks hcontrol).sessionOk h.ok (fun m hm => hread m (by rw [hm]))
        fun hnone => heof (by rw [hnone])
    · rw [hmessages]
      refine head_messagesAfter h.greeted fun hsilent m hm => ?_
      have hok := h.ok
      rw [hsilent] at hok
      exact controlSegment_silent hok hcontrol hm
  · obtain ⟨hok, hgreeted⟩ := h.other hreach (serverSegment_cases hseg) ht
    refine ⟨p, ?_, ?_, ?_⟩
    · rw [Program.commit_point_of_ne s seg (Ne.symm ht)]
      exact h.point
    · rw [if_neg ht, hmessages]
      exact hok
    · rw [hmessages]
      exact hgreeted

theorem controlSegment_connect (now : Nat) (first : Fields) :
    controlSegment srv σ c p (.connect now first) = none := by
  cases p with
  | rollback q rest e => cases rest <;> rfl
  | _ => rfl

/-- The first message of a connection that is not a tunnel. -/
theorem connect_cases {s s' : State} {now : Nat} {first : Fields}
    (hs : (system srv).step s (.control c, .connect now first) = some s') :
    s.point (.control c) = .start ∧ (dictGet first "type").isText "tunnel" = false ∧
      s'.point (.control c) = .control (.join first) ∧
      s'.store.messages c = s.store.messages c := by
  obtain ⟨-, seg, hseg, rfl⟩ := Program.step_eq_some.mp hs
  have hseg : serverSegment srv s.store (.control c) (s.point (.control c)) (.connect now first) =
      some seg := hseg
  rw [Program.commit_point_self, Program.commit_store]
  revert hseg
  generalize s.point (.control c) = p
  intro hseg
  cases p with
  | start =>
      simp only [serverSegment] at hseg
      split at hseg
      · rename_i hcond
        cases hseg
        rw [Bool.and_eq_true, Bool.not_eq_true'] at hcond
        exact ⟨rfl, hcond.2, rfl, messages_apply _ _ _⟩
      · cases hseg
  | control p =>
      obtain ⟨seg', hcontrol, -⟩ := Option.map_eq_some_iff.mp hseg
      rw [controlSegment_connect] at hcontrol
      cases hcontrol
  | pub p => cases hseg
  | tunnel p => cases hseg

/-- Nobody writes to a client that has not come yet. -/
theorem messages_start {C : State → Action → Prop} {s s' : State} {a : Action}
    (hreach : (system srv).ReachableUnder C s) (hs : (system srv).step s a = some s')
    (hstart : s'.point (.control c) = .start) :
    s.point (.control c) = .start ∧ s'.store.messages c = s.store.messages c := by
  obtain ⟨t, e⟩ := a
  obtain ⟨-, seg, hseg, rfl⟩ := Program.step_eq_some.mp hs
  have hstep := serverSegment_cases hseg
  by_cases ht : t = .control c
  · subst ht
    rw [Program.commit_point_self] at hstart
    revert hstep
    generalize s.point (.control c) = p
    intro hstep
    cases hstep <;> cases hstart
  · rw [Program.commit_point_of_ne s seg (Ne.symm ht)] at hstart
    refine ⟨hstart, ?_⟩
    have hok := greeting hreach (.control c)
    rw [hstart] at hok
    rw [Program.commit_store]
    refine (messages_apply seg.effect s.store c).trans ?_
    unfold messagesAfter
    split
    · rename_i c' m heq
      refine if_neg fun hc => ?_
      subst hc
      exact hok (foreign_send hreach hstep heq ht).2
    · rfl

end PyFrp
