import PyFrp.Server.Replies
import PyFrp.Session.Handshake

/-!
# What the two sides agree on

In every run, the server reads of a client of this program what it waits for, and the
client what it can make sense of. They never wait for each other before both serve.
-/

namespace PyFrp

open Python Coop Store ClientRun

/-- The connection on which the client waits for a message. -/
def ClientRun.ControlPoint.listens : ClientRun.ControlPoint → Option Nat
  | .helloReply conn => some conn
  | .registerReply conn _ => some conn
  | .serving conn => some conn
  | _ => none

/-- The task of a session waits for a message. -/
def ControlPoint.reads : ControlPoint → Bool
  | .readRegister | .readRetry | .serve _ => true
  | _ => false

/-- The messages that the client has a use for where it waits for one. -/
def Awaits : ClientRun.ControlPoint → Message → Prop
  | .helloReply _, m => m = .hello
  | .registerReply _ again, m =>
      match m with
      | .registered _ _ | .error _ _ _ | .preempted _ _ => True
      | .forceRequired _ => again = false
      | _ => False
  | .serving _, m =>
      match m with
      | .openTunnel _ _ | .pong _ | .error _ _ _ | .preempted _ _ => True
      | _ => False
  | _, _ => True

/-- A tunnel is asked for before the registration is answered. -/
def Overtakes : ClientRun.ControlPoint → Message → Prop
  | .registerReply _ _, .openTunnel _ _ => True
  | _, _ => False

variable {settings : ClientSettings} {environ : Environment} {srv : Server} {j : Joint}
  {T : List Message} {m : Message} {n : Nat} {c : ClientId} {conn : Nat} {l : ControlLink}

/-! ## The order of the messages -/

/-- A message of the task is preceded by those that it wrote before. -/
theorem own_split (hm : T[n]? = some m) (hown : m.foreign = false) :
    ∃ rest, ownMessages T = ownMessages (T.take n) ++ m :: rest := by
  obtain ⟨hlt, rfl⟩ := List.getElem?_eq_some_iff.mp hm
  refine ⟨ownMessages (T.drop (n + 1)), ?_⟩
  have hsplit : T.take n ++ T[n] :: T.drop (n + 1) = T := by
    rw [← List.drop_eq_getElem_cons hlt, List.take_append_drop]
  conv_lhs => rw [← hsplit]
  simp only [ownMessages, List.filter_append, List.filter_cons, hown, Bool.not_false, if_true]

/-- After the greeting comes the answer to the first registration. -/
theorem Said.second {rest : List Message} (h : Said c T)
    (hown : ownMessages T = .hello :: m :: rest) :
    (∃ text, m = .forceRequired text) ∨ (∃ services, m = .registered c services) ∨
      ∃ text fatal limit, m = .error text fatal limit := by
  obtain ⟨asked, tail, htail, h | ⟨services, times, h⟩⟩ := h
  all_goals rw [hown] at h
  · cases asked with
    | none =>
        simp only [introduction, Option.map_none, Option.toList_none, List.cons_append,
          List.nil_append, List.cons.injEq, true_and] at h
        exact .inr (.inr (htail m (h ▸ List.mem_cons_self)))
    | some text =>
        simp only [introduction, Option.map_some, Option.toList_some, List.cons_append,
          List.nil_append, List.cons.injEq, true_and] at h
        exact .inl ⟨text, h.1⟩
  · cases asked with
    | none =>
        simp only [answer, introduction, Option.map_none, Option.toList_none, List.cons_append,
          List.nil_append, List.cons.injEq, true_and] at h
        exact .inr (.inl ⟨services, h.1⟩)
    | some text =>
        simp only [answer, introduction, Option.map_some, Option.toList_some, List.cons_append,
          List.nil_append, List.cons.injEq, true_and] at h
        exact .inl ⟨text, h.1⟩

/-- After the question comes the answer to the second registration. -/
theorem Said.third {text : String} {rest : List Message} (h : Said c T)
    (hown : ownMessages T = .hello :: .forceRequired text :: m :: rest) :
    (∃ services, m = .registered c services) ∨ ∃ text fatal limit, m = .error text fatal limit := by
  obtain ⟨asked, tail, htail, h | ⟨services, times, h⟩⟩ := h
  all_goals rw [hown] at h
  · cases asked with
    | none =>
        simp only [introduction, Option.map_none, Option.toList_none, List.cons_append,
          List.nil_append, List.cons.injEq, true_and] at h
        obtain ⟨text', fatal, limit, heq⟩ := htail (.forceRequired text) (h ▸ List.mem_cons_self)
        cases heq
    | some text' =>
        simp only [introduction, Option.map_some, Option.toList_some, List.cons_append,
          List.nil_append, List.cons.injEq, true_and] at h
        exact .inr (htail m (h.2 ▸ List.mem_cons_self))
  · cases asked with
    | none => simp [answer, introduction] at h
    | some text' =>
        simp only [answer, introduction, Option.map_some, Option.toList_some, List.cons_append,
          List.nil_append, List.cons.injEq, true_and] at h
        exact .inl ⟨services, h.2.1⟩

/-- After the confirmation come the pongs. -/
theorem Said.later {before rest : List Message} (h : Said c T)
    (hown : ownMessages T = before ++ m :: rest)
    (hconfirmed : ∃ c services, .registered c services ∈ before) :
    (∃ time, m = .pong time) ∨ ∃ text fatal limit, m = .error text fatal limit := by
  obtain ⟨c', services', hconfirmed⟩ := hconfirmed
  have hintroduction : ∀ asked, .registered c' services' ∉ introduction asked := by
    intro asked hmem
    cases asked <;> simp [introduction] at hmem
  obtain ⟨asked, tail, htail, h | ⟨services, times, h⟩⟩ := h
  all_goals rw [hown] at h
  · have hmem : .registered c' services' ∈ introduction asked ++ tail := by
      rw [← h]
      exact List.mem_append_left _ hconfirmed
    rcases List.mem_append.mp hmem with hmem | hmem
    · exact absurd hmem (hintroduction asked)
    · obtain ⟨text, fatal, limit, heq⟩ := htail _ hmem
      cases heq
  · rw [answer, List.append_assoc, List.cons_append] at h
    rcases List.append_eq_append_iff.mp h with ⟨middle, hintro, hrest⟩ | ⟨middle, hbefore, hrest⟩
    · exact absurd (hintro ▸ List.mem_append_left _ hconfirmed) (hintroduction asked)
    · cases middle with
      | nil =>
          rw [List.append_nil] at hbefore
          exact absurd (hbefore ▸ hconfirmed) (hintroduction asked)
      | cons first middle =>
          obtain ⟨-, hrest⟩ := List.cons.inj hrest
          have hmem : m ∈ times.map Message.pong ++ tail := by
            rw [hrest]
            exact List.mem_append_right _ List.mem_cons_self
          rcases List.mem_append.mp hmem with hmem | hmem
          · obtain ⟨time, -, rfl⟩ := List.mem_map.mp hmem
            exact .inl ⟨time, rfl⟩
          · exact .inr (htail m hmem)

theorem take_one (h : ∀ m, T.head? = some m → m = .hello) (hlt : 1 ≤ T.length) :
    T.take 1 = [.hello] := by
  cases T with
  | nil => cases hlt
  | cons m T => rw [h m rfl, List.take_succ_cons, List.take_zero]

theorem take_two {text : String} (h : ∀ m, T.head? = some m → m = .hello)
    (hasked : T[1]? = some (.forceRequired text)) : T.take 2 = [.hello, .forceRequired text] := by
  cases T with
  | nil => cases hasked
  | cons m T =>
      cases T with
      | nil => cases hasked
      | cons m' T =>
          cases hasked
          rw [h m rfl, List.take_succ_cons, List.take_succ_cons, List.take_zero]

/-- The next message is one that the client has a use for, or it has overtaken the answer. -/
theorem awaits_next {p : ClientRun.ControlPoint} (hsaid : Said c T)
    (hgreeted : ∀ m, T.head? = some m → m = .hello) (htold : Told T n p)
    (hm : T[n]? = some m) : Awaits p m ∨ Overtakes p m := by
  have hlt : n < T.length := (List.getElem?_eq_some_iff.mp hm).1
  have hown : m.foreign = false → ∃ rest, ownMessages T = ownMessages (T.take n) ++ m :: rest :=
    own_split hm
  cases p with
  | helloReply conn =>
      have hn : n = 0 := htold
      rw [hn, ← List.head?_eq_getElem?] at hm
      exact .inl (hgreeted m hm)
  | registerReply conn again =>
      cases hforeign : m.foreign with
      | true =>
          cases m with
          | openTunnel id name => exact .inr trivial
          | preempted priority byPriority => exact .inl trivial
          | _ => cases hforeign
      | false =>
          obtain ⟨rest, hown⟩ := hown hforeign
          cases again with
          | false =>
              have hn : n = 1 := htold
              rw [hn, take_one hgreeted (by omega)] at hown
              rcases hsaid.second hown with ⟨text, rfl⟩ | ⟨services, rfl⟩ |
                ⟨text, fatal, limit, rfl⟩
              · exact .inl rfl
              · exact .inl trivial
              · exact .inl trivial
          | true =>
              obtain ⟨hn, text, hasked⟩ : n = 2 ∧ Asks T[1]? := htold
              rw [hn, take_two hgreeted hasked] at hown
              rcases hsaid.third hown with ⟨services, rfl⟩ | ⟨text, fatal, limit, rfl⟩
              · exact .inl trivial
              · exact .inl trivial
  | serving conn =>
      obtain ⟨i, hi, c', services, hconfirmed⟩ : Confirms T n := htold
      cases hforeign : m.foreign with
      | true => cases m <;> first | exact .inl trivial | cases hforeign
      | false =>
          obtain ⟨rest, hown⟩ := hown hforeign
          have hbefore : .registered c' services ∈ ownMessages (T.take n) := by
            refine List.mem_filter.mpr ⟨List.mem_of_getElem? (i := i) ?_, rfl⟩
            rw [List.getElem?_take_of_lt hi, hconfirmed]
          rcases hsaid.later hown ⟨c', services, hbefore⟩ with ⟨time, rfl⟩ |
            ⟨text, fatal, limit, rfl⟩
          · exact .inl trivial
          · exact .inl trivial
  | _ => exact .inl trivial

/-! ## Tunnels that are asked for -/

/-- The server looks up a service only if it has answered its client. -/
def AnswersFirst (j : Joint) (e : JointEvent) : Prop :=
  ∀ a, e = .server a → LooksUpAnswered j.server a

def answersFirst (j : Joint) : JointEvent → Bool
  | .server a => looksUpAnswered j.server a
  | _ => true

theorem answersFirst_iff {e : JointEvent} : answersFirst j e = true ↔ AnswersFirst j e := by
  cases e with
  | server a => exact ⟨fun h b hb => JointEvent.server.inj hb ▸ h, fun h => h a rfl⟩
  | _ => exact ⟨fun _ => nofun, fun _ => rfl⟩

/-- The elements before the `n`-th one that is kept. -/
theorem take_filter {α : Type} {p : α → Bool} {a : α} (xs : List α) {n : Nat}
    (h : (xs.filter p)[n]? = some a) :
    ∃ i, xs[i]? = some a ∧ (xs.take i).filter p = (xs.filter p).take n := by
  induction xs generalizing n with
  | nil => cases h
  | cons x xs ih =>
      cases hx : p x with
      | false =>
          rw [List.filter_cons_of_neg (by simp [hx])] at h ⊢
          obtain ⟨i, hi, htake⟩ := ih h
          refine ⟨i + 1, hi, ?_⟩
          rw [List.take_succ_cons, List.filter_cons_of_neg (by simp [hx]), htake]
      | true =>
          rw [List.filter_cons_of_pos hx] at h ⊢
          cases n with
          | zero => exact ⟨0, h, rfl⟩
          | succ n =>
              obtain ⟨i, hi, htake⟩ := ih h
              refine ⟨i + 1, hi, ?_⟩
              rw [List.take_succ_cons, List.filter_cons_of_pos hx, htake, List.take_succ_cons]

/-- Among the messages of a session, too, the confirmation comes first. -/
theorem RepliesFirst.messages {σ : Store} {id name : String} (h : RepliesFirst σ)
    (hn : (σ.messages c)[n]? = some (.openTunnel id name)) :
    ∃ c' services, .registered c' services ∈ (σ.messages c).take n := by
  rw [Store.messages, List.getElem?_map] at hn
  obtain ⟨⟨c', m⟩, he, hm⟩ := Option.map_eq_some_iff.mp hn
  have hm : m = .openTunnel id name := hm
  subst hm
  have hc : c' = c := of_decide_eq_true (List.mem_filter.mp (List.mem_of_getElem? he)).2
  subst hc
  obtain ⟨i, hi, htake⟩ := take_filter σ.sent he
  obtain ⟨k, hk, m, hm, hregistered⟩ := h i c' id name hi
  have hmem : (c', m) ∈ (σ.sent.filter fun e => e.1 = c').take n := by
    rw [← htake]
    refine List.mem_filter.mpr ⟨List.mem_of_getElem? (i := k) ?_, decide_eq_true rfl⟩
    rw [List.getElem?_take_of_lt hk, hm]
  rw [Store.messages, ← List.map_take]
  cases m with
  | registered client services => exact ⟨client, services, List.mem_map.mpr ⟨_, hmem, rfl⟩⟩
  | _ => cases hregistered

/-! ## Runs of the two -/

open Joint

theorem Joint.LinkOk.said (h : LinkOk settings j conn l)
    (hm : (j.messages l.session)[n]? = some m) :
    Said l.session (j.messages l.session) ∧
      ∀ m, (j.messages l.session).head? = some m → m = .hello := by
  obtain ⟨⟨p, hat⟩, -⟩ := h
  refine ⟨?_, hat.greeted⟩
  rcases hat.ok.said with ⟨hsilent, -⟩ | hsaid
  · rw [messages, hsilent] at hm
    cases hm
  · exact hsaid

theorem Joint.InStep.awaits (hj : InStep settings j) (hl : j.links.get? conn = some l)
    (hconn : j.client.control.conn = some conn) (hm : (j.messages l.session)[l.taken]? = some m) :
    Awaits j.client.control m ∨ Overtakes j.client.control m := by
  obtain ⟨hsaid, hgreeted⟩ := (hj.links conn l hl).said hm
  have htold := hj.told conn hconn
  rw [received_of_get? hl, taken_of_get? hl] at htold
  exact awaits_next hsaid hgreeted htold hm

/-- No tunnel is asked for before the confirmation. -/
theorem Joint.InStep.answered (hj : InStep settings j)
    (hserver : (system srv).ReachableUnder LooksUpAnswered j.server)
    (hl : j.links.get? conn = some l) (hconn : j.client.control.conn = some conn)
    (hm : (j.messages l.session)[l.taken]? = some m) : ¬ Overtakes j.client.control m := by
  intro hovertakes
  unfold Overtakes at hovertakes
  split at hovertakes
  · rename_i conn' again id name hp
    have htold := hj.told conn hconn
    rw [received_of_get? hl, taken_of_get? hl, hp] at htold
    have hfirst := ((repliesOutline srv).sound (discipline srv) hserver).1
    obtain ⟨c, services, hconfirmed⟩ := RepliesFirst.messages hfirst hm
    obtain ⟨-, hgreeted⟩ := (hj.links conn l hl).said hm
    have hlt := (List.getElem?_eq_some_iff.mp hm).1
    cases again with
    | false =>
        have htaken : l.taken = 1 := htold
        rw [htaken] at hconfirmed hlt
        rw [show (j.server.store.messages l.session).take 1 = [.hello] from
          take_one hgreeted (Nat.le_of_lt hlt)] at hconfirmed
        simp at hconfirmed
    | true =>
        obtain ⟨htaken, text, hasked⟩ : l.taken = 2 ∧ Asks (j.messages l.session)[1]? := htold
        rw [htaken, show (j.server.store.messages l.session).take 2 =
          [.hello, .forceRequired text] from take_two hgreeted hasked] at hconfirmed
        simp at hconfirmed
  · exact hovertakes

/-- What is written after the greeting are messages. -/
theorem greeted_message {w : List Written} {x : Written} (h : Conversation settings w)
    (hw : w.head? = some (.message helloMessage)) (hx : x ∈ w) : ∃ m, x = .message m := by
  rcases greeted_cases h hw with rfl | ⟨again, times, rfl⟩
  · exact ⟨_, List.mem_singleton.mp hx⟩
  · rcases List.mem_append.mp hx with hx | hx
    · cases again
      all_goals
        simp only [registration, Bool.false_eq_true, if_false, if_true, List.append_nil,
          List.cons_append, List.nil_append, List.mem_cons, List.not_mem_nil, or_false] at hx
      · rcases hx with rfl | rfl <;> exact ⟨_, rfl⟩
      · rcases hx with rfl | rfl | rfl <;> exact ⟨_, rfl⟩
    · obtain ⟨time, -, rfl⟩ := List.mem_map.mp hx
      exact ⟨_, rfl⟩

/-! ## A meeting -/

/-- A client with one proxy. -/
def meetingSettings : ClientSettings :=
  { exampleSettings exampleDigest with
    client :=
      { config := ⟨[⟨"web", "127.0.0.1", 80, none, some 8080, none⟩], none, "py-frp"⟩
        repr := fun _ => "" } }

def meeting : System Joint JointEvent := joint meetingSettings .empty Schedule.mixedServer

def serverRun (actions : List Action) : List JointEvent := actions.map .server

/-- The two have greeted, and the client has sent its registration. -/
def greetingRun : List JointEvent :=
  [.client (.control (.openEvent (.connected (.tls (some exampleDer)) (.callback true)))),
    .client (.control .drained), .accept 0 "a" 0] ++
  serverRun (Schedule.goes (.control "a") 2 ++ [(.control "a", .drained none)]) ++
  [.take .closed, .client (.control .drained)]

/-- The server has registered the proxy. -/
def registrationRun : List JointEvent :=
  greetingRun ++ [.read 0] ++
    serverRun (Schedule.goes (.control "a") 1 ++ Schedule.regular "a" 8080 ++
      Schedule.goes (.control "a") 2 ++ [(.control "a", .drained none)])

/-- **Conformance.** What comes next for the server is what its task waits for, and what comes
next for the client is what it has a use for, but for a tunnel that it is asked for before its
registration is answered. There is none if the server looks up the services of clients that it
has answered only. -/
theorem dialogue_conforms (settings : ClientSettings) (environ : Environment) (srv : Server)
    {j : Joint} (h : (joint settings environ srv).Reachable j) {conn : Nat} {l : ControlLink}
    (hl : j.links.get? conn = some l) :
    (∀ p w, j.server.point (.control l.session) = .control p → (j.written conn)[l.read]? = some w →
      ∃ m, w = .message m ∧ Expects settings p m) ∧
    ∀ m, j.client.control.conn = some conn → (j.messages l.session)[l.taken]? = some m →
      (Awaits j.client.control m ∨ Overtakes j.client.control m) ∧
      ((joint settings environ srv).ReachableUnder AnswersFirst j → Awaits j.client.control m) := by
  have hj := inStep h
  constructor
  · intro p w hp hw
    obtain ⟨⟨p', hat⟩, hgreeted⟩ := hj.links conn l hl
    have hconversation := hj.orderly.conversation conn
    obtain ⟨m, rfl⟩ := greeted_message hconversation hgreeted (List.mem_of_getElem? hw)
    have hearned := hj.earned conn
    rw [received_of_get? hl] at hearned
    rw [hat.point] at hp
    cases hp
    exact ⟨m, rfl, expects_next hat.ok hconversation hgreeted hearned hw⟩
  · intro m hconn hm
    have hawaits := hj.awaits hl hconn hm
    refine ⟨hawaits, fun hanswers => hawaits.resolve_right ?_⟩
    exact hj.answered ((server_refines fun _ _ _ => rfl).reachable hanswers) hl hconn hm

/-- The server waits for the registration, and that is what comes. -/
theorem dialogue_conforms_meeting :
    ∃ (j : Joint) (w : Written), j.links.get? 0 = some ⟨"a", 1, 1⟩ ∧
      j.server.point (.control "a") = .control .readRegister ∧ (j.written 0)[1]? = some w ∧
      ∃ m, w = .message m ∧ Expects meetingSettings .readRegister m := by
  have hrun : (meeting.execWhile (fun _ _ => true) meeting.init greetingRun).map
      (fun j => (j.links.get? 0, j.server.point (.control "a"), (j.written 0)[1]?)) =
        some (some ⟨"a", 1, 1⟩, .control .readRegister,
          some (.message (meetingSettings.client.registerMessage false))) := by rfl
  obtain ⟨j, hj, heq⟩ := System.exists_of_execWhile_map _ (fun _ _ _ _ => trivial) hrun
  obtain ⟨hl, heq⟩ := Prod.mk.inj heq
  obtain ⟨hp, hw⟩ := Prod.mk.inj heq
  exact ⟨j, _, hl, hp, hw, (dialogue_conforms meetingSettings .empty Schedule.mixedServer hj hl).1
    .readRegister _ hp hw⟩

/-! ## Waiting for each other -/

/-- What the client waits for follows what it has written. -/
theorem written_registerReply {again : Bool} (h : Orderly settings j.client)
    (hp : j.client.control = .registerReply conn again) :
    j.written conn = registration settings again := by
  have hholds : Holds j.client.connections j.client.control.conn
      (j.client.control.Stands settings) := h.holds none
  rw [hp] at hholds
  obtain ⟨k, hk, -, hwritten⟩ := hholds conn rfl
  rw [written, writtenOn, hk]
  exact hwritten

theorem own_length_le (T : List Message) : (ownMessages T).length ≤ T.length :=
  List.length_filter_le _ _

/-- Where the task waits for a message, it is known what it has said and read. -/
theorem reads_cases {closed : Prop} {r : Nat} {p : ControlPoint}
    (h : SessionOk settings c closed r T p) (hreads : p.reads = true) :
    (ownMessages T = introduction none ∧ r = 1) ∨
      (∃ text, ownMessages T = introduction (some text) ∧ r = 2) ∨
      ∃ q, p = .serve q ∧ Replied c r T q := by
  cases p with
  | readRegister => exact .inl h
  | readRetry => exact .inr (.inl h)
  | serve q => exact .inr (.inr ⟨q, rfl, h⟩)
  | _ => cases hreads

theorem length_answer (asked : Option String) (services : List ServiceReply)
    (times : List Value) :
    (answer c asked services times).length = 2 + asked.isSome.toNat + times.length := by
  cases asked <;> simp [answer, introduction] <;> omega

/-- The client waits for the answer to its registration, and the task does not wait. -/
theorem registerReply_served {closed : Prop} {r : Nat} {p : ControlPoint} {again : Bool}
    (hok : SessionOk settings c closed r T p) (hreads : p.reads = true)
    (htold : Told T T.length (.registerReply conn again))
    (hr : r = (registration settings again).length) : False := by
  have hle := own_length_le T
  cases again with
  | false =>
      have hone : T.length = 1 := htold
      have hr : r = 2 := hr
      rcases reads_cases hok hreads with ⟨-, hfirst⟩ | ⟨text, hown, -⟩ | ⟨q, -, asked, services,
        times, hown, -⟩
      · omega
      · rw [hown] at hle
        have htwo : 2 ≤ T.length := hle
        omega
      · rw [hown, length_answer] at hle
        omega
  | true =>
      obtain ⟨htwo, hasks⟩ : T.length = 2 ∧ Asks T[1]? := htold
      have hr : r = 3 := hr
      rcases reads_cases hok hreads with ⟨-, hfirst⟩ | ⟨text, -, hsecond⟩ | ⟨q, -, asked, services,
        times, hown, -⟩
      · omega
      · omega
      · cases asked with
        | none => exact not_asks hown hasks
        | some text =>
            rw [hown, length_answer, Option.isSome_some, Bool.toNat_true] at hle
            omega

/-- **No deadlock.** The client waits for the server, and the server for the client, with no
message under way, only when both have registered and serve. -/
theorem waiting_serves (settings : ClientSettings) (environ : Environment) (srv : Server)
    {j : Joint} (h : (joint settings environ srv).Reachable j) {conn : Nat} {l : ControlLink}
    {p : ControlPoint} (hl : j.links.get? conn = some l)
    (hlistens : j.client.control.listens = some conn)
    (htaken : l.taken = (j.messages l.session).length)
    (hp : j.server.point (.control l.session) = .control p) (hreads : p.reads = true)
    (hread : l.read = (j.written conn).length) :
    j.client.control = .serving conn ∧ ∃ q, p = .serve q := by
  have hj := inStep h
  obtain ⟨⟨p', hat⟩, -⟩ := hj.links conn l hl
  rw [hat.point] at hp
  cases hp
  have hok : SessionOk settings l.session _ l.read (j.messages l.session) p := hat.ok
  have hconn : j.client.control.conn = some conn := by
    revert hlistens
    cases j.client.control <;> intro hlistens <;> first | exact hlistens | cases hlistens
  have htold := hj.told conn hconn
  rw [received_of_get? hl, taken_of_get? hl] at htold
  rw [htaken] at htold
  cases hcontrol : j.client.control with
  | helloReply c =>
      rw [hcontrol] at htold
      have hnone : (j.messages l.session).length = 0 := htold
      rw [List.length_eq_zero_iff] at hnone
      rcases reads_cases hok hreads with ⟨hown, -⟩ | ⟨text, hown, -⟩ | ⟨q, -, asked, services,
        times, hown, -⟩
      all_goals
        rw [hnone] at hown
        cases hown
  | registerReply c again =>
      rw [hcontrol] at htold hlistens
      cases hlistens
      rw [written_registerReply hj.orderly hcontrol] at hread
      exact (registerReply_served hok hreads htold hread).elim
  | serving c =>
      rw [hcontrol] at hlistens htold
      cases hlistens
      rcases reads_cases hok hreads with ⟨hown, -⟩ | ⟨text, hown, -⟩ | ⟨q, hq, -⟩
      · exact absurd htold (not_confirms hown)
      · exact absurd htold (not_confirms hown)
      · exact ⟨rfl, q, hq⟩
  | _ =>
      rw [hcontrol] at hlistens
      cases hlistens

/-- The record of the proxy. -/
def meetingRecord : RegisteredService :=
  ⟨"web", "0.0.0.0", 8080, none, "a", 0, false, none, 0⟩

/-- The client has read that it is registered, and nothing is under way. -/
theorem waiting_serves_meeting :
    ∃ (j : Joint) (l : ControlLink) (p : ControlPoint), j.links.get? 0 = some l ∧
      l.taken = (j.messages l.session).length ∧
      j.server.point (.control l.session) = .control p ∧ l.read = (j.written 0).length ∧
      j.client.control = .serving 0 ∧ ∃ q, p = .serve q := by
  have hrun : (meeting.execWhile (fun _ _ => true) meeting.init
      (registrationRun ++ [.take .closed])).map (fun j => (j.links.get? 0,
        j.client.control.listens, (j.messages "a").length, (j.written 0).length,
          j.server.point (.control "a"))) =
        some (some ⟨"a", 2, 2⟩, some 0, 2, 2, .control (.serve
          ⟨meetingSettings.client.registerMessage false, false, false,
            meetingSettings.client.servicePayloads, [meetingRecord]⟩)) := by rfl
  obtain ⟨j, hj, heq⟩ := System.exists_of_execWhile_map _ (fun _ _ _ _ => trivial) hrun
  obtain ⟨hl, heq⟩ := Prod.mk.inj heq
  obtain ⟨hlistens, heq⟩ := Prod.mk.inj heq
  obtain ⟨htaken, heq⟩ := Prod.mk.inj heq
  obtain ⟨hread, hp⟩ := Prod.mk.inj heq
  exact ⟨j, _, _, hl, htaken.symm, hp, hread.symm, waiting_serves meetingSettings .empty
    Schedule.mixedServer hj hl hlistens htaken.symm hp rfl hread.symm⟩

/-! ## The answer to a registration -/

/-- What an error message of the server is raised as. -/
def serverError (text : String) (fatal : Bool) : ClientError :=
  let text := if text = "" then "server error" else text
  if fatal then .fatal text else .other text

/-- What the client does when it reads the answer to its registration. -/
inductive Understood (settings : ClientSettings) (s : ClientRun) (conn : Nat) (answer : Answer) :
    Bool → Message → ClientRun → Prop
  | registered {again clientId services} :
      Understood settings s conn answer again (.registered clientId services)
        { s with
          proxies := settings.client.applyRegisteredAliases
            (Message.registered clientId services).fields
          heartbeat := some { conn := conn }
          control := .serving conn }
  | error {again text fatal limit} :
      Understood settings s conn answer again (.error text fatal limit)
        (s.leaveRunOnce conn (.error (serverError text fatal)))
  | preempted {again priority byPriority} :
      Understood settings s conn answer again (.preempted priority byPriority)
        (s.leaveRunOnce conn
          (.error (.other "connection preempted by a forced pool connection")))
  | forced {text} (hforce : settings.forceConnect = true) :
      Understood settings s conn answer false (.forceRequired text)
        (s.sendRegister settings conn true true)
  | confirmed {text} (hforce : settings.forceConnect = false)
      (hconfirms : settings.confirmsForce = true) :
      Understood settings s conn answer false (.forceRequired text)
        (s.forceAnswered settings conn answer)
  | asked {text} (hforce : settings.forceConnect = false)
      (hconfirms : settings.confirmsForce = false) :
      Understood settings s conn answer false (.forceRequired text)
        { s with control := .confirmForce conn }

theorem errorResponse_error (text : String) (fatal : Bool) (limit : Option Int) :
    errorResponse settings (Message.error text fatal limit).fields =
      some (serverError text fatal) := by
  have htype : hasType (Message.error text fatal limit).fields "error" = true := rfl
  have herror : dictGet (Message.error text fatal limit).fields "error" = .str text := rfl
  have hfatal : (dictGet (Message.error text fatal limit).fields "fatal").isTrue = fatal := by
    cases fatal <;> rfl
  unfold errorResponse messageError
  rw [htype, herror, hfatal]
  by_cases htext : text = "" <;> simp [serverError, Value.truthy, Value.toStr, htext]

theorem registerReply_understood {s : ClientRun} {answer : Answer} {again : Bool}
    (h : Awaits (.registerReply conn again) m) :
    Understood settings s conn answer again m
      (s.registerReply settings conn again (some m.fields) answer) := by
  cases m with
  | hello => exact h.elim
  | pong time => exact h.elim
  | openTunnel id name => exact h.elim
  | registered clientId services =>
      have heq : s.registerReply settings conn again
          (some (Message.registered clientId services).fields) answer =
            s.registered settings conn (Message.registered clientId services).fields := by
        cases again <;> rfl
      rw [heq]
      exact .registered
  | error text fatal limit =>
      have heq : s.registerReply settings conn again
          (some (Message.error text fatal limit).fields) answer =
            s.registered settings conn (Message.error text fatal limit).fields := by
        cases again <;> rfl
      rw [heq, ClientRun.registered, errorResponse_error]
      exact .error
  | preempted priority byPriority =>
      have heq : s.registerReply settings conn again
          (some (Message.preempted priority byPriority).fields) answer =
            s.leaveRunOnce conn
              (.error (.other "connection preempted by a forced pool connection")) := by
        cases again <;> rfl
      rw [heq]
      exact .preempted
  | forceRequired text =>
      have hagain : again = false := h
      subst hagain
      have htype : hasType (Message.forceRequired text).fields "force_required" = true := rfl
      simp only [registerReply, htype, Bool.not_false, Bool.and_self, if_true]
      cases hforce : settings.forceConnect with
      | true => exact .forced hforce
      | false =>
          cases hconfirms : settings.confirmsForce with
          | true => exact .confirmed hforce hconfirms
          | false => exact .asked hforce hconfirms

/-- **The answer is understood.** While the server looks up the services of clients that it has
answered only, the client reads as the answer to its registration that it is registered, an
error, or, the first time, that force is required. It serves then, or it ends the conversation
with the error of the server, or it does what is asked. -/
theorem reply_understood (settings : ClientSettings) (environ : Environment) (srv : Server)
    {j : Joint} (h : (joint settings environ srv).ReachableUnder AnswersFirst j) {conn : Nat}
    {l : ControlLink} {again : Bool} {m : Message} (hl : j.links.get? conn = some l)
    (hp : j.client.control = .registerReply conn again)
    (hm : (j.messages l.session)[l.taken]? = some m) :
    ((∃ c services, m = .registered c services) ∨
      (∃ text fatal limit, m = .error text fatal limit) ∨
      (∃ priority byPriority, m = .preempted priority byPriority) ∨
      (again = false ∧ ∃ text, m = .forceRequired text)) ∧
    ∀ answer, ∃ t,
      ClientRun.step settings j.client (.control (.received (some m.fields) answer)) = some t ∧
      Understood settings j.client conn answer again m t := by
  have hj := inStep h.reachable
  have hconn : j.client.control.conn = some conn := by
    rw [hp]
    rfl
  have hawaits : Awaits j.client.control m :=
    (hj.awaits hl hconn hm).resolve_right
      (hj.answered ((server_refines fun _ _ _ => rfl).reachable h) hl hconn hm)
  rw [hp] at hawaits
  constructor
  · cases m with
    | registered client services => exact .inl ⟨client, services, rfl⟩
    | error text fatal limit => exact .inr (.inl ⟨text, fatal, limit, rfl⟩)
    | preempted priority byPriority => exact .inr (.inr (.inl ⟨priority, byPriority, rfl⟩))
    | forceRequired text => exact .inr (.inr (.inr ⟨hawaits, text, rfl⟩))
    | hello => exact hawaits.elim
    | pong time => exact hawaits.elim
    | openTunnel id name => exact hawaits.elim
  · intro answer
    refine ⟨_, ?_, registerReply_understood hawaits⟩
    simp only [ClientRun.step, controlStep, hp]

/-- The client reads that it is registered, and serves. -/
theorem reply_understood_meeting :
    ∃ (j : Joint) (m : Message) (t : ClientRun), j.links.get? 0 = some ⟨"a", 2, 1⟩ ∧
      j.client.control = .registerReply 0 false ∧ (j.messages "a")[1]? = some m ∧
      ClientRun.step meetingSettings j.client (.control (.received (some m.fields) .closed)) =
        some t ∧ t.control = .serving 0 := by
  have hrun : (meeting.execWhile answersFirst meeting.init registrationRun).map
      (fun j => (j.links.get? 0, j.client.control, (j.messages "a")[1]?)) =
        some (some ⟨"a", 2, 1⟩, .registerReply 0 false,
          some (.registered "a" [⟨"web", "0.0.0.0", 8080, 0⟩])) := by rfl
  obtain ⟨j, hj, heq⟩ := System.exists_of_execWhile_map _ (fun _ _ _ => answersFirst_iff.mp) hrun
  obtain ⟨hl, heq⟩ := Prod.mk.inj heq
  obtain ⟨hp, hm⟩ := Prod.mk.inj heq
  obtain ⟨-, hunderstood⟩ :=
    reply_understood meetingSettings .empty Schedule.mixedServer hj hl hp hm
  obtain ⟨t, hs, ht⟩ := hunderstood .closed
  refine ⟨j, _, t, hl, hp, hm, hs, ?_⟩
  cases ht
  rfl

/-- A client with a second proxy. -/
def overtakenSettings : ClientSettings :=
  { meetingSettings with
    client :=
      { config := ⟨[⟨"web", "127.0.0.1", 80, none, some 8080, none⟩,
          ⟨"api", "127.0.0.1", 81, none, some 8081, none⟩], none, "py-frp"⟩
        repr := fun _ => "" } }

/-- While the port of the second proxy is bound, the first one is connected to. The client is
asked to open a tunnel before it is told that it is registered, and gives up. -/
theorem reply_overtaken :
    ∃ j, (joint overtakenSettings .empty Schedule.mixedServer).Reachable j ∧
      j.messages "a" = [.hello, .openTunnel "x" "web"] ∧
      j.client.control = .closing (.error (.other "unexpected register response: ")) := by
  have hrun : ((joint overtakenSettings .empty Schedule.mixedServer).execWhile (fun _ _ => true)
      (joint overtakenSettings .empty Schedule.mixedServer).init (greetingRun ++ [.read 0] ++
        serverRun (Schedule.goes (.control "a") 1 ++ Schedule.regular "a" 8080 ++
          Schedule.goes (.control "a") 1 ++ Schedule.accept 0 0 "x" ++
            Schedule.goes (.pub 0) 2) ++ [.take .closed])).map
      (fun j => (j.messages "a", j.client.control)) =
        some ([.hello, .openTunnel "x" "web"],
          .closing (.error (.other "unexpected register response: "))) := by rfl
  obtain ⟨j, hj, heq⟩ := System.exists_of_execWhile_map _ (fun _ _ _ _ => trivial) hrun
  obtain ⟨hmessages, hcontrol⟩ := Prod.mk.inj heq
  exact ⟨j, hj, hmessages, hcontrol⟩

end PyFrp
