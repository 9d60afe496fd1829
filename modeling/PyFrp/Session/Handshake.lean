import PyFrp.Session.Joint

/-!
# The two sides of a control connection

What the client waits for is known from what it was told, and what the server waits for
from what it was sent. Step by step, each side keeps what the other one relies on.
-/

namespace PyFrp

open Python Coop Store ClientRun

/-! ## What the client has been told -/

/-- The server asks for force. -/
def Asks (m : Option Message) : Prop := ∃ text, m = some (.forceRequired text)

/-- The registration is confirmed among the first `n` messages. -/
def Confirms (T : List Message) (n : Nat) : Prop :=
  ∃ i, i < n ∧ ∃ c services, T[i]? = some (.registered c services)

/-- The client has taken `n` messages of `T`. -/
def Told (T : List Message) (n : Nat) : ClientRun.ControlPoint → Prop
  | .hello _ | .helloReply _ => n = 0
  | .register _ again | .registerReply _ again =>
      if again then n = 2 ∧ Asks T[1]? else n = 1
  | .confirmForce _ => n = 2 ∧ Asks T[1]?
  | .serving _ => Confirms T n
  | _ => True

/-- What the client has written is an answer to what it was told. -/
structure Earned (settings : ClientSettings) (T : List Message) (w : List Written) : Prop where
  retry : w[2]? = some (.message (settings.client.registerMessage true)) → Asks T[1]?
  pings : ∀ time, .message (pingMessage time) ∈ w → ∃ n, Confirms T n

variable {settings : ClientSettings} {T T' : List Message} {n : Nat}

theorem getElem?_of_prefix {α : Type} {xs ys : List α} {i : Nat} {a : α} (h : xs <+: ys)
    (hi : xs[i]? = some a) : ys[i]? = some a := by
  obtain ⟨rest, rfl⟩ := h
  rw [List.getElem?_append_left (List.getElem?_eq_some_iff.mp hi).1, hi]

theorem Asks.mono {i : Nat} (h : Asks T[i]?) (hT : T <+: T') : Asks T'[i]? := by
  obtain ⟨text, hi⟩ := h
  exact ⟨text, getElem?_of_prefix hT hi⟩

theorem Confirms.mono (h : Confirms T n) (hT : T <+: T') : Confirms T' n := by
  obtain ⟨i, hi, c, services, hc⟩ := h
  exact ⟨i, hi, c, services, getElem?_of_prefix hT hc⟩

theorem Told.mono {p : ClientRun.ControlPoint} (h : Told T n p) (hT : T <+: T') :
    Told T' n p := by
  cases p with
  | register conn again | registerReply conn again =>
      cases again with
      | true => exact ⟨h.1, h.2.mono hT⟩
      | false => exact h
  | confirmForce conn => exact ⟨h.1, h.2.mono hT⟩
  | serving conn => exact Confirms.mono h hT
  | _ => exact h

theorem Earned.mono {w : List Written} (h : Earned settings T w)
    (hT : T <+: T') : Earned settings T' w where
  retry hw := (h.retry hw).mono hT
  pings time hw := (h.pings time hw).imp fun _ hc => hc.mono hT

/-! ## What the server reads -/

theorem greeted_cases {w : List Written} (h : Conversation settings w)
    (hw : w.head? = some (.message helloMessage)) :
    w = [.message helloMessage] ∨ Served settings w := by
  cases h with
  | silent => cases hw
  | greeted => exact .inl rfl
  | served h => exact .inr h
  | failed r text time => simp [ClientRun.tunnelMessage, helloMessage] at hw
  | relayed r time chunks => simp [ClientRun.tunnelMessage, helloMessage] at hw

/-- What does not begin with a tunnel begins with the greeting. -/
theorem first_hello {w : List Written} {first : Fields} (h : Conversation settings w)
    (hw : w.head? = some (.message first))
    (htype : (dictGet first "type").isText "tunnel" = false) : first = helloMessage := by
  cases h with
  | silent => cases hw
  | greeted =>
      cases hw
      rfl
  | served h =>
      obtain ⟨again, times, rfl⟩ := h
      cases hw
      rfl
  | failed r text time =>
      cases hw
      cases htype
  | relayed r time chunks =>
      cases hw
      cases htype

/-- The second message is the registration. -/
theorem served_second {w : List Written} {x : Written} (h : Served settings w)
    (hx : w[1]? = some x) :
    x = .message (settings.client.registerMessage settings.forceConnect) := by
  obtain ⟨again, times, rfl⟩ := h
  exact (Option.some.inj hx).symm

/-- What follows is the second registration, if there is one, and the heartbeat. -/
theorem served_later {w : List Written} {x : Written} {r : Nat} (h : Served settings w)
    (hr : 2 ≤ r) (hx : w[r]? = some x) :
    (r = 2 ∧ x = .message (settings.client.registerMessage true)) ∨
      ∃ time, x = .message (pingMessage time) := by
  have hping : ∀ {i : Nat} {times : List PyFloat},
      (times.map fun time => Written.message (pingMessage time))[i]? = some x →
        ∃ time, x = .message (pingMessage time) := by
    intro i times hi
    rw [List.getElem?_map] at hi
    obtain ⟨time, -, rfl⟩ := Option.map_eq_some_iff.mp hi
    exact ⟨time, rfl⟩
  obtain ⟨again, times, rfl⟩ := h
  cases again with
  | false =>
      rw [List.getElem?_append_right hr] at hx
      exact .inr (hping hx)
  | true =>
      rcases Nat.eq_or_lt_of_le hr with rfl | hlt
      · exact .inl ⟨rfl, (Option.some.inj hx).symm⟩
      · rw [List.getElem?_append_right hlt] at hx
        exact .inr (hping hx)

theorem Confirms.own (h : Confirms T n) :
    ∃ c services, .registered c services ∈ ownMessages T := by
  obtain ⟨i, -, c, services, hi⟩ := h
  exact ⟨c, services, List.mem_filter.mpr ⟨List.mem_of_getElem? hi, rfl⟩⟩

theorem Asks.own {i : Nat} (h : Asks T[i]?) : ∃ text, .forceRequired text ∈ ownMessages T := by
  obtain ⟨text, hi⟩ := h
  exact ⟨text, List.mem_filter.mpr ⟨List.mem_of_getElem? hi, rfl⟩⟩

/-- Before the answer, nothing is confirmed. -/
theorem not_confirms {asked : Option String} (hown : ownMessages T = introduction asked) :
    ¬ Confirms T n := by
  intro h
  obtain ⟨c, services, hmem⟩ := Confirms.own h
  rw [hown] at hmem
  cases asked <;> simp [introduction] at hmem

/-- Who was not asked was not asked. -/
theorem not_asks {c : ClientId} {services : List ServiceReply} {times : List Value} {i : Nat}
    (hown : ownMessages T = answer c none services times) : ¬ Asks T[i]? := by
  intro h
  obtain ⟨text, hmem⟩ := Asks.own h
  rw [hown] at hmem
  simp [answer, introduction] at hmem

/-- The task of the session reads what it waits for. -/
theorem expects_next {c : ClientId} {closed : Prop} {r : Nat} {p : ControlPoint} {w : List Written}
    {m : Fields} (hok : SessionOk settings c closed r T p) (hw : Conversation settings w)
    (hgreeted : w.head? = some (.message helloMessage)) (hearned : Earned settings T w)
    (hm : w[r]? = some (.message m)) : Expects settings p m := by
  have hserved : 1 ≤ r → Served settings w := by
    intro hr
    rcases greeted_cases hw hgreeted with rfl | hserved
    · rw [List.getElem?_eq_none (by simpa using hr)] at hm
      cases hm
    · exact hserved
  cases p with
  | readRegister =>
      obtain ⟨-, rfl⟩ := hok
      cases served_second (hserved (Nat.le_refl _)) hm
      rfl
  | readRetry =>
      obtain ⟨text, hown, rfl⟩ := hok
      rcases served_later (hserved (by omega)) (Nat.le_refl _) hm with ⟨-, hregister⟩ | ⟨time,
        hping⟩
      · cases hregister
        rfl
      · rw [hping] at hm
        obtain ⟨n, hconfirms⟩ := hearned.pings time (List.mem_of_getElem? hm)
        exact absurd hconfirms (not_confirms hown)
  | serve q =>
      obtain ⟨asked, services, times, hown, hasked, hr⟩ := hok
      rcases served_later (hserved (by omega)) (by omega) hm with ⟨rfl, hregister⟩ | ⟨time, hping⟩
      · -- nobody asked for a second registration
        have hretry : q.retry = false := by
          cases hq : q.retry with
          | false => rfl
          | true =>
              rw [hq] at hr
              exact absurd hr (by decide)
        rw [hretry] at hasked
        cases asked with
        | some text => cases hasked
        | none =>
            rw [hregister] at hm
            exact absurd (hearned.retry hm) (not_asks hown)
      · cases hping
        exact ⟨time, rfl⟩
  | _ => trivial

/-! ## What the client writes -/

theorem earned_hello : Earned settings T [.message helloMessage] where
  retry hw := by cases hw
  pings time hw := by simp [pingMessage, helloMessage] at hw

theorem earned_registration {again : Bool} (hagain : again = true → Asks T[1]?) :
    Earned settings T (registration settings again) where
  retry hw := by
    cases again with
    | true => exact hagain rfl
    | false => cases hw
  pings time hw := by
    cases again <;>
      simp [registration, pingMessage, helloMessage, Client.registerMessage] at hw

theorem Earned.ping {w : List Written} {time : PyFloat} (h : Earned settings T w)
    (hconfirms : Confirms T n) : Earned settings T (w ++ [.message (pingMessage time)]) where
  retry hw := by
    rw [List.getElem?_append] at hw
    split at hw
    · exact h.retry hw
    · simp only [List.getElem?_singleton] at hw
      split at hw <;> simp [pingMessage, Client.registerMessage] at hw
  pings _ _ := ⟨n, hconfirms⟩

theorem earned_tunnel (r : ClientRun.TunnelRequest) (localError : Option String) (time : PyFloat)
    (chunks : List Bytes) :
    Earned settings T
      (.message (ClientRun.tunnelMessage r localError time) :: List.map Written.frames chunks) where
  retry hw := by
    rw [List.getElem?_cons_succ, List.getElem?_map] at hw
    obtain ⟨data, -, hdata⟩ := Option.map_eq_some_iff.mp hw
    cases hdata
  pings time' hw := by
    simp [pingMessage, ClientRun.tunnelMessage] at hw

namespace Joint

variable {environ : Environment} {srv : Server} {j j' : Joint}
  {conn : Nat} {l : ControlLink}

/-- What the server wrote on the connection. -/
def received (j : Joint) (conn : Nat) : List Message :=
  ((j.links.get? conn).map fun l => j.messages l.session).getD []

/-- How much of it the client has read. -/
def taken (j : Joint) (conn : Nat) : Nat := ((j.links.get? conn).map (·.taken)).getD 0

/-- What is known of a connection that the server has accepted. -/
structure LinkOk (settings : ClientSettings) (j : Joint) (conn : Nat) (l : ControlLink) :
    Prop where
  session : ∃ p, SessionAt settings (j.isClosed conn = true) l.read j.server l.session p
  greeted : (j.written conn).head? = some (.message helloMessage)

/-- Two connections have two sessions. -/
def Apart (j : Joint) : Prop :=
  ∀ conn conn' l l', j.links.get? conn = some l → j.links.get? conn' = some l' →
    l.session = l'.session → conn = conn'

/-- What holds in every state of a run of the two. -/
structure InStep (settings : ClientSettings) (j : Joint) : Prop where
  orderly : Orderly settings j.client
  links : ∀ conn l, j.links.get? conn = some l → LinkOk settings j conn l
  apart : j.Apart
  fresh : ∀ c, j.server.point (.control c) = .start → j.messages c = []
  told : ∀ conn, j.client.control.conn = some conn →
    Told (j.received conn) (j.taken conn) j.client.control
  earned : ∀ conn, Earned settings (j.received conn) (j.written conn)
  heart : ∀ b, j.client.heartbeat = some b → ∃ n, Confirms (j.received b.conn) n

/-! ## Steps of the server -/

theorem received_of_get? (hl : j.links.get? conn = some l) :
    j.received conn = j.messages l.session := by
  rw [received, hl]
  rfl

theorem taken_of_get? (hl : j.links.get? conn = some l) : j.taken conn = l.taken := by
  rw [taken, hl]
  rfl

theorem received_of_none (hl : j.links.get? conn = none) : j.received conn = [] := by
  rw [received, hl]
  rfl

theorem taken_of_none (hl : j.links.get? conn = none) : j.taken conn = 0 := by
  rw [taken, hl]
  rfl

theorem isLinked_of_get? (hl : j.links.get? conn = some l) : j.isLinked l.session = true := by
  unfold isLinked
  rw [List.any_eq_true]
  exact ⟨l, (Dict.mem_values _ _).mpr ⟨conn, hl⟩, decide_eq_true rfl⟩

/-- The links after a step of the server. -/
structure Continues (j j' : Joint) : Prop where
  client : j'.client = j.client
  kept : ∀ conn l, j.links.get? conn = some l → ∃ l', j'.links.get? conn = some l' ∧
    l'.session = l.session ∧ l'.taken = l.taken
  added : ∀ conn l', j.links.get? conn = none → j'.links.get? conn = some l' → l'.taken = 0
  messages : ∀ c, j.messages c <+: j'.messages c

theorem Continues.received (h : j.Continues j') (conn : Nat) :
    j.received conn <+: j'.received conn := by
  cases hl : j.links.get? conn with
  | none =>
      rw [received_of_none hl]
      exact List.nil_prefix
  | some l =>
      obtain ⟨l', hl', hsession, -⟩ := h.kept conn l hl
      rw [received_of_get? hl, received_of_get? hl', hsession]
      exact h.messages l.session

theorem Continues.taken (h : j.Continues j') (conn : Nat) : j'.taken conn = j.taken conn := by
  cases hl : j.links.get? conn with
  | none =>
      rw [taken_of_none hl]
      cases hl' : j'.links.get? conn with
      | none => exact taken_of_none hl'
      | some l' => rw [taken_of_get? hl', h.added conn l' hl hl']
  | some l =>
      obtain ⟨l', hl', -, htaken⟩ := h.kept conn l hl
      rw [taken_of_get? hl, taken_of_get? hl', htaken]

theorem InStep.served {C : State → Action → Prop} {a : Action} (h : InStep settings j)
    (hreach : (system srv).ReachableUnder C j.server)
    (hs : (system srv).step j.server a = some j'.server) (hj : j.Continues j')
    (hlinks : ∀ conn l, j'.links.get? conn = some l → LinkOk settings j' conn l)
    (hapart : j'.Apart) : InStep settings j' where
  orderly := hj.client ▸ h.orderly
  links := hlinks
  apart := hapart
  fresh c hstart := by
    obtain ⟨hwas, hsame⟩ := messages_start hreach hs hstart
    exact hsame.trans (h.fresh c hwas)
  told conn hconn := by
    rw [hj.client] at hconn ⊢
    rw [hj.taken conn]
    exact (h.told conn hconn).mono (hj.received conn)
  earned conn := by
    have hwritten : j'.written conn = j.written conn := by
      rw [written, written, hj.client]
    rw [hwritten]
    exact (h.earned conn).mono (hj.received conn)
  heart b hb := by
    rw [hj.client] at hb
    exact (h.heart b hb).imp fun _ hc => hc.mono (hj.received b.conn)

/-- A session of the client goes on, by whatever task. -/
theorem InStep.session {C : State → Action → Prop} {t : TaskId} {e : Event} {s : State}
    (h : InStep settings j) (hreach : (system srv).ReachableUnder C j.server)
    (hl : j.links.get? conn = some l) (hs : (system srv).step j.server (t, e) = some s)
    (hread : ∀ m, (t, e) = (.control l.session, .read (some m)) →
      (j.written conn)[l.read]? = some (.message m))
    (heof : (t, e) = (.control l.session, .read none) → j.isClosed conn = true) :
    ∃ p, SessionAt settings (j.isClosed conn = true)
      (if t = .control l.session then readAfter l.read e else l.read) s l.session p := by
  obtain ⟨⟨p, hat⟩, hgreeted⟩ := h.links conn l hl
  have hearned := h.earned conn
  rw [received_of_get? hl] at hearned
  exact hat.step hreach hs
    (fun m hm => expects_next hat.ok (h.orderly.conversation conn) hgreeted hearned (hread m hm))
    heof

theorem messages_step {a : Action} {s : State}
    (hs : (system srv).step j.server a = some s) (c : ClientId) :
    j.messages c <+: s.store.messages c := by
  obtain ⟨-, seg, -, rfl⟩ := Program.step_eq_some.mp hs
  rw [Program.commit_store]
  exact messages_prefix seg.effect j.server.store c

/-- The links stay. -/
theorem continues_server {a : Action} {s : State}
    (hs : (system srv).step j.server a = some s) : j.Continues { j with server := s } where
  client := rfl
  kept conn l hl := ⟨l, hl, rfl, rfl⟩
  added conn l hnone hl := by
    rw [hnone] at hl
    cases hl
  messages c := messages_step hs c

/-- The server takes a step in which it reads no message of the client. -/
theorem InStep.server_step {C : State → Action → Prop} {a : Action} {s : State}
    (h : InStep settings j) (hreach : (system srv).ReachableUnder C j.server)
    (hs : (system srv).step j.server a = some s)
    (hread : ∀ conn l, j.links.get? conn = some l →
      ∀ m, a ≠ (.control l.session, .read (some m)))
    (heof : ∀ conn l, j.links.get? conn = some l → a = (.control l.session, .read none) →
      j.isClosed conn = true) : InStep settings { j with server := s } := by
  refine h.served hreach hs (continues_server hs) ?_ h.apart
  intro conn l hl
  refine ⟨?_, (h.links conn l hl).greeted⟩
  obtain ⟨t, e⟩ := a
  obtain ⟨p, hat⟩ := h.session hreach hl hs (fun m hm => absurd hm (hread conn l hl m))
    (heof conn l hl)
  refine ⟨p, ?_⟩
  have hsame : (if t = .control l.session then readAfter l.read e else l.read) = l.read := by
    split
    · rename_i ht
      subst ht
      unfold readAfter
      split
      · rename_i m
        exact absurd rfl (hread conn l hl m)
      · rfl
    · rfl
  rw [hsame] at hat
  exact hat

theorem withLink_cases {conn' : Nat} {l' : ControlLink}
    (hl' : (j.withLink conn l).links.get? conn' = some l') :
    (conn' = conn ∧ l' = l) ∨ (conn' ≠ conn ∧ j.links.get? conn' = some l') := by
  simp only [withLink, Dict.get?_set] at hl'
  split at hl'
  · rename_i hconn
    exact .inl ⟨hconn, (Option.some.inj hl').symm⟩
  · rename_i hconn
    exact .inr ⟨hconn, hl'⟩

theorem get?_withLink : (j.withLink conn l).links.get? conn = some l := by
  rw [withLink, Dict.get?_set, if_pos rfl]

theorem get?_withLink_of_ne {conn' : Nat} (hne : conn' ≠ conn) :
    (j.withLink conn l).links.get? conn' = j.links.get? conn' := by
  rw [withLink, Dict.get?_set, if_neg hne]

/-- A link that stands for the same session, or for one that no other link stands for. -/
theorem Apart.withLink (h : j.Apart)
    (hnew : ∀ conn' l', conn' ≠ conn → j.links.get? conn' = some l' → l'.session ≠ l.session) :
    (j.withLink conn l).Apart := by
  intro c c' k k' hk hk' hsession
  rcases withLink_cases hk with ⟨rfl, rfl⟩ | ⟨hne, hold⟩
  · rcases withLink_cases hk' with ⟨rfl, rfl⟩ | ⟨hne', hold'⟩
    · rfl
    · exact absurd hsession.symm (hnew c' k' hne' hold')
  · rcases withLink_cases hk' with ⟨rfl, rfl⟩ | ⟨hne', hold'⟩
    · exact absurd hsession (hnew c k hne hold)
    · exact h c c' k k' hold hold' hsession

theorem Apart.ne (h : j.Apart) (hl : j.links.get? conn = some l) {conn' : Nat}
    {l' : ControlLink} (hne : conn' ≠ conn) (hl' : j.links.get? conn' = some l') :
    l'.session ≠ l.session :=
  fun hsession => hne (h conn' conn l' l hl' hl hsession)

/-- The task of the session reads the next message. -/
theorem InStep.read_step {C : State → Action → Prop} {m : Fields} {s : State}
    (h : InStep settings j) (hreach : (system srv).ReachableUnder C j.server)
    (hl : j.links.get? conn = some l) (hm : (j.written conn)[l.read]? = some (.message m))
    (hs : (system srv).step j.server (.control l.session, .read (some m)) = some s) :
    InStep settings ({ j with server := s }.withLink conn { l with read := l.read + 1 }) := by
  have hcontinues :
      j.Continues ({ j with server := s }.withLink conn { l with read := l.read + 1 }) := by
    refine ⟨rfl, fun conn' l' hl' => ?_, fun conn' l' hnone hl' => ?_, messages_step hs⟩
    · by_cases hconn : conn' = conn
      · subst hconn
        rw [hl] at hl'
        cases hl'
        exact ⟨_, get?_withLink, rfl, rfl⟩
      · exact ⟨l', (get?_withLink_of_ne hconn).trans hl', rfl, rfl⟩
    · rcases withLink_cases hl' with ⟨rfl, rfl⟩ | ⟨-, hl'⟩
      · rw [hl] at hnone
        cases hnone
      · rw [show j.links.get? conn' = some l' from hl'] at hnone
        cases hnone
  refine h.served hreach hs hcontinues ?_ (Apart.withLink h.apart fun _ _ => h.apart.ne hl)
  intro conn' l' hl'
  rcases withLink_cases hl' with ⟨rfl, rfl⟩ | ⟨hne, hl'⟩
  · refine ⟨?_, (h.links conn' l hl).greeted⟩
    have hread : ∀ m', (TaskId.control l.session, Event.read (some m)) =
        (.control l.session, .read (some m')) →
          (j.written conn')[l.read]? = some (.message m') := by
      intro m' hm'
      cases hm'
      exact hm
    obtain ⟨p, hat⟩ := h.session hreach hl hs hread nofun
    rw [if_pos rfl] at hat
    exact ⟨p, hat⟩
  · refine ⟨?_, (h.links conn' l' hl').greeted⟩
    have hother : l'.session ≠ l.session := h.apart.ne hl hne hl'
    have htask : TaskId.control l.session ≠ .control l'.session :=
      fun heq => hother (TaskId.control.inj heq).symm
    obtain ⟨p, hat⟩ := h.session hreach hl' hs
      (fun m' hm' => absurd (congrArg Prod.fst hm') htask) (by simp)
    rw [if_neg htask] at hat
    exact ⟨p, hat⟩

/-- The server accepts a connection. -/
theorem InStep.accept_step {C : State → Action → Prop} {c : ClientId} {now : Nat} {first : Fields}
    {s : State} (h : InStep settings j) (hreach : (system srv).ReachableUnder C j.server)
    (hl : j.links.get? conn = none) (hw : (j.written conn).head? = some (.message first))
    (hs : (system srv).step j.server (.control c, .connect now first) = some s) :
    InStep settings ({ j with server := s }.withLink conn ⟨c, 1, 0⟩) := by
  obtain ⟨hstart, htype, hpoint, hsame⟩ := connect_cases hs
  obtain rfl := first_hello (h.orderly.conversation conn) hw htype
  have hnew : ∀ conn' l', conn' ≠ conn → j.links.get? conn' = some l' → l'.session ≠ c := by
    rintro conn' l' - hl' rfl
    obtain ⟨⟨p, hat⟩, -⟩ := h.links conn' l' hl'
    rw [hat.point] at hstart
    cases hstart
  have hcontinues : j.Continues ({ j with server := s }.withLink conn ⟨c, 1, 0⟩) := by
    refine ⟨rfl, fun conn' l' hl' => ?_, fun conn' l' hnone hl' => ?_, messages_step hs⟩
    · by_cases hconn : conn' = conn
      · subst hconn
        rw [hl] at hl'
        cases hl'
      · exact ⟨l', (get?_withLink_of_ne hconn).trans hl', rfl, rfl⟩
    · rcases withLink_cases hl' with ⟨rfl, rfl⟩ | ⟨-, hl'⟩
      · rfl
      · rw [show j.links.get? conn' = some l' from hl'] at hnone
        cases hnone
  refine h.served hreach hs hcontinues ?_ (Apart.withLink h.apart hnew)
  intro conn' l' hl'
  rcases withLink_cases hl' with ⟨rfl, rfl⟩ | ⟨hne, hl'⟩
  · have hsilent : s.store.messages c = [] := hsame.trans (h.fresh c hstart)
    refine ⟨⟨.join helloMessage, hpoint, ⟨hsilent, rfl, rfl⟩, fun m hm => ?_⟩, hw⟩
    have hm : (s.store.messages c).head? = some m := hm
    rw [hsilent] at hm
    cases hm
  · refine ⟨?_, (h.links conn' l' hl').greeted⟩
    have htask : TaskId.control c ≠ .control l'.session :=
      fun heq => hnew conn' l' hne hl' (TaskId.control.inj heq).symm
    obtain ⟨p, hat⟩ := h.session hreach hl' hs (by simp) (by simp)
    rw [if_neg htask] at hat
    exact ⟨p, hat⟩

/-! ## Steps of the client -/

/-- The links stand for the same sessions. -/
structure Reads (j j' : Joint) : Prop where
  server : j'.server = j.server
  links : ∀ conn, (j'.links.get? conn).map (fun l => (l.session, l.read)) =
    (j.links.get? conn).map fun l => (l.session, l.read)

theorem Reads.link (h : j.Reads j') (hl : j'.links.get? conn = some l) :
    ∃ l', j.links.get? conn = some l' ∧ l'.session = l.session ∧ l'.read = l.read := by
  have hsame := h.links conn
  rw [hl] at hsame
  obtain ⟨l', hl', heq⟩ := Option.map_eq_some_iff.mp hsame.symm
  exact ⟨l', hl', congrArg Prod.fst heq, congrArg Prod.snd heq⟩

theorem Reads.received (h : j.Reads j') (conn : Nat) : j'.received conn = j.received conn := by
  have hsame := congrArg (Option.map fun l => j.messages l.1) (h.links conn)
  rw [Option.map_map, Option.map_map] at hsame
  unfold Joint.received messages
  rw [h.server]
  exact congrArg (·.getD []) hsame

theorem isClosed_step {e : ClientRun.Event} (h : Orderly settings j.client)
    (hs : ClientRun.step settings j.client e = some j'.client) (hclosed : j.isClosed conn = true) :
    j'.isClosed conn = true := by
  unfold isClosed at hclosed ⊢
  obtain ⟨k, hk, hclosed⟩ := (Option.any_eq_true _ _).mp hclosed
  obtain ⟨k', hk', -, -, hsame⟩ := (step_advances h hs).later conn k hk
  rw [hk', hsame hclosed]
  exact hclosed

/-- The client takes a step, and knows where it is. -/
theorem InStep.client_step {e : ClientRun.Event} (h : InStep settings j) (hj : j.Reads j')
    (hs : ClientRun.step settings j.client e = some j'.client)
    (htold : ∀ conn, j'.client.control.conn = some conn →
      Told (j.received conn) (j'.taken conn) j'.client.control) : InStep settings j' where
  orderly := (step_advances h.orderly hs).orderly
  links conn l hl := by
    obtain ⟨l', hl', hsession, hread⟩ := hj.link hl
    obtain ⟨⟨p, hat⟩, hgreeted⟩ := h.links conn l' hl'
    rw [hsession, hread] at hat
    refine ⟨⟨p, ?_⟩, ?_⟩
    · rw [hj.server]
      exact ⟨hat.point, hat.ok.mono (isClosed_step h.orderly hs), hat.greeted⟩
    · obtain ⟨rest, hrest⟩ := step_writtenOn h.orderly hs conn
      have hgreeted : (j.client.writtenOn conn).head? = some (.message helloMessage) := hgreeted
      rw [written, ← hrest, List.head?_append, hgreeted]
      rfl
  apart c c' l l' hl hl' hsession := by
    obtain ⟨k, hk, hksession, -⟩ := hj.link hl
    obtain ⟨k', hk', hksession', -⟩ := hj.link hl'
    exact h.apart c c' k k' hk hk' (hksession.trans (hsession.trans hksession'.symm))
  fresh c hstart := by
    unfold messages
    rw [hj.server] at hstart ⊢
    exact h.fresh c hstart
  told conn hconn := by
    rw [hj.received]
    exact htold conn hconn
  earned conn := by
    rw [hj.received]
    have hwas := h.earned conn
    cases step_says h.orderly hs conn with
    | nothing hsame =>
        rw [written, hsame]
        exact hwas
    | control hwrites =>
        obtain ⟨hheld, hw | ⟨again, hpoint, hw⟩⟩ :=
          (step_advances h.orderly hs).orderly.writes hwrites
        · rw [written, hw]
          exact earned_hello
        · rw [written, hw]
          refine earned_registration fun hagain => ?_
          have htold := htold conn hheld
          rw [hpoint, hagain] at htold
          exact htold.2
    | ping time hb hconn hsame =>
        obtain ⟨n, hconfirms⟩ := h.heart _ hb
        rw [hconn] at hconfirms
        rw [written, hsame]
        exact hwas.ping hconfirms
    | tunnel r localError time chunks hsame =>
        rw [written, hsame]
        exact earned_tunnel r localError time chunks
  heart b hb := by
    rw [hj.received]
    rcases step_heartbeat h.orderly hs hb with ⟨b', hb', hconn⟩ | hserving
    · rw [← hconn]
      exact h.heart b' hb'
    · have hheld : j'.client.control.conn = some b.conn := by
        rw [hserving]
        rfl
      have hconfirms := htold b.conn hheld
      rw [hserving] at hconfirms
      exact ⟨_, hconfirms⟩

theorem forceRequired_of_hasType {m : Message} (h : hasType m.fields "force_required" = true) :
    ∃ text, m = .forceRequired text := by
  cases m with
  | forceRequired text => exact ⟨text, rfl⟩
  | _ => cases h

theorem registered_of_hasType {m : Message} (h : hasType m.fields "registered" = true) :
    ∃ c services, m = .registered c services := by
  cases m with
  | registered c services => exact ⟨c, services, rfl⟩
  | _ => cases h

/-- A connection on which nothing was written is not known to the server. -/
theorem InStep.unlinked (h : InStep settings j) (hw : j.written conn = []) :
    j.links.get? conn = none := by
  cases hl : j.links.get? conn with
  | none => rfl
  | some l =>
      have hgreeted := (h.links conn l hl).greeted
      rw [hw] at hgreeted
      cases hgreeted

/-- Where nothing is known of what the server has said. -/
theorem told_mute {p : ClientRun.ControlPoint} (h : p.mute = true) : Told T n p := by
  cases p with
  | opening | stopping | closing | cancelling | sleeping | ended => trivial
  | _ => cases h

/-- Without a message, the task learns nothing. -/
theorem InStep.told_client {e : ClientRun.Event} {t : ClientRun} (h : InStep settings j)
    (he : takesMessage e = false) (hs : ClientRun.step settings j.client e = some t)
    (hconn : t.control.conn = some conn) : Told (j.received conn) (j.taken conn) t.control := by
  have hsame : t.control = j.client.control →
      Told (j.received conn) (j.taken conn) t.control := by
    intro heq
    rw [heq] at hconn ⊢
    exact h.told conn hconn
  cases e with
  | control e =>
      have hs : j.client.controlStep settings e = some t := hs
      have hfollows := controlStep_follows hs
      have htold := h.told conn
      generalize hp : j.client.control = p at hfollows htold
      generalize hq : t.control = q at hfollows hconn ⊢
      cases hfollows with
      | hello =>
          cases hconn
          exact taken_of_none (h.unlinked (hello_silent h.orderly hs hq))
      | helloSent => exact htold hconn
      | registerSent => exact htold hconn
      | confirmed => exact htold hconn
      | serving => exact htold hconn
      | mute hmute => exact told_mute hmute
      | register | retry | asks | registered => cases he
  | beat time =>
      have hs : j.client.beat time = some t := hs
      unfold beat at hs
      split at hs
      · cases hs
        exact hsame rfl
      · cases hs
  | beatFailed =>
      obtain ⟨b, -, rfl⟩ := Option.map_eq_some_iff.mp hs
      exact hsame rfl
  | tunnel i e =>
      obtain ⟨task, htask, hs'⟩ := Option.bind_eq_some_iff.mp hs
      exact hsame (h.orderly.tunnelDoes htask hs').control

theorem controlLink_cases (hl : j.controlLink = some (conn, l)) :
    j.links.get? conn = some l ∧ (j.client.control = .helloReply conn ∨
      (∃ again, j.client.control = .registerReply conn again) ∨
        j.client.control = .serving conn) := by
  unfold controlLink at hl
  split at hl
  · rename_i c hp
    obtain ⟨l', hl', heq⟩ := Option.map_eq_some_iff.mp hl
    cases heq
    exact ⟨hl', .inl hp⟩
  · rename_i c again hp
    obtain ⟨l', hl', heq⟩ := Option.map_eq_some_iff.mp hl
    cases heq
    exact ⟨hl', .inr (.inl ⟨again, hp⟩)⟩
  · rename_i c hp
    obtain ⟨l', hl', heq⟩ := Option.map_eq_some_iff.mp hl
    cases heq
    exact ⟨hl', .inr (.inr hp)⟩
  · cases hl

/-- The client has read a message of the server. -/
theorem InStep.told_take {m : Message} {answer : Answer} {t : ClientRun} (h : InStep settings j)
    (hl : j.controlLink = some (conn, l)) (hm : (j.messages l.session)[l.taken]? = some m)
    (hs : ClientRun.step settings j.client (.control (.received (some m.fields) answer)) = some t)
    {conn' : Nat} (hconn : t.control.conn = some conn') :
    t.control.mute = true ∨
      conn' = conn ∧ Told (j.messages l.session) (l.taken + 1) t.control := by
  obtain ⟨hget, hpoint⟩ := controlLink_cases hl
  have hs : j.client.controlStep settings (.received (some m.fields) answer) = some t := hs
  have hfollows := controlStep_follows hs
  have htold := h.told conn
  rw [received_of_get? hget, taken_of_get? hget] at htold
  generalize t.control = q at hfollows hconn ⊢
  have hheld : j.client.control.conn = some conn := by
    rcases hpoint with hp | ⟨again, hp⟩ | hp <;> rw [hp] <;> rfl
  have htold := htold hheld
  clear hpoint
  generalize j.client.control = p at hfollows htold hheld
  cases hfollows with
  | mute hmute => exact .inl hmute
  | register =>
      cases hheld
      cases hconn
      have htaken : l.taken = 0 := htold
      exact .inr ⟨rfl, congrArg (· + 1) htaken⟩
  | retry htype =>
      cases hheld
      cases hconn
      have htaken : l.taken = 1 := htold
      obtain ⟨text, rfl⟩ := forceRequired_of_hasType htype
      refine .inr ⟨rfl, congrArg (· + 1) htaken, text, ?_⟩
      rw [← hm, htaken]
  | asks htype =>
      cases hheld
      cases hconn
      have htaken : l.taken = 1 := htold
      obtain ⟨text, rfl⟩ := forceRequired_of_hasType htype
      refine .inr ⟨rfl, congrArg (· + 1) htaken, text, ?_⟩
      rw [← hm, htaken]
  | registered htype =>
      cases hheld
      cases hconn
      obtain ⟨c, services, rfl⟩ := registered_of_hasType htype
      exact .inr ⟨rfl, l.taken, Nat.lt_succ_self _, c, services, hm⟩
  | serving =>
      cases hheld
      cases hconn
      obtain ⟨i, hi, hconfirmed⟩ := htold
      exact .inr ⟨rfl, i, hi.trans (Nat.lt_succ_self _), hconfirmed⟩

/-! ## Runs -/

theorem inStep_initial : InStep settings (joint settings environ srv).init where
  orderly := initial_orderly settings environ
  links := nofun
  apart := nofun
  fresh _ _ := rfl
  told conn hconn := by
    rw [show (joint settings environ srv).init.client.control.conn = none from
      initial_conn settings environ] at hconn
    cases hconn
  earned conn := ⟨nofun, nofun⟩
  heart := nofun

theorem reads_take {t : ClientRun} (hl : j.links.get? conn = some l) :
    j.Reads ({ j with client := t }.withLink conn { l with taken := l.taken + 1 }) := by
  refine ⟨rfl, fun conn' => ?_⟩
  by_cases hconn : conn' = conn
  · subst hconn
    rw [get?_withLink, hl]
    rfl
  · exact congrArg _ (get?_withLink_of_ne hconn)

/-- The client reads a message. -/
theorem InStep.take_step {m : Message} {answer : Answer} {t : ClientRun} (h : InStep settings j)
    (hl : j.controlLink = some (conn, l)) (hm : (j.messages l.session)[l.taken]? = some m)
    (hs : ClientRun.step settings j.client (.control (.received (some m.fields) answer)) = some t) :
    InStep settings ({ j with client := t }.withLink conn { l with taken := l.taken + 1 }) := by
  have hget := (controlLink_cases hl).1
  refine h.client_step (reads_take hget) hs fun conn' hconn => ?_
  rcases h.told_take hl hm hs hconn with hmute | ⟨rfl, htold⟩
  · exact told_mute hmute
  · rw [received_of_get? hget, taken_of_get? get?_withLink]
    exact htold

theorem step_inStep {e : JointEvent} (hreach : (joint settings environ srv).Reachable j)
    (h : InStep settings j) (hs : j.step settings srv e = some j') : InStep settings j' := by
  have hserver : (system srv).Reachable j.server :=
    (server_refines (D := fun _ _ => True) fun _ _ _ => trivial).reachable
      (hreach.mono fun _ _ _ _ _ => trivial)
  cases step_cases hs with
  | client he hstep =>
      exact h.client_step (e := _) ⟨rfl, fun _ => rfl⟩ hstep fun conn hconn =>
        h.told_client he hstep hconn
  | server ha hstep =>
      refine h.server_step hserver hstep ?_ ?_
      · rintro conn l hl m rfl
        rw [readsMessage, isLinked_of_get? hl] at ha
        cases ha
      · rintro conn l hl rfl
        rw [readsMessage, isLinked_of_get? hl] at ha
        cases ha
  | accept hl hw hstep => exact h.accept_step hserver hl hw hstep
  | read hl hw hstep => exact h.read_step hserver hl hw hstep
  | @eof conn l s hl hclosed hstep =>
      refine h.server_step hserver hstep (by simp) fun conn' l' hl' heq => ?_
      have hsession : l.session = l'.session := TaskId.control.inj (congrArg Prod.fst heq)
      rw [← h.apart conn conn' l l' hl hl' hsession]
      exact hclosed
  | take hl hm hstep => exact h.take_step hl hm hstep

theorem inStep (h : (joint settings environ srv).Reachable j) : InStep settings j :=
  h.invariant (P := InStep settings) inStep_initial fun _ _ _ hreach hj _ hs =>
    step_inStep hreach hj hs

end Joint

end PyFrp
