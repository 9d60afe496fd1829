import PyFrp.Session.Agreement

/-!
# The answers to the heartbeat

Every `pong` of the server carries the time of the `ping` in the same place, and a task
that waits has answered all that it has read.
-/

namespace PyFrp

open Python Coop Store ClientRun

/-- The times of the answers. -/
def pongs (T : List Message) : List Value :=
  T.filterMap fun
    | .pong time => some time
    | _ => none

/-- The times that are to be answered. -/
def pings (w : List Written) : List Value :=
  w.filterMap fun
    | .message m => if hasType m "ping" then some (dictGet m "time") else none
    | .frames _ => none

/-- What the task has read, and what it has answered. -/
def EchoOk (R : List Written) (T : List Message) : ControlPoint → Prop
  | .sendPong _ time => pongs T ++ [time] = pings R
  | .failed _ | .errorSent | .leave | .left _ | .closing | .finished => pongs T <+: pings R
  | _ => pongs T = pings R

/-- What was read after an event. -/
def heard (R : List Written) : Event → List Written
  | .read (some m) => R ++ [.message m]
  | _ => R

variable {settings : ClientSettings} {environ : Environment} {srv : Server} {σ : Store}
  {c : ClientId} {R : List Written} {T : List Message} {p : ControlPoint} {q : Request}
  {j j' : Joint} {conn : Nat} {l : ControlLink}

@[simp] theorem pongs_append (T : List Message) (m : Message) :
    pongs (T ++ [m]) = pongs T ++ pongs [m] := List.filterMap_append

@[simp] theorem pings_append (R R' : List Written) : pings (R ++ R') = pings R ++ pings R' :=
  List.filterMap_append

theorem EchoOk.within (h : EchoOk R T p) : pongs T <+: pings R := by
  cases p with
  | sendPong q time => exact ⟨[time], h⟩
  | failed | errorSent | leave | left | closing | finished => exact h
  | _ => exact h ▸ List.prefix_refl _

theorem echo_of_request (hp : p.request = some q) : EchoOk R T p ↔ pongs T = pings R := by
  cases p with
  | sendPong | failed | errorSent | leave | left | closing | finished => cases hp
  | _ => exact Iff.rfl

theorem echo_of_over (hp : p.over = true) : EchoOk R T p ↔ pongs T <+: pings R := by
  cases p with
  | errorSent | leave | left | closing | finished => exact Iff.rfl
  | _ => cases hp

theorem pongs_foreign {m : Message} (h : m.foreign = true) : pongs [m] = [] := by
  cases m with
  | openTunnel | preempted => rfl
  | _ => cases h

theorem messagesAfter_pongs {φ : Effect} (hφ : ∀ m, φ = .send c m → pongs [m] = []) :
    pongs (messagesAfter c T φ) = pongs T := by
  by_cases hsend : ∃ m, φ = .send c m
  · obtain ⟨m, rfl⟩ := hsend
    rw [messagesAfter_send, pongs_append, hφ m rfl, List.append_nil]
  · rw [messagesAfter_of_ne fun m hm => hsend ⟨m, hm⟩]

theorem heard_of_ne {e : Event} (he : ∀ message, e ≠ .read message) : heard R e = R := by
  cases e with
  | read message => exact absurd rfl (he message)
  | _ => rfl

theorem heard_register (force : Bool) :
    pings (heard R (.read (some (settings.client.registerMessage force)))) = pings R := by
  rw [heard, pings_append]
  exact List.append_nil _

/-- A step of the task, if what it reads is what it expects. -/
theorem TalkStep.echo (settings : ClientSettings) {e : Event} {φ : Effect} {next : ControlPoint}
    (hs : TalkStep c p e φ next) (h : EchoOk R T p)
    (hread : ∀ m, e = .read (some m) → Expects settings p m) :
    EchoOk (heard R e) (messagesAfter c T φ) next := by
  have hsilent : ∀ {m}, pongs [m] = [] → pongs (messagesAfter c T (.send c m)) = pongs T := by
    intro m hm
    rw [messagesAfter_send, pongs_append, hm, List.append_nil]
  cases hs with
  | greeted | ungreeted | helloSent | forced | forceRequiredSent | registeredSent | pongSent
  | unsaid => exact h
  | hello => exact (hsilent rfl).trans h
  | forceRequired => exact (hsilent rfl).trans h
  | registered => exact (hsilent rfl).trans h
  -- the registrations
  | @readRegister message =>
      cases message with
      | none => exact h
      | some m =>
          rw [show m = settings.client.registerMessage settings.forceConnect from hread m rfl]
          exact Eq.trans h (heard_register _).symm
  | register htype hq => exact (echo_of_request hq).mpr h
  | registering hp hn hq he hφ =>
      rw [heard_of_ne he, echo_of_request hn,
        messagesAfter_pongs fun m hm => pongs_foreign (hφ m hm)]
      exact (echo_of_request hp).mp h
  | @retried m _ _ hclose hq =>
      rw [echo_of_request hq, show m = settings.client.registerMessage true from hread m rfl,
        heard_register]
      exact h
  | retryClosed hclose =>
      rw [hread _ rfl] at hclose
      cases hclose
  | retryRefused hnot =>
      rw [hread _ rfl] at hnot
      exact absurd rfl hnot
  -- the heartbeat
  | @ping q m htype =>
      show pongs T ++ [dictGet m "time"] = pings (R ++ [.message m])
      rw [pings_append, ← show pongs T = pings R from h]
      simp [pings, hasType, htype]
  | closed htype hclose =>
      obtain ⟨time, rfl⟩ := hread _ rfl
      exact absurd rfl htype
  | ignored htype hclose =>
      obtain ⟨time, rfl⟩ := hread _ rfl
      exact absurd rfl htype
  | @pong q time =>
      show pongs (messagesAfter c T (.send c (.pong time))) = pings R
      rw [messagesAfter_send, pongs_append]
      exact h
  -- the end
  | declined => exact h.within
  | ended => exact h.within
  | failed hp he =>
      rw [heard_of_ne he]
      exact h.within
  | @error e =>
      show pongs (messagesAfter c T (.send c (.error e.text e.fatal e.maxPriority))) <+: pings R
      rw [hsilent rfl]
      exact h
  | leaves hp hn he hφ =>
      rw [heard_of_ne he, messagesAfter_of_ne hφ, echo_of_over hn]
      exact (echo_of_over hp).mp h

/-- Only the answers matter. -/
theorem EchoOk.congr {T' : List Message} (h : EchoOk R T p) (hT : pongs T' = pongs T) :
    EchoOk R T' p := by
  unfold EchoOk at *
  rw [hT]
  exact h

/-! ## Runs of the two -/

namespace Joint

/-- The task of the session has answered what it has read. -/
def Echoes (j : Joint) (R : List Written) (c : ClientId) : Prop :=
  ∀ p, j.server.point (.control c) = .control p → EchoOk R (j.messages c) p

/-- A step of the server, by whatever task. -/
theorem Echoes.step {C : State → Action → Prop} {t : TaskId} {e : Event} {s : State}
    (h : j.Echoes R l.session) (hj : InStep settings j)
    (hreach : (system srv).ReachableUnder C j.server) (hl : j.links.get? conn = some l)
    (hs : (system srv).step j.server (t, e) = some s)
    (hread : ∀ m, (t, e) = (.control l.session, .read (some m)) →
      (j.written conn)[l.read]? = some (.message m)) :
    ∀ p, s.point (.control l.session) = .control p →
      EchoOk (if t = .control l.session then heard R e else R) (s.store.messages l.session) p := by
  obtain ⟨-, seg, hseg, rfl⟩ := Program.step_eq_some.mp hs
  have hmessages : ((program srv).commit j.server t seg).store.messages l.session =
      messagesAfter l.session (j.messages l.session) seg.effect := by
    rw [Program.commit_store]
    exact messages_apply seg.effect j.server.store l.session
  obtain ⟨⟨p₀, hat⟩, hgreeted⟩ := hj.links conn l hl
  have hecho := h p₀ hat.point
  intro p hp
  rw [hmessages]
  by_cases ht : t = .control l.session
  · subst ht
    rw [Program.commit_point_self] at hp
    rw [hat.point] at hseg
    obtain ⟨seg, hcontrol, rfl⟩ := Option.map_eq_some_iff.mp hseg
    cases hp
    rw [if_pos rfl]
    have hearned := hj.earned conn
    rw [received_of_get? hl] at hearned
    refine (controlSegment_talks hcontrol).echo settings hecho fun m hm => ?_
    exact expects_next hat.ok (hj.orderly.conversation conn) hgreeted hearned
      (hread m (by rw [hm]))
  · rw [Program.commit_point_of_ne j.server seg (Ne.symm ht), hat.point] at hp
    cases hp
    rw [if_neg ht]
    refine hecho.congr (messagesAfter_pongs fun m hφ => ?_)
    exact pongs_foreign (foreign_send hreach (serverSegment_cases hseg) hφ ht).1

/-- A step of the server in which the session reads no message. -/
theorem Echoes.keeps {C : State → Action → Prop} {a : Action} {s : State}
    (h : j.Echoes R l.session) (hj : InStep settings j)
    (hreach : (system srv).ReachableUnder C j.server) (hl : j.links.get? conn = some l)
    (hs : (system srv).step j.server a = some s)
    (hread : ∀ m, a ≠ (.control l.session, .read (some m))) :
    ∀ p, s.point (.control l.session) = .control p → EchoOk R (s.store.messages l.session) p := by
  intro p hp
  obtain ⟨t, e⟩ := a
  have hok := h.step hj hreach hl hs (fun m hm => absurd hm (hread m)) p hp
  have hsame : (if t = .control l.session then heard R e else R) = R := by
    split
    · rename_i ht
      subst ht
      unfold heard
      split
      · rename_i m
        exact absurd rfl (hread m)
      · rfl
    · rfl
  rw [hsame] at hok
  exact hok

/-- What holds in every state of a run. -/
def Answers (j : Joint) : Prop :=
  ∀ conn l, j.links.get? conn = some l → l.read ≤ (j.written conn).length ∧
    j.Echoes ((j.written conn).take l.read) l.session

theorem take_written {e : ClientRun.Event} {t : ClientRun} {n : Nat} (h : Orderly settings j.client)
    (hs : ClientRun.step settings j.client e = some t) (hn : n ≤ (j.written conn).length) :
    n ≤ (t.writtenOn conn).length ∧ (t.writtenOn conn).take n = (j.written conn).take n := by
  obtain ⟨rest, hrest⟩ := step_writtenOn h hs conn
  rw [← hrest, List.length_append]
  exact ⟨Nat.le_add_right_of_le hn, List.take_append_of_le_length hn⟩

/-- The client takes a step. -/
theorem Answers.client_step {e : ClientRun.Event} (h : j.Answers)
    (horderly : Orderly settings j.client) (hj : j.Reads j')
    (hs : ClientRun.step settings j.client e = some j'.client) : j'.Answers := by
  intro conn l hl
  obtain ⟨l₀, hl₀, hsession, hread⟩ := hj.link hl
  obtain ⟨hle, hecho⟩ := h conn l₀ hl₀
  obtain ⟨hle', htake⟩ := take_written horderly hs hle
  have hwritten : j'.written conn = j'.client.writtenOn conn := rfl
  rw [← hsession, ← hread, hwritten]
  refine ⟨hle', ?_⟩
  rw [htake]
  unfold Echoes messages
  rw [hj.server]
  exact hecho

/-- The server takes a step in which it reads no message of the client. -/
theorem Answers.server_step {C : State → Action → Prop} {a : Action} {s : State} (h : j.Answers)
    (hj : InStep settings j) (hreach : (system srv).ReachableUnder C j.server)
    (hs : (system srv).step j.server a = some s)
    (hread : ∀ conn l, j.links.get? conn = some l →
      ∀ m, a ≠ (.control l.session, .read (some m))) : Answers { j with server := s } := by
  intro conn l hl
  obtain ⟨hle, hecho⟩ := h conn l hl
  exact ⟨hle, hecho.keeps hj hreach hl hs (hread conn l hl)⟩

/-- The server accepts a connection. -/
theorem Answers.accept_step {C : State → Action → Prop} {c : ClientId} {now : Nat} {first : Fields}
    {s : State} (h : j.Answers) (hj : InStep settings j)
    (hreach : (system srv).ReachableUnder C j.server)
    (hw : (j.written conn).head? = some (.message first))
    (hs : (system srv).step j.server (.control c, .connect now first) = some s) :
    Answers ({ j with server := s }.withLink conn ⟨c, 1, 0⟩) := by
  obtain ⟨hstart, htype, hpoint, hsame⟩ := connect_cases hs
  intro conn' l' hl'
  rcases withLink_cases hl' with ⟨rfl, rfl⟩ | ⟨-, hl'⟩
  · -- the greeting is all that was read
    obtain ⟨rest, hrest⟩ : ∃ rest, j.written conn' = .message first :: rest :=
      List.head?_eq_some_iff.mp hw
    obtain rfl := first_hello (hj.orderly.conversation conn') hw htype
    refine ⟨?_, fun p hp => ?_⟩
    · show 1 ≤ (j.written conn').length
      rw [hrest]
      exact Nat.le_add_left _ _
    · rw [show p = .join helloMessage from Point.control.inj (hp.symm.trans hpoint)]
      show pongs (s.store.messages c) = pings ((j.written conn').take 1)
      rw [hsame, show j.server.store.messages c = [] from hj.fresh c hstart, hrest]
      rfl
  · have hl' : j.links.get? conn' = some l' := hl'
    obtain ⟨hle, hecho⟩ := h conn' l' hl'
    exact ⟨hle, hecho.keeps hj hreach hl' hs (by simp)⟩

/-- The task of the session reads the next message. -/
theorem Answers.read_step {C : State → Action → Prop} {m : Fields} {s : State} (h : j.Answers)
    (hj : InStep settings j) (hreach : (system srv).ReachableUnder C j.server)
    (hl : j.links.get? conn = some l) (hm : (j.written conn)[l.read]? = some (.message m))
    (hs : (system srv).step j.server (.control l.session, .read (some m)) = some s) :
    Answers ({ j with server := s }.withLink conn { l with read := l.read + 1 }) := by
  intro conn' l' hl'
  rcases withLink_cases hl' with ⟨rfl, rfl⟩ | ⟨hne, hl'⟩
  · refine ⟨(List.getElem?_eq_some_iff.mp hm).1, fun p hp => ?_⟩
    have hread : ∀ m', (TaskId.control l.session, Event.read (some m)) =
        (.control l.session, .read (some m')) →
          (j.written conn')[l.read]? = some (.message m') := by
      intro m' hm'
      cases hm'
      exact hm
    have hok := (h conn' l hl).2.step hj hreach hl hs hread p hp
    rw [if_pos rfl] at hok
    have htake : (j.written conn').take (l.read + 1) =
        heard ((j.written conn').take l.read) (.read (some m)) := by
      rw [List.take_add_one, hm]
      rfl
    show EchoOk ((j.written conn').take (l.read + 1)) (s.store.messages l.session) p
    rw [htake]
    exact hok
  · have hl' : j.links.get? conn' = some l' := hl'
    have htask : TaskId.control l.session ≠ .control l'.session :=
      fun heq => hj.apart.ne hl hne hl' (TaskId.control.inj heq).symm
    obtain ⟨hle, hecho⟩ := h conn' l' hl'
    exact ⟨hle, hecho.keeps hj hreach hl' hs fun m' hm' => htask (congrArg Prod.fst hm')⟩

theorem step_answers {e : JointEvent} (hreach : (joint settings environ srv).Reachable j)
    (h : j.Answers) (hs : j.step settings srv e = some j') : j'.Answers := by
  have hj := inStep hreach
  have hserver : (system srv).Reachable j.server :=
    (server_refines (D := fun _ _ => True) fun _ _ _ => trivial).reachable
      (hreach.mono fun _ _ _ _ _ => trivial)
  cases step_cases hs with
  | client he hstep => exact h.client_step hj.orderly ⟨rfl, fun _ => rfl⟩ hstep
  | server ha hstep =>
      refine h.server_step hj hserver hstep ?_
      rintro conn l hl m rfl
      rw [readsMessage, isLinked_of_get? hl] at ha
      cases ha
  | accept hl hw hstep => exact h.accept_step hj hserver hw hstep
  | read hl hw hstep => exact h.read_step hj hserver hl hw hstep
  | eof hl hclosed hstep => exact h.server_step hj hserver hstep (by simp)
  | take hl hm hstep => exact h.client_step hj.orderly (reads_take (controlLink_cases hl).1) hstep

theorem answers (h : (joint settings environ srv).Reachable j) : j.Answers := by
  refine h.invariant (P := Answers) (fun conn l hl => ?_) fun _ _ _ hreach hj _ hs =>
    step_answers hreach hj hs
  cases (Dict.get?_empty conn).symm.trans hl

end Joint

/-- **Pings and pongs.** The server answers the pings of the client one after the other, each
with its own time, and when it has read everything and waits, it has answered them all. -/
theorem pings_answered (settings : ClientSettings) (environ : Environment) (srv : Server)
    {j : Joint} (h : (joint settings environ srv).Reachable j) {conn : Nat} {l : ControlLink}
    (hl : j.links.get? conn = some l) :
    pongs (j.messages l.session) <+: pings (j.written conn) ∧
    ∀ q, j.server.point (.control l.session) = .control (.serve q) →
      l.read = (j.written conn).length → pongs (j.messages l.session) = pings (j.written conn) := by
  obtain ⟨-, hecho⟩ := Joint.answers h conn l hl
  constructor
  · obtain ⟨⟨p, hat⟩, -⟩ := (Joint.inStep h).links conn l hl
    refine (hecho p hat.point).within.trans ⟨pings ((j.written conn).drop l.read), ?_⟩
    rw [← pings_append, List.take_append_drop]
  · intro q hp hread
    have hok : pongs (j.messages l.session) = pings ((j.written conn).take l.read) := hecho _ hp
    rw [hok, hread, List.take_length]

/-- Two pings are answered, one after the other. -/
theorem pings_answered_meeting :
    ∃ (j : Joint) (q : Request), j.links.get? 0 = some ⟨"a", 4, 2⟩ ∧
      j.server.point (.control "a") = .control (.serve q) ∧
      pings (j.written 0) = [.float (.finite 15), .float (.finite 30)] ∧
      pongs (j.messages "a") = pings (j.written 0) := by
  have hrun : (meeting.execWhile (fun _ _ => true) meeting.init
      (registrationRun ++
        [.take .closed, .client (.beat (.finite 15)), .client (.beat (.finite 30)), .read 0] ++
        serverRun [(.control "a", .go), (.control "a", .drained none)] ++ [.read 0] ++
        serverRun [(.control "a", .go), (.control "a", .drained none)])).map
      (fun j => (j.links.get? 0, j.server.point (.control "a"), pings (j.written 0),
        (j.written 0).length)) =
        some (some ⟨"a", 4, 2⟩, .control (.serve
          ⟨meetingSettings.client.registerMessage false, false, false,
            meetingSettings.client.servicePayloads, [meetingRecord]⟩),
              [.float (.finite 15), .float (.finite 30)], 4) := by rfl
  obtain ⟨j, hj, heq⟩ := System.exists_of_execWhile_map _ (fun _ _ _ _ => trivial) hrun
  obtain ⟨hl, heq⟩ := Prod.mk.inj heq
  obtain ⟨hp, heq⟩ := Prod.mk.inj heq
  obtain ⟨hpings, hread⟩ := Prod.mk.inj heq
  exact ⟨j, _, hl, hp, hpings, (pings_answered meetingSettings .empty Schedule.mixedServer hj hl).2
    _ hp hread.symm⟩

end PyFrp
