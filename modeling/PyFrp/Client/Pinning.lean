import PyFrp.Client.Pinned
import PyFrp.Supervisor.Restarts

/-!
# The fingerprint a client is pinned to

Every task keeps what is known of the connections. Tunnels and the heartbeat are
there only when a fingerprint is trusted, so that none of them asks the user.
-/

namespace PyFrp

open Python Coop

namespace ClientRun

variable {settings : ClientSettings} {environ : Environment} {sha256 : Bytes → Digest}
  {pin₀ : Option String} {pending : Nat → Prop} {s t : ClientRun}

/-! ## The tasks -/

/-- What a step from `s` to `t` makes sure of. -/
structure StepOk (sha256 : Bytes → Digest) (pin₀ : Option String) (s t : ClientRun) : Prop where
  ok : Ok sha256 pin₀ t
  kept : Extends sha256 s t

theorem StepOk.trans {u : ClientRun} (h₁ : StepOk sha256 pin₀ s t) (h₂ : StepOk sha256 pin₀ t u) :
    StepOk sha256 pin₀ s u :=
  ⟨h₂.ok, h₁.kept.trans h₂.kept⟩

theorem StoreOk.tasks (h : StoreOk sha256 pin₀ pending s) (proxies : Dict String ProxyConfig)
    (control : ControlPoint) (heartbeat : Option Heartbeat) (tunnels : Heap TunnelTask) :
    StoreOk sha256 pin₀ pending
      { s with proxies := proxies, control := control, heartbeat := heartbeat,
               tunnels := tunnels } :=
  ⟨h.written, h.refused, h.settled, h.pinned⟩

theorem Extends.tasks (proxies : Dict String ProxyConfig) (control : ControlPoint)
    (heartbeat : Option Heartbeat) (tunnels : Heap TunnelTask) :
    Extends sha256 s
      { s with proxies := proxies, control := control, heartbeat := heartbeat,
               tunnels := tunnels } :=
  ⟨fun _ h => h, fun _ h => h⟩

theorem Extends.trusted_ne_none (h : Extends sha256 s t) (hs : s.trusted ≠ none) :
    t.trusted ≠ none := by
  obtain ⟨pin, hpin⟩ := Option.ne_none_iff_exists'.mp hs
  rw [h.trusted pin hpin]
  exact nofun

/-- Nobody is asked once a fingerprint is trusted. -/
theorem OpeningOk.extends {o : Opening} (h : OpeningOk sha256 s o) (hs : s.trusted ≠ none) :
    OpeningOk sha256 t o := by
  cases o with
  | confirming conn fingerprint => exact absurd h.1 hs
  | connecting => trivial
  | refusing conn e => trivial

theorem ControlOk.extends {p : ControlPoint} (h : ControlOk sha256 s p) (hs : s.trusted ≠ none)
    (hext : Extends sha256 s t) : ControlOk sha256 t p := by
  cases p with
  | opening o => exact OpeningOk.extends h hs
  | hello conn => exact hext.kept conn h
  | helloReply conn => exact hext.kept conn h
  | register conn again => exact hext.kept conn h
  | registerReply conn again => exact hext.kept conn h
  | confirmForce conn => exact hext.kept conn h
  | serving conn => exact hext.kept conn h
  | stopping conn r => exact hext.kept conn h
  | closing r => trivial
  | cancelling r => trivial
  | sleeping => trivial
  | ended => trivial

theorem TunnelOk.extends {point : TunnelPoint} (h : TunnelOk sha256 s point)
    (hext : Extends sha256 s t) : TunnelOk sha256 t point := by
  refine ⟨hext.trusted_ne_none h.1, ?_⟩
  cases point with
  | opening r localError o => exact OpeningOk.extends (s := s) h.2 h.1
  | sending conn localError => exact hext.kept conn h.2
  | relaying conn => exact hext.kept conn h.2
  | start message => trivial
  | connectLocal r => trivial
  | closing conn => trivial
  | ended => trivial

/-- The control task is the one that moved. -/
theorem Ok.control_moved (h : Ok sha256 pin₀ s) (hstore : StoreOk sha256 pin₀ t.Unanswered t)
    (hext : Extends sha256 s t) (hcontrol : ControlOk sha256 t t.control)
    (hheartbeat : t.heartbeat = s.heartbeat) (htunnels : t.tunnels = s.tunnels) :
    StepOk sha256 pin₀ s t where
  ok :=
    { store := hstore
      control := hcontrol
      heartbeat := fun b hb => hext.kept b.conn (h.heartbeat b (hheartbeat ▸ hb))
      tunnels := fun i task hi => (h.tunnels i task (htunnels ▸ hi)).extends hext }
  kept := hext

/-- Another task moved, when there is a trusted fingerprint. -/
theorem Ok.moved (h : Ok sha256 pin₀ s) (hs : s.trusted ≠ none)
    (hstore : StoreOk sha256 pin₀ pending t) (hpending : ∀ c, pending c → t.trusted = none)
    (hext : Extends sha256 s t) (hsame : SameTasks s t) : StepOk sha256 pin₀ s t := by
  have hnone : ∀ c, ¬ pending c := fun c hc => hext.trusted_ne_none hs (hpending c hc)
  refine h.control_moved (hstore.mono fun c hc => absurd hc (hnone c)) hext ?_ hsame.heartbeat
    hsame.tunnels
  rw [hsame.control]
  exact h.control.extends hs hext

theorem Ok.write {conn : Nat} (h : Ok sha256 pin₀ s) (hm : Matches sha256 s conn) (w : Written) :
    StepOk sha256 pin₀ s (s.write conn w) :=
  h.moved hm.trusted (h.store.write hm) (fun _ hc => hc.1) (.write conn w) ⟨rfl, rfl, rfl⟩

theorem Ok.close (h : Ok sha256 pin₀ s) (hs : s.trusted ≠ none) (conn : Nat) :
    StepOk sha256 pin₀ s (s.close conn) :=
  h.moved hs h.store.close (fun _ hc => hc.1) (.close conn) ⟨rfl, rfl, rfl⟩

theorem Ok.goto {p : ControlPoint} (h : Ok sha256 pin₀ s)
    (hpending : ∀ c, s.Unanswered c → p.Pending c)
    (hp : ControlOk sha256 { s with control := p } p) :
    StepOk sha256 pin₀ s { s with control := p } :=
  h.control_moved ((h.store.tasks _ _ _ _).mono fun c hc => ⟨hc.1, hpending c hc⟩)
    (.tasks _ _ _ _) hp rfl rfl

/-- The conversation on a connection goes on. -/
theorem Ok.goto_of_matches {conn : Nat} {p : ControlPoint} (h : Ok sha256 pin₀ s)
    (hm : Matches sha256 s conn) (hp : ControlOk sha256 { s with control := p } p) :
    StepOk sha256 pin₀ s { s with control := p } :=
  h.goto (fun _ hc => absurd hc.1 hm.trusted) hp

theorem Ok.setTunnel {point : TunnelPoint} (h : Ok sha256 pin₀ s) (i : Nat)
    (hp : TunnelOk sha256 s point) : StepOk sha256 pin₀ s (s.setTunnel i point) where
  ok :=
    { store := h.store.tasks _ _ _ _
      control := h.control.extends hp.1 (.tasks _ _ _ _)
      heartbeat := h.heartbeat
      tunnels := fun j task hj => by
        refine TunnelOk.extends (s := s) ?_ (.tasks _ _ _ _)
        rw [ClientRun.setTunnel, Heap.get?_modify] at hj
        split at hj
        · obtain ⟨old, -, rfl⟩ := Option.map_eq_some_iff.mp hj
          exact hp
        · exact h.tunnels j task hj }
  kept := .tasks _ _ _ _

/-! ## The control task -/

theorem afterRunOnce_ok {r : Raised} (h : Ok sha256 pin₀ s)
    (hr : ∀ c, s.Unanswered c → r = .cancelled) :
    StepOk sha256 pin₀ s (s.afterRunOnce r) where
  ok :=
    { store := (h.store.tasks _ _ _ _).mono fun c hc => by
        rw [hr c hc]
        exact ⟨hc.1, trivial⟩
      control := trivial
      heartbeat := h.heartbeat
      tunnels := fun i task hi => by
        have hi : (s.tunnels.cells.map fun t => { t with cancelRequested := true })[i]? =
            some task := hi
        rw [List.getElem?_map] at hi
        obtain ⟨old, hold, rfl⟩ := Option.map_eq_some_iff.mp hi
        exact (h.tunnels i old hold).extends (.tasks _ _ _ _) }
  kept := .tasks _ _ _ _

theorem leaveRunOnce_ok {conn : Nat} (h : Ok sha256 pin₀ s) (hm : Matches sha256 s conn)
    (r : Raised) : StepOk sha256 pin₀ s (s.leaveRunOnce conn r) := by
  unfold leaveRunOnce
  split
  · exact h.goto_of_matches hm hm
  · have hclosed := h.close hm.trusted conn
    exact hclosed.trans (hclosed.ok.goto_of_matches (hclosed.kept.kept conn hm) trivial)

theorem fail_ok {conn : Nat} (h : Ok sha256 pin₀ s) (hm : Matches sha256 s conn) (text : String) :
    StepOk sha256 pin₀ s (s.fail conn text) :=
  leaveRunOnce_ok h hm _

theorem sendRegister_ok {conn : Nat} (h : Ok sha256 pin₀ s) (hm : Matches sha256 s conn)
    (force again : Bool) : StepOk sha256 pin₀ s (s.sendRegister settings conn force again) := by
  have hsent := h.write hm (.message (settings.client.registerMessage force))
  have hm' := hsent.kept.kept conn hm
  exact hsent.trans (hsent.ok.goto_of_matches hm' hm')

theorem helloReply_ok {conn : Nat} (h : Ok sha256 pin₀ s) (hm : Matches sha256 s conn)
    (message : Option Fields) : StepOk sha256 pin₀ s (s.helloReply settings conn message) := by
  unfold helloReply
  split
  · exact fail_ok h hm _
  · split
    · exact leaveRunOnce_ok h hm _
    · exact sendRegister_ok h hm _ _

theorem forceAnswered_ok {conn : Nat} (h : Ok sha256 pin₀ s) (hm : Matches sha256 s conn)
    (answer : Answer) : StepOk sha256 pin₀ s (s.forceAnswered settings conn answer) := by
  unfold forceAnswered
  split
  · exact fail_ok h hm _
  · exact leaveRunOnce_ok h hm _
  · split
    · exact sendRegister_ok h hm _ _
    · exact leaveRunOnce_ok h hm _
  · split
    · exact sendRegister_ok h hm _ _
    · exact leaveRunOnce_ok h hm _

theorem registered_ok {conn : Nat} (h : Ok sha256 pin₀ s) (hm : Matches sha256 s conn)
    (message : Fields) : StepOk sha256 pin₀ s (s.registered settings conn message) := by
  unfold registered
  split
  · exact leaveRunOnce_ok h hm _
  · split
    · exact fail_ok h hm _
    · refine ⟨⟨(h.store.tasks _ _ _ _).mono fun c hc => absurd hc.1 hm.trusted, hm,
        fun b hb => ?_, fun i task hi => ?_⟩, .tasks _ _ _ _⟩
      · cases hb
        exact hm
      · exact (h.tunnels i task hi).extends (.tasks _ _ _ _)

theorem registerReply_ok {conn : Nat} (h : Ok sha256 pin₀ s) (hm : Matches sha256 s conn)
    (again : Bool) (message : Option Fields) (answer : Answer) :
    StepOk sha256 pin₀ s (s.registerReply settings conn again message answer) := by
  cases message with
  | none => exact fail_ok h hm _
  | some message =>
      unfold registerReply
      dsimp only
      split
      · split
        · exact sendRegister_ok h hm _ _
        · split
          · exact forceAnswered_ok h hm answer
          · exact h.goto_of_matches hm hm
      · exact registered_ok h hm message

theorem controlMessage_ok {conn : Nat} (h : Ok sha256 pin₀ s) (hm : Matches sha256 s conn)
    (message : Option Fields) : StepOk sha256 pin₀ s (s.controlMessage settings conn message) := by
  cases message with
  | none => exact fail_ok h hm _
  | some message =>
      unfold controlMessage
      dsimp only
      split
      · refine ⟨⟨h.store.tasks _ _ _ _, h.control.extends hm.trusted (.tasks _ _ _ _),
          h.heartbeat, fun i task hi => ?_⟩, .tasks _ _ _ _⟩
        rw [Heap.get?_alloc] at hi
        split at hi
        · cases hi
          exact ⟨hm.trusted, trivial⟩
        · exact (h.tunnels i task hi).extends (.tasks _ _ _ _)
      · split
        · exact leaveRunOnce_ok h hm _
        · split
          · exact leaveRunOnce_ok h hm _
          · exact ⟨h, .refl⟩

theorem cancelControl_ok (h : Ok sha256 pin₀ s) (hs : s.cancelControl = some t) :
    StepOk sha256 pin₀ s t := by
  have hcontrol := h.control
  unfold cancelControl at hs
  split at hs
  all_goals rename_i hpoint; rw [hpoint] at hcontrol
  · cases hs
    exact afterRunOnce_ok h fun _ _ => rfl
  · cases hs
    exact leaveRunOnce_ok h hcontrol _
  · cases hs
    exact leaveRunOnce_ok h hcontrol _
  · cases hs
    exact leaveRunOnce_ok h hcontrol _
  · cases hs
    exact leaveRunOnce_ok h hcontrol _
  · cases hs
    exact leaveRunOnce_ok h hcontrol _
  · cases hs
    exact leaveRunOnce_ok h hcontrol _
  · cases hs
    exact afterRunOnce_ok h fun _ _ => rfl
  · cases hs
    exact afterRunOnce_ok h fun _ _ => rfl
  · cases hs
    exact h.goto (fun _ _ => trivial) trivial
  · cases hs
    exact h.goto (fun _ _ => trivial) trivial
  · cases hs

/-- The control task has opened its connection, or is told why it cannot. -/
theorem controlOpened_ok {o : Opening} {e : OpenEvent} {r : ClientRun × Opened}
    (h : Ok settings.sha256 pin₀ s) (hpending : StoreOk settings.sha256 pin₀ o.Pending s)
    (ho : OpeningOk settings.sha256 s o) (hs : openServerConnection settings s o e = some r) :
    StepOk settings.sha256 pin₀ s
      (match r.2 with
        | .opening o => { r.1 with control := .opening o }
        | .opened conn => { r.1.write conn (.message helloMessage) with control := .hello conn }
        | .raised e => r.1.afterRunOnce (.error e)) := by
  obtain ⟨t, opened⟩ := r
  obtain ⟨hstore, hext, hopened, hsame⟩ := open_ok hpending ho hs
  cases opened with
  | opening o =>
      have hstore' : StoreOk settings.sha256 pin₀ (fun c => t.trusted = none ∧ o.Pending c) t :=
        hstore.mono fun c hc => ⟨hopened.trusted hc, hc⟩
      refine h.control_moved (hstore'.tasks _ _ _ _) (hext.trans (.tasks _ _ _ _)) ?_
        hsame.heartbeat hsame.tunnels
      exact hopened
  | opened conn =>
      have hm : Matches settings.sha256 t conn := hopened
      have hwritten : Extends settings.sha256 t (t.write conn (.message helloMessage)) :=
        .write conn _
      refine h.control_moved (((hstore.write hm).tasks _ _ _ _).mono nofun)
        ((hext.trans hwritten).trans (.tasks _ _ _ _)) ?_ hsame.heartbeat hsame.tunnels
      exact hwritten.kept conn hm
  | raised e =>
      have hmoved : StepOk settings.sha256 pin₀ s { t with control := .sleeping } :=
        h.control_moved ((hstore.tasks _ _ _ _).mono nofun) (hext.trans (.tasks _ _ _ _)) trivial
          hsame.heartbeat hsame.tunnels
      exact hmoved.trans (afterRunOnce_ok hmoved.ok fun _ hc => nomatch hc.2)

theorem ControlPoint.conversation_matches {p : ControlPoint} {conn : Nat}
    (h : ControlOk sha256 s p) (hp : p.conversation = some conn) : Matches sha256 s conn := by
  cases p with
  | hello c => exact Option.some.inj hp ▸ h
  | helloReply c => exact Option.some.inj hp ▸ h
  | register c again => exact Option.some.inj hp ▸ h
  | registerReply c again => exact Option.some.inj hp ▸ h
  | serving c => exact Option.some.inj hp ▸ h
  | opening o => cases hp
  | confirmForce c => cases hp
  | stopping c r => cases hp
  | closing r => cases hp
  | cancelling r => cases hp
  | sleeping => cases hp
  | ended => cases hp

theorem controlStep_ok {e : ControlEvent} (h : Ok settings.sha256 pin₀ s)
    (hs : s.controlStep settings e = some t) : StepOk settings.sha256 pin₀ s t := by
  have hcontrol := h.control
  have hunanswered : ∀ c, s.Unanswered c → s.control.Pending c := fun _ hc => hc.2
  unfold controlStep at hs
  split at hs
  -- `cancel`
  · exact cancelControl_ok h hs
  any_goals (rename_i hpoint; rw [hpoint] at hcontrol hunanswered)
  -- `opening`
  · obtain ⟨r, hr, rfl⟩ := Option.map_eq_some_iff.mp hs
    exact controlOpened_ok h (h.store.mono hunanswered) hcontrol hr
  -- `hello`
  · cases hs
    exact h.goto_of_matches hcontrol hcontrol
  · cases hs
    exact helloReply_ok h hcontrol _
  -- `register`
  · cases hs
    exact h.goto_of_matches hcontrol hcontrol
  · cases hs
    exact registerReply_ok h hcontrol _ _ _
  · cases hs
    exact forceAnswered_ok h hcontrol _
  -- `serving`
  · cases hs
    exact controlMessage_ok h hcontrol _
  · split at hs
    · cases hs
      exact fail_ok h hcontrol _
    · cases hs
  -- the `finally` clause
  · rename_i conn r
    cases hs
    have hm : Matches settings.sha256 s conn := hcontrol
    have hclosed := h.close hm.trusted conn
    have hnone : ∀ c, ¬ (s.close conn).Unanswered c := fun c hc =>
      hclosed.kept.trusted_ne_none hm.trusted hc.1
    refine hclosed.trans ⟨⟨(hclosed.ok.store.tasks _ _ _ _).mono fun c hc => absurd hc (hnone c),
      trivial, nofun, fun i task hi => ?_⟩, .tasks _ _ _ _⟩
    exact (hclosed.ok.tunnels i task hi).extends (.tasks _ _ _ _)
  · cases hs
    exact afterRunOnce_ok h fun c hc => nomatch hunanswered c hc
  · rename_i r
    split at hs
    · cases hs
      refine h.goto (fun c hc => ?_) ?_
      · cases r with
        | cancelled => trivial
        | error e => exact nomatch hunanswered c hc
      · unfold afterCancel
        split <;> trivial
    · cases hs
  · cases hs
    exact h.goto (fun c hc => nomatch hunanswered c hc) trivial
  -- the conversation fails
  · obtain ⟨conn, hconn, rfl⟩ := Option.map_eq_some_iff.mp hs
    exact fail_ok h (ControlPoint.conversation_matches hcontrol hconn) _
  · cases hs

/-! ## The heartbeat and the tunnels -/

theorem beat_ok {time : PyFloat} (h : Ok sha256 pin₀ s) (hs : s.beat time = some t) :
    StepOk sha256 pin₀ s t := by
  unfold beat at hs
  split at hs
  · rename_i conn hbeat
    cases hs
    exact h.write (h.heartbeat _ hbeat) _
  · cases hs

theorem beatFailed_ok (h : Ok sha256 pin₀ s) (hs : s.beatFailed = some t) :
    StepOk sha256 pin₀ s t := by
  obtain ⟨b, hb, rfl⟩ := Option.map_eq_some_iff.mp hs
  have hm : Matches sha256 s b.conn := h.heartbeat b hb
  refine ⟨⟨h.store.tasks _ _ _ _, h.control.extends hm.trusted (.tasks _ _ _ _),
    fun b' hb' => ?_, fun i task hi => ?_⟩, .tasks _ _ _ _⟩
  · cases hb'
    exact hm
  · exact (h.tunnels i task hi).extends (.tasks _ _ _ _)

/-- A tunnel has opened its connection, or is told why it cannot. -/
theorem tunnelOpened_ok {o : Opening} {e : OpenEvent} {r : ClientRun × Opened} {i : Nat}
    {request : TunnelRequest} {localError : Option String} {time : PyFloat}
    (h : Ok settings.sha256 pin₀ s) (htrusted : s.trusted ≠ none)
    (ho : OpeningOk settings.sha256 s o)
    (hs : openServerConnection settings s o e = some r) :
    StepOk settings.sha256 pin₀ s
      (match r.2 with
        | .opening o => r.1.setTunnel i (.opening request localError o)
        | .opened conn =>
            (r.1.write conn (.message (tunnelMessage request localError time))).setTunnel i
              (.sending conn localError)
        | .raised _ => r.1.setTunnel i (.closing none)) := by
  obtain ⟨t, opened⟩ := r
  have hpending : StoreOk settings.sha256 pin₀ o.Pending s :=
    h.store.mono fun c hc => absurd hc.1 htrusted
  obtain ⟨hstore, hext, hopened, hsame⟩ := open_ok hpending ho hs
  have hmoved := h.moved htrusted hstore (fun _ hc => hopened.trusted hc) hext hsame
  have htrusted' : t.trusted ≠ none := hext.trusted_ne_none htrusted
  cases opened with
  | opening o => exact hmoved.trans (hmoved.ok.setTunnel i ⟨htrusted', hopened⟩)
  | opened conn =>
      have hsent := hmoved.ok.write hopened (.message (tunnelMessage request localError time))
      exact (hmoved.trans hsent).trans
        (hsent.ok.setTunnel i ⟨hsent.kept.trusted_ne_none htrusted', hsent.kept.kept conn hopened⟩)
  | raised e => exact hmoved.trans (hmoved.ok.setTunnel i ⟨htrusted', trivial⟩)

theorem startTunnel_ok (hs : s.trusted ≠ none) (message : Fields) :
    TunnelOk sha256 s (s.startTunnel settings message) := by
  unfold startTunnel
  cases settings.client.openTunnel s.proxies message with
  | none => exact ⟨hs, trivial⟩
  | some proxy => exact ⟨hs, trivial⟩

theorem TunnelOk.cancel {point : TunnelPoint} (h : TunnelOk sha256 s point) :
    TunnelOk sha256 s (cancelTunnel point) := by
  refine ⟨h.1, ?_⟩
  cases point <;> trivial

theorem tunnelStep_ok {i : Nat} {task : TunnelTask} {e : TunnelEvent}
    (h : Ok settings.sha256 pin₀ s) (htask : s.tunnels.get? i = some task)
    (hs : s.tunnelStep settings i task e = some t) : StepOk settings.sha256 pin₀ s t := by
  have htunnel : TunnelOk settings.sha256 s task.point := h.tunnels i task htask
  have htrusted : s.trusted ≠ none := htunnel.1
  have hpoint := htunnel.2
  unfold tunnelStep at hs
  split at hs
  -- `cancel`
  · split at hs
    · cases hs
      exact h.setTunnel i htunnel.cancel
    · cases hs
  any_goals (rename_i hp; rw [hp] at hpoint)
  -- `start` and `connectLocal`
  · cases hs
    exact h.setTunnel i (startTunnel_ok htrusted _)
  · cases hs
    exact h.setTunnel i ⟨htrusted, trivial⟩
  · cases hs
    exact h.setTunnel i ⟨htrusted, trivial⟩
  · cases hs
    exact h.setTunnel i ⟨htrusted, trivial⟩
  -- `opening`
  · obtain ⟨r, hr, rfl⟩ := Option.map_eq_some_iff.mp hs
    exact tunnelOpened_ok h htrusted hpoint hr
  -- `sending`
  · rename_i conn localError
    cases hs
    cases localError with
    | none => exact h.setTunnel i ⟨htrusted, hpoint⟩
    | some text => exact h.setTunnel i ⟨htrusted, trivial⟩
  · cases hs
    exact h.setTunnel i ⟨htrusted, trivial⟩
  -- `relaying`
  · cases hs
    exact h.write hpoint _
  · cases hs
    exact h.setTunnel i ⟨htrusted, trivial⟩
  · cases hs
    exact h.setTunnel i ⟨htrusted, trivial⟩
  -- `closing`
  · rename_i conn
    cases hs
    have hclosed := h.close htrusted conn
    exact hclosed.trans
      (hclosed.ok.setTunnel i ⟨hclosed.kept.trusted_ne_none htrusted, trivial⟩)
  · cases hs
    exact h.setTunnel i ⟨htrusted, trivial⟩
  · cases hs

theorem step_ok {e : Event} (h : Ok settings.sha256 pin₀ s)
    (hs : step settings s e = some t) : StepOk settings.sha256 pin₀ s t := by
  cases e with
  | control e => exact controlStep_ok h hs
  | beat time => exact beat_ok h hs
  | beatFailed => exact beatFailed_ok h hs
  | tunnel i e =>
      obtain ⟨task, htask, hs⟩ := Option.bind_eq_some_iff.mp hs
      exact tunnelStep_ok h htask hs

/-! ## Runs -/

theorem runs_ok (h : Ok settings.sha256 pin₀ s)
    (hr : (clientRun settings environ).Runs (fun _ _ => True) s t) :
    StepOk settings.sha256 pin₀ s t := by
  induction hr with
  | refl => exact ⟨h, .refl⟩
  | tail _ _ hs ih => exact ih.trans (step_ok ih.ok hs)

theorem initial_ok (settings : ClientSettings) (environ : Environment) :
    Ok settings.sha256 (initial settings environ).trusted (initial settings environ) where
  store := ⟨nofun, nofun, nofun, .inl ⟨rfl, rfl⟩⟩
  control := by
    unfold initial
    dsimp only
    split
    · exact trivial
    · exact trivial
  heartbeat := nofun
  tunnels := nofun

theorem reachable_ok (h : (clientRun settings environ).Reachable s) :
    Ok settings.sha256 (initial settings environ).trusted s :=
  (runs_ok (initial_ok settings environ) h).ok

/-- The certificate of the connection is the one of the fingerprint. -/
def Connection.Shows (sha256 : Bytes → Digest) (k : Connection) (pin : String) : Prop :=
  ∃ certificate, k.peer = .tls (some certificate) ∧
    fingerprintsEqual (formatFingerprint (sha256 certificate)) pin = true

theorem Matches.shows {conn : Nat} {k : Connection} (h : Matches sha256 s conn)
    (hk : s.connections.get? conn = some k) :
    ∃ pin, s.trusted = some pin ∧ k.Shows sha256 pin := by
  obtain ⟨k', fingerprint, pin, hk', -, hpeer, htrusted, hequal⟩ := h
  rw [hk] at hk'
  cases hk'
  obtain ⟨certificate, hcert, rfl⟩ := peerFingerprint_eq hpeer
  exact ⟨pin, htrusted, certificate, hcert, hequal⟩

end ClientRun

open ClientRun in
/-- The fingerprint that is trusted stays, and everything is written on connections whose
certificate it matches. A fingerprint that was not given is the whole one of the one certificate
that the user affirmed. A connection that is refused is closed and nothing is written on it, and
one that is not refused matches, or is still in question. -/
theorem pin_discipline (settings : ClientSettings) (environ : Environment) {s : ClientRun}
    (h : (clientRun settings environ).Reachable s) :
    (∀ pin t, s.trusted = some pin →
      (clientRun settings environ).Runs (fun _ _ => True) s t → t.trusted = some pin) ∧
    (∀ conn k, s.connections.get? conn = some k → k.written ≠ [] →
      ∃ pin, s.trusted = some pin ∧ k.Shows settings.sha256 pin) ∧
    (configuredFingerprint settings.serverFingerprint environ = none →
      ∀ pin, s.trusted = some pin → ∃ conn k certificate, s.affirmed = [conn] ∧
        s.connections.get? conn = some k ∧ k.peer = .tls (some certificate) ∧
          pin = formatFingerprint (settings.sha256 certificate)) ∧
    s.affirmed.length ≤ 1 ∧
    (∀ conn k, s.connections.get? conn = some k → k.refused = true →
      k.closed = true ∧ k.written = []) ∧
    ∀ conn k, s.connections.get? conn = some k → k.refused = false →
      (∃ pin, s.trusted = some pin ∧ k.Shows settings.sha256 pin) ∨
        (s.Unanswered conn ∧ k.written = []) := by
  have hok := reachable_ok h
  have hpinned := hok.store.pinned
  refine ⟨fun pin t hpin hr => ?_, fun conn k hk hwritten => ?_, fun hnone pin hpin => ?_, ?_,
    hok.store.refused, fun conn k hk hnot => ?_⟩
  · exact (runs_ok hok hr).kept.trusted pin hpin
  · exact (hok.store.written conn k hk hwritten).shows hk
  · have hinitial : (initial settings environ).trusted = none := by
      show ((initialFingerprint settings.serverFingerprint environ).toOption).join = none
      rw [initialFingerprint, hnone]
      rfl
    rw [hinitial] at hpinned
    rcases hpinned with ⟨hsome, -⟩ | ⟨-, conn, k, certificate, haffirmed, hk, hcert, htrusted⟩
    · rw [hpin] at hsome
      cases hsome
    · exact ⟨conn, k, certificate, haffirmed, hk, hcert, Option.some.inj (hpin ▸ htrusted)⟩
  · rcases hpinned with ⟨-, hnil⟩ | ⟨-, conn, -, -, hone, -⟩
    · rw [hnil]
      exact Nat.zero_le 1
    · rw [hone]
      exact Nat.le_refl 1
  · rcases hok.store.settled conn k hk hnot with hm | hunanswered
    · exact .inl (hm.shows hk)
    · refine .inr ⟨hunanswered, ?_⟩
      by_contra hwritten
      exact (hok.store.written conn k hk hwritten).trusted hunanswered.1

/-! ## A server that is replaced by another -/

namespace ClientRun

/-- The example certificate, as the peer sends it. -/
def exampleDer : Bytes :=
  [0x30, 0x81, 0xD2, 0x30, 0x81, 0x85, 0x02, 0x14, 0x43, 0x45, 0xDE, 0xD2, 0xAB, 0x99, 0x43, 0xE7,
    0xF4, 0x93, 0xAF, 0x92, 0x66, 0xED, 0x98, 0xCD, 0xB4, 0x16, 0xCE, 0xA2, 0x30, 0x05, 0x06, 0x03,
    0x2B, 0x65, 0x70, 0x30, 0x0C, 0x31, 0x0A, 0x30, 0x08, 0x06, 0x03, 0x55, 0x04, 0x03, 0x0C, 0x01,
    0x61, 0x30, 0x1E, 0x17, 0x0D, 0x32, 0x36, 0x31, 0x31, 0x32, 0x30, 0x30, 0x32, 0x33, 0x39, 0x34,
    0x35, 0x5A, 0x17, 0x0D, 0x32, 0x36, 0x31, 0x31, 0x32, 0x37, 0x30, 0x32, 0x33, 0x39, 0x34, 0x35,
    0x5A, 0x30, 0x0C, 0x31, 0x0A, 0x30, 0x08, 0x06, 0x03, 0x55, 0x04, 0x03, 0x0C, 0x01, 0x61, 0x30,
    0x2A, 0x30, 0x05, 0x06, 0x03, 0x2B, 0x65, 0x70, 0x03, 0x21, 0x00, 0xBE, 0x14, 0x6D, 0x84, 0xFE,
    0xB1, 0xC4, 0x26, 0xBB, 0xD3, 0x9A, 0xDB, 0x74, 0x79, 0xAC, 0x22, 0x4D, 0x0B, 0xE6, 0x33, 0xA0,
    0x21, 0x2B, 0x7E, 0xA4, 0xA6, 0x76, 0x48, 0x64, 0xD8, 0x7B, 0xB3, 0x30, 0x05, 0x06, 0x03, 0x2B,
    0x65, 0x70, 0x03, 0x41, 0x00, 0x0A, 0xEC, 0xDE, 0x3F, 0xAB, 0x3F, 0xD5, 0x20, 0xB3, 0xD1, 0xDB,
    0xAF, 0x66, 0xDB, 0xC5, 0xD7, 0xF9, 0x96, 0xB1, 0x75, 0xAC, 0x89, 0x77, 0x32, 0xF7, 0x6C, 0x02,
    0x65, 0x2D, 0xA6, 0x4E, 0xF3, 0x32, 0x59, 0x8A, 0x62, 0x3A, 0x96, 0x10, 0xAD, 0x5F, 0x66, 0x3D,
    0x6C, 0x67, 0xD0, 0x27, 0x5C, 0xCA, 0xC7, 0x4F, 0x40, 0x6D, 0xB6, 0xA6, 0x18, 0x9F, 0x0D, 0xAB,
    0xB4, 0x1D, 0x68, 0xB5, 0x09]

/-- The user is asked by a callback. -/
def exampleSettings (digest : Digest) : ClientSettings where
  client := ⟨⟨[⟨"web", "127.0.0.1", 80, none, none, none⟩], none, "py-frp"⟩, 0, fun _ => ""⟩
  confirmsFingerprint := true
  sha256 := fun _ => digest

theorem peerFingerprint_given {certificate : Bytes} (hcert : certificate ≠ [])
    (sha256 : Bytes → Digest) : peerFingerprint sha256 (.tls (some certificate)) =
      .ok (formatFingerprint (sha256 certificate)) := by
  simp [peerFingerprint, Option.filter_some, hcert]

/-- The user affirms the first certificate. -/
theorem affirmed_eq {certificate : Bytes} (hcert : certificate ≠ []) (digest : Digest)
    (htrusted : s.trusted = none) :
    openServerConnection (exampleSettings digest) s .connecting
        (.connected (.tls (some certificate)) (.callback true)) =
      some ({ s.opened (.tls (some certificate)) with
          trusted := some (formatFingerprint digest)
          affirmed := s.connections.size :: s.affirmed }, .opened s.connections.size) := by
  have hpeer := peerFingerprint_given hcert (exampleSettings digest).sha256
  have hasks : verifyServerFingerprint (exampleSettings digest).sha256 s.trusted
      (.tls (some certificate)) = .asks (formatFingerprint digest) := by
    unfold verifyServerFingerprint
    rw [hpeer, htrusted]
    rfl
  unfold openServerConnection
  dsimp only
  rw [hasks]
  rfl

/-- Without a certificate the connection is refused. -/
theorem refused_eq (settings : ClientSettings) (s : ClientRun) (answer : Answer) :
    ∃ e, openServerConnection settings s .connecting (.connected .plain answer) =
      some ((s.opened .plain).refuse s.connections.size,
        .opening (.refusing s.connections.size e)) :=
  ⟨_, rfl⟩

theorem step_opened {e : OpenEvent} {conn : Nat} (hcontrol : s.control = .opening .connecting)
    (hopen : openServerConnection settings s .connecting e = some (t, .opened conn)) :
    (clientRun settings environ).step s (.control (.openEvent e)) =
      some { t.write conn (.message helloMessage) with control := .hello conn } := by
  simp only [clientRun, step, controlStep, hcontrol, hopen, Option.map_some]

theorem step_opening {e : OpenEvent} {o : Opening} (hcontrol : s.control = .opening .connecting)
    (hopen : openServerConnection settings s .connecting e = some (t, .opening o)) :
    (clientRun settings environ).step s (.control (.openEvent e)) =
      some { t with control := .opening o } := by
  simp only [clientRun, step, controlStep, hcontrol, hopen, Option.map_some]

theorem exists_reconnected {certificate : Bytes} (hcert : certificate ≠ []) (digest : Digest) :
    ∃ (s : ClientRun) (k₀ k₁ : Connection),
      (clientRun (exampleSettings digest) .empty).Reachable s ∧
      s.connections.get? 0 = some k₀ ∧ k₀.written ≠ [] ∧
      s.connections.get? 1 = some k₁ ∧ k₁.refused = true ∧
      s.trusted = some (formatFingerprint digest) := by
  have hinit : (clientRun (exampleSettings digest) .empty).Reachable
      (initial (exampleSettings digest) .empty) := System.ReachableUnder.init
  have haffirmed := affirmed_eq (s := initial (exampleSettings digest) .empty) hcert digest rfl
  have hopened := hinit.tail trivial (step_opened rfl haffirmed)
  have hfailed := hopened.tail (a := .control (.failed "connection lost")) trivial rfl
  have hclosed := hfailed.tail (a := .control .closed) trivial rfl
  have hgathered := hclosed.tail (a := .control .gathered) trivial rfl
  have hslept := hgathered.tail (a := .control .slept) trivial rfl
  obtain ⟨e, he⟩ := refused_eq (exampleSettings digest) _ (.callback true)
  have hrefused := hslept.tail trivial (step_opening rfl he)
  exact ⟨_, _, _, hrefused, rfl, nofun, rfl, rfl, rfl⟩

end ClientRun

open ClientRun in
/-- The user affirms the certificate of the first server. The one that is there after it has
no certificate. -/
theorem pin_discipline_reconnected :
    ∃ (s : ClientRun) (k₀ k₁ : Connection), s.connections.get? 0 = some k₀ ∧
      s.connections.get? 1 = some k₁ ∧
      s.trusted = some (formatFingerprint exampleDigest) ∧
      (∃ pin, s.trusted = some pin ∧ k₀.Shows (exampleSettings exampleDigest).sha256 pin) ∧
      s.affirmed.length = 1 ∧ k₁.closed = true ∧ k₁.written = [] := by
  have hcert : exampleDer ≠ [] := nofun
  obtain ⟨s, k₀, k₁, hs, hk₀, hwritten, hk₁, hrefused, htrusted⟩ :=
    exists_reconnected hcert exampleDigest
  obtain ⟨-, hshows, haffirmed, -, hclosed, -⟩ :=
    pin_discipline (exampleSettings exampleDigest) .empty hs
  obtain ⟨conn, -, -, hone, -⟩ := haffirmed rfl _ htrusted
  exact ⟨s, k₀, k₁, hk₀, hk₁, htrusted, hshows 0 k₀ hk₀ hwritten, by rw [hone]; rfl,
    hclosed 1 k₁ hk₁ hrefused⟩

end PyFrp
