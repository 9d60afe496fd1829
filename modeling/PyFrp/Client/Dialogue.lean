import PyFrp.Client.Resources

/-!
# The dialogue on the control connection

How the control task gets from one place to the next: what it has just been told, and
what it has written on which connection.
-/

namespace PyFrp

open Python Coop

namespace ClientRun

/-- What was written on the connection. -/
def writtenOn (s : ClientRun) (conn : Nat) : List Written :=
  ((s.connections.get? conn).map (·.written)).getD []

/-! ## What the task waits for next -/

/-- Places at which nothing is known of what the server has said. -/
def ControlPoint.mute : ControlPoint → Bool
  | .opening _ | .stopping _ _ | .closing _ | .cancelling _ | .sleeping | .ended => true
  | _ => false

/-- From `p`, the event leads to `q`. -/
inductive Follows : ControlPoint → ControlEvent → ControlPoint → Prop
  | hello {o : Opening} {e : OpenEvent} {conn : Nat} :
      Follows (.opening o) (.openEvent e) (.hello conn)
  | helloSent {conn} : Follows (.hello conn) .drained (.helloReply conn)
  | register {conn m answer} :
      Follows (.helloReply conn) (.received (some m) answer) (.register conn false)
  | registerSent {conn again} :
      Follows (.register conn again) .drained (.registerReply conn again)
  | retry {conn m answer} (h : hasType m "force_required" = true) :
      Follows (.registerReply conn false) (.received (some m) answer) (.register conn true)
  | asks {conn m answer} (h : hasType m "force_required" = true) :
      Follows (.registerReply conn false) (.received (some m) answer) (.confirmForce conn)
  | confirmed {conn answer} : Follows (.confirmForce conn) (.answered answer) (.register conn true)
  | registered {conn again m answer} (h : hasType m "registered" = true) :
      Follows (.registerReply conn again) (.received (some m) answer) (.serving conn)
  | serving {conn e} : Follows (.serving conn) e (.serving conn)
  | mute {p e q} (h : q.mute = true) : Follows p e q

variable {settings : ClientSettings} {s t u : ClientRun} {conn conn' : Nat} {p : ControlPoint}
  {e : ControlEvent}

theorem mute_leaveRunOnce (r : Raised) : (s.leaveRunOnce conn r).control.mute = true := by
  unfold leaveRunOnce
  split <;> rfl

theorem mute_fail (text : String) : (s.fail conn text).control.mute = true := mute_leaveRunOnce _

theorem mute_cancelControl (hs : s.cancelControl = some t) : t.control.mute = true := by
  unfold cancelControl at hs
  split at hs
  all_goals first
    | cases hs; exact mute_leaveRunOnce _
    | cases hs; rfl
    | cases hs

theorem helloReply_follows (m : Fields) (answer : Answer) :
    Follows (.helloReply conn) (.received (some m) answer)
      (s.helloReply settings conn (some m)).control := by
  simp only [helloReply]
  split
  · exact .mute (mute_leaveRunOnce _)
  · exact .register

theorem forceAnswered_follows (answer : Answer)
    (hregister : Follows p e (.register conn true)) :
    Follows p e (s.forceAnswered settings conn answer).control := by
  unfold forceAnswered
  split
  · exact .mute (mute_fail _)
  · exact .mute (mute_leaveRunOnce _)
  · split
    · exact hregister
    · exact .mute (mute_leaveRunOnce _)
  · split
    · exact hregister
    · exact .mute (mute_leaveRunOnce _)

theorem registered_follows {again : Bool} (m : Fields) (answer : Answer) :
    Follows (.registerReply conn again) (.received (some m) answer)
      (s.registered settings conn m).control := by
  unfold registered
  split
  · exact .mute (mute_leaveRunOnce _)
  · split
    · exact .mute (mute_fail _)
    · rename_i hok
      refine .registered ?_
      cases htype : hasType m "registered" with
      | true => rfl
      | false =>
          rw [htype] at hok
          exact absurd rfl hok

theorem registerReply_follows {again : Bool} (m : Fields) (answer : Answer) :
    Follows (.registerReply conn again) (.received (some m) answer)
      (s.registerReply settings conn again (some m) answer).control := by
  simp only [registerReply]
  split
  · rename_i hasked
    obtain ⟨hagain, hforce⟩ := Bool.and_eq_true_iff.mp hasked
    cases again with
    | true => cases hagain
    | false =>
        split
        · exact .retry hforce
        · split
          · exact forceAnswered_follows answer (.retry hforce)
          · exact .asks hforce
  · exact registered_follows m answer

theorem controlMessage_follows (hpoint : s.control = .serving conn) (e : ControlEvent)
    (message : Option Fields) :
    Follows (.serving conn) e (s.controlMessage settings conn message).control := by
  unfold controlMessage
  split
  · exact .mute (mute_fail _)
  · split
    · show Follows (.serving conn) e s.control
      rw [hpoint]
      exact .serving
    · split
      · exact .mute (mute_leaveRunOnce _)
      · split
        · exact .mute (mute_leaveRunOnce _)
        · rw [hpoint]
          exact .serving

theorem controlStep_follows (hs : s.controlStep settings e = some t) :
    Follows s.control e t.control := by
  unfold controlStep at hs
  split at hs
  · exact .mute (mute_cancelControl hs)
  any_goals (rename_i hpoint; rw [hpoint])
  · obtain ⟨⟨t, opened⟩, -, rfl⟩ := Option.map_eq_some_iff.mp hs
    cases opened with
    | opening o => exact .mute rfl
    | opened conn => exact .hello
    | raised e => exact .mute rfl
  · cases hs
    exact .helloSent
  · rename_i message answer
    cases hs
    cases message with
    | none => exact .mute (mute_fail _)
    | some m => exact helloReply_follows m answer
  · cases hs
    exact .registerSent
  · rename_i message answer
    cases hs
    cases message with
    | none => exact .mute (mute_fail _)
    | some m => exact registerReply_follows m answer
  · cases hs
    exact forceAnswered_follows _ .confirmed
  · cases hs
    exact controlMessage_follows hpoint _ _
  · split at hs
    · cases hs
      exact .mute (mute_fail _)
    · cases hs
  · cases hs
    exact .mute rfl
  · cases hs
    exact .mute rfl
  · rename_i r
    split at hs
    · cases hs
      refine .mute ?_
      unfold afterCancel
      split <;> rfl
    · cases hs
  · cases hs
    exact .mute rfl
  · obtain ⟨conn, -, rfl⟩ := Option.map_eq_some_iff.mp hs
    exact .mute (mute_fail _)
  · cases hs

/-! ## What is written -/

theorem writtenOn_modify {f : Connection → Connection} (hf : ∀ k, (f k).written = k.written) :
    writtenOn { s with connections := s.connections.modify conn' f } conn = s.writtenOn conn := by
  simp only [writtenOn, Heap.get?_modify]
  split
  · rw [Option.map_map]
    congr 2
    exact funext hf
  · rfl

@[simp] theorem writtenOn_close : (s.close conn').writtenOn conn = s.writtenOn conn :=
  writtenOn_modify fun _ => rfl

@[simp] theorem writtenOn_refuse : (s.refuse conn').writtenOn conn = s.writtenOn conn :=
  writtenOn_modify fun _ => rfl

theorem writtenOn_write {w : Written} (hne : conn ≠ conn') :
    (s.write conn' w).writtenOn conn = s.writtenOn conn := by
  simp only [writtenOn, write, Heap.get?_modify, if_neg hne]

theorem writtenOn_opened (peer : PeerInfo) : (s.opened peer).writtenOn conn = s.writtenOn conn := by
  simp only [writtenOn, opened, Heap.get?_alloc]
  split
  · rename_i hconn
    rw [hconn, Heap.get?, List.getElem?_eq_none (Nat.le_refl _)]
    rfl
  · rfl

theorem writtenOn_conclude {fingerprint : String} {answer : Answer} {r : Opened}
    (hs : s.conclude conn' fingerprint answer = (t, r)) :
    t.writtenOn conn = s.writtenOn conn := by
  unfold conclude at hs
  split at hs
  · cases hs
    rfl
  · cases hs
    exact writtenOn_refuse

/-- Nothing is written on a connection while it is opened. -/
theorem writtenOn_open {o : Opening} {e : OpenEvent} {r : Opened}
    (hs : openServerConnection settings s o e = some (t, r)) :
    t.writtenOn conn = s.writtenOn conn := by
  unfold openServerConnection at hs
  split at hs
  · rename_i peer answer
    dsimp only at hs
    split at hs
    · cases hs
      exact writtenOn_opened peer
    · cases hs
      exact writtenOn_refuse.trans (writtenOn_opened peer)
    · split at hs
      · exact (writtenOn_conclude (Option.some.inj hs)).trans (writtenOn_opened peer)
      · cases hs
        exact writtenOn_opened peer
  · cases hs
    rfl
  · exact writtenOn_conclude (Option.some.inj hs)
  · cases hs
    rfl
  · cases hs

/-- The control task writes on the connection only in these two places. -/
def ControlPoint.Writes (p : ControlPoint) (conn : Nat) : Prop :=
  p = .hello conn ∨ ∃ again, p = .register conn again

/-- A step writes nothing on the connection, unless it leads to such a place. -/
def Utters (s t : ClientRun) (conn : Nat) : Prop :=
  t.writtenOn conn = s.writtenOn conn ∨ t.control.Writes conn

theorem leaveRunOnce_utters (r : Raised) : s.Utters (s.leaveRunOnce conn' r) conn := by
  refine .inl ?_
  unfold leaveRunOnce
  split
  · rfl
  · exact writtenOn_close

theorem fail_utters (text : String) : s.Utters (s.fail conn' text) conn := leaveRunOnce_utters _

theorem sendRegister_utters (force again : Bool) :
    s.Utters (s.sendRegister settings conn' force again) conn := by
  by_cases hconn : conn = conn'
  · subst hconn
    exact .inr (.inr ⟨again, rfl⟩)
  · exact .inl (writtenOn_write hconn)

theorem forceAnswered_utters (answer : Answer) :
    s.Utters (s.forceAnswered settings conn' answer) conn := by
  unfold forceAnswered
  split
  · exact fail_utters _
  · exact leaveRunOnce_utters _
  · split
    · exact sendRegister_utters _ _
    · exact leaveRunOnce_utters _
  · split
    · exact sendRegister_utters _ _
    · exact leaveRunOnce_utters _

theorem registerReply_utters {again : Bool} (message : Option Fields) (answer : Answer) :
    s.Utters (s.registerReply settings conn' again message answer) conn := by
  unfold registerReply
  split
  · exact fail_utters _
  · split
    · split
      · exact sendRegister_utters _ _
      · split
        · exact forceAnswered_utters _
        · exact .inl rfl
    · unfold registered
      split
      · exact leaveRunOnce_utters _
      · split
        · exact fail_utters _
        · exact .inl rfl

theorem controlMessage_utters (message : Option Fields) :
    s.Utters (s.controlMessage settings conn' message) conn := by
  unfold controlMessage
  split
  · exact fail_utters _
  · split
    · exact .inl rfl
    · split
      · exact leaveRunOnce_utters _
      · split
        · exact leaveRunOnce_utters _
        · exact .inl rfl

theorem cancelControl_utters (hs : s.cancelControl = some t) : s.Utters t conn := by
  unfold cancelControl at hs
  split at hs
  all_goals first
    | cases hs; exact leaveRunOnce_utters _
    | cases hs; exact .inl rfl
    | cases hs

theorem controlStep_utters (hs : s.controlStep settings e = some t) : s.Utters t conn := by
  unfold controlStep at hs
  split at hs
  · exact cancelControl_utters hs
  · obtain ⟨⟨u, opened⟩, hopen, rfl⟩ := Option.map_eq_some_iff.mp hs
    have hsame : u.writtenOn conn = s.writtenOn conn := writtenOn_open hopen
    cases opened with
    | opening o => exact .inl hsame
    | opened conn' =>
        by_cases hconn : conn = conn'
        · subst hconn
          exact .inr (.inl rfl)
        · exact .inl ((writtenOn_write hconn).trans hsame)
    | raised e => exact .inl hsame
  · cases hs
    exact .inl rfl
  · rename_i message answer _
    cases hs
    unfold helloReply
    split
    · exact fail_utters _
    · split
      · exact leaveRunOnce_utters _
      · exact sendRegister_utters _ _
  · cases hs
    exact .inl rfl
  · cases hs
    exact registerReply_utters _ _
  · cases hs
    exact forceAnswered_utters _
  · cases hs
    exact controlMessage_utters _
  · split at hs
    · cases hs
      exact fail_utters _
    · cases hs
  · cases hs
    exact .inl writtenOn_close
  · cases hs
    exact .inl rfl
  · split at hs
    · cases hs
      exact .inl rfl
    · cases hs
  · cases hs
    exact .inl rfl
  · obtain ⟨conn, -, rfl⟩ := Option.map_eq_some_iff.mp hs
    exact fail_utters _
  · cases hs

/-- The connection that is greeted was silent. -/
theorem hello_silent (h : Orderly settings s) (hs : s.controlStep settings e = some t)
    (ht : t.control = .hello conn) : s.writtenOn conn = [] := by
  have hdoes := controlStep_does (h.holds none) (fun b hb => (h.heart b hb).attended) hs
  have hconn : t.control.conn = some conn := by
    rw [ht]
    rfl
  rcases hdoes.turn.taken conn hconn with hheld | hfresh
  · have hfollows := controlStep_follows hs
    rw [ht] at hfollows
    have hstands := h.holds none conn hheld
    revert hstands
    simp only [Stands]
    cases hpoint : s.control with
    | opening o =>
        rintro ⟨k, hk, hstands⟩
        have hwritten : k.written = [] := by
          cases o with
          | connecting => exact hstands.2
          | confirming c fingerprint => exact hstands.2
          | refusing c e => exact hstands.2
        simp only [writtenOn, hk, Option.map_some, Option.getD_some, hwritten]
    | _ =>
        rw [hpoint] at hfollows
        cases hfollows with
        | mute hmute => cases hmute
  · simp only [writtenOn, Heap.get?, List.getElem?_eq_none hfresh, Option.map_none,
      Option.getD_none]

/-- A tunnel has the connection, and what is written on it begins with its message. -/
theorem tunnel_written {i : Nat} {point : TunnelPoint} (h : Orderly settings t)
    (ht : t.tunnelPoint i = some point)
    (hpoint : (∃ localError, point = .sending conn localError) ∨ point = .relaying conn) :
    ∃ r localError time chunks, t.writtenOn conn =
      .message (tunnelMessage r localError time) :: List.map Written.frames chunks := by
  have hheld : t.heldBy (some i) = some conn := by
    simp only [heldBy, ht, Option.bind_some]
    rcases hpoint with ⟨localError, rfl⟩ | rfl <;> rfl
  obtain ⟨k, hk, hstands⟩ := h.holds (some i) conn hheld
  have hstands := hstands point ht
  have hwritten : t.writtenOn conn = k.written := by
    simp only [writtenOn, hk, Option.map_some, Option.getD_some]
  rw [hwritten]
  rcases hpoint with ⟨localError, rfl⟩ | rfl
  · obtain ⟨-, r, time, hk⟩ := hstands
    exact ⟨r, localError, time, [], hk⟩
  · obtain ⟨-, r, time, chunks, hk⟩ := hstands
    exact ⟨r, none, time, chunks, hk⟩

theorem tunnelStep_utters {i : Nat} {task : TunnelTask} {e : TunnelEvent}
    (h : Orderly settings s) (htask : s.tunnels.get? i = some task)
    (hs : s.tunnelStep settings i task e = some t) :
    t.writtenOn conn = s.writtenOn conn ∨ ∃ point, t.tunnelPoint i = some point ∧
      ((∃ localError, point = .sending conn localError) ∨ point = .relaying conn) := by
  have hpoint : s.tunnelPoint i = some task.point := by
    rw [tunnelPoint, htask]
    rfl
  unfold tunnelStep at hs
  split at hs
  case h_6 r localError o e time hp =>
    obtain ⟨⟨u, opened⟩, hopen, rfl⟩ := Option.map_eq_some_iff.mp hs
    have hsame : u.writtenOn conn = s.writtenOn conn := writtenOn_open hopen
    cases opened with
    | opening o => exact .inl hsame
    | opened conn' =>
        by_cases hconn : conn = conn'
        · subst hconn
          refine .inr ⟨.sending conn localError, ?_, .inl ⟨localError, rfl⟩⟩
          rw [hp] at hpoint
          have hk : Holds s.connections o.conn o.Stands := by
            have hheld := h.holds (some i)
            simp only [heldBy, hpoint, Option.bind_some] at hheld
            exact hheld.mono fun k hstands => hstands _ hpoint
          have hu : u.tunnelPoint i = some (.opening r localError o) :=
            (tunnelPoint_of_eq (open_turn none hk hopen).2.tunnels i).trans hpoint
          rw [tunnelPoint_setTunnel, if_pos rfl]
          exact congrArg (Option.map fun _ => TunnelPoint.sending conn localError) hu
        · exact .inl ((writtenOn_write hconn).trans hsame)
    | raised e => exact .inl hsame
  case h_9 conn' data hp =>
    cases hs
    by_cases hconn : conn = conn'
    · subst hconn
      rw [hp] at hpoint
      exact .inr ⟨_, hpoint, .inr rfl⟩
    · exact .inl (writtenOn_write hconn)
  case h_12 =>
    cases hs
    exact .inl writtenOn_close
  case h_1 =>
    split at hs
    · cases hs
      exact .inl rfl
    · cases hs
  all_goals
    cases hs
  all_goals exact .inl rfl

/-- What a step writes on the connection. -/
inductive Says (s t : ClientRun) (conn : Nat) : Prop
  | nothing (h : t.writtenOn conn = s.writtenOn conn)
  | control (h : t.control.Writes conn)
  | ping {b : Heartbeat} (time : PyFloat) (hb : s.heartbeat = some b) (hconn : b.conn = conn)
      (h : t.writtenOn conn = s.writtenOn conn ++ [.message (pingMessage time)])
  | tunnel (r : TunnelRequest) (localError : Option String) (time : PyFloat) (chunks : List Bytes)
      (h : t.writtenOn conn =
        .message (tunnelMessage r localError time) :: List.map Written.frames chunks)

theorem step_says {e : Event} (h : Orderly settings s) (hs : step settings s e = some t)
    (conn : Nat) : s.Says t conn := by
  cases e with
  | control e =>
      have hutters : s.Utters t conn := controlStep_utters hs
      rcases hutters with hsame | hwrites
      · exact .nothing hsame
      · exact .control hwrites
  | beat time =>
      have hs : s.beat time = some t := hs
      unfold beat at hs
      split at hs
      · rename_i conn' hbeat
        cases hs
        by_cases hconn : conn = conn'
        · subst hconn
          obtain ⟨k, hk, -⟩ := (h.heart _ hbeat).served
          refine .ping time hbeat rfl ?_
          simp only [writtenOn, write, Heap.get?_modify, if_true, hk, Option.map_some,
            Option.getD_some]
        · exact .nothing (writtenOn_write hconn)
      · cases hs
  | beatFailed =>
      obtain ⟨b, -, rfl⟩ := Option.map_eq_some_iff.mp hs
      exact .nothing rfl
  | tunnel i e =>
      obtain ⟨task, htask, hs'⟩ := Option.bind_eq_some_iff.mp hs
      rcases (tunnelStep_utters h htask hs' : t.writtenOn conn = s.writtenOn conn ∨ _) with
        hsame | ⟨point, ht, hpoint⟩
      · exact .nothing hsame
      · obtain ⟨r, localError, time, chunks, hwritten⟩ :=
          tunnel_written (step_advances h hs).orderly ht hpoint
        exact .tunnel r localError time chunks hwritten

/-- What was written stays. -/
theorem step_writtenOn {e : Event} (h : Orderly settings s) (hs : step settings s e = some t)
    (conn : Nat) : s.writtenOn conn <+: t.writtenOn conn := by
  cases hk : s.connections.get? conn with
  | none =>
      simp only [writtenOn, hk, Option.map_none, Option.getD_none]
      exact List.nil_prefix
  | some k =>
      obtain ⟨k', hk', -, hwritten, -⟩ := (step_advances h hs).later conn k hk
      simp only [writtenOn, hk, hk', Option.map_some, Option.getD_some]
      exact hwritten

theorem Orderly.conversation (h : Orderly settings s) (conn : Nat) :
    Conversation settings (s.writtenOn conn) := by
  cases hk : s.connections.get? conn with
  | none =>
      simp only [writtenOn, hk, Option.map_none, Option.getD_none]
      exact .silent
  | some k =>
      simp only [writtenOn, hk, Option.map_some, Option.getD_some]
      exact h.spoken conn k hk

/-- The heartbeat is the one that was there, or the connection has just been registered. -/
theorem step_heartbeat {e : Event} {b : Heartbeat} (h : Orderly settings s)
    (hs : step settings s e = some t) (hb : t.heartbeat = some b) :
    (∃ b', s.heartbeat = some b' ∧ b'.conn = b.conn) ∨ t.control = .serving b.conn := by
  cases e with
  | control e =>
      have hdoes := controlStep_does (h.holds none) (fun b hb => (h.heart b hb).attended) hs
      cases hbeat : s.heartbeat with
      | none =>
          rcases hdoes.begun hbeat with hnone | ⟨conn, hnew, hserving⟩
          · rw [hnone] at hb
            cases hb
          · rw [hnew] at hb
            cases hb
            exact .inr hserving
      | some b' =>
          rcases hdoes.attended b' hbeat (h.heart b' hbeat).attended with hnone | ⟨hsame, -⟩
          · rw [hnone] at hb
            cases hb
          · rw [hsame] at hb
            cases hb
            exact .inl ⟨b, rfl, rfl⟩
  | beat time =>
      have hs : s.beat time = some t := hs
      unfold beat at hs
      split at hs
      · cases hs
        exact .inl ⟨b, hb, rfl⟩
      · cases hs
  | beatFailed =>
      obtain ⟨b', hbeat, rfl⟩ := Option.map_eq_some_iff.mp hs
      cases hb
      exact .inl ⟨b', hbeat, rfl⟩
  | tunnel i e =>
      obtain ⟨task, htask, hs'⟩ := Option.bind_eq_some_iff.mp hs
      rw [(h.tunnelDoes htask hs').heartbeat] at hb
      exact .inl ⟨b, hb, rfl⟩

/-- What was written where the control task has just written. -/
theorem Orderly.writes (h : Orderly settings s) (hwrites : s.control.Writes conn) :
    s.control.conn = some conn ∧ (s.writtenOn conn = [.message helloMessage] ∨
      ∃ again, s.control = .register conn again ∧
        s.writtenOn conn = registration settings again) := by
  have hwritten : ∀ {w}, Holds s.connections (some conn) (fun k => k.closed = false ∧
      k.written = w) → s.writtenOn conn = w := by
    intro w hk
    obtain ⟨k, hget, -, hk⟩ := hk conn rfl
    rw [writtenOn, hget]
    exact hk
  have hholds : Holds s.connections s.control.conn (s.control.Stands settings) := h.holds none
  rcases hwrites with hpoint | ⟨again, hpoint⟩
  · rw [hpoint] at hholds
    exact ⟨by rw [hpoint]; rfl, .inl (hwritten hholds)⟩
  · rw [hpoint] at hholds
    exact ⟨by rw [hpoint]; rfl, .inr ⟨again, hpoint, hwritten hholds⟩⟩

end ClientRun

end PyFrp
