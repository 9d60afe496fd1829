import PyFrp.Protocol.Copies

/-!
# The two tasks of one call

`pipe_tunnel_streams` asks a task to end only if the other one has failed, or
if it is cancelled itself, and closes the writers when both tasks are done.
-/

namespace PyFrp

open Python

variable {t t' : ToTunnel} {u u' : FromTunnel}

def Copy.other : Copy → Copy
  | .toTunnel => .fromTunnel
  | .fromTunnel => .toTunnel

@[simp] theorem Copy.other_other (c : Copy) : c.other.other = c := by
  cases c <;> rfl

/-- The cancellation of a task was requested. -/
def Relay.cancelRequested (s : Relay) : Copy → Bool
  | .toTunnel => s.toTunnel.cancelling
  | .fromTunnel => s.fromTunnel.cancelling

/-- The call has closed a writer. -/
def Relay.closed (s : Relay) : Bool :=
  s.fromTunnel.writer.isClosing || s.toTunnel.writer.isClosing

/-- What a call of `pipe_tunnel_streams` knows of its tasks. -/
structure PipeOk (s : Relay) : Prop where
  waiting : ∀ pending, s.pipe = .wait pending → ∀ c, c ∉ pending → s.ended c = some .returned
  closing : s.pipe = .close ∨ s.closed = true → ∀ c, s.running c = false
  cancels : ∀ c, s.cancelRequested c = true →
    s.interrupted = true ∨ ∃ e, s.ended c.other = some (.raised e)
  thrown : ∀ c, s.ended c = some .cancelled → s.cancelRequested c = true
  interrupted : s.cancelling = true → s.interrupted = true

/-- What a step of a task leaves as it is. -/
theorem ToTunnel.step_frame {e : ToEvent} (hs : t.step e = some t') :
    t'.cancelling = t.cancelling ∧ t'.writer.isClosing = t.writer.isClosing ∧
      t.writer.written <+: t'.writer.written ∧
      (∀ r, t.ended = some r → t'.ended = some r) ∧
      (t'.ended = some .cancelled → t.ended = some .cancelled ∨ t.cancelling = true) := by
  cases e with
  | feed data =>
      obtain ⟨r, -, rfl⟩ := Option.map_eq_some_iff.mp hs
      exact ⟨rfl, rfl, List.prefix_rfl, fun _ h => h, .inl⟩
  | feedEof =>
      cases hs
      exact ⟨rfl, rfl, List.prefix_rfl, fun _ h => h, .inl⟩
  | lost e =>
      cases hs
      exact ⟨rfl, rfl, List.prefix_rfl, fun _ h => h, .inl⟩
  | read count =>
      simp only [ToTunnel.step] at hs
      split at hs
      · rename_i hp
        have hnone : t.ended = none := by simp [ToTunnel.ended, hp.1]
        rw [hnone]
        split at hs
        · rename_i chunk r hr
          cases hs
          unfold ToTunnel.copyToTunnel ToTunnel.send
          split <;> simp [ToTunnel.ended, StreamWriter.isClosing_push]
        · rename_i err r hr
          cases hs
          cases err <;> simp [ToTunnel.raise, ToTunnel.ended, hp.1]
        · cases hs
      · cases hs
  | drained error =>
      simp only [ToTunnel.step] at hs
      split at hs
      · rename_i last hp
        split at hs
        · cases hs
        · cases hs
          cases last <;> simp [ToTunnel.ended, hp]
      · rename_i last e hp
        split at hs
        · cases hs
        · cases hs
          simp [ToTunnel.ended, hp]
      · cases hs
  | throw =>
      simp only [ToTunnel.step] at hs
      split at hs
      · rename_i hp
        cases hs
        exact ⟨rfl, rfl, List.prefix_rfl, fun r hr => absurd (hp.2.symm.trans hr) (by simp),
          fun _ => .inr hp.1⟩
      · cases hs

theorem FromTunnel.step_frame {e : FromEvent} (hs : u.step e = some u')
    (hopen : e ≠ .read false) :
    u'.cancelling = u.cancelling ∧ u'.writer.isClosing = u.writer.isClosing ∧
      (u'.reader.fed = u.reader.fed ∨
        ∃ data, e = .feed data ∧ u'.reader.fed = u.reader.fed ++ data) ∧
      (∀ r, u.ended = some r → u'.ended = some r) ∧
      (u'.ended = some .cancelled → u.ended = some .cancelled ∨ u.cancelling = true) := by
  cases e with
  | feed data =>
      obtain ⟨r, hr, rfl⟩ := Option.map_eq_some_iff.mp hs
      obtain ⟨-, rfl⟩ := StreamReader.feedData_eq_some.mp hr
      exact ⟨rfl, rfl, .inr ⟨data, rfl, rfl⟩, fun _ h => h, .inl⟩
  | feedEof =>
      cases hs
      exact ⟨rfl, rfl, .inl rfl, fun _ h => h, .inl⟩
  | lost e =>
      cases hs
      exact ⟨rfl, rfl, .inl rfl, fun _ h => h, .inl⟩
  | read eofWritten =>
      cases eofWritten with
      | false => exact absurd rfl hopen
      | true =>
          simp only [FromTunnel.step] at hs
          split at hs
          · cases hs
          · unfold FromTunnel.copyFromTunnel at hs
            split at hs
            · rename_i hp
              have hnone : u.ended = none := by simp [FromTunnel.ended, hp]
              obtain ⟨res, hr, rfl⟩ := Option.map_eq_some_iff.mp hs
              rcases StreamReader.readexactly_cases hr with ⟨e, -, rfl⟩ | ⟨data, rest, -, -, rfl⟩ |
                ⟨-, -, rfl⟩
              · simp [FromTunnel.raise, FromTunnel.fail, FromTunnel.ended, hp]
              · dsimp only
                unfold FromTunnel.frameHeader
                simp only [↓reduceIte]
                repeat' split
                all_goals simp [FromTunnel.reject, FromTunnel.fail, FromTunnel.ended, hp,
                  StreamWriter.isClosing_push]
              · simp [FromTunnel.raise, FromTunnel.fail, FromTunnel.ended, hp]
            · rename_i n hp
              obtain ⟨res, hr, rfl⟩ := Option.map_eq_some_iff.mp hs
              rcases StreamReader.readexactly_cases hr with ⟨e, -, rfl⟩ | ⟨data, rest, -, -, rfl⟩ |
                ⟨-, -, rfl⟩
              · simp [FromTunnel.raise, FromTunnel.fail, FromTunnel.ended, hp]
              · simp [FromTunnel.framePayload, FromTunnel.ended, hp, StreamWriter.isClosing_push]
              · simp [FromTunnel.raise, FromTunnel.fail, FromTunnel.ended, hp]
            · cases hs
  | drained error =>
      simp only [FromTunnel.step] at hs
      split at hs
      · rename_i hp
        cases error <;> cases hs <;> simp [FromTunnel.fail, FromTunnel.ended, hp.1]
      · cases hs
  | throw =>
      simp only [FromTunnel.step] at hs
      split at hs
      · rename_i hp
        cases hs
        exact ⟨rfl, rfl, .inl rfl, fun r hr => absurd (hp.2.symm.trans hr) (by simp),
          fun _ => .inr hp.1⟩
      · cases hs

/-- The relay with other requests for cancellation. -/
def Relay.withRequests (s : Relay) (a b : Bool) : Relay :=
  { s with
    toTunnel := { s.toTunnel with cancelling := a }
    fromTunnel := { s.fromTunnel with cancelling := b } }

@[simp] theorem Relay.withRequests_ended (s : Relay) (a b : Bool) (c : Copy) :
    (s.withRequests a b).ended c = s.ended c := by
  cases c <;> rfl

@[simp] theorem Relay.withRequests_running (s : Relay) (a b : Bool) (c : Copy) :
    (s.withRequests a b).running c = s.running c := by
  rw [running, withRequests_ended, running]

/-- The requests that are new are for running tasks of the list. -/
def Relay.Requests (s : Relay) (pending : List Copy) (a b : Bool) : Prop :=
  ∀ c, (s.cancelRequested c = true → (s.withRequests a b).cancelRequested c = true) ∧
    ((s.withRequests a b).cancelRequested c = true →
      s.cancelRequested c = true ∨ (c ∈ pending ∧ s.running c = true))

theorem Relay.Requests.refl (s : Relay) (pending : List Copy) :
    s.Requests pending s.toTunnel.cancelling s.fromTunnel.cancelling :=
  fun _ => ⟨id, .inl⟩

theorem Relay.cancelTask_eq (s : Relay) (c : Copy) :
    ∃ a b, s.cancelTask c = s.withRequests a b ∧ s.Requests [c] a b := by
  cases c with
  | toTunnel =>
      unfold cancelTask
      dsimp only
      split
      · rename_i hr
        refine ⟨true, s.fromTunnel.cancelling, rfl, fun c => ?_⟩
        cases c with
        | toTunnel => exact ⟨fun _ => rfl, fun _ => .inr ⟨.head _, hr⟩⟩
        | fromTunnel => exact ⟨id, .inl⟩
      · exact ⟨_, _, rfl, .refl s _⟩
  | fromTunnel =>
      unfold cancelTask
      dsimp only
      split
      · rename_i hr
        refine ⟨s.toTunnel.cancelling, true, rfl, fun c => ?_⟩
        cases c with
        | toTunnel => exact ⟨id, .inl⟩
        | fromTunnel => exact ⟨fun _ => rfl, fun _ => .inr ⟨.head _, hr⟩⟩
      · exact ⟨_, _, rfl, .refl s _⟩

/-- `task.cancel()` on some tasks requests the cancellation of those that run. -/
theorem Relay.foldl_cancelTask (pending : List Copy) (s : Relay) :
    ∃ a b, pending.foldl Relay.cancelTask s = s.withRequests a b ∧ s.Requests pending a b := by
  induction pending generalizing s with
  | nil => exact ⟨_, _, rfl, .refl s _⟩
  | cons c pending ih =>
      obtain ⟨a, b, heq, hab⟩ := s.cancelTask_eq c
      obtain ⟨a', b', heq', hab'⟩ := ih (s.cancelTask c)
      rw [List.foldl_cons, heq']
      rw [heq] at hab' ⊢
      refine ⟨a', b', rfl, fun d => ⟨fun h => (hab' d).1 ((hab d).1 h), fun h => ?_⟩⟩
      rcases (hab' d).2 h with h | ⟨hmem, hr⟩
      · rcases (hab d).2 h with h | ⟨hmem, hr⟩
        · exact .inl h
        · exact .inr ⟨List.mem_singleton.mp hmem ▸ .head _, hr⟩
      · exact .inr ⟨.tail _ hmem, by simpa using hr⟩

/-- The end of the loop changes the point, and the requests for the pending tasks. -/
theorem Relay.afterLoop_eq (s : Relay) (pending : List Copy) (raising : Bool) :
    ∃ a b p, s.afterLoop pending raising = { s.withRequests a b with pipe := p } ∧
      s.Requests pending a b ∧ (∀ pending', p ≠ .wait pending') ∧
      (p = .close → pending = []) := by
  unfold afterLoop
  split
  · refine ⟨_, _, _, rfl, .refl s _, ?_, fun _ => rfl⟩
    cases raising <;> simp
  · obtain ⟨a, b, heq, hreq⟩ := foldl_cancelTask pending s
    exact ⟨a, b, .gather raising, by rw [heq], hreq, by simp, by simp⟩

/-! ## The invariant of one relay -/

theorem ToOk.rewrite {w : StreamWriter} {b : Bool} (h : ToOk t)
    (hw : w.written = t.writer.written) : ToOk { t with writer := w, cancelling := b } :=
  ⟨hw.trans h.written, h.valid, h.bytes, h.last, h.order, h.unfinished, h.finished⟩

theorem FromOk.request {b : Bool} (h : FromOk u) : FromOk { u with cancelling := b } :=
  ⟨h.stream, h.valid, h.log, h.last, h.returned⟩

theorem FromOk.close (h : FromOk u) (hdone : u.ended ≠ none) :
    FromOk { u with writer := u.writer.closeOnce } := by
  refine ⟨h.stream, h.valid, ?_, h.last, h.returned⟩
  obtain ⟨n, hlog, -⟩ := h.log
  unfold StreamWriter.closeOnce
  split
  · exact ⟨n, hlog, fun hnone => absurd hnone hdone⟩
  · exact ⟨n + 1, by simp [hlog, List.replicate_succ'], fun hnone => absurd hnone hdone⟩

structure RelayOk (s : Relay) : Prop where
  sender : ToOk s.toTunnel
  receiver : FromOk s.fromTunnel
  pipe : PipeOk s

/-- The writers are closed by the call. -/
def Relay.closeWriters (s : Relay) : Relay :=
  { s with
    fromTunnel := { s.fromTunnel with writer := s.fromTunnel.writer.closeOnce }
    toTunnel := { s.toTunnel with writer := s.toTunnel.writer.closeOnce }
    pipe := .waitClosed }

theorem Relay.round_eq (s : Relay) (pending : List Copy) :
    ∃ a b p, s.round pending = { s.withRequests a b with pipe := p } := by
  unfold round
  dsimp only
  split
  · obtain ⟨a, b, p, heq, -⟩ := s.afterLoop_eq (pending.filter fun c => s.running c) true
    exact ⟨a, b, p, heq⟩
  · split
    · obtain ⟨a, b, p, heq, -⟩ := s.afterLoop_eq (pending.filter fun c => s.running c) false
      exact ⟨a, b, p, heq⟩
    · split <;> exact ⟨_, _, _, rfl⟩

/-- What the call does when it is resumed. -/
theorem Relay.pipeTunnelStreams_cases {s s' : Relay} (hs : s.pipeTunnelStreams = some s') :
    (∃ pending, s.pipe = .wait pending ∧ s' = s.round pending) ∨
      (∃ raising, s.pipe = .gather raising ∧ (∀ c, s.running c = false) ∧
        s' = { s with pipe := if raising then .cancelled else .close }) ∨
      (s.pipe = .close ∧ s' = s.closeWriters) ∨
      (s.pipe = .waitClosed ∧ s' = { s with pipe := .finished }) := by
  unfold pipeTunnelStreams at hs
  split at hs
  · rename_i pending hp
    split at hs
    · cases hs
      exact .inl ⟨pending, hp, rfl⟩
    · cases hs
  · rename_i raising hp
    split at hs
    · cases hs
    · rename_i hrun
      cases hs
      refine .inr (.inl ⟨raising, hp, fun c => ?_, rfl⟩)
      cases c <;> simp_all
  · rename_i hp
    cases hs
    exact .inr (.inr (.inl ⟨hp, rfl⟩))
  · rename_i hp
    cases hs
    exact .inr (.inr (.inr ⟨hp, rfl⟩))
  · cases hs
  · cases hs

/-- What the call does when it is cancelled. -/
theorem Relay.throwPipe_cases {s s' : Relay} (hs : s.throwPipe = some s') :
    (∃ pending, s.pipe = .wait pending ∧
        s' = { s.afterLoop pending true with cancelling := false }) ∨
      s' = { s with pipe := .cancelled, cancelling := false } := by
  unfold throwPipe at hs
  split at hs
  · rename_i pending hp
    cases hs
    exact .inl ⟨pending, hp, rfl⟩
  · split at hs
    · cases hs
    · cases hs
      exact .inr rfl
  · cases hs
    exact .inr rfl
  · cases hs
    exact .inr rfl
  · cases hs
  · cases hs

/-- The call changes the requests for its tasks, or closes the writers. -/
theorem Relay.step_call {s s' : Relay} {e : RelayEvent} (hs : s.step e = some s')
    (hto : ∀ a, e ≠ .toTunnel a) (hfrom : ∀ a, e ≠ .fromTunnel a) :
    (∃ a b p k i, s' = { s.withRequests a b with pipe := p, cancelling := k, interrupted := i }) ∨
      (s.pipe = .close ∧ s' = s.closeWriters) := by
  cases e with
  | toTunnel a => exact absurd rfl (hto a)
  | fromTunnel a => exact absurd rfl (hfrom a)
  | go =>
      simp only [step] at hs
      split at hs
      · cases hs
      · rcases pipeTunnelStreams_cases hs with
          ⟨pending, -, rfl⟩ | ⟨raising, -, -, rfl⟩ | ⟨hp, rfl⟩ | ⟨-, rfl⟩
        · obtain ⟨a, b, p, heq⟩ := s.round_eq pending
          exact .inl ⟨a, b, p, _, _, heq⟩
        · exact .inl ⟨_, _, _, _, _, rfl⟩
        · exact .inr ⟨hp, rfl⟩
        · exact .inl ⟨_, _, _, _, _, rfl⟩
  | throw =>
      simp only [step] at hs
      split at hs
      · rcases throwPipe_cases hs with ⟨pending, -, rfl⟩ | rfl
        · obtain ⟨a, b, p, heq, -⟩ := s.afterLoop_eq pending true
          exact .inl ⟨a, b, p, false, _, by rw [heq]⟩
        · exact .inl ⟨_, _, _, _, _, rfl⟩
      · cases hs
  | cancel task =>
      cases task with
      | none =>
          cases hs
          exact .inl ⟨_, _, _, _, _, rfl⟩
      | some c =>
          cases hs
          obtain ⟨a, b, heq, -⟩ := s.cancelTask_eq c
          exact .inl ⟨a, b, _, _, true, by rw [heq]⟩

theorem Relay.ended_of_not_running {s : Relay} {c : Copy} (h : s.running c = false) :
    ∃ r, s.ended c = some r := by
  simpa [running, Option.isSome_iff_exists] using h

/-- A step of a task. -/
theorem PipeOk.task {s s' : Relay} (h : PipeOk s) (hpipe : s'.pipe = s.pipe)
    (hk : s'.cancelling = s.cancelling) (hi : s'.interrupted = s.interrupted)
    (hclosed : s'.closed = s.closed) (hreq : ∀ c, s'.cancelRequested c = s.cancelRequested c)
    (hend : ∀ c r, s.ended c = some r → s'.ended c = some r)
    (hcancel : ∀ c, s'.ended c = some .cancelled →
      s.ended c = some .cancelled ∨ s.cancelRequested c = true) : PipeOk s' where
  waiting pending hp c hc := hend c _ (h.waiting pending (hpipe ▸ hp) c hc)
  closing hp c := by
    rw [hpipe, hclosed] at hp
    obtain ⟨r, hr⟩ := Relay.ended_of_not_running (h.closing hp c)
    simp [Relay.running, hend c r hr]
  cancels c hc := by
    rw [hreq] at hc
    rw [hi]
    rcases h.cancels c hc with hc | ⟨e, he⟩
    · exact .inl hc
    · exact .inr ⟨e, hend _ _ he⟩
  thrown c hc := by
    rw [hreq]
    rcases hcancel c hc with hc | hc
    · exact h.thrown c hc
    · exact hc
  interrupted hc := by
    rw [hk] at hc
    rw [hi]
    exact h.interrupted hc

/-- A step of the call that closes nothing. -/
theorem PipeOk.call {s : Relay} {a b k i : Bool} {p : PipePoint} {pending : List Copy}
    (h : PipeOk s) (hreq : s.Requests pending a b)
    (hnew : i = true ∨ ∀ c ∈ pending, s.running c → ∃ e, s.ended c.other = some (.raised e))
    (hi : s.interrupted = true → i = true) (hk : k = true → i = true)
    (hwait : ∀ pending', p = .wait pending' → ∀ c, c ∉ pending' → s.ended c = some .returned)
    (hclose : p = .close → ∀ c, s.running c = false) :
    PipeOk { s.withRequests a b with pipe := p, cancelling := k, interrupted := i } where
  waiting pending' hp c hc := (s.withRequests_ended a b c).trans (hwait pending' hp c hc)
  closing hp c := by
    refine (s.withRequests_running a b c).trans ?_
    rcases hp with hp | hp
    · exact hclose hp c
    · exact h.closing (.inr hp) c
  cancels c hc := by
    rcases (hreq c).2 hc with hold | ⟨hmem, hrun⟩
    · rcases h.cancels c hold with hint | ⟨e, he⟩
      · exact .inl (hi hint)
      · exact .inr ⟨e, (s.withRequests_ended a b _).trans he⟩
    · rcases hnew with hnew | hnew
      · exact .inl hnew
      · obtain ⟨e, he⟩ := hnew c hmem hrun
        exact .inr ⟨e, (s.withRequests_ended a b _).trans he⟩
  thrown c hc := (hreq c).1 (h.thrown c ((s.withRequests_ended a b c).symm.trans hc))
  interrupted hc := hk hc

/-- The call goes on to a point, without another request. -/
theorem PipeOk.goto {s : Relay} {k : Bool} {p : PipePoint} (h : PipeOk s)
    (hk : k = true → s.interrupted = true)
    (hwait : ∀ pending, p = .wait pending → ∀ c, c ∉ pending → s.ended c = some .returned)
    (hclose : p = .close → ∀ c, s.running c = false) :
    PipeOk { s with pipe := p, cancelling := k } :=
  h.call (.refl s []) (.inr fun _ hmem => absurd hmem List.not_mem_nil) id hk hwait hclose

/-- A round of the loop. -/
theorem PipeOk.round {s : Relay} {pending : List Copy} (h : PipeOk s)
    (hpipe : s.pipe = .wait pending) : PipeOk (s.round pending) := by
  have hother : ∀ {c d : Copy}, s.running c = false → s.running d = true → d.other = c := by
    intro c d hc hd
    cases c <;> cases d <;> simp_all [Copy.other]
  have hrest : pending.filter (fun c => s.running c) = [] → ∀ c, s.running c = false := by
    intro hnil c
    by_cases hc : c ∈ pending
    · simpa using List.filter_eq_nil_iff.mp hnil c hc
    · simp [Relay.running, h.waiting pending hpipe c hc]
  unfold Relay.round
  dsimp only
  split
  · rename_i hany
    obtain ⟨d, hd, hdone⟩ := List.any_eq_true.mp hany
    have hrun : s.running d = false := by simpa using (List.mem_filter.mp hd).2
    have hended : s.ended d = some .cancelled := of_decide_eq_true hdone
    obtain ⟨a, b, p, heq, hreq, hwait, hclose⟩ := s.afterLoop_eq (pending.filter s.running) true
    rw [heq]
    refine h.call hreq ?_ id h.interrupted (fun _ hp => absurd hp (hwait _))
      fun hp => hrest (hclose hp)
    -- a task ends so if it was asked to, and then the other one has failed
    rcases h.cancels d (h.thrown d hended) with hint | ⟨e, he⟩
    · exact .inl hint
    · refine .inr fun c _ hc => ?_
      rw [← hother hrun hc, Copy.other_other] at he
      simp [Relay.running, he] at hc
  · rename_i hnone
    split
    · rename_i hany
      obtain ⟨d, hd, hdone⟩ := List.any_eq_true.mp hany
      have hrun : s.running d = false := by simpa using (List.mem_filter.mp hd).2
      have hreturned : s.ended d ≠ some .returned := of_decide_eq_true hdone
      obtain ⟨a, b, p, heq, hreq, hwait, hclose⟩ := s.afterLoop_eq (pending.filter s.running) false
      rw [heq]
      refine h.call hreq ?_ id h.interrupted (fun _ hp => absurd hp (hwait _))
        fun hp => hrest (hclose hp)
      refine .inr fun c _ hc => ?_
      rw [hother hrun hc]
      obtain ⟨r, hr⟩ := Relay.ended_of_not_running hrun
      cases r with
      | returned => exact absurd hr hreturned
      | raised e => exact ⟨e, hr⟩
      | cancelled => exact absurd (List.any_eq_true.mpr ⟨d, hd, decide_eq_true hr⟩) hnone
    · rename_i hall
      split
      · rename_i hnil
        exact h.goto h.interrupted (fun _ hp => absurd hp (by simp)) fun _ => hrest hnil
      · refine h.goto h.interrupted ?_ (fun hp => absurd hp (by simp))
        intro pending' hp c hc
        cases hp
        by_cases hmem : c ∈ pending
        · have hrun : s.running c = false := by
            simpa [hmem] using hc
          by_contra hne
          exact hall (List.any_eq_true.mpr
            ⟨c, List.mem_filter.mpr ⟨hmem, by simp [hrun]⟩, decide_eq_true hne⟩)
        · exact h.waiting pending hpipe c hmem

/-- A `drain` or a `write_eof` on the plain side fails. -/
def RelayEvent.plainFails : RelayEvent → Bool
  | .fromTunnel (.read false) | .fromTunnel (.drained (some _)) => true
  | _ => false

/-- The plain side is open: `write`, `drain` and `write_eof` succeed. -/
abbrev PlainStep (e : RelayEvent) : Prop := e.plainFails = false

theorem PlainStep.spec {e : RelayEvent} (h : PlainStep e) :
    e ≠ .fromTunnel (.read false) ∧ ∀ err, e ≠ .fromTunnel (.drained (some err)) := by
  constructor
  · rintro rfl
    cases h
  · rintro err rfl
    cases h

theorem PipeOk.step {s s' : Relay} {e : RelayEvent} (h : PipeOk s) (hs : s.step e = some s')
    (hopen : PlainStep e) : PipeOk s' := by
  cases e with
  | toTunnel a =>
      obtain ⟨t, ht, rfl⟩ := Option.map_eq_some_iff.mp hs
      obtain ⟨hk, hclosing, -, hend, hcancel⟩ := ToTunnel.step_frame ht
      refine h.task rfl rfl rfl ?_ ?_ ?_ ?_
      · simp [Relay.closed, hclosing]
      · rintro (_ | _)
        · exact hk
        · rfl
      · rintro (_ | _)
        · exact hend
        · exact fun _ hr => hr
      · rintro (_ | _)
        · exact hcancel
        · exact .inl
  | fromTunnel a =>
      obtain ⟨t, ht, rfl⟩ := Option.map_eq_some_iff.mp hs
      obtain ⟨hk, hclosing, -, hend, hcancel⟩ :=
        FromTunnel.step_frame ht fun ha => hopen.spec.1 (congrArg _ ha)
      refine h.task rfl rfl rfl ?_ ?_ ?_ ?_
      · simp [Relay.closed, hclosing]
      · rintro (_ | _)
        · rfl
        · exact hk
      · rintro (_ | _)
        · exact fun _ hr => hr
        · exact hend
      · rintro (_ | _)
        · exact .inl
        · exact hcancel
  | go =>
      simp only [Relay.step] at hs
      split at hs
      · cases hs
      · rcases Relay.pipeTunnelStreams_cases hs with
          ⟨pending, hp, rfl⟩ | ⟨raising, -, hrun, rfl⟩ | ⟨hp, rfl⟩ | ⟨-, rfl⟩
        · exact h.round hp
        · refine h.goto h.interrupted ?_ fun _ => hrun
          intro pending' hp
          split at hp <;> cases hp
        · exact ⟨fun _ hp => absurd hp (by simp [Relay.closeWriters]), fun _ => h.closing (.inl hp),
            h.cancels, h.thrown, h.interrupted⟩
        · exact h.goto h.interrupted (fun _ hp => absurd hp (by simp))
            fun hp => absurd hp (by simp)
  | throw =>
      simp only [Relay.step] at hs
      split at hs
      · rename_i hk
        have hi := h.interrupted hk
        rcases Relay.throwPipe_cases hs with ⟨pending, hp, rfl⟩ | rfl
        · obtain ⟨a, b, p, heq, hreq, hwait, hclose⟩ := s.afterLoop_eq pending true
          rw [heq]
          refine h.call hreq (.inl hi) id (fun hk => absurd hk (by simp))
            (fun _ hp' => absurd hp' (hwait _)) fun hp' c => ?_
          have hended := h.waiting pending hp c (by simp [hclose hp'])
          simp [Relay.running, hended]
        · exact h.goto (fun hk => absurd hk (by simp)) (fun _ hp => absurd hp (by simp))
            fun hp => absurd hp (by simp)
      · cases hs
  | cancel task =>
      cases task with
      | none =>
          cases hs
          exact ⟨h.waiting, h.closing, fun _ _ => .inl rfl, h.thrown, fun _ => rfl⟩
      | some c =>
          cases hs
          obtain ⟨a, b, heq, hreq⟩ := s.cancelTask_eq c
          rw [heq]
          exact h.call hreq (.inl rfl) (fun _ => rfl) (fun _ => rfl) h.waiting
            fun hp => h.closing (.inl hp)

theorem RelayOk.start : RelayOk (.start .empty .empty .empty .empty) where
  sender := .start
  receiver := .start
  pipe := by
    refine ⟨?_, ?_, ?_, ?_, ?_⟩
    · intro pending hp c hc
      cases hp
      cases c <;> simp at hc
    · simp [Relay.start, Relay.closed, StreamWriter.isClosing, ToTunnel.start, FromTunnel.start,
        StreamWriter.empty]
    · rintro (_ | _) hc <;> cases hc
    · rintro (_ | _) hc <;> cases hc
    · intro hk
      cases hk

theorem RelayOk.step {s s' : Relay} {e : RelayEvent} (h : RelayOk s) (hs : s.step e = some s')
    (hopen : PlainStep e) : RelayOk s' := by
  have hcall (hto : ∀ a, e ≠ .toTunnel a) (hfrom : ∀ a, e ≠ .fromTunnel a) :
      ToOk s'.toTunnel ∧ FromOk s'.fromTunnel := by
    rcases Relay.step_call hs hto hfrom with ⟨a, b, p, k, i, rfl⟩ | ⟨hp, rfl⟩
    · exact ⟨h.sender.rewrite rfl, h.receiver.request⟩
    · refine ⟨h.sender.rewrite (StreamWriter.written_closeOnce _), h.receiver.close ?_⟩
      intro hnone
      have hrun : s.running .fromTunnel = false := h.pipe.closing (.inl hp) _
      simp [Relay.running, Relay.ended, hnone] at hrun
  refine ⟨?_, ?_, h.pipe.step hs hopen⟩
  · cases e with
    | toTunnel a =>
        obtain ⟨t, ht, rfl⟩ := Option.map_eq_some_iff.mp hs
        exact h.sender.step ht
    | fromTunnel a =>
        obtain ⟨t, ht, rfl⟩ := Option.map_eq_some_iff.mp hs
        exact h.sender
    | go => exact (hcall (by simp) (by simp)).1
    | throw => exact (hcall (by simp) (by simp)).1
    | cancel task => exact (hcall (by simp) (by simp)).1
  · cases e with
    | toTunnel a =>
        obtain ⟨t, ht, rfl⟩ := Option.map_eq_some_iff.mp hs
        exact h.receiver
    | fromTunnel a =>
        obtain ⟨t, ht, rfl⟩ := Option.map_eq_some_iff.mp hs
        exact h.receiver.step ht
          ⟨fun ha => hopen.spec.1 (congrArg _ ha), fun err ha => hopen.spec.2 err (congrArg _ ha)⟩
    | go => exact (hcall (by simp) (by simp)).2
    | throw => exact (hcall (by simp) (by simp)).2
    | cancel task => exact (hcall (by simp) (by simp)).2

end PyFrp
