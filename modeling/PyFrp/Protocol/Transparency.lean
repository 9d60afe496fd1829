import PyFrp.Protocol.Pipe

/-!
# The relay is transparent

What one end writes to its plain side is the beginning of what the other end
read from its plain side, and all of it just if the frames arrived completely.
The two directions do not disturb each other.
-/

namespace PyFrp

open Python Coding Coop

/-! ## The two ends of a tunnel -/

@[simp] theorem Side.other_other (i : Side) : i.other.other = i := by
  cases i <;> rfl

theorem Side.other_ne (i : Side) : i.other ≠ i := by
  cases i <;> simp [other]

/-- The steps that leave the plain sides open. -/
def PlainOpen (_ : Link) (a : Side × RelayEvent) : Prop := PlainStep a.2

/-- What arrives at one end is the beginning of what the other end has written. -/
structure LinkOk (l : Link) : Prop where
  relay : ∀ i, RelayOk (l i)
  carried : ∀ i, (l i.other).fromTunnel.reader.fed <+: (l i).toTunnel.writer.written

theorem Relay.step_written {s s' : Relay} {e : RelayEvent} (hs : s.step e = some s') :
    s.toTunnel.writer.written <+: s'.toTunnel.writer.written := by
  by_cases hto : ∃ a, e = .toTunnel a
  · obtain ⟨a, rfl⟩ := hto
    obtain ⟨t, ht, rfl⟩ := Option.map_eq_some_iff.mp hs
    exact (ToTunnel.step_frame ht).2.2.1
  · by_cases hfrom : ∃ a, e = .fromTunnel a
    · obtain ⟨a, rfl⟩ := hfrom
      obtain ⟨t, ht, rfl⟩ := Option.map_eq_some_iff.mp hs
      exact List.prefix_rfl
    · rcases step_call hs (fun a ha => hto ⟨a, ha⟩) (fun a ha => hfrom ⟨a, ha⟩) with
        ⟨a, b, p, k, i, rfl⟩ | ⟨-, rfl⟩
      · exact List.prefix_rfl
      · simp [closeWriters]

/-- The reader of the tunnel is fed what the transport delivers. -/
theorem Relay.step_fed {far s s' : Relay} {e : RelayEvent} (hs : s.step e = some s')
    (hopen : PlainStep e) (hdelivers : delivers far s e = true)
    (h : s.fromTunnel.reader.fed <+: far.toTunnel.writer.written) :
    s'.fromTunnel.reader.fed <+: far.toTunnel.writer.written := by
  by_cases hfrom : ∃ a, e = .fromTunnel a
  · obtain ⟨a, rfl⟩ := hfrom
    obtain ⟨t, ht, rfl⟩ := Option.map_eq_some_iff.mp hs
    rcases (FromTunnel.step_frame ht fun ha => hopen.spec.1 (congrArg _ ha)).2.2.1 with hfed |
      ⟨data, rfl, hfed⟩
    · exact hfed ▸ h
    · rw [hfed]
      exact List.isPrefixOf_iff_prefix.mp hdelivers
  · by_cases hto : ∃ a, e = .toTunnel a
    · obtain ⟨a, rfl⟩ := hto
      obtain ⟨t, ht, rfl⟩ := Option.map_eq_some_iff.mp hs
      exact h
    · rcases step_call hs (fun a ha => hto ⟨a, ha⟩) (fun a ha => hfrom ⟨a, ha⟩) with
        ⟨a, b, p, k, i, rfl⟩ | ⟨-, rfl⟩
      · exact h
      · exact h

theorem LinkOk.step {l l' : Link} {a : Side × RelayEvent} (hl : LinkOk l) (hopen : PlainOpen l a)
    (hs : relaySystem.step l a = some l') : LinkOk l' := by
  obtain ⟨i, e⟩ := a
  simp only [relaySystem] at hs
  split at hs
  · rename_i hdelivers
    obtain ⟨s, hstep, rfl⟩ := Option.map_eq_some_iff.mp hs
    refine ⟨fun j => ?_, fun j => ?_⟩
    · by_cases hj : j = i
      · subst hj
        simpa using (hl.relay j).step hstep hopen
      · simpa [hj] using hl.relay j
    · by_cases hj : j = i
      · subst hj
        simpa [j.other_ne] using (hl.carried j).trans (Relay.step_written hstep)
      · have hi : i = j.other := by
          cases i <;> cases j <;> simp_all [Side.other]
        subst hi
        simp only [Side.other_other] at hdelivers
        simpa [hj] using Relay.step_fed hstep hopen hdelivers (hl.carried j)
  · cases hs

theorem LinkOk.of_reachable {l : Link} (h : relaySystem.ReachableUnder PlainOpen l) :
    LinkOk l :=
  h.invariant ⟨fun _ => .start, fun _ => List.prefix_rfl⟩ fun _ _ _ _ hl hopen hs =>
    hl.step hopen hs

/-- The bytes read from the plain side. -/
def ToTunnel.bytesRead (t : ToTunnel) : Bytes :=
  t.reader.fed.take (t.reader.fed.length - t.reader.buffer.length)

theorem ToOk.bytesRead {t : ToTunnel} (h : ToOk t) :
    t.bytesRead = t.sent.flatMap Frame.payload := by
  rw [ToTunnel.bytesRead, ← h.bytes, List.length_append, Nat.add_sub_cancel, List.take_left]

/-- The frames that the end `i` sends have all arrived, the EOF frame included. -/
def Complete (l : Link) (i : Side) : Prop :=
  .eof ∈ (l i).toTunnel.sent ∧ (l i.other).fromTunnel.reader.fed = (l i).toTunnel.writer.written

theorem written_map_op (fs : List Frame) (n : Nat) :
    StreamWriter.written ⟨fs.map Frame.op ++ List.replicate n .close⟩ = fs.flatMap Frame.payload := by
  induction fs with
  | nil => simp [StreamWriter.written]
  | cons f fs ih =>
      cases f <;> simpa [StreamWriter.written, Frame.op, Frame.payload] using ih

theorem FromOk.written {u : FromTunnel} (h : FromOk u) :
    u.writer.written = u.received.flatMap Frame.payload := by
  obtain ⟨n, hlog, -⟩ := h.log
  rw [show u.writer = ⟨_⟩ from congrArg StreamWriter.mk hlog]
  exact written_map_op u.received n

theorem FromOk.mem_writeEof {u : FromTunnel} (h : FromOk u) :
    .writeEof ∈ u.writer.log ↔ u.ended = some .returned := by
  obtain ⟨n, hlog, -⟩ := h.log
  have hreturned : u.point = .done .returned ↔ u.ended = some .returned := by
    cases hp : u.point <;> simp [FromTunnel.ended, hp]
  rw [← hreturned, ← h.returned, hlog]
  simp only [List.mem_append, List.mem_map, List.mem_replicate]
  constructor
  · rintro (⟨f, hf, hop⟩ | ⟨-, hop⟩)
    · cases f with
      | data p => cases hop
      | eof => exact hf
    · cases hop
  · exact fun hmem => .inl ⟨.eof, hmem, rfl⟩

/-- The frames received are the first ones sent, and the rest has not arrived completely. -/
theorem LinkOk.frames {l : Link} (h : LinkOk l) (i : Side) :
    ∃ zs x, (l i).toTunnel.sent = (l i.other).fromTunnel.received ++ zs ∧
      (l i.other).fromTunnel.received.flatMap Frame.encode ++ x =
        (l i.other).fromTunnel.reader.fed ∧
      x <+: zs.flatMap Frame.encode ∧ FromRest (l i.other).fromTunnel x := by
  obtain ⟨x, hx, hrest⟩ := (h.relay i.other).receiver.stream
  have hcarried := h.carried i
  rw [← hx, (h.relay i).sender.written] at hcarried
  obtain ⟨zs, hsent, hprefix⟩ := Frame.prefixCode.rest_of_flatMap
    (h.relay i.other).receiver.valid (h.relay i).sender.valid hcarried
  exact ⟨zs, x, hsent, hx, hprefix, hrest⟩

theorem LinkOk.rest_eq {l : Link} {i : Side} {zs : List Frame} {x : Bytes} (h : LinkOk l)
    (hc : Complete l i) (hsent : (l i).toTunnel.sent = (l i.other).fromTunnel.received ++ zs)
    (hx : (l i.other).fromTunnel.received.flatMap Frame.encode ++ x =
      (l i.other).fromTunnel.reader.fed) : x = zs.flatMap Frame.encode := by
  have heq := hc.2
  rw [← hx, (h.relay i).sender.written, hsent, List.flatMap_append] at heq
  exact List.append_cancel_left heq

/-- The EOF frame has arrived just if all frames have. -/
theorem LinkOk.complete_of_returned {l : Link} (h : LinkOk l) (i : Side)
    (hr : (l i.other).fromTunnel.ended = some .returned) :
    Complete l i ∧ (l i).toTunnel.sent = (l i.other).fromTunnel.received := by
  obtain ⟨zs, x, hsent, hx, hprefix, -⟩ := h.frames i
  have hreceiver := (h.relay i.other).receiver
  have hmem : .eof ∈ (l i.other).fromTunnel.received := by
    rw [hreceiver.returned]
    cases hp : (l i.other).fromTunnel.point <;> simp_all [FromTunnel.ended]
  have hmem' : .eof ∈ (l i).toTunnel.sent := hsent ▸ List.mem_append_left zs hmem
  obtain ⟨fs, hfs, hno⟩ := (h.relay i).sender.order hmem'
  -- nothing is sent after the EOF frame
  have hzs : zs = [] := by
    rcases List.eq_nil_or_concat zs with hzs | ⟨zs', f, rfl⟩
    · exact hzs
    · rw [hfs, List.concat_eq_append, ← List.append_assoc] at hsent
      obtain ⟨rfl, -⟩ := List.append_inj' hsent rfl
      exact absurd (List.mem_append_left zs' hmem) hno
  subst hzs
  rw [List.append_nil] at hsent
  have hnil : x = [] := by simpa using hprefix
  refine ⟨⟨hmem', ?_⟩, hsent⟩
  rw [(h.relay i).sender.written, hsent, ← hx, hnil, List.append_nil]

/-- A task that fails met an exception of the transport, or the end of file in
the middle of a frame. It never meets bytes that are no frame. -/
theorem LinkOk.raised {l : Link} (h : LinkOk l) (i : Side) {e : RelayError}
    (hr : (l i.other).fromTunnel.ended = some (.raised e)) :
    ((l i.other).fromTunnel.reader.exception.isSome = true ∧ ∃ err, e = .transport err) ∨
      ((l i.other).fromTunnel.reader.eof = true ∧ ¬ Complete l i ∧
        ∃ text, e = .transport (.connection text)) := by
  obtain ⟨zs, x, hsent, hx, hprefix, hrest⟩ := h.frames i
  have hreceiver := (h.relay i.other).receiver
  have hvalid : ∀ f ∈ zs, f.Ok := fun f hf =>
    (h.relay i).sender.valid f (hsent ▸ List.mem_append_right _ hf)
  have hp : (l i.other).fromTunnel.point = .done (.raised e) := by
    cases hp : (l i.other).fromTunnel.point <;> simp_all [FromTunnel.ended]
  simp only [FromRest, hp] at hrest
  rcases hrest with hexc | ⟨heof, hno, htext⟩ | ⟨hlen, hno⟩
  · exact .inl hexc
  · refine .inr ⟨heof, fun hc => ?_, htext⟩
    have hmem : .eof ∈ zs := by
      have hmem := hc.1
      rw [hsent, List.mem_append] at hmem
      refine hmem.resolve_left fun hmem => ?_
      rw [hreceiver.returned, hp] at hmem
      cases hmem
    have hxz := h.rest_eq hc hsent hx
    cases zs with
    | nil => cases hmem
    | cons f zs => exact hno f (hvalid f (.head _)) (hxz ▸ List.prefix_append _ _)
  · cases zs with
    | nil => simp [List.prefix_nil.mp hprefix] at hlen
    | cons f zs =>
        refine absurd ?_ (hno f (hvalid f (.head _)))
        refine List.prefix_of_prefix_length_le ((List.take_prefix 5 x).trans hprefix)
          (List.prefix_append _ _) ?_
        exact Nat.le_trans (List.length_take_le 5 x) f.length_encode

/-! ## The receiver goes on -/

/-- How much a receiver has left to do. -/
def FromTunnel.weight (u : FromTunnel) : Nat :=
  3 * u.reader.buffer.length + match u.point with
    | .header => 0
    | .drain => 1
    | .payload _ => 2
    | .done _ => 0

/-- A `readexactly` that is over brings the receiver forward. -/
theorem FromTunnel.copyFromTunnel_weight {u u' : FromTunnel}
    (hs : u.copyFromTunnel true = some u') :
    u'.reader.eof = u.reader.eof ∧ u'.reader.exception = u.reader.exception ∧
      (u'.ended = none → u'.weight < u.weight) := by
  unfold copyFromTunnel at hs
  split at hs
  · rename_i hp
    obtain ⟨res, hr, rfl⟩ := Option.map_eq_some_iff.mp hs
    rcases StreamReader.readexactly_cases hr with ⟨e, -, rfl⟩ | ⟨data, rest, hlen, hbuffer, rfl⟩ |
      ⟨-, -, rfl⟩
    · simp [raise, fail, ended]
    · dsimp only
      unfold frameHeader
      simp only [↓reduceIte]
      repeat' split
      all_goals simp [reject, fail, ended, weight, hp, hbuffer, hlen]
      omega
    · simp [raise, fail, ended]
  · rename_i n hp
    obtain ⟨res, hr, rfl⟩ := Option.map_eq_some_iff.mp hs
    rcases StreamReader.readexactly_cases hr with ⟨e, -, rfl⟩ | ⟨data, rest, hlen, hbuffer, rfl⟩ |
      ⟨-, -, rfl⟩
    · simp [raise, fail, ended]
    · refine ⟨rfl, rfl, fun _ => ?_⟩
      simp only [framePayload, weight, hp, hbuffer, List.length_append]
      omega
    · simp [raise, fail, ended]
  · cases hs

/-- The receiver's next step, once what comes next is there to be read. -/
theorem FromTunnel.next {u : FromTunnel} (hk : u.cancelling = false)
    (hready : ∀ n, (u.point = .header ∧ n = 5) ∨ u.point = .payload n →
      n ≤ u.reader.buffer.length ∨ u.reader.eof = true) (hnone : u.ended = none) :
    ∃ e u', (e = .read true ∨ e = .drained none) ∧ u.step e = some u' ∧
      u'.reader.eof = u.reader.eof ∧ u'.reader.exception = u.reader.exception ∧
      (u'.ended = none → u'.weight < u.weight) := by
  have hread {u'} (hu : u.copyFromTunnel true = some u') : u.step (.read true) = some u' := by
    simp [FromTunnel.step, hk, hu]
  cases hp : u.point with
  | header =>
      obtain ⟨res, hres⟩ := StreamReader.readexactly_isSome (hready 5 (.inl ⟨hp, rfl⟩))
      obtain ⟨u', hu⟩ : ∃ u', u.copyFromTunnel true = some u' := by
        simp [FromTunnel.copyFromTunnel, hp, hres]
      exact ⟨_, u', .inl rfl, hread hu, FromTunnel.copyFromTunnel_weight hu⟩
  | payload n =>
      obtain ⟨res, hres⟩ := StreamReader.readexactly_isSome (hready n (.inr hp))
      obtain ⟨u', hu⟩ : ∃ u', u.copyFromTunnel true = some u' := by
        simp [FromTunnel.copyFromTunnel, hp, hres]
      exact ⟨_, u', .inl rfl, hread hu, FromTunnel.copyFromTunnel_weight hu⟩
  | drain =>
      refine ⟨.drained none, { u with point := .header }, .inr rfl, ?_, rfl, rfl, fun _ => ?_⟩
      · simp [FromTunnel.step, hp, hk]
      · simp [FromTunnel.weight, hp]
  | done r => simp [FromTunnel.ended, hp] at hnone

/-- What comes next is there to be read, unless it never comes. -/
theorem LinkOk.readable {l : Link} {i : Side} {n : Nat} (h : LinkOk l)
    (hready : Complete l i ∨ (l i.other).fromTunnel.reader.eof = true)
    (hp : ((l i.other).fromTunnel.point = .header ∧ n = 5) ∨
      (l i.other).fromTunnel.point = .payload n) :
    n ≤ (l i.other).fromTunnel.reader.buffer.length ∨
      (l i.other).fromTunnel.reader.eof = true := by
  rcases hready with hc | heof
  · refine .inl ?_
    obtain ⟨zs, x, hsent, hx, -, hrest⟩ := h.frames i
    have hxz := h.rest_eq hc hsent hx
    have hnone : (l i.other).fromTunnel.ended = none := by
      rcases hp with ⟨hp, -⟩ | hp <;> simp [FromTunnel.ended, hp]
    have hmem : .eof ∈ zs := by
      have hmem := hc.1
      rw [hsent, List.mem_append] at hmem
      exact hmem.resolve_left ((h.relay i.other).receiver.not_eof hnone)
    cases zs with
    | nil => cases hmem
    | cons f zs =>
        have hlen := congrArg List.length hxz
        have hframe := f.length_encode
        rw [List.flatMap_cons, List.length_append] at hlen
        rcases hp with ⟨hp, rfl⟩ | hp
        · simp only [FromRest, hp] at hrest
          rw [hrest] at hlen
          omega
        · simp only [FromRest, hp] at hrest
          obtain ⟨hn, rfl⟩ := hrest
          cases f with
          | eof => simp [Frame.encode, Frame.header, tunnelDataFrame, tunnelEofFrame] at hxz
          | data p =>
              rw [List.flatMap_cons, Frame.encode, List.append_assoc] at hxz
              obtain ⟨hheader, -⟩ := List.append_inj hxz rfl
              have hf : p.length ≤ bufferSize :=
                (h.relay i).sender.valid (.data p) (hsent ▸ List.mem_append_right _ (.head _))
              have hpn := Frame.header_inj hn hf hheader
              simp only [Frame.encode, List.length_append, Frame.length_header] at hlen
              omega
  · exact .inr heof

/-- The steps that the receiver of the frames of `i` takes by itself. -/
def Receives (i : Side) (_ : Link) (a : Side × RelayEvent) : Prop :=
  a = (i.other, .fromTunnel (.read true)) ∨ a = (i.other, .fromTunnel (.drained none))

theorem Receives.plainOpen {i : Side} {l : Link} {a : Side × RelayEvent} (h : Receives i l a) :
    PlainOpen l a := by
  rcases h with rfl | rfl <;> rfl

/-- A receiver that can go on. -/
structure Ready (i : Side) (l : Link) : Prop where
  link : LinkOk l
  uncancelled : (l i.other).fromTunnel.cancelling = false
  connected : (l i.other).fromTunnel.reader.exception = none
  ready : Complete l i ∨ (l i.other).fromTunnel.reader.eof = true

/-- A receiver whose frames have all arrived, or that is at the end of file,
comes to its end by itself. -/
theorem Ready.progress {i : Side} {l : Link} (h : Ready i l) :
    ∃ l', relaySystem.Runs (Receives i) l l' ∧
      (Ready i l' ∧ (l' i).toTunnel = (l i).toTunnel ∧
        (l' i.other).fromTunnel.reader.fed = (l i.other).fromTunnel.reader.fed) ∧
      (l' i.other).fromTunnel.ended ≠ none := by
  refine System.exists_runs_of_weight (fun l => (l i.other).fromTunnel.weight) ?_ ⟨h, rfl, rfl⟩
  rintro l₁ ⟨h₁, hto, hfed⟩ hnone
  rw [not_not] at hnone
  obtain ⟨e, u, he, hs, heof, hexc, hlt⟩ := FromTunnel.next h₁.uncancelled
    (fun n hp => h₁.link.readable h₁.ready hp) hnone
  have ha : Receives i l₁ (i.other, .fromTunnel e) := by
    rcases he with rfl | rfl
    · exact .inl rfl
    · exact .inr rfl
  have hstep : relaySystem.step l₁ (i.other, .fromTunnel e) =
      some (Function.update l₁ i.other { l₁ i.other with fromTunnel := u }) := by
    rcases he with rfl | rfl <;> simp [relaySystem, delivers, Relay.step, hs]
  have hopen := ha.plainOpen
  obtain ⟨hk, -, hu, -⟩ := FromTunnel.step_frame hs fun h => hopen.spec.1 (congrArg _ h)
  have hufed : u.reader.fed = (l₁ i.other).fromTunnel.reader.fed := by
    rcases hu with hu | ⟨data, rfl, -⟩
    · exact hu
    · rcases he with he | he <;> cases he
  refine ⟨_, _, ha, hstep, ⟨⟨h₁.link.step hopen hstep, ?_, ?_, ?_⟩, ?_, ?_⟩, fun hn => ?_⟩
  · simpa using hk.trans h₁.uncancelled
  · simpa using hexc.trans h₁.connected
  · have hready := h₁.ready
    simpa [Complete, i.other_ne.symm, hufed, heof] using hready
  · simpa [i.other_ne.symm] using hto
  · simpa [hufed] using hfed
  · rw [not_not] at hn
    simpa using hlt (by simpa using hn)

/-! ## Transparency -/

/-- What the relay does with the bytes that the end `i` reads from its plain side. -/
structure Transparent (l : Link) (i : Side) : Prop where
  /-- The other end writes the first of these bytes, in order. -/
  relayed : (l i.other).fromTunnel.writer.written <+: (l i).toTunnel.bytesRead
  /-- It ends its own plain side after the whole string, and then writes no more. -/
  whole : .writeEof ∈ (l i.other).fromTunnel.writer.log →
    Complete l i ∧ (l i.other).fromTunnel.writer.written = (l i).toTunnel.reader.fed ∧
      (l i).toTunnel.reader.eof = true ∧
      ∃ (chunks : List Bytes) (n : Nat), (l i.other).fromTunnel.writer.log =
        chunks.map .write ++ .writeEof :: List.replicate n .close
  returned : .writeEof ∈ (l i.other).fromTunnel.writer.log ↔
    (l i.other).fromTunnel.ended = some .returned
  /-- It fails if the frames are cut off, or with an exception of the transport. -/
  raised : ∀ e, (l i.other).fromTunnel.ended = some (.raised e) →
    ((l i.other).fromTunnel.reader.eof = true ∧ ¬ Complete l i ∧
        ∃ text, e = .transport (.connection text)) ∨
      ((l i.other).fromTunnel.reader.exception.isSome = true ∧ ∃ err, e = .transport err)
  /-- Once all frames have arrived, or no more can, it comes to its end by itself. -/
  ends : (l i.other).fromTunnel.cancelling = false →
    (l i.other).fromTunnel.reader.exception = none →
    (Complete l i ∨ (l i.other).fromTunnel.reader.eof = true) →
    ∃ l', relaySystem.Runs (Receives i) l l' ∧
      (Complete l i → (l' i.other).fromTunnel.ended = some .returned ∧
        .writeEof ∈ (l' i.other).fromTunnel.writer.log ∧
        (l' i.other).fromTunnel.writer.written = (l i).toTunnel.reader.fed) ∧
      (¬ Complete l i → .writeEof ∉ (l' i.other).fromTunnel.writer.log ∧
        (l' i.other).fromTunnel.writer.written <+: (l i).toTunnel.bytesRead ∧
        ∃ text, (l' i.other).fromTunnel.ended = some (.raised (.transport (.connection text))))

/-- The two directions of a call do not disturb each other. -/
structure Undisturbed (s : Relay) : Prop where
  /-- A task is cancelled from outside, or because the other one has failed. -/
  cancels : ∀ c, s.cancelRequested c = true ∨ s.ended c = some .cancelled →
    s.interrupted = true ∨ ∃ e, s.ended c.other = some (.raised e)
  /-- The call closes the writers after both tasks. -/
  closes : s.closed = true → ∀ c, s.running c = false

theorem PipeOk.undisturbed {s : Relay} (h : PipeOk s) : Undisturbed s where
  cancels c hc := h.cancels c (hc.elim id (h.thrown c))
  closes hc := h.closing (.inr hc)

theorem LinkOk.relayed {l : Link} (h : LinkOk l) (i : Side) :
    (l i.other).fromTunnel.writer.written <+: (l i).toTunnel.bytesRead := by
  obtain ⟨zs, x, hsent, -⟩ := h.frames i
  rw [(h.relay i.other).receiver.written, (h.relay i).sender.bytesRead, hsent,
    List.flatMap_append]
  exact List.prefix_append _ _

theorem LinkOk.whole {l : Link} (h : LinkOk l) (i : Side)
    (hr : (l i.other).fromTunnel.ended = some .returned) :
    Complete l i ∧ (l i.other).fromTunnel.writer.written = (l i).toTunnel.reader.fed ∧
      (l i).toTunnel.reader.eof = true := by
  obtain ⟨hc, hsent⟩ := h.complete_of_returned i hr
  obtain ⟨heof, hbuffer⟩ := (h.relay i).sender.last hc.1
  have hbytes := (h.relay i).sender.bytes
  rw [hbuffer, List.append_nil, hsent] at hbytes
  exact ⟨hc, (h.relay i.other).receiver.written.trans hbytes, heof⟩

theorem FromOk.log_order {u : FromTunnel} (h : FromOk u) (hmem : .writeEof ∈ u.writer.log) :
    ∃ chunks n, u.writer.log =
      List.map WriteOp.write chunks ++ .writeEof :: List.replicate n .close := by
  have heof : .eof ∈ u.received := by
    rw [h.returned]
    have hr := h.mem_writeEof.mp hmem
    cases hp : u.point <;> simp_all [FromTunnel.ended]
  obtain ⟨fs, hfs, hno⟩ := h.last heof
  obtain ⟨n, hlog, -⟩ := h.log
  refine ⟨fs.map Frame.payload, n, ?_⟩
  have hop : ∀ f ∈ fs, f.op = .write f.payload := by
    intro f hf
    cases f with
    | data p => rfl
    | eof => exact absurd hf hno
  rw [hlog, hfs, List.map_append, List.map_congr_left hop, List.map_map, List.append_assoc]
  rfl

theorem Ready.ends {i : Side} {l : Link} (h : Ready i l) :
    ∃ l', relaySystem.Runs (Receives i) l l' ∧
      (Complete l i → (l' i.other).fromTunnel.ended = some .returned ∧
        .writeEof ∈ (l' i.other).fromTunnel.writer.log ∧
        (l' i.other).fromTunnel.writer.written = (l i).toTunnel.reader.fed) ∧
      (¬ Complete l i → .writeEof ∉ (l' i.other).fromTunnel.writer.log ∧
        (l' i.other).fromTunnel.writer.written <+: (l i).toTunnel.bytesRead ∧
        ∃ text, (l' i.other).fromTunnel.ended =
          some (.raised (.transport (.connection text)))) := by
  obtain ⟨l', hrun, ⟨h', hto, hfed⟩, hended⟩ := h.progress
  have hcomplete : Complete l' i ↔ Complete l i := by
    rw [Complete, Complete, hto, hfed]
  have hreceiver := (h'.link.relay i.other).receiver
  refine ⟨l', hrun, ?_⟩
  obtain ⟨r, hr⟩ := Option.ne_none_iff_exists'.mp hended
  cases r with
  | returned =>
      obtain ⟨hc, hwritten, -⟩ := h'.link.whole i hr
      rw [hto] at hwritten
      exact ⟨fun _ => ⟨hr, hreceiver.mem_writeEof.mpr hr, hwritten⟩,
        fun hno => absurd (hcomplete.mp hc) hno⟩
  | raised e =>
      rcases h'.link.raised i hr with ⟨hexc, -⟩ | ⟨-, hno, text, rfl⟩
      · simp [h'.connected] at hexc
      · refine ⟨fun hc => absurd (hcomplete.mpr hc) hno, fun _ => ⟨?_, ?_, text, hr⟩⟩
        · simp [hreceiver.mem_writeEof, hr]
        · exact hto ▸ h'.link.relayed i
  | cancelled =>
      have hk := (h'.link.relay i.other).pipe.thrown .fromTunnel hr
      simp [Relay.cancelRequested, h'.uncancelled] at hk

/-- The framed relay is transparent while the plain sides are open. -/
theorem relay_transparent {l : Link} (h : relaySystem.ReachableUnder PlainOpen l) (i : Side) :
    Transparent l i ∧ Undisturbed (l i) := by
  have hl := LinkOk.of_reachable h
  have hreceiver := (hl.relay i.other).receiver
  refine ⟨⟨hl.relayed i, fun hmem => ?_, hreceiver.mem_writeEof, fun e hr => (hl.raised i hr).symm,
    fun hk hexc hready => Ready.ends ⟨hl, hk, hexc, hready⟩⟩, (hl.relay i).pipe.undisturbed⟩
  obtain ⟨hc, hwritten, heof⟩ := hl.whole i (hreceiver.mem_writeEof.mp hmem)
  exact ⟨hc, hwritten, heof, hreceiver.log_order hmem⟩

/-- A public connection is half closed while the answer is still to come. -/
def halfClose : List (Side × RelayEvent) :=
  [(.server, .toTunnel (.feed [0x68, 0x69])), (.server, .toTunnel .feedEof),
    (.server, .toTunnel (.read 2)), (.server, .toTunnel (.drained none)),
    (.client, .fromTunnel (.feed [0x44, 0, 0])), (.server, .toTunnel (.read 1)),
    (.server, .toTunnel (.drained none)), (.server, .go),
    (.client, .fromTunnel (.feed [0, 2, 0x68])),
    (.client, .fromTunnel (.read true)), (.client, .fromTunnel (.feed [0x69, 0x45, 0, 0, 0, 0])),
    (.client, .fromTunnel (.read true)), (.client, .fromTunnel (.drained none)),
    (.client, .fromTunnel (.read true)), (.client, .go)]

theorem relay_transparent_halfClose : ∃ l : Link, relaySystem.ReachableUnder PlainOpen l ∧
    (l .client).fromTunnel.writer.log = [.write [0x68, 0x69], .writeEof] ∧
    (l .client).running .toTunnel = true ∧
    Transparent l .server ∧ Undisturbed (l .client) := by
  have hrun : (relaySystem.execWhile (fun _ a => !a.2.plainFails) relaySystem.init
      halfClose).map (fun l => ((l .client).fromTunnel.writer.log,
        (l .client).running .toTunnel)) = some ([.write [0x68, 0x69], .writeEof], true) := by
    rfl
  obtain ⟨l, hl, heq⟩ := System.exists_of_execWhile_map _ (fun _ _ _ h => by simpa using h) hrun
  exact ⟨l, hl, congrArg Prod.fst heq, congrArg Prod.snd heq,
    (relay_transparent hl .server).1, (relay_transparent hl .client).2⟩

end PyFrp
