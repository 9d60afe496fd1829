import PyFrp.Protocol.Transparency

/-!
# The frame decoder on any input (`protocol.py`)

`_copy_from_tunnel` by itself, on a reader that is fed arbitrary bytes. The
reference grammar has one word, the data frame; what follows the longest
sequence of data frames decides how the call ends.
-/

namespace PyFrp

open Python Coding Coop

/-! ## The grammar -/

/-- No data frame begins with another one. -/
theorem Frame.dataCode :
    PrefixCode (fun payload : Bytes => (Frame.data payload).encode)
      (fun payload => payload.length ≤ bufferSize) where
  nonempty {p} hp := prefixCode.nonempty (a := .data p) hp
  free {p q} hp hq h := Frame.data.inj (prefixCode.free (a := .data p) (b := .data q) hp hq h)

/-- The data frames at the beginning of a text, and what follows them. -/
abbrev DataFrames (text : Bytes) (payloads : List Bytes) (rest : Bytes) : Prop :=
  Parsed (fun payload => (Frame.data payload).encode)
    (fun payload => payload.length ≤ bufferSize) text payloads rest

/-- A whole header follows: of an EOF frame that is not empty, of a frame of no
known type, or of a data frame that is too long. -/
def Rejected (rest : Bytes) : Prop :=
  ∃ frameType length tail, rest = frameType :: pack length ++ tail ∧ length < 0x100000000 ∧
    ((frameType = tunnelEofFrame ∧ length ≠ 0) ∨
      (frameType ≠ tunnelEofFrame ∧ frameType ≠ tunnelDataFrame) ∨
      (frameType = tunnelDataFrame ∧ bufferSize < length))

theorem unpack_lt {data : Bytes} (h : data.length = 4) : unpack data < 0x100000000 := by
  match data, h with
  | [a, b, c, d], _ =>
      have ha := a.toNat_lt
      have hb := b.toNat_lt
      have hc := c.toNat_lt
      have hd := d.toNat_lt
      simp only [unpack, List.foldl_cons, List.foldl_nil]
      omega

theorem Rejected.append {rest : Bytes} (h : Rejected rest) (data : Bytes) :
    Rejected (rest ++ data) := by
  obtain ⟨b, n, tail, rfl, hn, hkind⟩ := h
  exact ⟨b, n, tail ++ data, by simp, hn, hkind⟩

theorem Rejected.length_le {rest : Bytes} (h : Rejected rest) : 5 ≤ rest.length := by
  obtain ⟨b, n, tail, rfl, -⟩ := h
  simp only [List.cons_append, List.length_cons, List.length_append, length_pack]
  omega

/-- Nothing rejected begins like a frame. -/
theorem Rejected.not_header {rest : Bytes} (h : Rejected rest) {f : Frame} (hf : f.Ok) :
    ¬ rest.take 5 <+: f.encode := by
  obtain ⟨b, n, tail, rfl, hn, hkind⟩ := h
  suffices hno : NoHeader (b :: pack n ++ tail) from hno.2 f hf
  refine noHeader rfl ?_ ?_
  · intro hb
    obtain rfl : b = tunnelEofFrame := by simpa using hb
    show unpack (pack n) ≠ 0
    rw [unpack_pack hn]
    rcases hkind with ⟨-, hne⟩ | ⟨hne, -⟩ | ⟨hdata, -⟩
    · exact hne
    · exact absurd rfl hne
    · cases hdata
  · intro hb
    obtain rfl : b = tunnelDataFrame := by simpa using hb
    show bufferSize < unpack (pack n)
    rw [unpack_pack hn]
    rcases hkind with ⟨heof, -⟩ | ⟨-, hne⟩ | ⟨-, hlt⟩
    · cases heof
    · exact absurd rfl hne
    · exact hlt

theorem Rejected.noFrame {rest : Bytes} (h : Rejected rest) : NoFrame rest := by
  intro f hf hbegin
  refine h.not_header hf ?_
  exact List.prefix_of_prefix_length_le (List.take_prefix 5 rest) hbegin
    (Nat.le_trans (List.length_take_le 5 rest) f.length_encode)

/-- A data frame whose payload is not there yet is not rejected. -/
theorem not_rejected_header {n : Nat} {x : Bytes} (hn : n ≤ bufferSize) :
    ¬ Rejected (Frame.header n ++ x) := by
  intro h
  refine h.not_header (f := .data (List.replicate n 0)) (by simpa [Frame.Ok] using hn) ?_
  rw [List.take_left' (Frame.length_header n)]
  simp [Frame.encode]

/-! ## The call -/

/-- `_copy_from_tunnel` with the transport of its reader. -/
def decoderSystem : System FromTunnel FromEvent where
  init := .start .empty .empty
  step := FromTunnel.step

/-- The steps in which the operations on the plain writer succeed. -/
def WritesSucceed (_ : FromTunnel) (e : FromEvent) : Prop :=
  e ≠ .read false ∧ ∀ err, e ≠ .drained (some err)

/-- The steps of the call itself. -/
def OwnStep (_ : FromTunnel) (e : FromEvent) : Prop :=
  e = .read true ∨ e = .drained none

/-- What is known of a call that has raised an exception. -/
structure Broken (u : FromTunnel) (e : RelayError) (x : Bytes) : Prop where
  fed : u.received.flatMap Frame.encode ++ x = u.reader.fed
  noFrame : NoFrame x
  reason : (Rejected x ∧ ∃ text, e = .protocol text) ∨
    (u.reader.eof = true ∧ ¬ Rejected x ∧ ∃ text, e = .transport (.connection text))

/-- The invariant of the call. -/
structure Decoding (u : FromTunnel) : Prop where
  frames : FromOk u
  uncancelled : u.cancelling = false
  notThrown : u.ended ≠ some .cancelled
  raised : u.reader.exception = none → ∀ e, u.point = .done (.raised e) → ∃ x, Broken u e x

variable {u u' : FromTunnel}

theorem Broken.append {e : RelayError} {x : Bytes} (h : Broken u e x) {r : StreamReader}
    (data : Bytes) (hfed : r.fed = u.reader.fed ++ data)
    (heof : u.reader.eof = true → r.eof = true ∧ data = []) :
    Broken { u with reader := r } e (x ++ data) where
  fed := by
    show _ = r.fed
    rw [hfed, ← h.fed, List.append_assoc]
  noFrame := by
    rcases h.reason with ⟨hbad, -⟩ | ⟨hr, -⟩
    · exact (hbad.append data).noFrame
    · obtain ⟨-, rfl⟩ := heof hr
      simpa using h.noFrame
  reason := by
    rcases h.reason with ⟨hbad, htext⟩ | ⟨hr, hno, htext⟩
    · exact .inl ⟨hbad.append data, htext⟩
    · obtain ⟨hr', rfl⟩ := heof hr
      exact .inr ⟨hr', by simpa using hno, htext⟩

/-- The exceptions of `_copy_from_tunnel`, apart from those of the transport. -/
theorem FromOk.breaks {e : RelayError} (h : FromOk u) (hs : u.copyFromTunnel true = some u')
    (hexc : u'.reader.exception = none) (he : u'.point = .done (.raised e)) :
    ∃ x, Broken u' e x := by
  obtain ⟨x, hx, hrest⟩ := h.stream
  unfold FromTunnel.copyFromTunnel at hs
  split at hs
  · rename_i hp
    simp only [FromRest, hp] at hrest
    obtain ⟨res, hr, rfl⟩ := Option.map_eq_some_iff.mp hs
    rcases StreamReader.readexactly_cases hr with ⟨err, herr, rfl⟩ |
      ⟨data, rest, hlen, hbuffer, rfl⟩ | ⟨heof, hshort, rfl⟩
    · exact absurd (herr.symm.trans hexc) (by simp)
    · -- the header is there
      obtain ⟨b, hb, hheader⟩ := header_cases hlen
      have hlt : unpack (data.drop 1) < 0x100000000 := unpack_lt (by simp [hlen])
      have hreject : ∀ text, ((b = tunnelEofFrame ∧ unpack (data.drop 1) ≠ 0) ∨
          (b ≠ tunnelEofFrame ∧ b ≠ tunnelDataFrame) ∨
          (b = tunnelDataFrame ∧ bufferSize < unpack (data.drop 1))) →
          ∃ x, Broken (FromTunnel.reject { u with reader := { u.reader with buffer := rest } } text)
            (.protocol text) x := by
        intro text hkind
        have hbad : Rejected x := ⟨b, _, rest, by rw [hrest, hbuffer, ← hheader], hlt, hkind⟩
        exact ⟨x, hx, hbad.noFrame, .inl ⟨hbad, text, rfl⟩⟩
      dsimp only at he ⊢
      unfold FromTunnel.frameHeader at he ⊢
      simp only [hb, List.cons.injEq, and_true] at he ⊢
      split at he
      · rename_i hkind
        rw [if_pos hkind]
        split at he
        · rename_i hne
          rw [if_pos hne]
          cases he
          exact hreject _ (.inl ⟨hkind, hne⟩)
        · cases he
      · rename_i hneof
        rw [if_neg hneof]
        split at he
        · rename_i hndata
          rw [if_pos hndata]
          cases he
          exact hreject _ (.inr (.inl ⟨hneof, fun hd => hndata (by rw [hd])⟩))
        · rename_i hdata
          rw [if_neg hdata]
          split at he
          · rename_i hlong
            rw [if_pos hlong]
            cases he
            exact hreject _ (.inr (.inr ⟨by simpa using hdata, hlong⟩))
          · cases he
    · cases he
      have hlt : x.length < 5 := hrest ▸ hshort
      exact ⟨x, hx, noFrame_of_short hlt,
        .inr ⟨heof, fun hbad => absurd hbad.length_le (by omega), _, rfl⟩⟩
  · rename_i n hp
    simp only [FromRest, hp] at hrest
    obtain ⟨hn, rfl⟩ := hrest
    obtain ⟨res, hr, rfl⟩ := Option.map_eq_some_iff.mp hs
    rcases StreamReader.readexactly_cases hr with ⟨err, herr, rfl⟩ |
      ⟨data, rest, hlen, hbuffer, rfl⟩ | ⟨heof, hshort, rfl⟩
    · exact absurd (herr.symm.trans hexc) (by simp)
    · cases he
    · cases he
      exact ⟨_, hx, noFrame_of_truncated hn hshort,
        .inr ⟨heof, not_rejected_header hn, _, rfl⟩⟩
  · cases hs

theorem Decoding.start : Decoding (.start .empty .empty) where
  frames := .start
  uncancelled := rfl
  notThrown := by simp [FromTunnel.start, FromTunnel.ended]
  raised _ e he := by cases he

/-- More bytes, an end of file or an exception of the transport. -/
theorem Decoding.reader (h : Decoding u) (r : StreamReader) (data : Bytes)
    (hfed : r.fed = u.reader.fed ++ data)
    (hexc : u.reader.exception.isSome = true → r.exception.isSome = true)
    (heof : u.reader.eof = true → r.eof = true ∧ data = []) (hnone : r.exception = none)
    {e : RelayError} (he : u.point = .done (.raised e)) :
    ∃ x, Broken { u with reader := r } e x := by
  have hbefore : u.reader.exception = none := by
    cases hex : u.reader.exception with
    | none => rfl
    | some err =>
        have hsome := hexc (by simp [hex])
        rw [hnone] at hsome
        cases hsome
  obtain ⟨x, hx⟩ := h.raised hbefore e he
  exact ⟨x ++ data, hx.append data hfed heof⟩

theorem Decoding.step {e : FromEvent} (h : Decoding u) (hopen : WritesSucceed u e)
    (hs : u.step e = some u') : Decoding u' := by
  obtain ⟨hk, -, -, -, hthrown⟩ := FromTunnel.step_frame hs hopen.1
  refine ⟨h.frames.step hs hopen, hk.trans h.uncancelled, fun hr => ?_, fun hnone err he => ?_⟩
  · rcases hthrown hr with hr | hr
    · exact h.notThrown hr
    · simp [h.uncancelled] at hr
  cases e with
  | feed data =>
      obtain ⟨r, hr, rfl⟩ := Option.map_eq_some_iff.mp hs
      obtain ⟨heof, rfl⟩ := StreamReader.feedData_eq_some.mp hr
      exact h.reader { u.reader with buffer := u.reader.buffer ++ data, fed := u.reader.fed ++ data }
        data rfl id (fun ht => absurd (heof.symm.trans ht) nofun) hnone he
  | feedEof =>
      cases hs
      exact h.reader u.reader.feedEof [] (by simp [StreamReader.feedEof]) id (fun _ => ⟨rfl, rfl⟩)
        hnone he
  | lost err =>
      cases hs
      cases hnone
  | read eofWritten =>
      cases eofWritten with
      | false => exact absurd rfl hopen.1
      | true =>
          simp only [FromTunnel.step] at hs
          split at hs
          · cases hs
          · exact h.frames.breaks hs hnone he
  | drained error =>
      simp only [FromTunnel.step] at hs
      split at hs
      · cases error with
        | some err => exact absurd rfl (hopen.2 err)
        | none =>
            cases hs
            cases he
      · cases hs
  | throw =>
      simp only [FromTunnel.step] at hs
      split at hs
      · cases hs
        cases he
      · cases hs

theorem Decoding.of_reachable (h : decoderSystem.ReachableUnder WritesSucceed u) : Decoding u :=
  h.invariant .start fun _ _ _ _ hu hopen hs => hu.step hopen hs

/-! ## What the call does -/

/-- The frames received are data frames, and at the end an EOF frame. -/
theorem FromOk.payloads (h : FromOk u) : ∃ ps : List Bytes,
    u.received = ps.map .data ++ (if u.ended = some .returned then [.eof] else []) ∧
      ∀ p ∈ ps, p.length ≤ bufferSize := by
  have hdata : ∀ fs : List Frame, (∀ f ∈ fs, f.Ok) → .eof ∉ fs →
      ∃ ps : List Bytes, fs = ps.map .data ∧ ∀ p ∈ ps, p.length ≤ bufferSize := by
    intro fs hok hno
    induction fs with
    | nil => exact ⟨[], rfl, by simp⟩
    | cons f fs ih =>
        obtain ⟨hf, hok⟩ := List.forall_mem_cons.mp hok
        obtain ⟨ps, rfl, hps⟩ := ih hok fun hmem => hno (.tail _ hmem)
        cases f with
        | data p => exact ⟨p :: ps, rfl, List.forall_mem_cons.mpr ⟨hf, hps⟩⟩
        | eof => exact absurd (.head _) hno
  have hreturned : .eof ∈ u.received ↔ u.ended = some .returned := by
    rw [h.returned]
    cases hp : u.point <;> simp [FromTunnel.ended, hp]
  by_cases hr : u.ended = some .returned
  · obtain ⟨fs, hfs, hno⟩ := h.last (hreturned.mpr hr)
    obtain ⟨ps, rfl, hps⟩ := hdata fs
      (fun f hf => h.valid f (hfs ▸ List.mem_append_left _ hf)) hno
    exact ⟨ps, by rw [if_pos hr, hfs], hps⟩
  · obtain ⟨ps, hps, hlen⟩ := hdata u.received h.valid fun hmem => hr (hreturned.mp hmem)
    exact ⟨ps, by rw [if_neg hr, List.append_nil, hps], hlen⟩

/-- How a call ends that nothing but its input determines. -/
structure Ended (u : FromTunnel) (payloads : List Bytes) (rest : Bytes) : Prop where
  written : u.writer.written = payloads.flatten
  signalled : .writeEof ∈ u.writer.log ↔ Frame.eof.encode <+: rest
  returned : u.ended = some .returned ↔ Frame.eof.encode <+: rest
  rejected : (∃ text, u.ended = some (.raised (.protocol text))) ↔ Rejected rest
  broken : (∃ text, u.ended = some (.raised (.transport (.connection text)))) ↔
    ¬ Frame.eof.encode <+: rest ∧ ¬ Rejected rest

/-- What the call does with a text that begins with these data frames. -/
structure Decodes (u : FromTunnel) (payloads : List Bytes) (rest : Bytes) : Prop where
  /-- It has written the first payloads, and nothing of any other frame. -/
  written : ∃ n, u.writer.written = (payloads.take n).flatten
  ended : u.reader.exception = none → u.ended ≠ none → Ended u payloads rest
  /-- At the end of file it comes to its end by itself. -/
  ends : u.reader.exception = none → u.reader.eof = true →
    ∃ u', decoderSystem.Runs OwnStep u u' ∧ u'.reader.fed = u.reader.fed ∧
      u'.ended ≠ none ∧ Ended u' payloads rest

theorem Rejected.not_eof {rest : Bytes} (h : Rejected rest) : ¬ Frame.eof.encode <+: rest :=
  h.noFrame .eof trivial

section

variable {payloads : List Bytes} {rest : Bytes}

theorem flatten_payloads (ps : List Bytes) (fs : List Frame)
    (hfs : fs = [] ∨ fs = [.eof]) :
    (ps.map Frame.data ++ fs).flatMap Frame.payload = ps.flatten := by
  rw [List.flatMap_append, List.flatMap_map]
  rcases hfs with rfl | rfl <;> simp [Frame.payload, List.flatMap_def]

theorem Decoding.written (h : Decoding u) (hd : DataFrames u.reader.fed payloads rest) :
    ∃ n, u.writer.written = (payloads.take n).flatten := by
  obtain ⟨ps, hps, hlen⟩ := h.frames.payloads
  obtain ⟨x, hx, -⟩ := h.frames.stream
  have hbegin : ps.flatMap (fun p => (Frame.data p).encode) <+: u.reader.fed := by
    rw [← hx, hps, List.flatMap_append, List.flatMap_map, List.append_assoc]
    exact List.prefix_append _ _
  have htake := List.prefix_iff_eq_take.mp (hd.prefix_of_flatMap Frame.dataCode hlen hbegin)
  refine ⟨ps.length, ?_⟩
  rw [← htake, h.frames.written, hps]
  refine flatten_payloads ps _ ?_
  split
  · exact .inr rfl
  · exact .inl rfl

theorem Decoding.ended (h : Decoding u) (hd : DataFrames u.reader.fed payloads rest)
    (hexc : u.reader.exception = none) (hended : u.ended ≠ none) : Ended u payloads rest := by
  obtain ⟨ps, hps, hlen⟩ := h.frames.payloads
  obtain ⟨r, hr⟩ := Option.ne_none_iff_exists'.mp hended
  have hwritten := h.frames.written
  have hsignal := h.frames.mem_writeEof
  cases r with
  | returned =>
      obtain ⟨x, hx, -⟩ := h.frames.stream
      rw [if_pos hr] at hps
      have hparsed : DataFrames u.reader.fed ps (Frame.eof.encode ++ x) := by
        refine ⟨?_, hlen, fun p hp hbegin => ?_⟩
        · rw [← hx, hps]
          simp [List.flatMap_append, List.flatMap_map]
        · simp [Frame.encode, Frame.header, tunnelDataFrame, tunnelEofFrame] at hbegin
      obtain ⟨rfl, rfl⟩ := hd.unique Frame.dataCode hparsed
      have heof : Frame.eof.encode <+: Frame.eof.encode ++ x := List.prefix_append _ _
      refine ⟨?_, by simp [hsignal, hr], by simp [hr], ?_, by simp [hr]⟩
      · rw [hwritten, hps]
        exact flatten_payloads payloads _ (.inr rfl)
      · exact iff_of_false (by simp [hr]) fun hbad => hbad.not_eof heof
  | raised e =>
      have hpoint : u.point = .done (.raised e) := by
        cases hp : u.point <;> simp_all [FromTunnel.ended]
      obtain ⟨x, hx, hno, hreason⟩ := h.raised hexc e hpoint
      rw [if_neg (by simp [hr]), List.append_nil] at hps
      have hparsed : DataFrames u.reader.fed ps x := by
        refine ⟨?_, hlen, fun p hp hbegin => hno (.data p) hp hbegin⟩
        rw [← hx, hps, List.flatMap_map]
      obtain ⟨rfl, rfl⟩ := hd.unique Frame.dataCode hparsed
      have heof : ¬ Frame.eof.encode <+: rest := hno .eof trivial
      refine ⟨?_, by simp [hsignal, hr, heof], by simp [hr, heof], ?_, ?_⟩
      · rw [hwritten, hps]
        simpa using flatten_payloads payloads [] (.inl rfl)
      · rcases hreason with ⟨hbad, text, rfl⟩ | ⟨-, hgood, text, rfl⟩ <;> simp [*]
      · rcases hreason with ⟨hbad, text, rfl⟩ | ⟨-, hgood, text, rfl⟩ <;> simp [*]
  | cancelled => exact absurd hr h.notThrown

/-- A step of the call itself brings it nearer to its end. -/
theorem FromTunnel.ownStep_weight {e : FromEvent} (he : OwnStep u e) (hs : u.step e = some u') :
    u.ended = none ∧ (u'.ended = none → u'.weight < u.weight) := by
  rcases he with rfl | rfl
  · simp only [FromTunnel.step] at hs
    split at hs
    · cases hs
    · refine ⟨?_, (FromTunnel.copyFromTunnel_weight hs).2.2⟩
      cases hp : u.point <;> simp [FromTunnel.copyFromTunnel, FromTunnel.ended, hp] at hs ⊢
  · simp only [FromTunnel.step] at hs
    split at hs
    · rename_i hp
      cases hs
      refine ⟨by simp [FromTunnel.ended, hp.1], fun _ => ?_⟩
      simp [FromTunnel.weight, hp.1]
    · cases hs

/-- The call takes finitely many steps by itself. -/
theorem ownStep_wellFounded :
    WellFounded fun u' u : FromTunnel => ∃ e, OwnStep u e ∧ u.step e = some u' := by
  refine Subrelation.wf (r := InvImage (· < ·) fun u : FromTunnel =>
    if u.ended = none then u.weight + 1 else 0) ?_ (InvImage.wf _ Nat.lt_wfRel.wf)
  rintro u' u ⟨e, he, hs⟩
  obtain ⟨hnone, hlt⟩ := FromTunnel.ownStep_weight he hs
  show (if u'.ended = none then u'.weight + 1 else 0) < if u.ended = none then u.weight + 1 else 0
  rw [if_pos hnone]
  split
  · rename_i hn
    have hweight := hlt hn
    omega
  · omega

theorem Decoding.ends (h : Decoding u) (hd : DataFrames u.reader.fed payloads rest)
    (hexc : u.reader.exception = none) (heof : u.reader.eof = true) :
    ∃ u', decoderSystem.Runs OwnStep u u' ∧ u'.reader.fed = u.reader.fed ∧
      u'.ended ≠ none ∧ Ended u' payloads rest := by
  have hprogress : ∀ v, (Decoding v ∧ v.reader.exception = none ∧ v.reader.eof = true ∧
      v.reader.fed = u.reader.fed) → ¬ v.ended ≠ none →
      ∃ e w, OwnStep v e ∧ decoderSystem.step v e = some w ∧
        (Decoding w ∧ w.reader.exception = none ∧ w.reader.eof = true ∧
          w.reader.fed = u.reader.fed) ∧ (¬ w.ended ≠ none → w.weight < v.weight) := by
    rintro v ⟨hv, hvexc, hveof, hvfed⟩ hnone
    rw [not_not] at hnone
    obtain ⟨e, w, he, hs, hweof, hwexc, hlt⟩ :=
      FromTunnel.next hv.uncancelled (fun _ _ => .inr hveof) hnone
    have hopen : WritesSucceed v e := by
      rcases he with rfl | rfl
      · exact ⟨nofun, nofun⟩
      · exact ⟨nofun, nofun⟩
    obtain ⟨-, -, hwfed, -⟩ := FromTunnel.step_frame hs hopen.1
    refine ⟨e, w, he, hs, ⟨hv.step hopen hs, hwexc.trans hvexc, hweof.trans hveof, ?_⟩,
      fun hn => hlt (not_not.mp hn)⟩
    rcases hwfed with hwfed | ⟨data, rfl, -⟩
    · exact hwfed.trans hvfed
    · rcases he with he | he <;> cases he
  obtain ⟨u', hrun, ⟨h', hexc', -, hfed⟩, hended⟩ :=
    System.exists_runs_of_weight FromTunnel.weight hprogress ⟨h, hexc, heof, rfl⟩
  exact ⟨u', hrun, hfed, hended, h'.ended (hfed ▸ hd) hexc' hended⟩

end

/-- The decoder accepts the sequences of data frames that an EOF frame ends, and
writes the payloads of the data frames that arrive completely. -/
theorem copyFromTunnel_decodes (h : decoderSystem.ReachableUnder WritesSucceed u) :
    (∃ payloads rest, DataFrames u.reader.fed payloads rest) ∧
      (∀ payloads rest, DataFrames u.reader.fed payloads rest → Decodes u payloads rest) ∧
      Acc (fun w v : FromTunnel => ∃ e, OwnStep v e ∧ v.step e = some w) u := by
  have hu := Decoding.of_reachable h
  exact ⟨Frame.dataCode.exists_parsed _,
    fun payloads rest hd => ⟨hu.written hd, hu.ended hd, hu.ends hd⟩,
    ownStep_wellFounded.apply u⟩

/-- The test that a schedule passes for `WritesSucceed`. -/
def writesSucceed (_ : FromTunnel) : FromEvent → Bool
  | .read written => written
  | .drained error => error.isNone
  | _ => true

/-- A frame of one byte, an empty one, and a frame that is too long, in pieces. -/
def tooLong : List FromEvent :=
  [.feed [0x44, 0, 0], .feed [0, 1, 0x68, 0x44], .read true, .read true, .drained none,
    .feed [0, 0, 0, 0, 0x44, 0, 1, 0, 1], .feedEof, .read true, .read true, .drained none,
    .read true]

theorem copyFromTunnel_decodes_tooLong : ∃ u : FromTunnel,
    decoderSystem.ReachableUnder WritesSucceed u ∧ u.writer.log = [.write [0x68], .write []] ∧
    u.ended = some (.raised (.protocol "encrypted tunnel frame exceeds maximum size")) ∧
    ∃ payloads rest, DataFrames u.reader.fed payloads rest ∧ Decodes u payloads rest := by
  have hrun : (decoderSystem.execWhile writesSucceed decoderSystem.init tooLong).map
        (fun u => (u.writer.log, u.ended)) =
      some ([.write [0x68], .write []],
        some (.raised (.protocol "encrypted tunnel frame exceeds maximum size"))) := by
    rfl
  obtain ⟨u, hu, heq⟩ := System.exists_of_execWhile_map (C := WritesSucceed) _
    (fun _ e _ he => by cases e <;> simp_all [WritesSucceed, writesSucceed]) hrun
  obtain ⟨⟨payloads, rest, hd⟩, hall, -⟩ := copyFromTunnel_decodes hu
  exact ⟨u, hu, congrArg Prod.fst heq, congrArg Prod.snd heq, payloads, rest, hd,
    hall payloads rest hd⟩

end PyFrp
