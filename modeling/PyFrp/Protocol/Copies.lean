import PyFrp.Protocol.Relay

/-!
# The two copying tasks

What each task has read and written so far. A reader that meets bytes which are
no frame fails, and so does one that meets the end of file inside a frame.
-/

namespace PyFrp

open Python Coding

/-! ## The sending direction -/

/-- The frames sent are the bytes read, and the EOF frame comes last. -/
structure ToOk (t : ToTunnel) : Prop where
  written : t.writer.written = t.sent.flatMap Frame.encode
  valid : ∀ f ∈ t.sent, f.Ok
  bytes : t.sent.flatMap Frame.payload ++ t.reader.buffer = t.reader.fed
  last : .eof ∈ t.sent → t.reader.eof = true ∧ t.reader.buffer = []
  order : .eof ∈ t.sent → ∃ fs, t.sent = fs ++ [.eof] ∧ .eof ∉ fs
  unfinished : t.point = .read ∨ t.point = .drain false → .eof ∉ t.sent
  finished : t.point = .drain true ∨ t.point = .done .returned → .eof ∈ t.sent

variable {t t' : ToTunnel} {u u' : FromTunnel}

theorem ToOk.start : ToOk (.start .empty .empty) := by
  constructor <;> simp [ToTunnel.start, StreamReader.empty, StreamWriter.empty,
    StreamWriter.written]

/-- What a task has sent does not depend on where it is. -/
theorem ToOk.of_point {p : ToPoint} {b : Bool} (h : ToOk t)
    (hu : p = .read ∨ p = .drain false → .eof ∉ t.sent)
    (hf : p = .drain true ∨ p = .done .returned → .eof ∈ t.sent) :
    ToOk { t with point := p, cancelling := b } :=
  ⟨h.written, h.valid, h.bytes, h.last, h.order, hu, hf⟩

theorem ToOk.copyToTunnel {count : Nat} {res : Except ReadError Bytes × StreamReader}
    (h : ToOk t) (hp : t.point = .read) (hr : t.reader.read bufferSize count = some res) :
    ToOk (match res with
      | (.ok chunk, r) => ToTunnel.copyToTunnel { t with reader := r } chunk
      | (.error e, r) => ToTunnel.raise { t with reader := r } e) := by
  have hno := h.unfinished (.inl hp)
  rcases StreamReader.read_cases hr with ⟨e, -, rfl⟩ | ⟨heof, hbuffer, rfl⟩ |
    ⟨chunk, rest, hne, hlen, hbuffer, rfl⟩
  · exact h.of_point (by simp) (by simp)
  · -- the end of file
    refine ⟨?_, ?_, ?_, fun _ => ⟨heof, hbuffer⟩, fun _ => ⟨t.sent, rfl, hno⟩, ?_, ?_⟩
    · simp [ToTunnel.copyToTunnel, ToTunnel.send, h.written]
    · intro f hf
      rcases List.mem_append.mp hf with hf | hf
      · exact h.valid f hf
      · rw [List.mem_singleton.mp hf]
        trivial
    · simpa [ToTunnel.copyToTunnel, ToTunnel.send, Frame.payload] using h.bytes
    · simp [ToTunnel.copyToTunnel, ToTunnel.send]
    · simp [ToTunnel.copyToTunnel, ToTunnel.send]
  · simp only [ToTunnel.copyToTunnel, hne, if_false, ToTunnel.send]
    refine ⟨?_, ?_, ?_, ?_, ?_, ?_, ?_⟩
    · simp [h.written]
    · intro f hf
      rcases List.mem_append.mp hf with hf | hf
      · exact h.valid f hf
      · rw [List.mem_singleton.mp hf]
        exact hlen
    · rw [← h.bytes, hbuffer]
      simp [Frame.payload]
    · simp [hno]
    · simp [hno]
    · simp [hno]
    · simp

theorem ToOk.step {e : ToEvent} (h : ToOk t) (hs : t.step e = some t') : ToOk t' := by
  cases e with
  | feed data =>
      obtain ⟨r, hr, rfl⟩ := Option.map_eq_some_iff.mp hs
      obtain ⟨heof, rfl⟩ := StreamReader.feedData_eq_some.mp hr
      refine ⟨h.written, h.valid, ?_, ?_, h.order, h.unfinished, h.finished⟩
      · simp [← List.append_assoc, h.bytes]
      · intro hmem
        rw [(h.last hmem).1] at heof
        cases heof
  | feedEof =>
      cases hs
      exact ⟨h.written, h.valid, h.bytes, fun hmem => ⟨rfl, (h.last hmem).2⟩, h.order,
        h.unfinished, h.finished⟩
  | lost e =>
      cases hs
      exact ⟨h.written, h.valid, h.bytes, h.last, h.order, h.unfinished, h.finished⟩
  | read count =>
      simp only [ToTunnel.step] at hs
      split at hs
      · rename_i hp
        cases hr : t.reader.read bufferSize count with
        | none =>
            rw [hr] at hs
            cases hs
        | some res =>
            have hok := h.copyToTunnel hp.1 hr
            rw [hr] at hs
            obtain ⟨_ | _, r⟩ := res <;> cases hs <;> exact hok
      · cases hs
  | drained error =>
      simp only [ToTunnel.step] at hs
      split at hs
      · rename_i last hp
        split at hs
        · cases hs
        · cases hs
          cases last with
          | true => exact h.of_point (by simp) fun _ => h.finished (.inl hp)
          | false => exact h.of_point (fun _ => h.unfinished (.inr hp)) (by simp)
      · split at hs
        · cases hs
        · cases hs
          exact h.of_point (by simp) (by simp)
      · cases hs
  | throw =>
      simp only [ToTunnel.step] at hs
      split at hs
      · cases hs
        exact h.of_point (by simp) (by simp)
      · cases hs

/-! ## The receiving direction -/

/-- No frame is complete at the beginning of `x`. -/
def NoFrame (x : Bytes) : Prop := ∀ f : Frame, f.Ok → ¬ f.encode <+: x

/-- No frame has the header that `x` begins with. -/
def NoHeader (x : Bytes) : Prop := 5 ≤ x.length ∧ ∀ f : Frame, f.Ok → ¬ x.take 5 <+: f.encode

/-- What the bytes after the last complete frame are. -/
def FromRest (t : FromTunnel) (x : Bytes) : Prop :=
  match t.point with
  | .header | .drain => x = t.reader.buffer
  | .payload n => n ≤ bufferSize ∧ x = Frame.header n ++ t.reader.buffer
  | .done (.raised e) =>
      (t.reader.exception.isSome = true ∧ ∃ err, e = .transport err) ∨
        (t.reader.eof = true ∧ NoFrame x ∧ ∃ text, e = .transport (.connection text)) ∨
        NoHeader x
  | .done _ => True

/-- The frames received are the first bytes of the tunnel, and they are what
was written. The EOF frame is received last. -/
structure FromOk (t : FromTunnel) : Prop where
  stream : ∃ x, t.received.flatMap Frame.encode ++ x = t.reader.fed ∧ FromRest t x
  valid : ∀ f ∈ t.received, f.Ok
  log : ∃ n, t.writer.log = t.received.map Frame.op ++ List.replicate n .close ∧
    (t.ended = none → n = 0)
  last : .eof ∈ t.received → ∃ fs, t.received = fs ++ [.eof] ∧ .eof ∉ fs
  returned : .eof ∈ t.received ↔ t.point = .done .returned

theorem FromOk.start : FromOk (.start .empty .empty) where
  stream := ⟨[], rfl, rfl⟩
  valid := by simp [FromTunnel.start]
  log := ⟨0, rfl, fun _ => rfl⟩
  last := by simp [FromTunnel.start]
  returned := by simp [FromTunnel.start]

/-- Less than a header holds no frame. -/
theorem noFrame_of_short {x : Bytes} (h : x.length < 5) : NoFrame x := by
  intro f _ hpre
  have hlen := hpre.length_le
  have hframe := f.length_encode
  omega

/-- A header with less than its payload holds no frame. -/
theorem noFrame_of_truncated {n : Nat} {x : Bytes} (hn : n ≤ bufferSize) (h : x.length < n) :
    NoFrame (Frame.header n ++ x) := by
  intro f hf hpre
  cases f with
  | eof => simp [Frame.encode, Frame.header, tunnelDataFrame, tunnelEofFrame] at hpre
  | data p =>
      have hlen := hpre.length_le
      have hheader : Frame.header p.length <+: Frame.header n ++ x :=
        (List.prefix_append _ _).trans hpre
      have heq : Frame.header p.length = Frame.header n :=
        (List.prefix_of_prefix_length_le hheader (List.prefix_append _ _) (by simp)).eq_of_length
          rfl
      have hp : p.length = n := Frame.header_inj hf hn heq
      simp only [Frame.encode, List.length_append, Frame.length_header] at hlen
      omega

/-- A task that is not done has not received the EOF frame. -/
theorem FromOk.not_eof (h : FromOk u) (hp : u.ended = none) : .eof ∉ u.received := by
  intro hmem
  rw [h.returned] at hmem
  simp [FromTunnel.ended, hmem] at hp

/-- A task that is not done has closed nothing. -/
theorem FromOk.open (h : FromOk u) (hp : u.ended = none) :
    u.writer.log = u.received.map Frame.op := by
  obtain ⟨n, hlog, hn⟩ := h.log
  rw [hlog, hn hp]
  simp

/-- A task raises an exception. -/
theorem FromOk.fail {e : RelayError} {x : Bytes} (h : FromOk u) (hp : u.ended = none)
    {r : StreamReader} (hfed : u.received.flatMap Frame.encode ++ x = r.fed)
    (hx : (r.exception.isSome = true ∧ ∃ err, e = .transport err) ∨
      (r.eof = true ∧ NoFrame x ∧ ∃ text, e = .transport (.connection text)) ∨ NoHeader x) :
    FromOk (FromTunnel.fail { u with reader := r } e) where
  stream := ⟨x, hfed, hx⟩
  valid := h.valid
  log := ⟨0, by simpa [FromTunnel.fail] using h.open hp, fun _ => rfl⟩
  last hmem := absurd hmem (h.not_eof hp)
  returned := by
    refine iff_of_false (h.not_eof hp) ?_
    simp [FromTunnel.fail]

/-- A frame was received. -/
theorem FromOk.receive {f : Frame} {p : FromPoint} {r : StreamReader} (h : FromOk u)
    (hp : u.ended = none) (hf : f.Ok)
    (hfed : u.received.flatMap Frame.encode ++ (f.encode ++ r.buffer) = r.fed)
    (hpoint : (f = .eof ∧ p = .done .returned) ∨ (f ≠ .eof ∧ p = .drain)) :
    FromOk { u with
      reader := r, writer := u.writer.push f.op, point := p, received := u.received ++ [f] } where
  stream := by
    refine ⟨r.buffer, by simpa using hfed, ?_⟩
    rcases hpoint with ⟨-, rfl⟩ | ⟨-, rfl⟩
    · trivial
    · rfl
  valid g hg := by
    rcases List.mem_append.mp hg with hg | hg
    · exact h.valid g hg
    · rw [List.mem_singleton.mp hg]
      exact hf
  log := ⟨0, by simp [h.open hp], fun _ => rfl⟩
  last hmem := by
    refine ⟨u.received, ?_, h.not_eof hp⟩
    rcases List.mem_append.mp hmem with hmem | hmem
    · exact absurd hmem (h.not_eof hp)
    · rw [List.mem_singleton.mp hmem]
  returned := by
    rcases hpoint with ⟨rfl, rfl⟩ | ⟨hne, rfl⟩
    · simp
    · simp [h.not_eof hp, Ne.symm hne]

/-- A type byte and the length. -/
theorem header_cases {data : Bytes} (h : data.length = 5) :
    ∃ b, data.take 1 = [b] ∧ data = b :: pack (unpack (data.drop 1)) := by
  match data, h with
  | b :: rest, h =>
      have hrest : rest.length = 4 := by simpa using h
      exact ⟨b, rfl, by simp [pack_unpack hrest]⟩

/-- A header that is rejected belongs to no frame. -/
theorem noHeader {header rest : Bytes} (hlen : header.length = 5)
    (heof : header.take 1 = [tunnelEofFrame] → unpack (header.drop 1) ≠ 0)
    (hdata : header.take 1 = [tunnelDataFrame] → bufferSize < unpack (header.drop 1)) :
    NoHeader (header ++ rest) := by
  refine ⟨by simp [hlen], fun f hf hpre => ?_⟩
  rw [List.take_append_of_le_length (by omega), List.take_of_length_le (by omega),
    List.prefix_iff_eq_take, hlen] at hpre
  cases f with
  | eof =>
      rw [hpre] at heof
      exact heof rfl rfl
  | data p =>
      have htake : (Frame.data p).encode.take 5 = Frame.header p.length :=
        List.take_left' (Frame.length_header p.length)
      rw [hpre, htake] at hdata
      have hlt : bufferSize < unpack (pack p.length) := hdata rfl
      have hp : p.length ≤ bufferSize := hf
      rw [unpack_pack (by simp [bufferSize] at hp; omega)] at hlt
      omega

theorem FromOk.frameHeader {header rest : Bytes} (h : FromOk u) (hp : u.point = .header)
    (hlen : header.length = 5) (hbuffer : u.reader.buffer = header ++ rest) :
    FromOk (FromTunnel.frameHeader { u with reader := { u.reader with buffer := rest } } true
      header) := by
  have hnone : u.ended = none := by simp [FromTunnel.ended, hp]
  obtain ⟨x, hx, hrest⟩ := h.stream
  simp only [FromRest, hp] at hrest
  obtain ⟨b, hb, hheader⟩ := header_cases hlen
  rw [hrest, hbuffer] at hx
  have hreject : ∀ text, (header.take 1 = [tunnelEofFrame] → unpack (header.drop 1) ≠ 0) →
      (header.take 1 = [tunnelDataFrame] → bufferSize < unpack (header.drop 1)) →
      FromOk (FromTunnel.reject { u with reader := { u.reader with buffer := rest } } text) :=
    fun text heof hdata => h.fail hnone hx (.inr (.inr (noHeader hlen heof hdata)))
  unfold FromTunnel.frameHeader
  dsimp only
  split
  · rename_i heof
    split
    · rename_i hlength
      refine hreject _ (fun _ => hlength) fun hdata => ?_
      rw [heof] at hdata
      cases hdata
    · rename_i hlength
      have hzero : unpack (header.drop 1) = 0 := not_not.mp hlength
      have hb : b = tunnelEofFrame := by simpa [hb] using heof
      refine h.receive (f := .eof) hnone trivial ?_ (.inl ⟨rfl, rfl⟩)
      rw [← hx, hheader, hzero, hb]
      rfl
  · rename_i hneof
    split
    · rename_i hndata
      exact hreject _ (fun heof => absurd heof hneof) fun hdata => absurd hdata hndata
    · rename_i hdata
      split
      · rename_i hlength
        exact hreject _ (fun heof => absurd heof hneof) fun _ => hlength
      · rename_i hlength
        have hdata : header.take 1 = [tunnelDataFrame] := not_not.mp hdata
        have hb : b = tunnelDataFrame := by simpa [hb] using hdata
        have heq : header = Frame.header (unpack (header.drop 1)) := by
          rw [hb] at hheader
          exact hheader
        refine ⟨⟨header ++ rest, hx, Nat.not_lt.mp hlength, ?_⟩, h.valid, ?_, h.last, ?_⟩
        · exact congrArg (fun data => data ++ rest) heq
        · exact ⟨0, by simpa using h.open hnone, fun _ => rfl⟩
        · exact iff_of_false (h.not_eof hnone) (by simp)

/-- `readexactly` is over. -/
theorem FromOk.copyFromTunnel (h : FromOk u) (hs : u.copyFromTunnel true = some u') :
    FromOk u' := by
  obtain ⟨x, hx, hrest⟩ := h.stream
  unfold FromTunnel.copyFromTunnel at hs
  split at hs
  · rename_i hp
    have hnone : u.ended = none := by simp [FromTunnel.ended, hp]
    simp only [FromRest, hp] at hrest
    obtain ⟨res, hr, rfl⟩ := Option.map_eq_some_iff.mp hs
    rcases StreamReader.readexactly_cases hr with ⟨e, he, rfl⟩ | ⟨data, rest, hlen, hbuffer, rfl⟩ |
      ⟨heof, hshort, rfl⟩
    · exact h.fail hnone hx (.inl ⟨by simp [he], _, rfl⟩)
    · exact h.frameHeader hp hlen hbuffer
    · refine h.fail hnone hx (.inr (.inl ⟨heof, noFrame_of_short ?_, _, rfl⟩))
      rw [hrest]
      exact hshort
  · rename_i n hp
    have hnone : u.ended = none := by simp [FromTunnel.ended, hp]
    simp only [FromRest, hp] at hrest
    obtain ⟨hn, rfl⟩ := hrest
    obtain ⟨res, hr, rfl⟩ := Option.map_eq_some_iff.mp hs
    rcases StreamReader.readexactly_cases hr with ⟨e, he, rfl⟩ | ⟨data, rest, hlen, hbuffer, rfl⟩ |
      ⟨heof, hshort, rfl⟩
    · exact h.fail hnone hx (.inl ⟨by simp [he], _, rfl⟩)
    · refine h.receive (f := .data data) hnone ?_ ?_ (.inr ⟨nofun, rfl⟩)
      · exact (hlen ▸ hn : data.length ≤ bufferSize)
      · rw [hbuffer] at hx
        simpa [Frame.encode, hlen] using hx
    · exact h.fail hnone hx (.inr (.inl ⟨heof, noFrame_of_truncated hn hshort, _, rfl⟩))
  · cases hs

/-- More bytes, an end of file or an exception leave what is known of the bytes before. -/
theorem FromOk.reader {r : StreamReader} (h : FromOk u) (data : Bytes)
    (hbuffer : r.buffer = u.reader.buffer ++ data) (hfed : r.fed = u.reader.fed ++ data)
    (hexc : u.reader.exception.isSome = true → r.exception.isSome = true)
    (heof : u.reader.eof = true → r.eof = true ∧ data = []) :
    FromOk { u with reader := r } := by
  obtain ⟨x, hx, hrest⟩ := h.stream
  refine ⟨⟨x ++ data, ?_, ?_⟩, h.valid, h.log, h.last, h.returned⟩
  · rw [hfed, ← hx, List.append_assoc]
  · unfold FromRest at hrest ⊢
    dsimp only
    split at hrest
    · simp only [hrest, hbuffer]
    · simp only [hrest, hbuffer]
    · simp only [hrest.2, hbuffer, List.append_assoc]
      exact ⟨hrest.1, trivial⟩
    · rcases hrest with ⟨hexc', herr⟩ | ⟨heof', hno, htext⟩ | hbad
      · exact .inl ⟨hexc hexc', herr⟩
      · obtain ⟨hr, rfl⟩ := heof heof'
        exact .inr (.inl ⟨hr, by simpa using hno, htext⟩)
      · have hlen := hbad.1
        refine .inr (.inr ⟨by simp; omega, ?_⟩)
        rw [List.take_append_of_le_length hbad.1]
        exact hbad.2
    · trivial

theorem FromOk.step {e : FromEvent} (h : FromOk u) (hs : u.step e = some u')
    (hopen : e ≠ .read false ∧ ∀ err, e ≠ .drained (some err)) : FromOk u' := by
  cases e with
  | feed data =>
      obtain ⟨r, hr, rfl⟩ := Option.map_eq_some_iff.mp hs
      obtain ⟨heof, rfl⟩ := StreamReader.feedData_eq_some.mp hr
      exact h.reader data rfl rfl id fun ht => absurd (heof.symm.trans ht) nofun
  | feedEof =>
      cases hs
      exact h.reader [] (by simp [StreamReader.feedEof]) (by simp [StreamReader.feedEof])
        id fun _ => ⟨rfl, rfl⟩
  | lost e =>
      cases hs
      exact h.reader [] (by simp [StreamReader.setException])
        (by simp [StreamReader.setException]) (fun _ => rfl) fun ht => ⟨ht, rfl⟩
  | read eofWritten =>
      cases eofWritten with
      | false => exact absurd rfl hopen.1
      | true =>
          simp only [FromTunnel.step] at hs
          split at hs
          · cases hs
          · exact h.copyFromTunnel hs
  | drained error =>
      simp only [FromTunnel.step] at hs
      split at hs
      · rename_i hp
        have hnone : u.ended = none := by simp [FromTunnel.ended, hp.1]
        cases error with
        | some err => exact absurd rfl (hopen.2 err)
        | none =>
            cases hs
            obtain ⟨x, hx, hrest⟩ := h.stream
            simp only [FromRest, hp.1] at hrest
            refine ⟨⟨x, hx, hrest⟩, h.valid, ⟨0, by simpa using h.open hnone, fun _ => rfl⟩,
              h.last, iff_of_false (h.not_eof hnone) (by simp)⟩
      · cases hs
  | throw =>
      simp only [FromTunnel.step] at hs
      split at hs
      · rename_i hp
        cases hs
        obtain ⟨x, hx, -⟩ := h.stream
        exact ⟨⟨x, hx, trivial⟩, h.valid, ⟨0, by simpa using h.open hp.2, fun _ => rfl⟩, h.last,
          iff_of_false (h.not_eof hp.2) (by simp)⟩
      · cases hs

end PyFrp
