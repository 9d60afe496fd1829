import PyFrp.Coop.System
import PyFrp.Python.Json

/-!
# Control messages (`protocol.py`)

A message is one line of compact JSON. `loads` stands for `json.loads`; what is
assumed of it is that it undoes `dumps`, also with the line feed behind.
-/

namespace PyFrp

open Python Coop

/-- `MAX_MESSAGE_BYTES`. -/
def maxMessageBytes : Nat := 1024 * 1024

/-- What `read_message` and `write_message` raise. -/
inductive MessageError
  /-- `ProtocolError`. -/
  | protocol (text : String)
  /-- A `ValueError` of `readline` or of `loads` that is no `JSONDecodeError`. -/
  | value
  | transport (e : TransportError)
  deriving DecidableEq

/-- What `json.loads` raises. -/
inductive LoadsError
  /-- `JSONDecodeError`. -/
  | decode
  /-- Another `ValueError`, of a number with too many digits. -/
  | value

section

variable (floatRepr : PyFloat → List Char) (loads : List Char → Except LoadsError Value)

/-- The payload of a message. -/
def messagePayload (message : Fields) : Bytes := encodeUtf8 ((Value.dict message).dumps floatRepr)

/-- `write_message` up to its `drain`. -/
def writeMessage (w : StreamWriter) (message : Fields) : Except MessageError StreamWriter :=
  let payload := messagePayload floatRepr message
  if maxMessageBytes < payload.length then .error (.protocol "message exceeds maximum size")
  else .ok (w.push (.write (payload ++ [newline])))

/-- `read_message` after `readline`. -/
def parseMessage (line : Bytes) : Except MessageError (Option Fields) :=
  if line = [] then .ok none
  else if maxMessageBytes < line.length then .error (.protocol "message exceeds maximum size")
  else
    match decodeUtf8 line with
    | none => .error (.protocol "message is not valid JSON")
    | some text =>
        match loads text with
        | .error .decode => .error (.protocol "message is not valid JSON")
        | .error .value => .error .value
        | .ok (.dict fields) => .ok (some fields)
        | .ok _ => .error (.protocol "message must be a JSON object")

def readMessage (r : StreamReader) :
    Option (Except MessageError (Option Fields) × StreamReader) :=
  (r.readline StreamReader.defaultLimit).map fun
    | (.ok line, r) => (parseMessage loads line, r)
    | (.error (.transport e), r) => (.error (.transport e), r)
    | (.error _, r) => (.error .value, r)

/-! ## Repeated reading -/

/-- A reader and the results of the calls of `read_message` on it. -/
structure Reading where
  reader : StreamReader
  results : List (Except MessageError (Option Fields))

inductive ReadingEvent
  | feed (data : Bytes)
  | feedEof
  /-- A call of `read_message` is over. -/
  | read

/-- A call that raised, or returned `None`, was the last one. -/
def Reading.over (s : Reading) : Bool :=
  s.results.any fun
    | .ok (some _) => false
    | _ => true

/-- Some bytes arrive in pieces of any size and are read as messages. -/
def messageSystem (bytes : Bytes) : System Reading ReadingEvent where
  init := ⟨.empty, []⟩
  step s
    | .feed data =>
        if (s.reader.fed ++ data).isPrefixOf bytes then
          (s.reader.feedData data).map fun r => { s with reader := r }
        else none
    | .feedEof => if s.reader.fed = bytes then some { s with reader := s.reader.feedEof } else none
    | .read =>
        if s.over then none
        else (readMessage loads s.reader).map fun res => ⟨res.2, s.results ++ [res.1]⟩

/-- The messages in order, and then `None`. -/
def expected (ms : List Fields) : List (Except MessageError (Option Fields)) :=
  ms.map (fun m => .ok (some m)) ++ [.ok none]

/-- However the bytes arrive, reading them gives the messages, and then `None`. -/
def RoundTrip (ms : List Fields) (bytes : Bytes) : Prop :=
  ∀ s, (messageSystem loads bytes).Reachable s →
    s.results <+: expected ms ∧
      (s.reader.eof = true → ∃ s', (messageSystem loads bytes).Runs (fun _ a => a = .read) s s' ∧
        s'.results = expected ms)

end

/-! ## One line -/

section

variable {floatRepr : PyFloat → List Char} {loads : List Char → Except LoadsError Value}
  {r : StreamReader} {m : Fields}

theorem newline_not_mem_payload (hfloat : ∀ x, '\n' ∉ floatRepr x) (m : Fields) :
    newline ∉ messagePayload floatRepr m := fun h =>
  Value.newline_not_mem_dumps hfloat _ (newline_mem_encodeUtf8 h)

/-- A line that is not too long is read as the message it was written from. -/
theorem parseMessage_line
    (hloads : loads ((Value.dict m).dumps floatRepr ++ ['\n']) = .ok (.dict m))
    (hlen : (messagePayload floatRepr m).length ≤ StreamReader.defaultLimit) :
    parseMessage loads (messagePayload floatRepr m ++ [newline]) = .ok (some m) := by
  have hdecode : decodeUtf8 (messagePayload floatRepr m ++ [newline]) =
      some ((Value.dict m).dumps floatRepr ++ ['\n']) := by
    have henc : messagePayload floatRepr m ++ [newline] =
        encodeUtf8 ((Value.dict m).dumps floatRepr ++ ['\n']) := by
      rw [messagePayload, encodeUtf8, encodeUtf8, List.flatMap_append]
      rfl
    rw [henc, decodeUtf8_encodeUtf8]
  have hmax : ¬ maxMessageBytes < (messagePayload floatRepr m ++ [newline]).length := by
    rw [List.length_append, maxMessageBytes]
    rw [StreamReader.defaultLimit] at hlen
    simp only [List.length_singleton]
    omega
  simp only [parseMessage, List.append_eq_nil_iff, List.cons_ne_nil, and_false, if_false, hmax,
    hdecode, hloads]

variable (loads) in
theorem readMessage_line {rest : Bytes} (he : r.exception = none)
    (hfloat : ∀ x, '\n' ∉ floatRepr x)
    (hbuffer : r.buffer = messagePayload floatRepr m ++ newline :: rest) :
    readMessage loads r =
      some (if StreamReader.defaultLimit < (messagePayload floatRepr m).length then .error .value
        else parseMessage loads (messagePayload floatRepr m ++ [newline]),
        { r with buffer := rest }) := by
  rw [readMessage, StreamReader.readline_line he (newline_not_mem_payload hfloat m) hbuffer]
  split <;> rfl

/-- What is written for a message. -/
def messageLine (floatRepr : PyFloat → List Char) (m : Fields) : Bytes :=
  messagePayload floatRepr m ++ [newline]

variable (loads) in
/-- A part of the lines to come that begins inside the first one. -/
theorem readMessage_part {ms : List Fields} (he : r.exception = none)
    (hfloat : ∀ x, '\n' ∉ floatRepr x)
    (hshort : (messagePayload floatRepr m).length ≤ StreamReader.defaultLimit)
    (hbuffer : r.buffer <+: (m :: ms).flatMap (messageLine floatRepr)) :
    (∃ rest, r.buffer = messagePayload floatRepr m ++ newline :: rest) ∨
      (r.buffer <+: messagePayload floatRepr m ∧
        (r.eof = false → readMessage loads r = none)) := by
  have hline : messagePayload floatRepr m ++ [newline] <+:
      (m :: ms).flatMap (messageLine floatRepr) := by
    rw [List.flatMap_cons]
    exact List.prefix_append _ _
  rcases List.prefix_or_prefix_of_prefix hline hbuffer with ⟨rest, hrest⟩ | hpart
  · exact .inl ⟨rest, by simp [← hrest]⟩
  · rcases List.prefix_concat_iff.mp hpart with hwhole | hpart
    · exact .inl ⟨[], hwhole⟩
    · refine .inr ⟨hpart, fun heof => ?_⟩
      have hno : newline ∉ r.buffer := fun hmem =>
        newline_not_mem_payload hfloat m (hpart.subset hmem)
      rw [readMessage, StreamReader.readline_part he hno rfl (hpart.length_le.trans hshort), heof]
      rfl

variable (loads) in
theorem readMessage_eof (he : r.exception = none) (hbuffer : r.buffer = []) :
    readMessage loads r = if r.eof then some (.ok none, { r with buffer := [] }) else none := by
  rw [readMessage, StreamReader.readline_part he List.not_mem_nil hbuffer (Nat.zero_le _)]
  split <;> rfl

/-! ## The state of a reader of messages -/

/-- Some messages were read, and what has arrived of the others is in the buffer. -/
def Midway (floatRepr : PyFloat → List Char) (todo : List Fields) (ms : List Fields)
    (s : Reading) : Prop :=
  ∃ done, ms = done ++ todo ∧ s.results = done.map (fun m => .ok (some m)) ∧
    done.flatMap (messageLine floatRepr) ++ s.reader.buffer = s.reader.fed

structure ReadingOk (floatRepr : PyFloat → List Char) (ms : List Fields) (s : Reading) : Prop where
  connected : s.reader.exception = none
  arrived : s.reader.fed <+: ms.flatMap (messageLine floatRepr)
  whole : s.reader.eof = true → s.reader.fed = ms.flatMap (messageLine floatRepr)
  progress : s.results = expected ms ∨ ∃ todo, Midway floatRepr todo ms s

theorem Midway.not_over {todo ms : List Fields} {s : Reading} (h : Midway floatRepr todo ms s) :
    s.over = false := by
  obtain ⟨done, -, hresults, -⟩ := h
  simp [Reading.over, hresults]

theorem over_of_expected {ms : List Fields} {s : Reading} (h : s.results = expected ms) :
    s.over = true := by
  simp [Reading.over, h, expected]

/-- What is in the buffer is the beginning of the lines to come. -/
theorem Midway.buffer {todo ms : List Fields} {s : Reading} (h : Midway floatRepr todo ms s)
    (hfed : s.reader.fed <+: ms.flatMap (messageLine floatRepr)) :
    s.reader.buffer <+: todo.flatMap (messageLine floatRepr) := by
  obtain ⟨done, rfl, -, hbuffer⟩ := h
  rwa [← hbuffer, List.flatMap_append, List.prefix_append_right_inj] at hfed

theorem Midway.buffer_eq {todo ms : List Fields} {s : Reading} (h : Midway floatRepr todo ms s)
    (hfed : s.reader.fed = ms.flatMap (messageLine floatRepr)) :
    s.reader.buffer = todo.flatMap (messageLine floatRepr) := by
  obtain ⟨done, rfl, -, hbuffer⟩ := h
  rw [← hbuffer, List.flatMap_append] at hfed
  exact List.append_cancel_left hfed

/-- A message was read. -/
theorem Midway.read {todo ms : List Fields} {s : Reading} {rest : Bytes}
    (h : Midway floatRepr (m :: todo) ms s)
    (hrest : s.reader.buffer = messagePayload floatRepr m ++ newline :: rest) :
    Midway floatRepr todo ms ⟨{ s.reader with buffer := rest }, s.results ++ [.ok (some m)]⟩ := by
  obtain ⟨done, rfl, hresults, hbuffer⟩ := h
  refine ⟨done ++ [m], by simp, by simp [hresults], ?_⟩
  rw [← hbuffer, hrest]
  simp [messageLine]

/-- What is assumed of the text of floats and of `json.loads`. -/
structure JsonOk (floatRepr : PyFloat → List Char) (loads : List Char → Except LoadsError Value)
    (ms : List Fields) : Prop where
  float : ∀ x, '\n' ∉ floatRepr x
  undo : ∀ m ∈ ms, loads ((Value.dict m).dumps floatRepr) = .ok (.dict m)
  space : ∀ text, loads (text ++ ['\n']) = loads text

variable {ms : List Fields}

theorem JsonOk.line (hj : JsonOk floatRepr loads ms) (hm : m ∈ ms) :
    loads ((Value.dict m).dumps floatRepr ++ ['\n']) = .ok (.dict m) :=
  (hj.space _).trans (hj.undo m hm)

/-- A call of `read_message` waits, or brings the reader forward. -/
theorem ReadingOk.read {todo : List Fields} {s : Reading} (h : ReadingOk floatRepr ms s)
    (hj : JsonOk floatRepr loads ms) (hmid : Midway floatRepr todo ms s)
    (hshort : ∀ m ∈ ms, (messagePayload floatRepr m).length ≤ StreamReader.defaultLimit) :
    (s.reader.eof = false ∧ readMessage loads s.reader = none) ∨
      ∃ res, readMessage loads s.reader = some res ∧ res.2.eof = s.reader.eof ∧
        ReadingOk floatRepr ms ⟨res.2, s.results ++ [res.1]⟩ := by
  have hbuffer := hmid.buffer h.arrived
  cases todo with
  | nil =>
      have hnil : s.reader.buffer = [] := List.prefix_nil.mp hbuffer
      have hread := readMessage_eof loads h.connected hnil
      cases heof : s.reader.eof with
      | false => exact .inl ⟨rfl, by rw [hread, heof]; rfl⟩
      | true =>
          obtain ⟨done, hms, hresults, -⟩ := hmid
          rw [List.append_nil] at hms
          refine .inr ⟨(.ok none, { s.reader with buffer := [] }), hread.trans (if_pos heof), heof,
            h.connected, h.arrived, h.whole, .inl ?_⟩
          simp [hresults, hms, expected]
  | cons m todo =>
      have hmem : m ∈ ms := by
        obtain ⟨done, rfl, -⟩ := hmid
        simp
      rcases readMessage_part loads h.connected hj.float (hshort m hmem) hbuffer with
        ⟨rest, hrest⟩ | ⟨hpart, hnone⟩
      · have hread := readMessage_line loads h.connected hj.float hrest
        rw [if_neg (Nat.not_lt.mpr (hshort m hmem)),
          parseMessage_line (hj.line hmem) (hshort m hmem)] at hread
        exact .inr ⟨_, hread, rfl, h.connected, h.arrived, h.whole, .inr ⟨todo, hmid.read hrest⟩⟩
      · cases heof : s.reader.eof with
        | false => exact .inl ⟨rfl, hnone heof⟩
        | true =>
            -- at the end of file the whole line is there
            have hwhole := hmid.buffer_eq (h.whole heof)
            have hnl : newline ∈ s.reader.buffer := by
              rw [hwhole, List.flatMap_cons, messageLine]
              simp
            exact absurd (hpart.subset hnl) (newline_not_mem_payload hj.float m)

theorem ReadingOk.step {s s' : Reading} {a : ReadingEvent} (h : ReadingOk floatRepr ms s)
    (hj : JsonOk floatRepr loads ms)
    (hshort : ∀ m ∈ ms, (messagePayload floatRepr m).length ≤ StreamReader.defaultLimit)
    (hs : (messageSystem loads (ms.flatMap (messageLine floatRepr))).step s a = some s') :
    ReadingOk floatRepr ms s' := by
  cases a with
  | feed data =>
      simp only [messageSystem] at hs
      split at hs
      · rename_i hprefix
        obtain ⟨r, hr, rfl⟩ := Option.map_eq_some_iff.mp hs
        obtain ⟨heof, rfl⟩ := StreamReader.feedData_eq_some.mp hr
        refine ⟨h.connected, List.isPrefixOf_iff_prefix.mp hprefix,
          fun ht => absurd (heof.symm.trans ht) (by simp), ?_⟩
        rcases h.progress with hexp | ⟨todo, done, hms, hresults, hbuffer⟩
        · exact .inl hexp
        · exact .inr ⟨todo, done, hms, hresults, by simp [← hbuffer]⟩
      · cases hs
  | feedEof =>
      simp only [messageSystem] at hs
      split at hs
      · rename_i hfed
        cases hs
        exact ⟨h.connected, h.arrived, fun _ => hfed, h.progress⟩
      · cases hs
  | read =>
      simp only [messageSystem] at hs
      split at hs
      · cases hs
      · rename_i hover
        obtain ⟨res, hres, rfl⟩ := Option.map_eq_some_iff.mp hs
        rcases h.progress with hexp | ⟨todo, hmid⟩
        · exact absurd (over_of_expected hexp) hover
        · rcases h.read hj hmid hshort with ⟨-, hnone⟩ | ⟨res', hres', -, hok⟩
          · rw [hnone] at hres
            cases hres
          · rw [hres'] at hres
            cases hres
            exact hok

theorem ReadingOk.results_prefix {s : Reading} (h : ReadingOk floatRepr ms s) :
    s.results <+: expected ms := by
  rcases h.progress with hexp | ⟨todo, done, hms, hresults, -⟩
  · exact hexp ▸ List.prefix_rfl
  · rw [hresults, expected, hms, List.map_append, List.append_assoc]
    exact List.prefix_append _ _

/-- Short messages make the round trip. -/
theorem roundTrip_of_short (hj : JsonOk floatRepr loads ms)
    (hshort : ∀ m ∈ ms, (messagePayload floatRepr m).length ≤ StreamReader.defaultLimit) :
    RoundTrip loads ms (ms.flatMap (messageLine floatRepr)) := by
  intro s hs
  have hok : ReadingOk floatRepr ms s := by
    refine hs.invariant ⟨rfl, List.nil_prefix, ?_, .inr ⟨ms, [], rfl, rfl, rfl⟩⟩
      fun _ _ _ _ h _ hstep => h.step hj hshort hstep
    intro h
    cases h
  refine ⟨hok.results_prefix, fun heof => ?_⟩
  suffices hrun : ∃ s', (messageSystem loads (ms.flatMap (messageLine floatRepr))).Runs
      (fun _ a => a = .read) s s' ∧ (ReadingOk floatRepr ms s' ∧ s'.reader.eof = true) ∧
        s'.results = expected ms by
    obtain ⟨s', hrun, -, hexp⟩ := hrun
    exact ⟨s', hrun, hexp⟩
  refine System.exists_runs_of_weight (fun s => (expected ms).length - s.results.length) ?_
    ⟨hok, heof⟩
  rintro s ⟨hok, heof⟩ hne
  obtain ⟨todo, hmid⟩ := hok.progress.resolve_left hne
  rcases hok.read hj hmid hshort with ⟨hno, -⟩ | ⟨res, hres, heof', hok'⟩
  · rw [heof] at hno
    cases hno
  · refine ⟨.read, _, rfl, ?_, ⟨hok', heof'.trans heof⟩, fun _ => ?_⟩
    · simp [messageSystem, hmid.not_over, hres]
    · have hlen := hok'.results_prefix.length_le
      simp only [List.length_append, List.length_singleton] at hlen ⊢
      omega

/-- What has been read from a reader with everything in its buffer, before a
message that is too long, can be followed by a `ValueError` only. -/
theorem Midway.fails {todo : List Fields} {s : Reading} (hj : JsonOk floatRepr loads ms)
    (h : Midway floatRepr todo ms s) (he : s.reader.exception = none)
    (hbuffer : s.reader.buffer = todo.flatMap (messageLine floatRepr))
    (hlong : ∃ m ∈ todo, StreamReader.defaultLimit < (messagePayload floatRepr m).length) :
    ∃ s', (messageSystem loads (ms.flatMap (messageLine floatRepr))).Runs (fun _ _ => True) s s' ∧
      ¬ s'.results <+: expected ms := by
  induction todo generalizing s with
  | nil =>
      obtain ⟨m, hm, -⟩ := hlong
      cases hm
  | cons m todo ih =>
      have hmem : m ∈ ms := by
        obtain ⟨done, rfl, -⟩ := h
        simp
      have hrest : s.reader.buffer =
          messagePayload floatRepr m ++ newline :: todo.flatMap (messageLine floatRepr) := by
        rw [hbuffer, List.flatMap_cons, messageLine, List.append_assoc]
        rfl
      have hread := readMessage_line loads he hj.float hrest
      have hstep {res : Except MessageError (Option Fields)} (hres : readMessage loads s.reader =
          some (res, { s.reader with buffer := todo.flatMap (messageLine floatRepr) })) :
          (messageSystem loads (ms.flatMap (messageLine floatRepr))).step s .read = some
            ⟨{ s.reader with buffer := todo.flatMap (messageLine floatRepr) },
              s.results ++ [res]⟩ := by
        simp [messageSystem, h.not_over, hres]
      by_cases hm : StreamReader.defaultLimit < (messagePayload floatRepr m).length
      · rw [if_pos hm] at hread
        refine ⟨_, .tail .refl trivial (hstep hread), ?_⟩
        obtain ⟨done, rfl, hresults, -⟩ := h
        simp [hresults, expected]
      · rw [if_neg hm, parseMessage_line (hj.line hmem) (Nat.not_lt.mp hm)] at hread
        obtain ⟨m', hm', hlong⟩ := hlong
        have htodo : m' ∈ todo := by
          rcases List.mem_cons.mp hm' with rfl | htodo
          · exact absurd hlong hm
          · exact htodo
        obtain ⟨s', hrun, hs'⟩ := ih (h.read hrest) he rfl ⟨m', htodo, hlong⟩
        exact ⟨s', (System.Runs.tail .refl trivial (hstep hread)).trans hrun, hs'⟩

/-- A message that is too long does not make the round trip. -/
theorem not_roundTrip_of_long (hj : JsonOk floatRepr loads ms)
    (hlong : ∃ m ∈ ms, StreamReader.defaultLimit < (messagePayload floatRepr m).length) :
    ¬ RoundTrip loads ms (ms.flatMap (messageLine floatRepr)) := by
  intro h
  let bytes := ms.flatMap (messageLine floatRepr)
  have hfeed : (messageSystem loads bytes).step (messageSystem loads bytes).init (.feed bytes) =
      some ⟨⟨bytes, false, none, bytes⟩, []⟩ := by
    simp [messageSystem, StreamReader.empty, StreamReader.feedData]
  have hmid : Midway floatRepr ms ms ⟨⟨bytes, false, none, bytes⟩, []⟩ := ⟨[], rfl, rfl, rfl⟩
  obtain ⟨s, hrun, hs⟩ := hmid.fails hj rfl rfl hlong
  exact hs (h s (System.Runs.trans (.tail .refl trivial hfeed) hrun)).1

/-! ## The round trip -/

/-- Repeated `write_message`. -/
def writeMessages (floatRepr : PyFloat → List Char) (ms : List Fields) :
    Except MessageError StreamWriter :=
  ms.foldlM (writeMessage floatRepr) .empty

theorem writeMessages_written {w w' : StreamWriter}
    (h : ms.foldlM (writeMessage floatRepr) w = .ok w') :
    w'.written = w.written ++ ms.flatMap (messageLine floatRepr) := by
  induction ms generalizing w with
  | nil =>
      cases h
      simp
  | cons m ms ih =>
      rw [List.foldlM_cons] at h
      unfold writeMessage at h
      dsimp only at h
      split at h
      · cases h
      · have htail := ih h
        rw [htail, StreamWriter.written_write, List.flatMap_cons, messageLine, List.append_assoc]

theorem writeMessages_eq {w : StreamWriter} (h : writeMessages floatRepr ms = .ok w) :
    w.written = ms.flatMap (messageLine floatRepr) := by
  simpa [StreamWriter.empty, StreamWriter.written] using writeMessages_written h

theorem writeMessages_singleton (h : (messagePayload floatRepr m).length ≤ maxMessageBytes) :
    ∃ w, writeMessages floatRepr [m] = .ok w := by
  simp only [writeMessages, List.foldlM_cons, List.foldlM_nil, writeMessage,
    if_neg (Nat.not_lt.mpr h)]
  exact ⟨_, rfl⟩

/-- Messages that `write_message` accepts make the round trip if and only if no
payload exceeds the limit of the stream. -/
theorem message_roundtrip {w : StreamWriter} (hj : JsonOk floatRepr loads ms)
    (hw : writeMessages floatRepr ms = .ok w) :
    RoundTrip loads ms w.written ↔
      ∀ m ∈ ms, (messagePayload floatRepr m).length ≤ StreamReader.defaultLimit := by
  rw [writeMessages_eq hw]
  constructor
  · intro h m hm
    by_contra hlong
    exact not_roundTrip_of_long hj ⟨m, hm, Nat.not_le.mp hlong⟩ h
  · exact roundTrip_of_short hj

end

/-- A message with a text of `n` characters. -/
def textMessage (n : Nat) : Fields := [("a", .str (String.ofList (List.replicate n 'x')))]

theorem length_textMessage (floatRepr : PyFloat → List Char) (n : Nat) :
    (messagePayload floatRepr (textMessage n)).length = n + 8 := by
  have hescape : escapeChar 'x' = ['x'] := by decide
  have hencode : String.utf8EncodeChar 'x' = [120] := by decide
  have htext : (List.replicate n 'x').flatMap escapeChar = List.replicate n 'x' := by
    simp [List.flatMap_replicate, hescape]
  have hascii : '{'.utf8Size = 1 ∧ '}'.utf8Size = 1 ∧ ':'.utf8Size = 1 ∧ '"'.utf8Size = 1 ∧
      ((escapeChar 'a').map fun c => c.utf8Size).sum = 1 := by decide
  obtain ⟨h₁, h₂, h₃, h₄, h₅⟩ := hascii
  simp only [messagePayload, textMessage, Value.dumps, dumpsEntries, dumpsEntry, quote, encodeUtf8]
  simp [htext, List.flatMap_replicate, hencode, h₁, h₂, h₃, h₄, h₅]
  omega

/-- `json.loads` of the one text of a message. -/
theorem jsonOk_const (m : Fields) :
    JsonOk (fun _ => ['0', '.', '0']) (fun _ => .ok (.dict m)) [m] where
  float _ := by decide
  undo m' hm := by rw [List.mem_singleton.mp hm]
  space _ := rfl

def examplePing : Fields := [("type", .str "ping"), ("time", .int 1)]

def examplePong : Fields := [("type", .str "pong"), ("time", .int 1)]

/-- `json.loads` of the texts of the two messages. -/
def exampleMessageLoads (text : List Char) : Except LoadsError Value :=
  .ok (.dict (if 'o' ∈ text then examplePong else examplePing))

theorem jsonOk_exampleMessageLoads :
    JsonOk (fun _ => ['0', '.', '0']) exampleMessageLoads [examplePing, examplePong] where
  float _ := by decide
  undo := by
    intro m hm
    rcases List.mem_cons.mp hm with rfl | hm
    · rfl
    · rw [List.mem_singleton.mp hm]
      rfl
  space text := by simp [exampleMessageLoads]

theorem message_roundtrip_pong : ∃ w,
    writeMessages (fun _ => ['0', '.', '0']) [examplePing, examplePong] = .ok w ∧
    RoundTrip exampleMessageLoads [examplePing, examplePong] w.written :=
  ⟨_, rfl, (message_roundtrip jsonOk_exampleMessageLoads rfl).mpr (by decide)⟩

/-- A message just over 64 KiB is written, and cannot be read. -/
theorem message_too_long : ∃ floatRepr loads m w, JsonOk floatRepr loads [m] ∧
    (messagePayload floatRepr m).length = 65537 ∧ writeMessages floatRepr [m] = .ok w ∧
    ¬ RoundTrip loads [m] w.written := by
  have hj := jsonOk_const (textMessage 65529)
  have hlen := length_textMessage (fun _ => ['0', '.', '0']) 65529
  have hmax : ¬ maxMessageBytes <
      (messagePayload (fun _ => ['0', '.', '0']) (textMessage 65529)).length := by
    rw [hlen]
    decide
  obtain ⟨w, hw⟩ := writeMessages_singleton (Nat.not_lt.mp hmax)
  refine ⟨_, _, _, w, hj, hlen, hw, ?_⟩
  rw [writeMessages_eq hw]
  refine not_roundTrip_of_long hj ⟨_, List.mem_singleton_self _, ?_⟩
  rw [hlen]
  decide

end PyFrp
