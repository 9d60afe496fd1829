import Mathlib.Data.List.TakeWhile

/-!
# Byte streams

The `StreamReader` and `StreamWriter` of `asyncio`, as far as the program uses
them. The transport feeds a reader in pieces of its own choice, then an end of
file or an exception. A reading call that cannot be answered yet suspends.
-/

namespace Python

abbrev Bytes := List UInt8

/-- The byte of a line feed. -/
def newline : UInt8 := 10

/-- What a transport reports when a connection is lost. -/
inductive TransportError
  /-- `ConnectionError` and its subclasses. -/
  | connection (text : String)
  /-- Any other `OSError`. -/
  | os (text : String)
  deriving DecidableEq

/-- `asyncio.StreamReader`. History: all bytes it was fed. -/
structure StreamReader where
  buffer : Bytes
  eof : Bool
  exception : Option TransportError
  fed : Bytes

/-- What a reading call raises. -/
inductive ReadError
  /-- `IncompleteReadError`. -/
  | incomplete
  /-- The `ValueError` of `readline`. -/
  | limit
  | transport (e : TransportError)
  deriving DecidableEq

namespace StreamReader

def empty : StreamReader := ⟨[], false, none, []⟩

/-- `feed_data`. There is none after the end of file. -/
def feedData (r : StreamReader) (data : Bytes) : Option StreamReader :=
  if r.eof then none else some { r with buffer := r.buffer ++ data, fed := r.fed ++ data }

def feedEof (r : StreamReader) : StreamReader := { r with eof := true }

def setException (r : StreamReader) (e : TransportError) : StreamReader :=
  { r with exception := some e }

/-- `read(n)`. It may return less than the buffer has, `count` bytes; nothing is
returned at the end of file only. -/
def read (r : StreamReader) (n count : Nat) : Option (Except ReadError Bytes × StreamReader) :=
  match r.exception with
  | some e => some (.error (.transport e), r)
  | none =>
      if r.buffer = [] then if r.eof then some (.ok [], r) else none
      else if 0 < count ∧ count ≤ n ∧ count ≤ r.buffer.length then
        some (.ok (r.buffer.take count), { r with buffer := r.buffer.drop count })
      else none

/-- `readexactly(n)`. -/
def readexactly (r : StreamReader) (n : Nat) : Option (Except ReadError Bytes × StreamReader) :=
  match r.exception with
  | some e => some (.error (.transport e), r)
  | none =>
      if n ≤ r.buffer.length then
        some (.ok (r.buffer.take n), { r with buffer := r.buffer.drop n })
      else if r.eof then some (.error .incomplete, { r with buffer := [] })
      else none

/-- The limit of a reader whose stream is opened without one. -/
def defaultLimit : Nat := 64 * 1024

/-- `readline()`: the bytes up to a line feed, or the last ones at the end of
file. A line longer than the limit is dropped. -/
def readline (r : StreamReader) (limit : Nat) :
    Option (Except ReadError Bytes × StreamReader) :=
  match r.exception with
  | some e => some (.error (.transport e), r)
  | none =>
      let line := r.buffer.takeWhile (· ≠ newline)
      match r.buffer.dropWhile (· ≠ newline) with
      | _ :: rest =>
          if limit < line.length then some (.error .limit, { r with buffer := rest })
          else some (.ok (line ++ [newline]), { r with buffer := rest })
      | [] =>
          if limit < line.length then some (.error .limit, { r with buffer := [] })
          else if r.eof then some (.ok line, { r with buffer := [] })
          else none

variable {r : StreamReader} {n count : Nat} {res : Except ReadError Bytes × StreamReader}

theorem feedData_eq_some {data : Bytes} {r' : StreamReader} :
    r.feedData data = some r' ↔
      r.eof = false ∧ r' = { r with buffer := r.buffer ++ data, fed := r.fed ++ data } := by
  unfold feedData
  cases r.eof <;> simp [eq_comm]

theorem read_cases (h : r.read n count = some res) :
    (∃ e, r.exception = some e ∧ res = (.error (.transport e), r)) ∨
      (r.eof = true ∧ r.buffer = [] ∧ res = (.ok [], r)) ∨
      ∃ data rest, data ≠ [] ∧ data.length ≤ n ∧ r.buffer = data ++ rest ∧
        res = (.ok data, { r with buffer := rest }) := by
  unfold read at h
  split at h
  · rename_i e he
    exact .inl ⟨e, he, (Option.some.inj h).symm⟩
  · refine .inr ?_
    split at h
    · rename_i hbuffer
      split at h
      · rename_i heof
        exact .inl ⟨heof, hbuffer, (Option.some.inj h).symm⟩
      · cases h
    · rename_i hbuffer
      split at h
      · rename_i hcount
        refine .inr ⟨_, _, ?_, ?_, (List.take_append_drop count r.buffer).symm,
          (Option.some.inj h).symm⟩
        · simp [List.take_eq_nil_iff, hbuffer]
          omega
        · rw [List.length_take]
          omega
      · cases h

theorem readexactly_cases (h : r.readexactly n = some res) :
    (∃ e, r.exception = some e ∧ res = (.error (.transport e), r)) ∨
      (∃ data rest, data.length = n ∧ r.buffer = data ++ rest ∧
        res = (.ok data, { r with buffer := rest })) ∨
      (r.eof = true ∧ r.buffer.length < n ∧ res = (.error .incomplete, { r with buffer := [] })) := by
  unfold readexactly at h
  split at h
  · rename_i e he
    exact .inl ⟨e, he, (Option.some.inj h).symm⟩
  · refine .inr ?_
    split at h
    · rename_i hn
      exact .inl ⟨_, _, List.length_take_of_le hn, (List.take_append_drop n r.buffer).symm,
        (Option.some.inj h).symm⟩
    · rename_i hn
      split at h
      · rename_i heof
        exact .inr ⟨heof, Nat.not_le.mp hn, (Option.some.inj h).symm⟩
      · cases h

/-- A `readexactly` is answered once the bytes are there, and at the end of file. -/
theorem readexactly_isSome (h : n ≤ r.buffer.length ∨ r.eof = true) :
    ∃ res, r.readexactly n = some res := by
  unfold readexactly
  split
  · exact ⟨_, rfl⟩
  · by_cases hn : n ≤ r.buffer.length
    · exact ⟨_, if_pos hn⟩
    · exact ⟨_, by rw [if_neg hn, if_pos (h.resolve_left hn)]⟩

section

variable {line rest : Bytes} {limit : Nat} (he : r.exception = none) (hline : newline ∉ line)
include he hline

/-- A whole line is there. -/
theorem readline_line (hbuffer : r.buffer = line ++ newline :: rest) :
    r.readline limit = some (if limit < line.length then .error .limit else .ok (line ++ [newline]),
      { r with buffer := rest }) := by
  have hall : ∀ b ∈ line, (b ≠ newline : Bool) = true := fun b hb =>
    decide_eq_true fun heq => hline (heq ▸ hb)
  have htake : r.buffer.takeWhile (· ≠ newline) = line := by
    rw [hbuffer, List.takeWhile_append_of_pos hall, List.takeWhile_cons_of_neg (by simp),
      List.append_nil]
  have hdrop : r.buffer.dropWhile (· ≠ newline) = newline :: rest := by
    rw [hbuffer, List.dropWhile_append_of_pos hall, List.dropWhile_cons_of_neg (by simp)]
  unfold readline
  rw [he]
  dsimp only
  rw [htake, hdrop]
  dsimp only
  split <;> rfl

/-- The end of the line is not there yet. -/
theorem readline_part (hbuffer : r.buffer = line) (hlimit : line.length ≤ limit) :
    r.readline limit = if r.eof then some (.ok line, { r with buffer := [] }) else none := by
  have hall : ∀ b ∈ line, (b ≠ newline : Bool) = true := fun b hb =>
    decide_eq_true fun heq => hline (heq ▸ hb)
  have htake : r.buffer.takeWhile (· ≠ newline) = line := by
    rw [hbuffer, List.takeWhile_eq_self_iff]
    exact hall
  have hdrop : r.buffer.dropWhile (· ≠ newline) = [] := by
    rw [hbuffer, List.dropWhile_eq_nil_iff]
    exact hall
  unfold readline
  rw [he]
  dsimp only
  rw [htake, hdrop]
  dsimp only
  rw [if_neg (Nat.not_lt.mpr hlimit)]

end

end StreamReader

/-- An operation on a `StreamWriter`. -/
inductive WriteOp
  | write (data : Bytes)
  | writeEof
  | close
  deriving DecidableEq

/-- `asyncio.StreamWriter`, as the operations made on it. -/
structure StreamWriter where
  log : List WriteOp

namespace StreamWriter

def empty : StreamWriter := ⟨[]⟩

def push (w : StreamWriter) (op : WriteOp) : StreamWriter := ⟨w.log ++ [op]⟩

/-- The bytes written. -/
def written (w : StreamWriter) : Bytes :=
  w.log.flatMap fun
    | .write data => data
    | _ => []

def isClosing (w : StreamWriter) : Bool := w.log.contains .close

/-- `close_writer` up to its wait. -/
def closeOnce (w : StreamWriter) : StreamWriter := if w.isClosing then w else w.push .close

@[simp] theorem log_push (w : StreamWriter) (op : WriteOp) : (w.push op).log = w.log ++ [op] :=
  rfl

@[simp] theorem written_write (w : StreamWriter) (data : Bytes) :
    (w.push (.write data)).written = w.written ++ data := by
  simp [written]

@[simp] theorem written_close (w : StreamWriter) : (w.push .close).written = w.written := by
  simp [written]

theorem isClosing_push (w : StreamWriter) (op : WriteOp) :
    (w.push op).isClosing = (w.isClosing || decide (op = .close)) := by
  simp [isClosing, eq_comm]

@[simp] theorem written_closeOnce (w : StreamWriter) : w.closeOnce.written = w.written := by
  unfold closeOnce
  split
  · rfl
  · exact written_close w

end StreamWriter
end Python
