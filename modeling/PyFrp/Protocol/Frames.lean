import PyFrp.Coding.PrefixCode
import PyFrp.Python.Stream

/-!
# The frames of a tunnel (`protocol.py`)

After pairing, a tunnel carries binary frames: a type, the length of the payload
as four bytes, big-endian, and the payload.
-/

namespace PyFrp

open Python Coding

/-- `BUFFER_SIZE`. -/
def bufferSize : Nat := 64 * 1024

/-- `TUNNEL_DATA_FRAME`, `b"D"`. -/
def tunnelDataFrame : UInt8 := 0x44

/-- `TUNNEL_EOF_FRAME`, `b"E"`. -/
def tunnelEofFrame : UInt8 := 0x45

/-- `struct.pack("!I", n)`. -/
def pack (n : Nat) : Bytes :=
  [UInt8.ofNat (n / 0x1000000), UInt8.ofNat (n / 0x10000), UInt8.ofNat (n / 0x100), UInt8.ofNat n]

/-- `struct.unpack("!I", data)[0]` of four bytes. -/
def unpack (data : Bytes) : Nat := data.foldl (fun n b => n * 0x100 + b.toNat) 0

@[simp] theorem length_pack (n : Nat) : (pack n).length = 4 := rfl

theorem unpack_pack {n : Nat} (h : n < 0x100000000) : unpack (pack n) = n := by
  simp only [unpack, pack, List.foldl_cons, List.foldl_nil, UInt8.toNat_ofNat']
  omega

theorem pack_unpack {data : Bytes} (h : data.length = 4) : pack (unpack data) = data := by
  match data, h with
  | [a, b, c, d], _ =>
      have ha := a.toNat_lt
      have hb := b.toNat_lt
      have hc := c.toNat_lt
      have hd := d.toNat_lt
      simp only [unpack, pack, List.foldl_cons, List.foldl_nil, List.cons.injEq, and_true,
        ← UInt8.toNat_inj, UInt8.toNat_ofNat']
      omega

inductive Frame
  | data (payload : Bytes)
  | eof
  deriving DecidableEq

namespace Frame

/-- The header of a data frame. -/
def header (length : Nat) : Bytes := tunnelDataFrame :: pack length

def encode : Frame → Bytes
  | .data payload => header payload.length ++ payload
  | .eof => tunnelEofFrame :: pack 0

/-- The frames a relay sends: no payload exceeds the buffer. -/
def Ok : Frame → Prop
  | .data payload => payload.length ≤ bufferSize
  | .eof => True

/-- What the receiver does with a frame. -/
def op : Frame → WriteOp
  | .data payload => .write payload
  | .eof => .writeEof

/-- The bytes a frame carries. -/
def payload : Frame → Bytes
  | .data payload => payload
  | .eof => []

@[simp] theorem length_header (n : Nat) : (header n).length = 5 := rfl

theorem length_encode (f : Frame) : 5 ≤ f.encode.length := by
  cases f <;> simp [encode]

theorem header_inj {m n : Nat} (hm : m ≤ bufferSize) (hn : n ≤ bufferSize)
    (h : header m = header n) : m = n := by
  have hpack : pack m = pack n := (List.cons.inj h).2
  rw [← unpack_pack (n := m), ← unpack_pack (n := n), hpack] <;> simp [bufferSize] at * <;> omega

/-- No frame begins with another one. -/
theorem prefixCode : PrefixCode encode Ok where
  nonempty {a} _ := by cases a <;> simp [encode, header]
  free {a b} ha hb h := by
    cases a with
    | data p =>
        cases b with
        | data q =>
            have htake : header p.length = header q.length := by
              have h₁ : header p.length <+: header q.length ++ q :=
                (List.prefix_append _ _).trans h
              exact (List.prefix_of_prefix_length_le h₁ (List.prefix_append _ _) (by simp)).eq_of_length
                rfl
            simp only [encode, htake, List.prefix_append_right_inj] at h
            rw [h.eq_of_length (header_inj ha hb htake)]
        | eof => simp [encode, header, tunnelDataFrame, tunnelEofFrame] at h
    | eof =>
        cases b with
        | data q => simp [encode, header, tunnelDataFrame, tunnelEofFrame] at h
        | eof => rfl

end Frame
end PyFrp
