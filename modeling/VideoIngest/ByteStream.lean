import VideoIngest.Bytes

/-!
Byte streams of NAL units separated by start codes.

A start code is 00 00 01, with one more zero in front of it where there is one. The stream is cut
from its end: a byte added in front of a stream that is already cut either completes a start code,
lengthens the first one, or belongs to the bytes in front of it. Cutting loses nothing:
`ByteStream.bytes_ofBytes`.
-/

namespace VideoIngest

inductive StartCode
  | short
  | long
  deriving DecidableEq, Repr

namespace StartCode

def bytes : StartCode → Bytes
  | short => [0, 0, 1]
  | long => [0, 0, 0, 1]

def size : StartCode → Nat
  | short => 3
  | long => 4

theorem length_bytes (code : StartCode) : code.bytes.length = code.size := by
  cases code <;> rfl

end StartCode

structure NalUnit where
  startCode : StartCode
  payload : Bytes
  deriving DecidableEq, Repr

namespace NalUnit

def bytes (unit : NalUnit) : Bytes := unit.startCode.bytes ++ unit.payload

def size (unit : NalUnit) : Nat := unit.startCode.size + unit.payload.length

theorem length_bytes (unit : NalUnit) : unit.bytes.length = unit.size := by
  simp [bytes, size, StartCode.length_bytes]

end NalUnit

/-- A stream cut at every start code: the bytes in front of the first one, then the units, empty
ones among them. -/
structure ByteStream where
  lead : Bytes
  units : List NalUnit
  deriving DecidableEq, Repr

namespace ByteStream

def empty : ByteStream := ⟨[], []⟩

def prepend (byte : UInt8) (stream : ByteStream) : ByteStream :=
  match byte, stream with
  | 0, ⟨0 :: 1 :: payload, units⟩ => ⟨[], ⟨.short, payload⟩ :: units⟩
  | 0, ⟨[], ⟨.short, payload⟩ :: units⟩ => ⟨[], ⟨.long, payload⟩ :: units⟩
  | byte, ⟨lead, units⟩ => ⟨byte :: lead, units⟩

def ofBytes (data : Bytes) : ByteStream :=
  data.foldr prepend empty

def bytes (stream : ByteStream) : Bytes :=
  stream.lead ++ stream.units.flatMap NalUnit.bytes

theorem bytes_prepend (byte : UInt8) (stream : ByteStream) :
    (stream.prepend byte).bytes = byte :: stream.bytes := by
  unfold prepend
  split <;> simp [bytes, NalUnit.bytes, StartCode.bytes]

theorem bytes_ofBytes (data : Bytes) : (ofBytes data).bytes = data := by
  induction data with
  | nil => rfl
  | cons byte rest ih =>
      change ((ofBytes rest).prepend byte).bytes = byte :: rest
      rw [bytes_prepend, ih]

end ByteStream

namespace NalUnit

/-- The units of a byte stream that are not empty, in stream order. -/
def scan (data : Bytes) : List NalUnit :=
  (ByteStream.ofBytes data).units.filter fun unit => !unit.payload.isEmpty

end NalUnit

structure PlacedUnit where
  start : Nat
  unit : NalUnit
  deriving DecidableEq, Repr

namespace PlacedUnit

def payloadStart (placed : PlacedUnit) : Nat := placed.start + placed.unit.startCode.size

def place (offset : Nat) : List NalUnit → List PlacedUnit
  | [] => []
  | unit :: rest => ⟨offset, unit⟩ :: place (offset + unit.size) rest

def scan (data : Bytes) : List PlacedUnit :=
  let stream := ByteStream.ofBytes data
  (place stream.lead.length stream.units).filter fun placed => !placed.unit.payload.isEmpty

theorem map_unit_place (offset : Nat) (units : List NalUnit) :
    (place offset units).map PlacedUnit.unit = units := by
  induction units generalizing offset with
  | nil => rfl
  | cons unit rest ih => simp [place, ih]

theorem map_unit_scan (data : Bytes) : (scan data).map PlacedUnit.unit = NalUnit.scan data := by
  have placed :=
    map_unit_place (ByteStream.ofBytes data).lead.length (ByteStream.ofBytes data).units
  simp only [scan, NalUnit.scan]
  conv => rhs; rw [← placed, List.filter_map]
  rfl

end PlacedUnit
end VideoIngest
