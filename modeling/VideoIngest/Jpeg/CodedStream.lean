import VideoIngest.Jpeg.Marker
import VideoIngest.Jpeg.Huffman
import VideoIngest.Jpeg.BitBuffer

/-!
The coded bytes of a scan as a stream of bits.

Bits are read ahead from whole bytes, so a marker is met before the bits in front of it are used up.
From then on there are only zeros. Where the data end without a marker, zeros fill up the bytes that
are being read, and no bits follow. A code has to be there in full; the bits of a number behind it
need not be.
-/

namespace VideoIngest.Jpeg

inductive ScanFault
  | missingTable
  | badCode
  | outOfBits
  | unknownMarker (marker : UInt8)
  deriving DecidableEq, Repr

def ScanFault.message : ScanFault → String
  | missingTable => "missing quantization or Huffman table"
  | badCode => "invalid Huffman code"
  | outOfBits => "end of the coded data"
  | unknownMarker marker => "unknown marker " ++ toString marker.toNat ++ " in a scan"

/-- Whether coded bytes follow: they do, or a marker has been met, or the image is known to have
ended, or the data have ended before it. -/
inductive Supply
  | flowing
  | stopped (marker : UInt8)
  | ended
  | overrun
  deriving DecidableEq, Repr

structure CodedStream where
  bits : BitBuffer
  rest : Bytes
  supply : Supply
  deriving DecidableEq, Repr

inductive CodedItem
  | data (byte : UInt8)
  | marker (code : UInt8)
  deriving DecidableEq, Repr

/-- The next item and the bytes after it. A zero behind the byte `ff` says that it is data, and the
byte may be written several times. -/
def nextItem : Bytes → CodedItem × Bytes
  | [] => (.data 0, [])
  | byte :: rest =>
      if byte = 0xff then
        match rest.dropWhile (· == 0xff) with
        | [] => (.data byte, [])
        | code :: after => (if code = 0 then .data byte else .marker code, after)
      else (.data byte, rest)

namespace CodedStream

def ofBytes (bytes : Bytes) : CodedStream := { bits := .empty, rest := bytes, supply := .flowing }

/-- Reads `count` bytes of data, or those in front of the next marker. An item that begins with the
last byte is known to be the last one. -/
def readAhead : Nat → CodedStream → Except ScanFault CodedStream
  | 0, stream => .ok { stream with bits := stream.bits.aligned }
  | count + 1, stream =>
      match nextItem stream.rest with
      | (.data byte, rest) =>
          let supply := if stream.rest.tail.isEmpty then .overrun else stream.supply
          readAhead count { bits := stream.bits.push byte, rest, supply }
      | (.marker code, rest) =>
          if isKnown code then
            .ok { bits := stream.bits.aligned, rest, supply := .stopped code }
          else .error (.unknownMarker code)

/-- How many bits there are at least before a code is read: it has up to sixteen bits, and so has
the number behind it. -/
def bitsPerCode : Nat := 32

def bytesPerCode : Nat := 4

/-- Reads the bytes for a code. If there are enough of them, and none can begin a marker, they are
taken at once, and none counts as the last one. -/
def readOn (stream : CodedStream) : Except ScanFault CodedStream :=
  match Bytes.takeExactly bytesPerCode stream.rest with
  | some (bytes, rest) =>
      if bytes.contains 0xff then stream.readAhead bytesPerCode
      else .ok { stream with bits := stream.bits.append bytes, rest }
  | none => stream.readAhead bytesPerCode

def fill (stream : CodedStream) : Except ScanFault CodedStream :=
  if bitsPerCode ≤ stream.bits.left.toNat then .ok stream
  else
    match stream.supply with
    | .flowing => stream.readOn
    | .overrun => if stream.bits.left = 0 then .error .outOfBits else .ok stream
    | .stopped _ | .ended =>
        .ok { stream with bits := stream.bits.append (List.replicate bytesPerCode 0) }

def nextSymbol (stream : CodedStream) (table : HuffmanTable) : Except ScanFault (UInt8 × Nat) :=
  match table.decode stream.bits.coming with
  | none => .error .badCode
  | some found => .ok found

def dropCode (stream : CodedStream) (length : Nat) : Except ScanFault CodedStream :=
  if stream.bits.left.toNat < length then .error .outOfBits
  else .ok { stream with bits := stream.bits.drop length }

def symbol (stream : CodedStream) (table : HuffmanTable) :
    Except ScanFault (UInt8 × CodedStream) := do
  let stream ← stream.fill
  let (symbol, length) ← stream.nextSymbol table
  return (symbol, ← stream.dropCode length)

def number (stream : CodedStream) (size : Nat) : Int × CodedStream :=
  let (code, bits) := stream.bits.take size
  (differenceOf size code, { stream with bits })

def bit (stream : CodedStream) : Bool × CodedStream :=
  (stream.bits.peek 0 1 = 1, { stream with bits := stream.bits.drop 1 })

/-- How many bits are looked at together to find a code with the number behind it. -/
def bitsPerLook : Nat := 9

/-- The number of `size` bits behind a code of `length` bits, if a single look shows both and the
number is small. None of these bits has to be left. -/
def closeNumber? (stream : CodedStream) (length size : Nat) : Option (Int × CodedStream) :=
  let value := differenceOf size (stream.bits.peek length size)
  if size ≠ 0 ∧ length + size ≤ bitsPerLook ∧ -128 ≤ value ∧ value ≤ 127 then
    some (value, { stream with bits := stream.bits.drop (length + size) })
  else none

def isExhausted (stream : CodedStream) : Bool :=
  match stream.supply with
  | .stopped _ => stream.bits.left = 0
  | _ => false

/-- The stream up to the next marker, if that is one that is known, and behind it else. -/
def skipToMarker (stream : CodedStream) : CodedStream :=
  match nextMarker stream.rest with
  | none => { stream with rest := [] }
  | some (code, rest) =>
      if isKnown code then { stream with rest, supply := .stopped code } else { stream with rest }

def resumed (stream : CodedStream) : CodedStream := .ofBytes stream.rest

/-- The stream where a restart is due, and whether it has a restart marker there, which may stand
some bytes further on. Where there is none, what has been read ahead is still to come, and some of
it has to be left. -/
def restarted (stream : CodedStream) : Except ScanFault (Bool × CodedStream) := do
  let filled ← stream.fill
  let stream := if filled.supply = .flowing then filled.skipToMarker else filled
  match stream.supply with
  | .stopped marker =>
      if isRestart marker then return (true, stream.resumed) else return (false, stream)
  | _ => return (false, stream)

end CodedStream
end VideoIngest.Jpeg
