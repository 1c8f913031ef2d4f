import VideoIngest.Jpeg.CodedStream
import VideoIngest.Jpeg.CosineTransform

/-!
A block of a component: eight by eight samples, coded by their coefficients.

The first coefficient is coded as the difference from that of the component's block before. The
others follow in order of growing detail, with the runs of zeros between them.
-/

namespace VideoIngest.Jpeg

def codedOrder : List Nat :=
  [0, 1, 8, 16, 9, 2, 3, 10, 17, 24, 32, 25, 18, 11, 4, 5, 12, 19, 26, 33, 40, 48, 41, 34, 27, 20,
    13, 6, 7, 14, 21, 28, 35, 42, 49, 56, 57, 50, 43, 36, 29, 22, 15, 23, 30, 37, 44, 51, 58, 59,
    52, 45, 38, 31, 39, 46, 53, 60, 61, 54, 47, 55, 62, 63]

structure BlockCoding where
  quantizer : List Nat
  dc : HuffmanTable
  ac : HuffmanTable
  deriving DecidableEq, Repr

/-- The coefficients of a block: the first one, and those of the others that are coded, by their
position in coded order. Of several at one position the last one holds. -/
structure Coefficients where
  first : Int
  details : List (Nat × Int)
  deriving DecidableEq, Repr

namespace Coefficients

def scale (quantizer : List Nat) (position : Nat) (coefficient : Int) : Int :=
  coefficient * (quantizer.getD position 0 : Nat)

def scaled (coefficients : Coefficients) (quantizer : List Nat) : Array Int :=
  let start := (Array.replicate 64 0).setIfInBounds 0 (scale quantizer 0 coefficients.first)
  coefficients.details.foldl (fun block (position, coefficient) =>
    block.setIfInBounds (codedOrder.getD position 0) (scale quantizer position coefficient)) start

def samples (coefficients : Coefficients) (quantizer : List Nat) : SampleBlock :=
  if coefficients.details.isEmpty then
    CosineTransform.flatSamples (scale quantizer 0 coefficients.first)
  else CosineTransform.samples (coefficients.scaled quantizer)

end Coefficients

namespace BlockCoding

def lastPosition : Nat := 63

/-- The coefficients from a position on, up to the symbol that ends the block. A run that leads past
the last position ends there if its coefficient is seen with it in a single look, and goes on at the
first position else. -/
def decodeDetails (coding : BlockCoding) (position : Nat) (stream : CodedStream) :
    Except ScanFault (List (Nat × Int) × CodedStream) :=
  if _ : position ≤ lastPosition then do
    let stream ← stream.fill
    let (symbol, length) ← stream.nextSymbol coding.ac
    let run := symbol.toNat / 16
    let size := symbol.toNat % 16
    match stream.closeNumber? length size with
    | some (value, stream) =>
        let (others, stream) ← coding.decodeDetails (position + run + 1) stream
        return ((min (position + run) lastPosition, value) :: others, stream)
    | none =>
        let stream ← stream.dropCode length
        if size ≠ 0 then
          let (value, stream) := stream.number size
          let (others, stream) ← coding.decodeDetails (position + run + 1) stream
          return (((position + run) % (lastPosition + 1), value) :: others, stream)
        else if run = 15 then coding.decodeDetails (position + 16) stream
        else return ([], stream)
  else return ([], stream)
  termination_by lastPosition + 1 - position

/-- The coefficients of the block behind one whose first coefficient is `prediction`. -/
def decode (coding : BlockCoding) (prediction : Int) (stream : CodedStream) :
    Except ScanFault (Coefficients × CodedStream) := do
  let (size, stream) ← stream.symbol coding.dc
  let (difference, stream) := stream.number size.toNat
  let (details, stream) ← coding.decodeDetails 1 stream
  return ({ first := prediction + difference, details }, stream)

end BlockCoding
end VideoIngest.Jpeg
