import VideoIngest.Bytes

/-!
Syntax elements read from a list of bits: fixed-length numbers and Exp-Golomb codes.

A reader takes the bits that are left and returns its value with those after it.
-/

namespace VideoIngest

inductive ReadError
  | endOfData (element : String)
  | codeTooLong (element : String)
  deriving DecidableEq, Repr

namespace ReadError

def message : ReadError → String
  | endOfData element =>
      "ReaderErrorFor(\"" ++ element ++ "\", Error \x7b kind: UnexpectedEof, " ++
        "message: \"failed to fill whole buffer\" \x7d)"
  | codeTooLong element => "ExpGolombTooLarge(\"" ++ element ++ "\")"

end ReadError

abbrev BitReader (ε α : Type) := StateT (List Bool) (Except ε) α

namespace Bits

/-- The lowest `width` bits of a number, most significant first. -/
def ofNat : Nat → Nat → List Bool
  | 0, _ => []
  | width + 1, value => ofNat width (value / 2) ++ [value % 2 == 1]

def ofByte (byte : UInt8) : List Bool := ofNat 8 byte.toNat

def ofBytes (bytes : Bytes) : List Bool :=
  bytes.flatMap ofByte

def toNat (bits : List Bool) : Nat :=
  bits.foldl (fun value bit => 2 * value + bit.toNat) 0

def leadingZeros? : List Bool → Option (Nat × List Bool)
  | [] => none
  | true :: rest => some (0, rest)
  | false :: rest => (leadingZeros? rest).map fun found => (found.1 + 1, found.2)

end Bits

namespace BitReader

def mapError {ε ε' α : Type} (wrap : ε → ε') (reader : BitReader ε α) : BitReader ε' α :=
  fun bits => (reader bits).mapError wrap

def uint (element : String) (width : Nat) : BitReader ReadError Nat := fun bits =>
  let taken := bits.take width
  if taken.length = width then .ok (Bits.toNat taken, bits.drop width)
  else .error (.endOfData element)

def flag (element : String) : BitReader ReadError Bool
  | [] => .error (.endOfData element)
  | bit :: rest => .ok (bit, rest)

def skip (element : String) (width : Nat) : BitReader ReadError Unit := do
  let _ ← uint element width

def longestRun : Nat := 31

/-- An unsigned Exp-Golomb code: a run of zeros, a one bit, then as many bits as zeros. -/
def ue (element : String) : BitReader ReadError Nat := fun bits =>
  match Bits.leadingZeros? bits with
  | none => .error (.endOfData element)
  | some (zeros, rest) =>
      if longestRun < zeros then .error (.codeTooLong element)
      else (uint element zeros rest).map fun read => (Nat.pow 2 zeros - 1 + read.1, read.2)

/-- The integer at a place of the sequence 0, 1, -1, 2, -2, … -/
def signedOfRank (rank : Nat) : Int :=
  if rank % 2 = 1 then ((rank + 1) / 2 : Nat) else -((rank / 2 : Nat) : Int)

def se (element : String) : BitReader ReadError Int := fun bits =>
  (ue element bits).map fun read => (signedOfRank read.1, read.2)

def repeated {ε α : Type} (reader : BitReader ε α) : Nat → BitReader ε Unit
  | 0 => pure ()
  | count + 1 => do
      let _ ← reader
      repeated reader count

end BitReader
end VideoIngest
