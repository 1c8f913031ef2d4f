import VideoIngest.Bytes

/-!
Huffman tables as JPEG writes them: how many codes there are of each length, and the symbols in the
order of their codes.

Codes of one length are consecutive numbers, and the first code of the next length follows the last
one with a zero appended.
-/

namespace VideoIngest.Jpeg

structure HuffmanTable where
  counts : List Nat
  symbols : List UInt8
  deriving DecidableEq, Repr

namespace HuffmanTable

def mostSymbols : Nat := 256

/-- Whether there are enough codes from the present length on. Of `capacity` codes that are one bit
shorter the first `used` are taken. The code of ones alone is never given out. -/
def fitsFrom : Nat → Nat → List Nat → Bool
  | _, _, [] => true
  | capacity, used, count :: counts =>
      let capacity := 2 * capacity
      let used := 2 * used + count
      (count == 0 || used < capacity) && fitsFrom capacity used counts

def fits (counts : List Nat) : Bool :=
  counts.foldr (· + ·) 0 ≤ mostSymbols && fitsFrom 1 0 counts

/-- Decodes from the lengths that are left. `first` is the first code of the present length less its
last bit, `code` is what has been read, and the bits come from the top of a word. -/
def decodeFrom : List Nat → List UInt8 → Nat → Nat → UInt64 → Option (UInt8 × Nat)
  | [], _, _, _, _ => none
  | count :: counts, symbols, first, code, bits =>
      let first := 2 * first
      let code := 2 * code + (bits >>> 63).toNat
      if code < first + count then (symbols[code - first]?).map fun symbol => (symbol, 1)
      else
        (decodeFrom counts (symbols.drop count) (first + count) code (bits <<< 1)).map
          fun (symbol, length) => (symbol, length + 1)

def decode (table : HuffmanTable) (bits : UInt64) : Option (UInt8 × Nat) :=
  decodeFrom table.counts table.symbols 0 0 bits

end HuffmanTable

/-- The number that a JPEG difference code of `size` bits stands for: the upper half of the codes
for the positive numbers, the lower half for the negative ones. -/
def differenceOf (size code : Nat) : Int :=
  if 2 * code < Nat.pow 2 size then (code : Int) - (Nat.pow 2 size - 1 : Nat) else code

end VideoIngest.Jpeg
