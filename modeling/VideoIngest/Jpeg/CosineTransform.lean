/-!
The inverse cosine transform, which makes the samples of a block from its coefficients.

It runs over the columns of a block and then over its rows, on integers of 32 bits. The multipliers
are sums of cosines, scaled by 2^12; the columns keep two binary places for the rows.
-/

namespace VideoIngest.Jpeg

abbrev SampleBlock := ByteArray

namespace CosineTransform

/-- The part of a line's values that is the same at both ends, from the coefficients with even
index. -/
def evenPart (line : Nat → Int) : List Int :=
  let sum := (line 0 + line 4) * 4096
  let difference := (line 0 - line 4) * 4096
  let turned := (line 2 + line 6) * 2217
  let outer := turned + line 2 * 3135
  let inner := turned - line 6 * 7567
  [sum + outer, difference + inner, difference - inner, sum - outer]

/-- The part of a line's values that has opposite signs at both ends, from the coefficients with odd
index. -/
def oddPart (line : Nat → Int) : List Int :=
  let turned := (line 1 + line 3 + line 5 + line 7) * 4816
  let first := turned - (line 1 + line 7) * 3685
  let second := turned - (line 3 + line 5) * 10497
  let third := (line 3 + line 7) * 8034
  let fourth := (line 1 + line 5) * 1597
  [line 1 * 6149 + first - fourth, line 3 * 12586 + second - third,
    line 5 * 8410 + second - fourth, line 7 * 1223 + first - third]

/-- The integer of 32 bits with a sign that a value leaves when it overflows. -/
def word (value : Int) : Int := Int.bmod value 4294967296

/-- The eight values along a line of coefficients, after adding `bias` and dividing by `scale`. -/
def inverse (bias scale : Int) (line : Nat → Int) : List Int :=
  let even := evenPart line
  let odd := oddPart line
  (List.zipWith (fun e o => word (e + o + bias) / scale) even odd) ++
    (List.zipWith (fun e o => word (e - o + bias) / scale) even odd).reverse

/-- Along a column: half of the divisor is added, which rounds to the nearest value. -/
def inverseColumn (line : Nat → Int) : List Int := inverse 512 1024 line

/-- Along a row: the middle of the range of samples is added too. -/
def inverseRow (line : Nat → Int) : List Int := inverse (512 + 65536 + 128 * 131072) 131072 line

def sampleOf (value : Int) : UInt8 := UInt8.ofNat (min value.toNat 255)

def flatSamples (first : Int) : SampleBlock :=
  .mk (Array.replicate 64 (sampleOf (word (word first + 1028) / 8)))

def samples (coefficients : Array Int) : SampleBlock :=
  if (coefficients.toList.drop 1).all (· == 0) then flatSamples (coefficients.getD 0 0)
  else
    let columns := (Array.range 8).map fun column =>
      (inverseColumn fun row => coefficients.getD (8 * row + column) 0).toArray
    let values := (List.range 8).flatMap fun row =>
      inverseRow fun column => (columns.getD column #[]).getD row 0
    .mk (values.map sampleOf).toArray

end CosineTransform
end VideoIngest.Jpeg
