import VideoIngest.Number.Binary64
import VideoIngest.Text.Blank

/-!
Decimal numbers as text: a sign, digits with at most one point among them, and a power of ten; or
the name of infinity or of no number, in any case of letters.
-/

namespace VideoIngest.Number

/-- The value of a number's text in binary64. Of a negative number only its sign is kept. -/
inductive Value
  | notANumber
  | infinite
  | negative
  | finite (number : Dyadic)
  deriving DecidableEq, Repr

def ofDigits (digits : List Char) : Nat :=
  digits.foldl (fun value digit => value * 10 + (digit.toNat - '0'.toNat)) 0

structure Decimal where
  whole : List Char
  fraction : List Char
  exponent : Int
  deriving DecidableEq, Repr

namespace Decimal

def coefficient (decimal : Decimal) : Nat := ofDigits (decimal.whole ++ decimal.fraction)

def scale (decimal : Decimal) : Int := decimal.exponent - decimal.fraction.length

def digitCount (decimal : Decimal) : Nat := (Nat.toDigits 10 decimal.coefficient).length

/-- The nearest number of binary64. Powers of ten that lie far outside its range are not computed:
from 10 ^ 310 on every number is infinite, and below 10 ^ (-330) it is zero. -/
def value (decimal : Decimal) : Value :=
  let magnitude := decimal.scale + decimal.digitCount
  if decimal.coefficient = 0 ∨ magnitude < -330 then .finite .zero
  else if 310 < magnitude then .infinite
  else
    let rounded :=
      if 0 ≤ decimal.scale then nearest (decimal.coefficient * Nat.pow 10 decimal.scale.toNat) 1
      else nearest decimal.coefficient (Nat.pow 10 (-decimal.scale).toNat)
    match rounded with
    | none => .infinite
    | some number => .finite number

end Decimal

def splitSign : List Char → Bool × List Char
  | '-' :: rest => (true, rest)
  | '+' :: rest => (false, rest)
  | text => (false, text)

def parseExponent (text : List Char) : Option Int :=
  let (isNegative, digits) := splitSign text
  if digits.isEmpty || !digits.all Char.isDigit then none
  else some (if isNegative then -(ofDigits digits : Int) else ofDigits digits)

def parsePower : List Char → Option Int
  | [] => some 0
  | letter :: text => if letter = 'e' ∨ letter = 'E' then parseExponent text else none

def parseDecimal (text : List Char) : Option Decimal :=
  let whole := text.takeWhile Char.isDigit
  let afterWhole := text.dropWhile Char.isDigit
  let (fraction, power) := match afterWhole with
    | '.' :: rest => (rest.takeWhile Char.isDigit, rest.dropWhile Char.isDigit)
    | rest => ([], rest)
  if whole.isEmpty && fraction.isEmpty then none
  else (parsePower power).map fun exponent => { whole, fraction, exponent }

def named (text : List Char) : Option Value :=
  match String.ofList (text.map Char.toLower) with
  | "inf" | "infinity" => some .infinite
  | "nan" => some .notANumber
  | _ => none

def parseUnsigned (text : List Char) : Option Value :=
  match named text with
  | some value => some value
  | none => (parseDecimal text).map Decimal.value

def parse (text : String) : Option Value :=
  let (isNegative, unsigned) := splitSign text.toList
  (parseUnsigned unsigned).map fun value =>
    match value with
    | .notANumber => .notANumber
    | value => if isNegative && value != .finite .zero then .negative else value

end VideoIngest.Number
