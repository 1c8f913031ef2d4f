/-!
Numbers of IEEE 754 binary64 that are not negative, and the nearest one to a quotient.

Rounding goes to the nearest value and from the middle to the even one. It is done on whole numbers,
so that no digit is lost on the way.
-/

namespace VideoIngest.Number

/-- The whole number nearest to a quotient, the even one of two. -/
def roundQuotient (numerator denominator : Nat) : Nat :=
  let quotient := numerator / denominator
  let twice := 2 * (numerator % denominator)
  if denominator < twice ∨ (twice = denominator ∧ quotient % 2 = 1) then quotient + 1
  else quotient

structure Dyadic where
  mantissa : Nat
  exponent : Int
  deriving DecidableEq, Repr

namespace Dyadic

def zero : Dyadic := ⟨0, 0⟩

def fraction (number : Dyadic) : Nat × Nat :=
  if 0 ≤ number.exponent then (number.mantissa * Nat.pow 2 number.exponent.toNat, 1)
  else (number.mantissa, Nat.pow 2 (-number.exponent).toNat)

def lessThan (left right : Dyadic) : Bool :=
  left.fraction.1 * right.fraction.2 < right.fraction.1 * left.fraction.2

end Dyadic

/-- The exponent of the greatest power of two that is at most a positive quotient. -/
def quotientLog (numerator denominator : Nat) : Int :=
  let guess : Int := (numerator.log2 : Int) - denominator.log2
  let reached :=
    if 0 ≤ guess then denominator * Nat.pow 2 guess.toNat ≤ numerator
    else denominator ≤ numerator * Nat.pow 2 (-guess).toNat
  if reached then guess else guess - 1

/-- Mantissas have 53 bits, and no exponent is below this one. -/
def leastExponent : Int := -1074

/-- From 2 ^ 1024 on there are no finite numbers. -/
def isFinite (number : Dyadic) : Bool := number.lessThan ⟨1, 1024⟩

def nearest (numerator denominator : Nat) : Option Dyadic :=
  if numerator = 0 then some .zero
  else
    let exponent := max (quotientLog numerator denominator - 52) leastExponent
    let mantissa :=
      if 0 ≤ exponent then roundQuotient numerator (denominator * Nat.pow 2 exponent.toNat)
      else roundQuotient (numerator * Nat.pow 2 (-exponent).toNat) denominator
    let number : Dyadic := ⟨mantissa, exponent⟩
    if isFinite number then some number else none

def reciprocal (number : Dyadic) : Option Dyadic :=
  nearest number.fraction.2 number.fraction.1

end VideoIngest.Number
