namespace LatchMutex

/-!
# Finite binary64 numbers

A finite binary64 number is a sign and a significand below 2^53 scaled by a
power of two.  Every operation forms the exact quotient of two natural numbers
and rounds it once, to nearest with ties to even; `Binary64.ofRatio?` is that
rounding, and it has no result where the quotient is too large.
-/

/-- A finite binary64 number: significand times a power of two. -/
structure Binary64 where
  negative : Bool := false
  significand : Nat
  exponent : Int
  deriving Repr, DecidableEq, Inhabited

namespace Binary64

/-- Number of significand bits. -/
def precision : Nat := 53

/-- Least exponent of a significand. -/
def leastExponent : Int := -1074

/-- Greatest exponent of a significand. -/
def greatestExponent : Int := 971

/-- Positive zero. -/
def zero : Binary64 where
  significand := 0
  exponent := leastExponent

/-- Whether the number is a zero of either sign. -/
def isZero (number : Binary64) : Bool :=
  number.significand = 0

/-- Numerator of the absolute value. -/
def numerator (number : Binary64) : Nat :=
  number.significand * Nat.pow 2 number.exponent.toNat

/-- Denominator of the absolute value. -/
def denominator (number : Binary64) : Nat :=
  Nat.pow 2 (-number.exponent).toNat

/-- Nearest natural number to a quotient, ties to even. -/
def roundQuotient (numerator denominator : Nat) : Nat :=
  let quotient := numerator / denominator
  let remainder := numerator % denominator
  if denominator < 2 * remainder ∨ (2 * remainder = denominator ∧ quotient % 2 = 1) then
    quotient + 1
  else
    quotient

/-- A significand that was rounded up to the next power of two moves to the next exponent. -/
def renormalize (negative : Bool) (significand : Nat) (exponent : Int) : Binary64 :=
  if significand = Nat.pow 2 precision then
    { negative, significand := Nat.pow 2 (precision - 1), exponent := exponent + 1 }
  else
    { negative, significand, exponent }

/-- The nearest binary64 number to a quotient, if it is not too large. -/
def ofRatio? (negative : Bool) (numerator denominator : Nat) : Option Binary64 :=
  if numerator = 0 then
    some { zero with negative }
  else
    let guess : Int := (numerator.log2 : Int) - denominator.log2 - precision
    let low := max guess leastExponent
    let scaledNumerator := numerator * Nat.pow 2 (-low).toNat
    let scaledDenominator := denominator * Nat.pow 2 low.toNat
    let rounded :=
      if scaledNumerator / scaledDenominator < Nat.pow 2 precision then
        renormalize negative (roundQuotient scaledNumerator scaledDenominator) low
      else
        renormalize negative (roundQuotient scaledNumerator (2 * scaledDenominator)) (low + 1)
    if greatestExponent < rounded.exponent then none else some rounded

/-- The nearest binary64 number to a natural number, if it is not too large. -/
def ofNat? (number : Nat) : Option Binary64 :=
  ofRatio? false number 1

/-- Product, if it is not too large. -/
def mul? (left right : Binary64) : Option Binary64 :=
  ofRatio? (left.negative != right.negative)
    (left.numerator * right.numerator)
    (left.denominator * right.denominator)

/-- Quotient by a number that is not zero, if it is not too large. -/
def div? (left right : Binary64) : Option Binary64 :=
  ofRatio? (left.negative != right.negative)
    (left.numerator * right.denominator)
    (left.denominator * right.numerator)

/-- Nearest number to a power of ten, if it is not too large. -/
def powerOfTen? (exponent : Nat) : Option Binary64 :=
  ofNat? (Nat.pow 10 exponent)

end Binary64

end LatchMutex
