import LatchMutex.Shortest

namespace LatchMutex

/-!
# Numbers of JSON text

A literal is the number as it was spelled.  A literal without fraction and
exponent that fits 64 bits, signed or unsigned, is an integer; every other one is
a binary64 number, read from as many leading digits as fit 64 bits and one power
of ten.  A literal that is too large has no value.
-/

/-- Integers that fit 64 bits, signed or unsigned. -/
structure WideInteger where
  value : Int
  inRange : Int64.minValue.toInt ≤ value ∧ value < UInt64.size
  deriving Repr, DecidableEq

instance : Inhabited WideInteger := ⟨⟨0, by decide⟩⟩

/-- A number of a JSON value. -/
inductive Number where
  | integer (value : WideInteger)
  | float (value : Binary64)
  deriving Repr, DecidableEq, Inhabited

namespace Number

/-- An integer as a number, if it fits. -/
def ofInt? (value : Int) : Option Number :=
  if inRange : Int64.minValue.toInt ≤ value ∧ value < UInt64.size then
    some (.integer ⟨value, inRange⟩)
  else
    none

/-- Layout of binary64 numbers: positional from 1e-5 up to 1e16. -/
def layout : DecimalLayout where
  least := -5
  limit := 16

/-- Text of a number. -/
def text : Number → List Char
  | .integer value => Digits.signedText value.value
  | .float value => layout.text value

end Number

/-- A number as it was spelled. -/
structure Literal where
  negative : Bool := false
  /-- Digits before the point. -/
  whole : List Nat
  /-- Digits after the point, if there is a point. -/
  fraction : Option (List Nat) := none
  /-- Whether the exponent is negative, and its digits, if there is one. -/
  exponent : Option (Bool × List Nat) := none
  deriving Repr, DecidableEq, Inhabited

namespace Literal

/-- First number that does not fit 64 bits. -/
def wordLimit : Nat := UInt64.size

/-- First number that does not fit a signed 32-bit exponent. -/
def exponentLimit : Nat := Nat.pow 2 31

/-- A significand under construction and the power of ten that belongs to it. -/
structure Scaled where
  significand : Nat
  exponent : Int
  /-- Whether digits are still taken. -/
  isOpen : Bool := true
  deriving Repr, DecidableEq

/-- Take a digit before the point; from the first one that does not fit, count places instead. -/
def takeWhole (scaled : Scaled) (digit : Nat) : Scaled :=
  let longer := Digits.push scaled.significand digit
  if scaled.isOpen ∧ longer < wordLimit then
    { scaled with significand := longer }
  else
    { scaled with exponent := scaled.exponent + 1, isOpen := false }

/-- Take a digit after the point; from the first one that does not fit, take none. -/
def takeFraction (scaled : Scaled) (digit : Nat) : Scaled :=
  let longer := Digits.push scaled.significand digit
  if scaled.isOpen ∧ longer < wordLimit then
    { scaled with significand := longer, exponent := scaled.exponent - 1 }
  else
    { scaled with isOpen := false }

/-- Leading digits that fit 64 bits, with the power of ten of their last place. -/
def scaled (literal : Literal) : Scaled :=
  let whole := literal.whole.foldl takeWhole ⟨0, 0, true⟩
  match literal.fraction with
  | none => whole
  | some digits => digits.foldl takeFraction { whole with isOpen := true }

/-- Scale a number by a power of ten, in steps of at most 308 places. -/
def scaleFor : Nat → Binary64 → Int → Option Binary64
  | 0, number, _ => some number
  | steps + 1, number, exponent =>
      if exponent.natAbs ≤ 308 then do
        let power ← Binary64.powerOfTen? exponent.natAbs
        if 0 ≤ exponent then number.mul? power else number.div? power
      else if number.isZero then
        some number
      else if 0 ≤ exponent then
        none
      else do
        let power ← Binary64.powerOfTen? 308
        let smaller ← number.div? power
        scaleFor steps smaller (exponent + 308)

/-- Scale a number by a power of ten; after four steps down nothing is left of it. -/
def scale (number : Binary64) (exponent : Int) : Option Binary64 :=
  scaleFor 5 number exponent

/-- Binary64 value of the literal, if it is not too large. -/
def float? (literal : Literal) : Option Binary64 := do
  let scaled := literal.scaled
  let magnitude ←
    match literal.exponent with
    | none => do
        let significand ← Binary64.ofNat? scaled.significand
        scale significand scaled.exponent
    | some (below, digits) =>
        let exponent := Digits.toNatUpTo exponentLimit digits
        if exponentLimit ≤ exponent then
          if scaled.significand ≠ 0 ∧ below = false then none else some .zero
        else do
          let significand ← Binary64.ofNat? scaled.significand
          scale significand (if below then scaled.exponent - exponent
            else scaled.exponent + exponent)
  pure { magnitude with negative := literal.negative }

/-- Whether the literal is spelled as an integer. -/
def isInteger (literal : Literal) : Bool :=
  literal.fraction.isNone && literal.exponent.isNone

/-- Integer that the literal spells; a negative zero is none, and digits that spell more than the
first number that does not fit 64 bits count as that number. -/
def integer? (literal : Literal) : Option Int :=
  if literal.isInteger then
    let magnitude : Int := Digits.toNatUpTo wordLimit literal.whole
    if literal.negative then
      if magnitude = 0 then none else some (-magnitude)
    else
      some magnitude
  else
    none

/-- Value of the literal, if it is not too large. -/
def number? (literal : Literal) : Option Number :=
  match literal.integer?.bind Number.ofInt? with
  | some number => some number
  | none => literal.float?.map .float

end Literal

end LatchMutex
