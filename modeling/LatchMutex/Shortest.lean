import LatchMutex.Binary64
import LatchMutex.Digits

namespace LatchMutex

/-!
# Shortest decimals

The reals that round to a binary64 number form an interval around it, whose ends
belong to it exactly when the significand is even.  `Binary64.shortest` is the
decimal with the fewest digits in that interval, and the nearest of those to the
number; of two equally near ones, the even one.

Seventeen digits are always enough.  So the interval is first counted in units of
the last of seventeen places, where it becomes a range of natural numbers, and a
decimal of fewer digits is a multiple of a larger unit in that range.
-/

/-- Digits times a power of ten. -/
structure Decimal where
  digits : Nat
  exponent : Int
  deriving Repr, DecidableEq, Inhabited

namespace Decimal

/-- Move trailing zeros of the digits into the exponent, at most so many of them. -/
def stripFor : Nat → Decimal → Decimal
  | 0, decimal => decimal
  | steps + 1, decimal =>
      if decimal.digits ≠ 0 ∧ decimal.digits % 10 = 0 then
        stripFor steps ⟨decimal.digits / 10, decimal.exponent + 1⟩
      else
        decimal

end Decimal

/-- A positive number on a grid of decimals: what it is in units of the grid, as a quotient, and
the least and the greatest multiple of the unit that round to the number. -/
structure DecimalGrid where
  /-- The unit is ten to this power. -/
  exponent : Int
  numerator : Nat
  denominator : Nat
  least : Nat
  greatest : Nat
  deriving Repr, DecidableEq

namespace Binary64

/-- Whether the absolute value is below a power of ten. -/
def isBelowPower (number : Binary64) (exponent : Int) : Bool :=
  number.numerator * Nat.pow 10 (-exponent).toNat <
    number.denominator * Nat.pow 10 exponent.toNat

/-- The first exponent from a given one on whose power of ten is above the absolute value, if it
is reached in so many steps. -/
def climb (number : Binary64) : Nat → Int → Int
  | 0, exponent => exponent
  | steps + 1, exponent =>
      if number.isBelowPower exponent then exponent else climb number steps (exponent + 1)

/-- Least exponent of a power of ten above the absolute value of a positive number.  The start,
from 1233/4096 for the decimal logarithm of two, is never above it and at most two below it. -/
def magnitude (number : Binary64) : Int :=
  let binary := (number.significand.log2 : Int) + number.exponent
  number.climb 2 ((1233 * binary).fdiv 4096)

/-- Units of a quarter of the last place between the number and the lower end of its interval. -/
def gapBelow (number : Binary64) : Nat :=
  if number.significand = Nat.pow 2 (precision - 1) ∧ leastExponent < number.exponent then
    1
  else
    2

/-- A positive number on the grid of the multiples of a power of ten. -/
def onGrid (number : Binary64) (exponent : Int) : DecimalGrid :=
  let scale := number.exponent - 2
  let up := Nat.pow 2 scale.toNat * Nat.pow 10 (-exponent).toNat
  let down := Nat.pow 2 (-scale).toNat * Nat.pow 10 exponent.toNat
  let lower := (4 * number.significand - number.gapBelow) * up
  let upper := (4 * number.significand + 2) * up
  let closed : Bool := number.significand % 2 = 0
  { exponent
    numerator := 4 * number.significand * up
    denominator := down
    least := if closed then (lower + (down - 1)) / down else lower / down + 1
    greatest := if closed then upper / down else (upper - 1) / down }

/-- Greatest number of digits that are ever needed. -/
def greatestLength : Nat := 17

end Binary64

namespace DecimalGrid

/-- The decimal nearest to the number among the multiples of so many units of the grid that
round to it, if there is one; it has as many places less as the step has zeros. -/
def coarser? (grid : DecimalGrid) (places : Nat) : Option Decimal :=
  let step := Nat.pow 10 places
  let lower := grid.numerator / grid.denominator / step
  let exponent := grid.exponent + places
  if grid.least ≤ lower * step then
    if (lower + 1) * step ≤ grid.greatest then
      some ⟨Binary64.roundQuotient grid.numerator (grid.denominator * step), exponent⟩
    else
      some ⟨lower, exponent⟩
  else if (lower + 1) * step ≤ grid.greatest then
    some ⟨lower + 1, exponent⟩
  else
    none

end DecimalGrid

namespace Binary64

/-- The shortest decimal that reads back as the absolute value of a positive number. -/
def shortest (number : Binary64) : Decimal :=
  let grid := number.onGrid (number.magnitude - greatestLength)
  let found :=
    (List.range greatestLength).findSome? fun index =>
      grid.coarser? (greatestLength - 1 - index)
  let exact : Decimal :=
    ⟨number.numerator * Nat.pow 5 (-number.exponent).toNat, min number.exponent 0⟩
  (found.getD exact).stripFor (greatestLength + 1)

end Binary64

/-- How numbers with a fraction are laid out. -/
structure DecimalLayout where
  /-- Least decimal exponent written positionally. -/
  least : Int
  /-- First decimal exponent above those written positionally. -/
  limit : Int
  deriving Repr, DecidableEq

namespace DecimalLayout

/-- Digits with a point after the first so many, or before zeros that make up for missing ones. -/
def positional (digits : List Char) (position : Int) : List Char :=
  if position ≤ 0 then
    "0.".toList ++ List.replicate (-position).toNat '0' ++ digits
  else if digits.length ≤ position.toNat then
    digits ++ List.replicate (position.toNat - digits.length) '0' ++ ".0".toList
  else
    digits.take position.toNat ++ '.' :: digits.drop position.toNat

/-- Digits with a point after the first one, and the exponent with its sign. -/
def scientific (digits : List Char) (exponent : Int) : List Char :=
  let fraction := if digits.length ≤ 1 then [] else '.' :: digits.drop 1
  let sign := if exponent < 0 then '-' else '+'
  digits.take 1 ++ fraction ++ 'e' :: sign :: Digits.text exponent.natAbs

/-- Text of a number; a zero keeps its sign. -/
def text (layout : DecimalLayout) (number : Binary64) : List Char :=
  let sign := if number.negative then ['-'] else []
  if number.isZero then
    sign ++ "0.0".toList
  else
    let decimal := number.shortest
    let digits := Digits.text decimal.digits
    let exponent := decimal.exponent + digits.length - 1
    if layout.least ≤ exponent ∧ exponent < layout.limit then
      sign ++ positional digits (exponent + 1)
    else
      sign ++ scientific digits exponent

end DecimalLayout

end LatchMutex
