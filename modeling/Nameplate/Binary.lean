/-!
Numbers with a limited count of binary digits.

A number is kept as a significand of at most 53 bits and a power of two that is
neither too small nor too large.  A fraction is kept as the nearest such number,
of two equally near ones as that with the even significand.  All arithmetic is on
natural numbers, so nothing is lost before the one rounding.

A kept number is written with the fewest decimal digits that lead back to it,
and of the decimals with so few digits as the nearest.
-/

namespace Nameplate

/-- The number `significand · 2 ^ exponent`. -/
structure Binary where
  significand : Nat
  exponent : Int
deriving DecidableEq, Repr

structure Fraction where
  numerator : Nat
  denominator : Nat

def Fraction.scale (fraction : Fraction) (base : Nat) (exponent : Int) : Fraction :=
  ⟨fraction.numerator * Nat.pow base exponent.toNat,
    fraction.denominator * Nat.pow base (-exponent).toNat⟩

/-- The natural number nearest to a fraction, of two equally near ones the even
one. -/
def Fraction.nearest (fraction : Fraction) : Nat :=
  let below := fraction.numerator / fraction.denominator
  let twice := 2 * (fraction.numerator % fraction.denominator)
  if twice < fraction.denominator ∨ twice = fraction.denominator ∧ below % 2 = 0 then below
  else below + 1

namespace Binary

def precision : Nat := 53

def significandBound : Nat := Nat.pow 2 precision

/-- The smallest significand with all its bits. -/
def leastFull : Nat := Nat.pow 2 (precision - 1)

/-- The smallest power of two.  Numbers near zero have it and fewer bits. -/
def leastExponent : Int := -1074

def greatestExponent : Int := 971

/-- The power of two from which on a fraction has as many bits as a significand
may have, unless the power is too small. -/
def exponentOf (fraction : Fraction) : Int :=
  let guess : Int := (fraction.numerator.log2 : Int) - fraction.denominator.log2 - precision
  let scaled := fraction.scale 2 (-guess)
  let exponent :=
    if scaled.numerator / scaled.denominator < significandBound then guess else guess + 1
  max exponent leastExponent

/-- The number that a fraction is kept as; none if it is too large. -/
def ofFraction? (fraction : Fraction) : Option Binary :=
  let exponent := exponentOf fraction
  let significand := (fraction.scale 2 (-exponent)).nearest
  let kept : Binary :=
    if significand = significandBound then ⟨leastFull, exponent + 1⟩
    else ⟨significand, exponent⟩
  if kept.exponent ≤ greatestExponent then some kept else none

def toFraction (value : Binary) : Fraction :=
  (Fraction.mk value.significand 1).scale 2 value.exponent

/-- The power of ten of the first decimal digit of a number that is not zero.
For a power of ten below one it is one less. -/
def leadingPower (value : Binary) : Int :=
  let fraction := value.toFraction
  if fraction.denominator ≤ fraction.numerator then
    (Nat.toDigits 10 (fraction.numerator / fraction.denominator)).length - 1
  else
    -(Nat.toDigits 10 (fraction.denominator / fraction.numerator)).length

/-- The multiple of a power of ten that is nearest to a number among those that
lead back to it, if there is one.

Four times the number is compared with four times the multiples, because the
numbers that are rounded to it reach up to half a unit of its last bit to either
side, and only a quarter of it to the side on which the bits grow finer.  The
ends of that range lead back if the significand is even. -/
def nearestMultiple? (value : Binary) (power : Int) : Option Nat :=
  let unit := (Fraction.mk 4 1).scale 10 power |>.scale 2 (-value.exponent)
  let centre := 4 * value.significand * unit.denominator
  let isFiner := value.significand = leastFull ∧ leastExponent < value.exponent
  let low := centre - (if isFiner then 1 else 2) * unit.denominator
  let high := centre + 2 * unit.denominator
  let leadsBack (multiple : Nat) : Bool :=
    let size := multiple * unit.numerator
    if value.significand % 2 = 0 then low ≤ size && size ≤ high
    else low < size && size < high
  let below := centre / unit.numerator
  let above := below + 1
  match leadsBack below, leadsBack above with
  | true, true =>
      let down := centre - below * unit.numerator
      let up := above * unit.numerator - centre
      if down < up ∨ down = up ∧ below % 2 = 0 then some below else some above
  | true, false => some below
  | false, true => some above
  | false, false => none

def maximumDigits : Nat := 17

/-- A number that is not zero as a multiple of a power of ten, with the fewest
digits that lead back to it.  All its digits would do if no fewer did. -/
def shortest (value : Binary) : Nat × Int :=
  let leading := value.leadingPower
  let found := (List.range maximumDigits).findSome? fun (places : Nat) =>
    let power := leading - (places : Int)
    (value.nearestMultiple? power).map fun multiple => (multiple, power)
  found.getD
    (value.significand * Nat.pow 2 value.exponent.toNat * Nat.pow 5 (-value.exponent).toNat,
      min value.exponent 0)

end Binary

end Nameplate
