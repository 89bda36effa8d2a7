import Nameplate.Binary

/-!
Decimals: numbers that are written with a point or an exponent.

A decimal is not kept as it was written but as the binary number nearest to it,
so digits beyond the seventeenth rarely matter, and a number that is too large or
too close to zero is infinite or zero.  Its text has the fewest digits that lead
back to the binary number.
-/

namespace Nameplate

inductive Decimal where
  /-- A sign and `digits · 10 ^ exponent`. -/
  | finite (negative : Bool) (digits : Nat) (exponent : Int)
  | infinite (negative : Bool)
  /-- What is written in place of a number that does not exist. -/
  | undefined
deriving DecidableEq, Repr

namespace Decimal

/-- The power of ten from which on a number is surely too large, and below whose
inverse it is surely zero. -/
def beyond : Int := 400

/-- The decimal that is kept of `digits · 10 ^ exponent`.  Numbers far out of
range are told by the count of their bits, so that no power is computed for
them: a bit is at least three tenths of a digit and at most a third of one. -/
def ofWritten (negative : Bool) (digits : Nat) (exponent : Int) : Decimal :=
  let bits : Int := digits.log2
  if digits = 0 then .finite negative 0 0
  else if beyond < 3 * bits / 10 + exponent then .infinite negative
  else if bits / 3 + 1 + exponent < -beyond then .finite negative 0 0
  else
    match Binary.ofFraction? ((Fraction.mk digits 1).scale 10 exponent) with
    | none => .infinite negative
    | some kept =>
        if kept.significand = 0 then .finite negative 0 0
        else .finite negative kept.shortest.1 kept.shortest.2

def isZero : Decimal → Bool
  | .finite _ digits _ => digits = 0
  | _ => false

/-- The text of a number's digits without its sign: positional, with at least
one digit on either side of the point, while the leading digit stands between
the fourth place after the point and the sixteenth place before it, and with an
exponent of at least two digits elsewhere. -/
def unsignedText (digits : Nat) (exponent : Int) : List Char :=
  let written := Nat.toDigits 10 digits
  let significant := (written.reverse.dropWhile (· = '0')).reverse
  let point : Int := written.length + exponent
  if significant.isEmpty then ['0', '.', '0']
  else if -4 < point ∧ point ≤ 0 then
    '0' :: '.' :: List.replicate (-point).toNat '0' ++ significant
  else if 0 < point ∧ point ≤ 16 then
    let whole := significant.take point.toNat
    let fraction := significant.drop point.toNat
    whole ++ List.replicate (point.toNat - whole.length) '0' ++ '.' ::
      (if fraction.isEmpty then ['0'] else fraction)
  else
    let power := point - 1
    let powerDigits := Nat.toDigits 10 power.natAbs
    significant.take 1 ++ (if significant.length = 1 then [] else '.' :: significant.drop 1) ++
      'e' :: (if power < 0 then '-' else '+') ::
        (List.replicate (2 - powerDigits.length) '0' ++ powerDigits)

/-- The text of a decimal in messages. -/
def text : Decimal → String
  | .finite negative digits exponent =>
      String.ofList ((if negative then ['-'] else []) ++ unsignedText digits exponent)
  | .infinite negative => if negative then "-inf" else "inf"
  | .undefined => "nan"

/-- The text of a decimal in documents. -/
def written : Decimal → String
  | .finite negative digits exponent => text (.finite negative digits exponent)
  | .infinite negative => if negative then "-Infinity" else "Infinity"
  | .undefined => "NaN"

example : (ofWritten false 5000000000000000000000001 (-25)).text = "0.5" ∧
    (ofWritten true 1 22).text = "-1e+22" ∧ (ofWritten false 3 (-324)).text = "5e-324" ∧
    (ofWritten false 2 (-324)).text = "0.0" ∧
    ofWritten false 17976931348623159 292 = .infinite false := by
  decide +kernel

end Decimal

end Nameplate
