import Pinpoint.Decimal.Rounding

/-!
# Binary64 numbers

The numbers that a decimal fraction is read as: a sign and a significand times a power of two,
within the range and precision of the 64-bit binary format, or one of the values that are not
finite. Reading rounds the exact decimal value to the nearest such number, a tie to the even
significand. All arithmetic is exact, on natural numbers.
-/

namespace Pinpoint.Decimal

/-- A 64-bit binary number. A finite one is `significand * 2 ^ exponent`, with a sign that zero
has too. -/
inductive Binary64 where
  | finite (negative : Bool) (significand : Nat) (exponent : Int)
  | infinity (negative : Bool)
  | notANumber
  deriving BEq, DecidableEq, Repr

namespace Binary64

/-- The number of bits of a significand. -/
def precision : Nat := 53

/-- The least exponent of a finite number. -/
def minExponent : Int := -1074

/-- The greatest exponent of a finite number. -/
def maxExponent : Int := 971

/-- Rounds a positive quotient to the nearest finite number, or to infinity beyond the greatest
one. The exponent is chosen so that the significand fills the precision, unless that would take
it below the least exponent. -/
def ofQuotient (negative : Bool) (numerator denominator : Nat) : Binary64 :=
  let scaled (exponent : Int) : Nat × Nat :=
    (numerator * Nat.pow 2 (-exponent).toNat, denominator * Nat.pow 2 exponent.toNat)
  let estimate : Int := numerator.log2 - denominator.log2 - precision
  let full := scaled estimate
  let filling := if full.1 / full.2 < Nat.pow 2 precision then estimate else estimate + 1
  let exponent := max minExponent filling
  let parts := scaled exponent
  let significand := roundQuotient parts.1 parts.2
  let rounded := if significand = Nat.pow 2 precision then (significand / 2, exponent + 1)
    else (significand, exponent)
  if rounded.2 > maxExponent then .infinity negative
  else .finite negative rounded.1 rounded.2

/-- The number nearest to `digits * 10 ^ exponent`. Values far beyond the range are decided by
their magnitude alone, so that no huge power is computed. -/
def ofDecimal (negative : Bool) (digits : Nat) (exponent : Int) : Binary64 :=
  if digits = 0 then .finite negative 0 minExponent
  else if exponent > 400 then .infinity negative
  else if exponent + (digits.log2 + 1) < -400 then .finite negative 0 minExponent
  else ofQuotient negative (digits * Nat.pow 10 exponent.toNat) (Nat.pow 10 (-exponent).toNat)

/-- Whether a number is zero of either sign. -/
def isZero : Binary64 → Bool
  | .finite _ significand _ => significand == 0
  | _ => false

/-- The integer part of a finite number, rounded toward zero. -/
def truncate? : Binary64 → Option Int
  | .finite negative significand exponent =>
    let magnitude := significand * Nat.pow 2 exponent.toNat / Nat.pow 2 (-exponent).toNat
    some (if negative then -(magnitude : Int) else magnitude)
  | _ => none

end Binary64

end Pinpoint.Decimal
