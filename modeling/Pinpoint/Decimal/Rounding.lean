/-!
# Rounding

Quotients of natural numbers, rounded to whole numbers.
-/

namespace Pinpoint.Decimal

/-- The quotient rounded to the nearest natural number, a tie to the even one. -/
def roundQuotient (numerator denominator : Nat) : Nat :=
  let quotient := numerator / denominator
  let twice := 2 * (numerator % denominator)
  if twice < denominator ∨ (twice = denominator ∧ quotient % 2 = 0) then quotient
  else quotient + 1

end Pinpoint.Decimal
