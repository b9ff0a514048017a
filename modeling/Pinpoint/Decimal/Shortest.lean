import Pinpoint.Decimal.Binary64

/-!
# Shortest decimal text

A number is written with the fewest significant digits that read back as the same number, and
among those with the digits nearest to its exact value, a tie going to the even last digit. The
text is positional when the exponent of the leading digit is at least -4 and below 16, with a
fraction of `.0` for a whole number; otherwise it has one digit before the point and a signed
exponent of at least two digits.
-/

namespace Pinpoint.Decimal

namespace Binary64

/-- The significant digits that always suffice to identify a number. -/
def sufficientDigits : Nat := 17

/-- The least `scale` with `value < 10 ^ scale`, for a positive finite value. The value is first
multiplied by a power of ten that makes even the least one exceed one. -/
def decimalScale (significand : Nat) (exponent : Int) : Int :=
  let shifted :=
    significand * Nat.pow 10 400 * Nat.pow 2 exponent.toNat / Nat.pow 2 (-exponent).toNat
  ((Nat.toDigits 10 shifted).length : Int) - 400

/-- The neighbours of a positive value among the multiples of `10 ^ grid` that read back as the
value, the nearest first. -/
def candidates (significand : Nat) (exponent grid : Int) : List Nat :=
  let numerator := significand * Nat.pow 2 exponent.toNat * Nat.pow 10 (-grid).toNat
  let denominator := Nat.pow 2 (-exponent).toNat * Nat.pow 10 grid.toNat
  let below := numerator / denominator
  let near := roundQuotient numerator denominator
  let far := if near = below then below + 1 else below
  [near, far].filter fun digits =>
    ofDecimal false digits grid == .finite false significand exponent

/-- The shortest digits of a positive finite value, with the power of ten of the last digit. -/
def shortest (significand : Nat) (exponent : Int) : Nat × Int :=
  let scale := decimalScale significand exponent
  let grids := (List.range sufficientDigits).map fun (count : Nat) => scale - (count + 1 : Int)
  let found := grids.findSome? fun grid =>
    (candidates significand exponent grid).head?.map fun digits => (digits, grid)
  found.getD
    (significand * Nat.pow 2 exponent.toNat * Nat.pow 5 (-exponent).toNat,
      if exponent < 0 then exponent else 0)

end Binary64

/-- Lays out significant digits, the first of them with the weight `10 ^ leading`. -/
def layout (digits : List Char) (leading : Int) : List Char :=
  if -4 ≤ leading ∧ leading < 0 then
    '0' :: '.' :: (List.replicate (-leading - 1).toNat '0' ++ digits)
  else if 0 ≤ leading ∧ leading < 16 then
    let whole := leading.toNat + 1
    let fraction := digits.drop whole
    digits.take whole ++ List.replicate (whole - digits.length) '0' ++
      '.' :: (if fraction.isEmpty then ['0'] else fraction)
  else
    let power := Nat.toDigits 10 leading.natAbs
    let fraction := digits.drop 1
    digits.take 1 ++ (if fraction.isEmpty then [] else '.' :: fraction) ++
      'e' :: (if leading < 0 then '-' else '+') ::
        (List.replicate (2 - power.length) '0' ++ power)

/-- Drops the zeros at the end of a list of digits. -/
def dropTrailingZeros (digits : List Char) : List Char :=
  (digits.reverse.dropWhile (· == '0')).reverse

/-- The shortest text of a number. -/
def Binary64.text : Binary64 → List Char
  | .notANumber => ['n', 'a', 'n']
  | .infinity negative => (if negative then ['-'] else []) ++ ['i', 'n', 'f']
  | .finite negative significand exponent =>
    let sign := if negative then ['-'] else []
    if significand = 0 then sign ++ ['0', '.', '0']
    else
      let selected := shortest significand exponent
      let digits := Nat.toDigits 10 selected.1
      sign ++ layout (dropTrailingZeros digits) (selected.2 + digits.length - 1)

end Pinpoint.Decimal
