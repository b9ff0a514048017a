import Pinpoint.Text.Blank
import Pinpoint.Text.DecimalDigit
import Pinpoint.Text.Fields

/-!
# Numerals

The integers that a text field may hold: padding on both sides, at most one sign, then groups of
decimal digits of any script with single underscores between the groups. A numeral has at most
4300 digits, leading zeros included, and no integer with more digits is written.
-/

namespace Pinpoint.Text

/-- The number of digits that a numeral may have. -/
def digitLimit : Nat := 4300

/-- The natural number that a list of digits writes, most significant first. -/
def ofDigits (digits : List Nat) : Nat :=
  digits.foldl (fun value digit => 10 * value + digit) 0

/-- Reads an unsigned numeral: nonempty groups of digits, separated by single underscores. -/
def readMagnitude? (text : List Char) : Option Nat := do
  let groups := fields '_' text
  guard (groups.all fun group => !group.isEmpty)
  let digits ← groups.flatten.mapM digitValue?
  guard (digits.length ≤ digitLimit)
  return ofDigits digits

/-- Reads a numeral with its padding and sign. -/
def readInt? (text : List Char) : Option Int :=
  match trim isNumeralPadding text with
  | '+' :: magnitude => (readMagnitude? magnitude).map Int.ofNat
  | '-' :: magnitude => (readMagnitude? magnitude).map fun value => -(Int.ofNat value)
  | magnitude => (readMagnitude? magnitude).map Int.ofNat

/-- Whether an integer has few enough digits to be written. -/
def isWritable (value : Int) : Bool :=
  decide (value.natAbs < Nat.pow 10 digitLimit)

/-- The decimal digits of an integer, with a minus sign before a negative one. -/
def writeInt (value : Int) : List Char :=
  if value < 0 then '-' :: Nat.toDigits 10 value.natAbs else Nat.toDigits 10 value.natAbs

end Pinpoint.Text
