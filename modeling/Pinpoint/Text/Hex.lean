/-!
# Hexadecimal digits

Hexadecimal digits are read in either case and written in lower case.
-/

namespace Pinpoint.Text

/-- The value of a hexadecimal digit. -/
def hexDigitValue? (character : Char) : Option Nat :=
  let code := character.toNat
  if 0x30 ≤ code ∧ code ≤ 0x39 then some (code - 0x30)
  else if 0x41 ≤ code ∧ code ≤ 0x46 then some (code - 0x37)
  else if 0x61 ≤ code ∧ code ≤ 0x66 then some (code - 0x57)
  else none

/-- The last `width` hexadecimal digits of a number. -/
def hexDigits : (width : Nat) → Nat → List Char
  | 0, _ => []
  | width + 1, value => hexDigits width (value / 16) ++ [Nat.digitChar (value % 16)]

/-- A digit is read as the value that it was written for. -/
theorem hexDigitValue?_digitChar {digit : Nat} (bound : digit < 16) :
    hexDigitValue? (Nat.digitChar digit) = some digit := by
  have each : ∀ digit : Fin 16, hexDigitValue? (Nat.digitChar digit) = some digit.val := by
    decide
  exact each ⟨digit, bound⟩

end Pinpoint.Text
