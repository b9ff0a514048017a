/-!
# Ranges of code points

Character classes are tables of closed ranges of code points, ascending and apart. A table is
read through `covers` alone, so a class is fixed by its data.
-/

namespace Pinpoint.Text

/-- A closed range of code points. -/
abbrev CodeRange := Nat × Nat

/-- Whether a character lies in one of the ranges. -/
def covers (ranges : List CodeRange) (character : Char) : Bool :=
  ranges.any fun range => range.1 ≤ character.toNat && character.toNat ≤ range.2

end Pinpoint.Text
