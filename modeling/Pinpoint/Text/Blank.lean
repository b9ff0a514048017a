import Pinpoint.Text.CodeRange

/-!
# Blank characters

White space as text fields see it: the characters that Unicode 14 counts as white space, and
with them the four information separators U+001C to U+001F. Stripping a text removes blanks at
both ends. A numeral is padded by the same characters except those four separators.
-/

namespace Pinpoint.Text

/-- The blank characters, as ascending closed ranges. -/
def blankRanges : List CodeRange :=
  [(0x9, 0xD), (0x1C, 0x20), (0x85, 0x85), (0xA0, 0xA0), (0x1680, 0x1680), (0x2000, 0x200A),
   (0x2028, 0x2029), (0x202F, 0x202F), (0x205F, 0x205F), (0x3000, 0x3000)]

/-- Whether a character is blank. -/
def isBlank (character : Char) : Bool :=
  covers blankRanges character

/-- Whether a character may stand beside the digits of a numeral: a blank, yet none of the four
information separators. -/
def isNumeralPadding (character : Char) : Bool :=
  isBlank character && !(0x1C ≤ character.toNat && character.toNat ≤ 0x1F)

/-- Drops the leading and trailing characters that satisfy `pad`. -/
def trim (pad : Char → Bool) (text : List Char) : List Char :=
  ((text.dropWhile pad).reverse.dropWhile pad).reverse

/-- Drops the blanks at both ends. -/
def strip (text : List Char) : List Char :=
  trim isBlank text

end Pinpoint.Text
