import Pinpoint.Text.CodeRange

/-!
# Line ends

Text files end their lines with a line feed, a carriage return, or both. Reading a file as text
makes each of the three a single line feed.
-/

namespace Pinpoint.Text

/-- Whether some convention ends a line at a character: line feed, vertical tab, form feed,
carriage return, the three upper information separators, next line, and the line and paragraph
separators. -/
def endsLine (character : Char) : Bool :=
  covers [(0x0A, 0x0D), (0x1C, 0x1E), (0x85, 0x85), (0x2028, 0x2029)] character

/-- Makes every line end a single line feed. -/
def unifyNewlines : List Char → List Char
  | [] => []
  | '\r' :: '\n' :: rest => '\n' :: unifyNewlines rest
  | '\r' :: rest => '\n' :: unifyNewlines rest
  | character :: rest => character :: unifyNewlines rest

end Pinpoint.Text
