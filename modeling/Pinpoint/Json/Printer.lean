import Pinpoint.Decimal.Shortest
import Pinpoint.Json.Value
import Pinpoint.Text.Hex
import Pinpoint.Text.Numeral

/-!
# JSON text

Writes values as JSON text of ASCII characters only: every other character of a text is escaped
by its 16-bit units. A value is written either on one line without blanks, or with one member or
item a line, indented by two spaces a level.
-/

namespace Pinpoint.Json

/-- The escape of one 16-bit unit. -/
def escapeUnit (unit : Nat) : List Char :=
  '\\' :: 'u' :: Text.hexDigits 4 unit

/-- One character as it stands in a JSON text. -/
def escapeChar (character : Char) : List Char :=
  let code := character.toNat
  if character = '"' then ['\\', '"']
  else if character = '\\' then ['\\', '\\']
  else if character = '\n' then ['\\', 'n']
  else if character = '\r' then ['\\', 'r']
  else if character = '\t' then ['\\', 't']
  else if code = 0x0C then ['\\', 'f']
  else if code = 0x08 then ['\\', 'b']
  else if 0x20 ≤ code ∧ code ≤ 0x7E then [character]
  else if code < 0x10000 then escapeUnit code
  else escapeUnit (0xD800 + (code - 0x10000) / 0x400) ++
    escapeUnit (0xDC00 + (code - 0x10000) % 0x400)

/-- A text in quotation marks. -/
def writeText (text : String) : List Char :=
  '"' :: text.toList.flatMap escapeChar ++ ['"']

/-- A number; those that are not finite have names of their own. -/
def writeNumber : Number → List Char
  | .integer value => Text.writeInt value
  | .real .notANumber => "NaN".toList
  | .real (.infinity negative) => (if negative then ['-'] else []) ++ "Infinity".toList
  | .real value => value.text

mutual

/-- A value on one line, without blanks. -/
def compact : Json → List Char
  | .null => "null".toList
  | .bool true => "true".toList
  | .bool false => "false".toList
  | .number value => writeNumber value
  | .text value => writeText value
  | .list items => '[' :: compactItems items ++ [']']
  | .object members => '\x7b' :: compactMembers members ++ ['\x7d']

/-- The items of a list, separated by commas. -/
def compactItems : List Json → List Char
  | [] => []
  | [last] => compact last
  | first :: others => compact first ++ ',' :: compactItems others

/-- The members of an object, separated by commas. -/
def compactMembers : List (String × Json) → List Char
  | [] => []
  | [(name, value)] => writeText name ++ ':' :: compact value
  | (name, value) :: others =>
    writeText name ++ ':' :: compact value ++ ',' :: compactMembers others

end

/-- A line feed and the indentation of a level. -/
def newline (level : Nat) : List Char :=
  '\n' :: List.replicate (2 * level) ' '

mutual

/-- A value with one item or member a line. The lines inside it are one level deeper than
`level`. Empty lists and objects stay on one line. -/
def indented (level : Nat) : Json → List Char
  | .null => "null".toList
  | .bool true => "true".toList
  | .bool false => "false".toList
  | .number value => writeNumber value
  | .text value => writeText value
  | .list [] => ['[', ']']
  | .list (first :: others) =>
    '[' :: newline (level + 1) ++ indented (level + 1) first ++
      indentedItems (level + 1) others ++ newline level ++ [']']
  | .object [] => ['\x7b', '\x7d']
  | .object ((name, value) :: others) =>
    '\x7b' :: newline (level + 1) ++ writeText name ++ ':' :: ' ' :: indented (level + 1) value ++
      indentedMembers (level + 1) others ++ newline level ++ ['\x7d']

/-- The items after the first, each on a line of its own. -/
def indentedItems (level : Nat) : List Json → List Char
  | [] => []
  | item :: rest => ',' :: newline level ++ indented level item ++ indentedItems level rest

/-- The members after the first, each on a line of its own. -/
def indentedMembers (level : Nat) : List (String × Json) → List Char
  | [] => []
  | (name, value) :: rest =>
    ',' :: newline level ++ writeText name ++ ':' :: ' ' :: indented level value ++
      indentedMembers level rest

end

end Pinpoint.Json
