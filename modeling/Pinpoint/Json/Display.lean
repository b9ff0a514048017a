import Pinpoint.Decimal.Shortest
import Pinpoint.Json.Value
import Pinpoint.Text.Numeral
import Pinpoint.Text.Quoted

/-!
# Displayed values

A field that should hold a text may hold any JSON value, and is then shown in words. A text is
shown as it is; inside a list or an object it is quoted. Null and the truth values are shown as
capitalized words, numbers by their shortest text, lists in brackets and objects in braces.
-/

namespace Pinpoint

/-- The displayed form of a number. -/
def Number.display : Number → List Char
  | .integer value => Text.writeInt value
  | .real value => value.text

namespace Json

/-- Texts with a comma and a space between them. -/
def commaSeparated : List (List Char) → List Char
  | [] => []
  | [last] => last
  | first :: others => first ++ ',' :: ' ' :: commaSeparated others

mutual

/-- The displayed form of a value inside another one, where texts are quoted. -/
def displayQuoted : Json → List Char
  | .null => "None".toList
  | .bool true => "True".toList
  | .bool false => "False".toList
  | .number value => value.display
  | .text value => (Text.quote value).toList
  | .list items => '[' :: commaSeparated (displayItems items) ++ [']']
  | .object members => '\x7b' :: commaSeparated (displayMembers members) ++ ['\x7d']

/-- The displayed forms of the items of a list. -/
def displayItems : List Json → List (List Char)
  | [] => []
  | item :: rest => displayQuoted item :: displayItems rest

/-- The displayed forms of the members of an object. -/
def displayMembers : List (String × Json) → List (List Char)
  | [] => []
  | (name, value) :: rest =>
    ((Text.quote name).toList ++ ':' :: ' ' :: displayQuoted value) :: displayMembers rest

end

/-- The displayed form of a value: a text as it is, any other value in words. -/
def display : Json → String
  | .text value => value
  | value => String.ofList value.displayQuoted

/-- The displayed form of a present value; an absent one has the empty text. -/
def displayIfPresent (value : Json) : String :=
  if value.isPresent then value.display else ""

/-- The integer that a value stands for: a truth value counts as zero or one, a number is rounded
toward zero, and a text must be a numeral. -/
def toInt : Json → Except ShapeError Int
  | .bool value => .ok (if value then 1 else 0)
  | .number (.integer value) => .ok value
  | .number (.real .notANumber) => .error .notANumber
  | .number (.real value) =>
    match value.truncate? with
    | some integer => .ok integer
    | none => .error .infinite
  | .text value =>
    match Text.readInt? value.toList with
    | some integer => .ok integer
    | none => .error .badNumeral
  | .null | .list _ | .object _ => .error .notInteger

end Json

end Pinpoint
