import Pinpoint.Text.Hex
import Pinpoint.Text.Printable

/-!
# Quoted texts

A text is quoted in a message so that it can be told apart from the words around it: between
quotation marks, with a backslash before the mark in use and before a backslash, and with an
escape for every character that is not printable. The marks are single, unless the text holds
single marks and no double ones.
-/

namespace Pinpoint.Text

/-- The mark that a text is quoted with. -/
def quotationMark (text : List Char) : Char :=
  if text.contains '\'' && !text.contains '"' then '"' else '\''

/-- One character as it stands between the given quotation marks. -/
def quoteChar (mark character : Char) : List Char :=
  if character = mark ∨ character = '\\' then ['\\', character]
  else if character = '\n' then ['\\', 'n']
  else if character = '\r' then ['\\', 'r']
  else if character = '\t' then ['\\', 't']
  else if isPrintable character then [character]
  else if character.toNat < 0x100 then '\\' :: 'x' :: hexDigits 2 character.toNat
  else if character.toNat < 0x10000 then '\\' :: 'u' :: hexDigits 4 character.toNat
  else '\\' :: 'U' :: hexDigits 8 character.toNat

/-- The text between its quotation marks. -/
def quote (text : String) : String :=
  let mark := quotationMark text.toList
  String.ofList (mark :: text.toList.flatMap (quoteChar mark) ++ [mark])

end Pinpoint.Text
