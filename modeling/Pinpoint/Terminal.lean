import Pinpoint.Terminal.Emoji
import Pinpoint.Text.Blank
import Pinpoint.Text.Cells

/-!
# Terminal output

What printing a text to the terminal does to it. Emoji codes, names between colons, are replaced
by their emoji; bells, backspaces, vertical tabs, form feeds and carriage returns are dropped; tabs
become spaces; and a line feed is added at the end. Lines are neither wrapped nor cut.
-/

namespace Pinpoint.Terminal

/-- The endings of emoji codes that ask for a variant, and the characters that select it. -/
def variants : List (String × Char) :=
  [("-text", '\uFE0E'), ("-emoji", '\uFE0F')]

/-- The name in an emoji code, and what selects the variant that it asks for. -/
def variant (code : List Char) : List Char × List Char :=
  let asked := variants.findSome? fun (ending, selector) =>
    (ending.toList.isSuffixOf? code).map fun name => (name, [selector])
  asked.getD (code, [])

/-- What an emoji code is replaced by; an unknown one stays as it is, with its colons. -/
def replacement (code : List Char) : List Char :=
  let (name, selector) := variant code
  match Emoji.ofName? name with
  | some emoji => emoji ++ selector
  | none => ':' :: code ++ [':']

/-- Whether a character may stand inside an emoji code. -/
def isCodeCharacter (character : Char) : Bool :=
  character != ':' && !Text.isBlank character

/-- Replaces the emoji codes, from left to right. A code ends at the colon after it, which starts
no further code. -/
def replaceEmoji : List Char → List Char
  | [] => []
  | character :: rest =>
    if character = ':' then
      match rest.drop (rest.takeWhile isCodeCharacter).length with
      | ':' :: _ =>
        let code := rest.takeWhile isCodeCharacter
        replacement code ++ replaceEmoji (rest.drop (code.length + 1))
      | _ => ':' :: replaceEmoji rest
    else character :: replaceEmoji rest
  termination_by text => text.length

/-- Whether a character is dropped from terminal output. -/
def isDropped (character : Char) : Bool :=
  [0x07, 0x08, 0x0B, 0x0C, 0x0D].contains character.toNat

/-- The text without the characters that are dropped from terminal output. -/
def dropControls (text : List Char) : List Char :=
  text.filter fun character => !isDropped character

/-- Replaces the tabs of every line. -/
def expandAllTabs (text : List Char) : List Char :=
  Text.joinFields '\n' ((Text.fields '\n' text).map Text.expandTabs)

/-- The text as it is printed. -/
def print (text : List Char) : List Char :=
  expandAllTabs (dropControls (replaceEmoji text)) ++ ['\n']

end Pinpoint.Terminal
