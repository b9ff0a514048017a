import Pinpoint.Terminal.Emoji.Flags
import Pinpoint.Terminal.Emoji.SkinTone
import Pinpoint.Terminal.Emoji.SymbolsAToC
import Pinpoint.Terminal.Emoji.SymbolsDToH
import Pinpoint.Terminal.Emoji.SymbolsIToO
import Pinpoint.Terminal.Emoji.SymbolsPToS
import Pinpoint.Terminal.Emoji.SymbolsTToZ

/-!
# Emoji by name

The emoji that a name stands for: a symbol, a flag, or a symbol in a skin tone. Names are compared
without regard to the case of their letters.
-/

namespace Pinpoint.Terminal.Emoji

/-- The symbols whose names start with a character. -/
def symbols (initial : Char) : List (String × String) :=
  match initial with
  | 'a' => symbolsA
  | 'b' => symbolsB
  | 'c' => symbolsC
  | 'd' => symbolsD
  | 'e' => symbolsE
  | 'f' => symbolsF
  | 'g' => symbolsG
  | 'h' => symbolsH
  | 'i' => symbolsI
  | 'j' => symbolsJ
  | 'k' => symbolsK
  | 'l' => symbolsL
  | 'm' => symbolsM
  | 'n' => symbolsN
  | 'o' => symbolsO
  | 'p' => symbolsP
  | 'q' => symbolsQ
  | 'r' => symbolsR
  | 's' => symbolsS
  | 't' => symbolsT
  | 'u' => symbolsU
  | 'v' => symbolsV
  | 'w' => symbolsW
  | 'x' => symbolsX
  | 'y' => symbolsY
  | 'z' => symbolsZ
  | _ => otherSymbols

/-- The symbol that a name stands for. -/
def symbol? (name : List Char) : Option (List Char) := do
  let symbol ← (symbols (← name.head?)).lookup (String.ofList name)
  return symbol.toList

/-- The lower case of a letter. Of the letters beyond ASCII it knows those that names contain. -/
def lowerCase (letter : Char) : Char :=
  if letter.isUpper then letter.toLower
  else if "ÃÅÇÉÍÔ".toList.contains letter then Char.ofNat (letter.toNat + 0x20)
  else if letter = '\u212A' then 'k'
  else if letter = '\u212B' then 'å'
  else letter

/-- The emoji in a skin tone that a name stands for. -/
def toned? (name : List Char) : Option (List Char) := do
  let (plain, tone) ← skinTone? name
  return withTone tone (← symbol? plain)

/-- The emoji that a name in lower case stands for. -/
def ofLowerCase? (name : List Char) : Option (List Char) :=
  match symbol? name with
  | some symbol => some symbol
  | none =>
    match flag? name with
    | some flag => some flag
    | none => toned? name

/-- The emoji that a name stands for. -/
def ofName? (name : List Char) : Option (List Char) :=
  ofLowerCase? (name.map lowerCase)

end Pinpoint.Terminal.Emoji
