import Pinpoint.Json.Value
import Pinpoint.Text.Hex
import Pinpoint.Text.Numeral

/-!
# Reading JSON text

A recursive-descent reader. Each reading function takes the characters that are left and gives
back those that it did not use, so that a fault is placed by the number of characters left when
it was found. Beyond the standard grammar the names `NaN`, `Infinity` and `-Infinity` are read as
numbers, and of two members with one name the later value takes the place of the earlier. Lists
and objects may be nested only to a limit, so that a text is refused at the bracket that passes
it, whatever stands behind, and integers may have only so many digits. Escapes name code units, of
which two that form a surrogate pair are one character; half of a pair is no character, and a text
with one is refused.
-/

namespace Pinpoint.Json

/-- What is wrong with a JSON text. -/
inductive ReadFault where
  | expectingValue
  | expectingName
  | expectingColon
  | expectingComma
  | extraData
  | unterminatedText
  | controlCharacter
  | invalidEscape
  | invalidUnicodeEscape
  /-- Half of a surrogate pair. -/
  | loneSurrogate
  | byteOrderMark
  /-- An integer has more digits than a numeral may have. -/
  | numeralTooLong
  /-- Too many lists and objects inside each other. -/
  | tooDeep
  deriving BEq, DecidableEq, Repr

/-- The wording of a fault. -/
def ReadFault.message : ReadFault → String
  | .expectingValue => "Expecting value"
  | .expectingName => "Expecting property name enclosed in double quotes"
  | .expectingColon => "Expecting ':' delimiter"
  | .expectingComma => "Expecting ',' delimiter"
  | .extraData => "Extra data"
  | .unterminatedText => "Unterminated string starting at"
  | .controlCharacter => "Invalid control character at"
  | .invalidEscape => "Invalid \\escape"
  | .invalidUnicodeEscape => "Invalid \\uXXXX escape"
  | .loneSurrogate => "Unpaired surrogate"
  | .byteOrderMark => "Unexpected UTF-8 BOM (decode using utf-8-sig)"
  | .numeralTooLong => "Numeral too long"
  | .tooDeep => "Nesting too deep"

/-- What a reader takes in. -/
structure Limits where
  /-- The number of lists and objects that may be nested inside each other. -/
  nesting : Nat
  /-- The number of digits that an integer may have. -/
  digits : Nat
  deriving BEq, DecidableEq, Repr

/-- A fault and the number of characters that were left from its place on. -/
structure Stop where
  fault : ReadFault
  left : Nat
  deriving BEq, DecidableEq, Repr

/-- What a reading function gives: its result and the characters that it did not use. -/
abbrev Reading (α : Type) := Except Stop (α × List Char)

/-- Stops at the start of the given characters. -/
def stop {α : Type} (fault : ReadFault) (place : List Char) : Reading α :=
  .error ⟨fault, place.length⟩

/-- Whether a character may stand between the parts of a JSON text. -/
def isGap (character : Char) : Bool :=
  character == ' ' || character == '\t' || character == '\n' || character == '\r'

/-- Drops the gap before the next part. -/
def skipGap (source : List Char) : List Char :=
  source.dropWhile isGap

/-- The number that four hexadecimal digits write. -/
def hexUnit? (first second third fourth : Char) : Option Nat := do
  let digits ← [first, second, third, fourth].mapM Text.hexDigitValue?
  return digits.foldl (fun value digit => 16 * value + digit) 0

/-- The character that a letter after a backslash stands for. -/
def escapedLetter? : Char → Option Char
  | '"' => some '"'
  | '\\' => some '\\'
  | '/' => some '/'
  | 'b' => some '\x08'
  | 'f' => some '\x0c'
  | 'n' => some '\n'
  | 'r' => some '\r'
  | 't' => some '\t'
  | _ => none

/-- The second unit of a surrogate pair, if a whole escape stands here with more text after it:
its unit and what follows. -/
def lowSurrogate? : List Char → Reading (Option Nat)
  | source@('\\' :: unit@('u' :: first :: second :: third :: fourth :: rest)) =>
    if rest.isEmpty then .ok (none, source)
    else match hexUnit? first second third fourth with
      | none => stop .invalidUnicodeEscape unit
      | some low => if 0xDC00 ≤ low ∧ low ≤ 0xDFFF then .ok (some low, rest) else .ok (none, source)
  | source => .ok (none, source)

/-- Reads an escape by code unit, from the `u` on. Two units of a surrogate pair are one
character. -/
def readUnitEscape (unit : List Char) : Reading Char :=
  match unit with
  | _ :: first :: second :: third :: fourth :: rest =>
    if rest.isEmpty then stop .invalidUnicodeEscape unit
    else match hexUnit? first second third fourth with
      | none => stop .invalidUnicodeEscape unit
      | some high =>
        if 0xD800 ≤ high ∧ high ≤ 0xDBFF then
          match lowSurrogate? rest with
          | .error fault => .error fault
          | .ok (some low, rest) =>
            .ok (Char.ofNat (0x10000 + (high - 0xD800) * 0x400 + (low - 0xDC00)), rest)
          | .ok (none, _) => stop .loneSurrogate unit
        else if 0xDC00 ≤ high ∧ high ≤ 0xDFFF then stop .loneSurrogate unit
        else .ok (Char.ofNat high, rest)
  | _ => stop .invalidUnicodeEscape unit

/-- Reads the rest of a text whose opening mark is the first of `opening`. The characters read so
far are in reverse. The fuel bounds the characters left. -/
def readTextFrom (opening : List Char) :
    (fuel : Nat) → (reversed : List Char) → List Char → Reading String
  | 0, _, _ => stop .unterminatedText opening
  | _ + 1, _, [] => stop .unterminatedText opening
  | _ + 1, reversed, '"' :: rest => .ok (String.ofList reversed.reverse, rest)
  | _ + 1, _, ['\\'] => stop .unterminatedText opening
  | fuel + 1, reversed, '\\' :: 'u' :: rest =>
    match readUnitEscape ('u' :: rest) with
    | .error fault => .error fault
    | .ok (character, rest) => readTextFrom opening fuel (character :: reversed) rest
  | fuel + 1, reversed, escape@('\\' :: letter :: rest) =>
    match escapedLetter? letter with
    | none => stop .invalidEscape escape
    | some character => readTextFrom opening fuel (character :: reversed) rest
  | fuel + 1, reversed, source@(character :: rest) =>
    if character.toNat < 0x20 then stop .controlCharacter source
    else readTextFrom opening fuel (character :: reversed) rest

/-- Reads a text, from its opening mark on. -/
def readText (opening : List Char) : Reading String :=
  readTextFrom opening opening.length [] opening.tail

/-- Whether a character is an ASCII digit. -/
def isDigit (character : Char) : Bool :=
  0x30 ≤ character.toNat && character.toNat ≤ 0x39

/-- The values of ASCII digits. -/
def digitValues (digits : List Char) : List Nat :=
  digits.map fun digit => digit.toNat - 0x30

/-- The digits before the point: a lone zero, or digits that do not start with one. -/
def wholeDigits? : List Char → Option (List Char × List Char)
  | '0' :: rest => some (['0'], rest)
  | source =>
    let digits := source.takeWhile isDigit
    if digits.isEmpty then none else some (digits, source.dropWhile isDigit)

/-- The digits after a point; none, and nothing used, unless a digit follows the point. -/
def fractionDigits : List Char → List Char × List Char
  | source@('.' :: rest) =>
    let digits := rest.takeWhile isDigit
    if digits.isEmpty then ([], source) else (digits, rest.dropWhile isDigit)
  | source => ([], source)

/-- The exponent after an `e`; none, and nothing used, unless a digit follows the sign. -/
def exponent? : List Char → Option Int × List Char
  | [] => (none, [])
  | source@(mark :: rest) =>
    if mark = 'e' ∨ mark = 'E' then
      let unsigned := match rest with
        | '+' :: unsigned => (false, unsigned)
        | '-' :: unsigned => (true, unsigned)
        | unsigned => (false, unsigned)
      let digits := unsigned.2.takeWhile isDigit
      let magnitude : Int := Text.ofDigits (digitValues digits)
      if digits.isEmpty then (none, source)
      else (some (if unsigned.1 then -magnitude else magnitude), unsigned.2.dropWhile isDigit)
    else (none, source)

/-- Reads a number. -/
def readNumber (digitLimit : Nat) (source : List Char) : Reading Json :=
  let unsigned := match source with
    | '-' :: rest => (true, rest)
    | rest => (false, rest)
  match wholeDigits? unsigned.2 with
  | none => stop .expectingValue source
  | some (whole, afterWhole) =>
    let (fraction, afterFraction) := fractionDigits afterWhole
    let (exponent, rest) := exponent? afterFraction
    let magnitude := Text.ofDigits (digitValues (whole ++ fraction))
    if fraction.isEmpty && exponent.isNone then
      if whole.length > digitLimit then stop .numeralTooLong source
      else .ok (.int (if unsigned.1 then -(magnitude : Int) else magnitude), rest)
    else
      let scale := exponent.getD 0 - (fraction.length : Int)
      .ok (.number (.real (Decimal.Binary64.ofDecimal unsigned.1 magnitude scale)), rest)

mutual

/-- Reads one value, which may be nested `levels` deep. The fuel bounds the depth of the calls, of
which a text has at most two for each of its characters. -/
def readValue (digitLimit : Nat) : (fuel levels : Nat) → List Char → Reading Json
  | 0, _, source => stop .expectingValue source
  | fuel + 1, levels, source =>
    match source with
    | '"' :: _ =>
      match readText source with
      | .error fault => .error fault
      | .ok (value, rest) => .ok (.text value, rest)
    | '\x7b' :: rest =>
      match levels, skipGap rest with
      | 0, _ => stop .tooDeep source
      | _ + 1, '\x7d' :: rest => .ok (.object [], rest)
      | levels + 1, first => readMembers digitLimit fuel levels [] first
    | '[' :: rest =>
      match levels, skipGap rest with
      | 0, _ => stop .tooDeep source
      | _ + 1, ']' :: rest => .ok (.list [], rest)
      | levels + 1, first => readItems digitLimit fuel levels [] first
    | 'n' :: 'u' :: 'l' :: 'l' :: rest => .ok (.null, rest)
    | 't' :: 'r' :: 'u' :: 'e' :: rest => .ok (.bool true, rest)
    | 'f' :: 'a' :: 'l' :: 's' :: 'e' :: rest => .ok (.bool false, rest)
    | 'N' :: 'a' :: 'N' :: rest => .ok (.number (.real .notANumber), rest)
    | 'I' :: 'n' :: 'f' :: 'i' :: 'n' :: 'i' :: 't' :: 'y' :: rest =>
      .ok (.number (.real (.infinity false)), rest)
    | '-' :: 'I' :: 'n' :: 'f' :: 'i' :: 'n' :: 'i' :: 't' :: 'y' :: rest =>
      .ok (.number (.real (.infinity true)), rest)
    | _ => readNumber digitLimit source

/-- Reads the items of a list, from the next item on. The items read so far are in reverse. -/
def readItems (digitLimit : Nat) :
    (fuel levels : Nat) → (reversed : List Json) → List Char → Reading Json
  | 0, _, _, source => stop .expectingValue source
  | fuel + 1, levels, reversed, source =>
    match readValue digitLimit fuel levels source with
    | .error fault => .error fault
    | .ok (item, rest) =>
      match skipGap rest with
      | ']' :: rest => .ok (.list (item :: reversed).reverse, rest)
      | ',' :: rest => readItems digitLimit fuel levels (item :: reversed) (skipGap rest)
      | other => stop .expectingComma other

/-- Reads the members of an object, from the next name on. -/
def readMembers (digitLimit : Nat) :
    (fuel levels : Nat) → (members : List (String × Json)) → List Char → Reading Json
  | 0, _, _, source => stop .expectingName source
  | fuel + 1, levels, members, source =>
    match source with
    | '"' :: _ =>
      match readText source with
      | .error fault => .error fault
      | .ok (name, rest) =>
        match skipGap rest with
        | ':' :: rest =>
          match readValue digitLimit fuel levels (skipGap rest) with
          | .error fault => .error fault
          | .ok (value, rest) =>
            match skipGap rest with
            | '\x7d' :: rest => .ok (.object (setMember name value members), rest)
            | ',' :: rest =>
              readMembers digitLimit fuel levels (setMember name value members) (skipGap rest)
            | other => stop .expectingComma other
        | other => stop .expectingColon other
    | _ => stop .expectingName source

end

/-- A fault and its place: the number of characters before it, and its line and column, which
count from one. -/
structure ReadError where
  fault : ReadFault
  position : Nat
  line : Nat
  column : Nat
  deriving BEq, DecidableEq, Repr

/-- The error of a text whose reading stopped. -/
def Stop.toError (stop : Stop) (source : List Char) : ReadError :=
  let before := source.take (source.length - stop.left)
  { fault := stop.fault
    position := before.length
    line := before.count '\n' + 1
    column := (before.reverse.takeWhile (· != '\n')).length + 1 }

/-- The wording of an error. -/
def ReadError.message (error : ReadError) : String :=
  s!"{error.fault.message}: line {error.line} column {error.column} (char {error.position})"

/-- Reads a whole text as one value with gaps around it. -/
def readAll (limits : Limits) (source : List Char) : Except Stop Json :=
  match source with
  | '\uFEFF' :: _ => .error ⟨.byteOrderMark, source.length⟩
  | _ =>
    match readValue limits.digits (2 * source.length + 2) limits.nesting (skipGap source) with
    | .error fault => .error fault
    | .ok (value, rest) =>
      match skipGap rest with
      | [] => .ok value
      | extra => .error ⟨.extraData, extra.length⟩

/-- Reads a JSON text within some limits. -/
def readWithin (limits : Limits) (source : List Char) : Except ReadError Json :=
  (readAll limits source).mapError (·.toError source)

/-- Reads a JSON text that is nested at most so deep and whose integers are numerals. -/
def read (nestingLimit : Nat) (source : List Char) : Except ReadError Json :=
  readWithin { nesting := nestingLimit, digits := Text.digitLimit } source

end Pinpoint.Json
