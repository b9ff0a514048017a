import Pinpoint.Text.Blank
import Pinpoint.Text.Hex

/-!
# Bytecode as hexadecimal text

Bytecode is written as pairs of hexadecimal digits of either case, after an optional `0x`. ASCII
white space may stand between the pairs. Where the address of a library is still to be filled in,
the compiler writes a placeholder of forty characters, two underscores at either end; it stands
for twenty zero bytes.
-/

namespace Pinpoint.Bytecode

/-- The number of characters of a placeholder, as many as the hexadecimal digits of an address. -/
def placeholderLength : Nat := 40

/-- Whether a text starts with a placeholder. The characters between the underscores may be any
but line feeds. -/
def startsWithPlaceholder (text : List Char) : Bool :=
  let placeholder := text.take placeholderLength
  placeholder.length == placeholderLength && placeholder.take 2 == ['_', '_'] &&
    placeholder.drop (placeholderLength - 2) == ['_', '_'] &&
    !((placeholder.drop 2).take (placeholderLength - 4)).contains '\n'

/-- Replaces each placeholder by zeros, from left to right and without overlap. -/
def fillPlaceholders : List Char → List Char
  | [] => []
  | character :: rest =>
    if startsWithPlaceholder (character :: rest) then
      List.replicate placeholderLength '0' ++
        fillPlaceholders (rest.drop (placeholderLength - 1))
    else character :: fillPlaceholders rest
  termination_by text => text.length

/-- Whether a character may stand between the bytes. -/
def isByteGap (character : Char) : Bool :=
  character == ' ' || (0x09 ≤ character.toNat && character.toNat ≤ 0x0D)

/-- Reads pairs of hexadecimal digits; `none` if anything else stands there. -/
def readBytes : List Char → Option (List UInt8)
  | [] => some []
  | [last] => if isByteGap last then some [] else none
  | high :: low :: rest =>
    if isByteGap high then readBytes (low :: rest)
    else do
      let byte := (← Text.hexDigitValue? high) * 16 + (← Text.hexDigitValue? low)
      return UInt8.ofNat byte :: (← readBytes rest)

/-- Drops a leading `0x` in either case. -/
def dropHexMark : List Char → List Char
  | '0' :: 'x' :: rest => rest
  | '0' :: 'X' :: rest => rest
  | text => text

/-- The bytes that a text writes; `none` if it is not hexadecimal. -/
def ofHex? (text : String) : Option (List UInt8) :=
  readBytes (fillPlaceholders (dropHexMark (Text.strip text.toList)))

/-- The bytes as lower-case hexadecimal digits. -/
def toHex (bytes : List UInt8) : List Char :=
  bytes.flatMap fun byte => Text.hexDigits 2 byte.toNat

end Pinpoint.Bytecode
