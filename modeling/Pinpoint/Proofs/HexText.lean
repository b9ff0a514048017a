import Pinpoint.Bytecode.Hex
import Pinpoint.Proofs.Numerals

/-!
# Bytecode texts

A bytecode text is a sequence of pieces: bytes of two hexadecimal digits, and placeholders whose
names may hold anything but a line feed, be it underscores, digits or blanks. No digit is an
underscore and all placeholders have the same length, so read from left to right a placeholder is
found exactly where one was written. Decoding therefore goes piece by piece.
-/

namespace Pinpoint.Bytecode

/-- The number of bytes of an address. -/
def addressLength : Nat := 20

/-- A hexadecimal digit, in either case. -/
structure HexDigit where
  character : Char
  value : Nat
  valued : Text.hexDigitValue? character = some value

def HexDigit.zero : HexDigit := ⟨'0', 0, rfl⟩

/-- A byte as it is written. -/
structure HexByte where
  high : HexDigit
  low : HexDigit

namespace HexByte

def text (byte : HexByte) : List Char :=
  [byte.high.character, byte.low.character]

def value (byte : HexByte) : UInt8 :=
  UInt8.ofNat (byte.high.value * 16 + byte.low.value)

def zero : HexByte :=
  { high := .zero, low := .zero }

end HexByte

/-- What stands between the underscores of a placeholder. -/
structure LibraryName where
  characters : List Char
  length_eq : characters.length = 36
  oneLine : '\n' ∉ characters

/-- A piece of a bytecode text. -/
inductive Piece where
  | hex (byte : HexByte)
  | placeholder (name : LibraryName)

/-- The characters of a piece. -/
def Piece.text : Piece → List Char
  | .hex byte => byte.text
  | .placeholder name => '_' :: '_' :: (name.characters ++ ['_', '_'])

/-- The bytes that a piece is decoded as. -/
def Piece.bytes : Piece → List HexByte
  | .hex byte => [byte]
  | .placeholder _ => List.replicate addressLength .zero

/-- The code that a text of these pieces stands for. -/
def codeOf (pieces : List Piece) : List UInt8 :=
  (pieces.flatMap Piece.bytes).map HexByte.value

/-- The marks that may stand before the pieces. -/
inductive HexMark : List Char → Prop where
  | none : HexMark []
  | lower : HexMark ['0', 'x']
  | upper : HexMark ['0', 'X']

/-- The texts that hold these pieces, after an optional mark and between blanks. -/
inductive Writes (pieces : List Piece) : String → Prop where
  | between {before mark after : List Char} :
      (∀ character ∈ before, Text.isBlank character = true) → HexMark mark →
      (∀ character ∈ after, Text.isBlank character = true) →
      Writes pieces (String.ofList (before ++ (mark ++ pieces.flatMap Piece.text) ++ after))

/-! ## Characters -/

theorem underscore : Text.hexDigitValue? '_' = none := rfl

namespace HexDigit

theorem toNat_character (digit : HexDigit) :
    (0x30 ≤ digit.character.toNat ∧ digit.character.toNat ≤ 0x39) ∨
      (0x41 ≤ digit.character.toNat ∧ digit.character.toNat ≤ 0x46) ∨
      (0x61 ≤ digit.character.toNat ∧ digit.character.toNat ≤ 0x66) := by
  have valued := digit.valued
  rw [Text.hexDigitValue?] at valued
  grind

theorem character_ne (digit : HexDigit) {other : Char}
    (outside : Text.hexDigitValue? other = none) : digit.character ≠ other := by
  intro same
  have valued := digit.valued
  rw [same, outside] at valued
  cases valued

theorem isByteGap_character (digit : HexDigit) : isByteGap digit.character = false := by
  have notSpace : digit.character ≠ ' ' := digit.character_ne rfl
  have range := digit.toNat_character
  simp [isByteGap, notSpace]
  omega

theorem isBlank_character (digit : HexDigit) : Text.isBlank digit.character = false := by
  have range := digit.toNat_character
  simp [Text.isBlank, Text.covers, Text.blankRanges]
  omega

end HexDigit

/-! ## Reading pieces -/

theorem startsWithPlaceholder_of_ne {first : Char} (other : first ≠ '_') (rest : List Char) :
    startsWithPlaceholder (first :: rest) = false := by
  simp [startsWithPlaceholder, placeholderLength, other]

theorem length_text_placeholder (name : LibraryName) :
    (Piece.placeholder name).text.length = placeholderLength := by
  simp [Piece.text, name.length_eq, placeholderLength]

theorem startsWithPlaceholder_text (name : LibraryName) (rest : List Char) :
    startsWithPlaceholder ((Piece.placeholder name).text ++ rest) = true := by
  have whole : ((Piece.placeholder name).text ++ rest).take placeholderLength =
      (Piece.placeholder name).text := List.take_left' (length_text_placeholder name)
  have inner : ((Piece.placeholder name).text.drop 2).take (placeholderLength - 4) =
      name.characters := by
    simp only [Piece.text, List.drop_succ_cons, List.drop_zero]
    exact List.take_left' name.length_eq
  have last : (Piece.placeholder name).text.drop (placeholderLength - 2) = ['_', '_'] := by
    change (('_' :: '_' :: name.characters) ++ ['_', '_']).drop 38 = ['_', '_']
    apply List.drop_left'
    simp [name.length_eq]
  have oneLine := name.oneLine
  simp only [startsWithPlaceholder, whole, length_text_placeholder, inner, last]
  simp [Piece.text, oneLine]

theorem fillPlaceholders_placeholder (name : LibraryName) (rest : List Char) :
    fillPlaceholders ((Piece.placeholder name).text ++ rest) =
      List.replicate placeholderLength '0' ++ fillPlaceholders rest := by
  have starts := startsWithPlaceholder_text name rest
  have left : ('_' :: (name.characters ++ ['_', '_']) ++ rest).drop (placeholderLength - 1) =
      rest := by
    apply List.drop_left'
    simp [name.length_eq, placeholderLength]
  simp only [Piece.text, List.cons_append] at starts left ⊢
  rw [fillPlaceholders, if_pos starts, left]

/-- Placeholders are found where they were written, whatever stands in them. -/
theorem fillPlaceholders_text (pieces : List Piece) :
    fillPlaceholders (pieces.flatMap Piece.text) =
      (pieces.flatMap Piece.bytes).flatMap HexByte.text := by
  induction pieces with
  | nil => rw [List.flatMap_nil, fillPlaceholders, List.flatMap_nil, List.flatMap_nil]
  | cons piece pieces ih =>
      rw [List.flatMap_cons, List.flatMap_cons, List.flatMap_append, ← ih]
      cases piece with
      | hex byte =>
          have high := startsWithPlaceholder_of_ne (byte.high.character_ne underscore)
          have low := startsWithPlaceholder_of_ne (byte.low.character_ne underscore)
          simp [Piece.text, Piece.bytes, HexByte.text, fillPlaceholders, high, low]
      | placeholder name => rw [fillPlaceholders_placeholder]; rfl

theorem readBytes_text (bytes : List HexByte) :
    readBytes (bytes.flatMap HexByte.text) = some (bytes.map HexByte.value) := by
  induction bytes with
  | nil => rfl
  | cons byte bytes ih =>
      simp only [List.flatMap_cons, HexByte.text, List.cons_append, List.nil_append, readBytes,
        byte.high.isByteGap_character, Bool.false_eq_true, if_false, byte.high.valued,
        byte.low.valued, List.map_cons, HexByte.value]
      change (readBytes (bytes.flatMap HexByte.text)).bind _ = _
      rw [ih]
      rfl

/-! ## What stands around the pieces -/

/-- A piece starts with neither a blank nor a mark. -/
theorem Piece.exists_text_eq (piece : Piece) :
    ∃ first second rest, piece.text = first :: second :: rest ∧
      Text.isBlank first = false ∧ second ≠ 'x' ∧ second ≠ 'X' := by
  cases piece with
  | hex byte =>
      exact ⟨_, _, _, rfl, byte.high.isBlank_character, byte.low.character_ne rfl,
        byte.low.character_ne rfl⟩
  | placeholder name => exact ⟨_, _, _, rfl, by decide, by decide, by decide⟩

theorem Piece.isBlank_getLast? (piece : Piece) :
    ∀ character ∈ piece.text.getLast?, Text.isBlank character = false := by
  cases piece with
  | hex byte => simp [text, HexByte.text, HexDigit.isBlank_character]
  | placeholder name =>
      have last : (placeholder name).text.getLast? = some '_' := by
        simp [text, List.getLast?_cons]
      rw [last]
      simp only [Option.mem_def, Option.some.injEq]
      rintro _ rfl
      decide

theorem isBlank_getLast?_append {start : List Char}
    (startLast : ∀ character ∈ start.getLast?, Text.isBlank character = false)
    (pieces : List Piece) :
    ∀ character ∈ (start ++ pieces.flatMap Piece.text).getLast?,
      Text.isBlank character = false := by
  induction pieces generalizing start with
  | nil => simpa using startLast
  | cons piece pieces ih =>
      rw [List.flatMap_cons, ← List.append_assoc]
      apply ih
      intro character member
      rw [List.getLast?_append, Option.mem_def, Option.or_eq_some_iff] at member
      rcases member with last | ⟨-, last⟩
      · exact piece.isBlank_getLast? character last
      · exact startLast character last

theorem dropHexMark_of_ne {first second : Char} (lower : second ≠ 'x') (upper : second ≠ 'X')
    (rest : List Char) : dropHexMark (first :: second :: rest) = first :: second :: rest := by
  rw [dropHexMark]
  · intro _ same
    exact lower (List.cons.inj (List.cons.inj same).2).1
  · intro _ same
    exact upper (List.cons.inj (List.cons.inj same).2).1

variable {mark : List Char}

theorem HexMark.dropHexMark_append (marked : HexMark mark) (pieces : List Piece) :
    dropHexMark (mark ++ pieces.flatMap Piece.text) = pieces.flatMap Piece.text := by
  cases marked with
  | none =>
      cases pieces with
      | nil => rfl
      | cons piece pieces =>
          rcases piece.exists_text_eq with ⟨first, second, rest, text, -, lower, upper⟩
          simp only [List.nil_append, List.flatMap_cons, text, List.cons_append]
          exact dropHexMark_of_ne lower upper _
  | lower | upper => rfl

theorem HexMark.isBlank_head? (marked : HexMark mark) (pieces : List Piece) :
    ∀ character ∈ (mark ++ pieces.flatMap Piece.text).head?, Text.isBlank character = false := by
  cases marked with
  | none =>
      cases pieces with
      | nil => simp
      | cons piece pieces =>
          rcases piece.exists_text_eq with ⟨first, second, rest, text, blank, -⟩
          simpa [text] using blank
  | lower | upper =>
      simp only [List.cons_append, List.head?_cons, Option.mem_def, Option.some.injEq]
      rintro _ rfl
      decide

theorem HexMark.isBlank_getLast? (marked : HexMark mark) (pieces : List Piece) :
    ∀ character ∈ (mark ++ pieces.flatMap Piece.text).getLast?,
      Text.isBlank character = false := by
  apply isBlank_getLast?_append
  intro character last
  cases marked with
  | none => cases last
  | lower | upper =>
      cases last
      decide

/-- A text is decoded piece by piece. -/
theorem ofHex?_of_writes {pieces : List Piece} {text : String} (written : Writes pieces text) :
    ofHex? text = some (codeOf pieces) := by
  cases written with
  | between beforeBlank marked afterBlank =>
      rw [ofHex?, String.toList_ofList, Text.strip,
        Text.trim_append beforeBlank (marked.isBlank_head? pieces) (marked.isBlank_getLast? pieces)
          afterBlank,
        marked.dropHexMark_append, fillPlaceholders_text, readBytes_text, codeOf]

end Pinpoint.Bytecode
