import Pinpoint.Proofs.HexText

/-!
# Runs of bytes

Cut at its placeholders, a bytecode text is a sequence of runs of bytes with placeholders among
them. Each segment is decoded by itself: a run as the bytes that it writes, and a placeholder as an
address of zeros, whatever its name looks like and whatever stands beside it. A text without
placeholders that writes the bytes of a code is decoded as this code.
-/

namespace Pinpoint.Bytecode

/-- A segment of a bytecode text. -/
inductive Segment where
  | run (bytes : List HexByte)
  | placeholder (name : LibraryName)

namespace Segment

/-- The characters of a segment. -/
def text : Segment → List Char
  | run bytes => bytes.flatMap HexByte.text
  | placeholder name => '_' :: '_' :: (name.characters ++ ['_', '_'])

/-- The code that a segment stands for. -/
def code : Segment → List UInt8
  | run bytes => bytes.map HexByte.value
  | placeholder _ => List.replicate addressLength 0

/-- The pieces of a segment: the single bytes of a run. -/
def pieces : Segment → List Piece
  | run bytes => bytes.map .hex
  | placeholder name => [.placeholder name]

theorem flatMap_text_pieces (segment : Segment) :
    segment.pieces.flatMap Piece.text = segment.text := by
  cases segment with
  | run bytes => rw [pieces, List.flatMap_map]; rfl
  | placeholder name => exact List.flatMap_singleton _ _

theorem codeOf_pieces (segment : Segment) : codeOf segment.pieces = segment.code := by
  cases segment with
  | run bytes =>
      rw [codeOf, pieces, List.flatMap_map, code]
      exact congrArg (List.map HexByte.value) (List.flatMap_singleton' bytes)
  | placeholder name => rfl

end Segment

theorem flatMap_text_flatMap_pieces (segments : List Segment) :
    (segments.flatMap Segment.pieces).flatMap Piece.text = segments.flatMap Segment.text := by
  rw [List.flatMap_assoc]
  exact congrArg segments.flatMap (funext Segment.flatMap_text_pieces)

theorem codeOf_flatMap_pieces (segments : List Segment) :
    codeOf (segments.flatMap Segment.pieces) = segments.flatMap Segment.code := by
  rw [codeOf, List.flatMap_assoc, List.map_flatMap]
  exact congrArg segments.flatMap (funext Segment.codeOf_pieces)

/-! ## Bytes as they are written -/

/-- The digit that is written for a value. -/
def HexDigit.ofValue (value : Nat) (bound : value < 16) : HexDigit :=
  ⟨Nat.digitChar value, value, Text.hexDigitValue?_digitChar bound⟩

/-- The digits that are written for a byte. -/
def HexByte.ofByte (byte : UInt8) : HexByte where
  high := .ofValue (byte.toNat / 16) (by have := byte.toNat_lt; omega)
  low := .ofValue (byte.toNat % 16) (by omega)

theorem HexByte.value_ofByte (byte : UInt8) : (ofByte byte).value = byte := by
  have parts : byte.toNat / 16 * 16 + byte.toNat % 16 = byte.toNat := by omega
  exact (congrArg UInt8.ofNat parts).trans (UInt8.ofNat_toNat)

theorem HexByte.text_ofByte (byte : UInt8) : (ofByte byte).text = Text.hexDigits 2 byte.toNat := by
  have high : byte.toNat / 16 % 16 = byte.toNat / 16 := by
    have := byte.toNat_lt
    omega
  simp only [Text.hexDigits, high]
  rfl

theorem toHex_eq (code : List UInt8) :
    toHex code = (Segment.run (code.map .ofByte)).text := by
  rw [toHex, Segment.text, List.flatMap_map]
  exact congrArg code.flatMap (funext fun byte => (HexByte.text_ofByte byte).symm)

/-- A text of segments, after an optional mark and between blanks, is decoded segment by segment,
and so a code is read back from its bytes as they are written. -/
theorem ofHex?_segments :
    (∀ (segments : List Segment) (before mark after : List Char),
      (∀ character ∈ before, Text.isBlank character = true) → HexMark mark →
      (∀ character ∈ after, Text.isBlank character = true) →
      ofHex? (String.ofList (before ++ (mark ++ segments.flatMap Segment.text) ++ after)) =
        some (segments.flatMap Segment.code)) ∧
    ∀ code : List UInt8, ofHex? (String.ofList (toHex code)) = some code := by
  have segmentwise (segments : List Segment) (before mark after : List Char)
      (beforeBlank : ∀ character ∈ before, Text.isBlank character = true) (marked : HexMark mark)
      (afterBlank : ∀ character ∈ after, Text.isBlank character = true) :
      ofHex? (String.ofList (before ++ (mark ++ segments.flatMap Segment.text) ++ after)) =
        some (segments.flatMap Segment.code) := by
    have written : Writes (segments.flatMap Segment.pieces) _ :=
      .between beforeBlank marked afterBlank
    rw [flatMap_text_flatMap_pieces] at written
    rw [ofHex?_of_writes written, codeOf_flatMap_pieces]
  refine ⟨segmentwise, fun code => ?_⟩
  have run := segmentwise [.run (code.map .ofByte)] [] [] [] (by simp) .none (by simp)
  have read : (code.map HexByte.ofByte).map HexByte.value = code := by
    rw [List.map_map]
    exact List.map_id'' HexByte.value_ofByte code
  simpa [toHex_eq, Segment.code, read] using run

/-- The name of a library that is nothing but underscores. -/
def blankName : LibraryName :=
  ⟨List.replicate 36 '_', by decide, by decide⟩

/-- A name that starts with a mark, a blank and the ends of a placeholder. -/
def deceptiveName : LibraryName :=
  ⟨['0', 'x', ' ', '_', '_', '_', '_'] ++ List.replicate 29 'f', by decide, by decide⟩

/-- Two placeholders side by side, with names that could be taken for other segments, leave the byte
behind them where it is. -/
theorem ofHex?_segments_deceptive :
    ∃ first last : HexByte, first.text = ['7', '3'] ∧ last.text = ['f', 'E'] ∧
      ofHex? (String.ofList (['\n', ' '] ++ (['0', 'X'] ++
        [.run [first], .placeholder blankName, .placeholder deceptiveName, .run [last]].flatMap
          Segment.text) ++ ['\t'])) =
        some (0x73 :: List.replicate 40 0 ++ [0xFE]) := by
  refine ⟨⟨⟨'7', 7, rfl⟩, ⟨'3', 3, rfl⟩⟩, ⟨⟨'f', 15, rfl⟩, ⟨'E', 14, rfl⟩⟩, rfl, rfl, ?_⟩
  rw [ofHex?_segments.1 _ _ _ _ (List.all_eq_true.mp rfl) .upper (List.all_eq_true.mp rfl)]
  rfl

end Pinpoint.Bytecode
