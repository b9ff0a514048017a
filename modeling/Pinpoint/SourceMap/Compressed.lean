import Pinpoint.SourceMap.Entry

/-!
# Compressed source maps

A compiler writes one segment per instruction, separated by semicolons. A segment has up to five
fields, `start:length:fileIndex:jump:modifierDepth`, and a field that is empty or missing repeats
the value it had in the segment before. Fields beyond the fifth are ignored.
-/

namespace Pinpoint

namespace Entry

/-- The value of a numeric field: that of the previous entry if the field is empty or missing. -/
def numericField (previous : Int) (field : List Char) : Option Int :=
  if field.isEmpty then some previous else Text.readInt? field

/-- The entry that a segment stands for after the previous one. -/
def next (previous : Entry) (segment : List Char) : Except FormatError Entry :=
  let fields := Text.fields ':' segment
  let field (position : Nat) : List Char := fields.getD position []
  match numericField previous.start (field 0), numericField previous.length (field 1),
      numericField previous.fileIndex (field 2),
      numericField previous.modifierDepth (field 4) with
  | some start, some length, some fileIndex, some modifierDepth =>
    .ok
      { start, length, fileIndex, modifierDepth
        jump := if (field 3).isEmpty then previous.jump else String.ofList (field 3) }
  | _, _, _, _ => .error (.badSegment (String.ofList segment))

/-- The entries that segments stand for after a previous entry. -/
def decodeAfter (previous : Entry) : List (List Char) → Except FormatError (List Entry)
  | [] => .ok []
  | segment :: rest =>
    match next previous segment with
    | .error error => .error error
    | .ok entry =>
      match decodeAfter entry rest with
      | .error error => .error error
      | .ok entries => .ok (entry :: entries)

/-- Decodes a compressed source map: one entry per segment, and none at all for the empty text. -/
def decompress (text : String) : Except FormatError (List Entry) :=
  if text.isEmpty then .ok []
  else decodeAfter initial (Text.fields ';' text.toList)

end Entry

end Pinpoint
