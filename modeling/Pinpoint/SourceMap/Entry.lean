import Pinpoint.LineIndex
import Pinpoint.Text.Numeral
import Pinpoint.Text.Quoted

/-!
# Source-map entries

An entry of a compiler's source map ties one instruction to a byte range of a source file:
`start:length:fileIndex`, where the file index counts in a list of sources and -1 stands for code
that no source has. Written alone, an entry has at least these three fields, and further ones are
ignored.
-/

namespace Pinpoint

/-- The file index of code that was generated without a source. -/
def noFile : Int := -1

/-- A decoded source-map entry. -/
structure Entry where
  start : Int
  length : Int
  fileIndex : Int
  /-- How the instruction enters or leaves a function: `i`, `o` or `-`. -/
  jump : String
  modifierDepth : Int
  deriving BEq, DecidableEq, Repr

/-- Text that is not a source map or an entry of one. -/
inductive FormatError where
  /-- Fewer than three fields. -/
  | tooFewFields (entry : String)
  /-- A field of an entry is not a numeral. -/
  | badField (entry : String)
  /-- A field of a segment of a compressed map is not a numeral. -/
  | badSegment (segment : String)
  deriving BEq, DecidableEq, Repr

/-- The wording of a format error. -/
def FormatError.message : FormatError → String
  | .tooFewFields entry => "Expected start:length:fileIndex, got " ++ Text.quote entry
  | .badField entry => "Non-numeric field in source-map entry " ++ Text.quote entry
  | .badSegment segment => "Non-numeric field in source map at " ++ Text.quote segment

namespace Entry

/-- What the fields of the first entry of a map are understood to repeat. -/
def initial : Entry :=
  { start := 0, length := 0, fileIndex := noFile, jump := "-", modifierDepth := 0 }

/-- Whether an entry names a byte range of a source. -/
def hasSource (entry : Entry) : Bool :=
  entry.fileIndex != noFile && decide (0 ≤ entry.start) && decide (0 ≤ entry.length)

/-- Reads an entry that is written alone. Blanks around it are dropped. -/
def parse (text : String) : Except FormatError Entry :=
  match Text.fields ':' (Text.strip text.toList) with
  | start :: length :: fileIndex :: _ =>
    match Text.readInt? start, Text.readInt? length, Text.readInt? fileIndex with
    | some start, some length, some fileIndex =>
      .ok { initial with start, length, fileIndex }
    | _, _, _ => .error (.badField text)
  | _ => .error (.tooFewFields text)

/-- The span of an entry in the file that has the given line index. -/
def spanIn (entry : Entry) (index : LineIndex) : Span :=
  index.spanOfRange entry.start entry.length

end Entry

/-- The span that a written entry has in the file with the given line index; unresolved for
generated code. -/
def LineIndex.spanOfText (index : LineIndex) (text : String) : Except FormatError Span :=
  match Entry.parse text with
  | .error error => .error error
  | .ok entry => .ok (if entry.fileIndex = noFile then .unresolved else entry.spanIn index)

end Pinpoint
