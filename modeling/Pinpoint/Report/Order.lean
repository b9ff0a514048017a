import Pinpoint.Diagnostic

/-!
# The order of diagnostics

Diagnostics are ordered by their place: start line and column, then end line and column. The
fields after these only separate diagnostics at one place, so that the order of a report does not
depend on the order in which its diagnostics were found. Texts are ordered by code point.
-/

namespace Pinpoint

/-- The distance of two positions: of their columns if they are on one line, else of their lines.
It is zero exactly for equal positions and negative if the first one comes first. -/
def positionDistance (line column otherLine otherColumn : Int) : Int :=
  if line = otherLine then column - otherColumn else line - otherLine

namespace Diagnostic

/-- The distance of the places of two diagnostics: of their starts, or of their ends if they
start together. -/
def rangeDistance {Name : Type} (first second : Diagnostic Name) : Int :=
  let starts := positionDistance first.line first.column second.line second.column
  if starts ≠ 0 then starts
  else positionDistance first.endLine first.endColumn second.endLine second.endColumn

/-- The order of two diagnostics of a report. -/
def order (first second : Diagnostic String) : Ordering :=
  (compare first.line second.line).then <|
  (compare first.column second.column).then <|
  (compare first.endLine second.endLine).then <|
  (compare first.endColumn second.endColumn).then <|
  (compare first.ruleId second.ruleId).then <|
  (compare first.message second.message).then <|
  (compare first.severity.name second.severity.name).then <|
  compare first.filePath second.filePath

/-- The fields that order a diagnostic, the most significant first. -/
def orderKey (diagnostic : Diagnostic String) : Json :=
  .list
    [.int diagnostic.line, .int diagnostic.column, .int diagnostic.endLine,
      .int diagnostic.endColumn, .text diagnostic.ruleId, .text diagnostic.message,
      .text diagnostic.severity.name, .text diagnostic.filePath]

/-- The diagnostics in order. Those that are equal in the order keep their places. -/
def sort (diagnostics : List (Diagnostic String)) : List (Diagnostic String) :=
  diagnostics.mergeSort fun first second => (order first second).isLE

end Diagnostic

end Pinpoint
