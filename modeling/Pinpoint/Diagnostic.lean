import Pinpoint.Finding.Severity
import Pinpoint.Json.Value

/-!
# Diagnostics

A diagnostic is a finding with a place in a source, ready for a report. While findings are
resolved the name of its file is whatever JSON value the batch gives; a report needs a text. The
type of diagnostics is therefore parameterized by the type of file names.
-/

namespace Pinpoint

/-- A finding with its place. The lines of a finding without a place are -1. -/
structure Diagnostic (Name : Type) where
  ruleId : String
  line : Int
  column : Int
  endLine : Int
  endColumn : Int
  severity : Severity
  message : String
  /-- Whether the finding stands for a source that could not be read at all. -/
  fatal : Bool
  filePath : Name
  deriving BEq, ReflBEq, LawfulBEq, DecidableEq, Repr

/-- A diagnostic with another name for its file. -/
def Diagnostic.withName {Name Other : Type} (diagnostic : Diagnostic Name) (name : Other) :
    Diagnostic Other :=
  { diagnostic with filePath := name }

/-- A diagnostic as it is written into reports. -/
def Diagnostic.toJson {Name : Type} (writeName : Name → Json) (diagnostic : Diagnostic Name) :
    Json :=
  .object
    [("column", .int diagnostic.column),
      ("endCol", .int diagnostic.endColumn),
      ("endLine", .int diagnostic.endLine),
      ("fatal", .bool diagnostic.fatal),
      ("filePath", writeName diagnostic.filePath),
      ("line", .int diagnostic.line),
      ("message", .text diagnostic.message),
      ("ruleId", .text diagnostic.ruleId),
      ("severity", .text diagnostic.severity.name)]

end Pinpoint
