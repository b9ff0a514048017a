import Pinpoint.FileName
import Pinpoint.Report.Order
import Pinpoint.Text.Sorted

/-!
# Reports

Diagnostics are gathered in two steps: into one report for each path, where equal diagnostics
count once, and then into one group for each file name, under the first of its paths. Findings of
high severity, and fatal ones, count as errors; those of medium and low severity as warnings;
informational ones are listed and not counted.
-/

namespace Pinpoint

/-- The diagnostics of one file, or of the files of one name, with their counts. -/
structure FileReport where
  filePath : String
  errorCount : Int
  warningCount : Int
  fixableErrorCount : Int
  fixableWarningCount : Int
  messages : List (Diagnostic String)
  deriving BEq, DecidableEq, Repr

/-- Reports by file name, in the order of the names. -/
abbrev GroupedReport := List (String × FileReport)

namespace Diagnostic

/-- Whether a diagnostic counts as an error. -/
def isError (diagnostic : Diagnostic String) : Bool :=
  diagnostic.fatal || diagnostic.severity == .high

/-- Whether a diagnostic counts as a warning. -/
def isWarning (diagnostic : Diagnostic String) : Bool :=
  !diagnostic.fatal && (diagnostic.severity == .medium || diagnostic.severity == .low)

end Diagnostic

namespace FileReport

/-- The report of one path: its diagnostics in order, and how many of them are errors and
warnings. -/
def ofPath (path : String) (diagnostics : List (Diagnostic String)) : FileReport :=
  let messages := Diagnostic.sort (diagnostics.filter (·.filePath == path)).eraseDups
  { filePath := path
    errorCount := messages.countP Diagnostic.isError
    warningCount := messages.countP Diagnostic.isWarning
    fixableErrorCount := 0
    fixableWarningCount := 0
    messages }

/-- One report for each path, in the order of the paths. -/
def ofDiagnostics (diagnostics : List (Diagnostic String)) : List FileReport :=
  (Text.sortedNames (diagnostics.map (·.filePath))).map fun path => ofPath path diagnostics

/-- The sum of counts. -/
def sumCounts (counts : List Int) : Int :=
  counts.foldr (· + ·) 0

/-- The report of several files that share a name: counts are added up, and the messages put in
order together. It has the path of the first file. -/
def merge (reports : List FileReport) : FileReport :=
  { filePath := (reports.head?.map (·.filePath)).getD ""
    errorCount := sumCounts (reports.map (·.errorCount))
    warningCount := sumCounts (reports.map (·.warningCount))
    fixableErrorCount := sumCounts (reports.map (·.fixableErrorCount))
    fixableWarningCount := sumCounts (reports.map (·.fixableWarningCount))
    messages := Diagnostic.sort (reports.flatMap (·.messages)) }

/-- A report as it is written. -/
def toJson (report : FileReport) : Json :=
  .object
    [("errorCount", .int report.errorCount),
      ("filePath", .text report.filePath),
      ("fixableErrorCount", .int report.fixableErrorCount),
      ("fixableWarningCount", .int report.fixableWarningCount),
      ("messages", .list (report.messages.map (·.toJson Json.text))),
      ("warningCount", .int report.warningCount)]

end FileReport

namespace GroupedReport

/-- Groups reports by the file names of their paths. -/
def ofReports (reports : List FileReport) : GroupedReport :=
  (Text.sortedNames (reports.map fun report => baseName report.filePath)).map fun name =>
    (name, .merge (reports.filter fun report => baseName report.filePath == name))

/-- The grouped report of the diagnostics of a run. -/
def ofDiagnostics (diagnostics : List (Diagnostic String)) : GroupedReport :=
  ofReports (FileReport.ofDiagnostics diagnostics)

/-- Whether a group has an error. -/
def hasErrors (report : GroupedReport) : Bool :=
  report.any fun group => decide (0 < group.2.errorCount)

end GroupedReport

end Pinpoint
