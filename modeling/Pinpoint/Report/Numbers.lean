import Pinpoint.Report.Grouping
import Pinpoint.Text.Numeral

/-!
# The numbers of a report

A report cannot be written if one of the numbers that it shows has too many digits. The counts and
places that are shown depend on the style, so each style names its numbers and they are checked
before anything is written.
-/

namespace Pinpoint.Report

/-- A number that has too many digits to be written. -/
structure NumberTooLong where
  value : Int
  deriving BEq, DecidableEq, Repr

/-- Refuses numbers that cannot be written. -/
def checkNumbers (numbers : List Int) : Except NumberTooLong Unit :=
  match numbers.find? fun value => !Text.isWritable value with
  | some value => .error ⟨value⟩
  | none => .ok ()

/-- The messages of all groups, in order. -/
def messages (report : GroupedReport) : List (Diagnostic String) :=
  report.flatMap (·.2.messages)

/-- The numbers of a report as lines: where its messages start. -/
def lineNumbers (report : GroupedReport) : List Int :=
  (messages report).flatMap fun message => [message.line, message.column]

/-- How many problems the groups of a report have, by their kinds. -/
structure Problems where
  errors : Int
  warnings : Int
  deriving BEq, DecidableEq, Repr

namespace Problems

/-- The problems of a report. -/
def ofReport (report : GroupedReport) : Problems :=
  { errors := FileReport.sumCounts (report.map (·.2.errorCount))
    warnings := FileReport.sumCounts (report.map (·.2.warningCount)) }

/-- The number of all problems. -/
def total (problems : Problems) : Int :=
  problems.errors + problems.warnings

/-- The numbers of the line that counts the problems. There is no such line without problems. -/
def numbers (problems : Problems) : List Int :=
  if problems.total = 0 then [] else [problems.total, problems.errors, problems.warnings]

end Problems

/-- The numbers of a report as tables: the places of the messages that have one, and the counts of
the summary. -/
def tableNumbers (report : GroupedReport) : List Int :=
  ((messages report).filter fun message => decide (0 ≤ message.line)).flatMap
    (fun message => [message.line, message.column]) ++ (Problems.ofReport report).numbers

/-- The numbers of a report as JSON: all that it holds. -/
def allNumbers (report : GroupedReport) : List Int :=
  report.flatMap (fun group =>
    [group.2.errorCount, group.2.warningCount, group.2.fixableErrorCount,
      group.2.fixableWarningCount]) ++
  (messages report).flatMap fun message =>
    [message.line, message.column, message.endLine, message.endColumn]

end Pinpoint.Report
