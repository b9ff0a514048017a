import Pinpoint.Report.Grouping
import Pinpoint.Text.Fields
import Pinpoint.Text.Numeral

/-!
# Reports as lines

One line per message: `path:line:column: severity message [rule]`, under the path of its group.
-/

namespace Pinpoint.Report

/-- The line of one message of a group. -/
def messageLine (groupPath : String) (message : Diagnostic String) : List Char :=
  groupPath.toList ++ ':' :: Text.writeInt message.line ++ ':' :: Text.writeInt message.column ++
    ':' :: ' ' :: message.severity.name.toList ++ ' ' :: message.message.toList ++
    ' ' :: '[' :: message.ruleId.toList ++ [']']

/-- The lines of a report, in the order of its groups and messages. -/
def messageLines (report : GroupedReport) : List (List Char) :=
  report.flatMap fun group => group.2.messages.map (messageLine group.2.filePath)

/-- The report as lines, with a line feed between them. -/
def lines (report : GroupedReport) : List Char :=
  Text.joinFields '\n' (messageLines report)

end Pinpoint.Report
