import Pinpoint.Decimal.Rounding
import Pinpoint.Report.Numbers
import Pinpoint.Terminal
import Pinpoint.Text.Newlines
import Pinpoint.Text.Wrap

/-!
# Reports as tables

For each group with messages a ruled title with its path, and a table with a row per message:
location, severity, message and rule. The columns are as wide as their contents, except that the
message takes what is left of the width and is wrapped. Where nothing is left the other columns
are narrowed, and what they hold is cut. After the tables a line counts the problems of all
groups, if there are any.
-/

namespace Pinpoint.Report

/-- The width of tables unless another is given. -/
def defaultWidth : Nat := 120

/-- A text as one line: without dropped characters, with spaces for line feeds and tabs. -/
def titleText (path : String) : List Char :=
  Text.expandTabs <| (Terminal.dropControls path.toList).map fun character =>
    if character = '\n' then ' ' else character

/-- The cells that a title leaves to the row around it. -/
def titleMargin : Nat := 4

/-- A title in the middle of a row of dashes. -/
def titleRule (width : Nat) (path : String) : List Char :=
  let text := titleText path
  if text.isEmpty || width ≤ titleMargin then List.replicate width '-'
  else
    let title := Text.ellipsize (width - titleMargin) text
    let side := (width - Text.cells title) / 2
    List.replicate (side - 1) '-' ++ ' ' :: title ++
      ' ' :: List.replicate (width - side - Text.cells title - 1) '-'

/-- A cell of a row, as lines. -/
abbrev Cell := List (List Char)

/-- The lines of a text, without tabs. -/
def textLines (text : String) : Cell :=
  (Text.fields '\n' (Terminal.dropControls text.toList)).map Text.expandTabs

/-- The lines of a text, wrapped to a width; none if there is no width. -/
def wrappedLines (width : Nat) (text : String) : Cell :=
  if width = 0 then []
  else ((textLines text).flatMap (Text.wrap width)).map (Text.cut width)

/-- The lines of a text, each cut to a width; none if there is no width. -/
def cutLines (width : Nat) (text : String) : Cell :=
  if width = 0 then []
  else (textLines text).map (Text.ellipsize width)

/-- The location column of a message: line and column, or a dash if it has no place. -/
def locationText (message : Diagnostic String) : String :=
  if message.line < 0 then "-"
  else String.ofList (Text.writeInt message.line ++ ':' :: Text.writeInt message.column)

/-- The number of cells of a text's widest line. A tab counts for none, and any character that
ends a line in some convention ends a line here. -/
def measure (text : String) : Nat :=
  let lines := Text.fields '\n' <| (Terminal.dropControls text.toList).map fun character =>
    if Text.endsLine character then '\n' else character
  (lines.map Text.cells).foldl max 0

/-- The widths of the columns of a table, in cells, with the blank at each side. -/
structure Columns where
  location : Nat
  severity : Nat
  message : Nat
  rule : Nat
  deriving BEq, DecidableEq, Repr

/-- The headers of the columns. -/
def locationHeader : String := "location"
def severityHeader : String := "severity"
def messageHeader : String := "message"
def ruleHeader : String := "rule"

/-- The cells that the borders of four columns take. -/
def bordersWidth : Nat := 5

/-- The cells that the blanks of one column take. -/
def blanksWidth : Nat := 2

/-- The width of a column as wide as its contents, but not wider than the room for all columns. -/
def naturalWidth (room : Nat) (contents : List String) : Nat :=
  min ((contents.map measure).foldl max 0 + blanksWidth) room

/-- The columns of a table of messages in a width. If the columns besides the message are wider
than the room, each gives an equal share of what is too much, in whole cells. -/
def Columns.ofMessages (width : Nat) (messages : List (Diagnostic String)) : Columns :=
  let room := width - bordersWidth
  let location := naturalWidth room (locationHeader :: messages.map locationText)
  let severity := naturalWidth room (severityHeader :: messages.map (·.severity.name))
  let rule := naturalWidth room (ruleHeader :: messages.map (·.ruleId))
  let excess := location + severity + rule - room
  let fromLocation := min location (Decimal.roundQuotient excess 3)
  let fromSeverity := min severity (Decimal.roundQuotient (excess - fromLocation) 2)
  let fromRule := excess - fromLocation - fromSeverity
  { location := location - fromLocation
    severity := severity - fromSeverity
    message := room - (location + severity + rule)
    rule := rule - fromRule }

/-- A border of a table: its ends, the joints between columns, and the line. -/
def border (columns : Columns) (left line joint right : Char) : List Char :=
  let segment (width : Nat) : List Char := List.replicate width line
  left :: segment columns.location ++ joint :: segment columns.severity ++
    joint :: segment columns.message ++ joint :: segment columns.rule ++ [right]

/-- The cells of one row. -/
structure Row where
  location : Cell
  severity : Cell
  message : Cell
  rule : Cell

/-- The number of lines of a row. -/
def Row.height (row : Row) : Nat :=
  max 1 (max (max row.location.length row.severity.length) (max row.message.length row.rule.length))

/-- The row with its cells moved down to the lowest line of the row. -/
def Row.sunk (row : Row) : Row :=
  let sink (cell : Cell) : Cell := List.replicate (row.height - cell.length) [] ++ cell
  { location := sink row.location
    severity := sink row.severity
    message := sink row.message
    rule := sink row.rule }

/-- The place of a cell's line in a column: with a blank at each side, or all blank in a column
without room for more. A joiner at the end of the line takes the first space of the padding for
itself, so that what is still missing is added once more; joiners at its start may leave the line
wider than the room, and it then takes the place of the blank after it. -/
def place (width : Nat) (line : List Char) : List Char :=
  if width ≤ blanksWidth then Text.spaces width
  else
    let room := width - blanksWidth
    let padded := Text.padRight room (Text.padRight room line)
    ' ' :: padded ++ if Text.cells padded ≤ room then [' '] else []

/-- The lines of a row, with bars between the columns. A cell is empty below its last line. -/
def Row.lines (row : Row) (columns : Columns) (bar : Char) : List (List Char) :=
  (List.range row.height).map fun height =>
    bar :: place columns.location (row.location.getD height []) ++
      bar :: place columns.severity (row.severity.getD height []) ++
      bar :: place columns.message (row.message.getD height []) ++
      bar :: place columns.rule (row.rule.getD height []) ++ [bar]

/-- The row of four texts. The location stands at the right of its column, all else at the
left; only the message is wrapped. -/
def Row.ofTexts (columns : Columns) (location severity message rule : String) : Row :=
  { location :=
      (cutLines (columns.location - blanksWidth) location).map
        (Text.padLeft (columns.location - blanksWidth))
    severity := cutLines (columns.severity - blanksWidth) severity
    message := wrappedLines (columns.message - blanksWidth) message
    rule := cutLines (columns.rule - blanksWidth) rule }

/-- The row of the headers. -/
def headerRow (columns : Columns) : Row :=
  (Row.ofTexts columns locationHeader severityHeader messageHeader ruleHeader).sunk

/-- The row of a message. -/
def messageRow (columns : Columns) (message : Diagnostic String) : Row :=
  Row.ofTexts columns (locationText message) message.severity.name message.message message.ruleId

/-- The table of a group's messages. -/
def messageTable (width : Nat) (messages : List (Diagnostic String)) : List (List Char) :=
  let columns := Columns.ofMessages width messages
  border columns '┏' '━' '┳' '┓' :: (headerRow columns).lines columns '┃' ++
    border columns '┡' '━' '╇' '┩' ::
    messages.flatMap (fun message => (messageRow columns message).lines columns '│') ++
    [border columns '└' '─' '┴' '┘']

/-- The title and table of a group; nothing for a group without messages. -/
def groupLines (width : Nat) (group : FileReport) : List (List Char) :=
  if group.messages.isEmpty then []
  else titleRule width group.filePath :: messageTable width group.messages

/-- The line that counts the problems, wrapped to a width; none if there are no problems. -/
def Problems.lines (problems : Problems) (width : Nat) : List (List Char) :=
  if problems.total = 0 then []
  else wrappedLines width
    s!"{problems.total} problems ({problems.errors} errors, {problems.warnings} warnings)"

/-- The report as tables, every line ended by a line feed. -/
def tables (width : Nat) (report : GroupedReport) : List Char :=
  ((report.flatMap fun group => groupLines width group.2) ++
    (Problems.ofReport report).lines width).flatMap
    (· ++ ['\n'])

end Pinpoint.Report
