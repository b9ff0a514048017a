import Pinpoint.Json.Printer
import Pinpoint.Report.Lines
import Pinpoint.Report.Table

/-!
# Report styles

A report is written as tables, as JSON, or as lines. The line styles look the same; two of them
are for places with little space, where messages are kept to the first part of the description.
-/

namespace Pinpoint

/-- A way to write a report. -/
inductive Style where
  | compact
  | json
  | markdown
  | stylish
  | tap
  | unix
  deriving BEq, DecidableEq, Repr

/-- A style name that no style has. -/
structure UnknownStyle where
  name : String
  deriving BEq, DecidableEq, Repr

namespace Style

/-- The styles, in the order of their names. -/
def all : List Style := [.compact, .json, .markdown, .stylish, .tap, .unix]

/-- The name of a style. -/
def name : Style → String
  | .compact => "compact"
  | .json => "json"
  | .markdown => "markdown"
  | .stylish => "stylish"
  | .tap => "tap"
  | .unix => "unix"

/-- The style that applies unless another is given. -/
def default : Style := .stylish

/-- The style of a name. -/
def ofName? (name : String) : Option Style :=
  all.find? fun style => style.name == name

/-- The style of a name that may be missing or empty. -/
def select (name : Option String) : Except UnknownStyle Style :=
  match name with
  | none => .ok default
  | some name =>
    if name.isEmpty then .ok default
    else match ofName? name with
      | some style => .ok style
      | none => .error ⟨name⟩

/-- Whether messages are kept short in a style. -/
def isSpaceLimited : Style → Bool
  | .tap | .markdown => true
  | .compact | .json | .stylish | .unix => false

/-- The report as tables of a width, if its numbers can be written. -/
def renderTables (width : Nat) (report : GroupedReport) :
    Except Report.NumberTooLong (List Char) := do
  Report.checkNumbers (Report.tableNumbers report)
  return Report.tables width report

/-- The report in a style, if the numbers that the style shows can be written. -/
def render (style : Style) (report : GroupedReport) : Except Report.NumberTooLong (List Char) := do
  match style with
  | .stylish => renderTables Report.defaultWidth report
  | .json =>
    Report.checkNumbers (Report.allNumbers report)
    return (Json.list (report.map fun group => group.2.toJson)).indented 0
  | .compact | .markdown | .tap | .unix =>
    Report.checkNumbers (Report.lineNumbers report)
    return Report.lines report

end Style

/-- The wording of the refusal of an unknown style. -/
def UnknownStyle.message (error : UnknownStyle) : String :=
  "Unsupported report style: " ++ error.name ++ " (available: " ++
    String.intercalate ", " (Style.all.map Style.name) ++ ")"

end Pinpoint
