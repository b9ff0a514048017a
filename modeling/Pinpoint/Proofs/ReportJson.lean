import Pinpoint.Json.Display
import Pinpoint.Proofs.DiagnosticOrder
import Pinpoint.Proofs.JsonRoundTrip
import Pinpoint.Proofs.Results
import Pinpoint.Report.Style

/-!
# Reports as JSON

A report that is written as JSON loses nothing but the names of its groups: the text is read as
the list of the reports of the groups, and each of them is put together again from its members.
It is written as long as none of its numbers has too many digits.
-/

namespace Pinpoint

/-! ## Reading a report -/

/-- Reads a diagnostic of a report. -/
def Diagnostic.ofJson (payload : Json) : Except ShapeError (Diagnostic String) := do
  let severity ← (← payload.member "severity").asText
  return {
    ruleId := ← (← payload.member "ruleId").asText
    line := ← (← payload.member "line").toInt
    column := ← (← payload.member "column").toInt
    endLine := ← (← payload.member "endLine").toInt
    endColumn := ← (← payload.member "endCol").toInt
    severity := .ofReported severity
    message := ← (← payload.member "message").asText
    fatal := (← payload.member "fatal").isPresent
    filePath := ← (← payload.member "filePath").asText }

/-- Reads the report of a file. -/
def FileReport.ofJson (payload : Json) : Except ShapeError FileReport := do
  let messages ← (← payload.member "messages").items
  return {
    filePath := ← (← payload.member "filePath").asText
    errorCount := ← (← payload.member "errorCount").toInt
    warningCount := ← (← payload.member "warningCount").toInt
    fixableErrorCount := ← (← payload.member "fixableErrorCount").toInt
    fixableWarningCount := ← (← payload.member "fixableWarningCount").toInt
    messages := ← messages.mapM Diagnostic.ofJson }

/-- Reads the reports that are listed. -/
def FileReport.listOfJson (payload : Json) : Except ShapeError (List FileReport) := do
  (← payload.items).mapM ofJson

theorem Diagnostic.ofJson_toJson (diagnostic : Diagnostic String) :
    ofJson (diagnostic.toJson Json.text) = .ok diagnostic := by
  rcases diagnostic with ⟨ruleId, line, column, endLine, endColumn, severity, _, _, _⟩
  cases severity <;> rfl

/-- What is written value by value is read value by value. -/
theorem mapM_map_eq_ok {α : Type} {write : α → Json} {read : Json → Except ShapeError α}
    (inverse : ∀ value, read (write value) = .ok value) (values : List α) :
    (values.map write).mapM read = .ok values := by
  rw [mapM_eq_ok, List.map_map]
  exact List.map_congr_left fun value _ => inverse value

theorem FileReport.ofJson_toJson (report : FileReport) : ofJson report.toJson = .ok report := by
  have messages := mapM_map_eq_ok Diagnostic.ofJson_toJson report.messages
  change ((report.messages.map (·.toJson Json.text)).mapM Diagnostic.ofJson >>=
    fun messages => .ok { report with messages }) = .ok report
  rw [messages]
  rfl

theorem listOfJson_report (report : GroupedReport) :
    FileReport.listOfJson (.list (report.map fun group => group.2.toJson)) =
      .ok (report.map Prod.snd) := by
  have reports := mapM_map_eq_ok FileReport.ofJson_toJson (report.map Prod.snd)
  rw [List.map_map] at reports
  exact reports

/-! ## Writing a report -/

open Json (Legible)

theorem Diagnostic.legible_toJson {levels : Nat} {diagnostic : Diagnostic String}
    (writable : ∀ number ∈ [diagnostic.line, diagnostic.column, diagnostic.endLine,
      diagnostic.endColumn], Text.isWritable number = true) :
    Legible (levels + 1) (diagnostic.toJson Json.text) := by
  simp only [List.forall_mem_cons] at writable
  rcases writable with ⟨line, column, endLine, endColumn, -⟩
  apply Legible.object
  · simp
  · simp only [List.forall_mem_cons]
    exact ⟨.int column, .int endColumn, .int endLine, .bool _, .text _, .int line, .text _,
      .text _, .text _, List.forall_mem_nil _⟩

theorem FileReport.legible_toJson {levels : Nat} {report : FileReport}
    (counts : ∀ number ∈ [report.errorCount, report.warningCount, report.fixableErrorCount,
      report.fixableWarningCount], Text.isWritable number = true)
    (messages : ∀ message ∈ report.messages, ∀ number ∈ [message.line, message.column,
      message.endLine, message.endColumn], Text.isWritable number = true) :
    Legible (levels + 3) report.toJson := by
  simp only [List.forall_mem_cons] at counts
  rcases counts with ⟨errors, warnings, fixableErrors, fixableWarnings, -⟩
  have listed : Legible (levels + 2) (.list (report.messages.map (·.toJson Json.text))) := by
    apply Legible.list
    intro item member
    rcases List.mem_map.mp member with ⟨message, messageMem, rfl⟩
    exact Diagnostic.legible_toJson (messages message messageMem)
  apply Legible.object
  · simp
  · simp only [List.forall_mem_cons]
    exact ⟨.int errors, .text _, .int fixableErrors, .int fixableWarnings, listed, .int warnings,
      List.forall_mem_nil _⟩

/-- A report is legible when its numbers can be written. It is nested four levels deep. -/
theorem legible_report {levels : Nat} {report : GroupedReport}
    (writable : ∀ number ∈ Report.allNumbers report, Text.isWritable number = true) :
    Legible (levels + 4) (.list (report.map fun group => group.2.toJson)) := by
  rw [Report.allNumbers, List.forall_mem_append] at writable
  rcases writable with ⟨counts, messages⟩
  apply Legible.list
  intro item member
  rcases List.mem_map.mp member with ⟨group, groupMem, rfl⟩
  apply FileReport.legible_toJson
  · intro number listed
    exact counts number (List.mem_flatMap.mpr ⟨group, groupMem, listed⟩)
  · intro message messageMem number listed
    have reported : message ∈ Report.messages report :=
      List.mem_flatMap.mpr ⟨group, groupMem, messageMem⟩
    exact messages number (List.mem_flatMap.mpr ⟨message, reported, listed⟩)

theorem render_json_eq_ok_iff {report : GroupedReport} {text : List Char} :
    Style.render .json report = .ok text ↔
      (∀ number ∈ Report.allNumbers report, Text.isWritable number = true) ∧
        text = (Json.list (report.map fun group => group.2.toJson)).indented 0 := by
  rw [Style.render]
  exact Report.checkNumbers_bind_eq_ok_iff

/-- What is written is read as the list of the reports of the groups. -/
theorem read_of_render_json {report : GroupedReport} {text : List Char}
    (rendered : Style.render .json report = .ok text) (levels : Nat) :
    Json.read (levels + 4) text = .ok (.list (report.map fun group => group.2.toJson)) := by
  rcases render_json_eq_ok_iff.mp rendered with ⟨writable, rfl⟩
  exact (legible_report writable).read

theorem isAscii_of_render_json {report : GroupedReport} {text : List Char}
    (rendered : Style.render .json report = .ok text) : Json.IsAscii text := by
  rcases render_json_eq_ok_iff.mp rendered with ⟨writable, rfl⟩
  exact (@legible_report 0 _ writable).isAscii 0

/-- A report is written as JSON exactly when no number in it has more than 4300 digits. What is
written is ASCII text that is read, by a reader which allows four levels or more, as the list of
the reports of its groups, and they are put together again from it, so different reports have
different texts. -/
theorem render_json_lossless (report : GroupedReport) :
    ((∃ text, Style.render .json report = .ok text) ↔
      ∀ number ∈ Report.allNumbers report, (Nat.toDigits 10 number.natAbs).length ≤ 4300) ∧
    ∀ text, Style.render .json report = .ok text →
      Json.IsAscii text ∧
      (∀ levels, Json.read (levels + 4) text =
        .ok (.list (report.map fun group => group.2.toJson))) ∧
      FileReport.listOfJson (.list (report.map fun group => group.2.toJson)) =
        .ok (report.map Prod.snd) ∧
      ∀ other : GroupedReport, other.map Prod.snd ≠ report.map Prod.snd →
        Style.render .json other ≠ .ok text := by
  constructor
  · simp only [render_json_eq_ok_iff, Text.isWritable_iff_length, exists_and_left,
      exists_eq, and_true]
  · intro text rendered
    have read := read_of_render_json rendered
    refine ⟨isAscii_of_render_json rendered, read, listOfJson_report report, ?_⟩
    intro other different otherRendered
    have same := (read_of_render_json otherRendered 0).symm.trans (read 0)
    have reports := listOfJson_report other
    rw [Except.ok.inj same, listOfJson_report report] at reports
    exact different (Except.ok.inj reports).symm

/-- A report whose texts have to be escaped: with quotation marks, a backslash, a line feed, and
characters of one, two and four bytes. -/
def scriptReport : GroupedReport :=
  [("a.sol",
    { filePath := "C:\\a.sol", errorCount := 1, warningCount := 0, fixableErrorCount := 0
      fixableWarningCount := -1
      messages := [⟨"SWC-101", 3, 0, -1, 12, .high, "a \"b\"\n\x7f é 😀", true, "C:\\a.sol"⟩] }),
    ("b.sol", ⟨"b.sol", 0, 0, 0, 0, []⟩)]

theorem render_json_lossless_scripts :
    ∃ text, Style.render .json scriptReport = .ok text ∧ Json.IsAscii text ∧
      (∀ levels, Json.read (levels + 4) text =
        .ok (.list (scriptReport.map fun group => group.2.toJson))) ∧
      FileReport.listOfJson (.list (scriptReport.map fun group => group.2.toJson)) =
        .ok (scriptReport.map Prod.snd) ∧
      Style.render .json [] ≠ .ok text := by
  obtain ⟨rendered, lossless⟩ := render_json_lossless scriptReport
  obtain ⟨text, textOk⟩ := rendered.mpr (by decide)
  obtain ⟨ascii, read, listed, different⟩ := lossless text textOk
  exact ⟨text, textOk, ascii, read, listed, different [] (by decide)⟩

/-- A report with one message, which ends at a column. -/
def reportUpTo (endColumn : Int) : GroupedReport :=
  [("v.sol",
    { filePath := "v.sol", errorCount := 0, warningCount := 0, fixableErrorCount := 0
      fixableWarningCount := 0
      messages := [⟨"", 2, 0, 2, endColumn, .info, "", false, "v.sol"⟩] })]

theorem mem_allNumbers_reportUpTo (endColumn : Int) :
    endColumn ∈ Report.allNumbers (reportUpTo endColumn) := by
  simp [Report.allNumbers, Report.messages, reportUpTo]

/-- No text is written for a column of 4301 digits. -/
theorem render_json_refuses_long :
    ¬∃ text, Style.render .json (reportUpTo (Nat.pow 10 Text.digitLimit : Nat)) = .ok text := by
  rintro ⟨text, rendered⟩
  have writable := (render_json_eq_ok_iff.mp rendered).1
  have short := Text.isWritable_iff.mp (writable _ (mem_allNumbers_reportUpTo _))
  rw [Int.natAbs_natCast] at short
  exact Nat.lt_irrefl _ short

end Pinpoint
