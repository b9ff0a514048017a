import Pinpoint.Proofs.Printing
import Pinpoint.Proofs.SourceFiles

/-!
# Reports as they are printed

The command renders its report and prints the text to the terminal, which reads emoji codes in it
and has its own way with control characters and tabs. The line styles write the line of a message
between two colons, and so each line number is an emoji code. One that stands for an emoji is -1,
the line of every finding without a place.
-/

namespace Pinpoint

/-- Small numbers can be written in every style. -/
theorem Report.checkNumbers_of_lt_ten {numbers : List Int}
    (small : ∀ value ∈ numbers, value.natAbs < 10) : checkNumbers numbers = .ok () :=
  checkNumbers_eq_ok_iff.mpr fun value member => Text.isWritable_of_lt_ten (small value member)

/-! ## What the command prints -/

namespace Cli

open Terminal (print Unaltered)

section Printed

variable {host : Host} {commandLine : List String} {arguments : Arguments}
variable {jobs : List Job}

/-- Whether a command line has settings that are accepted and names contracts that are loaded. -/
structure Loads (host : Host) (commandLine : List String) (arguments : Arguments)
    (jobs : List Job) : Prop where
  parsed : Arguments.parse commandLine = some arguments
  workers_pos : 0 < arguments.maxWorkers
  paired : arguments.artifacts.length = arguments.issues.length
  loaded : loadJobs host arguments = .ok jobs

theorem run_ne_noWorkers (loads : Loads host commandLine arguments jobs) :
    run jobs arguments.options arguments.maxWorkers ≠ .error .noWorkers := by
  intro ran
  rw [run, if_neg (Int.not_le.mpr loads.workers_pos)] at ran
  rcases mapError_eq_error.mp ran with ⟨fault, -, impossible⟩
  cases impossible

theorem command_eq_ok (loads : Loads host commandLine arguments jobs) {output : Output} :
    command host commandLine = .ok output ↔
      ∃ result, run jobs arguments.options arguments.maxWorkers = .ok result ∧
        Output.ofResult arguments.style result = .ok output := by
  have executed : command host commandLine = execute host arguments := by
    rw [command, loads.parsed]
  rw [executed, execute, if_neg (Int.not_le.mpr loads.workers_pos),
    if_neg (not_not_intro loads.paired), loads.loaded]
  cases ran : run jobs arguments.options arguments.maxWorkers with
  | ok result => simp [ran]
  | error error =>
      cases error with
      | noWorkers => exact absurd ran (run_ne_noWorkers loads)
      | fault fault => simp [ran]

theorem ofResult_eq_ok {style : Style} {result : RunResult} {output : Output}
    (returned : Output.ofResult style result = .ok output) :
    ∃ text, style.render result.report = .ok text ∧
      output.standardOutput = String.ofList (print text) := by
  rw [Output.ofResult] at returned
  split at returned
  · cases returned
  · next text rendered =>
      cases returned
      exact ⟨text, rendered, rfl⟩

/-- Once the contracts are loaded, a report that can be rendered is printed, and what is printed is
the rendered text and a line feed exactly when printing has nothing to change in the text. Nothing
else is ever printed. -/
theorem prints_report_iff (loads : Loads host commandLine arguments jobs) :
    (∀ result text, run jobs arguments.options arguments.maxWorkers = .ok result →
      arguments.style.render result.report = .ok text →
      ∃ output, command host commandLine = .ok output ∧
        (output.standardOutput = String.ofList (text ++ ['\n']) ↔ Unaltered text)) ∧
    ∀ output, command host commandLine = .ok output →
      ∃ result text, run jobs arguments.options arguments.maxWorkers = .ok result ∧
        arguments.style.render result.report = .ok text ∧
        output.standardOutput = String.ofList (print text) := by
  constructor
  · intro result text ran rendered
    have returned : ∃ output, Output.ofResult arguments.style result = .ok output := by
      rw [Output.ofResult, rendered]
      exact ⟨_, rfl⟩
    rcases returned with ⟨output, returned⟩
    refine ⟨output, (command_eq_ok loads).mpr ⟨result, ran, returned⟩, ?_⟩
    rcases ofResult_eq_ok returned with ⟨written, sameText, printed⟩
    cases rendered.symm.trans sameText
    rw [printed, String.ofList_inj, Terminal.print_eq_iff]
  · intro output returned
    rcases (command_eq_ok loads).mp returned with ⟨result, ran, returned⟩
    rcases ofResult_eq_ok returned with ⟨text, rendered, printed⟩
    exact ⟨result, text, ran, rendered, printed⟩

end Printed

/-! ## A finding without a place -/

/-- The text of findings with a location that names no file. -/
def unplacedFindings : List Char :=
  ("\x7b\"sourceList\":[\"v.sol\"],\"issues\":[\x7b\"locations\":[" ++
    "\x7b\"sourceMap\":\"0:1:-1\"\x7d]\x7d]\x7d").toList

/-- The build and the findings in one directory. -/
def unplacedFiles (path : Path) : Lookup :=
  match path.names with
  | ["build.json"] => .file (.bytes (Text.encodeUtf8 buildText))
  | ["findings.json"] => .file (.bytes (Text.encodeUtf8 unplacedFindings))
  | _ => .missing

def unplacedHost : Host := { files := unplacedFiles, nestingLimit := 100 }

def unplacedLine : List String :=
  ["--artifact", "build.json", "--issues", "findings.json", "--style", "compact"]

def unplacedArguments : Arguments :=
  { crlfArguments with style := .compact }

def unplacedBatch : Batch :=
  { format := "", sourceType := "", sourceList := [.text "v.sol"]
    issues := [{ crlfIssue with locations := [⟨.text "0:1:-1", none⟩] }] }

def unplacedJob : Job :=
  { artifact := crlfJob.artifact, batches := [unplacedBatch], sources := [] }

theorem loads_unplaced :
    Loads unplacedHost unplacedLine unplacedArguments [unplacedJob] where
  parsed := rfl
  workers_pos := by decide
  paired := rfl
  loaded := by decide +kernel

/-- The finding as it is reported. -/
def unplacedFinding : Diagnostic String :=
  { ruleId := "", line := -1, column := 0, endLine := -1, endColumn := 0, severity := .info
    message := "", fatal := false, filePath := "v.sol" }

def unplacedResult : RunResult :=
  { report :=
      [("v.sol",
        { filePath := "v.sol", errorCount := 0, warningCount := 0, fixableErrorCount := 0
          fixableWarningCount := 0, messages := [unplacedFinding] })]
    locationErrors := []
    contractErrors := [] }

theorem run_unplaced :
    run [unplacedJob] unplacedArguments.options unplacedArguments.maxWorkers =
      .ok unplacedResult := by
  decide +kernel

/-- The report as lines. -/
def unplacedText : List Char := "v.sol:-1:0: Info  []".toList

theorem render_unplaced : Style.render .compact unplacedResult.report = .ok unplacedText := by
  have numbers := @Report.checkNumbers_of_lt_ten (Report.lineNumbers unplacedResult.report)
    (by decide)
  have text : Report.lines unplacedResult.report = unplacedText := by decide +kernel
  rw [Style.render, numbers]
  exact congrArg Except.ok text

theorem print_unplaced : print unplacedText = "v.sol👎0: Info  []\n".toList := by
  decide +kernel

/-- The number of the line of the finding is a code that stands for an emoji. -/
theorem not_unaltered_unplaced : ¬Unaltered unplacedText := by
  rw [← Terminal.print_eq_iff, print_unplaced]
  decide +kernel

/-- The finding is printed, and not as the report has it. -/
theorem prints_report_iff_unplaced :
    ∃ output, command unplacedHost unplacedLine = .ok output ∧
      output.standardOutput ≠ String.ofList (unplacedText ++ ['\n']) := by
  rcases (prints_report_iff loads_unplaced).1 _ _ run_unplaced render_unplaced with
    ⟨output, returned, printed⟩
  exact ⟨output, returned, fun unchanged => not_unaltered_unplaced (printed.mp unchanged)⟩

/-- The report has the line of the finding, and what is printed has a thumb in its place. -/
theorem prints_emoji_unplaced :
    run [unplacedJob] unplacedArguments.options unplacedArguments.maxWorkers =
      .ok unplacedResult ∧
    Style.render .compact unplacedResult.report = .ok "v.sol:-1:0: Info  []".toList ∧
    command unplacedHost unplacedLine =
      .ok { exitCode := 0, standardOutput := "v.sol👎0: Info  []\n", standardError := "" } := by
  refine ⟨run_unplaced, render_unplaced, ?_⟩
  refine (command_eq_ok loads_unplaced).mpr ⟨_, run_unplaced, ?_⟩
  rw [Output.ofResult, unplacedArguments, render_unplaced]
  simp only [print_unplaced, String.ofList_toList]
  rfl

end Cli

end Pinpoint
