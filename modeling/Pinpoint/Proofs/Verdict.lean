import Pinpoint.Proofs.InsertionOrder
import Pinpoint.Proofs.Isolation
import Pinpoint.Proofs.PrintedReport

/-!
# The exit code

The exit code is read off the error counts of the groups of a report. These counts come about path
by path, after equal diagnostics were dropped, and are then added up by file name; a contract that
fails has no share in them. None of this adds an error or loses the last one: a report has errors
exactly when one of its diagnostics counts as an error, and a run exits with 1 exactly when one of
its contracts that are normalized has a finding of high severity.
-/

namespace Pinpoint

open GroupedReport (ofDiagnostics)

theorem Diagnostic.isError_iff {diagnostic : Diagnostic String} :
    diagnostic.isError = true ↔ diagnostic.fatal = true ∨ diagnostic.severity = .high := by
  rw [isError_eq_decide, decide_eq_true_iff]

/-- The count of errors of a group is positive when one of its diagnostics is an error. -/
theorem errorCount_groupNamed_pos_iff {name : String} {diagnostics : List (Diagnostic String)} :
    0 < (groupNamed name diagnostics).errorCount ↔
      ∃ diagnostic ∈ diagnostics,
        baseName diagnostic.filePath = name ∧ diagnostic.isError = true := by
  rw [errorCount_groupNamed, Int.natCast_pos, List.countP_pos_iff]
  simp only [mem_messages_groupNamed, and_assoc]

theorem hasErrors_ofDiagnostics_iff {diagnostics : List (Diagnostic String)} :
    (ofDiagnostics diagnostics).hasErrors = true ↔
      ∃ diagnostic ∈ diagnostics, diagnostic.isError = true := by
  rw [GroupedReport.hasErrors, List.any_eq_true]
  constructor
  · intro given
    rcases given with ⟨⟨name, group⟩, listed, positive⟩
    rcases mem_ofDiagnostics.mp listed with ⟨-, rfl⟩
    rcases errorCount_groupNamed_pos_iff.mp (of_decide_eq_true positive) with
      ⟨diagnostic, member, -, error⟩
    exact ⟨diagnostic, member, error⟩
  · intro given
    rcases given with ⟨diagnostic, member, error⟩
    refine ⟨_, mem_ofDiagnostics.mpr ⟨⟨diagnostic, member, rfl⟩, rfl⟩, ?_⟩
    exact decide_eq_true (errorCount_groupNamed_pos_iff.mpr ⟨diagnostic, member, rfl, error⟩)

/-- Whether a job is normalized and has a finding of high severity. -/
def Job.FindsHigh (job : Job) (options : Options) : Prop :=
  ∃ normalized, job.normalize options = .ok normalized ∧
    ∃ diagnostic ∈ normalized.diagnostics, diagnostic.severity = .high

/-- The report of a run has errors exactly when one of its jobs has a finding of high severity: no
finding is fatal, and the jobs that fail have none. -/
theorem Run.hasErrors_of_gather {options : Options} {finished : List Job} {result : RunResult}
    (returned : gather options finished = .ok result) :
    result.report.hasErrors = true ↔ ∃ job ∈ finished, job.FindsHigh options := by
  rcases gather_eq_ok_iff.mp returned with ⟨-, ⟨diagnostics, namedOk, report⟩, -, -⟩
  rw [report, hasErrors_ofDiagnostics_iff]
  simp only [Diagnostic.isError_iff]
  constructor
  · intro given
    rcases given with ⟨diagnostic, member, error⟩
    rcases (mem_of_mapM_eq_ok namedOk).mp member with ⟨source, sourceMem, sourceOk⟩
    rcases List.mem_flatMap.mp sourceMem with ⟨normalized, found, sourceMem⟩
    rcases mem_findings.mp found with ⟨job, jobMem, jobOk⟩
    have notFatal := (Job.settles_of_mem_diagnostics jobOk sourceMem).fatal_eq_false
    cases withTextName_eq_ok.mp sourceOk
    have high := error.resolve_left (ne_true_of_eq_false notFatal)
    exact ⟨job, jobMem, normalized, jobOk, _, sourceMem, high⟩
  · intro given
    rcases given with ⟨job, jobMem, normalized, jobOk, source, sourceMem, high⟩
    have found := mem_findings.mpr ⟨job, jobMem, jobOk⟩
    have listed := List.mem_flatMap.mpr ⟨normalized, found, sourceMem⟩
    rcases exists_mapM_eq_ok.mp ⟨_, namedOk⟩ source listed with ⟨diagnostic, sourceOk⟩
    cases withTextName_eq_ok.mp sourceOk
    exact ⟨diagnostic, (mem_of_mapM_eq_ok namedOk).mpr ⟨_, listed, sourceOk⟩, .inr high⟩

namespace Cli

open Run (Yields gather)

/-! ## Runs of the command that return -/

/-- Whether a command line names contracts that are loaded, and a run of them returns, in some
schedule of the workers. -/
structure Returns (host : Host) (commandLine : List String) (arguments : Arguments)
    (jobs : List Job) (result : RunResult) (output : Output) : Prop
    extends Loads host commandLine arguments jobs where
  yielded : Yields jobs arguments.options arguments.maxWorkers (.ok result)
  written : Output.ofResult arguments.style result = .ok output

section

variable {host : Host} {commandLine : List String} {arguments : Arguments}
variable {jobs : List Job} {result : RunResult} {output : Output}

/-- What a run returns is gathered from its jobs in some order. -/
theorem Returns.exists_gather (returns : Returns host commandLine arguments jobs result output) :
    ∃ order, order.Perm jobs ∧ gather arguments.options order = .ok result := by
  rcases Run.exists_perm_of_yields returns.workers_pos returns.yielded with ⟨order, perm, ran⟩
  exact ⟨order, perm, mapError_eq_ok.mp ran.symm⟩

/-- What is gathered in some order, if it can be rendered, is what a run returns. -/
theorem returns_of_gather (loads : Loads host commandLine arguments jobs) {order : List Job}
    (perm : order.Perm jobs) (gathered : gather arguments.options order = .ok result)
    {text : List Char} (rendered : arguments.style.render result.report = .ok text) :
    ∃ output, Returns host commandLine arguments jobs result output := by
  have completes : Pool.Completes arguments.maxWorkers.toNat jobs order :=
    (Pool.completes_iff_perm (Int.lt_toNat.mpr loads.workers_pos)).mpr perm
  have yielded : Yields jobs arguments.options arguments.maxWorkers
      ((gather arguments.options order).mapError .fault) :=
    .gathered loads.workers_pos completes
  rw [mapError_eq_ok.mpr gathered] at yielded
  have written : ∃ output, Output.ofResult arguments.style result = .ok output := by
    rw [Output.ofResult, rendered]
    exact ⟨_, rfl⟩
  rcases written with ⟨output, written⟩
  exact ⟨output, { loads with yielded, written }⟩

/-- The command that takes up one contract after the other is one of the runs. -/
theorem exists_returns (loads : Loads host commandLine arguments jobs)
    (returned : command host commandLine = .ok output) :
    ∃ result, Returns host commandLine arguments jobs result output := by
  rcases (command_eq_ok loads).mp returned with ⟨result, ran, written⟩
  have yielded := Run.yields_run jobs arguments.options arguments.maxWorkers
  rw [ran] at yielded
  exact ⟨result, { loads with yielded, written }⟩

theorem Returns.exitCode_eq (returns : Returns host commandLine arguments jobs result output) :
    output.exitCode = if result.report.hasErrors then 1 else 0 := by
  have written := returns.written
  rw [Output.ofResult] at written
  split at written
  · cases written
  · cases written
    rfl

theorem Returns.hasErrors_iff (returns : Returns host commandLine arguments jobs result output) :
    result.report.hasErrors = true ↔ ∃ job ∈ jobs, job.FindsHigh arguments.options := by
  rcases returns.exists_gather with ⟨order, perm, gathered⟩
  rw [Run.hasErrors_of_gather gathered]
  simp only [perm.mem_iff]

/-- Once its contracts are loaded, every run of the command that returns exits with 1 if one of them
is normalized and has a finding of high severity, and with 0 if none does. The report of any list of
diagnostics has errors exactly when one of them is fatal or of high severity. -/
theorem exitCode_exact (loads : Loads host commandLine arguments jobs) :
    (∀ result output, Returns host commandLine arguments jobs result output →
      (output.exitCode = 1 ↔ ∃ job ∈ jobs, job.FindsHigh arguments.options) ∧
      (output.exitCode = 0 ↔ ¬∃ job ∈ jobs, job.FindsHigh arguments.options)) ∧
    (∀ output, command host commandLine = .ok output →
      ∃ result, Returns host commandLine arguments jobs result output) ∧
    ∀ diagnostics, (ofDiagnostics diagnostics).hasErrors = true ↔
      ∃ diagnostic ∈ diagnostics, diagnostic.fatal = true ∨ diagnostic.severity = .high := by
  refine ⟨?_, fun output returned => exists_returns loads returned, ?_⟩
  · intro result output returns
    rw [← returns.hasErrors_iff, returns.exitCode_eq]
    cases result.report.hasErrors with
    | true => simp
    | false => simp
  · intro diagnostics
    simp only [hasErrors_ofDiagnostics_iff, Diagnostic.isError_iff]

end

/-! ## A finding with details and the same without -/

/-- The text of two findings of high severity, one with details and one without. -/
def detailFindings : List Char :=
  ("\x7b\"sourceList\":[\"v.sol\"],\"issues\":[" ++
    "\x7b\"description\":\x7b\"tail\":\"b\"\x7d,\"severity\":\"High\"," ++
    "\"locations\":[\x7b\"sourceMap\":\"0:1:-1\"\x7d]\x7d," ++
    "\x7b\"severity\":\"High\",\"locations\":[\x7b\"sourceMap\":\"0:1:-1\"\x7d]\x7d]\x7d").toList

/-- The text of a finding at a bytecode offset. -/
def offsetFindings : List Char :=
  ("\x7b\"sourceFormat\":\"evm-byzantium-bytecode\",\"issues\":[" ++
    "\x7b\"locations\":[\x7b\"address\":0\x7d]\x7d]\x7d").toList

/-- A build without bytecode and the two texts in one directory. -/
def detailFiles (path : Path) : Lookup :=
  match path.names with
  | ["build.json"] => .file (.bytes (Text.encodeUtf8 buildText))
  | ["details.json"] => .file (.bytes (Text.encodeUtf8 detailFindings))
  | ["offsets.json"] => .file (.bytes (Text.encodeUtf8 offsetFindings))
  | _ => .missing

def detailHost : Host := { files := detailFiles, nestingLimit := 100 }

def detailIssue (tail : String) : Issue :=
  { crlfIssue with tail, severity := "High", locations := [⟨.text "0:1:-1", none⟩] }

def detailBatch : Batch :=
  { format := "", sourceType := "", sourceList := [.text "v.sol"]
    issues := [detailIssue "b", detailIssue ""] }

def detailJob : Job :=
  { artifact := crlfJob.artifact, batches := [detailBatch], sources := [] }

def offsetBatch : Batch :=
  { format := bytecodeFormat, sourceType := "", sourceList := []
    issues := [{ crlfIssue with locations := [⟨.null, some 0⟩] }] }

/-- A job that fails, since its location is a bytecode offset and the build has no bytecode. -/
def offsetJob : Job :=
  { artifact := crlfJob.artifact, batches := [offsetBatch], sources := [] }

def detailLine : List String :=
  ["--artifact", "build.json", "--issues", "details.json", "--artifact", "build.json", "--issues",
    "offsets.json", "--style", "json"]

def detailArguments : Arguments :=
  { artifacts := ["build.json", "build.json"], issues := ["details.json", "offsets.json"]
    sourceRoot := ".", style := .json, maxWorkers := 4, debug := false }

theorem loads_detail :
    Loads detailHost detailLine detailArguments [detailJob, offsetJob] where
  parsed := rfl
  workers_pos := by decide
  paired := rfl
  loaded := by decide +kernel

/-- The finding with a message, as it is reported. -/
def detailFinding (message : String) : Diagnostic String :=
  { ruleId := "", line := -1, column := 0, endLine := -1, endColumn := 0, severity := .high
    message, fatal := false, filePath := "v.sol" }

def detailNormalized (messages : List String) : Normalized :=
  { diagnostics := messages.map fun message => (detailFinding message).withName (.text "v.sol")
    errors := []
    suppressions := [] }

def detailReport (errorCount : Int) (messages : List String) : GroupedReport :=
  [("v.sol",
    { filePath := "v.sol", errorCount, warningCount := 0, fixableErrorCount := 0
      fixableWarningCount := 0, messages := messages.map detailFinding })]

def detailResult (errorCount : Int) (messages : List String) : RunResult :=
  { report := detailReport errorCount messages
    locationErrors := []
    contractErrors := [⟨"V", (ArtifactError.noBytecode "V").message⟩] }

/-- A run of the two jobs gives what is reported of the one and the error of the other. -/
theorem gather_detailJobs {options : Options} {found shown : List String} {errorCount : Int}
    (normalized : detailJob.normalize options = .ok (detailNormalized found))
    (failed : offsetJob.normalize options = .error (.artifact (.noBytecode "V")))
    (reported : ofDiagnostics (found.map detailFinding) = detailReport errorCount shown) :
    gather options [detailJob, offsetJob] = .ok (detailResult errorCount shown) := by
  have settled : [detailJob, offsetJob].mapM (Run.settle options) =
      .ok [.inl (detailNormalized found),
        .inr ⟨"V", (ArtifactError.noBytecode "V").message⟩] := by
    rw [mapM_eq_ok, List.map_cons, List.map_cons, Run.settle, normalized, Run.settle, failed]
    rfl
  have named : (found.map fun message =>
      (detailFinding message).withName (.text "v.sol")).mapM Run.withTextName =
        .ok (found.map detailFinding) := by
    rw [mapM_eq_ok, List.map_map, List.map_map]
    rfl
  have listed : (Run.diagnosticsOf [.inl (detailNormalized found),
      .inr ⟨"V", (ArtifactError.noBytecode "V").message⟩]).mapM Run.withTextName =
        .ok (found.map detailFinding) := by
    rw [← named]
    exact congrArg (List.mapM Run.withTextName) (List.append_nil _)
  rw [Run.gather_of_errorsOf_eq_nil settled listed rfl, reported, Run.sortContractErrors,
    List.filterMap_cons, List.filterMap_cons, List.filterMap_nil]
  simp only [Sum.getRight?, List.mergeSort_singleton]
  rfl

theorem normalize_detail :
    detailJob.normalize detailArguments.options = .ok (detailNormalized [" b", ""]) :=
  rfl

theorem returns_detail :
    ∃ output, Returns detailHost detailLine detailArguments [detailJob, offsetJob]
      (detailResult 2 ["", " b"]) output := by
  have numbers := @Report.checkNumbers_of_lt_ten
    (Report.allNumbers (detailReport 2 ["", " b"])) (by decide)
  have rendered : ∃ text, Style.render .json (detailReport 2 ["", " b"]) = .ok text := by
    rw [Style.render, numbers]
    exact ⟨_, rfl⟩
  rcases rendered with ⟨text, rendered⟩
  exact returns_of_gather loads_detail (.refl _)
    (gather_detailJobs normalize_detail rfl (by cbv)) rendered

/-- A contract that fails does not hide the findings of the other one. -/
theorem exitCode_exact_detail :
    offsetJob.normalize detailArguments.options = .error (.artifact (.noBytecode "V")) ∧
    ∃ output, Returns detailHost detailLine detailArguments [detailJob, offsetJob]
      (detailResult 2 ["", " b"]) output ∧ output.exitCode = 1 := by
  refine ⟨rfl, ?_⟩
  rcases returns_detail with ⟨output, returns⟩
  have high : detailJob.FindsHigh detailArguments.options :=
    ⟨_, normalize_detail, _, List.mem_cons_self, rfl⟩
  exact ⟨output, returns, ((exitCode_exact loads_detail).1 _ _ returns).1.mpr
    ⟨_, List.mem_cons_self, high⟩⟩

end Cli

end Pinpoint
