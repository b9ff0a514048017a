import Mathlib.Logic.Basic
import Pinpoint.Proofs.LoadFailures
import Pinpoint.Proofs.Verdict

/-!
# How the command ends

The command documents three exit codes: 0 and 1 for a report, 2 for input that is refused. It can
also be interrupted and then leaves neither a code nor a word. That happens while a contract is
loaded, while its findings are normalized, and while the report is written, and for each of these
the input that brings it about is told here. The workers have no part in it: whether a run is
interrupted is the same in every schedule.
-/

namespace Pinpoint

/-! ## Contracts that are stopped -/

/-- Whether normalizing a job comes to a place that holds a value of the wrong shape. The batches
before it are normalized. -/
def Job.IsStopped (job : Job) (options : Options) : Prop :=
  ∃ before batch after, job.batches = before ++ batch :: after ∧
    (∀ earlier ∈ before, ∃ outcomes,
      (Contract.ofSources job.artifact job.sources).outcomes options earlier = .ok outcomes) ∧
    ∃ place ∈ batch.places,
      (Contract.ofSources job.artifact job.sources).Misshapen options batch place

theorem Job.normalize_eq_error {job : Job} {options : Options} {fault : Fault} :
    job.normalize options = .error fault ↔
      ∃ before batch after, job.batches = before ++ batch :: after ∧
        (∀ earlier ∈ before, ∃ outcomes,
          (Contract.ofSources job.artifact job.sources).outcomes options earlier = .ok outcomes) ∧
        (Contract.ofSources job.artifact job.sources).outcomes options batch = .error fault := by
  rw [← mapM_eq_error_iff, normalize, bind_eq_error]
  apply or_iff_left
  rintro ⟨outcomes, -, impossible⟩
  cases impossible

/-- A job is contained unless it is stopped by a value of the wrong shape. -/
theorem Job.contained_iff_not_isStopped {job : Job} {options : Options} :
    job.Contained options ↔ ¬job.IsStopped options := by
  constructor
  · rintro contained ⟨before, batch, after, listed, earlier, place, member, misshapen⟩
    rcases Contract.outcomes_of_misshapen member misshapen with ⟨error, failed⟩
    rcases contained _ (normalize_eq_error.mpr ⟨before, batch, after, listed, earlier, failed⟩) with
      ⟨_, impossible⟩
    cases impossible
  · intro unstopped fault failed
    rcases normalize_eq_error.mp failed with ⟨before, batch, after, listed, earlier, failed⟩
    rcases Contract.stopped_of_outcomes_eq_error failed with ⟨error, rfl, -⟩ |
      ⟨error, rfl, place, member, misshapen⟩
    · exact ⟨error, rfl⟩
    · exact absurd ⟨before, batch, after, listed, earlier, place, member, misshapen⟩ unstopped

/-- Jobs with texts for names are gathered unless one of them is stopped. -/
theorem Run.gather_eq_error {options : Options} {finished : List Job}
    (texts : ∀ job ∈ finished, job.HasTextNames) :
    (∃ fault, gather options finished = .error fault) ↔
      ∃ job ∈ finished, job.IsStopped options := by
  have gathers : (∃ result, gather options finished = .ok result) ↔
      ∀ job ∈ finished, ¬job.IsStopped options := by
    simp only [← Job.contained_iff_not_isStopped]
    constructor
    · rintro ⟨result, gathered⟩
      exact (gather_eq_ok_iff.mp gathered).1
    · exact fun contained => exists_gather_eq_ok contained texts
  rw [exists_eq_error_iff, gathers]
  simp only [not_forall, not_not, exists_prop]

/-! ## Reports that cannot be written -/

/-- The numbers that a report shows in a style. -/
def Style.shownNumbers (style : Style) (report : GroupedReport) : List Int :=
  match style with
  | .stylish => Report.tableNumbers report
  | .json => Report.allNumbers report
  | .compact | .markdown | .tap | .unix => Report.lineNumbers report

/-- A report is written in a style unless it shows a number of more than 4300 digits. -/
theorem Style.render_eq_error {style : Style} {report : GroupedReport} :
    (∃ error, style.render report = .error error) ↔
      ∃ number ∈ style.shownNumbers report, 4300 < (Nat.toDigits 10 number.natAbs).length := by
  have checked (numbers : List Int) (written : List Char) :
      (∃ error, (Report.checkNumbers numbers >>= fun _ => pure written) = .error error) ↔
        ∃ number ∈ numbers, 4300 < (Nat.toDigits 10 number.natAbs).length := by
    rw [exists_eq_error_iff]
    simp only [Report.checkNumbers_bind_eq_ok_iff, exists_and_left, exists_eq, and_true,
      Text.isWritable_iff_length, not_forall, Nat.not_le, exists_prop]
  cases style with
  | stylish => exact checked _ _
  | json => exact checked _ _
  | compact | markdown | tap | unix => exact checked _ _

namespace Cli

open Run (Yields gather)

/-! ## What the command ends with -/

/-- Whether a command line is not misused: its settings are read, there are workers, and each
artifact has its findings. -/
structure Accepts (commandLine : List String) (arguments : Arguments) : Prop where
  parsed : Arguments.parse commandLine = some arguments
  workers_pos : 0 < arguments.maxWorkers
  paired : arguments.artifacts.length = arguments.issues.length

/-- What is left of the outcome of a run. -/
def conclusion (style : Style) : Except RunError RunResult → Except Interruption Output
  | .error .noWorkers => .ok (.refusal "max-workers must be > 0\n")
  | .error (.fault fault) => .error (.fault fault)
  | .ok result => Output.ofResult style result

/-- What the command can end with. Once the contracts are loaded, the order in which the workers
finish them is open. -/
inductive Ends (host : Host) (commandLine : List String) :
    Except Interruption Output → Prop
  | unloaded : (∀ arguments jobs, ¬Loads host commandLine arguments jobs) →
      Ends host commandLine (command host commandLine)
  | ran {arguments : Arguments} {jobs : List Job} {outcome : Except RunError RunResult} :
      Loads host commandLine arguments jobs →
      Yields jobs arguments.options arguments.maxWorkers outcome →
      Ends host commandLine (conclusion arguments.style outcome)

section Command

variable {host : Host} {commandLine : List String} {arguments : Arguments}

theorem Accepts.unique {other : Arguments} (accepts : Accepts commandLine arguments)
    (otherAccepts : Accepts commandLine other) : arguments = other :=
  Option.some.inj (accepts.parsed.symm.trans otherAccepts.parsed)

theorem Loads.accepts {jobs : List Job} (loads : Loads host commandLine arguments jobs) :
    Accepts commandLine arguments :=
  { loads with }

theorem Loads.unique {other : Arguments} {jobs otherJobs : List Job}
    (loads : Loads host commandLine arguments jobs)
    (otherLoads : Loads host commandLine other otherJobs) :
    arguments = other ∧ jobs = otherJobs := by
  cases loads.accepts.unique otherLoads.accepts
  exact ⟨rfl, Except.ok.inj (loads.loaded.symm.trans otherLoads.loaded)⟩

theorem Accepts.loads {jobs : List Job} (accepts : Accepts commandLine arguments)
    (loaded : loadJobs host arguments = .ok jobs) : Loads host commandLine arguments jobs :=
  { accepts with loaded }

/-- Contracts that cannot be loaded are not loaded with other settings. -/
theorem Accepts.not_loads {error : LoadError} (accepts : Accepts commandLine arguments)
    (failed : loadJobs host arguments = .error error) (other : Arguments) (jobs : List Job) :
    ¬Loads host commandLine other jobs := by
  intro loads
  cases accepts.unique loads.accepts
  cases failed.symm.trans loads.loaded

theorem command_of_accepts (host : Host) (accepts : Accepts commandLine arguments) :
    command host commandLine =
      match loadJobs host arguments with
      | .error (.input error) => .ok (.refusal (error.message ++ "\n"))
      | .error (.interruption interruption) => .error interruption
      | .ok jobs =>
        conclusion arguments.style (run jobs arguments.options arguments.maxWorkers) := by
  rw [command, accepts.parsed]
  change execute host arguments = _
  rw [execute, if_neg (Int.not_le.mpr accepts.workers_pos), if_neg (not_not_intro accepts.paired)]
  cases loadJobs host arguments with
  | error error => cases error <;> rfl
  | ok jobs =>
      dsimp only
      cases run jobs arguments.options arguments.maxWorkers with
      | ok result => rfl
      | error error => cases error <;> rfl

theorem exists_refusal_of_not_accepts (host : Host)
    (misused : ∀ arguments, ¬Accepts commandLine arguments) :
    ∃ message, command host commandLine = .ok (.refusal message) := by
  rw [command]
  cases parsed : Arguments.parse commandLine with
  | none => exact ⟨_, rfl⟩
  | some arguments =>
      change ∃ message, execute host arguments = _
      rw [execute]
      split
      next => exact ⟨_, rfl⟩
      next workers =>
        split
        next => exact ⟨_, rfl⟩
        next paired =>
          exact absurd ⟨parsed, Int.not_le.mp workers, not_not.mp paired⟩ (misused arguments)

/-- The command is one of its own runs. -/
theorem ends_command (host : Host) (commandLine : List String) :
    Ends host commandLine (command host commandLine) := by
  by_cases loads : ∃ arguments jobs, Loads host commandLine arguments jobs
  · rcases loads with ⟨arguments, jobs, loads⟩
    rw [command_of_accepts host loads.accepts, loads.loaded]
    exact .ran loads (Run.yields_run jobs arguments.options arguments.maxWorkers)
  · exact .unloaded fun arguments jobs given => loads ⟨arguments, jobs, given⟩

/-- Whether loading the contracts comes to one of a kind: the contracts before it are loaded. -/
def ComesToContract (host : Host) (arguments : Arguments)
    (kind : Path → Path → Prop) : Prop :=
  ∃ before artifactPath issuesPath after,
    arguments.artifacts.zip arguments.issues = before ++ (artifactPath, issuesPath) :: after ∧
      (∀ earlier ∈ before, ∃ job, loadJob host (.parse arguments.sourceRoot) (.parse earlier.1)
        (.parse earlier.2) = .ok job) ∧
      kind (.parse artifactPath) (.parse issuesPath)

theorem failsWith_loadJobs {kind : LoadError → Prop} {bad : Path → Path → Prop}
    (each : ∀ pair ∈ arguments.artifacts.zip arguments.issues,
      FailsWith kind
          (loadJob host (.parse arguments.sourceRoot) (.parse pair.1) (.parse pair.2)) ↔
        bad (.parse pair.1) (.parse pair.2)) :
    FailsWith kind (loadJobs host arguments) ↔ ComesToContract host arguments bad := by
  rw [loadJobs, failsWith_mapM]
  constructor
  · rintro ⟨before, pair, after, listed, earlier, failed⟩
    have member : pair ∈ arguments.artifacts.zip arguments.issues := by simp [listed]
    exact ⟨before, pair.1, pair.2, after, listed, earlier, (each pair member).mp failed⟩
  · rintro ⟨before, artifactPath, issuesPath, after, listed, earlier, isBad⟩
    have member : (artifactPath, issuesPath) ∈ arguments.artifacts.zip arguments.issues := by
      simp [listed]
    exact ⟨before, _, after, listed, earlier, (each _ member).mpr isBad⟩

/-- The files of the contracts are among those that the command line names. -/
theorem Accepts.readsWhole (accepts : Accepts commandLine arguments)
    (whole : ∀ path ∈ inputPaths commandLine, host.ReadsWhole path) {pair : String × String}
    (member : pair ∈ arguments.artifacts.zip arguments.issues) :
    host.ReadsWhole (.parse pair.1) ∧ host.ReadsWhole (.parse pair.2) := by
  have paths : inputPaths commandLine =
      (arguments.artifacts ++ arguments.issues).map Path.parse := by
    rw [inputPaths, accepts.parsed]
  rcases List.of_mem_zip member with ⟨artifact, issues⟩
  rw [paths] at whole
  exact ⟨whole _ (List.mem_map_of_mem (List.mem_append_left _ artifact)),
    whole _ (List.mem_map_of_mem (List.mem_append_right _ issues))⟩

theorem Accepts.failsWith_isRefusal_loadJobs (accepts : Accepts commandLine arguments)
    (whole : ∀ path ∈ inputPaths commandLine, host.ReadsWhole path) :
    FailsWith LoadError.IsRefusal (loadJobs host arguments) ↔
      ComesToContract host arguments (RefusesContract host) :=
  failsWith_loadJobs fun _ member =>
    failsWith_isRefusal_loadJob (accepts.readsWhole whole member).1
      (accepts.readsWhole whole member).2

theorem Accepts.failsWith_isInterruption_loadJobs (accepts : Accepts commandLine arguments)
    (whole : ∀ path ∈ inputPaths commandLine, host.ReadsWhole path) :
    FailsWith LoadError.IsInterruption (loadJobs host arguments) ↔
      ComesToContract host arguments
        (InterruptsContract host (.parse arguments.sourceRoot)) :=
  failsWith_loadJobs fun _ member =>
    failsWith_isInterruption_loadJob (accepts.readsWhole whole member).1
      (accepts.readsWhole whole member).2

/-- Whether a command line is refused: it is misused, or one of its contracts is refused. -/
inductive IsRefused (host : Host) (commandLine : List String) : Prop
  | misused : (∀ arguments, ¬Accepts commandLine arguments) → IsRefused host commandLine
  | contract {arguments : Arguments} : Accepts commandLine arguments →
      ComesToContract host arguments (RefusesContract host) → IsRefused host commandLine

/-- Whether a command is interrupted: one of its contracts interrupts the loading, or is stopped, or
the report shows a number of more than 4300 digits. -/
inductive IsInterrupted (host : Host) (commandLine : List String) : Prop
  | loading {arguments : Arguments} : Accepts commandLine arguments →
      ComesToContract host arguments (InterruptsContract host (.parse arguments.sourceRoot)) →
      IsInterrupted host commandLine
  | running {arguments : Arguments} {jobs : List Job} {job : Job} :
      Loads host commandLine arguments jobs → job ∈ jobs → job.IsStopped arguments.options →
      IsInterrupted host commandLine
  | writing {arguments : Arguments} {jobs : List Job} {result : RunResult} {number : Int} :
      Loads host commandLine arguments jobs →
      run jobs arguments.options arguments.maxWorkers = .ok result →
      number ∈ arguments.style.shownNumbers result.report →
      4300 < (Nat.toDigits 10 number.natAbs).length → IsInterrupted host commandLine

theorem Accepts.isRefused_iff (accepts : Accepts commandLine arguments)
    (whole : ∀ path ∈ inputPaths commandLine, host.ReadsWhole path) :
    IsRefused host commandLine ↔ FailsWith LoadError.IsRefusal (loadJobs host arguments) := by
  rw [accepts.failsWith_isRefusal_loadJobs whole]
  constructor
  · rintro (misused | ⟨otherAccepts, comes⟩)
    · exact absurd accepts (misused arguments)
    · cases accepts.unique otherAccepts
      exact comes
  · exact .contract accepts

/-- Whether a command that cannot load its contracts is interrupted. -/
theorem Accepts.isInterrupted_iff {error : LoadError} (accepts : Accepts commandLine arguments)
    (whole : ∀ path ∈ inputPaths commandLine, host.ReadsWhole path)
    (failed : loadJobs host arguments = .error error) :
    IsInterrupted host commandLine ↔
      FailsWith LoadError.IsInterruption (loadJobs host arguments) := by
  rw [accepts.failsWith_isInterruption_loadJobs whole]
  constructor
  · rintro (⟨otherAccepts, comes⟩ | ⟨loads, -, -⟩ | ⟨loads, -, -, -⟩)
    · cases accepts.unique otherAccepts
      exact comes
    · exact absurd loads (accepts.not_loads failed _ _)
    · exact absurd loads (accepts.not_loads failed _ _)
  · exact .loading accepts

/-- Whether a command that loads its contracts is interrupted. -/
theorem Loads.isInterrupted_iff {jobs : List Job} (loads : Loads host commandLine arguments jobs)
    (whole : ∀ path ∈ inputPaths commandLine, host.ReadsWhole path) :
    IsInterrupted host commandLine ↔
      (∃ job ∈ jobs, job.IsStopped arguments.options) ∨
        ∃ result, run jobs arguments.options arguments.maxWorkers = .ok result ∧
          ∃ number ∈ arguments.style.shownNumbers result.report,
            4300 < (Nat.toDigits 10 number.natAbs).length := by
  constructor
  · rintro (⟨accepts, comes⟩ | ⟨otherLoads, member, stopped⟩ | ⟨otherLoads, ran, member, long⟩)
    · cases accepts.unique loads.accepts
      rcases (accepts.failsWith_isInterruption_loadJobs whole).mpr comes with ⟨error, failed, -⟩
      cases failed.symm.trans loads.loaded
    · obtain ⟨rfl, rfl⟩ := loads.unique otherLoads
      exact .inl ⟨_, member, stopped⟩
    · obtain ⟨rfl, rfl⟩ := loads.unique otherLoads
      exact .inr ⟨_, ran, _, member, long⟩
  · rintro (⟨job, member, stopped⟩ | ⟨result, ran, number, member, long⟩)
    · exact .running loads member stopped
    · exact .writing loads ran member long

theorem Loads.hasTextNames {jobs : List Job} (loads : Loads host commandLine arguments jobs) :
    ∀ job ∈ jobs, job.HasTextNames := by
  intro job member
  rcases (mem_of_mapM_eq_ok loads.loaded).mp member with ⟨pair, -, loaded⟩
  exact hasTextNames_of_loadJob loaded

/-- Writing a report is interrupted by its numbers only. -/
theorem ofResult_eq_error {style : Style} {result : RunResult} :
    (∃ interruption, Output.ofResult style result = .error interruption) ↔
      ∃ number ∈ style.shownNumbers result.report,
        4300 < (Nat.toDigits 10 number.natAbs).length := by
  rw [← Style.render_eq_error, Output.ofResult]
  cases style.render result.report <;> simp

/-- Every run of loaded contracts, in whatever schedule, is interrupted on the same condition: the
workers change the order of what is gathered, and neither whether it is gathered nor the report. -/
theorem Loads.conclusion_eq_error {jobs : List Job} {outcome : Except RunError RunResult}
    (loads : Loads host commandLine arguments jobs)
    (whole : ∀ path ∈ inputPaths commandLine, host.ReadsWhole path)
    (yielded : Yields jobs arguments.options arguments.maxWorkers outcome) :
    (∃ interruption, conclusion arguments.style outcome = .error interruption) ↔
      IsInterrupted host commandLine := by
  rw [loads.isInterrupted_iff whole, ← Run.gather_eq_error loads.hasTextNames]
  simp only [Run.run_eq_ok loads.workers_pos]
  rcases Run.exists_perm_of_yields loads.workers_pos yielded with ⟨order, perm, rfl⟩
  cases gathered : gather arguments.options jobs with
  | ok result =>
      -- The report is the same in every order, and so are the numbers that it shows.
      rcases Run.gather_congr (fun _ => perm.symm.mem_iff) gathered with ⟨other, otherOk, report⟩
      rw [otherOk, or_iff_right not_exists_ok_eq_error]
      refine ofResult_eq_error.trans ?_
      rw [report]
      simp only [Except.ok.injEq, exists_eq_left']
  | error fault =>
      refine iff_of_true ?_ (.inl ⟨fault, rfl⟩)
      cases reordered : gather arguments.options order with
      | error other => exact ⟨.fault other, rfl⟩
      | ok other =>
          rcases Run.gather_congr (fun _ => perm.mem_iff) reordered with ⟨result, impossible, -⟩
          cases gathered.symm.trans impossible

/-- The exit code of a run of loaded contracts is not that of a refusal. -/
theorem Loads.exitCode_conclusion {jobs : List Job} {outcome : Except RunError RunResult}
    {output : Output} (loads : Loads host commandLine arguments jobs)
    (yielded : Yields jobs arguments.options arguments.maxWorkers outcome)
    (ended : conclusion arguments.style outcome = .ok output) :
    output.exitCode = 0 ∨ output.exitCode = 1 := by
  rcases Run.exists_perm_of_yields loads.workers_pos yielded with ⟨order, perm, rfl⟩
  cases gathered : gather arguments.options order with
  | error fault =>
      rw [gathered] at ended
      cases ended
  | ok result =>
      rw [gathered] at yielded ended
      have returns : Returns host commandLine arguments jobs result output :=
        { loads with yielded, written := ended }
      rw [returns.exitCode_eq]
      cases result.report.hasErrors with
      | true => exact .inr rfl
      | false => exact .inl rfl

theorem IsInterrupted.exists_accepts (interrupted : IsInterrupted host commandLine) :
    ∃ arguments, Accepts commandLine arguments := by
  cases interrupted with
  | loading accepts => exact ⟨_, accepts⟩
  | running loads => exact ⟨_, loads.accepts⟩
  | writing loads => exact ⟨_, loads.accepts⟩

/-- What the command ends with if no contracts are loaded. -/
theorem Ends.eq_command {ending : Except Interruption Output} (ends : Ends host commandLine ending)
    (none : ∀ arguments jobs, ¬Loads host commandLine arguments jobs) :
    ending = command host commandLine := by
  cases ends with
  | unloaded => rfl
  | ran loads => exact absurd loads (none _ _)

end Command

/-- Every run of the command ends in exactly one of three ways, as long as no JSON text that is
named has half of a surrogate pair. It is interrupted, and leaves nothing, exactly when a contract
interrupts the loading, a place of the findings holds a value of the wrong shape, or the report
shows a number of more than 4300 digits. Otherwise it exits with 2 exactly when the command line is
misused or a contract is refused, and with 0 or 1 else. -/
theorem exits_unless_interrupted (host : Host) (commandLine : List String)
    (whole : ∀ path ∈ inputPaths commandLine, host.ReadsWhole path) :
    Ends host commandLine (command host commandLine) ∧
    ∀ ending, Ends host commandLine ending →
      ((∃ interruption, ending = .error interruption) ↔ IsInterrupted host commandLine) ∧
      ∀ output, ending = .ok output →
        (output.exitCode = 0 ∨ output.exitCode = 1 ∨ output.exitCode = 2) ∧
        (output.exitCode = 2 ↔ IsRefused host commandLine) := by
  refine ⟨ends_command host commandLine, ?_⟩
  intro ending ends
  -- Either the command line is misused, or loading fails, or there is a run of loaded contracts.
  by_cases accepted : ∃ arguments, Accepts commandLine arguments
  · rcases accepted with ⟨arguments, accepts⟩
    cases loaded : loadJobs host arguments with
    | error error =>
        rw [ends.eq_command (accepts.not_loads loaded), command_of_accepts host accepts,
          accepts.isInterrupted_iff whole loaded, accepts.isRefused_iff whole, loaded,
          failsWith_error, failsWith_error]
        cases error with
        | input error => simp [Output.refusal]
        | interruption cause => simp
    | ok jobs =>
        have loads := accepts.loads loaded
        cases ends with
        | unloaded none => exact absurd loads (none arguments jobs)
        | ran otherLoads yielded =>
            obtain ⟨rfl, rfl⟩ := loads.unique otherLoads
            refine ⟨loads.conclusion_eq_error whole yielded, ?_⟩
            intro output ended
            rw [accepts.isRefused_iff whole, loaded]
            rcases loads.exitCode_conclusion yielded ended with zero | one
            · simp [zero]
            · simp [one]
  · have misused (arguments : Arguments) : ¬Accepts commandLine arguments :=
      fun accepts => accepted ⟨arguments, accepts⟩
    rcases exists_refusal_of_not_accepts host misused with ⟨message, refused⟩
    rw [ends.eq_command fun arguments _ loads => misused arguments loads.accepts, refused]
    refine ⟨iff_of_false not_exists_ok_eq_error fun interrupted =>
      accepted interrupted.exists_accepts, ?_⟩
    rintro output ⟨⟩
    exact ⟨.inr (.inr rfl), iff_of_true rfl (.misused misused)⟩

/-! ## A list in the place of a build -/

def listLine : List String :=
  ["--artifact", "build.json", "--issues", "findings.json"]

def listArguments : Arguments :=
  { artifacts := ["build.json"], issues := ["findings.json"], sourceRoot := ".", style := .stylish
    maxWorkers := 4, debug := false }

theorem accepts_list : Accepts listLine listArguments where
  parsed := rfl
  workers_pos := by decide
  paired := rfl

theorem readsWhole_list {host : Host} (build : host.ReadsWhole (.parse "build.json"))
    (findings : host.ReadsWhole (.parse "findings.json")) :
    ∀ path ∈ inputPaths listLine, host.ReadsWhole path := by
  have paths : inputPaths listLine = [.parse "build.json", .parse "findings.json"] := rfl
  rw [paths, List.forall_mem_cons, List.forall_mem_singleton]
  exact ⟨build, findings⟩

/-- The contract comes first. -/
theorem comesToContract_list {host : Host} {kind : Path → Path → Prop}
    (isKind : kind (.parse "build.json") (.parse "findings.json")) :
    ComesToContract host listArguments kind :=
  ⟨[], "build.json", "findings.json", [], rfl, fun _ member => absurd member List.not_mem_nil,
    isKind⟩

/-- An empty list for a build, and findings without any. -/
def listFiles (path : Path) : Lookup :=
  match path.names with
  | ["build.json"] => .file (.bytes [0x5B, 0x5D])
  | ["findings.json"] => .file (.bytes [0x7B, 0x7D])
  | _ => .missing

def listHost : Host := { files := listFiles, nestingLimit := 100 }

theorem readsAs_list : listHost.ReadsAs (.parse "build.json") (.list []) :=
  ⟨[0x5B, 0x5D], ['[', ']'], rfl, by decide +kernel, rfl⟩

/-- Nothing may be asked for. -/
def closedHost : Host := { files := fun _ => .unknown .forbidden, nestingLimit := 100 }

/-- A build and findings without any in a directory where nothing else may be asked for. -/
def sealedFiles (path : Path) : Lookup :=
  match path.names with
  | ["build.json"] => .file (.bytes (Text.encodeUtf8 buildText))
  | ["findings.json"] => .file (.bytes [0x7B, 0x7D])
  | _ => .unknown .forbidden

def sealedHost : Host := { files := sealedFiles, nestingLimit := 100 }

/-- Findings without any in an empty object. -/
def emptyBatch : Batch :=
  { format := "", sourceType := "", sourceList := [], issues := [] }

theorem readsAs_empty {files : Path → Lookup}
    (found : files (.parse "findings.json") = .file (.bytes [0x7B, 0x7D])) :
    Host.ReadsAs { files, nestingLimit := 100 } (.parse "findings.json") (.object []) := by
  have read : Json.read 100 ['\x7b', '\x7d'] = .ok (.object []) := rfl
  refine ⟨[0x7B, 0x7D], ['\x7b', '\x7d'], ?_, by decide +kernel, read⟩
  dsimp only [Host.bytes?]
  rw [found]
  rfl

theorem loadArtifact_sealed :
    loadArtifact sealedHost (.parse "build.json") = .ok crlfJob.artifact := by
  decide +kernel

theorem loadBatches_sealed :
    loadBatches sealedHost (.parse "findings.json") = .ok [emptyBatch] := by
  decide +kernel

/-- The main source is looked for where nothing may be asked for. -/
theorem interruptsContract_sealed :
    InterruptsContract sealedHost (.parse ".") (.parse "build.json") (.parse "findings.json") := by
  have main : NamesSource crlfJob.artifact [emptyBatch] "v.sol" := .inl rfl
  refine .source loadArtifact_sealed loadBatches_sealed ?_ main ?_
  · exact List.forall_mem_singleton.mpr fun _ member => absurd member List.not_mem_nil
  · refine ⟨[], .parse "v.sol", _, rfl, ⟨.forbidden, rfl, by decide⟩, ?_⟩
    exact fun _ member => absurd member List.not_mem_nil

theorem readsAs_sealed : ∃ value, sealedHost.ReadsAs (.parse "build.json") value := by
  rcases bind_eq_ok.mp loadArtifact_sealed with ⟨value, read, -⟩
  exact ⟨value, readJson_eq_ok.mp read⟩

/-- A list for a build interrupts the command, and so does a source that may not be asked for. If
the build may not be opened, then the command exits with 2. -/
theorem exits_unless_interrupted_list :
    (∃ interruption, command listHost listLine = .error interruption) ∧
    (∃ interruption, command sealedHost listLine = .error interruption) ∧
    ∃ output, command closedHost listLine = .ok output ∧ output.exitCode = 2 := by
  refine ⟨?_, ?_, ?_⟩
  · have findings := @readsAs_empty listFiles rfl
    have whole := readsWhole_list readsAs_list.readsWhole findings.readsWhole
    rcases exits_unless_interrupted listHost listLine whole with ⟨ends, each⟩
    refine (each _ ends).1.mpr (.loading accepts_list (comesToContract_list ?_))
    exact .build readsAs_list (.shapeless fun members => Json.noConfusion)
  · rcases readsAs_sealed with ⟨value, build⟩
    have findings := @readsAs_empty sealedFiles rfl
    have whole := readsWhole_list build.readsWhole findings.readsWhole
    rcases exits_unless_interrupted sealedHost listLine whole with ⟨ends, each⟩
    refine (each _ ends).1.mpr (.loading accepts_list (comesToContract_list ?_))
    exact interruptsContract_sealed
  · have unreadable (path : Path) : closedHost.bytes? path = none := rfl
    have whole := readsWhole_list (Host.readsWhole_of_unreadable (unreadable _))
      (Host.readsWhole_of_unreadable (unreadable _))
    rcases exits_unless_interrupted closedHost listLine whole with ⟨ends, each⟩
    have failed : loadJobs closedHost listArguments =
        .error (.input (.unreadable (.parse "build.json") (.closed .forbidden))) := rfl
    have ended := command_of_accepts closedHost accepts_list
    rw [failed] at ended
    refine ⟨_, ended, ((each _ ends).2 _ ended).2.mpr ?_⟩
    exact .contract accepts_list
      (comesToContract_list (.artifact (.unreadable (unreadable _) Lookup.noConfusion)))

/-- A list for a build is read as JSON, and no run of the command gives an exit code: a value that
is not an object is asked for its members. -/
theorem list_build_interrupts :
    Json.read listHost.nestingLimit ['[', ']'] = .ok (.list []) ∧
    command listHost listLine = .error (.fault (.shape .notObject)) ∧
    ∀ ending, Ends listHost listLine ending → ∀ output, ending ≠ .ok output := by
  have failed : loadJobs listHost listArguments =
      .error (.interruption (.fault (.shape .notObject))) := by decide +kernel
  have ended : command listHost listLine = .error (.fault (.shape .notObject)) := by
    rw [command_of_accepts listHost accepts_list, failed]
  refine ⟨rfl, ended, ?_⟩
  intro ending ends output
  rw [ends.eq_command (accepts_list.not_loads failed), ended]
  intro impossible
  cases impossible

end Cli

end Pinpoint
