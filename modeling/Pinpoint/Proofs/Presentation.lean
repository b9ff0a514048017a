import Mathlib.Data.List.Forall2
import Pinpoint.Proofs.Verdict

/-!
# Presentation options

The style of a report reaches into the findings: where there is little space, messages lose their
details, and findings that differ in them become one, which changes the counts and the order of a
report. Nothing but the message depends on it, and nothing but the level of a suppression record on
whether suppressions are worth telling about. So two runs over the same inputs find the same things
in the same places and have the same exit code, and the same report if they shorten the messages
alike.
-/

namespace Pinpoint

open GroupedReport (ofDiagnostics)

/-! ## Findings in other words -/

/-- A diagnostic with its message put in other words. -/
def Diagnostic.reworded {Name : Type} (words : String → String) (diagnostic : Diagnostic Name) :
    Diagnostic Name :=
  { diagnostic with message := words diagnostic.message }

/-- A diagnostic without its message. -/
def Diagnostic.wordless {Name : Type} (diagnostic : Diagnostic Name) : Diagnostic Name :=
  diagnostic.reworded fun _ => ""

/-- A suppression record at the least level. -/
def Suppression.quiet (record : Suppression) : Suppression :=
  { record with level := .debug }

/-- An outcome with its message put in other words, at the least level. -/
def Outcome.reworded (words : String → String) : Outcome → Outcome
  | .diagnostic found => .diagnostic (found.reworded words)
  | .malformed error => .malformed error
  | .suppressed record => .suppressed record.quiet

namespace Outcome

variable (words : String → String) (outcome : Outcome)

@[simp] theorem diagnostic?_reworded :
    (outcome.reworded words).diagnostic? = outcome.diagnostic?.map (·.reworded words) := by
  cases outcome <;> rfl

@[simp] theorem error?_reworded : (outcome.reworded words).error? = outcome.error? := by
  cases outcome <;> rfl

@[simp] theorem suppression?_reworded :
    (outcome.reworded words).suppression? = outcome.suppression?.map Suppression.quiet := by
  cases outcome <;> rfl

end Outcome

/-- Findings with their messages put in other words, and their records at the least level. -/
def Normalized.reworded (words : String → String) (normalized : Normalized) : Normalized :=
  { diagnostics := normalized.diagnostics.map (·.reworded words)
    errors := normalized.errors
    suppressions := normalized.suppressions.map Suppression.quiet }

theorem Normalized.reworded_ofOutcomes (words : String → String) (outcomes : List Outcome) :
    (ofOutcomes outcomes).reworded words = ofOutcomes (outcomes.map (·.reworded words)) := by
  simp only [reworded, ofOutcomes, List.map_filterMap, List.filterMap_map, Function.comp_def,
    Outcome.diagnostic?_reworded, Outcome.error?_reworded, Outcome.suppression?_reworded]

theorem Job.map_reworded_normalize (job : Job) (options : Options) (words : String → String) :
    (job.normalize options).map (·.reworded words) =
      ((job.batches.mapM ((Contract.ofSources job.artifact job.sources).outcomes options)).map
        (List.map (List.map (·.reworded words)))).map fun outcomes =>
          .ofOutcomes outcomes.flatten := by
  rw [Job.normalize]
  cases job.batches.mapM ((Contract.ofSources job.artifact job.sources).outcomes options) with
  | error fault => rfl
  | ok outcomes =>
      apply congrArg Except.ok
      exact (Normalized.reworded_ofOutcomes words _).trans (congrArg _ List.map_flatten)

/-- Whether options make the same of every finding, up to the wording of its message. -/
structure Options.Agree (words : String → String) (options other : Options) : Prop where
  rules_eq : options.suppressibleRules = other.suppressibleRules
  message_eq : ∀ issue : Issue, words (issue.message options) = words (issue.message other)

namespace Options.Agree

variable {words : String → String} {options other : Options} (agree : options.Agree words other)

include agree

theorem symm : other.Agree words options :=
  ⟨agree.rules_eq.symm, fun issue => (agree.message_eq issue).symm⟩

theorem reworded_diagnosticAt (issue : Issue) (span : Span) (filePath : Json) :
    (issue.diagnosticAt options span filePath).reworded words =
      (issue.diagnosticAt other span filePath).reworded words := by
  simp only [Issue.diagnosticAt, Diagnostic.reworded, agree.message_eq issue]

theorem map_outcomeAt (contract : Contract) (issue : Issue) (entry : Entry) (names : List Json)
    (attributedTo : Json) :
    (contract.outcomeAt options issue entry names attributedTo).map (·.reworded words) =
      (contract.outcomeAt other issue entry names attributedTo).map (·.reworded words) := by
  have suppresses : contract.suppresses options issue entry names =
      contract.suppresses other issue entry names := by
    simp only [Contract.suppresses, agree.rules_eq]
  rw [Contract.outcomeAt, Contract.outcomeAt, suppresses]
  cases contract.suppresses other issue entry names with
  | error error => rfl
  | ok suppressed =>
      cases suppressed with
      | true =>
          -- The records differ in their levels alone, and both are put at the least one.
          rfl
      | false =>
          cases contract.spanOf entry names with
          | error error => rfl
          | ok span =>
              exact congrArg (fun found => Except.ok (Outcome.diagnostic found))
                (agree.reworded_diagnosticAt issue span _)

theorem map_normalizeLocation (contract : Contract) (issue : Issue) (location : Location)
    (format : String) (attributedTo : Json) (sourceList : List Json) :
    (contract.normalizeLocation options issue location format attributedTo sourceList).map
        (·.reworded words) =
      (contract.normalizeLocation other issue location format attributedTo sourceList).map
        (·.reworded words) := by
  rw [Contract.normalizeLocation, Contract.normalizeLocation]
  cases contract.locate location format sourceList with
  | error fault => rfl
  | ok located =>
      rcases located with ⟨found, names⟩
      cases found with
      | none =>
          exact congrArg (fun found => Except.ok (Outcome.diagnostic found))
            (agree.reworded_diagnosticAt issue .unresolved attributedTo)
      | some entry =>
          have same := agree.map_outcomeAt contract issue entry names attributedTo
          have wrapped := congrArg (·.mapError Fault.shape) same
          rwa [mapError_map, mapError_map] at wrapped

/-- A location that is malformed is so with all options, since none of them matters where it is
read. -/
theorem map_outcomeOf (contract : Contract) (share : SourceShare) (issue : Issue)
    (location : Location) :
    (contract.outcomeOf options share issue location).map (·.reworded words) =
      (contract.outcomeOf other share issue location).map (·.reworded words) := by
  have same := agree.map_normalizeLocation contract issue location share.format share.source
    share.sourceList
  rw [Contract.outcomeOf, Contract.outcomeOf]
  cases first : contract.normalizeLocation options issue location share.format share.source
      share.sourceList with
  | error fault =>
      rw [first] at same
      rw [map_eq_error.mp same.symm]
  | ok outcome =>
      rw [first] at same
      rcases map_eq_ok.mp same.symm with ⟨otherOutcome, second, -⟩
      rw [second] at same
      rw [second]
      exact same

theorem map_outcomes (contract : Contract) (batch : Batch) :
    (contract.outcomes options batch).map (List.map (·.reworded words)) =
      (contract.outcomes other batch).map (List.map (·.reworded words)) := by
  rw [Contract.outcomes, Contract.outcomes]
  cases batch.shares with
  | error error => rfl
  | ok shares =>
      exact map_mapM_congr fun occurrence =>
        agree.map_outcomeOf contract occurrence.1 occurrence.2.1 occurrence.2.2

theorem map_normalize (job : Job) :
    (job.normalize options).map (·.reworded words) =
      (job.normalize other).map (·.reworded words) := by
  rw [job.map_reworded_normalize, job.map_reworded_normalize]
  congr 1
  exact map_mapM_congr fun batch => agree.map_outcomes _ batch

/-- Each diagnostic of a job comes in other words with the other options. -/
theorem exists_mem_diagnostics {job : Job} {normalized : Normalized}
    (returned : job.normalize options = .ok normalized) {diagnostic : Diagnostic Json}
    (member : diagnostic ∈ normalized.diagnostics) :
    ∃ otherNormalized, job.normalize other = .ok otherNormalized ∧
      ∃ found ∈ otherNormalized.diagnostics, found.reworded words = diagnostic.reworded words := by
  have same := agree.map_normalize job
  rw [returned] at same
  rcases map_eq_ok.mp same.symm with ⟨otherNormalized, otherReturned, equal⟩
  have listed : diagnostic.reworded words ∈ (otherNormalized.reworded words).diagnostics := by
    rw [equal]
    exact List.mem_map_of_mem member
  exact ⟨otherNormalized, otherReturned, List.mem_map.mp listed⟩

end Options.Agree

/-! ## Runs of the same jobs -/

namespace Run

/-- Whether diagnostics are those of some jobs, each with the text of its file name. -/
def AreOf (options : Options) (jobs : List Job) (diagnostics : List (Diagnostic String)) : Prop :=
  ∀ diagnostic, diagnostic ∈ diagnostics ↔
    ∃ job ∈ jobs, ∃ normalized, job.normalize options = .ok normalized ∧
      diagnostic.withName (.text diagnostic.filePath) ∈ normalized.diagnostics

theorem exists_areOf_of_gather {options : Options} {finished : List Job} {result : RunResult}
    (returned : gather options finished = .ok result) :
    ∃ diagnostics, AreOf options finished diagnostics ∧ Diagnostic.Separated diagnostics ∧
      result.report = ofDiagnostics diagnostics := by
  rcases gather_eq_ok_iff.mp returned with ⟨-, ⟨diagnostics, namedOk, report⟩, -, -⟩
  refine ⟨diagnostics, ?_, separated_of_findings namedOk, report⟩
  intro diagnostic
  rw [← mem_report_iff returned, report]
  exact mem_messages_ofDiagnostics.symm

variable {words : String → String} {options other : Options} {jobs others : List Job}
variable {first second : List (Diagnostic String)}

/-- Options that agree find in some jobs what the others find, in other words. -/
theorem AreOf.exists_mem (agree : options.Agree words other) (areFirst : AreOf options jobs first)
    (areSecond : AreOf other others second) (listed : ∀ job ∈ jobs, job ∈ others)
    {diagnostic : Diagnostic String} (member : diagnostic ∈ first) :
    ∃ found ∈ second, found.reworded words = diagnostic.reworded words := by
  rcases (areFirst diagnostic).mp member with ⟨job, jobMem, normalized, returned, member⟩
  rcases agree.exists_mem_diagnostics returned member with
    ⟨otherNormalized, otherReturned, found, foundMem, same⟩
  have named : found.filePath = .text diagnostic.filePath := congrArg Diagnostic.filePath same
  refine ⟨found.withName diagnostic.filePath, ?_, ?_⟩
  · apply (areSecond _).mpr ⟨job, listed job jobMem, otherNormalized, otherReturned, ?_⟩
    have whole : (found.withName diagnostic.filePath).withName (.text diagnostic.filePath) =
        found := by
      rw [← named]
      rfl
    exact whole ▸ foundMem
  · exact congrArg (·.withName diagnostic.filePath) same

theorem AreOf.mem_map_reworded_iff (agree : options.Agree words other)
    (areFirst : AreOf options jobs first) (areSecond : AreOf other others second)
    (same : ∀ job, job ∈ jobs ↔ job ∈ others) (diagnostic : Diagnostic String) :
    diagnostic ∈ first.map (·.reworded words) ↔ diagnostic ∈ second.map (·.reworded words) := by
  rw [List.mem_map, List.mem_map]
  constructor
  · rintro ⟨found, member, rfl⟩
    exact areFirst.exists_mem agree areSecond (fun job => (same job).mp) member
  · rintro ⟨found, member, rfl⟩
    exact areSecond.exists_mem agree.symm areFirst (fun job => (same job).mpr) member

end Run

/-! ## Reports of the same findings -/

/-- Whether a group has the path of another one and the same findings, up to their messages. -/
structure FileReport.SameFindings (group other : FileReport) : Prop where
  filePath_eq : group.filePath = other.filePath
  findings_iff : ∀ finding : Diagnostic String,
    finding ∈ group.messages.map Diagnostic.wordless ↔
      finding ∈ other.messages.map Diagnostic.wordless

/-- Whether two reports have groups of the same names, one by one with the same findings. -/
def GroupedReport.SameFindings (report other : GroupedReport) : Prop :=
  List.Forall₂ (fun group otherGroup => group.1 = otherGroup.1 ∧
    group.2.SameFindings otherGroup.2) report other

section SameFindings

variable {first second : List (Diagnostic String)}
variable (same : ∀ finding, finding ∈ first.map Diagnostic.wordless ↔
  finding ∈ second.map Diagnostic.wordless)

include same

/-- What does not depend on messages holds of one of the diagnostics in both lists or in none. -/
theorem exists_mem_iff_of_wordless {property : Diagnostic String → Prop}
    (unsaid : ∀ diagnostic, property diagnostic ↔ property diagnostic.wordless) :
    (∃ diagnostic ∈ first, property diagnostic) ↔ ∃ diagnostic ∈ second, property diagnostic := by
  have through (diagnostics : List (Diagnostic String)) :
      (∃ diagnostic ∈ diagnostics, property diagnostic) ↔
        ∃ finding ∈ diagnostics.map Diagnostic.wordless, property finding := by
    constructor
    · rintro ⟨diagnostic, member, holds⟩
      exact ⟨_, List.mem_map_of_mem member, (unsaid diagnostic).mp holds⟩
    · rintro ⟨finding, listed, holds⟩
      rcases List.mem_map.mp listed with ⟨diagnostic, member, rfl⟩
      exact ⟨diagnostic, member, (unsaid diagnostic).mpr holds⟩
  rw [through first, through second]
  simp only [same]

theorem pathsNamed_of_wordless (name : String) :
    pathsNamed name first = pathsNamed name second := by
  have paths : Text.sortedNames (first.map (·.filePath)) =
      Text.sortedNames (second.map (·.filePath)) := by
    apply Text.sortedNames_congr
    intro path
    rw [List.mem_map, List.mem_map]
    exact exists_mem_iff_of_wordless same fun _ => .rfl
  rw [pathsNamed, pathsNamed, paths]

theorem groupNamed_sameFindings (name : String) :
    (groupNamed name first).SameFindings (groupNamed name second) where
  filePath_eq := by
    rw [filePath_groupNamed_eq, filePath_groupNamed_eq, pathsNamed_of_wordless same]
  findings_iff := by
    intro finding
    simp only [List.mem_map, mem_messages_groupNamed, and_assoc]
    exact exists_mem_iff_of_wordless same fun _ => .rfl

theorem ofDiagnostics_sameFindings : (ofDiagnostics first).SameFindings (ofDiagnostics second) := by
  have names : Text.sortedNames ((FileReport.ofDiagnostics first).map fun report =>
        baseName report.filePath) =
      Text.sortedNames ((FileReport.ofDiagnostics second).map fun report =>
        baseName report.filePath) := by
    apply Text.sortedNames_congr
    intro name
    rw [mem_names_ofDiagnostics, mem_names_ofDiagnostics]
    exact exists_mem_iff_of_wordless same fun _ => .rfl
  rw [GroupedReport.SameFindings, ofDiagnostics_eq_map, ofDiagnostics_eq_map, names,
    List.forall₂_map_left_iff, List.forall₂_map_right_iff, List.forall₂_same]
  exact fun name _ => ⟨rfl, groupNamed_sameFindings same name⟩

theorem hasErrors_of_wordless :
    (ofDiagnostics first).hasErrors = (ofDiagnostics second).hasErrors := by
  rw [Bool.eq_iff_iff, hasErrors_ofDiagnostics_iff, hasErrors_ofDiagnostics_iff]
  exact exists_mem_iff_of_wordless same fun _ => .rfl

end SameFindings

namespace Cli

/-- Options that differ in how much is told about suppressions and in how much space there is make
the same of every finding up to its message. -/
theorem Arguments.options_agree (arguments other : Arguments) :
    arguments.options.Agree (fun _ => "") other.options :=
  ⟨rfl, fun _ => rfl⟩

theorem Arguments.options_agree_of_isSpaceLimited {arguments other : Arguments}
    (same : arguments.style.isSpaceLimited = other.style.isSpaceLimited) :
    arguments.options.Agree id other.options := by
  refine ⟨rfl, fun issue => ?_⟩
  have limited : arguments.options.spaceLimited = other.options.spaceLimited := same
  rw [Issue.message, Issue.message, limited]

theorem mem_of_loadJobs {host : Host} {arguments other : Arguments}
    {jobs otherJobs : List Job} (loaded : loadJobs host arguments = .ok jobs)
    (otherLoaded : loadJobs host other = .ok otherJobs)
    (sameRoot : arguments.sourceRoot = other.sourceRoot)
    (samePairs : ∀ pair, pair ∈ arguments.artifacts.zip arguments.issues ↔
      pair ∈ other.artifacts.zip other.issues) (job : Job) : job ∈ jobs ↔ job ∈ otherJobs := by
  rw [mem_of_mapM_eq_ok loaded, mem_of_mapM_eq_ok otherLoaded, sameRoot]
  simp only [samePairs]

variable {host : Host} {commandLine otherLine : List String}
variable {arguments other : Arguments} {jobs otherJobs : List Job}
variable {result otherResult : RunResult} {output otherOutput : Output}

/-- Two runs of the command over the same pairs of artifacts and findings below the same root, each
in some schedule and with its own style, number of workers and talkativeness, have the same exit
code, and their reports have the same groups with the same findings up to their messages. If both
styles shorten the messages or neither does, the reports are the same. -/
theorem presentation_irrelevant
    (returns : Returns host commandLine arguments jobs result output)
    (otherReturns : Returns host otherLine other otherJobs otherResult otherOutput)
    (sameRoot : arguments.sourceRoot = other.sourceRoot)
    (samePairs : ∀ pair, pair ∈ arguments.artifacts.zip arguments.issues ↔
      pair ∈ other.artifacts.zip other.issues) :
    output.exitCode = otherOutput.exitCode ∧
    result.report.SameFindings otherResult.report ∧
    (arguments.style.isSpaceLimited = other.style.isSpaceLimited →
      result.report = otherResult.report) := by
  have sameJobs := mem_of_loadJobs returns.loaded otherReturns.loaded sameRoot samePairs
  rcases returns.exists_gather with ⟨order, perm, gathered⟩
  rcases otherReturns.exists_gather with ⟨otherOrder, otherPerm, otherGathered⟩
  have sameOrder (job : Job) : job ∈ order ↔ job ∈ otherOrder := by
    rw [perm.mem_iff, otherPerm.mem_iff, sameJobs]
  rcases Run.exists_areOf_of_gather gathered with ⟨first, areFirst, separated, report⟩
  rcases Run.exists_areOf_of_gather otherGathered with ⟨second, areSecond, -, otherReport⟩
  have wordless := areFirst.mem_map_reworded_iff (arguments.options_agree other) areSecond sameOrder
  refine ⟨?_, ?_, ?_⟩
  · rw [returns.exitCode_eq, otherReturns.exitCode_eq, report, otherReport,
      hasErrors_of_wordless wordless]
  · rw [report, otherReport]
    exact ofDiagnostics_sameFindings wordless
  · intro sameLength
    have agree := Arguments.options_agree_of_isSpaceLimited sameLength
    have members := areFirst.mem_map_reworded_iff agree areSecond sameOrder
    rw [report, otherReport]
    apply GroupedReport.ofDiagnostics_congr separated
    intro diagnostic
    have unworded (diagnostics : List (Diagnostic String)) :
        diagnostics.map (·.reworded id) = diagnostics := List.map_id _
    have listed := members diagnostic
    rwa [unworded, unworded] at listed

def shortLine : List String :=
  ["--artifact", "build.json", "--issues", "offsets.json", "--artifact", "build.json", "--issues",
    "details.json", "--style", "tap", "--debug", "--max-workers", "1"]

def shortArguments : Arguments :=
  { artifacts := ["build.json", "build.json"], issues := ["offsets.json", "details.json"]
    sourceRoot := ".", style := .tap, maxWorkers := 1, debug := true }

theorem loads_short : Loads detailHost shortLine shortArguments [offsetJob, detailJob] where
  parsed := rfl
  workers_pos := by decide
  paired := rfl
  loaded := by decide +kernel

theorem normalize_short :
    detailJob.normalize shortArguments.options = .ok (detailNormalized ["", ""]) :=
  rfl

/-- The findings are gathered before the error of the contract that is given first. -/
theorem returns_short :
    ∃ output, Returns detailHost shortLine shortArguments [offsetJob, detailJob]
      (detailResult 1 [""]) output := by
  have numbers := @Report.checkNumbers_of_lt_ten
    (Report.lineNumbers (detailReport 1 [""])) (by decide)
  have rendered : ∃ text, Style.render .tap (detailReport 1 [""]) = .ok text := by
    rw [Style.render, numbers]
    exact ⟨_, rfl⟩
  rcases rendered with ⟨text, rendered⟩
  exact returns_of_gather loads_short (.swap _ _ _)
    (gather_detailJobs normalize_short rfl (by cbv)) rendered

/-- Without details two findings become one, and the exit code stays. -/
theorem presentation_irrelevant_detail :
    ∃ output otherOutput,
      Returns detailHost detailLine detailArguments [detailJob, offsetJob]
        (detailResult 2 ["", " b"]) output ∧
      Returns detailHost shortLine shortArguments [offsetJob, detailJob]
        (detailResult 1 [""]) otherOutput ∧
      output.exitCode = 1 ∧ otherOutput.exitCode = 1 ∧
      (detailReport 2 ["", " b"]).SameFindings (detailReport 1 [""]) := by
  rcases returns_detail with ⟨output, returns⟩
  rcases returns_short with ⟨otherOutput, otherReturns⟩
  have samePairs (pair : String × String) :
      pair ∈ detailArguments.artifacts.zip detailArguments.issues ↔
        pair ∈ shortArguments.artifacts.zip shortArguments.issues :=
    List.Perm.mem_iff (.swap _ _ _)
  rcases presentation_irrelevant returns otherReturns rfl samePairs with ⟨exitCode, findings, -⟩
  have failed : output.exitCode = 1 := returns.exitCode_eq
  exact ⟨output, otherOutput, returns, otherReturns, failed, exitCode ▸ failed, findings⟩

end Cli

end Pinpoint
