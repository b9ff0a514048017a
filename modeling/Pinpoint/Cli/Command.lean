import Pinpoint.Cli.Arguments
import Pinpoint.Cli.Load

/-!
# The command

Loads the contracts that the command line names, runs them, and prints the report to standard
output and what went wrong to standard error. The exit code is 0 for a report without errors, 1
for one with errors, and 2 for input that is refused.
-/

namespace Pinpoint.Cli

/-- What the command leaves. -/
structure Output where
  exitCode : Nat
  standardOutput : String
  standardError : String
  deriving BEq, DecidableEq, Repr

/-- Refused input with what is said about it. -/
def Output.refusal (message : String) : Output :=
  { exitCode := 2, standardOutput := "", standardError := message }

/-- The line about a contract error. -/
def contractErrorLine (error : ContractError) : String :=
  "contract_error: " ++ error.contractName ++ ": " ++ error.message ++ "\n"

/-- The line about a location error. -/
def locationErrorLine (error : LocationError) : String :=
  "location_error: " ++ error.filePath.display ++ " " ++ error.ruleId ++ " " ++ error.location ++
    ": " ++ error.message ++ "\n"

/-- The output of a run: the printed report, and a line for each error of a contract and of a
location. -/
def Output.ofResult (style : Style) (result : RunResult) : Except Interruption Output :=
  match style.render result.report with
  | .error _ => .error .numeralTooLong
  | .ok text => .ok {
      exitCode := if result.report.hasErrors then 1 else 0
      standardOutput := String.ofList (Terminal.print text)
      standardError :=
        String.join (result.contractErrors.map contractErrorLine) ++
          String.join (result.locationErrors.map locationErrorLine) }

/-- The options of a run. -/
def Arguments.options (arguments : Arguments) : Options :=
  { verbose := arguments.debug
    spaceLimited := arguments.style.isSpaceLimited
    suppressibleRules := defaultSuppressibleRules }

/-- Loads the contracts that the arguments name, in order. -/
def loadJobs (host : Host) (arguments : Arguments) : Except LoadError (List Job) :=
  let root := Path.parse arguments.sourceRoot
  (arguments.artifacts.zip arguments.issues).mapM fun (artifact, issues) =>
    loadJob host root (.parse artifact) (.parse issues)

/-- Runs the command with settings that were read. -/
def execute (host : Host) (arguments : Arguments) : Except Interruption Output :=
  if arguments.maxWorkers ≤ 0 then .ok (.refusal "max-workers must be > 0\n")
  else if arguments.artifacts.length ≠ arguments.issues.length then
    .ok (.refusal "Each --artifact needs exactly one matching --issues file\n")
  else match loadJobs host arguments with
    | .error (.input error) => .ok (.refusal (error.message ++ "\n"))
    | .error (.interruption interruption) => .error interruption
    | .ok jobs =>
      match run jobs arguments.options arguments.maxWorkers with
      | .error .noWorkers => .ok (.refusal "max-workers must be > 0\n")
      | .error (.fault fault) => .error (.fault fault)
      | .ok result => Output.ofResult arguments.style result

/-- Runs the command. A misused command line is refused without a word. -/
def command (host : Host) (commandLine : List String) : Except Interruption Output :=
  match Arguments.parse commandLine with
  | none => .ok (.refusal "")
  | some arguments => execute host arguments

/-- The paths of the artifacts and findings that a command line names. -/
def inputPaths (commandLine : List String) : List Path :=
  match Arguments.parse commandLine with
  | none => []
  | some arguments => (arguments.artifacts ++ arguments.issues).map Path.parse

/-- The paths at which the sources of the named contracts are looked for, as far as their
artifacts and findings can be read. -/
def sourcePaths (host : Host) (commandLine : List String) : List Path :=
  match Arguments.parse commandLine with
  | none => []
  | some arguments =>
    (arguments.artifacts.zip arguments.issues).flatMap fun (artifactPath, issuesPath) =>
      let names : Except LoadError (List String) := do
        let artifact ← loadArtifact host (.parse artifactPath)
        let batches ← loadBatches host (.parse issuesPath)
        (sourceNames artifact batches).mapError LoadError.ofShape
      match names with
      | .error _ => []
      | .ok names => names.flatMap (sourceCandidates (.parse arguments.sourceRoot))

end Pinpoint.Cli
