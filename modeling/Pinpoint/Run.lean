import Pinpoint.Json.Order
import Pinpoint.Normalization
import Pinpoint.Report.Grouping

/-!
# Runs

A run normalizes the findings of several contracts and gathers them into one report. Contracts
are independent of each other and may be finished in any order; `Run.gather` takes them in the
order in which they were finished. A contract whose artifact is unusable contributes its error
and nothing else. The report needs text for every file name, so other names stop the run.
-/

namespace Pinpoint

/-- One contract to be normalized, with its batches and sources. -/
structure Job where
  artifact : Artifact
  batches : List Batch
  /-- The bytes of the sources by name. -/
  sources : List (String × List UInt8)
  deriving DecidableEq

/-- A contract whose artifact is unusable. -/
structure ContractError where
  contractName : String
  message : String
  deriving BEq, DecidableEq, Repr

/-- What a run gives. -/
structure RunResult where
  report : GroupedReport
  locationErrors : List LocationError
  contractErrors : List ContractError
  deriving DecidableEq

/-- Why a run gives nothing. -/
inductive RunError where
  /-- The number of workers is not positive. -/
  | noWorkers
  | fault (fault : Fault)
  deriving BEq, DecidableEq, Repr

/-- The wording of the refusal to run without workers. -/
def noWorkersMessage : String := "max_workers must be > 0"

/-- Normalizes the batches of a contract, one after the other. -/
def Job.normalize (job : Job) (options : Options) : Except Fault Normalized := do
  let contract := Contract.ofSources job.artifact job.sources
  let outcomes ← job.batches.mapM (contract.outcomes options)
  return .ofOutcomes outcomes.flatten

namespace Run

/-- The diagnostics with their file names as texts. Names that cannot be looked up, names without
an order and names without a file name are told apart, in this order. -/
def textNamed (diagnostics : List (Diagnostic Json)) :
    Except ShapeError (List (Diagnostic String)) :=
  let names := diagnostics.map (·.filePath)
  if names.all fun name => name.asText.isOk then
    diagnostics.mapM fun diagnostic => do
      return diagnostic.withName (← diagnostic.filePath.asText)
  else if !names.all Json.isName then .error .notName
  else if !Json.areOrdered names then .error .unordered
  else .error .notText

/-- The order of two location errors: by file, then by rule, then by location. -/
def locationErrorOrder (first second : LocationError) : Ordering :=
  ((Json.order? first.filePath second.filePath).getD .eq).then <|
  (compare first.ruleId second.ruleId).then <|
  compare first.location second.location

/-- The location errors in order. Two or more of them need file names that have an order. -/
def sortLocationErrors (errors : List LocationError) :
    Except ShapeError (List LocationError) :=
  if 1 < errors.length && !Json.areOrdered (errors.map (·.filePath)) then .error .unordered
  else .ok (errors.mergeSort fun first second => (locationErrorOrder first second).isLE)

/-- The contract errors in the order of the contract names. -/
def sortContractErrors (errors : List ContractError) : List ContractError :=
  errors.mergeSort fun first second => decide (first.contractName ≤ second.contractName)

/-- What becomes of a finished contract: its findings, or the error of its artifact. -/
def settle (options : Options) (job : Job) : Except Fault (Normalized ⊕ ContractError) :=
  match job.normalize options with
  | .ok normalized => .ok (.inl normalized)
  | .error (.artifact error) =>
    .ok (.inr { contractName := job.artifact.contractName, message := error.message })
  | .error fault => .error fault

/-- Gathers contracts in the order in which they were finished. -/
def gather (options : Options) (finished : List Job) : Except Fault RunResult := do
  let settled ← finished.mapM (settle options)
  let normalized := settled.filterMap Sum.getLeft?
  let diagnostics ←
    (textNamed (normalized.flatMap (·.diagnostics))).mapError Fault.shape
  let locationErrors ←
    (sortLocationErrors (normalized.flatMap (·.errors))).mapError Fault.shape
  return {
    report := .ofDiagnostics diagnostics
    locationErrors
    contractErrors := sortContractErrors (settled.filterMap Sum.getRight?) }

end Run

/-- Runs the jobs with a number of workers. -/
def run (jobs : List Job) (options : Options) (workers : Int) : Except RunError RunResult :=
  if workers ≤ 0 then .error .noWorkers
  else (Run.gather options jobs).mapError .fault

end Pinpoint
