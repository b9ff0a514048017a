import Pinpoint.Ast.DynamicArray
import Pinpoint.Contract
import Pinpoint.Diagnostic
import Pinpoint.Finding.Attribution

/-!
# Normalization

Turns the locations of a batch into diagnostics. Every location has one outcome: a diagnostic, a
report that it is malformed, or its suppression, when its rule may be suppressed and it lies in
the main source at the declaration of a dynamically sized array. A malformed location leaves the
others alone; an unusable artifact, or a value of the wrong shape, stops the batch.
-/

namespace Pinpoint

/-- How findings are normalized. -/
structure Options where
  /-- Whether suppressions are worth telling about. -/
  verbose : Bool
  /-- Whether messages are kept to the first part of the description. -/
  spaceLimited : Bool
  /-- The rules whose findings may be suppressed. -/
  suppressibleRules : List String
  deriving BEq, DecidableEq, Repr

/-- The rules that report generated code for dynamically sized arrays. -/
def defaultSuppressibleRules : List String := ["SWC-109", "SWC-131"]

/-- The options that apply unless others are given. -/
def Options.default : Options :=
  { verbose := false, spaceLimited := false, suppressibleRules := defaultSuppressibleRules }

/-- A location that could not be read. -/
structure LocationError where
  /-- The source that the location was attributed to. -/
  filePath : Json
  ruleId : String
  /-- The location as it was given. -/
  location : String
  message : String
  deriving DecidableEq

/-- How important a record is. -/
inductive Level where
  | info
  | debug
  deriving BEq, DecidableEq, Repr

/-- The name of a level. -/
def Level.name : Level → String
  | .info => "INFO"
  | .debug => "DEBUG"

/-- The record of a suppressed location. -/
structure Suppression where
  level : Level
  contract : String
  ruleId : String
  start : Int
  length : Int
  deriving BEq, DecidableEq, Repr

/-- The wording of a suppression record. -/
def Suppression.message (suppression : Suppression) : String :=
  "Suppressing issue around dynamically sized array declaration (contract=" ++
    suppression.contract ++ " rule=" ++ suppression.ruleId ++
    s!" start={suppression.start} length={suppression.length})"

/-- What becomes of a location. -/
inductive Outcome where
  | diagnostic (diagnostic : Diagnostic Json)
  | malformed (error : LocationError)
  | suppressed (record : Suppression)
  deriving DecidableEq

/-- The message of a finding: the first part of its description, and the details unless there
are none or there is no space for them. -/
def Issue.message (issue : Issue) (options : Options) : String :=
  if options.spaceLimited || issue.tail.isEmpty then issue.head
  else issue.head ++ " " ++ issue.tail

/-- The diagnostic of an issue at a span. -/
def Issue.diagnosticAt (issue : Issue) (options : Options) (span : Span) (filePath : Json) :
    Diagnostic Json :=
  let stop := span.stop.getD { line := unresolvedLine, column := 0 }
  { ruleId := issue.ruleId
    line := span.start.line
    column := span.start.column
    endLine := stop.line
    endColumn := stop.column
    severity := .ofReported issue.severity
    message := issue.message options
    fatal := false
    filePath }

/-- The location as an error shows it: its source-map text, or else its address. -/
def Location.shown (location : Location) : String :=
  if location.sourceMap.isPresent then location.sourceMap.display
  else match location.address with
    | some address => String.ofList (Text.writeInt address)
    | none => Json.null.display

namespace Contract

/-- Whether an issue at an entry is suppressed. The syntax tree is consulted only for entries of
the main source and rules that may be suppressed. -/
def suppresses (contract : Contract) (options : Options) (issue : Issue) (entry : Entry)
    (names : List Json) : Except ShapeError Bool := do
  if ← contract.isMainSource entry names then
    if options.suppressibleRules.contains issue.ruleId then
      Ast.isDynamicArrayDeclaration contract.artifact.ast entry.start entry.length
    else return false
  else return false

/-- The record of the suppression of an issue at an entry. -/
def suppression (contract : Contract) (options : Options) (issue : Issue) (entry : Entry) :
    Suppression :=
  { level := if options.verbose then .info else .debug
    contract := contract.artifact.contractName
    ruleId := issue.ruleId
    start := entry.start
    length := entry.length }

/-- What becomes of an issue at an entry whose file index counts in `names`. The diagnostic is
reported under the name that the entry gives, unless it could not be resolved or that name is
empty; then it stays with the source that the location was attributed to. -/
def outcomeAt (contract : Contract) (options : Options) (issue : Issue) (entry : Entry)
    (names : List Json) (attributedTo : Json) : Except ShapeError Outcome := do
  if ← contract.suppresses options issue entry names then
    return .suppressed (contract.suppression options issue entry)
  else
    let span ← contract.spanOf entry names
    let named := (fileNameAt? names entry.fileIndex).getD .null
    let filePath := if span.isResolved then named.orElse attributedTo else attributedTo
    return .diagnostic (issue.diagnosticAt options span filePath)

/-- What becomes of one location of an issue. -/
def normalizeLocation (contract : Contract) (options : Options) (issue : Issue)
    (location : Location) (format : String) (attributedTo : Json) (sourceList : List Json) :
    Except Fault Outcome := do
  match ← contract.locate location format sourceList with
  | (none, _) => return .diagnostic (issue.diagnosticAt options .unresolved attributedTo)
  | (some entry, names) =>
    (contract.outcomeAt options issue entry names attributedTo).mapError .shape

/-- What becomes of one location of a share. A malformed location is an outcome like the others. -/
def outcomeOf (contract : Contract) (options : Options) (share : SourceShare) (issue : Issue)
    (location : Location) : Except Fault Outcome :=
  match contract.normalizeLocation options issue location share.format share.source
      share.sourceList with
  | .error (.format error) =>
    .ok (.malformed {
      filePath := share.source
      ruleId := issue.ruleId
      location := location.shown
      message := error.message })
  | outcome => outcome

/-- What becomes of the locations of a batch: source by source, and within a source in the order
of the batch. -/
def outcomes (contract : Contract) (options : Options) (batch : Batch) :
    Except Fault (List Outcome) := do
  let shares ← batch.shares.mapError Fault.shape
  let occurrences := shares.flatMap fun share => share.items.map fun item => (share, item)
  occurrences.mapM fun (share, issue, location) =>
    contract.outcomeOf options share issue location

end Contract

namespace Outcome

/-- The diagnostic of an outcome, if it is one. -/
def diagnostic? : Outcome → Option (Diagnostic Json)
  | .diagnostic found => some found
  | _ => none

/-- The error of an outcome, if it is one. -/
def error? : Outcome → Option LocationError
  | .malformed error => some error
  | _ => none

/-- The record of an outcome, if it is a suppression. -/
def suppression? : Outcome → Option Suppression
  | .suppressed record => some record
  | _ => none

end Outcome

/-- The diagnostics and errors of a batch or of several, each in order. -/
structure Normalized where
  diagnostics : List (Diagnostic Json)
  errors : List LocationError
  suppressions : List Suppression
  deriving DecidableEq

/-- Sorts outcomes by their kind. -/
def Normalized.ofOutcomes (outcomes : List Outcome) : Normalized :=
  { diagnostics := outcomes.filterMap Outcome.diagnostic?
    errors := outcomes.filterMap Outcome.error?
    suppressions := outcomes.filterMap Outcome.suppression? }

/-- Normalizes a batch. -/
def Contract.normalize (contract : Contract) (options : Options) (batch : Batch) :
    Except Fault Normalized :=
  (contract.outcomes options batch).map Normalized.ofOutcomes

end Pinpoint
