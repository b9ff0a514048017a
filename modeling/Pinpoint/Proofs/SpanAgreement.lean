import Pinpoint.Proofs.StoppedBatches

/-!
# Diagnostics and resolved spans

A location can be resolved to a span, and an issue at it can be normalized. Both look the location
up and ask for the span of its entry, but normalization consults the syntax tree before it does so
and decides on a file name after it. What it makes of the location is nevertheless told by the span:
it refuses the location for the same reason, or has a diagnostic at the span, or drops an issue that
has one.
-/

namespace Pinpoint

/-- Whether a diagnostic stands at a span. Without an end of the span its end has no place. -/
structure Diagnostic.StandsAt {Name : Type} (diagnostic : Diagnostic Name) (span : Span) :
    Prop where
  start_eq : span.start = { line := diagnostic.line, column := diagnostic.column }
  stop_eq : ∀ stop, span.stop = some stop →
    stop = { line := diagnostic.endLine, column := diagnostic.endColumn }
  stop_eq_none : span.stop = none → diagnostic.endLine = -1 ∧ diagnostic.endColumn = 0

theorem standsAt_diagnosticAt (issue : Issue) (options : Options) (span : Span)
    (filePath : Json) : (issue.diagnosticAt options span filePath).StandsAt span := by
  refine ⟨rfl, ?_, ?_⟩
  · intro stop ended
    rw [Issue.diagnosticAt, ended]
    rfl
  · intro endless
    rw [Issue.diagnosticAt, endless]
    exact ⟨rfl, rfl⟩

namespace Contract

variable {contract : Contract} {options : Options} {issue : Issue} {location : Location}
variable {entry : Entry} {names sourceList : List Json} {format : String} {attributedTo : Json}

/-- How the outcome of an issue at a location goes with the span of the location. -/
inductive Accords (options : Options) (issue : Issue) :
    Except Fault Span → Except Fault Outcome → Prop
  | refused {fault : Fault} : Accords options issue (.error fault) (.error fault)
  | reported {span : Span} {filePath : Json} :
      Accords options issue (.ok span)
        (.ok (.diagnostic (issue.diagnosticAt options span filePath)))
  | suppressed {span : Span} {record : Suppression} :
      Accords options issue (.ok span) (.ok (.suppressed record))
  /-- The entry points to a name that is not a text, which each of the two finds out in its way. -/
  | misnamed {error other : ShapeError} :
      Accords options issue (.error (.shape error)) (.error (.shape other))
  /-- It cannot be told whether the issue is to be suppressed. -/
  | undecided {span : Span} {error : ShapeError} :
      Accords options issue (.ok span) (.error (.shape error))

theorem accords_outcomeAt :
    Accords options issue ((contract.spanOf entry names).mapError .shape)
      ((contract.outcomeAt options issue entry names attributedTo).mapError .shape) := by
  cases returned : contract.outcomeAt options issue entry names attributedTo with
  | error error =>
      cases contract.spanOf entry names with
      | error other => exact .misnamed
      | ok span => exact .undecided
  | ok outcome =>
      rcases bind_eq_ok.mp returned with ⟨suppressed, answered, returned⟩
      cases suppressed with
      | true =>
          cases returned
          -- Only an entry of the main source is suppressed, and the name of that is a text.
          rcases bind_eq_ok.mp answered with ⟨main, mainOk, answered⟩
          cases main with
          | false => cases answered
          | true =>
              rcases exists_spanOf_eq_ok ((isMainSource_eq_ok mainOk).mp rfl) with ⟨span, spanOk⟩
              rw [spanOk]
              exact .suppressed
      | false =>
          rcases bind_eq_ok.mp returned with ⟨span, spanOk, returned⟩
          cases returned
          rw [spanOk]
          exact .reported

/-- Normalization goes with the resolution of the location, step by step. -/
theorem accords_normalizeLocation :
    Accords options issue (contract.resolve location format sourceList)
      (contract.normalizeLocation options issue location format attributedTo sourceList) := by
  rw [resolve, normalizeLocation]
  cases contract.locate location format sourceList with
  | error fault => exact .refused
  | ok located =>
      rcases located with ⟨_ | entry, names⟩
      · exact .reported
      · exact accords_outcomeAt

/-- If a location has a span, it is only for a declaration without a type that an issue at it comes
to nothing. -/
theorem undecided_of_resolve {span : Span} {error : ShapeError}
    (resolved : contract.resolve location format sourceList = .ok span)
    (stopped : contract.normalizeLocation options issue location format attributedTo sourceList =
      .error (.shape error)) :
    issue.ruleId ∈ options.suppressibleRules ∧ ∃ entry names,
      contract.Denotes location sourceList format entry names ∧
        contract.AtUndecided entry names := by
  rcases bind_eq_ok.mp resolved with ⟨⟨found, names⟩, located, resolved⟩
  rw [normalizeLocation, located] at stopped
  cases found with
  | none => cases stopped
  | some entry =>
      have denotes := denotes_iff.mpr located
      rcases mapError_eq_error.mp stopped with ⟨error, stuck, -⟩
      rcases (outcomeAt_eq_error denotes.hasSource).mp ⟨error, stuck⟩ with
        misnamed | ⟨listed, undecided⟩
      · rcases spanOf_eq_error.mpr misnamed with ⟨error, failed⟩
        cases (mapError_eq_ok.mp resolved).symm.trans failed
      · exact ⟨listed, entry, names, denotes, undecided⟩

/-- Normalizing an issue at a location and resolving the location agree. They refuse the same
locations, and the same artifacts, for the same reasons. A diagnostic stands at the span of its
location, and a suppressed location has a span too. A location with a span comes to one of the two,
unless the syntax tree has no type for the declaration that a suppression would depend on. -/
theorem normalizeLocation_agrees (contract : Contract) (options : Options) (issue : Issue)
    (location : Location) (format : String) (attributedTo : Json) (sourceList : List Json) :
    (∀ error, contract.resolve location format sourceList = .error (.format error) ↔
      contract.normalizeLocation options issue location format attributedTo sourceList =
        .error (.format error)) ∧
    (∀ error, contract.resolve location format sourceList = .error (.artifact error) ↔
      contract.normalizeLocation options issue location format attributedTo sourceList =
        .error (.artifact error)) ∧
    (∀ diagnostic,
      contract.normalizeLocation options issue location format attributedTo sourceList =
        .ok (.diagnostic diagnostic) →
      ∃ span, contract.resolve location format sourceList = .ok span ∧
        diagnostic.StandsAt span) ∧
    (∀ record,
      contract.normalizeLocation options issue location format attributedTo sourceList =
        .ok (.suppressed record) →
      ∃ span, contract.resolve location format sourceList = .ok span) ∧
    ∀ span, contract.resolve location format sourceList = .ok span →
      (∃ diagnostic,
        contract.normalizeLocation options issue location format attributedTo sourceList =
          .ok (.diagnostic diagnostic) ∧ diagnostic.StandsAt span) ∨
      (∃ record,
        contract.normalizeLocation options issue location format attributedTo sourceList =
          .ok (.suppressed record)) ∨
      issue.ruleId ∈ options.suppressibleRules ∧ ∃ entry names,
        contract.Denotes location sourceList format entry names ∧
          contract.AtUndecided entry names := by
  have undecided := fun span error => @undecided_of_resolve contract options issue location
    sourceList format attributedTo span error
  have accords := @accords_normalizeLocation contract options issue location sourceList format
    attributedTo
  generalize contract.resolve location format sourceList = resolved at *
  generalize contract.normalizeLocation options issue location format attributedTo sourceList =
    outcome at *
  cases accords with
  | refused => simp
  | @reported span filePath =>
      have stands := standsAt_diagnosticAt issue options span filePath
      simp [stands]
  | suppressed => simp
  | misnamed => simp
  | @undecided span error => simpa using undecided span error rfl rfl

/-- An issue whose rule may be suppressed. -/
def writeIssue : Issue :=
  { head := "Write", tail := "", severity := "High", ruleId := "SWC-131", ruleTitle := ""
    locations := [] }

/-- The location at the array is suppressed and has a span, the one before it has a diagnostic at
its span, and the malformed one is refused. -/
theorem normalizeLocation_agrees_array :
    (∃ span, arrayContract.resolve ⟨.text "4:9:0", none⟩ "text" [.text "v.sol"] = .ok span) ∧
    (∃ diagnostic,
      arrayContract.normalizeLocation .default writeIssue ⟨.text "0:1:0", none⟩ "text"
        (.text "v.sol") [.text "v.sol"] = .ok (.diagnostic diagnostic) ∧
      diagnostic.StandsAt ⟨⟨1, 0⟩, some ⟨1, 1⟩⟩) ∧
    arrayContract.normalizeLocation .default writeIssue ⟨.text "4:9", none⟩ "text"
      (.text "v.sol") [.text "v.sol"] = .error (.format (.tooFewFields "4:9")) := by
  have agrees (location : Location) := normalizeLocation_agrees arrayContract .default writeIssue
    location "text" (.text "v.sol") [.text "v.sol"]
  have suppressed : arrayContract.normalizeLocation .default writeIssue ⟨.text "4:9:0", none⟩
      "text" (.text "v.sol") [.text "v.sol"] =
        .ok (.suppressed ⟨.debug, "Vault", "SWC-131", 4, 9⟩) := rfl
  have resolved : arrayContract.resolve ⟨.text "0:1:0", none⟩ "text" [.text "v.sol"] =
      .ok ⟨⟨1, 0⟩, some ⟨1, 1⟩⟩ := rfl
  have refused : arrayContract.resolve ⟨.text "4:9", none⟩ "text" [.text "v.sol"] =
      .error (.format (.tooFewFields "4:9")) := rfl
  have reported : ∃ diagnostic, arrayContract.normalizeLocation .default writeIssue
      ⟨.text "0:1:0", none⟩ "text" (.text "v.sol") [.text "v.sol"] =
        .ok (.diagnostic diagnostic) := ⟨_, rfl⟩
  refine ⟨(agrees _).2.2.2.1 _ suppressed, ?_, ((agrees _).1 _).mp refused⟩
  rcases reported with ⟨diagnostic, returned⟩
  rcases (agrees _).2.2.1 _ returned with ⟨span, spanOk, stands⟩
  cases resolved.symm.trans spanOk
  exact ⟨diagnostic, returned, stands⟩

end Contract

end Pinpoint
