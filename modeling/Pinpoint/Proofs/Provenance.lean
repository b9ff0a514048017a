import Pinpoint.Proofs.JsonOrder
import Pinpoint.Proofs.Ledger
import Pinpoint.Run

/-!
# Where diagnostics come from

Every diagnostic of a contract is one of its issues at a span. It is reported under the name of
the source that its location was attributed to, or under a name of the source list that its entry
counts in. So the names in a report are texts as long as the names of the batches are.
-/

namespace Pinpoint

theorem mem_of_fileNameAt? {sourceList : List Json} {fileIndex : Int} {name : Json}
    (found : fileNameAt? sourceList fileIndex = some name) : name ∈ sourceList := by
  rw [fileNameAt?] at found
  split at found
  next => cases found
  next => exact List.mem_of_getElem? (Option.filter_eq_some_iff.mp found).1

namespace Contract

variable {contract : Contract} {options : Options} {issue : Issue} {location : Location}
variable {format : String} {attributedTo : Json} {sourceList : List Json}

/-- An entry counts in the source list of the batch or in that of the artifact. -/
theorem names_of_locate {found : Option Entry} {names : List Json}
    (located : contract.locate location format sourceList = .ok (found, names)) :
    names = sourceList ∨ names = contract.artifact.sourceList.map Json.text := by
  rw [locate] at located
  split at located
  next =>
    obtain ⟨map, -, located⟩ := bind_eq_ok.mp located
    obtain ⟨offset, -, located⟩ := bind_eq_ok.mp located
    obtain ⟨entry, -, located⟩ := bind_eq_ok.mp located
    cases located
    split
    next => exact .inl rfl
    next => exact .inr rfl
  next =>
    obtain ⟨text, -, located⟩ := bind_eq_ok.mp located
    obtain ⟨entry, -, located⟩ := bind_eq_ok.mp located
    cases located
    exact .inl rfl

/-- A diagnostic at an entry has the span of the entry, and the name that the entry gives or else
the name of the source that its location was attributed to. -/
theorem eq_diagnosticAt_of_outcomeAt {entry : Entry} {names : List Json}
    {diagnostic : Diagnostic Json}
    (returned : contract.outcomeAt options issue entry names attributedTo =
      .ok (.diagnostic diagnostic)) :
    ∃ span filePath, contract.spanOf entry names = .ok span ∧
      diagnostic = issue.diagnosticAt options span filePath ∧
      (filePath = attributedTo ∨ filePath ∈ names) := by
  obtain ⟨suppressed, -, returned⟩ := bind_eq_ok.mp returned
  split at returned
  next => cases returned
  next =>
    obtain ⟨span, spanOk, returned⟩ := bind_eq_ok.mp returned
    cases returned
    refine ⟨span, _, spanOk, rfl, ?_⟩
    split
    next =>
      rw [Json.orElse]
      split
      next present =>
        cases found : fileNameAt? names entry.fileIndex with
        | none =>
            rw [found] at present
            cases present
        | some name => exact .inr (mem_of_fileNameAt? found)
      next => exact .inl rfl
    next => exact .inl rfl

theorem eq_diagnosticAt_of_normalizeLocation {diagnostic : Diagnostic Json}
    (returned : contract.normalizeLocation options issue location format attributedTo sourceList =
      .ok (.diagnostic diagnostic)) :
    ∃ span filePath, contract.resolve location format sourceList = .ok span ∧
      diagnostic = issue.diagnosticAt options span filePath ∧
      (filePath = attributedTo ∨ filePath ∈ sourceList ∨
        filePath ∈ contract.artifact.sourceList.map Json.text) := by
  obtain ⟨⟨found, names⟩, located, returned⟩ := bind_eq_ok.mp returned
  cases found with
  | none =>
      cases returned
      exact ⟨.unresolved, attributedTo, bind_eq_ok.mpr ⟨_, located, rfl⟩, rfl, .inl rfl⟩
  | some entry =>
      obtain ⟨span, filePath, spanOk, equal, named⟩ :=
        eq_diagnosticAt_of_outcomeAt (mapError_eq_ok.mp returned)
      refine ⟨span, filePath, bind_eq_ok.mpr ⟨_, located, mapError_eq_ok.mpr spanOk⟩, equal,
        named.imp id ?_⟩
      intro member
      rcases names_of_locate located with rfl | rfl
      · exact .inl member
      · exact .inr member

/-! ## The outcomes of a batch -/

variable {batch : Batch} {slot : Nat}

/-- A source of a batch is one of its names, or the empty text if it has none. -/
theorem getD_sources (bound : slot < batch.sources.length) :
    batch.sources.getD slot .null ∈ batch.sourceList ∨
      batch.sourceList = [] ∧ batch.sources.getD slot .null = .text "" := by
  have member : batch.sources.getD slot .null ∈ batch.sources := by
    rw [List.getD_eq_getElem?_getD, List.getElem?_eq_getElem bound]
    exact List.getElem_mem bound
  generalize batch.sources.getD slot .null = source at member
  rw [Batch.sources] at member
  split at member
  next empty => exact .inr ⟨List.isEmpty_iff.mp empty, List.mem_singleton.mp member⟩
  next => exact .inl member

theorem isText_getD_sources (bound : slot < batch.sources.length)
    (texts : ∀ name ∈ batch.sourceList, name.IsText) :
    (batch.sources.getD slot .null).IsText := by
  rcases getD_sources bound with listed | ⟨-, nameless⟩
  · exact texts _ listed
  · exact ⟨"", nameless⟩

/-- No diagnostic of a batch is fatal. -/
theorem Settles.fatal_eq_false {diagnostic : Diagnostic Json}
    (settled : contract.Settles options batch slot issue location (.diagnostic diagnostic)) :
    diagnostic.fatal = false := by
  cases settled with
  | normalized returned =>
      obtain ⟨span, filePath, -, rfl, -⟩ := eq_diagnosticAt_of_normalizeLocation returned
      rfl

theorem Settles.isText_filePath {diagnostic : Diagnostic Json}
    (settled : contract.Settles options batch slot issue location (.diagnostic diagnostic))
    (bound : slot < batch.sources.length) (texts : ∀ name ∈ batch.sourceList, name.IsText) :
    diagnostic.filePath.IsText := by
  cases settled with
  | normalized returned =>
      obtain ⟨span, filePath, -, rfl, named⟩ := eq_diagnosticAt_of_normalizeLocation returned
      rcases named with rfl | member | member
      · exact isText_getD_sources bound texts
      · exact texts _ member
      · obtain ⟨path, -, equal⟩ := List.mem_map.mp member
        exact ⟨path, equal.symm⟩

theorem Settles.filePath_eq {error : LocationError}
    (settled : contract.Settles options batch slot issue location (.malformed error)) :
    error.filePath = batch.sources.getD slot .null := by
  cases settled with
  | normalized returned => exact absurd rfl ((normalizeLocation_eq_ok returned).2 error)
  | malformed => rfl

/-- Every outcome of a batch is that of a location attributed to one of the sources. -/
theorem settles_of_mem_outcomes {outcomes : List Outcome}
    (returned : contract.outcomes options batch = .ok outcomes) {outcome : Outcome}
    (member : outcome ∈ outcomes) :
    ∃ slot issue location, slot < batch.sources.length ∧
      contract.Settles options batch slot issue location outcome := by
  have given : .ok outcome ∈ batch.placesBySource.map fun place =>
      contract.outcomeOf options (batch.shareOf (batch.slotOf place.location)) place.issue
        place.location := by
    rw [(outcomes_eq_ok returned).1]
    exact List.mem_map_of_mem member
  obtain ⟨place, -, equal⟩ := List.mem_map.mp given
  exact ⟨_, place.issue, place.location, batch.slotOf_lt place.location,
    settles_of_outcomeOf equal⟩

end Contract

namespace Normalized

@[simp] theorem mem_diagnostics_ofOutcomes {outcomes : List Outcome}
    {diagnostic : Diagnostic Json} :
    diagnostic ∈ (ofOutcomes outcomes).diagnostics ↔ .diagnostic diagnostic ∈ outcomes := by
  rw [ofOutcomes, List.mem_filterMap]
  constructor
  · intro given
    rcases given with ⟨outcome, member, found⟩
    cases outcome with
    | diagnostic other =>
        cases found
        exact member
    | malformed => cases found
    | suppressed => cases found
  · intro member
    exact ⟨_, member, rfl⟩

@[simp] theorem mem_errors_ofOutcomes {outcomes : List Outcome} {error : LocationError} :
    error ∈ (ofOutcomes outcomes).errors ↔ .malformed error ∈ outcomes := by
  rw [ofOutcomes, List.mem_filterMap]
  constructor
  · intro given
    rcases given with ⟨outcome, member, found⟩
    cases outcome with
    | malformed other =>
        cases found
        exact member
    | diagnostic => cases found
    | suppressed => cases found
  · intro member
    exact ⟨_, member, rfl⟩

end Normalized

/-! ## The outcomes of a job -/

namespace Job

variable {job : Job} {options : Options}

/-- The outcomes that a job can have: those of the locations of its batches, each attributed to one
of the sources of its batch. -/
def Settles (job : Job) (options : Options) (outcome : Outcome) : Prop :=
  ∃ batch ∈ job.batches, ∃ slot issue location, slot < batch.sources.length ∧
    (Contract.ofSources job.artifact job.sources).Settles options batch slot issue location outcome

/-- Whether the names that the batches of a job give to their sources are texts. -/
def HasTextNames (job : Job) : Prop :=
  ∀ batch ∈ job.batches, ∀ name ∈ batch.sourceList, name.IsText

theorem normalize_eq_ok {normalized : Normalized}
    (returned : job.normalize options = .ok normalized) :
    ∃ outcomes, normalized = .ofOutcomes outcomes ∧
      ∀ outcome ∈ outcomes, job.Settles options outcome := by
  obtain ⟨outcomes, outcomesOk, equal⟩ := bind_eq_ok.mp returned
  cases equal
  refine ⟨outcomes.flatten, rfl, ?_⟩
  intro outcome member
  obtain ⟨batchOutcomes, batchMem, member⟩ := List.mem_flatten.mp member
  obtain ⟨batch, batchMem, batchOk⟩ := (mem_of_mapM_eq_ok outcomesOk).mp batchMem
  exact ⟨batch, batchMem, Contract.settles_of_mem_outcomes batchOk member⟩

theorem settles_of_mem_diagnostics {normalized : Normalized}
    (returned : job.normalize options = .ok normalized) {diagnostic : Diagnostic Json}
    (member : diagnostic ∈ normalized.diagnostics) :
    job.Settles options (.diagnostic diagnostic) := by
  obtain ⟨outcomes, rfl, settles⟩ := normalize_eq_ok returned
  exact settles _ (Normalized.mem_diagnostics_ofOutcomes.mp member)

theorem settles_of_mem_errors {normalized : Normalized}
    (returned : job.normalize options = .ok normalized) {error : LocationError}
    (member : error ∈ normalized.errors) : job.Settles options (.malformed error) := by
  obtain ⟨outcomes, rfl, settles⟩ := normalize_eq_ok returned
  exact settles _ (Normalized.mem_errors_ofOutcomes.mp member)

/-- No diagnostic of a job is fatal. -/
theorem Settles.fatal_eq_false {diagnostic : Diagnostic Json}
    (settles : job.Settles options (.diagnostic diagnostic)) : diagnostic.fatal = false := by
  rcases settles with ⟨batch, -, slot, issue, location, -, settled⟩
  exact settled.fatal_eq_false

theorem Settles.isText_filePath {diagnostic : Diagnostic Json}
    (settles : job.Settles options (.diagnostic diagnostic)) (texts : job.HasTextNames) :
    diagnostic.filePath.IsText := by
  rcases settles with ⟨batch, batchMem, slot, issue, location, bound, settled⟩
  exact settled.isText_filePath bound (texts batch batchMem)

theorem Settles.isText_filePath_error {error : LocationError}
    (settles : job.Settles options (.malformed error)) (texts : job.HasTextNames) :
    error.filePath.IsText := by
  rcases settles with ⟨batch, batchMem, slot, issue, location, bound, settled⟩
  rw [settled.filePath_eq]
  exact Contract.isText_getD_sources bound (texts batch batchMem)

end Job

end Pinpoint
