import Pinpoint.Proofs.Grouping
import Pinpoint.Proofs.Provenance

/-!
# What a run gathers

The report of a run is made of the diagnostics of its contracts. Which diagnostics there are
depends on which contracts were finished, and neither on their order nor on how often one of them
was. Grouping drops what is repeated and sorts the rest, and since no finding is fatal the order
of diagnostics leaves no two of them in an arbitrary order. So the report depends on the contracts
as a set.
-/

namespace Pinpoint

/-! ## Reports of the same diagnostics -/

section Congruence

variable {first second : List (Diagnostic String)}

theorem FileReport.ofPath_congr (separated : Diagnostic.Separated first)
    (same : ∀ diagnostic, diagnostic ∈ first ↔ diagnostic ∈ second) (path : String) :
    ofPath path first = ofPath path second := by
  have messages : Diagnostic.sort (first.filter (·.filePath == path)).eraseDups =
      Diagnostic.sort (second.filter (·.filePath == path)).eraseDups := by
    apply Diagnostic.sort_congr
    · intro left leftMem right rightMem
      rw [List.mem_eraseDups] at leftMem rightMem
      exact separated left (List.mem_filter.mp leftMem).1 right (List.mem_filter.mp rightMem).1
    · apply (List.perm_ext_iff_of_nodup (nodup_eraseDups _) (nodup_eraseDups _)).mpr
      intro diagnostic
      rw [List.mem_eraseDups, List.mem_eraseDups, List.mem_filter, List.mem_filter, same]
  rw [ofPath, ofPath, messages]

theorem pathsNamed_congr (same : ∀ diagnostic, diagnostic ∈ first ↔ diagnostic ∈ second)
    (name : String) : pathsNamed name first = pathsNamed name second := by
  have paths : Text.sortedNames (first.map (·.filePath)) =
      Text.sortedNames (second.map (·.filePath)) := by
    apply Text.sortedNames_congr
    intro path
    simp only [List.mem_map, same]
  rw [pathsNamed, pathsNamed, paths]

/-- The names of the groups depend on which diagnostics there are. -/
theorem sortedNames_ofDiagnostics_congr
    (same : ∀ diagnostic, diagnostic ∈ first ↔ diagnostic ∈ second) :
    Text.sortedNames ((FileReport.ofDiagnostics first).map fun report =>
        baseName report.filePath) =
      Text.sortedNames ((FileReport.ofDiagnostics second).map fun report =>
        baseName report.filePath) := by
  apply Text.sortedNames_congr
  intro name
  rw [mem_names_ofDiagnostics, mem_names_ofDiagnostics]
  simp only [same]

/-- Diagnostics that the order tells apart make one report, however they are arranged and
repeated. -/
theorem GroupedReport.ofDiagnostics_congr (separated : Diagnostic.Separated first)
    (same : ∀ diagnostic, diagnostic ∈ first ↔ diagnostic ∈ second) :
    GroupedReport.ofDiagnostics first = GroupedReport.ofDiagnostics second := by
  have groups (name : String) : groupNamed name first = groupNamed name second := by
    rw [groupNamed, groupNamed, pathsNamed_congr same]
    simp only [FileReport.ofPath_congr separated same]
  rw [ofDiagnostics_eq_map, ofDiagnostics_eq_map, sortedNames_ofDiagnostics_congr same]
  simp only [groups]

end Congruence

/-! ## The parts of a run -/

/-- Whether nothing but an unusable artifact keeps a job from being normalized. -/
def Job.Contained (job : Job) (options : Options) : Prop :=
  ∀ fault, job.normalize options = .error fault → ∃ error, fault = .artifact error

namespace Run

variable {options : Options}

/-- A job that is contained is settled, if only with the error of its artifact. -/
theorem exists_settle_eq_ok {job : Job} (contained : job.Contained options) :
    ∃ settled, settle options job = .ok settled := by
  rw [settle]
  cases returned : job.normalize options with
  | ok normalized => exact ⟨_, rfl⟩
  | error fault =>
      obtain ⟨error, rfl⟩ := contained fault returned
      exact ⟨_, rfl⟩

theorem normalize_of_settle {job : Job} {normalized : Normalized}
    (settled : settle options job = .ok (.inl normalized)) :
    job.normalize options = .ok normalized := by
  rw [settle] at settled
  split at settled
  next other returned =>
    cases settled
    exact returned
  next => cases settled
  next => cases settled

/-- The diagnostics of settled contracts. -/
def diagnosticsOf (settled : List (Normalized ⊕ ContractError)) : List (Diagnostic Json) :=
  (settled.filterMap Sum.getLeft?).flatMap (·.diagnostics)

/-- The location errors of settled contracts. -/
def errorsOf (settled : List (Normalized ⊕ ContractError)) : List LocationError :=
  (settled.filterMap Sum.getLeft?).flatMap (·.errors)

theorem mem_diagnosticsOf {settled : List (Normalized ⊕ ContractError)}
    {diagnostic : Diagnostic Json} :
    diagnostic ∈ diagnosticsOf settled ↔
      ∃ normalized, .inl normalized ∈ settled ∧ diagnostic ∈ normalized.diagnostics := by
  simp only [diagnosticsOf, List.mem_flatMap, List.mem_filterMap, Sum.getLeft?_eq_some_iff,
    exists_eq_right]

theorem mem_errorsOf {settled : List (Normalized ⊕ ContractError)} {error : LocationError} :
    error ∈ errorsOf settled ↔
      ∃ normalized, .inl normalized ∈ settled ∧ error ∈ normalized.errors := by
  simp only [errorsOf, List.mem_flatMap, List.mem_filterMap, Sum.getLeft?_eq_some_iff,
    exists_eq_right]

/-- A diagnostic with the text of its file name. -/
def withTextName (diagnostic : Diagnostic Json) : Except ShapeError (Diagnostic String) := do
  return diagnostic.withName (← diagnostic.filePath.asText)

theorem withTextName_eq_ok {diagnostic : Diagnostic Json} {named : Diagnostic String} :
    withTextName diagnostic = .ok named ↔
      diagnostic = named.withName (.text named.filePath) := by
  constructor
  · intro returned
    rcases bind_eq_ok.mp returned with ⟨name, nameOk, equal⟩
    cases equal
    cases diagnostic with
    | mk ruleId line column endLine endColumn severity message fatal filePath =>
        cases filePath with
        | text =>
            cases nameOk
            rfl
        | null | bool | number | list | object => cases nameOk
  · intro equal
    rw [equal]
    rfl

theorem textNamed_eq_ok {diagnostics : List (Diagnostic Json)}
    {named : List (Diagnostic String)} :
    textNamed diagnostics = .ok named ↔ diagnostics.mapM withTextName = .ok named := by
  rw [textNamed]
  constructor
  · intro returned
    split at returned
    next => exact returned
    next =>
      split at returned
      next => cases returned
      next =>
        split at returned
        next => cases returned
        next => cases returned
  · intro returned
    have texts : ((diagnostics.map (·.filePath)).all fun name => name.asText.isOk) = true := by
      rw [List.all_map, List.all_eq_true]
      intro diagnostic member
      obtain ⟨_, named⟩ := exists_mapM_eq_ok.mp ⟨named, returned⟩ diagnostic member
      obtain ⟨text, textOk, -⟩ := bind_eq_ok.mp named
      rw [Function.comp_apply, textOk]
      rfl
    rw [if_pos texts]
    exact returned

/-- Location errors are put in order when their file names have one. -/
theorem exists_sortLocationErrors_eq_ok {errors : List LocationError} :
    (∃ sorted, sortLocationErrors errors = .ok sorted) ↔
      Json.areOrdered (errors.map (·.filePath)) = true := by
  rw [sortLocationErrors]
  constructor
  · intro given
    rcases given with ⟨sorted, returned⟩
    split at returned
    next => cases returned
    next refused =>
      -- A single name is not compared with any, and is ordered since it agrees with itself.
      cases errors with
      | nil => rfl
      | cons error others =>
          cases others with
          | nil =>
              apply Json.areOrdered_of_forall_eq
              intro other member
              exact List.mem_singleton.mp member
          | cons => simpa using refused
  · intro ordered
    rw [ordered, Bool.not_true, Bool.and_false]
    exact ⟨_, rfl⟩

/-- What is gathered from contracts that are settled. -/
theorem gather_eq_ok {finished : List Job} {result : RunResult} :
    gather options finished = .ok result ↔
      ∃ settled diagnostics locationErrors,
        finished.mapM (settle options) = .ok settled ∧
        (diagnosticsOf settled).mapM withTextName = .ok diagnostics ∧
        sortLocationErrors (errorsOf settled) = .ok locationErrors ∧
        result =
          { report := .ofDiagnostics diagnostics
            locationErrors
            contractErrors := sortContractErrors (settled.filterMap Sum.getRight?) } := by
  constructor
  · intro returned
    obtain ⟨settled, settledOk, returned⟩ := bind_eq_ok.mp returned
    obtain ⟨diagnostics, namedOk, returned⟩ := bind_eq_ok.mp returned
    obtain ⟨locationErrors, sortedOk, equal⟩ := bind_eq_ok.mp returned
    cases equal
    exact ⟨settled, diagnostics, locationErrors, settledOk,
      textNamed_eq_ok.mp (mapError_eq_ok.mp namedOk), mapError_eq_ok.mp sortedOk, rfl⟩
  · intro given
    rcases given with ⟨settled, diagnostics, locationErrors, settledOk, namedOk, sortedOk, rfl⟩
    apply bind_eq_ok.mpr
    refine ⟨settled, settledOk, bind_eq_ok.mpr ⟨diagnostics, ?_, ?_⟩⟩
    · exact mapError_eq_ok.mpr (textNamed_eq_ok.mpr namedOk)
    · exact bind_eq_ok.mpr ⟨locationErrors, mapError_eq_ok.mpr sortedOk, rfl⟩

theorem gather_of_errorsOf_eq_nil {finished : List Job}
    {settled : List (Normalized ⊕ ContractError)} {diagnostics : List (Diagnostic String)}
    (settledOk : finished.mapM (settle options) = .ok settled)
    (namedOk : (diagnosticsOf settled).mapM withTextName = .ok diagnostics)
    (none : errorsOf settled = []) :
    gather options finished =
      .ok { report := .ofDiagnostics diagnostics
            locationErrors := []
            contractErrors := sortContractErrors (settled.filterMap Sum.getRight?) } := by
  refine gather_eq_ok.mpr ⟨settled, diagnostics, [], settledOk, namedOk, ?_, rfl⟩
  rw [none, sortLocationErrors, List.mergeSort_nil]
  rfl

/-- A run with workers gathers its jobs in the order in which they are given. -/
theorem run_eq_ok {jobs : List Job} {workers : Int} {result : RunResult} (positive : 0 < workers) :
    run jobs options workers = .ok result ↔ gather options jobs = .ok result := by
  rw [run, if_neg (Int.not_le.mpr positive), mapError_eq_ok]

/-! ## The report of a run -/

variable {settled : List (Normalized ⊕ ContractError)} {finished : List Job}

/-- Every diagnostic of settled contracts is an outcome of a job. -/
theorem settles_of_mem_diagnosticsOf (settledOk : finished.mapM (settle options) = .ok settled)
    {diagnostic : Diagnostic Json} (member : diagnostic ∈ diagnosticsOf settled) :
    ∃ job ∈ finished, job.Settles options (.diagnostic diagnostic) := by
  obtain ⟨normalized, normalizedMem, member⟩ := mem_diagnosticsOf.mp member
  obtain ⟨job, jobMem, jobOk⟩ := (mem_of_mapM_eq_ok settledOk).mp normalizedMem
  exact ⟨job, jobMem, Job.settles_of_mem_diagnostics (normalize_of_settle jobOk) member⟩

/-- Every location error of settled contracts is an outcome of a job. -/
theorem settles_of_mem_errorsOf (settledOk : finished.mapM (settle options) = .ok settled)
    {error : LocationError} (member : error ∈ errorsOf settled) :
    ∃ job ∈ finished, job.Settles options (.malformed error) := by
  obtain ⟨normalized, normalizedMem, member⟩ := mem_errorsOf.mp member
  obtain ⟨job, jobMem, jobOk⟩ := (mem_of_mapM_eq_ok settledOk).mp normalizedMem
  exact ⟨job, jobMem, Job.settles_of_mem_errors (normalize_of_settle jobOk) member⟩

/-- The diagnostics of a run are not fatal, so the order tells them apart. -/
theorem separated_of_settled (settledOk : finished.mapM (settle options) = .ok settled)
    {named : List (Diagnostic String)}
    (namedOk : (diagnosticsOf settled).mapM withTextName = .ok named) :
    Diagnostic.Separated named := by
  apply Diagnostic.separated_of_fatal_eq
  intro diagnostic member
  obtain ⟨source, sourceMem, sourceOk⟩ := (mem_of_mapM_eq_ok namedOk).mp member
  obtain ⟨text, -, equal⟩ := bind_eq_ok.mp sourceOk
  cases equal
  obtain ⟨job, -, settles⟩ := settles_of_mem_diagnosticsOf settledOk sourceMem
  exact settles.fatal_eq_false

/-- The same jobs make the same report, however they are arranged and repeated. -/
theorem gather_congr {others : List Job} (same : ∀ job, job ∈ finished ↔ job ∈ others)
    {result : RunResult} (returned : gather options finished = .ok result) :
    ∃ other, gather options others = .ok other ∧ other.report = result.report := by
  obtain ⟨settled, diagnostics, sorted, settledOk, namedOk, sortedOk, rfl⟩ :=
    gather_eq_ok.mp returned
  obtain ⟨otherSettled, otherSettledOk, sameSettled⟩ := mapM_congr_mem same settledOk
  have sameDiagnostics (diagnostic : Diagnostic Json) :
      diagnostic ∈ diagnosticsOf settled ↔ diagnostic ∈ diagnosticsOf otherSettled := by
    rw [mem_diagnosticsOf, mem_diagnosticsOf]
    simp only [sameSettled]
  obtain ⟨otherDiagnostics, otherNamedOk, sameNamed⟩ := mapM_congr_mem sameDiagnostics namedOk
  have sameErrors (value : Json) :
      value ∈ (errorsOf settled).map (·.filePath) ↔
        value ∈ (errorsOf otherSettled).map (·.filePath) := by
    simp only [List.mem_map, mem_errorsOf, sameSettled]
  -- The location errors matter only because names without an order stop the run.
  have ordered := exists_sortLocationErrors_eq_ok.mp ⟨sorted, sortedOk⟩
  rw [Json.areOrdered_congr sameErrors] at ordered
  obtain ⟨otherSorted, otherSortedOk⟩ := exists_sortLocationErrors_eq_ok.mpr ordered
  refine ⟨_, gather_eq_ok.mpr ⟨otherSettled, otherDiagnostics, otherSorted, otherSettledOk,
    otherNamedOk, otherSortedOk, rfl⟩, ?_⟩
  have separated := separated_of_settled settledOk namedOk
  exact (GroupedReport.ofDiagnostics_congr separated sameNamed).symm

/-! ## When there is a report -/

/-- Jobs that are contained, with texts for names, always make a report. -/
theorem exists_gather_eq_ok (contained : ∀ job ∈ finished, job.Contained options)
    (texts : ∀ job ∈ finished, job.HasTextNames) :
    ∃ result, gather options finished = .ok result := by
  obtain ⟨settled, settledOk⟩ := exists_mapM_eq_ok.mpr
    fun job member => exists_settle_eq_ok (contained job member)
  have named (diagnostic : Diagnostic Json) (member : diagnostic ∈ diagnosticsOf settled) :
      ∃ result, withTextName diagnostic = .ok result := by
    obtain ⟨job, jobMem, settles⟩ := settles_of_mem_diagnosticsOf settledOk member
    obtain ⟨text, equal⟩ := settles.isText_filePath (texts job jobMem)
    rw [withTextName, equal]
    exact ⟨_, rfl⟩
  obtain ⟨diagnostics, namedOk⟩ := exists_mapM_eq_ok.mpr named
  have ordered : Json.areOrdered ((errorsOf settled).map (·.filePath)) = true := by
    apply Json.areOrdered_of_isText
    intro name member
    obtain ⟨error, errorMem, rfl⟩ := List.mem_map.mp member
    obtain ⟨job, jobMem, settles⟩ := settles_of_mem_errorsOf settledOk errorMem
    exact settles.isText_filePath_error (texts job jobMem)
  obtain ⟨sorted, sortedOk⟩ := exists_sortLocationErrors_eq_ok.mpr ordered
  exact ⟨_, gather_eq_ok.mpr ⟨settled, diagnostics, sorted, settledOk, namedOk, sortedOk, rfl⟩⟩

end Run

end Pinpoint
