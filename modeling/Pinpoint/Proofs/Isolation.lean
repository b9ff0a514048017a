import Pinpoint.Proofs.Scheduling

/-!
# Contracts that fail

An unusable artifact is found out when the first batch in the format of bytecode offsets is
reached, and the batches before it may have findings by then. The contract fails as a whole: the
run has its error, and apart from that the result of a run of the other contracts.
-/

namespace Pinpoint

namespace Job

/-- The findings of a job that is normalized. -/
def findings? (job : Job) (options : Options) : Option Normalized :=
  (job.normalize options).toOption

/-- The error of a job whose artifact is unusable. -/
def failure? (job : Job) (options : Options) : Option ContractError :=
  match job.normalize options with
  | .error (.artifact error) =>
    some { contractName := job.artifact.contractName, message := error.message }
  | _ => none

end Job

namespace Run

/-- The findings of those of some jobs that are normalized. -/
def findings (options : Options) (jobs : List Job) : List Normalized :=
  jobs.filterMap (·.findings? options)

/-- The errors of those of some jobs that fail. -/
def failures (options : Options) (jobs : List Job) : List ContractError :=
  jobs.filterMap (·.failure? options)

/-- The jobs that are normalized. -/
def normalizable (options : Options) (jobs : List Job) : List Job :=
  jobs.filter fun job => (job.findings? options).isSome

variable {options : Options}

theorem getLeft?_settle (job : Job) :
    (settle options job).toOption.bind Sum.getLeft? = job.findings? options := by
  rw [settle, Job.findings?]
  split
  next returned => rw [returned]; rfl
  next failed => rw [failed]; rfl
  next failed => rw [failed]; rfl

theorem getRight?_settle (job : Job) :
    (settle options job).toOption.bind Sum.getRight? = job.failure? options := by
  rw [settle, Job.failure?]
  split
  next returned => rw [returned]; rfl
  next failed => rw [failed]; rfl
  next fault unlike failed =>
    rw [failed]
    cases fault with
    | artifact error => exact absurd rfl (unlike error)
    | format | shape => rfl

theorem contained_iff {job : Job} :
    (∃ settled, settle options job = .ok settled) ↔ job.Contained options := by
  constructor
  · intro given fault failed
    rcases given with ⟨settled, returned⟩
    rw [settle, failed] at returned
    cases fault with
    | artifact error => exact ⟨error, rfl⟩
    | format | shape => cases returned
  · exact exists_settle_eq_ok

/-! ## What is gathered, by what becomes of each job -/

section

variable {finished : List Job} {settled : List (Normalized ⊕ ContractError)}

theorem filterMap_getLeft?_settled (settledOk : finished.mapM (settle options) = .ok settled) :
    settled.filterMap Sum.getLeft? = findings options finished := by
  rw [eq_filterMap_of_mapM_eq_ok settledOk, List.filterMap_filterMap, findings]
  simp only [getLeft?_settle]

theorem filterMap_getRight?_settled (settledOk : finished.mapM (settle options) = .ok settled) :
    settled.filterMap Sum.getRight? = failures options finished := by
  rw [eq_filterMap_of_mapM_eq_ok settledOk, List.filterMap_filterMap, failures]
  simp only [getRight?_settle]

end

/-- What is gathered are the findings of the jobs that are normalized and the errors of the others,
as long as every other one has an unusable artifact. -/
theorem gather_eq_ok_iff {finished : List Job} {result : RunResult} :
    gather options finished = .ok result ↔
      (∀ job ∈ finished, job.Contained options) ∧
      (∃ diagnostics,
        ((findings options finished).flatMap (·.diagnostics)).mapM withTextName =
          .ok diagnostics ∧
        result.report = .ofDiagnostics diagnostics) ∧
      sortLocationErrors ((findings options finished).flatMap (·.errors)) =
        .ok result.locationErrors ∧
      result.contractErrors = sortContractErrors (failures options finished) := by
  rw [gather_eq_ok]
  constructor
  · intro given
    rcases given with ⟨settled, diagnostics, locationErrors, settledOk, namedOk, sortedOk, rfl⟩
    rw [diagnosticsOf, filterMap_getLeft?_settled settledOk] at namedOk
    rw [errorsOf, filterMap_getLeft?_settled settledOk] at sortedOk
    refine ⟨?_, ⟨diagnostics, namedOk, rfl⟩, sortedOk, ?_⟩
    · intro job member
      exact contained_iff.mp (exists_mapM_eq_ok.mp ⟨settled, settledOk⟩ job member)
    · exact congrArg sortContractErrors (filterMap_getRight?_settled settledOk)
  · intro given
    rcases given with ⟨contained, ⟨diagnostics, namedOk, report⟩, sortedOk, errors⟩
    obtain ⟨settled, settledOk⟩ := exists_mapM_eq_ok.mpr
      fun job member => exists_settle_eq_ok (contained job member)
    refine ⟨settled, diagnostics, result.locationErrors, settledOk, ?_, ?_, ?_⟩
    · rw [diagnosticsOf, filterMap_getLeft?_settled settledOk]
      exact namedOk
    · rw [errorsOf, filterMap_getLeft?_settled settledOk]
      exact sortedOk
    · rw [filterMap_getRight?_settled settledOk, ← report, ← errors]

/-! ## The jobs that are normalized -/

theorem findings_normalizable (jobs : List Job) :
    findings options (normalizable options jobs) = findings options jobs := by
  have kept : (fun job : Job =>
      if (job.findings? options).isSome = true then job.findings? options else none) =
        fun job => job.findings? options := by
    funext job
    cases job.findings? options with
    | none => rfl
    | some normalized => rfl
  rw [findings, findings, normalizable, List.filterMap_filter, kept]

theorem failures_normalizable (jobs : List Job) :
    failures options (normalizable options jobs) = [] := by
  rw [failures, List.filterMap_eq_nil_iff]
  intro job member
  have normalized := (List.mem_filter.mp member).2
  rw [Job.findings?] at normalized
  rw [Job.failure?]
  split
  next failed =>
    rw [failed] at normalized
    cases normalized
  next => rfl

theorem contained_of_mem_normalizable {jobs : List Job} {job : Job}
    (member : job ∈ normalizable options jobs) : job.Contained options := by
  intro fault failed
  have normalized := (List.mem_filter.mp member).2
  rw [Job.findings?, failed] at normalized
  cases normalized

theorem mem_findings {jobs : List Job} {normalized : Normalized} :
    normalized ∈ findings options jobs ↔ ∃ job ∈ jobs, job.normalize options = .ok normalized := by
  simp only [findings, List.mem_filterMap, Job.findings?, toOption_eq_some]

/-! ## Other orders and other jobs -/

theorem sortLocationErrors_perm {errors sorted : List LocationError}
    (returned : sortLocationErrors errors = .ok sorted) : sorted.Perm errors := by
  rw [sortLocationErrors] at returned
  split at returned
  next => cases returned
  next =>
    cases returned
    exact List.mergeSort_perm _ _

theorem separated_of_findings {jobs : List Job} {named : List (Diagnostic String)}
    (namedOk : ((findings options jobs).flatMap (·.diagnostics)).mapM withTextName = .ok named) :
    Diagnostic.Separated named := by
  apply Diagnostic.separated_of_fatal_eq
  intro diagnostic member
  rcases (mem_of_mapM_eq_ok namedOk).mp member with ⟨source, sourceMem, sourceOk⟩
  rcases List.mem_flatMap.mp sourceMem with ⟨normalized, found, sourceMem⟩
  rcases mem_findings.mp found with ⟨job, -, returned⟩
  have fatal := (Job.settles_of_mem_diagnostics returned sourceMem).fatal_eq_false
  rw [withTextName_eq_ok.mp sourceOk] at fatal
  exact fatal

/-- Jobs with the same findings, in whatever order, make the same report and the same location
errors, up to the order of those that are equal in it. -/
theorem gather_of_findings_perm {order other : List Job} {result : RunResult}
    (contained : ∀ job ∈ other, job.Contained options)
    (perm : (findings options order).Perm (findings options other))
    (returned : gather options order = .ok result) :
    ∃ otherResult, gather options other = .ok otherResult ∧
      result.report = otherResult.report ∧
      result.locationErrors.Perm otherResult.locationErrors ∧
      otherResult.contractErrors = sortContractErrors (failures options other) := by
  rcases gather_eq_ok_iff.mp returned with ⟨-, ⟨diagnostics, namedOk, report⟩, sortedOk, -⟩
  have diagnosticsPerm := perm.flatMap_right (·.diagnostics)
  have errorsPerm := perm.flatMap_right (·.errors)
  rcases mapM_congr_mem (fun _ => diagnosticsPerm.mem_iff) namedOk with
    ⟨otherDiagnostics, otherNamedOk, same⟩
  have ordered := exists_sortLocationErrors_eq_ok.mp ⟨_, sortedOk⟩
  rw [Json.areOrdered_congr fun _ => (errorsPerm.map (·.filePath)).mem_iff] at ordered
  rcases exists_sortLocationErrors_eq_ok.mpr ordered with ⟨otherSorted, otherSortedOk⟩
  refine ⟨⟨.ofDiagnostics otherDiagnostics, otherSorted,
    sortContractErrors (failures options other)⟩, ?_, ?_, ?_, rfl⟩
  · exact gather_eq_ok_iff.mpr
      ⟨contained, ⟨otherDiagnostics, otherNamedOk, rfl⟩, otherSortedOk, rfl⟩
  · rw [report]
    exact GroupedReport.ofDiagnostics_congr (separated_of_findings namedOk) same
  · exact (sortLocationErrors_perm sortedOk).trans
      (errorsPerm.trans (sortLocationErrors_perm otherSortedOk).symm)

/-- The diagnostics in the report of a run are those of the jobs that are normalized. -/
theorem mem_report_iff {finished : List Job} {result : RunResult}
    (returned : gather options finished = .ok result) {diagnostic : Diagnostic String} :
    (∃ group ∈ result.report, diagnostic ∈ group.2.messages) ↔
      ∃ job ∈ finished, ∃ normalized, job.normalize options = .ok normalized ∧
        diagnostic.withName (.text diagnostic.filePath) ∈ normalized.diagnostics := by
  rcases gather_eq_ok_iff.mp returned with ⟨-, ⟨diagnostics, namedOk, report⟩, -, -⟩
  have listed : diagnostic ∈ diagnostics ↔
      ∃ job ∈ finished, ∃ normalized, job.normalize options = .ok normalized ∧
        diagnostic.withName (.text diagnostic.filePath) ∈ normalized.diagnostics := by
    rw [mem_of_mapM_eq_ok namedOk]
    simp only [withTextName_eq_ok, List.mem_flatMap, mem_findings]
    constructor
    · rintro ⟨_, ⟨normalized, ⟨job, jobMem, jobOk⟩, member⟩, rfl⟩
      exact ⟨job, jobMem, normalized, jobOk, member⟩
    · rintro ⟨job, jobMem, normalized, jobOk, member⟩
      exact ⟨_, ⟨normalized, ⟨job, jobMem, jobOk⟩, member⟩, rfl⟩
  rw [← listed, report]
  exact mem_messages_ofDiagnostics

/-- How the result of a run of some jobs is related to that of a run of those which are
normalized. -/
structure Isolates (options : Options) (jobs : List Job) (result alone : RunResult) : Prop where
  report_eq : result.report = alone.report
  locationErrors_perm : result.locationErrors.Perm alone.locationErrors
  /-- Every job that fails has one error, with its name and the wording of its failure. -/
  contractErrors_perm : result.contractErrors.Perm (failures options jobs)
  contractErrors_alone : alone.contractErrors = []
  /-- The diagnostics are those of the jobs that are normalized, without exception. -/
  mem_report : ∀ diagnostic : Diagnostic String,
    (∃ group ∈ result.report, diagnostic ∈ group.2.messages) ↔
      ∃ job ∈ jobs, ∃ normalized, job.normalize options = .ok normalized ∧
        diagnostic.withName (.text diagnostic.filePath) ∈ normalized.diagnostics
  /-- The location errors are those of the jobs that are normalized, as often as they occur. -/
  locationErrors_perm_findings :
    result.locationErrors.Perm ((findings options jobs).flatMap (·.errors))

theorem isolates_of_gather {jobs order other : List Job} {result alone : RunResult}
    (orderPerm : order.Perm jobs) (otherPerm : other.Perm (normalizable options jobs))
    (returned : gather options order = .ok result)
    (aloneReturned : gather options other = .ok alone) :
    Isolates options jobs result alone := by
  have otherFindings : (findings options other).Perm (findings options jobs) := by
    rw [← findings_normalizable jobs]
    exact otherPerm.filterMap _
  have contained (job : Job) (member : job ∈ other) : job.Contained options :=
    contained_of_mem_normalizable (otherPerm.mem_iff.mp member)
  rcases gather_of_findings_perm contained ((orderPerm.filterMap _).trans otherFindings.symm)
    returned with ⟨sameAlone, sameReturned, report, locationErrors, contractErrors⟩
  rw [aloneReturned] at sameReturned
  cases sameReturned
  have noFailures : failures options other = [] := by
    apply List.Perm.eq_nil
    rw [← failures_normalizable jobs]
    exact otherPerm.filterMap _
  rcases gather_eq_ok_iff.mp returned with ⟨-, -, sortedOk, errors⟩
  exact {
    report_eq := report
    locationErrors_perm := locationErrors
    contractErrors_perm := by
      rw [errors]
      exact (List.mergeSort_perm _ _).trans (orderPerm.filterMap _)
    contractErrors_alone := by
      rw [contractErrors, noFailures]
      exact List.mergeSort_nil
    mem_report := by
      intro diagnostic
      simp only [mem_report_iff returned, orderPerm.mem_iff]
    locationErrors_perm_findings :=
      (sortLocationErrors_perm sortedOk).trans ((orderPerm.filterMap _).flatMap_right _) }

/-- A contract that fails is isolated: in every schedule the run gives its error, and apart from
that what a run of the contracts that do not fail gives, in every schedule of theirs. Such a run
gives a result whenever the other one does. -/
theorem failures_isolated {jobs : List Job} {options : Options}
    (contained : ∀ job ∈ jobs, job.Contained options) {workers otherWorkers : Int}
    (positive : 0 < workers) (otherPositive : 0 < otherWorkers)
    {outcome other : Except RunError RunResult} (yielded : Yields jobs options workers outcome)
    (otherYielded : Yields (normalizable options jobs) options otherWorkers other) :
    ((∃ result, outcome = .ok result) ↔ ∃ alone, other = .ok alone) ∧
    (∀ result alone, outcome = .ok result → other = .ok alone →
      Isolates options jobs result alone) ∧
    ((∀ job ∈ normalizable options jobs, job.HasTextNames) → ∃ result, outcome = .ok result) := by
  rcases exists_perm_of_yields positive yielded with ⟨order, orderPerm, rfl⟩
  rcases exists_perm_of_yields otherPositive otherYielded with ⟨otherOrder, otherPerm, rfl⟩
  have orderContained (job : Job) (member : job ∈ order) : job.Contained options :=
    contained job (orderPerm.mem_iff.mp member)
  have otherContained (job : Job) (member : job ∈ otherOrder) : job.Contained options :=
    contained_of_mem_normalizable (otherPerm.mem_iff.mp member)
  have sameFindings : (findings options order).Perm (findings options otherOrder) := by
    apply (orderPerm.filterMap _).trans
    rw [← findings, ← findings_normalizable jobs]
    exact (otherPerm.filterMap _).symm
  simp only [mapError_eq_ok]
  have returns : (∃ result, gather options order = .ok result) ↔
      ∃ alone, gather options otherOrder = .ok alone := by
    constructor
    · intro given
      rcases given with ⟨result, returned⟩
      rcases gather_of_findings_perm otherContained sameFindings returned with ⟨alone, also, -⟩
      exact ⟨alone, also⟩
    · intro given
      rcases given with ⟨alone, returned⟩
      rcases gather_of_findings_perm orderContained sameFindings.symm returned with
        ⟨result, also, -⟩
      exact ⟨result, also⟩
  refine ⟨returns, ?_, ?_⟩
  · intro result alone returned aloneReturned
    exact isolates_of_gather orderPerm otherPerm returned aloneReturned
  · intro texts
    apply returns.mpr
    exact exists_gather_eq_ok otherContained
      fun job member => texts job (otherPerm.mem_iff.mp member)

/-- A batch with a finding and a malformed location. -/
def halfReadBatch : Batch :=
  { format := "text", sourceType := "", sourceList := [.text "v.sol"]
    issues :=
      [{ head := "Write", tail := "", severity := "High", ruleId := "SWC-124", ruleTitle := ""
         locations := [⟨.text "1:1:0", none⟩, ⟨.text "1:1", none⟩] }] }

/-- A job that fails at its second batch, after the first one had findings. -/
def halfReadJob : Job :=
  { abstractJob with batches := halfReadBatch :: abstractJob.batches }

/-- The findings of the first batch of the job that fails are not in the result. -/
theorem failures_isolated_halfRead :
    ∃ result alone, run [halfReadJob, vaultJob] .default 2 = .ok result ∧
      run [vaultJob] .default 1 = .ok alone ∧
      Isolates .default [halfReadJob, vaultJob] result alone ∧
      failures .default [halfReadJob, vaultJob] =
        [⟨"Vault", "Artifact has no deployed bytecode (contract=Vault)"⟩] ∧
      ((Contract.ofSources halfReadJob.artifact halfReadJob.sources).normalize .default
          halfReadBatch).map (fun found => (found.diagnostics.length, found.errors.length)) =
        .ok (1, 1) := by
  have stopped : halfReadJob.normalize .default = .error (.artifact (.noBytecode "Vault")) := rfl
  have contained (job : Job) (member : job ∈ [halfReadJob, vaultJob]) :
      job.Contained .default := by
    rw [List.mem_cons, List.mem_singleton] at member
    rcases member with rfl | rfl
    · intro fault failed
      rw [stopped] at failed
      cases failed
      exact ⟨_, rfl⟩
    · exact vaultJob_usable.1
  have kept : normalizable .default [halfReadJob, vaultJob] = [vaultJob] := rfl
  have aloneYielded : Yields (normalizable .default [halfReadJob, vaultJob]) .default 1
      (run [vaultJob] .default 1) := by
    rw [kept]
    exact yields_run _ _ _
  rcases failures_isolated contained (by decide) (by decide)
    (yields_run [halfReadJob, vaultJob] .default 2) aloneYielded with ⟨returns, isolates, exist⟩
  have texts (job : Job) (member : job ∈ normalizable .default [halfReadJob, vaultJob]) :
      job.HasTextNames := by
    rw [kept] at member
    rw [List.mem_singleton.mp member]
    exact vaultJob_usable.2
  rcases exist texts with ⟨result, returned⟩
  rcases returns.mp ⟨result, returned⟩ with ⟨alone, aloneReturned⟩
  exact ⟨result, alone, returned, aloneReturned, isolates _ _ returned aloneReturned, rfl, rfl⟩

end Run

end Pinpoint
