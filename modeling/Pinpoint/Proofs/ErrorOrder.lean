import Pinpoint.Cli.Command
import Pinpoint.Proofs.ErrorKeys

/-!
# The order of errors

The errors of a run are collected as its jobs are done, and sorted then. The order in which the
jobs were done still shows wherever two errors differ in nothing but the message, and it shows
nowhere else: neither in which errors there are, nor in what the errors at one position are about.
-/

namespace Pinpoint

namespace Run

/-! ## The results of a run -/

/-- How any two results of a run are related: they have the same report and the same errors, and
the errors at the same position of the two differ at most in the message. -/
structure Matches (first second : RunResult) : Prop where
  report_eq : first.report = second.report
  contractErrors_perm : first.contractErrors.Perm second.contractErrors
  contractNames_eq :
    first.contractErrors.map (·.contractName) = second.contractErrors.map (·.contractName)
  locationErrors_perm : first.locationErrors.Perm second.locationErrors
  keys_eq : first.locationErrors.map (·.key) = second.locationErrors.map (·.key)

section

variable {options : Options} {jobs : List Job} {workers : Int} {first second : RunResult}

theorem yields_ok_iff (positive : 0 < workers) :
    Yields jobs options workers (.ok first) ↔
      ∃ order, order.Perm jobs ∧ gather options order = .ok first := by
  constructor
  · intro yielded
    rcases exists_perm_of_yields positive yielded with ⟨order, perm, equal⟩
    exact ⟨order, perm, mapError_eq_ok.mp equal.symm⟩
  · rintro ⟨order, perm, returned⟩
    have completes := (Pool.completes_iff_perm (Int.lt_toNat.mpr positive)).mpr perm
    have yielded : Yields jobs options workers ((gather options order).mapError .fault) :=
      .gathered positive completes
    rwa [mapError_eq_ok.mpr returned] at yielded

theorem isText_of_hasTextNames (usable : ∀ job ∈ jobs, job.Contained options ∧ job.HasTextNames) :
    ∀ job ∈ jobs, ∀ error ∈ job.locationErrors options, error.filePath.IsText := by
  intro job jobMem error member
  rcases Job.mem_locationErrors.mp member with ⟨normalized, returned, member⟩
  exact (Job.settles_of_mem_errors returned member).isText_filePath_error (usable job jobMem).2

theorem exists_gather_of_perm (usable : ∀ job ∈ jobs, job.Contained options ∧ job.HasTextNames)
    {order : List Job} (perm : order.Perm jobs) : ∃ result, gather options order = .ok result :=
  exists_gather_eq_ok (fun job member => (usable job (perm.mem_iff.mp member)).1)
    fun job member => (usable job (perm.mem_iff.mp member)).2

/-- What is gathered in two orders of the same jobs matches. -/
theorem matches_of_gather {order other : List Job}
    (texts : ∀ job ∈ order, ∀ error ∈ job.locationErrors options, error.filePath.IsText)
    (perm : order.Perm other) (returned : gather options order = .ok first)
    (otherReturned : gather options other = .ok second) : Matches first second := by
  rcases gather_congr (fun _ => perm.mem_iff) returned with ⟨same, sameReturned, report⟩
  cases otherReturned.symm.trans sameReturned
  rcases gather_eq_ok_iff.mp returned with ⟨-, -, sorted, failed⟩
  rcases gather_eq_ok_iff.mp otherReturned with ⟨-, -, otherSorted, otherFailed⟩
  have failuresPerm : (failures options order).Perm (failures options other) := perm.filterMap _
  have errorsPerm : (order.flatMap (·.locationErrors options)).Perm
      (other.flatMap (·.locationErrors options)) := perm.flatMap_right _
  rw [sortLocationErrors_findings texts] at sorted
  rw [sortLocationErrors_findings fun job member => texts job (perm.mem_iff.mpr member)]
    at otherSorted
  exact {
    report_eq := report.symm
    contractErrors_perm := by
      rw [failed, otherFailed]
      exact (List.mergeSort_perm _ _).trans (failuresPerm.trans (List.mergeSort_perm _ _).symm)
    contractNames_eq := by
      rw [failed, otherFailed, sortContractErrors_eq, sortContractErrors_eq]
      exact map_key_mergeSort_congr nameLe_trans nameLe_total nameLe_antisymm _ failuresPerm
    locationErrors_perm := by
      rw [← Except.ok.inj sorted, ← Except.ok.inj otherSorted]
      exact (List.mergeSort_perm _ _).trans (errorsPerm.trans (List.mergeSort_perm _ _).symm)
    keys_eq := by
      rw [← Except.ok.inj sorted, ← Except.ok.inj otherSorted]
      exact map_key_mergeSort_congr keyLe_trans keyLe_total keyLe_antisymm _ errorsPerm }

theorem contractErrors_unique_iff (positive : 0 < workers)
    (usable : ∀ job ∈ jobs, job.Contained options ∧ job.HasTextNames) :
    (∀ first second, Yields jobs options workers (.ok first) →
      Yields jobs options workers (.ok second) →
        first.contractErrors = second.contractErrors) ↔ NamesFailures options jobs := by
  rw [← sortContractErrors_unique_iff]
  simp only [yields_ok_iff positive]
  constructor
  · intro same order other orderPerm otherPerm
    rcases exists_gather_of_perm usable orderPerm with ⟨first, returned⟩
    rcases exists_gather_of_perm usable otherPerm with ⟨second, otherReturned⟩
    rw [← (gather_eq_ok_iff.mp returned).2.2.2, ← (gather_eq_ok_iff.mp otherReturned).2.2.2]
    exact same first second ⟨order, orderPerm, returned⟩ ⟨other, otherPerm, otherReturned⟩
  · rintro same first second ⟨order, orderPerm, returned⟩ ⟨other, otherPerm, otherReturned⟩
    rw [(gather_eq_ok_iff.mp returned).2.2.2, (gather_eq_ok_iff.mp otherReturned).2.2.2]
    exact same order other orderPerm otherPerm

theorem locationErrors_unique_iff (positive : 0 < workers)
    (usable : ∀ job ∈ jobs, job.Contained options ∧ job.HasTextNames) :
    (∀ first second, Yields jobs options workers (.ok first) →
      Yields jobs options workers (.ok second) →
        first.locationErrors = second.locationErrors) ↔ ExchangesErrors options jobs := by
  rw [← sortLocationErrors_unique_iff (isText_of_hasTextNames usable)]
  simp only [yields_ok_iff positive]
  constructor
  · intro same order other orderPerm otherPerm
    rcases exists_gather_of_perm usable orderPerm with ⟨first, returned⟩
    rcases exists_gather_of_perm usable otherPerm with ⟨second, otherReturned⟩
    rw [(gather_eq_ok_iff.mp returned).2.2.1, (gather_eq_ok_iff.mp otherReturned).2.2.1,
      same first second ⟨order, orderPerm, returned⟩ ⟨other, otherPerm, otherReturned⟩]
  · rintro same first second ⟨order, orderPerm, returned⟩ ⟨other, otherPerm, otherReturned⟩
    have equal := same order other orderPerm otherPerm
    rw [(gather_eq_ok_iff.mp returned).2.2.1, (gather_eq_ok_iff.mp otherReturned).2.2.1] at equal
    exact Except.ok.inj equal

/-- Which errors a run of usable jobs has, and where, does not depend on the order in which the
jobs are done, up to the messages of errors that are sorted alike. The errors of contracts are the
same in every order exactly when failures of the same name are the same, and those of locations
exactly when those of any two jobs can be exchanged, as they can be without mistakable locations.
Then the whole output is the same. -/
theorem errors_unique_iff (options : Options) {jobs : List Job} {workers : Int}
    (positive : 0 < workers)
    (usable : ∀ job ∈ jobs, job.Contained options ∧ job.HasTextNames) :
    (∀ outcome, Yields jobs options workers outcome → ∃ result, outcome = .ok result) ∧
    (∀ first second, Yields jobs options workers (.ok first) →
      Yields jobs options workers (.ok second) → Matches first second) ∧
    ((∀ first second, Yields jobs options workers (.ok first) →
      Yields jobs options workers (.ok second) →
        first.contractErrors = second.contractErrors) ↔ NamesFailures options jobs) ∧
    ((∀ first second, Yields jobs options workers (.ok first) →
      Yields jobs options workers (.ok second) →
        first.locationErrors = second.locationErrors) ↔ ExchangesErrors options jobs) ∧
    (NamesFailures options jobs → ExchangesErrors options jobs →
      ∀ first second, Yields jobs options workers (.ok first) →
        Yields jobs options workers (.ok second) →
          ∀ style, Cli.Output.ofResult style first = Cli.Output.ofResult style second) ∧
    ((∀ job ∈ jobs, ∀ batch ∈ job.batches, ∀ place ∈ batch.places,
      ¬place.location.IsMistakable) → ExchangesErrors options jobs) := by
  have texts := isText_of_hasTextNames usable
  have agree (first second : RunResult) (yielded : Yields jobs options workers (.ok first))
      (otherYielded : Yields jobs options workers (.ok second)) : Matches first second := by
    rcases (yields_ok_iff positive).mp yielded with ⟨order, perm, returned⟩
    rcases (yields_ok_iff positive).mp otherYielded with ⟨other, otherPerm, otherReturned⟩
    exact matches_of_gather (fun job member => texts job (perm.mem_iff.mp member))
      (perm.trans otherPerm.symm) returned otherReturned
  have contracts := contractErrors_unique_iff positive usable
  have locations := locationErrors_unique_iff positive usable
  refine ⟨?_, agree, contracts, locations, ?_, exchangesErrors_of_clear texts⟩
  · intro outcome yielded
    rcases exists_perm_of_yields positive yielded with ⟨order, perm, rfl⟩
    rcases exists_gather_of_perm usable perm with ⟨result, returned⟩
    exact ⟨result, mapError_eq_ok.mpr returned⟩
  · intro named exchange first second yielded otherYielded style
    have report := (agree first second yielded otherYielded).report_eq
    have contractErrors := contracts.mpr named first second yielded otherYielded
    have locationErrors := locations.mpr exchange first second yielded otherYielded
    cases first
    cases second
    simp only at report contractErrors locationErrors
    rw [report, contractErrors, locationErrors]

end

/-- A job with a location that has no address. -/
def strayJob (sourceMap : Json) : Job :=
  { vaultJob with
    batches :=
      [{ format := "text", sourceType := "", sourceList := [.text "v.sol"]
         issues :=
          [{ head := "Call", tail := "", severity := "Low", ruleId := "SWC-107", ruleTitle := ""
             locations := [⟨sourceMap, none⟩] }] }] }

theorem hasTextNames_strayJob (sourceMap : Json) : (strayJob sourceMap).HasTextNames := by
  intro batch batchMem name nameMem
  rw [List.mem_singleton.mp batchMem] at nameMem
  exact ⟨"v.sol", List.mem_singleton.mp nameMem⟩

/-- A contract without bytecode and a malformed location that cannot be mistaken have the same
errors, and the whole output is the same, whichever job is done first. -/
theorem errors_unique_iff_stray :
    ∃ first second, Yields [abstractJob, strayJob (.text "0:1")] .default 1 (.ok first) ∧
      Yields [abstractJob, strayJob (.text "0:1")] .default 1 (.ok second) ∧
      gather .default [strayJob (.text "0:1"), abstractJob] = .ok second ∧
      Matches first second ∧
      ∀ style, Cli.Output.ofResult style first = Cli.Output.ofResult style second := by
  have strayUsable : (strayJob (.text "0:1")).Contained .default ∧
      (strayJob (.text "0:1")).HasTextNames :=
    ⟨contained_iff.mp ⟨_, rfl⟩, hasTextNames_strayJob _⟩
  have usable : ∀ job ∈ [abstractJob, strayJob (.text "0:1")],
      job.Contained .default ∧ job.HasTextNames := by
    simpa using ⟨abstractJob_usable, strayUsable⟩
  have positive : (0 : Int) < 1 := by decide
  rcases errors_unique_iff .default positive usable with
    ⟨-, agree, -, -, unique, clear⟩
  have swapped : [strayJob (.text "0:1"), abstractJob].Perm [abstractJob, strayJob (.text "0:1")] :=
    .swap _ _ _
  rcases exists_gather_of_perm usable (.refl _) with ⟨first, returned⟩
  rcases exists_gather_of_perm usable swapped with ⟨second, otherReturned⟩
  have yielded := (yields_ok_iff positive).mpr ⟨_, .refl _, returned⟩
  have otherYielded := (yields_ok_iff positive).mpr ⟨_, swapped, otherReturned⟩
  have named : NamesFailures .default [abstractJob, strayJob (.text "0:1")] := by
    have sole : failures .default [abstractJob, strayJob (.text "0:1")] =
        [⟨"Vault", (ArtifactError.noBytecode "Vault").message⟩] := rfl
    rw [NamesFailures, sole]
    simp
  refine ⟨first, second, yielded, otherYielded, otherReturned,
    agree _ _ yielded otherYielded, unique named (clear ?_) _ _ yielded otherYielded⟩
  have absent : ¬Location.IsMistakable ⟨.null, some 0⟩ := by
    rintro ⟨text, written, -⟩
    cases written
  have stray : ¬Location.IsMistakable ⟨.text "0:1", none⟩ :=
    Location.not_isMistakable_of_colon rfl (by decide)
  simpa [abstractJob, strayJob, Batch.places] using ⟨absent, stray⟩

/-! ## Errors that differ in the message -/

/-- What is gathered when there are no diagnostics and the errors are in order. -/
theorem gather_of_sorted {options : Options} {order : List Job} {errors : List LocationError}
    {failed : List ContractError}
    (usable : ∀ job ∈ order, job.Contained options ∧ job.HasTextNames)
    (noDiagnostics : (findings options order).flatMap (·.diagnostics) = [])
    (errorsEq : (findings options order).flatMap (·.errors) = errors)
    (failedEq : failures options order = failed)
    (errorsSorted : errors.Pairwise fun first second => keyLe first.key second.key = true)
    (failedSorted : failed.Pairwise fun first second =>
      nameLe first.contractName second.contractName = true) :
    gather options order = .ok ⟨.ofDiagnostics [], errors, failed⟩ := by
  apply gather_eq_ok_iff.mpr
  refine ⟨fun job member => (usable job member).1, ⟨[], ?_, rfl⟩, ?_, ?_⟩
  · rw [noDiagnostics]
    rfl
  · rw [sortLocationErrors_findings (isText_of_hasTextNames usable), ← errors_findings, errorsEq,
      List.mergeSort_of_pairwise errorsSorted]
  · rw [failedEq, sortContractErrors_eq, List.mergeSort_of_pairwise failedSorted]

/-- A job whose bytecode cannot be decoded. -/
def undecodedJob : Job :=
  { abstractJob with artifact := { abstractJob.artifact with deployedBytecode := "zz" } }

/-- Two contracts of one name that fail in different ways, and two locations that are shown alike
and are malformed in different ways. -/
def tiedJobs : List Job :=
  [undecodedJob, abstractJob, strayJob (.text "None"), strayJob .null]

theorem tiedJobs_usable : ∀ job ∈ tiedJobs, job.Contained .default ∧ job.HasTextNames := by
  have undecoded : undecodedJob.Contained .default :=
    contained_iff.mp ⟨_, by with_unfolding_all rfl⟩
  have written : (strayJob (.text "None")).Contained .default := contained_iff.mp ⟨_, rfl⟩
  have absent : (strayJob .null).Contained .default := contained_iff.mp ⟨_, rfl⟩
  simp only [tiedJobs, List.forall_mem_cons, List.not_mem_nil, false_implies, implies_true,
    and_true]
  exact ⟨⟨undecoded, abstractJob_usable.2⟩, abstractJob_usable,
    ⟨written, hasTextNames_strayJob _⟩, ⟨absent, hasTextNames_strayJob _⟩⟩

/-- The location error of a stray job. -/
def strayError (text : String) : LocationError :=
  { filePath := .text "v.sol", ruleId := "SWC-107", location := "None"
    message := (FormatError.tooFewFields text).message }

/-- The error of a job that fails. -/
def vaultError (error : ArtifactError) : ContractError :=
  { contractName := "Vault", message := error.message }

/-- Jobs that are done in another order have the same errors in another order, in the lists and in
the text that is written for them. -/
theorem errors_differ_tied :
    ∃ first second, Yields tiedJobs .default 1 (.ok first) ∧
      Yields tiedJobs .default 1 (.ok second) ∧
      first.contractErrors ≠ second.contractErrors ∧
      first.locationErrors ≠ second.locationErrors ∧
      ∀ style, (Cli.Output.ofResult style first).map (·.standardError) ≠
        (Cli.Output.ofResult style second).map (·.standardError) := by
  have swapped : [abstractJob, undecodedJob, strayJob .null, strayJob (.text "None")].Perm
      tiedJobs := (List.Perm.swap _ _ _).trans (((List.Perm.swap _ _ _).cons _).cons _)
  have returned : gather .default tiedJobs =
      .ok ⟨.ofDiagnostics [], [strayError "None", strayError ""],
        [vaultError (.badBytecode "Vault"), vaultError (.noBytecode "Vault")]⟩ :=
    gather_of_sorted tiedJobs_usable (by with_unfolding_all rfl) (by with_unfolding_all rfl)
      (by with_unfolding_all rfl) (by simp; decide) (by simp; decide)
  have otherReturned :
      gather .default [abstractJob, undecodedJob, strayJob .null, strayJob (.text "None")] =
        .ok ⟨.ofDiagnostics [], [strayError "", strayError "None"],
          [vaultError (.noBytecode "Vault"), vaultError (.badBytecode "Vault")]⟩ :=
    gather_of_sorted (fun job member => tiedJobs_usable job (swapped.mem_iff.mp member))
      (by with_unfolding_all rfl) (by with_unfolding_all rfl) (by with_unfolding_all rfl)
      (by simp; decide) (by simp; decide)
  refine ⟨_, _, (yields_ok_iff (by decide)).mpr ⟨_, .refl _, returned⟩,
    (yields_ok_iff (by decide)).mpr ⟨_, swapped, otherReturned⟩, ?_, ?_, ?_⟩
  · decide
  · intro same
    have messages := congrArg (List.map (·.message)) same
    exact absurd messages (by decide +kernel)
  · intro style
    have rendered : ∃ text, style.render (.ofDiagnostics []) = .ok text := by
      have nothing : GroupedReport.ofDiagnostics [] = [] := by
        rw [ofDiagnostics_eq_map]
        simp [FileReport.ofDiagnostics, Text.sortedNames]
      rw [nothing]
      cases style <;> exact ⟨_, rfl⟩
    rcases rendered with ⟨text, rendered⟩
    simp only [Cli.Output.ofResult, rendered, Except.map, ne_eq, Except.ok.injEq]
    decide +kernel

end Run

end Pinpoint
