import Mathlib.Logic.Relation
import Pinpoint.Proofs.Gathering

/-!
# The schedule of a run

A run hands its jobs to a pool of workers and gathers what they give as they are done. The workers
take up the jobs in the order of the list, each of them one job at a time; when a job is done, and
which of the jobs that are done is gathered next, is left open. A run may therefore give as many
results as there are schedules. All of them have the same report, which depends on which jobs there
are and on nothing else.
-/

namespace Pinpoint

/-- The jobs of a run by how far they have come. -/
structure Pool where
  waiting : List Job
  running : List Job
  done : List Job
  /-- The jobs that were gathered, in this order. -/
  gathered : List Job

namespace Pool

/-- What can happen next in a pool of workers. -/
inductive Step (workers : Nat) : Pool → Pool → Prop where
  | start {job : Job} {waiting running done gathered : List Job} :
      running.length < workers →
      Step workers ⟨job :: waiting, running, done, gathered⟩
        ⟨waiting, job :: running, done, gathered⟩
  | finish {job : Job} {waiting before after done gathered : List Job} :
      Step workers ⟨waiting, before ++ job :: after, done, gathered⟩
        ⟨waiting, before ++ after, job :: done, gathered⟩
  | gather {job : Job} {waiting running before after gathered : List Job} :
      Step workers ⟨waiting, running, before ++ job :: after, gathered⟩
        ⟨waiting, running, before ++ after, gathered ++ [job]⟩

/-- Whether a pool of workers can gather its jobs in an order, with none of them left. -/
def Completes (workers : Nat) (jobs order : List Job) : Prop :=
  Relation.ReflTransGen (Step workers) ⟨jobs, [], [], []⟩ ⟨[], [], [], order⟩

/-- All jobs of a pool. -/
def jobs (pool : Pool) : List Job :=
  pool.waiting ++ pool.running ++ pool.done ++ pool.gathered

/-- Taking a job out of one place and putting it into another one keeps all jobs. -/
theorem move_perm {job : Job} {held before after rest added : List Job}
    (moved : added.Perm (job :: rest)) :
    (held ++ (before ++ after) ++ added).Perm (held ++ (before ++ job :: after) ++ rest) := by
  have taken : (held ++ (before ++ job :: after)).Perm (job :: (held ++ (before ++ after))) := by
    rw [← List.append_assoc, ← List.append_assoc]
    exact List.perm_middle
  apply (moved.append_left _).trans
  apply List.perm_middle.trans
  exact taken.symm.append_right rest

/-- A step moves one job on and keeps the others. -/
theorem Step.jobs_perm {workers : Nat} {pool next : Pool} (step : Step workers pool next) :
    next.jobs.Perm pool.jobs := by
  simp only [jobs]
  cases step with
  | start =>
      apply List.Perm.append_right
      apply List.Perm.append_right
      exact List.perm_middle
  | finish =>
      apply List.Perm.append_right
      exact move_perm (.refl _)
  | gather => exact move_perm (List.perm_append_singleton _ _)

/-- Every job is somewhere in the pool as often as it was given, however long the pool works. -/
theorem jobs_perm_of_steps {workers : Nat} {before after : Pool}
    (steps : Relation.ReflTransGen (Step workers) before after) :
    after.jobs.Perm before.jobs := by
  induction steps with
  | refl => exact .refl _
  | tail _ step ih => exact step.jobs_perm.trans ih

/-- The jobs can be done one after the other before any of them is gathered. -/
theorem steps_to_done {workers : Nat} (positive : 0 < workers) (waiting done : List Job) :
    Relation.ReflTransGen (Step workers) ⟨waiting, [], done, []⟩
      ⟨[], [], waiting.reverse ++ done, []⟩ := by
  induction waiting generalizing done with
  | nil => exact .refl
  | cons job waiting ih =>
      have started : Step workers ⟨job :: waiting, [], done, []⟩ ⟨waiting, [job], done, []⟩ :=
        .start positive
      have finished : Step workers ⟨waiting, [] ++ job :: [], done, []⟩
          ⟨waiting, [] ++ [], job :: done, []⟩ := .finish
      rw [List.reverse_cons, List.append_assoc, List.singleton_append]
      exact .head started (.head finished (ih (job :: done)))

/-- Jobs that are done can be gathered in any order. -/
theorem steps_to_gathered {workers : Nat} {done order : List Job} (perm : order.Perm done)
    (gathered : List Job) :
    Relation.ReflTransGen (Step workers) ⟨[], [], done, gathered⟩
      ⟨[], [], [], gathered ++ order⟩ := by
  induction order generalizing done gathered with
  | nil =>
      rw [List.nil_perm.mp perm, List.append_nil]
  | cons job order ih =>
      obtain ⟨before, after, rfl⟩ := List.append_of_mem (perm.mem_iff.mp List.mem_cons_self)
      have others : order.Perm (before ++ after) := (perm.trans List.perm_middle).cons_inv
      have taken : Step workers ⟨[], [], before ++ job :: after, gathered⟩
          ⟨[], [], before ++ after, gathered ++ [job]⟩ := .gather
      have rest := ih others (gathered ++ [job])
      rw [List.append_assoc, List.singleton_append] at rest
      exact .head taken rest

/-- The schedules of a pool are all orders of its jobs, whatever the number of workers. -/
theorem completes_iff_perm {workers : Nat} (positive : 0 < workers) {jobs order : List Job} :
    Completes workers jobs order ↔ order.Perm jobs := by
  constructor
  · intro completes
    have perm := jobs_perm_of_steps completes
    simp only [Pool.jobs, List.append_nil, List.nil_append] at perm
    exact perm
  · intro perm
    have done := steps_to_done positive jobs []
    rw [List.append_nil] at done
    exact done.trans (steps_to_gathered (perm.trans (List.reverse_perm jobs).symm) [])

end Pool

/-! ## The results of a run -/

namespace Run

/-- What a run of some jobs can give: without workers a refusal, and else what it gathers in an
order that the workers allow. -/
inductive Yields (jobs : List Job) (options : Options) (workers : Int) :
    Except RunError RunResult → Prop where
  | refused : workers ≤ 0 → Yields jobs options workers (.error .noWorkers)
  | gathered {order : List Job} :
      0 < workers → Pool.Completes workers.toNat jobs order →
      Yields jobs options workers ((gather options order).mapError .fault)

/-- A run in which the jobs are gathered in the order of the list is one of those that can be. -/
theorem yields_run (jobs : List Job) (options : Options) (workers : Int) :
    Yields jobs options workers (run jobs options workers) := by
  rw [run]
  split
  next none => exact .refused none
  next some =>
    have positive : 0 < workers := Int.not_le.mp some
    apply Yields.gathered positive
    exact (Pool.completes_iff_perm (Int.lt_toNat.mpr positive)).mpr (.refl jobs)

/-- What a run gives with workers is gathered from its jobs in some order. -/
theorem exists_perm_of_yields {jobs : List Job} {options : Options} {workers : Int}
    {outcome : Except RunError RunResult} (positive : 0 < workers)
    (yielded : Yields jobs options workers outcome) :
    ∃ order, order.Perm jobs ∧ outcome = (gather options order).mapError .fault := by
  cases yielded with
  | refused none => exact absurd positive (Int.not_lt.mpr none)
  | @gathered order _ completes =>
      exact ⟨order, (Pool.completes_iff_perm (Int.lt_toNat.mpr positive)).mp completes, rfl⟩

/-- Gathering the same jobs gives the same report or none, however they are arranged and
repeated. -/
theorem report?_gather_congr {options : Options} {order other : List Job}
    (same : ∀ job, job ∈ order ↔ job ∈ other) :
    (gather options order).toOption.map (·.report) =
      (gather options other).toOption.map (·.report) := by
  cases returned : gather options order with
  | ok result =>
      obtain ⟨otherResult, otherReturned, equal⟩ := gather_congr same returned
      rw [otherReturned]
      exact congrArg some equal.symm
  | error fault =>
      cases otherReturned : gather options other with
      | ok otherResult =>
          obtain ⟨result, impossible, -⟩ :=
            gather_congr (fun job => (same job).symm) otherReturned
          rw [returned] at impossible
          cases impossible
      | error => rfl

/-- The report of a run depends only on which jobs there are: neither on the schedule and the
number of workers, nor on the order of the jobs, nor on how often each of them is given. Jobs that
are contained, with texts for names, always make one. -/
theorem report_unique (options : Options) {jobs others : List Job}
    (same : ∀ job, job ∈ jobs ↔ job ∈ others) {workers otherWorkers : Int}
    (positive : 0 < workers) (otherPositive : 0 < otherWorkers)
    {outcome other : Except RunError RunResult} (yielded : Yields jobs options workers outcome)
    (otherYielded : Yields others options otherWorkers other) :
    outcome.toOption.map (·.report) = other.toOption.map (·.report) ∧
    ((∀ job ∈ jobs, job.Contained options ∧ job.HasTextNames) →
      ∃ result, outcome = .ok result) := by
  obtain ⟨order, perm, rfl⟩ := exists_perm_of_yields positive yielded
  obtain ⟨otherOrder, otherPerm, rfl⟩ := exists_perm_of_yields otherPositive otherYielded
  constructor
  · rw [toOption_mapError, toOption_mapError]
    apply report?_gather_congr
    intro job
    rw [perm.mem_iff, otherPerm.mem_iff]
    exact same job
  · intro usable
    obtain ⟨result, returned⟩ := exists_gather_eq_ok
      (fun job member => (usable job (perm.mem_iff.mp member)).1)
      (fun job member => (usable job (perm.mem_iff.mp member)).2)
    exact ⟨result, mapError_eq_ok.mpr returned⟩

/-- A job with a finding. -/
def vaultJob : Job :=
  { artifact :=
      { contractName := "Vault", sourcePath := "v.sol", deployedBytecode := "", sourceMap := ""
        deployedSourceMap := "", sourceList := [], ast := .null }
    batches :=
      [{ format := "text", sourceType := "", sourceList := [.text "v.sol"]
         issues :=
          [{ head := "Write", tail := "", severity := "High", ruleId := "SWC-124", ruleTitle := ""
             locations := [⟨.text "0:1:0", none⟩] }] }]
    sources := [("v.sol", [0x61, 0x0A])] }

/-- A job whose artifact has no bytecode to look its location up in. -/
def abstractJob : Job :=
  { vaultJob with
    batches :=
      [{ format := bytecodeFormat, sourceType := "", sourceList := [.text "v.sol"]
         issues :=
          [{ head := "Call", tail := "", severity := "Low", ruleId := "SWC-107", ruleTitle := ""
             locations := [⟨.null, some 0⟩] }] }] }

theorem vaultJob_usable : vaultJob.Contained .default ∧ vaultJob.HasTextNames := by
  have counted : (vaultJob.normalize .default).map (·.diagnostics.length) = .ok 1 := rfl
  obtain ⟨normalized, returned, -⟩ := map_eq_ok.mp counted
  constructor
  · intro fault failed
    rw [returned] at failed
    cases failed
  · intro batch batchMem name nameMem
    rw [List.mem_singleton.mp batchMem] at nameMem
    exact ⟨"v.sol", List.mem_singleton.mp nameMem⟩

theorem abstractJob_usable : abstractJob.Contained .default ∧ abstractJob.HasTextNames := by
  have stopped : abstractJob.normalize .default = .error (.artifact (.noBytecode "Vault")) := rfl
  constructor
  · intro fault failed
    rw [stopped] at failed
    cases failed
    exact ⟨_, rfl⟩
  · intro batch batchMem name nameMem
    rw [List.mem_singleton.mp batchMem] at nameMem
    exact ⟨"v.sol", List.mem_singleton.mp nameMem⟩

/-- Two jobs gathered in the order of the list, and both of them with one repeated, gathered in
another order. -/
theorem report_unique_repeated :
    ∃ result other, run [vaultJob, abstractJob] .default 2 = .ok result ∧
      Yields [vaultJob, abstractJob, vaultJob] .default 1 (.ok other) ∧
      gather .default [abstractJob, vaultJob, vaultJob] = .ok other ∧
      result.report = other.report := by
  have same (job : Job) :
      job ∈ [vaultJob, abstractJob] ↔ job ∈ [vaultJob, abstractJob, vaultJob] := by
    simp only [List.mem_cons, List.not_mem_nil]
    grind
  have usable (job : Job) (member : job ∈ [vaultJob, abstractJob]) :
      job.Contained .default ∧ job.HasTextNames := by
    rw [List.mem_cons, List.mem_singleton] at member
    rcases member with rfl | rfl
    · exact vaultJob_usable
    · exact abstractJob_usable
  have yielded := yields_run [vaultJob, abstractJob] .default 2
  have swapped : Yields [vaultJob, abstractJob, vaultJob] .default 1
      ((gather .default [abstractJob, vaultJob, vaultJob]).mapError .fault) :=
    .gathered (by decide) ((Pool.completes_iff_perm (by decide)).mpr (.swap _ _ _))
  obtain ⟨equal, exist⟩ := report_unique .default same (by decide) (by decide) yielded swapped
  obtain ⟨result, returned⟩ := exist usable
  rw [returned] at equal
  cases otherReturned : gather .default [abstractJob, vaultJob, vaultJob] with
  | ok other =>
      rw [otherReturned] at equal swapped
      exact ⟨result, other, returned, swapped, rfl, Option.some.inj equal⟩
  | error fault =>
      rw [otherReturned] at equal
      cases equal

end Run

end Pinpoint
