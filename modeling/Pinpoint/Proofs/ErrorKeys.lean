import Pinpoint.Proofs.Isolation
import Pinpoint.Proofs.Numerals
import Pinpoint.Proofs.StableSort

/-!
# The keys of errors

The errors of a run are sorted by a part of what they say: those of contracts by the name of the
contract, and those of locations by file, rule and location. The message has no part in it. So two
orders of the jobs give the same lists exactly when the errors with the same key can be exchanged,
which in the case of locations may fail only where one is shown as the text of another one.
-/

namespace Pinpoint

/-! ## What errors are sorted by -/

/-- What a location error is sorted by: the file, the rule and the location. -/
def LocationError.key (error : LocationError) : String × String × String :=
  (error.filePath.display, error.ruleId, error.location)

/-- The order of the keys of location errors: by file, then by rule, then by location. -/
def keyOrder : String × String × String → String × String × String → Ordering :=
  compareLex (compareOn (·.1)) (compareLex (compareOn (·.2.1)) (compareOn (·.2.2)))

instance : Std.TransCmp keyOrder := by
  rw [keyOrder]
  infer_instance

theorem eq_of_keyOrder_eq {first second : String × String × String}
    (same : keyOrder first second = .eq) : first = second := by
  simp only [keyOrder, compareLex_eq_eq, compareOn, Std.LawfulEqCmp.compare_eq_iff_eq] at same
  exact Prod.ext same.1 (Prod.ext same.2.1 same.2.2)

/-- Whether a key does not come after another one. -/
def keyLe (first second : String × String × String) : Bool :=
  (keyOrder first second).isLE

theorem keyLe_trans (first second third : String × String × String)
    (left : keyLe first second = true) (right : keyLe second third = true) :
    keyLe first third = true :=
  Std.TransCmp.isLE_trans left right

theorem keyLe_total (first second : String × String × String) :
    (keyLe first second || keyLe second first) = true := by
  rw [Bool.or_eq_true]
  by_cases before : keyLe first second = true
  · exact .inl before
  · right
    apply Std.OrientedCmp.isLE_of_isGE
    rw [keyLe] at before
    cases compared : keyOrder first second with
    | lt | eq => exact absurd (by rw [compared]; rfl) before
    | gt => rfl

theorem keyLe_antisymm (first second : String × String × String)
    (left : keyLe first second = true) (right : keyLe second first = true) : first = second :=
  eq_of_keyOrder_eq (Std.OrientedCmp.isLE_antisymm left right)

/-- Whether a name does not come after another one. -/
def nameLe (first second : String) : Bool :=
  decide (first ≤ second)

theorem nameLe_trans (first second third : String) (left : nameLe first second = true)
    (right : nameLe second third = true) : nameLe first third = true :=
  decide_eq_true (String.le_trans (of_decide_eq_true left) (of_decide_eq_true right))

theorem nameLe_total (first second : String) :
    (nameLe first second || nameLe second first) = true := by
  rw [Bool.or_eq_true]
  exact (String.le_total first second).imp decide_eq_true decide_eq_true

theorem nameLe_antisymm (first second : String) (left : nameLe first second = true)
    (right : nameLe second first = true) : first = second :=
  String.le_antisymm (of_decide_eq_true left) (of_decide_eq_true right)

namespace Run

theorem sortContractErrors_eq (errors : List ContractError) :
    sortContractErrors errors = errors.mergeSort fun first second =>
      nameLe first.contractName second.contractName :=
  rfl

theorem locationErrorOrder_isLE {first second : LocationError} (firstText : first.filePath.IsText)
    (secondText : second.filePath.IsText) :
    (locationErrorOrder first second).isLE = keyLe first.key second.key := by
  rcases firstText with ⟨firstPath, firstPathEq⟩
  rcases secondText with ⟨secondPath, secondPathEq⟩
  rw [locationErrorOrder, keyLe, LocationError.key, LocationError.key, firstPathEq, secondPathEq,
    Json.order?]
  rfl

/-- Location errors with texts for file names are sorted by their keys. -/
theorem sortLocationErrors_of_isText {errors : List LocationError}
    (texts : ∀ error ∈ errors, error.filePath.IsText) :
    sortLocationErrors errors = .ok (errors.mergeSort fun first second =>
      keyLe first.key second.key) := by
  have ordered : Json.areOrdered (errors.map (·.filePath)) = true := by
    apply Json.areOrdered_of_isText
    intro name member
    rcases List.mem_map.mp member with ⟨error, errorMem, rfl⟩
    exact texts error errorMem
  have sorted : (errors.mergeSort fun first second =>
      (locationErrorOrder first second).isLE).map id =
        (errors.map id).mergeSort fun first second => keyLe first.key second.key := by
    apply List.map_mergeSort
    intro first firstMem second secondMem
    exact locationErrorOrder_isLE (texts first firstMem) (texts second secondMem)
  rw [List.map_id, List.map_id] at sorted
  rw [sortLocationErrors, ordered, Bool.not_true, Bool.and_false, sorted]
  rfl

end Run

/-! ## What the jobs of a run give -/

namespace Job

/-- The location errors of a job, if it is normalized. -/
def locationErrors (job : Job) (options : Options) : List LocationError :=
  (job.findings? options).toList.flatMap (·.errors)

/-- The location errors of a job that have a key. -/
def errorsAt (job : Job) (options : Options) (key : String × String × String) :
    List LocationError :=
  (job.locationErrors options).filter fun error => error.key = key

theorem mem_locationErrors {job : Job} {options : Options} {error : LocationError} :
    error ∈ job.locationErrors options ↔
      ∃ normalized, job.normalize options = .ok normalized ∧ error ∈ normalized.errors := by
  simp only [locationErrors, findings?, List.mem_flatMap, Option.mem_toList, toOption_eq_some]

end Job

namespace Run

variable {options : Options} {jobs : List Job}

theorem errors_findings (jobs : List Job) :
    (findings options jobs).flatMap (·.errors) = jobs.flatMap (·.locationErrors options) := by
  rw [findings, List.filterMap_eq_flatMap_toList, List.flatMap_assoc]
  rfl

theorem failures_eq_flatMap (jobs : List Job) :
    failures options jobs = jobs.flatMap fun job => (job.failure? options).toList := by
  rw [failures, List.filterMap_eq_flatMap_toList]

/-- Whether the jobs that fail are told apart by the names of their contracts, or fail alike. -/
def NamesFailures (options : Options) (jobs : List Job) : Prop :=
  ∀ first ∈ failures options jobs, ∀ second ∈ failures options jobs,
    first.contractName = second.contractName → first = second

/-- Whether the location errors that any two jobs have under the same key can be exchanged. -/
def ExchangesErrors (options : Options) (jobs : List Job) : Prop :=
  ∀ first ∈ jobs, ∀ second ∈ jobs, ∀ key,
    first.errorsAt options key ++ second.errorsAt options key =
      second.errorsAt options key ++ first.errorsAt options key

/-! ## When the order of the jobs does not show -/

/-- The errors of contracts are sorted alike in every order of the jobs exactly when failures of
the same name are the same. -/
theorem sortContractErrors_unique_iff :
    (∀ order other : List Job, order.Perm jobs → other.Perm jobs →
      sortContractErrors (failures options order) =
        sortContractErrors (failures options other)) ↔ NamesFailures options jobs := by
  simp only [sortContractErrors_eq, failures_eq_flatMap,
    mergeSort_flatMap_unique_iff nameLe_trans nameLe_total nameLe_antisymm]
  simp only [NamesFailures, failures, List.mem_filterMap]
  constructor
  · rintro exchange error ⟨first, firstMem, failed⟩ other ⟨second, secondMem, otherFailed⟩ name
    have swapped := exchange first firstMem second secondMem error.contractName
    simp only [failed, otherFailed, Option.toList_some, List.filter_cons, name, decide_true,
      if_true, List.filter_nil, List.singleton_append] at swapped
    exact (List.cons.inj swapped).1
  · intro named first firstMem second secondMem wanted
    cases failed : first.failure? options with
    | none => simp
    | some error =>
        cases otherFailed : second.failure? options with
        | none => simp
        | some other =>
            simp only [Option.toList_some, List.filter_cons, List.filter_nil]
            by_cases wants : error.contractName = wanted
            · by_cases otherWants : other.contractName = wanted
              · rw [named error ⟨first, firstMem, failed⟩ other ⟨second, secondMem, otherFailed⟩
                  (wants.trans otherWants.symm)]
              · simp [otherWants]
            · simp [wants]

theorem sortLocationErrors_findings
    (texts : ∀ job ∈ jobs, ∀ error ∈ job.locationErrors options, error.filePath.IsText) :
    sortLocationErrors ((findings options jobs).flatMap (·.errors)) =
      .ok ((jobs.flatMap (·.locationErrors options)).mergeSort fun first second =>
        keyLe first.key second.key) := by
  rw [errors_findings]
  apply sortLocationErrors_of_isText
  intro error member
  rcases List.mem_flatMap.mp member with ⟨job, jobMem, errorMem⟩
  exact texts job jobMem error errorMem

/-- The errors of locations are sorted alike in every order of the jobs exactly when those of any
two jobs can be exchanged. -/
theorem sortLocationErrors_unique_iff
    (texts : ∀ job ∈ jobs, ∀ error ∈ job.locationErrors options, error.filePath.IsText) :
    (∀ order other : List Job, order.Perm jobs → other.Perm jobs →
      sortLocationErrors ((findings options order).flatMap (·.errors)) =
        sortLocationErrors ((findings options other).flatMap (·.errors))) ↔
      ExchangesErrors options jobs := by
  have sorted (order : List Job) (perm : order.Perm jobs) :=
    sortLocationErrors_findings fun job member => texts job (perm.mem_iff.mp member)
  simp only [ExchangesErrors, Job.errorsAt, ← mergeSort_flatMap_unique_iff keyLe_trans keyLe_total
    keyLe_antisymm LocationError.key]
  constructor
  · intro same order other orderPerm otherPerm
    have equal := same order other orderPerm otherPerm
    rw [sorted order orderPerm, sorted other otherPerm] at equal
    exact Except.ok.inj equal
  · intro same order other orderPerm otherPerm
    rw [sorted order orderPerm, sorted other otherPerm, same order other orderPerm otherPerm]

end Run

/-! ## Locations that are shown alike -/

/-- Whether a location has a text that another one without a text may be shown as. -/
def Location.IsMistakable (location : Location) : Prop :=
  ∃ text, location.sourceMap = .text text ∧
    (text = Json.null.display ∨ ∃ address : Int, text = String.ofList (Text.writeInt address))

/-- A location is shown as its text. Without one it is shown as only the text of a mistakable
location can be. -/
theorem Location.shown_cases {location : Location} {text : String}
    (readable : location.sourceMapText = .ok text) :
    (location.sourceMap = .text text ∧ location.shown = text) ∨
      text = "" ∧ ∀ other : Location, other.sourceMap = .text location.shown →
        other.IsMistakable := by
  rw [shown]
  rcases sourceMap_of_sourceMapText readable with ⟨present, written⟩ | ⟨absent, rfl⟩
  · left
    rw [if_pos present, written]
    exact ⟨rfl, rfl⟩
  · right
    rw [absent, if_neg Bool.false_ne_true]
    refine ⟨rfl, fun other written => ⟨_, written, ?_⟩⟩
    split
    next address _ => exact .inr ⟨address, rfl⟩
    next => exact .inl rfl

/-- A text with a colon is not what another location is shown as. -/
theorem Location.not_isMistakable_of_colon {location : Location} {text : String}
    (written : location.sourceMap = .text text) (colon : ':' ∈ text.toList) :
    ¬location.IsMistakable := by
  rintro ⟨other, otherWritten, same | ⟨address, same⟩⟩
  · cases written.symm.trans otherWritten
    rw [same] at colon
    exact absurd colon (by decide)
  · cases written.symm.trans otherWritten
    rw [same, String.toList_ofList] at colon
    exact Text.colon_not_mem_writeInt colon

/-- What is known of a location error: it is about a place of a batch, in the file that this place
is attributed to, and says what is wrong with the text of the location. -/
inductive Job.Reports (job : Job) : LocationError → Prop
  | place {batch : Batch} {place : Place} {slot : Nat} {text : String} {cause : FormatError} :
      batch ∈ job.batches → place ∈ batch.places →
      place.location.sourceMapText = .ok text → Entry.parse text = .error cause →
      Reports job
        { filePath := batch.sources.getD slot .null
          ruleId := place.issue.ruleId
          location := place.location.shown
          message := cause.message }

theorem Contract.reports_of_mem_outcomes {contract : Contract} {options : Options} {batch : Batch}
    {outcomes : List Outcome} {error : LocationError} {job : Job} (listed : batch ∈ job.batches)
    (returned : contract.outcomes options batch = .ok outcomes)
    (member : .malformed error ∈ outcomes) : job.Reports error := by
  rcases outcomes_eq_ok returned with ⟨each, attributed⟩
  have given : .ok (.malformed error) ∈ batch.placesBySource.map fun place =>
      contract.outcomeOf options (batch.shareOf (batch.slotOf place.location)) place.issue
        place.location := by
    rw [each]
    exact List.mem_map_of_mem member
  rcases List.mem_map.mp given with ⟨place, placeMem, outcome⟩
  have placed := batch.placesBySource_perm.mem_iff.mp placeMem
  rcases sourceMapText_of_slot (attributed place placed) with ⟨text, readable⟩
  cases settles_of_outcomeOf outcome with
  | normalized normalized => exact absurd rfl ((normalizeLocation_eq_ok normalized).2 error)
  | malformed failed =>
      have malformed := parse_error_of_locate readable
        (locate_of_normalizeLocation_eq_format_error failed)
      exact .place listed placed readable malformed.1

theorem Job.reports_of_mem {job : Job} {options : Options} {error : LocationError}
    (member : error ∈ job.locationErrors options) : job.Reports error := by
  rcases mem_locationErrors.mp member with ⟨normalized, returned, member⟩
  rcases bind_eq_ok.mp returned with ⟨outcomes, outcomesOk, equal⟩
  cases equal
  have malformed := Normalized.mem_errors_ofOutcomes.mp member
  rcases List.mem_flatten.mp malformed with ⟨batchOutcomes, batchMem, malformed⟩
  rcases (mem_of_mapM_eq_ok outcomesOk).mp batchMem with ⟨batch, listed, batchOk⟩
  exact Contract.reports_of_mem_outcomes listed batchOk malformed

/-- Errors of locations that cannot be mistaken differ in more than the message. -/
theorem Job.Reports.eq_of_key_eq {first second : Job} {error other : LocationError}
    (reported : first.Reports error) (otherReported : second.Reports other)
    (clear : ∀ batch ∈ first.batches, ∀ place ∈ batch.places, ¬place.location.IsMistakable)
    (otherClear : ∀ batch ∈ second.batches, ∀ place ∈ batch.places,
      ¬place.location.IsMistakable)
    (named : error.filePath.IsText) (otherNamed : other.filePath.IsText)
    (same : error.key = other.key) : error = other := by
  have paths : error.filePath = other.filePath := by
    rcases named with ⟨path, equal⟩
    rcases otherNamed with ⟨otherPath, otherEqual⟩
    have display := congrArg Prod.fst same
    simp only [LocationError.key, equal, otherEqual, Json.display] at display
    rw [equal, otherEqual, display]
  have rules := congrArg (·.2.1) same
  have locations := congrArg (·.2.2) same
  cases reported with
  | @place batch place slot text cause listed placed readable malformed =>
    cases otherReported with
    | @place otherBatch otherPlace otherSlot otherText otherCause otherListed otherPlaced
        otherReadable otherMalformed =>
      simp only [LocationError.key] at rules locations paths
      have texts : text = otherText := by
        rcases Location.shown_cases readable with ⟨written, shown⟩ | ⟨empty, mistaken⟩
        · rcases Location.shown_cases otherReadable with ⟨-, otherShown⟩ | ⟨-, otherMistaken⟩
          · exact shown.symm.trans (locations.trans otherShown)
          · rw [← shown, locations] at written
            exact absurd (otherMistaken _ written) (clear batch listed place placed)
        · rcases Location.shown_cases otherReadable with ⟨written, shown⟩ | ⟨otherEmpty, -⟩
          · rw [← shown, ← locations] at written
            exact absurd (mistaken _ written)
              (otherClear otherBatch otherListed otherPlace otherPlaced)
          · exact empty.trans otherEmpty.symm
      rw [texts] at malformed
      cases malformed.symm.trans otherMalformed
      rw [paths, rules, locations]

/-- Parts that are all made of one element can be exchanged. -/
theorem append_comm_of_forall_eq {α : Type} {first second : List α}
    (equal : ∀ value ∈ first ++ second, ∀ other ∈ first ++ second, value = other) :
    first ++ second = second ++ first := by
  cases all : first ++ second with
  | nil =>
      rcases List.append_eq_nil_iff.mp all with ⟨rfl, rfl⟩
      rfl
  | cons head tail =>
      rw [all] at equal
      have same (value : α) (member : value ∈ head :: tail) : value = head :=
        equal value member head List.mem_cons_self
      have swapped : second ++ first = List.replicate (second ++ first).length head := by
        apply List.eq_replicate_of_mem
        intro value member
        apply same
        rw [← all]
        exact List.perm_append_comm.mem_iff.mp member
      rw [swapped, List.eq_replicate_of_mem same, ← all, List.length_append, List.length_append,
        Nat.add_comm]

namespace Run

/-- Without mistakable locations the location errors can be exchanged. -/
theorem exchangesErrors_of_clear {options : Options} {jobs : List Job}
    (texts : ∀ job ∈ jobs, ∀ error ∈ job.locationErrors options, error.filePath.IsText)
    (clear : ∀ job ∈ jobs, ∀ batch ∈ job.batches, ∀ place ∈ batch.places,
      ¬place.location.IsMistakable) : ExchangesErrors options jobs := by
  intro first firstMem second secondMem key
  apply append_comm_of_forall_eq
  have known {error : LocationError}
      (member : error ∈ first.errorsAt options key ++ second.errorsAt options key) :
      ∃ job ∈ jobs, error ∈ job.locationErrors options ∧ error.key = key := by
    rcases List.mem_append.mp member with member | member
    · exact ⟨first, firstMem, (List.mem_filter.mp member).1,
        of_decide_eq_true (List.mem_filter.mp member).2⟩
    · exact ⟨second, secondMem, (List.mem_filter.mp member).1,
        of_decide_eq_true (List.mem_filter.mp member).2⟩
  intro error member other otherMem
  rcases known member with ⟨job, jobMem, given, keyed⟩
  rcases known otherMem with ⟨otherJob, otherJobMem, otherGiven, otherKeyed⟩
  exact (Job.reports_of_mem given).eq_of_key_eq (Job.reports_of_mem otherGiven)
    (clear job jobMem) (clear otherJob otherJobMem) (texts job jobMem error given)
    (texts otherJob otherJobMem other otherGiven) (keyed.trans otherKeyed.symm)

end Run

end Pinpoint
