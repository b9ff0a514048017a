import Pinpoint.Json.Value

/-!
# Results that may be faults

Requests are made one after the other, and the first fault ends them. What such a sequence gives
is taken apart here once: a sequence that succeeds had its parts succeed, a list of requests
succeeds when each of them does, and what fails has the fault of one of its parts.
-/

namespace Pinpoint

variable {ε φ α β : Type}

theorem bind_eq_ok {request : Except ε α} {next : α → Except ε β} {result : β} :
    (request >>= next) = .ok result ↔ ∃ value, request = .ok value ∧ next value = .ok result := by
  cases request with
  | error fault =>
      constructor
      · intro impossible
        cases impossible
      · intro given
        rcases given with ⟨value, impossible, -⟩
        cases impossible
  | ok value =>
      constructor
      · intro succeeded
        exact ⟨value, rfl, succeeded⟩
      · intro given
        rcases given with ⟨other, equal, succeeded⟩
        cases equal
        exact succeeded

theorem bind_eq_error {request : Except ε α} {next : α → Except ε β} {fault : ε} :
    (request >>= next) = .error fault ↔
      request = .error fault ∨ ∃ value, request = .ok value ∧ next value = .error fault := by
  cases request with
  | error other =>
      constructor
      · intro failed
        cases failed
        exact .inl rfl
      · intro given
        rcases given with equal | ⟨value, impossible, -⟩
        · cases equal
          rfl
        · cases impossible
  | ok value =>
      constructor
      · intro failed
        exact .inr ⟨value, rfl, failed⟩
      · intro given
        rcases given with impossible | ⟨other, equal, failed⟩
        · cases impossible
        · cases equal
          exact failed

/-- A request fails when the first part does, or the rest does with the value of the first. -/
theorem exists_bind_eq_error {request : Except ε α} {next : α → Except ε β} :
    (∃ fault, (request >>= next) = .error fault) ↔
      (∃ fault, request = .error fault) ∨
        ∃ value, request = .ok value ∧ ∃ fault, next value = .error fault := by
  simp only [bind_eq_error]
  constructor
  · rintro ⟨fault, first | ⟨value, given, rest⟩⟩
    · exact .inl ⟨fault, first⟩
    · exact .inr ⟨value, given, fault, rest⟩
  · rintro (⟨fault, first⟩ | ⟨value, given, fault, rest⟩)
    · exact ⟨fault, .inl first⟩
    · exact ⟨fault, .inr ⟨value, given, rest⟩⟩

theorem not_exists_ok_eq_error {value : α} :
    ¬∃ fault : ε, (.ok value : Except ε α) = .error fault := by
  intro given
  rcases given with ⟨fault, impossible⟩
  cases impossible

/-- A request fails when it has no result. -/
theorem exists_eq_error_iff {request : Except ε α} :
    (∃ fault, request = .error fault) ↔ ¬∃ value, request = .ok value := by
  cases request <;> simp

/-- A step whose failing does not hang on the value before it fails or not on its own account. -/
theorem exists_bind_eq_error_or {request : Except ε α} {next : α → Except ε β} {fails : Prop}
    (nextFails : ∀ value, (∃ fault, next value = .error fault) ↔ fails) :
    (∃ fault, (request >>= next) = .error fault) ↔ (∃ fault, request = .error fault) ∨ fails := by
  cases request with
  | error fault => exact iff_of_true ⟨fault, rfl⟩ (.inl ⟨fault, rfl⟩)
  | ok value =>
      rw [or_iff_right not_exists_ok_eq_error]
      exact nextFails value

/-- A step that always gives a result fails with the request before it only. -/
theorem exists_bind_eq_error_of_ok {request : Except ε α} {next : α → Except ε β}
    (nextOk : ∀ value, ∃ result, next value = .ok result) :
    (∃ fault, (request >>= next) = .error fault) ↔ ∃ fault, request = .error fault := by
  have never (value : α) : (∃ fault, next value = .error fault) ↔ False := by
    rcases nextOk value with ⟨result, returned⟩
    rw [returned]
    exact iff_false_intro not_exists_ok_eq_error
  rw [exists_bind_eq_error_or never, or_false]

@[simp] theorem mapError_eq_ok {request : Except ε α} {wrap : ε → φ} {result : α} :
    request.mapError wrap = .ok result ↔ request = .ok result := by
  cases request with
  | error error =>
      constructor
      · intro impossible
        cases impossible
      · intro impossible
        cases impossible
  | ok value =>
      constructor
      · intro equal
        cases equal
        rfl
      · intro equal
        cases equal
        rfl

@[simp] theorem mapError_eq_error {request : Except ε α} {wrap : ε → φ} {fault : φ} :
    request.mapError wrap = .error fault ↔
      ∃ error, request = .error error ∧ wrap error = fault := by
  cases request with
  | error error =>
      constructor
      · intro equal
        cases equal
        exact ⟨error, rfl, rfl⟩
      · intro given
        rcases given with ⟨other, equal, rfl⟩
        cases equal
        rfl
  | ok value =>
      constructor
      · intro impossible
        cases impossible
      · intro given
        rcases given with ⟨error, impossible, -⟩
        cases impossible

@[simp] theorem toOption_mapError {request : Except ε α} {wrap : ε → φ} :
    (request.mapError wrap).toOption = request.toOption := by
  cases request with
  | error error => rfl
  | ok value => rfl

theorem toOption_eq_some {request : Except ε α} {value : α} :
    request.toOption = some value ↔ request = .ok value := by
  cases request with
  | error error => simp [Except.toOption]
  | ok other => simp [Except.toOption]

theorem mapError_map (request : Except ε α) (convert : α → β) (wrap : ε → φ) :
    (request.map convert).mapError wrap = (request.mapError wrap).map convert := by
  cases request with
  | error error => rfl
  | ok value => rfl

@[simp] theorem map_eq_ok {request : Except ε α} {convert : α → β} {result : β} :
    request.map convert = .ok result ↔ ∃ value, request = .ok value ∧ convert value = result := by
  cases request with
  | error error =>
      constructor
      · intro impossible
        cases impossible
      · intro given
        rcases given with ⟨value, impossible, -⟩
        cases impossible
  | ok value =>
      constructor
      · intro equal
        cases equal
        exact ⟨value, rfl, rfl⟩
      · intro given
        rcases given with ⟨other, equal, rfl⟩
        cases equal
        rfl

@[simp] theorem map_eq_error {request : Except ε α} {convert : α → β} {fault : ε} :
    request.map convert = .error fault ↔ request = .error fault := by
  cases request with
  | error other =>
      constructor
      · intro failed
        cases failed
        rfl
      · intro failed
        cases failed
        rfl
  | ok value =>
      constructor
      · intro impossible
        cases impossible
      · intro impossible
        cases impossible

/-- A list of requests gives a list of results when each request gives its result. -/
theorem mapM_eq_ok {request : α → Except ε β} {values : List α} {results : List β} :
    values.mapM request = .ok results ↔ values.map request = results.map .ok := by
  induction values generalizing results with
  | nil =>
      rw [List.mapM_nil, List.map_nil]
      cases results with
      | nil => exact ⟨fun _ => rfl, fun _ => rfl⟩
      | cons first others =>
          constructor
          · intro impossible
            cases impossible
          · intro impossible
            cases impossible
  | cons value values ih =>
      rw [List.mapM_cons, bind_eq_ok]
      constructor
      · intro given
        rcases given with ⟨first, firstOk, rest⟩
        obtain ⟨others, othersOk, equal⟩ := bind_eq_ok.mp rest
        cases equal
        rw [List.map_cons, List.map_cons, firstOk, ih.mp othersOk]
      · intro equal
        cases results with
        | nil => cases equal
        | cons first others =>
            rw [List.map_cons, List.map_cons, List.cons.injEq] at equal
            exact ⟨first, equal.1, bind_eq_ok.mpr ⟨others, ih.mpr equal.2, rfl⟩⟩

/-- The results are those that the requests give. -/
theorem mem_of_mapM_eq_ok {request : α → Except ε β} {values : List α} {results : List β}
    (returned : values.mapM request = .ok results) {result : β} :
    result ∈ results ↔ ∃ value ∈ values, request value = .ok result := by
  have listed : values.map request = results.map .ok := mapM_eq_ok.mp returned
  constructor
  · intro member
    have given : .ok result ∈ values.map request := by
      rw [listed]
      exact List.mem_map_of_mem member
    exact List.mem_map.mp given
  · intro found
    rcases found with ⟨value, member, given⟩
    have mapped : request value ∈ results.map .ok := by
      rw [← listed]
      exact List.mem_map_of_mem member
    rw [given] at mapped
    obtain ⟨other, otherMem, equal⟩ := List.mem_map.mp mapped
    cases equal
    exact otherMem

/-- A list of requests gives results when each request gives one. -/
theorem exists_mapM_eq_ok {request : α → Except ε β} {values : List α} :
    (∃ results, values.mapM request = .ok results) ↔
      ∀ value ∈ values, ∃ result, request value = .ok result := by
  induction values with
  | nil =>
      constructor
      · intro _ value member
        cases member
      · intro _
        exact ⟨[], rfl⟩
  | cons value values ih =>
      simp only [List.mapM_cons, bind_eq_ok, List.forall_mem_cons, ← ih]
      constructor
      · intro found
        rcases found with ⟨_, result, given, results, rest, -⟩
        exact ⟨⟨result, given⟩, results, rest⟩
      · intro found
        rcases found with ⟨⟨result, given⟩, results, rest⟩
        exact ⟨result :: results, result, given, results, rest, rfl⟩

/-- A list of requests fails with the fault of one of them. -/
theorem exists_of_mapM_eq_error {request : α → Except ε β} {values : List α} {fault : ε}
    (failed : values.mapM request = .error fault) :
    ∃ value ∈ values, request value = .error fault := by
  induction values with
  | nil => cases failed
  | cons value values ih =>
      rw [List.mapM_cons] at failed
      rcases bind_eq_error.mp failed with first | ⟨result, -, rest⟩
      · exact ⟨value, List.mem_cons_self, first⟩
      · rcases bind_eq_error.mp rest with rest | ⟨results, -, impossible⟩
        · rcases ih rest with ⟨other, member, found⟩
          exact ⟨other, List.mem_cons_of_mem _ member, found⟩
        · cases impossible

/-- A list of requests fails when one of them does. -/
theorem exists_mapM_eq_error {request : α → Except ε β} {values : List α} :
    (∃ fault, values.mapM request = .error fault) ↔
      ∃ value ∈ values, ∃ fault, request value = .error fault := by
  constructor
  · intro given
    rcases given with ⟨fault, failed⟩
    rcases exists_of_mapM_eq_error failed with ⟨value, member, found⟩
    exact ⟨value, member, fault, found⟩
  · intro given
    rcases given with ⟨value, member, fault, found⟩
    cases returned : values.mapM request with
    | error other => exact ⟨other, rfl⟩
    | ok results =>
        rcases exists_mapM_eq_ok.mp ⟨results, returned⟩ value member with ⟨result, given⟩
        cases found.symm.trans given

/-- The fault of a list of requests is that of the first one that fails. -/
theorem mapM_eq_error_iff {request : α → Except ε β} {values : List α} {fault : ε} :
    values.mapM request = .error fault ↔
      ∃ before value after, values = before ++ value :: after ∧
        (∀ earlier ∈ before, ∃ result, request earlier = .ok result) ∧
        request value = .error fault := by
  induction values with
  | nil =>
      constructor
      · intro impossible
        cases impossible
      · intro given
        rcases given with ⟨before, value, after, impossible, -⟩
        exact absurd impossible.symm (List.append_ne_nil_of_right_ne_nil _ (List.cons_ne_nil _ _))
  | cons value values ih =>
      rw [List.mapM_cons, bind_eq_error]
      constructor
      · intro given
        rcases given with first | ⟨result, given, rest⟩
        · exact ⟨[], value, values, rfl, fun _ member => absurd member List.not_mem_nil, first⟩
        · rcases bind_eq_error.mp rest with rest | ⟨results, -, impossible⟩
          · rcases ih.mp rest with ⟨before, failing, after, rfl, earlier, failed⟩
            refine ⟨value :: before, failing, after, rfl, ?_, failed⟩
            exact List.forall_mem_cons.mpr ⟨⟨result, given⟩, earlier⟩
          · cases impossible
      · intro given
        rcases given with ⟨before, failing, after, listed, earlier, failed⟩
        cases before with
        | nil =>
            cases listed
            exact .inl failed
        | cons first before =>
            cases listed
            rcases List.forall_mem_cons.mp earlier with ⟨⟨result, given⟩, earlier⟩
            have rest := ih.mpr ⟨before, failing, after, rfl, earlier, failed⟩
            exact .inr ⟨result, given, bind_eq_error.mpr (.inl rest)⟩

/-- The results of a list of requests are those of the requests that give one. -/
theorem eq_filterMap_of_mapM_eq_ok {request : α → Except ε β} {values : List α}
    {results : List β} (returned : values.mapM request = .ok results) :
    results = values.filterMap fun value => (request value).toOption := by
  have listed := mapM_eq_ok.mp returned
  calc results
    _ = (results.map Except.ok).filterMap (Except.toOption (ε := ε)) := by
      rw [List.filterMap_map]
      exact (List.filterMap_some).symm
    _ = (values.map request).filterMap Except.toOption := by rw [listed]
    _ = values.filterMap fun value => (request value).toOption := List.filterMap_map

/-- Which results there are depends on which requests there are. -/
theorem mapM_congr_mem {request : α → Except ε β} {first second : List α} {results : List β}
    (same : ∀ value, value ∈ first ↔ value ∈ second)
    (returned : first.mapM request = .ok results) :
    ∃ others, second.mapM request = .ok others ∧
      ∀ result, result ∈ results ↔ result ∈ others := by
  have each := exists_mapM_eq_ok.mp ⟨results, returned⟩
  obtain ⟨others, othersOk⟩ := exists_mapM_eq_ok.mpr
    fun value member => each value ((same value).mpr member)
  refine ⟨others, othersOk, ?_⟩
  intro result
  rw [mem_of_mapM_eq_ok returned, mem_of_mapM_eq_ok othersOk]
  simp only [same]

theorem mapM_congr_left {request other : α → Except ε β} {values : List α}
    (same : ∀ value ∈ values, request value = other value) :
    values.mapM request = values.mapM other := by
  induction values with
  | nil => rfl
  | cons value values ih =>
      rw [List.mapM_cons, List.mapM_cons, same value List.mem_cons_self,
        ih fun value member => same value (List.mem_cons_of_mem _ member)]

/-- What is made of the results of a list of requests is what is made of each of them. -/
theorem map_mapM {γ : Type} (request : α → Except ε β) (view : β → γ) (values : List α) :
    (values.mapM request).map (List.map view) =
      values.mapM fun value => (request value).map view := by
  induction values with
  | nil => rfl
  | cons value values ih =>
      rw [List.mapM_cons, List.mapM_cons, ← ih]
      cases request value with
      | error error => rfl
      | ok result =>
          cases values.mapM request with
          | error error => rfl
          | ok results => rfl

theorem map_mapM_congr {γ : Type} {request other : α → Except ε β} {view : β → γ} {values : List α}
    (same : ∀ value, (request value).map view = (other value).map view) :
    (values.mapM request).map (List.map view) = (values.mapM other).map (List.map view) := by
  rw [map_mapM, map_mapM]
  exact mapM_congr_left fun value _ => same value

/-- The results of a list of requests whose values a function gives. -/
theorem mapM_eq_ok_map {request : α → Except ε β} {values : List α} {results : List β}
    {value : α → β} (agrees : ∀ input result, request input = .ok result → value input = result)
    (returned : values.mapM request = .ok results) :
    results = values.map value ∧ ∀ input ∈ values, request input = .ok (value input) := by
  rw [mapM_eq_ok] at returned
  induction values generalizing results with
  | nil =>
      cases results with
      | nil => exact ⟨rfl, fun _ member => by cases member⟩
      | cons => cases returned
  | cons first rest ih =>
      cases results with
      | nil => cases returned
      | cons result others =>
          rw [List.map_cons, List.map_cons, List.cons.injEq] at returned
          obtain ⟨equal, each⟩ := ih returned.2
          have firstEqual := agrees first result returned.1
          constructor
          · rw [List.map_cons, firstEqual, equal]
          · intro input member
            rcases List.mem_cons.mp member with rfl | later
            · rw [firstEqual]
              exact returned.1
            · exact each input later

/-- In a list of requests paired with their results, each request gives the result beside it. -/
theorem ok_of_mem_zip {request : α → Except ε β} {values : List α} {results : List β}
    (returned : values.map request = results.map .ok) {pair : α × β}
    (member : pair ∈ values.zip results) : request pair.1 = .ok pair.2 := by
  induction values generalizing results with
  | nil => cases member
  | cons value values ih =>
      cases results with
      | nil => cases member
      | cons result results =>
          rw [List.map_cons, List.map_cons, List.cons.injEq] at returned
          rcases List.mem_cons.mp member with rfl | later
          · exact returned.1
          · exact ih returned.2 later

/-- In two lists of requests for the same values, paired with their results, what stands side by
side belongs to the same value. -/
theorem exists_of_mem_zip_zip {γ : Type} {request : α → Except ε β}
    {other : α → Except ε γ} {values : List α} {results : List β} {others : List γ}
    (returned : values.map request = results.map .ok)
    (otherReturned : values.map other = others.map .ok) {pair : (α × β) × (α × γ)}
    (member : pair ∈ (values.zip results).zip (values.zip others)) :
    ∃ value result otherResult, pair = ((value, result), (value, otherResult)) ∧
      request value = .ok result ∧ other value = .ok otherResult := by
  induction values generalizing results others with
  | nil => cases member
  | cons value values ih =>
      cases results with
      | nil => cases returned
      | cons result results =>
          cases others with
          | nil => cases otherReturned
          | cons otherResult others =>
              rw [List.map_cons, List.map_cons, List.cons.injEq] at returned otherReturned
              rcases List.mem_cons.mp member with rfl | later
              · exact ⟨value, result, otherResult, rfl, returned.1, otherReturned.1⟩
              · exact ih returned.2 otherReturned.2 later

/-! ## Kinds of faults -/

/-- Whether a request fails with a fault of a kind. -/
def FailsWith (kind : ε → Prop) (request : Except ε α) : Prop :=
  ∃ fault, request = .error fault ∧ kind fault

variable {kind : ε → Prop}

@[simp] theorem not_failsWith_ok {value : α} : ¬FailsWith kind (.ok value : Except ε α) := by
  intro given
  rcases given with ⟨fault, impossible, -⟩
  cases impossible

@[simp] theorem failsWith_error {fault : ε} :
    FailsWith kind (.error fault : Except ε α) ↔ kind fault := by
  constructor
  · intro given
    rcases given with ⟨other, equal, isKind⟩
    cases equal
    exact isKind
  · intro isKind
    exact ⟨fault, rfl, isKind⟩

theorem failsWith_bind {request : Except ε α} {next : α → Except ε β} :
    FailsWith kind (request >>= next) ↔
      FailsWith kind request ∨ ∃ value, request = .ok value ∧ FailsWith kind (next value) := by
  cases request with
  | error fault =>
      constructor
      · intro failed
        exact .inl (failsWith_error.mpr (failsWith_error.mp failed))
      · intro given
        rcases given with failed | ⟨value, impossible, -⟩
        · exact failsWith_error.mpr (failsWith_error.mp failed)
        · cases impossible
  | ok value =>
      constructor
      · intro failed
        exact .inr ⟨value, rfl, failed⟩
      · intro given
        rcases given with impossible | ⟨other, equal, failed⟩
        · exact absurd impossible not_failsWith_ok
        · cases equal
          exact failed

/-- A request whose faults are all of a kind fails with one of them whenever it fails. -/
theorem failsWith_iff_of_forall {request : Except ε α} (always : ∀ fault, kind fault) :
    FailsWith kind request ↔ ∃ fault, request = .error fault := by
  rw [FailsWith]
  simp only [always, and_true]

theorem not_failsWith_of_forall {request : Except ε α} (never : ∀ fault, ¬kind fault) :
    ¬FailsWith kind request := by
  intro given
  rcases given with ⟨fault, -, isKind⟩
  exact never fault isKind

/-- A request fails with faults of another kind when its own faults become such. -/
theorem failsWith_mapError {other : φ → Prop} {wrap : ε → φ} {request : Except ε α} :
    FailsWith other (request.mapError wrap) ↔
      FailsWith (fun fault => other (wrap fault)) request := by
  cases request with
  | error fault =>
      change FailsWith other (.error (wrap fault)) ↔ _
      rw [failsWith_error, failsWith_error]
  | ok value => exact iff_of_false not_failsWith_ok not_failsWith_ok

/-- A list of requests fails with a fault of a kind when the first one that fails does. -/
theorem failsWith_mapM {request : α → Except ε β} {values : List α} :
    FailsWith kind (values.mapM request) ↔
      ∃ before value after, values = before ++ value :: after ∧
        (∀ earlier ∈ before, ∃ result, request earlier = .ok result) ∧
        FailsWith kind (request value) := by
  constructor
  · intro given
    rcases given with ⟨fault, failed, isKind⟩
    rcases mapM_eq_error_iff.mp failed with ⟨before, value, after, listed, earlier, failed⟩
    exact ⟨before, value, after, listed, earlier, fault, failed, isKind⟩
  · intro given
    rcases given with ⟨before, value, after, listed, earlier, fault, failed, isKind⟩
    exact ⟨fault, mapM_eq_error_iff.mpr ⟨before, value, after, listed, earlier, failed⟩, isKind⟩

end Pinpoint
