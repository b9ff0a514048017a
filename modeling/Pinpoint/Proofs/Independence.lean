import Pinpoint.Proofs.StoppedBatches

/-!
# Independent locations

What becomes of a location depends on the format and the source list of its batch, on its issue and
on the location itself, but on no other location. So a location that is taken out of a batch takes
its own outcome with it and nothing else, and the outcomes of a batch that holds the issues of two
others are those of the two.
-/

namespace Pinpoint

/-! ## Lists with an element taken out -/

section Lists

variable {α β : Type}

/-- The elements with the key zero, then those with the key one, and so on. -/
def listedBy (key : α → Nat) (count : Nat) (values : List α) : List α :=
  (List.range count).flatMap fun slot => values.filter fun value => key value == slot

theorem map_listedBy (image : α → β) (key : β → Nat) (count : Nat) (values : List α) :
    (listedBy (fun value => key (image value)) count values).map image =
      listedBy key count (values.map image) := by
  simp only [listedBy, List.map_flatMap, List.filter_map, Function.comp_def]

/-- An element that is taken out is missing in its place, and the others keep theirs. -/
theorem exists_listedBy_append (key : α → Nat) {count : Nat} {value : α}
    (bound : key value < count) (before after : List α) :
    ∃ front back, listedBy key count (before ++ value :: after) = front ++ value :: back ∧
      listedBy key count (before ++ after) = front ++ back := by
  rcases List.append_of_mem (List.mem_range.mpr bound) with ⟨lower, upper, slots⟩
  have distinct : (lower ++ key value :: upper).Nodup := slots ▸ List.nodup_range
  rw [List.nodup_append, List.nodup_cons] at distinct
  -- Under any other key the element makes no difference.
  have same (others : List Nat) (absent : ∀ slot ∈ others, slot ≠ key value) :
      (others.flatMap fun slot => (before ++ value :: after).filter fun other =>
        key other == slot) =
      others.flatMap fun slot => (before ++ after).filter fun other => key other == slot := by
    rw [List.flatMap_def, List.flatMap_def]
    congr 1
    apply List.map_congr_left
    intro slot member
    simp [List.filter_append, (absent slot member).symm]
  have lowerSame := same lower fun slot member =>
    distinct.2.2 slot member (key value) List.mem_cons_self
  have upperSame := same upper fun slot member equal => distinct.2.1.1 (equal ▸ member)
  refine ⟨(lower.flatMap fun slot => (before ++ after).filter fun other => key other == slot) ++
      before.filter fun other => key other == key value,
    (after.filter fun other => key other == key value) ++
      upper.flatMap fun slot => (before ++ after).filter fun other => key other == slot, ?_, ?_⟩
  · rw [listedBy, slots, List.flatMap_append, List.flatMap_cons, lowerSame, upperSame]
    simp [List.filter_append]
  · rw [listedBy, slots, List.flatMap_append, List.flatMap_cons]
    simp [List.filter_append]

theorem mem_append_cons {before after : List α} {value other : α}
    (member : other ∈ before ++ after) : other ∈ before ++ value :: after :=
  List.mem_append.mpr ((List.mem_append.mp member).imp id (List.mem_cons_of_mem _))

/-- An element splits its list, and can be taken out or changed where it stands. -/
theorem exists_append_of_getElem? {values : List α} {number : Nat} {value : α}
    (listed : values[number]? = some value) :
    ∃ before after, values = before ++ value :: after ∧ before.length = number ∧
      values.eraseIdx number = before ++ after ∧
      ∀ change, values.modify number change = before ++ change value :: after := by
  rcases List.getElem?_eq_some_iff.mp listed with ⟨bound, rfl⟩
  refine ⟨values.take number, values.drop (number + 1), ?_,
    List.length_take_of_le (Nat.le_of_lt bound), List.eraseIdx_eq_take_drop_succ values number,
    fun change => List.modify_eq_take_cons_drop bound⟩
  rw [← List.drop_eq_getElem_cons bound, List.take_append_drop]

end Lists

/-! ## What a place is without the others -/

/-- A place without its numbers and without the other locations of its issue. -/
def Place.alone (place : Place) : Issue × Location :=
  ({ place.issue with locations := [] }, place.location)

namespace Batch

variable {batch : Batch} {place : Place}

/-- The batch without the location at a place. -/
def without (batch : Batch) (place : Place) : Batch :=
  { batch with
    issues := batch.issues.modify place.issueNumber fun issue =>
      { issue with locations := issue.locations.eraseIdx place.locationNumber } }

/-- The places of locations of an issue that are numbered from `start` on. -/
def numberedPlaces (issue : Issue) (issueNumber start : Nat) (locations : List Location) :
    List Place :=
  (locations.zipIdx start).map fun (location, locationNumber) =>
    { issueNumber, locationNumber, issue, location }

theorem map_alone_numberedPlaces (issue : Issue) (issueNumber start : Nat)
    (locations : List Location) :
    (numberedPlaces issue issueNumber start locations).map Place.alone =
      locations.map fun location => ({ issue with locations := [] }, location) := by
  rw [numberedPlaces, List.map_map]
  exact map_zipIdx locations start fun location => ({ issue with locations := [] }, location)

theorem numberedPlaces_append (issue : Issue) (issueNumber : Nat) (locations : List Location)
    (location : Location) (laterLocations : List Location) :
    numberedPlaces issue issueNumber 0 (locations ++ location :: laterLocations) =
      numberedPlaces issue issueNumber 0 locations ++
        ⟨issueNumber, locations.length, issue, location⟩ ::
          numberedPlaces issue issueNumber (locations.length + 1) laterLocations := by
  rw [numberedPlaces, List.zipIdx_append, List.zipIdx_cons, List.map_append, List.map_cons,
    Nat.zero_add]
  rfl

/-- The places of issues that are numbered from `start` on. -/
def placesFrom (start : Nat) (issues : List Issue) : List Place :=
  (issues.zipIdx start).flatMap fun (issue, issueNumber) =>
    numberedPlaces issue issueNumber 0 issue.locations

theorem places_of_issues {issues laterIssues : List Issue} {issue : Issue}
    (listed : batch.issues = issues ++ issue :: laterIssues) :
    batch.places = placesFrom 0 issues ++
      (numberedPlaces issue issues.length 0 issue.locations ++
        placesFrom (issues.length + 1) laterIssues) := by
  rw [places, listed, List.zipIdx_append, List.flatMap_append, List.zipIdx_cons,
    List.flatMap_cons, Nat.zero_add]
  rfl

/-- Without a place the others are there as before, apart from the numbers. -/
theorem exists_places_append (member : place ∈ batch.places) :
    ∃ before after, batch.places = before ++ place :: after ∧
      (batch.without place).places.map Place.alone = (before ++ after).map Place.alone := by
  rcases mem_places.mp member with ⟨issueAt, locationAt⟩
  rcases exists_append_of_getElem? issueAt with
    ⟨issues, laterIssues, issuesEq, issueNumber, -, modified⟩
  rcases exists_append_of_getElem? locationAt with
    ⟨locations, laterLocations, locationsEq, locationNumber, erased, -⟩
  have remaining : (batch.without place).issues = issues ++
      { place.issue with locations := locations ++ laterLocations } :: laterIssues := by
    rw [← erased]
    exact modified _
  refine ⟨placesFrom 0 issues ++ numberedPlaces place.issue issues.length 0 locations,
    numberedPlaces place.issue issues.length (locations.length + 1) laterLocations ++
      placesFrom (issues.length + 1) laterIssues, ?_, ?_⟩
  · rw [places_of_issues issuesEq, locationsEq, numberedPlaces_append, issueNumber,
      locationNumber]
    simp only [List.append_assoc, List.cons_append]
  · rw [places_of_issues remaining]
    simp only [List.map_append, map_alone_numberedPlaces, List.append_assoc]

theorem exists_placesBySource_append (member : place ∈ batch.places) :
    ∃ front back, batch.placesBySource = front ++ place :: back ∧
      (batch.without place).placesBySource.map Place.alone = (front ++ back).map Place.alone := by
  rcases exists_places_append member with ⟨before, after, whole, rest⟩
  rcases exists_listedBy_append (fun place => batch.slotOf place.location)
    (batch.slotOf_lt place.location) before after with ⟨front, back, wholeListed, restListed⟩
  refine ⟨front, back, ?_, ?_⟩
  · rw [← wholeListed, ← whole]
    rfl
  · have alone (places : List Place) :
        (listedBy (fun place => batch.slotOf place.location) batch.sources.length places).map
            Place.alone =
          listedBy (fun occurrence => batch.slotOf occurrence.2) batch.sources.length
            (places.map Place.alone) :=
      map_listedBy Place.alone (fun occurrence => batch.slotOf occurrence.2) _ places
    rw [← restListed, alone, ← rest, ← alone]
    rfl

/-- Whether a batch holds the issues of two others that have its format and its source list. -/
structure Merges (batch first second : Batch) : Prop where
  format_first : first.format = batch.format
  format_second : second.format = batch.format
  sourceList_first : first.sourceList = batch.sourceList
  sourceList_second : second.sourceList = batch.sourceList
  issues_perm : batch.issues.Perm (first.issues ++ second.issues)

theorem map_alone_places (batch : Batch) :
    batch.places.map Place.alone = batch.issues.flatMap fun issue =>
      issue.locations.map fun location => ({ issue with locations := [] }, location) :=
  calc batch.places.map Place.alone
    _ = (batch.places.map fun place => (place.issue, place.location)).map fun occurrence =>
        ({ occurrence.1 with locations := [] }, occurrence.2) := by rw [List.map_map]; rfl
    _ = batch.occurrences.map fun occurrence =>
        ({ occurrence.1 with locations := [] }, occurrence.2) := by rw [occurrences_eq_map_places]
    _ = _ := by simp only [occurrences, List.map_flatMap, List.map_map, Function.comp_def]

theorem Merges.alone_perm {first second : Batch} (merges : batch.Merges first second) :
    (batch.places.map Place.alone).Perm
      (first.places.map Place.alone ++ second.places.map Place.alone) := by
  rw [map_alone_places, map_alone_places, map_alone_places, ← List.flatMap_append]
  exact merges.issues_perm.flatMap_right _

end Batch

namespace Contract

variable {contract : Contract} {options : Options} {batch other : Batch} {place : Place}

/-- What becomes of an issue at a location of a batch. -/
def requestOf (contract : Contract) (options : Options) (batch : Batch)
    (occurrence : Issue × Location) : Except Fault Outcome :=
  contract.outcomeOf options (batch.shareOf (batch.slotOf occurrence.2)) occurrence.1 occurrence.2

theorem requestOf_congr (format : other.format = batch.format)
    (sourceList : other.sourceList = batch.sourceList) :
    contract.requestOf options other = contract.requestOf options batch := by
  funext occurrence
  have sources : other.sources = batch.sources := by rw [Batch.sources, Batch.sources, sourceList]
  have slot : other.slotOf occurrence.2 = batch.slotOf occurrence.2 := by
    rw [Batch.slotOf, Batch.slotOf, sources]
  simp only [requestOf, slot, outcomeOf, Batch.shareOf, format, sourceList, sources]

theorem exists_normalize_eq_ok_alone :
    (∃ result, contract.normalize options batch = .ok result) ↔
      ∀ occurrence ∈ batch.places.map Place.alone, ¬occurrence.2.Untextual ∧
        ∃ outcome, contract.requestOf options batch occurrence = .ok outcome := by
  rw [exists_normalize_eq_ok, List.forall_mem_map]
  rfl

theorem map_requestOf {outcomes : List Outcome}
    (returned : contract.outcomes options batch = .ok outcomes) :
    (batch.placesBySource.map Place.alone).map (contract.requestOf options batch) =
      outcomes.map .ok := by
  rw [List.map_map]
  exact (outcomes_eq_ok returned).1

theorem requestOf_of_mem_ledgerOf {outcomes : List Outcome}
    (returned : contract.outcomes options batch = .ok outcomes) {line : LedgerLine}
    (member : line ∈ ledgerOf batch outcomes) :
    contract.requestOf options batch line.place.alone = .ok line.outcome := by
  rcases List.mem_map.mp member with ⟨pair, pairMem, rfl⟩
  exact ok_of_mem_zip (outcomes_eq_ok returned).1 pairMem

theorem exists_normalize_without {result : Normalized}
    (returned : contract.normalize options batch = .ok result) (member : place ∈ batch.places) :
    ∃ smaller, contract.normalize options (batch.without place) = .ok smaller := by
  have each := exists_normalize_eq_ok_alone.mp ⟨result, returned⟩
  rcases Batch.exists_places_append member with ⟨before, after, whole, rest⟩
  rw [exists_normalize_eq_ok_alone, rest]
  intro occurrence occurs
  rcases List.mem_map.mp occurs with ⟨other, otherMem, rfl⟩
  have listed : other ∈ batch.places := whole ▸ mem_append_cons otherMem
  exact each _ (List.mem_map_of_mem listed)

/-- Without one of its locations a batch has the outcomes that it had, but for that of the
location. -/
theorem normalize_without {result : Normalized}
    (returned : contract.normalize options batch = .ok result) (member : place ∈ batch.places) :
    ∃ before line after, line.place = place ∧
      contract.Accounts options batch (before ++ line :: after) ∧
      result = .ofOutcomes ((before ++ line :: after).map (·.outcome)) ∧
      contract.normalize options (batch.without place) =
        .ok (.ofOutcomes ((before ++ after).map (·.outcome))) := by
  rcases exists_normalize_without returned member with ⟨smaller, smallerReturned⟩
  rcases map_eq_ok.mp returned with ⟨outcomes, outcomesOk, rfl⟩
  rcases map_eq_ok.mp smallerReturned with ⟨others, othersOk, rfl⟩
  rcases Batch.exists_placesBySource_append member with ⟨front, back, whole, rest⟩
  have places := map_place_ledgerOf outcomesOk
  rw [whole, List.map_eq_append_iff] at places
  rcases places with ⟨before, remaining, ledger, rfl, equal⟩
  rcases List.map_eq_cons_iff.mp equal with ⟨line, after, rfl, linePlace, rfl⟩
  have kept (other : LedgerLine) (otherMem : other ∈ before ++ after) :
      contract.requestOf options batch other.place.alone = .ok other.outcome := by
    apply requestOf_of_mem_ledgerOf outcomesOk
    rw [ledger]
    exact mem_append_cons otherMem
  have same : others = (before ++ after).map (·.outcome) := by
    have requests := map_requestOf othersOk
    rw [rest, ← List.map_append, List.map_map, List.map_map] at requests
    apply (List.map_inj_right fun _ _ => Except.ok.inj).mp
    rw [← requests, List.map_map]
    exact List.map_congr_left kept
  refine ⟨before, line, after, linePlace, ?_, ?_, ?_⟩
  · rw [← ledger]
    exact accounts_ledgerOf outcomesOk
  · rw [← ledger, map_outcome_ledgerOf outcomesOk]
  · rw [smallerReturned, same]

/-! ## Batches put together -/

variable {first second : Batch}

theorem exists_normalize_of_merges (merges : batch.Merges first second) :
    (∃ result, contract.normalize options batch = .ok result) ↔
      (∃ result, contract.normalize options first = .ok result) ∧
        ∃ result, contract.normalize options second = .ok result := by
  rw [exists_normalize_eq_ok_alone, exists_normalize_eq_ok_alone, exists_normalize_eq_ok_alone,
    requestOf_congr merges.format_first merges.sourceList_first,
    requestOf_congr merges.format_second merges.sourceList_second]
  simp only [merges.alone_perm.mem_iff, List.mem_append, or_imp, forall_and]
  exact and_and_and_comm

/-- The outcomes of a batch are those of its places, in some order. -/
theorem outcomes_perm {outcomes : List Outcome}
    (returned : contract.outcomes options batch = .ok outcomes) :
    outcomes.Perm ((batch.places.map Place.alone).filterMap fun occurrence =>
      (contract.requestOf options batch occurrence).toOption) := by
  rw [eq_filterMap_of_mapM_eq_ok (mapM_eq_ok.mpr (map_requestOf returned))]
  exact (batch.placesBySource_perm.map _).filterMap _

theorem outcomes_perm_of_merges (merges : batch.Merges first second)
    {outcomes firstOutcomes secondOutcomes : List Outcome}
    (returned : contract.outcomes options batch = .ok outcomes)
    (firstReturned : contract.outcomes options first = .ok firstOutcomes)
    (secondReturned : contract.outcomes options second = .ok secondOutcomes) :
    outcomes.Perm (firstOutcomes ++ secondOutcomes) := by
  have firstPart := outcomes_perm firstReturned
  have secondPart := outcomes_perm secondReturned
  rw [requestOf_congr merges.format_first merges.sourceList_first] at firstPart
  rw [requestOf_congr merges.format_second merges.sourceList_second] at secondPart
  have parts := merges.alone_perm.filterMap fun occurrence =>
    (contract.requestOf options batch occurrence).toOption
  rw [List.filterMap_append] at parts
  exact (outcomes_perm returned).trans (parts.trans (firstPart.append secondPart).symm)

/-- No location has a part in what becomes of another one. Without one of its locations a batch
has the outcomes that it had, in the same order, but for that of the location. And a batch that
holds the issues of two others is normalized exactly when both are, and its diagnostics, errors
and suppressions are those of the two, in some order. -/
theorem locations_independent (contract : Contract) (options : Options) :
    (∀ (batch : Batch) (result : Normalized) (place : Place),
      contract.normalize options batch = .ok result → place ∈ batch.places →
      ∃ before line after, line.place = place ∧
        contract.Accounts options batch (before ++ line :: after) ∧
        result = .ofOutcomes ((before ++ line :: after).map (·.outcome)) ∧
        contract.normalize options (batch.without place) =
          .ok (.ofOutcomes ((before ++ after).map (·.outcome)))) ∧
    ∀ batch first second : Batch, batch.Merges first second →
      ((∃ result, contract.normalize options batch = .ok result) ↔
        (∃ result, contract.normalize options first = .ok result) ∧
          ∃ result, contract.normalize options second = .ok result) ∧
      ∀ result firstResult secondResult, contract.normalize options batch = .ok result →
        contract.normalize options first = .ok firstResult →
        contract.normalize options second = .ok secondResult →
        result.diagnostics.Perm (firstResult.diagnostics ++ secondResult.diagnostics) ∧
        result.errors.Perm (firstResult.errors ++ secondResult.errors) ∧
        result.suppressions.Perm (firstResult.suppressions ++ secondResult.suppressions) := by
  refine ⟨fun _ _ _ returned member => normalize_without returned member, ?_⟩
  intro batch first second merges
  refine ⟨exists_normalize_of_merges merges, ?_⟩
  intro result firstResult secondResult returned firstReturned secondReturned
  rcases map_eq_ok.mp returned with ⟨outcomes, outcomesOk, rfl⟩
  rcases map_eq_ok.mp firstReturned with ⟨firstOutcomes, firstOk, rfl⟩
  rcases map_eq_ok.mp secondReturned with ⟨secondOutcomes, secondOk, rfl⟩
  have same := outcomes_perm_of_merges merges outcomesOk firstOk secondOk
  simp only [Normalized.ofOutcomes, ← List.filterMap_append]
  exact ⟨same.filterMap _, same.filterMap _, same.filterMap _⟩

/-- The place of the malformed location in the batch with an array. -/
def malformedPlace : Place :=
  { issueNumber := 0, locationNumber := 1
    issue :=
      { head := "Write", tail := "", severity := "High", ruleId := "SWC-131", ruleTitle := ""
        locations := [⟨.text "4:9:0", none⟩, ⟨.text "4:9", none⟩, ⟨.text "0:1:0", none⟩] }
    location := ⟨.text "4:9", none⟩ }

/-- The batch with the issue of the batch with an array and the same issue again. -/
def doubledBatch : Batch :=
  { arrayBatch with issues := arrayBatch.issues ++ arrayBatch.issues }

/-- Without the malformed location there is no error and the same diagnostic, and of everything
twice as much in the doubled batch. -/
theorem locations_independent_arrayBatch :
    ∃ result smaller doubled,
      arrayContract.normalize .default arrayBatch = .ok result ∧
      arrayContract.normalize .default (arrayBatch.without malformedPlace) = .ok smaller ∧
      arrayContract.normalize .default doubledBatch = .ok doubled ∧
      (∃ (before : List LedgerLine) (line : LedgerLine) (after : List LedgerLine),
        line.place = malformedPlace ∧
        result = .ofOutcomes ((before ++ line :: after).map (·.outcome)) ∧
        smaller = .ofOutcomes ((before ++ after).map (·.outcome))) ∧
      doubled.diagnostics.Perm (result.diagnostics ++ result.diagnostics) ∧
      (result.errors.length, smaller.errors.length, doubled.errors.length) = (1, 0, 2) := by
  have counts : (arrayContract.normalize .default arrayBatch).map (·.errors.length) = .ok 1 := rfl
  have smallerCounts : (arrayContract.normalize .default
      (arrayBatch.without malformedPlace)).map (·.errors.length) = .ok 0 := rfl
  have doubledCounts : (arrayContract.normalize .default doubledBatch).map (·.errors.length) =
      .ok 2 := rfl
  rcases map_eq_ok.mp counts with ⟨result, returned, count⟩
  rcases map_eq_ok.mp smallerCounts with ⟨smaller, smallerReturned, smallerCount⟩
  rcases map_eq_ok.mp doubledCounts with ⟨doubled, doubledReturned, doubledCount⟩
  rcases (locations_independent arrayContract .default).1 arrayBatch result malformedPlace
    returned (Batch.mem_places.mpr ⟨rfl, rfl⟩) with ⟨before, line, after, place, -, whole, rest⟩
  have merges : doubledBatch.Merges arrayBatch arrayBatch := ⟨rfl, rfl, rfl, rfl, .refl _⟩
  have diagnostics := (((locations_independent arrayContract .default).2 doubledBatch arrayBatch
    arrayBatch merges).2 doubled result result doubledReturned returned returned).1
  refine ⟨result, smaller, doubled, returned, smallerReturned, doubledReturned,
    ⟨before, line, after, place, whole, ?_⟩, diagnostics, ?_⟩
  · exact Except.ok.inj (smallerReturned.symm.trans rest)
  · rw [count, smallerCount, doubledCount]

end Contract

end Pinpoint
