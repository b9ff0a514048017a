import Pinpoint.Finding.Attribution
import Pinpoint.Proofs.Results

/-!
# The attribution of locations

Every location of a batch has a place: the number of its issue and its own number within the
issue. Attribution gives each place one of the sources of the batch and lists the places source
by source. The list is a rearrangement of all places, ordered by source, then by issue, then by
location.
-/

namespace Pinpoint

/-- A location of a batch with its issue and the numbers of both, counted from zero. -/
structure Place where
  issueNumber : Nat
  /-- The number of the location within its issue. -/
  locationNumber : Nat
  issue : Issue
  location : Location

/-- Whether a place comes before another one in the order of the batch. -/
def Place.Precedes (first second : Place) : Prop :=
  first.issueNumber < second.issueNumber ∨
    first.issueNumber = second.issueNumber ∧ first.locationNumber < second.locationNumber

namespace Batch

/-- The places of a batch, in order. -/
def places (batch : Batch) : List Place :=
  batch.issues.zipIdx.flatMap fun (issue, issueNumber) =>
    issue.locations.zipIdx.map fun (location, locationNumber) =>
      { issueNumber, locationNumber, issue, location }

theorem mem_places {batch : Batch} {place : Place} :
    place ∈ batch.places ↔ batch.issues[place.issueNumber]? = some place.issue ∧
      place.issue.locations[place.locationNumber]? = some place.location := by
  simp only [places, List.mem_flatMap, List.mem_map]
  constructor
  · intro given
    rcases given with
      ⟨⟨issue, issueNumber⟩, issueMem, ⟨location, locationNumber⟩, locationMem, rfl⟩
    exact ⟨List.mem_zipIdx_iff_getElem?.mp issueMem,
      List.mem_zipIdx_iff_getElem?.mp locationMem⟩
  · intro given
    rcases given with ⟨issueAt, locationAt⟩
    exact ⟨(place.issue, place.issueNumber), List.mem_zipIdx_iff_getElem?.mpr issueAt,
      (place.location, place.locationNumber), List.mem_zipIdx_iff_getElem?.mpr locationAt, rfl⟩

theorem zipIdx_pairwise {α : Type} (values : List α) :
    values.zipIdx.Pairwise fun first second => first.2 < second.2 := by
  have numbers : (values.zipIdx.map Prod.snd).Pairwise (· < ·) := by
    rw [List.zipIdx_map_snd]
    exact List.pairwise_lt_range'
  exact List.pairwise_map.mp numbers

theorem places_pairwise (batch : Batch) : batch.places.Pairwise Place.Precedes := by
  apply List.pairwise_flatMap.mpr
  constructor
  · rintro ⟨issue, issueNumber⟩ -
    apply List.pairwise_map.mpr
    apply (zipIdx_pairwise issue.locations).imp
    intro first second before
    exact .inr ⟨rfl, before⟩
  · apply (zipIdx_pairwise batch.issues).imp
    rintro ⟨issue, issueNumber⟩ ⟨other, otherNumber⟩ before first firstMem second secondMem
    obtain ⟨⟨_, _⟩, -, rfl⟩ := List.mem_map.mp firstMem
    obtain ⟨⟨_, _⟩, -, rfl⟩ := List.mem_map.mp secondMem
    exact .inl before

/-- Numbering the elements of a list and forgetting the numbers changes nothing. -/
theorem map_zipIdx {α β : Type} (values : List α) (start : Nat) (image : α → β) :
    ((values.zipIdx start).map fun pair => image pair.1) = values.map image :=
  calc ((values.zipIdx start).map fun pair => image pair.1)
    _ = ((values.zipIdx start).map Prod.fst).map image := by rw [List.map_map]; rfl
    _ = values.map image := by rw [List.zipIdx_map_fst]

/-- The occurrences of a batch are its places without their numbers. -/
theorem occurrences_eq_map_places (batch : Batch) :
    batch.occurrences = batch.places.map fun place => (place.issue, place.location) := by
  have unnumbered (issue : Issue) (issueNumber : Nat) :
      (issue.locations.zipIdx.map fun (location, locationNumber) =>
        ({ issueNumber, locationNumber, issue, location } : Place)).map
          (fun place => (place.issue, place.location)) =
        issue.locations.map fun location => (issue, location) := by
    rw [List.map_map]
    exact map_zipIdx issue.locations 0 fun location => (issue, location)
  rw [occurrences, places, List.map_flatMap, List.flatMap_def, List.flatMap_def,
    ← map_zipIdx batch.issues 0]
  simp only [unnumbered]

/-! ## The source of a place -/

/-- The number of the source that a location of the batch belongs to, as far as its source-map
text can be read. -/
def slotOf (batch : Batch) (location : Location) : Nat :=
  match location.slot batch.sources.length with
  | .ok slot => slot
  | .error _ => 0

theorem sources_length_pos (batch : Batch) : 0 < batch.sources.length := by
  rw [sources]
  split
  next => exact Nat.one_pos
  next nonempty =>
    apply List.length_pos_iff.mpr
    intro empty
    rw [empty] at nonempty
    exact nonempty rfl

/-- A location belongs to one of the sources. -/
theorem slot_lt {location : Location} {sourceCount slot : Nat} (positive : 0 < sourceCount)
    (returned : location.slot sourceCount = .ok slot) : slot < sourceCount := by
  rw [Location.slot] at returned
  split at returned
  next =>
    obtain ⟨text, -, returned⟩ := bind_eq_ok.mp returned
    split at returned
    next =>
      cases returned
      exact positive
    next entry _ =>
      split at returned
      next bounds =>
        cases returned
        omega
      next =>
        cases returned
        exact positive
  next =>
    cases returned
    exact positive

theorem slotOf_lt (batch : Batch) (location : Location) :
    batch.slotOf location < batch.sources.length := by
  rw [slotOf]
  split
  next slot returned => exact slot_lt batch.sources_length_pos returned
  next => exact batch.sources_length_pos

theorem attributed_eq_ok {batch : Batch} {attributed : List (Nat × Issue × Location)}
    (returned : batch.attributed = .ok attributed) :
    attributed = (batch.occurrences.map fun occurrence =>
      (batch.slotOf occurrence.2, occurrence)) ∧
    ∀ place ∈ batch.places,
      place.location.slot batch.sources.length = .ok (batch.slotOf place.location) := by
  have agrees (occurrence : Issue × Location) (result : Nat × Issue × Location)
      (found : (do return (← occurrence.2.slot batch.sources.length, occurrence) :
        Except ShapeError (Nat × Issue × Location)) = .ok result) :
      (batch.slotOf occurrence.2, occurrence) = result := by
    obtain ⟨slot, slotOk, equal⟩ := bind_eq_ok.mp found
    cases equal
    rw [slotOf, slotOk]
  obtain ⟨equal, each⟩ := mapM_eq_ok_map agrees returned
  refine ⟨equal, ?_⟩
  intro place member
  have occurs : (place.issue, place.location) ∈ batch.occurrences := by
    rw [occurrences_eq_map_places]
    exact List.mem_map_of_mem member
  obtain ⟨slot, slotOk, same⟩ := bind_eq_ok.mp (each _ occurs)
  cases same
  exact slotOk

/-! ## Source by source -/

/-- The places that belong to a source, in the order of the batch. -/
def placesOf (batch : Batch) (slot : Nat) : List Place :=
  batch.places.filter fun place => batch.slotOf place.location == slot

/-- The places of the first source, then those of the second, and so on. -/
def placesBySource (batch : Batch) : List Place :=
  (List.range batch.sources.length).flatMap batch.placesOf

/-- Elements listed by their key are a rearrangement of those whose key is listed. -/
theorem flatMap_range_filter_perm {α : Type} (values : List α) (key : α → Nat) (count : Nat) :
    ((List.range count).flatMap fun slot => values.filter fun value => key value == slot).Perm
      (values.filter fun value => decide (key value < count)) := by
  induction count with
  | zero => simp
  | succ count ih =>
      have below : (values.filter fun value => decide (key value < count + 1)).filter
          (fun value => decide (key value < count)) =
            values.filter fun value => decide (key value < count) := by
        rw [List.filter_filter]
        apply List.filter_congr
        intro value _
        rw [Bool.eq_iff_iff, Bool.and_eq_true, decide_eq_true_eq, decide_eq_true_eq]
        omega
      have last : (values.filter fun value => decide (key value < count + 1)).filter
          (fun value => !decide (key value < count)) =
            values.filter fun value => key value == count := by
        rw [List.filter_filter]
        apply List.filter_congr
        intro value _
        rw [Bool.eq_iff_iff, Bool.and_eq_true, Bool.not_eq_true', decide_eq_false_iff_not,
          decide_eq_true_eq, beq_iff_eq]
        omega
      rw [List.range_succ, List.flatMap_append, List.flatMap_singleton]
      apply (ih.append_right _).trans
      rw [← below, ← last]
      exact List.filter_append_perm _ _

/-- No place is dropped and none is listed twice. -/
theorem placesBySource_perm (batch : Batch) : batch.placesBySource.Perm batch.places := by
  have all : (batch.places.filter fun place =>
      decide (batch.slotOf place.location < batch.sources.length)) = batch.places := by
    apply List.filter_eq_self.mpr
    intro place _
    exact decide_eq_true (batch.slotOf_lt place.location)
  have listed := flatMap_range_filter_perm batch.places (fun place => batch.slotOf place.location)
    batch.sources.length
  rw [all] at listed
  exact listed

/-- The places are ordered by source, and those of one source as in the batch. -/
theorem placesBySource_pairwise (batch : Batch) :
    batch.placesBySource.Pairwise fun first second =>
      batch.slotOf first.location < batch.slotOf second.location ∨
        batch.slotOf first.location = batch.slotOf second.location ∧ first.Precedes second := by
  have slotOf_eq {place : Place} {slot : Nat} (member : place ∈ batch.placesOf slot) :
      batch.slotOf place.location = slot := eq_of_beq (List.mem_filter.mp member).2
  apply List.pairwise_flatMap.mpr
  constructor
  · intro slot _
    apply (batch.places_pairwise.filter _).imp_of_mem
    intro first second firstMem secondMem before
    exact .inr ⟨(slotOf_eq firstMem).trans (slotOf_eq secondMem).symm, before⟩
  · apply List.pairwise_lt_range.imp
    intro slot otherSlot before first firstMem second secondMem
    rw [slotOf_eq firstMem, slotOf_eq secondMem]
    exact .inl before

/-- The share of the source with a number. -/
def shareOf (batch : Batch) (slot : Nat) : SourceShare :=
  { source := batch.sources.getD slot .null
    format := batch.format
    sourceList := batch.sourceList
    items := (batch.placesOf slot).map fun place => (place.issue, place.location) }

/-- Each share has the places of its source. -/
theorem shares_eq_ok {batch : Batch} {shares : List SourceShare}
    (returned : batch.shares = .ok shares) :
    shares = (List.range batch.sources.length).map batch.shareOf ∧
    ∀ place ∈ batch.places,
      place.location.slot batch.sources.length = .ok (batch.slotOf place.location) := by
  obtain ⟨attributed, attributedOk, equal⟩ := bind_eq_ok.mp returned
  obtain ⟨rfl, readable⟩ := attributed_eq_ok attributedOk
  refine ⟨?_, readable⟩
  cases equal
  apply List.ext_getElem
  · rw [List.length_map, List.length_map, List.length_zipIdx, List.length_range]
  · intro slot bound _
    rw [List.length_map, List.length_zipIdx] at bound
    rw [List.getElem_map, List.getElem_map, List.getElem_zipIdx, List.getElem_range, shareOf,
      List.getD_eq_getElem?_getD, List.getElem?_eq_getElem bound, placesOf]
    simp only [occurrences_eq_map_places, List.filter_map, List.map_map, Nat.zero_add]
    rfl

/-- Going through the shares and their items is going through the places source by source. -/
theorem flatMap_items_shareOf (batch : Batch) :
    (((List.range batch.sources.length).map batch.shareOf).flatMap fun share =>
      share.items.map fun item => (share, item)) =
    batch.placesBySource.map fun place =>
      (batch.shareOf (batch.slotOf place.location), place.issue, place.location) := by
  rw [placesBySource, List.flatMap_map, List.map_flatMap]
  congr 1
  funext slot
  simp only [shareOf, List.map_map]
  apply List.map_congr_left
  intro place member
  rw [eq_of_beq (List.mem_filter.mp member).2]
  rfl

end Batch

end Pinpoint
