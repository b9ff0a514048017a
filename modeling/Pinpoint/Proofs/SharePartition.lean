import Pinpoint.Proofs.ReportedNames
import Pinpoint.Proofs.UnusableArtifacts

/-!
# The shares as a partition

The shares of a batch cut its places into parts, one for each source. Which part a place is in is
told from its source-map text and from the number of sources, and whatever keeps a location from
naming one of them puts it into the first part. So no place is lost or doubled, and a part has its
places in the order of the batch. There is only one way to cut a batch like this.
-/

namespace Pinpoint

theorem Place.Precedes.asymm {first second : Place} (before : first.Precedes second) :
    ¬second.Precedes first := by
  rw [Place.Precedes] at before ⊢
  omega

/-- A place without its numbers. -/
def Place.occurrence (place : Place) : Issue × Location :=
  (place.issue, place.location)

namespace Batch

/-- Whether shares cut a batch into parts, given by the places in them. -/
structure Divides (batch : Batch) (shares : List SourceShare) (parts : List (List Place)) :
    Prop where
  sources_of_none : batch.sourceList = [] → shares.map (·.source) = [.text ""]
  sources_of_some : batch.sourceList ≠ [] → shares.map (·.source) = batch.sourceList
  format_eq : ∀ share ∈ shares, share.format = batch.format
  sourceList_eq : ∀ share ∈ shares, share.sourceList = batch.sourceList
  items_eq : shares.map (·.items) = parts.map fun part => part.map Place.occurrence
  /-- Each place is in one part, once. -/
  perm : parts.flatten.Perm batch.places
  /-- The places of a part keep their order. -/
  sublist : ∀ part ∈ parts, part.Sublist batch.places
  mem_iff : ∀ slot part, parts[slot]? = some part → ∀ place, place ∈ part ↔
    place ∈ batch.places ∧ place.location.BelongsTo shares.length slot

/-! ## The parts of a batch -/

variable {batch : Batch}

/-- The parts that the shares of a batch are made of. -/
def parts (batch : Batch) : List (List Place) :=
  (List.range batch.sources.length).map batch.placesOf

theorem exists_shares_eq_ok (textual : batch.IsTextual) : ∃ shares, batch.shares = .ok shares := by
  cases shared : batch.shares with
  | ok shares => exact ⟨shares, rfl⟩
  | error error =>
      rcases shares_eq_error.mp ⟨error, shared⟩ with ⟨place, member, untextual⟩
      exact absurd untextual (textual.not_untextual member)

theorem map_source_shareOf (batch : Batch) :
    ((List.range batch.sources.length).map batch.shareOf).map (·.source) = batch.sources := by
  apply List.ext_getElem
  · simp
  · intro slot bound sourceBound
    simp [shareOf, sourceBound]

theorem divides_of_shares_eq_ok {shares : List SourceShare}
    (shared : batch.shares = .ok shares) : batch.Divides shares batch.parts := by
  obtain ⟨rfl, readable⟩ := shares_eq_ok shared
  have carried (share : SourceShare)
      (member : share ∈ (List.range batch.sources.length).map batch.shareOf) :
      share.format = batch.format ∧ share.sourceList = batch.sourceList := by
    rcases List.mem_map.mp member with ⟨slot, -, rfl⟩
    exact ⟨rfl, rfl⟩
  refine ⟨?_, ?_, fun share member => (carried share member).1,
    fun share member => (carried share member).2, ?_, ?_, ?_, ?_⟩
  · intro none
    rw [map_source_shareOf, sources, none]
    rfl
  · intro some
    rw [map_source_shareOf, sources, if_neg (by simpa using some)]
  · rw [parts, List.map_map, List.map_map]
    rfl
  · rw [parts, ← List.flatMap_def]
    exact batch.placesBySource_perm
  · intro part member
    rcases List.mem_map.mp member with ⟨slot, -, rfl⟩
    exact List.filter_sublist
  · intro slot part listed place
    rw [List.length_map, List.length_range]
    have part_eq : batch.placesOf slot = part := by
      rw [parts, List.getElem?_map, Option.map_eq_some_iff] at listed
      rcases listed with ⟨number, numbered, rfl⟩
      rcases List.getElem?_eq_some_iff.mp numbered with ⟨bound, same⟩
      rw [List.getElem_range] at same
      rw [same]
    rw [← part_eq, placesOf, List.mem_filter, beq_iff_eq]
    apply and_congr_right
    intro member
    rcases sourceMapText_of_slot (readable place member) with ⟨text, textOk⟩
    rw [Location.belongsTo_iff textOk, readable place member, Except.ok.injEq]

/-- The parts are determined by which places are in each of them, since all keep the order of the
batch. -/
theorem Divides.parts_eq {shares others : List SourceShare} {parts otherParts : List (List Place)}
    (first : batch.Divides shares parts) (second : batch.Divides others otherParts)
    (same : shares.length = others.length) : parts = otherParts := by
  have lengths := congrArg List.length first.items_eq
  have otherLengths := congrArg List.length second.items_eq
  simp only [List.length_map] at lengths otherLengths
  apply List.ext_getElem
  · rw [← lengths, ← otherLengths, same]
  · intro slot bound otherBound
    have ordered := batch.places_pairwise.sublist (first.sublist _ (List.getElem_mem bound))
    have otherOrdered :=
      batch.places_pairwise.sublist (second.sublist _ (List.getElem_mem otherBound))
    have different {place other : Place} (before : place.Precedes other) : place ≠ other := by
      rintro rfl
      exact Place.Precedes.asymm before before
    apply List.Perm.eq_of_pairwise _ ordered otherOrdered
    · apply (List.perm_ext_iff_of_nodup (ordered.imp different) (otherOrdered.imp different)).mpr
      intro place
      rw [first.mem_iff slot _ (List.getElem?_eq_getElem bound),
        second.mem_iff slot _ (List.getElem?_eq_getElem otherBound), same]
    · intro place other _ _ before after
      exact absurd after (Place.Precedes.asymm before)

theorem Divides.sources_eq {shares : List SourceShare} {parts : List (List Place)}
    (divides : batch.Divides shares parts) : shares.map (·.source) = batch.sources := by
  rw [sources]
  split
  next none => exact divides.sources_of_none (List.isEmpty_iff.mp none)
  next some => exact divides.sources_of_some (mt List.isEmpty_iff.mpr some)

theorem Divides.shares_eq {shares others : List SourceShare} {parts otherParts : List (List Place)}
    (first : batch.Divides shares parts) (second : batch.Divides others otherParts) :
    shares = others := by
  have sources := first.sources_eq.trans second.sources_eq.symm
  have lengths := congrArg List.length sources
  rw [List.length_map, List.length_map] at lengths
  have items : shares.map (·.items) = others.map (·.items) := by
    rw [first.items_eq, second.items_eq, first.parts_eq second lengths]
  apply List.ext_getElem lengths
  intro slot bound otherBound
  have sourceEq := List.getElem_of_eq sources (by simpa using bound)
  have itemsEq := List.getElem_of_eq items (by simpa using bound)
  have formatEq := (first.format_eq _ (List.getElem_mem bound)).trans
    (second.format_eq _ (List.getElem_mem otherBound)).symm
  have sourceListEq := (first.sourceList_eq _ (List.getElem_mem bound)).trans
    (second.sourceList_eq _ (List.getElem_mem otherBound)).symm
  rw [List.getElem_map, List.getElem_map] at sourceEq itemsEq
  rw [SourceShare.mk.injEq]
  exact ⟨sourceEq, formatEq, sourceListEq, itemsEq⟩

/-- A batch whose locations have texts or nulls has shares, and they are the only ones that cut the
batch into parts: one for each source, or a nameless one if there is none, with the format and the
source list of the batch, and with the places that belong to the source in the order of the
batch. -/
theorem shares_partition (batch : Batch) (textual : batch.IsTextual) :
    (∃ shares, batch.shares = .ok shares) ∧
    ∀ shares, batch.shares = .ok shares ↔ ∃ parts, batch.Divides shares parts := by
  rcases exists_shares_eq_ok textual with ⟨found, shared⟩
  refine ⟨⟨found, shared⟩, fun shares => ⟨fun given => ?_, ?_⟩⟩
  · exact ⟨batch.parts, divides_of_shares_eq_ok given⟩
  · rintro ⟨parts, divides⟩
    rw [shared, (divides_of_shares_eq_ok shared).shares_eq divides]

/-- A batch with two issues whose source list has a name twice. Some locations are in the second
and in the third source, and four belong to the first one because they are in none. -/
def scatteredBatch : Batch :=
  { format := "text", sourceType := ""
    sourceList := [.text "v.sol", .text "lib.sol", .text "v.sol"]
    issues :=
      [{ head := "Write", tail := "", severity := "High", ruleId := "SWC-124", ruleTitle := ""
         locations := [⟨.text "0:1:2", none⟩, ⟨.null, some 3⟩, ⟨.text "2:1:1", none⟩] },
       { head := "Call", tail := "", severity := "Low", ruleId := "SWC-107", ruleTitle := ""
         locations := [⟨.text "0:1:-1", none⟩, ⟨.text " 4:1:1 ", none⟩, ⟨.text "2:1", none⟩,
           ⟨.text "0:1:3", none⟩, ⟨.text "6:1:2", none⟩] }] }

theorem isTextual_scatteredBatch : scatteredBatch.IsTextual := by
  have texts (text : String) : (Json.text text).IsText := ⟨text, rfl⟩
  simp [IsTextual, scatteredBatch, texts]

theorem shares_partition_scatteredBatch :
    scatteredBatch.IsTextual ∧ ∃ shares parts, scatteredBatch.shares = .ok shares ∧
      scatteredBatch.Divides shares parts ∧
      (shares.map fun share => share.items.map fun item =>
        (item.1.ruleId, item.2.sourceMapText.toOption)) =
        [[("SWC-124", some ""), ("SWC-107", some "0:1:-1"), ("SWC-107", some "2:1"),
            ("SWC-107", some "0:1:3")],
          [("SWC-124", some "2:1:1"), ("SWC-107", some " 4:1:1 ")],
          [("SWC-124", some "0:1:2"), ("SWC-107", some "6:1:2")]] := by
  have listed : (scatteredBatch.shares).map (fun shares => shares.map fun share =>
      share.items.map fun item => (item.1.ruleId, item.2.sourceMapText.toOption)) = .ok _ := rfl
  rcases map_eq_ok.mp listed with ⟨shares, shared, items⟩
  rcases ((shares_partition scatteredBatch isTextual_scatteredBatch).2 shares).mp shared with
    ⟨parts, divides⟩
  exact ⟨isTextual_scatteredBatch, shares, parts, shared, divides, items⟩

end Batch

end Pinpoint
