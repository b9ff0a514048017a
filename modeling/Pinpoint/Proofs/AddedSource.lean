import Pinpoint.Proofs.Provenance
import Pinpoint.Proofs.StoppedBatches

/-!
# One more source

An entry may name a source that is not at hand under exactly this name. Then the source with the
same file name stands in for it, as long as there is only one. Supplying one more source can make
a file name ambiguous, or be the one that a name was missing. So it takes places away and gives
some, but it leads nothing from one place to another, except for entries that name exactly it.
-/

namespace Pinpoint

namespace Contract

/-- A contract with one more source, at some position among the others. -/
def withSource (contract : Contract) (position : Nat) (name : String) (index : LineIndex) :
    Contract :=
  { contract with
    lineIndexes :=
      contract.lineIndexes.take position ++ (name, index) :: contract.lineIndexes.drop position }

variable {contract : Contract} {position : Nat} {name : String} {index : LineIndex}

/-! ## The lookup of a name -/

/-- For any other name the lookup finds what it found before, unless the two have the same file
name. Then it finds nothing where it found something, or the new source where it found nothing. -/
theorem lineIndex?_withSource {listed : String} (other : listed ≠ name) :
    (contract.withSource position name index).lineIndex? listed = contract.lineIndex? listed ∨
      baseName listed = baseName name ∧
        ((∃ found, contract.lineIndex? listed = some found) ∧
            (contract.withSource position name index).lineIndex? listed = none ∨
          contract.lineIndex? listed = none ∧
            (contract.withSource position name index).lineIndex? listed = some index) := by
  rcases (⟨_, _, (List.take_append_drop position _).symm, rfl⟩ :
    ∃ before after, contract.lineIndexes = before ++ after ∧
      (contract.withSource position name index).lineIndexes =
        before ++ (name, index) :: after) with ⟨before, after, indexes, largerIndexes⟩
  have different : (name == listed) = false := beq_eq_false_iff_ne.mpr other.symm
  simp only [lineIndex?, indexes, largerIndexes, List.find?_append, List.find?_cons, different]
  cases (before.find? fun source => source.1 == listed).or
      (after.find? fun source => source.1 == listed) with
  | some source => exact .inl rfl
  | none =>
      simp only [List.filter_append, List.filter_cons]
      cases same : baseName name == baseName listed with
      | false => exact .inl rfl
      | true =>
          have same := (eq_of_beq same).symm
          cases before.filter fun source => baseName source.1 == baseName listed with
          | nil =>
              cases after.filter fun source => baseName source.1 == baseName listed with
              | nil => exact .inr ⟨same, .inr ⟨rfl, rfl⟩⟩
              | cons first rest =>
                  cases rest with
                  | nil => exact .inr ⟨same, .inl ⟨⟨_, rfl⟩, rfl⟩⟩
                  | cons => exact .inl rfl
          | cons first rest =>
              cases rest with
              | nil =>
                  cases after.filter fun source => baseName source.1 == baseName listed with
                  | nil => exact .inr ⟨same, .inl ⟨⟨_, rfl⟩, rfl⟩⟩
                  | cons => exact .inl rfl
              | cons => exact .inl rfl

/-! ## The span of an entry -/

variable {entry : Entry} {names : List Json} {listed : String}

theorem isResolved_spanIn (named : entry.hasSource = true) (index : LineIndex) :
    (entry.spanIn index).isResolved = true := by
  rw [Bytecode.spanIn_of_hasSource named, Span.isResolved, bne_iff_ne]
  exact Int.ne_of_gt (Int.lt_of_lt_of_le (by decide) (Int.natCast_nonneg _))

/-- How one more source changes a span: it takes a place away, or it gives one in itself. -/
inductive SpanShifts (entry : Entry) (index : LineIndex) : Span → Span → Prop
  | lost {span : Span} : span.isResolved = true → SpanShifts entry index span .unresolved
  | gained : (entry.spanIn index).isResolved = true →
      SpanShifts entry index .unresolved (entry.spanIn index)

theorem spanOf_withSource (contract : Contract) (position : Nat) (name : String)
    (index : LineIndex) (denoted : entry.hasSource = true)
    (named : fileNameAt? names entry.fileIndex = some (.text listed)) :
    ∃ span other, contract.spanOf entry names = .ok span ∧
      (contract.withSource position name index).spanOf entry names = .ok other ∧
      (other = span ∨
        baseName listed = baseName name ∧ (listed = name ∨ SpanShifts entry index span other)) := by
  refine ⟨_, _, spanOf_of_named named, spanOf_of_named named, ?_⟩
  by_cases exactly : listed = name
  · exact .inr ⟨congrArg baseName exactly, .inl exactly⟩
  · rcases lineIndex?_withSource exactly with
      same | ⟨same, ⟨⟨found, before⟩, after⟩ | ⟨before, after⟩⟩
    · rw [same]
      exact .inl rfl
    · rw [before, after]
      exact .inr ⟨same, .inr (.lost (isResolved_spanIn denoted found))⟩
    · rw [before, after]
      exact .inr ⟨same, .inr (.gained (isResolved_spanIn denoted index))⟩

/-! ## The outcome of a location -/

variable {options : Options} {issue : Issue} {location : Location} {batch : Batch} {slot : Nat}
variable {attributedTo : Json}

/-- What becomes of an entry with a known span depends on the suppression only. -/
theorem outcomeAt_of_spanOf {span : Span} (spanOk : contract.spanOf entry names = .ok span)
    (named : fileNameAt? names entry.fileIndex = some (.text listed)) :
    contract.outcomeAt options issue entry names attributedTo =
      (contract.suppresses options issue entry names).map fun suppressed =>
        if suppressed then .suppressed (contract.suppression options issue entry)
        else .diagnostic (issue.diagnosticAt options span
          (if span.isResolved then (Json.text listed).orElse attributedTo else attributedTo)) := by
  rw [outcomeAt, spanOk, named]
  cases contract.suppresses options issue entry names with
  | error error => rfl
  | ok suppressed => cases suppressed <;> rfl

/-- How one more source changes the diagnostic of an issue at an entry that names another source:
it takes the place away, or gives one in itself. -/
inductive Shifts (options : Options) (issue : Issue) (entry : Entry) (index : LineIndex)
    (listed : String) (attributedTo : Json) : Diagnostic Json → Diagnostic Json → Prop
  | lost {span : Span} : span.isResolved = true →
      Shifts options issue entry index listed attributedTo
        (issue.diagnosticAt options span ((Json.text listed).orElse attributedTo))
        (issue.diagnosticAt options .unresolved attributedTo)
  | gained : (entry.spanIn index).isResolved = true →
      Shifts options issue entry index listed attributedTo
        (issue.diagnosticAt options .unresolved attributedTo)
        (issue.diagnosticAt options (entry.spanIn index) ((Json.text listed).orElse attributedTo))

/-- The same suppressions apply, so only the spans can tell the two outcomes of an entry apart. -/
theorem outcomeAt_withSource (contract : Contract) (position : Nat) (name : String)
    (index : LineIndex) (options : Options) (issue : Issue) (attributedTo : Json)
    (denoted : entry.hasSource = true)
    (named : fileNameAt? names entry.fileIndex = some (.text listed)) :
    (contract.withSource position name index).outcomeAt options issue entry names attributedTo =
        contract.outcomeAt options issue entry names attributedTo ∨
      ∃ before after, baseName listed = baseName name ∧
        contract.outcomeAt options issue entry names attributedTo = .ok (.diagnostic before) ∧
        (contract.withSource position name index).outcomeAt options issue entry names
          attributedTo = .ok (.diagnostic after) ∧
        (listed = name ∨ Shifts options issue entry index listed attributedTo before after) := by
  rcases spanOf_withSource contract position name index denoted named with
    ⟨span, other, spanOk, otherOk, related⟩
  have sameSuppression : (contract.withSource position name index).suppresses options issue entry
      names = contract.suppresses options issue entry names := rfl
  rw [outcomeAt_of_spanOf spanOk named, outcomeAt_of_spanOf otherOk named, sameSuppression]
  rcases related with rfl | ⟨sameName, related⟩
  · exact .inl rfl
  · cases contract.suppresses options issue entry names with
    | error error => exact .inl rfl
    | ok suppressed =>
        cases suppressed with
        | true => exact .inl rfl
        | false =>
            refine .inr ⟨_, _, sameName, rfl, rfl, related.imp id ?_⟩
            intro shifts
            cases shifts with
            | lost resolved =>
                rw [if_pos resolved]
                exact .lost resolved
            | gained resolved =>
                rw [if_pos resolved]
                exact .gained resolved

/-- The names that the entries of a batch count in. -/
def namesUsed (contract : Contract) (format : String) (sourceList : List Json) : List Json :=
  if format = bytecodeFormat ∧ contract.artifact.sourceList ≠ [] then
    contract.artifact.sourceList.map Json.text
  else sourceList

theorem Denotes.names_eq {format : String} {sourceList : List Json}
    (denotes : contract.Denotes location sourceList format entry names) :
    names = contract.namesUsed format sourceList := by
  cases denotes with
  | written other => rw [namesUsed, if_neg fun used => other used.1]
  | instruction =>
      rw [namesUsed]
      by_cases empty : contract.artifact.sourceList = []
      · rw [if_pos empty, if_neg fun used => used.2 empty]
      · rw [if_neg empty, if_pos ⟨rfl, empty⟩]

theorem isText_namesUsed {format : String} {sourceList : List Json}
    (texts : ∀ name ∈ sourceList, name.IsText) :
    ∀ name ∈ contract.namesUsed format sourceList, name.IsText := by
  rw [namesUsed]
  split
  next =>
    intro name member
    rcases List.mem_map.mp member with ⟨path, -, rfl⟩
    exact ⟨path, rfl⟩
  next => exact texts

theorem denotes_withSource {format : String} {sourceList : List Json} :
    (contract.withSource position name index).Denotes location sourceList format entry names ↔
      contract.Denotes location sourceList format entry names := by
  rw [denotes_iff, denotes_iff]
  rfl

theorem outcomeOf_withSource_of_not_denotes
    (undenoted : ∀ entry names,
      ¬contract.Denotes location batch.sourceList batch.format entry names) :
    (contract.withSource position name index).outcomeOf options (batch.shareOf slot) issue
      location = contract.outcomeOf options (batch.shareOf slot) issue location := by
  have same : (contract.withSource position name index).normalizeLocation options issue location
      (batch.shareOf slot).format (batch.shareOf slot).source (batch.shareOf slot).sourceList =
        contract.normalizeLocation options issue location (batch.shareOf slot).format
          (batch.shareOf slot).source (batch.shareOf slot).sourceList := by
    change (contract.locate location batch.format batch.sourceList >>= _) =
      (contract.locate location batch.format batch.sourceList >>= _)
    cases located : contract.locate location batch.format batch.sourceList with
    | error fault => rfl
    | ok found =>
        rcases found with ⟨found, names⟩
        cases found with
        | none => rfl
        | some entry => exact absurd (denotes_iff.mpr located) (undenoted entry names)
  rw [outcomeOf, outcomeOf, same]

/-- What becomes of a location is the same with one more source, or it is a diagnostic before and
after, for an entry whose name has the file name of the source. -/
theorem outcomeOf_withSource (contract : Contract) (position : Nat) (name : String)
    (index : LineIndex) (options : Options) (slot : Nat) (issue : Issue) (location : Location)
    (texts : ∀ name ∈ batch.sourceList, name.IsText) :
    (contract.withSource position name index).outcomeOf options (batch.shareOf slot) issue
        location = contract.outcomeOf options (batch.shareOf slot) issue location ∨
      ∃ entry names listed before after,
        contract.Denotes location batch.sourceList batch.format entry names ∧
        fileNameAt? names entry.fileIndex = some (.text listed) ∧
        baseName listed = baseName name ∧
        contract.outcomeOf options (batch.shareOf slot) issue location =
          .ok (.diagnostic before) ∧
        (contract.withSource position name index).outcomeOf options (batch.shareOf slot) issue
          location = .ok (.diagnostic after) ∧
        (listed = name ∨ Shifts options issue entry index listed (batch.sources.getD slot .null)
          before after) := by
  by_cases denoted : ∃ entry names,
    contract.Denotes location batch.sourceList batch.format entry names
  · rcases denoted with ⟨entry, names, denotes⟩
    rw [outcomeOf_of_denotes denotes, outcomeOf_of_denotes (denotes_withSource.mpr denotes)]
    cases named : fileNameAt? names entry.fileIndex with
    | none =>
        left
        rw [outcomeAt, outcomeAt, spanOf, spanOf, named]
        rfl
    | some value =>
        have member := mem_of_fileNameAt? named
        rw [denotes.names_eq] at member
        rcases isText_namesUsed texts value member with ⟨listed, rfl⟩
        rcases outcomeAt_withSource contract position name index options issue
            (batch.sources.getD slot .null) denotes.hasSource named with
          same | ⟨before, after, sameName, beforeOk, afterOk, related⟩
        · exact .inl (congrArg _ same)
        · rw [beforeOk, afterOk]
          exact .inr ⟨entry, names, listed, before, after, denotes, named, sameName, rfl, rfl,
            related⟩
  · left
    apply outcomeOf_withSource_of_not_denotes
    intro entry names denotes
    exact denoted ⟨entry, names, denotes⟩

/-! ## The outcomes of a batch -/

/-- Whether a location of a batch denotes an entry that names exactly this source. -/
def NamesSource (contract : Contract) (batch : Batch) (location : Location) (name : String) :
    Prop :=
  ∃ entry names, contract.Denotes location batch.sourceList batch.format entry names ∧
    fileNameAt? names entry.fileIndex = some (.text name)

/-- How what becomes of a location is related to what becomes of it with one more source. -/
structure Follows (contract : Contract) (options : Options) (batch : Batch) (name : String)
    (index : LineIndex) (slot : Nat) (issue : Issue) (location : Location)
    (outcome larger : Outcome) : Prop where
  error_eq : larger.error? = outcome.error?
  suppression_eq : larger.suppression? = outcome.suppression?
  isSome_eq : larger.diagnostic?.isSome = outcome.diagnostic?.isSome
  /-- Unless the location names exactly the new source, its diagnostic has lost its place or gained
  one in the new source, if it is not the same. -/
  shifts : ¬contract.NamesSource batch location name →
    larger = outcome ∨ ∃ entry names listed before after,
      contract.Denotes location batch.sourceList batch.format entry names ∧
      fileNameAt? names entry.fileIndex = some (.text listed) ∧
      baseName listed = baseName name ∧
      outcome = .diagnostic before ∧ larger = .diagnostic after ∧
      Shifts options issue entry index listed (batch.sources.getD slot .null) before after

theorem follows_of_outcomeOf (texts : ∀ name ∈ batch.sourceList, name.IsText)
    {outcome larger : Outcome}
    (returned : contract.outcomeOf options (batch.shareOf slot) issue location = .ok outcome)
    (largerReturned : (contract.withSource position name index).outcomeOf options
      (batch.shareOf slot) issue location = .ok larger) :
    contract.Follows options batch name index slot issue location outcome larger := by
  rcases outcomeOf_withSource contract position name index options slot issue location texts with
    same | ⟨entry, names, listed, before, after, denotes, named, sameName, beforeOk, afterOk,
      related⟩
  · rw [same] at largerReturned
    cases returned.symm.trans largerReturned
    exact ⟨rfl, rfl, rfl, fun _ => .inl rfl⟩
  · cases returned.symm.trans beforeOk
    cases largerReturned.symm.trans afterOk
    refine ⟨rfl, rfl, rfl, ?_⟩
    intro unnamed
    have other : listed ≠ name := by
      rintro rfl
      exact unnamed ⟨entry, names, denotes, named⟩
    exact .inr ⟨entry, names, listed, before, after, denotes, named, sameName, rfl, rfl,
      related.resolve_left other⟩

theorem exists_outcomeOf_withSource (texts : ∀ name ∈ batch.sourceList, name.IsText) :
    (∃ outcome, (contract.withSource position name index).outcomeOf options (batch.shareOf slot)
        issue location = .ok outcome) ↔
      ∃ outcome, contract.outcomeOf options (batch.shareOf slot) issue location =
        .ok outcome := by
  rcases outcomeOf_withSource contract position name index options slot issue location texts with
    same | ⟨_, _, _, before, after, -, -, -, beforeOk, afterOk, -⟩
  · rw [same]
  · rw [beforeOk, afterOk]
    exact ⟨fun _ => ⟨_, rfl⟩, fun _ => ⟨_, rfl⟩⟩

/-- A batch is normalized with one more source exactly when it is normalized without it. -/
theorem exists_normalize_withSource (texts : ∀ name ∈ batch.sourceList, name.IsText) :
    (∃ result, contract.normalize options batch = .ok result) ↔
      ∃ larger, (contract.withSource position name index).normalize options batch =
        .ok larger := by
  rw [exists_normalize_eq_ok, exists_normalize_eq_ok]
  simp only [exists_outcomeOf_withSource texts]

/-- Without a name that has the file name of the new source, nothing changes. -/
theorem outcomes_withSource_of_baseName_ne (texts : ∀ name ∈ batch.sourceList, name.IsText)
    (others : ∀ listed, .text listed ∈ contract.namesUsed batch.format batch.sourceList →
      baseName listed ≠ baseName name) :
    (contract.withSource position name index).outcomes options batch =
      contract.outcomes options batch := by
  have same (slot : Nat) (issue : Issue) (location : Location) :
      (contract.withSource position name index).outcomeOf options (batch.shareOf slot) issue
        location = contract.outcomeOf options (batch.shareOf slot) issue location := by
    rcases outcomeOf_withSource contract position name index options slot issue location texts with
      same | ⟨entry, names, listed, before, after, denotes, named, sameName, -⟩
    · exact same
    · have member := mem_of_fileNameAt? named
      rw [denotes.names_eq] at member
      exact absurd sameName (others listed member)
  rw [outcomes, outcomes]
  cases shared : batch.shares with
  | error error => rfl
  | ok shares =>
      obtain ⟨rfl, -⟩ := Batch.shares_eq_ok shared
      apply mapM_congr_left
      rintro ⟨share, issue, location⟩ member
      rcases List.mem_flatMap.mp member with ⟨_, shareMem, itemMem⟩
      rcases List.mem_map.mp shareMem with ⟨slot, -, rfl⟩
      rcases List.mem_map.mp itemMem with ⟨_, -, equal⟩
      cases equal
      exact same slot issue location

/-! ## Both ledgers -/

variable {outcomes others : List Outcome}

/-- A column in which locations agree with and without the source is the same. -/
theorem filterMap_withSource {α : Type} {column : Outcome → Option α}
    (texts : ∀ name ∈ batch.sourceList, name.IsText)
    (returned : contract.outcomes options batch = .ok outcomes)
    (largerReturned : (contract.withSource position name index).outcomes options batch =
      .ok others)
    (agree : ∀ slot issue location outcome larger,
      contract.Follows options batch name index slot issue location outcome larger →
      column larger = column outcome) :
    others.filterMap column = outcomes.filterMap column := by
  rw [← filterMap_ledgerOf returned column, ledgerOf, List.filterMap_map]
  apply filterMap_eq_of_places (outcomes_eq_ok largerReturned).1 (outcomes_eq_ok returned).1
  intro place member larger outcome largerOk outcomeOk
  exact agree _ _ _ _ _ (follows_of_outcomeOf texts outcomeOk largerOk)

theorem length_diagnostics_withSource (texts : ∀ name ∈ batch.sourceList, name.IsText)
    (returned : contract.outcomes options batch = .ok outcomes)
    (largerReturned : (contract.withSource position name index).outcomes options batch =
      .ok others) :
    (others.filterMap Outcome.diagnostic?).length =
      (outcomes.filterMap Outcome.diagnostic?).length := by
  have unnamed : (others.filterMap Outcome.diagnostic?).map (fun _ => ()) =
      (outcomes.filterMap Outcome.diagnostic?).map (fun _ => ()) := by
    rw [List.map_filterMap, List.map_filterMap]
    apply filterMap_withSource texts returned largerReturned
    intro slot issue location outcome larger follows
    have same := follows.isSome_eq
    cases found : outcome.diagnostic? with
    | none => simpa [found] using same
    | some diagnostic => simpa [found, Option.isSome_iff_exists] using same
  simpa using congrArg List.length unnamed

/-- The two ledgers have the same places, line by line. -/
theorem follows_of_mem_zip (texts : ∀ name ∈ batch.sourceList, name.IsText)
    (returned : contract.outcomes options batch = .ok outcomes)
    (largerReturned : (contract.withSource position name index).outcomes options batch =
      .ok others) {pair : LedgerLine × LedgerLine}
    (member : pair ∈ (ledgerOf batch outcomes).zip (ledgerOf batch others)) :
    pair.2.slot = pair.1.slot ∧ pair.2.place = pair.1.place ∧
      contract.Follows options batch name index pair.1.slot pair.1.place.issue
        pair.1.place.location pair.1.outcome pair.2.outcome := by
  rw [ledgerOf, ledgerOf, List.zip_map] at member
  rcases List.mem_map.mp member with ⟨both, bothMem, rfl⟩
  rcases exists_of_mem_zip_zip (outcomes_eq_ok returned).1 (outcomes_eq_ok largerReturned).1
    bothMem with ⟨place, outcome, larger, rfl, outcomeOk, largerOk⟩
  exact ⟨rfl, rfl, follows_of_outcomeOf texts outcomeOk largerOk⟩

/-- Supplying one more source never leads a location from one place to another. A batch is
normalized with the source exactly when it is without; then the malformed and the suppressed
locations are the same, and line by line each diagnostic is the same, or it has lost its place
because of the new source or gained one in it, unless its location names exactly the new source.
Where no name has the file name of the new source, nothing changes at all. -/
theorem never_retargets (contract : Contract) (options : Options) (batch : Batch)
    (position : Nat) (name : String) (index : LineIndex)
    (texts : ∀ listed ∈ batch.sourceList, listed.IsText) :
    ((∃ result, contract.normalize options batch = .ok result) ↔
      ∃ larger, (contract.withSource position name index).normalize options batch =
        .ok larger) ∧
    (∀ result larger, contract.normalize options batch = .ok result →
      (contract.withSource position name index).normalize options batch = .ok larger →
      larger.errors = result.errors ∧ larger.suppressions = result.suppressions ∧
      larger.diagnostics.length = result.diagnostics.length ∧
      ∃ lines : List (LedgerLine × LedgerLine),
        contract.Accounts options batch (lines.map Prod.fst) ∧
        (contract.withSource position name index).Accounts options batch (lines.map Prod.snd) ∧
        result.diagnostics = (lines.map Prod.fst).filterMap (·.outcome.diagnostic?) ∧
        larger.diagnostics = (lines.map Prod.snd).filterMap (·.outcome.diagnostic?) ∧
        ∀ pair ∈ lines, pair.2.slot = pair.1.slot ∧ pair.2.place = pair.1.place ∧
          contract.Follows options batch name index pair.1.slot pair.1.place.issue
            pair.1.place.location pair.1.outcome pair.2.outcome) ∧
    ((∀ listed, .text listed ∈ contract.namesUsed batch.format batch.sourceList →
        baseName listed ≠ baseName name) →
      (contract.withSource position name index).normalize options batch =
        contract.normalize options batch) := by
  refine ⟨exists_normalize_withSource texts, ?_, ?_⟩
  · intro result larger returned largerReturned
    rcases map_eq_ok.mp returned with ⟨outcomes, outcomesOk, rfl⟩
    rcases map_eq_ok.mp largerReturned with ⟨others, othersOk, rfl⟩
    have lengths : (ledgerOf batch outcomes).length = (ledgerOf batch others).length :=
      (length_ledgerOf outcomesOk).trans (length_ledgerOf othersOk).symm
    have first := List.map_fst_zip (Nat.le_of_eq lengths)
    have second := List.map_snd_zip (Nat.le_of_eq lengths.symm)
    refine ⟨?_, ?_, length_diagnostics_withSource texts outcomesOk othersOk,
      (ledgerOf batch outcomes).zip (ledgerOf batch others), ?_, ?_, ?_, ?_, ?_⟩
    · exact filterMap_withSource texts outcomesOk othersOk fun _ _ _ _ _ follows =>
        follows.error_eq
    · exact filterMap_withSource texts outcomesOk othersOk fun _ _ _ _ _ follows =>
        follows.suppression_eq
    · rw [first]
      exact accounts_ledgerOf outcomesOk
    · rw [second]
      exact accounts_ledgerOf othersOk
    · rw [first]
      exact (filterMap_ledgerOf outcomesOk _).symm
    · rw [second]
      exact (filterMap_ledgerOf othersOk _).symm
    · intro pair member
      exact follows_of_mem_zip texts outcomesOk othersOk member
  · intro unrelated
    rw [normalize, normalize, outcomes_withSource_of_baseName_ne texts unrelated]

/-- A contract with one source. -/
def vaultContract : Contract :=
  .ofSources
    { contractName := "Vault", sourcePath := "V.sol", deployedBytecode := "", sourceMap := ""
      deployedSourceMap := "", sourceList := [], ast := .null }
    [("a/V.sol", [0x61, 0x0A, 0x62])]

/-- A batch with a location in a file that the contract has under another path, and one in a file
that it does not have. -/
def vaultBatch : Batch :=
  { format := "text", sourceType := "", sourceList := [.text "lib/V.sol", .text "lib/U.sol"]
    issues :=
      [{ head := "Write", tail := "", severity := "High", ruleId := "SWC-110", ruleTitle := ""
         locations := [⟨.text "2:1:0", none⟩, ⟨.text "0:1:1", none⟩] }] }

theorem isText_sourceList_vaultBatch : ∀ listed ∈ vaultBatch.sourceList, listed.IsText := by
  intro listed member
  rcases List.mem_cons.mp member with rfl | member
  · exact ⟨_, rfl⟩
  · exact ⟨_, List.mem_singleton.mp member⟩

/-- A second source with the file name takes the place of the first location away, and a source
that was missing gives one to the second. -/
theorem never_retargets_vault :
    ∃ result fewer more,
      vaultContract.normalize .default vaultBatch = .ok result ∧
      (vaultContract.withSource 1 "b/V.sol" (.ofBytes [] "b/V.sol")).normalize .default
        vaultBatch = .ok fewer ∧
      (vaultContract.withSource 0 "b/U.sol" (.ofBytes [] "b/U.sol")).normalize .default
        vaultBatch = .ok more ∧
      result.diagnostics.map (·.line) = [2, -1] ∧ fewer.diagnostics.map (·.line) = [-1, -1] ∧
      more.diagnostics.map (·.line) = [2, 1] ∧
      fewer.errors = result.errors ∧ more.errors = result.errors := by
  have lines : (vaultContract.normalize .default vaultBatch).map
      (·.diagnostics.map (·.line)) = .ok [2, -1] := rfl
  have fewerLines : ((vaultContract.withSource 1 "b/V.sol" (.ofBytes [] "b/V.sol")).normalize
      .default vaultBatch).map (·.diagnostics.map (·.line)) = .ok [-1, -1] := rfl
  have moreLines : ((vaultContract.withSource 0 "b/U.sol" (.ofBytes [] "b/U.sol")).normalize
      .default vaultBatch).map (·.diagnostics.map (·.line)) = .ok [2, 1] := rfl
  rcases map_eq_ok.mp lines with ⟨result, returned, linesEq⟩
  rcases map_eq_ok.mp fewerLines with ⟨fewer, fewerReturned, fewerEq⟩
  rcases map_eq_ok.mp moreLines with ⟨more, moreReturned, moreEq⟩
  have errors := ((never_retargets vaultContract .default vaultBatch 1 "b/V.sol" _
    isText_sourceList_vaultBatch).2.1 result fewer returned fewerReturned).1
  have moreErrors := ((never_retargets vaultContract .default vaultBatch 0 "b/U.sol" _
    isText_sourceList_vaultBatch).2.1 result more returned moreReturned).1
  exact ⟨result, fewer, more, returned, fewerReturned, moreReturned, linesEq, fewerEq, moreEq,
    errors, moreErrors⟩

end Contract

end Pinpoint
