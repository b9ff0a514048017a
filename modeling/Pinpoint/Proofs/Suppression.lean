import Pinpoint.Proofs.EnclosingNode
import Pinpoint.Proofs.InstructionWalk
import Pinpoint.Proofs.Ledger

/-!
# What is suppressed

A finding is suppressed when its rule may be and its location lies, in the main source, at the
declaration of a dynamically sized array. What the location denotes and where it lies do not
depend on the rules, so allowing more rules takes from the diagnostics exactly those of the added
rules at such declarations, and leaves the others and the malformed locations as they were.
-/

namespace Pinpoint

/-- The same options with other rules that may be suppressed. -/
def Options.allowing (options : Options) (rules : List String) : Options :=
  { options with suppressibleRules := rules }

/-- An entry that an offset leads to is one of the map and names a byte range of a source. -/
theorem Bytecode.CodeMap.mem_of_entryAt {map : CodeMap} {offset : Int} {entry : Entry}
    (found : map.entryAt offset = .ok (some entry)) :
    entry ∈ map.entries ∧ entry.hasSource = true := by
  have noEntry (numbers : List Int) : (note numbers >>= fun _ => .ok none) ≠ .ok (some entry) := by
    rw [note_bind]
    split <;> simp
  rw [entryAt] at found
  split at found
  next => exact absurd found (noEntry _)
  next =>
    split at found
    next => exact absurd found (noEntry _)
    next number =>
      split at found
      next => exact absurd found (noEntry _)
      next candidate listed =>
        split at found
        next named =>
          cases found
          exact ⟨List.mem_of_getElem? listed, named⟩
        next => cases found

namespace Contract

variable {contract : Contract} {location : Location} {format : String} {sourceList : List Json}
variable {entry : Entry} {names : List Json}

/-- The entry that a location denotes, with the names that its file index counts in: the entry that
its text holds, or in the bytecode format that of the instruction at its offset. -/
inductive Denotes (contract : Contract) (location : Location) (sourceList : List Json) :
    String → Entry → List Json → Prop where
  | written {format text : String} {entry : Entry} :
      format ≠ bytecodeFormat → location.sourceMapText = .ok text →
      Entry.parse text = .ok entry → entry.hasSource = true →
      Denotes contract location sourceList format entry sourceList
  | instruction {map : Bytecode.CodeMap} {offset : Int} {entry : Entry} :
      contract.artifact.codeMap = .ok map → location.bytecodeOffset = .ok offset →
      map.entryAt offset = .ok (some entry) →
      Denotes contract location sourceList bytecodeFormat entry
        (if contract.artifact.sourceList = [] then sourceList
          else contract.artifact.sourceList.map Json.text)

/-- Whether an entry points into the main source: the name at its file index has the file name of
the path of the main source. -/
def PointsToMain (contract : Contract) (entry : Entry) (names : List Json) : Prop :=
  ∃ name, 0 ≤ entry.fileIndex ∧ names[entry.fileIndex.toNat]? = some (.text name) ∧
    baseName name = baseName contract.artifact.sourcePath

/-- Whether the node that is taken for the byte range of an entry declares a dynamically sized
array. -/
def CoversDynamicArray (contract : Contract) (entry : Entry) : Prop :=
  ∃ node, Ast.Chosen (Ast.nodesAround contract.artifact.ast entry.start entry.length) node ∧
    node.DeclaresDynamicArray

/-- Whether a location lies, in the main source, at the declaration of a dynamically sized
array. -/
def AtDynamicArray (contract : Contract) (location : Location) (format : String)
    (sourceList : List Json) : Prop :=
  ∃ entry names, contract.Denotes location sourceList format entry names ∧
    contract.PointsToMain entry names ∧ contract.CoversDynamicArray entry

theorem denotes_iff :
    contract.Denotes location sourceList format entry names ↔
      contract.locate location format sourceList = .ok (some entry, names) := by
  rw [locate]
  constructor
  · intro denotes
    cases denotes with
    | written other readable parsed named =>
        rw [if_neg other]
        refine bind_eq_ok.mpr ⟨_, mapError_eq_ok.mpr readable, ?_⟩
        refine bind_eq_ok.mpr ⟨_, mapError_eq_ok.mpr parsed, ?_⟩
        rw [if_pos named]
        rfl
    | instruction mapped located found =>
        rw [if_pos rfl]
        refine bind_eq_ok.mpr ⟨_, mapError_eq_ok.mpr mapped, ?_⟩
        refine bind_eq_ok.mpr ⟨_, located, ?_⟩
        refine bind_eq_ok.mpr ⟨_, mapError_eq_ok.mpr found, ?_⟩
        simp only [List.isEmpty_iff]
        rfl
  · intro located
    split at located
    next bytecode =>
      rcases bind_eq_ok.mp located with ⟨map, mapped, located⟩
      rcases bind_eq_ok.mp located with ⟨offset, offsetOk, located⟩
      rcases bind_eq_ok.mp located with ⟨found, foundOk, located⟩
      simp only [List.isEmpty_iff] at located
      injection located with located
      injection located with equal listed
      subst bytecode listed equal
      exact .instruction (mapError_eq_ok.mp mapped) offsetOk (mapError_eq_ok.mp foundOk)
    next other =>
      rcases bind_eq_ok.mp located with ⟨text, readable, located⟩
      rcases bind_eq_ok.mp located with ⟨parsedEntry, parsed, located⟩
      injection located with located
      injection located with found listed
      subst listed
      split at found
      next named =>
        cases found
        exact .written other (mapError_eq_ok.mp readable) (mapError_eq_ok.mp parsed) named
      next => cases found

/-- An entry that a location denotes names a byte range of a source. -/
theorem Denotes.hasSource (denotes : contract.Denotes location sourceList format entry names) :
    entry.hasSource = true := by
  cases denotes with
  | written _ _ _ named => exact named
  | instruction _ _ found => exact (Bytecode.CodeMap.mem_of_entryAt found).2

/-! ## The main source -/

theorem fileNameAt?_eq_some {sourceList : List Json} {fileIndex : Int} {name : Json} :
    fileNameAt? sourceList fileIndex = some name ↔
      0 ≤ fileIndex ∧ sourceList[fileIndex.toNat]? = some name ∧ name.isNull = false := by
  rw [fileNameAt?]
  split
  next negative => simp [Int.not_le.mpr negative]
  next nonneg => simp [Int.not_lt.mp nonneg, Option.filter_eq_some_iff]

theorem isMainSource_eq_ok {answer : Bool}
    (returned : contract.isMainSource entry names = .ok answer) :
    answer = true ↔ contract.PointsToMain entry names := by
  have named (name : String) : (0 ≤ entry.fileIndex ∧
      names[entry.fileIndex.toNat]? = some (.text name)) ↔
        fileNameAt? names entry.fileIndex = some (.text name) := by
    rw [fileNameAt?_eq_some]
    simp [Json.isNull]
  simp only [PointsToMain, ← and_assoc, named]
  rw [isMainSource] at returned
  cases found : fileNameAt? names entry.fileIndex with
  | none =>
      rw [found] at returned
      cases returned
      simp
  | some name =>
      rw [found] at returned
      rcases bind_eq_ok.mp returned with ⟨text, textOk, returned⟩
      cases returned
      cases name with
      | text name =>
          cases textOk
          simp
      | null | bool | number | list | object => cases textOk

/-- An entry whose name is a text has the span in the file of that name, if there is one. -/
theorem spanOf_of_named {name : String}
    (named : fileNameAt? names entry.fileIndex = some (.text name)) :
    contract.spanOf entry names =
      .ok ((contract.lineIndex? name).elim .unresolved entry.spanIn) := by
  simp only [spanOf, named, lineIndexOf]
  cases contract.lineIndex? name with
  | none => rfl
  | some index => rfl

/-- The line index of a name is that of a source with its file name. -/
theorem mem_lineIndexes_of_lineIndex? {name : String} {index : LineIndex}
    (found : contract.lineIndex? name = some index) :
    ∃ source ∈ contract.lineIndexes, baseName source.1 = baseName name ∧ source.2 = index := by
  rw [lineIndex?] at found
  split at found
  next source exact =>
    cases found
    have same : source.1 = name := by simpa using List.find?_some exact
    exact ⟨source, List.mem_of_find?_eq_some exact, congrArg baseName same, rfl⟩
  next =>
    split at found
    next source alone =>
      cases found
      have listed : source ∈ [source] := List.mem_singleton_self source
      rw [← alone, List.mem_filter] at listed
      exact ⟨source, listed.1, by simpa using listed.2, rfl⟩
    next => cases found

/-- The span of an entry is unresolved, or it is that of its range in the file that it names. -/
theorem spanOf_cases {span : Span} (spanOk : contract.spanOf entry names = .ok span) :
    span = .unresolved ∨ ∃ name index, fileNameAt? names entry.fileIndex = some (.text name) ∧
      contract.lineIndex? name = some index ∧ span = entry.spanIn index := by
  cases named : fileNameAt? names entry.fileIndex with
  | none =>
      rw [spanOf, named] at spanOk
      cases spanOk
      exact .inl rfl
  | some name =>
      cases name with
      | text name =>
          rw [spanOf_of_named named] at spanOk
          cases indexed : contract.lineIndex? name with
          | none =>
              rw [indexed] at spanOk
              cases spanOk
              exact .inl rfl
          | some index =>
              rw [indexed] at spanOk
              cases spanOk
              exact .inr ⟨name, index, rfl, indexed, rfl⟩
      | null | bool | number | list | object =>
          rw [spanOf, named] at spanOk
          cases spanOk

/-- The span of a location is unresolved, or it is that of its entry in the file that the entry
names. -/
theorem resolve_cases {span : Span}
    (resolved : contract.resolve location format sourceList = .ok span) :
    span = .unresolved ∨ ∃ entry names name index,
      contract.Denotes location sourceList format entry names ∧
      fileNameAt? names entry.fileIndex = some (.text name) ∧
      contract.lineIndex? name = some index ∧ span = entry.spanIn index := by
  rcases bind_eq_ok.mp resolved with ⟨⟨found, names⟩, located, resolved⟩
  cases found with
  | none =>
      cases resolved
      exact .inl rfl
  | some entry =>
      apply (spanOf_cases (mapError_eq_ok.mp resolved)).imp id
      rintro ⟨name, index, named, indexed, equal⟩
      exact ⟨entry, names, name, index, denotes_iff.mpr located, named, indexed, equal⟩

/-- An entry of the main source has a text for its name, and so it has a span if only the
unresolved one. -/
theorem exists_spanOf_eq_ok (main : contract.PointsToMain entry names) :
    ∃ span, contract.spanOf entry names = .ok span := by
  rcases main with ⟨name, nonneg, named, -⟩
  have found : fileNameAt? names entry.fileIndex = some (.text name) :=
    fileNameAt?_eq_some.mpr ⟨nonneg, named, rfl⟩
  exact ⟨_, spanOf_of_named found⟩

/-! ## The decision -/

variable {options : Options} {issue : Issue} {attributedTo : Json} {outcome : Outcome}

theorem suppresses_eq_ok {answer : Bool} (named : entry.hasSource = true)
    (returned : contract.suppresses options issue entry names = .ok answer) :
    answer = true ↔ contract.PointsToMain entry names ∧
      issue.ruleId ∈ options.suppressibleRules ∧ contract.CoversDynamicArray entry := by
  rcases (Bytecode.hasSource_iff entry).mp named with ⟨-, startNonneg, lengthNonneg⟩
  rcases bind_eq_ok.mp returned with ⟨main, mainOk, returned⟩
  rw [← isMainSource_eq_ok mainOk]
  cases main with
  | false =>
      cases returned
      simp
  | true =>
      simp only [if_true] at returned
      split at returned
      next listed =>
        rw [Ast.isDynamicArrayDeclaration_eq_ok startNonneg lengthNonneg returned]
        simp [List.contains_iff_mem.mp listed, CoversDynamicArray]
      next unlisted =>
        cases returned
        simp [mt List.contains_iff_mem.mpr unlisted]

theorem outcomeAt_suppressed_iff (named : entry.hasSource = true)
    (returned : contract.outcomeAt options issue entry names attributedTo = .ok outcome) :
    (∃ record, outcome = .suppressed record) ↔ contract.PointsToMain entry names ∧
      issue.ruleId ∈ options.suppressibleRules ∧ contract.CoversDynamicArray entry := by
  rcases bind_eq_ok.mp returned with ⟨suppressed, answered, returned⟩
  rw [← suppresses_eq_ok named answered]
  cases suppressed with
  | true =>
      cases returned
      simp
  | false =>
      rcases bind_eq_ok.mp returned with ⟨span, -, returned⟩
      cases returned
      simp

/-- A location is suppressed exactly when its rule may be and it lies at the declaration of a
dynamically sized array. -/
theorem normalizeLocation_suppressed_iff
    (returned : contract.normalizeLocation options issue location format attributedTo sourceList =
      .ok outcome) :
    (∃ record, outcome = .suppressed record) ↔
      issue.ruleId ∈ options.suppressibleRules ∧
        contract.AtDynamicArray location format sourceList := by
  rcases bind_eq_ok.mp returned with ⟨⟨found, names⟩, located, returned⟩
  have denotes (entry : Entry) (listed : List Json) :
      contract.Denotes location sourceList format entry listed ↔
        found = some entry ∧ names = listed := by
    rw [denotes_iff, located]
    simp
  simp only [AtDynamicArray, denotes]
  cases found with
  | none =>
      cases returned
      simp
  | some entry =>
      have named := (denotes_iff.mpr located).hasSource
      rw [outcomeAt_suppressed_iff named (mapError_eq_ok.mp returned)]
      constructor
      · rintro ⟨main, rule, covers⟩
        exact ⟨rule, entry, names, ⟨rfl, rfl⟩, main, covers⟩
      · rintro ⟨rule, _, _, ⟨same, rfl⟩, main, covers⟩
        cases same
        exact ⟨main, rule, covers⟩

/-! ## Other rules -/

variable {fewer more : List String}

/-- Under fewer rules an entry is suppressed as before, or not any more although it points into the
main source. -/
theorem suppresses_of_subset (subset : fewer ⊆ more) {answer : Bool}
    (returned : contract.suppresses (options.allowing more) issue entry names = .ok answer) :
    ∃ other, contract.suppresses (options.allowing fewer) issue entry names = .ok other ∧
      (other = answer ∨ other = false ∧ answer = true ∧ contract.PointsToMain entry names) := by
  rcases bind_eq_ok.mp returned with ⟨main, mainOk, returned⟩
  cases main with
  | false => exact ⟨answer, bind_eq_ok.mpr ⟨false, mainOk, returned⟩, .inl rfl⟩
  | true =>
      have main := (isMainSource_eq_ok mainOk).mp rfl
      by_cases kept : issue.ruleId ∈ fewer
      · refine ⟨answer, bind_eq_ok.mpr ⟨true, mainOk, ?_⟩, .inl rfl⟩
        simp only [if_true, Options.allowing, List.contains_iff_mem.mpr (subset kept)] at returned
        simpa [Options.allowing, kept] using returned
      · refine ⟨false, bind_eq_ok.mpr ⟨true, mainOk, ?_⟩, ?_⟩
        · simp [Options.allowing, kept]
          rfl
        · cases answer with
          | false => exact .inl rfl
          | true => exact .inr ⟨rfl, rfl, main⟩

/-- Under fewer rules an entry has the same outcome, or a diagnostic where it was suppressed. -/
theorem outcomeAt_of_subset (subset : fewer ⊆ more)
    (returned : contract.outcomeAt (options.allowing more) issue entry names attributedTo =
      .ok outcome) :
    ∃ other, contract.outcomeAt (options.allowing fewer) issue entry names attributedTo =
        .ok other ∧
      (other = outcome ∨ ∃ diagnostic record,
        other = .diagnostic diagnostic ∧ outcome = .suppressed record) := by
  rcases bind_eq_ok.mp returned with ⟨answer, answered, returned⟩
  rcases suppresses_of_subset subset answered with ⟨other, otherOk, same | ⟨rfl, rfl, main⟩⟩
  · subst same
    exact ⟨outcome, bind_eq_ok.mpr ⟨other, otherOk, returned⟩, .inl rfl⟩
  · rcases exists_spanOf_eq_ok main with ⟨span, spanOk⟩
    cases returned
    refine ⟨_, bind_eq_ok.mpr ⟨false, otherOk, bind_eq_ok.mpr ⟨span, spanOk, rfl⟩⟩, ?_⟩
    exact .inr ⟨_, _, rfl, rfl⟩

theorem normalizeLocation_of_subset (subset : fewer ⊆ more)
    (returned : contract.normalizeLocation (options.allowing more) issue location format
      attributedTo sourceList = .ok outcome) :
    ∃ other, contract.normalizeLocation (options.allowing fewer) issue location format
        attributedTo sourceList = .ok other ∧
      (other = outcome ∨ ∃ diagnostic record,
        other = .diagnostic diagnostic ∧ outcome = .suppressed record) := by
  rcases bind_eq_ok.mp returned with ⟨⟨found, names⟩, located, returned⟩
  cases found with
  | none => exact ⟨outcome, bind_eq_ok.mpr ⟨(none, names), located, returned⟩, .inl rfl⟩
  | some entry =>
      rcases outcomeAt_of_subset subset (mapError_eq_ok.mp returned) with ⟨other, otherOk, related⟩
      exact ⟨other, bind_eq_ok.mpr ⟨(some entry, names), located, mapError_eq_ok.mpr otherOk⟩,
        related⟩

/-- Whether a place of a batch is suppressed only because of the rules that `more` has beyond
`fewer`. -/
def DroppedBetween (contract : Contract) (fewer more : List String) (batch : Batch)
    (place : Place) : Prop :=
  place.issue.ruleId ∈ more ∧ place.issue.ruleId ∉ fewer ∧
    contract.AtDynamicArray place.location batch.format batch.sourceList

variable {batch : Batch} {slot : Nat} {place : Place}

/-- A location that lies at a declaration is not malformed. -/
theorem AtDynamicArray.locate_ne_error (lies : contract.AtDynamicArray location format sourceList)
    (fault : Fault) : contract.locate location format sourceList ≠ .error fault := by
  rcases lies with ⟨entry, names, denotes, -⟩
  rw [denotes_iff.mp denotes]
  intro impossible
  cases impossible

/-- Under fewer rules a place that was suppressed because of the others has a diagnostic, and
every other place the outcome that it had. -/
theorem outcomeOf_of_subset (subset : fewer ⊆ more)
    (returned : contract.outcomeOf (options.allowing more) (batch.shareOf slot) place.issue
      place.location = .ok outcome) :
    ∃ other, contract.outcomeOf (options.allowing fewer) (batch.shareOf slot) place.issue
        place.location = .ok other ∧
      (contract.DroppedBetween fewer more batch place →
        ∃ diagnostic record, other = .diagnostic diagnostic ∧ outcome = .suppressed record) ∧
      (¬contract.DroppedBetween fewer more batch place → other = outcome) := by
  rw [outcomeOf] at returned
  split at returned
  next error failed =>
    cases returned
    have located := locate_of_normalizeLocation_eq_format_error failed
    have failedToo : contract.normalizeLocation (options.allowing fewer) place.issue place.location
        (batch.shareOf slot).format (batch.shareOf slot).source
        (batch.shareOf slot).sourceList = .error (.format error) :=
      bind_eq_error.mpr (.inl located)
    refine ⟨_, by rw [outcomeOf, failedToo], ?_, fun _ => rfl⟩
    rintro ⟨-, -, lies⟩
    exact absurd located (lies.locate_ne_error _)
  next =>
    rcases normalizeLocation_of_subset subset returned with ⟨other, otherOk, related⟩
    have suppressed := normalizeLocation_suppressed_iff returned
    have otherSuppressed := normalizeLocation_suppressed_iff otherOk
    refine ⟨other, by rw [outcomeOf, otherOk], ?_, ?_⟩
    · rintro ⟨listed, unlisted, lies⟩
      rcases related with same | changed
      · have both := suppressed.mpr ⟨listed, lies⟩
        rw [← same] at both
        exact absurd (otherSuppressed.mp both).1 unlisted
      · exact changed
    · intro kept
      rcases related with same | ⟨diagnostic, record, isDiagnostic, isSuppressed⟩
      · exact same
      · have given := suppressed.mp ⟨record, isSuppressed⟩
        have notOther : ¬∃ record, other = .suppressed record := by
          rintro ⟨record, equal⟩
          rw [equal] at isDiagnostic
          cases isDiagnostic
        have unlisted : place.issue.ruleId ∉ fewer :=
          fun listed => notOther (otherSuppressed.mpr ⟨listed, given.2⟩)
        exact absurd ⟨given.1, unlisted, given.2⟩ kept

/-- How the outcomes of a place under more and under fewer rules are related. -/
theorem related_of_subset (subset : fewer ⊆ more) {other : Outcome}
    (returned : contract.outcomeOf (options.allowing more) (batch.shareOf slot) place.issue
      place.location = .ok outcome)
    (otherReturned : contract.outcomeOf (options.allowing fewer) (batch.shareOf slot) place.issue
      place.location = .ok other) :
    (contract.DroppedBetween fewer more batch place →
      ∃ diagnostic record, other = .diagnostic diagnostic ∧ outcome = .suppressed record) ∧
    (¬contract.DroppedBetween fewer more batch place → other = outcome) := by
  rcases outcomeOf_of_subset subset returned with ⟨same, sameOk, related⟩
  rw [otherReturned] at sameOk
  cases sameOk
  exact related

/-- A batch whose outcomes are found under some rules has outcomes under fewer. -/
theorem outcomes_of_subset (subset : fewer ⊆ more) {outcomes : List Outcome}
    (returned : contract.outcomes (options.allowing more) batch = .ok outcomes) :
    ∃ others, contract.outcomes (options.allowing fewer) batch = .ok others := by
  rcases bind_eq_ok.mp returned with ⟨shares, sharesOk, returned⟩
  obtain rfl := (Batch.shares_eq_ok (mapError_eq_ok.mp sharesOk)).1
  rw [Batch.flatMap_items_shareOf] at returned
  have each := exists_mapM_eq_ok.mp ⟨outcomes, returned⟩
  have eachOther : ∃ others, ((batch.placesBySource.map fun place =>
      (batch.shareOf (batch.slotOf place.location), place.issue, place.location)).mapM
        fun item => contract.outcomeOf (options.allowing fewer) item.1 item.2.1 item.2.2) =
          .ok others := by
    apply exists_mapM_eq_ok.mpr
    intro value member
    rcases each value member with ⟨outcome, outcomeOk⟩
    rcases List.mem_map.mp member with ⟨place, -, rfl⟩
    rcases outcomeOf_of_subset subset outcomeOk with ⟨other, otherOk, -⟩
    exact ⟨other, otherOk⟩
  rcases eachOther with ⟨others, othersOk⟩
  rw [← Batch.flatMap_items_shareOf] at othersOk
  exact ⟨others, bind_eq_ok.mpr ⟨_, sharesOk, othersOk⟩⟩

/-- Columns of outcomes that agree place by place are the same. -/
theorem filterMap_eq_of_places {α : Type} {request other : Place → Except Fault Outcome}
    {places : List Place} {outcomes others : List Outcome}
    (returned : places.map request = outcomes.map .ok)
    (otherReturned : places.map other = others.map .ok)
    {column : Outcome → Option α} {otherColumn : Place × Outcome → Option α}
    (agree : ∀ place ∈ places, ∀ outcome otherOutcome, request place = .ok outcome →
      other place = .ok otherOutcome → column outcome = otherColumn (place, otherOutcome)) :
    outcomes.filterMap column = (places.zip others).filterMap otherColumn := by
  induction places generalizing outcomes others with
  | nil =>
      cases outcomes with
      | nil => rfl
      | cons => cases returned
  | cons place places ih =>
      cases outcomes with
      | nil => cases returned
      | cons outcome outcomes =>
          cases others with
          | nil => cases otherReturned
          | cons otherOutcome others =>
              rw [List.map_cons, List.map_cons, List.cons.injEq] at returned otherReturned
              have rest := ih returned.2 otherReturned.2 fun place member =>
                agree place (List.mem_cons_of_mem _ member)
              have first := agree place List.mem_cons_self outcome otherOutcome returned.1
                otherReturned.1
              rw [List.zip_cons_cons, List.filterMap_cons, List.filterMap_cons, first, rest]

open scoped Classical in
/-- A finding is suppressed exactly when its rule may be and its location lies, in the main source,
at the declaration of a dynamically sized array. So the diagnostics under more rules are those
under fewer without the ones that the further rules drop. -/
theorem suppression_exact (contract : Contract) (options : Options) :
    (∀ (issue : Issue) (location : Location) (format : String) (attributedTo : Json)
        (sourceList : List Json) (outcome : Outcome),
      contract.normalizeLocation options issue location format attributedTo sourceList =
        .ok outcome →
      ((∃ record, outcome = .suppressed record) ↔
        issue.ruleId ∈ options.suppressibleRules ∧
          contract.AtDynamicArray location format sourceList)) ∧
    ∀ (fewer more : List String) (batch : Batch) (result : Normalized), fewer ⊆ more →
      contract.normalize (options.allowing more) batch = .ok result →
      ∃ larger ledger, contract.normalize (options.allowing fewer) batch = .ok larger ∧
        contract.Accounts (options.allowing fewer) batch ledger ∧
        larger.diagnostics = ledger.filterMap (·.outcome.diagnostic?) ∧
        result.diagnostics =
          (ledger.filter fun line =>
            decide ¬contract.DroppedBetween fewer more batch line.place).filterMap
              (·.outcome.diagnostic?) ∧
        (∀ line ∈ ledger, contract.DroppedBetween fewer more batch line.place →
          ∃ diagnostic, line.outcome = .diagnostic diagnostic) ∧
        result.errors = larger.errors := by
  refine ⟨fun _ _ _ _ _ _ returned => normalizeLocation_suppressed_iff returned, ?_⟩
  intro fewer more batch result subset returned
  rcases map_eq_ok.mp returned with ⟨outcomes, outcomesOk, rfl⟩
  rcases outcomes_of_subset subset outcomesOk with ⟨others, othersOk⟩
  have each := (outcomes_eq_ok outcomesOk).1
  have eachOther := (outcomes_eq_ok othersOk).1
  refine ⟨_, ledgerOf batch others, map_eq_ok.mpr ⟨others, othersOk, rfl⟩,
    accounts_ledgerOf othersOk, (filterMap_ledgerOf othersOk _).symm, ?_, ?_, ?_⟩
  · rw [ledgerOf, List.filterMap_filter, List.filterMap_map]
    apply filterMap_eq_of_places each eachOther
    intro place member outcome other outcomeOk otherOk
    by_cases dropped : contract.DroppedBetween fewer more batch place
    · rcases (related_of_subset subset outcomeOk otherOk).1 dropped with ⟨_, _, rfl, rfl⟩
      simp [dropped, Outcome.diagnostic?]
    · rw [← (related_of_subset subset outcomeOk otherOk).2 dropped]
      simp [dropped]
  · intro line member dropped
    rcases List.mem_map.mp member with ⟨⟨place, other⟩, pairMem, rfl⟩
    have listed : contract.outcomeOf (options.allowing more)
        (batch.shareOf (batch.slotOf place.location)) place.issue place.location ∈
          outcomes.map .ok := by
      rw [← each]
      exact List.mem_map_of_mem (List.of_mem_zip pairMem).1
    rcases List.mem_map.mp listed with ⟨outcome, -, outcomeOk⟩
    have otherOk := ok_of_mem_zip eachOther pairMem
    rcases (related_of_subset subset outcomeOk.symm otherOk).1 dropped with
      ⟨diagnostic, _, isDiagnostic, -⟩
    exact ⟨diagnostic, isDiagnostic⟩
  · change outcomes.filterMap Outcome.error? = others.filterMap Outcome.error?
    rw [← filterMap_ledgerOf othersOk Outcome.error?, ledgerOf, List.filterMap_map]
    apply filterMap_eq_of_places each eachOther
    intro place member outcome other outcomeOk otherOk
    by_cases dropped : contract.DroppedBetween fewer more batch place
    · rcases (related_of_subset subset outcomeOk otherOk).1 dropped with ⟨_, _, rfl, rfl⟩
      rfl
    · rw [← (related_of_subset subset outcomeOk otherOk).2 dropped]
      rfl

/-- The array of the contract is recognized, and its finding is the one that the rule for it
takes from the diagnostics. -/
theorem suppression_exact_arrayBatch :
    arrayContract.AtDynamicArray ⟨.text "4:9:0", none⟩ "text" [.text "v.sol"] ∧
    ∃ result larger,
      arrayContract.normalize (Options.default.allowing ["SWC-131"]) arrayBatch = .ok result ∧
      arrayContract.normalize (Options.default.allowing []) arrayBatch = .ok larger ∧
      result.diagnostics.length = 1 ∧ larger.diagnostics.length = 2 ∧
      result.errors = larger.errors := by
  constructor
  · have suppressed : arrayContract.normalizeLocation .default
        { head := "Write", tail := "", severity := "High", ruleId := "SWC-131", ruleTitle := ""
          locations := [] }
        ⟨.text "4:9:0", none⟩ "text" (.text "v.sol") [.text "v.sol"] =
          .ok (.suppressed ⟨.debug, "Vault", "SWC-131", 4, 9⟩) := rfl
    exact (((suppression_exact arrayContract .default).1 _ _ _ _ _ _ suppressed).mp
      ⟨_, rfl⟩).2
  · have count : (arrayContract.normalize (Options.default.allowing ["SWC-131"]) arrayBatch).map
        (·.diagnostics.length) = .ok 1 := rfl
    have largerCount : (arrayContract.normalize (Options.default.allowing []) arrayBatch).map
        (·.diagnostics.length) = .ok 2 := rfl
    rcases map_eq_ok.mp count with ⟨result, returned, length⟩
    rcases (suppression_exact arrayContract .default).2 [] ["SWC-131"] arrayBatch result
      (List.nil_subset _) returned with ⟨larger, -, largerReturned, -, -, -, -, errors⟩
    rw [largerReturned] at largerCount
    exact ⟨result, larger, returned, largerReturned, length, Except.ok.inj largerCount, errors⟩

end Contract

end Pinpoint
