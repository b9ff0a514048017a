import Pinpoint.Normalization
import Pinpoint.Proofs.Attribution

/-!
# The ledger of a batch

Normalization passes every location through the attribution to its source, the reading of its
text or the lookup of its instruction, and the syntax tree. The ledger of a batch has one line
for each of its places with what became of it, and the diagnostics, errors and suppressions are
the columns of the ledger. So nothing is dropped, nothing counts twice, and everything keeps the
order of the lines.
-/

namespace Pinpoint

/-! ## Where a location is malformed -/

/-- A location that was attributed to a source has a source-map text, if only the empty one. -/
theorem sourceMapText_of_slot {location : Location} {sourceCount slot : Nat}
    (attributed : location.slot sourceCount = .ok slot) :
    ∃ text, location.sourceMapText = .ok text := by
  rw [Location.slot] at attributed
  rw [Location.sourceMapText, Json.textIfPresent]
  split at attributed
  next present =>
    obtain ⟨text, readable, -⟩ := bind_eq_ok.mp attributed
    rw [if_pos present]
    exact ⟨text, readable⟩
  next absent =>
    rw [if_neg absent]
    exact ⟨"", rfl⟩

/-- The source-map text of a location is the text that it holds, and empty if it holds nothing. -/
theorem sourceMap_of_sourceMapText {location : Location} {text : String}
    (readable : location.sourceMapText = .ok text) :
    (location.sourceMap.isPresent = true ∧ location.sourceMap = .text text) ∨
      (location.sourceMap.isPresent = false ∧ text = "") := by
  rw [Location.sourceMapText, Json.textIfPresent] at readable
  split at readable
  next present =>
    refine .inl ⟨present, ?_⟩
    cases source : location.sourceMap with
    | text =>
        rw [source] at readable
        cases readable
        rfl
    | null | bool | number | list | object =>
        rw [source] at readable
        cases readable
  next absent =>
    cases readable
    exact .inr ⟨eq_false_of_ne_true absent, rfl⟩

variable {location : Location} {text : String}

/-- Reading the entry of a location fails as a matter of format when its text is malformed. -/
theorem readEntry_eq_format_error (readable : location.sourceMapText = .ok text)
    {error : FormatError} {α : Type} {next : Entry → Except Fault α}
    (nextSound : ∀ entry, next entry ≠ .error (.format error))
    (failed : (do
      let text ← location.sourceMapText.mapError Fault.shape
      let entry ← (Entry.parse text).mapError Fault.format
      next entry) = .error (.format error)) : Entry.parse text = .error error := by
  rcases bind_eq_error.mp failed with impossible | ⟨other, otherOk, failed⟩
  · rw [readable] at impossible
    cases impossible
  · rw [readable] at otherOk
    cases otherOk
    rcases bind_eq_error.mp failed with malformed | ⟨entry, -, impossible⟩
    · obtain ⟨cause, parsed, equal⟩ := mapError_eq_error.mp malformed
      cases equal
      exact parsed
    · exact absurd impossible (nextSound entry)

/-- Reading the entry of a location succeeds only with a text that is an entry. -/
theorem readEntry_eq_ok (readable : location.sourceMapText = .ok text)
    {α : Type} {next : Entry → Except Fault α} {result : α}
    (succeeded : (do
      let text ← location.sourceMapText.mapError Fault.shape
      let entry ← (Entry.parse text).mapError Fault.format
      next entry) = .ok result) : ∃ entry, Entry.parse text = .ok entry := by
  obtain ⟨other, otherOk, succeeded⟩ := bind_eq_ok.mp succeeded
  rw [readable] at otherOk
  cases otherOk
  obtain ⟨entry, parsed, -⟩ := bind_eq_ok.mp succeeded
  exact ⟨entry, mapError_eq_ok.mp parsed⟩

namespace Contract

variable {contract : Contract} {format : String} {sourceList : List Json}

/-- A location is found malformed only by reading its text, which an address in the bytecode
format makes unnecessary. -/
theorem parse_error_of_locate (readable : location.sourceMapText = .ok text)
    {error : FormatError}
    (failed : contract.locate location format sourceList = .error (.format error)) :
    Entry.parse text = .error error ∧ (format ≠ bytecodeFormat ∨ location.address = none) := by
  rw [locate] at failed
  split at failed
  next bytecode =>
    rcases bind_eq_error.mp failed with impossible | ⟨map, -, failed⟩
    · obtain ⟨cause, -, impossible⟩ := mapError_eq_error.mp impossible
      cases impossible
    · rcases bind_eq_error.mp failed with malformed | ⟨offset, -, unnoted⟩
      · rw [Location.bytecodeOffset] at malformed
        split at malformed
        next => cases malformed
        next unaddressed =>
          refine ⟨readEntry_eq_format_error readable ?_ malformed, .inr unaddressed⟩
          intro entry impossible
          cases impossible
      · rcases bind_eq_error.mp unnoted with impossible | ⟨found, -, impossible⟩
        · obtain ⟨cause, -, impossible⟩ := mapError_eq_error.mp impossible
          cases impossible
        · cases impossible
  next other =>
    refine ⟨readEntry_eq_format_error readable ?_ failed, .inl other⟩
    intro entry impossible
    cases impossible

/-- A location that was found has an entry for its text, or an address that stands for it. -/
theorem parse_ok_of_locate (readable : location.sourceMapText = .ok text)
    {found : Option Entry × List Json}
    (located : contract.locate location format sourceList = .ok found) :
    (∃ entry, Entry.parse text = .ok entry) ∨
      (format = bytecodeFormat ∧ location.address ≠ none) := by
  rw [locate] at located
  split at located
  next bytecode =>
    obtain ⟨map, -, located⟩ := bind_eq_ok.mp located
    obtain ⟨offset, offsetOk, -⟩ := bind_eq_ok.mp located
    rw [Location.bytecodeOffset] at offsetOk
    split at offsetOk
    next address addressed =>
      refine .inr ⟨bytecode, ?_⟩
      rw [addressed]
      exact Option.some_ne_none address
    next => exact .inl (readEntry_eq_ok readable offsetOk)
  next => exact .inl (readEntry_eq_ok readable located)

/-- What becomes of an entry is a diagnostic or a suppression. -/
theorem outcomeAt_ne_malformed {options : Options} {issue : Issue} {entry : Entry}
    {names : List Json} {attributedTo : Json} {outcome : Outcome}
    (returned : contract.outcomeAt options issue entry names attributedTo = .ok outcome)
    (error : LocationError) : outcome ≠ .malformed error := by
  obtain ⟨suppressed, -, returned⟩ := bind_eq_ok.mp returned
  split at returned
  next =>
    cases returned
    exact Outcome.noConfusion
  next =>
    obtain ⟨span, -, returned⟩ := bind_eq_ok.mp returned
    cases returned
    exact Outcome.noConfusion

variable {options : Options} {issue : Issue} {attributedTo : Json}

theorem normalizeLocation_eq_ok {outcome : Outcome}
    (returned : contract.normalizeLocation options issue location format attributedTo sourceList =
      .ok outcome) :
    (∃ found, contract.locate location format sourceList = .ok found) ∧
      ∀ error, outcome ≠ .malformed error := by
  obtain ⟨⟨found, names⟩, located, returned⟩ := bind_eq_ok.mp returned
  refine ⟨⟨_, located⟩, ?_⟩
  cases found with
  | none =>
      cases returned
      intro error
      exact Outcome.noConfusion
  | some entry => exact outcomeAt_ne_malformed (mapError_eq_ok.mp returned)

theorem locate_of_normalizeLocation_eq_format_error {error : FormatError}
    (failed : contract.normalizeLocation options issue location format attributedTo sourceList =
      .error (.format error)) :
    contract.locate location format sourceList = .error (.format error) := by
  rcases bind_eq_error.mp failed with located | ⟨⟨found, names⟩, -, failed⟩
  · exact located
  · cases found with
    | none => cases failed
    | some entry =>
        obtain ⟨cause, -, impossible⟩ := mapError_eq_error.mp failed
        cases impossible

/-! ## The outcome of a place -/

/-- The outcomes of an issue at a location of a batch, when the location is attributed to the
source with a number: what normalization makes of it, or that it is malformed. -/
inductive Settles (contract : Contract) (options : Options) (batch : Batch) (slot : Nat)
    (issue : Issue) (location : Location) : Outcome → Prop where
  | normalized {outcome : Outcome} :
      contract.normalizeLocation options issue location batch.format
        (batch.sources.getD slot .null) batch.sourceList = .ok outcome →
      Settles contract options batch slot issue location outcome
  | malformed {error : FormatError} :
      contract.normalizeLocation options issue location batch.format
        (batch.sources.getD slot .null) batch.sourceList = .error (.format error) →
      Settles contract options batch slot issue location (.malformed
        { filePath := batch.sources.getD slot .null
          ruleId := issue.ruleId
          location := location.shown
          message := error.message })

variable {batch : Batch} {slot : Nat}

theorem settles_of_outcomeOf {outcome : Outcome}
    (returned : contract.outcomeOf options (batch.shareOf slot) issue location = .ok outcome) :
    contract.Settles options batch slot issue location outcome := by
  rw [outcomeOf] at returned
  split at returned
  next error failed =>
    cases returned
    exact .malformed failed
  next => exact .normalized returned

/-- A location is malformed exactly when its text is and its address does not stand for it. -/
theorem Settles.malformed_iff {outcome : Outcome}
    (settled : contract.Settles options batch slot issue location outcome)
    (readable : location.sourceMapText = .ok text) :
    (∃ error, outcome = .malformed error) ↔
      (∃ error, Entry.parse text = .error error) ∧
        (batch.format ≠ bytecodeFormat ∨ location.address = none) := by
  cases settled with
  | normalized returned =>
      obtain ⟨⟨found, located⟩, notMalformed⟩ := normalizeLocation_eq_ok returned
      constructor
      · intro given
        rcases given with ⟨error, equal⟩
        exact absurd equal (notMalformed error)
      · intro given
        rcases given with ⟨⟨error, malformed⟩, needed⟩
        rcases parse_ok_of_locate readable located with ⟨entry, parsed⟩ | ⟨bytecode, addressed⟩
        · rw [parsed] at malformed
          cases malformed
        · exact needed.elim (absurd bytecode) (absurd · addressed)
  | malformed failed =>
      have parsed := parse_error_of_locate readable
        (locate_of_normalizeLocation_eq_format_error failed)
      exact ⟨fun _ => ⟨⟨_, parsed.1⟩, parsed.2⟩, fun _ => ⟨_, rfl⟩⟩

end Contract

/-! ## The columns of the ledger -/

/-- One line of a ledger. -/
structure LedgerLine where
  /-- The number of the source that the location is attributed to. -/
  slot : Nat
  place : Place
  outcome : Outcome

/-- Whether a line comes before another one: by source, then by issue, then by location. -/
def LedgerLine.Precedes (first second : LedgerLine) : Prop :=
  first.slot < second.slot ∨ first.slot = second.slot ∧ first.place.Precedes second.place

/-- What the ledger of a batch has to hold. -/
structure Contract.Accounts (contract : Contract) (options : Options) (batch : Batch)
    (ledger : List LedgerLine) : Prop where
  /-- Every place of the batch has exactly one line. -/
  places_perm : (ledger.map (·.place)).Perm batch.places
  ordered : ledger.Pairwise LedgerLine.Precedes
  attributed : ∀ line ∈ ledger,
    line.place.location.slot batch.sources.length = .ok line.slot
  settled : ∀ line ∈ ledger,
    contract.Settles options batch line.slot line.place.issue line.place.location line.outcome
  malformed_iff : ∀ line ∈ ledger, ∃ text, line.place.location.sourceMapText = .ok text ∧
    ((∃ error, line.outcome = .malformed error) ↔
      (∃ error, Entry.parse text = .error error) ∧
        (batch.format ≠ bytecodeFormat ∨ line.place.location.address = none))

/-- Every outcome is in one of the three columns. -/
theorem length_eq_columns (outcomes : List Outcome) :
    outcomes.length = (Normalized.ofOutcomes outcomes).diagnostics.length +
      (Normalized.ofOutcomes outcomes).errors.length +
      (Normalized.ofOutcomes outcomes).suppressions.length := by
  simp only [Normalized.ofOutcomes]
  induction outcomes with
  | nil => rfl
  | cons outcome outcomes ih =>
      cases outcome with
      | diagnostic found =>
          simp only [List.length_cons, List.filterMap_cons, Outcome.diagnostic?, Outcome.error?,
            Outcome.suppression?, ih]
          omega
      | malformed error =>
          simp only [List.length_cons, List.filterMap_cons, Outcome.diagnostic?, Outcome.error?,
            Outcome.suppression?, ih]
          omega
      | suppressed record =>
          simp only [List.length_cons, List.filterMap_cons, Outcome.diagnostic?, Outcome.error?,
            Outcome.suppression?, ih]
          omega

/-! ## The ledger of a batch that is normalized -/

/-- The lines for the places of a batch, source by source, with the outcomes in the same order. -/
def ledgerOf (batch : Batch) (outcomes : List Outcome) : List LedgerLine :=
  (batch.placesBySource.zip outcomes).map fun (place, outcome) =>
    { slot := batch.slotOf place.location, place, outcome }

namespace Contract

variable {contract : Contract} {options : Options} {batch : Batch} {outcomes : List Outcome}

/-- The outcomes of a batch are those of its places, source by source. -/
theorem outcomes_eq_ok (returned : contract.outcomes options batch = .ok outcomes) :
    (batch.placesBySource.map fun place =>
      contract.outcomeOf options (batch.shareOf (batch.slotOf place.location)) place.issue
        place.location) = outcomes.map .ok ∧
    ∀ place ∈ batch.places,
      place.location.slot batch.sources.length = .ok (batch.slotOf place.location) := by
  obtain ⟨shares, sharesOk, returned⟩ := bind_eq_ok.mp returned
  obtain ⟨rfl, readable⟩ := Batch.shares_eq_ok (mapError_eq_ok.mp sharesOk)
  rw [Batch.flatMap_items_shareOf, mapM_eq_ok, List.map_map] at returned
  exact ⟨returned, readable⟩

theorem map_place_ledgerOf (returned : contract.outcomes options batch = .ok outcomes) :
    (ledgerOf batch outcomes).map (·.place) = batch.placesBySource := by
  have lengths := congrArg List.length (outcomes_eq_ok returned).1
  rw [List.length_map, List.length_map] at lengths
  rw [ledgerOf, List.map_map]
  exact List.map_fst_zip (Nat.le_of_eq lengths)

theorem length_ledgerOf (returned : contract.outcomes options batch = .ok outcomes) :
    (ledgerOf batch outcomes).length = batch.placesBySource.length := by
  rw [← map_place_ledgerOf returned, List.length_map]

theorem map_outcome_ledgerOf (returned : contract.outcomes options batch = .ok outcomes) :
    (ledgerOf batch outcomes).map (·.outcome) = outcomes := by
  have lengths := congrArg List.length (outcomes_eq_ok returned).1
  rw [List.length_map, List.length_map] at lengths
  rw [ledgerOf, List.map_map]
  exact List.map_snd_zip (Nat.le_of_eq lengths.symm)

/-- A column of the ledger is what the outcomes give, in their order. -/
theorem filterMap_ledgerOf {α : Type} (returned : contract.outcomes options batch = .ok outcomes)
    (column : Outcome → Option α) :
    (ledgerOf batch outcomes).filterMap (fun line => column line.outcome) =
      outcomes.filterMap column :=
  calc (ledgerOf batch outcomes).filterMap (fun line => column line.outcome)
    _ = ((ledgerOf batch outcomes).map (·.outcome)).filterMap column := by
      rw [List.filterMap_map]
      rfl
    _ = outcomes.filterMap column := by rw [map_outcome_ledgerOf returned]

theorem ledgerOf_pairwise (returned : contract.outcomes options batch = .ok outcomes) :
    (ledgerOf batch outcomes).Pairwise LedgerLine.Precedes := by
  have ordered := batch.placesBySource_pairwise
  rw [← map_place_ledgerOf returned, List.pairwise_map] at ordered
  apply ordered.imp_of_mem
  intro first second firstMem secondMem before
  obtain ⟨_, -, rfl⟩ := List.mem_map.mp firstMem
  obtain ⟨_, -, rfl⟩ := List.mem_map.mp secondMem
  exact before

theorem accounts_ledgerOf (returned : contract.outcomes options batch = .ok outcomes) :
    contract.Accounts options batch (ledgerOf batch outcomes) := by
  obtain ⟨each, readable⟩ := outcomes_eq_ok returned
  have places_perm : ((ledgerOf batch outcomes).map (·.place)).Perm batch.places := by
    rw [map_place_ledgerOf returned]
    exact batch.placesBySource_perm
  have attributed (line : LedgerLine) (member : line ∈ ledgerOf batch outcomes) :
      line.place.location.slot batch.sources.length = .ok line.slot := by
    have placeMem := places_perm.mem_iff.mp (List.mem_map_of_mem member)
    obtain ⟨_, -, rfl⟩ := List.mem_map.mp member
    exact readable _ placeMem
  have settled (line : LedgerLine) (member : line ∈ ledgerOf batch outcomes) :
      contract.Settles options batch line.slot line.place.issue line.place.location
        line.outcome := by
    obtain ⟨pair, pairMem, rfl⟩ := List.mem_map.mp member
    exact settles_of_outcomeOf (ok_of_mem_zip each pairMem)
  refine ⟨places_perm, ledgerOf_pairwise returned, attributed, settled, ?_⟩
  intro line member
  obtain ⟨text, readable⟩ := sourceMapText_of_slot (attributed line member)
  exact ⟨text, readable, (settled line member).malformed_iff readable⟩

/-- A batch that is normalized has a ledger with one line for each of its locations, and its
diagnostics, errors and suppressions are the columns of this ledger. -/
theorem normalize_accounts (contract : Contract) (options : Options) (batch : Batch)
    {result : Normalized} (returned : contract.normalize options batch = .ok result) :
    ∃ ledger, contract.Accounts options batch ledger ∧
      result.diagnostics = ledger.filterMap (·.outcome.diagnostic?) ∧
      result.errors = ledger.filterMap (·.outcome.error?) ∧
      result.suppressions = ledger.filterMap (·.outcome.suppression?) ∧
      batch.occurrences.length =
        result.diagnostics.length + result.errors.length + result.suppressions.length := by
  obtain ⟨outcomes, outcomesOk, rfl⟩ := map_eq_ok.mp returned
  have accounts := accounts_ledgerOf outcomesOk
  refine ⟨ledgerOf batch outcomes, accounts, (filterMap_ledgerOf outcomesOk _).symm,
    (filterMap_ledgerOf outcomesOk _).symm, (filterMap_ledgerOf outcomesOk _).symm, ?_⟩
  calc batch.occurrences.length
    _ = batch.places.length := by rw [Batch.occurrences_eq_map_places, List.length_map]
    _ = ((ledgerOf batch outcomes).map (·.place)).length := accounts.places_perm.length_eq.symm
    _ = ((ledgerOf batch outcomes).map (·.outcome)).length := by
      rw [List.length_map, List.length_map]
    _ = outcomes.length := by rw [map_outcome_ledgerOf outcomesOk]
    _ = _ := length_eq_columns outcomes

/-- A contract whose source declares a dynamically sized array at its bytes 4 to 12. -/
def arrayContract : Contract :=
  .ofSources
    { contractName := "Vault", sourcePath := "v.sol", deployedBytecode := "", sourceMap := ""
      deployedSourceMap := "", sourceList := []
      ast := .object
        [("nodeType", .text "VariableDeclaration"), ("src", .text "4:9:0"),
          ("typeName", .object [("nodeType", .text "ArrayTypeName")])] }
    [("v.sol", [0x61, 0x0A, 0x62])]

/-- A batch with a location at the array, a malformed one, and one elsewhere. -/
def arrayBatch : Batch :=
  { format := "text", sourceType := "", sourceList := [.text "v.sol"]
    issues :=
      [{ head := "Write", tail := "", severity := "High", ruleId := "SWC-131", ruleTitle := ""
         locations := [⟨.text "4:9:0", none⟩, ⟨.text "4:9", none⟩, ⟨.text "0:1:0", none⟩] }] }

theorem normalize_accounts_arrayBatch :
    ∃ result ledger, arrayContract.normalize .default arrayBatch = .ok result ∧
      (result.diagnostics.length, result.errors.length, result.suppressions.length) = (1, 1, 1) ∧
      arrayContract.Accounts .default arrayBatch ledger ∧
      result.diagnostics = ledger.filterMap (·.outcome.diagnostic?) ∧
      result.errors = ledger.filterMap (·.outcome.error?) ∧
      result.suppressions = ledger.filterMap (·.outcome.suppression?) := by
  have counts : (arrayContract.normalize .default arrayBatch).map (fun result =>
      (result.diagnostics.length, result.errors.length, result.suppressions.length)) =
        .ok (1, 1, 1) := rfl
  obtain ⟨result, returned, lengths⟩ := map_eq_ok.mp counts
  obtain ⟨ledger, accounts, diagnostics, errors, suppressions, -⟩ :=
    normalize_accounts arrayContract .default arrayBatch returned
  exact ⟨result, ledger, returned, lengths, accounts, diagnostics, errors, suppressions⟩

end Contract

end Pinpoint
