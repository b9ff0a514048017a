import Pinpoint.Proofs.Provenance
import Pinpoint.Proofs.Resolution
import Pinpoint.Proofs.Suppression

/-!
# The names that diagnostics are reported under

The file of a finding is decided twice. A batch is shared among its sources before anything is
resolved, by a reading of the source-map texts that takes every failure for the first source. Later
the entry that was found names a file. Where a location holds its entry itself the two decisions
are one. In the bytecode format the entry of the instruction decides if the diagnostic has a place,
and the share of the location otherwise.
-/

namespace Pinpoint

/-! ## The source of a location -/

/-- The number of the source that a location belongs to is the file index of the entry in its text,
as long as there is one and it is in range. -/
theorem Location.slot_eq {location : Location} {sourceCount : Nat} {text : String}
    (readable : location.sourceMapText = .ok text) :
    location.slot sourceCount = .ok (match Entry.parse text with
      | .error _ => 0
      | .ok entry =>
        if 0 ≤ entry.fileIndex ∧ entry.fileIndex < sourceCount then entry.fileIndex.toNat
        else 0) := by
  rw [sourceMapText, Json.textIfPresent] at readable
  rw [slot]
  split at readable
  next present =>
    rw [if_pos present, readable]
    change (match Entry.parse text with | .error _ => _ | .ok entry => _) = _
    split
    next => rfl
    next entry _ =>
      split
      next => rfl
      next => rfl
  next absent =>
    cases readable
    rw [if_neg absent]
    rfl

/-- The number of the source that a location belongs to, among `sourceCount` sources: the file index
of its text, and zero if there is no text, the text is no entry, or no source has the index. -/
inductive Location.BelongsTo (location : Location) (sourceCount : Nat) : Nat → Prop where
  | indexed {text : String} {entry : Entry} {slot : Nat} :
      location.sourceMap = .text text → Entry.parse text = .ok entry →
      entry.fileIndex = slot → slot < sourceCount → BelongsTo location sourceCount slot
  | first :
      (∀ text entry, location.sourceMap = .text text → Entry.parse text = .ok entry →
        entry.fileIndex < 0 ∨ (sourceCount : Int) ≤ entry.fileIndex) →
      BelongsTo location sourceCount 0

/-- A text that has an entry is what the location holds, since the empty text has none. -/
theorem Location.sourceMap_of_parse {location : Location} {text : String} {entry : Entry}
    (readable : location.sourceMapText = .ok text) (parsed : Entry.parse text = .ok entry) :
    location.sourceMap = .text text := by
  rcases sourceMap_of_sourceMapText readable with ⟨-, written⟩ | ⟨-, rfl⟩
  · exact written
  · cases parsed

theorem Location.parse_of_sourceMap {location : Location} {text other : String} {entry : Entry}
    (readable : location.sourceMapText = .ok text) (written : location.sourceMap = .text other)
    (parsed : Entry.parse other = .ok entry) : Entry.parse text = .ok entry := by
  rcases sourceMap_of_sourceMapText readable with ⟨-, same⟩ | ⟨absent, -⟩
  · cases written.symm.trans same
    exact parsed
  · rw [written] at absent
    have empty : other = "" := by simpa [Json.isPresent] using absent
    rw [empty] at parsed
    cases parsed

/-- Attribution gives a location that has a source-map text the number of the source that it belongs
to. -/
theorem Location.belongsTo_iff {location : Location} {sourceCount slot : Nat} {text : String}
    (readable : location.sourceMapText = .ok text) :
    location.BelongsTo sourceCount slot ↔ location.slot sourceCount = .ok slot := by
  rw [slot_eq readable, Except.ok.injEq, eq_comm]
  cases parsed : Entry.parse text with
  | error error =>
      constructor
      · intro belongs
        cases belongs with
        | indexed written found =>
            cases parsed.symm.trans (parse_of_sourceMap readable written found)
        | first => rfl
      · rintro rfl
        refine .first fun other entry written found => ?_
        cases parsed.symm.trans (parse_of_sourceMap readable written found)
  | ok entry =>
      have written := sourceMap_of_parse readable parsed
      constructor
      · intro belongs
        cases belongs with
        | indexed otherWritten found index bound =>
            cases parsed.symm.trans (parse_of_sourceMap readable otherWritten found)
            dsimp only
            rw [if_pos (by omega)]
            omega
        | first outside =>
            have beyond := outside text entry written parsed
            dsimp only
            rw [if_neg (by omega)]
      · intro same
        dsimp only at same
        split at same
        next bounds => exact .indexed written parsed (by omega) (by omega)
        next outside =>
          rw [same]
          refine .first fun other found otherWritten otherParsed => ?_
          cases parsed.symm.trans (parse_of_sourceMap readable otherWritten otherParsed)
          omega

namespace Batch

/-- The source that a location of a batch is attributed to: the name at the file index of its text,
or else the first one. A batch without sources has the empty name. -/
inductive Attributes (batch : Batch) (location : Location) : Json → Prop
  | listed {text : String} {entry : Entry} {name : Json} :
      location.sourceMapText = .ok text → Entry.parse text = .ok entry →
      0 ≤ entry.fileIndex → batch.sourceList[entry.fileIndex.toNat]? = some name →
      Attributes batch location name
  | first {text : String} :
      location.sourceMapText = .ok text →
      (∀ entry, Entry.parse text = .ok entry →
        entry.fileIndex < 0 ∨ (batch.sourceList.length : Int) ≤ entry.fileIndex) →
      Attributes batch location (batch.sourceList.headD (.text ""))

variable {batch : Batch} {location : Location} {slot : Nat}

theorem getD_sources_zero (batch : Batch) :
    batch.sources.getD 0 .null = batch.sourceList.headD (.text "") := by
  rw [sources]
  cases batch.sourceList <;> rfl

theorem getD_sources_of_lt (bound : slot < batch.sourceList.length) :
    batch.sourceList[slot]? = some (batch.sources.getD slot .null) := by
  have listed : batch.sources = batch.sourceList := by
    rw [sources, if_neg]
    intro empty
    rw [List.isEmpty_iff.mp empty] at bound
    exact Nat.not_lt_zero _ bound
  rw [listed, List.getD_eq_getElem?_getD, List.getElem?_eq_getElem bound]
  rfl

theorem length_sourceList_le (batch : Batch) : batch.sourceList.length ≤ batch.sources.length := by
  rw [sources]
  split
  next empty => simp [List.isEmpty_iff.mp empty]
  next => exact Nat.le_refl _

/-- The source that a location belongs to is the one that it is attributed to. -/
theorem attributes_of_belongsTo {text : String} (readable : location.sourceMapText = .ok text)
    (belongs : location.BelongsTo batch.sources.length slot) :
    batch.Attributes location (batch.sources.getD slot .null) := by
  cases belongs with
  | indexed written parsed index bound =>
      have found := Location.parse_of_sourceMap readable written parsed
      by_cases listed : slot < batch.sourceList.length
      · refine .listed readable found (by omega) ?_
        rw [index, Int.toNat_natCast]
        exact getD_sources_of_lt listed
      · -- A batch without sources has its only source at the number zero nevertheless.
        have zero : slot = 0 := by
          rw [sources] at bound
          split at bound
          next => simpa using bound
          next => exact absurd bound listed
        rw [zero, getD_sources_zero]
        refine .first readable fun other otherParsed => ?_
        cases found.symm.trans otherParsed
        omega
  | first outside =>
      rw [getD_sources_zero]
      refine .first readable fun entry parsed => ?_
      have beyond := outside text entry (Location.sourceMap_of_parse readable parsed) parsed
      have := batch.length_sourceList_le
      omega

/-- The source with the number of a location is the one that the location is attributed to. -/
theorem attributes_of_slot (attributed : location.slot batch.sources.length = .ok slot) :
    batch.Attributes location (batch.sources.getD slot .null) := by
  rcases sourceMapText_of_slot attributed with ⟨text, readable⟩
  exact attributes_of_belongsTo readable ((Location.belongsTo_iff readable).mpr attributed)

end Batch

/-! ## The name of a diagnostic -/

namespace Contract

variable {contract : Contract} {options : Options} {batch : Batch} {slot : Nat} {issue : Issue}
variable {location : Location} {format : String} {attributedTo : Json} {sourceList : List Json}
variable {diagnostic : Diagnostic Json}

/-- The name that a diagnostic is reported under is the one it is attributed to, unless it has a
place and the name that its entry points to is not empty. -/
theorem filePath_of_outcomeAt {entry : Entry} {names : List Json}
    (returned : contract.outcomeAt options issue entry names attributedTo =
      .ok (.diagnostic diagnostic)) :
    diagnostic.line = -1 ∧ diagnostic.filePath = attributedTo ∨
      diagnostic.line ≠ -1 ∧ ∃ name, fileNameAt? names entry.fileIndex = some (.text name) ∧
        diagnostic.filePath = (Json.text name).orElse attributedTo := by
  rcases bind_eq_ok.mp returned with ⟨suppressed, -, returned⟩
  cases suppressed with
  | true => cases returned
  | false =>
      rcases bind_eq_ok.mp returned with ⟨span, spanOk, returned⟩
      cases returned
      by_cases resolved : span.isResolved = true
      · refine .inr ⟨bne_iff_ne.mp resolved, ?_⟩
        rcases spanOf_cases spanOk with rfl | ⟨name, index, named, -, -⟩
        · cases resolved
        · refine ⟨name, named, ?_⟩
          simp only [Issue.diagnosticAt, if_pos resolved, named, Option.getD_some]
      · refine .inl ⟨?_, ?_⟩
        · simpa [Span.isResolved, Issue.diagnosticAt, unresolvedLine] using resolved
        · simp only [Issue.diagnosticAt, if_neg resolved]

theorem filePath_of_normalizeLocation
    (returned : contract.normalizeLocation options issue location format attributedTo sourceList =
      .ok (.diagnostic diagnostic)) :
    diagnostic.line = -1 ∧ diagnostic.filePath = attributedTo ∨
      diagnostic.line ≠ -1 ∧ ∃ entry names name,
        contract.Denotes location sourceList format entry names ∧
        fileNameAt? names entry.fileIndex = some (.text name) ∧
        diagnostic.filePath = (Json.text name).orElse attributedTo := by
  rcases bind_eq_ok.mp returned with ⟨⟨found, names⟩, located, returned⟩
  cases found with
  | none =>
      cases returned
      exact .inl ⟨rfl, rfl⟩
  | some entry =>
      apply (filePath_of_outcomeAt (mapError_eq_ok.mp returned)).imp id
      rintro ⟨placed, name, named, reported⟩
      exact ⟨placed, entry, names, name, denotes_iff.mpr located, named, reported⟩

/-- Where a location holds its entry itself, the name that the entry points to is the source that
the location is attributed to. -/
theorem eq_of_attributes {entry : Entry} {names : List Json} {name : String}
    (denotes : contract.Denotes location batch.sourceList format entry names)
    (written : format ≠ bytecodeFormat)
    (named : fileNameAt? names entry.fileIndex = some (.text name))
    (attributed : batch.Attributes location attributedTo) : attributedTo = .text name := by
  cases denotes with
  | instruction => exact absurd rfl written
  | @written _ text _ _ readable parsed _ =>
      rcases fileNameAt?_eq_some.mp named with ⟨nonneg, listed, -⟩
      cases attributed with
      | listed otherReadable otherParsed _ otherListed =>
          cases readable.symm.trans otherReadable
          cases parsed.symm.trans otherParsed
          exact Option.some.inj (otherListed.symm.trans listed)
      | first otherReadable outside =>
          cases readable.symm.trans otherReadable
          rcases List.getElem?_eq_some_iff.mp listed with ⟨bound, -⟩
          have := outside entry parsed
          omega

/-- Which name a diagnostic of a batch is reported under, when its location is in a share. -/
structure NamesShare (contract : Contract) (batch : Batch) (location : Location)
    (share : SourceShare) (diagnostic : Diagnostic Json) : Prop where
  filePath_of_written : batch.format ≠ bytecodeFormat → diagnostic.filePath = share.source
  filePath_of_unplaced : diagnostic.line = -1 → diagnostic.filePath = share.source
  /-- With a place in the bytecode format it is the name that the entry of the instruction points
  to, in the list of the artifact or else in that of the batch. -/
  filePath_of_instruction : batch.format = bytecodeFormat → diagnostic.line ≠ -1 →
    ∃ map offset entry name,
      contract.artifact.codeMap = .ok map ∧ location.bytecodeOffset = .ok offset ∧
      map.entryAt offset = .ok (some entry) ∧
      fileNameAt?
        (if contract.artifact.sourceList = [] then batch.sourceList
          else contract.artifact.sourceList.map Json.text) entry.fileIndex = some (.text name) ∧
      diagnostic.filePath = if name = "" then share.source else .text name

theorem orElse_text (name : String) (fallback : Json) :
    (Json.text name).orElse fallback = if name = "" then fallback else .text name := by
  simp only [Json.orElse, Json.isPresent]
  by_cases empty : name = ""
  · simp [empty]
  · simp [empty]

theorem Settles.namesShare
    (settled : contract.Settles options batch slot issue location (.diagnostic diagnostic))
    (attributed : batch.Attributes location (batch.sources.getD slot .null)) :
    contract.NamesShare batch location (batch.shareOf slot) diagnostic := by
  cases settled with
  | normalized returned =>
      rcases filePath_of_normalizeLocation returned with
        ⟨unplaced, reported⟩ | ⟨placed, entry, names, name, denotes, named, reported⟩
      · exact ⟨fun _ => reported, fun _ => reported, fun _ placed => absurd unplaced placed⟩
      · refine ⟨?_, fun unplaced => absurd unplaced placed, ?_⟩
        · intro written
          rw [reported, Batch.shareOf, eq_of_attributes denotes written named attributed,
            Json.orElse, ite_self]
        · intro bytecode _
          change contract.Denotes location batch.sourceList batch.format entry names at denotes
          rw [bytecode] at denotes
          cases denotes with
          | written other => exact absurd rfl other
          | @instruction map offset _ mapped located found =>
              refine ⟨map, offset, entry, name, mapped, located, found, named, ?_⟩
              rw [reported, orElse_text]
              rfl

/-- Every location of a batch is in one of its shares, that of the source which it is attributed
to, and its diagnostic is reported under the name of this source or, with a place in the bytecode
format, under the one that its instruction gives. -/
theorem normalize_names_shares (contract : Contract) (options : Options) (batch : Batch)
    {result : Normalized} (returned : contract.normalize options batch = .ok result) :
    ∃ shares ledger, batch.shares = .ok shares ∧ contract.Accounts options batch ledger ∧
      result.diagnostics = ledger.filterMap (·.outcome.diagnostic?) ∧
      ∀ line ∈ ledger, ∃ share, shares[line.slot]? = some share ∧
        (line.place.issue, line.place.location) ∈ share.items ∧
        batch.Attributes line.place.location share.source ∧
        ∀ diagnostic, line.outcome = .diagnostic diagnostic →
          contract.NamesShare batch line.place.location share diagnostic := by
  rcases map_eq_ok.mp returned with ⟨outcomes, outcomesOk, rfl⟩
  rcases bind_eq_ok.mp outcomesOk with ⟨shares, sharesOk, -⟩
  rcases Batch.shares_eq_ok (mapError_eq_ok.mp sharesOk) with ⟨listed, -⟩
  have accounts := accounts_ledgerOf outcomesOk
  refine ⟨shares, ledgerOf batch outcomes, mapError_eq_ok.mp sharesOk, accounts,
    (filterMap_ledgerOf outcomesOk _).symm, ?_⟩
  intro line member
  have numbered := accounts.attributed line member
  have bound : line.slot < batch.sources.length :=
    Batch.slot_lt batch.sources_length_pos numbered
  have placed : line.place ∈ batch.placesOf line.slot := by
    have placeMem := accounts.places_perm.mem_iff.mp (List.mem_map_of_mem member)
    refine List.mem_filter.mpr ⟨placeMem, ?_⟩
    simp [Batch.slotOf, numbered]
  have attributed := Batch.attributes_of_slot numbered
  refine ⟨batch.shareOf line.slot, ?_, List.mem_map_of_mem placed, attributed, ?_⟩
  · rw [listed]
    simp [bound]
  · intro diagnostic reported
    have settled := accounts.settled line member
    rw [reported] at settled
    exact settled.namesShare attributed

/-- An issue with locations in a second source, in a first one, outside of both, and malformed. -/
def twinIssue : Issue :=
  { head := "Write", tail := "", severity := "High", ruleId := "SWC-124", ruleTitle := ""
    locations := [⟨.text "2:3:1", some 2⟩, ⟨.text "0:1:0", some 1⟩, ⟨.text "0:1:7", some 9⟩,
      ⟨.text "3", some 2⟩] }

/-- A batch whose two sources have the same file name. -/
def twinBatch (format : String) : Batch :=
  { format, sourceType := "", sourceList := [.text "src/v.sol", .text "lib/v.sol"]
    issues := [twinIssue] }

/-! ### Offsets of the contract with a store -/

/-- The data of the push start no instruction. -/
theorem entryAt_storeMap_data : storeMap.entryAt 1 = .ok none := by
  have unstarted : (Bytecode.InstructionTable.ofCode [0x60, 0x00, 0x55]).instructionAt? 1 =
      none := by decide +kernel
  rw [Bytecode.CodeMap.entryAt, if_neg (by decide), storeMap]
  simp only [unstarted]
  exact bind_eq_ok.mpr ⟨(), Bytecode.note_of_lt_ten (by decide), rfl⟩

theorem entryAt_storeMap_outside : storeMap.entryAt 9 = .ok none := by
  rw [Bytecode.CodeMap.entryAt, if_pos (by decide)]
  exact bind_eq_ok.mpr ⟨(), Bytecode.note_of_lt_ten (by decide), rfl⟩

theorem outcomeOf_of_locate_eq_none {share : SourceShare} {names : List Json}
    (located : contract.locate location share.format share.sourceList = .ok (none, names)) :
    contract.outcomeOf options share issue location =
      .ok (.diagnostic (issue.diagnosticAt options .unresolved share.source)) := by
  rw [outcomeOf, normalizeLocation, located]
  rfl

/-- In the bytecode format two locations of the issue have no entry and two have that of the
store. -/
theorem outcomes_twinBatch :
    storeContract.outcomes .default (twinBatch bytecodeFormat) =
      .ok ([Span.unresolved, .unresolved, ⟨⟨2, 0⟩, some ⟨3, 0⟩⟩, ⟨⟨2, 0⟩, some ⟨3, 0⟩⟩].map
        fun span => .diagnostic (twinIssue.diagnosticAt .default span (.text "src/v.sol"))) := by
  have located (text : Json) (offset : Int) (noEntry : storeMap.entryAt offset = .ok none) :
      storeContract.locate ⟨text, some offset⟩ bytecodeFormat
        [.text "src/v.sol", .text "lib/v.sol"] = .ok (none, [.text "src/v.sol"]) := by
    rw [locate, if_pos rfl]
    refine bind_eq_ok.mpr ⟨storeMap, mapError_eq_ok.mpr codeMap_store, ?_⟩
    exact bind_eq_ok.mpr ⟨offset, rfl, bind_eq_ok.mpr ⟨none, mapError_eq_ok.mpr noEntry, rfl⟩⟩
  have first := located (.text "0:1:0") 1 entryAt_storeMap_data
  have second := located (.text "0:1:7") 9 entryAt_storeMap_outside
  refine bind_eq_ok.mpr ⟨_, rfl, mapM_eq_ok.mpr ?_⟩
  refine List.cons_eq_cons.mpr ⟨outcomeOf_of_locate_eq_none first, ?_⟩
  refine List.cons_eq_cons.mpr ⟨outcomeOf_of_locate_eq_none second, ?_⟩
  with_unfolding_all rfl

/-- The text of a location decides about the name in the text format. In the bytecode format the
store at the offset 2 is in the source of the artifact, whatever the text says. -/
theorem normalize_names_shares_twinBatch :
    (∃ (result : Normalized) (shares : List SourceShare) (ledger : List LedgerLine),
      storeContract.normalize .default (twinBatch "text") = .ok result ∧
      (result.diagnostics.map fun diagnostic => (diagnostic.line, diagnostic.filePath)) =
        [(1, .text "src/v.sol"), (-1, .text "src/v.sol"), (2, .text "lib/v.sol")] ∧
      (twinBatch "text").shares = .ok shares ∧
      result.diagnostics = ledger.filterMap (·.outcome.diagnostic?) ∧
      ∀ line ∈ ledger, ∃ share, shares[line.slot]? = some share ∧
        ∀ diagnostic, line.outcome = .diagnostic diagnostic →
          diagnostic.filePath = share.source) ∧
    ∃ (result : Normalized) (shares : List SourceShare) (ledger : List LedgerLine),
      storeContract.normalize .default (twinBatch bytecodeFormat) = .ok result ∧
      (result.diagnostics.map fun diagnostic => (diagnostic.line, diagnostic.filePath)) =
        [(-1, .text "src/v.sol"), (-1, .text "src/v.sol"), (2, .text "src/v.sol"),
          (2, .text "src/v.sol")] ∧
      (twinBatch bytecodeFormat).shares = .ok shares ∧
      result.diagnostics = ledger.filterMap (·.outcome.diagnostic?) ∧
      ∀ line ∈ ledger, ∃ share, shares[line.slot]? = some share ∧
        ∀ diagnostic, line.outcome = .diagnostic diagnostic → diagnostic.line = -1 →
          diagnostic.filePath = share.source := by
  have written : (storeContract.normalize .default (twinBatch "text")).map (fun result =>
      result.diagnostics.map fun diagnostic => (diagnostic.line, diagnostic.filePath)) =
        .ok [(1, .text "src/v.sol"), (-1, .text "src/v.sol"), (2, .text "lib/v.sol")] := rfl
  have instructed : (storeContract.normalize .default (twinBatch bytecodeFormat)).map
      (fun result =>
        result.diagnostics.map fun diagnostic => (diagnostic.line, diagnostic.filePath)) =
          .ok [(-1, .text "src/v.sol"), (-1, .text "src/v.sol"), (2, .text "src/v.sol"),
            (2, .text "src/v.sol")] := by
    rw [normalize, outcomes_twinBatch]
    rfl
  rcases map_eq_ok.mp written with ⟨texts, textsOk, textNames⟩
  rcases map_eq_ok.mp instructed with ⟨codes, codesOk, codeNames⟩
  rcases normalize_names_shares storeContract .default (twinBatch "text") textsOk with
    ⟨textShares, textLedger, textSharesOk, -, textDiagnostics, textLines⟩
  rcases normalize_names_shares storeContract .default (twinBatch bytecodeFormat) codesOk with
    ⟨codeShares, codeLedger, codeSharesOk, -, codeDiagnostics, codeLines⟩
  constructor
  · refine ⟨texts, textShares, textLedger, textsOk, textNames, textSharesOk, textDiagnostics, ?_⟩
    intro line member
    rcases textLines line member with ⟨share, listed, -, -, named⟩
    exact ⟨share, listed, fun diagnostic found =>
      (named diagnostic found).filePath_of_written (by decide)⟩
  · refine ⟨codes, codeShares, codeLedger, codesOk, codeNames, codeSharesOk, codeDiagnostics, ?_⟩
    intro line member
    rcases codeLines line member with ⟨share, listed, -, -, named⟩
    exact ⟨share, listed, fun diagnostic found =>
      (named diagnostic found).filePath_of_unplaced⟩

end Contract

end Pinpoint
