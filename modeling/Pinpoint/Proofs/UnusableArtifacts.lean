import Pinpoint.Proofs.JsonOrder
import Pinpoint.Proofs.StoppedBatches

/-!
# Unusable artifacts

What is wrong with the code of an artifact is told from its bytecode and its source map alone, and
there is at most one thing to tell: the bytecode is looked at first. A batch tells it exactly when
it needs the code, which is when one of its locations has to be found in the bytecode format. The
texts of the locations do not matter then, since the code is decoded before they are read.
-/

namespace Pinpoint

/-! ## Defects of the code -/

/-- What is wrong with the code of an artifact. -/
inductive Artifact.HasDefect (artifact : Artifact) : ArtifactError → Prop
  | noBytecode : artifact.deployedBytecode = "" →
      HasDefect artifact (.noBytecode artifact.contractName)
  | badBytecode : artifact.deployedBytecode ≠ "" →
      Bytecode.ofHex? artifact.deployedBytecode = none →
      HasDefect artifact (.badBytecode artifact.contractName)
  | noSourceMap {code : List UInt8} : artifact.deployedBytecode ≠ "" →
      Bytecode.ofHex? artifact.deployedBytecode = some code → artifact.deployedSourceMap = "" →
      HasDefect artifact (.noSourceMap artifact.contractName)
  | badSourceMap {code : List UInt8} {cause : FormatError} : artifact.deployedBytecode ≠ "" →
      Bytecode.ofHex? artifact.deployedBytecode = some code → artifact.deployedSourceMap ≠ "" →
      Entry.decompress artifact.deployedSourceMap = .error cause →
      HasDefect artifact (.badSourceMap artifact.contractName cause)

namespace Artifact

variable {artifact : Artifact} {error : ArtifactError}

theorem instructionTable_eq_error :
    artifact.instructionTable = .error error ↔
      (artifact.deployedBytecode = "" ∧ error = .noBytecode artifact.contractName) ∨
      (artifact.deployedBytecode ≠ "" ∧ Bytecode.ofHex? artifact.deployedBytecode = none ∧
        error = .badBytecode artifact.contractName) := by
  rw [instructionTable]
  split
  next empty => simp [String.isEmpty_iff.mp empty, eq_comm]
  next nonempty =>
    have present : artifact.deployedBytecode ≠ "" := mt String.isEmpty_iff.mpr nonempty
    split
    next undecoded => simp [present, undecoded, eq_comm]
    next decoded => simp [present, decoded]

theorem instructionTable_eq_ok :
    (∃ table, artifact.instructionTable = .ok table) ↔
      artifact.deployedBytecode ≠ "" ∧
        ∃ code, Bytecode.ofHex? artifact.deployedBytecode = some code := by
  rw [instructionTable]
  split
  next empty => simp [String.isEmpty_iff.mp empty]
  next nonempty =>
    have present : artifact.deployedBytecode ≠ "" := mt String.isEmpty_iff.mpr nonempty
    split
    next undecoded => simp [undecoded]
    next decoded => simp [present, decoded]

theorem deployedEntries_eq_error :
    artifact.deployedEntries = .error error ↔
      (artifact.deployedSourceMap = "" ∧ error = .noSourceMap artifact.contractName) ∨
      (artifact.deployedSourceMap ≠ "" ∧
        ∃ cause, Entry.decompress artifact.deployedSourceMap = .error cause ∧
          error = .badSourceMap artifact.contractName cause) := by
  rw [deployedEntries]
  split
  next empty => simp [String.isEmpty_iff.mp empty, eq_comm]
  next nonempty =>
    have present : artifact.deployedSourceMap ≠ "" := mt String.isEmpty_iff.mpr nonempty
    split
    next malformed => simp [present, malformed, eq_comm]
    next decompressed => simp [present, decompressed]

/-- The code of an artifact is refused with what is wrong with it, and with nothing else. -/
theorem codeMap_eq_error_iff : artifact.codeMap = .error error ↔ artifact.HasDefect error := by
  constructor
  · intro failed
    rcases bind_eq_error.mp failed with unread | ⟨table, tableOk, failed⟩
    · rcases instructionTable_eq_error.mp unread with ⟨empty, rfl⟩ | ⟨present, undecoded, rfl⟩
      · exact .noBytecode empty
      · exact .badBytecode present undecoded
    · rcases instructionTable_eq_ok.mp ⟨table, tableOk⟩ with ⟨present, code, decoded⟩
      rcases bind_eq_error.mp failed with unread | ⟨entries, -, impossible⟩
      · rcases deployedEntries_eq_error.mp unread with ⟨empty, rfl⟩ |
          ⟨written, cause, malformed, rfl⟩
        · exact .noSourceMap present decoded empty
        · exact .badSourceMap present decoded written malformed
      · cases impossible
  · intro defect
    cases defect with
    | noBytecode empty =>
        exact bind_eq_error.mpr (.inl (instructionTable_eq_error.mpr (.inl ⟨empty, rfl⟩)))
    | badBytecode present undecoded =>
        exact bind_eq_error.mpr
          (.inl (instructionTable_eq_error.mpr (.inr ⟨present, undecoded, rfl⟩)))
    | noSourceMap present decoded empty =>
        rcases instructionTable_eq_ok.mpr ⟨present, _, decoded⟩ with ⟨table, tableOk⟩
        exact bind_eq_error.mpr (.inr ⟨table, tableOk, bind_eq_error.mpr
          (.inl (deployedEntries_eq_error.mpr (.inl ⟨empty, rfl⟩)))⟩)
    | badSourceMap present decoded written malformed =>
        rcases instructionTable_eq_ok.mpr ⟨present, _, decoded⟩ with ⟨table, tableOk⟩
        exact bind_eq_error.mpr (.inr ⟨table, tableOk, bind_eq_error.mpr
          (.inl (deployedEntries_eq_error.mpr (.inr ⟨written, _, malformed, rfl⟩)))⟩)

/-- Something is wrong with the code of an artifact if one of its two texts is empty or cannot be
decoded. -/
theorem exists_hasDefect_iff :
    (∃ error, artifact.HasDefect error) ↔
      artifact.deployedBytecode = "" ∨ Bytecode.ofHex? artifact.deployedBytecode = none ∨
        artifact.deployedSourceMap = "" ∨
        ∃ cause, Entry.decompress artifact.deployedSourceMap = .error cause := by
  constructor
  · rintro ⟨error, defect⟩
    cases defect with
    | noBytecode empty => exact .inl empty
    | badBytecode _ undecoded => exact .inr (.inl undecoded)
    | noSourceMap _ _ empty => exact .inr (.inr (.inl empty))
    | badSourceMap _ _ _ malformed => exact .inr (.inr (.inr ⟨_, malformed⟩))
  · intro faulty
    by_cases present : artifact.deployedBytecode = ""
    · exact ⟨_, .noBytecode present⟩
    · cases decoded : Bytecode.ofHex? artifact.deployedBytecode with
      | none => exact ⟨_, .badBytecode present decoded⟩
      | some code =>
          by_cases written : artifact.deployedSourceMap = ""
          · exact ⟨_, .noSourceMap present decoded written⟩
          · rcases faulty with empty | undecoded | empty | ⟨cause, malformed⟩
            · exact absurd empty present
            · cases decoded.symm.trans undecoded
            · exact absurd empty written
            · exact ⟨_, .badSourceMap present decoded written malformed⟩

end Artifact

/-! ## Where a defect is told -/

namespace Contract

variable {contract : Contract} {location : Location} {format : String} {sourceList : List Json}

/-- With a defect no location is found in the bytecode format, malformed ones included. -/
theorem locate_of_hasDefect {error : ArtifactError}
    (defect : contract.artifact.HasDefect error) :
    contract.locate location bytecodeFormat sourceList = .error (.artifact error) := by
  rw [locate, if_pos rfl, Artifact.codeMap_eq_error_iff.mpr defect]
  rfl

end Contract

/-- Whether the source-map text of every location of a batch is a text or null. -/
def Batch.IsTextual (batch : Batch) : Prop :=
  ∀ issue ∈ batch.issues, ∀ location ∈ issue.locations,
    location.sourceMap = .null ∨ location.sourceMap.IsText

namespace Batch

variable {batch : Batch}

theorem places_ne_nil : batch.places ≠ [] ↔ ∃ issue ∈ batch.issues, issue.locations ≠ [] := by
  have same : batch.places = [] ↔ batch.occurrences = [] := by
    rw [occurrences_eq_map_places, List.map_eq_nil_iff]
  rw [ne_eq, same, occurrences, List.flatMap_eq_nil_iff]
  simp only [List.map_eq_nil_iff, Classical.not_forall, exists_prop, ne_eq]

theorem IsTextual.not_untextual (textual : batch.IsTextual) {place : Place}
    (member : place ∈ batch.places) : ¬place.location.Untextual := by
  rcases mem_places.mp member with ⟨listed, located⟩
  rintro ⟨present, notText⟩
  rcases textual _ (List.mem_of_getElem? listed) _ (List.mem_of_getElem? located) with
    null | ⟨text, written⟩
  · rw [null] at present
    cases present
  · exact notText text written

end Batch

namespace Contract

/-- A batch whose locations have texts or nulls raises an error of the artifact exactly when it is
in the bytecode format, has a location at all, and the code has a defect, which is then the error.
Each location by itself does so, whatever it says, and never raises a malformed location for a
defect of the artifact: such an error is always in the text of the location. -/
theorem normalize_eq_artifact_error_iff (contract : Contract) (options : Options) (batch : Batch)
    (textual : batch.IsTextual) :
    (∀ error, contract.normalize options batch = .error (.artifact error) ↔
      batch.format = bytecodeFormat ∧ (∃ issue ∈ batch.issues, issue.locations ≠ []) ∧
        contract.artifact.HasDefect error) ∧
    ((∃ error, contract.artifact.HasDefect error) ↔
      contract.artifact.deployedBytecode = "" ∨
        Bytecode.ofHex? contract.artifact.deployedBytecode = none ∨
        contract.artifact.deployedSourceMap = "" ∨
        ∃ cause, Entry.decompress contract.artifact.deployedSourceMap = .error cause) ∧
    (∀ error, contract.artifact.codeMap = .error error ↔ contract.artifact.HasDefect error) ∧
    (∀ error, contract.artifact.HasDefect error → ∀ location sourceList,
      contract.locate location bytecodeFormat sourceList = .error (.artifact error)) ∧
    (∀ location format sourceList text error, location.sourceMapText = .ok text →
      contract.locate location format sourceList = .error (.format error) →
      Entry.parse text = .error error) ∧
    ∀ error, contract.normalize options batch ≠ .error (.format error) := by
  refine ⟨?_, Artifact.exists_hasDefect_iff, fun _ => Artifact.codeMap_eq_error_iff, ?_, ?_, ?_⟩
  · intro error
    rw [normalize, map_eq_error, ← Artifact.codeMap_eq_error_iff, ← Batch.places_ne_nil]
    constructor
    · intro failed
      rcases stopped_of_outcomes_eq_error failed with
        ⟨_, same, bytecode, unmapped, nonempty⟩ | ⟨_, impossible, -⟩
      · cases same
        exact ⟨bytecode, nonempty, unmapped⟩
      · cases impossible
    · rintro ⟨bytecode, nonempty, unmapped⟩
      exact outcomes_of_codeMap_eq_error bytecode unmapped nonempty fun _ => textual.not_untextual
  · intro error defect location sourceList
    exact locate_of_hasDefect defect
  · intro location format sourceList text error readable failed
    exact (parse_error_of_locate readable failed).1
  · intro error
    rw [normalize, ne_eq, map_eq_error]
    intro failed
    rcases stopped_of_outcomes_eq_error failed with ⟨_, impossible, -⟩ | ⟨_, impossible, -⟩
    · cases impossible
    · cases impossible

/-- A contract whose bytecode has an odd number of digits, and whose source map is malformed. -/
def truncatedContract : Contract :=
  .ofSources
    { contractName := "Vault", sourcePath := "v.sol", deployedBytecode := "0x6", sourceMap := ""
      deployedSourceMap := "x", ast := .null, sourceList := [] } []

/-- A batch with a malformed location. -/
def malformedBatch (format : String) : Batch :=
  { format, sourceType := "", sourceList := [.text "v.sol"]
    issues :=
      [{ head := "Call", tail := "", severity := "Low", ruleId := "SWC-107", ruleTitle := ""
         locations := [⟨.text "x", none⟩] }] }

theorem isTextual_malformedBatch (format : String) : (malformedBatch format).IsTextual := by
  intro issue issueMem location member
  rw [List.mem_singleton.mp issueMem] at member
  exact .inr ⟨"x", congrArg Location.sourceMap (List.mem_singleton.mp member)⟩

/-- The defect of the bytecode is told in the bytecode format, and not in the text format, where
the malformed location is reported. -/
theorem normalize_truncatedContract :
    truncatedContract.normalize .default (malformedBatch bytecodeFormat) =
      .error (.artifact (.badBytecode "Vault")) ∧
    (∀ error, truncatedContract.normalize .default (malformedBatch "text") ≠
      .error (.artifact error)) ∧
    ∃ result, truncatedContract.normalize .default (malformedBatch "text") = .ok result ∧
      result.errors.length = 1 := by
  refine ⟨?_, ?_, _, rfl, rfl⟩
  · apply ((normalize_eq_artifact_error_iff truncatedContract .default _
      (isTextual_malformedBatch bytecodeFormat)).1 _).mpr
    refine ⟨rfl, ⟨_, List.mem_singleton_self _, List.cons_ne_nil _ _⟩, ?_⟩
    exact .badBytecode (by decide) (by decide +kernel)
  · intro error failed
    have bytecode := (((normalize_eq_artifact_error_iff truncatedContract .default _
      (isTextual_malformedBatch "text")).1 error).mp failed).1
    exact absurd bytecode (by decide)

end Contract

end Pinpoint
