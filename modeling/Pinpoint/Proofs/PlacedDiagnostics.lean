import Mathlib.Data.List.TakeWhile
import Pinpoint.Proofs.LineScan
import Pinpoint.Proofs.Provenance
import Pinpoint.Proofs.Suppression

/-!
# The places of diagnostics

A diagnostic has a place in a file, with a start and an end, or no place at all. Entries may have
negative starts and lengths, indexes out of range and files without a text, and each is turned
away somewhere: what names no source when its location is read, what names no file when its name
is looked up, and a negative range when it is turned into a span. So no position of a negative
offset is ever asked for, and no diagnostic has one end only.
-/

namespace Pinpoint

/-- Whether a position is that of another one or comes before it. -/
def Position.AtOrBefore (first second : Position) : Prop :=
  first.line < second.line ∨ first.line = second.line ∧ first.column ≤ second.column

/-! ## Positions of a line index -/

namespace LineIndex

/-- What the lines of an index have to be: ascending, with the first one at the offset zero. -/
structure IsSound (index : LineIndex) : Prop where
  head?_lineStarts : index.lineStarts.head? = some 0
  ascending : index.lineStarts.Pairwise (· < ·)

theorem isSound_ofBytes (bytes : List UInt8) (fileName : String) :
    (ofBytes bytes fileName).IsSound :=
  ⟨rfl, lineStarts_pairwise bytes fileName⟩

/-- The lines that start up to an offset are the first of those that start up to a later one. -/
theorem takeWhile_le_prefix (starts : List Nat) {first second : Nat} (ordered : first ≤ second) :
    starts.takeWhile (fun start => decide (start ≤ first)) <+:
      starts.takeWhile (fun start => decide (start ≤ second)) := by
  have both : starts.takeWhile (fun start => decide (start ≤ first)) =
      (starts.takeWhile fun start => decide (start ≤ second)).takeWhile
        fun start => decide (start ≤ first) := by
    rw [List.takeWhile_takeWhile]
    congr 1
    funext start
    rw [Bool.eq_iff_iff]
    simp only [decide_eq_true_eq]
    omega
  rw [both]
  exact List.takeWhile_prefix _

theorem positionAt_atOrBefore (index : LineIndex) {first second : Nat}
    (ordered : first ≤ second) : (index.positionAt first).AtOrBefore (index.positionAt second) := by
  have started := takeWhile_le_prefix index.lineStarts ordered
  rcases Nat.lt_or_eq_of_le started.length_le with earlier | same
  · exact .inl (Int.ofNat_lt.mpr earlier)
  · refine .inr ⟨congrArg Int.ofNat same, ?_⟩
    simp only [positionAt, started.eq_of_length same]
    omega

theorem IsSound.line_positionAt_pos {index : LineIndex} (sound : index.IsSound) (offset : Nat) :
    1 ≤ (index.positionAt offset).line := by
  rcases List.head?_eq_some_iff.mp sound.head?_lineStarts with ⟨others, starts⟩
  have started : 0 < (index.lineStarts.takeWhile fun start => decide (start ≤ offset)).length := by
    rw [starts, List.takeWhile_cons_of_pos (by simp)]
    exact Nat.succ_pos _
  exact Int.ofNat_le.mpr started

theorem line_positionAt_le (index : LineIndex) (offset : Nat) :
    (index.positionAt offset).line ≤ index.lineCount :=
  Int.ofNat_le.mpr (List.takeWhile_prefix _).length_le

theorem column_positionAt_nonneg (index : LineIndex) (offset : Nat) :
    0 ≤ (index.positionAt offset).column := by
  have bound : (index.lineStarts.takeWhile fun start => decide (start ≤ offset)).getLastD 0 ≤
      offset := by
    rw [List.getLastD_eq_getLast?]
    cases last : (index.lineStarts.takeWhile fun start => decide (start ≤ offset)).getLast? with
    | none => exact Nat.zero_le offset
    | some start =>
        have started := List.mem_takeWhile_imp (List.mem_of_getLast? last)
        exact of_decide_eq_true started
  exact Int.sub_nonneg_of_le (Int.ofNat_le.mpr bound)

/-- The span of a byte range, by asking for the positions of both ends. -/
def requestSpan (index : LineIndex) (start length : Int) : Except NegativeOffset Span :=
  if start < 0 ∨ length < 0 then .ok .unresolved
  else do
    let first ← index.position start
    let last ← index.position (start + length)
    return { start := first, stop := some last }

/-- No position is asked for that there is none of. -/
theorem requestSpan_eq_ok (index : LineIndex) (start length : Int) :
    index.requestSpan start length = .ok (index.spanOfRange start length) := by
  rw [requestSpan, spanOfRange]
  split
  next => rfl
  next nonneg =>
    have first : index.position start = .ok (index.positionAt start.toNat) :=
      position_eq_ok.mpr ⟨by omega, rfl⟩
    have last : index.position (start + length) = .ok (index.positionAt (start + length).toNat) :=
      position_eq_ok.mpr ⟨by omega, rfl⟩
    rw [first, last]
    rfl

end LineIndex

/-! ## Diagnostics with and without a place -/

namespace Diagnostic

variable {Name : Type}

/-- Whether a diagnostic has no place: neither its start nor its end has one. -/
structure IsUnplaced (diagnostic : Diagnostic Name) : Prop where
  line_eq : diagnostic.line = -1
  column_eq : diagnostic.column = 0
  endLine_eq : diagnostic.endLine = -1
  endColumn_eq : diagnostic.endColumn = 0

/-- Whether a diagnostic has the place of a byte range of a file: it starts and ends where the
range does, on lines of the file, and does not end before it starts. -/
structure IsPlaced (diagnostic : Diagnostic Name) (index : LineIndex) (start length : Int) :
    Prop where
  start_eq : index.position start =
    .ok { line := diagnostic.line, column := diagnostic.column }
  stop_eq : index.position (start + length) =
    .ok { line := diagnostic.endLine, column := diagnostic.endColumn }
  line_pos : 1 ≤ diagnostic.line
  column_nonneg : 0 ≤ diagnostic.column
  endColumn_nonneg : 0 ≤ diagnostic.endColumn
  ordered : Position.AtOrBefore ⟨diagnostic.line, diagnostic.column⟩
    ⟨diagnostic.endLine, diagnostic.endColumn⟩
  endLine_le : diagnostic.endLine ≤ index.lineCount

end Diagnostic

section Issue

variable (issue : Issue) (options : Options) (filePath : Json)

theorem isUnplaced_diagnosticAt_unresolved :
    (issue.diagnosticAt options .unresolved filePath).IsUnplaced :=
  ⟨rfl, rfl, rfl, rfl⟩

/-- An issue at an entry that names a byte range of a source is placed there. -/
theorem isPlaced_diagnosticAt {index : LineIndex} (sound : index.IsSound) {entry : Entry}
    (named : entry.hasSource = true) :
    (issue.diagnosticAt options (entry.spanIn index) filePath).IsPlaced index entry.start
      entry.length := by
  rcases (Bytecode.hasSource_iff entry).mp named with ⟨-, startNonneg, lengthNonneg⟩
  have ordered : entry.start.toNat ≤ (entry.start + entry.length).toNat := by omega
  rw [Bytecode.spanIn_of_hasSource named]
  exact {
    start_eq := LineIndex.position_eq_ok.mpr ⟨startNonneg, rfl⟩
    stop_eq := LineIndex.position_eq_ok.mpr ⟨Int.add_nonneg startNonneg lengthNonneg, rfl⟩
    line_pos := sound.line_positionAt_pos _
    column_nonneg := index.column_positionAt_nonneg _
    endColumn_nonneg := index.column_positionAt_nonneg _
    ordered := index.positionAt_atOrBefore ordered
    endLine_le := index.line_positionAt_le _ }

end Issue

/-! ## Diagnostics of a contract -/

namespace Contract

/-- What the line indexes of a contract have to be. -/
def HasSoundIndexes (contract : Contract) : Prop :=
  ∀ source ∈ contract.lineIndexes, source.2.IsSound

theorem hasSoundIndexes_ofSources (artifact : Artifact) (sources : List (String × List UInt8)) :
    (ofSources artifact sources).HasSoundIndexes := by
  intro source member
  rcases List.mem_map.mp member with ⟨given, -, rfl⟩
  exact LineIndex.isSound_ofBytes given.2 given.1

/-- Whether a diagnostic has the place that a location of a batch stands for: that of the byte
range of its entry in the file which the entry names. -/
def Places (contract : Contract) (batch : Batch) (location : Location)
    (diagnostic : Diagnostic Json) : Prop :=
  ∃ entry names name index,
    contract.Denotes location batch.sourceList batch.format entry names ∧
    fileNameAt? names entry.fileIndex = some (.text name) ∧
    contract.lineIndex? name = some index ∧
    diagnostic.IsPlaced index entry.start entry.length

/-- Whether a diagnostic is reported under a name that there is: one of the batch, one of the
artifact, or the empty name of the only source of a batch that names none. -/
def Names (contract : Contract) (batch : Batch) (diagnostic : Diagnostic Json) : Prop :=
  diagnostic.filePath ∈ batch.sourceList ∨
    (∃ path ∈ contract.artifact.sourceList, diagnostic.filePath = .text path) ∨
    batch.sourceList = [] ∧ diagnostic.filePath = .text ""

variable {contract : Contract} {options : Options} {batch : Batch} {slot : Nat} {issue : Issue}
variable {location : Location} {diagnostic : Diagnostic Json}

theorem Settles.isUnplaced_or_places
    (settled : contract.Settles options batch slot issue location (.diagnostic diagnostic))
    (sound : contract.HasSoundIndexes) :
    diagnostic.IsUnplaced ∨ contract.Places batch location diagnostic := by
  cases settled with
  | normalized returned =>
      rcases eq_diagnosticAt_of_normalizeLocation returned with ⟨span, filePath, resolved, rfl, -⟩
      rcases resolve_cases resolved with
        rfl | ⟨entry, names, name, index, denotes, named, indexed, rfl⟩
      · exact .inl (isUnplaced_diagnosticAt_unresolved _ _ _)
      · rcases mem_lineIndexes_of_lineIndex? indexed with ⟨source, listed, -, rfl⟩
        exact .inr ⟨entry, names, name, source.2, denotes, named, indexed,
          isPlaced_diagnosticAt _ _ _ (sound source listed) denotes.hasSource⟩

theorem Settles.names
    (settled : contract.Settles options batch slot issue location (.diagnostic diagnostic))
    (bound : slot < batch.sources.length) : contract.Names batch diagnostic := by
  cases settled with
  | normalized returned =>
      rcases eq_diagnosticAt_of_normalizeLocation returned with ⟨span, filePath, -, rfl, named⟩
      rcases named with rfl | listed | listed
      · exact (getD_sources bound).imp id .inr
      · exact .inl listed
      · rcases List.mem_map.mp listed with ⟨path, member, rfl⟩
        exact .inr (.inl ⟨path, member, rfl⟩)

/-- Every diagnostic of a batch has a place in a file that its location names, or none at all, and
is reported under a name that there is. No negative offset is asked for on the way. -/
theorem normalize_places (contract : Contract) (options : Options) (batch : Batch)
    (sound : contract.HasSoundIndexes) :
    (∀ (index : LineIndex) start length,
      index.requestSpan start length = .ok (index.spanOfRange start length)) ∧
    ∀ result, contract.normalize options batch = .ok result →
      ∀ diagnostic ∈ result.diagnostics,
        diagnostic.fatal = false ∧
        (diagnostic.IsUnplaced ∨
          ∃ place ∈ batch.places, contract.Places batch place.location diagnostic) ∧
        contract.Names batch diagnostic := by
  refine ⟨LineIndex.requestSpan_eq_ok, ?_⟩
  intro result returned diagnostic member
  rcases normalize_accounts contract options batch returned with
    ⟨ledger, accounts, diagnostics, -, -, -⟩
  rw [diagnostics, List.mem_filterMap] at member
  rcases member with ⟨line, lineMem, found⟩
  have settled := accounts.settled line lineMem
  cases outcome : line.outcome with
  | malformed | suppressed =>
      rw [outcome] at found
      cases found
  | diagnostic =>
      rw [outcome] at found settled
      cases found
      have placeMem : line.place ∈ batch.places :=
        accounts.places_perm.mem_iff.mp (List.mem_map_of_mem lineMem)
      have bound : line.slot < batch.sources.length :=
        Batch.slot_lt batch.sources_length_pos (accounts.attributed line lineMem)
      refine ⟨settled.fatal_eq_false, ?_, settled.names bound⟩
      exact (settled.isUnplaced_or_places sound).imp id fun places => ⟨_, placeMem, places⟩

/-- A batch with a location in the file, one past its end, and three without a place: the start of
the first is negative, as is the file index of the second, and that of the third names no file. -/
def strayBatch : Batch :=
  { format := "text", sourceType := "", sourceList := [.text "v.sol"]
    issues :=
      [{ head := "Overflow", tail := "", severity := "High", ruleId := "SWC-101", ruleTitle := ""
         locations := [⟨.text "0:3:0", none⟩, ⟨.text "9:9:0", none⟩, ⟨.text "-4:9:0", none⟩,
           ⟨.text "0:1:-2", none⟩, ⟨.text "0:1:7", none⟩] }] }

theorem normalize_places_strayBatch :
    ∃ result, arrayContract.normalize .default strayBatch = .ok result ∧
      (result.diagnostics.map fun diagnostic =>
        (diagnostic.line, diagnostic.column, diagnostic.endLine, diagnostic.endColumn)) =
          [(1, 0, 2, 1), (2, 7, 2, 16), (-1, 0, -1, 0), (-1, 0, -1, 0), (-1, 0, -1, 0)] ∧
      ∀ diagnostic ∈ result.diagnostics,
        diagnostic.fatal = false ∧
        (diagnostic.IsUnplaced ∨
          ∃ place ∈ strayBatch.places, arrayContract.Places strayBatch place.location diagnostic) ∧
        arrayContract.Names strayBatch diagnostic := by
  have found : (arrayContract.normalize .default strayBatch).map (fun result =>
      result.diagnostics.map fun diagnostic =>
        (diagnostic.line, diagnostic.column, diagnostic.endLine, diagnostic.endColumn)) =
          .ok [(1, 0, 2, 1), (2, 7, 2, 16), (-1, 0, -1, 0), (-1, 0, -1, 0), (-1, 0, -1, 0)] := rfl
  rcases map_eq_ok.mp found with ⟨result, returned, coordinates⟩
  have sound : arrayContract.HasSoundIndexes := hasSoundIndexes_ofSources _ _
  exact ⟨result, returned, coordinates,
    (normalize_places arrayContract .default strayBatch sound).2 result returned⟩

end Contract

end Pinpoint
