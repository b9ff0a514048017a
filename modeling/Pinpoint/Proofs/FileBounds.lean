import Mathlib.Tactic.ByContra
import Pinpoint.Proofs.SourceFiles

/-!
# Spans past the end of a file

A line index keeps the size of its file, and nothing that resolves a range reads it. An offset past
the end of the file continues the last line, at columns that the line does not have. So a span is
resolved whenever its range is not negative, and it lies in the file exactly when the range ends
there at the latest.
-/

namespace Pinpoint

open LineIndex (lineFeed lastStart ofBytes)

/-! ## Places that a file has -/

/-- Whether some bytes are a whole line of a file, with what comes before and after it. -/
structure IsLine (before line after : List UInt8) : Prop where
  starts : before = [] ∨ ∃ earlier, before = earlier ++ [lineFeed]
  single : lineFeed ∉ line
  ends : after = [] ∨ ∃ later, after = lineFeed :: later

/-- Whether a position is in a file: its line is one of the file's, and its column is one of the
bytes of the line or right after them. -/
def Position.IsIn (position : Position) (bytes : List UInt8) : Prop :=
  ∃ before line after, bytes = before ++ line ++ after ∧ IsLine before line after ∧
    position.line = 1 + before.count lineFeed ∧
    0 ≤ position.column ∧ position.column ≤ line.length

/-- Whether a span starts and ends in a file. -/
def Span.IsIn (span : Span) (bytes : List UInt8) : Prop :=
  span.start.IsIn bytes ∧ ∃ stop, span.stop = some stop ∧ stop.IsIn bytes

/-- What comes before a line is what its start is counted from. -/
theorem IsLine.lastStart_append {before line after : List UInt8}
    (isLine : IsLine before line after) : lastStart (before ++ line) = before.length := by
  rcases isLine.starts with rfl | ⟨earlier, rfl⟩
  · rw [List.nil_append, LineIndex.lastStart_eq_zero isLine.single]
    rfl
  · rw [List.append_assoc, List.singleton_append, LineIndex.lastStart_append_cons isLine.single,
      List.length_append]
    rfl

/-- Some bytes are cut after their last line feed. -/
theorem exists_isLine_nil (bytes : List UInt8) :
    ∃ before line, bytes = before ++ line ∧ IsLine before line [] := by
  by_cases broken : lineFeed ∈ bytes
  · rcases LineIndex.eq_append_cons_last broken with ⟨before, line, rfl, single⟩
    exact ⟨before ++ [lineFeed], line, by simp, .inr ⟨before, rfl⟩, single, .inl rfl⟩
  · exact ⟨[], bytes, rfl, .inl rfl, broken, .inl rfl⟩

/-- A line that is cut goes on to the next line feed. -/
theorem IsLine.exists_continued {before line : List UInt8} (isLine : IsLine before line [])
    (rest : List UInt8) :
    ∃ added after, rest = added ++ after ∧ IsLine before (line ++ added) after := by
  have joined {added : List UInt8} (single : lineFeed ∉ added) : lineFeed ∉ line ++ added :=
    List.not_mem_append isLine.single single
  by_cases broken : lineFeed ∈ rest
  · rcases List.eq_append_cons_of_mem broken with ⟨added, later, rfl, single⟩
    exact ⟨added, lineFeed :: later, rfl, isLine.starts, joined single, .inr ⟨later, rfl⟩⟩
  · exact ⟨rest, [], (List.append_nil rest).symm, isLine.starts, joined broken, .inl rfl⟩

/-- The line that all line feeds of a file come before is its last one. -/
theorem IsLine.after_eq_nil {before line after : List UInt8} (isLine : IsLine before line after)
    (counted : (before ++ line ++ after).count lineFeed = before.count lineFeed) : after = [] := by
  rcases isLine.ends with none | ⟨later, rfl⟩
  · exact none
  · rw [List.count_append, List.count_append, List.count_cons_self] at counted
    omega

/-- An offset has a position in a file exactly when it is not past the end. -/
theorem positionAt_isIn_iff (bytes : List UInt8) (fileName : String) (offset : Nat) :
    ((ofBytes bytes fileName).positionAt offset).IsIn bytes ↔ offset ≤ bytes.length := by
  rw [LineIndex.positionAt_ofBytes]
  constructor
  · rintro ⟨before, line, after, rfl, isLine, counted, -, bounded⟩
    by_contra past
    have whole := List.take_of_length_le (Nat.le_of_not_le past)
    simp only [whole] at counted bounded
    have last := isLine.after_eq_nil (by omega)
    subst last
    rw [List.append_nil, isLine.lastStart_append] at bounded
    rw [List.append_nil, List.length_append] at past
    omega
  · intro bound
    rcases exists_isLine_nil (bytes.take offset) with ⟨before, line, cut, isLine⟩
    rcases isLine.exists_continued (bytes.drop offset) with ⟨added, after, rest, whole⟩
    have start := isLine.lastStart_append
    have size := congrArg List.length cut
    have unbroken := List.count_eq_zero_of_not_mem isLine.single
    rw [List.length_take, List.length_append] at size
    refine ⟨before, line ++ added, after, ?_, whole, ?_, ?_, ?_⟩
    · rw [← List.append_assoc, ← cut, List.append_assoc, ← rest, List.take_append_drop]
    · simp only [cut, List.count_append, unbroken, Nat.add_zero]
    · simp only [cut, start]
      omega
    · simp only [cut, start, List.length_append]
      omega

/-! ## Spans of ranges -/

theorem not_isResolved_unresolved : ¬Span.unresolved.isResolved = true :=
  Bool.false_ne_true

section Ranges

variable {bytes : List UInt8} {fileName : String} {start length : Int}

theorem spanOfRange_isResolved_iff :
    ((ofBytes bytes fileName).spanOfRange start length).isResolved = true ↔
      0 ≤ start ∧ 0 ≤ length := by
  rw [LineIndex.spanOfRange]
  split
  next negative =>
    constructor
    · intro resolved
      exact absurd resolved not_isResolved_unresolved
    · omega
  next nonneg =>
    rw [Span.isResolved, bne_iff_ne, LineIndex.positionAt_ofBytes]
    constructor
    · intro _
      omega
    · intro _ unresolved
      have line := Int.natCast_nonneg (1 + (bytes.take start.toNat).count lineFeed)
      simp only [unresolvedLine] at unresolved
      omega

/-- The span of a range that is not negative is in the file exactly when the range ends there. -/
theorem spanOfRange_isIn_iff (startNonneg : 0 ≤ start) (lengthNonneg : 0 ≤ length) :
    ((ofBytes bytes fileName).spanOfRange start length).IsIn bytes ↔
      start + length ≤ bytes.length := by
  rw [LineIndex.spanOfRange, if_neg (by omega), Span.IsIn]
  simp only [Option.some.injEq, exists_eq_left', positionAt_isIn_iff]
  omega

end Ranges

/-! ## Spans of entries -/

/-- Whether a span is that of an entry in a file, and is in the file exactly when the entry ends
there. -/
structure Entry.Spans (entry : Entry) (bytes : List UInt8) (span : Span) : Prop where
  span_eq : ∃ fileName, span = entry.spanIn (ofBytes bytes fileName)
  isIn_iff : span.IsIn bytes ↔ entry.start + entry.length ≤ bytes.length

theorem Entry.spans_of_isResolved {entry : Entry} {bytes : List UInt8} {fileName : String}
    (resolved : (entry.spanIn (ofBytes bytes fileName)).isResolved = true) :
    entry.Spans bytes (entry.spanIn (ofBytes bytes fileName)) := by
  rcases spanOfRange_isResolved_iff.mp resolved with ⟨startNonneg, lengthNonneg⟩
  exact ⟨⟨fileName, rfl⟩, spanOfRange_isIn_iff startNonneg lengthNonneg⟩

section Paths

variable {bytes : List UInt8} {fileName : String} {span : Span}

theorem exists_spans_of_spanOfText {text : String}
    (returned : (ofBytes bytes fileName).spanOfText text = .ok span)
    (resolved : span.isResolved = true) :
    ∃ entry, Entry.parse text = .ok entry ∧ entry.Spans bytes span := by
  rw [LineIndex.spanOfText] at returned
  cases parsed : Entry.parse text with
  | error error =>
      rw [parsed] at returned
      cases returned
  | ok entry =>
      rw [parsed] at returned
      cases returned
      split at resolved
      next => exact absurd resolved not_isResolved_unresolved
      next named =>
        rw [if_neg named]
        exact ⟨entry, rfl, Entry.spans_of_isResolved resolved⟩

theorem exists_spans_of_spanAt {map : Bytecode.CodeMap} {offset : Int}
    (returned : map.spanAt offset (ofBytes bytes fileName) = .ok span)
    (resolved : span.isResolved = true) :
    ∃ entry, map.entryAt offset = .ok (some entry) ∧ entry.Spans bytes span := by
  rcases bind_eq_ok.mp returned with ⟨found, foundOk, returned⟩
  cases found with
  | none =>
      cases returned
      exact absurd resolved not_isResolved_unresolved
  | some entry =>
      cases returned
      exact ⟨entry, foundOk, Entry.spans_of_isResolved resolved⟩

theorem Contract.exists_spans_of_resolve {artifact : Artifact}
    {sources : List (String × List UInt8)} {location : Location} {format : String}
    {sourceList : List Json}
    (returned : (ofSources artifact sources).resolve location format sourceList = .ok span)
    (resolved : span.isResolved = true) :
    ∃ entry names name source,
      (ofSources artifact sources).Denotes location sourceList format entry names ∧
      fileNameAt? names entry.fileIndex = some (.text name) ∧
      source ∈ sources ∧
      (ofSources artifact sources).lineIndex? name = some (ofBytes source.2 source.1) ∧
      entry.Spans source.2 span := by
  rcases resolve_cases returned with rfl | ⟨entry, names, name, index, denotes, named, indexed, rfl⟩
  · exact absurd resolved not_isResolved_unresolved
  · rcases exists_source_of_lineIndex? indexed with ⟨source, member, -, rfl⟩
    exact ⟨entry, names, name, source, denotes, named, member, indexed,
      Entry.spans_of_isResolved resolved⟩

end Paths

/-- A range is resolved exactly when it is not negative, and a resolved span is in the file exactly
when its range ends at the size of the file at the latest. The same holds of what is resolved from
the text of an entry, from a bytecode offset, and from a location of a finding. -/
theorem resolved_isIn_iff (bytes : List UInt8) (fileName : String) :
    let index : LineIndex := ofBytes bytes fileName
    (∀ start length,
      ((index.spanOfRange start length).isResolved = true ↔ 0 ≤ start ∧ 0 ≤ length) ∧
      ((index.spanOfRange start length).isResolved = true →
        ((index.spanOfRange start length).IsIn bytes ↔ start + length ≤ index.size))) ∧
    (∀ text span, index.spanOfText text = .ok span → span.isResolved = true →
      ∃ entry, Entry.parse text = .ok entry ∧ entry.Spans bytes span) ∧
    (∀ (map : Bytecode.CodeMap) offset span, map.spanAt offset index = .ok span →
      span.isResolved = true →
      ∃ entry, map.entryAt offset = .ok (some entry) ∧ entry.Spans bytes span) ∧
    ∀ artifact sources location format sourceList span,
      (Contract.ofSources artifact sources).resolve location format sourceList = .ok span →
      span.isResolved = true →
      ∃ entry names name source,
        (Contract.ofSources artifact sources).Denotes location sourceList format entry names ∧
        fileNameAt? names entry.fileIndex = some (.text name) ∧
        source ∈ sources ∧
        (Contract.ofSources artifact sources).lineIndex? name =
          some (ofBytes source.2 source.1) ∧
        entry.Spans source.2 span := by
  intro index
  refine ⟨?_, ?_, ?_, ?_⟩
  · intro start length
    refine ⟨spanOfRange_isResolved_iff, ?_⟩
    intro resolved
    rcases spanOfRange_isResolved_iff.mp resolved with ⟨startNonneg, lengthNonneg⟩
    exact spanOfRange_isIn_iff startNonneg lengthNonneg
  · exact fun _ _ returned resolved => exists_spans_of_spanOfText returned resolved
  · exact fun _ _ _ returned resolved => exists_spans_of_spanAt returned resolved
  · exact fun _ _ _ _ _ _ returned resolved => Contract.exists_spans_of_resolve returned resolved

/-- A file of one line, which is followed by an empty one. -/
def shortBytes : List UInt8 := [0x61, 0x62, 0x0A]

/-- The bytecode of a single instruction, with an entry past the end of the file. -/
def shortMap : Bytecode.CodeMap :=
  { table := .ofCode [0x00], entries := [{ Entry.initial with length := 10, fileIndex := 0 }] }

/-- The span of the range from 0 to 10. -/
def pastSpan : Span := { start := ⟨1, 0⟩, stop := some ⟨2, 7⟩ }

/-- Of two ranges with a span the one that ends with the file is in it. The other one has the same
span on every path. -/
theorem resolved_isIn_iff_short :
    ((ofBytes shortBytes "v.sol").spanOfRange 0 3).IsIn shortBytes ∧
    ¬((ofBytes shortBytes "v.sol").spanOfRange 0 10).IsIn shortBytes ∧
    (∃ entry, Entry.parse "0:10:0" = .ok entry ∧ entry.Spans shortBytes pastSpan) ∧
    (∃ entry, shortMap.entryAt 0 = .ok (some entry) ∧ entry.Spans shortBytes pastSpan) ∧
    ∃ (entry : Entry) (names : List Json) (name : String) (source : String × List UInt8),
      source ∈ [("v.sol", shortBytes)] ∧
      fileNameAt? names entry.fileIndex = some (.text name) ∧
      entry.Spans source.2 pastSpan := by
  rcases resolved_isIn_iff shortBytes "v.sol" with ⟨ranges, texts, offsets, locations⟩
  have inside := (ranges 0 3).2 rfl
  have past := (ranges 0 10).2 rfl
  refine ⟨inside.mpr (by decide), mt past.mp (by decide), ?_, ?_, ?_⟩
  · exact texts "0:10:0" pastSpan rfl rfl
  · have spanned : shortMap.spanAt 0 (ofBytes shortBytes "v.sol") = .ok pastSpan := by
      decide +kernel
    exact offsets shortMap 0 pastSpan spanned rfl
  · rcases locations Cli.crlfJob.artifact [("v.sol", shortBytes)] ⟨.text "0:10:0", none⟩ "text"
      [.text "v.sol"] pastSpan rfl rfl with
      ⟨entry, names, name, source, -, named, member, -, spans⟩
    exact ⟨entry, names, name, source, member, named, spans⟩

/-- The range past the end of the file has a span, with an end at the eighth column of an empty
line. -/
theorem resolved_past_end_short :
    (ofBytes shortBytes "v.sol").spanOfRange 0 10 = pastSpan ∧ pastSpan.isResolved = true ∧
    ¬(0 + 10 : Int) ≤ (ofBytes shortBytes "v.sol").size ∧
    ¬Position.IsIn ⟨2, 7⟩ shortBytes := by
  refine ⟨rfl, rfl, by decide, ?_⟩
  exact mt (positionAt_isIn_iff shortBytes "v.sol" 10).mp (by decide)

end Pinpoint
