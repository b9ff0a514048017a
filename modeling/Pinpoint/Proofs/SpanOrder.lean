import Pinpoint.Proofs.LineEnds
import Pinpoint.Proofs.PlacedDiagnostics

/-!
# Byte ranges and their spans

A later offset has a later position: it lies on a later line, or further to the right on the same
one. This holds across line boundaries and past the end of the file, where the last line goes on. So
positions are ordered as their offsets are, and the span of a byte range says as much as the range
itself: different ranges have different spans, a range is empty exactly when its span is, and one
range lies inside another one exactly when its span does.
-/

namespace Pinpoint

/-! ## The order of positions -/

namespace Position

variable {first second : Position}

theorem Before.not_atOrBefore (before : first.Before second) : ¬second.AtOrBefore first := by
  rw [Before] at before
  rw [AtOrBefore]
  omega

theorem atOrBefore_refl (position : Position) : position.AtOrBefore position :=
  .inr ⟨rfl, Int.le_refl _⟩

end Position

namespace LineIndex

variable (index : LineIndex)

/-- A later offset has a later position. Either more lines have started up to it, or the same ones,
and then it is further from the start of the last of them. -/
theorem positionAt_before {first second : Nat} (before : first < second) :
    (index.positionAt first).Before (index.positionAt second) := by
  have started := takeWhile_le_prefix index.lineStarts (Nat.le_of_lt before)
  rcases Nat.lt_or_eq_of_le started.length_le with earlier | same
  · exact .inl (Int.ofNat_lt.mpr earlier)
  · refine .inr ⟨congrArg Int.ofNat same, ?_⟩
    simp only [positionAt, started.eq_of_length same]
    omega

/-- Positions are in the order of their offsets. -/
theorem positionAt_atOrBefore_iff {first second : Nat} :
    (index.positionAt first).AtOrBefore (index.positionAt second) ↔ first ≤ second := by
  constructor
  · intro ordered
    by_contra later
    exact (index.positionAt_before (Nat.lt_of_not_le later)).not_atOrBefore ordered
  · exact index.positionAt_atOrBefore

/-- Different offsets have different positions. -/
theorem positionAt_inj {first second : Nat} :
    index.positionAt first = index.positionAt second ↔ first = second := by
  constructor
  · intro same
    apply Nat.le_antisymm
    · rw [← index.positionAt_atOrBefore_iff, same]
      exact Position.atOrBefore_refl _
    · rw [← index.positionAt_atOrBefore_iff, same]
      exact Position.atOrBefore_refl _
  · exact congrArg index.positionAt

end LineIndex

/-! ## Ranges and spans -/

/-- A range of bytes of a file: so many of them from an offset on. -/
structure ByteRange where
  start : Int
  length : Int
  start_nonneg : 0 ≤ start
  length_nonneg : 0 ≤ length
  deriving DecidableEq

/-- Whether all of a byte range is in another one. -/
def ByteRange.Inside (inner outer : ByteRange) : Prop :=
  outer.start ≤ inner.start ∧ inner.start + inner.length ≤ outer.start + outer.length

/-- Whether all of a span is in another one. Nothing is known of spans without an end. -/
def Span.Inside (inner outer : Span) : Prop :=
  match inner.stop, outer.stop with
  | some innerStop, some outerStop =>
    outer.start.AtOrBefore inner.start ∧ innerStop.AtOrBefore outerStop
  | _, _ => False

namespace LineIndex

variable (index : LineIndex)

/-- The span of a byte range. -/
def spanOf (range : ByteRange) : Span :=
  index.spanOfRange range.start range.length

theorem spanOf_eq (range : ByteRange) :
    index.spanOf range =
      { start := index.positionAt range.start.toNat
        stop := some (index.positionAt (range.start + range.length).toNat) } := by
  have startNonneg := range.start_nonneg
  have lengthNonneg := range.length_nonneg
  rw [spanOf, spanOfRange, if_neg (by omega)]

/-- Whether spans stand for byte ranges one to one and in their order. -/
structure MirrorsRanges : Prop where
  /-- A span does not end before it starts, and it ends there only if the range is empty. -/
  ordered : ∀ range : ByteRange, ∃ stop, (index.spanOf range).stop = some stop ∧
    (index.spanOf range).start.AtOrBefore stop ∧
    ((index.spanOf range).start = stop ↔ range.length = 0)
  injective : ∀ range other : ByteRange, index.spanOf range = index.spanOf other → range = other
  inside_iff : ∀ range other : ByteRange,
    range.Inside other ↔ (index.spanOf range).Inside (index.spanOf other)
  /-- A later offset has a later position. -/
  before : ∀ first second : Int, 0 ≤ first → first < second →
    ∃ earlier later, index.position first = .ok earlier ∧ index.position second = .ok later ∧
      earlier.Before later

theorem exists_stop_spanOf (range : ByteRange) :
    ∃ stop, (index.spanOf range).stop = some stop ∧
      (index.spanOf range).start.AtOrBefore stop ∧
      ((index.spanOf range).start = stop ↔ range.length = 0) := by
  have startNonneg := range.start_nonneg
  have lengthNonneg := range.length_nonneg
  rw [spanOf_eq]
  refine ⟨_, rfl, ?_, ?_⟩
  · rw [positionAt_atOrBefore_iff]
    omega
  · rw [positionAt_inj]
    omega

theorem spanOf_injective (range other : ByteRange)
    (same : index.spanOf range = index.spanOf other) : range = other := by
  rw [spanOf_eq, spanOf_eq, Span.mk.injEq, Option.some.injEq, positionAt_inj,
    positionAt_inj] at same
  rcases range with ⟨start, length, startNonneg, lengthNonneg⟩
  rcases other with ⟨otherStart, otherLength, otherStartNonneg, otherLengthNonneg⟩
  rw [ByteRange.mk.injEq]
  simp only at same
  omega

theorem inside_spanOf_iff (range other : ByteRange) :
    range.Inside other ↔ (index.spanOf range).Inside (index.spanOf other) := by
  have startNonneg := range.start_nonneg
  have lengthNonneg := range.length_nonneg
  have otherStartNonneg := other.start_nonneg
  have otherLengthNonneg := other.length_nonneg
  rw [spanOf_eq, spanOf_eq, Span.Inside, ByteRange.Inside]
  simp only [positionAt_atOrBefore_iff]
  omega

theorem exists_position_before (first second : Int) (nonneg : 0 ≤ first)
    (before : first < second) :
    ∃ earlier later, index.position first = .ok earlier ∧ index.position second = .ok later ∧
      earlier.Before later := by
  refine ⟨_, _, position_eq_ok.mpr ⟨nonneg, rfl⟩, position_eq_ok.mpr ⟨by omega, rfl⟩, ?_⟩
  apply index.positionAt_before
  omega

/-- Spans stand for byte ranges one to one and in their order. -/
theorem spanOf_mirrors_ranges : index.MirrorsRanges where
  ordered := index.exists_stop_spanOf
  injective := index.spanOf_injective
  inside_iff := index.inside_spanOf_iff
  before := index.exists_position_before

/-- A file of two lines, of which the first ends with a carriage return and a line feed. -/
def twoLines : LineIndex :=
  ofBytes [0x61, 0x0D, 0x0A, 0x62] "v.sol"

/-- The empty range at the line feed lies inside the first line, and an offset past the end of the
file is further right on the last line. -/
theorem spanOf_mirrors_ranges_twoLines :
    (twoLines.spanOf ⟨2, 0, by decide, by decide⟩).Inside
        (twoLines.spanOf ⟨0, 3, by decide, by decide⟩) ∧
      ∃ earlier later, twoLines.position 4 = .ok earlier ∧ twoLines.position 9 = .ok later ∧
        earlier.Before later := by
  have mirrors := spanOf_mirrors_ranges twoLines
  refine ⟨?_, mirrors.before 4 9 (by decide) (by decide)⟩
  exact (mirrors.inside_iff ⟨2, 0, by decide, by decide⟩ ⟨0, 3, by decide, by decide⟩).mp
    ⟨by decide, by decide⟩

end LineIndex

end Pinpoint
