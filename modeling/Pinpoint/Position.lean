/-!
# Positions and spans

A position is a line, counted from one, and a column, counted in bytes from zero. A span is a
start with an end that may be unknown. The span of something that has no place in any source is
`Span.unresolved`: it starts at line -1 and has no end.
-/

namespace Pinpoint

/-- A place in a source text. -/
structure Position where
  line : Int
  column : Int
  deriving BEq, DecidableEq, Repr

/-- The line of a place that could not be found. -/
def unresolvedLine : Int := -1

/-- A range of a source text. -/
structure Span where
  /-- The first position of the range. -/
  start : Position
  /-- The position after the range, if it is known. -/
  stop : Option Position
  deriving BEq, DecidableEq, Repr

namespace Span

/-- The span of something without a place in any source. -/
def unresolved : Span :=
  { start := { line := unresolvedLine, column := 0 }, stop := none }

/-- Whether a span has a place. -/
def isResolved (span : Span) : Bool :=
  span.start.line != unresolvedLine

end Span

end Pinpoint
