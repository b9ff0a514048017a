import Pinpoint.Position

/-!
# Line index

The byte offsets at which the lines of a file start. Every line feed ends one line, so a file
with `k` line feeds has `k + 1` lines, and a carriage return before a line feed belongs to the
line that it ends. A byte offset lies in the last line that starts at or before it.
-/

namespace Pinpoint

/-- The lines of a file. -/
structure LineIndex where
  fileName : String
  /-- The offset of the first byte of each line, ascending; the first line starts at zero. -/
  lineStarts : List Nat
  /-- The number of bytes of the file. -/
  size : Nat
  deriving BEq, DecidableEq, Repr

/-- An offset before the start of a file, which has no position. -/
structure NegativeOffset where
  offset : Int
  deriving BEq, DecidableEq, Repr

/-- The wording of the error. -/
def NegativeOffset.message (error : NegativeOffset) : String :=
  s!"offset must be >= 0, got {error.offset}"

namespace LineIndex

/-- The byte that ends a line. -/
def lineFeed : UInt8 := 0x0A

/-- The offsets right after each line feed. `offset` is the number of bytes before these. -/
def startsAfter (offset : Nat) : List UInt8 → List Nat
  | [] => []
  | byte :: rest =>
    if byte = lineFeed then (offset + 1) :: startsAfter (offset + 1) rest
    else startsAfter (offset + 1) rest

/-- The line index of a file. -/
def ofBytes (bytes : List UInt8) (fileName : String) : LineIndex :=
  { fileName
    lineStarts := 0 :: startsAfter 0 bytes
    size := bytes.length }

/-- The number of lines. -/
def lineCount (index : LineIndex) : Nat :=
  index.lineStarts.length

/-- The position of a byte offset. Offsets past the end continue the last line. -/
def positionAt (index : LineIndex) (offset : Nat) : Position :=
  let started := index.lineStarts.takeWhile (· ≤ offset)
  { line := started.length
    column := offset - started.getLastD 0 }

/-- The position of an offset that may be negative. -/
def position (index : LineIndex) (offset : Int) : Except NegativeOffset Position :=
  if offset < 0 then .error ⟨offset⟩ else .ok (index.positionAt offset.toNat)

/-- The span of a byte range; unresolved if the range is negative. All resolution of ranges goes
through here. -/
def spanOfRange (index : LineIndex) (start length : Int) : Span :=
  if start < 0 ∨ length < 0 then .unresolved
  else
    { start := index.positionAt start.toNat
      stop := some (index.positionAt (start + length).toNat) }

end LineIndex

end Pinpoint
