import Pinpoint.Bytecode.Instructions
import Pinpoint.Json.Value
import Pinpoint.SourceMap.Entry

/-!
# Code maps

A bytecode with its source map: entry `n` of the map belongs to instruction `n` of the code. A
bytecode offset leads to a source when an instruction starts there, the map has an entry for that
instruction, and the entry names a source. An offset that leads to no entry is noted, and so it
has to be written, which fails if it has too many digits.
-/

namespace Pinpoint.Bytecode

/-- The instructions of a code and the entries of its source map. -/
structure CodeMap where
  table : InstructionTable
  entries : List Entry
  deriving BEq, DecidableEq, Repr

/-- Writes the numbers of a note. -/
def note (numbers : List Int) : Except ShapeError Unit :=
  if numbers.all Text.isWritable then .ok () else .error .unwritable

namespace CodeMap

/-- The entry of the instruction that starts at an offset, if it names a source. An offset outside
of the code is noted with the length of the code, one where no instruction starts by itself, and
one beyond the map with the number of its instruction. -/
def entryAt (map : CodeMap) (offset : Int) : Except ShapeError (Option Entry) :=
  if offset < 0 ∨ (map.table.byteLength : Int) ≤ offset then do
    note [offset, map.table.byteLength]
    return none
  else match map.table.instructionAt? offset with
    | none => do
      note [offset]
      return none
    | some instruction =>
      match map.entries[instruction]? with
      | none => do
        note [offset, instruction]
        return none
      | some entry => .ok (if entry.hasSource then some entry else none)

/-- The span that a bytecode offset has in the file with the given line index. -/
def spanAt (map : CodeMap) (offset : Int) (index : LineIndex) : Except ShapeError Span := do
  match ← map.entryAt offset with
  | none => return .unresolved
  | some entry => return entry.spanIn index

end CodeMap

end Pinpoint.Bytecode
