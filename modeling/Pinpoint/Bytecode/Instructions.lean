/-!
# Instructions

Where the instructions of a bytecode start. An instruction is one byte, except that the push
instructions `0x60` to `0x7f` carry 1 to 32 bytes of data, which start no instruction whatever
they hold. The data of the last instruction may be cut short by the end of the code.
-/

namespace Pinpoint.Bytecode

/-- The number of data bytes that follow an opcode. -/
def dataLength (opcode : UInt8) : Nat :=
  if 0x60 ≤ opcode ∧ opcode ≤ 0x7F then opcode.toNat - 0x5F else 0

/-- The offsets at which the instructions of a code start. `offset` is the number of bytes before
it. -/
def instructionStarts (offset : Nat) : List UInt8 → List Nat
  | [] => []
  | opcode :: rest =>
    offset :: instructionStarts (offset + 1 + dataLength opcode) (rest.drop (dataLength opcode))
  termination_by code => code.length

/-- The instructions of a code. -/
structure InstructionTable where
  /-- The offset of each instruction, in the order of the code. -/
  offsets : List Nat
  /-- The number of bytes of the code. -/
  byteLength : Nat
  deriving BEq, DecidableEq, Repr

namespace InstructionTable

/-- The instructions of a byte string. -/
def ofCode (code : List UInt8) : InstructionTable :=
  { offsets := instructionStarts 0 code, byteLength := code.length }

/-- The number of the instruction that starts at an offset. -/
def instructionAt? (table : InstructionTable) (offset : Int) : Option Nat :=
  table.offsets.findIdx? fun (start : Nat) => Int.ofNat start == offset

end InstructionTable

end Pinpoint.Bytecode
