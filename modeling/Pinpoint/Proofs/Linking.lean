import Pinpoint.Proofs.HexText
import Pinpoint.Proofs.InstructionWalk

/-!
# Linking

A compiler leaves placeholders for the addresses of libraries, each of them the data of a push, and
linking puts addresses in their place. The bytes of an address may look like instructions, but the
walk through the code passes over the data of a push. So it reaches the same instructions before
and after linking, and every offset keeps its entry of the source map.
-/

namespace Pinpoint.Bytecode

/-- The instruction that pushes an address. -/
def pushAddress : UInt8 := 0x73

/-- What linking can make of some pieces: some placeholders, all of them or none are replaced by
addresses. -/
inductive Linked : List Piece → List Piece → Prop where
  | nil : Linked [] []
  | kept {piece : Piece} {pieces linked : List Piece} :
      Linked pieces linked → Linked (piece :: pieces) (piece :: linked)
  | filled {name : LibraryName} {address : List HexByte} {pieces linked : List Piece} :
      address.length = addressLength → Linked pieces linked →
      Linked (.placeholder name :: pieces) (address.map .hex ++ linked)

/-- Whether every placeholder among some pieces is the data of an instruction that pushes an
address and that the walk reaches. -/
def PushesPlaceholders (pieces : List Piece) : Prop :=
  ∀ before name after, pieces = before ++ .placeholder name :: after →
    ∃ number offset, Walk (codeOf pieces) number offset ∧
      (codeOf pieces)[offset]? = some pushAddress ∧ (codeOf before).length = offset + 1

/-! ## The code of pieces -/

@[simp] theorem codeOf_nil : codeOf [] = [] := rfl

@[simp] theorem codeOf_cons (piece : Piece) (pieces : List Piece) :
    codeOf (piece :: pieces) = piece.bytes.map HexByte.value ++ codeOf pieces := by
  rw [codeOf, List.flatMap_cons, List.map_append, codeOf]

@[simp] theorem codeOf_hex_append (bytes : List HexByte) (pieces : List Piece) :
    codeOf (bytes.map .hex ++ pieces) = bytes.map HexByte.value ++ codeOf pieces := by
  induction bytes with
  | nil => rfl
  | cons byte bytes ih =>
      rw [List.map_cons, List.cons_append, codeOf_cons, ih]
      rfl

@[simp] theorem length_bytes_placeholder (name : LibraryName) :
    (Piece.placeholder name).bytes.length = addressLength := List.length_replicate

namespace Linked

variable {pieces linked : List Piece}

theorem length_codeOf (links : Linked pieces linked) :
    (codeOf linked).length = (codeOf pieces).length := by
  induction links with
  | nil => rfl
  | kept _ ih => simp [ih]
  | filled length _ ih => simp [ih, length]

/-- Linking changes a code only where there was a placeholder. -/
theorem getElem?_codeOf (links : Linked pieces linked) (position : Nat) :
    (codeOf linked)[position]? = (codeOf pieces)[position]? ∨
      ∃ before name after, pieces = before ++ .placeholder name :: after ∧
        (codeOf before).length ≤ position ∧
        position < (codeOf before).length + addressLength := by
  induction links generalizing position with
  | nil => exact .inl rfl
  | @kept piece pieces linked _ ih =>
      rcases Nat.lt_or_ge position piece.bytes.length with inside | beyond
      · left
        simp [List.getElem?_append_left, inside]
      · rcases ih (position - piece.bytes.length) with same | ⟨before, name, after, rfl, low, high⟩
        · left
          simp [List.getElem?_append_right, beyond, same]
        · refine .inr ⟨piece :: before, name, after, rfl, ?_⟩
          simp only [codeOf_cons, List.length_append, List.length_map]
          omega
  | @filled name address pieces linked length _ ih =>
      rcases Nat.lt_or_ge position addressLength with inside | beyond
      · exact .inr ⟨[], name, pieces, rfl, Nat.zero_le _, by simpa using inside⟩
      · rcases ih (position - addressLength) with same | ⟨before, name', after, rfl, low, high⟩
        · left
          simp [List.getElem?_append_right, beyond, same, length]
        · refine .inr ⟨.placeholder name :: before, name', after, rfl, ?_⟩
          simp only [codeOf_cons, List.length_append, List.length_map, length_bytes_placeholder]
          omega

end Linked

/-! ## The walk through a linked code -/

/-- Codes of one length that agree where the instructions of the first start have the same
instructions. -/
theorem walk_iff_of_agree {code other : List UInt8} (sameLength : other.length = code.length)
    (agree : ∀ number offset, Walk code number offset → other[offset]? = code[offset]?)
    {number offset : Nat} : Walk other number offset ↔ Walk code number offset := by
  constructor
  · intro walk
    induction walk with
    | first nonempty => exact .first (sameLength ▸ nonempty)
    | next _ found inside ih =>
        rw [agree _ _ ih] at found
        exact ih.next found (sameLength ▸ inside)
  · intro walk
    induction walk with
    | first nonempty => exact .first (sameLength ▸ nonempty)
    | next walked found inside ih =>
        rw [← agree _ _ walked] at found
        exact ih.next found (sameLength ▸ inside)

theorem offsets_eq_of_walk_iff {code other : List UInt8}
    (same : ∀ number offset, Walk other number offset ↔ Walk code number offset) :
    (InstructionTable.ofCode other).offsets = (InstructionTable.ofCode code).offsets := by
  apply List.ext_getElem?
  intro number
  apply Option.ext
  intro offset
  rw [getElem?_offsets_iff, getElem?_offsets_iff, same]

/-- No instruction starts in the data of a push. -/
theorem not_walk_of_data {code : List UInt8} {number push other offset : Nat}
    (walk : Walk code number push) (pushes : code[push]? = some pushAddress)
    (low : push + 1 ≤ offset) (high : offset < push + 1 + addressLength) :
    ¬Walk code other offset := by
  intro inData
  have length : instructionLength pushAddress = 1 + addressLength := rfl
  rcases Nat.lt_trichotomy other number with before | rfl | after
  · have := inData.lt_of_lt walk before
    omega
  · have := walk.offset_unique inData
    omega
  · have := walk.add_le_of_lt pushes inData after
    omega

theorem PushesPlaceholders.walk_iff {pieces linked : List Piece}
    (pushed : PushesPlaceholders pieces) (links : Linked pieces linked) (number offset : Nat) :
    Walk (codeOf linked) number offset ↔ Walk (codeOf pieces) number offset := by
  apply walk_iff_of_agree links.length_codeOf
  intro other start walk
  rcases links.getElem?_codeOf start with same | ⟨before, name, after, split, low, high⟩
  · exact same
  · rcases pushed before name after split with ⟨number, push, pushWalk, pushes, length⟩
    rw [length] at low high
    exact absurd walk (not_walk_of_data pushWalk pushes low high)

/-- Where every placeholder is the data of a push, linking leaves every instruction in its place,
whatever the placeholders hold and whatever addresses are filled in. So every offset keeps its
entry of every source map. -/
theorem linking_keeps_entries {pieces linked : List Piece} {text linkedText : String}
    (pushed : PushesPlaceholders pieces) (links : Linked pieces linked)
    (written : Writes pieces text) (linkedWritten : Writes linked linkedText) :
    ∃ code linkedCode, ofHex? text = some code ∧ ofHex? linkedText = some linkedCode ∧
      (InstructionTable.ofCode linkedCode).offsets = (InstructionTable.ofCode code).offsets ∧
      (InstructionTable.ofCode linkedCode).byteLength =
        (InstructionTable.ofCode code).byteLength ∧
      ∀ (entries : List Entry) (offset : Int),
        CodeMap.entryAt { table := .ofCode linkedCode, entries } offset =
          CodeMap.entryAt { table := .ofCode code, entries } offset := by
  have offsets := offsets_eq_of_walk_iff (pushed.walk_iff links)
  have table : InstructionTable.ofCode (codeOf linked) = .ofCode (codeOf pieces) := by
    rw [InstructionTable.mk.injEq]
    exact ⟨offsets, links.length_codeOf⟩
  refine ⟨_, _, ofHex?_of_writes written, ofHex?_of_writes linkedWritten, offsets,
    links.length_codeOf, ?_⟩
  intro entries offset
  rw [table]

/-- A library whose name looks like code and like placeholders. -/
def mathLibrary : LibraryName where
  characters := "73__60 5b__lib.sol:Math____5b60 73__".toList
  length_eq := by decide
  oneLine := by decide

/-- The byte `60`, which as an instruction would carry data. -/
def sixty : HexByte where
  high := ⟨'6', 6, rfl⟩
  low := .zero

/-- A push of the address of the library, and a byte after it. -/
def mathCall : List Piece :=
  [.hex ⟨⟨'7', 7, rfl⟩, ⟨'3', 3, rfl⟩⟩, .placeholder mathLibrary, .hex sixty]

theorem pushesPlaceholders_mathCall : PushesPlaceholders mathCall := by
  intro before name after split
  rcases before with _ | ⟨first, _ | ⟨second, _ | ⟨third, before⟩⟩⟩
  · cases (List.cons.inj split).1
  · rcases List.cons.inj split with ⟨rfl, -⟩
    exact ⟨0, 0, .first (by decide), by decide, by decide⟩
  · rcases List.cons.inj (List.cons.inj (List.cons.inj split).2).2 with ⟨same, -⟩
    cases same
  · have length := congrArg List.length split
    simp [mathCall] at length

/-- An address whose bytes look like instructions with data is filled in. -/
theorem linking_keeps_entries_mathCall :
    PushesPlaceholders mathCall ∧
    ∃ code linkedCode,
      ofHex? "0x73__73__60 5b__lib.sol:Math____5b60 73____60" = some code ∧
      ofHex? "0x73606060606060606060606060606060606060606060" = some linkedCode ∧
      (InstructionTable.ofCode linkedCode).offsets = (InstructionTable.ofCode code).offsets ∧
      (InstructionTable.ofCode linkedCode).byteLength =
        (InstructionTable.ofCode code).byteLength ∧
      ∀ (entries : List Entry) (offset : Int),
        CodeMap.entryAt { table := .ofCode linkedCode, entries } offset =
          CodeMap.entryAt { table := .ofCode code, entries } offset := by
  have links : Linked mathCall (_ :: ((List.replicate 20 sixty).map .hex ++ [.hex sixty])) :=
    .kept (.filled (by decide) (.kept .nil))
  exact ⟨pushesPlaceholders_mathCall, linking_keeps_entries pushesPlaceholders_mathCall links
    (@Writes.between _ [] _ [] (List.forall_mem_nil _) .lower (List.forall_mem_nil _))
    (@Writes.between _ [] _ [] (List.forall_mem_nil _) .lower (List.forall_mem_nil _))⟩

end Pinpoint.Bytecode
