import Mathlib.Logic.ExistsUnique
import Pinpoint.Proofs.InstructionWalk

/-!
# The tiling of a code

The instructions of a code lie side by side: the first one starts at the first byte, each other one
where the one before it ends, and only the last one may be cut short by the end of the code. So each
byte is held by one instruction, as its opcode or in its data, whatever it looks like. A code can be
read apart from what follows it exactly when it does not end inside an instruction.
-/

namespace Pinpoint.Bytecode

/-- Whether the instruction with a number in the table of a code holds a byte of the code, as its
opcode or in its data. -/
def InstructionTable.Holds (table : InstructionTable) (code : List UInt8)
    (number position : Nat) : Prop :=
  ∃ start opcode, table.offsets[number]? = some start ∧ code[start]? = some opcode ∧
    start ≤ position ∧ position < start + instructionLength opcode

/-- Whether a table cuts a code into instructions without a gap and without an overlap. -/
structure InstructionTable.Tiles (table : InstructionTable) (code : List UInt8) : Prop where
  byteLength_eq : table.byteLength = code.length
  ascending : table.offsets.Pairwise (· < ·)
  nil_iff : table.offsets = [] ↔ code = []
  head?_eq : code ≠ [] → table.offsets.head? = some 0
  lt_byteLength : ∀ start ∈ table.offsets, start < table.byteLength
  /-- The next instruction starts right after an instruction, unless this one reaches the end of
  the code or is cut short by it. -/
  next_eq : ∀ number start opcode, table.offsets[number]? = some start →
    code[start]? = some opcode →
    table.offsets[number + 1]? =
      if start + instructionLength opcode < table.byteLength
        then some (start + instructionLength opcode) else none
  held_once : ∀ position < table.byteLength, ∃! number, table.Holds code number position

/-- Whether a code ends where its last instruction does, with all of its data. -/
def EndsWhole (code : List UInt8) : Prop :=
  ∀ start opcode, (InstructionTable.ofCode code).offsets.getLast? = some start →
    code[start]? = some opcode → start + instructionLength opcode = code.length

variable {code rest : List UInt8} {number start position : Nat} {opcode : UInt8}

/-! ## The bytes of an instruction -/

theorem Walk.exists_opcode (walk : Walk code number start) : ∃ opcode, code[start]? = some opcode :=
  ⟨_, List.getElem?_eq_getElem walk.lt_length⟩

theorem holds_iff :
    (InstructionTable.ofCode code).Holds code number position ↔
      ∃ start opcode, Walk code number start ∧ code[start]? = some opcode ∧
        start ≤ position ∧ position < start + instructionLength opcode := by
  simp only [InstructionTable.Holds, getElem?_offsets_iff]

/-- The walk comes to every byte: what an instruction does not hold any more, the next one does. -/
theorem exists_holds (inside : position < code.length) :
    ∃ number, (InstructionTable.ofCode code).Holds code number position := by
  induction position with
  | zero =>
      have first : Walk code 0 0 := .first inside
      rcases first.exists_opcode with ⟨opcode, found⟩
      refine ⟨0, holds_iff.mpr ⟨0, opcode, first, found, Nat.le_refl 0, ?_⟩⟩
      rw [Nat.zero_add]
      exact instructionLength_pos opcode
  | succ position ih =>
      rcases ih (Nat.lt_of_succ_lt inside) with ⟨number, holds⟩
      rcases holds_iff.mp holds with ⟨start, opcode, walk, found, low, high⟩
      rcases Nat.lt_or_eq_of_le (Nat.succ_le_of_lt high) with held | reached
      · exact ⟨number, holds_iff.mpr
          ⟨start, opcode, walk, found, Nat.le_succ_of_le low, held⟩⟩
      · rw [Nat.succ_eq_add_one] at reached
        have next := walk.next found (reached ▸ inside)
        rw [← reached] at next
        rcases next.exists_opcode with ⟨opcode, found⟩
        refine ⟨number + 1, holds_iff.mpr ⟨_, opcode, next, found, Nat.le_refl _, ?_⟩⟩
        exact Nat.lt_add_of_pos_right (instructionLength_pos opcode)

theorem holds_unique {other : Nat}
    (holds : (InstructionTable.ofCode code).Holds code number position)
    (otherHolds : (InstructionTable.ofCode code).Holds code other position) : number = other := by
  rcases holds_iff.mp holds with ⟨start, opcode, walk, found, low, high⟩
  rcases holds_iff.mp otherHolds with ⟨otherStart, otherOpcode, otherWalk, otherFound, otherLow,
    otherHigh⟩
  rcases Nat.lt_trichotomy number other with before | same | after
  · have apart := walk.add_le_of_lt found otherWalk before
    omega
  · exact same
  · have apart := otherWalk.add_le_of_lt otherFound walk after
    omega

/-! ## The table of a code -/

theorem offsets_ascending (code : List UInt8) :
    (InstructionTable.ofCode code).offsets.Pairwise (· < ·) := by
  rw [List.pairwise_iff_getElem]
  intro number later inside laterInside before
  have walk := getElem?_offsets_iff.mp (List.getElem?_eq_getElem inside)
  have laterWalk := getElem?_offsets_iff.mp (List.getElem?_eq_getElem laterInside)
  exact walk.lt_of_lt laterWalk before

theorem offsets_succ (walk : Walk code number start) (found : code[start]? = some opcode) :
    (InstructionTable.ofCode code).offsets[number + 1]? =
      if start + instructionLength opcode < code.length
        then some (start + instructionLength opcode) else none := by
  have listed := getElem?_offsets_iff.mpr walk
  rw [InstructionTable.ofCode, ← List.drop_zero (l := code)] at listed ⊢
  rw [instructionStarts_succ listed (by simpa using found), List.drop_zero]

theorem ofCode_tiles (code : List UInt8) : (InstructionTable.ofCode code).Tiles code where
  byteLength_eq := rfl
  ascending := offsets_ascending code
  nil_iff := by
    constructor
    · intro empty
      rcases Nat.eq_zero_or_pos code.length with none | some
      · exact List.eq_nil_of_length_eq_zero none
      · have listed := getElem?_offsets_iff.mpr (.first some)
        rw [empty] at listed
        cases listed
    · rintro rfl
      rw [InstructionTable.ofCode, instructionStarts]
  head?_eq := by
    intro nonempty
    rw [List.head?_eq_getElem?]
    exact getElem?_offsets_iff.mpr (.first (List.length_pos_iff.mpr nonempty))
  lt_byteLength := by
    intro start member
    rcases List.mem_iff_getElem?.mp member with ⟨number, listed⟩
    exact (getElem?_offsets_iff.mp listed).lt_length
  next_eq := by
    intro number start opcode listed found
    exact offsets_succ (getElem?_offsets_iff.mp listed) found
  held_once := by
    intro position inside
    rcases exists_holds inside with ⟨number, holds⟩
    exact ⟨number, holds, fun other otherHolds => holds_unique otherHolds holds⟩

/-! ## Codes read in parts -/

theorem Walk.append (walk : Walk code number start) (rest : List UInt8) :
    Walk (code ++ rest) number start := by
  have shorter : code.length ≤ (code ++ rest).length := by
    rw [List.length_append]
    exact Nat.le_add_right _ _
  induction walk with
  | first nonempty => exact .first (Nat.lt_of_lt_of_le nonempty shorter)
  | next walk found inside ih =>
      apply ih.next _ (Nat.lt_of_lt_of_le inside shorter)
      rw [List.getElem?_append_left walk.lt_length]
      exact found

/-- An instruction that reaches the end of the code is the last one. -/
theorem length_offsets_of_reaches (walk : Walk code number start)
    (found : code[start]? = some opcode)
    (reaches : code.length ≤ start + instructionLength opcode) :
    (InstructionTable.ofCode code).offsets.length = number + 1 := by
  have next := offsets_succ walk found
  rw [if_neg (Nat.not_lt.mpr reaches), List.getElem?_eq_none_iff] at next
  have listed := (List.getElem?_eq_some_iff.mp (getElem?_offsets_iff.mpr walk)).1
  exact Nat.le_antisymm next listed

theorem getLast?_offsets_iff :
    (InstructionTable.ofCode code).offsets.getLast? = some start ↔
      ∃ number opcode, Walk code number start ∧ code[start]? = some opcode ∧
        code.length ≤ start + instructionLength opcode := by
  rw [List.getLast?_eq_getElem?]
  constructor
  · intro listed
    have walk := getElem?_offsets_iff.mp listed
    rcases walk.exists_opcode with ⟨opcode, found⟩
    refine ⟨_, opcode, walk, found, Nat.le_of_not_lt ?_⟩
    intro further
    have next := offsets_succ walk found
    rw [if_pos further] at next
    have beyond := (List.getElem?_eq_some_iff.mp next).1
    omega
  · rintro ⟨number, opcode, walk, found, reaches⟩
    rw [length_offsets_of_reaches walk found reaches, Nat.add_sub_cancel]
    exact getElem?_offsets_iff.mpr walk

theorem endsWhole_iff :
    EndsWhole code ↔ ∀ number start opcode, Walk code number start → code[start]? = some opcode →
      start + instructionLength opcode ≤ code.length := by
  constructor
  · intro whole number start opcode walk found
    rcases Nat.le_total code.length (start + instructionLength opcode) with reaches | within
    · apply Nat.le_of_eq
      apply whole start opcode _ found
      exact getLast?_offsets_iff.mpr ⟨number, opcode, walk, found, reaches⟩
    · exact within
  · intro within start opcode last found
    rcases getLast?_offsets_iff.mp last with ⟨number, other, walk, otherFound, reaches⟩
    cases found.symm.trans otherFound
    exact Nat.le_antisymm (within number start opcode walk found) reaches

/-- The starts of a code begin where those of the code before it would go on. -/
theorem instructionStarts_add (base shift : Nat) (code : List UInt8) :
    instructionStarts (base + shift) code = (instructionStarts base code).map (· + shift) := by
  fun_induction instructionStarts base code with
  | case1 => rw [instructionStarts, List.map_nil]
  | case2 base opcode rest ih =>
      rw [instructionStarts, List.map_cons, ← ih]
      congr 2
      omega

/-- From a start on, or from the end, a whole code and the code after it are listed one after the
other. -/
theorem instructionStarts_drop_append (whole : EndsWhole code) (rest : List UInt8) {offset : Nat}
    (reached : offset = code.length ∨ ∃ number, Walk code number offset) :
    instructionStarts offset ((code ++ rest).drop offset) =
      instructionStarts offset (code.drop offset) ++ instructionStarts code.length rest := by
  induction remaining : code.length - offset using Nat.strongRecOn generalizing offset with
  | ind remaining ih =>
      rcases reached with rfl | ⟨number, walk⟩
      · rw [List.drop_left, List.drop_length, instructionStarts, List.nil_append]
      · rcases walk.exists_opcode with ⟨opcode, found⟩
        have inside := walk.lt_length
        have appended : (code ++ rest)[offset]? = some opcode := by
          rw [List.getElem?_append_left inside]
          exact found
        have positive := instructionLength_pos opcode
        rw [instructionStarts_drop found, instructionStarts_drop appended, List.cons_append]
        congr 1
        apply ih _ _ _ rfl
        · omega
        · rcases Nat.lt_or_eq_of_le (endsWhole_iff.mp whole _ _ _ walk found) with further | ended
          · exact .inr ⟨_, walk.next found further⟩
          · exact .inl ended

theorem offsets_append (whole : EndsWhole code) (rest : List UInt8) :
    (InstructionTable.ofCode (code ++ rest)).offsets =
      (InstructionTable.ofCode code).offsets ++
        (InstructionTable.ofCode rest).offsets.map (· + code.length) := by
  have reached : 0 = code.length ∨ ∃ number, Walk code number 0 := by
    rcases Nat.eq_zero_or_pos code.length with empty | nonempty
    · exact .inl empty.symm
    · exact .inr ⟨0, .first nonempty⟩
  have listed := instructionStarts_drop_append whole rest reached
  rw [List.drop_zero, List.drop_zero, ← Nat.zero_add code.length, instructionStarts_add] at listed
  exact listed

/-- A code that ends inside an instruction takes the first byte after it for data. -/
theorem endsWhole_of_append
    (apart : ∀ rest, (InstructionTable.ofCode (code ++ rest)).offsets =
      (InstructionTable.ofCode code).offsets ++
        (InstructionTable.ofCode rest).offsets.map (· + code.length)) : EndsWhole code := by
  apply endsWhole_iff.mpr
  intro number start opcode walk found
  apply Nat.le_of_not_lt
  intro beyond
  have appended : (code ++ [0])[start]? = some opcode := by
    rw [List.getElem?_append_left walk.lt_length]
    exact found
  have next := offsets_succ (walk.append [0]) appended
  have first : (InstructionTable.ofCode [0]).offsets[0]? = some 0 :=
    getElem?_offsets_iff.mpr (.first Nat.one_pos)
  have swallowed : ¬start + instructionLength opcode < (code ++ [0]).length := by
    rw [List.length_append, List.length_singleton]
    omega
  rw [if_neg swallowed, apart, ← length_offsets_of_reaches walk found (Nat.le_of_lt beyond),
    List.getElem?_append_right (Nat.le_refl _), Nat.sub_self, List.getElem?_map, first] at next
  cases next

/-- The table of a code tiles it, and finds the number of an instruction from its start and nothing
else. The starts of a code and of what follows it are those of the whole, moved to their place,
exactly when the code does not end inside an instruction. -/
theorem offsets_tile (code : List UInt8) :
    let table := InstructionTable.ofCode code
    table.Tiles code ∧
    (∀ (offset : Int) number, table.instructionAt? offset = some number ↔
      ∃ start : Nat, offset = start ∧ table.offsets[number]? = some start) ∧
    (EndsWhole code ↔ ∀ rest, (InstructionTable.ofCode (code ++ rest)).offsets =
      table.offsets ++ (InstructionTable.ofCode rest).offsets.map (· + code.length)) := by
  refine ⟨ofCode_tiles code, ?_, offsets_append, endsWhole_of_append⟩
  intro offset number
  simp only [instructionAt?_ofCode, getElem?_offsets_iff]

/-- A push of two bytes that look like a push and a jump destination, and a push of 32 bytes of
which the code has one: the first code ends whole and can be put before the second one, which holds
what comes after it. -/
theorem offsets_tile_after_push :
    EndsWhole [0x61, 0x60, 0x5B, 0x00] ∧
    (InstructionTable.ofCode ([0x61, 0x60, 0x5B, 0x00] ++ [0x7F, 0x60])).offsets = [0, 3, 4] ∧
    (∃! number, (InstructionTable.ofCode [0x61, 0x60, 0x5B, 0x00]).Holds
      [0x61, 0x60, 0x5B, 0x00] number 2) ∧
    (InstructionTable.ofCode [0x61, 0x60, 0x5B, 0x00]).instructionAt? 3 = some 1 ∧
    ¬EndsWhole [0x7F, 0x60] := by
  have first : (InstructionTable.ofCode [0x61, 0x60, 0x5B, 0x00]).offsets = [0, 3] := by cbv
  have second : (InstructionTable.ofCode [0x7F, 0x60]).offsets = [0] := by cbv
  rcases offsets_tile [0x61, 0x60, 0x5B, 0x00] with ⟨tiles, numbered, whole⟩
  have ended : EndsWhole [0x61, 0x60, 0x5B, 0x00] := by
    intro start opcode last found
    rw [first] at last
    cases last
    cases found
    rfl
  refine ⟨ended, ?_, tiles.held_once 2 (by decide), ?_, ?_⟩
  · rw [whole.mp ended, first, second]
    rfl
  · exact (numbered 3 1).mpr ⟨3, rfl, by rw [first]; rfl⟩
  · intro ended
    have cut := ended 0 0x7F (by rw [second]; rfl) rfl
    cases cut

end Pinpoint.Bytecode
