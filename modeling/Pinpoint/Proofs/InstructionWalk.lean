import Pinpoint.Bytecode.CodeMap
import Pinpoint.Proofs.Numerals

/-!
# The instruction walk

The instructions of a code are found by walking it from its first byte: an instruction takes its
opcode and the data that the opcode carries, and the next one starts right after it as long as
that is still inside the code. `Walk` says this without the list that the table keeps; this
module shows that the table lists exactly the steps of the walk, and from that which entry of a
source map a bytecode offset leads to. An offset without an entry has no span either, unless its
digits or those of the length of the code are too many to note that.
-/

namespace Pinpoint.Bytecode

/-- The number of bytes that an instruction takes together with its data. -/
def instructionLength (opcode : UInt8) : Nat :=
  if 0x60 ≤ opcode.toNat ∧ opcode.toNat ≤ 0x7F then 1 + (opcode.toNat - 0x5F) else 1

/-- `Walk code number offset` says that the instruction with this number, counted from zero,
starts at this offset. -/
inductive Walk (code : List UInt8) : Nat → Nat → Prop where
  | first : 0 < code.length → Walk code 0 0
  | next {number offset : Nat} {opcode : UInt8} :
      Walk code number offset → code[offset]? = some opcode →
      offset + instructionLength opcode < code.length →
      Walk code (number + 1) (offset + instructionLength opcode)

theorem instructionLength_eq (opcode : UInt8) :
    instructionLength opcode = 1 + dataLength opcode := by
  have bounds : (0x60 ≤ opcode ∧ opcode ≤ 0x7F) ↔
      (0x60 ≤ opcode.toNat ∧ opcode.toNat ≤ 0x7F) := by
    rw [UInt8.le_iff_toNat_le, UInt8.le_iff_toNat_le]
    rfl
  simp only [instructionLength, dataLength, bounds]
  split
  · rfl
  · rfl

theorem Walk.lt_length {code : List UInt8} {number offset : Nat}
    (walk : Walk code number offset) : offset < code.length := by
  cases walk with
  | first nonempty => exact nonempty
  | next _ _ inside => exact inside

/-! ## The listed starts -/

/-- The listed starts of the rest of a code, by the offset at which the rest begins. -/
theorem instructionStarts_drop {code : List UInt8} {offset : Nat} {opcode : UInt8}
    (found : code[offset]? = some opcode) :
    instructionStarts offset (code.drop offset) =
      offset :: instructionStarts (offset + instructionLength opcode)
        (code.drop (offset + instructionLength opcode)) := by
  obtain ⟨inside, rfl⟩ := List.getElem?_eq_some_iff.mp found
  rw [List.drop_eq_getElem_cons inside, instructionStarts, List.drop_drop, instructionLength_eq]
  simp only [Nat.add_assoc]

/-- Past the end of the code nothing starts. -/
theorem instructionStarts_drop_of_length_le {code : List UInt8} {offset : Nat}
    (outside : code.length ≤ offset) : instructionStarts offset (code.drop offset) = [] := by
  rw [List.drop_eq_nil_of_le outside, instructionStarts]

theorem exists_opcode_of_listed {code : List UInt8} {base number offset : Nat}
    (listed : (instructionStarts base (code.drop base))[number]? = some offset) :
    ∃ opcode, code[base]? = some opcode := by
  cases found : code[base]? with
  | none =>
      rw [instructionStarts_drop_of_length_le (List.getElem?_eq_none_iff.mp found)] at listed
      cases listed
  | some opcode => exact ⟨opcode, rfl⟩

/-- The starts that are listed from a start on are those of the rest of the code. -/
theorem drop_instructionStarts {code : List UInt8} {base number offset : Nat}
    (listed : (instructionStarts base (code.drop base))[number]? = some offset) :
    (instructionStarts base (code.drop base)).drop number =
      instructionStarts offset (code.drop offset) := by
  induction number generalizing base with
  | zero =>
      obtain ⟨opcode, found⟩ := exists_opcode_of_listed listed
      rw [instructionStarts_drop found, List.getElem?_cons_zero] at listed
      rw [Option.some.inj listed, List.drop_zero]
  | succ number ih =>
      obtain ⟨opcode, found⟩ := exists_opcode_of_listed listed
      rw [instructionStarts_drop found] at listed ⊢
      rw [List.getElem?_cons_succ] at listed
      rw [List.drop_succ_cons]
      exact ih listed

/-- A listed start is followed by the start right after its instruction, if that is inside the
code, and by nothing otherwise. -/
theorem instructionStarts_succ {code : List UInt8} {base number offset : Nat} {opcode : UInt8}
    (listed : (instructionStarts base (code.drop base))[number]? = some offset)
    (found : code[offset]? = some opcode) :
    (instructionStarts base (code.drop base))[number + 1]? =
      if offset + instructionLength opcode < code.length
        then some (offset + instructionLength opcode) else none := by
  have rest := drop_instructionStarts listed
  have shifted : (instructionStarts base (code.drop base))[number + 1]? =
      ((instructionStarts base (code.drop base)).drop number)[1]? := by
    rw [List.getElem?_drop]
  rw [shifted, rest, instructionStarts_drop found, List.getElem?_cons_succ]
  split
  next inside =>
    rw [instructionStarts_drop (List.getElem?_eq_getElem inside), List.getElem?_cons_zero]
  next outside =>
    rw [instructionStarts_drop_of_length_le (Nat.le_of_not_lt outside), List.getElem?_nil]

/-- The table lists exactly the steps of the walk. -/
theorem getElem?_offsets_iff {code : List UInt8} {number offset : Nat} :
    (InstructionTable.ofCode code).offsets[number]? = some offset ↔ Walk code number offset := by
  change (instructionStarts 0 (code.drop 0))[number]? = some offset ↔ _
  constructor
  · intro listed
    induction number generalizing offset with
    | zero =>
        obtain ⟨opcode, found⟩ := exists_opcode_of_listed listed
        rw [instructionStarts_drop found, List.getElem?_cons_zero] at listed
        rw [← Option.some.inj listed]
        exact .first (List.getElem?_eq_some_iff.mp found).1
    | succ number ih =>
        obtain ⟨previous, listedBefore⟩ :
            ∃ previous, (instructionStarts 0 (code.drop 0))[number]? = some previous := by
          have bound := (List.getElem?_eq_some_iff.mp listed).1
          exact ⟨_, List.getElem?_eq_getElem (Nat.lt_of_succ_lt bound)⟩
        have walked := ih listedBefore
        have found := List.getElem?_eq_getElem walked.lt_length
        rw [instructionStarts_succ listedBefore found] at listed
        split at listed
        next inside =>
          rw [← Option.some.inj listed]
          exact .next walked found inside
        next => cases listed
  · intro walk
    induction walk with
    | first nonempty =>
        rw [instructionStarts_drop (List.getElem?_eq_getElem nonempty), List.getElem?_cons_zero]
    | next _ found inside ih => rw [instructionStarts_succ ih found, if_pos inside]

theorem Walk.offset_unique {code : List UInt8} {number offset otherOffset : Nat}
    (walk : Walk code number offset) (other : Walk code number otherOffset) :
    offset = otherOffset :=
  Option.some.inj ((getElem?_offsets_iff.mpr walk).symm.trans (getElem?_offsets_iff.mpr other))

theorem instructionLength_pos (opcode : UInt8) : 0 < instructionLength opcode := by
  rw [instructionLength_eq]
  omega

/-- A later instruction starts after the data of an earlier one. -/
theorem Walk.add_le_of_lt {code : List UInt8} {number laterNumber offset laterOffset : Nat}
    {opcode : UInt8} (walk : Walk code number offset) (found : code[offset]? = some opcode)
    (laterWalk : Walk code laterNumber laterOffset) (later : number < laterNumber) :
    offset + instructionLength opcode ≤ laterOffset := by
  induction laterWalk with
  | first => cases later
  | @next previous previousOffset previousOpcode walked previousFound inside ih =>
      rcases Nat.lt_succ_iff_lt_or_eq.mp later with before | same
      · exact Nat.le_trans (ih before) (Nat.le_add_right _ _)
      · subst same
        rw [walk.offset_unique walked] at found ⊢
        exact Nat.le_of_eq (by rw [Option.some.inj (found.symm.trans previousFound)])

/-- A later instruction starts at a greater offset. -/
theorem Walk.lt_of_lt {code : List UInt8} {number laterNumber offset laterOffset : Nat}
    (walk : Walk code number offset) (laterWalk : Walk code laterNumber laterOffset)
    (later : number < laterNumber) : offset < laterOffset :=
  Nat.lt_of_lt_of_le (Nat.lt_add_of_pos_right (instructionLength_pos _))
    (walk.add_le_of_lt (List.getElem?_eq_getElem walk.lt_length) laterWalk later)

@[simp] theorem InstructionTable.byteLength_ofCode (code : List UInt8) :
    (InstructionTable.ofCode code).byteLength = code.length := rfl

/-- The table finds the number of the instruction that starts at an offset. -/
theorem instructionAt?_ofCode {code : List UInt8} {number : Nat} {offset : Int} :
    (InstructionTable.ofCode code).instructionAt? offset = some number ↔
      ∃ start : Nat, offset = start ∧ Walk code number start := by
  rw [InstructionTable.instructionAt?, List.findIdx?_eq_some_iff_getElem]
  constructor
  · intro given
    rcases given with ⟨inside, starts, -⟩
    have equal := eq_of_beq starts
    exact ⟨_, equal.symm, getElem?_offsets_iff.mp (List.getElem?_eq_getElem inside)⟩
  · intro given
    rcases given with ⟨start, rfl, walk⟩
    have listed := getElem?_offsets_iff.mpr walk
    obtain ⟨inside, value⟩ := List.getElem?_eq_some_iff.mp listed
    refine ⟨inside, ?_, ?_⟩
    · rw [value]
      exact beq_self_eq_true _
    · intro earlier before starts
      have equal : (InstructionTable.ofCode code).offsets[earlier] = start :=
        Int.ofNat.inj (eq_of_beq starts)
      have walkedEarlier := getElem?_offsets_iff.mp
        (List.getElem?_eq_some_iff.mpr ⟨Nat.lt_trans before inside, equal⟩)
      exact Nat.lt_irrefl _ (walkedEarlier.lt_of_lt walk before)

/-! ## From an offset to its entry -/

/-- `LeadsTo code entries offset entry` says that an instruction of the code starts at the offset,
and that the entry with the number of this instruction names a byte range of a source. -/
def LeadsTo (code : List UInt8) (entries : List Entry) (offset : Int) (entry : Entry) : Prop :=
  ∃ number start : Nat, Walk code number start ∧ offset = start ∧
    entries[number]? = some entry ∧
    entry.fileIndex ≠ -1 ∧ 0 ≤ entry.start ∧ 0 ≤ entry.length

/-- Whether an instruction starts at an offset and there is an entry with its number. -/
def Listed (code : List UInt8) (entries : List Entry) (offset : Int) : Prop :=
  ∃ number start : Nat, Walk code number start ∧ offset = start ∧ number < entries.length

/-- Whether an offset has no entry and this cannot be noted: the offset or, outside of the code, the
length of the code has more than 4300 digits. -/
def Unnotable (code : List UInt8) (entries : List Entry) (offset : Int) : Prop :=
  ¬Listed code entries offset ∧
    (4300 < (Nat.toDigits 10 offset.natAbs).length ∨
      (offset < 0 ∨ (code.length : Int) ≤ offset) ∧ 4300 < (Nat.toDigits 10 code.length).length)

theorem hasSource_iff (entry : Entry) :
    entry.hasSource = true ↔ entry.fileIndex ≠ -1 ∧ 0 ≤ entry.start ∧ 0 ≤ entry.length := by
  simp only [Entry.hasSource, noFile, Bool.and_eq_true, bne_iff_ne, decide_eq_true_eq, and_assoc]

/-- The span of an entry that names a byte range of a source is that of the range. -/
theorem spanIn_of_hasSource {entry : Entry} (named : entry.hasSource = true) (index : LineIndex) :
    entry.spanIn index =
      { start := index.positionAt entry.start.toNat
        stop := some (index.positionAt (entry.start + entry.length).toNat) } := by
  rcases (hasSource_iff entry).mp named with ⟨-, startNonneg, lengthNonneg⟩
  have ranged : ¬(entry.start < 0 ∨ entry.length < 0) := by omega
  rw [Entry.spanIn, LineIndex.spanOfRange, if_neg ranged]

/-- No instruction has a number beyond its offset. -/
theorem Walk.number_le {code : List UInt8} {number offset : Nat} (walk : Walk code number offset) :
    number ≤ offset := by
  induction walk with
  | first => exact Nat.le_refl 0
  | next _ _ _ ih => exact Nat.add_le_add ih (instructionLength_pos _)

/-- Small numbers can be noted. -/
theorem note_of_lt_ten {numbers : List Int} (small : ∀ number ∈ numbers, number.natAbs < 10) :
    note numbers = .ok () :=
  if_pos (List.all_eq_true.mpr fun number member => Text.isWritable_of_lt_ten (small number member))

/-- What a note of some numbers comes to. -/
theorem note_bind {α : Type} (numbers : List Int) (value : α) :
    (note numbers >>= fun _ => .ok value) =
      if ∀ number ∈ numbers, Text.isWritable number = true then .ok value
      else .error .unwritable := by
  simp only [note, List.all_eq_true]
  split <;> rfl

namespace CodeMap

variable {code : List UInt8} {entries : List Entry} {offset : Int} {entry : Entry}

/-- An instruction with an entry has that entry, if it names a byte range of a source. -/
theorem entryAt_of_walk {number start : Nat} (walk : Walk code number start)
    (listed : entries[number]? = some entry) :
    CodeMap.entryAt { table := .ofCode code, entries } start =
      .ok (if entry.hasSource then some entry else none) := by
  have instruction := instructionAt?_ofCode.mpr ⟨start, rfl, walk⟩
  have inside : start < code.length := walk.lt_length
  have bounds : ¬((start : Int) < 0 ∨ (code.length : Int) ≤ start) := by omega
  rw [entryAt, InstructionTable.byteLength_ofCode, if_neg bounds]
  simp only [instruction, listed]

/-- An offset without an entry is noted, with numbers that can be written unless it is unnotable. -/
theorem exists_note_of_not_listed (unlisted : ¬Listed code entries offset) :
    ∃ numbers, CodeMap.entryAt { table := .ofCode code, entries } offset =
        (note numbers >>= fun _ => .ok none) ∧
      (Unnotable code entries offset ↔ ¬∀ number ∈ numbers, Text.isWritable number = true) := by
  have long (number : Int) : 4300 < (Nat.toDigits 10 number.natAbs).length ↔
      ¬Text.isWritable number = true := by
    rw [Text.isWritable_iff_length, Nat.not_le]
  have longCode := long code.length
  rw [Int.natAbs_natCast] at longCode
  rw [Unnotable, long, longCode, and_iff_right unlisted, entryAt,
    InstructionTable.byteLength_ofCode]
  split
  next outside =>
    refine ⟨[offset, code.length], rfl, ?_⟩
    rw [and_iff_right outside, List.forall_mem_cons, List.forall_mem_singleton,
      Classical.not_and_iff_not_or_not]
  next inside =>
    rw [or_iff_left fun given => inside given.1]
    cases instruction : (InstructionTable.ofCode code).instructionAt? offset with
    | none =>
        refine ⟨[offset], rfl, ?_⟩
        rw [List.forall_mem_singleton]
    | some number =>
        obtain ⟨start, rfl, walk⟩ := instructionAt?_ofCode.mp instruction
        have beyond : entries.length ≤ number :=
          Nat.le_of_not_lt fun within => unlisted ⟨number, start, walk, rfl, within⟩
        refine ⟨[start, number], by simp only [List.getElem?_eq_none beyond]; rfl, ?_⟩
        -- The number of an instruction can be written if its offset can.
        have short : Text.isWritable start = true → Text.isWritable number = true :=
          Text.isWritable_of_natAbs_le walk.number_le
        rw [List.forall_mem_cons, List.forall_mem_singleton, and_iff_left_of_imp short]

theorem entryAt_of_unnotable (unnotable : Unnotable code entries offset) :
    CodeMap.entryAt { table := .ofCode code, entries } offset = .error .unwritable := by
  rcases exists_note_of_not_listed unnotable.1 with ⟨numbers, noted, unwritable⟩
  rw [noted, note_bind, if_neg (unwritable.mp unnotable)]

/-- An offset leads nowhere if it has no entry, or one that names no byte range of a source. -/
theorem entryAt_eq_none (leadsNowhere : ∀ entry, ¬LeadsTo code entries offset entry)
    (notable : ¬Unnotable code entries offset) :
    CodeMap.entryAt { table := .ofCode code, entries } offset = .ok none := by
  by_cases listed : Listed code entries offset
  · rcases listed with ⟨number, start, walk, rfl, within⟩
    have found := List.getElem?_eq_getElem within
    have unnamed : ¬entries[number].hasSource = true := fun named =>
      leadsNowhere _ ⟨number, start, walk, rfl, found, (hasSource_iff _).mp named⟩
    rw [entryAt_of_walk walk found, if_neg unnamed]
  · rcases exists_note_of_not_listed listed with ⟨numbers, noted, unwritable⟩
    rw [noted, note_bind, if_pos (Classical.not_not.mp (mt unwritable.mpr notable))]

theorem entryAt_eq_some_iff :
    CodeMap.entryAt { table := .ofCode code, entries } offset = .ok (some entry) ↔
      LeadsTo code entries offset entry := by
  constructor
  · intro found
    by_cases leads : ∃ other, LeadsTo code entries offset other
    · rcases leads with ⟨other, number, start, walk, rfl, listed, named⟩
      rw [entryAt_of_walk walk listed, if_pos ((hasSource_iff other).mpr named)] at found
      cases found
      exact ⟨number, start, walk, rfl, listed, named⟩
    · by_cases unnotable : Unnotable code entries offset
      · rw [entryAt_of_unnotable unnotable] at found
        cases found
      · rw [entryAt_eq_none (not_exists.mp leads) unnotable] at found
        cases found
  · intro given
    rcases given with ⟨number, start, walk, rfl, listed, named⟩
    rw [entryAt_of_walk walk listed, if_pos ((hasSource_iff entry).mpr named)]

theorem entryAt_eq_error_iff {error : ShapeError} :
    CodeMap.entryAt { table := .ofCode code, entries } offset = .error error ↔
      error = .unwritable ∧ Unnotable code entries offset := by
  constructor
  · intro failed
    by_cases unnotable : Unnotable code entries offset
    · rw [entryAt_of_unnotable unnotable] at failed
      cases failed
      exact ⟨rfl, unnotable⟩
    · by_cases leads : ∃ entry, LeadsTo code entries offset entry
      · rcases leads with ⟨entry, leads⟩
        rw [entryAt_eq_some_iff.mpr leads] at failed
        cases failed
      · rw [entryAt_eq_none (not_exists.mp leads) unnotable] at failed
        cases failed
  · rintro ⟨rfl, unnotable⟩
    exact entryAt_of_unnotable unnotable

/-- The span of an entry that names a byte range reaches from the position of its first byte to
the position after its last one, and both positions exist. -/
theorem spanIn_of_leadsTo (index : LineIndex) (leads : LeadsTo code entries offset entry) :
    ∃ first last : Position, index.position entry.start = .ok first ∧
      index.position (entry.start + entry.length) = .ok last ∧
      entry.spanIn index = { start := first, stop := some last } := by
  rcases leads with ⟨-, -, -, -, -, named⟩
  refine ⟨index.positionAt entry.start.toNat,
    index.positionAt (entry.start + entry.length).toNat, ?_, ?_,
    spanIn_of_hasSource ((hasSource_iff entry).mpr named) index⟩
  · rw [LineIndex.position, if_neg (by omega)]
  · rw [LineIndex.position, if_neg (by omega)]

/-- An offset has exactly the entry that the walk of the code leads to, with its span. Every other
offset, be it outside of the code, inside the data of an instruction, beyond the map or at
generated code, has no entry and no span, or fails with both: exactly when no entry belongs to it
and a number to be noted of this has more than 4300 digits. -/
theorem entryAt_walk (code : List UInt8) (entries : List Entry) (offset : Int)
    (index : LineIndex) :
    let map : CodeMap := { table := .ofCode code, entries }
    (∀ entry, map.entryAt offset = .ok (some entry) ↔ LeadsTo code entries offset entry) ∧
    (∀ entry, LeadsTo code entries offset entry →
      ∃ first last : Position, index.position entry.start = .ok first ∧
        index.position (entry.start + entry.length) = .ok last ∧
        map.spanAt offset index = .ok { start := first, stop := some last }) ∧
    ((∀ entry, ¬LeadsTo code entries offset entry) → ¬Unnotable code entries offset →
      map.entryAt offset = .ok none ∧ map.spanAt offset index = .ok .unresolved) ∧
    (Unnotable code entries offset →
      map.entryAt offset = .error .unwritable ∧ map.spanAt offset index = .error .unwritable) := by
  intro map
  refine ⟨fun entry => entryAt_eq_some_iff, ?_, ?_, ?_⟩
  · intro entry leads
    have found : map.entryAt offset = .ok (some entry) := entryAt_eq_some_iff.mpr leads
    rcases spanIn_of_leadsTo index leads with ⟨first, last, firstOk, lastOk, span⟩
    refine ⟨first, last, firstOk, lastOk, ?_⟩
    rw [spanAt, found, ← span]
    rfl
  · intro leadsNowhere notable
    have missing : map.entryAt offset = .ok none := entryAt_eq_none leadsNowhere notable
    rw [spanAt, missing]
    exact ⟨rfl, rfl⟩
  · intro unnotable
    have failed : map.entryAt offset = .error .unwritable :=
      entryAt_of_unnotable unnotable
    rw [spanAt, failed]
    exact ⟨rfl, rfl⟩

/-- After a push of two bytes, whose data look like instructions, the second entry belongs to the
offset 3. The offset 1 is inside the data and has no span. -/
theorem entryAt_walk_after_push :
    let map : CodeMap :=
      { table := .ofCode [0x61, 0x60, 0x5B, 0x00]
        entries := [⟨0, 9, 0, "-", 0⟩, ⟨4, 2, 0, "o", 0⟩] }
    LeadsTo [0x61, 0x60, 0x5B, 0x00] map.entries 3 ⟨4, 2, 0, "o", 0⟩ ∧
    (∃ first last : Position,
      (LineIndex.ofBytes [] "").position 4 = .ok first ∧
      (LineIndex.ofBytes [] "").position (4 + 2) = .ok last ∧
      map.spanAt 3 (.ofBytes [] "") = .ok { start := first, stop := some last }) ∧
    map.spanAt 1 (.ofBytes [] "") = .ok .unresolved := by
  intro map
  have leads : LeadsTo [0x61, 0x60, 0x5B, 0x00] map.entries 3 ⟨4, 2, 0, "o", 0⟩ := by
    have first : Walk [0x61, 0x60, 0x5B, 0x00] 0 0 := .first (by decide)
    have second : Walk [0x61, 0x60, 0x5B, 0x00] 1 3 := first.next rfl (by decide)
    exact ⟨1, 3, second, rfl, rfl, by decide, by decide, by decide⟩
  have inside (entry : Entry) : ¬LeadsTo [0x61, 0x60, 0x5B, 0x00] map.entries 1 entry := by
    have unstarted : map.table.instructionAt? 1 = none := by decide +kernel
    rintro ⟨number, start, walk, same, -⟩
    cases unstarted.symm.trans (instructionAt?_ofCode.mpr ⟨start, same, walk⟩)
  have notable : ¬Unnotable [0x61, 0x60, 0x5B, 0x00] map.entries 1 := by
    rintro ⟨-, long | ⟨outside, -⟩⟩
    · exact absurd long (by decide)
    · exact absurd outside (by decide)
  have followed := entryAt_walk [0x61, 0x60, 0x5B, 0x00] map.entries
  exact ⟨leads, (followed 3 (.ofBytes [] "")).2.1 _ leads,
    ((followed 1 (.ofBytes [] "")).2.2.1 inside notable).2⟩

/-- The least offset of 4301 digits. -/
def farOffset : Int := (Nat.pow 10 Text.digitLimit : Nat)

theorem natAbs_farOffset : farOffset.natAbs = Nat.pow 10 Text.digitLimit :=
  Int.natAbs_natCast _

/-- An offset of 4301 digits lies outside of a code of one byte and leads to no entry, and the
lookup fails with it. -/
theorem far_offset_fails :
    let map : CodeMap := { table := .ofCode [0x00], entries := [⟨0, 1, 0, "-", 0⟩] }
    (∀ entry, ¬LeadsTo [0x00] [⟨0, 1, 0, "-", 0⟩] farOffset entry) ∧
    map.entryAt farOffset = .error .unwritable ∧
    map.spanAt farOffset (.ofBytes [0x61] "") = .error .unwritable := by
  intro map
  have long : ¬(Nat.toDigits 10 farOffset.natAbs).length ≤ 4300 := by
    rw [← Text.isWritable_iff_length, Text.isWritable_iff, natAbs_farOffset]
    exact Nat.lt_irrefl _
  have unlisted : ¬Listed [0x00] [⟨0, 1, 0, "-", 0⟩] farOffset := by
    rintro ⟨number, start, walk, same, -⟩
    -- The code has one byte, and so only the offset 0 is inside.
    have first : start = 0 := Nat.lt_one_iff.mp walk.lt_length
    rw [same, first] at long
    exact long (by decide)
  have failed : map.entryAt farOffset = .error .unwritable :=
    entryAt_of_unnotable ⟨unlisted, .inl (Nat.not_le.mp long)⟩
  refine ⟨?_, failed, ?_⟩
  · rintro entry ⟨number, start, walk, same, listed, -⟩
    exact unlisted ⟨number, start, walk, same, (List.getElem?_eq_some_iff.mp listed).1⟩
  · rw [spanAt, failed]
    rfl

end CodeMap

end Pinpoint.Bytecode
