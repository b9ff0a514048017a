import Pinpoint.LineIndex
import Pinpoint.Proofs.Utf8

/-!
# Positions by scanning

The line index of a file answers for a byte offset what a scan of the bytes before the offset
would: their line feeds number the line, and the last of them is where the column is counted from.
The starts that the index keeps are listed in order, one for each line, and the line of an offset
is the last one that starts at or before it.
-/

namespace Pinpoint.LineIndex

/-! ## The listed starts -/

@[simp] theorem length_startsAfter (base : Nat) (bytes : List UInt8) :
    (startsAfter base bytes).length = bytes.count lineFeed := by
  induction bytes generalizing base with
  | nil => rfl
  | cons byte rest ih =>
      simp only [startsAfter]
      split
      next feed => simp [feed, ih]
      next other => simp [ih, List.count_cons_of_ne other]

theorem lt_of_mem_startsAfter {base start : Nat} {bytes : List UInt8}
    (listed : start ∈ startsAfter base bytes) : base < start := by
  induction bytes generalizing base with
  | nil => cases listed
  | cons byte rest ih =>
      simp only [startsAfter] at listed
      split at listed
      next =>
        rcases List.mem_cons.mp listed with rfl | later
        · exact Nat.lt_succ_self base
        · exact Nat.lt_of_succ_lt (ih later)
      next => exact Nat.lt_of_succ_lt (ih listed)

theorem startsAfter_pairwise (base : Nat) (bytes : List UInt8) :
    (startsAfter base bytes).Pairwise (· < ·) := by
  induction bytes generalizing base with
  | nil => exact .nil
  | cons byte rest ih =>
      simp only [startsAfter]
      split
      next => exact .cons (fun start listed => lt_of_mem_startsAfter listed) (ih (base + 1))
      next => exact ih (base + 1)

theorem startsAfter_append (base : Nat) (first second : List UInt8) :
    startsAfter base (first ++ second) =
      startsAfter base first ++ startsAfter (base + first.length) second := by
  induction first generalizing base with
  | nil => rfl
  | cons byte rest ih =>
      simp only [List.cons_append, startsAfter, ih, List.length_cons, Nat.add_assoc, Nat.add_comm 1]
      split <;> rfl

theorem startsAfter_eq_nil {base : Nat} {bytes : List UInt8} (single : lineFeed ∉ bytes) :
    startsAfter base bytes = [] := by
  apply List.eq_nil_of_length_eq_zero
  rw [length_startsAfter, List.count_eq_zero_of_not_mem single]

/-- The starts up to an offset are those that the bytes before the offset have. -/
theorem takeWhile_startsAfter (base offset : Nat) (bytes : List UInt8) :
    (startsAfter base bytes).takeWhile (fun start => decide (start ≤ base + offset)) =
      startsAfter base (bytes.take offset) := by
  induction bytes generalizing base offset with
  | nil => simp [startsAfter]
  | cons byte rest ih =>
      cases offset with
      | zero =>
          cases starts : startsAfter base (byte :: rest) with
          | nil => rfl
          | cons start others =>
              have beyond : base < start := lt_of_mem_startsAfter (starts ▸ List.mem_cons_self)
              simp [startsAfter, Nat.not_le.mpr beyond]
      | succ offset =>
          have shifted : base + (offset + 1) = base + 1 + offset := by omega
          simp only [List.take_succ_cons, startsAfter, shifted]
          split
          next => simp [ih]
          next => exact ih (base + 1) offset

/-! ## The line of an offset -/

/-- The offset at which the last line of a byte string starts. -/
def lastStart (bytes : List UInt8) : Nat :=
  (startsAfter 0 bytes).getLastD 0

theorem lastStart_eq_zero {bytes : List UInt8} (single : lineFeed ∉ bytes) :
    lastStart bytes = 0 := by
  rw [lastStart, startsAfter_eq_nil single]
  rfl

theorem lastStart_append_cons {line : List UInt8} (single : lineFeed ∉ line)
    (before : List UInt8) : lastStart (before ++ lineFeed :: line) = before.length + 1 := by
  rw [lastStart, startsAfter_append, startsAfter, if_pos rfl, startsAfter_eq_nil single,
    List.getLastD_concat, Nat.zero_add]

/-- The position of an offset depends on the bytes before it alone. -/
theorem positionAt_ofBytes (bytes : List UInt8) (fileName : String) (offset : Nat) :
    (ofBytes bytes fileName).positionAt offset =
      { line := 1 + (bytes.take offset).count lineFeed
        column := offset - lastStart (bytes.take offset) } := by
  have started : (ofBytes bytes fileName).lineStarts.takeWhile
      (fun start => decide (start ≤ offset)) = 0 :: startsAfter 0 (bytes.take offset) := by
    have rest := takeWhile_startsAfter 0 offset bytes
    rw [Nat.zero_add] at rest
    simp [ofBytes, rest]
  simp only [positionAt, started, List.length_cons, length_startsAfter, List.getLastD_cons,
    lastStart]
  congr 1
  omega

theorem position_eq_ok {index : LineIndex} {offset : Int} {position : Position} :
    index.position offset = .ok position ↔
      0 ≤ offset ∧ index.positionAt offset.toNat = position := by
  rw [LineIndex.position]
  split
  next negative => simp [Int.not_le.mpr negative]
  next nonneg => simp [Int.not_lt.mp nonneg]

/-! ## The scan -/

/-- What a scan of a byte string finds for an offset: the line feeds before it number its line,
and its column is counted from the last of them. -/
structure Scanned (bytes : List UInt8) (offset : Nat) (position : Position) : Prop where
  line_eq : position.line = 1 + (bytes.take offset).count lineFeed
  column_eq :
    (∃ last < offset, bytes[last]? = some lineFeed ∧
      (∀ later, last < later → later < offset → bytes[later]? ≠ some lineFeed) ∧
      position.column = offset - (1 + last)) ∨
    ((∀ earlier < offset, bytes[earlier]? ≠ some lineFeed) ∧ position.column = offset)

/-- A list is cut at the last place of one of its elements. -/
theorem eq_append_cons_last {α : Type} {values : List α} {value : α} (member : value ∈ values) :
    ∃ before after, values = before ++ value :: after ∧ value ∉ after := by
  rcases List.eq_append_cons_of_mem (List.mem_reverse.mpr member) with ⟨after, before, equal, last⟩
  refine ⟨before.reverse, after.reverse, ?_, ?_⟩
  · rw [← List.reverse_reverse values, equal]
    simp
  · simpa using last

theorem scanned_positionAt (bytes : List UInt8) (fileName : String) (offset : Nat) :
    Scanned bytes offset ((ofBytes bytes fileName).positionAt offset) := by
  rw [positionAt_ofBytes]
  refine ⟨rfl, ?_⟩
  by_cases broken : lineFeed ∈ bytes.take offset
  · left
    rcases eq_append_cons_last broken with ⟨before, line, cut, single⟩
    have read {place : Nat} (inside : place < offset) :
        bytes[place]? = (before ++ lineFeed :: line)[place]? := by
      rw [← cut, List.getElem?_take_of_lt inside]
    have inside : before.length < offset := by
      have bound := congrArg List.length cut
      simp only [List.length_take, List.length_append, List.length_cons] at bound
      omega
    refine ⟨before.length, inside, ?_, ?_, ?_⟩
    · rw [read inside]
      simp
    · intro later after bound found
      rw [read bound, List.getElem?_append_right (Nat.le_of_lt after)] at found
      obtain ⟨distance, apart⟩ := Nat.exists_eq_add_of_lt after
      have shifted : later - before.length = distance + 1 := by omega
      rw [shifted, List.getElem?_cons_succ] at found
      exact single (List.mem_of_getElem? found)
    · simp only [cut, lastStart_append_cons single]
      omega
  · right
    constructor
    · intro earlier bound found
      rw [← List.getElem?_take_of_lt bound] at found
      exact broken (List.mem_of_getElem? found)
    · simp [lastStart_eq_zero broken]

/-! ## The search among the starts -/

section Ascending

variable {starts : List Nat} {number start : Nat}

/-- The starts up to a bound are counted by the place of the last one of them. -/
theorem lt_length_takeWhile_iff (ascending : starts.Pairwise (· < ·))
    (listed : starts[number]? = some start) (bound : Nat) :
    number < (starts.takeWhile fun start => decide (start ≤ bound)).length ↔ start ≤ bound := by
  induction starts generalizing number with
  | nil => cases listed
  | cons first others ih =>
      rcases List.pairwise_cons.mp ascending with ⟨least, ascending⟩
      by_cases below : first ≤ bound
      · cases number with
        | zero =>
            rw [List.getElem?_cons_zero, Option.some.injEq] at listed
            simp [below, ← listed]
        | succ number =>
            rw [List.getElem?_cons_succ] at listed
            simp [below, ih ascending listed]
      · have beyond : bound < start := by
          rcases List.mem_cons.mp (List.mem_of_getElem? listed) with rfl | later
          · exact Nat.lt_of_not_le below
          · exact Nat.lt_trans (Nat.lt_of_not_le below) (least start later)
        simp [below, Nat.not_le.mpr beyond]

/-- The starts up to one of them are those listed up to it. -/
theorem takeWhile_le_eq_take (ascending : starts.Pairwise (· < ·))
    (listed : starts[number]? = some start) :
    (starts.takeWhile fun other => decide (other ≤ start)) = starts.take (number + 1) := by
  induction starts generalizing number with
  | nil => cases listed
  | cons first others ih =>
      rcases List.pairwise_cons.mp ascending with ⟨least, ascending⟩
      cases number with
      | zero =>
          rw [List.getElem?_cons_zero, Option.some.injEq] at listed
          cases others with
          | nil => simp [listed]
          | cons second rest =>
              have beyond : ¬second ≤ start :=
                Nat.not_le.mpr (listed ▸ least second List.mem_cons_self)
              simp [listed, beyond]
      | succ number =>
          rw [List.getElem?_cons_succ] at listed
          have before : first ≤ start := Nat.le_of_lt (least start (List.mem_of_getElem? listed))
          simp [before, ih ascending listed]

end Ascending

theorem lineStarts_pairwise (bytes : List UInt8) (fileName : String) :
    (ofBytes bytes fileName).lineStarts.Pairwise (· < ·) :=
  .cons (fun _ listed => lt_of_mem_startsAfter listed) (startsAfter_pairwise 0 bytes)

/-- Each start has the column 0 of its own line. -/
theorem positionAt_start {index : LineIndex} (ascending : index.lineStarts.Pairwise (· < ·))
    {number start : Nat} (listed : index.lineStarts[number]? = some start) :
    index.positionAt start = { line := number + 1, column := 0 } := by
  have bound : number < index.lineStarts.length := (List.getElem?_eq_some_iff.mp listed).1
  have line : (index.lineStarts.take (number + 1)).length = number + 1 := by
    rw [List.length_take]
    omega
  have last : (index.lineStarts.take (number + 1)).getLastD 0 = start := by
    rw [List.take_add_one, listed, Option.toList_some, List.getLastD_concat]
  rw [positionAt, takeWhile_le_eq_take ascending listed, line, last]
  congr 1
  omega

/-! ## Offsets in a text -/

/-- The part of a text after its last line feed. -/
def lastLine (text : List Char) : List Char :=
  (text.reverse.takeWhile (· != '\n')).reverse

theorem takeWhile_reverse_append {line : List Char} (single : '\n' ∉ line) (rest : List Char) :
    (line.reverse ++ rest).takeWhile (· != '\n') =
      line.reverse ++ rest.takeWhile (· != '\n') := by
  apply List.takeWhile_append_of_pos
  intro character member
  rw [bne_iff_ne]
  rintro rfl
  exact single (List.mem_reverse.mp member)

theorem lastLine_eq_self {text : List Char} (single : '\n' ∉ text) : lastLine text = text := by
  have whole := takeWhile_reverse_append single []
  rw [List.append_nil, List.takeWhile_nil, List.append_nil] at whole
  rw [lastLine, whole, List.reverse_reverse]

theorem lastLine_append_cons {line : List Char} (single : '\n' ∉ line) (before : List Char) :
    lastLine (before ++ '\n' :: line) = line := by
  simp [lastLine, takeWhile_reverse_append single]

theorem lineFeed_ascii : '\n'.toNat < 0x80 := by decide

theorem count_lineFeed_encodeUtf8 (text : List Char) :
    (Text.encodeUtf8 text).count lineFeed = text.count '\n' :=
  Text.count_encodeUtf8 lineFeed_ascii text

theorem lineFeed_mem_encodeUtf8 {text : List Char} :
    lineFeed ∈ Text.encodeUtf8 text ↔ '\n' ∈ text :=
  Text.mem_encodeUtf8 lineFeed_ascii

/-- The last line of an encoded text is the encoded last line. -/
theorem lastStart_encodeUtf8 (text : List Char) :
    lastStart (Text.encodeUtf8 text) + (Text.encodeUtf8 (lastLine text)).length =
      (Text.encodeUtf8 text).length := by
  by_cases broken : '\n' ∈ text
  · rcases eq_append_cons_last broken with ⟨before, line, rfl, single⟩
    have feed : Text.encodeUtf8 ('\n' :: line) = lineFeed :: Text.encodeUtf8 line := rfl
    have encodedSingle : lineFeed ∉ Text.encodeUtf8 line := mt lineFeed_mem_encodeUtf8.mp single
    rw [Text.encodeUtf8_append, feed, lastStart_append_cons encodedSingle,
      lastLine_append_cons single, List.length_append, List.length_cons]
    omega
  · rw [lastLine_eq_self broken, lastStart_eq_zero (mt lineFeed_mem_encodeUtf8.mp broken),
      Nat.zero_add]

/-- The index of a file answers every offset as a scan of its bytes would. -/
theorem position_eq_scan (bytes : List UInt8) (fileName : String) :
    let index : LineIndex := ofBytes bytes fileName
    (∀ offset : Nat, ∃ position, index.position offset = .ok position ∧
      Scanned bytes offset position ∧
      ∀ number start : Nat, index.lineStarts[number]? = some start →
        (start ≤ offset ↔ number < position.line)) ∧
    (index.lineStarts.Pairwise (· < ·) ∧ index.lineStarts.head? = some 0 ∧
      index.lineStarts.length = bytes.count lineFeed + 1 ∧
      ∀ number start : Nat, index.lineStarts[number]? = some start →
        index.position start = .ok { line := number + 1, column := 0 }) ∧
    (∀ before after : List Char, bytes = Text.encodeUtf8 (before ++ after) →
      index.position (Text.encodeUtf8 before).length =
        .ok { line := 1 + before.count '\n'
              column := (Text.encodeUtf8 (lastLine before)).length }) ∧
    ∀ offset : Int, offset < 0 → index.position offset = .error ⟨offset⟩ := by
  intro index
  have position_natCast (offset : Nat) :
      index.position offset = .ok (index.positionAt offset) := by
    rw [position, if_neg (Int.not_lt.mpr (Int.natCast_nonneg offset)), Int.toNat_natCast]
  have ascending : index.lineStarts.Pairwise (· < ·) := lineStarts_pairwise bytes fileName
  refine ⟨?_, ⟨ascending, rfl, ?_, ?_⟩, ?_, ?_⟩
  · intro offset
    refine ⟨_, position_natCast offset, scanned_positionAt bytes fileName offset, ?_⟩
    intro number start listed
    rw [← lt_length_takeWhile_iff ascending listed offset]
    exact Int.ofNat_lt.symm
  · exact congrArg (· + 1) (length_startsAfter 0 bytes)
  · intro number start listed
    rw [position_natCast, positionAt_start ascending listed]
  · intro before after encoded
    have taken : bytes.take (Text.encodeUtf8 before).length = Text.encodeUtf8 before := by
      rw [encoded, Text.encodeUtf8_append, List.take_left]
    have lastLength := lastStart_encodeUtf8 before
    rw [position_natCast, positionAt_ofBytes, taken, count_lineFeed_encodeUtf8]
    congr 2
    omega
  · intro offset negative
    rw [position, if_pos negative]

/-- In a text of two lines, whose first one holds a character of two bytes, the second line starts
at the offset 3, and the end of the text is at the column 1 of it. -/
theorem position_eq_scan_accented :
    let index : LineIndex := ofBytes [0xC3, 0xA9, 0x0A, 0x78] "a.sol"
    index.position 3 = .ok { line := 2, column := 0 } ∧
    index.position 4 = .ok { line := 2, column := 1 } ∧
    index.position (-1) = .error ⟨-1⟩ := by
  intro index
  have scan := position_eq_scan [0xC3, 0xA9, 0x0A, 0x78] "a.sol"
  exact ⟨scan.2.1.2.2.2 1 3 rfl, scan.2.2.1 ['é', '\n', 'x'] [] (by decide),
    scan.2.2.2 (-1) (by decide)⟩

end Pinpoint.LineIndex
