import Pinpoint.Proofs.LineScan
import Pinpoint.Text.Newlines

/-!
# Positions and line ends

Making every line end of a text a single line feed moves what comes after a carriage return: where
a line feed follows one, the text loses a byte, and elsewhere it gains a line. So an offset has the
same position in both texts exactly when no carriage return comes before it, and else the text with
the unified line ends puts it further down or further to the right.
-/

namespace Pinpoint

/-- Whether a position comes before another one: on an earlier line, or further to the left. -/
def Position.Before (first second : Position) : Prop :=
  first.line < second.line ∨ first.line = second.line ∧ first.column < second.column

theorem Position.Before.ne {first second : Position} (before : first.Before second) :
    first ≠ second := by
  rintro rfl
  rcases before with before | ⟨-, before⟩
  · exact Int.lt_irrefl _ before
  · exact Int.lt_irrefl _ before

namespace LineIndex

/-- The byte of a carriage return. -/
def carriageReturn : UInt8 := 0x0D

/-- Makes every line end of a file a single line feed: a carriage return becomes one, unless one
follows it anyway. -/
def unifyBytes : List UInt8 → List UInt8
  | [] => []
  | byte :: rest =>
    if byte = carriageReturn then
      if rest.head? = some lineFeed then unifyBytes rest else lineFeed :: unifyBytes rest
    else byte :: unifyBytes rest

theorem unifyBytes_append {first : List UInt8} (plain : carriageReturn ∉ first)
    (rest : List UInt8) : unifyBytes (first ++ rest) = first ++ unifyBytes rest := by
  induction first with
  | nil => rfl
  | cons byte first ih =>
      rw [List.mem_cons, not_or] at plain
      rw [List.cons_append, unifyBytes, if_neg (Ne.symm plain.1), ih plain.2, List.cons_append]

/-- The bytes before the first carriage return stay where they are. -/
theorem take_unifyBytes {bytes : List UInt8} {offset : Nat}
    (plain : carriageReturn ∉ bytes.take offset) :
    (unifyBytes bytes).take offset = bytes.take offset := by
  have unified := unifyBytes_append plain (bytes.drop offset)
  rw [List.take_append_drop] at unified
  rw [unified]
  by_cases inside : offset ≤ bytes.length
  · rw [List.take_append_of_le_length (by simp [inside]), List.take_take, Nat.min_self]
  · rw [List.drop_of_length_le (by omega)]
    simp [unifyBytes, List.take_take]

/-! ## The last line -/

theorem lastStart_cons {byte : UInt8} {rest : List UInt8} (broken : lineFeed ∈ rest) :
    lastStart (byte :: rest) = lastStart rest + 1 := by
  rcases eq_append_cons_last broken with ⟨before, line, rfl, single⟩
  rw [lastStart_append_cons single, ← List.cons_append, lastStart_append_cons single]
  rfl

theorem lastStart_append {first second : List UInt8} (single : lineFeed ∉ second) :
    lastStart (first ++ second) = lastStart first := by
  by_cases broken : lineFeed ∈ first
  · rcases eq_append_cons_last broken with ⟨before, line, rfl, lineSingle⟩
    have whole : lineFeed ∉ line ++ second := by simp [lineSingle, single]
    rw [List.append_assoc, List.cons_append, lastStart_append_cons whole,
      lastStart_append_cons lineSingle]
  · rw [lastStart_eq_zero broken, lastStart_eq_zero (by simp [broken, single])]

theorem lastStart_le_length (bytes : List UInt8) : lastStart bytes ≤ bytes.length := by
  by_cases broken : lineFeed ∈ bytes
  · rcases eq_append_cons_last broken with ⟨before, line, rfl, single⟩
    rw [lastStart_append_cons single]
    simp
  · rw [lastStart_eq_zero broken]
    exact Nat.zero_le _

theorem lineFeed_mem_of_lastStart_pos {bytes : List UInt8} (positive : 0 < lastStart bytes) :
    lineFeed ∈ bytes := by
  by_cases broken : lineFeed ∈ bytes
  · exact broken
  · rw [lastStart_eq_zero broken] at positive
    exact absurd positive (Nat.lt_irrefl 0)

/-! ## Which scan has come further -/

/-- Whether a scan of some bytes has come as far as one of others: to a later line, or on the same
line at least as far from its start, when both have read as many bytes. -/
def Keeps (first second : List UInt8) : Prop :=
  second.count lineFeed < first.count lineFeed ∨
    second.count lineFeed = first.count lineFeed ∧ lastStart first ≤ lastStart second

/-- Whether a scan of some bytes has come further than one of others. -/
def Outruns (first second : List UInt8) : Prop :=
  second.count lineFeed < first.count lineFeed ∨
    second.count lineFeed = first.count lineFeed ∧ lastStart first < lastStart second

variable {first second : List UInt8}

theorem Outruns.keeps (outruns : Outruns first second) : Keeps first second :=
  outruns.imp_right fun same => ⟨same.1, Nat.le_of_lt same.2⟩

theorem Keeps.count_le (keeps : Keeps first second) :
    second.count lineFeed ≤ first.count lineFeed := by
  rcases keeps with more | ⟨same, -⟩ <;> omega

theorem Outruns.cons (outruns : Outruns first second) (byte : UInt8) :
    Outruns (byte :: first) (byte :: second) := by
  rw [Outruns, List.count_cons, List.count_cons]
  rcases outruns with more | ⟨same, before⟩
  · left
    omega
  · right
    have broken : lineFeed ∈ second := lineFeed_mem_of_lastStart_pos (by omega)
    have firstBroken : lineFeed ∈ first := by
      rw [← List.count_pos_iff, ← same, List.count_pos_iff]
      exact broken
    rw [lastStart_cons broken, lastStart_cons firstBroken]
    omega

/-- One more byte does not fall back behind. -/
theorem Keeps.append (keeps : Keeps first second) (more : List UInt8) :
    Keeps (first ++ more) second := by
  by_cases broken : lineFeed ∈ more
  · left
    have counted := List.count_pos_iff.mpr broken
    have before := keeps.count_le
    rw [List.count_append]
    omega
  · rw [Keeps, List.count_append, List.count_eq_zero_of_not_mem broken, lastStart_append broken]
    exact keeps

/-- After a carriage return, the text with unified line ends is ahead: it either counts a line feed
more, or it has been shortened by a byte on the way to its last line. -/
theorem outruns_take_unifyBytes {bytes : List UInt8} {offset : Nat}
    (returned : carriageReturn ∈ bytes.take offset) :
    Outruns ((unifyBytes bytes).take offset) (bytes.take offset) := by
  induction bytes generalizing offset with
  | nil => simp at returned
  | cons byte rest ih =>
      cases offset with
      | zero => simp at returned
      | succ offset =>
          have kept : Keeps ((unifyBytes rest).take offset) (rest.take offset) := by
            by_cases later : carriageReturn ∈ rest.take offset
            · exact (ih later).keeps
            · rw [take_unifyBytes later]
              exact .inr ⟨rfl, Nat.le_refl _⟩
          rw [List.take_succ_cons, List.mem_cons] at returned
          rw [unifyBytes, List.take_succ_cons]
          split
          next isReturn =>
            have uncounted : (byte :: rest.take offset).count lineFeed =
                (rest.take offset).count lineFeed := by
              rw [isReturn]
              exact List.count_cons_of_ne (by decide)
            split
            next feeds =>
              rcases List.head?_eq_some_iff.mp feeds with ⟨others, rfl⟩
              have started : lineFeed ∈ (unifyBytes (lineFeed :: others)).take (offset + 1) := by
                rw [unifyBytes, if_neg (by decide), List.take_succ_cons]
                exact List.mem_cons_self
              have further := kept.append (unifyBytes (lineFeed :: others))[offset]?.toList
              rw [← List.take_add_one] at further
              by_cases broken : lineFeed ∈ (lineFeed :: others).take offset
              · rw [Outruns, uncounted, lastStart_cons broken]
                exact further.imp_right fun same => ⟨same.1, Nat.lt_succ_of_le same.2⟩
              · left
                rw [uncounted, List.count_eq_zero_of_not_mem broken]
                exact List.count_pos_iff.mpr started
            next =>
              left
              have before := kept.count_le
              rw [uncounted, List.take_succ_cons, List.count_cons_self]
              omega
          next other =>
            exact (ih (returned.resolve_left (Ne.symm other))).cons byte

/-- An offset after a carriage return is put further on by the text with unified line ends. -/
theorem before_positionAt_unifyBytes {bytes : List UInt8} {offset : Nat}
    (returned : carriageReturn ∈ bytes.take offset) (fileName : String) :
    ((ofBytes bytes fileName).positionAt offset).Before
      ((ofBytes (unifyBytes bytes) fileName).positionAt offset) := by
  have inside : lastStart (bytes.take offset) ≤ offset :=
    Nat.le_trans (lastStart_le_length _) (List.length_take_le _ _)
  rw [positionAt_ofBytes, positionAt_ofBytes, Position.Before]
  rcases outruns_take_unifyBytes returned with more | ⟨same, before⟩
  · left
    simp only
    omega
  · right
    simp only
    omega

/-- Unifying the line ends of a file leaves the position of an offset as it is exactly when no
carriage return comes before the offset. -/
theorem positionAt_unifyBytes_iff {bytes : List UInt8} {fileName : String} {offset : Nat} :
    (ofBytes (unifyBytes bytes) fileName).positionAt offset =
        (ofBytes bytes fileName).positionAt offset ↔
      carriageReturn ∉ bytes.take offset := by
  constructor
  · intro equal returned
    exact (before_positionAt_unifyBytes returned fileName).ne equal.symm
  · intro plain
    rw [positionAt_ofBytes, positionAt_ofBytes, take_unifyBytes plain]

end LineIndex

/-! ## Texts -/

namespace Text

open LineIndex

theorem carriageReturn_mem_encodeUtf8 {text : List Char} :
    carriageReturn ∈ encodeUtf8 text ↔ '\r' ∈ text :=
  @mem_encodeUtf8 '\r' (by decide) text

/-- The bytes of a text start with a line feed only if the text does. -/
theorem head?_of_head?_encodeUtf8 {text : List Char}
    (fed : (encodeUtf8 text).head? = some lineFeed) : text.head? = some '\n' := by
  cases text with
  | nil => cases fed
  | cons character rest =>
      have first : (encodeUtf8 [character]).head? = some lineFeed := by
        simpa [List.head?_append, Option.or_eq_some_iff, String.utf8EncodeChar_ne_nil] using fed
      have member : lineFeed ∈ encodeUtf8 [character] := List.mem_of_mem_head? first
      have same : '\n' ∈ [character] := (mem_encodeUtf8 (by decide)).mp member
      rw [List.mem_singleton.mp same]
      rfl

/-- Unifying the line ends of a text unifies those of its bytes. -/
theorem encodeUtf8_unifyNewlines (text : List Char) :
    encodeUtf8 (unifyNewlines text) = unifyBytes (encodeUtf8 text) := by
  fun_induction unifyNewlines text with
  | case1 => rfl
  | case2 rest ih =>
      rw [encodeUtf8_cons, ih]
      rfl
  | case3 rest other ih =>
      have unfed : (encodeUtf8 rest).head? ≠ some lineFeed := by
        intro fed
        rcases List.head?_eq_some_iff.mp (head?_of_head?_encodeUtf8 fed) with ⟨others, equal⟩
        exact other others equal
      have first : encodeUtf8 ('\r' :: rest) = carriageReturn :: encodeUtf8 rest := rfl
      rw [encodeUtf8_cons, ih, first, unifyBytes, if_pos rfl, if_neg unfed]
      rfl
  | case4 character rest other notReturn ih =>
      have plain : carriageReturn ∉ encodeUtf8 [character] := by
        rw [carriageReturn_mem_encodeUtf8, List.mem_singleton]
        exact Ne.symm notReturn
      rw [encodeUtf8_cons, encodeUtf8_cons, ih]
      simpa using (unifyBytes_append plain (encodeUtf8 rest)).symm

end Text

end Pinpoint
