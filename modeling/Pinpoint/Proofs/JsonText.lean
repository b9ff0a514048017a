import Pinpoint.Json.Printer
import Pinpoint.Json.Reader
import Pinpoint.Proofs.Numerals

/-!
# Texts and integers in JSON

A text is written in ASCII characters, with escapes for all others, and an integer in decimal
digits. Either is read back from what is written, whatever follows it; only what follows an
integer must not go on with it.
-/

namespace Pinpoint.Json

/-! ## Escapes -/

/-- An escape by code unit has four digits that write the unit. -/
theorem exists_escapeUnit {unit : Nat} (bound : unit < 0x10000) :
    ∃ first second third fourth,
      escapeUnit unit = ['\\', 'u', first, second, third, fourth] ∧
      hexUnit? first second third fourth = some unit := by
  refine ⟨_, _, _, _, rfl, ?_⟩
  have digit (value : Nat) :
      Text.hexDigitValue? (Nat.digitChar (value % 16)) = some (value % 16) :=
    Text.hexDigitValue?_digitChar (Nat.mod_lt value (by decide))
  simp [hexUnit?, digit]
  omega

/-- A unit that is no surrogate is read as the character of its number. -/
theorem readUnitEscape_unit {unit : Nat} (bound : unit < 0x10000)
    (single : unit < 0xD800 ∨ 0xDFFF < unit) {rest : List Char} (more : rest ≠ []) :
    readUnitEscape ((escapeUnit unit).tail ++ rest) = .ok (Char.ofNat unit, rest) := by
  rcases exists_escapeUnit bound with ⟨first, second, third, fourth, written, value⟩
  have high : ¬(0xD800 ≤ unit ∧ unit ≤ 0xDBFF) := by omega
  have low : ¬(0xDC00 ≤ unit ∧ unit ≤ 0xDFFF) := by omega
  rw [written]
  simp [readUnitEscape, more, value, high, low]

/-- Two units of a surrogate pair are read as the one character that they stand for. -/
theorem readUnitEscape_pair {high low : Nat} (highBound : high < 0x400) (lowBound : low < 0x400)
    {rest : List Char} (more : rest ≠ []) :
    readUnitEscape ((escapeUnit (0xD800 + high)).tail ++ escapeUnit (0xDC00 + low) ++ rest) =
      .ok (Char.ofNat (0x10000 + high * 0x400 + low), rest) := by
  have highUnit : 0xD800 + high < 0x10000 := by omega
  have lowUnit : 0xDC00 + low < 0x10000 := by omega
  rcases exists_escapeUnit highUnit with ⟨first, second, third, fourth, written, value⟩
  rcases exists_escapeUnit lowUnit with ⟨fifth, sixth, seventh, eighth, lowWritten, lowValue⟩
  have isHigh : 0xD800 + high ≤ 0xDBFF := by omega
  have isLow : 0xDC00 + low ≤ 0xDFFF := by omega
  have paired : lowSurrogate? ('\\' :: 'u' :: fifth :: sixth :: seventh :: eighth :: rest) =
      .ok (some (0xDC00 + low), rest) := by
    simp [lowSurrogate?, more, lowValue, isLow]
  rw [written, lowWritten]
  simp [readUnitEscape, value, isHigh, paired]

/-! ## Characters -/

/-- The ways in which a character is written in a text. -/
inductive Escapes : Char → List Char → Prop where
  | plain {character : Char} : 0x20 ≤ character.toNat → character.toNat ≤ 0x7E →
      character ≠ '"' → character ≠ '\\' → Escapes character [character]
  | letter {character letter : Char} : letter.toNat < 0x80 →
      escapedLetter? letter = some character → Escapes character ['\\', letter]
  | unit {character : Char} : character.toNat < 0x10000 →
      Escapes character (escapeUnit character.toNat)
  | pair {character : Char} {high low : Nat} : high < 0x400 → low < 0x400 →
      character.toNat = 0x10000 + high * 0x400 + low →
      Escapes character (escapeUnit (0xD800 + high) ++ escapeUnit (0xDC00 + low))

theorem escapes_escapeChar (character : Char) : Escapes character (escapeChar character) := by
  have valid : character.toNat < 0xD800 ∨ 0xDFFF < character.toNat ∧ character.toNat < 0x110000 :=
    character.valid
  have lettered {letter other : Char} (same : character = other) (ascii : letter.toNat < 0x80)
      (read : escapedLetter? letter = some other) : Escapes character ['\\', letter] :=
    .letter ascii (same ▸ read)
  have coded {code : Nat} {other : Char} (equal : character.toNat = code)
      (same : other.toNat = code) : character = other :=
    Char.toNat_inj.mp (equal.trans same.symm)
  simp only [escapeChar]
  split
  next equal => exact lettered equal (by decide) rfl
  split
  next equal => exact lettered equal (by decide) rfl
  split
  next equal => exact lettered equal (by decide) rfl
  split
  next equal => exact lettered equal (by decide) rfl
  split
  next equal => exact lettered equal (by decide) rfl
  split
  next equal => exact lettered (coded equal rfl) (by decide) rfl
  split
  next equal => exact lettered (coded equal rfl) (by decide) rfl
  split
  next notQuote notBackslash _ _ _ _ _ printable =>
    exact .plain printable.1 printable.2 notQuote notBackslash
  split
  next small => exact .unit small
  next large => exact .pair (by omega) (by omega) (by omega)

theorem Escapes.ne_nil {character : Char} {escape : List Char}
    (escapes : Escapes character escape) : escape ≠ [] := by
  cases escapes <;> exact List.cons_ne_nil _ _

/-- Whether a text consists of ASCII characters. -/
def IsAscii (text : List Char) : Prop :=
  ∀ character ∈ text, character.toNat < 0x80

@[simp] theorem isAscii_nil : IsAscii [] :=
  List.forall_mem_nil _

@[simp] theorem isAscii_cons {first : Char} {others : List Char} :
    IsAscii (first :: others) ↔ first.toNat < 0x80 ∧ IsAscii others :=
  List.forall_mem_cons

@[simp] theorem isAscii_append {first second : List Char} :
    IsAscii (first ++ second) ↔ IsAscii first ∧ IsAscii second :=
  List.forall_mem_append

theorem isAscii_escapeUnit (unit : Nat) : IsAscii (escapeUnit unit) := by
  have digits : ∀ digit : Fin 16, (Nat.digitChar digit).toNat < 0x80 := by decide
  have digit (value : Nat) : (Nat.digitChar (value % 16)).toNat < 0x80 :=
    digits ⟨value % 16, Nat.mod_lt value (by decide)⟩
  simp [escapeUnit, Text.hexDigits, digit]

theorem Escapes.isAscii {character : Char} {escape : List Char}
    (escapes : Escapes character escape) : IsAscii escape := by
  cases escapes with
  | plain _ bound => simpa using Nat.lt_of_le_of_lt bound (by decide)
  | letter ascii => simpa using ascii
  | unit => exact isAscii_escapeUnit _
  | pair => exact isAscii_append.mpr ⟨isAscii_escapeUnit _, isAscii_escapeUnit _⟩

/-- A character is read back from what stands for it. -/
theorem Escapes.read {character : Char} {escape : List Char} (escapes : Escapes character escape)
    (opening : List Char) (fuel : Nat) (reversed : List Char) {rest : List Char}
    (more : rest ≠ []) :
    readTextFrom opening (fuel + 1) reversed (escape ++ rest) =
      readTextFrom opening fuel (character :: reversed) rest := by
  have unitEscape {digits : List Char}
      (read : readUnitEscape ('u' :: digits) = .ok (character, rest)) :
      readTextFrom opening (fuel + 1) reversed ('\\' :: 'u' :: digits) =
        readTextFrom opening fuel (character :: reversed) rest := by
    rw [readTextFrom, read]
  cases escapes with
  | plain least _ notQuote notBackslash =>
      have control : ¬character.toNat < 0x20 := Nat.not_lt.mpr least
      rw [List.singleton_append, readTextFrom, if_neg control]
      · exact notQuote
      · exact fun equal _ => notBackslash equal
      · exact fun _ equal _ => notBackslash equal
      · exact fun _ _ equal _ => notBackslash equal
  | @letter letter _ read =>
      have single : letter ≠ 'u' := by
        rintro rfl
        cases read
      simp [readTextFrom, read]
  | unit bound =>
      have valid : character.toNat < 0xD800 ∨ 0xDFFF < character.toNat ∧ _ := character.valid
      have read := readUnitEscape_unit bound (valid.imp id And.left) more
      rw [Char.ofNat_toNat] at read
      exact unitEscape read
  | pair highBound lowBound equal =>
      have read := readUnitEscape_pair highBound lowBound more
      rw [← equal, Char.ofNat_toNat] at read
      rw [List.append_assoc]
      exact unitEscape read

/-! ## Texts -/

theorem readTextFrom_escapes (opening : List Char) (characters rest : List Char) {fuel : Nat}
    (enough : characters.length < fuel) (reversed : List Char) :
    readTextFrom opening fuel reversed (characters.flatMap escapeChar ++ '"' :: rest) =
      .ok (String.ofList (reversed.reverse ++ characters), rest) := by
  induction characters generalizing fuel reversed with
  | nil =>
      cases fuel with
      | zero => cases enough
      | succ fuel => simp [readTextFrom]
  | cons character others ih =>
      cases fuel with
      | zero => cases enough
      | succ fuel =>
          have more : others.flatMap escapeChar ++ '"' :: rest ≠ [] := by simp
          rw [List.flatMap_cons, List.append_assoc,
            (escapes_escapeChar character).read opening fuel reversed more,
            ih (Nat.lt_of_succ_lt_succ enough), List.reverse_cons, List.append_assoc,
            List.singleton_append]

theorem length_le_flatMap_escapeChar (characters : List Char) :
    characters.length ≤ (characters.flatMap escapeChar).length := by
  induction characters with
  | nil => exact Nat.le_refl 0
  | cons character others ih =>
      have some := List.length_pos_iff.mpr (escapes_escapeChar character).ne_nil
      rw [List.length_cons, List.flatMap_cons, List.length_append]
      omega

/-- A text is read back from what it is written as. -/
theorem readText_writeText (text : String) (rest : List Char) :
    readText (writeText text ++ rest) = .ok (text, rest) := by
  have enough : text.toList.length < (writeText text ++ rest).length := by
    have bound := length_le_flatMap_escapeChar text.toList
    simp only [writeText, List.cons_append, List.length_cons, List.length_append]
    omega
  have tail : (writeText text ++ rest).tail =
      text.toList.flatMap escapeChar ++ '"' :: rest := by
    simp [writeText]
  rw [readText, tail, readTextFrom_escapes _ _ _ enough, List.reverse_nil, List.nil_append,
    String.ofList_toList]

theorem isAscii_flatMap_escapeChar (characters : List Char) :
    IsAscii (characters.flatMap escapeChar) := by
  induction characters with
  | nil => exact isAscii_nil
  | cons character others ih =>
      rw [List.flatMap_cons, isAscii_append]
      exact ⟨(escapes_escapeChar character).isAscii, ih⟩

theorem isAscii_writeText (text : String) : IsAscii (writeText text) := by
  simp [writeText, isAscii_flatMap_escapeChar]

/-! ## Integers -/

/-- Whether a number that stands before some characters does not go on with them. -/
def EndsNumber (rest : List Char) : Prop :=
  ∀ character ∈ rest.head?, isDigit character = false ∧ character ≠ '.' ∧ character ≠ 'e' ∧
    character ≠ 'E'

theorem isDigit_eq (character : Char) : isDigit character = character.isDigit := by
  rw [Bool.eq_iff_iff, isDigit, Char.isDigit, Bool.and_eq_true, Bool.and_eq_true]
  simp only [decide_eq_true_eq]
  exact Iff.rfl

/-- The digits of a number start with a digit, which is zero for zero only. -/
theorem toDigits_eq_cons (value : Nat) :
    ∃ first others, Nat.toDigits 10 value = first :: others ∧ first.isDigit = true ∧
      (first = '0' → value = 0) := by
  induction value using Nat.strongRecOn with
  | _ value ih =>
      by_cases single : value < 10
      · have code := Nat.toNat_digitChar_of_lt_ten single
        refine ⟨_, [], Nat.toDigits_of_lt_base single, ?_, ?_⟩
        · exact Nat.isDigit_of_mem_toDigits (by decide) (by decide)
            (Nat.toDigits_of_lt_base single ▸ List.mem_singleton_self _)
        · intro zero
          rw [zero] at code
          simp at code
          omega
      · have least := Nat.not_lt.mp single
        rcases ih (value / 10) (by omega) with ⟨first, others, written, digit, zero⟩
        refine ⟨first, others ++ [Nat.digitChar (value % 10)], ?_, digit, ?_⟩
        · rw [Nat.toDigits_of_base_le (by decide) least, written, List.cons_append]
        · intro first
          have quotient := zero first
          omega

theorem wholeDigits?_toDigits (value : Nat) {rest : List Char} (ends : EndsNumber rest) :
    wholeDigits? (Nat.toDigits 10 value ++ rest) = some (Nat.toDigits 10 value, rest) := by
  rcases toDigits_eq_cons value with ⟨first, others, written, -, zero⟩
  have digits (character : Char) (member : character ∈ Nat.toDigits 10 value) :
      isDigit character = true := by
    rw [isDigit_eq]
    exact Nat.isDigit_of_mem_toDigits (by decide) (by decide) member
  have taken : rest.takeWhile isDigit = [] := by
    cases rest with
    | nil => rfl
    | cons character others => rw [List.takeWhile_cons_of_neg (by simp [(ends character rfl).1])]
  have dropped : rest.dropWhile isDigit = rest :=
    Text.dropWhile_of_head? fun character member => (ends character member).1
  by_cases leading : first = '0'
  · rw [zero leading]
    rfl
  · rw [wholeDigits?]
    · simp only [List.takeWhile_append_of_pos digits, List.dropWhile_append_of_pos digits, taken,
        dropped, List.append_nil]
      simp
    · intro later equal
      rw [written, List.cons_append] at equal
      exact leading (List.cons.inj equal).1

theorem ofDigits_digitValues (value : Nat) :
    Text.ofDigits (digitValues (Nat.toDigits 10 value)) = value :=
  Text.ofDigits_toDigits value

theorem EndsNumber.fractionDigits_eq {rest : List Char} (ends : EndsNumber rest) :
    fractionDigits rest = ([], rest) := by
  rw [fractionDigits]
  intro others equal
  subst equal
  exact (ends '.' rfl).2.1 rfl

theorem EndsNumber.exponent?_eq {rest : List Char} (ends : EndsNumber rest) :
    exponent? rest = (none, rest) := by
  cases rest with
  | nil => rfl
  | cons character others =>
      have mark := (ends character rfl).2.2
      exact if_neg (not_or.mpr mark)

/-- An integer that can be written is read back from its digits. -/
theorem readNumber_writeInt {value : Int} (writable : Text.isWritable value = true)
    {rest : List Char} (ends : EndsNumber rest) :
    readNumber Text.digitLimit (Text.writeInt value ++ rest) = .ok (.int value, rest) := by
  have short : ¬Text.digitLimit < (Nat.toDigits 10 value.natAbs).length :=
    Nat.not_lt.mpr ((Text.length_toDigits_le_iff (by decide)).mpr (Text.isWritable_iff.mp writable))
  have whole := wholeDigits?_toDigits value.natAbs ends
  rw [Text.writeInt]
  by_cases negative : value < 0
  · have magnitude : -(value.natAbs : Int) = value := by
      rw [Int.ofNat_natAbs_of_nonpos (Int.le_of_lt negative), Int.neg_neg]
    have read : readNumber Text.digitLimit ('-' :: (Nat.toDigits 10 value.natAbs ++ rest)) =
        .ok (.int (-(value.natAbs : Int)), rest) := by
      simp [readNumber, whole, ends.fractionDigits_eq, ends.exponent?_eq, ofDigits_digitValues,
        short]
    rw [magnitude] at read
    rw [if_pos negative, List.cons_append, read]
  · have magnitude : (value.natAbs : Int) = value := Int.natAbs_of_nonneg (Int.not_lt.mp negative)
    have unsigned (others : List Char) :
        Nat.toDigits 10 value.natAbs ++ rest ≠ '-' :: others := by
      rcases toDigits_eq_cons value.natAbs with ⟨first, later, written, digit, -⟩
      rw [written, List.cons_append]
      intro equal
      rw [(List.cons.inj equal).1] at digit
      cases digit
    have read : readNumber Text.digitLimit (Nat.toDigits 10 value.natAbs ++ rest) =
        .ok (.int value.natAbs, rest) := by
      rw [readNumber]
      · simp [whole, ends.fractionDigits_eq, ends.exponent?_eq, ofDigits_digitValues, short]
      · exact unsigned
    rw [magnitude] at read
    rw [if_neg negative, read]

end Pinpoint.Json
