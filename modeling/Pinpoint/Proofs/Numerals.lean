import Pinpoint.Proofs.Results
import Pinpoint.Report.Numbers

/-!
# Written numerals

An integer that has few enough digits to be written is read back from what is written, and no
numeral has a value with more digits than that. What is written has no blank in it and none of the
characters that separate fields, so a text of joined numerals falls into the same fields again.
-/

namespace Pinpoint.Text

/-! ## Digits -/

theorem toNat_of_isDigit {character : Char} (digit : character.isDigit = true) :
    48 ≤ character.toNat ∧ character.toNat ≤ 57 := by
  rw [Char.isDigit, Bool.and_eq_true, decide_eq_true_eq, decide_eq_true_eq] at digit
  exact digit

theorem isBlank_of_isDigit {character : Char} (digit : character.isDigit = true) :
    isBlank character = false := by
  have bounds := toNat_of_isDigit digit
  simp [isBlank, covers, blankRanges]
  omega

theorem digitValue?_of_isDigit {character : Char} (digit : character.isDigit = true) :
    digitValue? character = some (character.toNat - 48) := by
  have bounds := toNat_of_isDigit digit
  rw [digitValue?, digitZeros, List.find?_cons_of_pos]
  · rfl
  · simp
    omega

theorem digitValue?_lt {character : Char} {value : Nat}
    (valued : digitValue? character = some value) : value < 10 := by
  rw [digitValue?] at valued
  rcases Option.map_eq_some_iff.mp valued with ⟨first, found, rfl⟩
  have covered := List.find?_some found
  simp at covered
  omega

theorem mapM_digitValue? {digits : List Char} (decimal : ∀ digit ∈ digits, digit.isDigit = true) :
    digits.mapM digitValue? = some (digits.map fun digit => digit.toNat - 48) := by
  induction digits with
  | nil => simp
  | cons digit rest ih =>
      rw [List.forall_mem_cons] at decimal
      simp [digitValue?_of_isDigit decimal.1, ih decimal.2]

theorem lt_of_mem_mapM_digitValue? {text : List Char} {digits : List Nat}
    (valued : text.mapM digitValue? = some digits) : ∀ digit ∈ digits, digit < 10 := by
  induction text generalizing digits with
  | nil =>
      rw [List.mapM_nil] at valued
      cases valued
      simp
  | cons character rest ih =>
      rw [List.mapM_cons] at valued
      rcases Option.bind_eq_some_iff.mp valued with ⟨value, first, valued⟩
      rcases Option.bind_eq_some_iff.mp valued with ⟨others, rest, valued⟩
      cases valued
      exact List.forall_mem_cons.mpr ⟨digitValue?_lt first, ih rest⟩

theorem foldl_digits_lt {digits : List Nat} (decimal : ∀ digit ∈ digits, digit < 10)
    (value : Nat) :
    digits.foldl (fun value digit => 10 * value + digit) value <
      (value + 1) * Nat.pow 10 digits.length := by
  induction digits generalizing value with
  | nil => simp
  | cons digit rest ih =>
      rw [List.forall_mem_cons] at decimal
      have shifted := ih decimal.2 (10 * value + digit)
      have room : 10 * value + digit + 1 ≤ (value + 1) * 10 := by omega
      rw [List.foldl_cons, List.length_cons, Nat.pow_eq, Nat.pow_succ', ← Nat.mul_assoc]
      exact Nat.lt_of_lt_of_le shifted (Nat.mul_le_mul_right _ room)

/-- Digits write a number with no more digits than they are. -/
theorem ofDigits_lt {digits : List Nat} (decimal : ∀ digit ∈ digits, digit < 10) :
    ofDigits digits < Nat.pow 10 digits.length := by
  simpa [ofDigits] using foldl_digits_lt decimal 0

/-! ## Fields -/

theorem fields_of_not_mem {separator : Char} {text : List Char} (whole : separator ∉ text) :
    fields separator text = [text] := by
  induction text with
  | nil => rfl
  | cons character rest ih =>
      rw [List.mem_cons, not_or] at whole
      rw [fields, if_neg (Ne.symm whole.1), ih whole.2]

theorem not_mem_of_mem_fields {separator : Char} {text part : List Char}
    (listed : part ∈ fields separator text) : separator ∉ part := by
  induction text generalizing part with
  | nil =>
      cases List.mem_singleton.mp listed
      exact List.not_mem_nil
  | cons character rest ih =>
      unfold fields at listed
      split at listed
      · rcases List.mem_cons.mp listed with rfl | listed
        · exact List.not_mem_nil
        · exact ih listed
      · next different =>
          split at listed
          · next none => exact absurd none (fields_ne_nil _ _)
          · next first others cut =>
              rcases List.mem_cons.mp listed with rfl | later
              · have firstFree := ih (cut ▸ List.mem_cons_self)
                rw [List.mem_cons, not_or]
                exact ⟨Ne.symm different, firstFree⟩
              · exact ih (cut ▸ List.mem_cons_of_mem _ later)

theorem fields_append_cons {separator : Char} {first : List Char} (whole : separator ∉ first)
    (rest : List Char) :
    fields separator (first ++ separator :: rest) = first :: fields separator rest := by
  induction first with
  | nil => simp [fields]
  | cons character others ih =>
      rw [List.mem_cons, not_or] at whole
      rw [List.cons_append, fields, if_neg (Ne.symm whole.1), ih whole.2]

/-- Joined texts are cut where they were joined. -/
theorem fields_joinFields {separator : Char} {texts : List (List Char)} (some : texts ≠ [])
    (whole : ∀ text ∈ texts, separator ∉ text) :
    fields separator (joinFields separator texts) = texts := by
  induction texts with
  | nil => exact absurd rfl some
  | cons first others ih =>
      rw [List.forall_mem_cons] at whole
      cases others with
      | nil => exact fields_of_not_mem whole.1
      | cons =>
          rw [joinFields_cons _ _ (List.cons_ne_nil _ _), fields_append_cons whole.1,
            ih (List.cons_ne_nil _ _) whole.2]

theorem mem_joinFields {separator character : Char} {texts : List (List Char)}
    (member : character ∈ joinFields separator texts) :
    character = separator ∨ ∃ text ∈ texts, character ∈ text := by
  induction texts with
  | nil => cases member
  | cons first others ih =>
      cases others with
      | nil => exact .inr ⟨first, List.mem_cons_self, member⟩
      | cons =>
          rw [joinFields_cons _ _ (List.cons_ne_nil _ _), List.mem_append, List.mem_cons] at member
          rcases member with inFirst | same | inOthers
          · exact .inr ⟨first, List.mem_cons_self, inFirst⟩
          · exact .inl same
          · rcases ih inOthers with same | ⟨text, listed, inText⟩
            · exact .inl same
            · exact .inr ⟨text, List.mem_cons_of_mem _ listed, inText⟩

theorem dropWhile_of_head? {pad : Char → Bool} {text : List Char}
    (kept : ∀ character ∈ text.head?, pad character = false) : text.dropWhile pad = text := by
  cases text with
  | nil => rfl
  | cons character rest => rw [List.dropWhile_cons_of_neg (by simp [kept character rfl])]

/-- A text whose ends are no padding is what is left when the padding around it is dropped. -/
theorem trim_append {pad : Char → Bool} {before middle after : List Char}
    (beforePad : ∀ character ∈ before, pad character = true)
    (first : ∀ character ∈ middle.head?, pad character = false)
    (last : ∀ character ∈ middle.getLast?, pad character = false)
    (afterPad : ∀ character ∈ after, pad character = true) :
    trim pad (before ++ middle ++ after) = middle := by
  have dropped : (before ++ middle ++ after).dropWhile pad = middle ++ after ∨ middle = [] := by
    cases middle with
    | nil => exact .inr rfl
    | cons character rest =>
        rw [List.append_assoc, List.dropWhile_append_of_pos beforePad]
        exact .inl (dropWhile_of_head? first)
  rcases dropped with dropped | rfl
  · rw [trim, dropped, List.reverse_append,
      List.dropWhile_append_of_pos (by simpa using afterPad),
      dropWhile_of_head? (by simpa using last), List.reverse_reverse]
  · have nothing : (before ++ [] ++ after).dropWhile pad = [] := by
      rw [List.append_nil, List.dropWhile_append_of_pos beforePad, ← List.append_nil after,
        List.dropWhile_append_of_pos afterPad]
      rfl
    rw [trim, nothing]
    rfl

/-- Nothing is trimmed off a text without padding. -/
theorem trim_of_unpadded {pad : Char → Bool} {text : List Char}
    (unpadded : ∀ character ∈ text, pad character = false) : trim pad text = text := by
  have trimmed := @trim_append pad [] text [] (by simp)
    (fun character member => unpadded character (List.mem_of_mem_head? member))
    (fun character member => unpadded character (List.mem_of_mem_getLast? member)) (by simp)
  simpa using trimmed

/-! ## Numerals -/

theorem isWritable_iff {value : Int} :
    isWritable value = true ↔ value.natAbs < Nat.pow 10 digitLimit := by
  rw [isWritable, decide_eq_true_iff]

theorem isWritable_of_lt_ten {value : Int} (small : value.natAbs < 10) :
    isWritable value = true := by
  have grows {limit : Nat} (positive : 0 < limit) : 10 ≤ Nat.pow 10 limit :=
    Nat.le_self_pow (Nat.ne_of_gt positive) 10
  exact isWritable_iff.mpr (Nat.lt_of_lt_of_le small (grows (by decide)))

theorem guard_eq_some_iff {condition : Prop} [Decidable condition] :
    (guard condition : Option Unit) = some () ↔ condition := by
  change (if condition then some () else none) = some () ↔ condition
  simp

theorem readMagnitude?_lt {text : List Char} {value : Nat}
    (valued : readMagnitude? text = some value) : value < Nat.pow 10 digitLimit := by
  rw [readMagnitude?] at valued
  rcases Option.bind_eq_some_iff.mp valued with ⟨_, _, valued⟩
  rcases Option.bind_eq_some_iff.mp valued with ⟨digits, mapped, valued⟩
  rcases Option.bind_eq_some_iff.mp valued with ⟨_, short, valued⟩
  cases valued
  have bound := ofDigits_lt (lt_of_mem_mapM_digitValue? mapped)
  have fits : digits.length ≤ digitLimit := guard_eq_some_iff.mp short
  rw [Nat.pow_eq] at bound ⊢
  exact Nat.lt_of_lt_of_le bound (Nat.pow_le_pow_right (by decide) fits)

/-- The value of a numeral has few enough digits to be written. -/
theorem isWritable_of_readInt? {text : List Char} {value : Int}
    (valued : readInt? text = some value) : isWritable value = true := by
  rw [isWritable_iff]
  rw [readInt?] at valued
  split at valued <;>
  · rcases Option.map_eq_some_iff.mp valued with ⟨magnitude, read, rfl⟩
    simpa using readMagnitude?_lt read

theorem length_toDigits_le_iff {value limit : Nat} (positive : 0 < limit) :
    (Nat.toDigits 10 value).length ≤ limit ↔ value < Nat.pow 10 limit :=
  Nat.length_toDigits_le_iff (by decide) positive

/-- A number is written with no more digits than a greater one. -/
theorem isWritable_of_natAbs_le {value other : Int} (small : value.natAbs ≤ other.natAbs)
    (writable : isWritable other = true) : isWritable value = true :=
  isWritable_iff.mpr (Nat.lt_of_le_of_lt small (isWritable_iff.mp writable))

theorem isWritable_iff_length {value : Int} :
    isWritable value = true ↔ (Nat.toDigits 10 value.natAbs).length ≤ 4300 := by
  rw [isWritable_iff]
  exact (length_toDigits_le_iff (by decide)).symm

theorem ofDigits_toDigits (value : Nat) :
    ofDigits ((Nat.toDigits 10 value).map fun digit => digit.toNat - 48) = value := by
  rw [ofDigits, List.foldl_map]
  exact Nat.ofDigitChars_ten_toDigits

theorem readMagnitude?_toDigits {value : Nat} (short : value < Nat.pow 10 digitLimit) :
    readMagnitude? (Nat.toDigits 10 value) = some value := by
  have decimal (digit : Char) (member : digit ∈ Nat.toDigits 10 value) : digit.isDigit = true :=
    Nat.isDigit_of_mem_toDigits (by decide) (by decide) member
  have fits := (@length_toDigits_le_iff value digitLimit (by decide)).mpr short
  rw [readMagnitude?, fields_of_not_mem Nat.underscore_not_in_toDigits]
  refine Option.bind_eq_some_iff.mpr ⟨(), guard_eq_some_iff.mpr ?_, ?_⟩
  · simp [Nat.toDigits_ne_nil]
  · rw [List.flatten_singleton, mapM_digitValue? decimal]
    refine Option.bind_eq_some_iff.mpr ⟨_, rfl, ?_⟩
    refine Option.bind_eq_some_iff.mpr
      ⟨(), guard_eq_some_iff.mpr ?_, congrArg some (ofDigits_toDigits value)⟩
    simpa using fits

/-- What an integer is written with: digits, and a minus sign. -/
theorem of_mem_writeInt {value : Int} {character : Char} (member : character ∈ writeInt value) :
    character = '-' ∨ character.isDigit = true := by
  have digits (member : character ∈ Nat.toDigits 10 value.natAbs) : character.isDigit = true :=
    Nat.isDigit_of_mem_toDigits (by decide) (by decide) member
  rw [writeInt] at member
  split at member
  next => exact (List.mem_cons.mp member).imp_right digits
  next => exact .inr (digits member)

theorem isBlank_of_mem_writeInt {value : Int} {character : Char}
    (member : character ∈ writeInt value) : isBlank character = false := by
  rcases of_mem_writeInt member with rfl | digit
  · decide
  · exact isBlank_of_isDigit digit

theorem not_mem_writeInt {value : Int} {character : Char} (notSign : character ≠ '-')
    (notDigit : character.isDigit = false) : character ∉ writeInt value := by
  intro member
  rcases of_mem_writeInt member with sign | digit
  · exact notSign sign
  · rw [digit] at notDigit
    cases notDigit

theorem colon_not_mem_writeInt {value : Int} : ':' ∉ writeInt value :=
  not_mem_writeInt (by decide) (by decide)

theorem writeInt_ne_nil {value : Int} : writeInt value ≠ [] := by
  rw [writeInt]
  split
  next => exact List.cons_ne_nil _ _
  next => exact Nat.toDigits_ne_nil

/-- A digit is neither of the two signs, so digits alone are read as a magnitude. -/
theorem toDigits_ne_cons {value : Nat} {sign : Char} (other : sign.isDigit = false)
    (magnitude : List Char) : Nat.toDigits 10 value ≠ sign :: magnitude := by
  intro equal
  have member : sign ∈ Nat.toDigits 10 value := by simp [equal]
  rw [Nat.isDigit_of_mem_toDigits (by decide) (by decide) member] at other
  cases other

/-- An integer that can be written is read back. -/
theorem readInt?_writeInt {value : Int} (writable : isWritable value = true) :
    readInt? (writeInt value) = some value := by
  have read := readMagnitude?_toDigits (isWritable_iff.mp writable)
  have unpadded : trim isNumeralPadding (writeInt value) = writeInt value := by
    apply trim_of_unpadded
    intro character member
    rw [isNumeralPadding, isBlank_of_mem_writeInt member, Bool.false_and]
  rw [readInt?, unpadded, writeInt]
  by_cases negative : value < 0
  · rw [if_pos negative]
    simp only [read, Option.map_some, Int.ofNat_eq_natCast, Option.some.injEq]
    omega
  · rw [if_neg negative]
    split
    next magnitude equal => exact absurd equal (toDigits_ne_cons (by decide) magnitude)
    next magnitude equal => exact absurd equal (toDigits_ne_cons (by decide) magnitude)
    next =>
      simp only [read, Option.map_some, Int.ofNat_eq_natCast, Option.some.injEq]
      omega

end Pinpoint.Text

namespace Pinpoint.Report

/-- Numbers are accepted when each of them can be written. -/
theorem checkNumbers_eq_ok_iff {numbers : List Int} :
    checkNumbers numbers = .ok () ↔ ∀ number ∈ numbers, Text.isWritable number = true := by
  rw [checkNumbers]
  cases found : numbers.find? fun value => !Text.isWritable value with
  | none =>
      have each := List.find?_eq_none.mp found
      simpa using each
  | some value =>
      have refused := List.find?_some found
      have member := List.mem_of_find?_eq_some found
      constructor
      · intro accepted
        cases accepted
      · intro each
        rw [each value member] at refused
        cases refused

/-- What shows some numbers is written exactly when each of them can be. -/
theorem checkNumbers_bind_eq_ok_iff {numbers : List Int} {written text : List Char} :
    (checkNumbers numbers >>= fun _ => pure written) = .ok text ↔
      (∀ number ∈ numbers, Text.isWritable number = true) ∧ text = written := by
  rw [bind_eq_ok, ← checkNumbers_eq_ok_iff]
  constructor
  · rintro ⟨_, accepted, equal⟩
    cases equal
    exact ⟨accepted, rfl⟩
  · rintro ⟨accepted, rfl⟩
    exact ⟨(), accepted, rfl⟩

end Pinpoint.Report
