import Pinpoint.Text.Utf8

/-!
# The bytes of a text

An ASCII character is written as the byte of its number, and all bytes of any other character are
0x80 or more. Counting such a character in a text is therefore counting its byte in the encoded
text. A byte string that can be read as a text is the encoding of that text and of no other.
-/

namespace Pinpoint.Text

@[simp] theorem encodeUtf8_nil : encodeUtf8 [] = [] := rfl

@[simp] theorem encodeUtf8_cons (character : Char) (text : List Char) :
    encodeUtf8 (character :: text) = String.utf8EncodeChar character ++ encodeUtf8 text :=
  List.flatMap_cons

theorem encodeUtf8_append (first second : List Char) :
    encodeUtf8 (first ++ second) = encodeUtf8 first ++ encodeUtf8 second :=
  List.flatMap_append

/-! ## ASCII characters -/

theorem utf8EncodeChar_of_ascii {character : Char} (ascii : character.toNat < 0x80) :
    String.utf8EncodeChar character = [UInt8.ofNat character.toNat] := by
  have small : character.val.toNat ≤ 0x7F := Nat.le_of_lt_succ ascii
  simp only [String.utf8EncodeChar, if_pos small]
  rfl

theorem le_of_mem_utf8EncodeChar {character : Char} (wide : 0x80 ≤ character.toNat) {byte : UInt8}
    (member : byte ∈ String.utf8EncodeChar character) : 0x80 ≤ byte.toNat := by
  have large : ¬character.val.toNat ≤ 0x7F := Nat.not_le.mpr wide
  simp only [String.utf8EncodeChar, if_neg large] at member
  split at member
  next =>
    simp only [List.mem_cons, List.not_mem_nil, or_false] at member
    rcases member with rfl | rfl <;> simp only [UInt8.toNat_ofNat'] <;> omega
  next =>
    split at member
    next =>
      simp only [List.mem_cons, List.not_mem_nil, or_false] at member
      rcases member with rfl | rfl | rfl <;> simp only [UInt8.toNat_ofNat'] <;> omega
    next =>
      simp only [List.mem_cons, List.not_mem_nil, or_false] at member
      rcases member with rfl | rfl | rfl | rfl <;> simp only [UInt8.toNat_ofNat'] <;> omega

/-- Counting an ASCII character is counting its byte. -/
theorem count_encodeUtf8 {character : Char} (ascii : character.toNat < 0x80) (text : List Char) :
    (encodeUtf8 text).count (UInt8.ofNat character.toNat) = text.count character := by
  induction text with
  | nil => rfl
  | cons first rest ih =>
      rw [encodeUtf8_cons, List.count_append, ih, List.count_cons, Nat.add_comm]
      congr 1
      by_cases narrow : first.toNat < 0x80
      · have same : UInt8.ofNat first.toNat = UInt8.ofNat character.toNat ↔ first = character := by
          constructor
          · intro equal
            have numbers := congrArg UInt8.toNat equal
            simp only [UInt8.toNat_ofNat'] at numbers
            apply Char.toNat_inj.mp
            omega
          · intro equal
            rw [equal]
        simp [utf8EncodeChar_of_ascii narrow, List.count_cons, same]
      · have absent : UInt8.ofNat character.toNat ∉ String.utf8EncodeChar first := by
          intro member
          have large := le_of_mem_utf8EncodeChar (Nat.le_of_not_lt narrow) member
          simp only [UInt8.toNat_ofNat'] at large
          omega
        have different : first ≠ character := by
          intro equal
          exact narrow (equal ▸ ascii)
        simp [List.count_eq_zero_of_not_mem absent, different]

/-- An ASCII character occurs in a text when its byte occurs in the encoded text. -/
theorem mem_encodeUtf8 {character : Char} (ascii : character.toNat < 0x80) {text : List Char} :
    UInt8.ofNat character.toNat ∈ encodeUtf8 text ↔ character ∈ text := by
  rw [← List.count_pos_iff, count_encodeUtf8 ascii, List.count_pos_iff]

/-! ## Reading what was written -/

/-- What the first byte of a character promises, by the number of bytes that follow. -/
theorem lead?_eq_some {byte : UInt8} {lead : Lead} (promised : lead? byte = some lead) :
    (lead.following = 0 ∧ lead.bits = byte.toNat ∧ byte.toNat < 0x80) ∨
    (lead.following = 1 ∧ lead.bits = byte.toNat - 0xC0 ∧ 0xC2 ≤ byte.toNat ∧
      byte.toNat < 0xE0 ∧ 0x80 ≤ lead.low.toNat ∧ lead.high.toNat ≤ 0xBF) ∨
    (lead.following = 2 ∧ lead.bits = byte.toNat - 0xE0 ∧ 0xE0 ≤ byte.toNat ∧
      byte.toNat < 0xF0 ∧ 0x80 ≤ lead.low.toNat ∧ lead.high.toNat ≤ 0xBF ∧
      (byte.toNat = 0xE0 → 0xA0 ≤ lead.low.toNat) ∧
      (byte.toNat = 0xED → lead.high.toNat ≤ 0x9F)) ∨
    (lead.following = 3 ∧ lead.bits = byte.toNat - 0xF0 ∧ 0xF0 ≤ byte.toNat ∧
      byte.toNat < 0xF5 ∧ 0x80 ≤ lead.low.toNat ∧ lead.high.toNat ≤ 0xBF ∧
      (byte.toNat = 0xF0 → 0x90 ≤ lead.low.toNat) ∧
      (byte.toNat = 0xF4 → lead.high.toNat ≤ 0x8F)) := by
  simp only [lead?] at promised
  repeat' split at promised
  all_goals simp only [Option.some.injEq, reduceCtorEq] at promised
  all_goals subst promised
  all_goals simp
  all_goals omega

theorem continuation_succ_eq_ok {low high : UInt8} {missing bits code : Nat}
    {bytes rest : List UInt8}
    (read : continuation low high (missing + 1) bits bytes = .ok (code, rest)) :
    ∃ byte following, bytes = byte :: following ∧ low.toNat ≤ byte.toNat ∧
      byte.toNat ≤ high.toNat ∧
      continuation 0x80 0xBF missing (bits * 64 + (byte.toNat - 0x80)) following =
        .ok (code, rest) := by
  cases bytes with
  | nil => cases read
  | cons byte following =>
      rw [continuation] at read
      split at read
      next bounds =>
        refine ⟨byte, following, rfl, UInt8.le_iff_toNat_le.mp bounds.1,
          UInt8.le_iff_toNat_le.mp bounds.2, ?_⟩
        split at read
        next result found =>
          cases read
          exact found
        next => cases read
      next => cases read

theorem continuation_zero_eq_ok {low high : UInt8} {bits code : Nat} {bytes rest : List UInt8}
    (read : continuation low high 0 bits bytes = .ok (code, rest)) :
    code = bits ∧ rest = bytes := by
  rw [continuation] at read
  cases read
  exact ⟨rfl, rfl⟩

theorem toNat_val_ofNat {code : Nat} (valid : code.isValidChar) :
    (Char.ofNat code).val.toNat = code := by
  have chosen : Char.ofNat code = Char.ofNatAux code valid := dif_pos valid
  rw [chosen]
  rfl

theorem ofNat_eq_of_mod {number : Nat} {byte : UInt8} (same : number % 256 = byte.toNat) :
    UInt8.ofNat number = byte := by
  apply UInt8.toNat_inj.mp
  rw [UInt8.toNat_ofNat']
  exact same

/-- Whether a byte continues a character. -/
def Continues (byte : UInt8) : Prop :=
  0x80 ≤ byte.toNat ∧ byte.toNat ≤ 0xBF

section

variable {first second third fourth : UInt8} {code : Nat}

theorem utf8EncodeChar_one (codeEq : code = first.toNat) (small : first.toNat < 0x80) :
    String.utf8EncodeChar (Char.ofNat code) = [first] := by
  have valid : code.isValidChar := .inl (by omega)
  have size : code ≤ 0x7F := by omega
  simp only [String.utf8EncodeChar, toNat_val_ofNat valid, if_pos size, List.cons.injEq, and_true]
  exact ofNat_eq_of_mod (by omega)

theorem utf8EncodeChar_two (codeEq : code = (first.toNat - 0xC0) * 64 + (second.toNat - 0x80))
    (lower : 0xC2 ≤ first.toNat) (upper : first.toNat < 0xE0) (continues : Continues second) :
    String.utf8EncodeChar (Char.ofNat code) = [first, second] := by
  rcases continues with ⟨low, high⟩
  have valid : code.isValidChar := .inl (by omega)
  have moreThanOne : ¬code ≤ 0x7F := by omega
  have size : code ≤ 0x7FF := by omega
  simp only [String.utf8EncodeChar, toNat_val_ofNat valid, if_neg moreThanOne, if_pos size,
    List.cons.injEq, and_true]
  exact ⟨ofNat_eq_of_mod (by omega), ofNat_eq_of_mod (by omega)⟩

theorem utf8EncodeChar_three
    (codeEq : code =
      ((first.toNat - 0xE0) * 64 + (second.toNat - 0x80)) * 64 + (third.toNat - 0x80))
    (lower : 0xE0 ≤ first.toNat) (upper : first.toNat < 0xF0)
    (overlong : first.toNat = 0xE0 → 0xA0 ≤ second.toNat)
    (surrogate : first.toNat = 0xED → second.toNat ≤ 0x9F)
    (secondContinues : Continues second) (thirdContinues : Continues third) :
    String.utf8EncodeChar (Char.ofNat code) = [first, second, third] := by
  rcases secondContinues with ⟨low2, high2⟩
  rcases thirdContinues with ⟨low3, high3⟩
  have valid : code.isValidChar := by
    simp only [Nat.isValidChar]
    omega
  have moreThanOne : ¬code ≤ 0x7F := by omega
  have moreThanTwo : ¬code ≤ 0x7FF := by omega
  have size : code ≤ 0xFFFF := by omega
  simp only [String.utf8EncodeChar, toNat_val_ofNat valid, if_neg moreThanOne,
    if_neg moreThanTwo, if_pos size, List.cons.injEq, and_true]
  exact ⟨ofNat_eq_of_mod (by omega), ofNat_eq_of_mod (by omega), ofNat_eq_of_mod (by omega)⟩

theorem utf8EncodeChar_four
    (codeEq : code = (((first.toNat - 0xF0) * 64 + (second.toNat - 0x80)) * 64 +
      (third.toNat - 0x80)) * 64 + (fourth.toNat - 0x80))
    (lower : 0xF0 ≤ first.toNat) (upper : first.toNat < 0xF5)
    (overlong : first.toNat = 0xF0 → 0x90 ≤ second.toNat)
    (beyond : first.toNat = 0xF4 → second.toNat ≤ 0x8F)
    (secondContinues : Continues second) (thirdContinues : Continues third)
    (fourthContinues : Continues fourth) :
    String.utf8EncodeChar (Char.ofNat code) = [first, second, third, fourth] := by
  rcases secondContinues with ⟨low2, high2⟩
  rcases thirdContinues with ⟨low3, high3⟩
  rcases fourthContinues with ⟨low4, high4⟩
  have valid : code.isValidChar := by
    simp only [Nat.isValidChar]
    omega
  have moreThanOne : ¬code ≤ 0x7F := by omega
  have moreThanTwo : ¬code ≤ 0x7FF := by omega
  have moreThanThree : ¬code ≤ 0xFFFF := by omega
  simp only [String.utf8EncodeChar, toNat_val_ofNat valid, if_neg moreThanOne,
    if_neg moreThanTwo, if_neg moreThanThree, List.cons.injEq, and_true]
  exact ⟨ofNat_eq_of_mod (by omega), ofNat_eq_of_mod (by omega), ofNat_eq_of_mod (by omega),
    ofNat_eq_of_mod (by omega)⟩

end

/-- The bytes of the first character that is read are those that it was read from. The ranges that
the first byte promises are what makes the shortest form of the character have as many bytes. -/
theorem encode_of_continuation {byte : UInt8} {lead : Lead} {code : Nat}
    {following rest : List UInt8} (promised : lead? byte = some lead)
    (read : continuation lead.low lead.high lead.following lead.bits following =
      .ok (code, rest)) :
    String.utf8EncodeChar (Char.ofNat code) ++ rest = byte :: following := by
  rcases lead?_eq_some promised with single | double | triple | quadruple
  · rcases single with ⟨none, bits, small⟩
    rw [none, bits] at read
    rcases continuation_zero_eq_ok read with ⟨codeEq, rfl⟩
    rw [utf8EncodeChar_one codeEq small]
    rfl
  · rcases double with ⟨one, bits, lower, upper, low, high⟩
    rw [one, bits] at read
    rcases continuation_succ_eq_ok read with ⟨second, following, rfl, low2, high2, read⟩
    rcases continuation_zero_eq_ok read with ⟨codeEq, rfl⟩
    rw [utf8EncodeChar_two codeEq lower upper ⟨Nat.le_trans low low2, Nat.le_trans high2 high⟩]
    rfl
  · rcases triple with ⟨two, bits, lower, upper, low, high, overlong, surrogate⟩
    rw [two, bits] at read
    rcases continuation_succ_eq_ok read with ⟨second, following, rfl, low2, high2, read⟩
    rcases continuation_succ_eq_ok read with ⟨third, following, rfl, low3, high3, read⟩
    rcases continuation_zero_eq_ok read with ⟨codeEq, rfl⟩
    rw [utf8EncodeChar_three codeEq lower upper
      (fun first => Nat.le_trans (overlong first) low2)
      (fun first => Nat.le_trans high2 (surrogate first))
      ⟨Nat.le_trans low low2, Nat.le_trans high2 high⟩ ⟨low3, high3⟩]
    rfl
  · rcases quadruple with ⟨three, bits, lower, upper, low, high, overlong, beyond⟩
    rw [three, bits] at read
    rcases continuation_succ_eq_ok read with ⟨second, following, rfl, low2, high2, read⟩
    rcases continuation_succ_eq_ok read with ⟨third, following, rfl, low3, high3, read⟩
    rcases continuation_succ_eq_ok read with ⟨fourth, following, rfl, low4, high4, read⟩
    rcases continuation_zero_eq_ok read with ⟨codeEq, rfl⟩
    rw [utf8EncodeChar_four codeEq lower upper
      (fun first => Nat.le_trans (overlong first) low2)
      (fun first => Nat.le_trans high2 (beyond first))
      ⟨Nat.le_trans low low2, Nat.le_trans high2 high⟩ ⟨low3, high3⟩ ⟨low4, high4⟩]
    rfl

/-- A byte string that can be read as a text is the encoding of this text. -/
theorem encodeUtf8_of_decodeFrom {position : Nat} {bytes : List UInt8} {text : List Char}
    (read : decodeFrom position bytes = .ok text) : encodeUtf8 text = bytes := by
  fun_induction decodeFrom position bytes generalizing text with
  | case1 =>
      cases read
      rfl
  | case2 => cases read
  | case3 => cases read
  | case4 position byte following lead promised code rest first shorter others readRest ih =>
      rw [readRest] at read
      cases read
      rw [encodeUtf8_cons, ih readRest]
      exact encode_of_continuation promised first
  | case5 position byte following lead promised code rest first shorter fault failed ih =>
      rw [failed] at read
      cases read

theorem encodeUtf8_of_decodeUtf8 {bytes : List UInt8} {text : List Char}
    (read : decodeUtf8 bytes = .ok text) : encodeUtf8 text = bytes :=
  encodeUtf8_of_decodeFrom read

end Pinpoint.Text
