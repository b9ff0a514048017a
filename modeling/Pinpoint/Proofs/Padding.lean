import Pinpoint.Proofs.Numerals

/-!
# Blanks around numerals

A numeral may have blanks on both sides, with the exception of the four information separators, and
a text that is stripped loses blanks of every kind. So a numeral that is stripped first may be
readable when it was not before, and only an information separator can have been in the way. In a
text of fields the blanks at the start belong to the first field and those at the end to the last.
-/

namespace Pinpoint.Text

/-- The information separators, which are blanks. -/
def IsSeparator (character : Char) : Prop :=
  0x1C ≤ character.toNat ∧ character.toNat ≤ 0x1F

instance : DecidablePred IsSeparator := fun _ => inferInstanceAs (Decidable (_ ∧ _))

variable {character : Char}

/-- All other blanks may stand beside a numeral. -/
theorem isNumeralPadding_iff (blank : isBlank character = true) :
    isNumeralPadding character = true ↔ ¬IsSeparator character := by
  rw [isNumeralPadding, blank, IsSeparator]
  simp
  omega

/-! ## What numerals are made of -/

theorem of_digitValue?_eq_some {value : Nat} (valued : digitValue? character = some value) :
    ¬IsSeparator character := by
  have least : ∀ first ∈ digitZeros, 0x30 ≤ first := by decide
  rw [digitValue?] at valued
  rcases Option.map_eq_some_iff.mp valued with ⟨first, found, -⟩
  have above := least first (List.mem_of_find?_eq_some found)
  have covered := List.find?_some found
  simp only [Bool.and_eq_true, decide_eq_true_eq] at covered
  rw [IsSeparator]
  omega

theorem exists_digitValue?_of_mapM {text : List Char} {digits : List Nat}
    (valued : text.mapM digitValue? = some digits) :
    ∀ character ∈ text, ∃ value, digitValue? character = some value := by
  induction text generalizing digits with
  | nil => simp
  | cons first rest ih =>
      rw [List.mapM_cons] at valued
      rcases Option.bind_eq_some_iff.mp valued with ⟨value, firstValue, valued⟩
      rcases Option.bind_eq_some_iff.mp valued with ⟨others, restValues, -⟩
      exact List.forall_mem_cons.mpr ⟨⟨value, firstValue⟩, ih restValues⟩

theorem not_isSeparator_of_mem_magnitude {text : List Char} {value : Nat}
    (valued : readMagnitude? text = some value) (member : character ∈ text) :
    ¬IsSeparator character := by
  rw [readMagnitude?] at valued
  rcases Option.bind_eq_some_iff.mp valued with ⟨_, _, valued⟩
  rcases Option.bind_eq_some_iff.mp valued with ⟨digits, mapped, -⟩
  rw [← joinFields_fields '_' text] at member
  rcases mem_joinFields member with rfl | ⟨group, listed, member⟩
  · decide
  · have flat : character ∈ (fields '_' text).flatten :=
      List.mem_flatten.mpr ⟨group, listed, member⟩
    rcases exists_digitValue?_of_mapM mapped character flat with ⟨digit, digitValue⟩
    exact of_digitValue?_eq_some digitValue

theorem of_mem_takeWhile {pad : Char → Bool} {text : List Char}
    (member : character ∈ text.takeWhile pad) : pad character = true :=
  List.all_eq_true.mp List.all_takeWhile character member

/-- Trimming takes padding only. -/
theorem mem_trim {pad : Char → Bool} {text : List Char} (member : character ∈ text)
    (kept : pad character = false) : character ∈ trim pad text := by
  have dropped {others : List Char} (member : character ∈ others) :
      character ∈ others.dropWhile pad := by
    rw [← List.takeWhile_append_dropWhile (p := pad) (l := others), List.mem_append] at member
    rcases member with taken | left
    · have padding := of_mem_takeWhile taken
      rw [kept] at padding
      cases padding
    · exact left
  rw [trim, List.mem_reverse]
  exact dropped (List.mem_reverse.mpr (dropped member))

/-- There is no information separator in a numeral, nor in the padding around it. -/
theorem not_isSeparator_of_mem_numeral {text : List Char} {value : Int}
    (valued : readInt? text = some value) (member : character ∈ text) :
    ¬IsSeparator character := by
  intro separator
  have kept : isNumeralPadding character = false := by
    rw [IsSeparator] at separator
    simp [isNumeralPadding, separator]
  have core := mem_trim member kept
  have magnitude {sign : Char} (other : ¬IsSeparator sign) {digits : List Char}
      (member : character ∈ sign :: digits) : character ∈ digits := by
    rcases List.mem_cons.mp member with rfl | later
    · exact absurd separator other
    · exact later
  rw [readInt?] at valued
  split at valued
  next digits equal =>
    rw [equal] at core
    rcases Option.map_eq_some_iff.mp valued with ⟨_, read, -⟩
    exact not_isSeparator_of_mem_magnitude read (magnitude (by decide) core) separator
  next digits equal =>
    rw [equal] at core
    rcases Option.map_eq_some_iff.mp valued with ⟨_, read, -⟩
    exact not_isSeparator_of_mem_magnitude read (magnitude (by decide) core) separator
  next =>
    rcases Option.map_eq_some_iff.mp valued with ⟨_, read, -⟩
    exact not_isSeparator_of_mem_magnitude read core separator

/-! ## Blanks around a numeral -/

section

variable {pad : Char → Bool} {before after text : List Char}

theorem trim_append_left (padding : ∀ character ∈ before, pad character = true) :
    trim pad (before ++ text) = trim pad text := by
  rw [trim, List.dropWhile_append_of_pos padding, trim]

theorem trim_append_right (padding : ∀ character ∈ after, pad character = true) :
    trim pad (text ++ after) = trim pad text := by
  have nothing : after.dropWhile pad = [] := by
    rw [← List.append_nil after, List.dropWhile_append_of_pos padding]
    rfl
  rw [trim, List.dropWhile_append, trim]
  split
  next empty => rw [nothing, List.isEmpty_iff.mp empty]
  next =>
    rw [List.reverse_append, List.dropWhile_append_of_pos]
    simpa using padding

/-- What trimming drops at the end of a text. -/
def trailing (pad : Char → Bool) (text : List Char) : List Char :=
  ((text.dropWhile pad).reverse.takeWhile pad).reverse

/-- A text is what is left of it by trimming, between what is dropped at its two ends. -/
theorem trim_parts (pad : Char → Bool) (text : List Char) :
    text.takeWhile pad ++ trim pad text ++ trailing pad text = text := by
  rw [List.append_assoc, trim, trailing, ← List.reverse_append,
    List.takeWhile_append_dropWhile, List.reverse_reverse, List.takeWhile_append_dropWhile]

theorem of_mem_trailing (member : character ∈ trailing pad text) : pad character = true := by
  rw [trailing, List.mem_reverse] at member
  exact of_mem_takeWhile member

/-- A numeral with blanks around it is readable exactly if it is without them and there is no
information separator among the blanks. -/
theorem readInt?_of_trim {whole blanks : List Char} {value : Int}
    (blank : ∀ character ∈ blanks, isBlank character = true)
    (inside : ∀ character ∈ blanks, character ∈ whole)
    (same : (∀ character ∈ blanks, isNumeralPadding character = true) →
      trim isNumeralPadding whole = trim isNumeralPadding text) :
    readInt? whole = some value ↔
      readInt? text = some value ∧ ∀ character ∈ blanks, ¬IsSeparator character := by
  have read (plain : ∀ character ∈ blanks, ¬IsSeparator character) :
      readInt? whole = readInt? text := by
    rw [readInt?, readInt?, same]
    intro character member
    exact (isNumeralPadding_iff (blank character member)).mpr (plain character member)
  constructor
  · intro valued
    have plain (character : Char) (member : character ∈ blanks) : ¬IsSeparator character :=
      not_isSeparator_of_mem_numeral valued (inside character member)
    exact ⟨(read plain).symm.trans valued, plain⟩
  · rintro ⟨valued, plain⟩
    rw [read plain, valued]

theorem readInt?_append_left {value : Int}
    (blank : ∀ character ∈ before, isBlank character = true) :
    readInt? (before ++ text) = some value ↔
      readInt? text = some value ∧ ∀ character ∈ before, ¬IsSeparator character :=
  readInt?_of_trim blank (fun _ => List.mem_append_left text) trim_append_left

theorem readInt?_append_right {value : Int}
    (blank : ∀ character ∈ after, isBlank character = true) :
    readInt? (text ++ after) = some value ↔
      readInt? text = some value ∧ ∀ character ∈ after, ¬IsSeparator character :=
  readInt?_of_trim blank (fun _ => List.mem_append_right text) trim_append_right

/-! ## Blanks around fields -/

variable {separator : Char}

/-- What stands before a text without a separator in it goes to the first field. -/
theorem fields_append_left {first : List Char} {others : List (List Char)}
    (absent : separator ∉ before) (cut : fields separator text = first :: others) :
    fields separator (before ++ text) = (before ++ first) :: others := by
  induction before with
  | nil => exact cut
  | cons character before ih =>
      rw [List.mem_cons, not_or] at absent
      rw [List.cons_append, fields, if_neg (Ne.symm absent.1), ih absent.2]
      rfl

/-- What stands after a text without a separator in it goes to the last field. -/
theorem fields_append_right {front : List (List Char)} {last : List Char}
    (absent : separator ∉ after) (cut : fields separator text = front ++ [last]) :
    fields separator (text ++ after) = front ++ [last ++ after] := by
  induction text generalizing front last with
  | nil =>
      rcases List.append_eq_singleton_iff.mp cut.symm with ⟨rfl, same⟩ | ⟨_, impossible⟩
      · rw [List.singleton_inj.mp same]
        exact fields_of_not_mem absent
      · cases impossible
  | cons character rest ih =>
      rw [List.cons_append, fields]
      rw [fields] at cut
      by_cases same : character = separator
      · rw [if_pos same] at cut ⊢
        cases front with
        | nil => exact absurd (List.cons.inj cut).2 (fields_ne_nil _ _)
        | cons first front =>
            rcases List.cons.inj cut with ⟨rfl, later⟩
            rw [ih later]
            rfl
      · rw [if_neg same] at cut ⊢
        cases found : fields separator rest with
        | nil => exact absurd found (fields_ne_nil _ _)
        | cons first others =>
            rw [found] at cut
            cases front with
            | nil =>
                rcases List.cons.inj cut with ⟨rfl, rfl⟩
                rw [@ih [] first found]
                rfl
            | cons top front =>
                rcases List.cons.inj cut with ⟨rfl, rfl⟩
                rw [@ih (first :: front) last found]
                rfl

/-- A text of fields between two texts without a separator has as many fields as it has alone. The
first text goes to its first field, and the second one to its last. -/
theorem fields_between {first : List Char} {inner : List (List Char)} {last : List Char}
    (beforeAbsent : separator ∉ before) (afterAbsent : separator ∉ after)
    (cut : fields separator text = first :: (inner ++ [last])) :
    fields separator (before ++ text ++ after) =
      (before ++ first) :: (inner ++ [last ++ after]) := by
  rw [List.append_assoc]
  refine fields_append_left beforeAbsent ?_
  exact @fields_append_right _ _ _ (first :: inner) _ afterAbsent cut

end

end Pinpoint.Text
