import Pinpoint.Proofs.JsonText

/-!
# JSON values read back

A value that is written with one item or member a line is read back as it was, as long as its
integers have few enough digits, the members of its objects have different names, and it is not
nested too deep. The reader uses exactly the text of the value, whatever follows it; for each
character it has fuel for two calls, and every item or member takes one of them besides its own.
-/

namespace Pinpoint.Json

/-- Whether a value can be read back from its text, by a reader that is left with a number of
levels. Numbers with a fraction are not considered. -/
inductive Legible : Nat → Json → Prop where
  | null {levels : Nat} : Legible levels .null
  | bool {levels : Nat} (value : Bool) : Legible levels (.bool value)
  | int {levels : Nat} {value : Int} : Text.isWritable value = true →
      Legible levels (.number (.integer value))
  | text {levels : Nat} (value : String) : Legible levels (.text value)
  | list {levels : Nat} {items : List Json} : (∀ item ∈ items, Legible levels item) →
      Legible (levels + 1) (.list items)
  | object {levels : Nat} {members : List (String × Json)} : (members.map Prod.fst).Nodup →
      (∀ member ∈ members, Legible levels member.2) → Legible (levels + 1) (.object members)

/-! ## Gaps -/

theorem skipGap_cons {first : Char} (solid : isGap first = false) (others : List Char) :
    skipGap (first :: others) = first :: others := by
  rw [skipGap, List.dropWhile_cons_of_neg (by simp [solid])]

theorem skipGap_newline (level : Nat) (rest : List Char) :
    skipGap (newline level ++ rest) = skipGap rest := by
  apply List.dropWhile_append_of_pos
  intro character member
  rcases List.mem_cons.mp member with rfl | blank
  · rfl
  · rw [List.eq_of_mem_replicate blank]
    rfl

theorem endsNumber_newline (level : Nat) (rest : List Char) :
    EndsNumber (newline level ++ rest) := by
  intro character first
  cases first
  decide

theorem endsNumber_comma (rest : List Char) : EndsNumber (',' :: rest) := by
  intro character first
  cases first
  decide

/-! ## Where values start -/

theorem writeInt_eq_cons (value : Int) :
    ∃ first others, Text.writeInt value = first :: others ∧
      (first.isDigit = true ∨
        first = '-' ∧ ∃ second rest, others = second :: rest ∧ second.isDigit = true) := by
  rcases toDigits_eq_cons value.natAbs with ⟨first, others, written, digit, -⟩
  rw [Text.writeInt, written]
  split
  · exact ⟨'-', _, rfl, .inr ⟨rfl, first, others, rfl, digit⟩⟩
  · exact ⟨first, others, rfl, .inl digit⟩

/-- The first character of a value is no gap, and neither closes a list nor marks the order of
bytes. -/
structure Opens (first : Char) : Prop where
  solid : isGap first = false
  ne_bracket : first ≠ ']'
  ne_mark : first ≠ '\uFEFF'

theorem opens_of_isDigit {first : Char} (digit : first.isDigit = true) : Opens first := by
  have bounds := Text.toNat_of_isDigit digit
  have different {other : Char} (outside : other.isDigit = false) : first ≠ other := by
    rintro rfl
    rw [outside] at digit
    cases digit
  refine ⟨?_, different (by decide), different (by decide)⟩
  simp [isGap, different (by decide : ' '.isDigit = false),
    different (by decide : '\t'.isDigit = false), different (by decide : '\n'.isDigit = false),
    different (by decide : '\r'.isDigit = false)]

theorem Legible.opens {levels : Nat} {value : Json} (legible : Legible levels value)
    (level : Nat) : ∃ first others, indented level value = first :: others ∧ Opens first := by
  cases legible with
  | null => exact ⟨_, _, rfl, by constructor <;> decide⟩
  | bool value =>
      cases value <;> exact ⟨_, _, rfl, by constructor <;> decide⟩
  | int =>
      rcases writeInt_eq_cons _ with ⟨first, others, written, digit | ⟨rfl, -⟩⟩
      · exact ⟨first, others, written, opens_of_isDigit digit⟩
      · exact ⟨'-', others, written, by constructor <;> decide⟩
  | text => exact ⟨_, _, rfl, by constructor <;> decide⟩
  | @list _ items =>
      cases items <;> exact ⟨_, _, rfl, by constructor <;> decide⟩
  | @object _ members =>
      cases members <;> exact ⟨_, _, rfl, by constructor <;> decide⟩

theorem Legible.skipGap_indented {levels : Nat} {value : Json} (legible : Legible levels value)
    (level : Nat) (rest : List Char) :
    skipGap (indented level value ++ rest) = indented level value ++ rest := by
  rcases legible.opens level with ⟨first, others, written, opens⟩
  rw [written, List.cons_append, skipGap_cons opens.solid]

/-! ## One step of the reader -/

section Steps

variable (fuel levels : Nat)

theorem readValue_writeText (text : String) (rest : List Char) :
    readValue Text.digitLimit (fuel + 1) levels (writeText text ++ rest) =
      .ok (.text text, rest) := by
  have read := readText_writeText text rest
  simp only [writeText, List.cons_append] at read ⊢
  rw [readValue, read]

theorem readValue_writeInt {value : Int} (writable : Text.isWritable value = true)
    {rest : List Char} (ends : EndsNumber rest) :
    readValue Text.digitLimit (fuel + 1) levels (Text.writeInt value ++ rest) =
      .ok (.int value, rest) := by
  have read := readNumber_writeInt writable ends
  rcases writeInt_eq_cons value with
    ⟨first, others, written, digit | ⟨rfl, second, later, rfl, digit⟩⟩
  · rw [written, List.cons_append] at read ⊢
    rw [readValue, read]
    all_goals
      intro _ equal
      rw [(List.cons.inj equal).1] at digit
      cases digit
  · rw [written, List.cons_append] at read ⊢
    rw [readValue, read]
    all_goals
      intro _ equal
      simp at equal
    -- Only the negative infinity starts with a minus sign as well, and no digit comes after it.
    rw [equal.1] at digit
    cases digit

/-- A list whose first item starts after a gap is read from there on. -/
theorem readValue_bracket {source : List Char} {first : Char} {others : List Char}
    (starts : skipGap source = first :: others) (more : first ≠ ']') :
    readValue Text.digitLimit (fuel + 1) (levels + 1) ('[' :: source) =
      readItems Text.digitLimit fuel levels [] (first :: others) := by
  simp [readValue, starts, more]

/-- An object whose first name starts after a gap is read from there on. -/
theorem readValue_brace {source : List Char} {others : List Char}
    (starts : skipGap source = '"' :: others) :
    readValue Text.digitLimit (fuel + 1) (levels + 1) ('\x7b' :: source) =
      readMembers Text.digitLimit fuel levels [] ('"' :: others) := by
  simp [readValue, starts]

section Items

variable {item : Json} {source rest after : List Char} (reversed : List Json)

/-- An item that the closing bracket comes after is the last one. -/
theorem readItems_last (read : readValue Text.digitLimit fuel levels source = .ok (item, rest))
    (closed : skipGap rest = ']' :: after) :
    readItems Text.digitLimit (fuel + 1) levels reversed source =
      .ok (.list (item :: reversed).reverse, after) := by
  simp [readItems, read, closed]

/-- After a comma the next item is read. -/
theorem readItems_next (read : readValue Text.digitLimit fuel levels source = .ok (item, rest))
    (comma : skipGap rest = ',' :: after) :
    readItems Text.digitLimit (fuel + 1) levels reversed source =
      readItems Text.digitLimit fuel levels (item :: reversed) (skipGap after) := by
  simp [readItems, read, comma]

end Items

section Members

theorem exists_writeText (text : String) (rest : List Char) :
    ∃ tail, writeText text ++ rest = '"' :: tail :=
  ⟨_, rfl⟩

theorem skipGap_colon (rest : List Char) : skipGap (':' :: rest) = ':' :: rest :=
  skipGap_cons rfl rest

variable {name : String} {value : Json} {source rest after : List Char}
variable (members : List (String × Json))

/-- A member that the closing brace comes after is the last one. -/
theorem readMembers_last (read : readValue Text.digitLimit fuel levels source = .ok (value, rest))
    (solid : skipGap source = source) (closed : skipGap rest = '\x7d' :: after) :
    readMembers Text.digitLimit (fuel + 1) levels members (writeText name ++ ':' :: ' ' :: source) =
      .ok (.object (setMember name value members), after) := by
  have readName := readText_writeText name (':' :: ' ' :: source)
  have afterBlank : skipGap (' ' :: source) = source := solid
  rcases exists_writeText name (':' :: ' ' :: source) with ⟨tail, opened⟩
  rw [opened] at readName ⊢
  simp [readMembers, readName, skipGap_colon, afterBlank, read, closed]

/-- After a comma the next member is read. -/
theorem readMembers_next (read : readValue Text.digitLimit fuel levels source = .ok (value, rest))
    (solid : skipGap source = source) (comma : skipGap rest = ',' :: after) :
    readMembers Text.digitLimit (fuel + 1) levels members (writeText name ++ ':' :: ' ' :: source) =
      readMembers Text.digitLimit fuel levels (setMember name value members) (skipGap after) := by
  have readName := readText_writeText name (':' :: ' ' :: source)
  have afterBlank : skipGap (' ' :: source) = source := solid
  rcases exists_writeText name (':' :: ' ' :: source) with ⟨tail, opened⟩
  rw [opened] at readName ⊢
  simp [readMembers, readName, skipGap_colon, afterBlank, read, comma]

end Members

end Steps

/-! ## Lists and objects -/

/-- Whether a reader with enough fuel reads a value back from its text, whatever comes after it. -/
def ReadsBack (levels level : Nat) (value : Json) : Prop :=
  ∀ (fuel : Nat) (rest : List Char), 2 * (indented level value).length ≤ fuel → EndsNumber rest →
    readValue Text.digitLimit fuel levels (indented level value ++ rest) = .ok (value, rest)

variable {levels level : Nat}

theorem skipGap_closing (closing : Nat) {bracket : Char} (solid : isGap bracket = false)
    (rest : List Char) : skipGap (newline closing ++ bracket :: rest) = bracket :: rest := by
  rw [skipGap_newline, skipGap_cons solid]

/-- The items of a list are read back one by one, after those that were read before. -/
theorem readItems_indentedItems {first : Json} {others : List Json}
    (legible : ∀ item ∈ first :: others, Legible levels item)
    (readsBack : ∀ item ∈ first :: others, ReadsBack levels level item)
    (closing : Nat) (rest : List Char) (fuel : Nat)
    (enough : 2 * (indented level first ++ indentedItems level others).length < fuel)
    (reversed : List Json) :
    readItems Text.digitLimit fuel levels reversed (indented level first ++
        (indentedItems level others ++ (newline closing ++ ']' :: rest))) =
      .ok (.list (reversed.reverse ++ first :: others), rest) := by
  induction others generalizing first fuel reversed with
  | nil =>
      cases fuel with
      | zero => cases enough
      | succ fuel =>
          rw [List.length_append] at enough
          rw [List.forall_mem_cons] at readsBack
          have read := readsBack.1 fuel (newline closing ++ ']' :: rest) (by omega)
            (endsNumber_newline closing _)
          rw [indentedItems, List.nil_append,
            readItems_last _ _ _ read (skipGap_closing closing rfl _), List.reverse_cons]
  | cons second others ih =>
      cases fuel with
      | zero => cases enough
      | succ fuel =>
          rw [List.forall_mem_cons] at readsBack legible
          simp only [indentedItems, List.cons_append, List.append_assoc, List.length_append,
            List.length_cons] at enough ⊢
          have read (tail : List Char) := readsBack.1 fuel (',' :: tail) (by omega)
            (endsNumber_comma tail)
          have solid := (legible.2 second List.mem_cons_self).skipGap_indented level
          rw [readItems_next _ _ _ (read _) (skipGap_cons rfl _), skipGap_newline, solid,
            ih legible.2 readsBack.2 fuel (by rw [List.length_append]; omega) (first :: reversed),
            List.reverse_cons, List.append_assoc, List.singleton_append]

theorem skipGap_writeText (text : String) (rest : List Char) :
    skipGap (writeText text ++ rest) = writeText text ++ rest :=
  skipGap_cons rfl _

/-- A member with a new name is put at the end. -/
theorem setMember_of_nodup {name : String} {value : Json} {members others : List (String × Json)}
    (distinct : ((members ++ (name, value) :: others).map Prod.fst).Nodup) :
    setMember name value members = members ++ [(name, value)] := by
  induction members with
  | nil => rfl
  | cons member rest ih =>
      rw [List.cons_append, List.map_cons, List.nodup_cons] at distinct
      have other : member.1 ≠ name := by
        rintro rfl
        exact distinct.1 (by simp)
      rw [setMember, if_neg other, ih distinct.2, List.cons_append]

/-- The members of an object are read back one by one, after those that were read before. -/
theorem readMembers_indentedMembers {name : String} {value : Json}
    {others : List (String × Json)}
    (legible : ∀ member ∈ (name, value) :: others, Legible levels member.2)
    (readsBack : ∀ member ∈ (name, value) :: others, ReadsBack levels level member.2)
    (closing : Nat) (rest : List Char) (fuel : Nat)
    (enough : 2 * (indented level value ++ indentedMembers level others).length < fuel)
    (members : List (String × Json))
    (distinct : ((members ++ (name, value) :: others).map Prod.fst).Nodup) :
    readMembers Text.digitLimit fuel levels members (writeText name ++ ':' :: ' ' ::
        (indented level value ++
          (indentedMembers level others ++ (newline closing ++ '\x7d' :: rest)))) =
      .ok (.object (members ++ (name, value) :: others), rest) := by
  induction others generalizing name value fuel members with
  | nil =>
      cases fuel with
      | zero => cases enough
      | succ fuel =>
          rw [List.length_append] at enough
          simp only [List.forall_mem_cons] at readsBack legible
          have read := readsBack.1 fuel (newline closing ++ '\x7d' :: rest) (by omega)
            (endsNumber_newline closing _)
          rw [indentedMembers, List.nil_append,
            readMembers_last _ _ _ read (legible.1.skipGap_indented level _)
              (skipGap_closing closing rfl _), setMember_of_nodup distinct]
  | cons second others ih =>
      rcases second with ⟨secondName, secondValue⟩
      cases fuel with
      | zero => cases enough
      | succ fuel =>
          simp only [List.forall_mem_cons] at readsBack legible
          simp only [indentedMembers, List.cons_append, List.append_assoc, List.length_append,
            List.length_cons] at enough ⊢
          have extended := setMember_of_nodup distinct
          rw [List.append_cons] at distinct
          have read (tail : List Char) := readsBack.1 fuel (',' :: tail) (by omega)
            (endsNumber_comma tail)
          rw [readMembers_next _ _ _ (read _) (legible.1.skipGap_indented level _)
              (skipGap_cons rfl _), skipGap_newline, skipGap_writeText, extended,
            ih (List.forall_mem_cons.mpr legible.2) (List.forall_mem_cons.mpr readsBack.2) fuel
              (by rw [List.length_append]; omega) (members ++ [(name, value)]) distinct,
            List.append_assoc, List.singleton_append]

/-- The text of a value is not empty, so there is fuel for a call at least. -/
theorem Legible.readsBack_of_succ {value : Json} (legible : Legible levels value)
    (read : ∀ (fuel : Nat) (rest : List Char), 2 * (indented level value).length ≤ fuel + 1 →
      EndsNumber rest → readValue Text.digitLimit (fuel + 1) levels (indented level value ++ rest) =
        .ok (value, rest)) : ReadsBack levels level value := by
  intro fuel rest enough ends
  cases fuel with
  | zero =>
      rcases legible.opens level with ⟨first, others, written, -⟩
      rw [written, List.length_cons] at enough
      omega
  | succ fuel => exact read fuel rest enough ends

theorem readsBack_list {items : List Json} (legible : ∀ item ∈ items, Legible levels item)
    (readsBack : ∀ item ∈ items, ReadsBack levels (level + 1) item) :
    ReadsBack (levels + 1) level (.list items) := by
  apply (Legible.list legible).readsBack_of_succ
  intro fuel rest enough _
  cases items with
  | nil => rfl
  | cons first others =>
      simp only [indented, List.cons_append, List.append_assoc, List.length_append,
        List.length_cons, List.nil_append, List.length_nil] at enough ⊢
      have legibleFirst := legible first List.mem_cons_self
      rcases legibleFirst.opens (level + 1) with ⟨opening, tail, written, opens⟩
      have starts (later : List Char) :
          skipGap (newline (level + 1) ++ (indented (level + 1) first ++ later)) =
            opening :: (tail ++ later) := by
        rw [skipGap_newline, legibleFirst.skipGap_indented, written, List.cons_append]
      have items := readItems_indentedItems legible readsBack level rest fuel
        (by rw [List.length_append]; omega) []
      rw [written, List.cons_append] at items
      rw [readValue_bracket _ _ (starts _) opens.ne_bracket, items]
      rfl

theorem readsBack_object {members : List (String × Json)}
    (distinct : (members.map Prod.fst).Nodup)
    (legible : ∀ member ∈ members, Legible levels member.2)
    (readsBack : ∀ member ∈ members, ReadsBack levels (level + 1) member.2) :
    ReadsBack (levels + 1) level (.object members) := by
  apply (Legible.object distinct legible).readsBack_of_succ
  intro fuel rest enough _
  cases members with
  | nil => rfl
  | cons first others =>
      rcases first with ⟨name, value⟩
      simp only [indented, List.cons_append, List.append_assoc, List.length_append,
        List.length_cons, List.nil_append, List.length_nil] at enough ⊢
      have starts (later : List Char) : skipGap (newline (level + 1) ++ (writeText name ++ later)) =
          '"' :: (name.toList.flatMap escapeChar ++ '"' :: later) := by
        rw [skipGap_newline, skipGap_writeText]
        simp [writeText]
      have members := readMembers_indentedMembers legible readsBack level rest fuel
        (by rw [List.length_append]; omega) [] distinct
      simp only [writeText, List.cons_append, List.append_assoc, List.nil_append] at members
      rw [readValue_brace _ _ (starts _), members]

/-- A legible value is read back from its text. -/
theorem Legible.readsBack {value : Json} (legible : Legible levels value) :
    ReadsBack levels level value := by
  induction legible generalizing level with
  | null => exact Legible.null.readsBack_of_succ fun _ _ _ _ => rfl
  | bool value =>
      apply (Legible.bool value).readsBack_of_succ
      intro _ _ _ _
      cases value <;> rfl
  | int writable =>
      apply (Legible.int writable).readsBack_of_succ
      intro fuel rest _ ends
      exact readValue_writeInt fuel _ writable ends
  | text value =>
      apply (Legible.text value).readsBack_of_succ
      intro fuel rest _ _
      exact readValue_writeText fuel _ value rest
  | list legible ih => exact readsBack_list legible fun item member => ih item member
  | object distinct legible ih =>
      exact readsBack_object distinct legible fun member listed => ih member listed

/-- A legible value is what its whole text is read as. -/
theorem Legible.read {value : Json} (legible : Legible levels value) :
    Json.read levels (indented 0 value) = .ok value := by
  rcases legible.opens 0 with ⟨first, others, written, opens⟩
  have enough : 2 * (indented 0 value).length ≤ 2 * (indented 0 value).length + 2 := by omega
  have ends : EndsNumber [] := by
    intro character first
    cases first
  have wholly : ReadsBack levels 0 value := legible.readsBack
  have readsBack := wholly _ [] enough ends
  have solid := legible.skipGap_indented 0 []
  rw [List.append_nil] at readsBack solid
  have all : readAll ⟨levels, Text.digitLimit⟩ (indented 0 value) = .ok value := by
    rw [readAll, solid, readsBack]
    · rfl
    · intro others marked
      rw [written] at marked
      exact opens.ne_mark (List.cons.inj marked).1
  rw [Json.read, readWithin, all]
  rfl

/-! ## Characters -/

theorem isAscii_newline (level : Nat) : IsAscii (newline level) := by
  rw [newline, isAscii_cons]
  refine ⟨by decide, ?_⟩
  intro character blank
  rw [List.eq_of_mem_replicate blank]
  decide

theorem isAscii_writeInt (value : Int) : IsAscii (Text.writeInt value) := by
  intro character member
  rcases Text.of_mem_writeInt member with rfl | digit
  · decide
  · exact Nat.lt_of_le_of_lt (Text.toNat_of_isDigit digit).2 (by decide)

theorem isAscii_indentedItems {items : List Json}
    (ascii : ∀ item ∈ items, IsAscii (indented level item)) :
    IsAscii (indentedItems level items) := by
  induction items with
  | nil => exact isAscii_nil
  | cons first others ih =>
      rw [List.forall_mem_cons] at ascii
      simp [indentedItems, isAscii_newline, ascii.1, ih ascii.2]

theorem isAscii_indentedMembers {members : List (String × Json)}
    (ascii : ∀ member ∈ members, IsAscii (indented level member.2)) :
    IsAscii (indentedMembers level members) := by
  induction members with
  | nil => exact isAscii_nil
  | cons first others ih =>
      rw [List.forall_mem_cons] at ascii
      simp [indentedMembers, isAscii_newline, isAscii_writeText, ascii.1, ih ascii.2]

/-- The text of a legible value is ASCII. -/
theorem Legible.isAscii {value : Json} (legible : Legible levels value) (level : Nat) :
    IsAscii (indented level value) := by
  induction legible generalizing level with
  | null => simp [indented]
  | bool value => cases value <;> simp [indented]
  | int => exact isAscii_writeInt _
  | text value => exact isAscii_writeText value
  | @list _ items legible ih =>
      cases items with
      | nil => simp [indented]
      | cons first others =>
          rw [List.forall_mem_cons] at ih
          have rest := isAscii_indentedItems fun item member => ih.2 item member (level + 1)
          simp [indented, isAscii_newline, ih.1, rest]
  | @object _ members _ legible ih =>
      cases members with
      | nil => simp [indented]
      | cons first others =>
          rw [List.forall_mem_cons] at ih
          have rest := isAscii_indentedMembers fun member listed => ih.2 member listed (level + 1)
          simp [indented, isAscii_newline, isAscii_writeText, ih.1, rest]

end Pinpoint.Json
