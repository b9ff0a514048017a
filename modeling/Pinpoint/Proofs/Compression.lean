import Pinpoint.Proofs.Resolution

/-!
# Compression of source maps

One list of entries has many compressed texts. A field that repeats the value of the entry before
may be left empty or written again, and empty fields at the end of a segment may be dropped
together with their colons. Every field and every segment is free in this, and whichever of the
texts is taken, decoding gives the entries back.
-/

namespace Pinpoint.Entry

open Text (isWritable writeInt joinFields)

/-- The ways to write a field after the value that it has in the entry before. -/
inductive FieldForm {α : Type} (write : α → List Char) (previous value : α) :
    List Char → Prop where
  | written : FieldForm write previous value (write value)
  | repeated : previous = value → FieldForm write previous value []

/-- The fields of an entry after another one, all five of them. -/
inductive FieldsAfter (previous entry : Entry) : List (List Char) → Prop where
  | forms {start length fileIndex jump modifierDepth : List Char} :
      FieldForm writeInt previous.start entry.start start →
      FieldForm writeInt previous.length entry.length length →
      FieldForm writeInt previous.fileIndex entry.fileIndex fileIndex →
      FieldForm String.toList previous.jump entry.jump jump →
      FieldForm writeInt previous.modifierDepth entry.modifierDepth modifierDepth →
      FieldsAfter previous entry [start, length, fileIndex, jump, modifierDepth]

/-- The segments of an entry after another one: its fields up to some that are empty, joined by
colons. -/
inductive SegmentAfter (previous entry : Entry) : List Char → Prop where
  | joined {kept dropped : List (List Char)} :
      FieldsAfter previous entry (kept ++ dropped) → (∀ field ∈ dropped, field = []) →
      SegmentAfter previous entry (joinFields ':' kept)

/-- The segments of a list of entries, the first of which comes after the given one. -/
inductive SegmentsAfter : Entry → List Entry → List (List Char) → Prop where
  | nil {previous : Entry} : SegmentsAfter previous [] []
  | cons {previous entry : Entry} {entries : List Entry} {segment : List Char}
      {segments : List (List Char)} :
      SegmentAfter previous entry segment → SegmentsAfter entry entries segments →
      SegmentsAfter previous (entry :: entries) (segment :: segments)

/-- Whether a text is a compressed source map with the given entries. -/
def Compresses (text : String) (entries : List Entry) : Prop :=
  ∃ segments, SegmentsAfter initial entries segments ∧
    text = String.ofList (joinFields ';' segments)

/-- Whether the fields of an entry can be written so that they can be told apart. -/
structure Compressible (entry : Entry) : Prop extends Writable entry where
  modifierDepth : isWritable entry.modifierDepth = true
  jump_ne_empty : entry.jump.toList ≠ []
  colon_not_mem : ':' ∉ entry.jump.toList
  semicolon_not_mem : ';' ∉ entry.jump.toList

/-! ## One field -/

section

variable {α : Type} {write : α → List Char} {previous value : α} {field : List Char}

/-- A field holds nothing but what its value is written with. -/
theorem FieldForm.not_mem (form : FieldForm write previous value field) {separator : Char}
    (absent : separator ∉ write value) : separator ∉ field := by
  cases form with
  | written => exact absent
  | repeated => exact List.not_mem_nil

/-- A field is read as its value if only that can be read where it is written. -/
theorem FieldForm.ite_isEmpty (form : FieldForm write previous value field)
    (nonempty : write value ≠ []) {β : Type} {read : List Char → β} {whole : α → β}
    (readBack : read (write value) = whole value) :
    (if field.isEmpty then whole previous else read field) = whole value := by
  cases form with
  | written => rw [if_neg (by simpa using nonempty), readBack]
  | repeated same => rw [if_pos List.isEmpty_nil, same]

end

theorem numericField_of_form {previous value : Int} {field : List Char}
    (form : FieldForm writeInt previous value field) (writable : isWritable value = true) :
    numericField previous field = some value :=
  form.ite_isEmpty Text.writeInt_ne_nil (Text.readInt?_writeInt writable)

theorem jump_of_form {previous value : String} {field : List Char}
    (form : FieldForm String.toList previous value field) (nonempty : value.toList ≠ []) :
    (if field.isEmpty then previous else String.ofList field) = value :=
  form.ite_isEmpty nonempty (show String.ofList value.toList = id value from String.ofList_toList)

/-! ## One segment -/

variable {previous entry : Entry}

/-- No field holds a character that separates fields or segments. -/
theorem FieldsAfter.not_mem {fields : List (List Char)}
    (written : FieldsAfter previous entry fields) {separator : Char} (notSign : separator ≠ '-')
    (notDigit : separator.isDigit = false) (absent : separator ∉ entry.jump.toList) :
    ∀ field ∈ fields, separator ∉ field := by
  have inNumber (value : Int) : separator ∉ writeInt value :=
    Text.not_mem_writeInt notSign notDigit
  cases written with
  | forms start length fileIndex jump modifierDepth =>
      simp only [List.forall_mem_cons, List.not_mem_nil, false_imp_iff, implies_true, and_true]
      exact ⟨start.not_mem (inNumber _), length.not_mem (inNumber _),
        fileIndex.not_mem (inNumber _), jump.not_mem absent, modifierDepth.not_mem (inNumber _)⟩

/-- A segment falls into the fields that it was joined from; where fields were dropped it has
nothing. -/
theorem getD_fields_joinFields {kept dropped : List (List Char)}
    (whole : ∀ field ∈ kept, ':' ∉ field) (empty : ∀ field ∈ dropped, field = [])
    (position : Nat) :
    (Text.fields ':' (joinFields ':' kept)).getD position [] =
      (kept ++ dropped).getD position [] := by
  have beyond : (kept ++ dropped).getD position [] = kept.getD position [] := by
    simp only [List.getD_eq_getElem?_getD, List.getElem?_append]
    split
    next => rfl
    next outside =>
      rw [List.getElem?_eq_none (Nat.le_of_not_lt outside)]
      cases found : dropped[position - kept.length]? with
      | none => rfl
      | some field => exact empty field (List.mem_of_getElem? found)
  rw [beyond]
  cases kept with
  | nil => cases position <;> rfl
  | cons => rw [Text.fields_joinFields (List.cons_ne_nil _ _) whole]

/-- A segment stands for its entry. -/
theorem next_of_segmentAfter {segment : List Char} (compressible : entry.Compressible)
    (written : SegmentAfter previous entry segment) : previous.next segment = .ok entry := by
  cases written with
  | @joined kept dropped fields empty =>
      have whole (field : List Char) (member : field ∈ kept) : ':' ∉ field :=
        fields.not_mem (by decide) (by decide) compressible.colon_not_mem field
          (List.mem_append_left _ member)
      simp only [next, getD_fields_joinFields whole empty]
      generalize kept ++ dropped = all at fields
      cases fields with
      | forms start length fileIndex jump modifierDepth =>
          simp only [List.getD_cons_zero, List.getD_cons_succ,
            numericField_of_form start compressible.start,
            numericField_of_form length compressible.length,
            numericField_of_form fileIndex compressible.fileIndex,
            numericField_of_form modifierDepth compressible.modifierDepth,
            jump_of_form jump compressible.jump_ne_empty]

theorem SegmentAfter.semicolon_not_mem {segment : List Char}
    (written : SegmentAfter previous entry segment) (compressible : entry.Compressible) :
    ';' ∉ segment := by
  cases written with
  | joined fields empty =>
      intro member
      rcases Text.mem_joinFields member with impossible | ⟨field, listed, member⟩
      · exact absurd impossible (by decide)
      · exact fields.not_mem (by decide) (by decide) compressible.semicolon_not_mem field
          (List.mem_append_left _ listed) member

/-! ## All segments -/

variable {entries : List Entry} {segments : List (List Char)}

/-- The running values that the decoder carries are those of the entry before. -/
theorem decodeAfter_of_segmentsAfter (written : SegmentsAfter previous entries segments)
    (compressible : ∀ entry ∈ entries, entry.Compressible) :
    decodeAfter previous segments = .ok entries := by
  induction written with
  | nil => rfl
  | cons segment _ ih =>
      rw [List.forall_mem_cons] at compressible
      rw [decodeAfter, next_of_segmentAfter compressible.1 segment]
      simp only [ih compressible.2]

theorem SegmentsAfter.semicolon_not_mem (written : SegmentsAfter previous entries segments)
    (compressible : ∀ entry ∈ entries, entry.Compressible) :
    ∀ segment ∈ segments, ';' ∉ segment := by
  induction written with
  | nil => simp
  | cons segment _ ih =>
      rw [List.forall_mem_cons] at compressible ⊢
      exact ⟨segment.semicolon_not_mem compressible.1, ih compressible.2⟩

/-- Whatever is left out of a compressed source map, decoding gives its entries back, unless there
is no text left at all. -/
theorem decompress_of_compresses {text : String} {entries : List Entry}
    (compressible : ∀ entry ∈ entries, entry.Compressible)
    (compressed : Compresses text entries) (nonempty : text ≠ "") :
    decompress text = .ok entries := by
  rcases compressed with ⟨segments, written, rfl⟩
  have some : segments ≠ [] := by
    rintro rfl
    exact nonempty rfl
  have present : (String.ofList (joinFields ';' segments)).isEmpty = false := by
    rw [← Bool.not_eq_true, String.isEmpty_iff]
    exact nonempty
  rw [decompress, present, String.toList_ofList,
    Text.fields_joinFields some (written.semicolon_not_mem compressible)]
  exact decodeAfter_of_segmentsAfter written compressible

/-- In the text `;:9:1;:::i;-4::-1:i:2` the first segment leaves everything out, and the last one
writes a jump that it could have left out. -/
theorem decompress_of_compresses_sparse :
    let entries := [initial, ⟨0, 9, 1, "-", 0⟩, ⟨0, 9, 1, "i", 0⟩, ⟨-4, 9, -1, "i", 2⟩]
    Compresses ";:9:1;:::i;-4::-1:i:2" entries ∧
      decompress ";:9:1;:::i;-4::-1:i:2" = .ok entries := by
  intro entries
  have first : SegmentAfter initial initial [] :=
    @SegmentAfter.joined _ _ [] [[], [], [], [], []]
      (.forms (.repeated rfl) (.repeated rfl) (.repeated rfl) (.repeated rfl) (.repeated rfl))
      (by simp)
  have second : SegmentAfter initial ⟨0, 9, 1, "-", 0⟩ [':', '9', ':', '1'] :=
    @SegmentAfter.joined _ _ [[], ['9'], ['1']] [[], []]
      (.forms (.repeated rfl) .written .written (.repeated rfl) (.repeated rfl)) (by simp)
  have third : SegmentAfter ⟨0, 9, 1, "-", 0⟩ ⟨0, 9, 1, "i", 0⟩ [':', ':', ':', 'i'] :=
    @SegmentAfter.joined _ _ [[], [], [], ['i']] [[]]
      (.forms (.repeated rfl) (.repeated rfl) (.repeated rfl) .written (.repeated rfl)) (by simp)
  have fourth : SegmentAfter ⟨0, 9, 1, "i", 0⟩ ⟨-4, 9, -1, "i", 2⟩
      ['-', '4', ':', ':', '-', '1', ':', 'i', ':', '2'] :=
    @SegmentAfter.joined _ _ [['-', '4'], [], ['-', '1'], ['i'], ['2']] []
      (.forms .written (.repeated rfl) .written .written .written) (by simp)
  have segments : SegmentsAfter initial entries _ :=
    .cons first (.cons second (.cons third (.cons fourth .nil)))
  have compressed : Compresses ";:9:1;:::i;-4::-1:i:2" entries := ⟨_, segments, rfl⟩
  have compressible (entry : Entry) (member : entry ∈ entries) : entry.Compressible := by
    simp only [entries, List.mem_cons, List.not_mem_nil, or_false] at member
    rcases member with rfl | rfl | rfl | rfl <;>
      exact ⟨⟨Text.isWritable_of_lt_ten (by decide), Text.isWritable_of_lt_ten (by decide),
        Text.isWritable_of_lt_ten (by decide)⟩, Text.isWritable_of_lt_ten (by decide), by decide,
        by decide, by decide⟩
  exact ⟨compressed, decompress_of_compresses compressible compressed (by decide)⟩

end Pinpoint.Entry
