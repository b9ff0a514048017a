import Pinpoint.Ast.Node
import Pinpoint.Proofs.LastWritten
import Pinpoint.Proofs.Padding

/-!
# Three decoders of a byte range

A text of the form `start:length:fileIndex` is decoded as an entry that is written alone, as the
byte range of a syntax node and as a compressed source map of one segment. Only the first of the
three strips the text. What they decode is the same, and a text that one of them reads is read by
all of them, unless the numbers at the ends of the text have an information separator beside them.
-/

namespace Pinpoint.Entry

open Text (fields readInt? strip trailing isBlank IsSeparator)

/-! ## Statement -/

/-- What an entry has of the three numbers alone. -/
def alone (entry : Entry) : Entry :=
  { initial with start := entry.start, length := entry.length, fileIndex := entry.fileIndex }

/-- Whether the blanks that stripping drops beside the three numbers are no information separators.
The blanks at the end of a text stand beside the third number if there are only three fields. -/
def IsPlain (text : List Char) : Prop :=
  (∀ character ∈ text.takeWhile isBlank, ¬IsSeparator character) ∧
    ((fields ':' text).length = 3 → ∀ character ∈ trailing isBlank text, ¬IsSeparator character)

instance (text : List Char) : Decidable (IsPlain text) :=
  decidable_of_iff
    (((text.takeWhile isBlank).all fun character => !decide (IsSeparator character)) = true ∧
      ((fields ':' text).length = 3 →
        ((trailing isBlank text).all fun character => !decide (IsSeparator character)) = true))
    (by simp [IsPlain])

/-- Whether the decoders of a text agree with an entry. A source map is refused only for a fifth
field that is written and is no numeral. -/
structure DecodersAgree (text : String) (entry : Entry) : Prop where
  byteRange : Ast.byteRange? (.text text) = some (entry.start, entry.length)
  sourceMap :
    (∃ decoded, decompress text = .ok [decoded] ∧ decoded.alone = entry) ∨
      (∃ error, decompress text = .error error) ∧
        ∃ depth, writtenField? 4 text.toList = some depth ∧ readInt? depth = none

/-! ## The three numbers of a segment -/

/-- Whether the first three fields of a segment are numerals, with the values in an entry. -/
def NamesRange (segment : List Char) (entry : Entry) : Prop :=
  ∃ start length fileIndex rest, fields ':' segment = start :: length :: fileIndex :: rest ∧
    readInt? start = some entry.start ∧ readInt? length = some entry.length ∧
    readInt? fileIndex = some entry.fileIndex

variable {text : String} {segment : List Char} {entry other decoded : Entry}

theorem NamesRange.alone_eq (first : NamesRange segment entry) (second : NamesRange segment other) :
    entry.alone = other.alone := by
  rcases first with ⟨start, length, fileIndex, rest, cut, startRead, lengthRead, indexRead⟩
  rcases second with ⟨_, _, _, _, otherCut, otherStart, otherLength, otherIndex⟩
  cases cut.symm.trans otherCut
  rw [alone, alone, Option.some.inj (startRead.symm.trans otherStart),
    Option.some.inj (lengthRead.symm.trans otherLength),
    Option.some.inj (indexRead.symm.trans otherIndex)]

/-- An entry that is written alone has the three numbers of the stripped text. -/
theorem parse_eq_ok_iff :
    parse text = .ok entry ↔ NamesRange (strip text.toList) entry ∧ entry.alone = entry := by
  rw [parse]
  split
  next start length fileIndex rest cut =>
    split
    next startValue lengthValue indexValue startRead lengthRead indexRead =>
      have named : NamesRange (strip text.toList)
          { initial with start := startValue, length := lengthValue, fileIndex := indexValue } :=
        ⟨_, _, _, _, cut, startRead, lengthRead, indexRead⟩
      constructor
      · intro returned
        cases returned
        exact ⟨named, rfl⟩
      · rintro ⟨otherNamed, same⟩
        rw [← same, otherNamed.alone_eq named]
        rfl
    next missing =>
      constructor
      · intro impossible
        cases impossible
      · rintro ⟨⟨_, _, _, _, otherCut, startRead, lengthRead, indexRead⟩, -⟩
        cases cut.symm.trans otherCut
        exact absurd indexRead (missing _ _ _ startRead lengthRead)
  next missing =>
    constructor
    · intro impossible
      cases impossible
    · rintro ⟨⟨_, _, _, _, cut, -⟩, -⟩
      exact absurd cut (missing _ _ _ _)

/-- Which segment names a range is seen from its first three fields. -/
theorem namesRange_iff {start length fileIndex : List Char} {rest : List (List Char)}
    (cut : fields ':' segment = start :: length :: fileIndex :: rest) :
    NamesRange segment entry ↔ readInt? start = some entry.start ∧
      readInt? length = some entry.length ∧ readInt? fileIndex = some entry.fileIndex := by
  constructor
  · rintro ⟨_, _, _, _, otherCut, read⟩
    cases cut.symm.trans otherCut
    exact read
  · intro read
    exact ⟨_, _, _, _, cut, read⟩

theorem NamesRange.three_le (named : NamesRange segment entry) :
    3 ≤ (fields ':' segment).length := by
  rcases named with ⟨_, _, _, _, cut, -⟩
  simp [cut]

/-! ## Blanks around a segment -/

theorem colon_not_mem_of_blank {blanks : List Char}
    (blank : ∀ character ∈ blanks, isBlank character = true) : ':' ∉ blanks := by
  intro member
  cases blank ':' member

theorem isBlank_of_mem_leading :
    ∀ character ∈ segment.takeWhile isBlank, isBlank character = true :=
  fun _ member => Text.of_mem_takeWhile member

theorem isBlank_of_mem_trailing :
    ∀ character ∈ trailing isBlank segment, isBlank character = true :=
  fun _ member => Text.of_mem_trailing member

/-- Stripping takes from the first field and from the last one. -/
theorem fields_of_fields_strip {first last : List Char} {inner : List (List Char)}
    (cut : fields ':' (strip segment) = first :: (inner ++ [last])) :
    fields ':' segment =
      (segment.takeWhile isBlank ++ first) :: (inner ++ [last ++ trailing isBlank segment]) := by
  have between := Text.fields_between (colon_not_mem_of_blank (@isBlank_of_mem_leading segment))
    (colon_not_mem_of_blank (@isBlank_of_mem_trailing segment)) cut
  rwa [strip, Text.trim_parts] at between

theorem length_fields_strip :
    (fields ':' (strip segment)).length = (fields ':' segment).length := by
  cases cut : fields ':' (strip segment) with
  | nil => exact absurd cut (Text.fields_ne_nil _ _)
  | cons first others =>
      rcases List.eq_nil_or_concat others with rfl | ⟨inner, last, rfl⟩
      · have whole := Text.fields_append_left
          (colon_not_mem_of_blank (@isBlank_of_mem_leading segment))
          (@Text.fields_append_right _ _ _ [] first
            (colon_not_mem_of_blank (@isBlank_of_mem_trailing segment)) cut)
        rw [← List.append_assoc, strip, Text.trim_parts] at whole
        rw [whole]
        rfl
      · rw [List.concat_eq_append] at cut ⊢
        rw [fields_of_fields_strip cut]
        simp

/-- Stripping takes from the first of three fields, and from the third if it is the last. -/
theorem fields_of_three_fields_strip {start length fileIndex : List Char} {rest : List (List Char)}
    (cut : fields ':' (strip segment) = start :: length :: fileIndex :: rest) :
    fields ':' segment = [segment.takeWhile isBlank ++ start, length,
        fileIndex ++ trailing isBlank segment] ∨
      ∃ next others, fields ':' segment =
        (segment.takeWhile isBlank ++ start) :: length :: fileIndex :: next :: others := by
  rcases List.eq_nil_or_concat rest with rfl | ⟨inner, last, rfl⟩
  · exact .inl (@fields_of_fields_strip segment start fileIndex [length] cut)
  · rw [List.concat_eq_append] at cut
    have whole := @fields_of_fields_strip segment start last (length :: fileIndex :: inner) cut
    cases inner with
    | nil => exact .inr ⟨_, _, whole⟩
    | cons next others => exact .inr ⟨_, _, whole⟩

/-- The numbers of a segment are those of the stripped one if the segment is plain, and otherwise
the segment has none. -/
theorem namesRange_iff_strip :
    NamesRange segment entry ↔ NamesRange (strip segment) entry ∧ IsPlain segment := by
  have enough (long : 3 ≤ (fields ':' (strip segment)).length) :
      NamesRange segment entry ↔ NamesRange (strip segment) entry ∧ IsPlain segment := by
    match cut : fields ':' (strip segment) with
    | [] | [_] | [_, _] => simp [cut] at long
    | start :: length :: fileIndex :: rest =>
        rw [namesRange_iff cut, IsPlain]
        rcases fields_of_three_fields_strip cut with whole | ⟨next, others, whole⟩
        · rw [namesRange_iff whole, whole, Text.readInt?_append_left isBlank_of_mem_leading,
            Text.readInt?_append_right isBlank_of_mem_trailing]
          constructor
          · rintro ⟨⟨startRead, beforePlain⟩, lengthRead, indexRead, afterPlain⟩
            exact ⟨⟨startRead, lengthRead, indexRead⟩, beforePlain, fun _ => afterPlain⟩
          · rintro ⟨⟨startRead, lengthRead, indexRead⟩, beforePlain, afterPlain⟩
            exact ⟨⟨startRead, beforePlain⟩, lengthRead, indexRead, afterPlain rfl⟩
        · rw [namesRange_iff whole, whole, Text.readInt?_append_left isBlank_of_mem_leading]
          constructor
          · rintro ⟨⟨startRead, beforePlain⟩, lengthRead, indexRead⟩
            refine ⟨⟨startRead, lengthRead, indexRead⟩, beforePlain, fun three => ?_⟩
            simp at three
          · rintro ⟨⟨startRead, lengthRead, indexRead⟩, beforePlain, -⟩
            exact ⟨⟨startRead, beforePlain⟩, lengthRead, indexRead⟩
  constructor
  · intro named
    have long := named.three_le
    rw [← length_fields_strip] at long
    exact (enough long).mp named
  · rintro ⟨named, plain⟩
    exact (enough named.three_le).mpr ⟨named, plain⟩

/-! ## The byte range of a syntax node -/

theorem NamesRange.byteRange?_eq (named : NamesRange text.toList entry) :
    Ast.byteRange? (.text text) = some (entry.start, entry.length) := by
  rcases named with ⟨start, length, fileIndex, rest, cut, startRead, lengthRead, -⟩
  rw [Ast.byteRange?, cut]
  simp [startRead, lengthRead]

/-- A byte range is that of the stripped text, and there is no information separator before it. -/
theorem of_byteRange?_eq_some {range : Int × Int} (parsed : NamesRange (strip text.toList) entry)
    (found : Ast.byteRange? (.text text) = some range) :
    range = (entry.start, entry.length) ∧
      ∀ character ∈ text.toList.takeWhile isBlank, ¬IsSeparator character := by
  rcases parsed with ⟨start, length, fileIndex, rest, cut, startRead, lengthRead, -⟩
  have ⟨others, whole⟩ : ∃ others, fields ':' text.toList =
      (text.toList.takeWhile isBlank ++ start) :: length :: others := by
    rcases fields_of_three_fields_strip cut with whole | ⟨_, _, whole⟩
    · exact ⟨_, whole⟩
    · exact ⟨_, whole⟩
  rw [Ast.byteRange?, whole] at found
  rcases Option.bind_eq_some_iff.mp found with ⟨first, firstRead, found⟩
  rcases Option.bind_eq_some_iff.mp found with ⟨second, secondRead, found⟩
  rw [Text.readInt?_append_left isBlank_of_mem_leading] at firstRead
  cases startRead.symm.trans firstRead.1
  cases lengthRead.symm.trans secondRead
  cases found
  exact ⟨rfl, firstRead.2⟩

/-! ## A source map of one segment -/

theorem segments_of_not_mem (single : ';' ∉ text.toList) : segments text = [text.toList] :=
  Text.fields_of_not_mem single

/-- The decoder of one segment has the last values of that segment. -/
theorem decompress_single (single : ';' ∉ text.toList) (nonempty : text ≠ "")
    {entries : List Entry} :
    decompress text = .ok entries ↔
      ∃ decoded, entries = [decoded] ∧ IsLastOf [text.toList] decoded := by
  rw [decompress_of_ne_empty nonempty, segments_of_not_mem single, decodeAfter_cons, bind_eq_ok]
  simp only [next_eq_ok_iff isLastOf_nil, List.nil_append, decodeAfter, map_eq_ok,
    Except.ok.injEq]
  constructor
  · rintro ⟨decoded, last, others, rfl, rfl⟩
    exact ⟨decoded, rfl, last⟩
  · rintro ⟨decoded, rfl, last⟩
    exact ⟨decoded, last, [], rfl, rfl⟩

theorem exists_decompress_single_eq_error_iff (single : ';' ∉ text.toList) (nonempty : text ≠ "") :
    (∃ error, decompress text = .error error) ↔ IsMalformed text.toList := by
  rw [decompress_of_ne_empty nonempty, segments_of_not_mem single, exists_decodeAfter_eq_error_iff]
  simp

/-- Nothing falls back on the first value in a segment that writes the field. -/
theorem lastValue?_of_isSome {α : Type} {read : List Char → Option α} {first : α} {position : Nat}
    (written : (writtenField? position segment).isSome = true) :
    lastValue? read first position [segment] = (writtenField? position segment).bind read := by
  have appended := @lastValue?_append α read first position [] segment
  rw [List.nil_append] at appended
  rw [appended]
  cases found : writtenField? position segment with
  | none =>
      rw [found] at written
      cases written
  | some field => rfl

/-- A numeral is not empty, so it is written. -/
theorem bind_writtenField?_of_getElem? {position : Nat} {field : List Char} {value : Int}
    (listed : (fields ':' segment)[position]? = some field) (read : readInt? field = some value) :
    (writtenField? position segment).bind readInt? = some value := by
  rw [writtenField?, listed]
  cases field with
  | nil => cases read
  | cons character rest => exact read

theorem getElem?_of_bind_writtenField? {position : Nat} {value : Int}
    (read : (writtenField? position segment).bind readInt? = some value) :
    ∃ field, (fields ':' segment)[position]? = some field ∧ readInt? field = some value := by
  rcases Option.bind_eq_some_iff.mp read with ⟨field, written, read⟩
  exact ⟨field, (Option.filter_eq_some_iff.mp written).1, read⟩

/-- The three numbers of a segment are what it writes at the first three positions. -/
theorem namesRange_iff_written : NamesRange segment entry ↔
    (writtenField? 0 segment).bind readInt? = some entry.start ∧
      (writtenField? 1 segment).bind readInt? = some entry.length ∧
      (writtenField? 2 segment).bind readInt? = some entry.fileIndex := by
  constructor
  · rintro ⟨start, length, fileIndex, rest, cut, startRead, lengthRead, indexRead⟩
    exact ⟨bind_writtenField?_of_getElem? (by rw [cut]; rfl) startRead,
      bind_writtenField?_of_getElem? (by rw [cut]; rfl) lengthRead,
      bind_writtenField?_of_getElem? (by rw [cut]; rfl) indexRead⟩
  · rintro ⟨startWritten, lengthWritten, indexWritten⟩
    rcases getElem?_of_bind_writtenField? startWritten with ⟨start, startListed, startRead⟩
    rcases getElem?_of_bind_writtenField? lengthWritten with ⟨length, lengthListed, lengthRead⟩
    rcases getElem?_of_bind_writtenField? indexWritten with ⟨index, indexListed, indexRead⟩
    match cut : fields ':' segment with
    | [] | [_] | [_, _] =>
        rw [cut] at indexListed
        cases indexListed
    | first :: second :: third :: rest =>
        rw [cut] at startListed lengthListed indexListed
        cases startListed
        cases lengthListed
        cases indexListed
        exact ⟨_, _, _, _, cut, startRead, lengthRead, indexRead⟩

/-- What is written in a stripped segment is written in the segment. -/
theorem NamesRange.written_of_strip (parsed : NamesRange (strip segment) entry) :
    ∀ position < 3, (writtenField? position segment).isSome = true := by
  rcases parsed with ⟨start, length, fileIndex, rest, cut, startRead, lengthRead, indexRead⟩
  have nonempty {field : List Char} {value : Int} (read : readInt? field = some value) :
      field ≠ [] := by
    rintro rfl
    cases read
  have written {position : Nat} {field : List Char}
      (listed : (fields ':' segment)[position]? = some field) (some : field ≠ []) :
      (writtenField? position segment).isSome = true := by
    rw [writtenField?, listed]
    simpa using some
  have startWritten := List.append_ne_nil_of_right_ne_nil (segment.takeWhile isBlank)
    (nonempty startRead)
  have indexWritten := List.append_ne_nil_of_left_ne_nil (nonempty indexRead)
    (trailing isBlank segment)
  intro position bound
  have cases : position = 0 ∨ position = 1 ∨ position = 2 := by omega
  rcases fields_of_three_fields_strip cut with whole | ⟨next, others, whole⟩
  · rcases cases with rfl | rfl | rfl
    · exact written (by rw [whole]; rfl) startWritten
    · exact written (by rw [whole]; rfl) (nonempty lengthRead)
    · exact written (by rw [whole]; rfl) indexWritten
  · rcases cases with rfl | rfl | rfl
    · exact written (by rw [whole]; rfl) startWritten
    · exact written (by rw [whole]; rfl) (nonempty lengthRead)
    · exact written (by rw [whole]; rfl) (nonempty indexRead)

/-- A segment that writes the three fields is decoded to the numbers in them. -/
theorem namesRange_of_isLastOf (last : IsLastOf [segment] decoded)
    (written : ∀ position < 3, (writtenField? position segment).isSome = true) :
    NamesRange segment decoded := by
  rw [namesRange_iff_written, ← lastValue?_of_isSome (written 0 (by decide)),
    ← lastValue?_of_isSome (written 1 (by decide)), ← lastValue?_of_isSome (written 2 (by decide))]
  exact ⟨last.start, last.length, last.fileIndex⟩

/-- A segment with three numbers is refused for its fifth field only. -/
theorem NamesRange.isMalformed_iff (named : NamesRange segment entry) :
    IsMalformed segment ↔
      ∃ depth, writtenField? 4 segment = some depth ∧ readInt? depth = none := by
  rcases namesRange_iff_written.mp named with ⟨startWritten, lengthWritten, indexWritten⟩
  constructor
  · rintro ⟨position, listed, field, written, unread⟩
    have contradiction {value : Int}
        (read : (writtenField? position segment).bind readInt? = some value) : False := by
      rw [written, Option.bind_some, unread] at read
      cases read
    simp only [numberPositions, List.mem_cons, List.not_mem_nil, or_false] at listed
    rcases listed with rfl | rfl | rfl | rfl
    · exact (contradiction startWritten).elim
    · exact (contradiction lengthWritten).elim
    · exact (contradiction indexWritten).elim
    · exact ⟨field, written, unread⟩
  · rintro ⟨depth, written, unread⟩
    exact ⟨4, by decide, depth, written, unread⟩

/-! ## Agreement -/

theorem ne_empty_of_parse (parsed : parse text = .ok entry) : text ≠ "" := by
  rintro rfl
  cases parsed

/-- Nothing is decoded from a source map but the three numbers of the stripped text. -/
theorem alone_of_decompress (single : ';' ∉ text.toList) (parsed : parse text = .ok entry)
    {entries : List Entry} (returned : decompress text = .ok entries) :
    ∃ decoded, entries = [decoded] ∧ decoded.alone = entry ∧ IsPlain text.toList := by
  rcases parse_eq_ok_iff.mp parsed with ⟨stripped, alone⟩
  rcases (decompress_single single (ne_empty_of_parse parsed)).mp returned with
    ⟨decoded, rfl, last⟩
  have named := namesRange_of_isLastOf last stripped.written_of_strip
  rcases namesRange_iff_strip.mp named with ⟨decodedStripped, plain⟩
  exact ⟨decoded, rfl, (decodedStripped.alone_eq stripped).trans alone, plain⟩

theorem decodersAgree_of_isPlain (single : ';' ∉ text.toList) (parsed : parse text = .ok entry)
    (plain : IsPlain text.toList) : DecodersAgree text entry := by
  have named := namesRange_iff_strip.mpr ⟨(parse_eq_ok_iff.mp parsed).1, plain⟩
  refine ⟨named.byteRange?_eq, ?_⟩
  cases returned : decompress text with
  | ok entries =>
      rcases alone_of_decompress single parsed returned with ⟨decoded, rfl, same, -⟩
      exact .inl ⟨decoded, rfl, same⟩
  | error error =>
      have malformed := (exists_decompress_single_eq_error_iff single
        (ne_empty_of_parse parsed)).mp ⟨error, returned⟩
      exact .inr ⟨⟨error, rfl⟩, named.isMalformed_iff.mp malformed⟩

theorem isPlain_of_decodersAgree (single : ';' ∉ text.toList) (parsed : parse text = .ok entry)
    (agree : DecodersAgree text entry) : IsPlain text.toList := by
  rcases agree with ⟨byteRange, ⟨decoded, returned, -⟩ | ⟨-, depth, written, -⟩⟩
  · exact (alone_of_decompress single parsed returned).choose_spec.2.2
  · refine ⟨(of_byteRange?_eq_some (parse_eq_ok_iff.mp parsed).1 byteRange).2, fun three => ?_⟩
    have listed := (Option.filter_eq_some_iff.mp written).1
    rw [List.getElem?_eq_none (by omega)] at listed
    cases listed

/-- The decoders of a text agree with the entry that it is parsed as exactly when the blanks beside
the three numbers are no information separators, and no text at all is decoded to other numbers
than those. Whatever source map of one segment is decoded, if it writes the three fields, is also
parsed. -/
theorem decoders_agree_iff (text : String) (single : ';' ∉ text.toList) :
    (∀ entry, parse text = .ok entry →
      (DecodersAgree text entry ↔ IsPlain text.toList) ∧
      (∀ range, Ast.byteRange? (.text text) = some range →
        range = (entry.start, entry.length)) ∧
      ∀ entries, decompress text = .ok entries →
        ∃ decoded, entries = [decoded] ∧ decoded.alone = entry) ∧
    ∀ entries, decompress text = .ok entries →
      (∀ position < 3, (writtenField? position text.toList).isSome = true) →
      ∃ decoded, entries = [decoded] ∧ parse text = .ok decoded.alone := by
  constructor
  · intro entry parsed
    refine ⟨⟨isPlain_of_decodersAgree single parsed, decodersAgree_of_isPlain single parsed⟩,
      ?_, ?_⟩
    · intro range found
      exact (of_byteRange?_eq_some (parse_eq_ok_iff.mp parsed).1 found).1
    · intro entries returned
      rcases alone_of_decompress single parsed returned with ⟨decoded, listed, same, -⟩
      exact ⟨decoded, listed, same⟩
  · intro entries returned written
    have nonempty : text ≠ "" := by
      rintro rfl
      cases written 0 (by decide)
    rcases (decompress_single single nonempty).mp returned with ⟨decoded, rfl, last⟩
    have stripped := (namesRange_iff_strip.mp (namesRange_of_isLastOf last written)).1
    exact ⟨decoded, rfl, parse_eq_ok_iff.mpr ⟨stripped, rfl⟩⟩

/-- The decoders agree on a text with blanks around its fields, a sign, an underscore and a digit
of another script. In the second text the fifth field is no numeral. -/
theorem decoders_agree_padded :
    DecodersAgree "\u00a0+1_0 :\u0662: -3\n" ⟨10, 2, -3, "-", 0⟩ ∧
      DecodersAgree " 7:0:1:i: x:9" ⟨7, 0, 1, "-", 0⟩ ∧
      (∃ error, decompress " 7:0:1:i: x:9" = .error error) ∧
      parse " 7:0:1:i:2 " = .ok (alone ⟨7, 0, 1, "i", 2⟩) := by
  have padded := decoders_agree_iff "\u00a0+1_0 :\u0662: -3\n" (by decide)
  have refused := decoders_agree_iff " 7:0:1:i: x:9" (by decide)
  have decoded := decoders_agree_iff " 7:0:1:i:2 " (by decide)
  refine ⟨(padded.1 _ rfl).1.mpr (by decide +kernel), (refused.1 _ rfl).1.mpr (by decide +kernel),
    ⟨_, rfl⟩, ?_⟩
  rcases decoded.2 [⟨7, 0, 1, "i", 2⟩] rfl (by decide +kernel) with ⟨entry, listed, parsed⟩
  cases listed
  exact parsed

/-- A text with an information separator before it is read alone only. -/
theorem decoders_differ_separated :
    ';' ∉ "\x1c1:2:3".toList ∧ parse "\x1c1:2:3" = .ok ⟨1, 2, 3, "-", 0⟩ ∧
      Ast.byteRange? (.text "\x1c1:2:3") = none ∧
      decompress "\x1c1:2:3" = .error (.badSegment "\x1c1:2:3") ∧
      writtenField? 4 "\x1c1:2:3".toList = none ∧
      ¬DecodersAgree "\x1c1:2:3" ⟨1, 2, 3, "-", 0⟩ := by
  have unread : Ast.byteRange? (.text "\x1c1:2:3") = none := rfl
  refine ⟨by decide, rfl, unread, rfl, by decide, ?_⟩
  intro agree
  cases unread.symm.trans agree.byteRange

end Pinpoint.Entry
