import Pinpoint.Proofs.Results
import Pinpoint.SourceMap.Compressed

/-!
# Decoding by the last field

A compressed source map can be decoded without running values. The value of an entry at one of the
five positions is what the last field says that its segment or one before it writes there, and
before any is written it is the value that a map starts with. So an entry is known from the segments
up to its own. A text is refused exactly for a number field that is written and is no numeral, and
the first segment with such a field is the one that is told.
-/

namespace Pinpoint.Entry

/-- The segments of a compressed source map. -/
def segments (text : String) : List (List Char) :=
  Text.fields ';' text.toList

/-- The field that a segment writes at a position, counted from zero; an empty field is not
written. -/
def writtenField? (position : Nat) (segment : List Char) : Option (List Char) :=
  (Text.fields ':' segment)[position]?.filter fun field => !field.isEmpty

/-- The last field that is written at a position. -/
def lastField? (position : Nat) (segments : List (List Char)) : Option (List Char) :=
  (segments.filterMap (writtenField? position)).getLast?

/-- The value of the last field that is written at a position: `first` if there is none, and no
value if the field cannot be read. -/
def lastValue? {α : Type} (read : List Char → Option α) (first : α) (position : Nat)
    (segments : List (List Char)) : Option α :=
  (lastField? position segments).elim (some first) read

/-- A jump is any text. -/
def readJump? (field : List Char) : Option String :=
  some (String.ofList field)

/-- Whether the values of an entry are the last ones that the segments write. -/
structure IsLastOf (segments : List (List Char)) (entry : Entry) : Prop where
  start : lastValue? Text.readInt? 0 0 segments = some entry.start
  length : lastValue? Text.readInt? 0 1 segments = some entry.length
  fileIndex : lastValue? Text.readInt? (-1) 2 segments = some entry.fileIndex
  jump : lastValue? readJump? "-" 3 segments = some entry.jump
  modifierDepth : lastValue? Text.readInt? 0 4 segments = some entry.modifierDepth

/-- The positions of the fields that hold numbers. -/
def numberPositions : List Nat := [0, 1, 2, 4]

/-- Whether a segment writes a number field that is no numeral. -/
def IsMalformed (segment : List Char) : Prop :=
  ∃ position ∈ numberPositions, ∃ field,
    writtenField? position segment = some field ∧ Text.readInt? field = none

instance (segment : List Char) : Decidable (IsMalformed segment) :=
  decidable_of_iff
    (numberPositions.any fun position =>
      (writtenField? position segment).any fun field => (Text.readInt? field).isNone)
    (by simp [IsMalformed, Option.any_eq_true])

/-! ## One field -/

section

variable {α : Type} {read : List Char → Option α} {first previous : α} {position : Nat}
variable {done : List (List Char)} {segment : List Char}

/-- The last segment decides if it writes the field, and otherwise those before it do. -/
theorem lastValue?_append (done : List (List Char)) (segment : List Char) :
    lastValue? read first position (done ++ [segment]) =
      (writtenField? position segment).elim (lastValue? read first position done) read := by
  rw [lastValue?, lastField?, List.filterMap_append, List.getLast?_append, List.filterMap_cons,
    List.filterMap_nil]
  cases writtenField? position segment with
  | none => rfl
  | some field => rfl

/-- A decoder that falls back on the previous value reads the field that is written. -/
theorem ite_isEmpty_field (fallback : Option α) :
    (if ((Text.fields ':' segment).getD position []).isEmpty then fallback
      else read ((Text.fields ':' segment).getD position [])) =
      (writtenField? position segment).elim fallback read := by
  rw [writtenField?, List.getD_eq_getElem?_getD]
  cases (Text.fields ':' segment)[position]? with
  | none => rfl
  | some field => cases field <;> rfl

end

variable {previous entry : Entry} {done : List (List Char)} {segment : List Char}

/-- What a segment leaves out is what the segments before it wrote last. -/
theorem numericField_eq_lastValue? {first value : Int} {position : Nat}
    (carried : lastValue? Text.readInt? first position done = some value) :
    numericField value ((Text.fields ':' segment).getD position []) =
      lastValue? Text.readInt? first position (done ++ [segment]) := by
  rw [numericField, ite_isEmpty_field, lastValue?_append, carried]

theorem jump_eq_lastValue? {first value : String} {position : Nat}
    (carried : lastValue? readJump? first position done = some value) :
    some (if ((Text.fields ':' segment).getD position []).isEmpty then value
      else String.ofList ((Text.fields ':' segment).getD position [])) =
      lastValue? readJump? first position (done ++ [segment]) := by
  rw [lastValue?_append, carried, ← ite_isEmpty_field]
  exact apply_ite some _ _ _

/-! ## One segment -/

/-- An entry is known from the segments that it is the last of. -/
theorem IsLastOf.unique {segments : List (List Char)} {other : Entry}
    (first : IsLastOf segments entry) (second : IsLastOf segments other) : entry = other := by
  rw [Entry.mk.injEq]
  exact ⟨Option.some.inj (first.start.symm.trans second.start),
    Option.some.inj (first.length.symm.trans second.length),
    Option.some.inj (first.fileIndex.symm.trans second.fileIndex),
    Option.some.inj (first.jump.symm.trans second.jump),
    Option.some.inj (first.modifierDepth.symm.trans second.modifierDepth)⟩

/-- The decoder carries the last values from one segment to the next. -/
theorem next_eq_ok_iff (carried : IsLastOf done previous) :
    previous.next segment = .ok entry ↔ IsLastOf (done ++ [segment]) entry := by
  simp only [next, numericField_eq_lastValue? carried.start,
    numericField_eq_lastValue? carried.length, numericField_eq_lastValue? carried.fileIndex,
    numericField_eq_lastValue? carried.modifierDepth]
  split
  next start length fileIndex modifierDepth startEq lengthEq fileIndexEq modifierDepthEq =>
    have last : IsLastOf (done ++ [segment])
        { start, length, fileIndex, modifierDepth, jump := _ } :=
      ⟨startEq, lengthEq, fileIndexEq, (jump_eq_lastValue? carried.jump).symm, modifierDepthEq⟩
    rw [Except.ok.injEq]
    constructor
    · rintro rfl
      exact last
    · exact last.unique
  next missing =>
    constructor
    · intro impossible
      cases impossible
    · intro last
      exact absurd last.modifierDepth (missing _ _ _ _ last.start last.length last.fileIndex)

theorem numericField_eq_none_iff {value : Int} {position : Nat} :
    numericField value ((Text.fields ':' segment).getD position []) = none ↔
      ∃ field, writtenField? position segment = some field ∧ Text.readInt? field = none := by
  rw [numericField, ite_isEmpty_field]
  cases writtenField? position segment with
  | none => simp
  | some field => simp

/-- Whether a segment is refused does not depend on what comes before it. -/
theorem next_eq_error_iff {error : FormatError} :
    previous.next segment = .error error ↔
      IsMalformed segment ∧ error = .badSegment (String.ofList segment) := by
  have malformed : IsMalformed segment ↔
      numericField previous.start ((Text.fields ':' segment).getD 0 []) = none ∨
      numericField previous.length ((Text.fields ':' segment).getD 1 []) = none ∨
      numericField previous.fileIndex ((Text.fields ':' segment).getD 2 []) = none ∨
      numericField previous.modifierDepth ((Text.fields ':' segment).getD 4 []) = none := by
    simp only [IsMalformed, numberPositions, numericField_eq_none_iff, List.mem_cons,
      List.not_mem_nil, or_false, exists_eq_or_imp, exists_eq_left]
  rw [malformed, next]
  split
  next start length fileIndex modifierDepth startEq lengthEq fileIndexEq modifierDepthEq =>
    constructor
    · intro impossible
      cases impossible
    · rintro ⟨missing, -⟩
      rcases missing with missing | missing | missing | missing
      · cases startEq.symm.trans missing
      · cases lengthEq.symm.trans missing
      · cases fileIndexEq.symm.trans missing
      · cases modifierDepthEq.symm.trans missing
  next missing =>
    rw [Except.error.injEq, eq_comm (a := error)]
    refine (and_iff_right (Classical.byContradiction fun present => ?_)).symm
    simp only [not_or, ← ne_eq, Option.ne_none_iff_exists'] at present
    rcases present with ⟨⟨start, startEq⟩, ⟨length, lengthEq⟩, ⟨fileIndex, fileIndexEq⟩,
      modifierDepth, modifierDepthEq⟩
    exact missing start length fileIndex modifierDepth startEq lengthEq fileIndexEq modifierDepthEq

/-! ## All segments -/

variable {pending : List (List Char)} {entries : List Entry}

theorem decodeAfter_cons (previous : Entry) (segment : List Char) (pending : List (List Char)) :
    decodeAfter previous (segment :: pending) = (do
      let entry ← previous.next segment
      (decodeAfter entry pending).map (entry :: ·)) := by
  rw [decodeAfter]
  cases previous.next segment with
  | error error => rfl
  | ok entry =>
      change _ = (decodeAfter entry pending).map (entry :: ·)
      dsimp only
      cases decodeAfter entry pending <;> rfl

/-- A decoder that has the last values of the segments that are done gives, for each segment that
is pending, the last values up to it. -/
theorem decodeAfter_eq_ok_iff (carried : IsLastOf done previous) :
    decodeAfter previous pending = .ok entries ↔ entries.length = pending.length ∧
      ∀ number entry, entries[number]? = some entry →
        IsLastOf (done ++ pending.take (number + 1)) entry := by
  induction pending generalizing done previous entries with
  | nil =>
      rw [decodeAfter, Except.ok.injEq, eq_comm, List.length_nil, List.length_eq_zero_iff]
      refine (and_iff_left_of_imp ?_).symm
      rintro rfl number entry listed
      cases listed
  | cons segment pending ih =>
      rw [decodeAfter_cons, bind_eq_ok]
      simp only [map_eq_ok]
      constructor
      · rintro ⟨first, firstOk, others, othersOk, rfl⟩
        have firstLast := (next_eq_ok_iff carried).mp firstOk
        rcases (ih firstLast).mp othersOk with ⟨lengths, each⟩
        refine ⟨congrArg (· + 1) lengths, ?_⟩
        intro number entry listed
        cases number with
        | zero =>
            cases listed
            exact firstLast
        | succ number => simpa using each number entry listed
      · rintro ⟨lengths, each⟩
        cases entries with
        | nil => cases lengths
        | cons first others =>
            have firstLast := each 0 first rfl
            refine ⟨first, (next_eq_ok_iff carried).mpr firstLast, others,
              (ih firstLast).mpr ⟨Nat.succ.inj lengths, ?_⟩, rfl⟩
            intro number entry listed
            simpa using each (number + 1) entry listed

theorem exists_next_eq_error_iff :
    (∃ error, previous.next segment = .error error) ↔ IsMalformed segment := by
  simp only [next_eq_error_iff]
  exact ⟨fun ⟨_, malformed, _⟩ => malformed, fun malformed => ⟨_, malformed, rfl⟩⟩

theorem exists_decodeAfter_eq_error_iff :
    (∃ error, decodeAfter previous pending = .error error) ↔
      ∃ segment ∈ pending, IsMalformed segment := by
  induction pending generalizing previous with
  | nil => simp [decodeAfter]
  | cons segment pending ih =>
      rw [decodeAfter_cons, exists_bind_eq_error, exists_next_eq_error_iff]
      simp only [map_eq_error, ih]
      cases returned : previous.next segment with
      | error error => simp [(next_eq_error_iff.mp returned).1]
      | ok entry => simp

/-- The first segment that is malformed is the one that is told. -/
theorem decodeAfter_eq_error_iff {error : FormatError} :
    decodeAfter previous pending = .error error ↔
      ∃ before segment after, pending = before ++ segment :: after ∧
        (∀ other ∈ before, ¬IsMalformed other) ∧ IsMalformed segment ∧
        error = .badSegment (String.ofList segment) := by
  induction pending generalizing previous with
  | nil => simp [decodeAfter]
  | cons segment pending ih =>
      rw [decodeAfter_cons, bind_eq_error]
      simp only [map_eq_error, ih]
      constructor
      · rintro (failed | ⟨entry, returned, before, other, after, rfl, sound, later⟩)
        · exact ⟨[], segment, pending, rfl, by simp, next_eq_error_iff.mp failed⟩
        · refine ⟨segment :: before, other, after, rfl, ?_, later⟩
          rw [List.forall_mem_cons]
          refine ⟨fun malformed => ?_, sound⟩
          cases returned.symm.trans (next_eq_error_iff.mpr ⟨malformed, rfl⟩)
      · rintro ⟨before, other, after, split, sound, malformed, rfl⟩
        cases before with
        | nil =>
            cases split
            exact .inl (next_eq_error_iff.mpr ⟨malformed, rfl⟩)
        | cons first before =>
            cases split
            rw [List.forall_mem_cons] at sound
            cases returned : previous.next segment with
            | error cause => exact absurd (next_eq_error_iff.mp returned).1 sound.1
            | ok entry =>
                exact .inr ⟨entry, rfl, before, other, after, rfl, sound.2, malformed, rfl⟩

theorem isLastOf_nil : IsLastOf [] initial :=
  ⟨rfl, rfl, rfl, rfl, rfl⟩

theorem decompress_of_ne_empty {text : String} (nonempty : text ≠ "") :
    decompress text = decodeAfter initial (segments text) := by
  rw [decompress, if_neg (by rwa [String.isEmpty_iff]), segments]

/-- The entries of the first segments are those that the first segments have by themselves. -/
theorem decodeAfter_take (decoded : decodeAfter initial pending = .ok entries) (count : Nat) :
    decodeAfter initial (pending.take count) = .ok (entries.take count) := by
  rw [decodeAfter_eq_ok_iff isLastOf_nil] at decoded ⊢
  rcases decoded with ⟨lengths, each⟩
  refine ⟨by simp [lengths], ?_⟩
  intro number entry listed
  rw [List.getElem?_take] at listed
  split at listed
  next below =>
    rw [List.take_take, Nat.min_eq_left below]
    exact each number entry listed
  next => cases listed

/-- A compressed source map is decoded by its last fields. It is refused exactly when a segment is
malformed, and the first such segment is told. Otherwise each segment has an entry, with the last
values that are written up to the segment. So the entries of maps that share their first segments
are the same as far as the segments are. -/
theorem decompress_last_written (text : String) (nonempty : text ≠ "") :
    ((∃ error, decompress text = .error error) ↔ ∃ segment ∈ segments text, IsMalformed segment) ∧
    (∀ error, decompress text = .error error ↔
      ∃ before segment after, segments text = before ++ segment :: after ∧
        (∀ other ∈ before, ¬IsMalformed other) ∧ IsMalformed segment ∧
        error = .badSegment (String.ofList segment)) ∧
    (∀ entries, decompress text = .ok entries ↔ entries.length = (segments text).length ∧
      ∀ number entry, entries[number]? = some entry →
        IsLastOf ((segments text).take (number + 1)) entry) ∧
    ∀ other others entries count, other ≠ "" → decompress text = .ok entries →
      decompress other = .ok others →
      (segments text).take count = (segments other).take count →
      entries.take count = others.take count := by
  rw [decompress_of_ne_empty nonempty]
  refine ⟨exists_decodeAfter_eq_error_iff, fun error => decodeAfter_eq_error_iff, ?_, ?_⟩
  · intro entries
    exact decodeAfter_eq_ok_iff isLastOf_nil
  · intro other others entries count otherNonempty decoded otherDecoded same
    rw [decompress_of_ne_empty otherNonempty] at otherDecoded
    have taken := decodeAfter_take decoded count
    rw [same, decodeAfter_take otherDecoded count] at taken
    exact (Except.ok.inj taken).symm

/-- In the text `5:7:1:o:2:x;;: 8 ::--:;-2::-1` the second segment writes nothing, and the jump and
the modifier depth of the last entry come from different segments before it. A text that goes on
differently after three segments has the same three entries first. -/
theorem decompress_last_written_carried :
    let entries := [⟨5, 7, 1, "o", 2⟩, ⟨5, 7, 1, "o", 2⟩, ⟨5, 8, 1, "--", 2⟩, ⟨-2, 8, -1, "--", 2⟩]
    decompress "5:7:1:o:2:x;;: 8 ::--:;-2::-1" = .ok entries ∧
      (∀ number entry, entries[number]? = some entry →
        IsLastOf ((segments "5:7:1:o:2:x;;: 8 ::--:;-2::-1").take (number + 1)) entry) ∧
      (∀ others, decompress "5:7:1:o:2:x;;: 8 ::--:;:::;9" = .ok others →
        entries.take 3 = others.take 3) ∧
      decompress "5:7:1;:x;9::y" = .error (.badSegment ":x") := by
  intro entries
  have decoded : decompress "5:7:1:o:2:x;;: 8 ::--:;-2::-1" = .ok entries := rfl
  have carried := decompress_last_written "5:7:1:o:2:x;;: 8 ::--:;-2::-1" (by decide)
  have refused := decompress_last_written "5:7:1;:x;9::y" (by decide)
  refine ⟨decoded, ((carried.2.2.1 entries).mp decoded).2, ?_, ?_⟩
  · intro others otherDecoded
    have shared : (segments "5:7:1:o:2:x;;: 8 ::--:;-2::-1").take 3 =
        (segments "5:7:1:o:2:x;;: 8 ::--:;:::;9").take 3 := by decide +kernel
    exact carried.2.2.2 _ others entries 3 (by decide) decoded otherDecoded shared
  · exact (refused.2.1 _).mpr
      ⟨[['5', ':', '7', ':', '1']], [':', 'x'], [['9', ':', ':', 'y']], by decide +kernel,
        by decide +kernel, by decide +kernel, rfl⟩

end Pinpoint.Entry
