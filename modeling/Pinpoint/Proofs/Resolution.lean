import Pinpoint.Proofs.Numerals
import Pinpoint.Proofs.Suppression

/-!
# The ways to a span

A place in a bytecode can be named by its offset, by a text whose first field is that offset, or by
the text of the entry that belongs to it; and a span can be asked of a contract, of its code map or
of the line index of one file. The guards on these ways differ, and yet they all give one span.
-/

namespace Pinpoint

open Text (isWritable writeInt joinFields)

/-! ## Written entries -/

namespace Entry

/-- The text of an entry of which only the three numbers are written. -/
def shortText (start length fileIndex : Int) : String :=
  String.ofList (joinFields ':' [writeInt start, writeInt length, writeInt fileIndex])

/-- Whether the numbers of an entry have few enough digits to be written. -/
structure Writable (entry : Entry) : Prop where
  start : isWritable entry.start = true
  length : isWritable entry.length = true
  fileIndex : isWritable entry.fileIndex = true

/-- What is written of an entry is read back. -/
theorem parse_shortText {start length fileIndex : Int} (startWritable : isWritable start = true)
    (lengthWritable : isWritable length = true) (indexWritable : isWritable fileIndex = true) :
    parse (shortText start length fileIndex) = .ok { initial with start, length, fileIndex } := by
  have unpadded : Text.strip (shortText start length fileIndex).toList =
      joinFields ':' [writeInt start, writeInt length, writeInt fileIndex] := by
    rw [shortText, String.toList_ofList]
    apply Text.trim_of_unpadded
    intro character member
    rcases Text.mem_joinFields member with rfl | ⟨text, listed, member⟩
    · decide
    · simp only [List.mem_cons, List.not_mem_nil, or_false] at listed
      rcases listed with rfl | rfl | rfl <;> exact Text.isBlank_of_mem_writeInt member
  rw [parse, unpadded, Text.fields_joinFields (List.cons_ne_nil _ _)]
  · simp [Text.readInt?_writeInt, startWritable, lengthWritable, indexWritable]
  · simp [Text.colon_not_mem_writeInt]

theorem isWritable_of_numericField {previous value : Int} {field : List Char}
    (writable : isWritable previous = true) (read : numericField previous field = some value) :
    isWritable value = true := by
  rw [numericField] at read
  split at read
  next =>
    cases read
    exact writable
  next => exact Text.isWritable_of_readInt? read

theorem writable_initial : initial.Writable where
  start := Text.isWritable_of_lt_ten (by decide)
  length := Text.isWritable_of_lt_ten (by decide)
  fileIndex := Text.isWritable_of_lt_ten (by decide)

theorem writable_of_next {previous entry : Entry} {segment : List Char}
    (writable : previous.Writable) (returned : previous.next segment = .ok entry) :
    entry.Writable := by
  rw [next] at returned
  split at returned
  next start length fileIndex _ =>
    cases returned
    exact ⟨isWritable_of_numericField writable.start start,
      isWritable_of_numericField writable.length length,
      isWritable_of_numericField writable.fileIndex fileIndex⟩
  next => cases returned

/-- The entries of a compressed map repeat numbers that are written in it, so each of them could
be written alone. -/
theorem writable_of_decodeAfter {previous : Entry} {segments : List (List Char)}
    {entries : List Entry} (writable : previous.Writable)
    (decoded : decodeAfter previous segments = .ok entries) :
    ∀ entry ∈ entries, entry.Writable := by
  induction segments generalizing previous entries with
  | nil =>
      cases decoded
      simp
  | cons segment segments ih =>
      rw [decodeAfter] at decoded
      split at decoded
      next => cases decoded
      next entry returned =>
        have entryWritable := writable_of_next writable returned
        split at decoded
        next => cases decoded
        next rest restDecoded =>
          cases decoded
          exact List.forall_mem_cons.mpr ⟨entryWritable, ih entryWritable restDecoded⟩

theorem writable_of_decompress {text : String} {entries : List Entry}
    (decoded : decompress text = .ok entries) : ∀ entry ∈ entries, entry.Writable := by
  rw [decompress] at decoded
  split at decoded
  next =>
    cases decoded
    simp
  next => exact writable_of_decodeAfter writable_initial decoded

end Entry

/-! ## Builds -/

theorem Json.items_ne_nil {value : Json} {items : List Json} (present : value.isPresent = true)
    (listed : value.items = .ok items) : items ≠ [] := by
  cases value with
  | list | object =>
      cases listed
      simpa [isPresent] using present
  | text =>
      cases listed
      simpa [isPresent] using present
  | null | bool | number => cases listed

theorem Json.isPresent_orElse {value fallback : Json} (present : fallback.isPresent = true) :
    (value.orElse fallback).isPresent = true := by
  rw [orElse]
  split
  next => assumption
  next => exact present

namespace Artifact

/-- The list of sources of a build has at least one. -/
theorem sourceList_ne_nil {build : Json} {artifact : Artifact}
    (built : ofJson build = .ok artifact) : artifact.sourceList ≠ [] := by
  rcases bind_eq_ok.mp built with ⟨_, -, built⟩
  rcases bind_eq_ok.mp built with ⟨sourcePath, -, built⟩
  split at built
  next =>
    rcases bind_eq_ok.mp built with ⟨_, -, built⟩
    rcases bind_eq_ok.mp built with ⟨_, -, built⟩
    rcases bind_eq_ok.mp built with ⟨sources, listed, built⟩
    rcases bind_eq_ok.mp built with ⟨_, -, built⟩
    rcases bind_eq_ok.mp built with ⟨_, -, built⟩
    rcases bind_eq_ok.mp built with ⟨_, -, built⟩
    rcases bind_eq_ok.mp built with ⟨_, -, built⟩
    cases built
    have some := Json.items_ne_nil (Json.isPresent_orElse rfl) (mapError_eq_ok.mp listed)
    simpa using some
  next => cases built

/-- An entry that a bytecode offset leads to could be written alone. -/
theorem writable_of_entryAt {artifact : Artifact} {map : Bytecode.CodeMap} {offset : Int}
    {entry : Entry} (mapped : artifact.codeMap = .ok map)
    (found : map.entryAt offset = .ok (some entry)) : entry.Writable := by
  rcases bind_eq_ok.mp mapped with ⟨table, -, mapped⟩
  rcases bind_eq_ok.mp mapped with ⟨entries, decoded, mapped⟩
  cases mapped
  have listed := (Bytecode.CodeMap.mem_of_entryAt found).1
  rw [deployedEntries] at decoded
  split at decoded
  next => cases decoded
  next =>
    split at decoded
    next => cases decoded
    next decompressed =>
      cases decoded
      exact Entry.writable_of_decompress decompressed entry listed

end Artifact

/-! ## Spans -/

namespace Contract

variable {contract : Contract} {location : Location} {format : String} {sourceList : List Json}
variable {entry : Entry} {names : List Json}

theorem resolve_of_denotes (denotes : contract.Denotes location sourceList format entry names) :
    contract.resolve location format sourceList =
      (contract.spanOf entry names).mapError .shape := by
  rw [resolve, denotes_iff.mp denotes]
  rfl

/-- Against names that are texts, an entry has a span if only the unresolved one. -/
theorem exists_spanOf_texts (contract : Contract) (entry : Entry) (listed : List String) :
    ∃ span, contract.spanOf entry (listed.map .text) = .ok span := by
  cases named : fileNameAt? (listed.map .text) entry.fileIndex with
  | none => exact ⟨.unresolved, by rw [spanOf, named]⟩
  | some name =>
      have member := List.mem_of_getElem? (fileNameAt?_eq_some.mp named).2.1
      rcases List.mem_map.mp member with ⟨text, -, rfl⟩
      exact ⟨_, spanOf_of_named named⟩

/-- A text is read as it stands. -/
theorem sourceMapText_text (text : String) (address : Option Int) :
    Location.sourceMapText ⟨.text text, address⟩ = .ok text := by
  rw [Location.sourceMapText, Json.textIfPresent]
  split
  next => rfl
  next absent => simp_all [Json.isPresent]

/-- The ways that lead to the span of the entry at a bytecode offset. -/
structure Agree (contract : Contract) (map : Bytecode.CodeMap) (offset : Int) (entry : Entry)
    (span : Span) : Prop where
  /-- The offset as an address. -/
  address : ∀ sourceMap sourceList,
    contract.resolve ⟨sourceMap, some offset⟩ bytecodeFormat sourceList = .ok span
  /-- The offset as the first number of any text that can be read. -/
  firstField : ∀ text written sourceList, Entry.parse text = .ok written →
    written.start = offset →
    contract.resolve ⟨.text text, none⟩ bytecodeFormat sourceList = .ok span
  /-- The offset written with two other numbers. -/
  shortText : ∀ length fileIndex sourceList, isWritable offset = true →
    isWritable length = true → isWritable fileIndex = true →
    contract.resolve ⟨.text (Entry.shortText offset length fileIndex), none⟩ bytecodeFormat
      sourceList = .ok span
  /-- The entry itself, written where entries are. -/
  entryText : ∀ address format, format ≠ bytecodeFormat →
    contract.resolve
      ⟨.text (Entry.shortText entry.start entry.length entry.fileIndex), address⟩ format
      (contract.artifact.sourceList.map .text) = .ok span
  /-- The entry and the offset in the file that the entry names. -/
  file : ∀ name index, 0 ≤ entry.fileIndex →
    contract.artifact.sourceList[entry.fileIndex.toNat]? = some name →
    contract.lineIndex? name = some index →
    index.spanOfText (Entry.shortText entry.start entry.length entry.fileIndex) = .ok span ∧
      map.spanAt offset index = .ok span

theorem agree_of_entryAt {build : Json} {map : Bytecode.CodeMap} {offset : Int} {span : Span}
    (built : Artifact.ofJson build = .ok contract.artifact)
    (mapped : contract.artifact.codeMap = .ok map) (found : map.entryAt offset = .ok (some entry))
    (spanOk : contract.spanOf entry (contract.artifact.sourceList.map .text) = .ok span) :
    contract.Agree map offset entry span := by
  have writable := Artifact.writable_of_entryAt mapped found
  have parsed := Entry.parse_shortText writable.start writable.length writable.fileIndex
  have named : entry.hasSource = true := (Bytecode.CodeMap.mem_of_entryAt found).2
  have byOffset (location : Location) (sourceList : List Json)
      (located : location.bytecodeOffset = .ok offset) :
      contract.resolve location bytecodeFormat sourceList = .ok span := by
    rw [resolve_of_denotes (.instruction mapped located found),
      if_neg (Artifact.sourceList_ne_nil built), spanOk]
    rfl
  have byFirstField (text : String) (written : Entry) (sourceList : List Json)
      (read : Entry.parse text = .ok written) (start : written.start = offset) :
      contract.resolve ⟨.text text, none⟩ bytecodeFormat sourceList = .ok span := by
    apply byOffset
    rw [← start]
    refine bind_eq_ok.mpr ⟨text, mapError_eq_ok.mpr (sourceMapText_text text none), ?_⟩
    exact bind_eq_ok.mpr ⟨written, mapError_eq_ok.mpr read, rfl⟩
  constructor
  case address => exact fun sourceMap sourceList => byOffset _ sourceList rfl
  case firstField => exact byFirstField
  case shortText =>
    intro length fileIndex sourceList offsetWritable lengthWritable indexWritable
    exact byFirstField _ _ sourceList
      (Entry.parse_shortText offsetWritable lengthWritable indexWritable) rfl
  case entryText =>
    intro address format other
    rw [resolve_of_denotes (.written other (sourceMapText_text _ _) parsed named)]
    exact mapError_eq_ok.mpr spanOk
  case file =>
    intro name index nonneg listed indexed
    have nameFound : fileNameAt? (contract.artifact.sourceList.map .text) entry.fileIndex =
        some (.text name) := fileNameAt?_eq_some.mpr ⟨nonneg, by simp [listed], rfl⟩
    rw [spanOf_of_named nameFound, indexed, Option.elim_some] at spanOk
    cases spanOk
    constructor
    · have notGenerated : entry.fileIndex ≠ noFile := by
        rw [noFile]
        omega
      rw [LineIndex.spanOfText, parsed]
      exact congrArg Except.ok (if_neg notGenerated)
    · exact bind_eq_ok.mpr ⟨_, found, rfl⟩

/-- All ways to the span of a place in a bytecode give the same one, whatever sources the batch
lists. A text that is not an entry is refused for the same reason wherever one is read. -/
theorem resolutions_agree {contract : Contract} {build : Json} {map : Bytecode.CodeMap}
    (built : Artifact.ofJson build = .ok contract.artifact)
    (mapped : contract.artifact.codeMap = .ok map) :
    (∀ offset entry, map.entryAt offset = .ok (some entry) →
      ∃ span, contract.Agree map offset entry span) ∧
    ∀ text error, Entry.parse text = .error error →
      (∀ address format sourceList, format ≠ bytecodeFormat →
        contract.resolve ⟨.text text, address⟩ format sourceList = .error (.format error)) ∧
      ∀ index : LineIndex, index.spanOfText text = .error error := by
  constructor
  · intro offset entry found
    rcases exists_spanOf_texts contract entry contract.artifact.sourceList with ⟨span, spanOk⟩
    exact ⟨span, agree_of_entryAt built mapped found spanOk⟩
  · intro text error refused
    constructor
    · intro address format sourceList other
      have unread : contract.locate ⟨.text text, address⟩ format sourceList =
          .error (.format error) := by
        rw [locate, if_neg other]
        refine bind_eq_error.mpr (.inr ⟨text, ?_, bind_eq_error.mpr (.inl ?_)⟩)
        · exact mapError_eq_ok.mpr (sourceMapText_text text address)
        · exact mapError_eq_error.mpr ⟨error, refused, rfl⟩
      exact bind_eq_error.mpr (.inl unread)
    · intro index
      rw [LineIndex.spanOfText, refused]

/-- The build of a contract with a push and a store. -/
def storeBuild : Json :=
  .object [("contractName", .text "Vault"), ("sourcePath", .text "src/v.sol"),
    ("deployedBytecode", .text "0x600055"), ("deployedSourceMap", .text "0:1:0;2:3")]

/-- The contract of that build with its source, which is found by its file name. -/
def storeContract : Contract :=
  { artifact :=
      { contractName := "Vault", sourcePath := "src/v.sol", deployedBytecode := "0x600055"
        sourceMap := "", deployedSourceMap := "0:1:0;2:3", ast := .null
        sourceList := ["src/v.sol"] }
    lineIndexes := [("v.sol", .ofBytes [0x61, 0x0A, 0x62, 0x63, 0x0A] "v.sol")] }

/-- Its code and its source map. -/
def storeMap : Bytecode.CodeMap :=
  ⟨.ofCode [0x60, 0x00, 0x55], [⟨0, 1, 0, "-", 0⟩, ⟨2, 3, 0, "-", 0⟩]⟩

theorem codeMap_store : storeContract.artifact.codeMap = .ok storeMap := by
  with_unfolding_all rfl

theorem entryAt_storeMap : storeMap.entryAt 2 = .ok (some ⟨2, 3, 0, "-", 0⟩) := by
  have push : Bytecode.Walk [0x60, 0x00, 0x55] 0 0 := .first (by decide)
  have store : Bytecode.Walk [0x60, 0x00, 0x55] 1 2 := push.next rfl (by decide)
  have listed : storeMap.entries[1]? = some ⟨2, 3, 0, "-", 0⟩ := rfl
  exact Bytecode.CodeMap.entryAt_of_walk store listed

/-- The store starts at the offset 2, and its entry reaches from the second line to the third. -/
theorem resolutions_agree_store :
    ∃ map : Bytecode.CodeMap, storeContract.artifact.codeMap = .ok map ∧
      storeContract.resolve ⟨.null, some 2⟩ bytecodeFormat [] = .ok ⟨⟨2, 0⟩, some ⟨3, 0⟩⟩ ∧
      storeContract.resolve ⟨.text "2:7:-1", none⟩ bytecodeFormat [.text "w.sol"] =
        .ok ⟨⟨2, 0⟩, some ⟨3, 0⟩⟩ ∧
      storeContract.resolve ⟨.text "2:3:0", none⟩ "text" [.text "src/v.sol"] =
        .ok ⟨⟨2, 0⟩, some ⟨3, 0⟩⟩ ∧
      (LineIndex.ofBytes [0x61, 0x0A, 0x62, 0x63, 0x0A] "v.sol").spanOfText "2:3:0" =
        .ok ⟨⟨2, 0⟩, some ⟨3, 0⟩⟩ ∧
      map.spanAt 2 (.ofBytes [0x61, 0x0A, 0x62, 0x63, 0x0A] "v.sol") =
        .ok ⟨⟨2, 0⟩, some ⟨3, 0⟩⟩ ∧
      storeContract.resolve ⟨.text "2:3", none⟩ "text" [] =
        .error (.format (.tooFewFields "2:3")) := by
  have built : Artifact.ofJson storeBuild = .ok storeContract.artifact := rfl
  rcases resolutions_agree built codeMap_store with ⟨agree, refuse⟩
  rcases agree 2 _ entryAt_storeMap with ⟨span, ways⟩
  have written : storeContract.resolve ⟨.text "2:3:0", none⟩ "text" [.text "src/v.sol"] =
      .ok ⟨⟨2, 0⟩, some ⟨3, 0⟩⟩ := rfl
  have equal := (ways.entryText none "text" (by decide)).symm.trans written
  cases equal
  have inFile := ways.file "src/v.sol" _ (by decide) rfl rfl
  refine ⟨_, codeMap_store, ways.address .null [], ?_, written, inFile.1, inFile.2, ?_⟩
  · exact ways.firstField "2:7:-1" ⟨2, 7, -1, "-", 0⟩ [.text "w.sol"] rfl rfl
  · exact (refuse "2:3" _ rfl).1 none "text" [] (by decide)

end Contract

end Pinpoint
