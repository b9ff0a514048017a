import Pinpoint.Proofs.Suppression

/-!
# What stops a batch

A malformed location is an outcome like the others. What stops a batch is either an artifact whose
code cannot be mapped, and only in the bytecode format, or a value that does not have the shape
which its use asks of it. There are four such uses: the source-map text of a location, an offset
without an entry, which is noted, the name that an entry points to, and the type of the declaration
around an entry of the main source.
-/

namespace Pinpoint

namespace Ast

/-! ## Declarations whose type cannot be told -/

/-- Whether the members of a declaration give it a type that has a list or an object for its
name. -/
def HasNamelessType (members : List (String × Json)) : Prop :=
  ∃ typeMembers, Json.find? "typeName" members = some (.object typeMembers) ∧
    ∃ name, Json.find? "nodeType" typeMembers = some name ∧ name.isName = false

/-- Whether a list of declarations comes to one with a nameless type before it comes to one of a
dynamically sized array. -/
def ListsNamelessType (declarations : List Json) : Prop :=
  ∃ before members after, declarations = before ++ .object members :: after ∧
    HasNamelessType members ∧ ∀ other, .object other ∈ before → ¬HasDynamicArrayType other

/-- Whether it cannot be told if a node declares a dynamically sized array: it is a declaration of
a nameless type, or a declaration statement whose declarations have no items or come to such a
declaration. -/
def Node.Undecided (node : Node) : Prop :=
  (node.nodeType = "VariableDeclaration" ∧ HasNamelessType node.members) ∨
  (node.nodeType = "VariableDeclarationStatement" ∧
    ∃ declarations, Json.find? "declarations" node.members = some declarations ∧
      ((declarations.isPresent = true ∧ declarations.items = .error .notSequence) ∨
        ∃ items, declarations = .list items ∧ ListsNamelessType items))

theorem declaresDynamicArray_eq_error {members : List (String × Json)} :
    (∃ error, declaresDynamicArray members = .error error) ↔ HasNamelessType members := by
  rw [declaresDynamicArray, HasNamelessType]
  split
  next typeMembers typeName =>
    simp only [typeName, Option.some.injEq, Json.object.injEq, exists_eq_left']
    cases nodeType : Json.find? "nodeType" typeMembers with
    | none => simp
    | some name => cases name <;> simp [Json.isName]
  next notObject =>
    apply iff_of_false not_exists_ok_eq_error
    rintro ⟨typeMembers, typeName, -⟩
    exact notObject typeMembers typeName

theorem not_hasNamelessType {members : List (String × Json)} {answer : Bool}
    (returned : declaresDynamicArray members = .ok answer) : ¬HasNamelessType members := by
  intro nameless
  rcases declaresDynamicArray_eq_error.mpr nameless with ⟨error, failed⟩
  cases returned.symm.trans failed

theorem listsNamelessType_cons {first : Json} {rest : List Json} :
    ListsNamelessType (first :: rest) ↔
      (∃ members, first = .object members ∧ HasNamelessType members) ∨
        ListsNamelessType rest ∧ ∀ members, first = .object members →
          ¬HasDynamicArrayType members := by
  constructor
  · rintro ⟨before, members, after, listed, nameless, others⟩
    cases before with
    | nil =>
        cases listed
        exact .inl ⟨members, rfl, nameless⟩
    | cons head before =>
        cases listed
        refine .inr ⟨⟨before, members, after, rfl, nameless, ?_⟩, ?_⟩
        · exact fun other member => others other (List.mem_cons_of_mem _ member)
        · rintro other rfl
          exact others other List.mem_cons_self
  · rintro (⟨members, rfl, nameless⟩ | ⟨⟨before, members, after, rfl, nameless, others⟩, static⟩)
    · exact ⟨[], members, rest, rfl, nameless, fun _ member => absurd member List.not_mem_nil⟩
    · refine ⟨first :: before, members, after, rfl, nameless, ?_⟩
      intro other member
      rcases List.mem_cons.mp member with same | member
      · exact static other same.symm
      · exact others other member

theorem anyDeclaresDynamicArray_eq_error {declarations : List Json} :
    (∃ error, anyDeclaresDynamicArray declarations = .error error) ↔
      ListsNamelessType declarations := by
  fun_induction anyDeclaresDynamicArray declarations with
  | case1 =>
      apply iff_of_false not_exists_ok_eq_error
      rintro ⟨before, members, after, impossible, -⟩
      exact absurd impossible (by simp)
  | case2 members rest error failed =>
      have nameless := declaresDynamicArray_eq_error.mp ⟨error, failed⟩
      exact ⟨fun _ => listsNamelessType_cons.mpr (.inl ⟨members, rfl, nameless⟩),
        fun _ => ⟨error, rfl⟩⟩
  | case3 members rest found =>
      rw [listsNamelessType_cons]
      apply iff_of_false not_exists_ok_eq_error
      rintro (⟨_, same, nameless⟩ | ⟨-, static⟩)
      · cases same
        exact not_hasNamelessType found nameless
      · exact static members rfl ((declaresDynamicArray_eq_ok found).mp rfl)
  | case4 members rest found ih =>
      rw [ih, listsNamelessType_cons]
      constructor
      · intro later
        refine .inr ⟨later, ?_⟩
        rintro _ ⟨⟩
        exact mt (declaresDynamicArray_eq_ok found).mpr Bool.false_ne_true
      · rintro (⟨_, same, nameless⟩ | ⟨later, -⟩)
        · cases same
          exact absurd nameless (not_hasNamelessType found)
        · exact later
  | case5 rest first notObject ih =>
      rw [ih, listsNamelessType_cons]
      constructor
      · exact fun later => .inr ⟨later, fun members same => absurd same (notObject members)⟩
      · rintro (⟨members, same, -⟩ | ⟨later, -⟩)
        · exact absurd same (notObject members)
        · exact later

theorem itemsIfPresent_eq_error {value : Json} :
    (∃ error, value.itemsIfPresent = .error error) ↔
      value.isPresent = true ∧ value.items = .error .notSequence := by
  rw [Json.itemsIfPresent]
  split
  next present => cases value <;> simp [present, Json.items]
  next absent => simp [absent]

theorem itemsIfPresent_list (items : List Json) : (Json.list items).itemsIfPresent = .ok items := by
  cases items <;> rfl

/-- Going through what a value is made of fails when the value has no items, or is a list that comes
to a nameless type. -/
theorem itemsDeclareDynamicArray_eq_error {value : Json} :
    (∃ error, (value.itemsIfPresent >>= anyDeclaresDynamicArray) = .error error) ↔
      (value.isPresent = true ∧ value.items = .error .notSequence) ∨
        ∃ items, value = .list items ∧ ListsNamelessType items := by
  rw [exists_bind_eq_error, itemsIfPresent_eq_error]
  simp only [anyDeclaresDynamicArray_eq_error]
  apply or_congr Iff.rfl
  constructor
  · rintro ⟨items, listed, nameless⟩
    -- Only the items of a list can be objects, so the value is the list of its items.
    have whole := nameless
    rcases nameless with ⟨before, members, after, rfl, -⟩
    rcases (object_mem_itemsIfPresent listed).mp
      (List.mem_append_right _ List.mem_cons_self) with ⟨items, rfl, -⟩
    rw [itemsIfPresent_list] at listed
    cases listed
    exact ⟨_, rfl, whole⟩
  · rintro ⟨items, rfl, nameless⟩
    exact ⟨items, itemsIfPresent_list items, nameless⟩

theorem Node.isDynamicArray_eq_error {node : Node} (kind : node.kind = .ofType node.nodeType)
    (types : node.nodeType = "VariableDeclaration" ∨
      node.nodeType = "VariableDeclarationStatement") :
    (∃ error, node.isDynamicArray = .error error) ↔ node.Undecided := by
  have declared : node.kind = .declaration := by
    rw [kind, NodeKind.ofType]
    exact if_pos types
  have other : "VariableDeclarationStatement" ≠ "VariableDeclaration" := by decide
  simp only [isDynamicArray, declared, declarationStatement, Undecided]
  rcases types with plain | statement
  · simp only [plain, other.symm, if_false, true_and, false_and, or_false]
    exact declaresDynamicArray_eq_error
  · simp only [statement, other, if_true, true_and, false_and, false_or]
    rw [itemsDeclareDynamicArray_eq_error]
    cases Json.find? "declarations" node.members with
    | none => simp [Json.isPresent]
    | some declarations => simp

theorem Node.Undecided.types {node : Node} (undecided : node.Undecided) :
    node.nodeType = "VariableDeclaration" ∨ node.nodeType = "VariableDeclarationStatement" := by
  rcases undecided with ⟨plain, -⟩ | ⟨statement, -⟩
  · exact .inl plain
  · exact .inr statement

/-- It cannot be told if a byte range belongs to a declaration of a dynamically sized array when it
cannot be told of the node that is taken for it. -/
theorem isDynamicArrayDeclaration_eq_error {ast : Json} {start length : Int}
    (startNonneg : 0 ≤ start) (lengthNonneg : 0 ≤ length) :
    (∃ error, isDynamicArrayDeclaration ast start length = .error error) ↔
      ∃ node, Chosen (nodesAround ast start length) node ∧ node.Undecided := by
  simp only [← enclosing?_eq_some_iff startNonneg lengthNonneg]
  rw [isDynamicArrayDeclaration]
  cases found : enclosing? ast start length with
  | none => simp
  | some node =>
      have chosen := (enclosing?_eq_some_iff startNonneg lengthNonneg).mp found
      have kind := kind_of_mem_nodes (List.mem_filter.mp chosen.mem).1
      simp only [Option.some.injEq, exists_eq_left']
      split
      next declaration =>
        have declared := (Node.isVariableDeclaration_iff kind).mp declaration
        exact node.isDynamicArray_eq_error kind declared
      next other =>
        have declared := mt (Node.isVariableDeclaration_iff kind).mpr other
        exact iff_of_false not_exists_ok_eq_error (mt Node.Undecided.types declared)

end Ast

/-! ## Values of the wrong shape -/

theorem Json.asText_eq_error {value : Json} :
    (∃ error, value.asText = .error error) ↔ ∀ text, value ≠ .text text := by
  cases value <;> simp [Json.asText]

/-- Whether something that is not a text stands in the place of the source-map text of a
location. -/
def Location.Untextual (location : Location) : Prop :=
  location.sourceMap.isPresent = true ∧ ∀ text, location.sourceMap ≠ .text text

theorem Location.untextual_iff {location : Location} :
    location.Untextual ↔ ∃ error, location.sourceMapText = .error error := by
  rw [Untextual, sourceMapText, Json.textIfPresent]
  split
  next present => simp only [present, true_and, Json.asText_eq_error]
  next absent => simp [absent]

/-- A location is attributed to a source unless its source-map text is not a text. -/
theorem Location.slot_eq_error {location : Location} {sourceCount : Nat} :
    (∃ error, location.slot sourceCount = .error error) ↔ location.Untextual := by
  rw [slot, Untextual]
  split
  next present =>
    rw [exists_bind_eq_error_of_ok, Json.asText_eq_error]
    · simp only [present, true_and]
    · intro text
      split
      · exact ⟨_, rfl⟩
      · split <;> exact ⟨_, rfl⟩
  next absent => exact iff_of_false not_exists_ok_eq_error fun untextual => absent untextual.1

/-- The table of a code map is that of a code. -/
theorem Artifact.exists_code_of_codeMap {artifact : Artifact} {map : Bytecode.CodeMap}
    (mapped : artifact.codeMap = .ok map) : ∃ code, map.table = .ofCode code := by
  rcases bind_eq_ok.mp mapped with ⟨table, decoded, mapped⟩
  rcases bind_eq_ok.mp mapped with ⟨entries, -, mapped⟩
  cases mapped
  rw [instructionTable] at decoded
  split at decoded
  next => cases decoded
  next =>
    split at decoded
    next => cases decoded
    next code _ =>
      cases decoded
      exact ⟨code, rfl⟩

namespace Contract

variable {contract : Contract} {options : Options} {issue : Issue} {location : Location}
variable {entry : Entry} {names sourceList : List Json} {format : String} {attributedTo : Json}

/-- Whether the name that an entry points to is neither null nor a text. -/
def Misnames (entry : Entry) (names : List Json) : Prop :=
  ∃ name, 0 ≤ entry.fileIndex ∧ names[entry.fileIndex.toNat]? = some name ∧
    name.isNull = false ∧ ∀ text, name ≠ .text text

theorem misnames_iff :
    Misnames entry names ↔
      ∃ name, fileNameAt? names entry.fileIndex = some name ∧ ∀ text, name ≠ .text text := by
  simp only [Misnames, fileNameAt?_eq_some, and_assoc]

theorem isMainSource_eq_error :
    (∃ error, contract.isMainSource entry names = .error error) ↔ Misnames entry names := by
  rw [isMainSource, misnames_iff]
  cases fileNameAt? names entry.fileIndex with
  | none => simp
  | some name =>
      simp only [Option.some.injEq, exists_eq_left']
      rw [exists_bind_eq_error_of_ok, Json.asText_eq_error]
      exact fun text => ⟨_, rfl⟩

theorem lineIndexOf_eq_error {name : Json} :
    (∃ error, contract.lineIndexOf name = .error error) ↔ ∀ text, name ≠ .text text := by
  cases name <;> simp [lineIndexOf]

theorem spanOf_eq_error :
    (∃ error, contract.spanOf entry names = .error error) ↔ Misnames entry names := by
  rw [spanOf, misnames_iff]
  cases fileNameAt? names entry.fileIndex with
  | none => simp
  | some name =>
      simp only [Option.some.injEq, exists_eq_left']
      rw [exists_bind_eq_error_of_ok, lineIndexOf_eq_error]
      intro index
      cases index <;> exact ⟨_, rfl⟩

theorem isMainSource_of_pointsToMain (main : contract.PointsToMain entry names) :
    contract.isMainSource entry names = .ok true := by
  rcases main with ⟨name, nonneg, listed, same⟩
  have found : fileNameAt? names entry.fileIndex = some (.text name) :=
    fileNameAt?_eq_some.mpr ⟨nonneg, listed, rfl⟩
  rw [isMainSource, found]
  exact congrArg Except.ok (beq_iff_eq.mpr same)

/-- Whether an entry of the main source lies at a declaration of which it cannot be told if it is
of a dynamically sized array. -/
def AtUndecided (contract : Contract) (entry : Entry) (names : List Json) : Prop :=
  contract.PointsToMain entry names ∧ ∃ node,
    Ast.Chosen (Ast.nodesAround contract.artifact.ast entry.start entry.length) node ∧
      node.Undecided

theorem suppresses_eq_error (named : entry.hasSource = true) :
    (∃ error, contract.suppresses options issue entry names = .error error) ↔
      Misnames entry names ∨
        issue.ruleId ∈ options.suppressibleRules ∧ contract.AtUndecided entry names := by
  rcases (Bytecode.hasSource_iff entry).mp named with ⟨-, startNonneg, lengthNonneg⟩
  rw [suppresses, exists_bind_eq_error, isMainSource_eq_error]
  apply or_congr Iff.rfl
  constructor
  · rintro ⟨main, mainOk, failed⟩
    cases main with
    | false => exact absurd failed not_exists_ok_eq_error
    | true =>
        simp only [if_true] at failed
        split at failed
        next listed =>
          exact ⟨List.contains_iff_mem.mp listed, (isMainSource_eq_ok mainOk).mp rfl,
            (Ast.isDynamicArrayDeclaration_eq_error startNonneg lengthNonneg).mp failed⟩
        next unlisted => exact absurd failed not_exists_ok_eq_error
  · rintro ⟨listed, main, undecided⟩
    refine ⟨true, isMainSource_of_pointsToMain main, ?_⟩
    simp only [if_true, List.contains_iff_mem.mpr listed]
    exact (Ast.isDynamicArrayDeclaration_eq_error startNonneg lengthNonneg).mpr undecided

/-- What becomes of an issue at an entry is settled unless the entry points to a name that is not a
text, or the declaration that it lies at has no type. -/
theorem outcomeAt_eq_error (named : entry.hasSource = true) :
    (∃ error, contract.outcomeAt options issue entry names attributedTo = .error error) ↔
      Misnames entry names ∨
        issue.ruleId ∈ options.suppressibleRules ∧ contract.AtUndecided entry names := by
  rw [outcomeAt, exists_bind_eq_error, suppresses_eq_error named]
  constructor
  · rintro (stopped | ⟨suppressed, answered, failed⟩)
    · exact stopped
    · cases suppressed with
      | true => exact absurd failed not_exists_ok_eq_error
      | false =>
          have unnamed := (exists_bind_eq_error_of_ok fun span => ⟨_, rfl⟩).mp failed
          exact .inl (spanOf_eq_error.mp unnamed)
  · exact .inl

/-! ## Locations -/

/-- Reading the entry of a location fails because its text is none, or malformed. -/
theorem readEntry_eq_error {α : Type} {next : Entry → Except Fault α} {fault : Fault}
    (nextOk : ∀ entry, ∃ result, next entry = .ok result)
    (failed : (do
      let text ← location.sourceMapText.mapError Fault.shape
      let entry ← (Entry.parse text).mapError Fault.format
      next entry) = .error fault) :
    (∃ error, fault = .shape error ∧ location.Untextual) ∨ ∃ error, fault = .format error := by
  rcases bind_eq_error.mp failed with unreadable | ⟨text, -, failed⟩
  · rcases mapError_eq_error.mp unreadable with ⟨error, textError, rfl⟩
    exact .inl ⟨error, rfl, Location.untextual_iff.mpr ⟨error, textError⟩⟩
  · rcases bind_eq_error.mp failed with malformed | ⟨entry, -, impossible⟩
    · rcases mapError_eq_error.mp malformed with ⟨error, -, rfl⟩
      exact .inr ⟨error, rfl⟩
    · rcases nextOk entry with ⟨result, returned⟩
      cases returned.symm.trans impossible

/-- Whether a location stands for a bytecode offset that leads to no entry and cannot be noted. -/
def AtUnnotable (contract : Contract) (location : Location) (format : String) : Prop :=
  format = bytecodeFormat ∧ ∃ code entries offset,
    contract.artifact.codeMap = .ok { table := .ofCode code, entries } ∧
      location.bytecodeOffset = .ok offset ∧ Bytecode.Unnotable code entries offset

/-- An offset fails to lead anywhere exactly when it is unnotable. -/
theorem atUnnotable_iff {map : Bytecode.CodeMap} {offset : Int}
    (mapped : contract.artifact.codeMap = .ok map)
    (offsetOk : location.bytecodeOffset = .ok offset) :
    contract.AtUnnotable location bytecodeFormat ↔ ∃ error, map.entryAt offset = .error error := by
  constructor
  · rintro ⟨-, code, entries, other, otherMapped, otherOk, unnotable⟩
    cases mapped.symm.trans otherMapped
    cases offsetOk.symm.trans otherOk
    exact ⟨_, Bytecode.CodeMap.entryAt_of_unnotable unnotable⟩
  · rintro ⟨error, failed⟩
    rcases Artifact.exists_code_of_codeMap mapped with ⟨code, table⟩
    rcases map with ⟨_, entries⟩
    cases table
    exact ⟨rfl, code, entries, offset, mapped, offsetOk,
      (Bytecode.CodeMap.entryAt_eq_error_iff.mp failed).2⟩

theorem locate_eq_error {fault : Fault}
    (failed : contract.locate location format sourceList = .error fault) :
    (∃ error, fault = .artifact error ∧ format = bytecodeFormat ∧
      contract.artifact.codeMap = .error error) ∨
    (∃ error, fault = .shape error ∧ contract.AtUnnotable location format) ∨
    (∃ error, fault = .shape error ∧ location.Untextual) ∨ ∃ error, fault = .format error := by
  rw [locate] at failed
  split at failed
  next bytecode =>
    rcases bind_eq_error.mp failed with unmapped | ⟨map, mapped, failed⟩
    · rcases mapError_eq_error.mp unmapped with ⟨error, codeError, rfl⟩
      exact .inl ⟨error, rfl, bytecode, codeError⟩
    · rcases bind_eq_error.mp failed with failed | ⟨offset, offsetOk, failed⟩
      · rw [Location.bytecodeOffset] at failed
        split at failed
        · cases failed
        · exact .inr (.inr (readEntry_eq_error (fun entry => ⟨_, rfl⟩) failed))
      · rcases bind_eq_error.mp failed with unnoted | ⟨found, -, impossible⟩
        · rcases mapError_eq_error.mp unnoted with ⟨error, entryError, rfl⟩
          subst bytecode
          exact .inr (.inl ⟨error, rfl,
            (atUnnotable_iff (mapError_eq_ok.mp mapped) offsetOk).mpr ⟨error, entryError⟩⟩)
        · cases impossible
  next => exact .inr (.inr (readEntry_eq_error (fun entry => ⟨_, rfl⟩) failed))

/-- A location at an offset that is unnotable is not found. -/
theorem exists_locate_eq_error (unnotable : contract.AtUnnotable location format) :
    ∃ error, contract.locate location format sourceList = .error (.shape error) := by
  have given := unnotable
  rcases unnotable with ⟨rfl, code, entries, offset, mapped, offsetOk, -⟩
  rcases (atUnnotable_iff mapped offsetOk).mp given with ⟨error, failed⟩
  refine ⟨error, ?_⟩
  rw [locate, if_pos rfl]
  refine bind_eq_error.mpr (.inr ⟨_, mapError_eq_ok.mpr mapped, ?_⟩)
  refine bind_eq_error.mpr (.inr ⟨_, offsetOk, bind_eq_error.mpr (.inl ?_)⟩)
  exact mapError_eq_error.mpr ⟨error, failed, rfl⟩

/-- Whether a place holds a value that stops it: something other than a text in the place of its
source-map text, an offset that leads to no entry and has too many digits to note that, an entry
whose name is not a text, or one whose rule may be suppressed and whose declaration has no type. -/
inductive Misshapen (contract : Contract) (options : Options) (batch : Batch) (place : Place) :
    Prop
  | untextual : place.location.Untextual → Misshapen contract options batch place
  | unnotable : contract.AtUnnotable place.location batch.format →
      Misshapen contract options batch place
  | misnamed {entry : Entry} {names : List Json} :
      contract.Denotes place.location batch.sourceList batch.format entry names →
      Misnames entry names → Misshapen contract options batch place
  | undecided {entry : Entry} {names : List Json} :
      contract.Denotes place.location batch.sourceList batch.format entry names →
      place.issue.ruleId ∈ options.suppressibleRules → contract.AtUndecided entry names →
      Misshapen contract options batch place

variable {batch : Batch} {place : Place} {slot : Nat} {fault : Fault}

/-- What stops a place is an artifact without a code map, or a value of the wrong shape. -/
theorem outcomeOf_eq_error
    (failed : contract.outcomeOf options (batch.shareOf slot) place.issue place.location =
      .error fault) :
    (∃ error, fault = .artifact error ∧ batch.format = bytecodeFormat ∧
      contract.artifact.codeMap = .error error) ∨
    ∃ error, fault = .shape error ∧ contract.Misshapen options batch place := by
  rw [outcomeOf] at failed
  split at failed
  next => cases failed
  next notFormat =>
    rcases bind_eq_error.mp failed with unlocated | ⟨⟨found, names⟩, located, failed⟩
    · rcases locate_eq_error unlocated with unmapped | ⟨error, rfl, unnotable⟩ |
        ⟨error, rfl, untextual⟩ | ⟨error, rfl⟩
      · exact .inl unmapped
      · exact .inr ⟨error, rfl, .unnotable unnotable⟩
      · exact .inr ⟨error, rfl, .untextual untextual⟩
      · exact absurd failed (notFormat error)
    · cases found with
      | none => cases failed
      | some entry =>
          have denotes := denotes_iff.mpr located
          rcases mapError_eq_error.mp failed with ⟨error, stuck, rfl⟩
          refine .inr ⟨error, rfl, ?_⟩
          rcases (outcomeAt_eq_error denotes.hasSource).mp ⟨error, stuck⟩ with
            misnamed | ⟨listed, undecided⟩
          · exact .misnamed denotes misnamed
          · exact .undecided denotes listed undecided

/-- What becomes of a location that denotes an entry is what becomes of the entry. -/
theorem outcomeOf_of_denotes
    (denotes : contract.Denotes location batch.sourceList batch.format entry names) :
    contract.outcomeOf options (batch.shareOf slot) issue location =
      (contract.outcomeAt options issue entry names (batch.sources.getD slot .null)).mapError
        .shape := by
  have located : contract.locate location (batch.shareOf slot).format
      (batch.shareOf slot).sourceList = .ok (some entry, names) := denotes_iff.mp denotes
  have normalized : contract.normalizeLocation options issue location (batch.shareOf slot).format
      (batch.shareOf slot).source (batch.shareOf slot).sourceList =
        (contract.outcomeAt options issue entry names (batch.sources.getD slot .null)).mapError
          .shape := by
    rw [normalizeLocation, located]
    rfl
  rw [outcomeOf, normalized]
  cases contract.outcomeAt options issue entry names (batch.sources.getD slot .null) with
  | error error => rfl
  | ok outcome => rfl

/-- A value of the wrong shape stops its place, unless the location was not even attributed. -/
theorem exists_outcomeOf_eq_error (attributed : ¬place.location.Untextual)
    (misshapen : contract.Misshapen options batch place) :
    ∃ error, contract.outcomeOf options (batch.shareOf slot) place.issue place.location =
      .error (.shape error) := by
  have stuck {entry : Entry} {names : List Json}
      (denotes : contract.Denotes place.location batch.sourceList batch.format entry names)
      (stops : Misnames entry names ∨ place.issue.ruleId ∈ options.suppressibleRules ∧
        contract.AtUndecided entry names) :
      ∃ error, contract.outcomeOf options (batch.shareOf slot) place.issue place.location =
        .error (.shape error) := by
    have outcome : ∃ error, contract.outcomeAt options place.issue entry names
        (batch.sources.getD slot .null) = .error error :=
      (outcomeAt_eq_error denotes.hasSource).mpr stops
    rcases outcome with ⟨error, stuck⟩
    rw [outcomeOf_of_denotes denotes, stuck]
    exact ⟨error, rfl⟩
  cases misshapen with
  | untextual untextual => exact absurd untextual attributed
  | unnotable unnotable =>
      rcases exists_locate_eq_error unnotable with ⟨error, unlocated⟩
      have failed : contract.normalizeLocation options place.issue place.location
          (batch.shareOf slot).format (batch.shareOf slot).source (batch.shareOf slot).sourceList =
            .error (.shape error) := bind_eq_error.mpr (.inl unlocated)
      rw [outcomeOf, failed]
      exact ⟨error, rfl⟩
  | misnamed denotes misnamed => exact stuck denotes (.inl misnamed)
  | undecided denotes listed undecided => exact stuck denotes (.inr ⟨listed, undecided⟩)

/-- A location that denotes an entry in the bytecode format was found through the code map. -/
theorem Denotes.codeMap_ne_error
    (denotes : contract.Denotes location sourceList format entry names)
    (bytecode : format = bytecodeFormat) (error : ArtifactError) :
    contract.artifact.codeMap ≠ .error error := by
  cases denotes with
  | written other _ _ _ => exact absurd bytecode other
  | instruction mapped _ _ =>
      rw [mapped]
      intro impossible
      cases impossible

theorem Misshapen.codeMap_ne_error (misshapen : contract.Misshapen options batch place)
    (attributed : ¬place.location.Untextual) (bytecode : batch.format = bytecodeFormat)
    (error : ArtifactError) : contract.artifact.codeMap ≠ .error error := by
  cases misshapen with
  | untextual untextual => exact absurd untextual attributed
  | unnotable unnotable =>
      rcases unnotable with ⟨-, code, entries, offset, mapped, -⟩
      rw [mapped]
      intro impossible
      cases impossible
  | misnamed denotes _ => exact denotes.codeMap_ne_error bytecode error
  | undecided denotes _ _ => exact denotes.codeMap_ne_error bytecode error

/-- Without a code map every place of a batch in the bytecode format stops. -/
theorem outcomeOf_of_codeMap_eq_error (bytecode : batch.format = bytecodeFormat)
    {error : ArtifactError} (unmapped : contract.artifact.codeMap = .error error) :
    contract.outcomeOf options (batch.shareOf slot) place.issue place.location =
      .error (.artifact error) := by
  have unlocated : contract.locate place.location (batch.shareOf slot).format
      (batch.shareOf slot).sourceList = .error (.artifact error) := by
    rw [locate, if_pos (show (batch.shareOf slot).format = bytecodeFormat from bytecode), unmapped]
    rfl
  have failed : contract.normalizeLocation options place.issue place.location
      (batch.shareOf slot).format (batch.shareOf slot).source (batch.shareOf slot).sourceList =
        .error (.artifact error) := bind_eq_error.mpr (.inl unlocated)
  rw [outcomeOf, failed]

end Contract

/-! ## Batches -/

/-- The locations of a batch are attributed unless the source-map text of one of them is not a
text. -/
theorem Batch.shares_eq_error {batch : Batch} :
    (∃ error, batch.shares = .error error) ↔
      ∃ place ∈ batch.places, place.location.Untextual := by
  constructor
  · rintro ⟨error, failed⟩
    rcases bind_eq_error.mp failed with failed | ⟨attributed, -, impossible⟩
    · rcases exists_of_mapM_eq_error failed with ⟨occurrence, member, failed⟩
      rw [occurrences_eq_map_places] at member
      rcases List.mem_map.mp member with ⟨place, placeMem, rfl⟩
      rcases bind_eq_error.mp failed with unattributed | ⟨slot, -, impossible⟩
      · exact ⟨place, placeMem, Location.slot_eq_error.mp ⟨error, unattributed⟩⟩
      · cases impossible
    · cases impossible
  · rintro ⟨place, member, untextual⟩
    cases shared : batch.shares with
    | error error => exact ⟨error, rfl⟩
    | ok shares =>
        have attributed := (shares_eq_ok shared).2 place member
        rcases Location.slot_eq_error.mpr untextual with ⟨error, failed⟩
        cases attributed.symm.trans failed

namespace Contract

variable {contract : Contract} {options : Options} {batch : Batch} {fault : Fault}

/-- A batch stops because its locations are not attributed, or with the fault of a place. -/
theorem outcomes_eq_error (failed : contract.outcomes options batch = .error fault) :
    (∃ error, fault = .shape error ∧ ∃ place ∈ batch.places, place.location.Untextual) ∨
    ∃ place ∈ batch.places,
      contract.outcomeOf options (batch.shareOf (batch.slotOf place.location)) place.issue
        place.location = .error fault := by
  rcases bind_eq_error.mp failed with unshared | ⟨shares, sharesOk, failed⟩
  · rcases mapError_eq_error.mp unshared with ⟨error, sharesError, rfl⟩
    exact .inl ⟨error, rfl, Batch.shares_eq_error.mp ⟨error, sharesError⟩⟩
  · obtain ⟨rfl, -⟩ := Batch.shares_eq_ok (mapError_eq_ok.mp sharesOk)
    rw [Batch.flatMap_items_shareOf] at failed
    rcases exists_of_mapM_eq_error failed with ⟨_, member, failed⟩
    rcases List.mem_map.mp member with ⟨place, placeMem, rfl⟩
    exact .inr ⟨place, batch.placesBySource_perm.mem_iff.mp placeMem, failed⟩

theorem exists_outcomeOf_eq_ok {outcomes : List Outcome} {place : Place}
    (returned : contract.outcomes options batch = .ok outcomes) (member : place ∈ batch.places) :
    ∃ outcome, contract.outcomeOf options (batch.shareOf (batch.slotOf place.location))
      place.issue place.location = .ok outcome := by
  have listed := List.mem_map_of_mem (batch.placesBySource_perm.mem_iff.mpr member)
    (f := fun place => contract.outcomeOf options (batch.shareOf (batch.slotOf place.location))
      place.issue place.location)
  rw [(outcomes_eq_ok returned).1] at listed
  rcases List.mem_map.mp listed with ⟨outcome, -, same⟩
  exact ⟨outcome, same.symm⟩

theorem outcomes_of_untextual {place : Place} (member : place ∈ batch.places)
    (untextual : place.location.Untextual) :
    ∃ error, contract.outcomes options batch = .error (.shape error) := by
  rcases Batch.shares_eq_error.mpr ⟨place, member, untextual⟩ with ⟨error, failed⟩
  exact ⟨error, bind_eq_error.mpr (.inl (mapError_eq_error.mpr ⟨error, failed, rfl⟩))⟩

/-- A batch is normalized exactly when all of its locations are attributed and each of its places
has an outcome. -/
theorem exists_normalize_eq_ok :
    (∃ result, contract.normalize options batch = .ok result) ↔
      ∀ place ∈ batch.places, ¬place.location.Untextual ∧
        ∃ outcome, contract.outcomeOf options (batch.shareOf (batch.slotOf place.location))
          place.issue place.location = .ok outcome := by
  constructor
  · rintro ⟨result, returned⟩ place member
    rcases map_eq_ok.mp returned with ⟨outcomes, outcomesOk, -⟩
    refine ⟨?_, exists_outcomeOf_eq_ok outcomesOk member⟩
    intro untextual
    rcases outcomes_of_untextual member untextual with ⟨error, failed⟩
    cases outcomesOk.symm.trans failed
  · intro each
    cases returned : contract.outcomes options batch with
    | ok outcomes => exact ⟨_, map_eq_ok.mpr ⟨outcomes, returned, rfl⟩⟩
    | error fault =>
        rcases outcomes_eq_error returned with ⟨-, -, place, member, untextual⟩ |
          ⟨place, member, failed⟩
        · exact absurd untextual (each place member).1
        · rcases (each place member).2 with ⟨outcome, outcomeOk⟩
          cases outcomeOk.symm.trans failed

/-- What stops a batch is an artifact without a code map, in the bytecode format, or a place that
holds a value of the wrong shape. -/
theorem stopped_of_outcomes_eq_error (failed : contract.outcomes options batch = .error fault) :
    (∃ error, fault = .artifact error ∧ batch.format = bytecodeFormat ∧
      contract.artifact.codeMap = .error error ∧ batch.places ≠ []) ∨
    ∃ error, fault = .shape error ∧ ∃ place ∈ batch.places,
      contract.Misshapen options batch place := by
  rcases outcomes_eq_error failed with ⟨error, rfl, place, member, untextual⟩ |
    ⟨place, member, failed⟩
  · exact .inr ⟨error, rfl, place, member, .untextual untextual⟩
  · rcases outcomeOf_eq_error failed with ⟨error, rfl, bytecode, unmapped⟩ |
      ⟨error, rfl, misshapen⟩
    · exact .inl ⟨error, rfl, bytecode, unmapped, List.ne_nil_of_mem member⟩
    · exact .inr ⟨error, rfl, place, member, misshapen⟩

theorem outcomes_of_codeMap_eq_error (bytecode : batch.format = bytecodeFormat)
    {error : ArtifactError} (unmapped : contract.artifact.codeMap = .error error)
    (nonempty : batch.places ≠ []) (textual : ∀ place ∈ batch.places, ¬place.location.Untextual) :
    contract.outcomes options batch = .error (.artifact error) := by
  have stops (place : Place) :
      contract.outcomeOf options (batch.shareOf (batch.slotOf place.location)) place.issue
        place.location = .error (.artifact error) := outcomeOf_of_codeMap_eq_error bytecode unmapped
  cases returned : contract.outcomes options batch with
  | ok outcomes =>
      rcases List.exists_mem_of_ne_nil _ nonempty with ⟨place, member⟩
      rcases exists_outcomeOf_eq_ok returned member with ⟨outcome, outcomeOk⟩
      cases outcomeOk.symm.trans (stops place)
  | error fault =>
      rcases outcomes_eq_error returned with ⟨-, -, place, member, untextual⟩ | ⟨place, -, failed⟩
      · exact absurd untextual (textual place member)
      · cases failed.symm.trans (stops place)
        rfl

theorem outcomes_of_misshapen {place : Place} (member : place ∈ batch.places)
    (misshapen : contract.Misshapen options batch place) :
    ∃ error, contract.outcomes options batch = .error (.shape error) := by
  by_cases attributed : place.location.Untextual
  · exact outcomes_of_untextual member attributed
  · cases returned : contract.outcomes options batch with
    | ok outcomes =>
        rcases exists_outcomeOf_eq_ok returned member with ⟨outcome, outcomeOk⟩
        rcases exists_outcomeOf_eq_error attributed misshapen with ⟨error, failed⟩
        cases outcomeOk.symm.trans failed
    | error fault =>
        rcases stopped_of_outcomes_eq_error returned with ⟨error, rfl, bytecode, unmapped, -⟩ |
          ⟨error, rfl, -⟩
        · exact absurd unmapped (misshapen.codeMap_ne_error attributed bytecode error)
        · exact ⟨error, rfl⟩

/-- No malformed location stops a batch. It stops for an artifact without a code map, exactly when
the format is that of bytecode offsets and there are locations, all of them attributed; and for a
value of the wrong shape, exactly when one of its places holds one. -/
theorem normalize_stops_iff (contract : Contract) (options : Options) (batch : Batch) :
    (∀ error, contract.normalize options batch ≠ .error (.format error)) ∧
    (∀ error, contract.normalize options batch = .error (.artifact error) ↔
      batch.format = bytecodeFormat ∧ contract.artifact.codeMap = .error error ∧
        batch.places ≠ [] ∧ ∀ place ∈ batch.places, ¬place.location.Untextual) ∧
    ((∃ error, contract.normalize options batch = .error (.shape error)) ↔
      ∃ place ∈ batch.places, contract.Misshapen options batch place) := by
  simp only [normalize, ne_eq, map_eq_error]
  refine ⟨?_, ?_, ?_, ?_⟩
  · intro error failed
    rcases stopped_of_outcomes_eq_error failed with ⟨_, impossible, -⟩ | ⟨_, impossible, -⟩
    · cases impossible
    · cases impossible
  · intro error
    constructor
    · intro failed
      rcases stopped_of_outcomes_eq_error failed with
        ⟨_, same, bytecode, unmapped, nonempty⟩ | ⟨_, impossible, -⟩
      · cases same
        refine ⟨bytecode, unmapped, nonempty, ?_⟩
        intro place member untextual
        rcases outcomes_of_untextual member untextual with ⟨_, shapeless⟩
        cases failed.symm.trans shapeless
      · cases impossible
    · rintro ⟨bytecode, unmapped, nonempty, textual⟩
      exact outcomes_of_codeMap_eq_error bytecode unmapped nonempty textual
  · rintro ⟨error, failed⟩
    rcases stopped_of_outcomes_eq_error failed with ⟨_, impossible, -⟩ | ⟨_, -, misshapen⟩
    · cases impossible
    · exact misshapen
  · rintro ⟨place, member, misshapen⟩
    exact outcomes_of_misshapen member misshapen

/-- A build without code. -/
def numericBuild : Json :=
  .object [("contractName", .text "V"), ("sourcePath", .text "v.sol")]

def numericArtifact : Artifact :=
  { contractName := "V", sourcePath := "v.sol", deployedBytecode := "", sourceMap := ""
    deployedSourceMap := "", ast := .null, sourceList := ["v.sol"] }

/-- Findings with two locations, the first of which has a number for its source-map text. -/
def numericFindings : Json :=
  .object
    [("sourceList", .list [.text "v.sol"]),
      ("issues", .list
        [.object [("locations", .list
          [.object [("sourceMap", .int 5)], .object [("sourceMap", .text "0:1:0")]])]])]

def numericIssue : Issue :=
  { head := "", tail := "", severity := "", ruleId := "", ruleTitle := ""
    locations := [⟨.int 5, none⟩, ⟨.text "0:1:0", none⟩] }

def numericBatch : Batch :=
  { format := "", sourceType := "", sourceList := [.text "v.sol"], issues := [numericIssue] }

def numericContract : Contract :=
  .ofSources numericArtifact [("v.sol", [0x61, 0x0A])]

/-- The first location of the batch stops it. -/
theorem normalize_stops_iff_numeric :
    ∃ error, numericContract.normalize .default numericBatch = .error (.shape error) := by
  apply (normalize_stops_iff numericContract .default numericBatch).2.2.mpr
  refine ⟨⟨0, 0, numericIssue, ⟨.int 5, none⟩⟩, Batch.mem_places.mpr ⟨rfl, rfl⟩, ?_⟩
  exact .untextual ⟨rfl, fun text => Json.noConfusion⟩

/-- A number for the source-map text of a location stops the batch, in a format without bytecode
offsets; the other location alone is normalized. -/
theorem numeric_location_stops_batch :
    Artifact.ofJson numericBuild = .ok numericArtifact ∧
    Batch.ofJson numericFindings = .ok numericBatch ∧
    numericBatch.format ≠ bytecodeFormat ∧
    numericContract.normalize .default numericBatch = .error (.shape .notText) ∧
    ∃ result, numericContract.normalize .default
      { numericBatch with issues := [{ numericIssue with locations := [⟨.text "0:1:0", none⟩] }] } =
        .ok result ∧ result.diagnostics.length = 1 := by
  refine ⟨rfl, rfl, by decide, rfl, _, rfl, rfl⟩

end Contract

end Pinpoint
