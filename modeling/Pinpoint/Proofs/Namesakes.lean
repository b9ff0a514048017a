import Pinpoint.Proofs.Suppression
import Pinpoint.Text.Utf8

/-!
# Namesakes of the main source

The syntax tree of an artifact covers its main source, and an entry counts as one of the main
source when the name at its file index has the file name of the main source. A source list may
hold another path with that file name. The byte ranges of such a namesake are looked up in a
syntax tree that is not its own, and findings in it are suppressed by what stands at the same bytes
of the main source. The findings of any other file are kept.
-/

namespace Pinpoint

namespace Contract

variable {contract : Contract} {entry : Entry} {names : List Json} {path : String}

/-- Whether the name at the file index of an entry is a path other than that of the main source. -/
structure PointsElsewhere (contract : Contract) (entry : Entry) (names : List Json)
    (path : String) : Prop where
  named : fileNameAt? names entry.fileIndex = some (.text path)
  path_ne : path ≠ contract.artifact.sourcePath

/-- Whether a path is another one than that of the main source and has its file name. -/
structure IsNamesake (contract : Contract) (path : String) : Prop where
  path_ne : path ≠ contract.artifact.sourcePath
  baseName_eq : baseName path = baseName contract.artifact.sourcePath

theorem isMainSource_of_named (named : fileNameAt? names entry.fileIndex = some (.text path)) :
    contract.isMainSource entry names =
      .ok (baseName path == baseName contract.artifact.sourcePath) := by
  rw [isMainSource, named]
  rfl

/-- A path that is listed is the one that some entry names. -/
theorem exists_named_of_mem (listed : .text path ∈ names) :
    ∃ entry : Entry, fileNameAt? names entry.fileIndex = some (.text path) := by
  rcases List.mem_iff_getElem?.mp listed with ⟨number, found⟩
  exact ⟨{ Entry.initial with fileIndex := number },
    fileNameAt?_eq_some.mpr ⟨Int.natCast_nonneg number, found, rfl⟩⟩

theorem mem_of_named (named : fileNameAt? names entry.fileIndex = some (.text path)) :
    .text path ∈ names :=
  List.mem_of_getElem? (fileNameAt?_eq_some.mp named).2.1

theorem isMainSource_eq_false_iff (elsewhere : contract.PointsElsewhere entry names path) :
    contract.isMainSource entry names = .ok false ↔ ¬contract.IsNamesake path := by
  rw [isMainSource_of_named elsewhere.named]
  constructor
  · intro answered namesake
    rw [namesake.baseName_eq, BEq.rfl] at answered
    cases answered
  · intro other
    have different : baseName path ≠ baseName contract.artifact.sourcePath :=
      fun same => other ⟨elsewhere.path_ne, same⟩
    rw [beq_eq_false_iff_ne.mpr different]

/-! ## The outcome of a location in another file -/

section Outcome

variable {options : Options} {issue : Issue} {location : Location} {format : String}
variable {attributedTo : Json} {sourceList : List Json}

theorem normalizeLocation_of_denotes
    (denotes : contract.Denotes location sourceList format entry names) :
    contract.normalizeLocation options issue location format attributedTo sourceList =
      (contract.outcomeAt options issue entry names attributedTo).mapError .shape := by
  rw [normalizeLocation, denotes_iff.mp denotes]
  rfl

theorem outcomeAt_eq_suppressed_iff :
    (∃ record, contract.outcomeAt options issue entry names attributedTo =
      .ok (.suppressed record)) ↔ contract.suppresses options issue entry names = .ok true := by
  constructor
  · intro given
    rcases given with ⟨record, returned⟩
    rcases bind_eq_ok.mp returned with ⟨suppressed, answered, returned⟩
    cases suppressed with
    | true => exact answered
    | false =>
        rcases bind_eq_ok.mp returned with ⟨span, -, impossible⟩
        cases impossible
  · intro answered
    exact ⟨_, bind_eq_ok.mpr ⟨true, answered, rfl⟩⟩

theorem suppresses_of_not_isNamesake (elsewhere : contract.PointsElsewhere entry names path)
    (other : ¬contract.IsNamesake path) :
    contract.suppresses options issue entry names = .ok false :=
  bind_eq_ok.mpr ⟨false, (isMainSource_eq_false_iff elsewhere).mpr other, rfl⟩

/-- An entry of another file is judged by the syntax tree if the file is a namesake. -/
theorem suppresses_eq_true_iff (elsewhere : contract.PointsElsewhere entry names path) :
    contract.suppresses options issue entry names = .ok true ↔
      contract.IsNamesake path ∧ issue.ruleId ∈ options.suppressibleRules ∧
        Ast.isDynamicArrayDeclaration contract.artifact.ast entry.start entry.length =
          .ok true := by
  by_cases namesake : contract.IsNamesake path
  · have main := @isMainSource_of_named contract _ _ _ elsewhere.named
    rw [namesake.baseName_eq, BEq.rfl] at main
    have judged : contract.suppresses options issue entry names =
        if options.suppressibleRules.contains issue.ruleId then
          Ast.isDynamicArrayDeclaration contract.artifact.ast entry.start entry.length
        else .ok false := by
      rw [suppresses, main]
      rfl
    rw [judged]
    split
    next listed => simp [namesake, List.contains_iff_mem.mp listed]
    next unlisted => simp [mt List.contains_iff_mem.mpr unlisted]
  · rw [suppresses_of_not_isNamesake elsewhere namesake]
    simp [namesake]

theorem exists_outcomeAt_eq_diagnostic (elsewhere : contract.PointsElsewhere entry names path)
    (other : ¬contract.IsNamesake path) :
    ∃ diagnostic, contract.outcomeAt options issue entry names attributedTo =
      .ok (.diagnostic diagnostic) := by
  have kept := @suppresses_of_not_isNamesake _ _ _ _ options issue elsewhere other
  have spanned := @spanOf_of_named contract _ _ _ elsewhere.named
  exact ⟨_, bind_eq_ok.mpr ⟨false, kept, bind_eq_ok.mpr ⟨_, spanned, rfl⟩⟩⟩

end Outcome

/-- Which entries of other files count as those of the main source: none if the main source has no
namesake in the list, and those of its namesakes otherwise. A finding in a namesake is suppressed
by what the syntax tree of the main source has at its bytes, and a finding in any other file is
reported whatever the syntax tree is. -/
theorem namesakes_alone_suppressed (contract : Contract) (names : List Json) :
    ((∀ entry path, contract.PointsElsewhere entry names path →
        contract.isMainSource entry names = .ok false) ↔
      ∀ path, .text path ∈ names → ¬contract.IsNamesake path) ∧
    ∀ location format sourceList entry path,
      contract.Denotes location sourceList format entry names →
      contract.PointsElsewhere entry names path →
      ∀ options issue attributedTo,
        ((∃ record, contract.normalizeLocation options issue location format attributedTo
            sourceList = .ok (.suppressed record)) ↔
          contract.IsNamesake path ∧ issue.ruleId ∈ options.suppressibleRules ∧
            Ast.isDynamicArrayDeclaration contract.artifact.ast entry.start entry.length =
              .ok true) ∧
        (¬contract.IsNamesake path →
          ∃ diagnostic, contract.normalizeLocation options issue location format attributedTo
            sourceList = .ok (.diagnostic diagnostic)) := by
  constructor
  · constructor
    · intro apart path listed namesake
      rcases exists_named_of_mem listed with ⟨entry, named⟩
      have elsewhere : contract.PointsElsewhere entry names path := ⟨named, namesake.path_ne⟩
      exact (isMainSource_eq_false_iff elsewhere).mp (apart entry path elsewhere) namesake
    · intro alone entry path elsewhere
      exact (isMainSource_eq_false_iff elsewhere).mpr (alone path (mem_of_named elsewhere.named))
  · intro location format sourceList entry path denotes elsewhere options issue attributedTo
    simp only [normalizeLocation_of_denotes denotes, mapError_eq_ok]
    rw [outcomeAt_eq_suppressed_iff, suppresses_eq_true_iff elsewhere]
    exact ⟨.rfl, exists_outcomeAt_eq_diagnostic elsewhere⟩

/-- A contract with the sources of two files of one name. At the bytes 4 to 12 the main source
declares a dynamically sized array, and the other one calls a function. -/
def namesakeContract : Contract :=
  .ofSources
    { arrayContract.artifact with
      sourcePath := "a/v.sol"
      ast := .object
        [("nodeType", .text "VariableDeclaration"), ("src", .text "4:8:0"),
          ("typeName", .object [("nodeType", .text "ArrayTypeName")])] }
    [("a/v.sol", Text.encodeUtf8 "    uint[] s;\n".toList),
      ("b/v.sol", Text.encodeUtf8 "    s.pop();\n".toList)]

def namesakeIssue : Issue :=
  { head := "Pop", tail := "", severity := "High", ruleId := "SWC-131", ruleTitle := ""
    locations := [⟨.text "4:8:1", none⟩] }

def namesakeEntry : Entry :=
  { Entry.initial with start := 4, length := 8, fileIndex := 1 }

theorem denotes_namesakeEntry (names : List Json) :
    namesakeContract.Denotes ⟨.text "4:8:1", none⟩ names "text" namesakeEntry names :=
  .written (by decide) rfl rfl (by decide)

/-- The main source with a file of another name, and with its namesake. -/
def apartNames : List Json := [.text "a/v.sol", .text "b/w.sol"]

def namesakeNames : List Json := [.text "a/v.sol", .text "b/v.sol"]

/-- A finding in the file of another name is reported. -/
theorem namesakes_alone_suppressed_apart :
    namesakeContract.isMainSource namesakeEntry apartNames = .ok false ∧
    ∃ diagnostic, namesakeContract.normalizeLocation .default namesakeIssue
      ⟨.text "4:8:1", none⟩ "text" (.text "b/w.sol") apartNames = .ok (.diagnostic diagnostic) := by
  have elsewhere : namesakeContract.PointsElsewhere namesakeEntry apartNames "b/w.sol" :=
    ⟨rfl, by decide⟩
  have other : ¬namesakeContract.IsNamesake "b/w.sol" :=
    fun namesake => absurd namesake.baseName_eq (by decide)
  rcases namesakes_alone_suppressed namesakeContract apartNames with ⟨answers, outcomes⟩
  refine ⟨answers.mpr ?_ namesakeEntry _ elsewhere, ?_⟩
  · intro path listed namesake
    simp only [apartNames, List.mem_cons, Json.text.injEq, List.not_mem_nil, or_false] at listed
    rcases listed with rfl | rfl
    · exact namesake.path_ne rfl
    · exact other namesake
  · exact (outcomes _ _ _ _ _ (denotes_namesakeEntry _) elsewhere _ _ _).2 other

/-- The call in the namesake counts as one of the main source, and the finding is suppressed as if
it were about the array. -/
theorem namesake_suppressed :
    .text namesakeContract.artifact.sourcePath ∈ namesakeNames ∧
    namesakeContract.Denotes ⟨.text "4:8:1", none⟩ namesakeNames "text" namesakeEntry
      namesakeNames ∧
    fileNameAt? namesakeNames namesakeEntry.fileIndex = some (.text "b/v.sol") ∧
    "b/v.sol" ≠ namesakeContract.artifact.sourcePath ∧
    namesakeContract.isMainSource namesakeEntry namesakeNames = .ok true ∧
    namesakeContract.normalizeLocation .default namesakeIssue ⟨.text "4:8:1", none⟩ "text"
      (.text "b/v.sol") namesakeNames = .ok (.suppressed ⟨.debug, "Vault", "SWC-131", 4, 8⟩) :=
  ⟨List.mem_cons_self, denotes_namesakeEntry _, rfl, by decide, rfl, rfl⟩

end Contract

end Pinpoint
