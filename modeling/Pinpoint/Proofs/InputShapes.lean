import Pinpoint.Cli.Load
import Pinpoint.Proofs.JsonOrder
import Pinpoint.Proofs.Provenance
import Pinpoint.Proofs.SortedNames
import Pinpoint.Proofs.StoppedBatches

/-!
# The shapes of input

Builds and findings are taken out of JSON values of any shape, and most shapes do: a text is shown
whatever value stands in its place, and what is missing is empty. Said here is what does not do.
A build, a finding or a location has to be an object, what is gone through has to have items, and
an address has to be an integer. Names of sources may be anything until they are sorted, which only
texts can be.
-/

namespace Pinpoint

namespace Json

/-- The value of a name among the members of an object; null if it is missing. -/
def valueOf (name : String) (members : List (String × Json)) : Json :=
  (find? name members).getD .null

/-- Whether a value is not an object. -/
def IsNoObject (value : Json) : Prop :=
  ∀ members, value ≠ .object members

/-- Whether a value that is not null stands for no integer. -/
inductive IsNoInteger : Json → Prop
  | text {value : String} : Text.readInt? value.toList = none → IsNoInteger (.text value)
  | notANumber : IsNoInteger (.number (.real .notANumber))
  | infinite {negative : Bool} : IsNoInteger (.number (.real (.infinity negative)))
  | list {items : List Json} : IsNoInteger (.list items)
  | object {members : List (String × Json)} : IsNoInteger (.object members)

/-- Whether a value is present and has no items: it is true, or a number. -/
def IsItemless (value : Json) : Prop :=
  value.isPresent = true ∧ value.items = .error .notSequence

/-- Whether a value that is present is not a list, or a list with an item of the wrong shape. -/
def Mislists (isNone : Json → Prop) (value : Json) : Prop :=
  value.isPresent = true ∧ ∀ items, value = .list items → ∃ item ∈ items, isNone item

/-- Whether a value is no location. -/
inductive IsNoLocation : Json → Prop
  | shapeless {payload : Json} : payload.IsNoObject → IsNoLocation payload
  | address {members : List (String × Json)} :
      (valueOf "address" members).IsNoInteger → IsNoLocation (.object members)

/-- Whether a value is no issue. -/
inductive IsNoIssue : Json → Prop
  | shapeless {payload : Json} : payload.IsNoObject → IsNoIssue payload
  | description {members : List (String × Json)} :
      (valueOf "description" members).isPresent = true →
      (valueOf "description" members).IsNoObject → IsNoIssue (.object members)
  | locations {members : List (String × Json)} :
      (valueOf "locations" members).Mislists IsNoLocation → IsNoIssue (.object members)

/-- Whether a value is no batch. -/
inductive IsNoBatch : Json → Prop
  | shapeless {payload : Json} : payload.IsNoObject → IsNoBatch payload
  | sourceList {members : List (String × Json)} :
      (valueOf "sourceList" members).IsItemless → IsNoBatch (.object members)
  | issues {members : List (String × Json)} :
      (valueOf "issues" members).Mislists IsNoIssue → IsNoBatch (.object members)

/-- Whether a value is neither a batch nor a list of batches. -/
inductive IsNoFindings : Json → Prop
  | batch {payload : Json} :
      (∀ batches, payload ≠ .list batches) → payload.IsNoBatch → IsNoFindings payload
  | batches {batches : List Json} {batch : Json} :
      batch ∈ batches → batch.IsNoBatch → IsNoFindings (.list batches)

/-- Whether the members of a build lack the name of the contract or the path of its source. -/
def IsUnnamed (members : List (String × Json)) : Prop :=
  (valueOf "contractName" members).isPresent = false ∨
    (valueOf "sourcePath" members).isPresent = false

/-- Whether a value is no build, apart from the names that a build must have. -/
inductive IsNoBuild : Json → Prop
  | shapeless {payload : Json} : payload.IsNoObject → IsNoBuild payload
  | sources {members : List (String × Json)} : ¬IsUnnamed members →
      ((valueOf "sourceList" members).orElse (valueOf "sources" members)).IsItemless →
      IsNoBuild (.object members)

/-! ## Requests -/

theorem toInt_eq_error {value : Json} :
    (∃ error, value.toInt = .error error) ↔ value = .null ∨ value.IsNoInteger := by
  constructor
  · rintro ⟨error, failed⟩
    cases value with
    | null => exact .inl rfl
    | bool => cases failed
    | number value =>
        cases value with
        | integer => cases failed
        | real value =>
            cases value with
            | finite => cases failed
            | infinity => exact .inr .infinite
            | notANumber => exact .inr .notANumber
    | text value =>
        rw [toInt] at failed
        split at failed
        next => cases failed
        next unread => exact .inr (.text unread)
    | list => exact .inr .list
    | object => exact .inr .object
  · rintro (rfl | none)
    · exact ⟨_, rfl⟩
    · cases none with
      | text unread => exact ⟨_, by rw [toInt, unread]⟩
      | notANumber | infinite | list | object => exact ⟨_, rfl⟩

theorem IsNoInteger.ne_null {value : Json} (none : value.IsNoInteger) : value.isNull = false := by
  cases none <;> rfl

/-- No text is an object. -/
theorem isNoObject_text (value : String) : (text value).IsNoObject :=
  fun _ => Json.noConfusion

theorem isNoObject_orElse_object {value : Json} :
    (value.orElse (.object [])).IsNoObject ↔ value.isPresent = true ∧ value.IsNoObject := by
  rw [orElse]
  split
  next present => simp [present]
  next absent => simp [absent, IsNoObject]

theorem exists_displayMember_eq_error {value : Json} {name : String} :
    (∃ error, value.displayMember name = .error error) ↔ value.IsNoObject := by
  cases value with
  | object members => exact iff_of_false not_exists_ok_eq_error fun none => none members rfl
  | null | bool | number | text | list =>
      exact iff_of_true ⟨_, rfl⟩ fun members => Json.noConfusion

/-- What is present and no list has no items, or texts for items. -/
theorem items_eq_error_or_exists_text_mem {value : Json} (present : value.isPresent = true)
    (unlisted : ∀ items, value ≠ .list items) :
    value.items = .error .notSequence ∨
      ∃ items text, value.items = .ok items ∧ .text text ∈ items := by
  cases value with
  | null => cases present
  | bool | number => exact .inl rfl
  | list items => exact absurd rfl (unlisted items)
  | text value =>
      cases characters : value.toList with
      | nil =>
          rw [String.toList_eq_nil_iff] at characters
          rw [characters] at present
          cases present
      | cons character rest =>
          refine .inr ⟨_, String.singleton character, rfl, ?_⟩
          rw [characters]
          exact List.mem_cons_self
  | object members =>
      cases members with
      | nil => cases present
      | cons member rest => exact .inr ⟨_, member.1, rfl, List.mem_cons_self⟩

/-- Reading the items of a value fails when the value is present and no list, or lists an item that
cannot be read, as long as no text can be: what else has items has texts for items. -/
theorem exists_items_mapM_eq_error {α β : Type} {read : Json → Except ShapeError α}
    {isNone : Json → Prop} {next : List α → Except ShapeError β}
    (reads : ∀ item, (∃ error, read item = .error error) ↔ isNone item)
    (texts : ∀ text, isNone (.text text)) (nextOk : ∀ values, ∃ result, next values = .ok result)
    {value : Json} :
    (∃ error, (value.itemsIfPresent >>= fun items => items.mapM read >>= next) = .error error) ↔
      value.Mislists isNone := by
  rw [itemsIfPresent, Mislists]
  split
  next present =>
    rw [exists_bind_eq_error]
    simp only [exists_bind_eq_error_of_ok nextOk, exists_mapM_eq_error, reads, present, true_and]
    constructor
    · rintro (⟨error, failed⟩ | ⟨items, listed, item, member, none⟩) others rfl
      · cases failed
      · cases listed
        exact ⟨item, member, none⟩
    · intro mislisted
      cases value with
      | list items =>
          rcases mislisted items rfl with ⟨item, member, none⟩
          exact .inr ⟨items, rfl, item, member, none⟩
      | null | bool | number | text | object =>
          rcases items_eq_error_or_exists_text_mem present fun items => Json.noConfusion with
            failed | ⟨items, text, listed, member⟩
          · exact .inl ⟨_, failed⟩
          · exact .inr ⟨items, listed, _, member, texts text⟩
  next absent =>
    rcases nextOk [] with ⟨result, returned⟩
    change (∃ error, next [] = .error error) ↔ _
    rw [returned]
    exact iff_of_false not_exists_ok_eq_error fun mislisted => absent mislisted.1

theorem exists_items_orElse_eq_error {value : Json} {items : List Json} :
    (∃ error, (value.orElse (.list items)).items = .error error) ↔ value.IsItemless := by
  rw [orElse, IsItemless]
  split
  next present => cases value <;> simp [present, Json.items]
  next absent =>
    exact iff_of_false not_exists_ok_eq_error fun itemless => absent itemless.1

theorem not_isUnnamed_iff {members : List (String × Json)} :
    ¬IsUnnamed members ↔ ((valueOf "contractName" members).isPresent &&
      (valueOf "sourcePath" members).isPresent) = true := by
  rw [IsUnnamed, not_or, Bool.not_eq_false, Bool.not_eq_false, Bool.and_eq_true]

end Json

open Json (valueOf)

/-! ## Findings -/

theorem Location.ofJson_eq_error {payload : Json} :
    (∃ error, Location.ofJson payload = .error error) ↔ payload.IsNoLocation := by
  cases payload with
  | object members =>
      -- Of an object every member can be asked for, so what is left is to take the address.
      have read : Location.ofJson (.object members) =
          if (valueOf "address" members).isNull then
            .ok { sourceMap := valueOf "sourceMap" members, address := none }
          else (valueOf "address" members).toInt >>= fun address =>
            .ok { sourceMap := valueOf "sourceMap" members, address := some address } := rfl
      rw [read]
      constructor
      · intro failed
        split at failed
        next => exact absurd failed not_exists_ok_eq_error
        next present =>
          rw [exists_bind_eq_error_of_ok fun address => ⟨_, rfl⟩, Json.toInt_eq_error] at failed
          rcases failed with null | none
          · exact absurd (congrArg Json.isNull null) present
          · exact .address none
      · rintro (shapeless | none)
        · exact absurd rfl (shapeless members)
        · rw [if_neg (ne_true_of_eq_false none.ne_null),
            exists_bind_eq_error_of_ok fun address => ⟨_, rfl⟩, Json.toInt_eq_error]
          exact .inr none
  | null | bool | number | text | list =>
      exact iff_of_true ⟨_, rfl⟩ (.shapeless fun members => Json.noConfusion)

theorem Issue.ofJson_eq_error {payload : Json} :
    (∃ error, Issue.ofJson payload = .error error) ↔ payload.IsNoIssue := by
  cases payload with
  | object members =>
      let description := (valueOf "description" members).orElse (.object [])
      have read : Issue.ofJson (.object members) =
          (description.displayMember "head" >>= fun head =>
          description.displayMember "tail" >>= fun tail =>
          (valueOf "locations" members).itemsIfPresent >>= fun items =>
          items.mapM Location.ofJson >>= fun locations =>
          .ok {
            head, tail, locations
            severity := ((Json.find? "severity" members).getD (.text "")).display
            ruleId := ((Json.find? "swcID" members).getD (.text "")).display
            ruleTitle := ((Json.find? "swcTitle" members).getD (.text "")).display }) := rfl
      rw [read, exists_bind_eq_error_or fun head => exists_bind_eq_error_or fun tail =>
          Json.exists_items_mapM_eq_error (fun _ => Location.ofJson_eq_error)
            (fun text => .shapeless (Json.isNoObject_text text)) (fun locations => ⟨_, rfl⟩),
        Json.exists_displayMember_eq_error, Json.exists_displayMember_eq_error, or_self_left,
        Json.isNoObject_orElse_object]
      constructor
      · rintro (⟨present, shapeless⟩ | mislisted)
        · exact .description present shapeless
        · exact .locations mislisted
      · rintro (shapeless | ⟨present, shapeless⟩ | mislisted)
        · exact absurd rfl (shapeless members)
        · exact .inl ⟨present, shapeless⟩
        · exact .inr mislisted
  | null | bool | number | text | list =>
      exact iff_of_true ⟨_, rfl⟩ (.shapeless fun members => Json.noConfusion)

theorem Batch.ofJson_eq_error {payload : Json} :
    (∃ error, Batch.ofJson payload = .error error) ↔ payload.IsNoBatch := by
  cases payload with
  | object members =>
      have read : Batch.ofJson (.object members) =
          ((valueOf "sourceList" members).itemsIfPresent >>= fun sourceList =>
          (valueOf "issues" members).itemsIfPresent >>= fun issues =>
          issues.mapM Issue.ofJson >>= fun issues =>
          .ok {
            format := ((Json.find? "sourceFormat" members).getD (.text "")).display
            sourceType := ((Json.find? "sourceType" members).getD (.text "")).display
            sourceList, issues }) := rfl
      rw [read, exists_bind_eq_error_or fun sourceList =>
          Json.exists_items_mapM_eq_error (fun _ => Issue.ofJson_eq_error)
            (fun text => .shapeless (Json.isNoObject_text text)) (fun issues => ⟨_, rfl⟩),
        Ast.itemsIfPresent_eq_error]
      constructor
      · rintro (itemless | mislisted)
        · exact .sourceList itemless
        · exact .issues mislisted
      · rintro (shapeless | itemless | mislisted)
        · exact absurd rfl (shapeless members)
        · exact .inl itemless
        · exact .inr mislisted
  | null | bool | number | text | list =>
      exact iff_of_true ⟨_, rfl⟩ (.shapeless fun members => Json.noConfusion)

/-! ## Builds -/

/-- Whether a fault is that of an unusable artifact. -/
def Fault.IsOfArtifact (fault : Fault) : Prop :=
  ∃ error, fault = .artifact error

namespace Artifact

variable {build : Json} {members : List (String × Json)}

theorem ofJson_of_isUnnamed (unnamed : Json.IsUnnamed members) :
    ofJson (.object members) = .error (.artifact .unnamed) :=
  if_neg fun named => Json.not_isUnnamed_iff.mpr named unnamed

/-- Of an object with the names that a build must have, only the sources can be wrong. -/
theorem exists_ofJson_eq_bind (named : ¬Json.IsUnnamed members) :
    ∃ finish : List Json → Artifact, ofJson (.object members) =
      ((((valueOf "sourceList" members).orElse (valueOf "sources" members)).orElse
        (.list [valueOf "sourcePath" members])).items.mapError Fault.shape >>= fun sources =>
      .ok (finish sources)) := by
  refine ⟨fun sources =>
    { contractName := (valueOf "contractName" members).display
      sourcePath := (valueOf "sourcePath" members).display
      deployedBytecode := (valueOf "deployedBytecode" members).displayIfPresent
      sourceMap := (valueOf "sourceMap" members).displayIfPresent
      deployedSourceMap := (valueOf "deployedSourceMap" members).displayIfPresent
      ast := valueOf "ast" members
      sourceList := sources.map Json.display }, ?_⟩
  exact if_pos (Json.not_isUnnamed_iff.mp named)

/-- The reading of such an object fails with the fault of its sources. -/
theorem ofJson_eq_error_of_named (named : ¬Json.IsUnnamed members) {fault : Fault} :
    ofJson (.object members) = .error fault ↔
      ∃ error, fault = .shape error ∧
        (((valueOf "sourceList" members).orElse (valueOf "sources" members)).orElse
          (.list [valueOf "sourcePath" members])).items = .error error := by
  rcases exists_ofJson_eq_bind named with ⟨finish, read⟩
  rw [read, bind_eq_error, mapError_eq_error]
  constructor
  · rintro (⟨error, failed, rfl⟩ | ⟨sources, -, impossible⟩)
    · exact ⟨error, rfl, failed⟩
    · cases impossible
  · rintro ⟨error, rfl, failed⟩
    exact .inl ⟨error, failed, rfl⟩

theorem ofJson_of_isNoObject (shapeless : build.IsNoObject) :
    ofJson build = .error (.shape .notObject) := by
  cases build with
  | object members => exact absurd rfl (shapeless members)
  | null | bool | number | text | list => rfl

/-- A build is refused when it is an object that lacks a name which a build must have. -/
theorem failsWith_isOfArtifact_ofJson :
    FailsWith Fault.IsOfArtifact (ofJson build) ↔
      ∃ members, build = .object members ∧ Json.IsUnnamed members := by
  constructor
  · rintro ⟨_, failed, error, rfl⟩
    cases build with
    | object members =>
        rcases Classical.em (Json.IsUnnamed members) with unnamed | named
        · exact ⟨members, rfl, unnamed⟩
        · rcases (ofJson_eq_error_of_named named).mp failed with ⟨_, impossible, -⟩
          cases impossible
    | null | bool | number | text | list => cases failed
  · rintro ⟨members, rfl, unnamed⟩
    exact ⟨_, ofJson_of_isUnnamed unnamed, .unnamed, rfl⟩

/-- Any other fault of a build is that of its shape. -/
theorem failsWith_not_isOfArtifact_ofJson :
    FailsWith (¬·.IsOfArtifact) (ofJson build) ↔ build.IsNoBuild := by
  constructor
  · rintro ⟨fault, failed, other⟩
    cases build with
    | object members =>
        rcases Classical.em (Json.IsUnnamed members) with unnamed | named
        · cases (ofJson_of_isUnnamed unnamed).symm.trans failed
          exact absurd ⟨_, rfl⟩ other
        · rcases (ofJson_eq_error_of_named named).mp failed with ⟨error, -, failed⟩
          exact .sources named (Json.exists_items_orElse_eq_error.mp ⟨error, failed⟩)
    | null | bool | number | text | list => exact .shapeless fun members => Json.noConfusion
  · rintro (shapeless | ⟨named, itemless⟩)
    · exact ⟨_, ofJson_of_isNoObject shapeless, nofun⟩
    · rcases Json.exists_items_orElse_eq_error.mpr itemless with ⟨error, failed⟩
      exact ⟨_, (ofJson_eq_error_of_named named).mpr ⟨error, rfl, failed⟩, nofun⟩

end Artifact

namespace Cli

/-! ## Batches and the names in them -/

/-- A batch or a list of batches is read unless it is neither. -/
theorem batchesOf_eq_error {payload : Json} :
    (∃ error, batchesOf payload = .error error) ↔ payload.IsNoFindings := by
  have single (unlisted : ∀ batches, payload ≠ .list batches)
      (read : batchesOf payload = Batch.ofJson payload >>= fun batch => .ok [batch]) :
      (∃ error, batchesOf payload = .error error) ↔ payload.IsNoFindings := by
    rw [read, exists_bind_eq_error_of_ok fun batch => ⟨_, rfl⟩, Batch.ofJson_eq_error]
    constructor
    · exact .batch unlisted
    · rintro (⟨-, none⟩ | ⟨-, -⟩)
      · exact none
      · exact absurd rfl (unlisted _)
  cases payload with
  | list batches =>
      rw [batchesOf, exists_mapM_eq_error]
      simp only [Batch.ofJson_eq_error]
      constructor
      · rintro ⟨batch, member, none⟩
        exact .batches member none
      · rintro (⟨unlisted, -⟩ | ⟨member, none⟩)
        · exact absurd rfl (unlisted batches)
        · exact ⟨_, member, none⟩
  | null | bool | number | text | object => exact single (fun batches => Json.noConfusion) rfl

variable {artifact : Artifact} {batches : List Batch}

theorem asText_eq_ok {value : Json} {text : String} :
    value.asText = .ok text ↔ value = .text text := by
  cases value <;> simp [Json.asText]

theorem sourceNames_eq_ok {names : List String} :
    sourceNames artifact batches = .ok names ↔
      ∃ texts, (batches.flatMap (·.sourceList)).mapM Json.asText = .ok texts ∧
        names = Text.sortedNames (artifact.sourcePath :: artifact.sourceList ++ texts) := by
  have read (lookable : (batches.flatMap (·.sourceList)).all Json.isName = true) :
      sourceNames artifact batches =
        (((batches.flatMap (·.sourceList)).mapM Json.asText).mapError
          (fun _ => ShapeError.unordered) >>= fun texts =>
        .ok (Text.sortedNames (artifact.sourcePath :: artifact.sourceList ++ texts))) :=
    if_neg (by rw [lookable]; decide)
  constructor
  · intro sorted
    by_cases lookable : (batches.flatMap (·.sourceList)).all Json.isName = true
    · rw [read lookable, bind_eq_ok] at sorted
      rcases sorted with ⟨texts, textsOk, equal⟩
      cases equal
      exact ⟨texts, mapError_eq_ok.mp textsOk, rfl⟩
    · have refused : sourceNames artifact batches = .error .notName :=
        if_pos (by rw [Bool.not_eq_true] at lookable; rw [lookable]; rfl)
      cases refused.symm.trans sorted
  · rintro ⟨texts, textsOk, rfl⟩
    have lookable : (batches.flatMap (·.sourceList)).all Json.isName = true := by
      apply List.all_eq_true.mpr
      intro name member
      rcases exists_mapM_eq_ok.mp ⟨texts, textsOk⟩ name member with ⟨text, textOk⟩
      rw [asText_eq_ok.mp textOk]
      rfl
    rw [read lookable, bind_eq_ok]
    exact ⟨texts, mapError_eq_ok.mpr textsOk, rfl⟩

/-- Sources are sorted by their names, so all of these have to be texts. -/
theorem exists_sourceNames_eq_ok :
    (∃ names, sourceNames artifact batches = .ok names) ↔
      ∀ batch ∈ batches, ∀ name ∈ batch.sourceList, name.IsText := by
  have sorts : (∃ names, sourceNames artifact batches = .ok names) ↔
      ∃ texts, (batches.flatMap (·.sourceList)).mapM Json.asText = .ok texts := by
    constructor
    · rintro ⟨names, sorted⟩
      rcases sourceNames_eq_ok.mp sorted with ⟨texts, textsOk, -⟩
      exact ⟨texts, textsOk⟩
    · rintro ⟨texts, textsOk⟩
      exact ⟨_, sourceNames_eq_ok.mpr ⟨texts, textsOk, rfl⟩⟩
  rw [sorts, exists_mapM_eq_ok, List.forall_mem_flatMap]
  simp only [asText_eq_ok, Json.IsText]

theorem sourceNames_eq_error :
    (∃ error, sourceNames artifact batches = .error error) ↔
      ∃ batch ∈ batches, ∃ name ∈ batch.sourceList, ¬name.IsText := by
  rw [exists_eq_error_iff, exists_sourceNames_eq_ok]
  simp only [Classical.not_forall, exists_prop]

/-- The names of the sources of a contract: the path of its main source, the list of its build, and
the lists of its findings. -/
theorem mem_sourceNames {names : List String} (sorted : sourceNames artifact batches = .ok names)
    {name : String} :
    name ∈ names ↔ name = artifact.sourcePath ∨ name ∈ artifact.sourceList ∨
      ∃ batch ∈ batches, .text name ∈ batch.sourceList := by
  rcases sourceNames_eq_ok.mp sorted with ⟨texts, textsOk, rfl⟩
  have listed : name ∈ texts ↔ ∃ batch ∈ batches, .text name ∈ batch.sourceList := by
    rw [mem_of_mapM_eq_ok textsOk]
    simp only [asText_eq_ok, exists_eq_right, List.mem_flatMap]
  rw [Text.mem_sortedNames, List.mem_append, List.mem_cons, or_assoc, listed]

end Cli

end Pinpoint
