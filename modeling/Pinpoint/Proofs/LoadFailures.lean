import Pinpoint.Proofs.InputShapes
import Pinpoint.Proofs.SourceFiles

/-!
# What loading a contract comes to

An artifact and its findings are loaded, or refused with a word about the file, or the loading is
interrupted. Refused is a file that cannot be read, that is not text or not JSON, and a build
without its names. Everything else interrupts: JSON of another shape, a text that goes beyond what
the reader takes in, and a source of which the system does not tell whether it is there. A text
with half of a surrogate pair can be read elsewhere, and nothing is said about it here.
-/

namespace Pinpoint

/-- Whether a fault is a limit of the reader: a JSON text may be well formed and have it. -/
def Json.ReadFault.IsLimit (fault : Json.ReadFault) : Prop :=
  fault = .numeralTooLong ∨ fault = .tooDeep

namespace Cli

/-- Whether loading stops with a report. -/
def LoadError.IsRefusal (error : LoadError) : Prop :=
  ∃ input, error = .input input

/-- Whether loading stops without a report. -/
def LoadError.IsInterruption (error : LoadError) : Prop :=
  ∃ interruption, error = .interruption interruption

/-! ## Reading a file -/

namespace Host

variable (host : Host) (path : Path)

/-- The bytes that can be read at a path. -/
def bytes? : Option (List UInt8) :=
  (host.files path).content?.bind Content.bytes?

/-- Whether what is found at a path is the text of a JSON value. -/
def ReadsAs (value : Json) : Prop :=
  ∃ bytes text, host.bytes? path = some bytes ∧ decodeText bytes = .ok text ∧
    Json.read host.nestingLimit text = .ok value

/-- Whether what is found at a path is a text that the JSON reader fails on. -/
def FailsOn (error : Json.ReadError) : Prop :=
  ∃ bytes text, host.bytes? path = some bytes ∧ decodeText bytes = .ok text ∧
    Json.read host.nestingLimit text = .error error

/-- Whether the JSON reader does not come to half of a surrogate pair. -/
def ReadsWhole : Prop :=
  ∀ error, host.FailsOn path error → error.fault ≠ .loneSurrogate

/-- Whether what is found at a path is refused: nothing that can be read, or no text, or no JSON. -/
inductive Refuses : Prop
  | unreadable : host.bytes? path = none → host.files path ≠ .invalidName → Refuses
  | undecodable {bytes : List UInt8} {error : Text.Utf8Error} :
      host.bytes? path = some bytes → decodeText bytes = .error error → Refuses
  | malformed {error : Json.ReadError} :
      host.FailsOn path error → ¬error.fault.IsLimit → Refuses

/-- Whether asking for a path or reading what is there stops everything: the path has a null
character, or the text goes beyond a limit. -/
inductive Interrupts : Prop
  | invalidName : host.files path = .invalidName → Interrupts
  | limit {error : Json.ReadError} :
      host.FailsOn path error → error.fault.IsLimit → Interrupts

end Host

/-- What a fault of a JSON text comes to: beyond a limit an interruption, else a refusal, unless it
is half of a surrogate pair. -/
def LoadError.ofReading (path : Path) (error : Json.ReadError) : LoadError :=
  match error.fault with
  | .numeralTooLong => .interruption .numeralTooLong
  | .tooDeep => .interruption .tooDeep
  | .loneSurrogate => .interruption .loneSurrogate
  | _ => .input (.unreadable path (.malformed error))

/-- What a fault of a build comes to: that of an unusable artifact a refusal, any other an
interruption. -/
def LoadError.ofBuild (path : Path) : Fault → LoadError
  | .artifact error => .input (.invalidArtifact path error)
  | fault => .interruption (.fault fault)

namespace LoadError

@[simp] theorem isRefusal_input {error : InputError} : (input error).IsRefusal :=
  ⟨error, rfl⟩

@[simp] theorem not_isRefusal_interruption {cause : Interruption} :
    ¬(interruption cause).IsRefusal := nofun

@[simp] theorem isInterruption_interruption {cause : Interruption} :
    (interruption cause).IsInterruption :=
  ⟨cause, rfl⟩

@[simp] theorem not_isInterruption_input {error : InputError} : ¬(input error).IsInterruption :=
  nofun

theorem isInterruption_iff {error : LoadError} : error.IsInterruption ↔ ¬error.IsRefusal := by
  cases error <;> simp

/-- Whatever fails with the shape of a value interrupts. -/
theorem failsWith_isInterruption_ofShape {α : Type} {request : Except ShapeError α} :
    FailsWith (fun error => (ofShape error).IsInterruption) request ↔
      ∃ error, request = .error error :=
  failsWith_iff_of_forall fun _ => isInterruption_interruption

theorem failsWith_isInterruption_interruption {α : Type} {request : Except Interruption α} :
    FailsWith (fun cause => (interruption cause).IsInterruption) request ↔
      ∃ cause, request = .error cause :=
  failsWith_iff_of_forall fun _ => isInterruption_interruption

theorem isRefusal_ofReading {path : Path} {error : Json.ReadError}
    (whole : error.fault ≠ .loneSurrogate) :
    (ofReading path error).IsRefusal ↔ ¬error.fault.IsLimit := by
  rw [ofReading, Json.ReadFault.IsLimit]
  cases fault : error.fault with
  | loneSurrogate => exact absurd fault whole
  | _ => simp

theorem isRefusal_ofBuild {path : Path} {fault : Fault} :
    (ofBuild path fault).IsRefusal ↔ fault.IsOfArtifact := by
  rw [Fault.IsOfArtifact]
  cases fault <;> simp [ofBuild]

end LoadError

variable {host : Host} {path : Path}

/-- What is read of bytes, as a text and as JSON one after the other. -/
theorem readJson_of_bytes {bytes : List UInt8} (found : host.bytes? path = some bytes) :
    readJson host path =
      ((decodeText bytes).mapError fun error => .input (.unreadable path (.undecodable error))) >>=
        fun text => (Json.read host.nestingLimit text).mapError (.ofReading path) := by
  rcases Option.bind_eq_some_iff.mp found with ⟨content, contentOk, bytesOk⟩
  rw [readJson, contentOk]
  cases content with
  | closed | broken => cases bytesOk
  | bytes read =>
      cases bytesOk
      dsimp only
      cases decodeText bytes with
      | error error => rfl
      | ok text =>
          change _ = (Json.read host.nestingLimit text).mapError (LoadError.ofReading path)
          dsimp only
          cases Json.read host.nestingLimit text with
          | ok value => rfl
          | error error =>
              change _ = Except.error (LoadError.ofReading path error)
              dsimp only [LoadError.ofReading]
              cases error.fault <;> rfl

theorem Lookup.content?_eq_none {found : Lookup} :
    found.content? = none ↔ found = .invalidName := by
  cases found <;> simp [content?]

theorem readJson_of_unreadable (unreadable : host.bytes? path = none) :
    (host.files path = .invalidName ∧ readJson host path = .error (.interruption .invalidName)) ∨
      host.files path ≠ .invalidName ∧ ∃ reason,
        readJson host path = .error (.input (.unreadable path reason)) := by
  rw [readJson]
  cases asked : (host.files path).content? with
  | none => exact .inl ⟨Lookup.content?_eq_none.mp asked, rfl⟩
  | some content =>
      have valid : host.files path ≠ .invalidName := by
        rw [Ne, ← Lookup.content?_eq_none, asked]
        exact Option.some_ne_none content
      rw [Host.bytes?, asked] at unreadable
      cases content with
      | bytes => cases unreadable
      | closed | broken => exact .inr ⟨valid, _, rfl⟩

theorem readJson_eq_ok {value : Json} :
    readJson host path = .ok value ↔ host.ReadsAs path value := by
  rw [Host.ReadsAs]
  cases found : host.bytes? path with
  | some bytes =>
      simp only [readJson_of_bytes found, bind_eq_ok, mapError_eq_ok, Option.some.injEq,
        exists_and_left, exists_eq_left']
  | none =>
      apply iff_of_false
      · intro read
        rcases readJson_of_unreadable found with ⟨-, failed⟩ | ⟨-, reason, failed⟩
        · cases failed.symm.trans read
        · cases failed.symm.trans read
      · rintro ⟨bytes, -, impossible, -⟩
        cases impossible

/-- Reading bytes fails because they are no text, or because the text is no JSON. -/
theorem failsWith_readJson {kind : LoadError → Prop} {bytes : List UInt8}
    (found : host.bytes? path = some bytes) :
    FailsWith kind (readJson host path) ↔
      (∃ error, decodeText bytes = .error error ∧
        kind (.input (.unreadable path (.undecodable error)))) ∨
      ∃ error, host.FailsOn path error ∧ kind (.ofReading path error) := by
  rw [readJson_of_bytes found, failsWith_bind, failsWith_mapError]
  apply or_congr .rfl
  simp only [failsWith_mapError, mapError_eq_ok]
  constructor
  · rintro ⟨text, decoded, error, failed, isKind⟩
    exact ⟨error, ⟨bytes, text, found, decoded, failed⟩, isKind⟩
  · rintro ⟨error, ⟨_, text, some, decoded, failed⟩, isKind⟩
    cases found.symm.trans some
    exact ⟨text, decoded, error, failed, isKind⟩

theorem Host.FailsOn.bytes?_ne_none {error : Json.ReadError} (fails : host.FailsOn path error) :
    host.bytes? path ≠ none := by
  rcases fails with ⟨bytes, -, some, -⟩
  rw [some]
  exact Option.some_ne_none bytes

theorem Host.ReadsAs.readsWhole {value : Json} (reads : host.ReadsAs path value) :
    host.ReadsWhole path := by
  rintro error ⟨bytes, text, some, decoded, failed⟩
  rcases reads with ⟨other, same, otherSome, sameDecoded, read⟩
  cases some.symm.trans otherSome
  cases decoded.symm.trans sameDecoded
  cases failed.symm.trans read

theorem Host.readsWhole_of_unreadable (unreadable : host.bytes? path = none) :
    host.ReadsWhole path :=
  fun _ fails => absurd unreadable fails.bytes?_ne_none

theorem failsWith_isRefusal_readJson (whole : host.ReadsWhole path) :
    FailsWith LoadError.IsRefusal (readJson host path) ↔
      host.Refuses path := by
  cases found : host.bytes? path with
  | none =>
      rcases readJson_of_unreadable found with ⟨invalid, failed⟩ | ⟨other, reason, failed⟩
      · rw [failed, failsWith_error]
        apply iff_of_false LoadError.not_isRefusal_interruption
        rintro (⟨-, other⟩ | ⟨some, -⟩ | ⟨fails, -⟩)
        · exact other invalid
        · cases found.symm.trans some
        · exact fails.bytes?_ne_none found
      · rw [failed, failsWith_error]
        exact iff_of_true LoadError.isRefusal_input (.unreadable found other)
  | some bytes =>
      rw [failsWith_readJson found]
      constructor
      · rintro (⟨error, undecodable, -⟩ | ⟨error, fails, refused⟩)
        · exact .undecodable found undecodable
        · exact .malformed fails ((LoadError.isRefusal_ofReading (whole error fails)).mp refused)
      · rintro (⟨none, -⟩ | ⟨some, undecodable⟩ | ⟨fails, within⟩)
        · cases found.symm.trans none
        · cases found.symm.trans some
          exact .inl ⟨_, undecodable, LoadError.isRefusal_input⟩
        · exact .inr ⟨_, fails, (LoadError.isRefusal_ofReading (whole _ fails)).mpr within⟩

theorem failsWith_isInterruption_readJson (whole : host.ReadsWhole path) :
    FailsWith LoadError.IsInterruption (readJson host path) ↔
      host.Interrupts path := by
  have beyond {error : Json.ReadError} (fails : host.FailsOn path error) :
      (LoadError.ofReading path error).IsInterruption ↔ error.fault.IsLimit := by
    rw [LoadError.isInterruption_iff, LoadError.isRefusal_ofReading (whole error fails),
      Classical.not_not]
  cases found : host.bytes? path with
  | none =>
      rcases readJson_of_unreadable found with ⟨invalid, failed⟩ | ⟨other, reason, failed⟩
      · rw [failed, failsWith_error]
        exact iff_of_true LoadError.isInterruption_interruption (.invalidName invalid)
      · rw [failed, failsWith_error]
        apply iff_of_false LoadError.not_isInterruption_input
        rintro (invalid | ⟨fails, -⟩)
        · exact other invalid
        · exact fails.bytes?_ne_none found
  | some bytes =>
      rw [failsWith_readJson found]
      constructor
      · rintro (⟨error, -, impossible⟩ | ⟨error, fails, interrupts⟩)
        · exact absurd impossible LoadError.not_isInterruption_input
        · exact .limit fails ((beyond fails).mp interrupts)
      · rintro (invalid | ⟨fails, limit⟩)
        · rw [Host.bytes?, invalid] at found
          cases found
        · exact .inr ⟨_, fails, (beyond fails).mpr limit⟩

/-! ## Loading a contract -/

theorem loadArtifact_eq_bind : loadArtifact host path =
    readJson host path >>= fun value => (Artifact.ofJson value).mapError (.ofBuild path) := by
  rw [loadArtifact]
  congr 1
  funext value
  cases Artifact.ofJson value with
  | ok artifact => rfl
  | error fault => cases fault <;> rfl

theorem failsWith_isRefusal_loadArtifact (whole : host.ReadsWhole path) :
    FailsWith LoadError.IsRefusal (loadArtifact host path) ↔
      host.Refuses path ∨
        ∃ members, host.ReadsAs path (.object members) ∧ Json.IsUnnamed members := by
  rw [loadArtifact_eq_bind, failsWith_bind, failsWith_isRefusal_readJson whole]
  simp only [failsWith_mapError, LoadError.isRefusal_ofBuild, readJson_eq_ok,
    Artifact.failsWith_isOfArtifact_ofJson]
  apply or_congr .rfl
  constructor
  · rintro ⟨_, read, members, rfl, unnamed⟩
    exact ⟨members, read, unnamed⟩
  · rintro ⟨members, read, unnamed⟩
    exact ⟨_, read, members, rfl, unnamed⟩

theorem failsWith_isInterruption_loadArtifact (whole : host.ReadsWhole path) :
    FailsWith LoadError.IsInterruption (loadArtifact host path) ↔
      host.Interrupts path ∨ ∃ value, host.ReadsAs path value ∧ value.IsNoBuild := by
  rw [loadArtifact_eq_bind, failsWith_bind, failsWith_isInterruption_readJson whole]
  simp only [failsWith_mapError, LoadError.isInterruption_iff, LoadError.isRefusal_ofBuild,
    readJson_eq_ok, Artifact.failsWith_not_isOfArtifact_ofJson]

theorem failsWith_isRefusal_loadBatches (whole : host.ReadsWhole path) :
    FailsWith LoadError.IsRefusal (loadBatches host path) ↔ host.Refuses path := by
  rw [loadBatches, failsWith_bind, failsWith_isRefusal_readJson whole]
  apply or_iff_left
  rintro ⟨value, -, failed⟩
  exact not_failsWith_of_forall (fun _ => LoadError.not_isRefusal_interruption)
    (failsWith_mapError.mp failed)

theorem failsWith_isInterruption_loadBatches (whole : host.ReadsWhole path) :
    FailsWith LoadError.IsInterruption (loadBatches host path) ↔
      host.Interrupts path ∨ ∃ value, host.ReadsAs path value ∧ value.IsNoFindings := by
  rw [loadBatches, failsWith_bind, failsWith_isInterruption_readJson whole]
  simp only [failsWith_mapError, readJson_eq_ok, ← batchesOf_eq_error,
    LoadError.failsWith_isInterruption_ofShape]

/-! ## Looking for the sources -/

/-- Whether the findings or the build of a contract name a source. -/
def NamesSource (artifact : Artifact) (batches : List Batch) (name : String) : Prop :=
  name = artifact.sourcePath ∨ name ∈ artifact.sourceList ∨
    ∃ batch ∈ batches, .text name ∈ batch.sourceList

/-- Whether the system fails to tell what is found, and not because there is no file. -/
def Lookup.IsHidden (found : Lookup) : Prop :=
  ∃ error, found = .unknown error ∧ error.meansNoFile = false

/-- Whether some paths come to one of which the system does not tell, with no file before. -/
def ComesToHidden (files : Path → Lookup) (paths : List Path) : Prop :=
  ∃ before path after, paths = before ++ path :: after ∧ (files path).IsHidden ∧
    ∀ earlier ∈ before, (files earlier).file? = none

variable {files : Path → Lookup}

theorem comesToHidden_cons {first : Path} {rest : List Path} :
    ComesToHidden files (first :: rest) ↔
      (files first).IsHidden ∨ (files first).file? = none ∧ ComesToHidden files rest := by
  constructor
  · rintro ⟨before, path, after, listed, hidden, none⟩
    cases before with
    | nil =>
        cases listed
        exact .inl hidden
    | cons head before =>
        cases listed
        rcases List.forall_mem_cons.mp none with ⟨headNone, none⟩
        exact .inr ⟨headNone, before, path, after, rfl, hidden, none⟩
  · rintro (hidden | ⟨firstNone, before, path, after, rfl, hidden, none⟩)
    · exact ⟨[], first, rest, rfl, hidden, fun _ member => absurd member List.not_mem_nil⟩
    · refine ⟨first :: before, path, after, rfl, hidden, ?_⟩
      exact List.forall_mem_cons.mpr ⟨firstNone, none⟩

theorem readFirst_eq_error {paths : List Path} :
    (∃ cause, readFirst files paths = .error cause) ↔ ComesToHidden files paths := by
  induction paths with
  | nil =>
      apply iff_of_false not_exists_ok_eq_error
      rintro ⟨before, path, after, impossible, -⟩
      exact List.append_ne_nil_of_right_ne_nil _ (List.cons_ne_nil _ _) impossible.symm
  | cons first rest ih =>
      rw [comesToHidden_cons, ← ih, readFirst]
      cases files first with
      | unknown error =>
          cases means : error.meansNoFile <;> simp [Lookup.file?, Lookup.IsHidden, means]
      | _ => simp [Lookup.file?, Lookup.IsHidden]

theorem readSources_eq_error {root : Path} {names : List String} :
    (∃ cause, readSources files root names = .error cause) ↔
      ∃ name ∈ names, ComesToHidden files (sourceCandidates root name) := by
  have each (name : String) :
      (∃ cause, (readFirst files (sourceCandidates root name) >>= fun content =>
        pure (content.map fun bytes => (name, bytes))) = .error cause) ↔
          ComesToHidden files (sourceCandidates root name) :=
    (exists_bind_eq_error_of_ok fun _ => ⟨_, rfl⟩).trans readFirst_eq_error
  simp only [← each]
  exact (exists_bind_eq_error_of_ok fun _ => ⟨_, rfl⟩).trans exists_mapM_eq_error

/-! ## What becomes of a contract -/

/-- Whether an artifact and its findings are refused. The findings are read after the artifact. -/
inductive RefusesContract (host : Host) (artifactPath issuesPath : Path) : Prop
  | artifact : host.Refuses artifactPath → RefusesContract host artifactPath issuesPath
  | unnamed {members : List (String × Json)} :
      host.ReadsAs artifactPath (.object members) → Json.IsUnnamed members →
      RefusesContract host artifactPath issuesPath
  | issues {artifact : Artifact} :
      loadArtifact host artifactPath = .ok artifact → host.Refuses issuesPath →
      RefusesContract host artifactPath issuesPath

/-- Whether loading a contract is interrupted: by its artifact, by its findings, by the name of a
source that is no text, or by a path of a source of which the system does not tell. -/
inductive InterruptsContract (host : Host) (root artifactPath issuesPath : Path) : Prop
  | artifact :
      host.Interrupts artifactPath → InterruptsContract host root artifactPath issuesPath
  | build {value : Json} :
      host.ReadsAs artifactPath value → value.IsNoBuild →
      InterruptsContract host root artifactPath issuesPath
  | issues {artifact : Artifact} :
      loadArtifact host artifactPath = .ok artifact → host.Interrupts issuesPath →
      InterruptsContract host root artifactPath issuesPath
  | findings {artifact : Artifact} {value : Json} :
      loadArtifact host artifactPath = .ok artifact → host.ReadsAs issuesPath value →
      value.IsNoFindings → InterruptsContract host root artifactPath issuesPath
  | name {artifact : Artifact} {batches : List Batch} {batch : Batch} {name : Json} :
      loadArtifact host artifactPath = .ok artifact →
      loadBatches host issuesPath = .ok batches → batch ∈ batches → name ∈ batch.sourceList →
      ¬name.IsText → InterruptsContract host root artifactPath issuesPath
  | source {artifact : Artifact} {batches : List Batch} {name : String} :
      loadArtifact host artifactPath = .ok artifact →
      loadBatches host issuesPath = .ok batches →
      (∀ batch ∈ batches, ∀ name ∈ batch.sourceList, name.IsText) →
      NamesSource artifact batches name → ComesToHidden host.files (sourceCandidates root name) →
      InterruptsContract host root artifactPath issuesPath

section Contract

variable {root artifactPath issuesPath : Path}

/-- The faults of loading a contract, part by part. -/
theorem failsWith_loadJob {kind : LoadError → Prop} :
    FailsWith kind (loadJob host root artifactPath issuesPath) ↔
      FailsWith kind (loadArtifact host artifactPath) ∨
        ∃ artifact, loadArtifact host artifactPath = .ok artifact ∧
          (FailsWith kind (loadBatches host issuesPath) ∨
            ∃ batches, loadBatches host issuesPath = .ok batches ∧
              (FailsWith (fun error => kind (.ofShape error)) (sourceNames artifact batches) ∨
                ∃ names, sourceNames artifact batches = .ok names ∧
                  FailsWith (fun cause => kind (.interruption cause))
                    (readSources host.files root names))) := by
  simp only [loadJob, failsWith_bind, failsWith_mapError, mapError_eq_ok, pure, Except.pure,
    not_failsWith_ok, and_false, exists_false, or_false]

theorem failsWith_isRefusal_loadJob
    (artifactWhole : host.ReadsWhole artifactPath) (issuesWhole : host.ReadsWhole issuesPath) :
    FailsWith LoadError.IsRefusal (loadJob host root artifactPath issuesPath) ↔
      RefusesContract host artifactPath issuesPath := by
  rw [failsWith_loadJob, failsWith_isRefusal_loadArtifact artifactWhole,
    failsWith_isRefusal_loadBatches issuesWhole]
  constructor
  · rintro ((refused | ⟨members, read, unnamed⟩) |
      ⟨artifact, loaded, refused | ⟨batches, -, failed | ⟨names, -, failed⟩⟩⟩)
    · exact .artifact refused
    · exact .unnamed read unnamed
    · exact .issues loaded refused
    · exact absurd failed (not_failsWith_of_forall fun _ => LoadError.not_isRefusal_interruption)
    · exact absurd failed (not_failsWith_of_forall fun _ => LoadError.not_isRefusal_interruption)
  · rintro (refused | ⟨read, unnamed⟩ | ⟨loaded, refused⟩)
    · exact .inl (.inl refused)
    · exact .inl (.inr ⟨_, read, unnamed⟩)
    · exact .inr ⟨_, loaded, .inl refused⟩

theorem failsWith_isInterruption_loadJob
    (artifactWhole : host.ReadsWhole artifactPath) (issuesWhole : host.ReadsWhole issuesPath) :
    FailsWith LoadError.IsInterruption (loadJob host root artifactPath issuesPath) ↔
      InterruptsContract host root artifactPath issuesPath := by
  rw [failsWith_loadJob, failsWith_isInterruption_loadArtifact artifactWhole,
    failsWith_isInterruption_loadBatches issuesWhole]
  simp only [LoadError.failsWith_isInterruption_ofShape,
    LoadError.failsWith_isInterruption_interruption, sourceNames_eq_error, readSources_eq_error]
  constructor
  · rintro ((interrupts | ⟨value, read, none⟩) | ⟨artifact, loaded,
      (interrupts | ⟨value, read, none⟩) | ⟨batches, batchesOk,
        ⟨batch, batchMem, name, nameMem, other⟩ | ⟨names, sorted, name, member, hidden⟩⟩⟩)
    · exact .artifact interrupts
    · exact .build read none
    · exact .issues loaded interrupts
    · exact .findings loaded read none
    · exact .name loaded batchesOk batchMem nameMem other
    · exact .source loaded batchesOk (exists_sourceNames_eq_ok.mp ⟨names, sorted⟩)
        ((mem_sourceNames sorted).mp member) hidden
  · rintro (interrupts | ⟨read, none⟩ | ⟨loaded, interrupts⟩ | ⟨loaded, read, none⟩ |
      ⟨loaded, batchesOk, batchMem, nameMem, other⟩ | ⟨loaded, batchesOk, texts, named, hidden⟩)
    · exact .inl (.inl interrupts)
    · exact .inl (.inr ⟨_, read, none⟩)
    · exact .inr ⟨_, loaded, .inl (.inl interrupts)⟩
    · exact .inr ⟨_, loaded, .inl (.inr ⟨_, read, none⟩)⟩
    · exact .inr ⟨_, loaded, .inr ⟨_, batchesOk, .inl ⟨_, batchMem, _, nameMem, other⟩⟩⟩
    · rcases exists_sourceNames_eq_ok.mpr texts with ⟨names, sorted⟩
      exact .inr ⟨_, loaded, .inr ⟨_, batchesOk, .inr ⟨names, sorted, _,
        (mem_sourceNames sorted).mpr named, hidden⟩⟩⟩

/-- The names that a loaded contract gives to its sources are texts. -/
theorem hasTextNames_of_loadJob {job : Job}
    (loaded : loadJob host root artifactPath issuesPath = .ok job) : job.HasTextNames := by
  rcases bind_eq_ok.mp loaded with ⟨artifact, -, loaded⟩
  rcases bind_eq_ok.mp loaded with ⟨batches, -, loaded⟩
  rcases bind_eq_ok.mp loaded with ⟨names, sorted, loaded⟩
  rcases bind_eq_ok.mp loaded with ⟨sources, -, equal⟩
  cases equal
  exact exists_sourceNames_eq_ok.mp ⟨names, mapError_eq_ok.mp sorted⟩

end Contract

end Cli

end Pinpoint
