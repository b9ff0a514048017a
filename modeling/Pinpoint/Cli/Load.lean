import Pinpoint.Cli.Files
import Pinpoint.Json.Reader
import Pinpoint.Run
import Pinpoint.Text.Newlines
import Pinpoint.Text.Utf8

/-!
# Loading

Reads the artifact, the findings and the sources of a contract. Files are read as UTF-8 text
whose line ends are single line feeds, and offsets count the bytes of that text. An artifact or
findings that cannot be read are reported and end the program; a source that cannot be read is
left out.
-/

namespace Pinpoint.Cli

/-- Why a file is not the JSON text that it should be. -/
inductive ReadFailure where
  /-- It cannot be opened. -/
  | closed (error : SystemError)
  /-- It can be opened, and reading it fails. -/
  | broken (error : SystemError)
  | undecodable (error : Text.Utf8Error)
  | malformed (error : Json.ReadError)
  deriving BEq, DecidableEq, Repr

/-- Input that the program reports and refuses. -/
inductive InputError where
  | unreadable (path : Path) (reason : ReadFailure)
  | invalidArtifact (path : Path) (error : ArtifactError)
  deriving BEq, DecidableEq, Repr

/-- What stops the program without a report. -/
inductive Interruption where
  | fault (fault : Fault)
  /-- An integer is too long to be read or written. -/
  | numeralTooLong
  /-- A JSON text is nested too deep. -/
  | tooDeep
  /-- A JSON text holds half of a surrogate pair, which no text here can hold. -/
  | loneSurrogate
  /-- A path holds a null character. -/
  | invalidName
  /-- The system fails to tell whether a file is there. -/
  | system (error : SystemError)
  deriving BEq, DecidableEq, Repr

/-- Why loading stops. -/
inductive LoadError where
  | input (error : InputError)
  | interruption (interruption : Interruption)
  deriving BEq, DecidableEq, Repr

/-- The wording of a failure of the operating system. -/
def SystemError.message (error : SystemError) : String :=
  s!"[Errno {error.number}] {error.reason}"

/-- The wording of what is wrong with a byte sequence. -/
def utf8Reason : Text.Utf8Fault → String
  | .invalidStart => "invalid start byte"
  | .invalidContinuation => "invalid continuation byte"
  | .unexpectedEnd => "unexpected end of data"

/-- The wording of a decoding error: a single byte is shown, several are given by their range. -/
def utf8Message (error : Text.Utf8Error) : String :=
  let place :=
    if error.length = 1 then
      "byte 0x" ++ String.ofList (Text.hexDigits 2 error.byte.toNat) ++
        s!" in position {error.start}"
    else
      let last := error.start + error.length - 1
      s!"bytes in position {error.start}-{last}"
  "'utf-8' codec can't decode " ++ place ++ ": " ++ utf8Reason error.fault

/-- The wording of a failure to read a path. Only opening it names the path. -/
def ReadFailure.message (failure : ReadFailure) (path : Path) : String :=
  match failure with
  | .closed error => error.message ++ ": " ++ Text.quote path.text
  | .broken error => error.message
  | .undecodable error => utf8Message error
  | .malformed error => error.message

/-- The wording of refused input. -/
def InputError.message : InputError → String
  | .unreadable path reason =>
    "Cannot read JSON file " ++ path.text ++ ": " ++ reason.message path
  | .invalidArtifact path error => "Invalid artifact " ++ path.text ++ ": " ++ error.message

/-- A fault that loading does not expect. -/
def LoadError.ofShape (error : ShapeError) : LoadError :=
  .interruption (.fault (.shape error))

/-- The text of a file, with its line ends unified. -/
def decodeText (bytes : List UInt8) : Except Text.Utf8Error (List Char) :=
  (Text.decodeUtf8 bytes).map Text.unifyNewlines

/-- Reads a file as JSON. -/
def readJson (host : Host) (path : Path) : Except LoadError Json :=
  let refuse (reason : ReadFailure) : Except LoadError Json :=
    .error (.input (.unreadable path reason))
  match (host.files path).content? with
  | none => .error (.interruption .invalidName)
  | some (.closed error) => refuse (.closed error)
  | some (.broken error) => refuse (.broken error)
  | some (.bytes bytes) =>
    match decodeText bytes with
    | .error error => refuse (.undecodable error)
    | .ok text =>
      match Json.read host.nestingLimit text with
      | .ok value => .ok value
      | .error error =>
        match error.fault with
        | .numeralTooLong => .error (.interruption .numeralTooLong)
        | .tooDeep => .error (.interruption .tooDeep)
        | .loneSurrogate => .error (.interruption .loneSurrogate)
        | _ => refuse (.malformed error)

/-- The places where a source is looked for: its name as it is, then below the root, then its
last name below the root. -/
def sourceCandidates (root : Path) (name : String) : List Path :=
  let path := Path.parse name
  [path, root.join path, root.join path.last]

/-- The bytes of a source: those of its text with unified line ends. There are none if the file
cannot be read or is not text. -/
def sourceBytes? : Content → Option (List UInt8)
  | .bytes bytes => (decodeText bytes).toOption.map Text.encodeUtf8
  | .closed _ | .broken _ => none

/-- Reads the first file among some paths; nothing if there is none or it cannot be read as text. A
path of which the system fails to tell whether a file is there is passed over only if the failure
means that there is none. -/
def readFirst (files : Path → Lookup) :
    List Path → Except Interruption (Option (List UInt8))
  | [] => .ok none
  | path :: rest =>
    match files path with
    | .file content => .ok (sourceBytes? content)
    | .unknown error =>
      if error.meansNoFile then readFirst files rest else .error (.system error)
    | .other _ | .invalidName => readFirst files rest

/-- The names of the sources that an artifact and its batches refer to, in order. They are sorted
together with the path of the main source, so all of them have to be texts. -/
def sourceNames (artifact : Artifact) (batches : List Batch) :
    Except ShapeError (List String) := do
  let names := batches.flatMap (·.sourceList)
  if !names.all Json.isName then throw .notName
  let texts ← (names.mapM Json.asText).mapError fun _ => ShapeError.unordered
  return Text.sortedNames (artifact.sourcePath :: artifact.sourceList ++ texts)

/-- Reads the sources that are there. -/
def readSources (files : Path → Lookup) (root : Path) (names : List String) :
    Except Interruption (List (String × List UInt8)) := do
  let found ← names.mapM fun name => do
    return (← readFirst files (sourceCandidates root name)).map fun bytes => (name, bytes)
  return found.filterMap id

/-- The batches of a findings file: one, or a list of them. -/
def batchesOf (payload : Json) : Except ShapeError (List Batch) :=
  match payload with
  | .list batches => batches.mapM Batch.ofJson
  | batch => return [← Batch.ofJson batch]

/-- Reads the artifact at a path. -/
def loadArtifact (host : Host) (path : Path) : Except LoadError Artifact := do
  match Artifact.ofJson (← readJson host path) with
  | .ok artifact => return artifact
  | .error (.artifact error) => throw (.input (.invalidArtifact path error))
  | .error fault => throw (.interruption (.fault fault))

/-- Reads the batches at a path. -/
def loadBatches (host : Host) (path : Path) : Except LoadError (List Batch) := do
  (batchesOf (← readJson host path)).mapError .ofShape

/-- Loads the contract of an artifact path and a findings path. -/
def loadJob (host : Host) (root artifactPath issuesPath : Path) : Except LoadError Job := do
  let artifact ← loadArtifact host artifactPath
  let batches ← loadBatches host issuesPath
  let names ← (sourceNames artifact batches).mapError LoadError.ofShape
  let sources ← (readSources host.files root names).mapError LoadError.interruption
  return { artifact, batches, sources }

end Pinpoint.Cli
