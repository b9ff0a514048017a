import Mathlib.Data.List.Permutation
import Pinpoint.Cli.Command
import Pinpoint.Proofs.Gathering
import Pinpoint.Proofs.LineEnds
import Pinpoint.Proofs.Suppression

/-!
# Positions in files

The command reads its sources as texts, and what it indexes are the bytes of a text with unified
line ends. Offsets of a source map count the bytes of the file. So a position that the command
reports is that of the offset in the file exactly when no carriage return comes before the offset,
and otherwise it lies further on.
-/

namespace Pinpoint

/-- Whether a diagnostic has the positions of a byte range of a file. -/
structure Diagnostic.Marks {Name : Type} (diagnostic : Diagnostic Name) (bytes : List UInt8)
    (start length : Int) : Prop where
  start_eq : (LineIndex.ofBytes bytes "").position start =
    .ok { line := diagnostic.line, column := diagnostic.column }
  stop_eq : (LineIndex.ofBytes bytes "").position (start + length) =
    .ok { line := diagnostic.endLine, column := diagnostic.endColumn }

open LineIndex (unifyBytes carriageReturn)

theorem Diagnostic.marks_iff_of_unifyBytes {Name : Type} {diagnostic : Diagnostic Name}
    {bytes : List UInt8} {start length : Int} (lengthNonneg : 0 ≤ length)
    (marks : diagnostic.Marks (unifyBytes bytes) start length) :
    diagnostic.Marks bytes start length ↔
      carriageReturn ∉ bytes.take (start + length).toNat := by
  rcases LineIndex.position_eq_ok.mp marks.start_eq with ⟨startNonneg, unifiedStart⟩
  rcases LineIndex.position_eq_ok.mp marks.stop_eq with ⟨stopNonneg, unifiedStop⟩
  constructor
  · intro onDisk
    have stop := (LineIndex.position_eq_ok.mp onDisk.stop_eq).2
    rw [← LineIndex.positionAt_unifyBytes_iff, unifiedStop, stop]
  · intro plain
    have plainStart : carriageReturn ∉ bytes.take start.toNat := by
      intro returned
      exact plain ((List.take_subset_take_left bytes (by omega)) returned)
    refine ⟨LineIndex.position_eq_ok.mpr ⟨startNonneg, ?_⟩,
      LineIndex.position_eq_ok.mpr ⟨stopNonneg, ?_⟩⟩
    · rw [← LineIndex.positionAt_unifyBytes_iff.mpr plainStart, unifiedStart]
    · rw [← LineIndex.positionAt_unifyBytes_iff.mpr plain, unifiedStop]

/-! ## Reading sources -/

namespace Cli

/-- The bytes that come of reading, if it succeeds. -/
def Content.bytes? : Content → Option (List UInt8)
  | .bytes read => some read
  | .closed _ | .broken _ => none

/-- What comes of reading what is found, if it is a file. -/
def Lookup.file? : Lookup → Option Content
  | .file content => some content
  | .other _ | .unknown _ | .invalidName => none

/-- The bytes of the file that a source is read from: the first file among the places where it is
looked for. -/
def sourceFile? (files : Path → Lookup) (root : Path) (name : String) : Option (List UInt8) :=
  ((sourceCandidates root name).findSome? fun path => (files path).file?).bind Content.bytes?

variable {files : Path → Lookup} {host : Host} {root : Path}

theorem decodeText_eq_ok {bytes : List UInt8} {text : List Char}
    (decoded : decodeText bytes = .ok text) : Text.encodeUtf8 text = unifyBytes bytes := by
  rcases map_eq_ok.mp decoded with ⟨original, read, rfl⟩
  rw [Text.encodeUtf8_unifyNewlines, Text.encodeUtf8_of_decodeUtf8 read]

theorem eq_unifyBytes_of_sourceBytes? {content : Content} {source : List UInt8}
    (read : sourceBytes? content = some source) :
    ∃ bytes, content.bytes? = some bytes ∧ source = unifyBytes bytes := by
  cases content with
  | bytes bytes =>
      rcases Option.map_eq_some_iff.mp read with ⟨text, decoded, rfl⟩
      exact ⟨bytes, rfl, decodeText_eq_ok (toOption_eq_some.mp decoded)⟩
  | closed | broken => cases read

theorem readFirst_eq_ok {paths : List Path} {source : List UInt8}
    (read : readFirst files paths = .ok (some source)) :
    ∃ bytes, (paths.findSome? fun path => (files path).file?).bind Content.bytes? = some bytes ∧
      source = unifyBytes bytes := by
  induction paths with
  | nil => cases read
  | cons path rest ih =>
      rw [readFirst] at read
      rw [List.findSome?_cons]
      cases found : files path with
      | file content =>
          rw [found] at read
          exact eq_unifyBytes_of_sourceBytes? (Except.ok.inj read)
      | unknown error =>
          simp only [found] at read
          split at read
          next => exact ih read
          next => cases read
      | other | invalidName =>
          rw [found] at read
          exact ih read

theorem mem_readSources {names : List String} {sources : List (String × List UInt8)}
    (read : readSources files root names = .ok sources) {source : String × List UInt8}
    (member : source ∈ sources) :
    ∃ bytes, sourceFile? files root source.1 = some bytes ∧ source.2 = unifyBytes bytes := by
  rcases bind_eq_ok.mp read with ⟨found, foundOk, equal⟩
  cases equal
  rcases List.mem_filterMap.mp member with ⟨_, member, rfl⟩
  rcases (mem_of_mapM_eq_ok foundOk).mp member with ⟨name, -, nameOk⟩
  rcases bind_eq_ok.mp nameOk with ⟨content, contentOk, equal⟩
  cases content with
  | none => cases equal
  | some content =>
      cases equal
      exact readFirst_eq_ok contentOk

theorem sources_of_loadJob {artifactPath issuesPath : Path} {job : Job}
    (loaded : loadJob host root artifactPath issuesPath = .ok job)
    {source : String × List UInt8} (member : source ∈ job.sources) :
    ∃ bytes, sourceFile? host.files root source.1 = some bytes ∧ source.2 = unifyBytes bytes := by
  rcases bind_eq_ok.mp loaded with ⟨artifact, -, loaded⟩
  rcases bind_eq_ok.mp loaded with ⟨batches, -, loaded⟩
  rcases bind_eq_ok.mp loaded with ⟨names, -, loaded⟩
  rcases bind_eq_ok.mp loaded with ⟨sources, sourcesOk, equal⟩
  cases equal
  exact mem_readSources (mapError_eq_ok.mp sourcesOk) member

theorem sources_of_loadJobs {arguments : Arguments} {jobs : List Job}
    (loaded : loadJobs host arguments = .ok jobs) {job : Job} (jobMem : job ∈ jobs)
    {source : String × List UInt8} (member : source ∈ job.sources) :
    ∃ bytes, sourceFile? host.files (.parse arguments.sourceRoot) source.1 = some bytes ∧
      source.2 = unifyBytes bytes := by
  rcases (mem_of_mapM_eq_ok loaded).mp jobMem with ⟨paths, -, jobOk⟩
  exact sources_of_loadJob jobOk member

end Cli

/-! ## Resolved diagnostics -/

namespace Contract

theorem exists_source_of_lineIndex? {artifact : Artifact} {sources : List (String × List UInt8)}
    {name : String} {index : LineIndex}
    (found : (ofSources artifact sources).lineIndex? name = some index) :
    ∃ source ∈ sources, baseName source.1 = baseName name ∧
      index = .ofBytes source.2 source.1 := by
  rcases mem_lineIndexes_of_lineIndex? found with ⟨_, listed, same, rfl⟩
  rcases List.mem_map.mp listed with ⟨source, member, rfl⟩
  exact ⟨source, member, same, rfl⟩

variable {contract : Contract} {options : Options} {issue : Issue} {entry : Entry}
variable {names : List Json} {attributedTo : Json} {diagnostic : Diagnostic Json}

/-- In a format other than that of bytecode offsets a location denotes the entry of its text. -/
theorem Denotes.of_textual {location : Location} {format : String} {sourceList : List Json}
    (denotes : contract.Denotes location sourceList format entry names)
    (textual : format ≠ bytecodeFormat) :
    names = sourceList ∧ ∃ text, location.sourceMapText = .ok text ∧
      Entry.parse text = .ok entry := by
  cases denotes with
  | written _ readable parsed => exact ⟨rfl, _, readable, parsed⟩
  | instruction => exact absurd rfl textual

/-- The diagnostic at the span of an entry has the positions of its byte range. -/
theorem marks_diagnosticAt (named : entry.hasSource = true) (bytes : List UInt8)
    (fileName : String) (filePath : Json) :
    (issue.diagnosticAt options (entry.spanIn (.ofBytes bytes fileName)) filePath).Marks bytes
      entry.start entry.length := by
  rcases (Bytecode.hasSource_iff entry).mp named with ⟨-, startNonneg, lengthNonneg⟩
  rw [Bytecode.spanIn_of_hasSource named]
  exact ⟨LineIndex.position_eq_ok.mpr ⟨startNonneg, rfl⟩,
    LineIndex.position_eq_ok.mpr ⟨Int.add_nonneg startNonneg lengthNonneg, rfl⟩⟩

/-- A diagnostic with a place is that of the span in the file that its entry names. -/
theorem eq_diagnosticAt_of_resolved
    (returned : contract.outcomeAt options issue entry names attributedTo =
      .ok (.diagnostic diagnostic))
    (resolved : diagnostic.line ≠ unresolvedLine) :
    ∃ name index filePath, fileNameAt? names entry.fileIndex = some (.text name) ∧
      contract.lineIndex? name = some index ∧
      diagnostic = issue.diagnosticAt options (entry.spanIn index) filePath := by
  rcases eq_diagnosticAt_of_outcomeAt returned with ⟨span, filePath, spanOk, rfl, -⟩
  rcases spanOf_cases spanOk with rfl | ⟨name, index, named, indexed, rfl⟩
  · exact absurd rfl resolved
  · exact ⟨name, index, filePath, named, indexed, rfl⟩

end Contract

/-! ## What the command reports -/

namespace Cli

variable {host : Host} {arguments : Arguments} {jobs : List Job}

/-- The file that a location with an entry for its text points into: that of the source which the
contract has for the name at the file index of the entry. -/
structure PointsInto (files : Path → Lookup) (root : Path) (job : Job) (batch : Batch)
    (location : Location) (entry : Entry) (bytes : List UInt8) : Prop where
  written : ∃ text, location.sourceMapText = .ok text ∧ Entry.parse text = .ok entry
  found : ∃ name source, 0 ≤ entry.fileIndex ∧
    batch.sourceList[entry.fileIndex.toNat]? = some (.text name) ∧
    baseName source = baseName name ∧ sourceFile? files root source = some bytes ∧
    (Contract.ofSources job.artifact job.sources).lineIndex? name =
      some (.ofBytes (unifyBytes bytes) source)

theorem exists_file_of_settles (loaded : loadJobs host arguments = .ok jobs) {job : Job}
    (jobMem : job ∈ jobs) {batch : Batch} (textual : batch.format ≠ bytecodeFormat) {slot : Nat}
    {issue : Issue} {location : Location} {diagnostic : Diagnostic Json}
    (settled : (Contract.ofSources job.artifact job.sources).Settles arguments.options batch slot
      issue location (.diagnostic diagnostic))
    (resolved : diagnostic.line ≠ unresolvedLine) :
    ∃ entry bytes,
      PointsInto host.files (.parse arguments.sourceRoot) job batch location entry bytes ∧
      diagnostic.Marks (unifyBytes bytes) entry.start entry.length ∧
      (diagnostic.Marks bytes entry.start entry.length ↔
        carriageReturn ∉ bytes.take (entry.start + entry.length).toNat) := by
  cases settled with
  | normalized returned =>
      rcases bind_eq_ok.mp returned with ⟨⟨found, names⟩, located, returned⟩
      cases found with
      | none =>
          cases returned
          exact absurd rfl resolved
      | some entry =>
          rcases Contract.eq_diagnosticAt_of_resolved (mapError_eq_ok.mp returned) resolved with
            ⟨name, index, filePath, named, indexed, rfl⟩
          rcases Contract.exists_source_of_lineIndex? indexed with
            ⟨⟨source, content⟩, sourceMem, sameName, rfl⟩
          rcases sources_of_loadJobs loaded jobMem sourceMem with ⟨bytes, fileOk, rfl⟩
          have denotes := Contract.denotes_iff.mpr located
          rcases denotes.of_textual textual with ⟨rfl, written⟩
          have lengthNonneg := ((Bytecode.hasSource_iff entry).mp denotes.hasSource).2.2
          have marks : (issue.diagnosticAt arguments.options
              (entry.spanIn (.ofBytes (unifyBytes bytes) source)) filePath).Marks
              (unifyBytes bytes) entry.start entry.length :=
            Contract.marks_diagnosticAt denotes.hasSource _ _ _
          rcases Contract.fileNameAt?_eq_some.mp named with ⟨nonneg, listed, -⟩
          exact ⟨entry, bytes,
            ⟨written, name, source, nonneg, listed, sameName, fileOk, indexed⟩,
            marks, Diagnostic.marks_iff_of_unifyBytes lengthNonneg marks⟩

/-- What a run reports are the diagnostics of its jobs. -/
theorem settles_of_mem_report {options : Options} {workers : Int} {result : RunResult}
    (ran : run jobs options workers = .ok result) {group : String × FileReport}
    (groupMem : group ∈ result.report) {message : Diagnostic String}
    (messageMem : message ∈ group.2.messages) :
    ∃ job ∈ jobs, job.Settles options
      (.diagnostic (message.withName (.text message.filePath))) := by
  rw [run] at ran
  split at ran
  next => cases ran
  next =>
    rcases Run.gather_eq_ok.mp (mapError_eq_ok.mp ran) with
      ⟨settled, diagnostics, _, settledOk, namedOk, -, rfl⟩
    have listed := mem_messages_ofDiagnostics.mp ⟨group, groupMem, messageMem⟩
    rcases (mem_of_mapM_eq_ok namedOk).mp listed with ⟨source, sourceMem, sourceOk⟩
    rcases Run.settles_of_mem_diagnosticsOf settledOk sourceMem with ⟨job, jobMem, settles⟩
    rw [Run.withTextName_eq_ok.mp sourceOk] at settles
    exact ⟨job, jobMem, settles⟩

/-! ## A file with carriage returns -/

/-- The text of a build. -/
def buildText : List Char :=
  "\x7b\"contractName\":\"V\",\"sourcePath\":\"v.sol\"\x7d".toList

/-- The text of findings with two locations. -/
def findingsText : List Char :=
  ("\x7b\"sourceList\":[\"v.sol\"],\"issues\":[\x7b\"locations\":[" ++
    "\x7b\"sourceMap\":\"0:1:0\"\x7d,\x7b\"sourceMap\":\"3:1:0\"\x7d]\x7d]\x7d").toList

/-- A source whose lines end with a carriage return and a line feed. The second line starts at the
offset 3. -/
def crlfBytes : List UInt8 := [0x61, 0x0D, 0x0A, 0x62, 0x0D, 0x0A, 0x63]

/-- The build, the findings and the source in one directory. -/
def crlfFiles (path : Path) : Lookup :=
  match path.names with
  | ["build.json"] => .file (.bytes (Text.encodeUtf8 buildText))
  | ["findings.json"] => .file (.bytes (Text.encodeUtf8 findingsText))
  | ["v.sol"] => .file (.bytes crlfBytes)
  | _ => .missing

def crlfHost : Host := { files := crlfFiles, nestingLimit := 100 }

def crlfArguments : Arguments :=
  { artifacts := ["build.json"], issues := ["findings.json"], sourceRoot := ".", style := .json
    maxWorkers := 4, debug := false }

def crlfIssue : Issue :=
  { head := "", tail := "", severity := "", ruleId := "", ruleTitle := ""
    locations := [⟨.text "0:1:0", none⟩, ⟨.text "3:1:0", none⟩] }

def crlfBatch : Batch :=
  { format := "", sourceType := "", sourceList := [.text "v.sol"], issues := [crlfIssue] }

def crlfJob : Job :=
  { artifact :=
      { contractName := "V", sourcePath := "v.sol", deployedBytecode := "", sourceMap := ""
        deployedSourceMap := "", ast := .null, sourceList := ["v.sol"] }
    batches := [crlfBatch]
    sources := [("v.sol", [0x61, 0x0A, 0x62, 0x0A, 0x63])] }

theorem loadJobs_crlf : loadJobs crlfHost crlfArguments = .ok [crlfJob] := by
  decide +kernel

/-- A diagnostic of the issue with its place in the source. -/
def crlfDiagnostic (line column endLine endColumn : Int) : Diagnostic Json :=
  { ruleId := "", line, column, endLine, endColumn, severity := .info, message := ""
    fatal := false, filePath := .text "v.sol" }

theorem run_crlf :
    ∃ result, run [crlfJob] crlfArguments.options crlfArguments.maxWorkers = .ok result ∧
      result.report.map (·.2.messages) =
        [[(crlfDiagnostic 1 0 1 1).withName "v.sol",
          (crlfDiagnostic 2 1 3 0).withName "v.sol"]] := by
  have settled : [crlfJob].mapM (Run.settle crlfArguments.options) =
      .ok [.inl
        { diagnostics := [crlfDiagnostic 1 0 1 1, crlfDiagnostic 2 1 3 0]
          errors := []
          suppressions := [] }] := rfl
  have named : [crlfDiagnostic 1 0 1 1, crlfDiagnostic 2 1 3 0].mapM Run.withTextName =
      .ok [(crlfDiagnostic 1 0 1 1).withName "v.sol", (crlfDiagnostic 2 1 3 0).withName "v.sol"] :=
    rfl
  have gathered := Run.gather_of_errorsOf_eq_nil settled named rfl
  refine ⟨_, (Run.run_eq_ok (by decide)).mpr gathered, ?_⟩
  cbv

theorem settles_crlf_first :
    (Contract.ofSources crlfJob.artifact crlfJob.sources).Settles crlfArguments.options crlfBatch 0
      crlfIssue ⟨.text "0:1:0", none⟩ (.diagnostic (crlfDiagnostic 1 0 1 1)) :=
  .normalized rfl

theorem settles_crlf_second :
    (Contract.ofSources crlfJob.artifact crlfJob.sources).Settles crlfArguments.options crlfBatch 0
      crlfIssue ⟨.text "3:1:0", none⟩ (.diagnostic (crlfDiagnostic 2 1 3 0)) :=
  .normalized rfl

theorem sourceFile_crlf : sourceFile? crlfFiles (.parse ".") "v.sol" = some crlfBytes := rfl

theorem eq_crlfBytes_of_pointsInto {location : Location} {entry : Entry} {bytes : List UInt8}
    (points : PointsInto crlfFiles (.parse ".") crlfJob crlfBatch location entry bytes) :
    bytes = crlfBytes := by
  rcases points.found with ⟨name, source, -, listed, -, fileOk, indexed⟩
  have sameName := List.mem_singleton.mp (List.mem_of_getElem? listed)
  cases sameName
  have only : (Contract.ofSources crlfJob.artifact crlfJob.sources).lineIndex? "v.sol" =
      some (.ofBytes [0x61, 0x0A, 0x62, 0x0A, 0x63] "v.sol") := rfl
  have sameSource := congrArg LineIndex.fileName (Option.some.inj (only.symm.trans indexed))
  cases sameSource
  exact Option.some.inj (fileOk.symm.trans sourceFile_crlf)

/-! ## Positions in the file and in its text -/

/-- Everything that the command reports is the diagnostic of a location of one of its contracts,
and the diagnostic of a location that holds its entry, if it has a place, has the positions of the
entry in a file whose line ends were unified. These are the positions in the file itself exactly
when no carriage return comes before the end of the entry. -/
theorem marks_file_iff (loaded : loadJobs host arguments = .ok jobs) {result : RunResult}
    (ran : run jobs arguments.options arguments.maxWorkers = .ok result) :
    (∀ group ∈ result.report, ∀ message ∈ group.2.messages, ∃ job ∈ jobs,
      job.Settles arguments.options (.diagnostic (message.withName (.text message.filePath)))) ∧
    ∀ job ∈ jobs, ∀ batch ∈ job.batches, batch.format ≠ bytecodeFormat →
      ∀ slot issue location diagnostic,
      (Contract.ofSources job.artifact job.sources).Settles arguments.options batch slot issue
        location (.diagnostic diagnostic) →
      diagnostic.line ≠ unresolvedLine →
      ∃ entry bytes,
        PointsInto host.files (.parse arguments.sourceRoot) job batch location entry bytes ∧
        diagnostic.Marks (unifyBytes bytes) entry.start entry.length ∧
        (diagnostic.Marks bytes entry.start entry.length ↔
          carriageReturn ∉ bytes.take (entry.start + entry.length).toNat) := by
  constructor
  · intro group groupMem message messageMem
    exact settles_of_mem_report ran groupMem messageMem
  · intro job jobMem batch _ textual slot issue location diagnostic settled resolved
    exact exists_file_of_settles loaded jobMem textual settled resolved

/-- Before the first carriage return the position is that in the file, and after it another
one. -/
theorem marks_file_iff_crlf :
    ∃ result, loadJobs crlfHost crlfArguments = .ok [crlfJob] ∧
      run [crlfJob] crlfArguments.options crlfArguments.maxWorkers = .ok result ∧
      (crlfDiagnostic 1 0 1 1).Marks crlfBytes 0 1 ∧
      ¬(crlfDiagnostic 2 1 3 0).Marks crlfBytes 3 1 := by
  rcases run_crlf with ⟨result, ran, -⟩
  have marked := (marks_file_iff loadJobs_crlf ran).2 crlfJob List.mem_cons_self crlfBatch
    List.mem_cons_self (by decide) 0 crlfIssue
  refine ⟨result, loadJobs_crlf, ran, ?_, ?_⟩
  · rcases marked _ _ settles_crlf_first (by decide) with ⟨entry, bytes, points, -, onDisk⟩
    rcases points.written with ⟨text, readable, parsed⟩
    cases readable
    cases parsed
    cases eq_crlfBytes_of_pointsInto points
    exact onDisk.mpr (by decide)
  · rcases marked _ _ settles_crlf_second (by decide) with ⟨entry, bytes, points, -, onDisk⟩
    rcases points.written with ⟨text, readable, parsed⟩
    cases readable
    cases parsed
    cases eq_crlfBytes_of_pointsInto points
    intro marks
    exact absurd (onDisk.mp marks) (by decide)

/-- The finding about the second line of the file, at its first byte, is reported at the second
column, and its end on the third line. -/
theorem reported_off_file_crlf :
    loadJobs crlfHost crlfArguments = .ok [crlfJob] ∧
    (∃ result, run [crlfJob] crlfArguments.options crlfArguments.maxWorkers = .ok result ∧
      ∃ group ∈ result.report, (crlfDiagnostic 2 1 3 0).withName "v.sol" ∈ group.2.messages) ∧
    (Contract.ofSources crlfJob.artifact crlfJob.sources).Settles crlfArguments.options crlfBatch 0
      crlfIssue ⟨.text "3:1:0", none⟩ (.diagnostic (crlfDiagnostic 2 1 3 0)) ∧
    PointsInto crlfFiles (.parse ".") crlfJob crlfBatch ⟨.text "3:1:0", none⟩
      { Entry.initial with start := 3, length := 1, fileIndex := 0 } crlfBytes ∧
    (LineIndex.ofBytes crlfBytes "").position 3 = .ok ⟨2, 0⟩ ∧
    (LineIndex.ofBytes crlfBytes "").position (3 + 1) = .ok ⟨2, 1⟩ ∧
    ¬(crlfDiagnostic 2 1 3 0).Marks crlfBytes 3 1 := by
  refine ⟨loadJobs_crlf, ?_, settles_crlf_second, ?_, rfl, rfl, ?_⟩
  · rcases run_crlf with ⟨result, ran, messages⟩
    have listed : [(crlfDiagnostic 1 0 1 1).withName "v.sol",
        (crlfDiagnostic 2 1 3 0).withName "v.sol"] ∈ result.report.map (·.2.messages) := by
      rw [messages]
      exact List.mem_cons_self
    rcases List.mem_map.mp listed with ⟨group, groupMem, groupMessages⟩
    refine ⟨result, ran, group, groupMem, ?_⟩
    rw [groupMessages]
    exact List.mem_cons_of_mem _ List.mem_cons_self
  · exact ⟨⟨"3:1:0", rfl, rfl⟩, "v.sol", "v.sol", by decide, rfl, rfl, sourceFile_crlf, rfl⟩
  · intro marks
    have reported := marks.start_eq
    cases reported

end Cli

end Pinpoint
