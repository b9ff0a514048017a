import Pinpoint.Artifact
import Pinpoint.FileName
import Pinpoint.Finding.Batch

/-!
# Contracts and their sources

A contract is an artifact together with the line indexes of the sources at hand. Here a location
of a finding becomes a source-map entry, and an entry a span.

Source lists and sources may name the same file by different paths, so a name that no source has
exactly is matched by its file name, provided that only one source has it. Names in a batch may
be any JSON value. A null names no file, and any other name has to be a text.
-/

namespace Pinpoint

/-- The format of batches whose locations are bytecode offsets. -/
def bytecodeFormat : String := "evm-byzantium-bytecode"

/-- A compiled contract with the line indexes of its sources. -/
structure Contract where
  artifact : Artifact
  /-- The line indexes by source name. -/
  lineIndexes : List (String × LineIndex)

/-- The bytecode offset that a location stands for: its address, or else the first field of its
source-map text. -/
def Location.bytecodeOffset (location : Location) : Except Fault Int :=
  match location.address with
  | some address => .ok address
  | none => do
    let text ← location.sourceMapText.mapError Fault.shape
    let entry ← (Entry.parse text).mapError Fault.format
    return entry.start

/-- The name at a file index of a source list, unless the index is out of range or the name is
null. -/
def fileNameAt? (sourceList : List Json) (fileIndex : Int) : Option Json :=
  if fileIndex < 0 then none
  else sourceList[fileIndex.toNat]?.filter fun name => !name.isNull

namespace Contract

/-- The contract of an artifact and its sources. -/
def ofSources (artifact : Artifact) (sources : List (String × List UInt8)) : Contract :=
  { artifact
    lineIndexes := sources.map fun source => (source.1, .ofBytes source.2 source.1) }

/-- The line index of a source: the one of exactly this name, else the only one with the same
file name. -/
def lineIndex? (contract : Contract) (name : String) : Option LineIndex :=
  match contract.lineIndexes.find? fun source => source.1 == name with
  | some source => some source.2
  | none =>
    match contract.lineIndexes.filter fun source => baseName source.1 == baseName name with
    | [source] => some source.2
    | _ => none

/-- The line index of a source whose name may be any JSON value. -/
def lineIndexOf (contract : Contract) (name : Json) : Except ShapeError (Option LineIndex) :=
  match name with
  | .text name => .ok (contract.lineIndex? name)
  | .list _ | .object _ => .error .notName
  | .null | .bool _ | .number _ => .error .notText

/-- Whether an entry points into the main source, which is the one that the syntax tree covers.
The two are compared by their file names. -/
def isMainSource (contract : Contract) (entry : Entry) (sourceList : List Json) :
    Except ShapeError Bool :=
  match fileNameAt? sourceList entry.fileIndex with
  | none => .ok false
  | some name => do
    return baseName (← name.asText) == baseName contract.artifact.sourcePath

/-- The span of an entry in the file that its index names; unresolved if that file is unknown. -/
def spanOf (contract : Contract) (entry : Entry) (sourceList : List Json) :
    Except ShapeError Span :=
  match fileNameAt? sourceList entry.fileIndex with
  | none => .ok .unresolved
  | some name => do
    match ← contract.lineIndexOf name with
    | none => return .unresolved
    | some index => return entry.spanIn index

/-- The entry that a location stands for, if it names a source, and the source list that the
entry counts in. In the bytecode format the entry is found through the code map and counts in the
artifact's list; in any other format the location holds the entry itself. -/
def locate (contract : Contract) (location : Location) (format : String)
    (sourceList : List Json) : Except Fault (Option Entry × List Json) :=
  if format = bytecodeFormat then do
    let map ← contract.artifact.codeMap.mapError Fault.artifact
    let offset ← location.bytecodeOffset
    let found ← (map.entryAt offset).mapError Fault.shape
    let listed := contract.artifact.sourceList
    return (found, if listed.isEmpty then sourceList else listed.map Json.text)
  else do
    let text ← location.sourceMapText.mapError Fault.shape
    let entry ← (Entry.parse text).mapError Fault.format
    return (if entry.hasSource then some entry else none, sourceList)

/-- The span of a location; unresolved if the location has no source. -/
def resolve (contract : Contract) (location : Location) (format : String)
    (sourceList : List Json) : Except Fault Span := do
  let (found, names) ← contract.locate location format sourceList
  match found with
  | none => return .unresolved
  | some entry => (contract.spanOf entry names).mapError .shape

end Contract

end Pinpoint
