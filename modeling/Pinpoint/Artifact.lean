import Pinpoint.Bytecode.CodeMap
import Pinpoint.Bytecode.Hex
import Pinpoint.Fault
import Pinpoint.Json.Display
import Pinpoint.SourceMap.Compressed

/-!
# Build artifacts

What a compiler leaves of one contract: its names, its bytecode and source maps as text, the
syntax tree of its main source, and the sources that its maps count. Bytecode and map are decoded
on demand, and a contract without them can still have findings that name their place directly.
-/

namespace Pinpoint

/-- The build of one contract. -/
structure Artifact where
  contractName : String
  /-- The path of the main source. -/
  sourcePath : String
  /-- The runtime bytecode as hexadecimal text. -/
  deployedBytecode : String
  /-- The compressed source map of the creation code. -/
  sourceMap : String
  /-- The compressed source map of the runtime bytecode. -/
  deployedSourceMap : String
  /-- The syntax tree of the main source, or null. -/
  ast : Json
  /-- The names that the file indexes of the source maps count. -/
  sourceList : List String
  deriving DecidableEq

namespace Artifact

/-- Reads a build. Without a list of sources, the main source is the only one. -/
def ofJson (build : Json) : Except Fault Artifact := do
  let field (name : String) : Except Fault Json := (build.member name).mapError .shape
  let contractName ← field "contractName"
  let sourcePath ← field "sourcePath"
  if contractName.isPresent && sourcePath.isPresent then
    let listed := (← field "sourceList").orElse (← field "sources")
    let sources ← ((listed.orElse (.list [sourcePath])).items).mapError Fault.shape
    return {
      contractName := contractName.display
      sourcePath := sourcePath.display
      deployedBytecode := (← field "deployedBytecode").displayIfPresent
      sourceMap := (← field "sourceMap").displayIfPresent
      deployedSourceMap := (← field "deployedSourceMap").displayIfPresent
      ast := ← field "ast"
      sourceList := sources.map Json.display }
  else throw (.artifact .unnamed)

/-- The instructions of the runtime bytecode. -/
def instructionTable (artifact : Artifact) : Except ArtifactError Bytecode.InstructionTable :=
  if artifact.deployedBytecode.isEmpty then .error (.noBytecode artifact.contractName)
  else match Bytecode.ofHex? artifact.deployedBytecode with
    | none => .error (.badBytecode artifact.contractName)
    | some code => .ok (.ofCode code)

/-- The entries of the source map of the runtime bytecode. -/
def deployedEntries (artifact : Artifact) : Except ArtifactError (List Entry) :=
  if artifact.deployedSourceMap.isEmpty then .error (.noSourceMap artifact.contractName)
  else match Entry.decompress artifact.deployedSourceMap with
    | .error cause => .error (.badSourceMap artifact.contractName cause)
    | .ok entries => .ok entries

/-- The runtime bytecode with its source map. -/
def codeMap (artifact : Artifact) : Except ArtifactError Bytecode.CodeMap := do
  let table ← artifact.instructionTable
  let entries ← artifact.deployedEntries
  return { table, entries }

end Artifact

end Pinpoint
