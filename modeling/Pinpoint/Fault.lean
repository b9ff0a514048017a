import Pinpoint.Json.Value
import Pinpoint.SourceMap.Entry

/-!
# Faults

What can go wrong while findings are resolved. A malformed location concerns that location alone,
an unusable artifact concerns its contract, and input of the wrong shape stops the run.
-/

namespace Pinpoint

/-- A build artifact that cannot be used. -/
inductive ArtifactError where
  /-- The contract name or the source path is missing. -/
  | unnamed
  | noBytecode (contract : String)
  | badBytecode (contract : String)
  | noSourceMap (contract : String)
  | badSourceMap (contract : String) (cause : FormatError)
  deriving BEq, DecidableEq, Repr

/-- The wording of an artifact error. -/
def ArtifactError.message : ArtifactError → String
  | .unnamed => "Build JSON requires contractName and sourcePath."
  | .noBytecode contract =>
    "Artifact has no deployed bytecode (contract=" ++ contract ++ ")"
  | .badBytecode contract =>
    "Deployed bytecode is not valid hex (contract=" ++ contract ++ ")"
  | .noSourceMap contract =>
    "Artifact has no deployed source map (contract=" ++ contract ++ ")"
  | .badSourceMap contract cause =>
    "Deployed source map is malformed (contract=" ++ contract ++ " error=" ++ cause.message ++ ")"

/-- Anything that stops the resolution of a location, a contract or a run. -/
inductive Fault where
  | format (error : FormatError)
  | artifact (error : ArtifactError)
  | shape (error : ShapeError)
  deriving BEq, DecidableEq, Repr

end Pinpoint
