import Pinpoint.Cli.Command

/-!
# The program

Reads the files that the command asks for and hands them to it. The command itself does no input
or output: it is given what was found at each path.
-/

open Pinpoint.Cli

/-- The failure of the operating system behind an error. -/
def systemError : IO.Error → SystemError
  | .permissionDenied _ code reason | .inappropriateType _ code reason
  | .invalidArgument _ code reason | .resourceExhausted _ code reason =>
    ⟨code.toNat, reason⟩
  | .noFileOrDirectory _ code reason | .hardwareFault code reason | .otherError code reason =>
    ⟨code.toNat, reason⟩
  | _ => .missing

/-- Asks the file system what is at a path. What may not be opened is taken for a file. -/
def look (path : Path) : IO Lookup := do
  if path.text.contains '\x00' then return .invalidName
  try
    return .file (.bytes (← IO.FS.readBinFile path.text).toList)
  catch error =>
    let failure := systemError error
    if failure.number = SystemError.isDirectory.number then return .directory
    else if failure.number = SystemError.forbidden.number then return .file (.closed failure)
    else return .unknown failure

/-- What was found at each path that was asked for. -/
abbrev Found := List (Path × Lookup)

/-- Asks the file system about some paths. -/
def lookAll (paths : List Path) : IO Found :=
  paths.mapM fun path => return (path, ← look path)

/-- A host with what was found; a path that was not asked for counts as missing. Lists and objects
are nested as deep as a reader reaches that is stopped after a thousand calls, a dozen of which
lead to it. -/
def Found.host (found : Found) : Host :=
  { files := fun path =>
      ((found.find? fun entry => entry.1 == path).map (·.2)).getD .missing
    nestingLimit := 988 }

/-- Runs the command on the files that it asks for: first the artifacts and findings, then the
sources that these refer to. -/
def main (commandLine : List String) : IO UInt32 := do
  let inputs ← lookAll (inputPaths commandLine)
  let sources ← lookAll (sourcePaths inputs.host commandLine)
  match command (Found.host (inputs ++ sources)) commandLine with
  | .ok output =>
    IO.print output.standardOutput
    IO.eprint output.standardError
    return output.exitCode.toUInt32
  | .error _ =>
    IO.eprintln "the input does not have the expected shape"
    return 1
