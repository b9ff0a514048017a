import Pinpoint.Text.Fields

/-!
# Paths and files

A path is a root and the names along it. Empty names and lone dots are dropped when a path is
read; two dots stay, since they are followed through the files. What is found at a path is a
file or something else, either of which may refuse to be read, or a reason why the system does not
tell. A file tree knows some files and directories by the names from the root on, and the working
directory that relative paths start from; whatever else there may be is taken as missing.
-/

namespace Pinpoint.Cli

/-- A path. -/
structure Path where
  /-- One or two slashes for an absolute path, empty for a relative one. -/
  root : String
  names : List String
  deriving BEq, DecidableEq, Repr

namespace Path

/-- The names of a path text. -/
def namesOf (text : List Char) : List String :=
  ((Text.fields '/' text).map String.ofList).filter fun name => name != "" && name != "."

/-- Reads a path. Two slashes at the start are a root of their own; one, or more than two, are
one root. -/
def parse (text : String) : Path :=
  let slashes := (text.toList.takeWhile (· == '/')).length
  { root := if slashes = 0 then "" else if slashes = 2 then "//" else "/"
    names := namesOf text.toList }

/-- The text of a path; a dot for the empty one. -/
def text (path : Path) : String :=
  if path.root.isEmpty && path.names.isEmpty then "."
  else path.root ++ String.intercalate "/" path.names

/-- A path followed from another one. An absolute path leads to the same place from anywhere. -/
def join (base path : Path) : Path :=
  if path.root.isEmpty then { base with names := base.names ++ path.names } else path

/-- The part of a path that is its last name. -/
def last (path : Path) : Path :=
  { root := "", names := path.names.getLast?.toList }

end Path

/-- A failure of the operating system: its number and the words for it. -/
structure SystemError where
  number : Nat
  reason : String
  deriving BEq, DecidableEq, Repr

namespace SystemError

def missing : SystemError := ⟨2, "No such file or directory"⟩

def forbidden : SystemError := ⟨13, "Permission denied"⟩

/-- A file stands where the path goes on. -/
def notDirectory : SystemError := ⟨20, "Not a directory"⟩

def isDirectory : SystemError := ⟨21, "Is a directory"⟩

def nameTooLong : SystemError := ⟨36, "File name too long"⟩

/-- Whether a failure to ask for a path says that there is no file: the path or a directory along
it is missing, a descriptor is bad, or too many links are followed. -/
def meansNoFile (error : SystemError) : Bool :=
  [2, 20, 9, 40].contains error.number

end SystemError

/-- What comes of reading something. -/
inductive Content where
  | bytes (bytes : List UInt8)
  /-- It cannot be opened. -/
  | closed (error : SystemError)
  /-- It can be opened, and reading it fails. -/
  | broken (error : SystemError)
  deriving BEq, DecidableEq, Repr

/-- What is found at a path. -/
inductive Lookup where
  | file (content : Content)
  /-- Something that is no file. -/
  | other (content : Content)
  /-- The system fails to tell what is there. -/
  | unknown (error : SystemError)
  /-- The path holds a null character. -/
  | invalidName
  deriving BEq, DecidableEq, Repr

namespace Lookup

/-- A directory, which cannot be opened as a file. -/
def directory : Lookup := .other (.closed .isDirectory)

def missing : Lookup := .unknown .missing

/-- What comes of reading what is found. What the system fails to tell about cannot be opened
either. Nothing is asked of the system if the path holds a null character. -/
def content? : Lookup → Option Content
  | .file content | .other content => some content
  | .unknown error => some (.closed error)
  | .invalidName => none

end Lookup

/-- Where the command runs. -/
structure Host where
  /-- What is found at each path. -/
  files : Path → Lookup
  /-- The number of lists and objects that may be nested inside each other in a JSON text. -/
  nestingLimit : Nat

/-- The most bytes that a name may have. -/
def nameLimit : Nat := 255

/-- The most bytes that a path may have. -/
def pathLimit : Nat := 4095

/-- The files and directories that are known, by the names along their paths from the root. -/
structure FileTree where
  workingDirectory : List String
  files : List (List String × List UInt8)
  /-- The directories that are there even if they hold none of the files. -/
  directories : List (List String)
  devices : List (List String × List UInt8)

namespace FileTree

/-- Whether a path leads to a directory: one of those known, or one on the way to anything. -/
def isDirectory (tree : FileTree) (names : List String) : Bool :=
  names.isPrefixOf tree.workingDirectory || tree.directories.any names.isPrefixOf ||
    tree.files.any fun file => names.isPrefixOf file.1

/-- What is found at the end of a path without dots, if it is no directory. -/
def leafAt? (tree : FileTree) (names : List String) : Option Lookup :=
  match tree.files.lookup names, tree.devices.lookup names with
  | some bytes, _ => some (.file (.bytes bytes))
  | none, some bytes => some (.other (.bytes bytes))
  | none, none => none

/-- What is found by following names from a directory of the tree. The directory above the root is
the root itself. -/
def follow (tree : FileTree) (directory : List String) : List String → Lookup
  | [] => .directory
  | name :: rest =>
    let reached := directory ++ [name]
    if name = ".." then follow tree directory.dropLast rest
    else if nameLimit < name.utf8ByteSize then .unknown .nameTooLong
    else match tree.leafAt? reached with
      | some leaf => if rest.isEmpty then leaf else .unknown .notDirectory
      | none => if tree.isDirectory reached then follow tree reached rest else .missing

/-- What is found at a path. -/
def lookup (tree : FileTree) (path : Path) : Lookup :=
  if path.text.contains '\x00' then .invalidName
  else if pathLimit < path.text.utf8ByteSize then .unknown .nameTooLong
  else if path.root.isEmpty then tree.follow tree.workingDirectory path.names
  else tree.follow [] path.names

/-- The directories that a system has below its root. -/
def systemDirectories : List String :=
  ["bin", "boot", "dev", "etc", "home", "lib", "media", "mnt", "opt", "proc", "root", "run", "sbin",
   "srv", "sys", "tmp", "usr", "var"]

/-- A directory of temporary files that holds nothing but the given files, on a system of which
only the directories below the root and the empty device are known. -/
def temporary (files : List (List String × List UInt8)) : FileTree :=
  let directory := ["tmp", "pinpoint"]
  { workingDirectory := directory
    files := files.map fun file => (directory ++ file.1, file.2)
    directories := systemDirectories.map ([·])
    devices := [(["dev", "null"], [])] }

end FileTree

end Pinpoint.Cli
