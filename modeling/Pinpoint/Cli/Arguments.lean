import Pinpoint.Report.Style
import Pinpoint.Text.Numeral

/-!
# Command-line arguments

Options start with two hyphens and may be shortened as long as no other option starts the same.
The value of an option is the next argument or stands after an equals sign. An argument that
starts with a hyphen is a value only if it is a lone hyphen, a negative number, or holds a space
and names no option. Of a repeated option the last value counts, except that artifacts and issues
are collected. There are no arguments beside options. Asking for help is refused like a misuse.
-/

namespace Pinpoint.Cli

/-- The options of the command line. -/
inductive OptionName where
  | help
  | artifact
  | issues
  | sourceRoot
  | style
  | maxWorkers
  | debug
  deriving BEq, DecidableEq, Repr

/-- The options with the texts that they are given by. -/
def optionTexts : List (OptionName × String) :=
  [(.help, "--help"), (.artifact, "--artifact"), (.issues, "--issues"),
    (.sourceRoot, "--source-root"), (.style, "--style"), (.maxWorkers, "--max-workers"),
    (.debug, "--debug")]

/-- What an argument is, apart from its place. -/
inductive Argument where
  | value
  /-- An option, with the value after its equals sign if it has one. -/
  | option (name : OptionName) (attached : Option String)
  /-- Nothing that the command line accepts. -/
  | refused
  deriving BEq, DecidableEq, Repr

/-- Whether a text is digits only, at least one. -/
def isDigits (text : List Char) : Bool :=
  !text.isEmpty && text.all fun character => (Text.digitValue? character).isSome

/-- Whether the text after a hyphen makes a negative number: digits, or a point between optional
digits and digits. A line feed at the end does not count. -/
def isMagnitude (text : List Char) : Bool :=
  let text := if text.getLast? == some '\n' then text.dropLast else text
  match Text.fields '.' text with
  | [whole] => isDigits whole
  | [whole, fraction] => (whole.isEmpty || isDigits whole) && isDigits fraction
  | _ => false

/-- An argument that starts with a hyphen and names no option: a value only if it holds a
space. -/
def valueIfSpaced (argument : List Char) : Argument :=
  if argument.contains ' ' then .value else .refused

/-- What an argument is that starts with two hyphens. -/
def classifyLong (argument : List Char) : Argument :=
  let stem := argument.takeWhile (· != '=')
  let attached :=
    if argument.contains '=' then some (String.ofList (argument.drop (stem.length + 1))) else none
  match optionTexts.find? fun option => option.2.toList == stem with
  | some option => .option option.1 attached
  | none =>
    match optionTexts.filter fun option => stem.isPrefixOf option.2.toList with
    | [option] => .option option.1 attached
    | [] => valueIfSpaced argument
    | _ => .refused

/-- What an argument is. Two hyphens alone would end the options, but nothing may follow them. -/
def classify (argument : String) : Argument :=
  match argument.toList with
  | ['-', '-'] => .refused
  | '-' :: '-' :: _ => classifyLong argument.toList
  | ['-'] => .value
  | '-' :: 'h' :: _ => .option .help none
  | '-' :: magnitude =>
    if isMagnitude magnitude then .value else valueIfSpaced argument.toList
  | _ => .value

/-- The settings that a command line gives. -/
structure Arguments where
  /-- The paths of the build artifacts. -/
  artifacts : List String
  /-- The paths of the findings, one for each artifact. -/
  issues : List String
  /-- The directory that relative source paths are looked up in. -/
  sourceRoot : String
  style : Style
  maxWorkers : Int
  debug : Bool
  deriving BEq, DecidableEq, Repr

namespace Arguments

/-- The settings of an empty command line. -/
def initial : Arguments :=
  { artifacts := [], issues := [], sourceRoot := ".", style := .default, maxWorkers := 4
    debug := false }

/-- The settings after an option with a value; `none` if the option does not take that value. -/
def set (arguments : Arguments) (option : OptionName) (value : String) : Option Arguments :=
  match option with
  | .artifact => some { arguments with artifacts := arguments.artifacts ++ [value] }
  | .issues => some { arguments with issues := arguments.issues ++ [value] }
  | .sourceRoot => some { arguments with sourceRoot := value }
  | .style => (Style.ofName? value).map fun style => { arguments with style }
  | .maxWorkers =>
    (Text.readInt? value.toList).map fun maxWorkers => { arguments with maxWorkers }
  | .help | .debug => none

/-- The settings after further arguments. -/
def extend (arguments : Arguments) : List String → Option Arguments
  | [] => some arguments
  | argument :: rest =>
    match classify argument, rest with
    | .option .help _, _ => none
    | .option .debug none, rest => extend { arguments with debug := true } rest
    | .option option (some value), rest => do extend (← arguments.set option value) rest
    | .option option none, value :: rest =>
      if classify value = .value then do extend (← arguments.set option value) rest else none
    | .option _ none, [] => none
    | .value, _ => none
    | .refused, _ => none

/-- The settings of a command line; `none` if it is misused. Artifacts and issues are required. -/
def parse (commandLine : List String) : Option Arguments := do
  let arguments ← extend initial commandLine
  guard (!arguments.artifacts.isEmpty && !arguments.issues.isEmpty)
  return arguments

end Arguments

end Pinpoint.Cli
