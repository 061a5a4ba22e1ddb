import HeaderBindings.CommandLine.Argument
import HeaderBindings.Enumeration.Preset

/-!
The commands of the program and what can be asked of each. A command line names one command; the
options that hold for every command may stand in front of it or behind it, and of two configuration
files that are named the one behind the command counts.
-/

namespace HeaderBindings

namespace CommandLine

structure EnumArguments where
  preset : Option Preset
  enumeration : Option String
  sharedPrefix : Option String
  bare : Bool
  space : Option String
  backingType : Option String
  /-- The file with the constants. -/
  input : Option String
  deriving DecidableEq

/-- The source to read, and how it is read. -/
structure SourceArguments where
  input : Option String
  package : Option String
  withoutPreprocess : Bool
  preprocessor : Option String
  packageConfig : Option String
  flags : List String
  /-- The file to which the expanded source is written too. -/
  savePath : Option String
  /-- The pattern that names have to match. -/
  pattern : Option String
  included : List String
  excluded : List String
  deriving DecidableEq

structure StubArguments where
  source : SourceArguments
  stripPrefixes : List String
  receiver : Option String
  receiverType : Option String
  rawField : Option String
  space : Option String
  echoInput : Bool
  keepGoing : Bool
  deriving DecidableEq

structure ParseArguments where
  source : SourceArguments
  json : Bool
  deriving DecidableEq

inductive CompletingShell where
  | bash
  | elvish
  | fish
  | powershell
  | zsh
  deriving DecidableEq

def CompletingShell.name : CompletingShell → String
  | bash => "bash"
  | elvish => "elvish"
  | fish => "fish"
  | powershell => "powershell"
  | zsh => "zsh"

def CompletingShell.all : List CompletingShell := [bash, elvish, fish, powershell, zsh]

inductive Command where
  | enumeration (arguments : EnumArguments)
  | stubs (arguments : StubArguments)
  | parse (arguments : ParseArguments)
  | completions (shell : CompletingShell)
  deriving DecidableEq

/-! ### Rules -/

def flagRule (name about : String) : OptionRule := { name, about }

def textRule (name about label : String) : OptionRule := { name, about, value := some (.text label) }

def pathRule (name about label : String) : OptionRule := { name, about, value := some (.path label) }

/-- An option with a text as its value, which may be given several times. -/
def listRule (name about label : String) : OptionRule :=
  { name, about, value := some { label, repeatable := true } }

def sharedOptions : List OptionRule :=
  [{ name := "verbose", about := "Enable verbose output", letter := some 'v' },
   flagRule "no-color" "Disable colored output",
   pathRule "config" "Read configuration from this file instead of .gibind/config.toml" "CONFIG",
   { name := "help", about := "Print help", letter := some 'h', role := .help }]

def sourceOptions : List OptionRule :=
  [textRule "package" "pkg-config package providing the include flags" "PACKAGE",
   flagRule "no-preprocess" "Parse the input as is, without pkg-config or cpp",
   pathRule "cpp" "C preprocessor to run" "CPP",
   pathRule "pkg-config" "pkg-config program to query" "PKG_CONFIG",
   { name := "cflag", about := "Extra flag passed to the preprocessor (repeatable)"
     value := some { label := "CFLAGS", repeatable := true, anyText := true } },
   pathRule "save-expanded" "Also write the expanded source to this file" "SAVE_EXPANDED",
   textRule "match" "Only keep functions whose name matches this regex" "NAME_MATCH",
   listRule "include" "Only keep these functions (repeatable)" "INCLUDE",
   listRule "exclude" "Leave out these functions (repeatable)" "EXCLUDE"]

def enumLevel : Level where
  command := some "enum"
  about := "Render an enum declaration from prefixed C constants"
  options :=
    [{ name := "preset", about := "Use a built-in constant list"
       value := some (.oneOf "PRESET" (Preset.all.map (·.id))) },
     textRule "name" "Enum name (defaults to the preset's)" "NAME",
     textRule "prefix" "Prefix shared by every constant (defaults to the preset's)" "PREFIX",
     flagRule "bare" "Reference constants without a namespace",
     textRule "namespace" "Namespace the constants are referenced through" "NAMESPACE",
     textRule "backing-type" "Integer type backing the enum" "BACKING_TYPE"] ++ sharedOptions
  operand := some (.path "INPUT")

def stubLevel : Level where
  command := some "stubs"
  about := "Render wrapper stubs for C function declarations"
  options :=
    sourceOptions
      ++ [listRule "strip-prefix"
            "Literal prefix removed from function names (repeatable, first match wins)"
            "STRIP_PREFIXES",
          textRule "receiver" "Receiver parameter name" "RECEIVER",
          textRule "receiver-type" "Receiver parameter type" "RECEIVER_TYPE",
          textRule "raw-field" "Receiver field holding the raw C handle" "RAW_FIELD",
          textRule "namespace" "Namespace the C functions are called through" "NAMESPACE",
          flagRule "echo-input" "Echo the parsed source as comments before the stubs",
          flagRule "keep-going" "Skip functions that cannot be wrapped instead of failing"]
      ++ sharedOptions
  operand := some (.text "INPUT")

def parseLevel : Level where
  command := some "parse"
  about := "Show the function declarations found in C input"
  options := sourceOptions ++ [flagRule "json" "Print the declarations as JSON"] ++ sharedOptions
  operand := some (.text "INPUT")

def completionLevel : Level where
  command := some "completions"
  about := "Generate shell completions"
  options := sharedOptions
  operand := some (.oneOf "SHELL" (CompletingShell.all.map (·.name)))

def commandLevels : List Level := [enumLevel, stubLevel, parseLevel, completionLevel]

def helpCommand : String := "help"

def commandNames : List String := commandLevels.filterMap (·.command) ++ [helpCommand]

def programLevel : Level where
  about := "Code generators for bootstrapping GObject-Introspection bindings"
  options :=
    sharedOptions
      ++ [{ name := "version", about := "Print version", letter := some 'V', role := .version }]
  commands := commandNames

/-! ### Arguments -/

def sourceArguments (given : Given) : SourceArguments where
  input := given.operand
  package := given.value? "package"
  withoutPreprocess := given.has "no-preprocess"
  preprocessor := given.value? "cpp"
  packageConfig := given.value? "pkg-config"
  flags := given.values "cflag"
  savePath := given.value? "save-expanded"
  pattern := given.value? "match"
  included := given.values "include"
  excluded := given.values "exclude"

/-- The enumeration that is asked for. A preset leaves no place for an input, and references by name
alone none for a namespace. -/
def enumCommand (given : Given) : Except Refusal Command :=
  if given.has "preset" && given.operand.isSome || given.has "bare" && given.has "namespace" then
    .error .usage
  else
    .ok (.enumeration
      { preset := (given.value? "preset").bind Preset.find?
        enumeration := given.value? "name"
        sharedPrefix := given.value? "prefix"
        bare := given.has "bare"
        space := given.value? "namespace"
        backingType := given.value? "backing-type"
        input := given.operand })

def stubCommand (given : Given) : Except Refusal Command :=
  .ok (.stubs
    { source := sourceArguments given
      stripPrefixes := given.values "strip-prefix"
      receiver := given.value? "receiver"
      receiverType := given.value? "receiver-type"
      rawField := given.value? "raw-field"
      space := given.value? "namespace"
      echoInput := given.has "echo-input"
      keepGoing := given.has "keep-going" })

def parseCommand (given : Given) : Except Refusal Command :=
  .ok (.parse { source := sourceArguments given, json := given.has "json" })

def completionCommand (given : Given) : Except Refusal Command :=
  match CompletingShell.all.find? fun shell => some shell.name == given.operand with
  | some shell => .ok (.completions shell)
  | none => .error .usage

def readCommand (name : String) (arguments : List String) : Except Refusal (Given × Command) := do
  let (level, command) : Level × (Given → Except Refusal Command) ←
    match name with
    | "enum" => pure (enumLevel, enumCommand)
    | "stubs" => pure (stubLevel, stubCommand)
    | "parse" => pure (parseLevel, parseCommand)
    | "completions" => pure (completionLevel, completionCommand)
    | _ => throw .usage
  let (given, _) ← level.read {} arguments
  pure (given, ← command given)

/-- What the command for help shows: help on the program, or on the one command that is named. -/
def helpRefusal : List String → Refusal
  | [] => .help none
  | [name] => if commandNames.contains name then .help (some name) else .usage
  | _ => .usage

end CommandLine

open CommandLine

/-- A command line: the command, and what holds for every command. -/
structure CommandLine where
  command : Command
  verbose : Bool := false
  noColor : Bool := false
  /-- A configuration file besides the usual ones. -/
  config : Option String := none
  deriving DecidableEq

/-- The configuration file that is named: behind the command, in front of it, or by the environment,
which has to name one if it is asked. -/
def CommandLine.configPath (outer inner : Given) (fromEnvironment : Option String) :
    Except Refusal (Option String) :=
  if fromEnvironment == some "" && !(outer.has "config" && inner.has "config") then .error .usage
  else .ok (((inner.value? "config").or (outer.value? "config")).or fromEnvironment)

def CommandLine.read (fromEnvironment : Option String) (arguments : List String) :
    Except Refusal CommandLine := do
  let (outer, command?) ← programLevel.read {} arguments
  let some (name, rest) := command? | throw .usage
  if name = helpCommand then throw (helpRefusal rest)
  let (inner, command) ← readCommand name rest
  let outer ← programLevel.settle outer
  pure
    { command
      verbose := outer.has "verbose" || inner.has "verbose"
      noColor := outer.has "no-color" || inner.has "no-color"
      config := ← configPath outer inner fromEnvironment }

end HeaderBindings
