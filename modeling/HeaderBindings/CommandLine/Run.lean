import HeaderBindings.CommandLine.Help
import HeaderBindings.Config.Loading
import HeaderBindings.Enumeration.Request
import HeaderBindings.Pattern.Reading
import HeaderBindings.Stubs
import HeaderBindings.ToolSearch

/-!
Running a command line. What the program finds around it is one value; a run changes the files, writes
on both standard streams as it goes, and may fail. What was written before a failure stays written, so
it matters in which order a command does its work.
-/

namespace HeaderBindings

/-- What the program finds around it. -/
structure Host where
  files : FileTree
  input : List UInt8 := []
  tools : Tools
  /-- The home directory of the user, or nothing if none is known. -/
  home : String
  searchPath : List String := []
  environment : List (String × String) := []
  /-- Whether a person reads the errors at a terminal. -/
  terminal : Bool := false
  /-- What the texts of configuration files mean. -/
  decode : Config.Decoder
  /-- The classes of characters that patterns may name. -/
  property : String → Option Pattern.CharTest
  /-- What the texts of patterns accept; none for a text that is no pattern. -/
  acceptor? : String → Option (String → Bool) := fun text =>
    (Pattern.read? property text).map Pattern.isFoundIn
  /-- The path of the program that a name stands for. -/
  program? : String → Option String := ProgramSearch.find? files searchPath
  /-- Why the current directory is not known. -/
  currentFailure? : Option FileError := none
  /-- Why the temporary file cannot be made. -/
  makingFailure? : Option FileError := none
  /-- Why a text cannot be written to the temporary file. -/
  writingFailure? : String → Option FileError := fun _ => none

namespace Host

def environment? (host : Host) (name : String) : Option String := host.environment.lookup name

/-- The path of the user's configuration file; the empty path names no file. -/
def userPath (host : Host) : String :=
  if host.home.isEmpty then "" else Config.pathIn host.home

def projectPath (host : Host) : String := Config.pathIn host.files.currentPath

/-- The current directory has to be known. -/
def findCurrent (host : Host) : Except FileFailure Unit :=
  match host.currentFailure? with
  | some reason => .error (.currentDirectory reason)
  | none => .ok ()

/-- Writes a text to a new temporary file. -/
def writeTemporary (host : Host) (text : String) : Except FileFailure Unit :=
  match host.makingFailure?, host.writingFailure? text with
  | some reason, _ => .error (.temporaryNotMade reason)
  | none, some reason => .error (.temporaryNotWritten reason)
  | none, none => .ok ()

def toolSearch (host : Host) : ToolSearch where
  files := host.files
  directories := host.searchPath
  preprocessor := host.environment? "CPP"
  packageConfig := host.environment? "PKG_CONFIG"
  find? := host.program?

end Host

inductive RunError where
  | config (error : ConfigError)
  | pattern
  | file (error : FileFailure)
  | preprocess (error : PreprocessError)
  | wrapper (error : WrapperError)
  | enumeration (error : EnumRequestError)
  deriving DecidableEq

def RunError.diagnostic : RunError → Diagnostic
  | config error => .error error.message
  | pattern => .error Pattern.invalidMessage
  | file error => .error error.message
  | preprocess error => error.diagnostic
  | wrapper error => error.diagnostic
  | enumeration (.rendering error) => error.diagnostic
  | enumeration error => .error error.message

/-- What is written on the standard error, piece by piece. -/
inductive Message where
  | event (reported : Event)
  /-- A text that was to go to a file. -/
  | copy (text : String)
  | diagnostic (error : Diagnostic)
  deriving DecidableEq

/-- The files at some point of a run, and what has been written on the two standard streams. -/
structure RunState where
  files : FileTree
  output : String := ""
  messages : List Message := []
  deriving DecidableEq

/-- A part of a run. What it did before a failure stays done. -/
abbrev Run (α : Type) := ExceptT RunError (StateM RunState) α

namespace Run

/-- What a part of a run comes to when it is started, and the state that it leaves. -/
def start {α : Type} (part : Run α) (before : RunState) : Except RunError α × RunState :=
  (ExceptT.run part).run before

def print (text : String) : Run Unit :=
  modify fun state => { state with output := state.output ++ text }

def say (messages : List Message) : Run Unit :=
  modify fun state => { state with messages := state.messages ++ messages }

/-- Writes a text on one of the standard streams. -/
def write : StandardStream → String → Run Unit
  | .output, text => print text
  | .errors, text => say [.copy text]

def ofLogged {α : Type} (logged : Logged α) : Run α := do
  say (logged.events.map .event)
  pure logged.value

def report (event : Event) : Run Unit := ofLogged (Logged.report event)

def ofExcept {ε α : Type} (account : ε → RunError) : Except ε α → Run α
  | .ok value => pure value
  | .error error => throw (account error)

def ofAttempt {ε α : Type} (account : ε → RunError) (attempt : Attempt ε α) : Run α := do
  ofExcept account (← ofLogged attempt.outcome)

def ofChange {ε α : Type} (account : ε → RunError) (change : FileChange ε α) : Run α := do
  let state ← get
  let (result, files) := change.run.run state.files
  set { state with files }
  ofExcept account result

/-- Writes a text to a file, which may lead to one of the standard streams. -/
def save (path text : String) : Run Unit := do
  let stream? := (← get).files.stream? path
  ofChange .file (FileChange.writeText path text)
  match stream? with
  | some stream => write stream text
  | none => pure ()

end Run

namespace CommandLine

/-- The configuration of a run: that of the user, that of the project and the one that is named, which
has to be usable. -/
def configuration (host : Host) (named : Option String) : Run Config := do
  Run.ofExcept .file host.findCurrent
  let config ←
    Run.ofLogged (Config.loadLayers host.decode host.files host.userPath host.projectPath)
  match named with
  | none => pure config
  | some path =>
      pure (config.merge (← Run.ofExcept .config (Config.load host.decode host.files path)))

/-! ### Enumerations -/

/-- How the enumeration is written: as the arguments say, or else as configured. -/
def EnumArguments.style (arguments : EnumArguments) (config : Config) : EnumStyle :=
  let configured := config.enumStyle
  { configured with
    constants :=
      if arguments.bare then .bare
      else
        match arguments.space with
        | some space => .qualified space
        | none => configured.constants
    backingType := arguments.backingType.getD configured.backingType }

def EnumArguments.source (host : Host) (arguments : EnumArguments) : Run ConstantSource :=
  match arguments.preset with
  | some preset => pure (.preset preset)
  | none => do
      pure (.text (← Run.ofExcept .file (fileOrInput host.files host.input arguments.input)))

def runEnumeration (host : Host) (config : Config) (arguments : EnumArguments) : Run Unit := do
  let source ← arguments.source host
  let text ← Run.ofAttempt .enumeration (EnumRequest.generate
    { enumeration := arguments.enumeration
      sharedPrefix := arguments.sharedPrefix
      source
      style := arguments.style config })
  Run.print text

/-! ### Declarations -/

def SourceArguments.preprocess (host : Host) (config : Config) (arguments : SourceArguments) :
    Option PreprocessOptions :=
  if arguments.withoutPreprocess then none
  else
    let configured := config.preprocessOptions host.toolSearch
    some
      { package := arguments.package.or configured.package
        preprocessor := arguments.preprocessor.getD configured.preprocessor
        packageConfig := arguments.packageConfig.getD configured.packageConfig
        flags := configured.flags ++ arguments.flags }

/-- What the pattern accepts, if one is given. -/
def SourceArguments.accepts (host : Host) (arguments : SourceArguments) :
    Run (Option (String → Bool)) :=
  match arguments.pattern with
  | none => pure none
  | some text =>
      match host.acceptor? text with
      | some accepts => pure (some accepts)
      | none => throw .pattern

def SourceArguments.filter (host : Host) (arguments : SourceArguments) : Run NameFilter := do
  let accepts ← arguments.accepts host
  pure { included := arguments.included, excluded := arguments.excluded, accepts }

/-- How declarations are read and stubs are made, before the arguments for stubs alone. -/
def SourceArguments.options (host : Host) (config : Config) (arguments : SourceArguments) :
    Run StubOptions := do
  let filter ← arguments.filter host
  pure
    { preprocess := arguments.preprocess host config
      style := config.wrapperStyle
      filter }

/-- Expands a source by way of the temporary file, which is written once the flags are known. -/
def expand (host : Host) (options : PreprocessOptions) (source : String) : Run Expansion := do
  let flags ← Run.ofAttempt .preprocess (Preprocess.allFlags host.tools options)
  Run.ofExcept .file (host.writeTemporary source)
  Run.ofAttempt .preprocess (Preprocess.translate host.tools options source flags)

def sourceToRead (host : Host) (options : Option PreprocessOptions) (input : String) :
    Run String :=
  match options with
  | some options => do
      let expansion ← expand host options input
      pure expansion.expanded
  | none => pure input

def SourceArguments.declarations (host : Host) (arguments : SourceArguments)
    (options : StubOptions) : Run Declarations := do
  let input ← Run.ofExcept .file (givenOrInput host.input arguments.input)
  let source ← sourceToRead host options.preprocess input
  Run.ofLogged (Stubs.readSource options.filter source)

/-- Writes the source as it was read to the file that is named. -/
def SourceArguments.saveSource (arguments : SourceArguments) (source : String) : Run Unit :=
  match arguments.savePath with
  | some path => Run.save path source
  | none => pure ()

def StubArguments.style (arguments : StubArguments) (configured : WrapperStyle) : WrapperStyle :=
  { configured with
    stripPrefixes :=
      if arguments.stripPrefixes.isEmpty then configured.stripPrefixes else arguments.stripPrefixes
    receiver := arguments.receiver.getD configured.receiver
    receiverType := arguments.receiverType.getD configured.receiverType
    rawField := arguments.rawField.getD configured.rawField
    space := arguments.space.getD configured.space }

def StubArguments.options (host : Host) (config : Config) (arguments : StubArguments) :
    Run StubOptions := do
  let options ← arguments.source.options host config
  pure
    { options with
      style := arguments.style options.style
      echoInput := arguments.echoInput
      keepGoing := arguments.keepGoing }

/-- Saves the source before anything is rendered, so that a run that fails then leaves it behind. -/
def StubArguments.saveSource (arguments : StubArguments) (source : String) : Run Unit := do
  arguments.source.saveSource source
  match arguments.source.savePath with
  | some path => Run.report (.wroteExpanded path)
  | none => pure ()

def reportLeftOut (skipped : List WrapperError) : Run Unit :=
  if skipped.isEmpty then pure () else Run.report (.leftOut skipped.length)

/-- Renders all stubs, and prints them when there are all of them. -/
def printStubs (options : StubOptions) (declarations : Declarations) : Run Unit := do
  let output ← Run.ofAttempt .wrapper (Stubs.render options declarations)
  reportLeftOut output.batch.skipped
  Run.print output.text

def runStubs (host : Host) (config : Config) (arguments : StubArguments) : Run Unit := do
  let options ← arguments.options host config
  let declarations ← arguments.source.declarations host options
  arguments.saveSource declarations.source
  printStubs options declarations

/-- Prints a statement for each function, one after the other. -/
def printStatements : List Signature → Run Unit
  | [] => pure ()
  | function :: rest => do
      Run.print (function.statement ++ "\n")
      printStatements rest

def listSkipped : List String → Run Unit
  | [] => pure ()
  | statement :: rest => do
      Run.report (.listedSkipped statement)
      listSkipped rest

def printHeader (json : Bool) (header : Header) : Run Unit :=
  if json then Run.print (JsonText.text header.toJson ++ "\n")
  else do
    printStatements header.functions
    listSkipped header.skipped

def runParse (host : Host) (config : Config) (arguments : ParseArguments) : Run Unit := do
  let options ← arguments.source.options host config
  let declarations ← arguments.source.declarations host options
  arguments.source.saveSource declarations.source
  printHeader arguments.json declarations.header

def runCommand (host : Host) (config : Config) : Command → Run Unit
  | .enumeration arguments => runEnumeration host config arguments
  | .stubs arguments => runStubs host config arguments
  | .parse arguments => runParse host config arguments
  | .completions shell => Run.print (completionText shell)

end CommandLine

def CommandLine.Command.source? : Command → Option SourceArguments
  | .stubs arguments => some arguments.source
  | .parse arguments => some arguments.source
  | _ => none

def CommandLine.Command.readsInput : Command → Bool
  | .enumeration arguments =>
      arguments.preset.isNone && (arguments.input.map Path.isStandardInput).getD true
  | .stubs arguments => arguments.source.input.isNone
  | .parse arguments => arguments.source.input.isNone
  | .completions _ => false

def CommandLine.paths (line : CommandLine) : List String :=
  let ofCommand := match line.command with
    | .enumeration arguments => arguments.input.toList
    | command =>
        match command.source? with
        | some source =>
            source.savePath.toList ++ source.preprocessor.toList ++ source.packageConfig.toList
        | none => []
  line.config.toList ++ ofCommand

def CommandLine.execute (host : Host) (line : CommandLine) : Run Unit := do
  let config ← CommandLine.configuration host line.config
  CommandLine.runCommand host config line.command

end HeaderBindings
