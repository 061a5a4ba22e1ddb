import HeaderBindings.Preprocess
import HeaderBindings.Source.Reading
import HeaderBindings.Wrapper

/-!
From C source to stubs: the source is expanded if that is asked for, its declarations are read, and
a stub is rendered for each that passes the filters. The source can be echoed as comments in front
of the stubs.
-/

namespace HeaderBindings
open Text

/-- The declarations of a source, with the source as it was read, that is, expanded if that was
asked for. -/
structure Declarations where
  source : String
  header : Header
  deriving DecidableEq

structure StubOptions where
  /-- How the source is expanded; it is read as it is when this is not given. -/
  preprocess : Option PreprocessOptions := none
  style : WrapperStyle := {}
  filter : NameFilter := {}
  keepGoing : Bool := false
  echoInput : Bool := false

/-- The stubs of a source, and the text made of them. -/
structure StubOutput where
  declarations : Declarations
  batch : Wrapper.Batch
  text : String
  deriving DecidableEq

inductive StubError where
  | preprocess (error : PreprocessError)
  | wrapper (error : WrapperError)
  deriving DecidableEq

def StubError.message : StubError → String
  | preprocess error => error.message
  | wrapper error => error.message

namespace Stubs

/-- The source to read, expanded if options for that are given. -/
def sourceToRead (tools : Tools) (options : Option PreprocessOptions) (input : String) :
    Attempt PreprocessError String :=
  match options with
  | some options => do
      let expansion ← Preprocess.expand tools options input
      pure expansion.expanded
  | none => pure input

/-- The declarations of a source that is not to be expanded further. -/
def readSource (filter : NameFilter) (source : String) : Logged Declarations := do
  let header ← Source.readHeader filter source
  Logged.report (.readHeader header.functions.length header.skipped.length)
  pure { source, header }

def declarations (tools : Tools) (options : StubOptions) (input : String) :
    Attempt PreprocessError Declarations := do
  let source ← sourceToRead tools options.preprocess input
  ExceptT.lift (readSource options.filter source)

/-- A source as comment lines, behind a heading. -/
def echoComment (source : String) : String :=
  String.intercalate "\n"
    ((("input: ".toList :: lines source.toList).map String.ofList).map ("// " ++ ·))

/-- The text of the stubs, each on lines of its own. -/
def stubLines (stubs : List String) : String := String.join (stubs.map (· ++ "\n"))

/-- What stands in front of the stubs. -/
def echo (options : StubOptions) (source : String) : String :=
  if options.echoInput then echoComment source ++ "\n" else ""

/-- Warns when there is nothing to wrap. -/
def warnIfNone (functions : List Signature) : Attempt WrapperError Unit :=
  if functions.isEmpty then do
    Attempt.report .noFunctions
    Attempt.report .noFunctionsHelp
  else pure ()

def render (options : StubOptions) (declarations : Declarations) :
    Attempt WrapperError StubOutput := do
  warnIfNone declarations.header.functions
  let batch ← Wrapper.renderAll options.style options.keepGoing declarations.header.functions
  let text := echo options declarations.source ++ stubLines batch.stubs
  pure { declarations, batch, text }

def generate (tools : Tools) (options : StubOptions) (input : String) :
    Attempt StubError StubOutput := do
  let found ← (declarations tools options input).mapError .preprocess
  (render options found).mapError .wrapper

end Stubs

end HeaderBindings
