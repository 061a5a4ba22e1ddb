import HeaderBindings.Diagnostic
import HeaderBindings.Tool

/-!
Expanding C source by two external programs. The first is asked for the compiler flags of a package,
if one is given; the second gets these flags, further flags and the source, and its output is the
expanded source. The first failure ends the work.
-/

namespace HeaderBindings
open Text

structure PreprocessOptions where
  package : Option String
  preprocessor : String
  packageConfig : String
  /-- The flags behind those of the package. -/
  flags : List String
  deriving DecidableEq

inductive PreprocessError where
  | packageFlags (package program : String) (reason : ToolFailure)
  | preprocessor (program : String) (reason : ToolFailure)
  deriving DecidableEq

namespace PreprocessError

def message : PreprocessError → String
  | packageFlags package _ reason =>
      "failed to resolve compiler flags for package `" ++ package ++ "`: " ++ reason.message
  | preprocessor program reason =>
      "failed to preprocess input with `" ++ program ++ "`: " ++ reason.message

def code : PreprocessError → String
  | packageFlags .. => "gibind::preprocess::package_flags"
  | preprocessor .. => "gibind::preprocess::preprocessor"

def help : PreprocessError → String
  | packageFlags .. => "install the package's development files or pass `--package`"
  | preprocessor .. => "pass a working preprocessor with `--cpp`"

def diagnostic (error : PreprocessError) : Diagnostic :=
  match error with
  | packageFlags _ program _ =>
      { message := error.message
        context := ["while running `" ++ program ++ " --cflags`"]
        suggestions :=
          ["Install the development package or add its directory to PKG_CONFIG_PATH",
           "Pass `--no-preprocess` to parse the input as is"] }
  | preprocessor .. =>
      { message := error.message
        suggestions := ["Pass `--cpp <path>` or `--no-preprocess` to parse the input as is"] }

end PreprocessError

/-- Expanded source, with the flags it was expanded with. -/
structure Expansion where
  flags : List String
  expanded : String
  deriving DecidableEq

namespace Preprocess

/-- The flags of a package: the words that the program writes. -/
def packageFlags (tools : Tools) (program package : String) :
    Attempt PreprocessError (List String) := do
  let output ← (tools.output { program, arguments := ["--cflags", package] }).mapError
    (.packageFlags package program)
  pure ((words output.toList).map String.ofList)

def requestedFlags (tools : Tools) (options : PreprocessOptions) :
    Attempt PreprocessError (List String) :=
  match options.package with
  | some package => packageFlags tools options.packageConfig package
  | none => pure []

/-- All flags for the expansion. -/
def allFlags (tools : Tools) (options : PreprocessOptions) :
    Attempt PreprocessError (List String) := do
  pure ((← requestedFlags tools options) ++ options.flags)

/-- Expands a source, which is in the temporary file. -/
def translate (tools : Tools) (options : PreprocessOptions) (source : String)
    (flags : List String) : Attempt PreprocessError Expansion := do
  Attempt.report (.preprocessing source.utf8ByteSize flags.length)
  let expanded ←
    (tools.output { program := options.preprocessor, arguments := flags, source }).mapError
      (.preprocessor options.preprocessor)
  pure { flags, expanded }

/-- Expands a source. That it can be written to the temporary file is taken for granted. -/
def expand (tools : Tools) (options : PreprocessOptions) (source : String) :
    Attempt PreprocessError Expansion := do
  translate tools options source (← allFlags tools options)

end Preprocess

end HeaderBindings
