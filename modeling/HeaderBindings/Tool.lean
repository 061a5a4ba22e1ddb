import HeaderBindings.Files
import HeaderBindings.Log
import HeaderBindings.Text.Blank

/-!
External programs. What a program does is taken as a function from its invocation to its outcome, so
a statement about a run holds for all programs. A run counts as a success when the program starts,
ends with exit code 0 and writes UTF-8 to its standard output.
-/

namespace HeaderBindings
open Text

/-- A program with its arguments. The source, if there is one, is in a temporary file, whose path is
one more argument at the end. -/
structure Invocation where
  program : String
  arguments : List String := []
  source : Option String := none
  deriving DecidableEq

/-- What came of an invocation. A program that was ended from outside has no exit code. -/
inductive Outcome where
  | notStarted (reason : FileError)
  | finished (exitCode : Option Nat) (output errors : List UInt8)
  deriving DecidableEq

/-- The external programs: what each invocation leads to, and the path of the temporary file. Waiting
for the end of a program that was started may fail. -/
structure Tools where
  temporaryPath : String
  run : Invocation → Outcome
  waitFailure? : Invocation → Option FileError := fun _ => none

inductive ToolFailure where
  | notStarted (program : String) (reason : FileError)
  | notAwaited (program : String) (reason : FileError)
  | unsuccessful (command : String) (exitCode : Option Nat) (errors : String)
  | notUtf8 (command : String) (reason : Utf8Error)
  deriving DecidableEq

namespace ToolFailure

/-- The wording of an exit code. -/
def describeExitCode : Option Nat → String
  | some code => "Some(" ++ toString code ++ ")"
  | none => "None"

/-- The wording of the failure; it ends with what the program wrote to its standard error. -/
def message : ToolFailure → String
  | notStarted program reason => "failed to spawn `" ++ program ++ "`: " ++ reason.message
  | notAwaited program reason => "failed to wait for `" ++ program ++ "`: " ++ reason.message
  | unsuccessful command exitCode errors =>
      "`" ++ command ++ "` failed with exit code " ++ describeExitCode exitCode ++ "\n" ++ errors
  | notUtf8 command reason =>
      "`" ++ command ++ "` produced non UTF-8 output: " ++ reason.message

end ToolFailure

namespace Invocation

/-- All arguments, the path of the temporary file included. -/
def allArguments (invocation : Invocation) (temporaryPath : String) : List String :=
  invocation.arguments ++ (if invocation.source.isSome then [temporaryPath] else [])

/-- The program and its arguments, as they are shown. -/
def command (invocation : Invocation) (temporaryPath : String) : String :=
  String.intercalate " " (invocation.program :: invocation.allArguments temporaryPath)

end Invocation

namespace Tools

def start (tools : Tools) (invocation : Invocation) : Logged Outcome := do
  Logged.report (.running (invocation.command tools.temporaryPath))
  pure (tools.run invocation)

/-- The standard output that a run left, if it was a success. -/
def outputAfter (tools : Tools) (invocation : Invocation) :
    Option Nat → List UInt8 → List UInt8 → Except ToolFailure String
  | some 0, output, _ =>
      (decodeUtf8 output).mapError (.notUtf8 (invocation.command tools.temporaryPath))
  | exitCode, _, errors =>
      .error (.unsuccessful (invocation.command tools.temporaryPath) exitCode
        (String.ofList (trimEnd (decodeUtf8Lossy errors).toList)))

/-- The standard output that an outcome leaves, if the run was a success. -/
def outputOf (tools : Tools) (invocation : Invocation) : Outcome → Except ToolFailure String
  | .notStarted reason => .error (.notStarted invocation.program reason)
  | .finished exitCode output errors =>
      match tools.waitFailure? invocation with
      | some reason => .error (.notAwaited invocation.program reason)
      | none => tools.outputAfter invocation exitCode output errors

/-- Runs a program and gives its standard output. -/
def output (tools : Tools) (invocation : Invocation) : Attempt ToolFailure String := do
  let outcome ← ExceptT.lift (tools.start invocation)
  match tools.outputOf invocation outcome with
  | .ok text => pure text
  | .error failure => throw failure

end Tools

end HeaderBindings
