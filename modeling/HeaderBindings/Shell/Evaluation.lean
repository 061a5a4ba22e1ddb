import HeaderBindings.Shell.Commands
import HeaderBindings.Shell.Script
import HeaderBindings.Text.Blank

/-!
Running a script. A run keeps the positional parameters, the named values, what was written so far and
the exit code of the last command; once the script has ended, no further command has an effect. The
number of steps is bounded, so that a script that would not end is ended.
-/

namespace HeaderBindings.Shell
open Text

/-- The state of a run. -/
structure Run where
  /-- The name of the script and its parameters. -/
  name : String
  arguments : List String
  namedValues : List (String × String) := []
  effect : Effect := {}
  /-- How the script ended, if it has: with an exit code, or from outside. -/
  ended : Option (Option Nat) := none
  deriving DecidableEq

/-- The number of the process. -/
def processNumber : String := "4242"

namespace Run

def value (run : Run) (parameter : String) : String :=
  match parameter with
  | "#" => toString run.arguments.length
  | "@" | "*" => String.intercalate " " run.arguments
  | "?" => toString run.effect.status
  | "$" => processNumber
  | "0" => run.name
  | _ =>
      match parameter.toNat? with
      | some position => (run.arguments[position - 1]?).getD ""
      | none => (run.namedValues.lookup parameter).getD ""

/-- Joins the first field that is added to the one being read and starts new ones for the others. -/
def addFields (current : Option String) : List String → List String × Option String
  | [] => ([], current)
  | [field] => ([], some (current.getD "" ++ field))
  | field :: rest =>
      let (fields, last) := addFields none rest
      ((current.getD "" ++ field) :: fields, last)

/-- The fields of a word. An unquoted parameter is split at blanks, and the quoted list of all
parameters gives one field for each. -/
def fieldsFrom (run : Run) (current : Option String) : Word → List String
  | [] => current.toList
  | .literal c :: rest => run.fieldsFrom (some (current.getD "" ++ String.singleton c)) rest
  | .quote :: rest =>
      if rest = [.parameter "@" true] && current.isNone then run.arguments
      else run.fieldsFrom (some (current.getD "")) rest
  | .parameter name quoted :: rest =>
      if quoted then
        if name = "@" then
          let (fields, last) := addFields current run.arguments
          fields ++ run.fieldsFrom last rest
        else run.fieldsFrom (some (current.getD "" ++ run.value name)) rest
      else
        let (fields, last) := addFields current ((words (run.value name).toList).map String.ofList)
        fields ++ run.fieldsFrom last rest

def fields (run : Run) (words : List Word) : List String := words.flatMap (run.fieldsFrom none)

def assign (run : Run) (name value : String) : Run :=
  { run with
    namedValues := (name, value) :: run.namedValues
    effect := { run.effect with status := 0 } }

def finish (run : Run) (exitCode : Option Nat) : Run := { run with ended := some exitCode }

/-- Where the output and the errors go after a redirection, when they went to `places` before. -/
def redirect (places : Stream × Stream) : Redirection → Stream × Stream
  | .join .output .errors => (places.2, places.2)
  | .join .errors .output => (places.1, places.1)
  | .join _ _ => places
  | .drop .output => (.nowhere, places.2)
  | .drop _ => (places.1, .nowhere)

/-- The run after a command had an effect, with its streams redirected. -/
def record (run : Run) (redirections : List Redirection) (effect : Effect) : Run :=
  let places := redirections.foldl redirect (.output, .errors)
  let sent (stream : Stream) : List UInt8 :=
    (if places.1 = stream then effect.output else [])
      ++ (if places.2 = stream then effect.errors else [])
  { run with effect :=
    { output := run.effect.output ++ sent .output
      errors := run.effect.errors ++ sent .errors
      status := effect.status } }

/-- The name and the value of an assignment, if the word is one. -/
def assignment? (run : Run) (word : Word) : Option (String × String) :=
  let name := word.takeWhile fun part => part != .literal '='
  match plainText? name, word.drop name.length with
  | some text, _ :: value =>
      if text.isEmpty || text.toList.any fun c => !(c.isAlphanum || c == '_') then none
      else some (text, String.intercalate " " (run.fieldsFrom (some "") value))
  | _, _ => none

/-- Whether the arguments of a signal name this process. -/
def killsItself (arguments : List String) : Bool := arguments.getLast? == some processNumber

/-- The run after a simple command with the fields of its words. -/
def perform (files : FileTree) (run : Run) (redirections : List Redirection) (name : String)
    (arguments : List String) : Run :=
  match name with
  | "exit" => run.finish (some (((arguments.head?.bind String.toNat?).getD run.effect.status) % 256))
  | "shift" =>
      let count := (arguments.head?.bind String.toNat?).getD 1
      { run with
        arguments := run.arguments.drop count
        effect := { run.effect with status := 0 } }
  | "kill" => if killsItself arguments then run.finish none else run.record redirections { status := 1 }
  | "set" => { run with arguments := if arguments.head? = some "--" then arguments.drop 1 else arguments }
  | _ =>
      match builtin? files true name arguments with
      | some effect => run.record redirections effect
      | none => run.record redirections (complained (run.name ++ ": 1: " ++ name ++ ": not found") 127)

/-- The run after a command, with at most `fuel` steps. -/
def execute (files : FileTree) : Nat → Command → Run → Run
  | 0, _, run => run.finish none
  | fuel + 1, command, run =>
      if run.ended.isSome then run
      else
        match command with
        | .nothing => run
        | .simple words redirections =>
            match words.map (run.assignment? ·) with
            | [some (name, value)] => run.assign name value
            | _ =>
                match run.fields words with
                | [] => run
                | name :: arguments => run.perform files redirections name arguments
        | .sequence first second => execute files fuel second (execute files fuel first run)
        | .andThen first second =>
            let after := execute files fuel first run
            if after.effect.status = 0 then execute files fuel second after else after
        | .orElse first second =>
            let after := execute files fuel first run
            if after.effect.status = 0 then after else execute files fuel second after
        | .negated command =>
            let after := execute files fuel command run
            { after with effect :=
              { after.effect with status := if after.effect.status = 0 then 1 else 0 } }
        | .conditional test thenPart elsePart =>
            let after := execute files fuel test run
            if after.effect.status = 0 then execute files fuel thenPart after
            else
              execute files fuel elsePart { after with effect := { after.effect with status := 0 } }
        | .loop whileSuccess test body =>
            let tested := execute files fuel test run
            if (tested.effect.status == 0) == whileSuccess then
              execute files fuel command (execute files fuel body tested)
            else { tested with effect := { tested.effect with status := 0 } }
        | .forEach name words body =>
            (run.fields words).foldl
              (fun run field => execute files fuel body (run.assign name field)) run

end Run

/-- The number of steps after which a script is ended. -/
def longestRun : Nat := 100000

/-- What a script does with its arguments. A script that cannot be read fails. -/
def runScript (files : FileTree) (name script : String) (arguments : List String) :
    Option Nat × List UInt8 × List UInt8 :=
  match script? script with
  | none => (some 2, [], encodeUtf8 (name ++ ": Syntax error\n"))
  | some command =>
      let run := Run.execute files longestRun command { name, arguments }
      (run.ended.getD (some run.effect.status), run.effect.output, run.effect.errors)

end HeaderBindings.Shell
