import HeaderBindings.Shell.Evaluation
import HeaderBindings.Tool

/-!
Programs to run where no others are at hand: a few small ones, and executable scripts in the tree of
files. A small program is a file too, whose content names the command it stands for, so all programs
are found in the same way: by their paths, or by a name in the directories of a search path.
-/

namespace HeaderBindings.Toolbox
open Text

/-- What can be run: the files, and the directories in which a program is looked for by its name. -/
structure Setting where
  files : FileTree
  searchPath : List String
  deriving DecidableEq

/-- The start of a file that stands for a command. -/
def commandMark : String := "#!command "

def smallPrograms : List String := ["[", "cat", "echo", "false", "printf", "sh", "test", "true"]

/-- The places of the directories that hold the small programs. -/
def programPlaces : List Place := [["bin"], ["usr", "bin"]]

/-- The files with a directory of small programs. -/
def installAt (files : FileTree) (place : Place) : FileTree :=
  { files with
    nodes := files.nodes
      ++ (place, .directory) :: smallPrograms.map fun name =>
          (place ++ [name], .file (encodeUtf8 (commandMark ++ name)) true) }

/-- The files with the devices and, in the usual directories, the small programs. -/
def install (files : FileTree) : FileTree :=
  programPlaces.foldl installAt
    { files with nodes := files.nodes ++ FileTree.standardDevices ++ [(["usr"], .directory)] }

/-- Runs the command that a small program stands for. -/
def runCommand (files : FileTree) (name : String) (arguments : List String) : Outcome :=
  match name, arguments with
  | "sh", "-c" :: script :: rest =>
      let (exitCode, output, errors) :=
        Shell.runScript files (rest.headD "sh") script (rest.drop 1)
      .finished exitCode output errors
  | "sh", path :: rest =>
      match files.readText path with
      | .ok script =>
          let (exitCode, output, errors) := Shell.runScript files path script rest
          .finished exitCode output errors
      | .error _ =>
          let effect := Shell.complained ("sh: 0: cannot open " ++ path ++ ": No such file") 2
          .finished (some effect.status) effect.output effect.errors
  | "sh", [] => .finished (some 0) [] []
  | _, _ =>
      match Shell.builtin? files false name arguments with
      | some effect => .finished (some effect.status) effect.output effect.errors
      | none => .notStarted .notProgram

/-- Runs a file. Every interpreter that a script names counts as the shell. -/
def runFile (files : FileTree) (program : String) (arguments : List String) : Outcome :=
  match files.find program with
  | .error reason => .notStarted reason
  | .ok .directory | .ok (.device ..) | .ok (.file _ false) => .notStarted .permissionDenied
  | .ok (.file content true) =>
      let text := decodeUtf8Lossy content
      if text.startsWith commandMark then
        runCommand files (text.drop commandMark.length).toString arguments
      else if text.startsWith "#!" then
        let (exitCode, output, errors) := Shell.runScript files program text arguments
        .finished exitCode output errors
      else .notStarted .notProgram

/-- Runs the program that a directory of the search path holds under a name, if it holds one. A file
that may not be run is passed over. -/
def runFrom? (files : FileTree) (name : String) (arguments : List String) (directory : String) :
    Option Outcome :=
  let path := Path.join directory name
  match files.find path with
  | .ok (.file _ true) => some (runFile files path arguments)
  | _ => none

/-- Whether a directory of the search path holds a file under a name that may not be run. -/
def isForbidden (files : FileTree) (name directory : String) : Bool :=
  match files.find (Path.join directory name) with
  | .ok .directory | .ok (.device ..) | .ok (.file _ false) => true
  | _ => false

/-- Runs a program, which a path names or which is looked for in the directories of a search path. -/
def start (files : FileTree) (searchPath : List String) (program : String)
    (arguments : List String) : Outcome :=
  if (program :: arguments).any (·.toList.contains '\x00') then .notStarted .zeroInCommand
  else if program.isEmpty then .notStarted .notFound
  else if program.toList.contains '/' then runFile files program arguments
  else
    match searchPath.findSome? (runFrom? files program arguments) with
    | some outcome => outcome
    | none =>
        if searchPath.any (isForbidden files program) then .notStarted .permissionDenied
        else .notStarted .notFound

/-- The files with the source in the temporary file, if there is a source. -/
def filesWith (files : FileTree) (temporaryPath : String) : Option String → FileTree
  | some source => (files.writeBytes temporaryPath (encodeUtf8 source)).toOption.getD files
  | none => files

/-- What an invocation leads to. -/
def run (setting : Setting) (temporaryPath : String) (invocation : Invocation) : Outcome :=
  start (filesWith setting.files temporaryPath invocation.source) setting.searchPath
    invocation.program (invocation.allArguments temporaryPath)

def tools (setting : Setting) (temporaryPath : String) : Tools where
  temporaryPath := temporaryPath
  run := run setting temporaryPath

end HeaderBindings.Toolbox
