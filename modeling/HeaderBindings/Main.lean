import HeaderBindings.CommandLine.Report
import HeaderBindings.Config.Decoding
import HeaderBindings.Pattern.Property
import HeaderBindings.Toolbox

/-!
The program. It takes a picture of what a command line can reach, runs the command line on the
picture, and writes the files that the run changed. The programs that expand source are those of the
toolbox, so a program has to be a script.
-/

namespace HeaderBindings

/-- The directories of a search path, which colons separate. -/
def searchDirectories (searchPath : Option String) : List String :=
  match searchPath with
  | none => []
  | some text => if text.isEmpty then [] else text.splitOn ":"

def pathOfPlace (place : Place) : String := "/" ++ String.intercalate "/" place

/-- What the system answers when something cannot be done with a file. -/
def fileErrorOf : IO.Error → FileError
  | .noFileOrDirectory .. => .notFound
  | .permissionDenied .. => .permissionDenied
  | error => .refused (toString error) 0

/-- The picture with what is at a place. What can be opened but not read is a directory, and only a
script counts as a program. -/
def addPlace (files : FileTree) (place : Place) : IO FileTree := do
  match ← (IO.FS.Handle.mk (pathOfPlace place) .read).toBaseIO with
  | .error (.permissionDenied ..) =>
      pure { files.put place (.file [] false) with forbidden := (place, .read) :: files.forbidden }
  | .error _ => pure files
  | .ok handle =>
      match ← handle.readBinToEnd.toBaseIO with
      | .error _ => pure (files.put place .directory)
      | .ok bytes =>
          let content := bytes.toList
          pure (files.put place (.file content (content.take 2 == Text.encodeUtf8 "#!")))

/-- The picture with what is at a path and on the way to it. -/
def addPath (files : FileTree) (path : String) : IO FileTree := do
  let names := Path.components path
  let whole := if Path.isAbsolute path then names else files.current ++ names
  (List.range (whole.length + 1)).foldlM (fun files count => do
    let place := whole.take count
    if (files.node? place).isSome then pure files else addPlace files place) files

/-- Writes what differs between two pictures. -/
def writeChanges (before after : FileTree) : IO Unit :=
  after.nodes.reverse.forM fun (place, node) => do
    if before.node? place != some node then
      match node with
      | .device .. => pure ()
      | .directory => IO.FS.createDirAll (pathOfPlace place)
      | .file content _ => IO.FS.writeBinFile (pathOfPlace place) ⟨content.toArray⟩

/-- The variables of the environment that a run looks at. -/
def variableNames : List String := ["GIBIND_CONFIG", "CPP", "PKG_CONFIG"]

def readVariables : IO (List (String × String)) := do
  let values ← variableNames.mapM fun name => do
    pure ((← IO.getEnv name).map (name, ·))
  pure (values.filterMap id)

def readInput : IO (List UInt8) := do
  pure (← (← IO.getStdin).readBinToEnd).toList

/-- The paths at which the programs that expand source may be. -/
def programPaths (searchPath : List String) (environment : List (String × String))
    (line : CommandLine) : List String :=
  let named := match line.command.source? with
    | some source => source.preprocessor.toList ++ source.packageConfig.toList
    | none => []
  let names := ["cpp", "pkg-config", "pkgconf"] ++ environment.map (·.2) ++ named
  searchPath.flatMap fun directory => names.map (Path.join directory)

end HeaderBindings

open HeaderBindings

def main (arguments : List String) : IO UInt32 := do
  let environment ← readVariables
  let searchPath := searchDirectories (← IO.getEnv "PATH")
  let home := (← IO.getEnv "HOME").getD ""
  let directory ← IO.currentDir.toBaseIO
  let (current, currentFailure?) : Place × Option FileError := match directory with
    | .ok directory => (Path.components (toString directory), none)
    | .error error => ([], some (fileErrorOf error))
  let empty : FileTree := Toolbox.install { current, nodes := [(["tmp"], .directory)] }
  let line? := (CommandLine.read (environment.lookup "GIBIND_CONFIG") arguments).toOption
  let paths := match line? with
    | some line =>
        [Config.pathIn home, Config.pathIn empty.currentPath] ++ line.paths
          ++ programPaths searchPath environment line
    | none => []
  let files ← paths.foldlM addPath empty
  let input ← if (line?.map (·.command.readsInput)).getD false then readInput else pure []
  let errors ← IO.getStderr
  let report := run
    { files, input, home, searchPath, environment, currentFailure?
      tools := Toolbox.tools { files, searchPath } "/tmp/gibind-source.c"
      terminal := ← errors.isTty
      decode := Config.ofText?
      property := Pattern.property? } arguments
  writeChanges files report.files
  (← IO.getStdout).putStr report.output
  errors.putStr report.errors
  pure report.exitCode.toUInt32
