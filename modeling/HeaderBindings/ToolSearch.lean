import HeaderBindings.Config
import HeaderBindings.Files
import HeaderBindings.Preprocess

/-!
Looking for the programs that expand source. A program is a file that may be run. A name is looked
for in the directories of a search path, and a path of several components is taken as it is. The
environment may name a program to be preferred to the usual ones.
-/

namespace HeaderBindings

namespace ProgramSearch

/-- Whether a path names a file that may be run. -/
def isProgram (files : FileTree) (path : String) : Bool :=
  match files.find path with
  | .ok (.file _ executable) => executable
  | _ => false

/-- The paths at which a program may be. -/
def candidates (files : FileTree) (directories : List String) (name : String) : List String :=
  if Path.hasDirectory name then [Path.absolute files.currentPath name]
  else directories.map (Path.join · name)

def find? (files : FileTree) (directories : List String) (name : String) : Option String :=
  (candidates files directories name).find? (isProgram files)

end ProgramSearch

structure ToolSearch where
  files : FileTree
  directories : List String
  /-- The preferred program for expanding source. -/
  preprocessor : Option String := none
  /-- The preferred program for the flags of packages. -/
  packageConfig : Option String := none
  /-- The path of the program that a name stands for. -/
  find? : String → Option String := ProgramSearch.find? files directories

namespace ToolSearch

/-- The path of the preferred program, or else of the first one found under the other names. -/
def findFirst? (search : ToolSearch) (preferred : Option String) (names : List String) :
    Option String :=
  (preferred.bind search.find?).or (names.findSome? search.find?)

/-- The program that expands source. -/
def preprocessor? (search : ToolSearch) : Option String :=
  search.findFirst? search.preprocessor ["cpp"]

/-- The program that knows the flags of packages. -/
def packageConfig? (search : ToolSearch) : Option String :=
  search.findFirst? search.packageConfig ["pkg-config", "pkgconf"]

end ToolSearch

namespace Config

/-- The package whose flags are asked for when no other is named. -/
def defaultPackage : String := "gobject-introspection-1.0"

/-- How source is expanded. Programs that are neither named nor found go by their usual names. -/
def preprocessOptions (config : Config) (search : ToolSearch) : PreprocessOptions where
  package := some (config.preprocess.package.getD defaultPackage)
  preprocessor := (config.preprocess.preprocessor.or search.preprocessor?).getD "cpp"
  packageConfig := (config.preprocess.packageConfig.or search.packageConfig?).getD "pkg-config"
  flags := config.preprocess.flags

end Config

end HeaderBindings
