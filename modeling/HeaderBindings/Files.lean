import HeaderBindings.Files.Path
import HeaderBindings.Text.Utf8

/-!
A tree of files, and reading and writing in it. A place in the tree is the list of the names on the
way from the root. A path is followed name by name and link by link, so each directory on the way has
to exist and may have to be searched, also one that is left again by a double dot. What is written to
a device goes elsewhere, and may end in one of the standard streams.
-/

namespace HeaderBindings
open Text

inductive FileError where
  | notFound
  | notProgram
  | permissionDenied
  | alreadyExists
  | notDirectory
  | isDirectory
  | noSpace
  | nameTooLong
  | tooManyLinks
  | zeroInPath
  | zeroInCommand
  | notUtf8
  /-- Any other refusal of the system, with its wording and its number. -/
  | refused (wording : String) (number : Nat)
  deriving DecidableEq

def FileError.message : FileError → String
  | notFound => "No such file or directory (os error 2)"
  | notProgram => "Exec format error (os error 8)"
  | permissionDenied => "Permission denied (os error 13)"
  | alreadyExists => "File exists (os error 17)"
  | notDirectory => "Not a directory (os error 20)"
  | isDirectory => "Is a directory (os error 21)"
  | noSpace => "No space left on device (os error 28)"
  | nameTooLong => "File name too long (os error 36)"
  | tooManyLinks => "Too many levels of symbolic links (os error 40)"
  | zeroInPath => "file name contained an unexpected NUL byte"
  | zeroInCommand => "nul byte found in provided data"
  | notUtf8 => "stream did not contain valid UTF-8"
  | refused wording number => wording ++ " (os error " ++ toString number ++ ")"

/-- A stream that the program itself writes to. -/
inductive StandardStream where
  | output
  | errors
  deriving DecidableEq

/-- What becomes of what is written to a device. -/
inductive Sink where
  | stream (stream : StandardStream)
  | nowhere
  | failing (reason : FileError)
  deriving DecidableEq

/-- What a place in the tree holds. -/
inductive FileNode where
  | directory
  | file (content : List UInt8) (executable : Bool)
  /-- A device, with what is read from it. -/
  | device (content : List UInt8) (sink : Sink)
  deriving DecidableEq

/-- What may be done with a file or a directory. -/
inductive Access where
  | read
  | write
  | search
  deriving DecidableEq

/-- A place in the tree, by the names on the way to it. -/
abbrev Place := List String

/-- A tree of files: the nodes by their places, and the place where relative paths start. The root
is always a directory. -/
structure FileTree where
  current : Place := []
  nodes : List (Place × FileNode) := []
  /-- The links by their places, each with the path that it stands for. -/
  links : List (Place × String) := []
  /-- What the user may not do, and where. -/
  forbidden : List (Place × Access) := []
  deriving DecidableEq

/-- How far names lead: to a place, which may itself hold nothing, or to a link in a directory with
names behind it. -/
inductive Way where
  | place (place : Place)
  | link (directory : Place) (target : String) (rest : List String)
  deriving DecidableEq

namespace FileTree

def currentPath (tree : FileTree) : String := "/" ++ String.intercalate "/" tree.current

def node? (tree : FileTree) (place : Place) : Option FileNode :=
  if place = [] then some .directory else tree.nodes.lookup place

def link? (tree : FileTree) (place : Place) : Option String := tree.links.lookup place

def permits (tree : FileTree) (place : Place) (access : Access) : Bool :=
  !tree.forbidden.contains (place, access)

/-- The tree with a node at a place, in place of what was there. -/
def put (tree : FileTree) (place : Place) (node : FileNode) : FileTree :=
  { tree with nodes := (place, node) :: tree.nodes.filter (·.1 != place) }

def longestName : Nat := 255

/-- How many links are followed for one path. -/
def mostLinks : Nat := 40

/-- The place where a path starts that is given in a directory. -/
def startOf (directory : Place) (path : String) : Place :=
  if Path.isAbsolute path then [] else directory

/-- The place that a name has in a directory. -/
def enter (tree : FileTree) (place : Place) (name : String) : Except FileError Place :=
  match tree.node? place with
  | none => .error .notFound
  | some .directory =>
      if !tree.permits place .search then .error .permissionDenied
      else if name = ".." then .ok place.dropLast
      else if longestName < name.utf8ByteSize then .error .nameTooLong
      else .ok (place ++ [name])
  | some _ => .error .notDirectory

/-- Goes along names up to the first link. A link at the end is a place itself unless it is to be
followed. -/
def walk (tree : FileTree) (followLast : Bool) (place : Place) :
    List String → Except FileError Way
  | [] => .ok (.place place)
  | name :: rest => do
      let next ← tree.enter place name
      match tree.link? next with
      | none => walk tree followLast next rest
      | some target =>
          if rest.isEmpty && !followLast then .ok (.place next)
          else .ok (.link place target rest)

/-- The place that names lead to, over fewer links than the number given. -/
def follow (tree : FileTree) (followLast : Bool) : Nat → Place → List String →
    Except FileError Place
  | 0, _, _ => .error .tooManyLinks
  | links + 1, place, names => do
      match ← tree.walk followLast place names with
      | .place there => .ok there
      | .link directory target rest =>
          follow tree followLast links (startOf directory target)
            (Path.components target ++ rest)

/-- The place that a path names; a link at its end is followed or is the place itself. -/
def placeOf (tree : FileTree) (followLast : Bool) (path : String) : Except FileError Place :=
  if path.isEmpty then .error .notFound
  else if path.toList.contains '\x00' then .error .zeroInPath
  else
    tree.follow followLast (mostLinks + 1) (startOf tree.current path) (Path.components path)

/-- The place that a path leads to. -/
def locate (tree : FileTree) (path : String) : Except FileError Place := tree.placeOf true path

/-- What a path names; it has to be there. -/
def find (tree : FileTree) (path : String) : Except FileError FileNode := do
  let place ← tree.locate path
  match tree.node? place with
  | none => .error .notFound
  | some .directory => .ok .directory
  | some node => if Path.namesDirectory path then .error .notDirectory else .ok node

def contains (tree : FileTree) (path : String) : Bool := (tree.find path).isOk

def isDirectory (tree : FileTree) (path : String) : Bool :=
  match tree.find path with
  | .ok .directory => true
  | _ => false

/-- The standard stream that is written to under a path, if one is. -/
def stream? (tree : FileTree) (path : String) : Option StandardStream :=
  match tree.find path with
  | .ok (.device _ (.stream stream)) => some stream
  | _ => none

def readBytes (tree : FileTree) (path : String) : Except FileError (List UInt8) := do
  let node ← tree.find path
  if !tree.permits (← tree.locate path) .read then .error .permissionDenied
  else
    match node with
    | .directory => .error .isDirectory
    | .file content _ | .device content _ => .ok content

def readText (tree : FileTree) (path : String) : Except FileError String := do
  (decodeUtf8 (← tree.readBytes path)).mapError fun _ => .notUtf8

/-- Makes a new directory in one that is there. -/
def makeDirectory (tree : FileTree) (path : String) : Except FileError FileTree := do
  let place ← tree.placeOf false path
  if (tree.link? place).isSome || (tree.node? place).isSome then .error .alreadyExists
  else if Path.endsWithDot path then .error .notFound
  else if !tree.permits place.dropLast .write then .error .permissionDenied
  else .ok (tree.put place .directory)

/-- Writes over what a place holds. A file keeps its permissions, and a device stays what it is. -/
def overwrite (tree : FileTree) (place : Place) (content : List UInt8) :
    FileNode → Except FileError FileTree
  | .directory => .error .isDirectory
  | .file _ executable => .ok (tree.put place (.file content executable))
  | .device _ (.failing reason) => if content.isEmpty then .ok tree else .error reason
  | .device .. => .ok tree

/-- Makes a new file in a directory that is there. -/
def create (tree : FileTree) (place : Place) (content : List UInt8) : Except FileError FileTree :=
  match tree.node? place.dropLast with
  | none => .error .notFound
  | some .directory =>
      if !tree.permits place.dropLast .write then .error .permissionDenied
      else .ok (tree.put place (.file content false))
  | some _ => .error .notDirectory

/-- Writes a file, a new one or over what is there. -/
def writeBytes (tree : FileTree) (path : String) (content : List UInt8) :
    Except FileError FileTree := do
  let place ← tree.locate path
  match tree.node? place with
  | some .directory => .error .isDirectory
  | some node =>
      if Path.endsWithDot path then .error .notDirectory
      else if Path.namesDirectory path then .error .isDirectory
      else if !tree.permits place .write then .error .permissionDenied
      else tree.overwrite place content node
  | none =>
      if Path.endsWithDot path then .error .notFound
      else if Path.namesDirectory path then .error .isDirectory
      else tree.create place content

/-- The devices that a system has. -/
def standardDevices : List (Place × FileNode) :=
  [(["dev"], .directory),
    (["dev", "null"], .device [] .nowhere),
    (["dev", "full"], .device [] (.failing .noSpace)),
    (["dev", "stdout"], .device [] (.stream .output)),
    (["dev", "stderr"], .device [] (.stream .errors))]

end FileTree

/-- What was to be done with a file when it failed. -/
inductive FileTask where
  | read
  | write
  | makeDirectory
  deriving DecidableEq

inductive FileFailure where
  | file (task : FileTask) (path : String) (reason : FileError)
  | standardInput (reason : FileError)
  | currentDirectory (reason : FileError)
  | temporaryNotMade (reason : FileError)
  | temporaryNotWritten (reason : FileError)
  deriving DecidableEq

def FileFailure.message : FileFailure → String
  | file .read path reason => "failed to read file: " ++ path ++ ": " ++ reason.message
  | file .write path reason => "failed to write file: " ++ path ++ ": " ++ reason.message
  | file .makeDirectory path reason =>
      "failed to create directory: " ++ path ++ ": " ++ reason.message
  | standardInput reason => "failed to read standard input: " ++ reason.message
  | currentDirectory reason => "failed to get current directory: " ++ reason.message
  | temporaryNotMade reason => "failed to create temporary input file: " ++ reason.message
  | temporaryNotWritten reason => "failed to write temporary input file: " ++ reason.message

/-- A change of the files. It may fail, and what was done before the failure stays done. -/
abbrev FileChange (ε α : Type) := ExceptT ε (StateM FileTree) α

namespace FileChange

/-- The change that a single step makes; a step that fails changes nothing. -/
def ofStep {ε : Type} (step : FileTree → Except ε FileTree) : FileChange ε Unit := do
  match step (← get) with
  | .ok tree => set tree
  | .error reason => throw reason

/-- Makes a directory in one that is there, unless there is one already. -/
def makeUnlessThere (path : String) : FileChange FileError Unit :=
  ofStep fun tree =>
    match tree.makeDirectory path with
    | .error reason => if tree.isDirectory path then .ok tree else .error reason
    | made => made

/-- Makes a directory and those on the way to it, `fuel` bounding how many. -/
def makeDirectoriesFrom : Nat → String → FileChange FileError Unit
  | 0, _ => pure ()
  | fuel + 1, path => do
      if path.isEmpty then pure ()
      else
        match (← get).makeDirectory path, Path.parent? path with
        | .error .notFound, some parent =>
            makeDirectoriesFrom fuel parent
            makeUnlessThere path
        | _, _ => makeUnlessThere path

/-- Makes a directory and those on the way to it. The parent of a path is a shorter text. -/
def makeDirectories (path : String) : FileChange FileError Unit :=
  makeDirectoriesFrom (path.length + 1) path

/-- Makes a directory unless the path names something already. -/
def ensureDirectory (path : String) : FileChange FileFailure Unit := do
  if (← get).contains path then pure ()
  else ExceptT.adapt (.file .makeDirectory path) (makeDirectories path)

def ensureParent (path : String) : FileChange FileFailure Unit :=
  match Path.parent? path with
  | some parent => if parent.isEmpty then pure () else ensureDirectory parent
  | none => pure ()

/-- Writes a text to a file and makes the directories on the way to it. -/
def writeText (path content : String) : FileChange FileFailure Unit := do
  ensureParent path
  ofStep fun tree =>
    (tree.writeBytes path (encodeUtf8 content)).mapError (.file .write path)

end FileChange

def FileTree.fileText (tree : FileTree) (path : String) : Except FileFailure String :=
  (tree.readText path).mapError (.file .read path)

def readStandardInput (bytes : List UInt8) : Except FileFailure String :=
  (decodeUtf8 bytes).mapError fun _ => .standardInput .notUtf8

/-- The text of a file, or of the standard input when no path is given or the path stands for it. -/
def fileOrInput (tree : FileTree) (input : List UInt8) : Option String → Except FileFailure String
  | some path => if Path.isStandardInput path then readStandardInput input else tree.fileText path
  | none => readStandardInput input

def givenOrInput (input : List UInt8) : Option String → Except FileFailure String
  | some text => .ok text
  | none => readStandardInput input

end HeaderBindings
