import HeaderBindings.Text.Lines

/-!
Paths as text. Components are separated by slashes; a path that starts with a slash is absolute.
Taking the parent works on the text, so that what is left keeps the spelling it was given in.
-/

namespace HeaderBindings.Path
open Text

/-- The reversed text of a path without the slashes and dot components it ends with; a path of
nothing but slashes keeps one. -/
def dropTail : List Char → List Char
  | ['/'] => ['/']
  | '/' :: rest => dropTail rest
  | '.' :: '/' :: rest => dropTail ('/' :: rest)
  | rest => rest

/-- The path without its last component; none for the empty path and for the root. -/
def parent? (path : String) : Option String :=
  match dropTail path.toList.reverse with
  | [] => none
  | ['/'] => none
  | reversed => some (String.ofList (dropTail (reversed.dropWhile (· != '/'))).reverse)

def isAbsolute (path : String) : Bool := path.toList.head? == some '/'

/-- A path as seen from a directory. An absolute path stands for itself, an empty directory adds
nothing, and a final slash is not doubled. -/
def join (directory path : String) : String :=
  if isAbsolute path then path
  else if directory.isEmpty || directory.endsWith "/" then directory ++ path
  else directory ++ "/" ++ path

def isStandardInput (path : String) : Bool := dropTail path.toList.reverse == ['-']

/-- The components of a path, without empty ones and dots. -/
def components (path : String) : List String :=
  ((cutAt '/' path.toList).map String.ofList).filter fun piece => piece != "" && piece != "."

def endsWithDot (path : String) : Bool :=
  match path.toList.reverse.dropWhile (· == '/') with
  | ['.'] => true
  | '.' :: '/' :: _ => true
  | _ => false

/-- Whether a path says where to look: it has a slash before its last name or a dot at its start. -/
def hasDirectory (path : String) : Bool :=
  match path.toList with
  | '/' :: _ => true
  | '.' :: '/' :: _ => !(components path).isEmpty
  | _ => 1 < (components path).length

/-- A path seen from a directory, with single slashes and without dots, unless it is absolute
already. -/
def absolute (directory path : String) : String :=
  if isAbsolute path then path else (components path).foldl join directory

/-- Whether a path can only name a directory. -/
def namesDirectory (path : String) : Bool :=
  match path.toList.reverse with
  | '/' :: _ => true
  | ['.'] => true
  | '.' :: '/' :: _ => true
  | ['.', '.'] => true
  | '.' :: '.' :: '/' :: _ => true
  | _ => false

end HeaderBindings.Path
