/-!
Diagnostics as they are shown to a person: the error itself, the context it happened in, and
numbered suggestions for what to try next. Colour adds escape sequences around the two headings and
nothing else.
-/

namespace HeaderBindings

/-- An error with its context lines and suggested fixes, each in the order it is shown. -/
structure Diagnostic where
  message : String
  context : List String := []
  suggestions : List String := []
  deriving DecidableEq

namespace Diagnostic

def error (message : String) : Diagnostic := { message }

/-- A heading, in bold and in the colour with the number `colour` when colours are wanted. -/
def heading (colored : Bool) (colour : String) (title : String) : String :=
  if colored then "\x1b[1;" ++ colour ++ "m" ++ title ++ "\x1b[0m" else title

def contextLine (context : String) : String := "  = " ++ context ++ "\n"

def suggestionLine (number : Nat) (suggestion : String) : String :=
  "  " ++ toString number ++ ". " ++ suggestion ++ "\n"

/-- The suggestions numbered from `number` on. -/
def suggestionLines (number : Nat) : List String → List String
  | [] => []
  | suggestion :: rest => suggestionLine number suggestion :: suggestionLines (number + 1) rest

/-- The help section, which is left out when nothing is suggested. -/
def helpSection (colored : Bool) : List String → List String
  | [] => []
  | suggestions =>
      ("\n" ++ heading colored "32" "help" ++ ": consider:\n") :: suggestionLines 1 suggestions

/-- The diagnostic as text; every line is ended. -/
def format (colored : Bool) (diagnostic : Diagnostic) : String :=
  heading colored "31" "error" ++ ": " ++ diagnostic.message ++ "\n"
    ++ String.join (diagnostic.context.map contextLine)
    ++ String.join (helpSection colored diagnostic.suggestions)

end Diagnostic

end HeaderBindings
