import HeaderBindings.Source.Cleaned
import HeaderBindings.Source.Declaration
import HeaderBindings.Source.Statements

/-!
Reading all declarations of a header. A statement that does not look like a function is passed over
silently; one that does and cannot be read is listed as skipped. Filters select among the functions
that were read and have no influence on what is skipped.
-/

namespace HeaderBindings

/-- Which functions are wanted, by name. -/
structure NameFilter where
  /-- The only ones wanted, unless the list is empty. -/
  included : List String := []
  /-- The ones not wanted, even if they are included. -/
  excluded : List String := []
  /-- A condition that the name has to meet. -/
  accepts : Option (String → Bool) := none

def NameFilter.admits (filter : NameFilter) (name : String) : Bool :=
  !filter.excluded.contains name
    && (match filter.accepts with
        | some accepts => accepts name
        | none => true)
    && (filter.included.isEmpty || filter.included.contains name)

namespace Source

/-- Whether a statement may declare a function: it has a parenthesis, and neither a brace group nor
an initial value, and is no definition of a type. -/
def looksLikeFunction (statement : List Char) : Bool :=
  statement.contains '(' && !statement.contains '\x7b'
    && !"typedef ".toList.isPrefixOf statement && !statement.contains '='

def readStatement (filter : NameFilter) (statement : List Char) : Logged Header :=
  if looksLikeFunction statement then
    match declaration statement with
    | .ok signature =>
        if filter.admits signature.name then do
          Logged.report (.foundFunction signature.name)
          pure { functions := [signature] }
        else pure {}
    | .error reason => do
        let text := String.ofList statement
        Logged.report (.skippedStatement text reason.message)
        pure { skipped := [text] }
  else pure {}

def readStatements (filter : NameFilter) : List (List Char) → Logged Header
  | [] => pure {}
  | statement :: rest => do
      let first ← readStatement filter statement
      let others ← readStatements filter rest
      pure ⟨first.functions ++ others.functions, first.skipped ++ others.skipped⟩

/-- The declarations in a text. -/
def readHeader (filter : NameFilter) (source : String) : Logged Header := do
  let cleaned ← clean source.toList
  readStatements filter (statements cleaned)

end Source

end HeaderBindings
