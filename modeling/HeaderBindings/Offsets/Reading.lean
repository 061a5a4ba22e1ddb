import HeaderBindings.Offsets.Declarations
import HeaderBindings.Offsets.Scans
import HeaderBindings.Source.Reading

/-!
Reading all declarations of a header by offsets. The steps are those of reading it character by
character; a fault in any of them ends the whole.
-/

namespace HeaderBindings.Offsets
open Source Text

def readStatement (filter : NameFilter) (statement : List Char) : Attempt Fault Header :=
  if looksLikeFunction statement then do
    match ← attempt (declarationOfTokens (Token.read statement)) with
    | .ok signature =>
        if filter.admits signature.name then do
          Attempt.report (.foundFunction signature.name)
          pure { functions := [signature] }
        else pure {}
    | .error reason => do
        let text := String.ofList statement
        Attempt.report (.skippedStatement text reason.message)
        pure { skipped := [text] }
  else pure {}

def readStatements (filter : NameFilter) : List (List Char) → Attempt Fault Header
  | [] => pure {}
  | statement :: rest => do
      let first ← readStatement filter statement
      let others ← readStatements filter rest
      pure ⟨first.functions ++ others.functions, first.skipped ++ others.skipped⟩

def clean (source : List Char) : Attempt Fault (List Char) := do
  let withoutComments ← attempt (dropComments (blankMarkers source))
  let withoutCalls ← dropExtensions withoutComments
  pure (trim (collapseBlanks (mapWords plainWord withoutCalls)))

def readHeader (filter : NameFilter) (source : String) : Attempt Fault Header := do
  let cleaned ← clean source.toList
  let found ← attempt (statements cleaned)
  readStatements filter found

end HeaderBindings.Offsets
