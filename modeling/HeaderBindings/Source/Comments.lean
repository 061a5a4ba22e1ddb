import HeaderBindings.Source.Quoting

/-!
Comments of C source. Each becomes one space; literals and all other text stay as they are, and the
line feed behind a line comment stays too. A comment that does not end goes on to the end of the
text.
-/

namespace HeaderBindings.Source

/-- What a position belongs to. -/
inductive Region where
  /-- Code or a literal. -/
  | text (state : Quoting)
  | blockComment
  | lineComment
  deriving DecidableEq

/-- The text without comments from a position on. -/
def dropCommentsFrom : Region → List Char → List Char
  | .text .code, '/' :: '*' :: rest => ' ' :: dropCommentsFrom .blockComment rest
  | .text .code, '/' :: '/' :: rest => ' ' :: dropCommentsFrom .lineComment rest
  | .text state, c :: rest => c :: dropCommentsFrom (.text (state.step c)) rest
  | .blockComment, '*' :: '/' :: rest => dropCommentsFrom (.text .code) rest
  | .blockComment, _ :: rest => dropCommentsFrom .blockComment rest
  | .lineComment, '\n' :: rest => '\n' :: dropCommentsFrom (.text .code) rest
  | .lineComment, _ :: rest => dropCommentsFrom .lineComment rest
  | _, [] => []

/-- The text with each comment replaced by a space. -/
def dropComments (source : List Char) : List Char := dropCommentsFrom (.text .code) source

end HeaderBindings.Source
