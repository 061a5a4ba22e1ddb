import HeaderBindings.Text.Lines

/-!
The lines by which a preprocessor tells where its output comes from, and directives it left in
place: a number sign after at most spaces and tabs. Each becomes a line with one space.
-/

namespace HeaderBindings.Source
open Text

/-- Whether a line is a line marker or a directive. -/
def isMarkerLine (line : List Char) : Bool :=
  (line.dropWhile fun c => c == ' ' || c == '\t').head? == some '#'

/-- The text with each such line replaced by a space. Lines end at line feeds only. -/
def blankMarkers (source : List Char) : List Char :=
  ['\n'].intercalate
    ((cutAt '\n' source).map fun line => if isMarkerLine line then [' '] else line)

end HeaderBindings.Source
