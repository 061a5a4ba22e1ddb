import HeaderBindings.Source.Comments
import HeaderBindings.Source.Extensions
import HeaderBindings.Source.LineMarkers

/-!
Source cleaned of everything that reading declarations has no use for. The steps see the whole text
one after the other: line markers, comments, extension calls, keywords, and last the blanks between
what is left.
-/

namespace HeaderBindings.Source
open Text

/-- The text on one line, without line markers, comments, extension calls and dropped keywords, and
with single spaces between what is left. -/
def clean (source : List Char) : Logged (List Char) := do
  let withoutCalls ← dropExtensions (dropComments (blankMarkers source))
  pure (trim (collapseBlanks (mapWords plainWord withoutCalls)))

end HeaderBindings.Source
