/-!
Cutting a text at a separating character, and its lines. A line ends at a line feed, which may have
one carriage return before it; a text that ends with a line feed has no empty last line.
-/

namespace HeaderBindings.Text

/-- Puts a character in front of the first piece, which is empty when there is none. -/
def consFirst (c : Char) : List (List Char) → List (List Char)
  | [] => [[c]]
  | piece :: pieces => (c :: piece) :: pieces

/-- The pieces of a text between the occurrences of `separator`; one more than there are
occurrences. -/
def cutAt (separator : Char) : List Char → List (List Char)
  | [] => [[]]
  | c :: rest =>
      if c = separator then [] :: cutAt separator rest else consFirst c (cutAt separator rest)

theorem cutAt_ne_nil (separator : Char) (text : List Char) : cutAt separator text ≠ [] := by
  cases text with
  | nil => simp [cutAt]
  | cons c rest =>
      rw [cutAt]
      split
      · simp
      · cases cutAt separator rest <;> simp [consFirst]

/-- The lines of a text, without their ends. A carriage return that no line feed follows belongs to
its line. -/
def lines : List Char → List (List Char)
  | [] => []
  | '\r' :: '\n' :: rest => [] :: lines rest
  | c :: rest => if c = '\n' then [] :: lines rest else consFirst c (lines rest)

end HeaderBindings.Text
