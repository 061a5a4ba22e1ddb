import HeaderBindings.Text.LetterTable
import HeaderBindings.Text.WordTable

/-!
Classes of characters that make up words. Two of them are close but differ: a name consists of
letters, numbers and underscores, while the word that a keyword must fill entirely consists of word
characters, which include combining marks. On ASCII both are the letters, digits and the
underscore, and no table is read.
-/

namespace HeaderBindings.Text

/-- A character with the property Alphabetic, or of one of the number categories. -/
def isLetterOrNumber (c : Char) : Bool :=
  if c.toNat < 0x80 then c.isAlphanum else withinBoundaries letterBoundaries c.toNat

def isNameChar (c : Char) : Bool := isLetterOrNumber c || c == '_'

/-- A character of a word: alphabetic, a mark, a decimal digit, connecting punctuation or a join
control. -/
def isWordChar (c : Char) : Bool :=
  if c.toNat < 0x80 then c.isAlphanum || c == '_' else withinBoundaries wordBoundaries c.toNat

/-- A decimal digit of any script. -/
def isDecimalDigit (c : Char) : Bool :=
  if c.toNat < 0x80 then c.isDigit else withinBoundaries digitBoundaries c.toNat

/-- A character of a plain name: an ASCII letter, a digit or an underscore. -/
def isPlainChar (c : Char) : Bool := c.isAlphanum || c == '_'

theorem isNameChar_eq_isPlainChar {c : Char} (ascii : c.toNat < 0x80) :
    isNameChar c = isPlainChar c := by
  simp [isNameChar, isLetterOrNumber, isPlainChar, ascii]

theorem isWordChar_eq_isPlainChar {c : Char} (ascii : c.toNat < 0x80) :
    isWordChar c = isPlainChar c := by
  simp [isWordChar, isPlainChar, ascii]

end HeaderBindings.Text
