import HeaderBindings.Text.Boundaries

/-!
Blanks, in the sense of the character property White_Space, and what is done with them: trimming a
text, splitting it into the words between blanks, and collapsing every run of blanks to one space.
-/

namespace HeaderBindings.Text

/-- The characters with the property White_Space. -/
def isBlank (c : Char) : Bool :=
  withinBoundaries
    [0x9, 0xE, 0x20, 0x21, 0x85, 0x86, 0xA0, 0xA1, 0x1680, 0x1681, 0x2000, 0x200B, 0x2028, 0x202A,
     0x202F, 0x2030, 0x205F, 0x2060, 0x3000, 0x3001] c.toNat

/-- The text without the blanks it starts with. -/
def trimStart (text : List Char) : List Char := text.dropWhile isBlank

/-- The text without the blanks it ends with. -/
def trimEnd (text : List Char) : List Char := (trimStart text.reverse).reverse

/-- The text without the blanks around it. -/
def trim (text : List Char) : List Char := trimEnd (trimStart text)

/-- The words of a text, which are its longest runs of characters that are not blank. `word` holds
the characters read of the current word, the last one first. -/
def wordsFrom (word : List Char) : List Char → List (List Char)
  | [] => if word.isEmpty then [] else [word.reverse]
  | c :: rest =>
      if isBlank c then
        if word.isEmpty then wordsFrom [] rest else word.reverse :: wordsFrom [] rest
      else wordsFrom (c :: word) rest

def words (text : List Char) : List (List Char) := wordsFrom [] text

/-- The text with every run of blanks replaced by one space, when `afterBlank` tells whether the
character before it was a blank. -/
def collapseFrom (afterBlank : Bool) : List Char → List Char
  | [] => []
  | c :: rest =>
      if isBlank c then
        if afterBlank then collapseFrom true rest else ' ' :: collapseFrom true rest
      else c :: collapseFrom false rest

/-- The text with every run of blanks replaced by one space. -/
def collapseBlanks (text : List Char) : List Char := collapseFrom false text

end HeaderBindings.Text
