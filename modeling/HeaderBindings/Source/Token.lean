import HeaderBindings.Text.Blank
import HeaderBindings.Text.Letter
import HeaderBindings.Text.Quoted

/-!
The tokens of a statement: words, the marks that shape a declaration, and every other character on
its own. Blanks separate words and are otherwise ignored. Two or three dots are one ellipsis.
-/

namespace HeaderBindings.Source
open Text

inductive Token where
  | word (name : String)
  | star
  | openParen
  | closeParen
  | openBracket
  | closeBracket
  | comma
  | ellipsis
  | other (c : Char)
  deriving DecidableEq

namespace Token

/-- The token of a character that belongs to no word and is no blank. -/
def ofMark (c : Char) : Token :=
  if c = '*' then star
  else if c = '(' then openParen
  else if c = ')' then closeParen
  else if c = '[' then openBracket
  else if c = ']' then closeBracket
  else if c = ',' then comma
  else other c

/-- The token of the word read so far, given with its last character first, if there is one. -/
def ofWord (word : List Char) : List Token :=
  if word.isEmpty then [] else [.word (String.ofList word.reverse)]

/-- The tokens of the rest of a text, when `pending` holds the characters read of the current word,
the last one first. -/
def readFrom (pending : List Char) : List Char → List Token
  | [] => ofWord pending
  | '.' :: '.' :: '.' :: rest => ofWord pending ++ ellipsis :: readFrom [] rest
  | '.' :: '.' :: rest => ofWord pending ++ ellipsis :: readFrom [] rest
  | c :: rest =>
      if isNameChar c then readFrom (c :: pending) rest
      else if isBlank c then ofWord pending ++ readFrom [] rest
      else ofWord pending ++ ofMark c :: readFrom [] rest

def read (text : List Char) : List Token := readFrom [] text

/-- A token that separates statements into parts, as text. -/
def text : Token → String
  | word name => name
  | star => "*"
  | openParen => "("
  | closeParen => ")"
  | openBracket => "["
  | closeBracket => "]"
  | comma => ","
  | ellipsis => "..."
  | other c => String.singleton c

/-- The token as it is named in the description of a shape. -/
def describe : Token → String
  | word name => "Ident(" ++ quotedText name ++ ")"
  | star => "Star"
  | openParen => "LParen"
  | closeParen => "RParen"
  | openBracket => "LBracket"
  | closeBracket => "RBracket"
  | comma => "Comma"
  | ellipsis => "Ellipsis"
  | other c => "Other(" ++ quotedChar c ++ ")"

end Token

end HeaderBindings.Source
