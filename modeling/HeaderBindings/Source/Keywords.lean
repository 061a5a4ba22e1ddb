import HeaderBindings.Text.Letter

/-!
The words of C that reading declarations has to know, and changing a text word by word. A word is a
longest run of word characters, so a keyword inside a longer name is not found.
-/

namespace HeaderBindings.Source
open Text

/-- The words of the builtin types; the last word of a parameter is not its name if it is one of
these. -/
def typeKeywords : List String :=
  ["void", "char", "short", "int", "long", "float", "double", "signed", "unsigned", "_Bool", "bool",
   "_Complex"]

/-- The qualifiers that are kept on named types. -/
def qualifierKeywords : List String := ["const", "volatile"]

/-- The words in front of a tag name, which are dropped. -/
def tagKeywords : List String := ["struct", "union", "enum"]

/-- The words that say nothing about the shape of a declaration. -/
def droppedKeywords : List String :=
  ["extern", "static", "inline", "__inline", "__inline__", "register", "_Noreturn", "_Thread_local",
   "__extension__", "__restrict", "__restrict__", "restrict"]

/-- The names of compiler extensions that are written like calls. -/
def extensionNames : List String :=
  ["__attribute__", "__attribute", "__asm__", "__asm", "asm", "__declspec"]

/-- Whether a word belongs to the notation of types, so that it is never a name. -/
def isTypeWord (word : String) : Bool :=
  typeKeywords.contains word || qualifierKeywords.contains word || tagKeywords.contains word

/-- A word as it is read: a dropped keyword becomes a space, and `__const` is `const`. -/
def plainWord (word : List Char) : List Char :=
  if droppedKeywords.contains (String.ofList word) then [' ']
  else if word = "__const".toList then "const".toList
  else word

/-- Replaces each word of a text, when `word` holds the characters read of the current word, the
last one first. -/
def mapWordsFrom (f : List Char → List Char) (word : List Char) : List Char → List Char
  | [] => if word.isEmpty then [] else f word.reverse
  | c :: rest =>
      if isWordChar c then mapWordsFrom f (c :: word) rest
      else (if word.isEmpty then [] else f word.reverse) ++ c :: mapWordsFrom f [] rest

/-- The text with `f` applied to each of its words. -/
def mapWords (f : List Char → List Char) (text : List Char) : List Char := mapWordsFrom f [] text

end HeaderBindings.Source
