import HeaderBindings.Text.Lines
import HeaderBindings.Text.Letter
import HeaderBindings.Text.LetterCase

/-!
Names in the generated source: the casings built from words joined by underscores, the removal of a
literal prefix, and the quoting of a name that is not a plain identifier. Both casings drop every
underscore; they differ in that the pascal case also lowers the letters inside a word.
-/

namespace HeaderBindings.Identifier
open Text

/-- The word with its first character in upper case and the others in lower case. -/
def capitalizeChars : List Char → List Char
  | [] => []
  | first :: rest => upperCase first ++ rest.flatMap lowerCase

/-- The words between underscores, each capitalized, without the underscores. -/
def pascalChars (text : List Char) : List Char := (cutAt '_' text).flatMap capitalizeChars

/-- The text without underscores and with the character after each in upper case, when `pending`
tells whether an underscore came just before. -/
def camelFrom (pending : Bool) : List Char → List Char
  | [] => []
  | c :: rest =>
      if c = '_' then camelFrom true rest
      else if pending then upperCase c ++ camelFrom false rest
      else c :: camelFrom false rest

def camelChars (text : List Char) : List Char := camelFrom false text

/-- What follows `start` in a text that begins with it. -/
def remainder? : List Char → List Char → Option (List Char)
  | [], text => some text
  | _ :: _, [] => none
  | s :: start, c :: text => if s = c then remainder? start text else none

theorem remainder?_eq_some_iff {start text rest : List Char} :
    remainder? start text = some rest ↔ text = start ++ rest := by
  induction start generalizing text with
  | nil => simp [remainder?, eq_comm]
  | cons s start ih =>
      cases text with
      | nil => simp [remainder?]
      | cons c text =>
          by_cases same : s = c
          · simp [remainder?, same, ih]
          · simp [remainder?, same, Ne.symm same]

/-- An ASCII letter or an underscore, then ASCII letters, digits and underscores. -/
def isPlainChars : List Char → Bool
  | [] => false
  | first :: rest => (first.isAlpha || first == '_') && rest.all isPlainChar

def capitalize (word : String) : String := String.ofList (capitalizeChars word.toList)

def pascalCase (name : String) : String := String.ofList (pascalChars name.toList)

def camelCase (name : String) : String := String.ofList (camelChars name.toList)

/-- The name without the first of the prefixes that it starts with, or unchanged if it starts with
none of them. -/
def stripFirst (prefixes : List String) (name : String) : String :=
  match prefixes.findSome? fun start => remainder? start.toList name.toList with
  | some rest => String.ofList rest
  | none => name

/-- Whether the name can stand in the generated source without quotes. -/
def isPlain (name : String) : Bool := isPlainChars name.toList

/-- The name as it stands in the generated source: quoted unless it is plain. -/
def escape (name : String) : String := if isPlain name then name else "@\"" ++ name ++ "\""

end HeaderBindings.Identifier
