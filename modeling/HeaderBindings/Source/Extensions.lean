import HeaderBindings.Log
import HeaderBindings.Source.Keywords
import HeaderBindings.Source.Quoting
import HeaderBindings.Text.Blank

/-!
Calls of compiler extensions, such as `__attribute__((unused))`: one of the extension names as a
word of its own, blanks, and a parenthesised list. Each call becomes one space. The names are looked
for everywhere, in literals too; when a call is not closed, it stays in place with all that follows
it.
-/

namespace HeaderBindings.Source
open Text

/-- A text cut in front of a call and in front of the parenthesis that opens its list. -/
structure CallCut where
  before : List Char
  /-- The name and the blanks behind it. -/
  head : List Char
  /-- The rest, which starts with the parenthesis. -/
  list : List Char
  deriving DecidableEq

def isExtensionName (word : List Char) : Bool := extensionNames.contains (String.ofList word)

/-- The rest of the text behind the word it starts with, cut in front of the parenthesis when that
word is the head of a call. -/
def callHead? (text : List Char) : Option (List Char × List Char) :=
  let word := text.takeWhile isWordChar
  let afterWord := text.dropWhile isWordChar
  let list := afterWord.dropWhile isBlank
  if isExtensionName word && list.head? == some '(' then
    some (word ++ afterWord.takeWhile isBlank, list)
  else none

/-- The first call in a text, when `inWord` tells whether the character before it belongs to a
word. -/
def firstCallFrom (inWord : Bool) : List Char → Option CallCut
  | [] => none
  | c :: rest =>
      match if inWord then none else callHead? (c :: rest) with
      | some (head, list) => some ⟨[], head, list⟩
      | none =>
          (firstCallFrom (isWordChar c) rest).map fun cut => { cut with before := c :: cut.before }

def firstCall? (text : List Char) : Option CallCut := firstCallFrom false text

theorem callHead?_append {text head list : List Char} (found : callHead? text = some (head, list)) :
    head ++ list = text := by
  simp only [callHead?] at found
  split at found
  · obtain ⟨rfl, rfl⟩ := Prod.mk.inj (Option.some.inj found)
    simp [List.append_assoc, List.takeWhile_append_dropWhile]
  · simp at found

/-- A cut loses nothing. -/
theorem firstCallFrom_append {inWord : Bool} {text : List Char} {cut : CallCut}
    (found : firstCallFrom inWord text = some cut) : cut.before ++ cut.head ++ cut.list = text := by
  induction text generalizing inWord cut with
  | nil => simp [firstCallFrom] at found
  | cons c rest ih =>
      rw [firstCallFrom] at found
      split at found
      case h_1 head list head_found =>
        obtain rfl := Option.some.inj found
        split at head_found
        · simp at head_found
        · simpa using callHead?_append head_found
      case h_2 =>
        obtain ⟨inner, inner_found, rfl⟩ := Option.map_eq_some_iff.mp found
        simpa using ih inner_found

theorem length_lt_of_firstCall? {text group rest : List Char} {cut : CallCut}
    (found : firstCall? text = some cut)
    (closed : closingGroup? '(' ')' cut.list = some (group, rest)) : rest.length < text.length := by
  have whole := congrArg List.length (firstCallFrom_append found)
  have shorter := length_lt_of_closeFrom closed
  simp only [List.length_append] at whole
  omega

/-- The text with each call replaced by a space, up to the first call that is not closed. -/
def dropExtensions (source : List Char) : Logged (List Char) :=
  match _ : firstCall? source with
  | none => pure source
  | some cut =>
      match _ : closingGroup? '(' ')' cut.list with
      | none => do
          Logged.report (.unbalancedCall (String.ofList cut.head))
          pure source
      | some (_, rest) => do
          let others ← dropExtensions rest
          pure (cut.before ++ ' ' :: others)
termination_by source.length
decreasing_by exact length_lt_of_firstCall? ‹_› ‹_›

end HeaderBindings.Source
