import HeaderBindings.Pattern.CharClass
import HeaderBindings.Text.CategoryTable
import HeaderBindings.Text.ScriptTable

/-!
Classes of characters by the names of Unicode properties: general categories and groups of them,
scripts, and a few properties that a character has or has not. Names are compared without case,
blanks, hyphens and underscores, and a leading "is" does not count. A name may be given with its kind,
as in `script=Greek` or `gc!=L`.
-/

namespace HeaderBindings.Pattern
open Text

/-- A name as it is compared: without case, separators and a leading "is". -/
def comparableName (name : String) : String :=
  let letters := (name.toList.filter fun c => c.toNat < 0x80).map Char.toLower
  let bare (cs : List Char) := cs.filter fun c => c != ' ' && c != '_' && c != '-'
  match letters with
  | 'i' :: 's' :: rest =>
      let stripped := bare rest
      String.ofList (if stripped = ['c'] then ['i', 's', 'c'] else stripped)
  | _ => String.ofList (bare letters)

/-! ### General categories -/

/-- The longer names of categories and of groups of them, with the short names. -/
def categoryNames : List (String × String) :=
  [("uppercaseletter", "lu"), ("lowercaseletter", "ll"), ("titlecaseletter", "lt"),
   ("modifierletter", "lm"), ("otherletter", "lo"), ("nonspacingmark", "mn"),
   ("spacingmark", "mc"), ("enclosingmark", "me"), ("decimalnumber", "nd"), ("digit", "nd"),
   ("letternumber", "nl"), ("othernumber", "no"), ("connectorpunctuation", "pc"),
   ("dashpunctuation", "pd"), ("openpunctuation", "ps"), ("closepunctuation", "pe"),
   ("initialpunctuation", "pi"), ("finalpunctuation", "pf"), ("otherpunctuation", "po"),
   ("mathsymbol", "sm"), ("currencysymbol", "sc"), ("modifiersymbol", "sk"), ("othersymbol", "so"),
   ("spaceseparator", "zs"), ("lineseparator", "zl"), ("paragraphseparator", "zp"),
   ("control", "cc"), ("cntrl", "cc"), ("format", "cf"), ("surrogate", "cs"),
   ("privateuse", "co"), ("unassigned", "cn"), ("letter", "l"), ("casedletter", "lc"),
   ("mark", "m"), ("combiningmark", "m"), ("number", "n"), ("punctuation", "p"), ("punct", "p"),
   ("symbol", "s"), ("separator", "z"), ("other", "c")]

/-- Whether a character has one of the categories whose short names start with a letter or are the
name. -/
def hasCategory (name : String) : CharTest := fun c =>
  categoryRuns.any fun entry =>
    (entry.1.toLower == name || String.ofList (entry.1.toList.take 1) == name.toUpper)
      && withinRuns entry.2 c.toNat

def isAssigned : CharTest := fun c => categoryRuns.any fun entry => withinRuns entry.2 c.toNat

/-- The class of a general category or a group of them, by its comparable name. -/
def category? (name : String) : Option CharTest :=
  let short := (categoryNames.lookup name).getD name
  match short with
  | "any" => some fun _ => true
  | "assigned" => some isAssigned
  | "ascii" => some fun c => c.toNat < 0x80
  | "cn" => some fun c => !isAssigned c
  | "cs" => some fun _ => false
  | "c" => some fun c => hasCategory "c" c || !isAssigned c
  | "lc" => some fun c => hasCategory "lu" c || hasCategory "ll" c || hasCategory "lt" c
  | _ =>
      if ["l", "m", "n", "p", "s", "z"].contains short
          || categoryRuns.any (·.1.toLower == short) then
        some (hasCategory short)
      else none

/-! ### Scripts and other properties -/

/-- The class of a script, by its comparable name. -/
def script? (name : String) : Option CharTest :=
  (scriptRuns.find? (·.1.contains name)).map fun entry => fun c => withinRuns entry.2 c.toNat

/-- The letters in upper case that are no letters by category. -/
def uppercaseRuns : List CodeRun :=
  [⟨0x2160, 0x216F, 1⟩, ⟨0x24B6, 0x24CF, 1⟩, ⟨0x1F130, 0x1F149, 1⟩, ⟨0x1F150, 0x1F169, 1⟩,
   ⟨0x1F170, 0x1F189, 1⟩]

/-- The letters in lower case that have another category. -/
def lowercaseRuns : List CodeRun :=
  [⟨0xAA, 0xAA, 1⟩, ⟨0xBA, 0xBA, 1⟩, ⟨0x2B0, 0x2B8, 1⟩, ⟨0x2C0, 0x2C1, 1⟩, ⟨0x2E0, 0x2E4, 1⟩,
   ⟨0x345, 0x345, 1⟩, ⟨0x37A, 0x37A, 1⟩, ⟨0x10FC, 0x10FC, 1⟩, ⟨0x1D2C, 0x1D6A, 1⟩,
   ⟨0x1D78, 0x1D78, 1⟩, ⟨0x1D9B, 0x1DBF, 1⟩, ⟨0x2071, 0x2071, 1⟩, ⟨0x207F, 0x207F, 1⟩,
   ⟨0x2090, 0x209C, 1⟩, ⟨0x2170, 0x217F, 1⟩, ⟨0x24D0, 0x24E9, 1⟩, ⟨0x2C7C, 0x2C7D, 1⟩,
   ⟨0xA69C, 0xA69D, 1⟩, ⟨0xA770, 0xA770, 1⟩, ⟨0xA7F2, 0xA7F4, 1⟩, ⟨0xA7F8, 0xA7F9, 1⟩,
   ⟨0xAB5C, 0xAB5F, 1⟩, ⟨0xAB69, 0xAB69, 1⟩, ⟨0x10780, 0x10780, 1⟩, ⟨0x10783, 0x10785, 1⟩,
   ⟨0x10787, 0x107B0, 1⟩, ⟨0x107B2, 0x107BA, 1⟩, ⟨0x1E030, 0x1E06D, 1⟩]

/-- A letter in the wide sense: what counts as a letter or number without being a number by category. -/
def isAlphabetic : CharTest := fun c =>
  isLetterOrNumber c && !hasCategory "nd" c && !hasCategory "no" c

/-- The class of a property that a character has or has not, by its comparable name. -/
def flag? : String → Option CharTest
  | "alphabetic" | "alpha" => some isAlphabetic
  | "uppercase" | "upper" =>
      some fun c => hasCategory "lu" c || withinRuns uppercaseRuns c.toNat
  | "lowercase" | "lower" =>
      some fun c => hasCategory "ll" c || withinRuns lowercaseRuns c.toNat
  | "whitespace" | "wspace" | "space" => some isBlank
  | "asciihexdigit" | "ahex" => namedClass? "xdigit"
  | _ => none

/-! ### Names with and without a kind -/

/-- The class of a name without a kind. -/
def plainProperty? (name : String) : Option CharTest :=
  ((flag? name).or (category? name)).or (script? name)

/-- The class of a name of a kind. -/
def kindProperty? (kind name : String) : Option CharTest :=
  match kind with
  | "generalcategory" | "gc" => category? name
  | "script" | "sc" => script? name
  | _ => none

/-- The class that a text in braces names. An equals sign or a colon stands between kind and name; an
exclamation mark in front of the equals sign negates the class. -/
def property? (text : String) : Option CharTest :=
  match text.splitOn "!=" with
  | kind :: value :: more =>
      (kindProperty? (comparableName kind)
        (comparableName (String.intercalate "!=" (value :: more)))).map fun test c => !test c
  | _ =>
      let chars := text.toList
      let separator := if chars.contains ':' then ':' else '='
      match chars.dropWhile (· != separator) with
      | _ :: value =>
          kindProperty? (comparableName (String.ofList (chars.takeWhile (· != separator))))
            (comparableName (String.ofList value))
      | [] => plainProperty? (comparableName text)

end HeaderBindings.Pattern
