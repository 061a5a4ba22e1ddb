import HeaderBindings.Pattern.CharClass

/-!
The escapes of patterns, which start with a backslash: characters by name or by code point, classes,
and anchors. In the spaced mode blanks and comments may stand between the parts of an escape.
-/

namespace HeaderBindings.Pattern
open Text

/-- What an escape stands for. -/
inductive Element where
  | literal (c : Char)
  | charClass (test : CharTest)
  | anchor (condition : Anchor)

/-- The text behind blanks and comments, when `inComment` tells whether it starts in a comment. -/
def skipSpaced (inComment : Bool) : List Char → List Char
  | [] => []
  | c :: rest =>
      if inComment then skipSpaced (c != '\n') rest
      else if isBlank c then skipSpaced false rest
      else if c = '#' then skipSpaced true rest
      else c :: rest

/-- The text behind what means nothing in these modes. -/
def skip (modes : Modes) (text : List Char) : List Char :=
  if modes.spaced then skipSpaced false text else text

/-- The characters that a test accepts at the start of a text, at most `fuel` of them, and the rest;
what means nothing may follow each. -/
def takeSpaced (modes : Modes) (accepts : CharTest) : Nat → List Char → List Char × List Char
  | fuel + 1, c :: rest =>
      if accepts c then
        let (taken, after) := takeSpaced modes accepts fuel (skip modes rest)
        (c :: taken, after)
      else ([], c :: rest)
  | _, text => ([], text)

def isHexDigit (c : Char) : Bool :=
  c.isDigit || ('a' ≤ c && c ≤ 'f') || ('A' ≤ c && c ≤ 'F')

def digitValue (c : Char) : Nat :=
  if c.isDigit then c.toNat - 0x30 else if c.isLower then c.toNat - 0x57 else c.toNat - 0x37

/-- The number that digits write in a base. -/
def numberOfDigits (base : Nat) (digits : List Char) : Nat :=
  digits.foldl (fun value c => value * base + digitValue c) 0

/-- The character with a code point that hexadecimal digits write. -/
def charOfHex? (digits : List Char) : Option Char :=
  let code := numberOfDigits 16 digits
  if !digits.isEmpty && code.isValidChar then some (Char.ofNat code) else none

/-- A character by code point: a fixed number of digits, or any number of them in braces. The text
starts behind the letter. -/
def hexElement? (modes : Modes) (digitCount : Nat) (text : List Char) :
    Option (Element × List Char) :=
  match skip modes text with
  | '\x7b' :: rest =>
      match takeSpaced modes isHexDigit rest.length (skip modes rest) with
      | (digits, '\x7d' :: after) => (charOfHex? digits).map fun c => (.literal c, after)
      | _ => none
  | start =>
      let (digits, after) := takeSpaced modes isHexDigit digitCount start
      if digits.length = digitCount then
        (charOfHex? digits).bind fun c =>
          if !modes.unicode && digitCount = 2 && 0x80 ≤ c.toNat then none
          else some (.literal c, after)
      else none

/-- The characters that mean something outside brackets or inside. -/
def isMeta (c : Char) : Bool := "\\.+*?()|[]\x7b\x7d^$#&-~".toList.contains c

/-- The characters that stand for themselves after a backslash: all ASCII characters but letters,
digits and angle brackets. -/
def isEscapable (c : Char) : Bool :=
  isMeta c || (c.toNat < 0x80 && !c.isAlphanum && c != '<' && c != '>')

/-- The characters with a letter of their own. -/
def namedChar? : Char → Option Char
  | 'a' => some '\x07'
  | 'f' => some '\x0c'
  | 't' => some '\t'
  | 'n' => some '\n'
  | 'r' => some '\r'
  | 'v' => some '\x0b'
  | _ => none

/-- The anchors with a letter or sign of their own. -/
def namedAnchor? (modes : Modes) : Char → Option Anchor
  | 'A' => some .textStart
  | 'z' => some .textEnd
  | 'b' => some (.wordBoundary !modes.unicode)
  | 'B' => some (.insideOrOutsideWord !modes.unicode)
  | '<' => some (.wordStart !modes.unicode)
  | '>' => some (.wordEnd !modes.unicode)
  | _ => none

/-- The half of a word boundary that is named in braces. -/
def boundaryNamed? (modes : Modes) : String → Option Anchor
  | "start" => some (.wordStart !modes.unicode)
  | "end" => some (.wordEnd !modes.unicode)
  | "start-half" => some (.notAfterWord !modes.unicode)
  | "end-half" => some (.notBeforeWord !modes.unicode)
  | _ => none

/-- A character of the name of a half boundary. -/
def isBoundaryNameChar (c : Char) : Bool := c.isAlpha || c == '-'

/-- What follows the letter of a word boundary: the name of a half in braces, if the braces hold no
number of repetitions. -/
def boundaryElement? (modes : Modes) (text : List Char) : Option (Element × List Char) :=
  match text with
  | '\x7b' :: rest =>
      match skip modes rest with
      | [] => none
      | first :: others =>
          if isBoundaryNameChar first then
            match takeSpaced modes isBoundaryNameChar rest.length (first :: others) with
            | (name, '\x7d' :: after) =>
                (boundaryNamed? modes (String.ofList name)).map (.anchor ·, after)
            | _ => none
          else some (.anchor (.wordBoundary !modes.unicode), text)
  | _ => some (.anchor (.wordBoundary !modes.unicode), text)

/-- The name in a Unicode class, in braces or of one letter, and the rest. -/
def propertyName? (modes : Modes) (text : List Char) : Option (String × List Char) :=
  match skip modes text with
  | '\x7b' :: rest =>
      match takeSpaced modes (· != '\x7d') rest.length (skip modes rest) with
      | (name, '\x7d' :: after) => some (String.ofList name, after)
      | _ => none
  | '\\' :: _ => none
  | letter :: rest => some (String.singleton letter, skip modes rest)
  | [] => none

/-- What an escape stands for and the rest; the text starts behind the backslash. `property` gives
the Unicode classes by name. -/
def escape? (property : String → Option CharTest) (modes : Modes) :
    List Char → Option (Element × List Char)
  | [] => none
  | c :: rest =>
      if c.isDigit then none
      else if c = 'x' then hexElement? modes 2 rest
      else if c = 'u' then hexElement? modes 4 rest
      else if c = 'U' then hexElement? modes 8 rest
      else if c = 'p' || c = 'P' then
        if !modes.unicode then none
        else
          (propertyName? modes rest).bind fun (name, after) =>
            (property name).map fun test =>
              (.charClass (if c = 'P' then fun d => !test d else test), after)
      else if c = 'b' then boundaryElement? modes rest
      else
        match letterClass? modes c with
        | some test => some (.charClass test, rest)
        | none =>
            if isEscapable c then some (.literal c, rest)
            else
              match namedChar? c, namedAnchor? modes c with
              | some named, _ => some (.literal named, rest)
              | none, some condition => some (.anchor condition, rest)
              | none, none => none

end HeaderBindings.Pattern
