import HeaderBindings.Pattern
import HeaderBindings.Text.Blank
import HeaderBindings.Text.CaseFold

/-!
The classes of characters that patterns name, and the modes that change what a class, a dot or an
anchor means. A mode is set by a letter in parentheses and holds to the end of the group.
-/

namespace HeaderBindings.Pattern
open Text

/-- The modes in force at a place of a pattern. -/
structure Modes where
  /-- Letter `i`: case is ignored. -/
  ignoreCase : Bool := false
  /-- Letter `m`: `^` and `$` also match at line ends. -/
  lines : Bool := false
  /-- Letter `s`: the dot matches line ends. -/
  dotAll : Bool := false
  /-- Letter `R`: a carriage return is a line end too. -/
  returns : Bool := false
  /-- Letter `x`: blanks and comments in the pattern mean nothing. -/
  spaced : Bool := false
  /-- Letter `u`: classes go beyond ASCII. -/
  unicode : Bool := true
  deriving DecidableEq

/-- A set of characters. -/
abbrev CharTest := Char → Bool

/-- The characters of a test in any case. -/
def anyCase (modes : Modes) (test : CharTest) : CharTest :=
  if !modes.ignoreCase then test
  else if modes.unicode then fun c => test c || (caseVariants c).any test
  else fun c => test c || test c.toUpper || test c.toLower

def exactly (c : Char) : CharTest := (· == c)

def between (first last : Char) : CharTest := fun c => first ≤ c && c ≤ last

/-- Whether a test rejects all bytes that are no character by themselves. Only such a test may be
used outside the Unicode mode. -/
def staysInAscii (test : CharTest) : Bool :=
  (List.range 128).all fun offset => !test (Char.ofNat (128 + offset))

/-- The characters that end a line are not matched by the dot. -/
def dot (modes : Modes) : CharTest := fun c =>
  modes.dotAll || !(c == '\n' || (modes.returns && c == '\r'))

/-- The class named by a letter after a backslash. -/
def letterClass? (modes : Modes) (letter : Char) : Option CharTest :=
  let digit : CharTest := if modes.unicode then isDecimalDigit else Char.isDigit
  let space : CharTest :=
    if modes.unicode then isBlank
    else fun c => c == ' ' || (0x9 ≤ c.toNat && c.toNat ≤ 0xD)
  let word : CharTest := if modes.unicode then isWordChar else isPlainChar
  match letter with
  | 'd' => some digit
  | 'D' => some fun c => !digit c
  | 's' => some space
  | 'S' => some fun c => !space c
  | 'w' => some word
  | 'W' => some fun c => !word c
  | _ => none

/-- A visible ASCII character. -/
def isGraphic (c : Char) : Bool := 0x21 ≤ c.toNat && c.toNat ≤ 0x7E

/-- The class named between colons inside brackets; all its characters are ASCII. -/
def namedClass? : String → Option CharTest
  | "alnum" => some Char.isAlphanum
  | "alpha" => some Char.isAlpha
  | "ascii" => some fun c => c.toNat < 0x80
  | "blank" => some fun c => c == ' ' || c == '\t'
  | "cntrl" => some fun c => c.toNat < 0x20 || c.toNat == 0x7F
  | "digit" => some Char.isDigit
  | "graph" => some isGraphic
  | "lower" => some Char.isLower
  | "print" => some fun c => isGraphic c || c == ' '
  | "punct" => some fun c => isGraphic c && !c.isAlphanum
  | "space" => some fun c => c == ' ' || (0x9 ≤ c.toNat && c.toNat ≤ 0xD)
  | "upper" => some Char.isUpper
  | "word" => some isPlainChar
  | "xdigit" => some fun c => c.isDigit || ('a' ≤ c && c ≤ 'f') || ('A' ≤ c && c ≤ 'F')
  | _ => none

end HeaderBindings.Pattern
