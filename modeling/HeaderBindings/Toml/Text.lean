/-!
The smallest parts of TOML: blanks, line ends and comments, and the four kinds of strings. Every
reader takes the text from where it starts and gives the text from where it ends, or nothing when
the text does not have the part.
-/

namespace HeaderBindings.Toml

def isSpace (c : Char) : Bool := c == ' ' || c == '\t'

/-- The text behind blanks. -/
def skipSpaces (text : List Char) : List Char := text.dropWhile isSpace

/-- A character that may stand in a comment, or in a string where nothing else forbids it: no
control but the tab. -/
def isPrintable (c : Char) : Bool := c == '\t' || (0x20 ≤ c.toNat && c.toNat != 0x7F)

/-- The text behind a line end. -/
def lineEnd? : List Char → Option (List Char)
  | '\n' :: rest => some rest
  | '\r' :: '\n' :: rest => some rest
  | _ => none

/-- The text behind a comment, if there is one. -/
def skipComment : List Char → List Char
  | '#' :: rest => rest.dropWhile isPrintable
  | text => text

/-- The text behind the end of a line, which may hold blanks and a comment; the end of the text ends
a line too. -/
def endOfLine? (text : List Char) : Option (List Char) :=
  match skipComment (skipSpaces text) with
  | [] => some []
  | rest => lineEnd? rest

/-- The text behind blanks, comments and line ends, of which there are at most `fuel`. -/
def skipLines : Nat → List Char → List Char
  | 0, text => text
  | fuel + 1, text =>
      match skipSpaces text with
      | '#' :: rest =>
          match lineEnd? (rest.dropWhile isPrintable) with
          | some after => skipLines fuel after
          | none => '#' :: rest
      | start =>
          match lineEnd? start with
          | some after => skipLines fuel after
          | none => start

/-! ### Strings -/

def hexValue? (c : Char) : Option Nat :=
  if c.isDigit then some (c.toNat - 0x30)
  else if 'a' ≤ c && c ≤ 'f' then some (c.toNat - 0x57)
  else if 'A' ≤ c && c ≤ 'F' then some (c.toNat - 0x37)
  else none

/-- The number that exactly `count` hexadecimal digits write behind `value`. -/
def hexNumber? (value : Nat) : Nat → List Char → Option (Nat × List Char)
  | 0, text => some (value, text)
  | _ + 1, [] => none
  | count + 1, c :: rest => (hexValue? c).bind fun digit => hexNumber? (value * 16 + digit) count rest

/-- The character with a code point written in `count` digits. -/
def codePoint? (count : Nat) (text : List Char) : Option (Char × List Char) :=
  (hexNumber? 0 count text).bind fun (code, rest) =>
    if code.isValidChar then some (Char.ofNat code, rest) else none

/-- The character that an escape stands for; the text starts behind the backslash. -/
def escape? : List Char → Option (Char × List Char)
  | 'b' :: rest => some ('\x08', rest)
  | 't' :: rest => some ('\t', rest)
  | 'n' :: rest => some ('\n', rest)
  | 'f' :: rest => some ('\x0c', rest)
  | 'r' :: rest => some ('\r', rest)
  | '"' :: rest => some ('"', rest)
  | '\\' :: rest => some ('\\', rest)
  | 'u' :: rest => codePoint? 4 rest
  | 'U' :: rest => codePoint? 8 rest
  | _ => none

/-- The rest of a string in double quotes, in at most `fuel` steps. -/
def basicString? : Nat → List Char → Option (List Char × List Char)
  | 0, _ => none
  | fuel + 1, text =>
      let further (c : Char) (rest : List Char) :=
        (basicString? fuel rest).map fun (content, after) => (c :: content, after)
      match text with
      | [] => none
      | '"' :: rest => some ([], rest)
      | '\\' :: rest => (escape? rest).bind fun (c, after) => further c after
      | c :: rest => if isPrintable c then further c rest else none

/-- The rest of a string in single quotes. -/
def literalString? (text : List Char) : Option (List Char × List Char) :=
  let content := text.takeWhile fun c => isPrintable c && c != '\''
  match text.drop content.length with
  | '\'' :: rest => some (content, rest)
  | _ => none

/-- The text behind the line end that a string over several lines may start with. -/
def skipFirstLineEnd (text : List Char) : List Char := (lineEnd? text).getD text

/-- Cuts a run of quotes inside a string over several lines: how many of them belong to the content,
and whether the run closes the string. -/
def quoteRun (count : Nat) : Nat × Bool := if count < 3 then (count, false) else (min (count - 3) 2, true)

/-- The rest of a string over several lines between three quotes of the given kind, in at most `fuel`
steps. Escapes count when `escapes` is set; a backslash at the end of a line takes all blanks and
line ends behind it with it. -/
def linesString? (escapes : Bool) (quote : Char) : Nat → List Char → Option (List Char × List Char)
  | 0, _ => none
  | fuel + 1, text =>
      let further (c : List Char) (rest : List Char) :=
        (linesString? escapes quote fuel rest).map fun (content, after) => (c ++ content, after)
      match text with
      | [] => none
      | c :: rest =>
          if c = quote then
            let run := text.takeWhile (· == quote)
            let (kept, closes) := quoteRun run.length
            let content := List.replicate kept quote
            if closes then some (content, text.drop (kept + 3))
            else further content (text.drop kept)
          else if escapes && c = '\\' then
            match lineEnd? (skipSpaces rest) with
            | some after =>
                further [] (after.dropWhile fun c => isSpace c || c == '\n' || c == '\r')
            | none => (escape? rest).bind fun (c, after) => further [c] after
          else
            match lineEnd? text with
            | some after => further ['\n'] after
            | none => if isPrintable c then further [c] rest else none

def string? (text : List Char) : Option (String × List Char) :=
  let fuel := text.length + 1
  let content := match text with
    | '"' :: '"' :: '"' :: rest => linesString? true '"' fuel (skipFirstLineEnd rest)
    | '"' :: rest => basicString? fuel rest
    | '\'' :: '\'' :: '\'' :: rest => linesString? false '\'' fuel (skipFirstLineEnd rest)
    | '\'' :: rest => literalString? rest
    | _ => none
  content.map fun (content, rest) => (String.ofList content, rest)

/-! ### Keys -/

def isBareKeyChar (c : Char) : Bool := c.isAlphanum || c == '_' || c == '-'

def keyPart? (text : List Char) : Option (String × List Char) :=
  match text with
  | '"' :: rest => (basicString? text.length rest).map fun (part, after) => (String.ofList part, after)
  | '\'' :: rest => (literalString? rest).map fun (part, after) => (String.ofList part, after)
  | _ =>
      let part := text.takeWhile isBareKeyChar
      if part.isEmpty then none else some (String.ofList part, text.drop part.length)

/-- The parts of a key, joined by dots, in at most `fuel` steps; blanks around them are skipped. -/
def keyParts? : Nat → List Char → Option (List String × List Char)
  | 0, _ => none
  | fuel + 1, text =>
      (keyPart? (skipSpaces text)).bind fun (part, rest) =>
        match skipSpaces rest with
        | '.' :: after => (keyParts? fuel after).map fun (parts, behind) => (part :: parts, behind)
        | behind => some ([part], behind)

/-- The deepest nesting of tables and arrays. -/
def deepest : Nat := 80

/-- A key of fewer parts than the deepest nesting. -/
def key? (text : List Char) : Option (List String × List Char) :=
  (keyParts? (text.length + 1) text).bind fun (parts, rest) =>
    if parts.length < deepest then some (parts, rest) else none

end HeaderBindings.Toml
