import HeaderBindings.Files

/-!
The simple commands that a script or an invocation can name: each takes its arguments and gives what
it writes and its exit code. Only one of them reads files.
-/

namespace HeaderBindings.Shell
open Text

/-- What a command writes to its two streams, and its exit code. -/
structure Effect where
  output : List UInt8 := []
  errors : List UInt8 := []
  status : Nat := 0
  deriving DecidableEq

/-- A command that only writes text to its output. -/
def printed (text : String) : Effect := { output := encodeUtf8 text }

/-- A command that fails with a message. -/
def complained (message : String) (status : Nat) : Effect :=
  { errors := encodeUtf8 (message ++ "\n"), status }

/-- The number that octal digits write. -/
def octal (digits : List Char) : Nat :=
  digits.foldl (fun value c => value * 8 + (c.toNat - 0x30)) 0

def isOctalDigit (c : Char) : Bool := '0' ≤ c && c ≤ '7'

/-- The byte that a letter stands for behind a backslash. -/
def escapeByte? : Char → Option UInt8
  | 'a' => some 7
  | 'b' => some 8
  | 'f' => some 12
  | 'n' => some 10
  | 'r' => some 13
  | 't' => some 9
  | 'v' => some 11
  | '\\' => some 92
  | _ => none

/-- The bytes of a text in which a backslash escapes bytes, and whether output ends here. With
`zeroLed` an octal number is led by a zero, which does not count. -/
def unescapeFrom (zeroLed : Bool) : Nat → List Char → List UInt8 × Bool
  | _, [] => ([], false)
  | 0, _ :: _ => ([], false)
  | fuel + 1, '\\' :: c :: rest =>
      let further (bytes : List UInt8) (rest : List Char) :=
        let (others, ended) := unescapeFrom zeroLed fuel rest
        (bytes ++ others, ended)
      let digits :=
        if zeroLed then (if c = '0' then rest.take 3 |>.takeWhile isOctalDigit else [])
        else (c :: rest).take 3 |>.takeWhile isOctalDigit
      if zeroLed && c = '0' then further [UInt8.ofNat (octal digits)] (rest.drop digits.length)
      else if !digits.isEmpty then
        further [UInt8.ofNat (octal digits)] ((c :: rest).drop digits.length)
      else if zeroLed && c = 'c' then ([], true)
      else
        match escapeByte? c with
        | some byte => further [byte] rest
        | none => further (encodeUtf8 (String.ofList ['\\', c])) rest
  | fuel + 1, c :: rest =>
      let (others, ended) := unescapeFrom zeroLed fuel rest
      (encodeUtf8 (String.singleton c) ++ others, ended)

/-- The arguments on a line, with escapes replaced if `escapes` is set; `-n` in front leaves the end
of the line out. -/
def echo (escapes : Bool) (arguments : List String) : Effect :=
  let (newline, texts) : String × List String := match arguments with
    | "-n" :: rest => ("", rest)
    | _ => ("\n", arguments)
  let line := String.intercalate " " texts
  if escapes then
    let (bytes, ended) := unescapeFrom true line.length line.toList
    { output := bytes ++ (if ended then [] else encodeUtf8 newline) }
  else printed (line ++ newline)

/-- The bytes of a format with its directives replaced by the arguments, and the arguments left. -/
def formatFrom : Nat → List Char → List String → List UInt8 × List String
  | _, [], arguments => ([], arguments)
  | 0, _ :: _, arguments => ([], arguments)
  | fuel + 1, '%' :: '%' :: rest, arguments =>
      let (bytes, left) := formatFrom fuel rest arguments
      (37 :: bytes, left)
  | fuel + 1, '%' :: directive :: rest, arguments =>
      let argument := arguments.headD ""
      let text :=
        if directive = 's' then encodeUtf8 argument
        else if directive = 'b' then (unescapeFrom true argument.length argument.toList).1
        else if directive = 'c' then encodeUtf8 (String.ofList (argument.toList.take 1))
        else if directive = 'd' || directive = 'i' || directive = 'u' then
          encodeUtf8 (toString (argument.toInt?.getD 0))
        else encodeUtf8 (String.ofList ['%', directive])
      let (bytes, left) := formatFrom fuel rest (arguments.drop 1)
      (text ++ bytes, left)
  | fuel + 1, '\\' :: c :: rest, arguments =>
      let digits := (c :: rest).take 3 |>.takeWhile isOctalDigit
      let count := if digits.isEmpty then 1 else digits.length
      let escape := (unescapeFrom false (count + 1) ('\\' :: (c :: rest).take count)).1
      let (bytes, left) := formatFrom fuel ((c :: rest).drop count) arguments
      (escape ++ bytes, left)
  | fuel + 1, c :: rest, arguments =>
      let (bytes, left) := formatFrom fuel rest arguments
      (encodeUtf8 (String.singleton c) ++ bytes, left)

/-- A format used again and again until no argument is left; `fuel` bounds how often. -/
def formatAll (format : List Char) : Nat → List String → List UInt8
  | 0, _ => []
  | fuel + 1, arguments =>
      let (bytes, left) := formatFrom format.length format arguments
      if left.isEmpty || left.length = arguments.length then bytes
      else bytes ++ formatAll format fuel left

/-- A format with arguments. -/
def printf : List String → Effect
  | [] => complained "printf: usage: printf format [arg ...]" 2
  | format :: arguments =>
      { output := formatAll format.toList (arguments.length + 1) arguments }

/-- The files one after the other. A file that cannot be read is reported and left out. -/
def concatenate (files : FileTree) : List String → Effect
  | [] => {}
  | path :: rest =>
      let others := concatenate files rest
      if path = "-" then others
      else
        match files.readBytes path with
        | .ok content => { others with output := content ++ others.output }
        | .error reason =>
            let wording := (reason.message.splitOn " (os error").headD ""
            { others with
              errors := encodeUtf8 ("cat: " ++ path ++ ": " ++ wording ++ "\n") ++ others.errors
              status := 1 }

/-- The complaint about an option that the arguments in front of a double hyphen hold, if one does. The
only option there is changes nothing. -/
def refusedOption? (name : String) : List String → Option Effect
  | [] => none
  | "--" :: _ => none
  | argument :: rest =>
      let refuse (what : String) : Effect :=
        complained (name ++ ": " ++ what ++ "\nTry '" ++ name ++ " --help' for more information.") 1
      match argument.toList with
      | '-' :: '-' :: _ => some (refuse ("unrecognized option '" ++ argument ++ "'"))
      | '-' :: letters =>
          match letters.find? (· != 'u') with
          | some letter => some (refuse ("invalid option -- '" ++ String.singleton letter ++ "'"))
          | none => refusedOption? name rest
      | _ => refusedOption? name rest

/-- The arguments that are no options. -/
def operands : List String → List String
  | [] => []
  | "--" :: rest => rest
  | argument :: rest =>
      if argument.startsWith "-" && argument != "-" then operands rest else argument :: operands rest

/-- The files that the operands name, one after the other. -/
def cat (files : FileTree) (arguments : List String) : Effect :=
  (refusedOption? "cat" arguments).getD (concatenate files (operands arguments))

/-- Whether two numbers compare as the operator says. -/
def compareNumbers? (operator : String) (left right : Int) : Option Bool :=
  match operator with
  | "-eq" => some (left == right)
  | "-ne" => some (left != right)
  | "-lt" => some (left < right)
  | "-le" => some (left ≤ right)
  | "-gt" => some (left > right)
  | "-ge" => some (left ≥ right)
  | _ => none

/-- Whether a condition holds; none when it is no condition. -/
def condition? (files : FileTree) : List String → Option Bool
  | [] => some false
  | ["!", text] => some (text == "")
  | [text] => some (text != "")
  | ["-n", text] => some (text != "")
  | ["-z", text] => some (text == "")
  | ["-e", path] => some (files.contains path)
  | ["-d", path] => some (files.isDirectory path)
  | ["-f", path] => some (files.contains path && !files.isDirectory path)
  | [left, "=", right] => some (left == right)
  | [left, "!=", right] => some (left != right)
  | ["!", operator, text] => (condition? files [operator, text]).map (!·)
  | ["!", left, operator, right] => (condition? files [left, operator, right]).map (!·)
  | [left, operator, right] =>
      match left.toInt?, right.toInt? with
      | some left, some right => compareNumbers? operator left right
      | _, _ => none
  | _ => none

/-- The exit code that tells whether a condition holds. -/
def test (files : FileTree) (arguments : List String) : Effect :=
  match condition? files arguments with
  | some true => {}
  | some false => { status := 1 }
  | none => complained "test: unexpected operator" 2

/-- A condition between brackets. -/
def bracketTest (files : FileTree) (arguments : List String) : Effect :=
  if arguments.getLast? = some "]" then test files arguments.dropLast
  else complained "[: missing ]" 2

/-- The effect of a command by its name, unless there is no such command. -/
def builtin? (files : FileTree) (escapes : Bool) (name : String) (arguments : List String) :
    Option Effect :=
  match name with
  | "true" | ":" => some {}
  | "false" => some { status := 1 }
  | "echo" => some (echo escapes arguments)
  | "printf" => some (printf arguments)
  | "cat" => some (cat files arguments)
  | "test" => some (test files arguments)
  | "[" => some (bracketTest files arguments)
  | _ => none

end HeaderBindings.Shell
