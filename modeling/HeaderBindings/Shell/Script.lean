/-!
Scripts of a small shell: commands with quoted words, parameters and redirections, joined in
sequence or by their success, and chosen or repeated by it. A script that uses more of the shell's
language than that has no reading.
-/

namespace HeaderBindings.Shell

inductive WordPart where
  | literal (c : Char)
  /-- The start of a quoted part, which makes a field even if it is empty. -/
  | quote
  | parameter (name : String) (quoted : Bool)
  deriving DecidableEq

/-- A word before its parameters are replaced. -/
abbrev Word := List WordPart

/-- Where what a command writes goes. -/
inductive Stream where
  | output
  | errors
  | nowhere
  deriving DecidableEq

/-- A change of where the streams of a command go. -/
inductive Redirection where
  /-- Everything written to the one goes where the other goes at this point. -/
  | join (source target : Stream)
  /-- Everything written to the stream is dropped. -/
  | drop (source : Stream)
  deriving DecidableEq

inductive Command where
  | nothing
  | simple (words : List Word) (redirections : List Redirection)
  | sequence (first second : Command)
  | andThen (first second : Command)
  | orElse (first second : Command)
  | negated (command : Command)
  | conditional (test thenPart elsePart : Command)
  /-- Repeats the body as long as the test succeeds, or as long as it fails. -/
  | loop (whileSuccess : Bool) (test body : Command)
  /-- Repeats the body for each field of the words. -/
  | forEach (name : String) (words : List Word) (body : Command)
  deriving DecidableEq

/-! ### Words and signs -/

/-- A word, a redirection, or a sign between commands. -/
inductive Lexeme where
  | word (word : Word)
  | redirection (redirection : Redirection)
  | sign (text : String)
  deriving DecidableEq

/-- A character that ends a word. -/
def endsWord (c : Char) : Bool := " \t\n;&|()<>".toList.contains c

/-- A parameter that is not named by a word. -/
def isSpecialParameter (c : Char) : Bool := "#@*?$!-0123456789".toList.contains c

/-- The parameter behind a dollar sign, with the rest; a dollar sign alone stands for itself. -/
def parameterPart (quoted : Bool) (text : List Char) : WordPart × List Char :=
  match text with
  | '\x7b' :: rest =>
      (.parameter (String.ofList (rest.takeWhile (· != '\x7d'))) quoted,
        (rest.dropWhile (· != '\x7d')).drop 1)
  | c :: rest =>
      if isSpecialParameter c then (.parameter (String.singleton c) quoted, rest)
      else if c.isAlpha || c == '_' then
        let isNamePart (c : Char) : Bool := c.isAlphanum || c == '_'
        (.parameter (String.ofList (text.takeWhile isNamePart)) quoted, text.dropWhile isNamePart)
      else (.literal '$', text)
  | [] => (.literal '$', [])

/-- The kinds of quotes around a position of a word. -/
inductive QuoteState where
  | bare
  | single
  | double
  deriving DecidableEq

/-- Reads a word with at most `fuel` steps, and the rest; none when a quote is not closed. -/
def readWord? (state : QuoteState) : Nat → List Char → Option (Word × List Char)
  | 0, _ => none
  | fuel + 1, text =>
      let further (state : QuoteState) (part : WordPart) (rest : List Char) :=
        (readWord? state fuel rest).map fun (word, after) => (part :: word, after)
      match state, text with
      | .bare, [] => some ([], [])
      | _, [] => none
      | .single, c :: rest =>
          if c = '\'' then readWord? .bare fuel rest else further .single (.literal c) rest
      | .double, '"' :: rest => readWord? .bare fuel rest
      | .double, '\\' :: c :: rest =>
          if "\\\"$\n".toList.contains c || c = '\x60' then further .double (.literal c) rest
          else further .double (.literal '\\') (c :: rest)
      | .double, '$' :: rest =>
          let (part, after) := parameterPart true rest
          further .double part after
      | .double, c :: rest => further .double (.literal c) rest
      | .bare, '\'' :: rest => further .single .quote rest
      | .bare, '"' :: rest => further .double .quote rest
      | .bare, '\\' :: c :: rest => further .bare (.literal c) rest
      | .bare, '$' :: rest =>
          let (part, after) := parameterPart false rest
          further .bare part after
      | .bare, c :: rest =>
          if endsWord c then some ([], text) else further .bare (.literal c) rest

/-- The stream with a number. -/
def streamOfDigit? : Char → Option Stream
  | '1' => some .output
  | '2' => some .errors
  | _ => none

/-- The redirection of a stream, behind its angle bracket, with the rest. What goes to a file is
dropped. -/
def redirection? (source : Stream) (fuel : Nat) (text : List Char) :
    Option (Redirection × List Char) :=
  match text with
  | '&' :: c :: rest => (streamOfDigit? c).map fun target => (.join source target, rest)
  | _ =>
      let start := (text.dropWhile (· == '>')).dropWhile fun c => c == ' ' || c == '\t'
      (readWord? .bare fuel start).bind fun (word, rest) =>
        if word.isEmpty then none else some (.drop source, rest)

/-- The words and signs of a script, read with at most `fuel` steps. -/
def lexemes? : Nat → List Char → Option (List Lexeme)
  | 0, _ => none
  | fuel + 1, text =>
      let sign (text : String) (rest : List Char) := (lexemes? fuel rest).map (.sign text :: ·)
      let redirect (source : Stream) (rest : List Char) :=
        (redirection? source fuel rest).bind fun (redirection, after) =>
          (lexemes? fuel after).map (.redirection redirection :: ·)
      match text with
      | [] => some []
      | ' ' :: rest => lexemes? fuel rest
      | '\t' :: rest => lexemes? fuel rest
      | '\\' :: '\n' :: rest => lexemes? fuel rest
      | '#' :: rest => lexemes? fuel (rest.dropWhile (· != '\n'))
      | '\n' :: rest => sign ";" rest
      | ';' :: rest => sign ";" rest
      | '&' :: '&' :: rest => sign "&&" rest
      | '|' :: '|' :: rest => sign "||" rest
      | '>' :: rest => redirect .output rest
      | '1' :: '>' :: rest => redirect .output rest
      | '2' :: '>' :: rest => redirect .errors rest
      | c :: _ =>
          if endsWord c then none
          else
            (readWord? .bare (text.length + 1) text).bind fun (word, rest) =>
              (lexemes? fuel rest).map (.word word :: ·)

/-! ### Commands -/

/-- The text of a word that has neither quotes nor parameters. -/
def plainText? : Word → Option String
  | [] => some ""
  | .literal c :: rest => (plainText? rest).map (String.singleton c ++ ·)
  | _ :: _ => none

def isKeyword (keyword : String) : Lexeme → Bool
  | .word word => plainText? word == some keyword
  | _ => false

/-- The rest behind a keyword that the lexemes have to start with. -/
def behindKeyword? (keyword : String) : List Lexeme → Option (List Lexeme)
  | first :: rest => if isKeyword keyword first then some rest else none
  | [] => none

/-- The words that end a list of commands. -/
def closingKeywords : List String := ["then", "elif", "else", "fi", "do", "done"]

/-- The words and redirections of a simple command, and the rest. -/
def simpleParts : List Lexeme → List Word × List Redirection × List Lexeme
  | .word word :: rest =>
      let (words, redirections, after) := simpleParts rest
      (word :: words, redirections, after)
  | .redirection redirection :: rest =>
      let (words, redirections, after) := simpleParts rest
      (words, redirection :: redirections, after)
  | rest => ([], [], rest)

mutual

/-- The commands up to a closing keyword or the end, and the rest. -/
def commands? : Nat → List Lexeme → Option (Command × List Lexeme)
  | 0, _ => none
  | fuel + 1, lexemes =>
      match lexemes with
      | [] => some (.nothing, [])
      | .sign ";" :: rest => commands? fuel rest
      | first :: _ =>
          if closingKeywords.any (isKeyword · first) then some (.nothing, lexemes)
          else do
            let (command, rest) ← chain? fuel lexemes
            let (others, after) ← commands? fuel rest
            pure (.sequence command others, after)

/-- Commands joined by their success, and the rest. -/
def chain? : Nat → List Lexeme → Option (Command × List Lexeme)
  | 0, _ => none
  | fuel + 1, lexemes => do
      let (first, rest) ← command? fuel lexemes
      chainFrom? fuel first rest

/-- Further commands joined to one by its success, and the rest. -/
def chainFrom? : Nat → Command → List Lexeme → Option (Command × List Lexeme)
  | 0, _, _ => none
  | fuel + 1, first, lexemes =>
      match lexemes with
      | .sign "&&" :: rest => do
          let (second, after) ← command? fuel (rest.dropWhile (· == .sign ";"))
          chainFrom? fuel (.andThen first second) after
      | .sign "||" :: rest => do
          let (second, after) ← command? fuel (rest.dropWhile (· == .sign ";"))
          chainFrom? fuel (.orElse first second) after
      | _ => some (first, lexemes)

/-- One command, and the rest. -/
def command? : Nat → List Lexeme → Option (Command × List Lexeme)
  | 0, _ => none
  | fuel + 1, lexemes =>
      match lexemes with
      | .word word :: rest =>
          match plainText? word with
          | some "!" => do
              let (command, after) ← command? fuel rest
              pure (.negated command, after)
          | some "if" => conditional? fuel rest
          | some "while" => loop? fuel true rest
          | some "until" => loop? fuel false rest
          | some "for" => forEach? fuel rest
          | _ =>
              let (words, redirections, after) := simpleParts lexemes
              some (.simple words redirections, after)
      | .redirection _ :: _ =>
          let (words, redirections, after) := simpleParts lexemes
          some (.simple words redirections, after)
      | _ => none

/-- What follows the keyword of a conditional, and the rest. -/
def conditional? : Nat → List Lexeme → Option (Command × List Lexeme)
  | 0, _ => none
  | fuel + 1, lexemes => do
      let (test, behindTest) ← commands? fuel lexemes
      let (thenPart, rest) ← commands? fuel (← behindKeyword? "then" behindTest)
      match rest with
      | [] => none
      | first :: after =>
          if isKeyword "fi" first then some (.conditional test thenPart .nothing, after)
          else if isKeyword "elif" first then do
            let (elsePart, behind) ← conditional? fuel after
            pure (.conditional test thenPart elsePart, behind)
          else do
            let (elsePart, behind) ← commands? fuel (← behindKeyword? "else" rest)
            pure (.conditional test thenPart elsePart, ← behindKeyword? "fi" behind)

/-- What follows the keyword of a loop, and the rest. -/
def loop? : Nat → Bool → List Lexeme → Option (Command × List Lexeme)
  | 0, _, _ => none
  | fuel + 1, whileSuccess, lexemes => do
      let (test, behindTest) ← commands? fuel lexemes
      let (body, rest) ← commands? fuel (← behindKeyword? "do" behindTest)
      pure (.loop whileSuccess test body, ← behindKeyword? "done" rest)

/-- What follows the keyword of a loop over words, and the rest. -/
def forEach? : Nat → List Lexeme → Option (Command × List Lexeme)
  | 0, _ => none
  | fuel + 1, lexemes =>
      match lexemes with
      | .word name :: behindName => do
          let name ← plainText? name
          let (words, start) := match behindName with
            | first :: rest =>
                if isKeyword "in" first then ((simpleParts rest).1, (simpleParts rest).2.2)
                else ([[.quote, .parameter "@" true]], behindName)
            | [] => ([], [])
          let (body, rest) ←
            commands? fuel (← behindKeyword? "do" (start.dropWhile (· == .sign ";")))
          pure (.forEach name words body, ← behindKeyword? "done" rest)
      | _ => none

end

/-- The commands of a script. Every step of reading them takes a lexeme or goes one level into a
rule, so a few steps for each character are enough. -/
def script? (text : String) : Option Command := do
  let fuel := 8 * text.length + 16
  let (command, rest) ← commands? fuel (← lexemes? fuel text.toList)
  if rest.isEmpty then some command else none

end HeaderBindings.Shell
