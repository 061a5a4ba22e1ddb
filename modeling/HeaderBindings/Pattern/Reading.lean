import HeaderBindings.Pattern.Brackets

/-!
Reading a pattern from its text. Alternatives are separated by bars and grouped by parentheses; a
group may have a name, or set modes that hold up to its end. A text that is no pattern has none:
groups and classes have to be closed, a repetition needs something to repeat and a range of counts
that is not empty, and conditions on the text around a match are not supported.
-/

namespace HeaderBindings.Pattern
open Text

/-- What has been read of a group: the modes in force, the alternatives that are complete, and the
parts of the current one, the last part first. A part that only set modes is none, since it cannot
be repeated. -/
structure GroupScan where
  modes : Modes
  alternatives : List Pattern := []
  parts : List (Option Pattern) := []

namespace GroupScan

def add (scan : GroupScan) (part : Pattern) : GroupScan :=
  { scan with parts := some part :: scan.parts }

def alternative (scan : GroupScan) : Pattern :=
  scan.parts.foldl (fun rest part => match part with
    | some part => .sequence part rest
    | none => rest) .nothing

/-- The scan behind a bar. -/
def nextAlternative (scan : GroupScan) : GroupScan :=
  { scan with alternatives := scan.alternatives ++ [scan.alternative], parts := [] }

def result (scan : GroupScan) : Pattern :=
  scan.alternatives.foldr .choice scan.alternative

/-- The scan with the last part repeated. -/
def repeatLast? (scan : GroupScan) (least : Nat) (most : Option Nat) : Option GroupScan :=
  match scan.parts with
  | some part :: others =>
      some { scan with parts := some (.repeated part least most) :: others }
  | _ => none

end GroupScan

def isModeLetter (c : Char) : Bool := "imsURux".toList.contains c

/-- The modes with the one of a letter switched on or off. The letter `U` changes which match is
preferred and so nothing here. -/
def Modes.switch (modes : Modes) (letter : Char) (on : Bool) : Modes :=
  match letter with
  | 'i' => { modes with ignoreCase := on }
  | 'm' => { modes with lines := on }
  | 's' => { modes with dotAll := on }
  | 'R' => { modes with returns := on }
  | 'x' => { modes with spaced := on }
  | 'u' => { modes with unicode := on }
  | _ => modes

/-- The modes that the letters of a group set, the character that ends the letters and the rest. The
letters read are in `seen`; none may be repeated, and a minus sign needs a letter after it. -/
def modesFrom? (modes : Modes) (seen : List Char) (on : Bool) :
    List Char → Option (Modes × Char × List Char)
  | [] => none
  | c :: rest =>
      if c = ':' || c = ')' then
        if seen.head? = some '-' || (c = ')' && seen.isEmpty) then none else some (modes, c, rest)
      else if seen.contains c then none
      else if c = '-' then modesFrom? modes (c :: seen) false rest
      else if isModeLetter c then modesFrom? (modes.switch c on) (c :: seen) on rest
      else none

def isGroupNameChar (first : Bool) (c : Char) : Bool :=
  c == '_' || (if first then isAlphabetic c else isLetterOrNumber c || c == '.' || c == '[' || c == ']')
where
  /-- A letter, as far as names of groups need it: a letter or number that is no digit of any
  script. -/
  isAlphabetic (c : Char) : Bool := isLetterOrNumber c && !isDecimalDigit c

/-- The name of a group and the rest; the text starts behind the angle bracket. -/
def groupName? (text : List Char) : Option (String × List Char) :=
  match text.takeWhile (· != '>'), text.dropWhile (· != '>') with
  | first :: others, _ :: rest =>
      if isGroupNameChar true first && others.all (isGroupNameChar false) then
        some (String.ofList (first :: others), rest)
      else none
  | _, _ => none

/-- How a group starts, behind its parenthesis. -/
inductive GroupStart where
  /-- A group whose parts are read with the modes. -/
  | group (modes : Modes) (name : Option String)
  /-- No group, but modes for the rest of the enclosing one. -/
  | modes (modes : Modes)

/-- The start of a group and the rest. -/
def groupStart? (modes : Modes) (text : List Char) : Option (GroupStart × List Char) :=
  match skip modes text with
  | '?' :: 'P' :: '<' :: rest => (groupName? rest).map fun (name, after) =>
      (.group modes (some name), after)
  | '?' :: '=' :: _ | '?' :: '!' :: _ | '?' :: '<' :: '=' :: _ | '?' :: '<' :: '!' :: _ => none
  | '?' :: '<' :: rest => (groupName? rest).map fun (name, after) =>
      (.group modes (some name), after)
  | '?' :: rest =>
      (modesFrom? modes [] true rest).map fun (inner, ending, after) =>
        (if ending = ')' then .modes inner else .group inner none, after)
  | start => some (.group modes none, start)

/-- The largest number of repetitions that can be asked for. -/
def mostRepetitions : Nat := 0xFFFFFFFF

/-- A number of repetitions and the rest; none when no digit is there or the number is too large. -/
def count? (modes : Modes) (text : List Char) : Option Nat × List Char :=
  let start := text.dropWhile isBlank
  let (digits, rest) := takeSpaced modes Char.isDigit start.length start
  let value := numberOfDigits 10 digits
  (if digits.isEmpty || mostRepetitions < value then none else some value,
    skip modes (rest.dropWhile isBlank))

/-- The numbers of repetitions in braces, and the rest; the text starts behind the brace. -/
def counts? (modes : Modes) (text : List Char) : Option (Nat × Option Nat × List Char) :=
  match count? modes (skip modes text) with
  | (least, ',' :: rest) =>
      match skip modes rest with
      | '\x7d' :: after => least.map (·, none, after)
      | start =>
          match least, count? modes start with
          | some least, (some most, '\x7d' :: after) =>
              if least ≤ most then some (least, some most, after) else none
          | _, _ => none
  | (some count, '\x7d' :: after) => some (count, some count, after)
  | _ => none

/-- The rest behind a question mark, which only changes which match is preferred. -/
def dropPreference : List Char → List Char
  | '?' :: rest => rest
  | text => text

/-- The pattern of a single character or escape. -/
def single? (modes : Modes) : Element → Option Pattern
  | .literal c => some (.char (anyCase modes (exactly c)))
  | .charClass test =>
      let test := anyCase modes test
      if modes.unicode || staysInAscii test then some (.char test) else none
  | .anchor condition => some (.anchor condition)

/-- The pattern of a character outside brackets, and the rest. -/
def primitive? (property : String → Option CharTest) (modes : Modes) :
    List Char → Option (Pattern × List Char)
  | [] => none
  | '\\' :: rest =>
      (escape? property modes rest).bind fun (element, after) =>
        (single? modes element).map (·, after)
  | '.' :: rest => (single? { modes with ignoreCase := false } (.charClass (dot modes))).map (·, rest)
  | '^' :: rest => some (.anchor (if modes.lines then .lineStart modes.returns else .textStart), rest)
  | '$' :: rest => some (.anchor (if modes.lines then .lineEnd modes.returns else .textEnd), rest)
  | c :: rest => (single? modes (.literal c)).map (·, rest)

/-- Reads a pattern with at most `fuel` steps. The enclosing groups wait in `outer`, the innermost
first, and `names` are the names of groups read so far. -/
def readFrom? (property : String → Option CharTest) :
    Nat → List GroupScan → List String → GroupScan → List Char → Option Pattern
  | 0, _, _, _, _ => none
  | fuel + 1, outer, names, scan, text =>
      let modes := scan.modes
      match skip modes text with
      | [] => if outer.isEmpty then some scan.result else none
      | ')' :: rest =>
          match outer with
          | [] => none
          | enclosing :: others =>
              readFrom? property fuel others names (enclosing.add scan.result) rest
      | '(' :: rest =>
          (groupStart? modes rest).bind fun
            | (.modes inner, after) =>
                readFrom? property fuel outer names
                  { scan with modes := inner, parts := none :: scan.parts } after
            | (.group inner none, after) =>
                readFrom? property fuel (scan :: outer) names { modes := inner } after
            | (.group inner (some name), after) =>
                if names.contains name then none
                else readFrom? property fuel (scan :: outer) (name :: names) { modes := inner } after
      | '|' :: rest => readFrom? property fuel outer names scan.nextAlternative rest
      | '[' :: rest =>
          (brackets? property modes rest).bind fun (test, after) =>
            readFrom? property fuel outer names (scan.add (.char test)) after
      | '?' :: rest =>
          (scan.repeatLast? 0 (some 1)).bind fun next =>
            readFrom? property fuel outer names next (dropPreference rest)
      | '*' :: rest =>
          (scan.repeatLast? 0 none).bind fun next =>
            readFrom? property fuel outer names next (dropPreference rest)
      | '+' :: rest =>
          (scan.repeatLast? 1 none).bind fun next =>
            readFrom? property fuel outer names next (dropPreference rest)
      | '\x7b' :: rest =>
          (counts? modes rest).bind fun (least, most, after) =>
            (scan.repeatLast? least most).bind fun next =>
              readFrom? property fuel outer names next (dropPreference (skip modes after))
      | start =>
          (primitive? property modes start).bind fun (part, after) =>
            readFrom? property fuel outer names (scan.add part) after

def invalidMessage : String := "invalid `--match` pattern: regex parse error"

/-- The pattern that a text writes. Every step takes at least one character, but for the last. -/
def read? (property : String → Option CharTest) (text : String) : Option Pattern :=
  readFrom? property (text.length + 1) [] [] { modes := {} } text.toList

end HeaderBindings.Pattern
