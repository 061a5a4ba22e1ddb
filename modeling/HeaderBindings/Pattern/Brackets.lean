import HeaderBindings.Pattern.Escape

/-!
Classes in brackets: characters, ranges, classes by name and nested brackets, which are united, and
the operations on the unions: intersection `&&`, difference `--` and symmetric difference `~~`, all
from left to right.
-/

namespace HeaderBindings.Pattern
open Text

inductive SetOperation where
  | intersection
  | difference
  | symmetricDifference

/-- The result of an operation. Case is ignored in each operand by itself. -/
def SetOperation.apply (modes : Modes) (operation : SetOperation) (left right : CharTest) :
    CharTest :=
  let left := anyCase modes left
  let right := anyCase modes right
  match operation with
  | intersection => fun c => left c && right c
  | difference => fun c => left c && !right c
  | symmetricDifference => fun c => left c != right c

/-- What has been read inside brackets: the operation that waits for its right operand, with the left
one, and the union so far. -/
structure BracketScan where
  negated : Bool
  waiting : Option (SetOperation × CharTest) := none
  union : CharTest := fun _ => false

namespace BracketScan

def unite (scan : BracketScan) (test : CharTest) : BracketScan :=
  { scan with union := fun c => scan.union c || test c }

/-- The class read so far, before it is negated. -/
def result (modes : Modes) (scan : BracketScan) : CharTest :=
  match scan.waiting with
  | some (operation, left) => operation.apply modes left scan.union
  | none => scan.union

def operate (modes : Modes) (operation : SetOperation) (scan : BracketScan) : BracketScan :=
  { negated := scan.negated, waiting := some (operation, scan.result modes) }

/-- The class, when the brackets close here. -/
def close? (modes : Modes) (scan : BracketScan) : Option CharTest :=
  let folded := anyCase modes (scan.result modes)
  let test : CharTest := if scan.negated then fun c => !folded c else folded
  if modes.unicode || staysInAscii test then some test else none

end BracketScan

/-- The class named between `[:` and `:]`; the text starts behind the bracket. -/
def colonClass? (text : List Char) : Option (CharTest × List Char) :=
  match text with
  | ':' :: rest =>
      let (negated, start) : Bool × List Char := match rest with
        | '^' :: behind => (true, behind)
        | _ => (false, rest)
      match start.dropWhile (· != ':') with
      | ':' :: ']' :: after =>
          (namedClass? (String.ofList (start.takeWhile (· != ':')))).map fun test =>
            (if negated then fun c => !test c else test, after)
      | _ => none
  | _ => none

/-- An item of a class, which may be an escape. -/
def bracketItem? (property : String → Option CharTest) (modes : Modes) :
    List Char → Option (Element × List Char)
  | [] => none
  | '\\' :: rest => escape? property modes rest
  | c :: rest => some (.literal c, rest)

/-- The test of an item that is not the start of a range. An anchor is no class. -/
def itemTest? (modes : Modes) : Element → Option CharTest
  | .literal c => if modes.unicode || c.toNat < 0x80 then some (exactly c) else none
  | .charClass test => some test
  | .anchor _ => none

/-- The test of an item or a range at the start of a text, and the rest. -/
def bracketRange? (property : String → Option CharTest) (modes : Modes) (text : List Char) :
    Option (CharTest × List Char) := do
  let (first, behindFirst) ← bracketItem? property modes text
  let next := skip modes behindFirst
  let single := (itemTest? modes first).map (·, next)
  match next with
  | [] => none
  | '-' :: rest =>
      match skip modes rest with
      | ']' :: _ => single
      | '-' :: _ => single
      | behindDash =>
          let (last, after) ← bracketItem? property modes behindDash
          match first, last with
          | .literal low, .literal high =>
              if low ≤ high && (modes.unicode || high.toNat < 0x80) then
                some (between low high, after)
              else none
          | _, _ => none
  | _ => single

/-- The leading hyphens of a class, which stand for themselves, with the rest. -/
def leadingHyphens (modes : Modes) (scan : BracketScan) (text : List Char) :
    BracketScan × List Char :=
  let (hyphens, rest) := takeSpaced modes (· == '-') text.length text
  if hyphens.isEmpty then
    match rest with
    | ']' :: after => (scan.unite (exactly ']'), skip modes after)
    | _ => (scan, rest)
  else (scan.unite (exactly '-'), rest)

/-- The start of a class, behind the bracket: a caret that negates it, and the characters that stand
for themselves only here. -/
def openBracket (modes : Modes) (text : List Char) : BracketScan × List Char :=
  match skip modes text with
  | '^' :: rest => leadingHyphens modes { negated := true } (skip modes rest)
  | start => leadingHyphens modes { negated := false } start

/-- Reads a class up to its closing bracket with at most `fuel` items. Nested classes wait in
`outer`, the innermost first. -/
def bracketsFrom? (property : String → Option CharTest) (modes : Modes) :
    Nat → List BracketScan → BracketScan → List Char → Option (CharTest × List Char)
  | 0, _, _, _ => none
  | fuel + 1, outer, scan, text =>
      match skip modes text with
      | [] => none
      | ']' :: rest =>
          (scan.close? modes).bind fun test =>
            match outer with
            | [] => some (test, rest)
            | enclosing :: others =>
                bracketsFrom? property modes fuel others (enclosing.unite test) rest
      | '[' :: rest =>
          match colonClass? rest with
          | some (test, after) => bracketsFrom? property modes fuel outer (scan.unite test) after
          | none =>
              let (nested, start) := openBracket modes rest
              bracketsFrom? property modes fuel (scan :: outer) nested start
      | '&' :: '&' :: rest =>
          bracketsFrom? property modes fuel outer (scan.operate modes .intersection) rest
      | '-' :: '-' :: rest =>
          bracketsFrom? property modes fuel outer (scan.operate modes .difference) rest
      | '~' :: '~' :: rest =>
          bracketsFrom? property modes fuel outer (scan.operate modes .symmetricDifference) rest
      | start =>
          (bracketRange? property modes start).bind fun (test, after) =>
            bracketsFrom? property modes fuel outer (scan.unite test) after

/-- The class in brackets and the rest; the text starts behind the opening bracket. Every item takes
at least one character, so there are no more items than characters. -/
def brackets? (property : String → Option CharTest) (modes : Modes) (text : List Char) :
    Option (CharTest × List Char) :=
  let (scan, start) := openBracket modes text
  bracketsFrom? property modes (text.length + 1) [] scan start

end HeaderBindings.Pattern
