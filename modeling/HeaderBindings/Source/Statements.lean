import HeaderBindings.Source.Quoting
import HeaderBindings.Text.Blank

/-!
The statements of cleaned source. A semicolon outside literals, parentheses and braces ends one. A
brace group behind a closing parenthesis is the body of a function: it ends the statement in front
of it and is dropped. Any other brace group stays inside its statement, and so does one that is not
closed, together with all that follows it.
-/

namespace HeaderBindings.Source
open Text

/-- Where a scan for the end of a statement stands: the characters of the statement so far, the last
one first, the open parentheses, and, inside a brace group, the open braces and what of the
statement stands before the group. -/
structure StatementScan where
  quoting : Quoting := .code
  parentheses : Nat := 0
  braces : Nat := 0
  head : List Char := []
  pending : List Char := []

namespace StatementScan

/-- The scan after a character that belongs to the statement and changes no count. -/
def push (scan : StatementScan) (c : Char) : StatementScan :=
  { scan with quoting := scan.quoting.step c, pending := c :: scan.pending }

def statement (scan : StatementScan) : List Char := trim scan.pending.reverse

/-- Whether the text, given with its last character first, ends with a closing parenthesis, blanks
aside. -/
def endsList (reversed : List Char) : Bool := (trimStart reversed).head? == some ')'

/-- The scan after a character, and the statement that the character ends, if it ends one. -/
def step (scan : StatementScan) (c : Char) : StatementScan × Option (List Char) :=
  let pushed := scan.push c
  if !scan.quoting.isCode c then (pushed, none)
  else if scan.braces = 0 then
    if c = '(' then ({ pushed with parentheses := scan.parentheses + 1 }, none)
    else if c = ')' then ({ pushed with parentheses := scan.parentheses - 1 }, none)
    else if c = ';' && scan.parentheses == 0 then ({}, some scan.statement)
    else if c = '\x7b' && scan.parentheses == 0 then
      ({ pushed with braces := 1, head := scan.pending }, none)
    else (pushed, none)
  else if c = '\x7b' then ({ pushed with braces := scan.braces + 1 }, none)
  else if c = '\x7d' then
    if scan.braces ≠ 1 then ({ pushed with braces := scan.braces - 1 }, none)
    else if endsList scan.head then ({}, some (trim scan.head.reverse))
    else ({ pushed with braces := 0, head := [] }, none)
  else (pushed, none)

end StatementScan

/-- The statements of the rest of a text, empty ones included. -/
def statementsFrom (scan : StatementScan) : List Char → List (List Char)
  | [] => [scan.statement]
  | c :: rest =>
      match scan.step c with
      | (next, none) => statementsFrom next rest
      | (next, some statement) => statement :: statementsFrom next rest

/-- The statements of a text, trimmed and in order. -/
def statements (source : List Char) : List (List Char) :=
  (statementsFrom {} source).filter (!·.isEmpty)

end HeaderBindings.Source
