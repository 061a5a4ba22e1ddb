import HeaderBindings.Text.LetterCaseTable

/-!
Upper and lower case of single characters. The result is a list because some letters have a case of
several characters: the upper case of `ß` is `SS`. Neither map looks at the neighbours, so a capital
sigma always becomes `σ`.
-/

namespace HeaderBindings.Text

/-- The image of a code point under a run, if the run lists it. -/
def CaseRun.image? (run : CaseRun) (code : Nat) : Option Nat :=
  if run.first ≤ code ∧ code ≤ run.last ∧ (code - run.first) % run.stride = 0 then
    some (run.target + (code - run.first))
  else none

/-- The case of a character beyond ASCII, from the expansions and else from the runs. A character
that neither lists is its own case. -/
def tabulatedCase (expansions : List (Nat × List Nat)) (runs : List CaseRun) (c : Char) :
    List Char :=
  match expansions.lookup c.toNat with
  | some codes => codes.map Char.ofNat
  | none =>
      match runs.findSome? (·.image? c.toNat) with
      | some code => [Char.ofNat code]
      | none => [c]

def upperCase (c : Char) : List Char :=
  if c.toNat < 0x80 then [c.toUpper] else tabulatedCase upperExpansions upperRuns c

def lowerCase (c : Char) : List Char :=
  if c.toNat < 0x80 then [c.toLower] else tabulatedCase lowerExpansions lowerRuns c

theorem upperCase_of_ascii {c : Char} (ascii : c.toNat < 0x80) : upperCase c = [c.toUpper] := by
  simp [upperCase, ascii]

theorem lowerCase_of_ascii {c : Char} (ascii : c.toNat < 0x80) : lowerCase c = [c.toLower] := by
  simp [lowerCase, ascii]

end HeaderBindings.Text
