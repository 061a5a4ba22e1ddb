import HeaderBindings.Text.FoldTable
import HeaderBindings.Text.LetterCase

/-!
Characters that are the same when case is ignored: those with the same simple case folding.
-/

namespace HeaderBindings.Text

/-- The code point that stands for all code points that differ from it only in case. -/
def foldCode (code : Nat) : Nat := (foldRuns.findSome? (·.image? code)).getD code

/-- The code point that a run maps to `code`, if there is one. -/
def CaseRun.preimage? (run : CaseRun) (code : Nat) : Option Nat :=
  let source := run.first + (code - run.target)
  if run.target ≤ code ∧ run.image? source = some code then some source else none

/-- The characters that differ from a character at most in case. -/
def caseVariants (c : Char) : List Char :=
  let folded := foldCode c.toNat
  (folded :: foldRuns.filterMap (·.preimage? folded)).map Char.ofNat

end HeaderBindings.Text
