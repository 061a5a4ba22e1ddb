import HeaderBindings.Proofs.Scanning

/-!
What is open at a position of a source. The scan for statements counts parentheses and braces as it
goes, and what it has counted depends on the text in front of the position only, not on where the
statements in that text end.
-/

namespace HeaderBindings.Source
open Text

/-- The literal, the parentheses and the braces that are open. Inside a brace group only braces
count, and inside parentheses only parentheses; a closing parenthesis without an opening one changes
nothing. -/
structure Nesting where
  quoting : Quoting := .code
  parentheses : Nat := 0
  braces : Nat := 0
  deriving DecidableEq

namespace Nesting

/-- What is open behind a character. -/
def step (nesting : Nesting) (c : Char) : Nesting :=
  if !nesting.quoting.isCode c then { nesting with quoting := nesting.quoting.step c }
  else if nesting.braces = 0 then
    if c = '(' then { nesting with parentheses := nesting.parentheses + 1 }
    else if c = ')' then { nesting with parentheses := nesting.parentheses - 1 }
    else if c = '\x7b' && nesting.parentheses == 0 then { nesting with braces := 1 }
    else nesting
  else if c = '\x7b' then { nesting with braces := nesting.braces + 1 }
  else if c = '\x7d' then { nesting with braces := nesting.braces - 1 }
  else nesting

def after (nesting : Nesting) (text : List Char) : Nesting := text.foldl step nesting

theorem after_append (nesting : Nesting) (first second : List Char) :
    nesting.after (first ++ second) = (nesting.after first).after second := by
  simp [after]

end Nesting

/-- Behind the text nothing is open: no literal, no parenthesis and no brace group. -/
def IsOutside (text : List Char) : Prop := Nesting.after {} text = {}

instance : DecidablePred IsOutside := fun _ => inferInstanceAs (Decidable (_ = _))

namespace StatementScan

def nesting (scan : StatementScan) : Nesting := ⟨scan.quoting, scan.parentheses, scan.braces⟩

/-- Braces are counted outside parentheses only. -/
theorem parentheses_step {scan : StatementScan} (h : scan.braces ≠ 0 → scan.parentheses = 0)
    (c : Char) : (scan.step c).1.braces ≠ 0 → (scan.step c).1.parentheses = 0 := by
  grind [step, push]

/-- At the end of a statement nothing is open, so there is nothing to forget. -/
theorem nesting_step {scan : StatementScan} (h : scan.braces ≠ 0 → scan.parentheses = 0)
    (c : Char) : (scan.step c).1.nesting = scan.nesting.step c := by
  obtain ⟨state, parentheses, braces, head, pending⟩ := scan
  have hcode (hc : state.isCode c = true) : state = .code ∧ state.step c = .code :=
    ⟨Quoting.eq_code_of_isCode hc, Quoting.step_of_isCode hc⟩
  grind [step, push, nesting, Nesting.step]

theorem nesting_after {scan : StatementScan} (h : scan.braces ≠ 0 → scan.parentheses = 0)
    (text : List Char) : (scan.after text).nesting = scan.nesting.after text := by
  induction text generalizing scan with
  | nil => rfl
  | cons c text ih =>
      rw [after, ih (parentheses_step h c), nesting_step h]
      rfl

theorem nesting_after_empty (text : List Char) :
    (after {} text).nesting = Nesting.after {} text :=
  @nesting_after {} (fun _ => rfl) text

end StatementScan

/-- What stands behind the last end of a statement in a text. -/
def pendingText (text : List Char) : List Char := (StatementScan.after {} text).pending.reverse

/-- Where nothing is open, the scan goes on with no more than the text of the statement so far. -/
theorem IsOutside.exists_after {text : List Char} (h : IsOutside text) :
    ∃ head, StatementScan.after {} text = { head, pending := (pendingText text).reverse } := by
  have hnesting : (StatementScan.after {} text).nesting = {} :=
    (StatementScan.nesting_after_empty text).trans h
  rw [pendingText, List.reverse_reverse]
  generalize StatementScan.after {} text = scan at hnesting
  obtain ⟨quoting, parentheses, braces, head, pending⟩ := scan
  obtain ⟨rfl, rfl, rfl⟩ := Nesting.mk.inj hnesting
  exact ⟨head, rfl⟩

end HeaderBindings.Source
