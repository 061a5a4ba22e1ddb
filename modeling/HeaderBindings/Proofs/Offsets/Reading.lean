import HeaderBindings.Offsets.Reading
import HeaderBindings.Proofs.Offsets.Calls
import HeaderBindings.Proofs.Offsets.Comments
import HeaderBindings.Proofs.Offsets.Declarations
import HeaderBindings.Proofs.Offsets.Statements

/-!
Reading a header by offsets never takes what is not there. Whatever the text and the filter, no step
has a fault, and the declarations and the events are those of reading character by character.
-/

namespace HeaderBindings.Offsets
open Source

theorem readStatement_eq (filter : NameFilter) (statement : List Char) :
    readStatement filter statement = ExceptT.lift (Source.readStatement filter statement) := by
  rw [readStatement, Source.readStatement]
  split
  · rw [attempt_bind (declarationOfTokens_eq (Token.read statement)), ← declaration]
    cases declaration statement with
    | error reason =>
        simp only [lift_bind]
        rfl
    | ok signature =>
        simp only
        split
        · simp only [lift_bind]
          rfl
        · rfl
  · rfl

theorem readStatements_eq (filter : NameFilter) (found : List (List Char)) :
    readStatements filter found = ExceptT.lift (Source.readStatements filter found) := by
  induction found with
  | nil => rfl
  | cons statement rest ih =>
      rw [readStatements, Source.readStatements, readStatement_eq, ih]
      simp only [lift_bind, lift_pure]

theorem clean_eq (source : List Char) : clean source = ExceptT.lift (Source.clean source) := by
  rw [clean, Source.clean, attempt_bind (dropComments_eq _), dropExtensions_eq]
  simp only [lift_bind, lift_pure]

theorem readHeader_eq (filter : NameFilter) (source : String) :
    readHeader filter source = ExceptT.lift (Source.readHeader filter source) := by
  rw [readHeader, Source.readHeader, clean_eq, lift_bind]
  simp only [attempt_bind (statements_eq _), readStatements_eq]

/-- The declarations in a text are read by offsets without a fault: each element that is taken is
there, each part lies within its text between characters and ends behind its start, no number falls
below zero, and each round of a loop gets further. What is read, and what is reported, is the same as
by going through the characters. -/
theorem readHeader_without_fault (filter : NameFilter) (source : String) :
    (readHeader filter source).outcome
      = { value := .ok (Source.readHeader filter source).value
          events := (Source.readHeader filter source).events } := by
  rw [readHeader_eq, outcome_lift]

end HeaderBindings.Offsets
