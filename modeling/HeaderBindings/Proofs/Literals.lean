import HeaderBindings.Proofs.CallLists
import HeaderBindings.Proofs.Cleaning

/-!
String literals in the scans over source. Every scan that carries the state of literals along passes
over a literal without looking at what it says. The search for calls carries no such state.
-/

namespace HeaderBindings.Source
open Text

/-! ### Text within literals -/

/-- Whether each character of a text that starts in a state belongs to a literal. -/
def Quoting.covers (state : Quoting) : List Char → Bool
  | [] => true
  | c :: rest => !state.isCode c && (state.step c).covers rest

theorem Quoting.covers_cons {state : Quoting} {c : Char} {rest : List Char} :
    state.covers (c :: rest) = true ↔
      state.isCode c = false ∧ (state.step c).covers rest = true := by
  rw [covers, Bool.and_eq_true, Bool.not_eq_true']

theorem dropCommentsFrom_of_covers {state : Quoting} {text : List Char}
    (h : state.covers text = true) (rest : List Char) :
    dropCommentsFrom (.text state) (text ++ rest)
      = text ++ dropCommentsFrom (.text (state.after text)) rest := by
  induction text generalizing state with
  | nil => rfl
  | cons c text ih =>
      obtain ⟨hc, htext⟩ := Quoting.covers_cons.mp h
      rw [List.cons_append, dropCommentsFrom_text_cons, ih htext, List.cons_append]
      · rfl
      · rintro rfl rfl
        cases hc

theorem closeFrom_of_covers {state : Quoting} {text : List Char} (h : state.covers text = true)
    (left right : Char) (depth : Nat) (rest : List Char) :
    closeFrom left right state depth (text ++ rest)
      = (closeFrom left right (state.after text) depth rest).map
          fun cut => (text ++ cut.1, cut.2) := by
  induction text generalizing state with
  | nil => simp
  | cons c text ih =>
      obtain ⟨hc, htext⟩ := Quoting.covers_cons.mp h
      rw [List.cons_append, closeFrom, if_neg (by simp [hc])]
      simp only [ih htext, Option.map_map]
      rfl

theorem StatementScan.after_of_covers {scan : StatementScan} {text : List Char}
    (h : scan.quoting.covers text = true) :
    scan.after text = { scan with
      quoting := scan.quoting.after text, pending := text.reverse ++ scan.pending } ∧
    scan.ended text = [] := by
  induction text generalizing scan with
  | nil => exact ⟨rfl, rfl⟩
  | cons c text ih =>
      obtain ⟨hc, htext⟩ := Quoting.covers_cons.mp h
      have hstep : scan.step c = (scan.push c, none) := by
        rw [step, if_pos (by simp [hc])]
      obtain ⟨hafter, hended⟩ := @ih (scan.push c) htext
      rw [after, ended, hstep, hafter, hended]
      simp [push]

/-! ### String literals -/

/-- A string literal. -/
def stringLiteral (content : List Char) : List Char := '"' :: (content ++ ['"'])

theorem stringLiteral_append (content rest : List Char) :
    stringLiteral content ++ rest = '"' :: (content ++ '"' :: rest) := by
  simp [stringLiteral]

/-- A text that may stand in a string literal as it is. -/
structure IsLiteralContent (content : List Char) : Prop where
  quote : '"' ∉ content
  escape : '\\' ∉ content
  newline : '\n' ∉ content

instance (content : List Char) : Decidable (IsLiteralContent content) :=
  decidable_of_iff ('"' ∉ content ∧ '\\' ∉ content ∧ '\n' ∉ content)
    ⟨fun ⟨quote, escape, newline⟩ => ⟨quote, escape, newline⟩,
      fun h => ⟨h.quote, h.escape, h.newline⟩⟩

namespace IsLiteralContent
variable {content : List Char}

theorem covers (h : IsLiteralContent content) :
    Quoting.code.covers (stringLiteral content) = true ∧
      Quoting.code.after (stringLiteral content) = .code := by
  have hinside {content : List Char} (hquote : '"' ∉ content) (hescape : '\\' ∉ content) :
      (Quoting.inside '"').covers (content ++ ['"']) = true ∧
        (Quoting.inside '"').after (content ++ ['"']) = .code := by
    induction content with
    | nil => decide
    | cons c content ih =>
        obtain ⟨hc, hquote⟩ := not_or.mp (mt List.mem_cons.mpr hquote)
        obtain ⟨hbackslash, hescape⟩ := not_or.mp (mt List.mem_cons.mpr hescape)
        have hstay : (Quoting.inside '"').step c = .inside '"' := by
          rw [Quoting.step, if_neg (Ne.symm hbackslash), if_neg (Ne.symm hc)]
        rw [List.cons_append, Quoting.covers_cons, Quoting.after_cons, hstay]
        exact ⟨⟨by simp [Quoting.isCode], (ih hquote hescape).1⟩, (ih hquote hescape).2⟩
  obtain ⟨hcovers, hafter⟩ := hinside h.quote h.escape
  rw [stringLiteral, Quoting.covers_cons]
  exact ⟨⟨by decide, hcovers⟩, hafter⟩

theorem statementsFrom (h : IsLiteralContent content) {scan : StatementScan}
    (hscan : scan.quoting = .code) (rest : List Char) :
    statementsFrom scan (stringLiteral content ++ rest)
      = Source.statementsFrom
          { scan with pending := (stringLiteral content).reverse ++ scan.pending } rest := by
  obtain ⟨hcovers, hcode⟩ := h.covers
  rw [← hscan] at hcovers
  obtain ⟨hafter, hended⟩ := StatementScan.after_of_covers hcovers
  rw [StatementScan.statementsFrom_after, hafter, hended, hscan, hcode, List.nil_append]

theorem value_dropExtensions (h : IsLiteralContent content) :
    IsLiteralContent (dropExtensions content).value := by
  have hnot {c : Char} (hc : c ∉ content) (hspace : c ≠ ' ') :
      c ∉ (dropExtensions content).value := fun hmem =>
    (mem_value_dropExtensions hmem).elim hc hspace
  exact ⟨hnot h.quote (by decide), hnot h.escape (by decide), hnot h.newline (by decide)⟩

theorem plainText (h : IsLiteralContent content) : IsLiteralContent (plainText content) := by
  refine ⟨?_, ?_, fun hmem => ?_⟩
  · rw [mem_plainText_iff (by decide +kernel) (by decide)]
    exact h.quote
  · rw [mem_plainText_iff (by decide +kernel) (by decide)]
    exact h.escape
  · have hspace := eq_space_of_mem_collapseFrom hmem (by decide)
    cases hspace

end IsLiteralContent

end HeaderBindings.Source
