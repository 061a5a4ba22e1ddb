import HeaderBindings.Proofs.Declarations
import HeaderBindings.Proofs.Spelling
import HeaderBindings.Source.Reading
import Mathlib.Data.List.TakeWhile

/-!
Reading a text that spells declarations, each with a semicolon behind it. Between its parentheses
and the semicolon a declaration has only characters that the scan for statements passes over, so it
becomes a statement of its own, which is read as the declaration.
-/

namespace HeaderBindings.Source
open Text

/-! ### Scanning for statements -/

/-- The characters on which the scan for statements does more than to go on. -/
def scannedMarks : List Char := ['"', '\'', '(', ')', ';', '\x7b', '\x7d']

theorem StatementScan.step_of_not_mem {c : Char} (h : c ∉ scannedMarks) (parentheses : Nat)
    (pending : List Char) :
    StatementScan.step { parentheses, pending } c
      = ({ parentheses, pending := c :: pending }, none) := by
  simp only [scannedMarks, List.mem_cons, List.not_mem_nil, or_false, not_or] at h
  obtain ⟨hdouble, hsingle, hopen, hclose, hsemicolon, hleft, hright⟩ := h
  have hquote : isQuote c = false := by simp [isQuote, hdouble, hsingle]
  simp [StatementScan.step, StatementScan.push, Quoting.step, Quoting.isCode, hquote, hopen, hclose,
    hsemicolon, hleft]

/-- All other characters are passed over. -/
theorem statementsFrom_append {text : List Char} (h : ∀ c ∈ text, c ∉ scannedMarks)
    (parentheses : Nat) (pending rest : List Char) :
    statementsFrom { parentheses, pending } (text ++ rest)
      = statementsFrom { parentheses, pending := text.reverse ++ pending } rest := by
  induction text generalizing pending with
  | nil => rfl
  | cons c text ih =>
      have hstep : statementsFrom { parentheses, pending } (c :: (text ++ rest))
          = statementsFrom { parentheses, pending := c :: pending } (text ++ rest) := by
        rw [statementsFrom, StatementScan.step_of_not_mem (h c List.mem_cons_self)]
      rw [List.cons_append, hstep, ih fun d hd => h d (List.mem_cons_of_mem c hd),
        List.reverse_cons, List.append_assoc, List.singleton_append]

/-- A semicolon behind a list in parentheses ends a statement. -/
theorem statementsFrom_list {front inner back : List Char} (hfront : ∀ c ∈ front, c ∉ scannedMarks)
    (hinner : ∀ c ∈ inner, c ∉ scannedMarks) (hback : ∀ c ∈ back, c ∉ scannedMarks)
    (rest : List Char) :
    statementsFrom {} (front ++ '(' :: (inner ++ ')' :: (back ++ ';' :: rest)))
      = trim (front ++ '(' :: (inner ++ ')' :: back)) :: statementsFrom {} rest := by
  have hopen (pending rest : List Char) : statementsFrom { pending } ('(' :: rest)
      = statementsFrom { parentheses := 1, pending := '(' :: pending } rest := rfl
  have hclose (pending rest : List Char) :
      statementsFrom { parentheses := 1, pending } (')' :: rest)
        = statementsFrom { pending := ')' :: pending } rest := rfl
  have hend (pending rest : List Char) : statementsFrom { pending } (';' :: rest)
      = trim pending.reverse :: statementsFrom {} rest := rfl
  rw [statementsFrom_append hfront 0 [], hopen, statementsFrom_append hinner 1, hclose,
    statementsFrom_append hback 0, hend]
  simp

/-! ### Declarations in a spelled text -/

/-- Words, stars and commas. -/
def IsFlat (tokens : List Token) : Prop :=
  ∀ token ∈ tokens, token.isSpecifier = true ∨ token = .comma

/-- Tokens that are read as a declaration and have parentheses only around its parameters. -/
def Declares (tokens : List Token) (signature : Signature) : Prop :=
  declarationOfTokens tokens = .ok signature ∧
    ∃ front inner, tokens = front ++ .openParen :: (inner ++ [.closeParen]) ∧ IsFlat front ∧
      IsFlat inner

namespace Spells
variable {tokens front inner more : List Token} {text : List Char}

/-- A character that is no blank, belongs to no word and is no mark of the text is not in it. -/
theorem not_mem_text (h : Spells tokens text) {c : Char} (hblank : isBlank c = false)
    (hplain : isPlainChar c = false) (hmark : c ∈ marks → Token.ofMark c ∉ tokens) : c ∉ text := by
  intro hmem
  rcases h.mem_text hmem with hc | hc | ⟨hc, htoken⟩
  · exact absurd hc (by simp [hblank])
  · exact absurd hc (by simp [hplain])
  · exact hmark hc htoken

theorem not_mem_scannedMarks (h : Spells tokens text) (hflat : IsFlat tokens) :
    ∀ c ∈ text, c ∉ scannedMarks := by
  have hmarks : scannedMarks.all (fun c => !isBlank c && !isPlainChar c &&
      !(Token.ofMark c).isSpecifier && Token.ofMark c != .comma) = true := by decide +kernel
  intro c hmem hc
  have hmark := List.all_eq_true.mp hmarks c hc
  simp only [Bool.and_eq_true, Bool.not_eq_true', bne_iff_ne] at hmark
  obtain ⟨⟨⟨hblank, hplain⟩, hspecifier⟩, hcomma⟩ := hmark
  refine h.not_mem_text hblank hplain (fun _ htoken => ?_) hmem
  rcases hflat _ htoken with hflat | hflat
  · simp [hspecifier] at hflat
  · exact hcomma hflat

/-- A mark of the text is in it. -/
theorem mem_of_ofMark_mem (h : Spells tokens text) (c : Char) (hmem : Token.ofMark c ∈ tokens) :
    c ∈ text := by
  obtain ⟨first, second, rfl⟩ := List.append_of_mem hmem
  obtain ⟨before, after, rfl, -, -⟩ := h.split c
  exact List.mem_append_right _ List.mem_cons_self

theorem not_typedef_isPrefixOf (h : Spells tokens text) :
    "typedef ".toList.isPrefixOf text = false := by
  rw [Bool.eq_false_iff]
  intro htypedef
  obtain ⟨rest, rfl⟩ := List.isPrefixOf_iff_prefix.mp htypedef
  have htokens : tokens = .word "typedef" :: Token.read (' ' :: rest) := by
    have hname : "typedef".toList.all isNameChar = true := by decide +kernel
    rw [← h.read]
    exact @read_word "typedef" (by decide +kernel) (List.all_eq_true.mp hname) (' ' :: rest)
      (wordEnds_of_isBlank (by decide) rest)
  have hword : IsReadableWord "typedef" := h.isReadableWord (by simp [htokens])
  exact hword.2.2.2.2 rfl

/-- A text with a parenthesis looks like a function. -/
theorem looksLikeFunction (h : Spells tokens text) (hmem : .openParen ∈ tokens) :
    looksLikeFunction text = true := by
  have hopen : '(' ∈ text := h.mem_of_ofMark_mem '(' hmem
  have hbrace : '\x7b' ∉ text :=
    h.not_mem_text (by decide) (by decide) fun hmark => absurd hmark (by decide)
  have hequals : '=' ∉ text :=
    h.not_mem_text (by decide) (by decide) fun hmark => absurd hmark (by decide)
  rw [Source.looksLikeFunction, h.not_typedef_isPrefixOf]
  simp [hopen, hbrace, hequals]

/-- The first declaration is the first statement. -/
theorem exists_statement {signature : Signature} (h : Spells (tokens ++ .other ';' :: more) text)
    (hdeclares : Declares tokens signature) :
    ∃ statement rest, statementsFrom {} text = statement :: statementsFrom {} rest ∧
      Spells tokens statement ∧ Spells more rest := by
  obtain ⟨-, front, inner, rfl, hfront, hinner⟩ := hdeclares
  have hopen : '(' ∈ marks := by decide
  have hclose : ')' ∈ marks := by decide
  rw [List.append_assoc, List.cons_append, List.append_assoc, List.singleton_append] at h
  obtain ⟨before, text, rfl, hbefore, h⟩ := h.split '('
  obtain ⟨list, text, rfl, hlist, h⟩ := h.split ')'
  obtain ⟨after, rest, rfl, hafter, hrest⟩ := @split [] _ _ ';' h
  refine ⟨Text.trim (before ++ '(' :: (list ++ ')' :: after)), rest, ?_, ?_, hrest⟩
  · exact statementsFrom_list (hbefore.not_mem_scannedMarks hfront)
      (hlist.not_mem_scannedMarks hinner) (hafter.not_mem_scannedMarks (by simp [IsFlat])) rest
  · refine Spells.trim (hbefore.append (.mark hopen ?_) (wordEnds_mark hopen _))
    exact hlist.append (.mark hclose hafter) (wordEnds_mark hclose _)

theorem isBlank_of_nil (h : Spells [] text) : ∀ c ∈ text, isBlank c = true := by
  induction text with
  | nil => simp
  | cons c text ih =>
      cases h with
      | blank hc hrest =>
          intro d hmem
          rcases List.mem_cons.mp hmem with rfl | hmem
          · exact hc
          · exact ih hrest d hmem

/-- A text without tokens has no statement. -/
theorem statements_nil (h : Spells [] text) : statements text = [] := by
  have hblank := h.isBlank_of_nil
  have hscan : statementsFrom {} text = [Text.trim text] := by
    have happend := statementsFrom_append (h.not_mem_scannedMarks (by simp [IsFlat])) 0 [] []
    rw [List.append_nil, List.append_nil] at happend
    rw [happend, statementsFrom, StatementScan.statement, List.reverse_reverse]
  have htrim : Text.trim text = [] := by
    rw [Text.trim, Text.trimStart, List.dropWhile_eq_nil_iff.mpr hblank]
    rfl
  rw [statements, hscan, htrim]
  rfl

end Spells

/-! ### The declarations of a text -/

/-- A statement that spells a declaration is read as it. -/
theorem value_readStatement {tokens : List Token} {signature : Signature} {text : List Char}
    (h : Spells tokens text) (hdeclares : Declares tokens signature) :
    (readStatement {} text).value = { functions := [signature] } := by
  obtain ⟨hread, front, inner, rfl, -, -⟩ := hdeclares
  rw [readStatement, if_pos (h.looksLikeFunction (by simp)), declaration, h.read, hread]
  rfl

/-- All declarations of a text are read, and nothing is skipped. -/
theorem value_readStatements {tokens : Signature → List Token} {signatures : List Signature}
    {text : List Char} (hdeclares : ∀ signature ∈ signatures, Declares (tokens signature) signature)
    (h : Spells (signatures.flatMap fun signature => tokens signature ++ [.other ';']) text) :
    (readStatements {} (statements text)).value = ⟨signatures, []⟩ := by
  induction signatures generalizing text with
  | nil =>
      rw [h.statements_nil]
      rfl
  | cons signature signatures ih =>
      have hfirst := hdeclares signature List.mem_cons_self
      rw [List.flatMap_cons, List.append_assoc, List.singleton_append] at h
      obtain ⟨statement, rest, hscan, hstatement, hrest⟩ := h.exists_statement hfirst
      have hne : statement.isEmpty = false := by
        obtain ⟨-, front, inner, htokens, -, -⟩ := hfirst
        have hopen : '(' ∈ statement := by
          refine hstatement.mem_of_ofMark_mem '(' ?_
          rw [htokens]
          exact List.mem_append_right _ List.mem_cons_self
        exact List.isEmpty_eq_false_iff.mpr (List.ne_nil_of_mem hopen)
      have hstatements : statements text = statement :: statements rest := by
        rw [statements, hscan, List.filter_cons_of_pos (by simp [hne]), ← statements]
      rw [hstatements, readStatements, Logged.value_bind, Logged.value_bind, Logged.value_pure,
        value_readStatement hstatement hfirst,
        ih (fun other hmem => hdeclares other (List.mem_cons_of_mem signature hmem)) hrest]
      rfl

end HeaderBindings.Source
