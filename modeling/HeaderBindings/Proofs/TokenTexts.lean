import HeaderBindings.Proofs.Regularity
import HeaderBindings.Proofs.Spelling

/-!
Tokens and the texts that stand for them. Reading looks ahead for further characters of a word and
for one or two further dots, and never past a blank, so a text is read in parts wherever it has a
blank. What can be read at all can be read back from the texts of its tokens.
-/

namespace HeaderBindings.Source
open Text

/-! ### Reading in parts -/

theorem readFrom_append_blank (pending first second : List Char) {blank : Char}
    (hblank : isBlank blank = true) :
    Token.readFrom pending (first ++ blank :: second)
      = Token.readFrom pending first ++ Token.read second := by
  have hdot : blank ≠ '.' := by
    rintro rfl
    exact absurd hblank (by decide)
  -- Where no dot follows, none follows when the blank stands behind the text.
  have hahead {text : List Char} (h : ∀ rest, text = '.' :: rest → False) :
      ∀ rest, text ++ blank :: second = '.' :: rest → False := by
    intro rest hrest
    cases text with
    | nil => exact hdot (List.cons.inj hrest).1
    | cons c text => exact h text (congrArg (· :: text) (List.cons.inj hrest).1)
  fun_induction Token.readFrom pending first with
  | case1 pending =>
      rw [List.nil_append, readFrom_of_wordEnds pending (wordEnds_of_isBlank hblank second),
        read_blank hblank]
  | case2 pending rest ih =>
      rw [List.cons_append, List.cons_append, List.cons_append, Token.readFrom, ih,
        List.append_assoc, List.cons_append]
  | case3 pending rest hthree ih =>
      rw [List.cons_append, List.cons_append, Token.readFrom, ih, List.append_assoc,
        List.cons_append]
      exact hahead hthree
  | case4 pending c rest hthree htwo hname ih =>
      have hc : c ≠ '.' := by
        rintro rfl
        exact absurd hname (by decide)
      rw [List.cons_append, readFrom_cons hc, if_pos hname, ih]
  | case5 pending c rest hthree htwo hname hspace ih =>
      have hc : c ≠ '.' := by
        rintro rfl
        exact absurd hspace (by decide)
      rw [List.cons_append, readFrom_cons hc, if_neg hname, if_pos hspace, Token.read, ih,
        List.append_assoc]
  | case6 pending c rest hthree htwo hname hspace ih =>
      rw [List.cons_append, Token.readFrom, if_neg hname, if_neg hspace, ih, List.append_assoc,
        List.cons_append]
      · exact fun more hc => hahead (fun _ hrest => htwo _ hc hrest) ('.' :: more)
      · exact fun more hc => hahead (fun _ hrest => htwo _ hc hrest) more

/-- A blank separates the tokens in front of it from those behind it. -/
theorem read_append_blank (first second : List Char) {blank : Char}
    (hblank : isBlank blank = true) :
    Token.read (first ++ blank :: second) = Token.read first ++ Token.read second :=
  readFrom_append_blank [] first second hblank

/-! ### Tokens that can be read -/

/-- The characters that have a token of their own. -/
def shapingMarks : List Char := ['*', '(', ')', '[', ']', ',']

namespace Token

/-- A token that a text can be read as. -/
def IsReadable : Token → Prop
  | word name => IsName name
  | other c => isBlank c = false ∧ isNameChar c = false ∧ c ∉ shapingMarks
  | _ => True

instance : DecidablePred IsReadable
  | word name =>
      decidable_of_iff (name ≠ "" ∧ name.toList.all isNameChar = true)
        ⟨fun ⟨nonempty, chars⟩ => ⟨nonempty, List.all_eq_true.mp chars⟩,
          fun h => ⟨h.nonempty, List.all_eq_true.mpr h.chars⟩⟩
  | other _ => inferInstanceAs (Decidable (_ ∧ _ ∧ _))
  | star | openParen | closeParen | openBracket | closeBracket | comma | ellipsis => .isTrue trivial

theorem ofMark_of_not_mem {c : Char} (h : c ∉ shapingMarks) : ofMark c = other c := by
  simp only [shapingMarks, List.mem_cons, List.not_mem_nil, or_false, not_or] at h
  simp [ofMark, h]

theorem isReadable_ofMark {c : Char} (hname : isNameChar c = false) (hblank : isBlank c = false) :
    (ofMark c).IsReadable := by
  by_cases hmark : c ∈ shapingMarks
  · simp only [shapingMarks, List.mem_cons, List.not_mem_nil, or_false] at hmark
    rcases hmark with rfl | rfl | rfl | rfl | rfl | rfl <;> exact trivial
  · rw [ofMark_of_not_mem hmark]
    exact ⟨hblank, hname, hmark⟩

/-- A token that can be read is read from its own text. -/
theorem read_text {token : Token} (h : token.IsReadable) : read token.text.toList = [token] := by
  cases token with
  | word name =>
      have hne : name.toList ≠ [] := fun hempty => h.nonempty (String.toList_eq_nil_iff.mp hempty)
      have hread := read_word hne h.chars wordEnds_nil
      rwa [List.append_nil] at hread
  | other c =>
      obtain ⟨hblank, hname, hmark⟩ := h
      have hread : read [c] = [ofMark c] := by
        rw [read, readFrom, if_neg (by simp [hname]), if_neg (by simp [hblank])]
        · rfl
        · exact fun _ _ hrest => List.cons_ne_nil _ _ hrest.symm
        · exact fun _ _ hrest => List.cons_ne_nil _ _ hrest.symm
      rw [text, String.toList_singleton, hread, ofMark_of_not_mem hmark]
  | _ => rfl

/-- Nothing else is read from any text. -/
theorem isReadable_of_mem_read {text : List Char} {token : Token} (h : token ∈ read text) :
    token.IsReadable :=
  forall_mem_read (fun _ hname => hname) trivial (fun _ => isReadable_ofMark) token h

end Token

/-! ### Texts of tokens -/

/-- The texts of tokens with single spaces between them. -/
def tokenTexts (tokens : List Token) : List Char :=
  (String.intercalate " " (tokens.map Token.text)).toList

theorem tokenTexts_cons (token : Token) {rest : List Token} (hrest : rest ≠ []) :
    tokenTexts (token :: rest) = token.text.toList ++ ' ' :: tokenTexts rest := by
  obtain ⟨next, more, rfl⟩ := List.exists_cons_of_ne_nil hrest
  simp [tokenTexts]

theorem read_tokenTexts {tokens : List Token} (h : ∀ token ∈ tokens, token.IsReadable) :
    Token.read (tokenTexts tokens) = tokens := by
  induction tokens with
  | nil => rfl
  | cons token rest ih =>
      obtain ⟨htoken, hrest⟩ := List.forall_mem_cons.mp h
      by_cases hempty : rest = []
      · subst hempty
        have hsingle : tokenTexts [token] = token.text.toList := by simp [tokenTexts]
        rw [hsingle, Token.read_text htoken]
      · rw [tokenTexts_cons token hempty, read_append_blank _ _ (by decide),
          Token.read_text htoken, ih hrest, List.singleton_append]

/-- A space separates the tokens in front of it from those behind it, whatever the texts on both
sides are. Tokens are read back from their texts with single spaces between them exactly if they are
words of name characters, marks of a kind of their own, and other characters that are none of
these and no blanks. -/
theorem read_inverts_tokenTexts :
    (∀ first second : List Char,
      Token.read (first ++ ' ' :: second) = Token.read first ++ Token.read second) ∧
    ∀ tokens : List Token,
      (∀ token ∈ tokens, token.IsReadable) ↔ Token.read (tokenTexts tokens) = tokens := by
  refine ⟨fun first second => read_append_blank first second (by decide), fun tokens => ⟨?_, ?_⟩⟩
  · exact read_tokenTexts
  · intro hread token hmem
    rw [← hread] at hmem
    exact Token.isReadable_of_mem_read hmem

/-- Two words, two dots and an ellipsis stand next to each other. -/
theorem read_inverts_tokenTexts_dots :
    let tokens : List Token :=
      [.word "é1", .word "_", .other '.', .other '.', .ellipsis, .other '.', .openBracket, .other ';']
    (∀ token ∈ tokens, token.IsReadable) ∧ Token.read (tokenTexts tokens) = tokens ∧
      tokenTexts tokens = "é1 _ . . ... . [ ;".toList := by
  intro tokens
  have hreadable : ∀ token ∈ tokens, token.IsReadable := by decide +kernel
  exact ⟨hreadable, (read_inverts_tokenTexts.2 tokens).mp hreadable, by rfl⟩

end HeaderBindings.Source
