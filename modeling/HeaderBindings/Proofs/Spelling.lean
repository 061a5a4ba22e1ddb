import HeaderBindings.Proofs.Words
import HeaderBindings.Source.Extensions
import HeaderBindings.Source.Token

/-!
Texts that spell a list of tokens: the words and marks of declarations in order, with any blanks
around them, where no word touches the next one. Such a text is read as the tokens it spells,
whatever is done to its blanks, and it can be cut at every mark.
-/

namespace HeaderBindings.Source
open Text

/-! ### Words -/

/-- An ASCII identifier that stands in a declaration for itself. -/
def IsReadableWord (word : String) : Prop :=
  Identifier.isPlain word = true ∧ word ∉ droppedKeywords ∧ word ∉ extensionNames ∧
    word ≠ "__const" ∧ word ≠ "typedef"

instance : DecidablePred IsReadableWord := fun _ => inferInstanceAs (Decidable (_ ∧ _))

theorem isPlainChar_of_isPlain {word : String} (h : Identifier.isPlain word = true) :
    word.toList ≠ [] ∧ ∀ c ∈ word.toList, isPlainChar c = true := by
  rw [Identifier.isPlain] at h
  cases hword : word.toList with
  | nil =>
      rw [hword] at h
      cases h
  | cons first rest =>
      rw [hword, Identifier.isPlainChars, Bool.and_eq_true, List.all_eq_true] at h
      refine ⟨List.cons_ne_nil _ _, fun c hmem => ?_⟩
      rcases List.mem_cons.mp hmem with rfl | hrest
      · have hfirst := h.1
        simp only [isPlainChar, Char.isAlphanum, Bool.or_eq_true] at hfirst ⊢
        exact hfirst.imp_left Or.inl
      · exact h.2 c hrest

theorem IsReadableWord.toList_ne_nil {word : String} (h : IsReadableWord word) :
    word.toList ≠ [] := (isPlainChar_of_isPlain h.1).1

theorem IsReadableWord.isPlainChar {word : String} (h : IsReadableWord word) :
    ∀ c ∈ word.toList, isPlainChar c = true := (isPlainChar_of_isPlain h.1).2

theorem IsReadableWord.isWordChar {word : String} (h : IsReadableWord word) :
    ∀ c ∈ word.toList, isWordChar c = true :=
  fun c hc => isWordChar_of_isPlainChar (h.isPlainChar c hc)

theorem IsReadableWord.isBlank {word : String} (h : IsReadableWord word) :
    ∀ c ∈ word.toList, isBlank c = false :=
  fun c hc => isBlank_of_isPlainChar (h.isPlainChar c hc)

/-- A readable word is neither dropped nor replaced. -/
theorem IsReadableWord.plainWord_eq {word : String} (h : IsReadableWord word) :
    plainWord word.toList = word.toList := by
  obtain ⟨-, hdropped, -, hconst, -⟩ := h
  have hne : word.toList ≠ "__const".toList := fun heq => hconst (String.toList_inj.mp heq)
  rw [plainWord, String.ofList_toList, if_neg (by simpa using hdropped), if_neg hne]

theorem IsReadableWord.isExtensionName_eq {word : String} (h : IsReadableWord word) :
    isExtensionName word.toList = false := by
  rw [isExtensionName, String.ofList_toList]
  simpa using h.2.2.1

/-! ### Marks -/

/-- The characters that are tokens of declarations on their own. -/
def marks : List Char := ['*', '(', ')', ',', ';']

theorem isBlank_of_mem_marks : ∀ c ∈ marks, isBlank c = false := by
  have hmarks : marks.all (fun c => !isBlank c) = true := by decide +kernel
  simpa using hmarks

theorem isWordChar_of_mem_marks : ∀ c ∈ marks, isWordChar c = false := by
  have hmarks : marks.all (fun c => !isWordChar c) = true := by decide +kernel
  simpa using hmarks

theorem isNameChar_of_mem_marks : ∀ c ∈ marks, isNameChar c = false := by
  have hmarks : marks.all (fun c => !isNameChar c) = true := by decide +kernel
  simpa using hmarks

theorem wordEnds_mark {c : Char} (h : c ∈ marks) (rest : List Char) : WordEnds (c :: rest) :=
  wordEnds_cons.mpr ⟨isWordChar_of_mem_marks c h, isNameChar_of_mem_marks c h⟩

theorem ofMark_ne_word (c : Char) (name : String) : Token.ofMark c ≠ .word name := by
  fun_cases Token.ofMark c <;> simp

theorem toList_text_ofMark (c : Char) : (Token.ofMark c).text.toList = [c] := by
  fun_cases Token.ofMark c <;> simp_all [Token.text]

theorem ofMark_injective {c d : Char} (h : Token.ofMark c = Token.ofMark d) : c = d := by
  have htext : [c] = [d] := calc
    [c] = (Token.ofMark c).text.toList := (toList_text_ofMark c).symm
    _ = (Token.ofMark d).text.toList := by rw [h]
    _ = [d] := toList_text_ofMark d
  exact (List.cons.inj htext).1

/-! ### Blanks -/

/-- A word is kept when runs of blanks are collapsed, and ends the run in front of it. -/
theorem collapseFrom_append (afterBlank : Bool) {word : List Char} (hne : word ≠ [])
    (hword : ∀ c ∈ word, isBlank c = false) (rest : List Char) :
    collapseFrom afterBlank (word ++ rest) = word ++ collapseFrom false rest := by
  induction word generalizing afterBlank with
  | nil => exact absurd rfl hne
  | cons c word ih =>
      have hc := hword c List.mem_cons_self
      rw [List.cons_append, collapseFrom, if_neg (by simp [hc]), List.cons_append]
      by_cases hempty : word = []
      · rw [hempty, List.nil_append, List.nil_append]
      · rw [ih false hempty fun d hd => hword d (List.mem_cons_of_mem c hd)]

theorem WordEnds.collapseFrom {text : List Char} (h : WordEnds text) :
    WordEnds (Text.collapseFrom false text) := by
  cases text with
  | nil => exact wordEnds_nil
  | cons c rest =>
      rw [Text.collapseFrom]
      split
      · exact wordEnds_of_isBlank (by decide) _
      · exact wordEnds_cons.mpr (wordEnds_cons.mp h)

/-- A character is trimmed off the end only if it is blank and so is all behind it. -/
theorem trimEnd_cons (c : Char) (rest : List Char) :
    trimEnd (c :: rest)
      = if isBlank c = true ∧ trimEnd rest = [] then [] else c :: trimEnd rest := by
  have hempty : trimEnd rest = [] ↔ trimStart rest.reverse = [] := List.reverse_eq_nil_iff
  have hsplit : trimEnd (c :: rest) = (if (trimStart rest.reverse).isEmpty then trimStart [c]
      else trimStart rest.reverse ++ [c]).reverse := by
    rw [trimEnd, trimStart, List.reverse_cons, List.dropWhile_append]
    rfl
  by_cases hrest : trimStart rest.reverse = []
  · rw [hsplit, hempty.mpr hrest, hrest]
    by_cases hc : isBlank c = true <;> simp [hc, trimStart]
  · rw [hsplit, if_neg (by simpa using hrest), if_neg fun h => hrest (hempty.mp h.2),
      List.reverse_append]
    rfl

theorem trimEnd_append {word : List Char} (hword : ∀ c ∈ word, isBlank c = false)
    (rest : List Char) : trimEnd (word ++ rest) = word ++ trimEnd rest := by
  induction word with
  | nil => rfl
  | cons c word ih =>
      have hc := hword c List.mem_cons_self
      rw [List.cons_append, trimEnd_cons, if_neg (by simp [hc]),
        ih fun d hd => hword d (List.mem_cons_of_mem c hd), List.cons_append]

theorem WordEnds.trimEnd {text : List Char} (h : WordEnds text) : WordEnds (Text.trimEnd text) := by
  cases text with
  | nil => exact wordEnds_nil
  | cons c rest =>
      rw [trimEnd_cons]
      split
      · exact wordEnds_nil
      · exact wordEnds_cons.mpr (wordEnds_cons.mp h)

/-! ### Reading tokens -/

/-- Any character but a dot is read on its own. -/
theorem readFrom_cons {c : Char} (h : c ≠ '.') (pending rest : List Char) :
    Token.readFrom pending (c :: rest) =
      if isNameChar c then Token.readFrom (c :: pending) rest
      else if isBlank c then Token.ofWord pending ++ Token.read rest
      else Token.ofWord pending ++ Token.ofMark c :: Token.read rest := by
  rw [Token.readFrom]
  · rfl
  · exact fun _ hc _ => h hc
  · exact fun _ hc _ => h hc

/-- The characters of a word are collected, the last one first. -/
theorem readFrom_append (pending : List Char) {word : List Char}
    (hword : ∀ c ∈ word, isNameChar c = true) (rest : List Char) :
    Token.readFrom pending (word ++ rest) = Token.readFrom (word.reverse ++ pending) rest := by
  induction word generalizing pending with
  | nil => rfl
  | cons c word ih =>
      have hc := hword c List.mem_cons_self
      have hdot : c ≠ '.' := by
        rintro rfl
        exact absurd hc (by decide)
      rw [List.cons_append, readFrom_cons hdot, if_pos hc,
        ih _ fun d hd => hword d (List.mem_cons_of_mem c hd), List.reverse_cons, List.append_assoc,
        List.singleton_append]

/-- Where a word ends, the rest is read on its own. -/
theorem readFrom_of_wordEnds (pending : List Char) {rest : List Char} (h : WordEnds rest) :
    Token.readFrom pending rest = Token.ofWord pending ++ Token.read rest := by
  fun_cases Token.readFrom pending rest with
  | case1 => exact (List.append_nil _).symm
  | case2 rest =>
      rw [Token.read, Token.readFrom]
      rfl
  | case3 rest hthree =>
      rw [Token.read, Token.readFrom]
      · rfl
      · exact hthree
  | case4 c rest hthree htwo hname => exact absurd hname (by simp [(wordEnds_cons.mp h).2])
  | case5 c rest hthree htwo hname hblank =>
      rw [Token.read, Token.readFrom, if_neg hname, if_pos hblank]
      · rfl
      · exact hthree
      · exact htwo
  | case6 c rest hthree htwo hname hblank =>
      rw [Token.read, Token.readFrom, if_neg hname, if_neg hblank]
      · rfl
      · exact hthree
      · exact htwo

theorem read_blank {c : Char} (h : isBlank c = true) (rest : List Char) :
    Token.read (c :: rest) = Token.read rest := by
  have hdot : c ≠ '.' := by
    rintro rfl
    exact absurd h (by decide)
  rw [Token.read, readFrom_cons hdot, if_neg (by simp [isNameChar_of_isBlank h]), if_pos h]
  rfl

theorem read_mark {c : Char} (h : c ∈ marks) (rest : List Char) :
    Token.read (c :: rest) = Token.ofMark c :: Token.read rest := by
  have hdot : c ≠ '.' := by
    rintro rfl
    exact absurd h (by decide)
  rw [Token.read, readFrom_cons hdot, if_neg (by simp [isNameChar_of_mem_marks c h]),
    if_neg (by simp [isBlank_of_mem_marks c h])]
  rfl

theorem read_word {name : String} (hne : name.toList ≠ [])
    (hname : ∀ c ∈ name.toList, isNameChar c = true) {rest : List Char} (hrest : WordEnds rest) :
    Token.read (name.toList ++ rest) = .word name :: Token.read rest := by
  rw [Token.read, readFrom_append [] hname, readFrom_of_wordEnds _ hrest, Token.ofWord,
    if_neg (by simp [hne])]
  simp

/-! ### Spelled tokens -/

/-- The tokens that a text can spell: readable words and marks. -/
def Token.IsSpellable (token : Token) : Prop :=
  (∃ name, IsReadableWord name ∧ token = .word name) ∨ ∃ c ∈ marks, token = .ofMark c

/-- A text spells tokens when it consists of their words and marks and of blanks, and each word
ends where its token ends. -/
inductive Spells : List Token → List Char → Prop where
  | nil : Spells [] []
  | blank {tokens : List Token} {text : List Char} {c : Char} (hc : isBlank c = true)
      (rest : Spells tokens text) : Spells tokens (c :: text)
  | word {tokens : List Token} {text : List Char} {name : String} (hname : IsReadableWord name)
      (hends : WordEnds text) (rest : Spells tokens text) :
      Spells (.word name :: tokens) (name.toList ++ text)
  | mark {tokens : List Token} {text : List Char} {c : Char} (hc : c ∈ marks)
      (rest : Spells tokens text) : Spells (Token.ofMark c :: tokens) (c :: text)

namespace Spells
variable {tokens first second : List Token} {text front back : List Char}

/-- The tokens are read back from the text. -/
theorem read (h : Spells tokens text) : Token.read text = tokens := by
  induction h with
  | nil => rfl
  | blank hc _ ih => rw [read_blank hc, ih]
  | word hname hends _ ih =>
      rw [read_word hname.toList_ne_nil
        (fun c hc => isNameChar_of_isPlainChar (hname.isPlainChar c hc)) hends, ih]
  | mark hc _ ih => rw [read_mark hc, ih]

/-- Two texts may be joined unless this makes one word of two. -/
theorem append (hfirst : Spells first front) (hsecond : Spells second back)
    (hends : WordEnds back) : Spells (first ++ second) (front ++ back) := by
  induction hfirst with
  | nil => exact hsecond
  | blank hc _ ih => exact .blank hc ih
  | word hname hword _ ih =>
      rw [List.append_assoc]
      exact .word hname (hword.append hends) ih
  | mark hc _ ih => exact .mark hc ih

theorem isSpellable (h : Spells tokens text) : ∀ token ∈ tokens, token.IsSpellable := by
  induction h with
  | nil => simp
  | blank _ _ ih => exact ih
  | @word _ _ name hname _ _ ih => exact List.forall_mem_cons.mpr ⟨Or.inl ⟨name, hname, rfl⟩, ih⟩
  | @mark _ _ c hc _ ih => exact List.forall_mem_cons.mpr ⟨Or.inr ⟨c, hc, rfl⟩, ih⟩

/-- Every word in the text is readable. -/
theorem isReadableWord (h : Spells tokens text) {name : String} (hmem : .word name ∈ tokens) :
    IsReadableWord name := by
  rcases h.isSpellable _ hmem with ⟨word, hword, heq⟩ | ⟨c, -, heq⟩
  · obtain rfl := Token.word.inj heq
    exact hword
  · exact absurd heq.symm (ofMark_ne_word c name)

/-- The text has no characters but blanks, those of words, and the marks it spells. -/
theorem mem_text (h : Spells tokens text) {c : Char} (hmem : c ∈ text) :
    isBlank c = true ∨ isPlainChar c = true ∨ (c ∈ marks ∧ Token.ofMark c ∈ tokens) := by
  induction h with
  | nil => cases hmem
  | blank hc _ ih =>
      rcases List.mem_cons.mp hmem with rfl | hrest
      · exact Or.inl hc
      · exact ih hrest
  | word hname _ _ ih =>
      rcases List.mem_append.mp hmem with hword | hrest
      · exact Or.inr (Or.inl (hname.isPlainChar c hword))
      · exact (ih hrest).imp_right (Or.imp_right (And.imp_right (List.mem_cons_of_mem _)))
  | mark hc _ ih =>
      rcases List.mem_cons.mp hmem with rfl | hrest
      · exact Or.inr (Or.inr ⟨hc, List.mem_cons_self⟩)
      · exact (ih hrest).imp_right (Or.imp_right (And.imp_right (List.mem_cons_of_mem _)))

/-- A text is cut at a mark it spells. -/
theorem split (c : Char) (h : Spells (first ++ Token.ofMark c :: second) text) :
    ∃ front back, text = front ++ c :: back ∧ Spells first front ∧ Spells second back := by
  generalize htokens : first ++ Token.ofMark c :: second = tokens at h
  induction h generalizing first with
  | nil => simp at htokens
  | blank hd _ ih =>
      obtain ⟨front, back, rfl, hfront, hback⟩ := ih htokens
      exact ⟨_ :: front, back, rfl, .blank hd hfront, hback⟩
  | @word tokens text name hname hends _ ih =>
      cases first with
      | nil => exact absurd (List.cons.inj htokens).1 (ofMark_ne_word _ _)
      | cons token first =>
          obtain ⟨htoken, hothers⟩ := List.cons.inj htokens
          obtain ⟨front, back, rfl, hfront, hback⟩ := ih hothers
          subst htoken
          exact ⟨name.toList ++ front, back, (List.append_assoc ..).symm,
            .word hname hends.of_append hfront, hback⟩
  | mark hd hrest ih =>
      cases first with
      | nil =>
          obtain ⟨heq, rfl⟩ := List.cons.inj htokens
          obtain rfl := ofMark_injective heq
          exact ⟨[], _, rfl, .nil, hrest⟩
      | cons token first =>
          obtain ⟨htoken, hothers⟩ := List.cons.inj htokens
          obtain ⟨front, back, rfl, hfront, hback⟩ := ih hothers
          subst htoken
          exact ⟨_ :: front, back, rfl, .mark hd hfront, hback⟩

/-- Collapsing blanks keeps the tokens. -/
theorem collapseFrom (h : Spells tokens text) (afterBlank : Bool) :
    Spells tokens (collapseFrom afterBlank text) := by
  induction h generalizing afterBlank with
  | nil => exact .nil
  | blank hc _ ih =>
      rw [Text.collapseFrom, if_pos hc]
      split
      · exact ih true
      · exact .blank (by decide) (ih true)
  | word hname hends _ ih =>
      rw [collapseFrom_append afterBlank hname.toList_ne_nil hname.isBlank]
      exact .word hname hends.collapseFrom (ih false)
  | mark hc _ ih =>
      rw [Text.collapseFrom, if_neg (by simp [isBlank_of_mem_marks _ hc])]
      exact .mark hc (ih false)

theorem trimStart (h : Spells tokens text) : Spells tokens (trimStart text) := by
  induction h with
  | nil => exact .nil
  | blank hc _ ih => rwa [Text.trimStart, List.dropWhile_cons_of_pos hc]
  | @word tokens text name hname hends hrest _ =>
      obtain ⟨c, word, hword⟩ := List.exists_cons_of_ne_nil hname.toList_ne_nil
      have hc : isBlank c = false := hname.isBlank c (by rw [hword]; exact List.mem_cons_self)
      have hkept : Text.trimStart (name.toList ++ text) = name.toList ++ text := by
        rw [hword, List.cons_append, Text.trimStart, List.dropWhile_cons_of_neg (by simp [hc])]
      rw [hkept]
      exact .word hname hends hrest
  | mark hc hrest _ =>
      rw [Text.trimStart, List.dropWhile_cons_of_neg (by simp [isBlank_of_mem_marks _ hc])]
      exact .mark hc hrest

theorem trimEnd (h : Spells tokens text) : Spells tokens (trimEnd text) := by
  induction h with
  | nil => exact .nil
  | blank hc _ ih =>
      rw [trimEnd_cons]
      split
      case isTrue hempty => rwa [← hempty.2]
      case isFalse => exact .blank hc ih
  | word hname hends _ ih =>
      rw [trimEnd_append hname.isBlank]
      exact .word hname hends.trimEnd ih
  | mark hc _ ih =>
      rw [trimEnd_cons, if_neg (by simp [isBlank_of_mem_marks _ hc])]
      exact .mark hc ih

/-- Trimming keeps the tokens. -/
theorem trim (h : Spells tokens text) : Spells tokens (trim text) := h.trimStart.trimEnd

end Spells

end HeaderBindings.Source
