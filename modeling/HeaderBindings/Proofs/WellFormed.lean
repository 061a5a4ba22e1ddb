import HeaderBindings.Proofs.Statements
import HeaderBindings.Signature

/-!
Declarations whose C notation says what they are. Their names and the words of their types stand for
themselves, no type is written with more than its words, and no parameter without a name ends in a
word that would be taken for one. The text of such a declaration spells tokens that are read as the
declaration.
-/

namespace HeaderBindings.Source
open Text

/-! ### Words -/

/-- A word that is a name of something, outside the notation of types. -/
def IsPlainWord (word : String) : Prop := IsReadableWord word ∧ isTypeWord word = false

instance : DecidablePred IsPlainWord := fun _ => inferInstanceAs (Decidable (_ ∧ _))

/-- A word that a base name can have. -/
def IsBaseWord (word : String) : Prop := IsPlainWord word ∨ word ∈ typeKeywords

instance : DecidablePred IsBaseWord := fun _ => inferInstanceAs (Decidable (_ ∨ _))

theorem isReadableWord_of_mem_qualifierKeywords :
    ∀ word ∈ qualifierKeywords, IsReadableWord word := by decide +kernel

theorem IsBaseWord.isReadableWord {word : String} (h : IsBaseWord word) : IsReadableWord word := by
  have hkeywords : ∀ word ∈ typeKeywords, IsReadableWord word := by decide +kernel
  rcases h with hplain | hkeyword
  · exact hplain.1
  · exact hkeywords word hkeyword

/-- A word of a base name is neither a qualifier nor in front of a tag. -/
theorem IsBaseWord.not_mem {word : String} (h : IsBaseWord word) :
    word ∉ qualifierKeywords ∧ word ∉ tagKeywords := by
  have hkeywords : ∀ word ∈ typeKeywords, word ∉ qualifierKeywords ∧ word ∉ tagKeywords := by
    decide +kernel
  rcases h with hplain | hkeyword
  · have htype := hplain.2
    simp only [isTypeWord, Bool.or_eq_false_iff, List.contains_eq_mem,
      decide_eq_false_iff_not] at htype
    exact ⟨htype.1.2, htype.2⟩
  · exact hkeywords word hkeyword

/-! ### Types -/

namespace Specifiers

/-- The type that is written with the specifiers. -/
def type (written : Specifiers) : CType :=
  .behindPointers written.stars
    (.named written.qualifiers (String.intercalate " " written.words))

/-- The tokens with which the type is written. -/
def tokens (written : Specifiers) : List Token :=
  written.qualifiers.map .word ++ written.words.map .word ++ List.replicate written.stars .star

/-- Specifiers that are all kept: no qualifier comes twice, and there is a base name, whose words
are no qualifiers. -/
structure WellFormed (written : Specifiers) : Prop where
  nodup : written.qualifiers.Nodup
  qualifier : ∀ word ∈ written.qualifiers, word ∈ qualifierKeywords
  nonempty : written.words ≠ []
  base : ∀ word ∈ written.words, IsBaseWord word

instance (written : Specifiers) : Decidable written.WellFormed :=
  decidable_of_iff (written.qualifiers.Nodup ∧
      (∀ word ∈ written.qualifiers, word ∈ qualifierKeywords) ∧ written.words ≠ [] ∧
      ∀ word ∈ written.words, IsBaseWord word)
    ⟨fun ⟨nodup, qualifier, nonempty, base⟩ => ⟨nodup, qualifier, nonempty, base⟩,
      fun ⟨nodup, qualifier, nonempty, base⟩ => ⟨nodup, qualifier, nonempty, base⟩⟩

theorem isSpecifier_of_mem_tokens (written : Specifiers) :
    ∀ token ∈ written.tokens, token.isSpecifier = true := by
  simp only [tokens, List.mem_append, List.mem_map, List.mem_replicate]
  rintro token ((⟨word, -, rfl⟩ | ⟨word, -, rfl⟩) | ⟨-, rfl⟩) <;> rfl

end Specifiers

theorem typeFrom?_word {read next : Specifiers} {word : String}
    (h : read.add (.word word) = .ok next) (rest : List Token) :
    typeFrom? read (.word word :: rest) = typeFrom? next rest := by
  rw [typeFrom?, h]

/-- Qualifiers that are new are collected. -/
theorem typeFrom?_qualifiers (known : List String) {new : List String}
    (hnodup : (known ++ new).Nodup) (hnew : ∀ word ∈ new, word ∈ qualifierKeywords)
    (rest : List Token) :
    typeFrom? { qualifiers := known } (new.map .word ++ rest)
      = typeFrom? { qualifiers := known ++ new } rest := by
  induction new generalizing known with
  | nil => rw [List.append_nil, List.map_nil, List.nil_append]
  | cons word new ih =>
      have hword : word ∉ known := by
        intro hmem
        exact (List.nodup_append.mp hnodup).2.2 word hmem word List.mem_cons_self rfl
      have hadd : Specifiers.add { qualifiers := known } (.word word)
          = .ok { qualifiers := known ++ [word] } := by
        simp [Specifiers.add, hnew word List.mem_cons_self, hword]
      rw [List.append_cons] at hnodup
      rw [List.map_cons, List.cons_append, typeFrom?_word hadd,
        ih _ hnodup fun other hmem => hnew other (List.mem_cons_of_mem word hmem),
        ← List.append_cons]

/-- Words of the base name are collected. -/
theorem typeFrom?_words (qualifiers known : List String) {new : List String}
    (hnew : ∀ word ∈ new, IsBaseWord word) (rest : List Token) :
    typeFrom? { qualifiers, words := known } (new.map .word ++ rest)
      = typeFrom? { qualifiers, words := known ++ new } rest := by
  induction new generalizing known with
  | nil => rw [List.append_nil, List.map_nil, List.nil_append]
  | cons word new ih =>
      obtain ⟨hqualifier, htag⟩ := (hnew word List.mem_cons_self).not_mem
      have hadd : Specifiers.add { qualifiers, words := known } (.word word)
          = .ok { qualifiers, words := known ++ [word] } := by
        simp [Specifiers.add, hqualifier, htag]
      rw [List.map_cons, List.cons_append, typeFrom?_word hadd,
        ih _ fun other hmem => hnew other (List.mem_cons_of_mem word hmem), ← List.append_cons]

/-- Stars are counted. -/
theorem typeFrom?_stars (read : Specifiers) (count : Nat) :
    typeFrom? read (List.replicate count .star)
      = Specifiers.type? { read with stars := read.stars + count } := by
  induction count generalizing read with
  | zero => rfl
  | succ count ih =>
      have hstar : typeFrom? read (List.replicate (count + 1) .star)
          = typeFrom? { read with stars := read.stars + 1 } (List.replicate count .star) := rfl
      rw [hstar, ih, Nat.add_right_comm, Nat.add_assoc]

/-- The type is read back from its tokens. -/
theorem Specifiers.WellFormed.type?_tokens {written : Specifiers} (h : written.WellFormed) :
    Source.type? written.tokens = some written.type := by
  rw [Source.type?, Specifiers.tokens, List.append_assoc,
    typeFrom?_qualifiers [] h.nodup h.qualifier, typeFrom?_words _ [] h.base, typeFrom?_stars,
    Specifiers.type?, if_neg]
  · simp [Specifiers.type]
  · simpa using h.nonempty

/-! ### The text of a type -/

/-- A word may be followed by a space. -/
theorem Spells.spaced {tokens : List Token} {text : List Char} {name : String}
    (hname : IsReadableWord name) (h : Spells tokens text) :
    Spells (.word name :: tokens) (name.toList ++ ' ' :: text) :=
  .word hname (wordEnds_of_isBlank (by decide) text) (.blank (by decide) h)

theorem spells_words {words : List String} (h : ∀ word ∈ words, IsReadableWord word) :
    Spells (words.map .word) (String.intercalate " " words).toList := by
  induction words with
  | nil => exact .nil
  | cons word rest ih =>
      have hword := h word List.mem_cons_self
      have hrest := ih fun other hmem => h other (List.mem_cons_of_mem word hmem)
      cases rest with
      | nil =>
          rw [String.intercalate_singleton, ← List.append_nil word.toList]
          exact .word hword wordEnds_nil .nil
      | cons other rest =>
          have htext : (String.intercalate " " (word :: other :: rest)).toList
              = word.toList ++ ' ' :: (String.intercalate " " (other :: rest)).toList := by
            simp [String.intercalate_cons_cons]
          rw [htext]
          exact hrest.spaced hword

theorem spells_qualifiers {words : List String} (h : ∀ word ∈ words, IsReadableWord word)
    {tokens : List Token} {text : List Char} (htext : Spells tokens text) :
    Spells (words.map .word ++ tokens) ((String.join (words.map (· ++ " "))).toList ++ text) := by
  induction words with
  | nil => simpa using htext
  | cons word rest ih =>
      have hrest := ih fun other hmem => h other (List.mem_cons_of_mem word hmem)
      simpa using hrest.spaced (h word List.mem_cons_self)

theorem spells_stars (count : Nat) :
    Spells (List.replicate count .star) (List.replicate count '*') := by
  induction count with
  | zero => exact .nil
  | succ count ih => exact .mark (c := '*') (by decide) ih

theorem toList_display_behindPointers (depth : Nat) (type : CType) :
    (CType.behindPointers depth type).display.toList
      = type.display.toList ++ List.replicate depth '*' := by
  induction depth with
  | zero => exact (List.append_nil _).symm
  | succ depth ih =>
      rw [CType.behindPointers, CType.display, String.toList_append, ih, List.replicate_succ',
        List.append_assoc]
      rfl

/-- The text of a type spells its tokens. -/
theorem Specifiers.WellFormed.spells {written : Specifiers} (h : written.WellFormed) :
    Spells written.tokens written.type.display.toList := by
  have hends : WordEnds (List.replicate written.stars '*') := by
    cases written.stars with
    | zero => exact wordEnds_nil
    | succ count => exact wordEnds_mark (by decide) _
  have hwords := spells_words fun word hmem => (h.base word hmem).isReadableWord
  have hnamed := spells_qualifiers
    (fun word hmem => isReadableWord_of_mem_qualifierKeywords word (h.qualifier word hmem)) hwords
  rw [type, toList_display_behindPointers, CType.display, String.toList_append]
  exact hnamed.append (spells_stars _) hends

end HeaderBindings.Source

namespace HeaderBindings
open Source Text

/-! ### Parameters -/

namespace Parameter

/-- A parameter of a type that is written with such specifiers. Without a name, the last word of its
type must not be taken for one: it stands in front of a star, alone, or belongs to the notation of
types. -/
def WellFormed (parameter : Parameter) : Prop :=
  ∃ written : Specifiers, written.WellFormed ∧ parameter.type = written.type ∧
    (IsPlainWord parameter.name ∨
      parameter.name = "" ∧ (written.stars = 0 →
        written.words.length = 1 ∨ ∃ word ∈ written.words.getLast?, word ∈ typeKeywords))

/-- The tokens with which a parameter is written. -/
def tokens (written : Specifiers) (name : String) : List Token :=
  written.tokens ++ if name.isEmpty then [] else [.word name]

theorem isEmpty_eq_false {name : String} (h : IsPlainWord name) : name.isEmpty = false := by
  rw [Bool.eq_false_iff]
  intro hempty
  exact h.1.toList_ne_nil (by simpa using hempty)

theorem tokens_unnamed (written : Specifiers) : tokens written "" = written.tokens := by
  simp [tokens]

theorem tokens_named (written : Specifiers) {name : String} (h : IsPlainWord name) :
    tokens written name = written.tokens ++ [.word name] := by
  rw [tokens, isEmpty_eq_false h, if_neg (by simp)]

theorem isSpecifier_of_mem_tokens (written : Specifiers) (name : String) :
    ∀ token ∈ tokens written name, token.isSpecifier = true := by
  intro token hmem
  rcases List.mem_append.mp hmem with hmem | hmem
  · exact written.isSpecifier_of_mem_tokens token hmem
  · split at hmem
    · cases hmem
    · obtain rfl := List.mem_singleton.mp hmem
      rfl

/-- Words of a base name carry a type. -/
theorem any_carriesType {written : Specifiers} (h : written.WellFormed) :
    written.tokens.any Token.carriesType = true := by
  obtain ⟨word, hword⟩ := List.exists_mem_of_ne_nil _ h.nonempty
  obtain ⟨hqualifier, htag⟩ := (h.base word hword).not_mem
  refine List.any_eq_true.mpr ⟨.word word, ?_, by simp [Token.carriesType, hqualifier, htag]⟩
  simp [Specifiers.tokens, hword]

/-- A name is split off. -/
theorem splitName_named {written : Specifiers} (h : written.WellFormed) {name : String}
    (hname : IsPlainWord name) : splitName (tokens written name) = (name, written.tokens) := by
  rw [tokens_named written hname, splitName, List.getLast?_concat, List.dropLast_concat]
  simp [hname.2, any_carriesType h]

/-- Nothing is taken for a name that is none. -/
theorem splitName_unnamed {written : Specifiers} (h : written.WellFormed)
    (hlast : written.stars = 0 →
      written.words.length = 1 ∨ ∃ word ∈ written.words.getLast?, word ∈ typeKeywords) :
    splitName written.tokens = ("", written.tokens) := by
  by_cases hstars : written.stars = 0
  · have hwords := List.dropLast_append_getLast h.nonempty
    generalize written.words.dropLast = init at hwords
    generalize written.words.getLast h.nonempty = last at hwords
    have htokens : written.tokens
        = written.qualifiers.map .word ++ init.map .word ++ [.word last] := by
      simp [Specifiers.tokens, hstars, ← hwords]
    have hkeep : isTypeWord last = true ∨
        (written.qualifiers.map Token.word ++ init.map Token.word).any Token.carriesType
          = false := by
      rcases hlast hstars with hlength | ⟨word, hword, hkeyword⟩
      · right
        have hinit : init = [] := by simpa [← hwords] using hlength
        simpa [hinit, Token.carriesType] using
          fun word hmem hne => absurd (h.qualifier word hmem) hne
      · left
        obtain rfl : last = word := by simpa [← hwords] using hword
        simp [isTypeWord, hkeyword]
    rw [htokens, splitName, List.getLast?_concat, List.dropLast_concat]
    rcases hkeep with htype | hcarries
    · simp [htype]
    · simp only [hcarries, Bool.and_false, Bool.false_eq_true, if_false]
  · obtain ⟨count, hcount⟩ := Nat.exists_eq_succ_of_ne_zero hstars
    have hlast : written.tokens.getLast? = some .star := by
      rw [Specifiers.tokens, hcount, List.replicate_succ', ← List.append_assoc,
        List.getLast?_concat]
    rw [splitName, hlast]

/-- Words and stars declare what `splitName` makes of them. -/
theorem parameter_of_splitName {tokens typeTokens : List Token} {name : String} {type : CType}
    (h : ∀ token ∈ tokens, token.isSpecifier = true)
    (hsplit : splitName tokens = (name, typeTokens)) (htype : type? typeTokens = some type) :
    parameter tokens = ⟨name, type⟩ := by
  have hother {token : Token} (htoken : token.isSpecifier = false) : token ∉ tokens := by
    intro hmem
    rw [h token hmem] at htoken
    cases htoken
  have hellipsis : tokens ≠ [.ellipsis] := by
    intro heq
    have hmem : Token.ellipsis ∈ tokens := by rw [heq]; exact List.mem_cons_self
    exact hother rfl hmem
  rw [Source.parameter_of_splitName hellipsis (hother rfl) (hother rfl) hsplit, htype]
  rfl

/-- The text of a parameter spells tokens that are read as the parameter. -/
theorem WellFormed.exists_tokens {parameter : Parameter} (h : parameter.WellFormed) :
    ∃ tokens, Spells tokens parameter.display.toList ∧ tokens ≠ [] ∧
      (∀ token ∈ tokens, token.isSpecifier = true) ∧ Source.parameter tokens = parameter := by
  obtain ⟨name, type⟩ := parameter
  obtain ⟨written, hwritten, rfl, hname⟩ := h
  have hne : tokens written name ≠ [] := by
    have hcarries := any_carriesType hwritten
    intro hempty
    rw [(List.append_eq_nil_iff.mp hempty).1] at hcarries
    cases hcarries
  refine ⟨tokens written name, ?_, hne, isSpecifier_of_mem_tokens written name, ?_⟩
  · have hspells := hwritten.spells
    rcases hname with hplain | ⟨hempty, -⟩
    · have htext : (display ⟨name, written.type⟩).toList
          = written.type.display.toList ++ ' ' :: (name.toList ++ []) := by
        simp [display, isEmpty_eq_false hplain]
      rw [tokens_named written hplain, htext]
      exact hspells.append (.blank (by decide) (.word hplain.1 wordEnds_nil .nil))
        (wordEnds_of_isBlank (by decide) _)
    · obtain rfl : name = "" := hempty
      simpa [tokens_unnamed, display] using hspells
  · refine parameter_of_splitName (isSpecifier_of_mem_tokens written name) ?_
      hwritten.type?_tokens
    rcases hname with hplain | ⟨hempty, hlast⟩
    · exact splitName_named hwritten hplain
    · obtain rfl : name = "" := hempty
      rw [tokens_unnamed]
      exact splitName_unnamed hwritten hlast

/-- The text of a list of parameters spells groups of tokens with commas between them. -/
theorem exists_groups {list : List Parameter} (h : ∀ parameter ∈ list, parameter.WellFormed) :
    ∃ groups, Spells ([Token.comma].intercalate groups)
        (String.intercalate ", " (list.map display)).toList ∧
      (∀ group ∈ groups, group ≠ []) ∧
      (∀ group ∈ groups, ∀ token ∈ group, token.isSpecifier = true) ∧
      groups.map Source.parameter = list := by
  induction list with
  | nil => exact ⟨[], .nil, by simp, by simp, rfl⟩
  | cons first rest ih =>
      obtain ⟨group, hgroup, hne, hspecifier, hfirst⟩ := (h first List.mem_cons_self).exists_tokens
      obtain ⟨groups, hgroups, hnonempty, hspecifiers, hrest⟩ :=
        ih fun other hmem => h other (List.mem_cons_of_mem first hmem)
      refine ⟨group :: groups, ?_, List.forall_mem_cons.mpr ⟨hne, hnonempty⟩,
        List.forall_mem_cons.mpr ⟨hspecifier, hspecifiers⟩, by rw [List.map_cons, hfirst, hrest]⟩
      cases rest with
      | nil =>
          obtain rfl := List.map_eq_nil_iff.mp hrest
          simpa using hgroup
      | cons second others =>
          have hgroups_ne : groups ≠ [] := by
            rintro rfl
            cases hrest
          have hcomma : ',' ∈ marks := by decide
          have htext : (String.intercalate ", " ((first :: second :: others).map display)).toList
              = first.display.toList ++ ',' :: ' ' ::
                (String.intercalate ", " ((second :: others).map display)).toList := by
            simp [String.intercalate_cons_cons]
          rw [List.intercalate_cons_of_ne_nil hgroups_ne, List.append_assoc, htext]
          exact hgroup.append (.mark hcomma (.blank (by decide) hgroups)) (wordEnds_mark hcomma _)

end Parameter

/-! ### Declarations -/

namespace Signature

/-- A declaration with a plain name whose types are written with well-formed specifiers. The list of
its parameters is not `void`, which would be read as the empty list. -/
structure WellFormed (signature : Signature) : Prop where
  name : IsPlainWord signature.name
  returnType : ∃ written : Specifiers, written.WellFormed ∧ signature.returnType = written.type
  parameters : ∀ parameter ∈ signature.parameters, parameter.WellFormed
  not_void : signature.parameters ≠ [⟨"", .named [] "void"⟩]

/-- The text of a well-formed declaration spells tokens that are read as the declaration. -/
theorem WellFormed.exists_tokens {signature : Signature} (h : signature.WellFormed) :
    ∃ tokens, Spells tokens signature.display.toList ∧ Declares tokens signature := by
  obtain ⟨name, returnType, list⟩ := signature
  obtain ⟨hname, ⟨written, hwritten, htype⟩, hlist, hvoid⟩ := h
  obtain rfl : returnType = written.type := htype
  obtain ⟨groups, hgroups, hnonempty, hspecifiers, hparameters⟩ := Parameter.exists_groups hlist
  have hgroups_ne : groups ≠ [[.word "void"]] := by
    rintro rfl
    have hread : [Source.parameter [.word "void"]] = [⟨"", .named [] "void"⟩] := by decide +kernel
    exact hvoid (hparameters.symm.trans hread)
  have hfront : IsFlat (written.tokens ++ [.word name]) := by
    intro token hmem
    rcases List.mem_append.mp hmem with hmem | hmem
    · exact Or.inl (written.isSpecifier_of_mem_tokens token hmem)
    · obtain rfl := List.mem_singleton.mp hmem
      exact Or.inl rfl
  have hinner : IsFlat ([Token.comma].intercalate groups) := by
    by_cases hempty : groups = []
    · simp [hempty, IsFlat]
    · exact (of_intercalate_comma hempty hspecifiers).1
  refine ⟨written.tokens ++ [.word name] ++ .openParen ::
    ([Token.comma].intercalate groups ++ [.closeParen]), ?_, ?_, _, _, rfl, hfront, hinner⟩
  · have hopen : '(' ∈ marks := by decide
    have hclose : ')' ∈ marks := by decide
    have htext : (display ⟨name, written.type, list⟩).toList
        = written.type.display.toList ++ ' ' :: (name.toList ++ '(' ::
          ((String.intercalate ", " (list.map Parameter.display)).toList ++ [')'])) := by
      simp [display]
    rw [htext, List.append_assoc]
    refine hwritten.spells.append ?_ (wordEnds_of_isBlank (by decide) _)
    refine .blank (by decide) (.word hname.1 (wordEnds_mark hopen _) (.mark hopen ?_))
    exact hgroups.append (.mark hclose .nil) (wordEnds_mark hclose _)
  · have hnot {token : Token} (hspecifier : token.isSpecifier = false) (hcomma : token ≠ .comma)
        {tokens : List Token} (h : IsFlat tokens) : token ∉ tokens := by
      intro hmem
      rcases h token hmem with hflat | hflat
      · rw [hspecifier] at hflat
        cases hflat
      · exact hcomma hflat
    have hopen : .openParen ∉ written.tokens ++ [Token.comma].intercalate groups := by
      rw [List.mem_append, not_or]
      exact ⟨fun hmem => hnot rfl (by simp) hfront (List.mem_append_left _ hmem),
        hnot rfl (by simp) hinner⟩
    rw [declarationOfTokens_list hwritten.type?_tokens hname.2 hopen (hnot rfl (by simp) hinner),
      parameters_intercalate hspecifiers hnonempty hgroups_ne, hparameters]

theorem WellFormed.spells {signature : Signature} (h : signature.WellFormed) :
    Spells (Token.read signature.display.toList) signature.display.toList := by
  obtain ⟨tokens, hspells, -⟩ := h.exists_tokens
  rwa [hspells.read]

theorem WellFormed.declares {signature : Signature} (h : signature.WellFormed) :
    Declares (Token.read signature.display.toList) signature := by
  obtain ⟨tokens, hspells, hdeclares⟩ := h.exists_tokens
  rwa [hspells.read]

/-- The tokens of the statement are those of the declaration and a semicolon. -/
theorem WellFormed.spells_statement {signature : Signature} (h : signature.WellFormed) :
    Spells (Token.read signature.display.toList ++ [.other ';']) signature.statement.toList := by
  have hsemicolon : ';' ∈ marks := by decide
  rw [statement, String.toList_append]
  exact h.spells.append (.mark hsemicolon .nil) (wordEnds_mark hsemicolon _)

theorem WellFormed.read_statement {signature : Signature} (h : signature.WellFormed) :
    Token.read signature.statement.toList
      = Token.read signature.display.toList ++ [.other ';'] := h.spells_statement.read

end Signature

/-- Well-formed declarations are read from every source that, cleaned, spells their statements. -/
theorem Source.value_readHeader_of_spells {signatures : List Signature} {source : String}
    (hwf : ∀ signature ∈ signatures, signature.WellFormed)
    (h : Spells (signatures.flatMap fun signature => Token.read signature.statement.toList)
      (clean source.toList).value) :
    (readHeader {} source).value = ⟨signatures, []⟩ := by
  have htokens : signatures.flatMap (fun signature => Token.read signature.statement.toList)
      = signatures.flatMap fun signature =>
          Token.read signature.display.toList ++ [.other ';'] := by
    rw [List.flatMap_def, List.flatMap_def,
      List.map_congr_left fun signature hmem => (hwf signature hmem).read_statement]
  rw [htokens] at h
  rw [readHeader, Logged.value_bind]
  exact value_readStatements (fun signature hmem => (hwf signature hmem).declares) h

end HeaderBindings
