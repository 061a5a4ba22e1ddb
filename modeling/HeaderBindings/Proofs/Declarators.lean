import HeaderBindings.Proofs.Declarations

/-!
What statements are declarations. The first parenthesis opens the parameter list, a word that may be
a name stands in front of it, and the list is closed by the last token. What stands in front of the
name need not be a type that can be rendered, but it has to hold more than stars, qualifiers and the
keywords of tags. The parameters are as many as the commas of the list outside further brackets say.
-/

namespace HeaderBindings.Source

/-! ### Types -/

/-- A word that names a type, alone or with others. -/
def Token.isBaseWord : Token → Bool
  | .word name => !qualifierKeywords.contains name && !tagKeywords.contains name
  | _ => false

/-- A star, a qualifier or the keyword of a tag. -/
def Token.decorates : Token → Bool
  | .star => true
  | .word name => qualifierKeywords.contains name || tagKeywords.contains name
  | _ => false

/-- There is a base word in front of all stars, or some token that is more than decoration. -/
def IsTyped (tokens : List Token) : Prop :=
  (∃ front base rest, tokens = front ++ base :: rest ∧ base.isBaseWord = true ∧ .star ∉ front) ∨
    ∃ token ∈ tokens, token.decorates = false

/-- A base word is more than decoration, wherever it stands. -/
theorem isTyped_iff {tokens : List Token} :
    IsTyped tokens ↔ ∃ token ∈ tokens, token.decorates = false := by
  constructor
  · rintro (⟨front, base, rest, rfl, hbase, -⟩ | htoken)
    · refine ⟨base, by simp, ?_⟩
      cases base with
      | word name => simpa [Token.isBaseWord, Token.decorates] using hbase
      | _ => cases hbase
    · exact htoken
  · exact .inr

/-- Decoration adds no word to the base name. -/
theorem Specifiers.add_of_decorates {token : Token} (h : token.decorates = true)
    (read : Specifiers) : ∃ next, read.add token = .ok next ∧ next.words = read.words := by
  cases token with
  | star => exact ⟨_, rfl, rfl⟩
  | word name =>
      rw [add]
      split
      case isTrue =>
        split
        · exact ⟨_, rfl, rfl⟩
        · exact ⟨_, rfl, rfl⟩
      case isFalse hqualifier =>
        split
        case isTrue => exact ⟨_, rfl, rfl⟩
        case isFalse htag =>
          exact absurd (Bool.or_eq_true_iff.mp h) (not_or.mpr ⟨hqualifier, htag⟩)
  | _ => cases h

/-- Any other token is a word of the base name or decides the shape. -/
theorem Specifiers.add_of_not_decorates {token : Token} (h : token.decorates = false)
    (read : Specifiers) :
    (∃ shape, read.add token = .error shape) ∨
      ∃ next, read.add token = .ok next ∧ next.words ≠ [] := by
  cases token with
  | word name =>
      obtain ⟨hqualifier, htag⟩ := Bool.or_eq_false_iff.mp h
      rw [add, if_neg (Bool.eq_false_iff.mp hqualifier), if_neg (Bool.eq_false_iff.mp htag)]
      split
      · exact .inr ⟨_, rfl, by simp⟩
      · exact .inl ⟨_, rfl⟩
  | star => cases h
  | _ => exact .inl ⟨_, rfl⟩

theorem typeFrom?_eq_none_iff {read : Specifiers} {tokens : List Token} :
    typeFrom? read tokens = none ↔
      read.words = [] ∧ ∀ token ∈ tokens, token.decorates = true := by
  induction tokens generalizing read with
  | nil => simp [typeFrom?, Specifiers.type?]
  | cons token rest ih =>
      rw [typeFrom?, List.forall_mem_cons]
      cases hdecorates : token.decorates with
      | true =>
          obtain ⟨next, hnext, hwords⟩ := Specifiers.add_of_decorates hdecorates read
          simp only [hnext, ih, hwords, true_and]
      | false =>
          rcases Specifiers.add_of_not_decorates hdecorates read with
            ⟨shape, hshape⟩ | ⟨next, hnext, hwords⟩
          · simp [hshape]
          · simp [hnext, ih, hwords]

/-- Tokens have a type, rendered or not, exactly if they are more than decoration. -/
theorem exists_type?_iff {tokens : List Token} :
    (∃ type, type? tokens = some type) ↔ IsTyped tokens := by
  rw [← Option.ne_none_iff_exists', type?, ne_eq, typeFrom?_eq_none_iff, isTyped_iff]
  simp

/-! ### Parameters -/

/-- How many parentheses and brackets are open behind a token. -/
def Token.depthAfter (depth : Nat) : Token → Nat
  | .openParen | .openBracket => depth + 1
  | .closeParen | .closeBracket => depth - 1
  | _ => depth

/-- Any token but a comma between groups belongs to the first group. -/
theorem parameterGroupsFrom_cons {depth : Nat} {token : Token} (h : ¬(token = .comma ∧ depth = 0))
    (rest : List Token) :
    parameterGroupsFrom depth (token :: rest)
      = consGroup token (parameterGroupsFrom (token.depthAfter depth) rest) := by
  cases token with
  | comma => rw [parameterGroupsFrom, if_neg fun hdepth => h ⟨rfl, hdepth⟩]; rfl
  | _ => rfl

/-- The number of commas in front of which nothing is open, when `depth` parentheses and brackets
are open in front of the tokens. -/
def outerCommas (depth : Nat) (tokens : List Token) : Nat :=
  (List.range tokens.length).countP fun position =>
    tokens[position]? == some .comma && (tokens.take position).foldl Token.depthAfter depth == 0

theorem outerCommas_cons (depth : Nat) (token : Token) (rest : List Token) :
    outerCommas depth (token :: rest)
      = outerCommas (token.depthAfter depth) rest
        + if token = .comma ∧ depth = 0 then 1 else 0 := by
  rw [outerCommas, List.length_cons, List.range_succ_eq_map, List.countP_cons, List.countP_map,
    outerCommas]
  congr 1
  simp

/-- There is one group more than commas between groups. -/
theorem length_parameterGroupsFrom (depth : Nat) (tokens : List Token) :
    (parameterGroupsFrom depth tokens).length = outerCommas depth tokens + 1 := by
  have hcons (token : Token) {depth : Nat} {rest : List Token} :
      (consGroup token (parameterGroupsFrom depth rest)).length
        = (parameterGroupsFrom depth rest).length := by
    have hne := parameterGroupsFrom_ne_nil depth rest
    cases hgroups : parameterGroupsFrom depth rest with
    | nil => exact absurd hgroups hne
    | cons group groups => rfl
  induction tokens generalizing depth with
  | nil => rfl
  | cons token rest ih =>
      rw [outerCommas_cons]
      by_cases hcomma : token = .comma ∧ depth = 0
      · obtain ⟨rfl, rfl⟩ := hcomma
        rw [parameterGroupsFrom, if_pos rfl, if_pos ⟨rfl, rfl⟩, List.length_cons, ih]
        rfl
      · rw [parameterGroupsFrom_cons hcomma, hcons, ih, if_neg hcomma, Nat.add_zero]

/-- A list has no parameters if it is empty or holds `void` only, and otherwise one more than it has
commas between parameters. -/
theorem length_parameters (inner : List Token) :
    (parameters inner = [] ↔ inner = [] ∨ inner = [.word "void"]) ∧
      (¬(inner = [] ∨ inner = [.word "void"]) →
        (parameters inner).length = outerCommas 0 inner + 1) := by
  rw [parameters]
  split
  case isTrue hempty => exact ⟨iff_of_true rfl hempty, fun hne => absurd hempty hne⟩
  case isFalse hempty =>
    have hlength : ((parameterGroups inner).map parameter).length = outerCommas 0 inner + 1 := by
      rw [List.length_map]
      exact length_parameterGroupsFrom 0 inner
    refine ⟨iff_of_false (fun hnone => ?_) hempty, fun _ => hlength⟩
    rw [hnone] at hlength
    cases hlength

/-! ### Declarators -/

/-- Tokens that make a declaration: a word that may be a name stands in front of the first
parenthesis, the parenthesis that closes the list is the last token, and what stands in front of the
name has a type. -/
structure IsDeclarator (tokens front : List Token) (name : String) (inner : List Token) : Prop where
  whole : tokens = front ++ .word name :: .openParen :: (inner ++ [.closeParen])
  first : .openParen ∉ front
  plain : isTypeWord name = false
  matched : IsMatchedFrom 0 inner
  typed : IsTyped front

theorem declarationOfTokens_of_isDeclarator {tokens front inner : List Token} {name : String}
    (h : IsDeclarator tokens front name inner) :
    ∃ type, declarationOfTokens tokens = .ok ⟨name, type, parameters inner⟩ := by
  obtain ⟨type, htype⟩ := exists_type?_iff.mpr h.typed
  exact ⟨type, declarationOfTokens_eq_ok_iff.mpr
    ⟨front, inner, h.whole, h.first, h.plain, h.matched, htype, rfl⟩⟩

theorem exists_isDeclarator {tokens : List Token} {signature : Signature}
    (h : declarationOfTokens tokens = .ok signature) :
    ∃ front inner, IsDeclarator tokens front signature.name inner := by
  obtain ⟨front, inner, hwhole, hfirst, hplain, hmatched, htype, -⟩ :=
    declarationOfTokens_eq_ok_iff.mp h
  exact ⟨front, inner, hwhole, hfirst, hplain, hmatched, exists_type?_iff.mp ⟨_, htype⟩⟩

/-- A statement is read as a declaration exactly if its tokens make one. The name is the word in
front of the list; there are no parameters if the list is empty or holds `void` only, and otherwise
one more than the list has commas outside further parentheses and brackets. -/
theorem declaration_iff_isDeclarator (statement : List Char) :
    ((∃ signature, declaration statement = .ok signature) ↔
      ∃ front name inner, IsDeclarator (Token.read statement) front name inner) ∧
    ∀ (signature : Signature) (front : List Token) (name : String) (inner : List Token),
      declaration statement = .ok signature →
      IsDeclarator (Token.read statement) front name inner →
      signature.name = name ∧
        (signature.parameters = [] ↔ inner = [] ∨ inner = [.word "void"]) ∧
        (¬(inner = [] ∨ inner = [.word "void"]) →
          signature.parameters.length = outerCommas 0 inner + 1) := by
  refine ⟨⟨?_, ?_⟩, ?_⟩
  · rintro ⟨signature, hread⟩
    obtain ⟨front, inner, hdeclarator⟩ := exists_isDeclarator hread
    exact ⟨front, signature.name, inner, hdeclarator⟩
  · rintro ⟨front, name, inner, hdeclarator⟩
    obtain ⟨type, hread⟩ := declarationOfTokens_of_isDeclarator hdeclarator
    exact ⟨_, hread⟩
  · intro signature front name inner hread hdeclarator
    obtain ⟨type, hsame⟩ := declarationOfTokens_of_isDeclarator hdeclarator
    obtain rfl := Except.ok.inj (hread.symm.trans hsame)
    exact ⟨rfl, length_parameters inner⟩

/-- Commas in the list of a function pointer and between brackets belong to one parameter. -/
theorem declaration_iff_isDeclarator_pointer :
    let statement := "const struct s *f(int (*g)(int, int), char *a[2], ...)".toList
    let front : List Token := [.word "const", .word "struct", .word "s", .star]
    let inner := ((Token.read statement).drop 6).dropLast
    IsDeclarator (Token.read statement) front "f" inner ∧
      ∃ signature, declaration statement = .ok signature ∧ signature.name = "f" ∧
        signature.parameters.length = 3 := by
  intro statement front inner
  have hclose : closeParenFrom (0 + 1) (inner ++ [.closeParen]) = some (inner, []) := by
    decide +kernel
  have hdeclarator : IsDeclarator (Token.read statement) front "f" inner :=
    ⟨by decide +kernel, by decide +kernel, by decide +kernel,
      (closeParenFrom_eq_some_iff.mp hclose).2,
      .inl ⟨[.word "const", .word "struct"], .word "s", [.star], rfl, by decide, by decide⟩⟩
  obtain ⟨signature, hread⟩ :=
    (declaration_iff_isDeclarator statement).1.mpr ⟨front, "f", inner, hdeclarator⟩
  obtain ⟨hname, -, hlength⟩ :=
    (declaration_iff_isDeclarator statement).2 signature front "f" inner hread hdeclarator
  refine ⟨hdeclarator, signature, hread, hname, ?_⟩
  rw [hlength (by decide +kernel)]
  decide +kernel

end HeaderBindings.Source
