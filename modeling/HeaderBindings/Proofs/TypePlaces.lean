import HeaderBindings.Proofs.TypeReading

/-!
The places of a declaration where a builtin type can stand: at its start, and behind the parentheses
and commas of its lists. Words that spell a builtin type at such a place are read as one type of the
declaration, or they stand inside an unsupported shape, which is the same for all of them. Nothing
else of the declaration depends on them.
-/

namespace HeaderBindings

/-! ### Declarations with a type left out -/

/-- What stands around the named type of a place: pointers, or a shape that it is no part of. -/
inductive TypeContext where
  | pointers (depth : Nat)
  | shape (description : String)

def TypeContext.fill : TypeContext → CType → CType
  | pointers depth, type => .behindPointers depth type
  | shape description, _ => .unsupported description

/-- A declaration with the named type of one place left out. -/
inductive DeclarationContext where
  | returnType (name : String) (around : TypeContext) (parameters : List Parameter)
  | parameter (name : String) (returned : CType) (before : List Parameter) (own : String)
      (around : TypeContext) (behind : List Parameter)

namespace DeclarationContext

def fill : DeclarationContext → CType → Signature
  | .returnType name around parameters, type => ⟨name, around.fill type, parameters⟩
  | .parameter name returned before own around behind, type =>
      ⟨name, returned, before ++ ⟨own, around.fill type⟩ :: behind⟩

def around : DeclarationContext → TypeContext
  | .returnType _ around _ => around
  | .parameter _ _ _ _ around _ => around

/-- Whether the place is the first parameter, which a stub replaces. -/
def IsReplaced : DeclarationContext → Prop
  | .returnType .. => False
  | .parameter _ _ before .. => before = []

/-- Behind these tokens stands the first parameter, or another type, or something inside an
unsupported shape. -/
def StandsBehind (context : DeclarationContext) (before : List Source.Token) : Prop :=
  (∃ description, context.around = .shape description) ∨
    (context.IsReplaced ↔ before.getLast? = some .openParen)

end DeclarationContext

namespace Source

/-! ### Places -/

/-- Whether a type can begin behind tokens: at the start, and behind a parenthesis or a comma. -/
def IsTypeStart (before : List Token) : Prop :=
  ∀ token ∈ before.getLast?, token = .openParen ∨ token = .comma

/-- Whether tokens can stand behind the words of a builtin type that all stand in front of them. A
word can be the declared name only, which neither a word nor a star follows. -/
def IsBehindSpecifiers : List Token → Prop
  | .word name :: rest => isTypeWord name = false ∧ ∀ token ∈ rest.head?, token.isSpecifier = false
  | _ => True

instance : DecidablePred IsTypeStart := fun before =>
  inferInstanceAs (Decidable (∀ token ∈ before.getLast?, token = .openParen ∨ token = .comma))

instance : DecidablePred IsBehindSpecifiers
  | .word name :: rest => inferInstanceAs
      (Decidable (isTypeWord name = false ∧ ∀ token ∈ rest.head?, token.isSpecifier = false))
  | [] | .star :: _ | .openParen :: _ | .closeParen :: _ | .openBracket :: _ | .closeBracket :: _
  | .comma :: _ | .ellipsis :: _ | .other _ :: _ => .isTrue trivial

/-- Whether tokens behind the words of a base name leave it as it is, or make the type an unsupported
shape. -/
def EndsBaseName : List Token → Prop
  | .word _ :: rest => ∃ token ∈ rest.head?, token.isSpecifier = false
  | _ => True

section
variable {before front rest : List Token}

theorem IsTypeStart.of_append (h : IsTypeStart (front ++ rest)) : IsTypeStart rest := by
  intro token hlast
  refine h token ?_
  rw [List.getLast?_append, Option.mem_def.mp hlast]
  rfl

theorem IsBehindSpecifiers.of_append (h : IsBehindSpecifiers (front ++ rest)) :
    IsBehindSpecifiers front := by
  rcases front with - | ⟨first, front⟩
  · trivial
  · cases first with
    | word name =>
        refine ⟨h.1, fun token hhead => h.2 token ?_⟩
        show token ∈ (front ++ rest).head?
        rw [List.head?_append, Option.mem_def.mp hhead]
        rfl
    | _ => trivial

theorem IsBehindSpecifiers.endsBaseName (h : IsBehindSpecifiers rest)
    (hname : ∀ name, rest ≠ [.word name]) : EndsBaseName rest := by
  rcases rest with - | ⟨first, rest⟩
  · trivial
  · cases first with
    | word name =>
        cases rest with
        | nil => exact absurd rfl (hname name)
        | cons token rest => exact ⟨token, rfl, h.2 token rfl⟩
    | _ => trivial

/-- In front of the last word, which is the declared name, the base name ends. -/
theorem IsBehindSpecifiers.endsBaseName_of_append {name : String}
    (h : IsBehindSpecifiers (front ++ .word name :: rest)) : EndsBaseName front := by
  refine h.of_append.endsBaseName ?_
  rintro other rfl
  exact absurd (h.2 (.word name) rfl) (by simp [Token.isSpecifier])

end

/-! ### Types -/

theorem Specifiers.exists_add_word (read : Specifiers) (name : String) (h : read.stars = 0) :
    ∃ next, read.add (.word name) = .ok next := by
  rw [add, if_pos h]
  split
  · split <;> exact ⟨_, rfl⟩
  · split <;> exact ⟨_, rfl⟩

section
variable {token : Token}

/-- A token that fits into no type makes the same shape of all that is around it. -/
theorem exists_typeFrom?_of_not_isSpecifier (h : token.isSpecifier = false) :
    ∃ shape, ∀ read rest, typeFrom? read (token :: rest) = some (.unsupported shape) := by
  cases token with
  | word | star => cases h
  | _ => exact ⟨_, fun _ _ => rfl⟩

/-- Nothing behind such a token matters. -/
theorem exists_typeFrom?_append (h : token.isSpecifier = false) (read : Specifiers)
    (front : List Token) :
    ∃ shape, ∀ rest, typeFrom? read (front ++ token :: rest) = some (.unsupported shape) := by
  induction front generalizing read with
  | nil =>
      obtain ⟨shape, hshape⟩ := exists_typeFrom?_of_not_isSpecifier h
      exact ⟨shape, hshape read⟩
  | cons first front ih =>
      cases hadd : read.add first with
      | ok next =>
          obtain ⟨shape, hshape⟩ := ih next
          refine ⟨shape, fun rest => ?_⟩
          rw [List.cons_append, typeFrom?, hadd]
          exact hshape rest
      | error shape =>
          refine ⟨shape, fun rest => ?_⟩
          rw [List.cons_append, typeFrom?, hadd]

end

/-- What a type is made of behind a star does not depend on the base name in front of it. -/
theorem exists_typeFrom?_behindStar (rest : List Token) (stars : Nat) :
    ∃ around : TypeContext, ∀ read : Specifiers, read.words ≠ [] → read.stars = stars + 1 →
      typeFrom? read rest
        = some (around.fill (.named read.qualifiers (String.intercalate " " read.words))) := by
  cases hfound : rest.find? (!·.decorates) with
  | some token =>
      refine ⟨.shape token.shape, fun read _ hstars => ?_⟩
      rw [typeFrom?_behindStar (by omega), hfound]
      rfl
  | none =>
      refine ⟨.pointers (stars + 1 + rest.count .star), fun read hwords hstars => ?_⟩
      rw [typeFrom?_behindStar (by omega), hfound]
      simp [Specifiers.type?, hwords, hstars, TypeContext.fill]

/-- The words of a base name and what ends it are read as the type of the words behind pointers, or
as a shape that does not depend on them. -/
theorem exists_type?_ofWords {rest : List Token} (h : EndsBaseName rest) :
    ∃ around : TypeContext, ∀ words, IsSpecifierWords words →
      type? (words.map .word ++ rest) = some (around.fill (typeOfWords words)) := by
  have hread (words : List String) (hwords : IsSpecifierWords words) :
      type? (words.map .word ++ rest) = typeFrom? (.ofWords words) rest :=
    typeFrom?_ofWords [] hwords.not_mem_tagKeywords rest
  rcases rest with - | ⟨token, rest⟩
  · refine ⟨.pointers 0, fun words hwords => ?_⟩
    rw [hread words hwords, typeFrom?, Specifiers.type?]
    simp [Specifiers.ofWords, hwords.named, CType.behindPointers, TypeContext.fill, typeOfWords,
      baseName]
  · cases token with
    | star =>
        obtain ⟨around, hrest⟩ := exists_typeFrom?_behindStar rest 0
        refine ⟨around, fun words hwords => ?_⟩
        rw [hread words hwords, typeFrom?, Specifiers.add]
        exact hrest { Specifiers.ofWords words with stars := 1 } hwords.named rfl
    | word name =>
        -- The word is read, but the token behind it fits into no type.
        rcases rest with - | ⟨token, rest⟩
        · obtain ⟨_, ⟨⟩, -⟩ := h
        · obtain ⟨_, ⟨⟩, hspecifier⟩ := h
          obtain ⟨shape, hshape⟩ := exists_typeFrom?_of_not_isSpecifier hspecifier
          refine ⟨.shape shape, fun words hwords => ?_⟩
          obtain ⟨next, hnext⟩ := (Specifiers.ofWords words).exists_add_word name rfl
          rw [hread words hwords, typeFrom?, hnext]
          exact hshape next rest
    | _ => exact ⟨.shape _, fun words hwords => (hread words hwords).trans rfl⟩

/-! ### Parameters -/

/-- A parenthesis or a bracket stands among the tokens. -/
def HasOpener (tokens : List Token) : Prop := .openParen ∈ tokens ∨ .openBracket ∈ tokens

/-- The name of a function pointer does not depend on the words of a type behind its parenthesis. -/
theorem pointerName_append {front : List Token} (h : IsTypeStart front) (word : String)
    (rest : List Token) : pointerName (front ++ .word word :: rest) = pointerName front := by
  rcases front with - | ⟨first, - | ⟨second, - | ⟨third, front⟩⟩⟩
  · rfl
  · rcases h first rfl with rfl | rfl <;> rfl
  · rcases h second rfl with rfl | rfl <;> cases first <;> rfl
  · cases first <;> cases second <;> cases third <;> rfl

theorem IsSpecifierWords.ne_nil {words : List String} (h : IsSpecifierWords words) :
    words ≠ [] := by
  rintro rfl
  exact h.named rfl

theorem not_mem_map_word {token : Token} (h : ∀ name, token ≠ .word name) (words : List String) :
    token ∉ words.map .word := by
  intro hmem
  obtain ⟨name, -, heq⟩ := List.mem_map.mp hmem
  exact h name heq.symm

/-- The last of the words of a builtin type is no name. -/
theorem IsSpecifierWords.exists_getLast? {words : List String} (h : IsSpecifierWords words) :
    ∃ word, (words.map Token.word).getLast? = some (.word word) ∧
      Source.isTypeWord word = true := by
  refine ⟨words.getLast h.ne_nil, ?_, h.isTypeWord _ (List.getLast_mem h.ne_nil)⟩
  rw [List.getLast?_map, List.getLast?_eq_getLast_of_ne_nil h.ne_nil]
  rfl

/-- The words of the type of an array do not matter for its name. -/
theorem exists_arrayName_ofWords (rest : List Token) :
    ∃ name, ∀ words, IsSpecifierWords words → arrayName (words.map .word ++ rest) = name := by
  rcases List.eq_nil_or_concat' rest with rfl | ⟨front, last, rfl⟩
  · refine ⟨"", fun words hwords => ?_⟩
    obtain ⟨word, hlast, htype⟩ := hwords.exists_getLast?
    rw [List.append_nil, arrayName, hlast]
    simp [htype]
  · cases last with
    | word name =>
        refine ⟨if isTypeWord name then "" else name, fun words hwords => ?_⟩
        have hlength : 1 < (words.map Token.word ++ (front ++ [Token.word name])).length := by
          have hpos := List.length_pos_of_ne_nil hwords.ne_nil
          simp only [List.length_append, List.length_map, List.length_singleton]
          omega
        rw [arrayName, decide_eq_true hlength, ← List.append_assoc, List.getLast?_concat]
        cases htype : isTypeWord name <;> simp [htype]
    | _ =>
        refine ⟨"", fun words hwords => ?_⟩
        rw [arrayName, ← List.append_assoc, List.getLast?_concat]

/-- The words of a builtin type are the type of a parameter, with or without a name behind it. -/
theorem exists_splitName_ofWords {rest : List Token} (h : IsBehindSpecifiers rest) :
    ∃ name behind, EndsBaseName behind ∧ ∀ words, IsSpecifierWords words →
      splitName (words.map .word ++ rest) = (name, words.map .word ++ behind) := by
  have hcarries (words : List String) (hwords : IsSpecifierWords words) (behind : List Token) :
      (words.map Token.word ++ behind).any Token.carriesType = true := by
    obtain ⟨word, hbase⟩ := List.exists_mem_of_ne_nil _ hwords.named
    obtain ⟨hmem, hqualifier⟩ := List.mem_filter.mp hbase
    have htag := hwords.not_mem_tagKeywords word hmem
    refine List.any_eq_true.mpr ⟨.word word, by simp [hmem], ?_⟩
    simpa [Token.carriesType, htag] using hqualifier
  rcases List.eq_nil_or_concat' rest with rfl | ⟨front, last, rfl⟩
  · refine ⟨"", [], trivial, fun words hwords => ?_⟩
    obtain ⟨word, hlast, htype⟩ := hwords.exists_getLast?
    rw [List.append_nil, splitName, hlast]
    simp [htype]
  · by_cases hname : ∃ name, last = .word name ∧ isTypeWord name = false
    · obtain ⟨name, rfl, htype⟩ := hname
      refine ⟨name, front, h.endsBaseName_of_append, fun words hwords => ?_⟩
      rw [splitName, ← List.append_assoc, List.getLast?_concat, List.dropLast_concat]
      simp only
      rw [hcarries words hwords, htype]
      rfl
    · refine ⟨"", front ++ [last], ?_, fun words hwords => ?_⟩
      · refine h.endsBaseName fun name hsingle => ?_
        rw [hsingle] at h
        have hlast : last = .word name := by simpa using congrArg List.getLast? hsingle
        exact hname ⟨name, hlast, h.1⟩
      · rw [← List.append_assoc, splitName, List.getLast?_concat]
        cases last with
        | word name =>
            have htype : isTypeWord name = true := by
              simpa using fun hfree => hname ⟨name, rfl, hfree⟩
            simp [htype]
        | _ => rfl

/-- The words of a builtin type in a group of tokens are the type of a parameter, unless they stand
inside a list of it. -/
theorem exists_parameter {own rest : List Token}
    (hown : own = [] ∨ IsTypeStart own ∧ HasOpener own) (hrest : IsBehindSpecifiers rest) :
    ∃ (name : String) (around : TypeContext),
      (own ≠ [] → ∃ description, around = .shape description) ∧
      ∀ words, IsSpecifierWords words →
        parameter (own ++ words.map .word ++ rest) = ⟨name, around.fill (typeOfWords words)⟩ := by
  have hword {mark : Token} (hmark : ∀ name, mark ≠ .word name) {front : List Token}
      (h : mark ∉ front) (words : List String) : mark ∉ words.map .word ++ front :=
    fun hmem => (List.mem_append.mp hmem).elim (not_mem_map_word hmark words) h
  by_cases hparen : .openParen ∈ own
  · obtain ⟨front, back, rfl, hfront⟩ := List.eq_append_cons_of_mem hparen
    obtain ⟨hstart, -⟩ := hown.resolve_left (by simp)
    have hback : IsTypeStart ([.openParen] ++ back) := hstart.of_append
    refine ⟨pointerName back, .shape "function pointer", fun _ => ⟨_, rfl⟩, fun words hwords => ?_⟩
    obtain ⟨word, words, rfl⟩ := List.exists_cons_of_ne_nil hwords.ne_nil
    have htokens : front ++ .openParen :: back ++ (word :: words).map .word ++ rest
        = front ++ .openParen :: (back ++ .word word :: (words.map .word ++ rest)) := by simp
    rw [htokens, parameter_of_openParen (by simp), dropWhile_append_cons hfront, List.drop_one,
      List.tail_cons, pointerName_append hback.of_append]
    rfl
  by_cases hparenRest : .openParen ∈ rest
  · obtain ⟨front, back, rfl, hfront⟩ := List.eq_append_cons_of_mem hparenRest
    refine ⟨pointerName back, .shape "function pointer", fun _ => ⟨_, rfl⟩, fun words hwords => ?_⟩
    have hbefore : .openParen ∉ own ++ (words.map .word ++ front) :=
      fun hmem => (List.mem_append.mp hmem).elim hparen (hword (by simp) hfront words)
    have htokens : own ++ words.map .word ++ (front ++ .openParen :: back)
        = own ++ (words.map .word ++ front) ++ .openParen :: back := by simp
    rw [htokens, parameter_of_openParen (by simp), dropWhile_append_cons hbefore, List.drop_one,
      List.tail_cons]
    rfl
  by_cases hbracket : .openBracket ∈ own
  · obtain ⟨front, back, rfl, hfront⟩ := List.eq_append_cons_of_mem hbracket
    refine ⟨arrayName front, .shape "array", fun _ => ⟨_, rfl⟩, fun words hwords => ?_⟩
    have hnone : .openParen ∉ front ++ .openBracket :: back ++ (words.map .word ++ rest) :=
      fun hmem => (List.mem_append.mp hmem).elim hparen (hword (by simp) hparenRest words)
    rw [List.append_assoc, parameter_of_openBracket hnone (by simp), List.append_assoc,
      List.cons_append, takeWhile_append_cons hfront]
    rfl
  obtain rfl : own = [] := hown.resolve_right fun h => h.2.elim hparen hbracket
  simp only [List.nil_append]
  by_cases hbracketRest : .openBracket ∈ rest
  · obtain ⟨front, back, rfl, hfront⟩ := List.eq_append_cons_of_mem hbracketRest
    obtain ⟨name, hname⟩ := exists_arrayName_ofWords front
    refine ⟨name, .shape "array", fun _ => ⟨_, rfl⟩, fun words hwords => ?_⟩
    rw [parameter_of_openBracket (hword (by simp) hparenRest words) (by simp), ← List.append_assoc,
      takeWhile_append_cons (hword (by simp) hfront words), hname words hwords]
    rfl
  · obtain ⟨name, behind, hbehind, hsplit⟩ := exists_splitName_ofWords hrest
    obtain ⟨around, htype⟩ := exists_type?_ofWords hbehind
    refine ⟨name, around, by simp, fun words hwords => ?_⟩
    have hellipsis : words.map .word ++ rest ≠ [.ellipsis] := by
      obtain ⟨word, words, rfl⟩ := List.exists_cons_of_ne_nil hwords.ne_nil
      simp
    rw [parameter_of_splitName hellipsis (hword (by simp) hparenRest words)
      (hword (by simp) hbracketRest words) (hsplit words hwords), htype words hwords]
    rfl

/-! ### Groups -/

theorem HasOpener.cons {tokens : List Token} (h : HasOpener tokens) (token : Token) :
    HasOpener (token :: tokens) :=
  h.imp (List.mem_cons_of_mem token) (List.mem_cons_of_mem token)

theorem Token.opens_of_depthAfter_pos {depth : Nat} {token : Token}
    (h : 0 < token.depthAfter depth) : token = .openParen ∨ token = .openBracket ∨ 0 < depth := by
  cases token with
  | openParen => exact .inl rfl
  | openBracket => exact .inr (.inl rfl)
  | closeParen | closeBracket => exact .inr (.inr (Nat.lt_of_lt_of_le h (Nat.sub_le depth 1)))
  | _ => exact .inr (.inr h)

/-- Tokens are whole groups, each with the comma behind it, and the beginning of one that goes on
behind them. If that one stops behind a comma, a list is open in it or was open already in front of
the tokens. -/
theorem exists_groups_append (depth : Nat) (front : List Token) :
    ∃ groups own, front = groups.flatMap (· ++ [.comma]) ++ own ∧
      (own.getLast? = some .comma → HasOpener own ∨ groups = [] ∧ 0 < depth) ∧
      ∀ rest next others,
        parameterGroupsFrom (front.foldl Token.depthAfter depth) rest = next :: others →
        parameterGroupsFrom depth (front ++ rest) = groups ++ (own ++ next) :: others := by
  induction front generalizing depth with
  | nil => exact ⟨[], [], rfl, by simp, fun _ _ _ h => h⟩
  | cons token front ih =>
      by_cases hcomma : token = .comma ∧ depth = 0
      · obtain ⟨rfl, rfl⟩ := hcomma
        obtain ⟨groups, own, hfront, hopen, hgroups⟩ := ih 0
        refine ⟨[] :: groups, own, congrArg (List.cons Token.comma) hfront,
          fun hlast => .inl ((hopen hlast).resolve_right (by simp)), fun rest next others h => ?_⟩
        rw [List.cons_append, parameterGroupsFrom, if_pos rfl, hgroups rest next others h]
        rfl
      · obtain ⟨groups, own, hfront, hopen, hgroups⟩ := ih (token.depthAfter depth)
        have hcons (rest next others)
            (h : parameterGroupsFrom ((token :: front).foldl Token.depthAfter depth) rest
              = next :: others) :
            parameterGroupsFrom depth (token :: front ++ rest)
              = consGroup token (groups ++ (own ++ next) :: others) := by
          rw [List.cons_append, parameterGroupsFrom_cons hcomma, hgroups rest next others h]
        have hwhole := congrArg (List.cons token) hfront
        cases groups with
        | nil =>
            refine ⟨[], token :: own, hwhole, fun hlast => ?_, hcons⟩
            cases own with
            | nil =>
                obtain rfl : token = .comma := by simpa using hlast
                exact .inr ⟨rfl, Nat.pos_of_ne_zero fun hdepth => hcomma ⟨rfl, hdepth⟩⟩
            | cons other own =>
                rw [List.getLast?_cons_cons] at hlast
                rcases hopen hlast with hown | ⟨-, hdepth⟩
                · exact .inl (hown.cons token)
                · rcases Token.opens_of_depthAfter_pos hdepth with rfl | rfl | hdepth
                  · exact .inl (.inl List.mem_cons_self)
                  · exact .inl (.inr List.mem_cons_self)
                  · exact .inr ⟨rfl, hdepth⟩
        | cons group groups =>
            exact ⟨(token :: group) :: groups, own, hwhole,
              fun hlast => .inl ((hopen hlast).resolve_right (by simp)), hcons⟩

theorem append_words_eq_void_iff {front rest : List Token} {words : List String}
    (hwords : words ≠ []) :
    front ++ words.map .word ++ rest = [.word "void"] ↔
      front = [] ∧ words = ["void"] ∧ rest = [] := by
  obtain ⟨word, words, rfl⟩ := List.exists_cons_of_ne_nil hwords
  cases front <;> simp [and_assoc]

theorem prefix_intercalate_comma (group : List Token) (others : List (List Token)) :
    group <+: [Token.comma].intercalate (group :: others) := by
  by_cases h : others = []
  · exact ⟨[], by rw [h, List.intercalate_singleton, List.append_nil]⟩
  · rw [List.intercalate_cons_of_ne_nil h, List.append_assoc]
    exact List.prefix_append _ _

/-- The words of a builtin type in a list are the type of one parameter, unless they stand inside a
list of it. -/
theorem exists_parameters {front rest : List Token} (hfront : IsTypeStart front)
    (hrest : IsBehindSpecifiers rest) :
    ∃ (before : List Parameter) (name : String) (around : TypeContext) (behind : List Parameter),
      ((∃ description, around = .shape description) ∨ before = [] ∧ front = [] ∨
        before ≠ [] ∧ front.getLast? = some .comma) ∧
      ∀ words, IsSpecifierWords words → words ≠ ["void"] →
        parameters (front ++ words.map .word ++ rest)
          = before ++ ⟨name, around.fill (typeOfWords words)⟩ :: behind := by
  obtain ⟨groups, own, hsplit, hopen, hgroups⟩ := exists_groups_append 0 front
  obtain ⟨next, others, hnext⟩ := List.exists_cons_of_ne_nil
    (parameterGroupsFrom_ne_nil (front.foldl Token.depthAfter 0) rest)
  have hbehind : IsBehindSpecifiers next := by
    have hjoined := intercalate_parameterGroupsFrom (front.foldl Token.depthAfter 0) rest
    rw [hnext] at hjoined
    obtain ⟨more, hmore⟩ := prefix_intercalate_comma next others
    rw [← hjoined, ← hmore] at hrest
    exact hrest.of_append
  have hown : own = [] ∨ IsTypeStart own ∧ HasOpener own := by
    have hstart : IsTypeStart own := by
      rw [hsplit] at hfront
      exact hfront.of_append
    by_cases hempty : own = []
    · exact .inl hempty
    · refine .inr ⟨hstart, ?_⟩
      obtain ⟨last, hlast⟩ :=
        Option.ne_none_iff_exists'.mp (mt List.getLast?_eq_none_iff.mp hempty)
      rcases hstart last hlast with rfl | rfl
      · exact .inl (List.mem_of_getLast? hlast)
      · exact (hopen hlast).resolve_right (by simp)
  obtain ⟨name, around, hshape, hparameter⟩ := exists_parameter hown hbehind
  refine ⟨groups.map parameter, name, around, others.map parameter, ?_, fun words hwords hvoid => ?_⟩
  · by_cases hempty : own = []
    · rcases List.eq_nil_or_concat' groups with rfl | ⟨first, last, rfl⟩
      · exact .inr (.inl ⟨rfl, by simpa [hempty] using hsplit⟩)
      · refine .inr (.inr ⟨by simp, ?_⟩)
        simp [hsplit, hempty, List.getLast?_append]
    · exact .inl (hshape hempty)
  · have hlist : ¬(front ++ words.map .word ++ rest = [] ∨
        front ++ words.map .word ++ rest = [.word "void"]) := by
      rintro (hnil | hsingle)
      · simp [hwords.ne_nil] at hnil
      · exact hvoid ((append_words_eq_void_iff hwords.ne_nil).mp hsingle).2.1
    have hspecifier : ∀ token ∈ words.map Token.word, token.isSpecifier = true := by
      simp [Token.isSpecifier]
    have hfound := hgroups _ _ _ (parameterGroupsFrom_append hspecifier hnext)
    rw [parameters, if_neg hlist, parameterGroups, List.append_assoc, hfound, List.map_append,
      List.map_cons, ← List.append_assoc, hparameter words hwords]

/-! ### Declarations -/

theorem IsMatchedFrom.respelled {front rest : List Token} {words : List String}
    (h : IsMatchedFrom 0 (front ++ words.map .word ++ rest)) (others : List String) :
    IsMatchedFrom 0 (front ++ others.map .word ++ rest) := by
  have hnone (words : List String) : (words.map Token.word).filter Token.isParenthesis = [] := by
    simp [List.filter_eq_nil_iff, Token.isParenthesis]
  rw [← isMatchedFrom_filter] at h ⊢
  simpa [hnone] using h

/-- The words of a builtin type at the start are the return type. -/
theorem exists_returnType {before rest : List Token} (hbefore : IsTypeStart before)
    (hparen : .openParen ∉ before) (hrest : EndsBaseName rest) :
    ∃ around : TypeContext, ((∃ description, around = .shape description) ∨ before = []) ∧
      ∀ words, IsSpecifierWords words →
        type? (before ++ words.map .word ++ rest) = some (around.fill (typeOfWords words)) := by
  rcases List.eq_nil_or_concat' before with rfl | ⟨front, last, rfl⟩
  · obtain ⟨around, htype⟩ := exists_type?_ofWords hrest
    exact ⟨around, .inr rfl, htype⟩
  · have hlast : last ≠ .openParen := by
      rintro rfl
      simp at hparen
    obtain rfl := (hbefore last (by simp)).resolve_left hlast
    have hcomma : Token.comma.isSpecifier = false := rfl
    obtain ⟨shape, hshape⟩ := exists_typeFrom?_append hcomma {} front
    refine ⟨.shape shape, .inl ⟨shape, rfl⟩, fun words _ => ?_⟩
    rw [List.append_assoc, List.append_assoc]
    exact hshape _

section
variable {before after : List Token} {words : List String} {signature : Signature}

theorem exists_context_of_not_mem (hbefore : IsTypeStart before) (hafter : IsBehindSpecifiers after)
    (hwords : IsSpecifierWords words) (hparen : .openParen ∉ before)
    (hread : declarationOfTokens (before ++ words.map .word ++ after) = .ok signature) :
    ∃ context : DeclarationContext, context.StandsBehind before ∧
      ∀ others, IsSpecifierWords others →
        declarationOfTokens (before ++ others.map .word ++ after)
          = .ok (context.fill (typeOfWords others)) := by
  obtain ⟨front, inner, htokens, hfront, hname, hmatched, -, hparameters⟩ :=
    declarationOfTokens_eq_ok_iff.mp hread
  have hword : .openParen ∉ words.map Token.word := not_mem_map_word (by simp) words
  have hmem : .openParen ∈ after := by
    have hwhole : .openParen ∈ before ++ words.map .word ++ after := by simp [htokens]
    simpa [hparen] using hwhole
  obtain ⟨declarator, list, rfl, hdeclarator⟩ := List.eq_append_cons_of_mem hmem
  rw [List.append_cons front, ← List.append_assoc] at htokens
  obtain ⟨hcut, rfl⟩ := append_cons_inj (by simp [hparen, hdeclarator]) (by simp [hfront]) htokens
  -- The declared name is not one of the words.
  obtain ⟨rest, rfl, rfl⟩ : ∃ rest, declarator = rest ++ [.word signature.name] ∧
      front = before ++ words.map .word ++ rest := by
    rcases List.eq_nil_or_concat' declarator with rfl | ⟨rest, last, rfl⟩
    · obtain ⟨word, hlast, htype⟩ := hwords.exists_getLast?
      have hsame := congrArg List.getLast? hcut
      rw [List.append_nil, List.getLast?_append, hlast, List.getLast?_concat] at hsame
      obtain rfl : word = signature.name := by simpa using hsame
      simp [htype] at hname
    · rw [← List.append_assoc] at hcut
      obtain ⟨hfront, hlast⟩ := List.append_inj' hcut rfl
      exact ⟨rest, by rw [List.cons.inj hlast |>.1], hfront.symm⟩
  rw [List.append_assoc, List.singleton_append] at hafter
  obtain ⟨around, hplace, htype⟩ :=
    exists_returnType hbefore hparen hafter.endsBaseName_of_append
  refine ⟨.returnType signature.name around signature.parameters, ?_, fun others hothers => ?_⟩
  · refine hplace.imp_right ?_
    rintro rfl
    simp [DeclarationContext.IsReplaced]
  · refine declarationOfTokens_eq_ok_iff.mpr ⟨before ++ others.map .word ++ rest, inner, ?_, ?_,
      hname, hmatched, htype others hothers, hparameters⟩
    · simp [DeclarationContext.fill]
    · simpa [hparen] using hfront

theorem exists_context_of_mem (hbefore : IsTypeStart before) (hafter : IsBehindSpecifiers after)
    (hwords : IsSpecifierWords words) (hparen : .openParen ∈ before)
    (hread : declarationOfTokens (before ++ words.map .word ++ after) = .ok signature) :
    ∃ context : DeclarationContext, context.StandsBehind before ∧
      ∀ others, IsSpecifierWords others → others ≠ ["void"] →
        declarationOfTokens (before ++ others.map .word ++ after)
          = .ok (context.fill (typeOfWords others)) := by
  obtain ⟨front, inner, htokens, hfront, hname, hmatched, htype, -⟩ :=
    declarationOfTokens_eq_ok_iff.mp hread
  obtain ⟨head, opened, rfl, hhead⟩ := List.eq_append_cons_of_mem hparen
  rw [List.append_cons front, List.append_assoc, List.append_assoc, List.cons_append] at htokens
  obtain ⟨rfl, hlist⟩ := append_cons_inj hhead (by simp [hfront]) htokens
  -- What stands behind the words ends with the parenthesis that closes the list.
  obtain ⟨rest, rfl, rfl⟩ : ∃ rest, after = rest ++ [.closeParen] ∧
      inner = opened ++ words.map .word ++ rest := by
    rcases List.eq_nil_or_concat' after with rfl | ⟨rest, last, rfl⟩
    · obtain ⟨word, hlast, -⟩ := hwords.exists_getLast?
      have hsame := congrArg List.getLast? hlist
      rw [List.append_nil, List.getLast?_append, hlast, List.getLast?_concat] at hsame
      cases hsame
    · rw [← List.append_assoc, ← List.append_assoc] at hlist
      obtain ⟨hinner, hlast⟩ := List.append_inj' hlist rfl
      exact ⟨rest, by rw [List.cons.inj hlast |>.1], hinner.symm⟩
  have hopened : IsTypeStart ([.openParen] ++ opened) := hbefore.of_append
  obtain ⟨parametersBefore, own, around, behind, hplace, hlist⟩ :=
    exists_parameters hopened.of_append hafter.of_append
  refine ⟨.parameter signature.name signature.returnType parametersBefore own around behind, ?_,
    fun others hothers hvoid => ?_⟩
  · refine hplace.imp_right ?_
    rintro (⟨rfl, rfl⟩ | ⟨hne, hcomma⟩)
    · simp [DeclarationContext.IsReplaced]
    · simp [DeclarationContext.IsReplaced, hne, List.getLast?_append, List.getLast?_cons, hcomma]
  · refine declarationOfTokens_eq_ok_iff.mpr ⟨front, opened ++ others.map .word ++ rest, ?_, hfront,
      hname, hmatched.respelled others, htype, hlist others hothers hvoid⟩
    simp [DeclarationContext.fill]

/-- A declaration with the words of a builtin type at some place is the same declaration with any
other such words there, but for the type that is read at this place. -/
theorem exists_context (hbefore : IsTypeStart before) (hafter : IsBehindSpecifiers after)
    (hwords : IsSpecifierWords words)
    (hread : declarationOfTokens (before ++ words.map .word ++ after) = .ok signature) :
    ∃ context : DeclarationContext, context.StandsBehind before ∧
      ∀ others, IsSpecifierWords others → others ≠ ["void"] →
        declarationOfTokens (before ++ others.map .word ++ after)
          = .ok (context.fill (typeOfWords others)) := by
  by_cases hparen : .openParen ∈ before
  · exact exists_context_of_mem hbefore hafter hwords hparen hread
  · obtain ⟨context, hplace, hcontext⟩ :=
      exists_context_of_not_mem hbefore hafter hwords hparen hread
    exact ⟨context, hplace, fun others hothers _ => hcontext others hothers⟩

end

end Source

end HeaderBindings
