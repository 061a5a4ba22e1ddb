import HeaderBindings.Proofs.BuiltinSpellings
import HeaderBindings.Proofs.Declarators

/-!
The reading of a type without going through its tokens one by one. The first star divides them: in
front of it any word fits, from it on only stars, qualifiers and the keywords of tags. The first
token that does not fit decides the shape, and otherwise the type is the named type of the words in
front behind as many pointers as there are stars. So qualifiers may stand anywhere in front of the
stars, as long as they keep their order, and behind the first star they say nothing.
-/

namespace HeaderBindings.Source

/-! ### The parts of a type -/

def Token.isWord : Token → Bool
  | .word _ => true
  | _ => false

def Token.isQualifier : Token → Bool
  | .word name => qualifierKeywords.contains name
  | _ => false

/-- A word as a part of a named type, to which the keyword of a tag adds nothing. -/
def Token.specifierWord? : Token → Option String
  | .word name => if tagKeywords.contains name then none else some name
  | _ => none

/-- What a token makes of a type that it does not fit into. -/
def Token.shape : Token → String
  | .openParen | .closeParen => "function pointer"
  | .openBracket | .closeBracket => "array"
  | token => "unexpected token " ++ token.describe

/-- The tokens in front of the first star. -/
def beforeStars (tokens : List Token) : List Token := tokens.takeWhile (· != .star)

/-- The first star and the tokens behind it. -/
def fromStars (tokens : List Token) : List Token := tokens.dropWhile (· != .star)

/-- The first token that does not fit into a type. In front of the stars any word fits, and from
the first star on only stars, qualifiers and the keywords of tags do. -/
def rejected? (tokens : List Token) : Option Token :=
  ((beforeStars tokens).find? (!·.isWord)).or ((fromStars tokens).find? (!·.decorates))

/-- The words that name the type. -/
def specifierWords (tokens : List Token) : List String :=
  (beforeStars tokens).filterMap Token.specifierWord?

/-- The type of tokens, by what they hold: the shape of the first token that does not fit, nothing
without a base word, and else the named type behind the pointers. -/
def reading? (tokens : List Token) : Option CType :=
  match rejected? tokens with
  | some token => some (.unsupported token.shape)
  | none =>
      let words := specifierWords tokens
      if baseWords words = [] then none
      else some (.behindPointers (tokens.count .star) (typeOfWords words))

variable {token : Token} {tokens front other rest : List Token}

/-! ### One token -/

/-- In front of the stars a word is one word more, unless it is the keyword of a tag. -/
theorem Specifiers.add_ofWords_token (words : List String) (hstar : token ≠ .star) :
    (ofWords words).add token
      = if token.isWord then .ok (ofWords (words ++ token.specifierWord?.toList))
        else .error token.shape := by
  cases token with
  | star => exact absurd rfl hstar
  | word name =>
      rw [Token.isWord, if_pos rfl]
      by_cases htag : name ∈ tagKeywords
      · have hqualifier : name ∉ qualifierKeywords := by
          have hkeywords : ∀ name ∈ tagKeywords, name ∉ qualifierKeywords := by decide
          exact hkeywords name htag
        simp [add, Token.specifierWord?, htag, hqualifier]
      · rw [add_ofWords words htag]
        simp [Token.specifierWord?, htag]
  | _ => rfl

/-- Behind a star only a further star changes what was read. -/
theorem Specifiers.add_behindStar {read : Specifiers} (hstars : read.stars ≠ 0) (token : Token) :
    read.add token
      = if token.decorates then .ok { read with stars := read.stars + [token].count .star }
        else .error token.shape := by
  cases token with
  | word name =>
      by_cases hqualifier : name ∈ qualifierKeywords
      · simp [add, Token.decorates, hqualifier, hstars]
      · by_cases htag : name ∈ tagKeywords
        · simp [add, Token.decorates, hqualifier, htag]
        · simp [add, Token.decorates, Token.shape, hqualifier, htag, hstars]
  | star => rfl
  | _ => rfl

/-! ### All tokens -/

theorem typeFrom?_front (known : List String) (hstar : .star ∉ front) (rest : List Token) :
    typeFrom? (.ofWords known) (front ++ rest)
      = match front.find? (!·.isWord) with
        | some token => some (.unsupported token.shape)
        | none => typeFrom? (.ofWords (known ++ front.filterMap Token.specifierWord?)) rest := by
  induction front generalizing known with
  | nil => simp
  | cons token front ih =>
      obtain ⟨htoken, hfront⟩ := not_or.mp (mt List.mem_cons.mpr hstar)
      rw [List.cons_append, typeFrom?, Specifiers.add_ofWords_token known (Ne.symm htoken)]
      cases hword : token.isWord with
      | true =>
          have hwords : (token :: front).filterMap Token.specifierWord?
              = token.specifierWord?.toList ++ front.filterMap Token.specifierWord? := by
            cases h : token.specifierWord? <;> simp [h]
          simp only [if_true, ih _ hfront, List.find?_cons, hword, Bool.not_true, hwords,
            List.append_assoc]
      | false => simp [hword]

/-- Words in front of all stars are read one after the other. -/
theorem typeFrom?_ofWords (known : List String) {words : List String}
    (h : ∀ word ∈ words, word ∉ tagKeywords) (rest : List Token) :
    typeFrom? (.ofWords known) (words.map .word ++ rest)
      = typeFrom? (.ofWords (known ++ words)) rest := by
  have hstar : Token.star ∉ words.map .word := by simp
  have hfits : (words.map Token.word).find? (!·.isWord) = none := by simp [Token.isWord]
  have hwords : (words.map Token.word).filterMap Token.specifierWord? = words := calc
    (words.map Token.word).filterMap Token.specifierWord? = words.filterMap some := by
      rw [List.filterMap_map]
      apply List.filterMap_congr
      intro word hmem
      simp [Token.specifierWord?, h word hmem]
    _ = words := List.filterMap_some
  rw [typeFrom?_front known hstar, hfits, hwords]

theorem typeFrom?_behindStar {read : Specifiers} (hstars : read.stars ≠ 0) (rest : List Token) :
    typeFrom? read rest
      = match rest.find? (!·.decorates) with
        | some token => some (.unsupported token.shape)
        | none => { read with stars := read.stars + rest.count .star : Specifiers }.type? := by
  induction rest generalizing read with
  | nil => rfl
  | cons token rest ih =>
      rw [typeFrom?, Specifiers.add_behindStar hstars]
      cases hdecorates : token.decorates with
      | true =>
          have hcount : (token :: rest).count .star = [token].count .star + rest.count .star := by
            rw [← List.count_append, List.singleton_append]
          have hmore : read.stars + [token].count .star ≠ 0 := by omega
          have hrest := @ih { read with stars := read.stars + [token].count .star } hmore
          simp only [if_true, hrest, List.find?_cons, hdecorates, Bool.not_true, hcount,
            Nat.add_assoc]
      | false => simp [hdecorates]

/-- What was read in front of the stars is the named type behind as many pointers. -/
theorem Specifiers.type?_ofWords (words : List String) (stars : Nat) :
    { ofWords words with stars : Specifiers }.type?
      = if baseWords words = [] then none
        else some (.behindPointers stars (typeOfWords words)) := by
  simp [type?, ofWords, typeOfWords, baseName]

theorem type?_of_not_mem (hstar : .star ∉ front) : type? front = reading? front := by
  have hall : ∀ token ∈ front, (token != .star) = true := ne_of_not_mem hstar
  have hbefore : beforeStars front = front := by
    rw [beforeStars, ← List.append_nil front, List.takeWhile_append_of_pos (by simpa using hall)]
    rfl
  have hfrom : fromStars front = [] := List.dropWhile_eq_nil_iff.mpr hall
  have hread := typeFrom?_front [] hstar []
  rw [List.append_nil] at hread
  rw [type?, reading?, rejected?, specifierWords, hbefore, hfrom, List.find?_nil, Option.or_none,
    List.count_eq_zero.mpr hstar]
  refine hread.trans ?_
  cases front.find? (!·.isWord) with
  | some token => rfl
  | none => exact Specifiers.type?_ofWords _ 0

theorem type?_append_star (hstar : .star ∉ front) (rest : List Token) :
    type? (front ++ .star :: rest) = reading? (front ++ .star :: rest) := by
  have hcount : (front ++ .star :: rest).count .star = 1 + rest.count .star := by
    rw [List.count_append, List.count_eq_zero.mpr hstar, List.count_cons_self, Nat.zero_add,
      Nat.add_comm]
  have hfits : (Token.star :: rest).find? (!·.decorates) = rest.find? (!·.decorates) := rfl
  have hread := typeFrom?_front [] hstar (.star :: rest)
  rw [type?, reading?, rejected?, specifierWords, beforeStars, fromStars,
    takeWhile_append_cons hstar, dropWhile_append_cons hstar, hfits, hcount]
  refine hread.trans ?_
  cases front.find? (!·.isWord) with
  | some token => rfl
  | none =>
      -- The first star is read in front of the others.
      have hbehind := @typeFrom?_behindStar
        { Specifiers.ofWords (front.filterMap Token.specifierWord?) with stars := 1 }
        Nat.one_ne_zero rest
      refine hbehind.trans ?_
      cases rest.find? (!·.decorates) with
      | some token => rfl
      | none => exact Specifiers.type?_ofWords _ _

/-- Going through the tokens one by one gives the reading of them all. -/
theorem type?_eq_reading? (tokens : List Token) : type? tokens = reading? tokens := by
  by_cases hmem : .star ∈ tokens
  · obtain ⟨front, rest, rfl, hstar⟩ := List.eq_append_cons_of_mem hmem
    exact type?_append_star hstar rest
  · exact type?_of_not_mem hmem

/-! ### Qualifiers -/

/-- Leaving out items that a search passes over does not change what it finds. -/
theorem find?_filter_of_imp {α : Type} {keep sought : α → Bool}
    (h : ∀ a, sought a = true → keep a = true) (items : List α) :
    (items.filter keep).find? sought = items.find? sought := by
  rw [List.find?_filter]
  congr 1
  funext a
  cases hsought : sought a with
  | true => simp [h a hsought]
  | false => simp

theorem isQualifier_eq_false_of_not_isWord {token : Token} (h : (!token.isWord) = true) :
    (!token.isQualifier) = true := by
  cases token with
  | word => cases h
  | _ => rfl

theorem isQualifier_eq_false_of_not_decorates {token : Token} (h : (!token.decorates) = true) :
    (!token.isQualifier) = true := by
  cases token with
  | word name =>
      rw [Token.decorates, Bool.not_or, Bool.and_eq_true] at h
      exact h.1
  | _ => rfl

/-- Words are sorted out among the tokens as they are among the words. -/
theorem filter_filterMap_specifierWord? {keep : String → Bool} (kept : Token → Bool)
    (h : ∀ name, kept (.word name) = keep name) (tokens : List Token) :
    (tokens.filterMap Token.specifierWord?).filter keep
      = (tokens.filter kept).filterMap Token.specifierWord? := by
  rw [List.filter_filterMap, List.filterMap_filter]
  congr 1
  funext token
  cases token with
  | word name =>
      by_cases htag : name ∈ tagKeywords
      · simp [Token.specifierWord?, htag]
      · cases hkeep : keep name <;> simp [Token.specifierWord?, htag, h, hkeep]
  | _ => simp [Token.specifierWord?]

/-- The parts that make up the reading. -/
theorem reading?_congr {tokens others : List Token}
    (hrejected : rejected? tokens = rejected? others)
    (hbase : baseWords (specifierWords tokens) = baseWords (specifierWords others))
    (hqualifiers : (specifierWords tokens).filter qualifierKeywords.contains
      = (specifierWords others).filter qualifierKeywords.contains)
    (hstars : tokens.count .star = others.count .star) : reading? tokens = reading? others := by
  rw [reading?, reading?, hrejected, hstars]
  simp only [typeOfWords, qualifiersOf, baseName, hbase, hqualifiers]

/-- In front of the stars only the order of the qualifiers and the order of the other tokens
matter. -/
theorem reading?_append_congr (hstar : .star ∉ front)
    (hqualifiers : front.filter Token.isQualifier = other.filter Token.isQualifier)
    (hothers : front.filter (!·.isQualifier) = other.filter (!·.isQualifier)) (rest : List Token) :
    reading? (front ++ rest) = reading? (other ++ rest) := by
  have hotherStar : .star ∉ other := by
    intro hmem
    have hkept : .star ∈ front.filter (!·.isQualifier) := by
      rw [hothers]
      exact List.mem_filter.mpr ⟨hmem, rfl⟩
    exact hstar (List.mem_filter.mp hkept).1
  have hbefore {part : List Token} (h : .star ∉ part) :
      beforeStars (part ++ rest) = part ++ beforeStars rest :=
    List.takeWhile_append_of_pos (ne_of_not_mem h)
  have hfrom {part : List Token} (h : .star ∉ part) : fromStars (part ++ rest) = fromStars rest :=
    List.dropWhile_append_of_pos (ne_of_not_mem h)
  refine reading?_congr ?_ ?_ ?_ ?_
  · have hfound : front.find? (!·.isWord) = other.find? (!·.isWord) := by
      rw [← find?_filter_of_imp (fun _ => isQualifier_eq_false_of_not_isWord) front, hothers,
        find?_filter_of_imp (fun _ => isQualifier_eq_false_of_not_isWord) other]
    rw [rejected?, rejected?, hbefore hstar, hbefore hotherStar, hfrom hstar, hfrom hotherStar,
      List.find?_append, List.find?_append, hfound]
  · have hbase (part : List Token) : (part.filterMap Token.specifierWord?).filter
        (!qualifierKeywords.contains ·)
          = (part.filter (!·.isQualifier)).filterMap Token.specifierWord? :=
      filter_filterMap_specifierWord? (!·.isQualifier) (fun _ => rfl) part
    rw [specifierWords, specifierWords, hbefore hstar, hbefore hotherStar, baseWords, baseWords,
      hbase, hbase, List.filter_append, List.filter_append, hothers]
  · have hqualifier (part : List Token) : (part.filterMap Token.specifierWord?).filter
        qualifierKeywords.contains
          = (part.filter Token.isQualifier).filterMap Token.specifierWord? :=
      filter_filterMap_specifierWord? Token.isQualifier (fun _ => rfl) part
    rw [specifierWords, specifierWords, hbefore hstar, hbefore hotherStar, hqualifier, hqualifier,
      List.filter_append, List.filter_append, hqualifiers]
  · rw [List.count_append, List.count_append, List.count_eq_zero.mpr hstar,
      List.count_eq_zero.mpr hotherStar]

/-- Behind the first star only the tokens that are no qualifiers matter. -/
theorem reading?_append_star_congr (hstar : .star ∉ front) {rest others : List Token}
    (h : rest.filter (!·.isQualifier) = others.filter (!·.isQualifier)) :
    reading? (front ++ .star :: rest) = reading? (front ++ .star :: others) := by
  have hbefore (behind : List Token) : beforeStars (front ++ .star :: behind) = front :=
    takeWhile_append_cons hstar behind
  refine reading?_congr ?_ ?_ ?_ ?_
  · have hfound : rest.find? (!·.decorates) = others.find? (!·.decorates) := by
      rw [← find?_filter_of_imp (fun _ => isQualifier_eq_false_of_not_decorates) rest, h,
        find?_filter_of_imp (fun _ => isQualifier_eq_false_of_not_decorates) others]
    have hfrom (behind : List Token) :
        (fromStars (front ++ .star :: behind)).find? (!·.decorates)
          = behind.find? (!·.decorates) := by
      rw [fromStars, dropWhile_append_cons hstar]
      rfl
    rw [rejected?, rejected?, hbefore, hbefore, hfrom, hfrom, hfound]
  · rw [specifierWords, specifierWords, hbefore, hbefore]
  · rw [specifierWords, specifierWords, hbefore, hbefore]
  · have hcount (behind : List Token) :
        (behind.filter (!·.isQualifier)).count .star = behind.count .star :=
      List.count_filter rfl
    rw [List.count_append, List.count_append, List.count_cons_self, List.count_cons_self,
      ← hcount rest, h, hcount others]

/-! ### The type of tokens -/

/-- Tokens have the type that their reading says. Qualifiers in front of the stars may stand
anywhere there as long as their order and that of the other tokens are kept, and qualifiers behind a
star can be left out. -/
theorem type?_reads :
    (∀ tokens, type? tokens = reading? tokens) ∧
    (∀ front other rest : List Token, .star ∉ front →
      front.filter Token.isQualifier = other.filter Token.isQualifier →
      front.filter (!·.isQualifier) = other.filter (!·.isQualifier) →
        type? (front ++ rest) = type? (other ++ rest)) ∧
    ∀ front rest : List Token,
      type? (front ++ .star :: rest) = type? (front ++ .star :: rest.filter (!·.isQualifier)) := by
  refine ⟨type?_eq_reading?, fun front other rest hstar hqualifiers hothers => ?_,
    fun front rest => ?_⟩
  · rw [type?_eq_reading?, type?_eq_reading?, reading?_append_congr hstar hqualifiers hothers]
  · rw [type?_eq_reading?, type?_eq_reading?]
    by_cases hmem : .star ∈ front
    · -- The star may not be the first one, so all behind the first one is compared.
      obtain ⟨before, behind, rfl, hstar⟩ := List.eq_append_cons_of_mem hmem
      rw [List.append_assoc, List.append_assoc]
      refine reading?_append_star_congr hstar ?_
      simp [List.filter_cons]
    · refine reading?_append_star_congr hmem ?_
      simp

/-- A qualifier is moved behind a tag and a base word, is repeated, and stands behind a star; and of
two tokens that do not fit the first one counts. -/
theorem type?_reads_moved_qualifier :
    let front : List Token :=
      [.word "const", .word "struct", .word "a", .word "volatile", .word "b", .word "const"]
    let other : List Token :=
      [.word "struct", .word "a", .word "b", .word "const", .word "volatile", .word "const"]
    let rest : List Token := [.star, .word "const", .star]
    .star ∉ front ∧ front.filter Token.isQualifier = other.filter Token.isQualifier ∧
      front.filter (!·.isQualifier) = other.filter (!·.isQualifier) ∧
      type? (front ++ rest) = type? (other ++ rest) ∧
      type? (front ++ rest)
        = some (.pointer (.pointer (.named ["const", "volatile"] "a b"))) ∧
      type? [.word "a", .star, .word "b", .openParen]
        = some (.unsupported "unexpected token Ident(\"b\")") := by
  intro front other rest
  obtain ⟨hreading, hmoved, -⟩ := type?_reads
  have hstar : .star ∉ front := by decide +kernel
  have hqualifiers : front.filter Token.isQualifier = other.filter Token.isQualifier := by
    decide +kernel
  have hothers : front.filter (!·.isQualifier) = other.filter (!·.isQualifier) := by decide +kernel
  refine ⟨hstar, hqualifiers, hothers, hmoved front other rest hstar hqualifiers hothers, ?_, ?_⟩
  · rw [hreading]
    decide +kernel
  · rw [hreading]
    decide +kernel

end HeaderBindings.Source
