import HeaderBindings.Source.Declaration
import Mathlib.Data.List.Basic
import Mathlib.Data.List.TakeWhile

/-!
What a statement that was read as a declaration consists of. The tokens of a type that can be
rendered are words and stars, the groups between the commas of a parameter list give the list back
when they are joined, and a declaration is a type, a name and a parenthesised list, of which nothing
is left over.
-/

namespace HeaderBindings.Source

/-! ### Cutting at a mark -/

section
variable {α : Type} [DecidableEq α] {mark : α} {front : List α}

theorem ne_of_not_mem (h : mark ∉ front) : ∀ a ∈ front, (a != mark) = true := by
  intro a hmem
  rw [bne_iff_ne]
  rintro rfl
  exact h hmem

theorem takeWhile_append_cons (h : mark ∉ front) (back : List α) :
    (front ++ mark :: back).takeWhile (· != mark) = front := by
  rw [List.takeWhile_append_of_pos (ne_of_not_mem h), List.takeWhile_cons_of_neg (by simp),
    List.append_nil]

theorem dropWhile_append_cons (h : mark ∉ front) (back : List α) :
    (front ++ mark :: back).dropWhile (· != mark) = mark :: back := by
  rw [List.dropWhile_append_of_pos (ne_of_not_mem h), List.dropWhile_cons_of_neg (by simp)]

/-- A list is cut in one way only at the first place where a mark stands. -/
theorem append_cons_inj {other back rest : List α} (h : mark ∉ front) (hother : mark ∉ other)
    (heq : front ++ mark :: back = other ++ mark :: rest) : front = other ∧ back = rest := by
  constructor
  · rw [← takeWhile_append_cons h back, heq, takeWhile_append_cons hother]
  · have hdrop := congrArg (List.dropWhile (· != mark)) heq
    rw [dropWhile_append_cons h, dropWhile_append_cons hother] at hdrop
    exact (List.cons.inj hdrop).2

end

/-! ### Types -/

/-- Whether a token can be part of a type that has a rendering. -/
def Token.isSpecifier : Token → Bool
  | .word _ | .star => true
  | _ => false

theorem Specifiers.isSpecifier_of_add {read next : Specifiers} {token : Token}
    (h : read.add token = .ok next) : token.isSpecifier = true := by
  cases token <;> simp_all [Specifiers.add, Token.isSpecifier]

/-- What one more token adds: a new qualifier or a word of the base name in front of the first star,
nothing, or a star. -/
theorem Specifiers.add_cases {read next : Specifiers} {token : Token}
    (h : read.add token = .ok next) :
    (∃ name, token = .word name ∧ read.stars = 0 ∧ name ∈ qualifierKeywords ∧
      name ∉ read.qualifiers ∧ next = { read with qualifiers := read.qualifiers ++ [name] }) ∨
    (∃ name, token = .word name ∧ read.stars = 0 ∧ name ∉ qualifierKeywords ∧
      name ∉ tagKeywords ∧ next = { read with words := read.words ++ [name] }) ∨
    (∃ name, token = .word name ∧ next = read) ∨
    (token = .star ∧ next = { read with stars := read.stars + 1 }) := by
  cases token with
  | word name =>
      rw [add] at h
      split at h
      case isTrue hqualifier =>
        split at h
        case isTrue hnew =>
          obtain rfl := Except.ok.inj h
          simp only [Bool.and_eq_true, decide_eq_true_eq, Bool.not_eq_true', List.contains_eq_mem,
            decide_eq_false_iff_not] at hqualifier hnew
          exact .inl ⟨name, rfl, hnew.1, hqualifier, hnew.2, rfl⟩
        case isFalse =>
          obtain rfl := Except.ok.inj h
          exact .inr (.inr (.inl ⟨name, rfl, rfl⟩))
      case isFalse hqualifier =>
        split at h
        case isTrue =>
          obtain rfl := Except.ok.inj h
          exact .inr (.inr (.inl ⟨name, rfl, rfl⟩))
        case isFalse htag =>
          split at h
          case isTrue hstars =>
            obtain rfl := Except.ok.inj h
            simp only [List.contains_eq_mem, decide_eq_true_eq] at hqualifier htag
            exact .inr (.inl ⟨name, rfl, hstars, hqualifier, htag, rfl⟩)
          case isFalse => cases h
  | star =>
      obtain rfl := Except.ok.inj h
      exact .inr (.inr (.inr ⟨rfl, rfl⟩))
  | _ => cases h

/-- A type is an unsupported shape on its own, or it is made of what was read from the tokens one by
one, of which all holds that each token keeps. -/
theorem eq_of_typeFrom? {holds : Specifiers → Prop} {read : Specifiers} {tokens : List Token}
    {type : CType} (hread : holds read)
    (hadd : ∀ token ∈ tokens, ∀ read next, holds read → read.add token = .ok next → holds next)
    (h : typeFrom? read tokens = some type) :
    (∃ shape, type = .unsupported shape) ∨
      ∃ written, holds written ∧ written.words ≠ [] ∧
        type = .behindPointers written.stars
          (.named written.qualifiers (String.intercalate " " written.words)) := by
  induction tokens generalizing read with
  | nil =>
      rw [typeFrom?, Specifiers.type?] at h
      split at h
      case isTrue => cases h
      case isFalse hwords =>
        exact .inr ⟨read, hread, by simpa using hwords, (Option.some.inj h).symm⟩
  | cons token rest ih =>
      rw [typeFrom?] at h
      split at h
      case h_1 next hnext =>
        refine ih (hadd token List.mem_cons_self read next hread hnext) ?_ h
        exact fun other hmem => hadd other (List.mem_cons_of_mem token hmem)
      case h_2 shape _ => exact .inl ⟨shape, (Option.some.inj h).symm⟩

/-- A type with a rendering is read from words and stars only. -/
theorem isSpecifier_of_typeFrom? {read : Specifiers} {tokens : List Token} {type : CType}
    (h : typeFrom? read tokens = some type) (hshape : type.unsupportedShape? = none) :
    ∀ token ∈ tokens, token.isSpecifier = true := by
  induction tokens generalizing read with
  | nil => simp
  | cons token rest ih =>
      rw [typeFrom?] at h
      split at h
      case h_1 next hadd =>
        intro other hmem
        rcases List.mem_cons.mp hmem with rfl | hrest
        · exact Specifiers.isSpecifier_of_add hadd
        · exact ih h other hrest
      case h_2 shape hadd =>
        obtain rfl := Option.some.inj h
        cases hshape

/-! ### Parameters -/

/-- What stands before the last token and the last token make up the tokens. -/
theorem splitName_append (tokens : List Token) :
    (∃ name, splitName tokens = (name, tokens.dropLast) ∧ tokens.getLast? = some (.word name) ∧
      isTypeWord name = false) ∨ splitName tokens = ("", tokens) := by
  rw [splitName]
  split
  case h_1 name hlast =>
    split
    case isTrue hname =>
      simp only [Bool.and_eq_true, Bool.not_eq_true'] at hname
      exact Or.inl ⟨name, rfl, hlast, hname.1⟩
    case isFalse => exact Or.inr rfl
  case h_2 => exact Or.inr rfl

theorem parameter_of_openParen {tokens : List Token} (h : .openParen ∈ tokens) :
    parameter tokens
      = ⟨pointerName ((tokens.dropWhile (· != .openParen)).drop 1),
          .unsupported "function pointer"⟩ := by
  have hne : tokens ≠ [.ellipsis] := by
    rintro rfl
    simp at h
  rw [parameter, if_neg hne, if_pos (List.contains_iff_mem.mpr h)]

theorem parameter_of_openBracket {tokens : List Token} (hparen : .openParen ∉ tokens)
    (h : .openBracket ∈ tokens) :
    parameter tokens = ⟨arrayName (tokens.takeWhile (· != .openBracket)), .unsupported "array"⟩ := by
  have hne : tokens ≠ [.ellipsis] := by
    rintro rfl
    simp at h
  rw [parameter, if_neg hne, if_neg (by simpa using hparen), if_pos (List.contains_iff_mem.mpr h)]

/-- Without parentheses and brackets, a parameter is a type with a name behind it. -/
theorem parameter_of_splitName {tokens typeTokens : List Token} {name : String}
    (hne : tokens ≠ [.ellipsis]) (hparen : .openParen ∉ tokens) (hbracket : .openBracket ∉ tokens)
    (hsplit : splitName tokens = (name, typeTokens)) :
    parameter tokens
      = ⟨name, (type? typeTokens).getD (.unsupported "missing parameter type")⟩ := by
  rw [parameter, if_neg hne, if_neg (by simpa using hparen), if_neg (by simpa using hbracket),
    hsplit]

/-- A parameter is of an unsupported shape, or it is written as its type with its name behind it, if
it has one. -/
theorem parameter_cases (tokens : List Token) :
    (∃ shape, (parameter tokens).type = .unsupported shape) ∨
      ∃ typeTokens, type? typeTokens = some (parameter tokens).type ∧
        (((parameter tokens).name = "" ∧ tokens = typeTokens) ∨
          (isTypeWord (parameter tokens).name = false ∧
            tokens = typeTokens ++ [.word (parameter tokens).name])) := by
  rw [parameter]
  split
  · exact Or.inl ⟨_, rfl⟩
  · split
    · exact Or.inl ⟨_, rfl⟩
    · split
      · exact Or.inl ⟨_, rfl⟩
      · cases htype : type? (splitName tokens).2 with
        | none => exact Or.inl ⟨"missing parameter type", by simp only [htype, Option.getD_none]⟩
        | some type =>
            refine Or.inr ⟨(splitName tokens).2, by simp only [htype, Option.getD_some], ?_⟩
            rcases splitName_append tokens with ⟨name, hsplit, hlast, hname⟩ | hsplit
            · rw [hsplit]
              exact Or.inr ⟨hname, (List.dropLast_append_getLast? _ hlast).symm⟩
            · rw [hsplit]
              exact Or.inl ⟨rfl, rfl⟩

/-- A parameter of a type with a rendering is of no unsupported shape. -/
theorem exists_type?_of_parameter {tokens : List Token}
    (hshape : (parameter tokens).type.unsupportedShape? = none) :
    ∃ typeTokens, type? typeTokens = some (parameter tokens).type ∧
      (((parameter tokens).name = "" ∧ tokens = typeTokens) ∨
        (isTypeWord (parameter tokens).name = false ∧
          tokens = typeTokens ++ [.word (parameter tokens).name])) := by
  refine (parameter_cases tokens).resolve_left ?_
  rintro ⟨shape, htype⟩
  rw [htype] at hshape
  cases hshape

/-- A parameter of a type with a rendering is written with words and stars, and not with nothing. -/
theorem isSpecifier_of_parameter {tokens : List Token}
    (hshape : (parameter tokens).type.unsupportedShape? = none) :
    tokens ≠ [] ∧ ∀ token ∈ tokens, token.isSpecifier = true := by
  obtain ⟨typeTokens, htype, hparts⟩ := exists_type?_of_parameter hshape
  have htokens := isSpecifier_of_typeFrom? htype hshape
  rcases hparts with ⟨-, rfl⟩ | ⟨-, hparts⟩
  · refine ⟨?_, htokens⟩
    rintro rfl
    cases htype
  · rw [hparts]
    refine ⟨by simp, fun token hmem => ?_⟩
    rcases List.mem_append.mp hmem with hmem | hmem
    · exact htokens token hmem
    · obtain rfl := List.mem_singleton.mp hmem
      rfl

/-! ### Groups -/

theorem intercalate_consGroup (token : Token) (groups : List (List Token)) :
    [Token.comma].intercalate (consGroup token groups)
      = token :: [Token.comma].intercalate groups := by
  cases groups with
  | nil => simp [consGroup]
  | cons group groups => cases groups <;> simp [consGroup]

theorem parameterGroupsFrom_ne_nil (depth : Nat) (tokens : List Token) :
    parameterGroupsFrom depth tokens ≠ [] := by
  have hcons (token : Token) (groups : List (List Token)) : consGroup token groups ≠ [] := by
    cases groups <;> simp [consGroup]
  fun_cases parameterGroupsFrom depth tokens <;> simp [hcons]

/-- Joining the groups with commas gives the tokens back. -/
theorem intercalate_parameterGroupsFrom (depth : Nat) (tokens : List Token) :
    [Token.comma].intercalate (parameterGroupsFrom depth tokens) = tokens := by
  fun_induction parameterGroupsFrom depth tokens with
  | case1 => rfl
  | case2 rest ih =>
      rw [List.intercalate_cons_of_ne_nil (parameterGroupsFrom_ne_nil 0 rest), ih]
      rfl
  | case3 depth rest _ ih | case4 depth rest _ ih | case5 depth rest _ ih | case6 depth rest _ ih
  | case7 depth rest _ ih => rw [intercalate_consGroup, ih]
  | case8 depth token rest _ _ _ _ _ ih => rw [intercalate_consGroup, ih]

theorem mem_of_mem_parameterGroups {tokens group : List Token} {token : Token}
    (hgroup : group ∈ parameterGroups tokens) (h : token ∈ group) : token ∈ tokens := by
  have hjoined := intercalate_parameterGroupsFrom 0 tokens
  obtain ⟨before, after, hsplit⟩ := List.append_of_mem hgroup
  rw [← hjoined, ← parameterGroups, hsplit]
  clear hjoined hsplit hgroup
  induction before with
  | nil =>
      by_cases hafter : after = []
      · subst hafter
        simpa using h
      · rw [List.nil_append, List.intercalate_cons_of_ne_nil hafter, List.append_assoc]
        exact List.mem_append_left _ h
  | cons other before ih =>
      rw [List.cons_append, List.intercalate_cons_of_ne_nil (by simp)]
      exact List.mem_append_right _ ih

/-- Joining groups of words and stars makes a list with one comma between two groups. -/
theorem of_intercalate_comma {groups : List (List Token)} (hne : groups ≠ [])
    (hgroups : ∀ group ∈ groups, ∀ token ∈ group, token.isSpecifier = true) :
    (∀ token ∈ [Token.comma].intercalate groups, token.isSpecifier = true ∨ token = .comma) ∧
      groups.length = ([Token.comma].intercalate groups).count .comma + 1 := by
  have hcount {group : List Token} (h : ∀ token ∈ group, token.isSpecifier = true) :
      group.count .comma = 0 :=
    List.count_eq_zero.mpr fun hmem => by simpa [Token.isSpecifier] using h _ hmem
  induction groups with
  | nil => exact absurd rfl hne
  | cons group rest ih =>
      have hgroup := hgroups group List.mem_cons_self
      by_cases hrest : rest = []
      · subst hrest
        rw [List.intercalate_singleton, hcount hgroup]
        exact ⟨fun token hmem => Or.inl (hgroup token hmem), rfl⟩
      · obtain ⟨htokens, hlength⟩ := ih hrest fun other hmem =>
          hgroups other (List.mem_cons_of_mem group hmem)
        rw [List.intercalate_cons_of_ne_nil hrest]
        refine ⟨fun token hmem => ?_, ?_⟩
        · rcases List.mem_append.mp hmem with hmem | hmem
          · rcases List.mem_append.mp hmem with hmem | hmem
            · exact Or.inl (hgroup token hmem)
            · exact Or.inr (List.mem_singleton.mp hmem)
          · exact htokens token hmem
        · rw [List.length_cons, hlength, List.count_append, List.count_append, hcount hgroup,
            List.count_singleton_self]
          omega

/-- Words and stars belong to the group in which they stand. -/
theorem parameterGroupsFrom_append {depth : Nat} {group rest next : List Token}
    {others : List (List Token)} (hgroup : ∀ token ∈ group, token.isSpecifier = true)
    (hrest : parameterGroupsFrom depth rest = next :: others) :
    parameterGroupsFrom depth (group ++ rest) = (group ++ next) :: others := by
  induction group with
  | nil => exact hrest
  | cons token group ih =>
      have htoken := hgroup token List.mem_cons_self
      have hstep : parameterGroupsFrom depth (token :: (group ++ rest))
          = consGroup token (parameterGroupsFrom depth (group ++ rest)) := by
        cases token with
        | word | star => rfl
        | _ => cases htoken
      rw [List.cons_append, hstep,
        ih fun other hmem => hgroup other (List.mem_cons_of_mem token hmem), consGroup,
        List.cons_append]

/-- Groups of words and stars are found again when they are joined with commas. -/
theorem parameterGroups_intercalate {groups : List (List Token)} (hne : groups ≠ [])
    (hgroups : ∀ group ∈ groups, ∀ token ∈ group, token.isSpecifier = true) :
    parameterGroups ([Token.comma].intercalate groups) = groups := by
  induction groups with
  | nil => exact absurd rfl hne
  | cons group rest ih =>
      have hgroup := hgroups group List.mem_cons_self
      by_cases hrest : rest = []
      · subst hrest
        have hend : parameterGroupsFrom 0 [] = [[]] := rfl
        have happend := parameterGroupsFrom_append hgroup hend
        rw [List.append_nil] at happend
        rw [List.intercalate_singleton, parameterGroups, happend]
      · have hcomma : parameterGroupsFrom 0 (.comma :: [Token.comma].intercalate rest)
            = [] :: rest := by
          rw [parameterGroupsFrom, if_pos rfl, ← parameterGroups,
            ih hrest fun other hmem => hgroups other (List.mem_cons_of_mem group hmem)]
        rw [parameterGroups, List.intercalate_cons_of_ne_nil hrest, List.append_assoc,
          List.singleton_append, parameterGroupsFrom_append hgroup hcomma, List.append_nil]

/-- Each group of words and stars declares a parameter, unless the only one is `void`. -/
theorem parameters_intercalate {groups : List (List Token)}
    (hgroups : ∀ group ∈ groups, ∀ token ∈ group, token.isSpecifier = true)
    (hnonempty : ∀ group ∈ groups, group ≠ []) (hvoid : groups ≠ [[.word "void"]]) :
    parameters ([Token.comma].intercalate groups) = groups.map parameter := by
  by_cases hne : groups = []
  · subst hne
    rfl
  · have hfound := parameterGroups_intercalate hne hgroups
    rw [parameters, if_neg, hfound]
    rintro (hempty | hword)
    · rw [hempty] at hfound
      exact hnonempty [] (by rw [← hfound]; exact List.mem_cons_self) rfl
    · rw [hword] at hfound
      exact hvoid hfound.symm

/-! ### Closing parentheses -/

/-- Tokens that close all parentheses that they open and the `depth` ones open in front of them, and
none besides. -/
structure IsMatchedFrom (depth : Nat) (tokens : List Token) : Prop where
  covered : ∀ front, front <+: tokens →
    front.count .closeParen ≤ depth + front.count .openParen
  closed : tokens.count .closeParen = depth + tokens.count .openParen

section
variable {depth : Nat} {token : Token} {tokens inner rest : List Token}

theorem isMatchedFrom_nil : IsMatchedFrom depth [] ↔ depth = 0 := by
  constructor
  · rintro ⟨-, hclosed⟩
    simpa using hclosed.symm
  · rintro rfl
    refine ⟨fun front hfront => ?_, rfl⟩
    rw [List.prefix_nil.mp hfront]
    exact Nat.zero_le _

/-- A token in front of matched tokens changes how many parentheses are open. -/
theorem isMatchedFrom_cons_iff {next : Nat}
    (h : depth + [token].count .openParen = next + [token].count .closeParen) :
    IsMatchedFrom depth (token :: tokens) ↔ IsMatchedFrom next tokens := by
  have hcount (mark : Token) (front : List Token) :
      (token :: front).count mark = [token].count mark + front.count mark := by
    rw [← List.singleton_append, List.count_append]
  constructor
  · rintro ⟨hcovered, hclosed⟩
    refine ⟨fun front hfront => ?_, ?_⟩
    · have hlong := hcovered (token :: front) (List.cons_prefix_cons.mpr ⟨rfl, hfront⟩)
      rw [hcount .closeParen, hcount .openParen] at hlong
      omega
    · rw [hcount .closeParen, hcount .openParen] at hclosed
      omega
  · rintro ⟨hcovered, hclosed⟩
    refine ⟨fun front hfront => ?_, ?_⟩
    · rcases List.prefix_cons_iff.mp hfront with rfl | ⟨front, rfl, hrest⟩
      · exact Nat.zero_le _
      · have hshort := hcovered front hrest
        rw [hcount .closeParen, hcount .openParen]
        omega
    · rw [hcount .closeParen, hcount .openParen]
      omega

/-- A parenthesis that is not open is not closed. -/
theorem not_isMatchedFrom_closeParen : ¬IsMatchedFrom 0 (.closeParen :: tokens) := by
  intro h
  have hcovered := h.covered [.closeParen] ⟨tokens, rfl⟩
  simp at hcovered

/-- The search for the closing parenthesis goes over matched tokens and stops behind them. -/
theorem closeParenFrom_eq_some_iff :
    closeParenFrom (depth + 1) tokens = some (inner, rest) ↔
      tokens = inner ++ .closeParen :: rest ∧ IsMatchedFrom depth inner := by
  induction tokens generalizing depth inner with
  | nil => simp [closeParenFrom]
  | cons token tokens ih =>
      have hfurther {next : Nat}
          (hnext : depth + [token].count .openParen = next + [token].count .closeParen)
          (hfirst : token = .closeParen → depth ≠ 0) :
          (closeParenFrom (next + 1) tokens).map (fun cut => (token :: cut.1, cut.2))
              = some (inner, rest) ↔
            token :: tokens = inner ++ .closeParen :: rest ∧ IsMatchedFrom depth inner := by
        constructor
        · intro h
          obtain ⟨⟨more, behind⟩, hcut, hsame⟩ := Option.map_eq_some_iff.mp h
          obtain ⟨rfl, rfl⟩ := Prod.mk.inj hsame
          obtain ⟨rfl, hmore⟩ := ih.mp hcut
          exact ⟨rfl, (isMatchedFrom_cons_iff hnext).mpr hmore⟩
        · rintro ⟨hsplit, hinner⟩
          cases inner with
          | nil =>
              obtain ⟨rfl, -⟩ := List.cons.inj hsplit
              exact absurd (isMatchedFrom_nil.mp hinner) (hfirst rfl)
          | cons first inner =>
              obtain ⟨rfl, hrest⟩ := List.cons.inj hsplit
              rw [ih.mpr ⟨hrest, (isMatchedFrom_cons_iff hnext).mp hinner⟩]
              rfl
      cases token with
      | openParen => exact hfurther rfl (by simp)
      | closeParen =>
          cases depth with
          | zero =>
              have hends : closeParenFrom (0 + 1) (.closeParen :: tokens) = some ([], tokens) := rfl
              rw [hends]
              constructor
              · rintro ⟨⟩
                exact ⟨rfl, isMatchedFrom_nil.mpr rfl⟩
              · rintro ⟨hsplit, hinner⟩
                cases inner with
                | nil =>
                    obtain ⟨-, rfl⟩ := List.cons.inj hsplit
                    rfl
                | cons first inner =>
                    obtain ⟨rfl, -⟩ := List.cons.inj hsplit
                    exact absurd hinner not_isMatchedFrom_closeParen
          | succ depth =>
              simp only [closeParenFrom]
              rw [if_neg (by omega)]
              exact hfurther (by simp) (by simp)
      | _ => exact hfurther rfl (by simp)

/-- Whether a token opens or closes a parenthesis. -/
def Token.isParenthesis (token : Token) : Bool := token = .openParen || token = .closeParen

/-- Only the parentheses matter for whether they match. -/
theorem isMatchedFrom_filter :
    IsMatchedFrom depth (tokens.filter Token.isParenthesis) ↔ IsMatchedFrom depth tokens := by
  induction tokens generalizing depth with
  | nil => rfl
  | cons token tokens ih =>
      by_cases hopen : token = .openParen
      · subst hopen
        have hstep : depth + [Token.openParen].count .openParen
            = depth + 1 + [Token.openParen].count .closeParen := rfl
        rw [List.filter_cons_of_pos rfl, isMatchedFrom_cons_iff hstep, isMatchedFrom_cons_iff hstep,
          ih]
      by_cases hclose : token = .closeParen
      · subst hclose
        rw [List.filter_cons_of_pos rfl]
        cases depth with
        | zero => exact iff_of_false not_isMatchedFrom_closeParen not_isMatchedFrom_closeParen
        | succ depth =>
            have hstep : depth + 1 + [Token.closeParen].count .openParen
                = depth + [Token.closeParen].count .closeParen := rfl
            rw [isMatchedFrom_cons_iff hstep, isMatchedFrom_cons_iff hstep, ih]
      · have hstep : depth + [token].count .openParen = depth + [token].count .closeParen := by
          simp [hopen, hclose]
        rw [List.filter_cons_of_neg (by simp [Token.isParenthesis, hopen, hclose]), ih,
          isMatchedFrom_cons_iff hstep]

theorem isMatchedFrom_of_not_mem (hopen : .openParen ∉ inner) (hclose : .closeParen ∉ inner) :
    IsMatchedFrom 0 inner := by
  refine ⟨fun front hfront => ?_, ?_⟩
  · rw [List.count_eq_zero.mpr fun hmem => hclose (hfront.subset hmem)]
    exact Nat.zero_le _
  · rw [List.count_eq_zero.mpr hclose, List.count_eq_zero.mpr hopen]

/-- The first part of a cut and the rest are separated by a closing parenthesis. -/
theorem eq_append_of_closeParenFrom (h : closeParenFrom 1 tokens = some (inner, rest)) :
    tokens = inner ++ .closeParen :: rest :=
  (closeParenFrom_eq_some_iff.mp h).1

end

/-! ### Declarations -/

/-- What stands in front of a parameter list ends with the declared name. -/
theorem eq_append_of_declaredName? {before : List Token} {name : String}
    (h : declaredName? before = some name) :
    before = before.dropLast ++ [.word name] ∧ isTypeWord name = false := by
  rw [declaredName?] at h
  split at h
  case h_1 word hlast =>
    split at h
    case isTrue => cases h
    case isFalse htype =>
      obtain rfl := Option.some.inj h
      exact ⟨(List.dropLast_append_getLast? _ hlast).symm, Bool.eq_false_iff.mpr htype⟩
  case h_2 => cases h

/-- Tokens are read as a declaration if they are a type, a name and a list in parentheses, and
nothing is left over. -/
theorem declarationOfTokens_eq_ok_iff {tokens : List Token} {signature : Signature} :
    declarationOfTokens tokens = .ok signature ↔
      ∃ front inner,
        tokens = front ++ .word signature.name :: .openParen :: (inner ++ [.closeParen]) ∧
        .openParen ∉ front ∧ isTypeWord signature.name = false ∧ IsMatchedFrom 0 inner ∧
        type? front = some signature.returnType ∧ parameters inner = signature.parameters := by
  constructor
  · intro h
    rw [declarationOfTokens] at h
    have hwhole := List.takeWhile_append_dropWhile (p := (· != Token.openParen)) (l := tokens)
    have hopen : .openParen ∉ tokens.takeWhile (· != Token.openParen) := fun hmem => by
      simpa using List.mem_takeWhile_imp hmem
    generalize tokens.takeWhile (· != Token.openParen) = before at h hwhole hopen
    split at h
    case h_1 => cases h
    case h_2 first list hdrop =>
      have hfirst : first = .openParen := by
        have hhead := List.head?_dropWhile_not (· != Token.openParen) tokens
        rw [hdrop] at hhead
        simpa using hhead
      subst hfirst
      split at h
      case h_1 => cases h
      case h_2 name hname =>
        obtain ⟨hbefore, htype⟩ := eq_append_of_declaredName? hname
        split at h
        case h_1 => cases h
        case h_2 => cases h
        case h_3 inner hclose =>
          obtain ⟨rfl, hinner⟩ := closeParenFrom_eq_some_iff.mp hclose
          split at h
          case h_1 => cases h
          case h_2 returnType hreturn =>
            obtain rfl := Except.ok.inj h
            refine ⟨before.dropLast, inner, ?_, fun hmem => hopen (List.dropLast_subset _ hmem),
              htype, hinner, hreturn, rfl⟩
            calc
              tokens = before ++ .openParen :: (inner ++ [.closeParen]) := by rw [← hwhole, hdrop]
              _ = before.dropLast ++ [.word name] ++ .openParen :: (inner ++ [.closeParen]) := by
                rw [← hbefore]
              _ = _ := List.append_assoc ..
  · rintro ⟨front, inner, rfl, hopen, hname, hinner, htype, hparameters⟩
    have hfront : .openParen ∉ front ++ [.word signature.name] := by simp [hopen]
    have hdeclared : declaredName? (front ++ [.word signature.name]) = some signature.name := by
      rw [declaredName?, List.getLast?_concat]
      simp [hname]
    have hclose : closeParenFrom 1 (inner ++ [.closeParen]) = some (inner, []) :=
      closeParenFrom_eq_some_iff.mpr ⟨rfl, hinner⟩
    rw [List.append_cons, declarationOfTokens, takeWhile_append_cons hfront,
      dropWhile_append_cons hfront]
    simp only [hdeclared, hclose, List.dropLast_concat, htype, hparameters]

/-- A type, a name and a list in parentheses are read as a declaration. -/
theorem declarationOfTokens_list {typeTokens inner : List Token} {name : String} {type : CType}
    (htype : type? typeTokens = some type) (hname : isTypeWord name = false)
    (hopen : .openParen ∉ typeTokens ++ inner) (hclose : .closeParen ∉ inner) :
    declarationOfTokens (typeTokens ++ [.word name] ++ .openParen :: (inner ++ [.closeParen]))
      = .ok ⟨name, type, parameters inner⟩ := by
  obtain ⟨hfront, hinner⟩ := not_or.mp (mt List.mem_append.mpr hopen)
  rw [List.append_assoc]
  exact declarationOfTokens_eq_ok_iff.mpr
    ⟨typeTokens, inner, rfl, hfront, hname, isMatchedFrom_of_not_mem hinner hclose, htype, rfl⟩

/-- A declaration is its type, its name, and the list of its parameters in parentheses. -/
theorem eq_of_declarationOfTokens {tokens : List Token} {signature : Signature}
    (h : declarationOfTokens tokens = .ok signature) :
    ∃ typeTokens inner,
      tokens = typeTokens ++ .word signature.name :: .openParen :: (inner ++ [.closeParen]) ∧
      isTypeWord signature.name = false ∧ type? typeTokens = some signature.returnType ∧
      parameters inner = signature.parameters := by
  obtain ⟨front, inner, htokens, -, hname, -, htype, hparameters⟩ :=
    declarationOfTokens_eq_ok_iff.mp h
  exact ⟨front, inner, htokens, hname, htype, hparameters⟩

end HeaderBindings.Source
