import HeaderBindings.Proofs.Casing
import HeaderBindings.Proofs.EnumerationText
import HeaderBindings.Proofs.FirstErrors

/-!
The names of variants. A constant gives a variant exactly if it starts with the shared prefix and
goes on with more than underscores, and the first constant of a list that does not is the error of
the whole enumeration. The variant of an ASCII constant begins with the first character behind the
prefix that is no underscore: with a capital if this is a letter, and in quotes if it is a digit.
-/

namespace HeaderBindings
open Text

namespace Identifier

/-- A character of one kind, then characters of another. -/
def isNameOf (start inner : Char → Bool) : List Char → Bool
  | [] => false
  | first :: rest => start first && rest.all inner

theorem isNameOf_cons {start inner : Char → Bool} {first : Char} {rest : List Char} :
    isNameOf start inner (first :: rest) = true ↔
      start first = true ∧ ∀ c ∈ rest, inner c = true := by
  rw [isNameOf, Bool.and_eq_true, List.all_eq_true]

/-- A name that begins with an ASCII letter and goes on with ASCII letters and digits is plain. -/
theorem isPlain_of_isNameOf {start : Char → Bool} (hstart : ∀ c, start c = true → c.isAlpha = true)
    {name : String} (h : isNameOf start Char.isAlphanum name.toList = true) :
    isPlain name = true := by
  rw [isPlain]
  cases hname : name.toList with
  | nil =>
      rw [hname] at h
      cases h
  | cons first rest =>
      rw [hname, isNameOf_cons] at h
      obtain ⟨hfirst, hrest⟩ := h
      rw [isPlainChars, hstart first hfirst, Bool.true_or, Bool.true_and, List.all_eq_true]
      intro c hc
      rw [isPlainChar, hrest c hc, Bool.true_or]

/-- A name that begins with a digit, in quotes. -/
def IsQuotedName (name : String) : Prop :=
  ∃ quoted, name = "@\"" ++ quoted ++ "\"" ∧
    isNameOf Char.isDigit Char.isAlphanum quoted.toList = true

/-- What is quoted begins with no letter. -/
theorem not_isQuotedName_of_isNameOf {name : String}
    (h : isNameOf Char.isUpper Char.isAlphanum name.toList = true) : ¬ IsQuotedName name := by
  rintro ⟨quoted, rfl, -⟩
  have hname : ("@\"" ++ quoted ++ "\"").toList = '@' :: ("\"" ++ quoted ++ "\"").toList := by simp
  rw [hname, isNameOf_cons] at h
  exact absurd h.1 (by decide)

theorem isAlphanum_of_isPlainChar {c : Char} (h : isPlainChar c = true) (hc : c ≠ '_') :
    c.isAlphanum = true := by
  rw [isPlainChar, Bool.or_eq_true, beq_iff_eq] at h
  exact h.resolve_right hc

theorem pascalChars_append_of_underscores {underscores : List Char}
    (h : ∀ c ∈ underscores, c = '_') (text : List Char) :
    pascalChars (underscores ++ text) = pascalChars text := by
  induction underscores with
  | nil => rfl
  | cons c underscores ih =>
      obtain ⟨rfl, hrest⟩ := List.forall_mem_cons.mp h
      rw [List.cons_append, pascalChars_underscore_cons, ih hrest]

/-- The pascal case of an ASCII name begins with the upper case of its first character that is no
underscore, and goes on with letters and digits. -/
theorem exists_pascalChars_of_plain {text : List Char} (hplain : ∀ c ∈ text, isPlainChar c = true)
    {first : Char} (hfirst : text.find? (· != '_') = some first) :
    first.isAlphanum = true ∧ ∃ rest, pascalChars text = first.toUpper :: rest ∧
      ∀ c ∈ rest, c.isAlphanum = true := by
  obtain ⟨hne, underscores, behind, rfl, hunderscores⟩ := List.find?_eq_some_iff_append.mp hfirst
  have hletter : first ≠ '_' := bne_iff_ne.mp hne
  have hplainFirst := hplain first (List.mem_append_right _ List.mem_cons_self)
  have hdropped : ∀ c ∈ underscores, c = '_' := by
    intro c hc
    simpa using hunderscores c hc
  obtain ⟨rest, hrest⟩ := exists_pascalChars_cons hletter behind
  rw [upperCase_of_ascii (toNat_lt_of_isPlainChar hplainFirst), List.singleton_append] at hrest
  have hcased := pascalChars_append_of_underscores hdropped (first :: behind)
  rw [hrest] at hcased
  refine ⟨isAlphanum_of_isPlainChar hplainFirst hletter, rest, hcased, fun c hc => ?_⟩
  have hmem : c ∈ pascalChars (underscores ++ first :: behind) :=
    hcased ▸ List.mem_cons_of_mem _ hc
  apply isAlphanum_of_isPlainChar (isPlainChar_pascalChars hplain c hmem)
  rintro rfl
  exact underscore_not_mem_pascalChars _ hmem

theorem isAlpha_of_isUpper (c : Char) (h : c.isUpper = true) : c.isAlpha = true := by
  rw [Char.isAlpha, h, Bool.true_or]

/-- A name that begins with a letter needs no quotes. -/
theorem escape_of_letter {first : Char} {rest : List Char} (hfirst : first.isAlpha = true)
    (hrest : ∀ c ∈ rest, c.isAlphanum = true) :
    escape (String.ofList (first.toUpper :: rest)) = String.ofList (first.toUpper :: rest) ∧
      isNameOf Char.isUpper Char.isAlphanum (first.toUpper :: rest) = true := by
  have hname : isNameOf Char.isUpper Char.isAlphanum (first.toUpper :: rest) = true :=
    isNameOf_cons.mpr ⟨(Char.isUpper_toUpper_eq_isAlpha first).trans hfirst, hrest⟩
  exact ⟨if_pos (isPlain_of_isNameOf isAlpha_of_isUpper (String.toList_ofList ▸ hname)), hname⟩

/-- A name that begins with a digit is quoted, with the digit as it is. -/
theorem escape_of_digit {first : Char} {rest : List Char} (hfirst : first.isDigit = true)
    (hrest : ∀ c ∈ rest, c.isAlphanum = true) :
    IsQuotedName (escape (String.ofList (first.toUpper :: rest))) := by
  have hletter := not_isAlpha_of_isDigit hfirst
  have hunderscore : (first == '_') = false := by
    rw [beq_eq_false_iff_ne]
    rintro rfl
    exact absurd hfirst (by decide)
  have hlower : ¬ first.isLower = true := by
    intro h
    rw [Char.isAlpha, h, Bool.or_true] at hletter
    cases hletter
  have hplain : isPlain (String.ofList (first :: rest)) = false := by
    rw [isPlain, String.toList_ofList, isPlainChars, hletter, hunderscore, Bool.or_false,
      Bool.false_and]
  rw [Char.toUpper_eq_of_not_isLower hlower, escape, hplain]
  refine ⟨String.ofList (first :: rest), rfl, ?_⟩
  rw [String.toList_ofList]
  exact isNameOf_cons.mpr ⟨hfirst, hrest⟩

end Identifier

namespace Enumeration
open Identifier

variable {style : EnumStyle} {enumeration sharedPrefix constant variant : String}

/-! ### Whether a constant gives a variant -/

/-- The constant starts with the prefix and goes on with more than underscores. -/
def NamesVariant (sharedPrefix constant : String) : Prop :=
  ∃ rest, constant.toList = sharedPrefix.toList ++ rest ∧ ∃ c ∈ rest, c ≠ '_'

/-- What is wrong with a constant that gives no variant: the prefix is missing, or only underscores
stand behind it. The error names the constant, the enumeration and the prefix. -/
inductive Faults (enumeration sharedPrefix constant : String) : EnumError → Prop where
  | prefixMismatch (hmissing : ¬ sharedPrefix.toList <+: constant.toList) :
      Faults enumeration sharedPrefix constant (.prefixMismatch constant enumeration sharedPrefix)
  | emptyVariant {count : Nat}
      (hrest : constant.toList = sharedPrefix.toList ++ List.replicate count '_') :
      Faults enumeration sharedPrefix constant (.emptyVariant constant enumeration sharedPrefix)

theorem variantName_of_remainder {rest : List Char}
    (hrest : constant.toList = sharedPrefix.toList ++ rest) :
    variantName enumeration sharedPrefix constant
      = if pascalChars rest = [] then .error (.emptyVariant constant enumeration sharedPrefix)
        else .ok (escape (String.ofList (pascalChars rest))) := by
  rw [variantName, remainder?_eq_some_iff.mpr hrest]
  simp only [pascalCase, String.toList_ofList, String.isEmpty_iff, String.ofList_eq_empty_iff]

theorem variantName_eq_ok_iff :
    variantName enumeration sharedPrefix constant = .ok variant ↔
      ∃ rest, constant.toList = sharedPrefix.toList ++ rest ∧ (∃ c ∈ rest, c ≠ '_') ∧
        variant = escape (String.ofList (pascalChars rest)) := by
  constructor
  · intro h
    cases hremainder : remainder? sharedPrefix.toList constant.toList with
    | none =>
        rw [variantName, hremainder] at h
        cases h
    | some rest =>
        have hrest := remainder?_eq_some_iff.mp hremainder
        rw [variantName_of_remainder hrest] at h
        split at h
        case isTrue => cases h
        case isFalse hne =>
          obtain rfl := Except.ok.inj h
          rw [pascalChars_eq_nil_iff] at hne
          push Not at hne
          exact ⟨rest, hrest, hne, rfl⟩
  · rintro ⟨rest, hrest, ⟨c, hc, hne⟩, rfl⟩
    rw [variantName_of_remainder hrest, if_neg]
    rw [pascalChars_eq_nil_iff]
    exact fun hall => hne (hall c hc)

theorem exists_variantName_iff :
    (∃ variant, variantName enumeration sharedPrefix constant = .ok variant) ↔
      NamesVariant sharedPrefix constant := by
  simp only [variantName_eq_ok_iff]
  constructor
  · rintro ⟨variant, rest, hrest, hword, -⟩
    exact ⟨rest, hrest, hword⟩
  · rintro ⟨rest, hrest, hword⟩
    exact ⟨_, rest, hrest, hword, rfl⟩

theorem variantName_eq_error_iff {error : EnumError} :
    variantName enumeration sharedPrefix constant = .error error ↔
      Faults enumeration sharedPrefix constant error := by
  constructor
  · intro h
    cases hremainder : remainder? sharedPrefix.toList constant.toList with
    | none =>
        rw [variantName, hremainder] at h
        obtain rfl := Except.error.inj h
        refine .prefixMismatch ?_
        rintro ⟨rest, hrest⟩
        rw [remainder?_eq_some_iff.mpr hrest.symm] at hremainder
        cases hremainder
    | some rest =>
        have hrest := remainder?_eq_some_iff.mp hremainder
        rw [variantName_of_remainder hrest] at h
        split at h
        case isTrue hnil =>
          obtain rfl := Except.error.inj h
          have hunderscores := List.eq_replicate_iff.mpr ⟨rfl, pascalChars_eq_nil_iff.mp hnil⟩
          exact .emptyVariant (hrest.trans (congrArg _ hunderscores))
        case isFalse => cases h
  · rintro (hmissing | hrest)
    · rw [variantName]
      split
      · rfl
      case h_2 rest hremainder =>
        exact absurd ⟨rest, (remainder?_eq_some_iff.mp hremainder).symm⟩ hmissing
    · rw [variantName_of_remainder hrest, if_pos]
      exact pascalChars_eq_nil_iff.mpr fun c hc => List.eq_of_mem_replicate hc

/-! ### The first constant without a variant -/

/-- The error of a list is that of its first constant that gives no variant. -/
def Blames (enumeration sharedPrefix : String) (constants : List String) (error : EnumError) :
    Prop :=
  ∃ before constant behind, constants = before ++ constant :: behind ∧
    (∀ other ∈ before, NamesVariant sharedPrefix other) ∧
    Faults enumeration sharedPrefix constant error

theorem constantLine_eq_error_iff {error : EnumError} :
    constantLine style enumeration sharedPrefix constant = .error error ↔
      Faults enumeration sharedPrefix constant error := by
  rw [constantLine, bind_eq_error_iff, variantName_eq_error_iff]
  constructor
  · rintro (h | ⟨variant, -, ⟨⟩⟩)
    exact h
  · exact Or.inl

theorem exists_constantLine_iff :
    (∃ line, constantLine style enumeration sharedPrefix constant = .ok line) ↔
      NamesVariant sharedPrefix constant := by
  rw [constantLine]
  constructor
  · rintro ⟨line, hline⟩
    cases hvariant : variantName enumeration sharedPrefix constant with
    | error error =>
        rw [hvariant] at hline
        cases hline
    | ok variant => exact exists_variantName_iff.mp ⟨variant, hvariant⟩
  · intro h
    obtain ⟨variant, hvariant⟩ := exists_variantName_iff.mpr h
    rw [hvariant]
    exact ⟨variantLine style variant constant, rfl⟩

theorem render_eq_error_iff {constants : List String} {error : EnumError} :
    render style enumeration sharedPrefix constants = .error error ↔
      Blames enumeration sharedPrefix constants error := by
  rw [render, bind_eq_error_iff, mapM_eq_error_iff]
  simp only [exists_constantLine_iff, constantLine_eq_error_iff]
  constructor
  · rintro (h | ⟨allLines, -, ⟨⟩⟩)
    exact h
  · exact Or.inl

theorem NamesVariant.not_faults (h : NamesVariant sharedPrefix constant) (error : EnumError) :
    ¬ Faults enumeration sharedPrefix constant error := by
  intro hfaults
  obtain ⟨variant, hvariant⟩ := exists_variantName_iff.mpr h
  have herror := variantName_eq_error_iff.mpr hfaults
  rw [hvariant] at herror
  cases herror

/-- A constant without a variant hides all that stands behind it. -/
theorem Blames.of_append {before behind : List String} {error : EnumError}
    (hbad : ¬ NamesVariant sharedPrefix constant)
    (h : Blames enumeration sharedPrefix (before ++ constant :: behind) error)
    (others : List String) :
    Blames enumeration sharedPrefix (before ++ constant :: others) error := by
  obtain ⟨front, blamed, back, hsplit, hfront, hfaults⟩ := h
  rcases List.append_eq_append_iff.mp hsplit with ⟨more, rfl, hmore⟩ | ⟨more, rfl, hmore⟩
  · cases more with
    | nil =>
        obtain ⟨rfl, -⟩ := List.cons.inj hmore
        rw [List.append_nil] at hfront
        exact ⟨before, constant, others, rfl, hfront, hfaults⟩
    | cons first more =>
        obtain ⟨rfl, -⟩ := List.cons.inj hmore
        exact absurd (hfront constant (List.mem_append_right _ List.mem_cons_self)) hbad
  · cases more with
    | nil =>
        obtain ⟨rfl, -⟩ := List.cons.inj hmore
        rw [List.append_nil]
        exact ⟨front, blamed, others, rfl, hfront, hfaults⟩
    | cons first more =>
        obtain ⟨rfl, -⟩ := List.cons.inj hmore
        refine ⟨front, blamed, more ++ constant :: others, ?_, hfront, hfaults⟩
        rw [List.append_assoc, List.cons_append]

theorem exists_render_iff {constants : List String} :
    (∃ text, render style enumeration sharedPrefix constants = .ok text) ↔
      ∀ constant ∈ constants, NamesVariant sharedPrefix constant := by
  constructor
  · rintro ⟨text, h⟩ constant hmem
    obtain ⟨variants, hvariants, -⟩ := exists_of_render h
    have hnamed : variantName enumeration sharedPrefix constant ∈ variants.map .ok :=
      hvariants ▸ List.mem_map_of_mem hmem
    obtain ⟨variant, -, hvariant⟩ := List.mem_map.mp hnamed
    exact exists_variantName_iff.mp ⟨variant, hvariant.symm⟩
  · intro hall
    cases hrender : render style enumeration sharedPrefix constants with
    | ok text => exact ⟨text, rfl⟩
    | error error =>
        obtain ⟨before, constant, behind, hsplit, -, hfaults⟩ := render_eq_error_iff.mp hrender
        have hmem : constant ∈ constants := hsplit ▸ List.mem_append_right _ List.mem_cons_self
        exact absurd hfaults ((hall constant hmem).not_faults error)

/-- An enumeration is rendered exactly if each of its constants gives a variant, and otherwise the
error is that of the first one that gives none. Neither the style nor what stands behind such a
constant makes any difference. -/
theorem render_blames_first_constant (enumeration sharedPrefix : String) :
    (∀ style constants, (∃ text, render style enumeration sharedPrefix constants = .ok text) ↔
      ∀ constant ∈ constants, NamesVariant sharedPrefix constant) ∧
    (∀ style constants error, render style enumeration sharedPrefix constants = .error error ↔
      Blames enumeration sharedPrefix constants error) ∧
    ∀ before constant, ¬ NamesVariant sharedPrefix constant → ∀ style behind otherStyle others,
      render style enumeration sharedPrefix (before ++ constant :: behind)
        = render otherStyle enumeration sharedPrefix (before ++ constant :: others) := by
  refine ⟨fun style constants => exists_render_iff, fun style constants error =>
    render_eq_error_iff, fun before constant hbad style behind otherStyle others => ?_⟩
  cases hrender : render style enumeration sharedPrefix (before ++ constant :: behind) with
  | ok text =>
      have hall := exists_render_iff.mp ⟨text, hrender⟩
      exact absurd (hall constant (List.mem_append_right _ List.mem_cons_self)) hbad
  | error error =>
      have hblames := (render_eq_error_iff.mp hrender).of_append hbad others
      exact (render_eq_error_iff.mpr hblames).symm

/-! ### The variant of an ASCII constant -/

/-- The variant of a constant of ASCII letters, digits and underscores begins with a capital and
goes on with letters and digits, or it stands in quotes, begins with a digit and goes on with letters
and digits. It stands in quotes exactly if the first character behind the prefix that is no
underscore is a digit. -/
theorem variantName_legal (hconstant : IsPlainConstant constant)
    (h : variantName enumeration sharedPrefix constant = .ok variant) :
    ((isPlain variant = true ∧ isNameOf Char.isUpper Char.isAlphanum variant.toList = true) ∨
      IsQuotedName variant) ∧
    ∃ rest, constant.toList = sharedPrefix.toList ++ rest ∧
      (IsQuotedName variant ↔ (rest.find? (· != '_')).any Char.isDigit = true) := by
  obtain ⟨rest, hrest, ⟨other, hother, hne⟩, rfl⟩ := variantName_eq_ok_iff.mp h
  have hplain : ∀ c ∈ rest, isPlainChar c = true := fun c hc =>
    hconstant c (hrest ▸ List.mem_append_right _ hc)
  obtain ⟨first, hfirst⟩ : ∃ first, rest.find? (· != '_') = some first := by
    rw [← Option.isSome_iff_exists, List.find?_isSome]
    exact ⟨other, hother, bne_iff_ne.mpr hne⟩
  obtain ⟨halphanum, more, hcased, hmore⟩ := exists_pascalChars_of_plain hplain hfirst
  rw [hcased]
  cases hdigit : first.isDigit with
  | true =>
      have hquoted := escape_of_digit hdigit hmore
      refine ⟨Or.inr hquoted, rest, hrest, ?_⟩
      rw [hfirst]
      exact iff_of_true hquoted hdigit
  | false =>
      have hletter : first.isAlpha = true := by
        rwa [Char.isAlphanum, hdigit, Bool.or_false] at halphanum
      obtain ⟨hescape, hname⟩ := escape_of_letter hletter hmore
      rw [← String.toList_ofList (l := first.toUpper :: more)] at hname
      have hbare := not_isQuotedName_of_isNameOf hname
      rw [hescape]
      refine ⟨Or.inl ⟨isPlain_of_isNameOf isAlpha_of_isUpper hname, hname⟩, rest, hrest, ?_⟩
      rw [hfirst]
      exact iff_of_false hbare (Bool.eq_false_iff.mp hdigit)

/-- The digit of one constant behind a prefix and within a prefix. -/
theorem variantName_legal_digit :
    IsPlainConstant "GI_FOO__3D_BIT" ∧
      variantName "E" "GI_FOO" "GI_FOO__3D_BIT" = .ok "@\"3dBit\"" ∧
      IsQuotedName "@\"3dBit\"" ∧
      variantName "E" "GI_FOO__3" "GI_FOO__3D_BIT" = .ok "DBit" ∧
      isPlain "DBit" = true ∧ ¬ IsQuotedName "DBit" := by
  have hconstant : IsPlainConstant "GI_FOO__3D_BIT" := by decide +kernel
  have hquoted : variantName "E" "GI_FOO" "GI_FOO__3D_BIT" = .ok "@\"3dBit\"" := by decide +kernel
  have hbare : variantName "E" "GI_FOO__3" "GI_FOO__3D_BIT" = .ok "DBit" := by decide +kernel
  have hbehind : "GI_FOO__3D_BIT".toList = "GI_FOO".toList ++ "__3D_BIT".toList := by decide +kernel
  have hwithin : "GI_FOO__3D_BIT".toList = "GI_FOO__3".toList ++ "D_BIT".toList := by decide +kernel
  obtain ⟨-, rest, hrest, hdigit⟩ := variantName_legal hconstant hquoted
  obtain rfl := List.append_cancel_left (hbehind.symm.trans hrest)
  obtain ⟨hform, more, hmore, hletter⟩ := variantName_legal hconstant hbare
  obtain rfl := List.append_cancel_left (hwithin.symm.trans hmore)
  have hname : ¬ IsQuotedName "DBit" := mt hletter.mp (by decide +kernel)
  refine ⟨hconstant, hquoted, hdigit.mpr (by decide +kernel), hbare, ?_, hname⟩
  exact (hform.resolve_right hname).1

end Enumeration

end HeaderBindings
