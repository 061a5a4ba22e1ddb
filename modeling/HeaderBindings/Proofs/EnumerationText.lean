import HeaderBindings.Enumeration
import HeaderBindings.Proofs.Lines
import HeaderBindings.Proofs.Words
import Mathlib.Control.Basic
import Mathlib.Data.Option.Basic
import Mathlib.Tactic.Tauto

/-!
An enumeration read back from its text. Nothing that is put into a line can be taken for what stands
between its parts: the name of a variant is made of letters and digits, with quotes around it where
it needs them, so the first ` = ` of a line is the one that was written, and no part holds the end
of a line. Hence the lines give back the constants one by one, with the names of their variants.
-/

namespace HeaderBindings
open Text

/-! ### Names of variants -/

theorem isPlainChar_case {c : Char} (h : isPlainChar c = true) :
    (∀ d ∈ upperCase c, isPlainChar d = true) ∧ ∀ d ∈ lowerCase c, isPlainChar d = true := by
  have hcodes : ∀ code < 0x80, isPlainChar (Char.ofNat code) = true →
      isPlainChar (Char.ofNat code).toUpper = true ∧
        isPlainChar (Char.ofNat code).toLower = true := by decide +kernel
  have hascii := toNat_lt_of_isPlainChar h
  have hc := hcodes c.toNat hascii
  rw [Char.ofNat_toNat] at hc
  rw [upperCase_of_ascii hascii, lowerCase_of_ascii hascii]
  exact ⟨List.forall_mem_singleton.mpr (hc h).1, List.forall_mem_singleton.mpr (hc h).2⟩

namespace Identifier

theorem isPlainChar_pascalChars {text : List Char} (h : ∀ c ∈ text, isPlainChar c = true) :
    ∀ c ∈ pascalChars text, isPlainChar c = true := by
  intro c hc
  obtain ⟨word, hword, hc⟩ := List.mem_flatMap.mp hc
  have hplain : ∀ d ∈ word, isPlainChar d = true := fun d hd => h d (mem_of_mem_cutAt hword hd)
  cases word with
  | nil => cases hc
  | cons first rest =>
      rw [capitalizeChars] at hc
      rcases List.mem_append.mp hc with hc | hc
      · exact (isPlainChar_case (hplain first List.mem_cons_self)).1 c hc
      · obtain ⟨d, hd, hc⟩ := List.mem_flatMap.mp hc
        exact (isPlainChar_case (hplain d (List.mem_cons_of_mem first hd))).2 c hc

theorem isPlainChar_camelFrom (pending : Bool) {text : List Char}
    (h : ∀ c ∈ text, isPlainChar c = true) :
    ∀ c ∈ camelFrom pending text, isPlainChar c = true := by
  induction text generalizing pending with
  | nil => exact fun c hc => (List.not_mem_nil hc).elim
  | cons first rest ih =>
      obtain ⟨hfirst, hrest⟩ := List.forall_mem_cons.mp h
      rw [camelFrom]
      split
      · exact ih true hrest
      · split
        · exact List.forall_mem_append.mpr ⟨(isPlainChar_case hfirst).1, ih false hrest⟩
        · exact List.forall_mem_cons.mpr ⟨hfirst, ih false hrest⟩

/-- Quoting adds no character but the at sign and the quotes. -/
theorem mem_escape {name : String} {c : Char} (h : c ∈ (escape name).toList) :
    c = '@' ∨ c = '"' ∨ c ∈ name.toList := by
  rw [escape] at h
  split at h
  · exact Or.inr (Or.inr h)
  · simp only [String.toList_append, List.mem_append, String.reduceToList, List.mem_cons,
      List.not_mem_nil, or_false] at h
    tauto

end Identifier

namespace Enumeration

/-- A constant of ASCII letters, digits and underscores. -/
def IsPlainConstant (constant : String) : Prop := ∀ c ∈ constant.toList, isPlainChar c = true

instance : DecidablePred IsPlainConstant := fun constant =>
  decidable_of_iff (constant.toList.all isPlainChar = true) List.all_eq_true

theorem isPlainChar_of_variantName {enumeration sharedPrefix constant variant : String}
    (hconstant : IsPlainConstant constant)
    (h : variantName enumeration sharedPrefix constant = .ok variant) :
    ∀ c ∈ variant.toList, c = '@' ∨ c = '"' ∨ isPlainChar c = true := by
  rw [variantName] at h
  split at h
  case h_1 => cases h
  case h_2 rest hrest =>
    have hsplit := Identifier.remainder?_eq_some_iff.mp hrest
    have hplain : ∀ c ∈ rest, isPlainChar c = true := fun c hc =>
      hconstant c (hsplit ▸ List.mem_append_right _ hc)
    dsimp only at h
    split at h
    · cases h
    · obtain rfl := Except.ok.inj h
      intro c hc
      refine (Identifier.mem_escape hc).imp_right (Or.imp_right fun hname => ?_)
      rw [Identifier.pascalCase, String.toList_ofList, String.toList_ofList] at hname
      exact Identifier.isPlainChar_pascalChars hplain c hname

/-! ### The lines of a rendered enumeration -/

theorem exists_of_mapM_constantLine {style : EnumStyle} {enumeration sharedPrefix : String}
    {constants allLines : List String}
    (h : constants.mapM (constantLine style enumeration sharedPrefix) = .ok allLines) :
    ∃ variants, constants.map (variantName enumeration sharedPrefix) = variants.map .ok ∧
      allLines = List.zipWith (variantLine style) variants constants := by
  induction constants generalizing allLines with
  | nil =>
      obtain rfl := Except.ok.inj h
      exact ⟨[], rfl, rfl⟩
  | cons constant rest ih =>
      rw [List.mapM_cons, constantLine] at h
      cases hvariant : variantName enumeration sharedPrefix constant with
      | error error =>
          rw [hvariant] at h
          cases h
      | ok variant =>
          cases hrest : rest.mapM (constantLine style enumeration sharedPrefix) with
          | error error =>
              rw [hvariant, hrest] at h
              cases h
          | ok others =>
              rw [hvariant, hrest] at h
              obtain rfl := Except.ok.inj h
              obtain ⟨variants, hvariants, rfl⟩ := ih hrest
              exact ⟨variant :: variants, by rw [List.map_cons, List.map_cons, hvariant, hvariants],
                rfl⟩

/-- A rendered enumeration has a name for each constant, and consists of its lines. -/
theorem exists_of_render {style : EnumStyle} {enumeration sharedPrefix : String}
    {constants : List String} {text : String}
    (h : render style enumeration sharedPrefix constants = .ok text) :
    ∃ variants, constants.map (variantName enumeration sharedPrefix) = variants.map .ok ∧
      text.toList = ((headerLine style enumeration).toList
          :: (List.zipWith (variantLine style) variants constants).map String.toList
          ++ ["\x7d;".toList]).flatMap (· ++ ['\n']) := by
  rw [render] at h
  cases hlines : constants.mapM (constantLine style enumeration sharedPrefix) with
  | error error =>
      rw [hlines] at h
      cases h
  | ok allLines =>
      rw [hlines] at h
      obtain rfl := Except.ok.inj h
      obtain ⟨variants, hvariants, rfl⟩ := exists_of_mapM_constantLine hlines
      refine ⟨variants, hvariants, ?_⟩
      generalize List.zipWith (variantLine style) variants constants = between
      simp [List.flatMap_map]

/-! ### Reading a line back -/

/-- The texts in front of and behind the first occurrence of a separator. -/
def splitFirst? (separator : List Char) : List Char → Option (List Char × List Char)
  | [] => (Identifier.remainder? separator []).map ([], ·)
  | c :: rest =>
      match Identifier.remainder? separator (c :: rest) with
      | some behind => some ([], behind)
      | none => (splitFirst? separator rest).map fun (before, behind) => (c :: before, behind)

/-- The variant of a line and the reference behind it: the indentation is dropped, the line is cut
at its first ` = `, and its last comma is dropped. -/
def lineParts? (style : EnumStyle) (line : List Char) : Option (List Char × List Char) := do
  let unindented ← Identifier.remainder? (List.replicate style.indent ' ') line
  let (variant, assigned) ← splitFirst? " = ".toList unindented
  guard (assigned.getLast? = some ',')
  pure (variant, assigned.dropLast)

/-- The constant that is referred to. -/
def referent? : ConstantStyle → List Char → Option (List Char)
  | .qualified space, reference => Identifier.remainder? (space ++ ".").toList reference
  | .bare, reference => some reference

/-- The name of the variant on a line. -/
def lineVariant? (style : EnumStyle) (line : List Char) : Option String :=
  (lineParts? style line).map fun parts => String.ofList parts.1

/-- The constant of the variant on a line. -/
def lineConstant? (style : EnumStyle) (line : List Char) : Option String :=
  (lineParts? style line).bind fun parts =>
    (referent? style.constants parts.2).map String.ofList

theorem splitFirst?_append {first : Char} {before : List Char} (h : first ∉ before)
    (more behind : List Char) :
    splitFirst? (first :: more) (before ++ (first :: (more ++ behind)))
      = some (before, behind) := by
  have hstart : Identifier.remainder? (first :: more) (first :: (more ++ behind)) = some behind :=
    Identifier.remainder?_eq_some_iff.mpr rfl
  induction before with
  | nil => rw [List.nil_append, splitFirst?, hstart]
  | cons c before ih =>
      obtain ⟨hc, hbefore⟩ := not_or.mp (mt List.mem_cons.mpr h)
      rw [List.cons_append, splitFirst?, Identifier.remainder?, if_neg hc, ih hbefore]
      rfl

theorem referent?_reference (constants : ConstantStyle) (constant : String) :
    referent? constants (constants.reference constant).toList = some constant.toList := by
  cases constants with
  | bare => rfl
  | qualified space =>
      rw [referent?, ConstantStyle.reference, Identifier.remainder?_eq_some_iff,
        String.toList_append]

/-- The line of a variant is read back when the variant holds no space. -/
theorem lineParts?_variantLine {style : EnumStyle} {variant : String} (h : ' ' ∉ variant.toList)
    (constant : String) :
    lineParts? style (variantLine style variant constant).toList
      = some (variant.toList, (style.constants.reference constant).toList) := by
  have hindent : Identifier.remainder? (List.replicate style.indent ' ')
      (variantLine style variant constant).toList
        = some (variant.toList ++ (' ' :: ("= ".toList
          ++ ((style.constants.reference constant).toList ++ [','])))) := by
    rw [Identifier.remainder?_eq_some_iff, variantLine]
    simp
  have hcut := splitFirst?_append h "= ".toList
    ((style.constants.reference constant).toList ++ [','])
  have hseparator : " = ".toList = ' ' :: "= ".toList := by decide
  rw [lineParts?, hindent, Option.bind_eq_bind, Option.bind_some, hseparator, hcut]
  simp

theorem lineVariant?_variantLine {style : EnumStyle} {variant : String}
    (h : ' ' ∉ variant.toList) (constant : String) :
    lineVariant? style (variantLine style variant constant).toList = some variant := by
  rw [lineVariant?, lineParts?_variantLine h, Option.map_some, String.ofList_toList]

theorem lineConstant?_variantLine {style : EnumStyle} {variant : String}
    (h : ' ' ∉ variant.toList) (constant : String) :
    lineConstant? style (variantLine style variant constant).toList = some constant := by
  rw [lineConstant?, lineParts?_variantLine h, Option.bind_some, referent?_reference,
    Option.map_some, String.ofList_toList]

theorem newline_not_mem_variantLine {style : EnumStyle} {variant constant : String}
    (hspace : ∀ space, style.constants = .qualified space → '\n' ∉ space.toList)
    (hvariant : '\n' ∉ variant.toList) (hconstant : '\n' ∉ constant.toList) :
    '\n' ∉ (variantLine style variant constant).toList := by
  have hreference : '\n' ∉ (style.constants.reference constant).toList := by
    cases hconstants : style.constants with
    | bare => exact hconstant
    | qualified space =>
        rw [ConstantStyle.reference]
        simpa using ⟨hspace space hconstants, hconstant⟩
  rw [variantLine]
  simpa using ⟨hvariant, hreference⟩

/-- Each line gives back its variant and its constant, and ends where it was ended. -/
theorem readBack_zipWith {style : EnumStyle} {enumeration sharedPrefix : String}
    {constants variants : List String}
    (hspace : ∀ space, style.constants = .qualified space → '\n' ∉ space.toList)
    (hconstants : ∀ constant ∈ constants, IsPlainConstant constant)
    (hvariants : constants.map (variantName enumeration sharedPrefix) = variants.map .ok) :
    let variantLines := (List.zipWith (variantLine style) variants constants).map String.toList
    variantLines.map (lineVariant? style) = variants.map some ∧
      variantLines.map (lineConstant? style) = constants.map some ∧
      ∀ line ∈ variantLines, '\n' ∉ line := by
  induction constants generalizing variants with
  | nil =>
      obtain rfl := List.map_eq_nil_iff.mp hvariants.symm
      simp
  | cons constant rest ih =>
      cases variants with
      | nil => cases hvariants
      | cons variant others =>
          obtain ⟨hvariant, hothers⟩ := List.cons.inj hvariants
          obtain ⟨hconstant, hrest⟩ := List.forall_mem_cons.mp hconstants
          obtain ⟨hnames, hreferents, hends⟩ := ih hrest hothers
          -- The variant is the name of a plain constant: it holds neither a space nor a line end.
          have hchars := isPlainChar_of_variantName hconstant hvariant
          have hblank : ' ' ∉ variant.toList := fun hmem => absurd (hchars ' ' hmem) (by decide)
          have hend : '\n' ∉ variant.toList := fun hmem => absurd (hchars '\n' hmem) (by decide)
          have hlast : '\n' ∉ constant.toList :=
            fun hmem => absurd (hconstant '\n' hmem) (by decide)
          intro variantLines
          refine ⟨?_, ?_, List.forall_mem_cons.mpr
            ⟨newline_not_mem_variantLine hspace hend hlast, hends⟩⟩
          · exact List.cons_eq_cons.mpr ⟨lineVariant?_variantLine hblank constant, hnames⟩
          · exact List.cons_eq_cons.mpr ⟨lineConstant?_variantLine hblank constant, hreferents⟩

/-- The text of an enumeration consists of its first line, a line for each constant and its last
line, and the lines in between give back the constants in order, each behind the name of its
variant. -/
theorem readBack_render {style : EnumStyle} {enumeration sharedPrefix : String}
    {constants : List String} {text : String}
    (hname : '\n' ∉ enumeration.toList) (hbacking : '\n' ∉ style.backingType.toList)
    (hspace : ∀ space, style.constants = .qualified space → '\n' ∉ space.toList)
    (hconstants : ∀ constant ∈ constants, IsPlainConstant constant)
    (hrender : render style enumeration sharedPrefix constants = .ok text) :
    ∃ (variants : List String) (variantLines : List (List Char)),
      constants.map (variantName enumeration sharedPrefix) = variants.map .ok ∧
      cutAt '\n' text.toList
        = ("const " ++ enumeration ++ " = enum(" ++ style.backingType ++ ") \x7b").toList
          :: variantLines ++ ["\x7d;".toList, []] ∧
      variantLines.length = constants.length ∧
      variantLines.map (lineVariant? style) = variants.map some ∧
      variantLines.map (lineConstant? style) = constants.map some := by
  obtain ⟨variants, hvariants, htext⟩ := exists_of_render hrender
  obtain ⟨hnames, hreferents, hends⟩ := readBack_zipWith hspace hconstants hvariants
  generalize hlines : (List.zipWith (variantLine style) variants constants).map String.toList
    = variantLines at hnames hreferents hends
  refine ⟨variants, variantLines, hvariants, ?_, ?_, hnames, hreferents⟩
  · have hheader : '\n' ∉ (headerLine style enumeration).toList := by
      rw [headerLine]
      simpa using ⟨hname, hbacking⟩
    have hall : ∀ line ∈ (headerLine style enumeration).toList :: variantLines ++ ["\x7d;".toList],
        '\n' ∉ line := by
      rw [List.cons_append]
      refine List.forall_mem_cons.mpr ⟨hheader, List.forall_mem_append.mpr ⟨hends, ?_⟩⟩
      exact List.forall_mem_singleton.mpr (by decide)
    rw [htext, hlines, cutAt_lines hall, List.append_assoc]
    rfl
  · simpa using congrArg List.length hreferents

/-- Quoted and repeated variants under a namespace that holds the separator of a line. -/
theorem readBack_render_quoted :
    let style : EnumStyle :=
      { constants := .qualified "c = gi", backingType := "u32", indent := 2 }
    let constants := ["GI_8BIT", "GI_UNI_CHAR", "GI_8BIT"]
    let text := "const Tag = enum(u32) \x7b\n  @\"8bit\" = c = gi.GI_8BIT,\n"
      ++ "  UniChar = c = gi.GI_UNI_CHAR,\n  @\"8bit\" = c = gi.GI_8BIT,\n\x7d;\n"
    render style "Tag" "GI" constants = .ok text ∧
    (∀ constant ∈ constants, IsPlainConstant constant) ∧
    ∃ (variants : List String) (variantLines : List (List Char)),
      constants.map (variantName "Tag" "GI") = variants.map .ok ∧
      cutAt '\n' text.toList
        = ("const " ++ "Tag" ++ " = enum(" ++ style.backingType ++ ") \x7b").toList
          :: variantLines ++ ["\x7d;".toList, []] ∧
      variantLines.map (lineVariant? style) = variants.map some ∧
      variantLines.map (lineConstant? style) = constants.map some := by
  intro style constants text
  have hrender : render style "Tag" "GI" constants = .ok text := by decide +kernel
  have hconstants : ∀ constant ∈ constants, IsPlainConstant constant := by decide +kernel
  have hspace : ∀ space, style.constants = .qualified space → '\n' ∉ space.toList := by
    intro space hqualified
    obtain rfl := ConstantStyle.qualified.inj hqualified
    decide +kernel
  obtain ⟨variants, variantLines, hvariants, hcut, -, hnames, hreferents⟩ :=
    readBack_render (by decide +kernel) (by decide +kernel) hspace hconstants hrender
  exact ⟨hrender, hconstants, variants, variantLines, hvariants, hcut, hnames, hreferents⟩

end Enumeration

end HeaderBindings
