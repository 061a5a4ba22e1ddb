import HeaderBindings.Proofs.Expressible
import HeaderBindings.Proofs.Spelling
import Mathlib.Data.List.Nodup

/-!
What every declaration is like that is read, whatever the text and the filter. Names are runs of name
characters outside the notation of types. A type is an unsupported shape on its own or else pointers
around a base name, whose qualifiers are known ones, none twice, and whose words belong neither to
the qualifiers nor in front of a tag. Only a parameter of an unsupported shape may have another name.
-/

namespace HeaderBindings
open Text Source

/-! ### Regular declarations -/

/-- A run of name characters, of which there is at least one. -/
structure IsName (word : String) : Prop where
  nonempty : word ≠ ""
  chars : ∀ c ∈ word.toList, isNameChar c = true

/-- A name outside the notation of types. -/
structure IsFreeName (word : String) : Prop extends IsName word where
  free : isTypeWord word = false

/-- A word of a base name, which may be one of the builtin types. -/
structure IsBaseName (word : String) : Prop extends IsName word where
  notQualifier : word ∉ qualifierKeywords
  notTag : word ∉ tagKeywords

/-- Pointers around a base name of words with single spaces between them. -/
def CType.IsSupported : CType → Prop
  | named qualifiers name =>
      qualifiers.Nodup ∧ (∀ word ∈ qualifiers, word ∈ qualifierKeywords) ∧
        ∃ words, words ≠ [] ∧ (∀ word ∈ words, IsBaseName word) ∧
          name = String.intercalate " " words
  | pointer pointee => pointee.IsSupported
  | unsupported _ => False

/-- An unsupported shape is the whole of a regular type. -/
def CType.IsRegular (type : CType) : Prop :=
  (∃ shape, type = .unsupported shape) ∨ type.IsSupported

structure Parameter.IsRegular (parameter : Parameter) : Prop where
  type : parameter.type.IsRegular
  name : (∀ shape, parameter.type ≠ .unsupported shape) →
    parameter.name = "" ∨ IsFreeName parameter.name

structure Signature.IsRegular (signature : Signature) : Prop where
  name : IsFreeName signature.name
  returnType : signature.returnType.IsRegular
  parameters : ∀ parameter ∈ signature.parameters, parameter.IsRegular

@[simp] theorem CType.isSupported_behindPointers (depth : Nat) (type : CType) :
    (behindPointers depth type).IsSupported ↔ type.IsSupported := by
  induction depth with
  | zero => rfl
  | succ depth ih => simpa [behindPointers, IsSupported] using ih

namespace Source

/-! ### Words -/

section
variable {P : Token → Prop} {pending text : List Char}

theorem forall_mem_ofWord (hword : ∀ name, IsName name → P (.word name))
    (hpending : ∀ c ∈ pending, isNameChar c = true) : ∀ token ∈ Token.ofWord pending, P token := by
  intro token hmem
  rw [Token.ofWord] at hmem
  split at hmem
  case isTrue => cases hmem
  case isFalse hne =>
    obtain rfl := List.mem_singleton.mp hmem
    refine hword _ ⟨fun hempty => hne ?_, by simpa using hpending⟩
    simpa using congrArg String.toList hempty

theorem forall_mem_readFrom (hword : ∀ name, IsName name → P (.word name)) (hellipsis : P .ellipsis)
    (hmark : ∀ c, isNameChar c = false → isBlank c = false → P (Token.ofMark c))
    (hpending : ∀ c ∈ pending, isNameChar c = true) :
    ∀ token ∈ Token.readFrom pending text, P token := by
  fun_induction Token.readFrom pending text with
  | case1 pending => exact forall_mem_ofWord hword hpending
  | case2 pending rest ih | case3 pending rest _ ih =>
      refine List.forall_mem_append.mpr ⟨forall_mem_ofWord hword hpending, ?_⟩
      exact List.forall_mem_cons.mpr ⟨hellipsis, ih (by simp)⟩
  | case4 pending c rest _ _ hname ih => exact ih (List.forall_mem_cons.mpr ⟨hname, hpending⟩)
  | case5 pending c rest _ _ _ _ ih =>
      exact List.forall_mem_append.mpr ⟨forall_mem_ofWord hword hpending, ih (by simp)⟩
  | case6 pending c rest _ _ hname hblank ih =>
      refine List.forall_mem_append.mpr ⟨forall_mem_ofWord hword hpending, ?_⟩
      have htoken := hmark c (eq_false_of_ne_true hname) (eq_false_of_ne_true hblank)
      exact List.forall_mem_cons.mpr ⟨htoken, ih (by simp)⟩

/-- Names, the ellipsis and marks are all that is read from a text. -/
theorem forall_mem_read (hword : ∀ name, IsName name → P (.word name)) (hellipsis : P .ellipsis)
    (hmark : ∀ c, isNameChar c = false → isBlank c = false → P (Token.ofMark c)) :
    ∀ token ∈ Token.read text, P token :=
  forall_mem_readFrom hword hellipsis hmark (by simp)

end

theorem isName_of_mem_read {text : List Char} {name : String} (h : .word name ∈ Token.read text) :
    IsName name := by
  have hnames : ∀ token ∈ Token.read text, ∀ name, token = .word name → IsName name := by
    refine forall_mem_read ?_ ?_ ?_
    · rintro _ hname _ ⟨⟩
      exact hname
    · rintro _ ⟨⟩
    · intro c _ _ name hmark
      exact absurd hmark (ofMark_ne_word c name)
  exact hnames _ h name rfl

/-! ### Types -/

/-- What has been read of a type that can still become regular. -/
structure Specifiers.IsRegular (read : Specifiers) : Prop where
  nodup : read.qualifiers.Nodup
  qualifier : ∀ word ∈ read.qualifiers, word ∈ qualifierKeywords
  base : ∀ word ∈ read.words, IsBaseName word

theorem Specifiers.IsRegular.add {read next : Specifiers} {token : Token} (h : read.IsRegular)
    (htoken : ∀ name, token = .word name → IsName name) (hadd : read.add token = .ok next) :
    next.IsRegular := by
  rcases add_cases hadd with ⟨name, -, -, hqualifier, hnew, rfl⟩ |
    ⟨name, rfl, -, hqualifier, htag, rfl⟩ | ⟨name, -, rfl⟩ | ⟨-, rfl⟩
  · refine ⟨List.nodup_append.mpr ⟨h.nodup, List.nodup_singleton name, ?_⟩, ?_, h.base⟩
    · rintro known hknown other hother rfl
      exact hnew (List.mem_singleton.mp hother ▸ hknown)
    · exact List.forall_mem_append.mpr ⟨h.qualifier, List.forall_mem_singleton.mpr hqualifier⟩
  · have hname : IsBaseName name := ⟨htoken name rfl, hqualifier, htag⟩
    exact ⟨h.nodup, h.qualifier,
      List.forall_mem_append.mpr ⟨h.base, List.forall_mem_singleton.mpr hname⟩⟩
  · exact h
  · exact ⟨h.nodup, h.qualifier, h.base⟩

theorem isRegular_of_type? {tokens : List Token} {type : CType}
    (htokens : ∀ name, .word name ∈ tokens → IsName name) (h : type? tokens = some type) :
    type.IsRegular := by
  have hadd (token : Token) (hmem : token ∈ tokens) (read next : Specifiers)
      (hread : read.IsRegular) (hnext : read.add token = .ok next) : next.IsRegular :=
    hread.add (fun name heq => htokens name (heq ▸ hmem)) hnext
  have hempty : Specifiers.IsRegular {} := ⟨List.nodup_nil, by simp, by simp⟩
  rcases eq_of_typeFrom? hempty hadd h with hshape | ⟨written, hwritten, hwords, rfl⟩
  · exact .inl hshape
  · exact .inr ((CType.isSupported_behindPointers _ _).mpr
      ⟨hwritten.nodup, hwritten.qualifier, written.words, hwords, hwritten.base, rfl⟩)

/-! ### Parameters and declarations -/

theorem isRegular_parameter {tokens : List Token}
    (htokens : ∀ name, .word name ∈ tokens → IsName name) : (parameter tokens).IsRegular := by
  rcases parameter_cases tokens with ⟨shape, hshape⟩ | ⟨typeTokens, htype, hparts⟩
  · exact ⟨.inl ⟨shape, hshape⟩, fun hsupported => absurd hshape (hsupported shape)⟩
  · have hregular (h : ∀ name, .word name ∈ typeTokens → .word name ∈ tokens) :
        (parameter tokens).type.IsRegular :=
      isRegular_of_type? (fun name hmem => htokens name (h name hmem)) htype
    rcases hparts with ⟨hname, heq⟩ | ⟨hfree, heq⟩
    · exact ⟨hregular fun name hmem => heq ▸ hmem, fun _ => .inl hname⟩
    · have hmem : .word (parameter tokens).name ∈ tokens := by
        generalize (parameter tokens).name = name at heq ⊢
        rw [heq]
        exact List.mem_append_right _ List.mem_cons_self
      refine ⟨hregular fun name hname => ?_, fun _ => .inr ⟨htokens _ hmem, hfree⟩⟩
      generalize (parameter tokens).name = name at heq
      rw [heq]
      exact List.mem_append_left _ hname

theorem isRegular_of_declaration {statement : List Char} {signature : Signature}
    (h : declaration statement = .ok signature) : signature.IsRegular := by
  obtain ⟨typeTokens, inner, htokens, hname, htype, hparameters⟩ := eq_of_declarationOfTokens h
  have hword (name : String) (hmem : .word name ∈ Token.read statement) : IsName name :=
    isName_of_mem_read hmem
  rw [htokens] at hword
  refine ⟨⟨hword _ (by simp), hname⟩, ?_, fun parameter hmem => ?_⟩
  · exact isRegular_of_type? (fun name hmem => hword name (List.mem_append_left _ hmem)) htype
  · rw [← hparameters, parameters] at hmem
    split at hmem
    · cases hmem
    · obtain ⟨group, hgroup, rfl⟩ := List.mem_map.mp hmem
      refine isRegular_parameter fun name hmem => hword name ?_
      have hinner := mem_of_mem_parameterGroups hgroup hmem
      simp [hinner]

/-- Every declaration that is read from a text is regular. -/
theorem readHeader_regular {filter : NameFilter} {source : String} {signature : Signature}
    (h : signature ∈ (readHeader filter source).value.functions) : signature.IsRegular := by
  rw [readHeader, Logged.value_bind] at h
  obtain ⟨statement, -, -, hdeclaration, -⟩ := exists_statement_of_mem_functions h
  exact isRegular_of_declaration hdeclaration

/-- A parameter of an unsupported shape may be named like a type, and what is no part of a word ends
one also outside ASCII. -/
theorem readHeader_regular_mixed :
    let source := "const struct größe *const volatile f(unsigned const long x_, void (*int)(void), _a);"
    let signature : Signature :=
      ⟨"f", .pointer (.named ["const"] "größe"),
        [⟨"x_", .named ["const"] "unsigned long"⟩, ⟨"int", .unsupported "function pointer"⟩,
          ⟨"", .named [] "_a"⟩]⟩
    signature ∈ (readHeader {} source).value.functions ∧ signature.IsRegular := by
  intro source signature
  have hread : signature ∈ (readHeader {} source).value.functions := by decide +kernel
  exact ⟨hread, readHeader_regular hread⟩

end Source

end HeaderBindings
