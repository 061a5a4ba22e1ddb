import HeaderBindings.Proofs.Declarations
import HeaderBindings.Proofs.FirstErrors
import HeaderBindings.Source.Reading

/-!
What a stub can come from. A stub is rendered only when every type of the declaration has a
rendering, and a type read from anything but words and stars has none. So the statement behind a
stub is a type, a name and a list of parameters, of words and stars, with commas between the
parameters and nothing else anywhere.
-/

namespace HeaderBindings

namespace Source

/-! ### Where declarations come from -/

/-- A declaration that was read comes from one of the statements. -/
theorem exists_statement_of_mem_functions {filter : NameFilter} {list : List (List Char)}
    {signature : Signature} (h : signature ∈ (readStatements filter list).value.functions) :
    ∃ statement ∈ list, looksLikeFunction statement = true ∧
      declaration statement = .ok signature ∧ filter.admits signature.name = true := by
  induction list with
  | nil => cases h
  | cons statement rest ih =>
      rw [readStatements, Logged.value_bind, Logged.value_bind, Logged.value_pure] at h
      rcases List.mem_append.mp h with hfirst | hrest
      · refine ⟨statement, List.mem_cons_self, ?_⟩
        rw [readStatement] at hfirst
        split at hfirst
        case isTrue hlooks =>
          split at hfirst
          case h_1 found hdeclaration =>
            split at hfirst
            case isTrue hadmits =>
              obtain rfl : signature = found := List.mem_singleton.mp hfirst
              exact ⟨hlooks, hdeclaration, hadmits⟩
            case isFalse => cases hfirst
          case h_2 => cases hfirst
        case isFalse => cases hfirst
      · obtain ⟨other, hmem, hother⟩ := ih hrest
        exact ⟨other, List.mem_cons_of_mem statement hmem, hother⟩

/-! ### The shape of the statement -/

/-- A type, the name of the declaration and a list of parameters in parentheses, of words and stars,
with one comma between two parameters. -/
def IsPlainDeclaration (signature : Signature) (tokens : List Token) : Prop :=
  ∃ typeTokens inner,
    tokens = typeTokens ++ .word signature.name :: .openParen :: (inner ++ [.closeParen]) ∧
    (∀ token ∈ typeTokens, token.isSpecifier = true) ∧
    (∀ token ∈ inner, token.isSpecifier = true ∨ token = .comma) ∧
    signature.parameters.length = inner.count .comma + 1

/-- A parameter list of which every parameter has a rendering is one of words and stars between
commas. -/
theorem of_parameters {inner : List Token} (hne : parameters inner ≠ [])
    (hshape : ∀ parameter ∈ parameters inner, parameter.type.unsupportedShape? = none) :
    (∀ token ∈ inner, token.isSpecifier = true ∨ token = .comma) ∧
      (parameters inner).length = inner.count .comma + 1 := by
  rw [parameters] at hne hshape ⊢
  split at hne
  · exact absurd rfl hne
  · rename_i hlist
    rw [if_neg hlist] at hshape ⊢
    have hgroups : ∀ group ∈ parameterGroups inner, ∀ token ∈ group, token.isSpecifier = true :=
      fun group hmem => (isSpecifier_of_parameter
        (hshape _ (List.mem_map_of_mem hmem))).2
    have hjoined := of_intercalate_comma (parameterGroupsFrom_ne_nil 0 inner) hgroups
    rw [intercalate_parameterGroupsFrom] at hjoined
    rw [List.length_map]
    exact hjoined

/-- A declaration with a stub was read from a plain declaration. -/
theorem isPlainDeclaration_of_declaration {style : WrapperStyle} {statement : List Char}
    {signature : Signature} {stub : String} (hread : declaration statement = .ok signature)
    (hrender : Wrapper.render style signature = .ok stub) :
    IsPlainDeclaration signature (Token.read statement) := by
  obtain ⟨typeTokens, inner, htokens, -, htype, hparameters⟩ := eq_of_declarationOfTokens hread
  obtain ⟨hne, hreturn, hshape⟩ := Wrapper.exists_render_iff.mp ⟨stub, hrender⟩
  rw [← hparameters] at hne hshape
  obtain ⟨hinner, hlength⟩ := of_parameters hne hshape
  refine ⟨typeTokens, inner, htokens, isSpecifier_of_typeFrom? htype hreturn, hinner, ?_⟩
  rw [← hparameters, hlength]

/-- No stub comes from any other shape: a declaration that was read from a text and has a stub comes
from a statement of the cleaned text that is a plain declaration, and so is every statement that is
read as this declaration. -/
theorem stub_of_plainDeclaration {filter : NameFilter} {source : String} {style : WrapperStyle}
    {signature : Signature} {stub : String}
    (hread : signature ∈ (readHeader filter source).value.functions)
    (hrender : Wrapper.render style signature = .ok stub) :
    (∃ statement ∈ statements (clean source.toList).value,
      looksLikeFunction statement = true ∧ declaration statement = .ok signature) ∧
    ∀ statement, declaration statement = .ok signature →
      IsPlainDeclaration signature (Token.read statement) := by
  rw [readHeader, Logged.value_bind] at hread
  obtain ⟨statement, hmem, hlooks, hdeclaration, -⟩ := exists_statement_of_mem_functions hread
  exact ⟨⟨statement, hmem, hlooks, hdeclaration⟩,
    fun _ hother => isPlainDeclaration_of_declaration hother hrender⟩

/-- A declaration with two parameters, among text that is no declaration. -/
theorem stub_of_plainDeclaration_two_parameters :
    let source := "typedef int t; extern char *g_name(const GObject *self, unsigned x); int n = 3;"
    let signature : Signature :=
      ⟨"g_name", .pointer (.named [] "char"),
        [⟨"self", .pointer (.named ["const"] "GObject")⟩, ⟨"x", .named [] "unsigned"⟩]⟩
    let stub := "pub fn name(self: Self, x: c_uint) *char \x7b\n\treturn C.g_name(self.raw, x);\n\x7d"
    signature ∈ (readHeader {} source).value.functions ∧
      Wrapper.render {} signature = .ok stub ∧
      (∃ statement ∈ statements (clean source.toList).value,
        looksLikeFunction statement = true ∧ declaration statement = .ok signature) ∧
      ∀ statement, declaration statement = .ok signature →
        IsPlainDeclaration signature (Token.read statement) := by
  intro source signature stub
  have hread : signature ∈ (readHeader {} source).value.functions := by decide +kernel
  have hrender : Wrapper.render {} signature = .ok stub := by decide +kernel
  exact ⟨hread, hrender, stub_of_plainDeclaration hread hrender⟩

end Source

end HeaderBindings
