import HeaderBindings.Proofs.LetterCase
import HeaderBindings.Proofs.Lines
import HeaderBindings.Proofs.Regularity
import HeaderBindings.Proofs.Rendering

/-!
The marks that give a stub its shape, and the texts that hold none of them. Names read from a source
consist of name characters, and types of such names with spaces between them, so neither their
renderings nor the name of the stub hold a mark, whatever the case map does to a letter.
-/

namespace HeaderBindings
open Text

/-- The marks around and between the parts of a stub. -/
def stubMarks : List Char := [',', '(', ')', ':', '\n']

/-- A text without these marks. -/
def IsUnmarked (text : List Char) : Prop := ∀ c ∈ text, c ∉ stubMarks

instance : DecidablePred IsUnmarked := fun text =>
  decidable_of_iff (text.all (!stubMarks.contains ·) = true) (by simp [IsUnmarked])

theorem isUnmarked_append {first second : List Char} :
    IsUnmarked (first ++ second) ↔ IsUnmarked first ∧ IsUnmarked second := List.forall_mem_append

theorem isUnmarked_of_isNameChar {text : List Char} (h : ∀ c ∈ text, isNameChar c = true) :
    IsUnmarked text := by
  have hmarks : stubMarks.all (fun c => !isNameChar c) = true := by decide +kernel
  intro c hmem hmark
  have hc := List.all_eq_true.mp hmarks c hmark
  simp [h c hmem] at hc

theorem mem_toList_intercalate {separator : String} {words : List String} {c : Char}
    (h : c ∈ (String.intercalate separator words).toList) :
    c ∈ separator.toList ∨ ∃ word ∈ words, c ∈ word.toList := by
  rw [String.toList_intercalate] at h
  refine (mem_intercalate h).imp_right ?_
  rintro ⟨piece, hmem, hc⟩
  obtain ⟨word, hword, rfl⟩ := List.mem_map.mp hmem
  exact ⟨word, hword, hc⟩

/-! ### Types -/

/-- A type spelled with words of name characters and spaces between them. -/
def CType.IsSpelled : CType → Prop
  | named qualifiers name =>
      (∀ word ∈ qualifiers, ∀ c ∈ word.toList, isNameChar c = true) ∧
        ∀ c ∈ name.toList, isNameChar c = true ∨ c = ' '
  | pointer pointee => pointee.IsSpelled
  | unsupported _ => True

@[simp] theorem CType.isSpelled_behindPointers (depth : Nat) (type : CType) :
    (behindPointers depth type).IsSpelled ↔ type.IsSpelled := by
  induction depth with
  | zero => rfl
  | succ depth ih => simpa [behindPointers, IsSpelled] using ih

theorem CType.IsSupported.isSpelled {type : CType} (h : type.IsSupported) : type.IsSpelled := by
  have hkeywords : ∀ word ∈ Source.qualifierKeywords, word.toList.all isNameChar = true := by
    decide +kernel
  induction type with
  | named qualifiers name =>
      obtain ⟨-, hqualifiers, words, -, hwords, rfl⟩ := h
      refine ⟨fun word hmem => List.all_eq_true.mp (hkeywords word (hqualifiers word hmem)),
        fun c hc => ?_⟩
      rcases mem_toList_intercalate hc with hspace | ⟨word, hword, hc⟩
      · exact Or.inr (List.mem_singleton.mp hspace)
      · exact Or.inl ((hwords word hword).chars c hc)
  | pointer pointee ih => exact ih h
  | unsupported shape => trivial

theorem CType.IsRegular.isSpelled {type : CType} (h : type.IsRegular) : type.IsSpelled := by
  rcases h with ⟨shape, rfl⟩ | h
  · trivial
  · exact h.isSpelled

/-- The words of a regular declaration consist of name characters. -/
theorem Signature.IsRegular.isSpelled {signature : Signature} (h : signature.IsRegular) :
    (∀ c ∈ signature.name.toList, isNameChar c = true) ∧ signature.returnType.IsSpelled ∧
      ∀ parameter ∈ signature.parameters, parameter.type.unsupportedShape? = none →
        (∀ c ∈ parameter.name.toList, isNameChar c = true) ∧ parameter.type.IsSpelled := by
  refine ⟨h.name.chars, h.returnType.isSpelled, fun parameter hmem hshape => ?_⟩
  obtain ⟨htype, hname⟩ := h.parameters parameter hmem
  have hsupported (shape : String) (heq : parameter.type = .unsupported shape) : False := by
    rw [heq] at hshape
    cases hshape
  refine ⟨?_, htype.isSpelled⟩
  rcases hname hsupported with hname | hname
  · simp [hname]
  · exact hname.chars

/-! ### Renderings -/

/-- The values that count in the map hold no mark. -/
def TypeMap.IsUnmarked (types : TypeMap) : Prop :=
  ∀ entry ∈ types.effective, HeaderBindings.IsUnmarked entry.2.toList

instance : DecidablePred TypeMap.IsUnmarked := fun types =>
  inferInstanceAs (Decidable (∀ entry ∈ types.effective, IsUnmarked entry.2.toList))

/-- The last entry for a name counts. -/
theorem TypeMap.mem_effective_of_find? {types : TypeMap} {name value : String}
    (h : types.find? name = some value) : (name, value) ∈ types.effective := by
  obtain ⟨entries⟩ := types
  rw [find?] at h
  rw [effective]
  induction entries with
  | nil => cases h
  | cons entry rest ih =>
      simp only [List.reverse_cons, List.lookup_append] at h
      cases hrest : rest.reverse.lookup name with
      | some found =>
          rw [hrest] at h
          rw [effective.go]
          split
          · exact ih (hrest.trans h)
          · exact List.mem_cons_of_mem _ (ih (hrest.trans h))
      | none =>
          rw [hrest, Option.none_or, List.lookup_cons] at h
          split at h
          case h_2 => cases h
          case h_1 hname =>
            obtain rfl := Option.some.inj h
            obtain rfl := beq_iff_eq.mp hname
            have hlast : rest.any (·.1 == entry.1) = false := by
              rw [List.any_eq_false]
              intro other hmem
              have hother := List.lookup_eq_none_iff.mp hrest other (List.mem_reverse.mpr hmem)
              exact fun heq => bne_iff_ne.mp hother (beq_iff_eq.mp heq).symm
            rw [effective.go, hlast]
            exact List.mem_cons_self

/-- The rendering of a type that was read holds no mark unless the map puts one there. -/
theorem CType.isUnmarked_of_render {types : TypeMap} {type : CType} {text : String}
    (htypes : types.IsUnmarked) (hspelled : type.IsSpelled) (h : type.render types = .ok text) :
    IsUnmarked text.toList := by
  obtain ⟨depth, qualifiers, name, rfl, rfl⟩ := render_eq_ok_iff.mp h
  obtain ⟨hqualifiers, hname⟩ := (isSpelled_behindPointers _ _).mp hspelled
  have hspace : ' ' ∉ stubMarks := by decide
  have hmapped : IsUnmarked (types.map name).toList := by
    rw [TypeMap.map]
    cases hfound : types.find? name with
    | some value => exact htypes _ (TypeMap.mem_effective_of_find? hfound)
    | none =>
        intro c hc
        rcases hname c hc with hc | rfl
        · exact isUnmarked_of_isNameChar (List.forall_mem_singleton.mpr hc) c List.mem_cons_self
        · exact hspace
  rw [rendered, String.toList_append, String.toList_ofList]
  refine isUnmarked_append.mpr ⟨fun c hc => ?_, fun c hc => ?_⟩
  · obtain rfl := List.eq_of_mem_replicate hc
    decide
  · rcases mem_toList_intercalate hc with hc | ⟨word, hword, hc⟩
    · obtain rfl := List.mem_singleton.mp hc
      exact hspace
    · rcases List.mem_append.mp hword with hword | hword
      · exact isUnmarked_of_isNameChar (hqualifiers word hword) c hc
      · obtain rfl := List.mem_singleton.mp hword
        exact hmapped c hc

/-! ### Names of stubs -/

theorem isUnmarked_upperCase {c : Char} (h : isNameChar c = true) : IsUnmarked (upperCase c) := by
  have hmarks : stubMarks.all (fun mark => decide (mark.toNat < 0x80) && !mark.isAlpha) = true := by
    decide +kernel
  intro d hd hmark
  have hcode := List.all_eq_true.mp hmarks d hmark
  rw [Bool.and_eq_true, decide_eq_true_eq, Bool.not_eq_true'] at hcode
  obtain ⟨hascii, hletter⟩ := hcode
  rcases isAlpha_of_mem_upperCase hd hascii with halpha | rfl
  · rw [hletter] at halpha
    cases halpha
  · have hself : IsUnmarked [d] := isUnmarked_of_isNameChar (List.forall_mem_singleton.mpr h)
    exact hself d List.mem_cons_self hmark

theorem isUnmarked_camelFrom (pending : Bool) {text : List Char}
    (h : ∀ c ∈ text, isNameChar c = true) : IsUnmarked (Identifier.camelFrom pending text) := by
  induction text generalizing pending with
  | nil => simp [Identifier.camelFrom, IsUnmarked]
  | cons c rest ih =>
      have hc := h c List.mem_cons_self
      have hrest := fun d hd => h d (List.mem_cons_of_mem c hd)
      rw [Identifier.camelFrom]
      split
      · exact ih true hrest
      · split
        · exact isUnmarked_append.mpr ⟨isUnmarked_upperCase hc, ih false hrest⟩
        · refine List.forall_mem_cons.mpr ⟨?_, ih false hrest⟩
          exact isUnmarked_of_isNameChar (List.forall_mem_singleton.mpr hc) c List.mem_cons_self

theorem stripFirst_suffix (prefixes : List String) (name : String) :
    (Identifier.stripFirst prefixes name).toList <:+ name.toList := by
  rw [Identifier.stripFirst]
  split
  case h_1 rest hfound =>
    obtain ⟨start, -, hrest⟩ := List.exists_of_findSome?_eq_some hfound
    rw [String.toList_ofList]
    exact ⟨start.toList, (Identifier.remainder?_eq_some_iff.mp hrest).symm⟩
  case h_2 => exact List.suffix_refl _

namespace Wrapper

theorem isUnmarked_name {function : String} (h : ∀ c ∈ function.toList, isNameChar c = true)
    (stripPrefixes : List String) : IsUnmarked (name stripPrefixes function).toList := by
  rw [name, Identifier.camelCase, String.toList_ofList]
  exact isUnmarked_camelFrom false fun c hc =>
    h c ((stripFirst_suffix stripPrefixes function).mem hc)

theorem isUnmarked_forwardedName {parameter : Parameter}
    (h : ∀ c ∈ parameter.name.toList, isNameChar c = true) (style : WrapperStyle) (index : Nat) :
    IsUnmarked (forwardedName style index parameter).toList := by
  rw [forwardedName]
  split
  · have hdigits : ∀ c ∈ (toString index).toList, isNameChar c = true := by
      intro c hc
      have hdigit := isDigit_of_mem_toString hc
      exact isNameChar_of_isPlainChar (by simp [isPlainChar, Char.isAlphanum, hdigit])
    rw [String.toList_append]
    exact isUnmarked_append.mpr ⟨by decide +kernel, isUnmarked_of_isNameChar hdigits⟩
  · exact isUnmarked_of_isNameChar h

end Wrapper

end HeaderBindings
