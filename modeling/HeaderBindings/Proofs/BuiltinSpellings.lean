import HeaderBindings.Source.Declaration
import HeaderBindings.TypeMap
import Mathlib.Data.List.Permutation

/-!
The spellings of the builtin types. C lets the words of such a type stand in any order, with the
qualifiers anywhere among them, and for some types `int` or `signed` may be left out. The map of
builtin types looks up the words as they stand, and has some of the spellings only: two spellings of
one type have the same name in the generated source exactly if the map has both, or if they differ in
nothing but the qualifiers.
-/

namespace HeaderBindings.Source

/-! ### The words of a type -/

/-- The words of the base name among the words of a type. -/
def baseWords (words : List String) : List String := words.filter (!qualifierKeywords.contains ·)

/-- The base name that words of a type make up. -/
def baseName (words : List String) : String := String.intercalate " " (baseWords words)

/-- The qualifiers among the words of a type, each one once. -/
def qualifiersOf (words : List String) : List String :=
  (words.filter qualifierKeywords.contains).eraseDups

/-- The type of which words in front of all stars are read. -/
def typeOfWords (words : List String) : CType := .named (qualifiersOf words) (baseName words)

/-- What is read of words in front of all stars. -/
def Specifiers.ofWords (words : List String) : Specifiers :=
  { qualifiers := qualifiersOf words, words := baseWords words }

/-- Qualifiers and words of builtin types, of which at least one is a word of a type. -/
structure IsSpecifierWords (words : List String) : Prop where
  known : ∀ word ∈ words, word ∈ qualifierKeywords ∨ word ∈ typeKeywords
  named : baseWords words ≠ []

theorem IsSpecifierWords.isTypeWord {words : List String} (h : IsSpecifierWords words) :
    ∀ word ∈ words, isTypeWord word = true := by
  intro word hmem
  rcases h.known word hmem with hqualifier | htype
  · simp [Source.isTypeWord, hqualifier]
  · simp [Source.isTypeWord, htype]

theorem IsSpecifierWords.not_mem_tagKeywords {words : List String} (h : IsSpecifierWords words) :
    ∀ word ∈ words, word ∉ tagKeywords := by
  have hkeywords : ∀ word ∈ qualifierKeywords ++ typeKeywords, word ∉ tagKeywords := by decide
  exact fun word hmem => hkeywords word (List.mem_append.mpr (h.known word hmem))

theorem eraseDups_concat (words : List String) (word : String) :
    (words ++ [word]).eraseDups = words.eraseDups ++ if word ∈ words then [] else [word] := by
  have hone : [word].eraseDups = [word] := rfl
  rw [List.eraseDups_append, List.removeAll]
  by_cases h : word ∈ words <;> simp [h, hone]

theorem nodup_eraseDups (words : List String) : words.eraseDups.Nodup := by
  induction words using List.reverseRecOn with
  | nil => exact List.nodup_nil
  | append_singleton words word ih =>
      rw [eraseDups_concat]
      split
      case isTrue => rwa [List.append_nil]
      case isFalse hnew =>
        refine List.nodup_append.mpr ⟨ih, List.nodup_singleton word, ?_⟩
        rintro known hknown other hother rfl
        exact hnew (List.mem_singleton.mp hother ▸ List.mem_eraseDups.mp hknown)

/-- A word in front of all stars is read as one word more. -/
theorem Specifiers.add_ofWords (words : List String) {word : String} (h : word ∉ tagKeywords) :
    (ofWords words).add (.word word) = .ok (ofWords (words ++ [word])) := by
  by_cases hqualifier : word ∈ qualifierKeywords
  · by_cases hmem : word ∈ words <;>
      simp [add, ofWords, qualifiersOf, baseWords, eraseDups_concat, hqualifier, hmem]
  · simp [add, ofWords, qualifiersOf, baseWords, hqualifier, h]

/-! ### Spellings -/

/-- The builtin types of C, each with the sets of words that name it. The words of a set may stand
in any order. -/
def builtinSpellings : List (List (List String)) :=
  [[["void"]], [["char"]], [["signed", "char"]], [["unsigned", "char"]],
   [["short"], ["signed", "short"], ["short", "int"], ["signed", "short", "int"]],
   [["unsigned", "short"], ["unsigned", "short", "int"]],
   [["int"], ["signed"], ["signed", "int"]],
   [["unsigned"], ["unsigned", "int"]],
   [["long"], ["signed", "long"], ["long", "int"], ["signed", "long", "int"]],
   [["unsigned", "long"], ["unsigned", "long", "int"]],
   [["long", "long"], ["signed", "long", "long"], ["long", "long", "int"],
    ["signed", "long", "long", "int"]],
   [["unsigned", "long", "long"], ["unsigned", "long", "long", "int"]],
   [["float"]], [["double"]], [["long", "double"]], [["_Bool"]], [["bool"]],
   [["float", "_Complex"]], [["double", "_Complex"]], [["long", "double", "_Complex"]]]

/-- Words of which one of the spellings is made when the qualifiers are left out. -/
def IsSpelledBy (spellings : List (List String)) (words : List String) : Prop :=
  ∃ spelling ∈ spellings, (baseWords words).Perm spelling

/-- Two spellings of one builtin type with the same qualifiers. -/
structure IsRespelling (words others : List String) : Prop where
  qualifiers : (words.filter qualifierKeywords.contains).Perm
    (others.filter qualifierKeywords.contains)
  builtin : ∃ spellings ∈ builtinSpellings, IsSpelledBy spellings words ∧ IsSpelledBy spellings others

/-- Whether the map of builtin types has the base name of a spelling. -/
def IsMapped (words : List String) : Prop := (TypeMap.builtin.find? (baseName words)).isSome

instance (spellings : List (List String)) : DecidablePred (IsSpelledBy spellings) := fun words =>
  inferInstanceAs (Decidable (∃ spelling ∈ spellings, (baseWords words).Perm spelling))

instance (words others : List String) : Decidable (IsRespelling words others) :=
  decidable_of_iff
    ((words.filter qualifierKeywords.contains).Perm (others.filter qualifierKeywords.contains) ∧
      ∃ spellings ∈ builtinSpellings, IsSpelledBy spellings words ∧ IsSpelledBy spellings others)
    ⟨fun h => ⟨h.1, h.2⟩, fun h => ⟨h.qualifiers, h.builtin⟩⟩

instance : DecidablePred IsMapped := fun words =>
  inferInstanceAs (Decidable ((TypeMap.builtin.find? (baseName words)).isSome = true))

variable {words others : List String}

theorem IsSpelledBy.isSpecifierWords {spellings : List (List String)}
    (hspellings : spellings ∈ builtinSpellings) (h : IsSpelledBy spellings words) :
    IsSpecifierWords words := by
  have hbuiltin : ∀ spellings ∈ builtinSpellings, ∀ spelling ∈ spellings,
      spelling ≠ [] ∧ ∀ word ∈ spelling, word ∈ typeKeywords := by decide +kernel
  obtain ⟨spelling, hmem, hperm⟩ := h
  obtain ⟨hne, htype⟩ := hbuiltin spellings hspellings spelling hmem
  refine ⟨fun word hword => ?_, fun hempty => hne ?_⟩
  · by_cases hqualifier : word ∈ qualifierKeywords
    · exact .inl hqualifier
    · exact .inr (htype word (hperm.mem_iff.mp (by simp [baseWords, hword, hqualifier])))
  · rw [hempty] at hperm
    exact hperm.nil_eq.symm

theorem IsRespelling.isSpecifierWords (h : IsRespelling words others) :
    IsSpecifierWords words ∧ IsSpecifierWords others := by
  obtain ⟨spellings, hmem, hwords, hothers⟩ := h.builtin
  exact ⟨hwords.isSpecifierWords hmem, hothers.isSpecifierWords hmem⟩

theorem IsRespelling.symm (h : IsRespelling words others) : IsRespelling others words := by
  obtain ⟨spellings, hmem, hwords, hothers⟩ := h.builtin
  exact ⟨h.qualifiers.symm, spellings, hmem, hothers, hwords⟩

/-- There is no other way to spell `void` on its own. -/
theorem IsRespelling.eq_void (h : IsRespelling ["void"] others) : others = ["void"] := by
  have hbuiltin : ∀ spellings ∈ builtinSpellings, ∀ spelling ∈ spellings,
      spelling.Perm ["void"] → spellings = [["void"]] := by decide +kernel
  obtain ⟨spellings, hmem, ⟨spelling, hspelling, hvoid⟩, other, hother, hothers⟩ := h.builtin
  obtain rfl := hbuiltin spellings hmem spelling hspelling hvoid.symm
  obtain rfl := List.mem_singleton.mp hother
  have hnone : others.filter qualifierKeywords.contains = [] := h.qualifiers.nil_eq.symm
  have hall : baseWords others = others := by
    rw [List.filter_eq_nil_iff] at hnone
    exact List.filter_eq_self.mpr fun word hword => by simpa using hnone word hword
  rw [← hall]
  exact List.perm_singleton.mp hothers

/-- The qualifiers of a type do not depend on how it is spelled, but for their order. -/
theorem IsRespelling.perm_qualifiersOf (h : IsRespelling words others) :
    (qualifiersOf words).Perm (qualifiersOf others) := by
  rw [qualifiersOf, qualifiersOf,
    List.perm_ext_iff_of_nodup (nodup_eraseDups _) (nodup_eraseDups _)]
  intro word
  rw [List.mem_eraseDups, List.mem_eraseDups]
  exact h.qualifiers.mem_iff

/-! ### The map of builtin types -/

/-- The name that the map has for the first of the spellings that it has. -/
def mappedName? (spellings : List (List String)) : Option String :=
  spellings.findSome? fun spelling => TypeMap.builtin.find? (String.intercalate " " spelling)

/-- The map has one name for all spellings of a type that it has, and no other spelling of the type
is that name. -/
theorem find?_spelling : ∀ spellings ∈ builtinSpellings, ∀ spelling ∈ spellings,
    ∀ words ∈ spelling.permutations',
      TypeMap.builtin.find? (String.intercalate " " words) = mappedName? spellings ∨
      TypeMap.builtin.find? (String.intercalate " " words) = none ∧
        mappedName? spellings ≠ some (String.intercalate " " words) := by
  decide +kernel

theorem IsSpelledBy.find?_baseName {spellings : List (List String)}
    (hspellings : spellings ∈ builtinSpellings) (h : IsSpelledBy spellings words) :
    TypeMap.builtin.find? (baseName words) = mappedName? spellings ∨
      TypeMap.builtin.find? (baseName words) = none ∧
        mappedName? spellings ≠ some (baseName words) := by
  obtain ⟨spelling, hmem, hperm⟩ := h
  exact find?_spelling spellings hspellings spelling hmem _ (List.mem_permutations'.mpr hperm)

/-- Two spellings of a type have the same name exactly if the map has both or they are the same but
for the qualifiers. -/
theorem IsRespelling.map_baseName_iff (h : IsRespelling words others) :
    TypeMap.builtin.map (baseName words) = TypeMap.builtin.map (baseName others) ↔
      baseName words = baseName others ∨ IsMapped words ∧ IsMapped others := by
  obtain ⟨spellings, hmem, hwords, hothers⟩ := h.builtin
  have hfirst := hwords.find?_baseName hmem
  have hsecond := hothers.find?_baseName hmem
  rw [TypeMap.map, TypeMap.map, IsMapped, IsMapped]
  cases hfound : TypeMap.builtin.find? (baseName words) with
  | some name =>
      have hname : mappedName? spellings = some name := by simpa [hfound, eq_comm] using hfirst
      cases hother : TypeMap.builtin.find? (baseName others) with
      | some other =>
          have hsame : mappedName? spellings = some other := by simpa [hother, eq_comm] using hsecond
          simpa [hname] using hsame
      | none =>
          have hne : name ≠ baseName others := by simpa [hother, hname] using hsecond
          have hdiffer : baseName words ≠ baseName others := by
            intro heq
            simp [heq, hother] at hfound
          simp [hne, hdiffer]
  | none =>
      cases hother : TypeMap.builtin.find? (baseName others) with
      | some other =>
          have hsame : mappedName? spellings = some other := by simpa [hother, eq_comm] using hsecond
          have hne : baseName words ≠ other := by simpa [hfound, hsame, eq_comm] using hfirst
          have hdiffer : baseName words ≠ baseName others := by
            intro heq
            simp [heq, hother] at hfound
          simp [hne, hdiffer]
      | none => simp

example :
    IsRespelling ["const", "unsigned", "long", "int"] ["long", "unsigned", "const"] ∧
      IsMapped ["const", "unsigned", "long", "int"] ∧ ¬IsMapped ["long", "unsigned", "const"] := by
  decide +kernel

end HeaderBindings.Source
