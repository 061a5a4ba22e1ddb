import HeaderBindings.Identifier
import HeaderBindings.Proofs.LetterCase
import HeaderBindings.Proofs.Lines
import HeaderBindings.Proofs.Words

/-!
The two casings word by word. An underscore separates what stands in front of it from what stands
behind it, so a name made of words joined by underscores is cased one word after the other. No
underscore is left, and nothing at all only of a name that has no other character. On names without
capitals the two casings differ in the first word only, and an underscore in front makes up for
that.
-/

namespace HeaderBindings.Identifier
open Text

/-- The word with its first character in upper case and the others as they are. -/
def raiseFirst : List Char → List Char
  | [] => []
  | first :: rest => upperCase first ++ rest

/-! ### Pascal case -/

theorem pascalChars_append_cons (first second : List Char) :
    pascalChars (first ++ '_' :: second) = pascalChars first ++ pascalChars second := by
  rw [pascalChars, cutAt_append_cons, List.flatMap_append, pascalChars, pascalChars]

theorem pascalChars_underscore_cons (text : List Char) :
    pascalChars ('_' :: text) = pascalChars text := pascalChars_append_cons [] text

theorem pascalChars_intercalate {words : List (List Char)} (hne : words ≠ [])
    (h : ∀ word ∈ words, '_' ∉ word) :
    pascalChars (['_'].intercalate words) = words.flatMap capitalizeChars := by
  rw [pascalChars, cutAt_intercalate hne h]

/-- A name that starts with a character of a word is cased to the upper case of this character and
something behind it. -/
theorem exists_pascalChars_cons {c : Char} (hc : c ≠ '_') (rest : List Char) :
    ∃ more, pascalChars (c :: rest) = upperCase c ++ more := by
  obtain ⟨piece, pieces, hcut⟩ := List.exists_cons_of_ne_nil (cutAt_ne_nil '_' rest)
  refine ⟨piece.flatMap lowerCase ++ pieces.flatMap capitalizeChars, ?_⟩
  rw [pascalChars, cutAt, if_neg hc, hcut, consFirst, List.flatMap_cons, capitalizeChars,
    List.append_assoc]

/-- Nothing is left of a name exactly if it consists of underscores. -/
theorem pascalChars_eq_nil_iff {text : List Char} :
    pascalChars text = [] ↔ ∀ c ∈ text, c = '_' := by
  induction text with
  | nil => exact ⟨fun _ c hc => (List.not_mem_nil hc).elim, fun _ => rfl⟩
  | cons c rest ih =>
      rw [List.forall_mem_cons]
      by_cases hc : c = '_'
      · rw [hc, pascalChars_underscore_cons, ih]
        exact (and_iff_right rfl).symm
      · obtain ⟨more, hmore⟩ := exists_pascalChars_cons hc rest
        rw [hmore]
        constructor
        · intro hnil
          exact absurd (List.append_eq_nil_iff.mp hnil).1 (upperCase_ne_nil c)
        · rintro ⟨hunderscore, -⟩
          exact absurd hunderscore hc

/-! ### Camel case -/

theorem camelFrom_append_cons (pending : Bool) (first second : List Char) :
    camelFrom pending (first ++ '_' :: second)
      = camelFrom pending first ++ camelFrom true second := by
  induction first generalizing pending with
  | nil => rfl
  | cons c first ih =>
      rw [List.cons_append, camelFrom, camelFrom]
      split
      · exact ih true
      · split
        · rw [ih false, List.append_assoc]
        · rw [ih false, List.cons_append]

theorem camelFrom_false_of_not_mem {word : List Char} (h : '_' ∉ word) :
    camelFrom false word = word := by
  induction word with
  | nil => rfl
  | cons c word ih =>
      obtain ⟨hc, hword⟩ := not_or.mp (mt List.mem_cons.mpr h)
      rw [camelFrom, if_neg (Ne.symm hc), ih hword]
      rfl

theorem camelFrom_true_of_not_mem {word : List Char} (h : '_' ∉ word) :
    camelFrom true word = raiseFirst word := by
  cases word with
  | nil => rfl
  | cons c word =>
      obtain ⟨hc, hword⟩ := not_or.mp (mt List.mem_cons.mpr h)
      rw [camelFrom, if_neg (Ne.symm hc), if_pos rfl, camelFrom_false_of_not_mem hword, raiseFirst]

theorem camelFrom_true_intercalate {words : List (List Char)} (h : ∀ word ∈ words, '_' ∉ word) :
    camelFrom true (['_'].intercalate words) = words.flatMap raiseFirst := by
  induction words with
  | nil => rfl
  | cons word rest ih =>
      obtain ⟨hword, hrest⟩ := List.forall_mem_cons.mp h
      by_cases hlast : rest = []
      · subst hlast
        rw [List.intercalate_singleton, camelFrom_true_of_not_mem hword, List.flatMap_singleton]
      · rw [List.intercalate_cons_of_ne_nil hlast, List.append_assoc, List.singleton_append,
          camelFrom_append_cons, camelFrom_true_of_not_mem hword, ih hrest, List.flatMap_cons]

/-- The first word stays as it is, and each other word gets a capital. -/
theorem camelChars_intercalate {word : List Char} {others : List (List Char)}
    (h : ∀ other ∈ word :: others, '_' ∉ other) :
    camelChars (['_'].intercalate (word :: others)) = word ++ others.flatMap raiseFirst := by
  obtain ⟨hword, hothers⟩ := List.forall_mem_cons.mp h
  by_cases hlast : others = []
  · subst hlast
    rw [List.intercalate_singleton, camelChars, camelFrom_false_of_not_mem hword,
      List.flatMap_nil, List.append_nil]
  · rw [List.intercalate_cons_of_ne_nil hlast, List.append_assoc, List.singleton_append,
      camelChars, camelFrom_append_cons, camelFrom_false_of_not_mem hword,
      camelFrom_true_intercalate hothers]

/-! ### Underscores -/

/-- The case of a character is no underscore if the character is none. -/
theorem underscore_not_mem_case {c : Char} (hc : c ≠ '_') {cased : List Char}
    (h : ∀ d ∈ cased, d.toNat < 0x80 → d.isAlpha = true ∨ d = c) : '_' ∉ cased := by
  intro hmem
  rcases h '_' hmem (by decide) with hletter | rfl
  · exact absurd hletter (by decide)
  · exact hc rfl

theorem underscore_not_mem_upperCase {c : Char} (hc : c ≠ '_') : '_' ∉ upperCase c :=
  underscore_not_mem_case hc fun _ hd => isAlpha_of_mem_upperCase hd

theorem underscore_not_mem_lowerCase {c : Char} (hc : c ≠ '_') : '_' ∉ lowerCase c :=
  underscore_not_mem_case hc fun _ hd => isAlpha_of_mem_lowerCase hd

theorem underscore_not_mem_capitalizeChars {word : List Char} (h : '_' ∉ word) :
    '_' ∉ capitalizeChars word := by
  cases word with
  | nil => exact h
  | cons first rest =>
      obtain ⟨hfirst, hrest⟩ := not_or.mp (mt List.mem_cons.mpr h)
      rw [capitalizeChars, List.mem_append, not_or]
      refine ⟨underscore_not_mem_upperCase (Ne.symm hfirst), fun hmem => ?_⟩
      obtain ⟨c, hc, hunderscore⟩ := List.mem_flatMap.mp hmem
      have hother : c ≠ '_' := fun heq => hrest (heq ▸ hc)
      exact underscore_not_mem_lowerCase hother hunderscore

theorem underscore_not_mem_pascalChars (text : List Char) : '_' ∉ pascalChars text := by
  intro hmem
  obtain ⟨piece, hpiece, hunderscore⟩ := List.mem_flatMap.mp hmem
  exact underscore_not_mem_capitalizeChars (separator_not_mem_cutAt hpiece) hunderscore

theorem underscore_not_mem_camelFrom (pending : Bool) (text : List Char) :
    '_' ∉ camelFrom pending text := by
  induction text generalizing pending with
  | nil => exact List.not_mem_nil
  | cons c rest ih =>
      rw [camelFrom]
      split
      case isTrue => exact ih true
      case isFalse hc =>
        split
        · rw [List.mem_append, not_or]
          exact ⟨underscore_not_mem_upperCase hc, ih false⟩
        · rw [List.mem_cons, not_or]
          exact ⟨Ne.symm hc, ih false⟩

/-! ### Names without capitals -/

/-- A lower-case ASCII letter, a digit or an underscore. -/
def isLowerChar (c : Char) : Bool := c.isLower || c.isDigit || c == '_'

/-- Such a character is its own lower case. -/
theorem lowerCase_of_isLowerChar {c : Char} (h : isLowerChar c = true) : lowerCase c = [c] := by
  have hplain : isPlainChar c = true := by
    simp only [isLowerChar, isPlainChar, Char.isAlphanum, Char.isAlpha, Bool.or_eq_true] at h ⊢
    exact h.imp_left (Or.imp_left Or.inr)
  have hupper : ¬ c.isUpper = true := by
    rcases (Bool.or_eq_true _ _).mp h with hword | hunderscore
    · exact not_isUpper hword
    · rw [eq_of_beq hunderscore]
      decide
  rw [lowerCase_of_ascii (toNat_lt_of_isPlainChar hplain), Char.toLower_eq_of_not_isUpper hupper]

theorem capitalizeChars_of_isLowerChar {word : List Char}
    (h : ∀ c ∈ word, isLowerChar c = true) : capitalizeChars word = raiseFirst word := by
  cases word with
  | nil => rfl
  | cons first rest =>
      have hrest : rest.flatMap lowerCase = rest := calc
        rest.flatMap lowerCase = rest.flatMap ([·]) := by
          apply List.flatMap_congr
          intro c hc
          exact lowerCase_of_isLowerChar (h c (List.mem_cons_of_mem first hc))
        _ = rest := List.flatMap_singleton' rest
      rw [capitalizeChars, hrest, raiseFirst]

/-- Behind an underscore, the camel case of a name without capitals is its pascal case. -/
theorem camelFrom_true_of_isLowerChar {text : List Char}
    (h : ∀ c ∈ text, isLowerChar c = true) : camelFrom true text = pascalChars text := calc
  camelFrom true text = camelFrom true (['_'].intercalate (cutAt '_' text)) := by
    rw [intercalate_cutAt]
  _ = (cutAt '_' text).flatMap raiseFirst :=
    camelFrom_true_intercalate fun _ hword => separator_not_mem_cutAt hword
  _ = (cutAt '_' text).flatMap capitalizeChars := by
    apply List.flatMap_congr
    intro word hword
    have hlower : ∀ c ∈ word, isLowerChar c = true := fun c hc => h c (mem_of_mem_cutAt hword hc)
    exact (capitalizeChars_of_isLowerChar hlower).symm

/-! ### The casings of names -/

/-- Both casings go word by word and leave no underscore. The camel case keeps a name without
underscores as it is, so casing a name again changes nothing; and of a name without capitals, behind
an underscore, it is the pascal case. -/
theorem casings_of_words :
    (∀ first second : String,
      pascalCase (first ++ "_" ++ second) = pascalCase first ++ pascalCase second ∧
        camelCase (first ++ "_" ++ second) = camelCase first ++ camelCase ("_" ++ second)) ∧
    (∀ name : String, '_' ∉ (pascalCase name).toList ∧ '_' ∉ (camelCase name).toList) ∧
    (∀ name : String, '_' ∉ name.toList → camelCase name = name) ∧
    (∀ name : String, camelCase (camelCase name) = camelCase name) ∧
    ∀ name : String, (∀ c ∈ name.toList, isLowerChar c = true) →
      camelCase ("_" ++ name) = pascalCase name := by
  have hunderscore : "_".toList = ['_'] := rfl
  have hnone (name : String) : '_' ∉ (camelCase name).toList := by
    rw [camelCase, String.toList_ofList]
    exact underscore_not_mem_camelFrom false name.toList
  have hkept (name : String) (h : '_' ∉ name.toList) : camelCase name = name := by
    rw [camelCase, camelChars, camelFrom_false_of_not_mem h, String.ofList_toList]
  have hbehind (name : String) :
      camelCase ("_" ++ name) = String.ofList (camelFrom true name.toList) := by
    rw [camelCase, String.toList_append, hunderscore]
    rfl
  refine ⟨fun first second => ⟨?_, ?_⟩, fun name => ⟨?_, hnone name⟩, hkept,
    fun name => hkept _ (hnone name), fun name hlower => ?_⟩
  · rw [pascalCase, String.toList_append, String.toList_append, hunderscore, List.append_assoc,
      List.singleton_append, pascalChars_append_cons, String.ofList_append]
    rfl
  · rw [hbehind, camelCase, String.toList_append, String.toList_append, hunderscore,
      List.append_assoc, List.singleton_append, camelChars, camelFrom_append_cons,
      String.ofList_append]
    rfl
  · rw [pascalCase, String.toList_ofList]
    exact underscore_not_mem_pascalChars name.toList
  · rw [hbehind, camelFrom_true_of_isLowerChar hlower, pascalCase]

/-- Doubled underscores and a digit at the start of a word, and a name whose letters are kept. -/
theorem casings_of_words_doubled_underscores :
    (∀ c ∈ "g__8bit_tag_".toList, isLowerChar c = true) ∧
      camelCase ("_" ++ "g__8bit_tag_") = pascalCase "g__8bit_tag_" ∧
      pascalCase "g__8bit_tag_" = "G8bitTag" ∧
      '_' ∉ "getßType".toList ∧ camelCase "getßType" = "getßType" := by
  obtain ⟨-, -, hkept, -, hlower⟩ := casings_of_words
  have hname : ∀ c ∈ "g__8bit_tag_".toList, isLowerChar c = true :=
    List.all_eq_true.mp (by decide +kernel)
  have hbare : '_' ∉ "getßType".toList := by decide +kernel
  exact ⟨hname, hlower _ hname, by decide +kernel, hbare, hkept _ hbare⟩

end HeaderBindings.Identifier
