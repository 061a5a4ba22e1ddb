import HeaderBindings.Proofs.VariantNames
import HeaderBindings.Wrapper

/-!
Names that show the words they are made of. When every word begins with a letter and is otherwise in
letters of one case, the capitals of the cased name stand where its words begin, so the words can be
read back although the underscores are gone. Hence constants with one prefix have different
variants, and functions from which one prefix is removed have different stub names.
-/

namespace HeaderBindings
open Text

namespace Identifier

/-! ### Words in letters of one case -/

/-- A word in the given letters: one of them, then such letters and digits. -/
def isWordOf (letter : Char → Bool) : List Char → Bool :=
  isNameOf letter fun c => letter c || c.isDigit

/-- Words in the given letters, joined by single underscores. -/
def IsWordsOf (letter : Char → Bool) (text : List Char) : Prop :=
  ∃ words, words ≠ [] ∧ (∀ word ∈ words, isWordOf letter word = true) ∧
    text = ['_'].intercalate words

section
variable {letter : Char → Bool} (hletter : ∀ c, letter c = true → c.isAlpha = true)
include hletter

theorem isAlphanum_of_isWordOf {word : List Char} (h : isWordOf letter word = true) :
    ∀ c ∈ word, c.isAlphanum = true := by
  cases word with
  | nil => cases h
  | cons first rest =>
      obtain ⟨hfirst, hrest⟩ := isNameOf_cons.mp h
      rw [List.forall_mem_cons]
      refine ⟨?_, fun c hc => ?_⟩
      · rw [Char.isAlphanum, hletter first hfirst, Bool.true_or]
      · rw [Char.isAlphanum, Bool.or_eq_true]
        exact (Bool.or_eq_true _ _ ▸ hrest c hc).imp_left (hletter c)

theorem underscore_not_mem_of_isWordOf {word : List Char} (h : isWordOf letter word = true) :
    '_' ∉ word := fun hmem =>
  absurd (isAlphanum_of_isWordOf hletter h '_' hmem) (by decide)

theorem IsWordsOf.isPlainChar {text : List Char} (h : IsWordsOf letter text) :
    ∀ c ∈ text, isPlainChar c = true := by
  obtain ⟨words, -, hwords, rfl⟩ := h
  intro c hc
  rw [Text.isPlainChar, Bool.or_eq_true]
  rcases mem_intercalate hc with hc | ⟨word, hword, hc⟩
  · exact Or.inr (by simpa using hc)
  · exact Or.inl (isAlphanum_of_isWordOf hletter (hwords word hword) c hc)

omit hletter in
theorem IsWordsOf.exists_cons {text : List Char} (h : IsWordsOf letter text) :
    ∃ first rest, text = first :: rest ∧ letter first = true := by
  obtain ⟨words, hne, hwords, rfl⟩ := h
  obtain ⟨word, others, rfl⟩ := List.exists_cons_of_ne_nil hne
  have hword := hwords word List.mem_cons_self
  cases word with
  | nil => cases hword
  | cons first rest =>
      obtain ⟨hfirst, -⟩ := isNameOf_cons.mp hword
      cases others with
      | nil => exact ⟨first, rest, List.intercalate_singleton, hfirst⟩
      | cons other others =>
          rw [List.intercalate_cons_of_ne_nil (List.cons_ne_nil _ _), List.append_assoc]
          exact ⟨first, _, rfl, hfirst⟩

end

/-! ### Reading words back -/

/-- A name cut in front of each of its capitals. -/
def cutAtCapitals (name : List Char) : List (List Char) :=
  name.splitBy fun _ next => !next.isUpper

/-- A word with one capital, which it begins with. -/
def isCapitalized : List Char → Bool := isNameOf Char.isUpper fun c => !c.isUpper

/-- The words that a name shows, with another case and joined by underscores. -/
def shownWords (recase : Char → Char) (name : List Char) : List Char :=
  ['_'].intercalate ((cutAtCapitals name).map (·.map recase))

theorem isChain_of_tail {rest : List Char} (h : ∀ c ∈ rest, c.isUpper = false) (first : Char) :
    (first :: rest).IsChain fun _ next => (!next.isUpper) = true := by
  induction rest generalizing first with
  | nil => exact .singleton first
  | cons c rest ih =>
      obtain ⟨hc, hrest⟩ := List.forall_mem_cons.mp h
      refine .cons_cons ?_ (ih hrest c)
      rw [hc]
      rfl

/-- A word without capitals behind its first character ends at the next capital. -/
theorem cutAtCapitals_append {first : Char} {word rest : List Char}
    (hword : ∀ c ∈ word, c.isUpper = false) (hrest : ∀ c ∈ rest.head?, c.isUpper = true) :
    cutAtCapitals (first :: word ++ rest) = (first :: word) :: cutAtCapitals rest := by
  have hcut : ∀ last ∈ (first :: word).getLast?, ∀ next ∈ rest.head?, (!next.isUpper) = false := by
    intro last _ next hnext
    rw [hrest next hnext]
    rfl
  rw [cutAtCapitals, List.splitBy_append hcut,
    List.splitBy_of_isChain (List.cons_ne_nil first word) (isChain_of_tail hword first)]
  rfl

section
variable {cased : List Char → List Char} {words : List (List Char)}

theorem isUpper_of_mem_head?_flatMap (h : ∀ word ∈ words, isCapitalized (cased word) = true) :
    ∀ c ∈ (words.flatMap cased).head?, c.isUpper = true := by
  cases words with
  | nil =>
      intro c hc
      cases hc
  | cons word others =>
      have hword := h word List.mem_cons_self
      rw [List.flatMap_cons]
      cases hcased : cased word with
      | nil =>
          rw [hcased] at hword
          cases hword
      | cons first rest =>
          rw [hcased] at hword
          intro c hc
          obtain rfl := Option.some.inj hc
          exact (isNameOf_cons.mp hword).1

/-- Words with one capital each are found again when they are joined. -/
theorem cutAtCapitals_flatMap (h : ∀ word ∈ words, isCapitalized (cased word) = true) :
    cutAtCapitals (words.flatMap cased) = words.map cased := by
  induction words with
  | nil => rfl
  | cons word others ih =>
      obtain ⟨hword, hothers⟩ := List.forall_mem_cons.mp h
      rw [List.flatMap_cons, List.map_cons]
      cases hcased : cased word with
      | nil =>
          rw [hcased] at hword
          cases hword
      | cons first rest =>
          rw [hcased] at hword
          obtain ⟨-, hrest⟩ := isNameOf_cons.mp hword
          rw [cutAtCapitals_append (fun c hc => by simpa using hrest c hc)
            (isUpper_of_mem_head?_flatMap hothers), ih hothers]

/-- What gives each item back gives back the list of them. -/
theorem map_map_of_forall {α β : Type} {change : α → β} {back : β → α} {items : List α}
    (h : ∀ a ∈ items, back (change a) = a) : (items.map change).map back = items := by
  rw [List.map_map]
  conv_rhs => rw [← List.map_id items]
  exact List.map_congr_left h

end

/-! ### Words in upper case -/

theorem toNat_lt_of_isAlphanum {c : Char} (h : c.isAlphanum = true) : c.toNat < 0x80 := by
  apply toNat_lt_of_isPlainChar
  rw [Text.isPlainChar, h, Bool.true_or]

theorem not_isLower {c : Char} (h : (c.isUpper || c.isDigit) = true) : ¬ c.isLower = true := by
  rcases (Bool.or_eq_true _ _).mp h with hupper | hdigit
  · exact Char.not_isLower_of_isUpper hupper
  · have hletter := Bool.or_eq_false_iff.mp (not_isAlpha_of_isDigit hdigit)
    exact Bool.eq_false_iff.mp hletter.2

theorem flatMap_lowerCase {word : List Char} (h : ∀ c ∈ word, c.isAlphanum = true) :
    word.flatMap lowerCase = word.map Char.toLower := by
  induction word with
  | nil => rfl
  | cons c word ih =>
      obtain ⟨hc, hword⟩ := List.forall_mem_cons.mp h
      rw [List.flatMap_cons, lowerCase_of_ascii (toNat_lt_of_isAlphanum hc), ih hword]
      rfl

/-- A word in upper case gets one capital, and raising all letters gives it back. -/
theorem capitalizeChars_of_isUpper {word : List Char} (h : isWordOf Char.isUpper word = true) :
    isCapitalized (capitalizeChars word) = true ∧
      (capitalizeChars word).map Char.toUpper = word := by
  have halphanum := isAlphanum_of_isWordOf isAlpha_of_isUpper h
  cases word with
  | nil => cases h
  | cons first rest =>
      obtain ⟨hfirst, hrest⟩ := isNameOf_cons.mp h
      obtain ⟨hfirstAscii, hrestAscii⟩ := List.forall_mem_cons.mp halphanum
      have hself : first.toUpper = first :=
        Char.toUpper_eq_of_not_isLower (not_isLower (by rw [hfirst, Bool.true_or]))
      rw [capitalizeChars, upperCase_of_ascii (toNat_lt_of_isAlphanum hfirstAscii), hself,
        flatMap_lowerCase hrestAscii, List.singleton_append]
      refine ⟨isNameOf_cons.mpr ⟨hfirst, ?_⟩, ?_⟩
      · rw [List.forall_mem_map]
        intro c _
        rw [Char.isUpper_toLower_eq_false]
        rfl
      · rw [List.map_cons, hself, map_map_of_forall]
        intro c hc
        rw [Char.toUpper_toLower_eq_toUpper]
        exact Char.toUpper_eq_of_not_isLower (not_isLower (hrest c hc))

/-- The words of a name in upper case are read back from its pascal case. -/
theorem shownWords_pascalChars {text : List Char} (h : IsWordsOf Char.isUpper text) :
    shownWords Char.toUpper (pascalChars text) = text := by
  obtain ⟨words, hne, hwords, rfl⟩ := h
  have hplain : ∀ word ∈ words, '_' ∉ word := fun word hword =>
    underscore_not_mem_of_isWordOf isAlpha_of_isUpper (hwords word hword)
  have hcased : ∀ word ∈ words, isCapitalized (capitalizeChars word) = true ∧
      (capitalizeChars word).map Char.toUpper = word := fun word hword =>
    capitalizeChars_of_isUpper (hwords word hword)
  rw [pascalChars_intercalate hne hplain, shownWords,
    cutAtCapitals_flatMap fun word hword => (hcased word hword).1,
    map_map_of_forall fun word hword => (hcased word hword).2]

/-- Different names of words in upper case stay different in pascal case. -/
theorem injOn_pascalChars : Set.InjOn pascalChars {text | IsWordsOf Char.isUpper text} := by
  have hback : Set.LeftInvOn (shownWords Char.toUpper) pascalChars
      {text | IsWordsOf Char.isUpper text} := fun _ htext => shownWords_pascalChars htext
  exact hback.injOn

/-! ### Words in lower case -/

theorem isAlpha_of_isLower (c : Char) (h : c.isLower = true) : c.isAlpha = true := by
  rw [Char.isAlpha, h, Bool.or_true]

theorem map_toLower_of_isLower {word : List Char}
    (h : ∀ c ∈ word, (c.isLower || c.isDigit) = true) : word.map Char.toLower = word := by
  conv_rhs => rw [← List.map_id word]
  apply List.map_congr_left
  intro c hc
  exact Char.toLower_eq_of_not_isUpper (not_isUpper (h c hc))

/-- A word in lower case gets one capital, and lowering all letters gives it back. -/
theorem raiseFirst_of_isLower {word : List Char} (h : isWordOf Char.isLower word = true) :
    isCapitalized (raiseFirst word) = true ∧ (raiseFirst word).map Char.toLower = word := by
  have halphanum := isAlphanum_of_isWordOf isAlpha_of_isLower h
  cases word with
  | nil => cases h
  | cons first rest =>
      obtain ⟨hfirst, hrest⟩ := isNameOf_cons.mp h
      rw [raiseFirst, upperCase_of_ascii (toNat_lt_of_isAlphanum (halphanum first
        List.mem_cons_self)), List.singleton_append]
      refine ⟨isNameOf_cons.mpr ⟨?_, fun c hc => ?_⟩, ?_⟩
      · rw [Char.isUpper_toUpper_eq_isAlpha]
        exact isAlpha_of_isLower first hfirst
      · rw [Bool.not_eq_true']
        exact Bool.eq_false_iff.mpr (not_isUpper (hrest c hc))
      · rw [List.map_cons, Char.toLower_toUpper_eq_toLower, map_toLower_of_isLower hrest]
        rw [Char.toLower_eq_of_not_isUpper (Char.not_isUpper_of_isLower hfirst)]

/-- The words of a name in lower case are read back from its camel case. -/
theorem shownWords_camelChars {text : List Char} (h : IsWordsOf Char.isLower text) :
    shownWords Char.toLower (camelChars text) = text := by
  obtain ⟨words, hne, hwords, rfl⟩ := h
  obtain ⟨word, others, rfl⟩ := List.exists_cons_of_ne_nil hne
  obtain ⟨hword, hothers⟩ := List.forall_mem_cons.mp hwords
  have hplain : ∀ other ∈ word :: others, '_' ∉ other := fun other hother =>
    underscore_not_mem_of_isWordOf isAlpha_of_isLower (hwords other hother)
  have hcased : ∀ other ∈ others, isCapitalized (raiseFirst other) = true ∧
      (raiseFirst other).map Char.toLower = other := fun other hother =>
    raiseFirst_of_isLower (hothers other hother)
  have hcapitals : ∀ other ∈ others, isCapitalized (raiseFirst other) = true :=
    fun other hother => (hcased other hother).1
  cases word with
  | nil => cases hword
  | cons first rest =>
      -- The first word keeps its lower case, so it is cut off before the others.
      obtain ⟨hfirst, hrest⟩ := isNameOf_cons.mp hword
      have hlower : ∀ c ∈ first :: rest, (c.isLower || c.isDigit) = true :=
        List.forall_mem_cons.mpr ⟨by rw [hfirst, Bool.true_or], hrest⟩
      rw [camelChars_intercalate hplain, shownWords,
        cutAtCapitals_append (fun c hc => Bool.eq_false_iff.mpr (not_isUpper (hrest c hc)))
          (isUpper_of_mem_head?_flatMap hcapitals), cutAtCapitals_flatMap hcapitals,
        List.map_cons, map_toLower_of_isLower hlower,
        map_map_of_forall fun other hother => (hcased other hother).2]

/-- Different names of words in lower case stay different in camel case. -/
theorem injOn_camelChars : Set.InjOn camelChars {text | IsWordsOf Char.isLower text} := by
  have hback : Set.LeftInvOn (shownWords Char.toLower) camelChars
      {text | IsWordsOf Char.isLower text} := fun _ htext => shownWords_camelChars htext
  exact hback.injOn

/-- The camel case of words in lower case begins with a lower-case letter and goes on with letters
and digits. -/
theorem isNameOf_camelChars {text : List Char} (h : IsWordsOf Char.isLower text) :
    isNameOf Char.isLower Char.isAlphanum (camelChars text) = true := by
  have hplain := isPlainChar_camelFrom false (h.isPlainChar isAlpha_of_isLower)
  have hunderscore := underscore_not_mem_camelFrom false text
  obtain ⟨first, rest, rfl, hfirst⟩ := h.exists_cons
  have hne : first ≠ '_' := by
    rintro rfl
    exact absurd hfirst (by decide)
  have hcons : camelFrom false (first :: rest) = first :: camelFrom false rest := by
    rw [camelFrom, if_neg hne]
    rfl
  rw [hcons] at hplain hunderscore
  rw [camelChars, hcons]
  refine isNameOf_cons.mpr ⟨hfirst, fun c hc => ?_⟩
  apply isAlphanum_of_isPlainChar (hplain c (List.mem_cons_of_mem first hc))
  rintro rfl
  exact hunderscore (List.mem_cons_of_mem first hc)

/-! ### Removing a prefix -/

/-- The first of the prefixes that a name starts with. -/
def matchingPrefix? (prefixes : List String) (name : String) : Option String :=
  prefixes.find? fun start => start.toList.isPrefixOf name.toList

/-- A name is the first prefix that it starts with, if there is one, and what is left without it. -/
theorem toList_eq_stripFirst (prefixes : List String) (name : String) :
    name.toList = ((matchingPrefix? prefixes name).getD "").toList
      ++ (stripFirst prefixes name).toList := by
  rw [stripFirst]
  induction prefixes with
  | nil => rfl
  | cons start rest ih =>
      rw [List.findSome?_cons, matchingPrefix?, List.find?_cons]
      cases hremainder : remainder? start.toList name.toList with
      | some behind =>
          have hname := remainder?_eq_some_iff.mp hremainder
          have hstart : start.toList.isPrefixOf name.toList = true :=
            List.isPrefixOf_iff_prefix.mpr ⟨behind, hname.symm⟩
          rw [hstart, Option.getD_some, String.toList_ofList]
          exact hname
      | none =>
          have hstart : start.toList.isPrefixOf name.toList = false := by
            rw [Bool.eq_false_iff]
            intro hfound
            obtain ⟨behind, hbehind⟩ := List.isPrefixOf_iff_prefix.mp hfound
            rw [remainder?_eq_some_iff.mpr hbehind.symm] at hremainder
            cases hremainder
          rw [hstart]
          exact ih

end Identifier

/-! ### Variants -/

namespace Enumeration
open Identifier

variable {enumeration sharedPrefix constant first second : String}

/-- A constant of the prefix and words in upper case behind it, each behind an underscore. -/
def IsWordConstant (sharedPrefix constant : String) : Prop :=
  ∃ text, constant.toList = sharedPrefix.toList ++ '_' :: text ∧ IsWordsOf Char.isUpper text

/-- The variant of such a constant is its words in pascal case, which need no quotes. -/
theorem variantName_of_words (enumeration : String) {text : List Char}
    (hconstant : constant.toList = sharedPrefix.toList ++ '_' :: text)
    (htext : IsWordsOf Char.isUpper text) :
    variantName enumeration sharedPrefix constant = .ok (String.ofList (pascalChars text)) ∧
      isNameOf Char.isUpper Char.isAlphanum (pascalChars text) = true := by
  obtain ⟨letter, rest, htextCons, hletter⟩ := htext.exists_cons
  have hunderscore : letter ≠ '_' := by
    rintro rfl
    exact absurd hletter (by decide)
  have hfirst : text.find? (· != '_') = some letter := by
    rw [htextCons, List.find?_cons_of_pos]
    exact bne_iff_ne.mpr hunderscore
  obtain ⟨-, more, hcased, hmore⟩ :=
    exists_pascalChars_of_plain (htext.isPlainChar isAlpha_of_isUpper) hfirst
  obtain ⟨hescape, hname⟩ := escape_of_letter (isAlpha_of_isUpper letter hletter) hmore
  rw [hcased]
  refine ⟨variantName_eq_ok_iff.mpr ⟨'_' :: text, hconstant, ⟨letter, ?_, hunderscore⟩, ?_⟩, hname⟩
  · rw [htextCons]
    exact List.mem_cons_of_mem _ List.mem_cons_self
  · rw [pascalChars_underscore_cons, hcased, hescape]

/-- Constants of one prefix and words in upper case have a variant each, which is a plain name
without underscores, and different constants have different variants. -/
theorem variantName_injective (hfirst : IsWordConstant sharedPrefix first)
    (hsecond : IsWordConstant sharedPrefix second) :
    (∀ constant ∈ [first, second], ∃ variant,
      variantName enumeration sharedPrefix constant = .ok variant ∧
        isPlain variant = true ∧ '_' ∉ variant.toList) ∧
    (variantName enumeration sharedPrefix first = variantName enumeration sharedPrefix second →
      first = second) := by
  have hvariant (constant : String) (h : IsWordConstant sharedPrefix constant) : ∃ variant,
      variantName enumeration sharedPrefix constant = .ok variant ∧
        isPlain variant = true ∧ '_' ∉ variant.toList := by
    obtain ⟨text, hconstant, htext⟩ := h
    obtain ⟨hok, hname⟩ := variantName_of_words enumeration hconstant htext
    rw [← String.toList_ofList (l := pascalChars text)] at hname
    refine ⟨_, hok, isPlain_of_isNameOf isAlpha_of_isUpper hname, ?_⟩
    rw [String.toList_ofList]
    exact underscore_not_mem_pascalChars text
  refine ⟨by simpa using ⟨hvariant first hfirst, hvariant second hsecond⟩, fun hsame => ?_⟩
  obtain ⟨text, hfirst, htext⟩ := hfirst
  obtain ⟨other, hsecond, hother⟩ := hsecond
  rw [(variantName_of_words enumeration hfirst htext).1,
    (variantName_of_words enumeration hsecond hother).1] at hsame
  have hwords := injOn_pascalChars htext hother (String.ofList_inj.mp (Except.ok.inj hsame))
  rw [← String.toList_inj, hfirst, hsecond, hwords]

/-- Two constants that differ in an underscore only. -/
theorem variantName_injective_underscore :
    IsWordConstant "GI" "GI_UNI_CHAR" ∧ IsWordConstant "GI" "GI_UNICHAR" ∧
      variantName "E" "GI" "GI_UNI_CHAR" ≠ variantName "E" "GI" "GI_UNICHAR" := by
  have hfirst : IsWordConstant "GI" "GI_UNI_CHAR" :=
    ⟨"UNI_CHAR".toList, by decide +kernel, ["UNI".toList, "CHAR".toList], by decide +kernel,
      by decide +kernel, by decide +kernel⟩
  have hsecond : IsWordConstant "GI" "GI_UNICHAR" :=
    ⟨"UNICHAR".toList, by decide +kernel, ["UNICHAR".toList], by decide +kernel,
      by decide +kernel, by decide +kernel⟩
  exact ⟨hfirst, hsecond, mt (variantName_injective hfirst hsecond).2 (by decide +kernel)⟩

end Enumeration

/-! ### Names of stubs -/

namespace Wrapper
open Identifier

variable {prefixes : List String} {function first second : String}

/-- A function of words in lower case, joined by single underscores, behind the first of the
prefixes that it starts with. -/
def IsWordFunction (prefixes : List String) (function : String) : Prop :=
  ∃ text, function.toList = ((matchingPrefix? prefixes function).getD "").toList ++ text ∧
    IsWordsOf Char.isLower text

theorem name_of_words {text : List Char}
    (hfunction : function.toList = ((matchingPrefix? prefixes function).getD "").toList ++ text) :
    (name prefixes function).toList = camelChars text := by
  have hleft := toList_eq_stripFirst prefixes function
  rw [hfunction] at hleft
  rw [name, camelCase, String.toList_ofList, ← List.append_cancel_left hleft]

/-- Functions of words in lower case behind the same prefix have stub names that are plain, without
underscores and with a lower-case letter in front, and different functions have different ones. -/
theorem name_injective (hmatching : matchingPrefix? prefixes first = matchingPrefix? prefixes second)
    (hfirst : IsWordFunction prefixes first) (hsecond : IsWordFunction prefixes second) :
    (∀ function ∈ [first, second], isPlain (name prefixes function) = true ∧
      '_' ∉ (name prefixes function).toList ∧
      isNameOf Char.isLower Char.isAlphanum (name prefixes function).toList = true) ∧
    (name prefixes first = name prefixes second → first = second) := by
  have hname (function : String) (h : IsWordFunction prefixes function) :
      isPlain (name prefixes function) = true ∧ '_' ∉ (name prefixes function).toList ∧
        isNameOf Char.isLower Char.isAlphanum (name prefixes function).toList = true := by
    obtain ⟨text, hfunction, htext⟩ := h
    have hlower := isNameOf_camelChars htext
    rw [← name_of_words hfunction] at hlower
    refine ⟨isPlain_of_isNameOf isAlpha_of_isLower hlower, ?_, hlower⟩
    rw [name_of_words hfunction]
    exact underscore_not_mem_camelFrom false text
  refine ⟨by simpa using ⟨hname first hfirst, hname second hsecond⟩, fun hsame => ?_⟩
  obtain ⟨text, hfirst, htext⟩ := hfirst
  obtain ⟨other, hsecond, hother⟩ := hsecond
  have hcased : camelChars text = camelChars other := by
    rw [← name_of_words hfirst, ← name_of_words hsecond, hsame]
  rw [← String.toList_inj, hfirst, hsecond, hmatching, injOn_camelChars htext hother hcased]

/-- Two functions from which the empty prefix is removed, since it comes before one that they start
with. -/
theorem name_injective_empty_prefix :
    let prefixes := ["gtk_", "", "g_"]
    matchingPrefix? prefixes "g_get_user" = matchingPrefix? prefixes "g_getuser" ∧
      IsWordFunction prefixes "g_get_user" ∧ IsWordFunction prefixes "g_getuser" ∧
      isPlain (name prefixes "g_get_user") = true ∧
      name prefixes "g_get_user" ≠ name prefixes "g_getuser" := by
  intro prefixes
  have hmatching : matchingPrefix? prefixes "g_get_user" = matchingPrefix? prefixes "g_getuser" := by
    decide +kernel
  have hfirst : IsWordFunction prefixes "g_get_user" :=
    ⟨"g_get_user".toList, by decide +kernel, ["g".toList, "get".toList, "user".toList],
      by decide +kernel, by decide +kernel, by decide +kernel⟩
  have hsecond : IsWordFunction prefixes "g_getuser" :=
    ⟨"g_getuser".toList, by decide +kernel, ["g".toList, "getuser".toList],
      by decide +kernel, by decide +kernel, by decide +kernel⟩
  obtain ⟨hnames, hinjective⟩ := name_injective hmatching hfirst hsecond
  refine ⟨hmatching, hfirst, hsecond, (hnames _ List.mem_cons_self).1, ?_⟩
  exact mt hinjective (by decide +kernel)

end Wrapper

end HeaderBindings
