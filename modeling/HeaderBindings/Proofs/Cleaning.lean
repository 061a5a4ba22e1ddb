import HeaderBindings.Proofs.Extensions
import HeaderBindings.Proofs.Fragments
import HeaderBindings.Proofs.Scanning
import Mathlib.Data.List.Chain

/-!
Cleaning a text part by part. A mark that is no blank and belongs to no word separates the parts: in
front of it and behind it words and blanks are changed on their own, and the marks themselves stay.
A text without number signs, literals, comments and calls has nothing else changed.
-/

namespace HeaderBindings.Source
open Text

/-! ### Words and blanks -/

/-- The text with the words as they are read and single spaces between them. -/
def plainText (text : List Char) : List Char := collapseBlanks (mapWords plainWord text)

theorem mapWordsFrom_append_cons (f : List Char → List Char) {c : Char}
    (hc : isWordChar c = false) (word text more : List Char) :
    mapWordsFrom f word (text ++ c :: more)
      = mapWordsFrom f word text ++ c :: mapWords f more := by
  induction text generalizing word with
  | nil => rw [List.nil_append, mapWordsFrom, mapWordsFrom, if_neg (by simp [hc]), mapWords]
  | cons d text ih =>
      rw [List.cons_append, mapWordsFrom, mapWordsFrom]
      split
      · exact ih _
      · rw [ih, List.append_assoc, List.cons_append]

theorem collapseFrom_append_cons {c : Char} (hc : isBlank c = false) (afterBlank : Bool)
    (text more : List Char) :
    collapseFrom afterBlank (text ++ c :: more)
      = collapseFrom afterBlank text ++ c :: collapseBlanks more := by
  induction text generalizing afterBlank with
  | nil =>
      rw [List.nil_append, collapseFrom, collapseFrom, if_neg (by simp [hc]), collapseBlanks]
      rfl
  | cons d text ih =>
      rw [List.cons_append, collapseFrom, collapseFrom]
      split
      · split
        · exact ih _
        · rw [ih, List.cons_append]
      · rw [ih, List.cons_append]

theorem eq_space_of_mem_collapseFrom {afterBlank : Bool} {text : List Char} {c : Char}
    (hmem : c ∈ collapseFrom afterBlank text) (hc : isBlank c = true) : c = ' ' := by
  induction text generalizing afterBlank with
  | nil => simp [collapseFrom] at hmem
  | cons d text ih =>
      rw [collapseFrom] at hmem
      split at hmem
      · split at hmem
        · exact ih hmem
        · rcases List.mem_cons.mp hmem with hspace | hmem
          · exact hspace
          · exact ih hmem
      case isFalse hd =>
        rcases List.mem_cons.mp hmem with rfl | hmem
        · exact absurd hc hd
        · exact ih hmem

/-- A mark stays, and the texts around it are changed on their own. -/
theorem plainText_append_cons {c : Char} (hword : isWordChar c = false) (hblank : isBlank c = false)
    (text more : List Char) :
    plainText (text ++ c :: more) = plainText text ++ c :: plainText more := by
  rw [plainText, mapWords, mapWordsFrom_append_cons _ hword, collapseBlanks,
    collapseFrom_append_cons hblank]
  rfl

section
variable {p : Char → Bool} (hword : ∀ c, isWordChar c = true → p c = false)
  (hblank : ∀ c, isBlank c = true → p c = false)
include hword hblank

theorem filter_plainWord {word : List Char} (h : ∀ c ∈ word, isWordChar c = true) :
    (plainWord word).filter p = [] := by
  have hnone {word : List Char} (h : ∀ c ∈ word, isWordChar c = true) : word.filter p = [] :=
    List.filter_eq_nil_iff.mpr fun c hmem => by simp [hword c (h c hmem)]
  rw [plainWord]
  split
  · simp [hblank ' ' (by decide)]
  · split
    · have hconst : "const".toList.all isWordChar = true := by decide +kernel
      exact hnone (List.all_eq_true.mp hconst)
    · exact hnone h

theorem filter_mapWordsFrom {word : List Char} (h : ∀ c ∈ word, isWordChar c = true)
    (text : List Char) : (mapWordsFrom plainWord word text).filter p = text.filter p := by
  have hchanged {word : List Char} (h : ∀ c ∈ word, isWordChar c = true) :
      (if word.isEmpty then [] else plainWord word.reverse).filter p = [] := by
    split
    · rfl
    · exact filter_plainWord hword hblank (by simpa using h)
  induction text generalizing word with
  | nil => rw [mapWordsFrom, hchanged h, List.filter_nil]
  | cons c text ih =>
      rw [mapWordsFrom]
      split
      case isTrue hc =>
        rw [ih (List.forall_mem_cons.mpr ⟨hc, h⟩), List.filter_cons_of_neg (by simp [hword c hc])]
      case isFalse =>
        rw [List.filter_append, hchanged h, List.nil_append, List.filter_cons, List.filter_cons,
          ih (by simp)]

omit hword in
theorem filter_collapseFrom (afterBlank : Bool) (text : List Char) :
    (collapseFrom afterBlank text).filter p = text.filter p := by
  induction text generalizing afterBlank with
  | nil => rfl
  | cons c text ih =>
      rw [collapseFrom]
      split
      case isTrue hc =>
        have hdropped : (c :: text).filter p = text.filter p :=
          List.filter_cons_of_neg (by simp [hblank c hc])
        split
        · rw [ih, hdropped]
        · rw [List.filter_cons_of_neg (by simp [hblank ' ' (by decide)]), ih, hdropped]
      case isFalse => rw [List.filter_cons, List.filter_cons, ih]

/-- The marks of a text stay, in order. -/
theorem filter_plainText (text : List Char) : (plainText text).filter p = text.filter p := by
  rw [plainText, collapseBlanks, filter_collapseFrom hblank, mapWords,
    filter_mapWordsFrom hword hblank (by simp)]

end

theorem mem_plainText_iff {c : Char} (hword : isWordChar c = false) (hblank : isBlank c = false)
    {text : List Char} : c ∈ plainText text ↔ c ∈ text := by
  have hother {q : Char → Bool} (hc : q c = false) (d : Char) (hd : q d = true) :
      (d == c) = false := by
    rw [beq_eq_false_iff_ne]
    rintro rfl
    simp [hc] at hd
  have hfilter := filter_plainText (hother hword) (hother hblank) text
  have hmem (text : List Char) : c ∈ text ↔ c ∈ text.filter (· == c) := by simp
  rw [hmem, hfilter, ← hmem]

theorem isQuote_plainText {text : List Char} (h : ∀ c ∈ text, isQuote c = false) :
    ∀ c ∈ plainText text, isQuote c = false := by
  intro c hmem
  by_contra hquote
  have hc : c = '"' ∨ c = '\'' := by
    rw [Bool.not_eq_false, isQuote, Bool.or_eq_true, beq_iff_eq, beq_iff_eq] at hquote
    exact hquote
  have hkept : c ∈ text := by
    rcases hc with rfl | rfl
    · exact (mem_plainText_iff (by decide +kernel) (by decide)).mp hmem
    · exact (mem_plainText_iff (by decide +kernel) (by decide)).mp hmem
  exact hquote (h c hkept)

/-! ### Texts in which only words and blanks are changed -/

/-- A text without number signs, literals, comments and calls. -/
structure IsBare (text : List Char) : Prop where
  sign : '#' ∉ text
  string : '"' ∉ text
  character : '\'' ∉ text
  comment : text.IsChain fun c d => c = '/' → d ≠ '/' ∧ d ≠ '*'
  call : firstCall? text = none

instance (text : List Char) : Decidable (IsBare text) :=
  decidable_of_iff ('#' ∉ text ∧ '"' ∉ text ∧ '\'' ∉ text ∧
      (text.IsChain fun c d => c = '/' → d ≠ '/' ∧ d ≠ '*') ∧ firstCall? text = none)
    ⟨fun ⟨sign, string, character, comment, call⟩ => ⟨sign, string, character, comment, call⟩,
      fun h => ⟨h.sign, h.string, h.character, h.comment, h.call⟩⟩

/-- Characters that start no marker, no comment and no literal fit anywhere in code. -/
theorem wellPlaced_chars {line : LineState} (hline : line ≠ .marked) {text : List Char}
    (hsign : '#' ∉ text) (hquote : ∀ c ∈ text, isQuote c = false)
    (hcomment : text.IsChain fun c d => c = '/' → d ≠ '/' ∧ d ≠ '*') :
    WellPlaced line .code (text.map .char) := by
  induction text generalizing line with
  | nil => trivial
  | cons c text ih =>
      obtain ⟨hc, hsign⟩ := not_or.mp (mt List.mem_cons.mpr hsign)
      obtain ⟨hcode, hquote⟩ := List.forall_mem_cons.mp hquote
      obtain ⟨hslash, hcomment⟩ := List.isChain_cons.mp hcomment
      have hnext : line.step c ≠ .marked := by
        rw [LineState.step]
        split
        · simp
        · split <;> simp
      have hafter : (Fragment.char c).quotingAfter .code = .code := by
        simp [Fragment.quotingAfter, Quoting.step, hcode]
      refine ⟨⟨fun hmarked => absurd hmarked hline, fun h => absurd h.symm hc, fun _ hc => ?_⟩, ?_⟩
      · intro fragment hmem
        rw [List.head?_map] at hmem
        obtain ⟨d, hd, rfl⟩ := Option.map_eq_some_iff.mp hmem
        simpa [Fragment.touchesSlash] using hslash d hd hc
      · rw [hafter]
        exact ih hnext hsign hquote hcomment

namespace IsBare
variable {text : List Char}

theorem isQuote_eq_false (h : IsBare text) : ∀ c ∈ text, isQuote c = false := by
  intro c hmem
  rw [isQuote, Bool.or_eq_false_iff, beq_eq_false_iff_ne, beq_eq_false_iff_ne]
  refine ⟨?_, ?_⟩
  · rintro rfl
    exact h.string hmem
  · rintro rfl
    exact h.character hmem

theorem dropComments_blankMarkers (h : IsBare text) : dropComments (blankMarkers text) = text := by
  have hplaced : WellPlaced .start .code (text.map .char) :=
    wellPlaced_chars (by simp) h.sign h.isQuote_eq_false h.comment
  simpa using dropComments_fragments hplaced

theorem append {front back : List Char} (hfront : IsBare (front ++ ['\x7d']))
    (hback : IsBare back) : IsBare (front ++ '\x7d' :: back) := by
  have hsplit : front ++ '\x7d' :: back = front ++ ['\x7d'] ++ back := by simp
  have hword : isWordChar '\x7d' = false := by decide +kernel
  have hblank : isBlank '\x7d' = false := by decide
  have hnone : firstCall? front = none := by
    have hcall := hfront.call
    rw [firstCall?, firstCallFrom_append_cons hword hblank (by decide), ← firstCall?] at hcall
    cases hfirst : firstCall? front with
    | none => rfl
    | some cut => simp [hfirst] at hcall
  have hnot {c : Char} (h : c ∉ front ++ ['\x7d']) (h' : c ∉ back) :
      c ∉ front ++ '\x7d' :: back := by
    rw [hsplit, List.mem_append, not_or]
    exact ⟨h, h'⟩
  refine ⟨hnot hfront.sign hback.sign, hnot hfront.string hback.string,
    hnot hfront.character hback.character, ?_, ?_⟩
  · rw [hsplit, List.isChain_append]
    refine ⟨hfront.comment, hback.comment, ?_⟩
    simp
  · rw [firstCall?, firstCallFrom_append_cons hword hblank (by decide), ← firstCall?, hnone]
    simp [hback.call]

theorem value_dropExtensions (h : IsBare text) : (dropExtensions text).value = text := by
  rw [Source.value_dropExtensions, h.call]

end IsBare

/-! ### Reading what is left -/

theorem value_clean (source : List Char) : (clean source).value
    = trim (plainText (dropExtensions (dropComments (blankMarkers source))).value) := rfl

theorem value_readHeader (filter : NameFilter) (source : String) :
    (readHeader filter source).value = (readStatements filter (statementsFrom {}
      (plainText (dropExtensions (dropComments (blankMarkers source.toList))).value))).value := by
  rw [readHeader, Logged.value_bind, value_clean, statements, value_readStatements_filter,
    StatementScan.statementsFrom_trim]

namespace IsBare

theorem value_clean {text : List Char} (h : IsBare text) :
    (clean text).value = trim (plainText text) := by
  rw [Source.value_clean, h.dropComments_blankMarkers, h.value_dropExtensions]

theorem value_readHeader {source : String} (h : IsBare source.toList) (filter : NameFilter) :
    (readHeader filter source).value
      = (readStatements filter (statementsFrom {} (plainText source.toList))).value := by
  rw [Source.value_readHeader, h.dropComments_blankMarkers, h.value_dropExtensions]

end IsBare

end HeaderBindings.Source
