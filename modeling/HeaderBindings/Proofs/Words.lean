import HeaderBindings.Identifier
import HeaderBindings.Source.Keywords
import HeaderBindings.Text.Blank
import Mathlib.Data.List.TakeWhile

/-!
Words of ASCII letters, digits and underscores, and what stands between them. Such a character
belongs to a word in every sense that reading knows, and a blank belongs to none. Trimming takes the
blanks around a text off and nothing else. A text changed word by word is changed piece by piece, as
long as no two pieces join to one word.
-/

namespace HeaderBindings.Text

theorem toNat_lt_of_isPlainChar {c : Char} (h : isPlainChar c = true) : c.toNat < 0x80 := by
  have hranges : isPlainChar c = (((decide ('A'.val ≤ c.val ∧ c.val ≤ 'Z'.val)
      || (decide ('a'.val ≤ c.val) && decide (c.val ≤ 'z'.val)))
      || (decide ('0'.val ≤ c.val) && decide (c.val ≤ '9'.val))) || c == '_') := rfl
  rw [hranges] at h
  simp only [Bool.or_eq_true, Bool.and_eq_true, decide_eq_true_eq, beq_iff_eq,
    UInt32.le_iff_toNat_le] at h
  rcases h with ((⟨-, h⟩ | ⟨-, h⟩) | ⟨-, h⟩) | rfl
  · exact Nat.lt_of_le_of_lt h (by decide)
  · exact Nat.lt_of_le_of_lt h (by decide)
  · exact Nat.lt_of_le_of_lt h (by decide)
  · decide

theorem isDigit_of_mem_toString {number : Nat} {c : Char} (h : c ∈ (toString number).toList) :
    c.isDigit = true :=
  Nat.isDigit_of_mem_toDigits (b := 10) (by decide) (by decide) (by simpa using h)

theorem isWordChar_of_isPlainChar {c : Char} (h : isPlainChar c = true) : isWordChar c = true := by
  rw [isWordChar_eq_isPlainChar (toNat_lt_of_isPlainChar h), h]

theorem isNameChar_of_isPlainChar {c : Char} (h : isPlainChar c = true) : isNameChar c = true := by
  rw [isNameChar_eq_isPlainChar (toNat_lt_of_isPlainChar h), h]

/-- The code points of blanks. -/
def blankCodes : List Nat :=
  [0x9, 0xA, 0xB, 0xC, 0xD, 0x20, 0x85, 0xA0, 0x1680, 0x2000, 0x2001, 0x2002, 0x2003, 0x2004,
   0x2005, 0x2006, 0x2007, 0x2008, 0x2009, 0x200A, 0x2028, 0x2029, 0x202F, 0x205F, 0x3000]

theorem mem_blankCodes_of_isBlank {c : Char} (h : isBlank c = true) : c.toNat ∈ blankCodes := by
  simp only [isBlank, withinBoundaries, insideFrom, Bool.not_false, Bool.not_true,
    Bool.if_false_left, Bool.if_true_left, Bool.and_eq_true, Bool.or_eq_true, Bool.not_eq_true',
    decide_eq_false_iff_not, decide_eq_true_eq, Bool.false_eq_true, or_false] at h
  simp only [blankCodes, List.mem_cons, List.not_mem_nil, or_false]
  omega

/-- What holds of the characters with the code points of blanks holds of all blanks. -/
theorem forall_isBlank {p : Char → Bool} (h : ∀ code ∈ blankCodes, p (Char.ofNat code) = true)
    {c : Char} (hc : isBlank c = true) : p c = true := by
  have hcode := h _ (mem_blankCodes_of_isBlank hc)
  rwa [Char.ofNat_toNat] at hcode

theorem isWordChar_of_isBlank {c : Char} (h : isBlank c = true) : isWordChar c = false := by
  simpa using forall_isBlank (p := fun c => !isWordChar c) (by decide +kernel) h

theorem isNameChar_of_isBlank {c : Char} (h : isBlank c = true) : isNameChar c = false := by
  simpa using forall_isBlank (p := fun c => !isNameChar c) (by decide +kernel) h

theorem isBlank_of_isPlainChar {c : Char} (h : isPlainChar c = true) : isBlank c = false := by
  rw [Bool.eq_false_iff]
  intro hblank
  have hword := isWordChar_of_isBlank hblank
  rw [isWordChar_of_isPlainChar h] at hword
  cases hword

/-! ### Blanks around a text -/

theorem trim_append_blanks (text : List Char) {blanks : List Char}
    (hblanks : ∀ c ∈ blanks, isBlank c = true) : trim (text ++ blanks) = trim text := by
  have htrail (front : List Char) : trimEnd (front ++ blanks) = trimEnd front := by
    rw [trimEnd, trimStart, List.reverse_append, List.dropWhile_append_of_pos]
    · rfl
    · simpa using hblanks
  have hnone : blanks.dropWhile isBlank = [] := List.dropWhile_eq_nil_iff.mpr hblanks
  rw [trim, trimStart, List.dropWhile_append, hnone]
  split
  case isTrue hempty =>
    rw [trim, trimStart, List.isEmpty_iff.mp hempty]
  case isFalse => exact htrail _

theorem trim_blanks_append {blanks : List Char} (hblanks : ∀ c ∈ blanks, isBlank c = true)
    (text : List Char) : trim (blanks ++ text) = trim text := by
  rw [trim, trimStart, List.dropWhile_append_of_pos hblanks]
  rfl

theorem exists_blanks_trim (text : List Char) :
    ∃ lead trail, text = lead ++ (trim text ++ trail) ∧ (∀ c ∈ lead, isBlank c = true) ∧
      ∀ c ∈ trail, isBlank c = true := by
  refine ⟨text.takeWhile isBlank, ((trimStart text).reverse.takeWhile isBlank).reverse, ?_,
    fun c hmem => List.all_eq_true.mp List.all_takeWhile c hmem,
    fun c hmem => List.all_eq_true.mp List.all_takeWhile c (List.mem_reverse.mp hmem)⟩
  have hend : trim text ++ ((trimStart text).reverse.takeWhile isBlank).reverse
      = trimStart text := by
    rw [trim, trimEnd, trimStart, ← List.reverse_append, List.takeWhile_append_dropWhile,
      List.reverse_reverse]
  rw [hend, trimStart, List.takeWhile_append_dropWhile]

theorem trim_trim (text : List Char) : trim (trim text) = trim text := by
  obtain ⟨lead, trail, htext, hlead, htrail⟩ := exists_blanks_trim text
  calc
    trim (trim text) = trim (trim text ++ trail) := (trim_append_blanks _ htrail).symm
    _ = trim (lead ++ (trim text ++ trail)) := (trim_blanks_append hlead _).symm
    _ = trim text := by rw [← htext]

end HeaderBindings.Text

namespace HeaderBindings.Source
open Text

/-- A word in front of the text ends there. -/
def WordEnds (text : List Char) : Prop :=
  ∀ c ∈ text.head?, isWordChar c = false ∧ isNameChar c = false

@[simp] theorem wordEnds_nil : WordEnds [] := by simp [WordEnds]

theorem wordEnds_cons {c : Char} {rest : List Char} :
    WordEnds (c :: rest) ↔ isWordChar c = false ∧ isNameChar c = false := by simp [WordEnds]

theorem wordEnds_of_isBlank {c : Char} (h : isBlank c = true) (rest : List Char) :
    WordEnds (c :: rest) := wordEnds_cons.mpr ⟨isWordChar_of_isBlank h, isNameChar_of_isBlank h⟩

theorem WordEnds.isWordChar {text : List Char} (h : WordEnds text) :
    ∀ c ∈ text.head?, isWordChar c = false := fun c hc => (h c hc).1

theorem WordEnds.append {front back : List Char} (hfront : WordEnds front) (hback : WordEnds back) :
    WordEnds (front ++ back) := by
  cases front with
  | nil => exact hback
  | cons c front => exact wordEnds_cons.mpr (wordEnds_cons.mp hfront)

theorem WordEnds.of_append {front back : List Char} (h : WordEnds (front ++ back)) :
    WordEnds front := by
  cases front with
  | nil => exact wordEnds_nil
  | cons c front => exact wordEnds_cons.mpr (wordEnds_cons.mp h)

/-! ### Changing words -/

theorem mapWordsFrom_append (f : List Char → List Char) (pending : List Char) {word : List Char}
    (hword : ∀ c ∈ word, isWordChar c = true) (rest : List Char) :
    mapWordsFrom f pending (word ++ rest) = mapWordsFrom f (word.reverse ++ pending) rest := by
  induction word generalizing pending with
  | nil => rfl
  | cons c word ih =>
      have hc := hword c List.mem_cons_self
      rw [List.cons_append, mapWordsFrom, if_pos hc,
        ih _ fun d hd => hword d (List.mem_cons_of_mem c hd), List.reverse_cons, List.append_assoc,
        List.singleton_append]

/-- A character between words stays. -/
theorem mapWords_cons (f : List Char → List Char) {c : Char} (hc : isWordChar c = false)
    (rest : List Char) : mapWords f (c :: rest) = c :: mapWords f rest := by
  rw [mapWords, mapWordsFrom, if_neg (by simp [hc])]
  rfl

theorem mapWords_blanks (f : List Char → List Char) {text : List Char}
    (h : ∀ c ∈ text, isBlank c = true) (rest : List Char) :
    mapWords f (text ++ rest) = text ++ mapWords f rest := by
  induction text with
  | nil => rfl
  | cons c text ih =>
      rw [List.cons_append, mapWords_cons f (isWordChar_of_isBlank (h c List.mem_cons_self)),
        ih fun d hd => h d (List.mem_cons_of_mem c hd), List.cons_append]

/-- A word is changed as a whole. -/
theorem mapWords_append (f : List Char → List Char) {word rest : List Char} (hne : word ≠ [])
    (hword : ∀ c ∈ word, isWordChar c = true) (hrest : WordEnds rest) :
    mapWords f (word ++ rest) = f word ++ mapWords f rest := by
  have hpending : (word.reverse ++ []).isEmpty = false := by simp [hne]
  rw [mapWords, mapWordsFrom_append f [] hword]
  cases rest with
  | nil => simp [mapWordsFrom, mapWords, hne]
  | cons c rest =>
      have hc := (wordEnds_cons.mp hrest).1
      rw [mapWordsFrom, if_neg (by simp [hc]), hpending, mapWords_cons f hc]
      simp [mapWords]

end HeaderBindings.Source
