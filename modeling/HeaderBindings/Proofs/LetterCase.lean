import HeaderBindings.Text.LetterCase
import Mathlib

/-!
The case maps on characters of every kind. Each character has an upper case of at least one
character, and an ASCII character that comes out of a case map is a letter or the very character
that was put in, so no letter turns into a digit, an underscore or a mark.
-/

namespace HeaderBindings.Text

/-! ### The tables -/

/-- A run has one ASCII letter as its target, or only characters beyond ASCII. -/
def CaseRun.KeepsToLetters (run : CaseRun) : Prop :=
  (run.first = run.last ∧ (Char.ofNat run.target).isAlpha = true) ∨
    (0x80 ≤ run.target ∧ (run.target + (run.last - run.first) < 0xD800 ∨
      (0xDFFF < run.target ∧ run.target + (run.last - run.first) < 0x110000)))

instance : DecidablePred CaseRun.KeepsToLetters := fun _ => inferInstanceAs (Decidable (_ ∨ _))

theorem CaseRun.isAlpha_of_image? {run : CaseRun} (hrun : run.KeepsToLetters) {code image : Nat}
    (h : run.image? code = some image) (hascii : (Char.ofNat image).toNat < 0x80) :
    (Char.ofNat image).isAlpha = true := by
  rw [CaseRun.image?] at h
  split at h
  case isFalse => cases h
  case isTrue hlisted =>
    obtain ⟨hfirst, hlast, -⟩ := hlisted
    obtain rfl := Option.some.inj h
    rcases hrun with ⟨honly, htarget⟩ | ⟨htarget, hvalid⟩
    · have hsame : code - run.first = 0 := by omega
      rwa [hsame, Nat.add_zero]
    · have himage : (run.target + (code - run.first)).isValidChar := by
        rcases hvalid with hvalid | ⟨hlow, hhigh⟩
        · exact Or.inl (by omega)
        · exact Or.inr ⟨by omega, by omega⟩
      rw [Char.toNat_ofNat, if_pos himage] at hascii
      omega

section
variable {expansions : List (Nat × List Nat)} {runs : List CaseRun}

theorem tabulatedCase_ne_nil (hexpansions : ∀ entry ∈ expansions, entry.2 ≠ []) (c : Char) :
    tabulatedCase expansions runs c ≠ [] := by
  rw [tabulatedCase]
  split
  case h_1 codes hlookup =>
    obtain ⟨before, after, hsplit, -⟩ := List.lookup_eq_some_iff.mp hlookup
    have hcodes : codes ≠ [] :=
      hexpansions (c.toNat, codes) (hsplit ▸ List.mem_append_right _ List.mem_cons_self)
    exact mt List.map_eq_nil_iff.mp hcodes
  case h_2 => split <;> exact List.cons_ne_nil _ _

theorem isAlpha_of_mem_tabulatedCase
    (hexpansions : ∀ entry ∈ expansions, ∀ code ∈ entry.2,
      (Char.ofNat code).toNat < 0x80 → (Char.ofNat code).isAlpha = true)
    (hruns : ∀ run ∈ runs, run.KeepsToLetters) {c d : Char}
    (h : d ∈ tabulatedCase expansions runs c) (hascii : d.toNat < 0x80) :
    d.isAlpha = true ∨ d = c := by
  rw [tabulatedCase] at h
  split at h
  case h_1 codes hlookup =>
    obtain ⟨before, after, hsplit, -⟩ := List.lookup_eq_some_iff.mp hlookup
    obtain ⟨code, hcode, rfl⟩ := List.mem_map.mp h
    have hentry : (c.toNat, codes) ∈ expansions :=
      hsplit ▸ List.mem_append_right _ List.mem_cons_self
    exact Or.inl (hexpansions _ hentry code hcode hascii)
  case h_2 =>
    split at h
    case h_1 image hfound =>
      obtain ⟨run, hrun, himage⟩ := List.exists_of_findSome?_eq_some hfound
      obtain rfl := List.mem_singleton.mp h
      exact Or.inl (CaseRun.isAlpha_of_image? (hruns run hrun) himage hascii)
    case h_2 => exact Or.inr (List.mem_singleton.mp h)

/-- A case map that changes only letters of ASCII, and other characters by tables that keep to
letters. -/
theorem isAlpha_of_mem_case {change : Char → Char}
    (hchange : ∀ c, (change c).isAlpha = true ∨ change c = c)
    (hexpansions : ∀ entry ∈ expansions, ∀ code ∈ entry.2,
      (Char.ofNat code).toNat < 0x80 → (Char.ofNat code).isAlpha = true)
    (hruns : ∀ run ∈ runs, run.KeepsToLetters) {c d : Char}
    (h : d ∈ if c.toNat < 0x80 then [change c] else tabulatedCase expansions runs c)
    (hascii : d.toNat < 0x80) : d.isAlpha = true ∨ d = c := by
  split at h
  · obtain rfl := List.mem_singleton.mp h
    exact hchange c
  · exact isAlpha_of_mem_tabulatedCase hexpansions hruns h hascii

end

/-! ### Upper and lower case -/

theorem not_isAlpha_of_isDigit {c : Char} (h : c.isDigit = true) : c.isAlpha = false := by
  simp only [Char.isDigit, Char.isAlpha, Char.isUpper, Char.isLower, ge_iff_le,
    UInt32.le_iff_toNat_le, Bool.and_eq_true, decide_eq_true_eq, Bool.or_eq_false_iff,
    Bool.and_eq_false_iff, decide_eq_false_iff_not] at h ⊢
  have h9 : '9'.val.toNat = 57 := rfl
  have hA : 'A'.val.toNat = 65 := rfl
  have ha : 'a'.val.toNat = 97 := rfl
  omega

theorem not_isUpper {c : Char} (h : (c.isLower || c.isDigit) = true) : ¬ c.isUpper = true := by
  rcases (Bool.or_eq_true _ _).mp h with hlower | hdigit
  · exact Char.not_isUpper_of_isLower hlower
  · have hletter := Bool.or_eq_false_iff.mp (not_isAlpha_of_isDigit hdigit)
    exact Bool.eq_false_iff.mp hletter.1

theorem upperCase_ne_nil (c : Char) : upperCase c ≠ [] := by
  have hexpansions : ∀ entry ∈ upperExpansions, entry.2 ≠ [] := by decide +kernel
  rw [upperCase]
  split
  · exact List.cons_ne_nil _ _
  · exact tabulatedCase_ne_nil hexpansions c

theorem isAlpha_of_mem_upperCase {c d : Char} (h : d ∈ upperCase c) (hascii : d.toNat < 0x80) :
    d.isAlpha = true ∨ d = c := by
  have hchange (c : Char) : c.toUpper.isAlpha = true ∨ c.toUpper = c := by
    by_cases hlower : c.isLower = true
    · left
      rw [Char.isAlpha_toUpper_eq_isAlpha, Char.isAlpha, hlower, Bool.or_true]
    · exact Or.inr (Char.toUpper_eq_of_not_isLower hlower)
  exact isAlpha_of_mem_case hchange (by decide +kernel) (by decide +kernel) h hascii

theorem isAlpha_of_mem_lowerCase {c d : Char} (h : d ∈ lowerCase c) (hascii : d.toNat < 0x80) :
    d.isAlpha = true ∨ d = c := by
  have hchange (c : Char) : c.toLower.isAlpha = true ∨ c.toLower = c := by
    by_cases hupper : c.isUpper = true
    · left
      rw [Char.isAlpha_toLower_eq_isAlpha, Char.isAlpha, hupper, Bool.true_or]
    · exact Or.inr (Char.toLower_eq_of_not_isUpper hupper)
  exact isAlpha_of_mem_case hchange (by decide +kernel) (by decide +kernel) h hascii

end HeaderBindings.Text
