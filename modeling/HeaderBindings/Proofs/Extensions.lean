import HeaderBindings.Proofs.PairedTexts
import HeaderBindings.Proofs.Words
import HeaderBindings.Source.Extensions

/-!
Taking extension calls out of a text that is read in pieces. Pieces in front of which no call begins
stay, and a call goes with its list, whatever stands in the list, as long as its literals are closed
and its parentheses are balanced outside them.
-/

namespace HeaderBindings.Source
open Text

/-! ### Lists -/

/-- The list of a call ends with the parenthesis behind its paired text. -/
theorem closingGroup?_of_isPaired {text : List Char} (h : IsPaired '(' ')' text)
    (rest : List Char) :
    closingGroup? '(' ')' ('(' :: (text ++ ')' :: rest)) = some ('(' :: (text ++ [')']), rest) :=
  (closingGroup?_eq_some_iff (by decide) rfl rfl).mpr ⟨text, h, rfl, rfl⟩

/-! ### The first call -/

theorem of_mem_extensionNames {word : String} (h : word ∈ extensionNames) :
    word.toList.all isWordChar = true ∧ isExtensionName word.toList = true := by
  have hnames : ∀ word ∈ extensionNames,
      word.toList.all isWordChar = true ∧ isExtensionName word.toList = true := by decide +kernel
  exact hnames word h

theorem isWordChar_of_isExtensionName {name : List Char} (h : isExtensionName name = true) :
    ∀ c ∈ name, isWordChar c = true := by
  have hmem : String.ofList name ∈ extensionNames := List.contains_iff_mem.mp h
  have hword := (of_mem_extensionNames hmem).1
  rwa [String.toList_ofList, List.all_eq_true] at hword

/-- The cut with further text in front. -/
def CallCut.prepend (text : List Char) (cut : CallCut) : CallCut :=
  { cut with before := text ++ cut.before }

theorem takeWhile_isWordChar {word rest : List Char} (hword : ∀ c ∈ word, isWordChar c = true)
    (hrest : ∀ c ∈ rest.head?, isWordChar c = false) :
    (word ++ rest).takeWhile isWordChar = word ∧ (word ++ rest).dropWhile isWordChar = rest := by
  induction word with
  | nil =>
      cases rest with
      | nil => exact ⟨rfl, rfl⟩
      | cons c rest => simp [hrest c rfl]
  | cons c word ih =>
      obtain ⟨htake, hdrop⟩ := ih fun d hd => hword d (List.mem_cons_of_mem c hd)
      have hc := hword c List.mem_cons_self
      exact ⟨by rw [List.cons_append, List.takeWhile_cons_of_pos hc, htake],
        by rw [List.cons_append, List.dropWhile_cons_of_pos hc, hdrop]⟩

/-- A word that is no name of an extension begins no call. -/
theorem callHead?_word {word rest : List Char} (hword : ∀ c ∈ word, isWordChar c = true)
    (hrest : ∀ c ∈ rest.head?, isWordChar c = false) (hname : isExtensionName word = false) :
    callHead? (word ++ rest) = none := by
  obtain ⟨htake, hdrop⟩ := takeWhile_isWordChar hword hrest
  rw [callHead?, htake, hname]
  rfl

/-- No call begins with a character between words. -/
theorem callHead?_cons {c : Char} (hc : isWordChar c = false) (rest : List Char) :
    callHead? (c :: rest) = none := by
  have hempty : isExtensionName [] = false := by decide +kernel
  rw [callHead?, List.takeWhile_cons_of_neg (by simp [hc]), hempty]
  rfl

/-- A name of an extension, blanks and a parenthesis begin a call. -/
theorem callHead?_call {name gap : List Char} (hword : ∀ c ∈ name, isWordChar c = true)
    (hname : isExtensionName name = true) (hgap : ∀ c ∈ gap, isBlank c = true) (list : List Char) :
    callHead? (name ++ (gap ++ '(' :: list)) = some (name ++ gap, '(' :: list) := by
  have hends : ∀ c ∈ (gap ++ '(' :: list).head?, isWordChar c = false := by
    cases gap with
    | nil => simp only [List.nil_append, List.head?_cons, Option.mem_some_iff, forall_eq']; decide
    | cons c gap => simp [isWordChar_of_isBlank (hgap c List.mem_cons_self)]
  have hparen : isBlank '(' = false := by decide
  obtain ⟨htake, hdrop⟩ := takeWhile_isWordChar hword hends
  have hblank : (gap ++ '(' :: list).takeWhile isBlank = gap := by
    rw [List.takeWhile_append_of_pos hgap, List.takeWhile_cons_of_neg (by simp [hparen]),
      List.append_nil]
  have hlist : (gap ++ '(' :: list).dropWhile isBlank = '(' :: list := by
    rw [List.dropWhile_append_of_pos hgap, List.dropWhile_cons_of_neg (by simp [hparen])]
  rw [callHead?, htake, hdrop, hblank, hlist, hname]
  rfl

/-- In front of the first call, a character between words is passed over. -/
theorem firstCallFrom_cons {inWord : Bool} {c : Char} (hc : isWordChar c = false)
    (rest : List Char) :
    firstCallFrom inWord (c :: rest) = (firstCall? rest).map (CallCut.prepend [c]) := by
  have hhead : (if inWord then none else callHead? (c :: rest)) = none := by
    rw [callHead?_cons hc, ite_self]
  rw [firstCallFrom, hhead, hc]
  rfl

/-- Inside a word no call begins. -/
theorem firstCallFrom_inWord {word : List Char} (hword : ∀ c ∈ word, isWordChar c = true)
    (rest : List Char) :
    firstCallFrom true (word ++ rest) = (firstCallFrom true rest).map (CallCut.prepend word) := by
  induction word with
  | nil =>
      rw [List.nil_append]
      cases firstCallFrom true rest <;> rfl
  | cons c word ih =>
      have hc := hword c List.mem_cons_self
      rw [List.cons_append, firstCallFrom, hc, ih fun d hd => hword d (List.mem_cons_of_mem c hd)]
      cases firstCallFrom true rest <;> rfl

/-- A word that is no name of an extension is passed over. -/
theorem firstCall?_word {word rest : List Char} (hword : ∀ c ∈ word, isWordChar c = true)
    (hrest : ∀ c ∈ rest.head?, isWordChar c = false) (hname : isExtensionName word = false) :
    firstCall? (word ++ rest) = (firstCall? rest).map (CallCut.prepend word) := by
  have hends : firstCallFrom true rest = firstCall? rest := by
    cases rest with
    | nil => rfl
    | cons c rest =>
        have hc := hrest c rfl
        rw [firstCall?, firstCallFrom_cons hc, firstCallFrom_cons hc]
  cases word with
  | nil =>
      rw [List.nil_append]
      cases firstCall? rest <;> rfl
  | cons c word =>
      have hc := hword c List.mem_cons_self
      have hhead : callHead? (c :: (word ++ rest)) = none := callHead?_word hword hrest hname
      rw [List.cons_append, firstCall?, firstCallFrom, if_neg (by simp), hhead, hc,
        firstCallFrom_inWord fun d hd => hword d (List.mem_cons_of_mem c hd), hends]
      cases firstCall? rest <;> rfl

/-- A run of characters ends in front of a character of another kind. -/
theorem span_append_cons {p : Char → Bool} {c : Char} (hc : p c = false) (text more : List Char) :
    (text ++ c :: more).takeWhile p = text.takeWhile p ∧
      (text ++ c :: more).dropWhile p = text.dropWhile p ++ c :: more := by
  induction text with
  | nil => simp [hc]
  | cons d text ih =>
      by_cases hd : p d = true
      · simp [hd, ih.1, ih.2]
      · simp [hd]

section
variable {c : Char} (hword : isWordChar c = false) (hblank : isBlank c = false) (hparen : c ≠ '(')
include hword hblank hparen

/-- The head of a call does not reach over any other mark. -/
theorem callHead?_append_cons (text more : List Char) :
    callHead? (text ++ c :: more)
      = (callHead? text).map fun cut => (cut.1, cut.2 ++ c :: more) := by
  obtain ⟨htake, hdrop⟩ := span_append_cons hword text more
  obtain ⟨htakeBlank, hdropBlank⟩ := span_append_cons hblank (text.dropWhile isWordChar) more
  have hhead : (((text.dropWhile isWordChar).dropWhile isBlank ++ c :: more).head? == some '(')
      = (((text.dropWhile isWordChar).dropWhile isBlank).head? == some '(') := by
    cases (text.dropWhile isWordChar).dropWhile isBlank with
    | nil => simp [hparen]
    | cons d list => rfl
  simp only [callHead?, htake, hdrop, htakeBlank, hdropBlank, hhead]
  split <;> rfl

/-- The first call in front of such a mark is the first call of the whole; without one, the search
goes on behind the mark. -/
theorem firstCallFrom_append_cons (inWord : Bool) (text more : List Char) :
    firstCallFrom inWord (text ++ c :: more) =
      match firstCallFrom inWord text with
      | some cut => some { cut with list := cut.list ++ c :: more }
      | none => (firstCall? more).map (CallCut.prepend (text ++ [c])) := by
  induction text generalizing inWord with
  | nil => exact firstCallFrom_cons hword more
  | cons d text ih =>
      have hhead := callHead?_append_cons hword hblank hparen (d :: text) more
      rw [List.cons_append] at hhead
      have hnext : (if inWord then none else callHead? (d :: (text ++ c :: more)))
          = (if inWord then none else callHead? (d :: text)).map
              fun cut => (cut.1, cut.2 ++ c :: more) := by
        rw [hhead]
        cases inWord <;> rfl
      rw [List.cons_append, firstCallFrom, firstCallFrom, hnext, ih]
      cases if inWord then none else callHead? (d :: text) with
      | some cut => rfl
      | none =>
          cases firstCallFrom (isWordChar d) text with
          | some cut => rfl
          | none => cases firstCall? more <;> rfl

end

/-! ### Taking calls out -/

section
variable {source group rest : List Char} {cut : CallCut}

theorem dropExtensions_of_none (hfirst : firstCall? source = none) :
    dropExtensions source = { value := source } := by
  rw [dropExtensions]
  split
  · rfl
  · simp_all

/-- A call that is not closed is reported, and all stays. -/
theorem dropExtensions_of_open (hfirst : firstCall? source = some cut)
    (hclose : closingGroup? '(' ')' cut.list = none) :
    dropExtensions source
      = { value := source, events := [.unbalancedCall (String.ofList cut.head)] } := by
  rw [dropExtensions]
  split
  · simp_all
  case h_2 found hfound =>
    obtain rfl : cut = found := Option.some.inj (hfirst.symm.trans hfound)
    split
    · rfl
    · simp_all

/-- A call that is closed becomes a space. -/
theorem dropExtensions_of_closed (hfirst : firstCall? source = some cut)
    (hclose : closingGroup? '(' ')' cut.list = some (group, rest)) :
    dropExtensions source
      = (fun others => cut.before ++ ' ' :: others) <$> dropExtensions rest := by
  rw [dropExtensions]
  split
  · simp_all
  case h_2 found hfound =>
    obtain rfl : cut = found := Option.some.inj (hfirst.symm.trans hfound)
    split
    · simp_all
    case h_2 inner behind hcut =>
      obtain ⟨rfl, rfl⟩ := Prod.mk.inj (Option.some.inj (hclose.symm.trans hcut))
      exact bind_pure_comp ..

end

/-- What is left when there is no call, when the first call is not closed, and when it is. -/
theorem value_dropExtensions (source : List Char) :
    (dropExtensions source).value =
      match firstCall? source with
      | none => source
      | some cut =>
          match closingGroup? '(' ')' cut.list with
          | none => source
          | some (_, rest) => cut.before ++ ' ' :: (dropExtensions rest).value := by
  cases hfirst : firstCall? source with
  | none => rw [dropExtensions_of_none hfirst]
  | some cut =>
      cases hclose : closingGroup? '(' ')' cut.list with
      | none => simp only [dropExtensions_of_open hfirst hclose, hclose]
      | some group => simp only [dropExtensions_of_closed hfirst hclose, Logged.value_map, hclose]

/-- Text that the search for the first call passes over stays. -/
theorem dropExtensions_append {text rest : List Char}
    (h : firstCall? (text ++ rest) = (firstCall? rest).map (CallCut.prepend text)) :
    dropExtensions (text ++ rest) = (fun others => text ++ others) <$> dropExtensions rest := by
  cases hfirst : firstCall? rest with
  | none =>
      rw [hfirst] at h
      rw [dropExtensions_of_none h, dropExtensions_of_none hfirst]
      rfl
  | some cut =>
      rw [hfirst] at h
      cases hclose : closingGroup? '(' ')' cut.list with
      | none =>
          rw [dropExtensions_of_open h hclose, dropExtensions_of_open hfirst hclose]
          rfl
      | some group =>
          rw [dropExtensions_of_closed h hclose, dropExtensions_of_closed hfirst hclose,
            ← comp_map]
          simp only [CallCut.prepend, Function.comp_def, List.append_assoc]

theorem value_dropExtensions_append {text rest : List Char}
    (h : firstCall? (text ++ rest) = (firstCall? rest).map (CallCut.prepend text)) :
    (dropExtensions (text ++ rest)).value = text ++ (dropExtensions rest).value := by
  rw [dropExtensions_append h, Logged.value_map]

theorem value_dropExtensions_cons {c : Char} (hc : isWordChar c = false) (rest : List Char) :
    (dropExtensions (c :: rest)).value = c :: (dropExtensions rest).value := by
  have hfirst : firstCall? ([c] ++ rest) = (firstCall? rest).map (CallCut.prepend [c]) :=
    firstCallFrom_cons hc rest
  exact value_dropExtensions_append hfirst

theorem value_dropExtensions_word {word rest : List Char}
    (hword : ∀ c ∈ word, isWordChar c = true) (hrest : WordEnds rest)
    (hname : isExtensionName word = false) :
    (dropExtensions (word ++ rest)).value = word ++ (dropExtensions rest).value :=
  value_dropExtensions_append (firstCall?_word hword hrest.isWordChar hname)

theorem value_dropExtensions_blanks {text : List Char} (h : ∀ c ∈ text, isBlank c = true)
    (rest : List Char) :
    (dropExtensions (text ++ rest)).value = text ++ (dropExtensions rest).value := by
  induction text with
  | nil => rfl
  | cons c text ih =>
      have hc := isWordChar_of_isBlank (h c List.mem_cons_self)
      rw [List.cons_append, value_dropExtensions_cons hc,
        ih fun d hd => h d (List.mem_cons_of_mem c hd), List.cons_append]

theorem firstCall?_call {name gap : List Char} (hword : ∀ c ∈ name, isWordChar c = true)
    (hname : isExtensionName name = true) (hgap : ∀ c ∈ gap, isBlank c = true) (list : List Char) :
    firstCall? (name ++ (gap ++ '(' :: list)) = some ⟨[], name ++ gap, '(' :: list⟩ := by
  have hhead := callHead?_call hword hname hgap list
  cases name with
  | nil => exact absurd hname (by decide +kernel)
  | cons c name =>
      rw [List.cons_append] at hhead ⊢
      rw [firstCall?, firstCallFrom, if_neg (by simp), hhead]

/-- A call with a paired list becomes a space. -/
theorem value_dropExtensions_call {name gap text : List Char}
    (hword : ∀ c ∈ name, isWordChar c = true) (hname : isExtensionName name = true)
    (hgap : ∀ c ∈ gap, isBlank c = true) (htext : IsPaired '(' ')' text)
    (rest : List Char) :
    (dropExtensions (name ++ (gap ++ '(' :: (text ++ ')' :: rest)))).value
      = ' ' :: (dropExtensions rest).value := by
  have hfirst := firstCall?_call hword hname hgap (text ++ ')' :: rest)
  rw [dropExtensions_of_closed hfirst (closingGroup?_of_isPaired htext rest),
    Logged.value_map, List.nil_append]

end HeaderBindings.Source
