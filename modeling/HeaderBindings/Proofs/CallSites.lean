import HeaderBindings.Proofs.Extensions
import Mathlib.Data.List.TakeWhile

/-!
Where the calls of extensions stand in a text. A call begins with the name of an extension in front
of which no word stands, and the search finds the call that begins first. A text without calls that
ends between words is passed over in front of any word, so the calls of a text go one after the
other: each one becomes a space, and behind its list the search starts anew.
-/

namespace HeaderBindings.Source
open Text

/-! ### Calls in a text -/

/-- Whether a word goes on behind a text, when `inWord` tells whether one goes on in front of it. -/
def wordGoesOn (inWord : Bool) (text : List Char) : Bool :=
  (text.getLast?.map isWordChar).getD inWord

@[simp] theorem wordGoesOn_nil (inWord : Bool) : wordGoesOn inWord [] = inWord := rfl

theorem wordGoesOn_cons (inWord : Bool) (c : Char) (text : List Char) :
    wordGoesOn inWord (c :: text) = wordGoesOn (isWordChar c) text := by
  rw [wordGoesOn, wordGoesOn, List.getLast?_cons]
  cases text.getLast? <;> rfl

/-- The name of an extension and blanks. -/
def IsCallHead (head : List Char) : Prop :=
  ∃ name gap, head = name ++ gap ∧ isExtensionName name = true ∧ ∀ c ∈ gap, isBlank c = true

/-- A call in a text: a head that starts a word, and a parenthesis behind it. -/
structure IsCallFrom (inWord : Bool) (source : List Char) (cut : CallCut) : Prop where
  whole : cut.before ++ cut.head ++ cut.list = source
  boundary : wordGoesOn inWord cut.before = false
  head : IsCallHead cut.head
  list : cut.list.head? = some '('

def HasCall (source : List Char) : Prop := ∃ cut, IsCallFrom false source cut

/-- A call in front of which no other one begins. -/
def IsFirstCallFrom (inWord : Bool) (source : List Char) (cut : CallCut) : Prop :=
  IsCallFrom inWord source cut ∧
    ∀ other, IsCallFrom inWord source other → cut.before.length ≤ other.before.length

theorem callHead?_eq_some_iff {text head list : List Char} :
    callHead? text = some (head, list) ↔
      head ++ list = text ∧ IsCallHead head ∧ list.head? = some '(' := by
  constructor
  · intro h
    refine ⟨callHead?_append h, ?_⟩
    simp only [callHead?] at h
    split at h
    case isTrue hcall =>
      obtain ⟨rfl, rfl⟩ := Prod.mk.inj (Option.some.inj h)
      obtain ⟨hname, hlist⟩ := Bool.and_eq_true_iff.mp hcall
      exact ⟨⟨_, _, rfl, hname, fun c hc => List.mem_takeWhile_imp hc⟩, eq_of_beq hlist⟩
    case isFalse => cases h
  · rintro ⟨rfl, ⟨name, gap, rfl, hname, hgap⟩, hlist⟩
    obtain ⟨rest, rfl⟩ := List.head?_eq_some_iff.mp hlist
    rw [List.append_assoc]
    exact callHead?_call (isWordChar_of_isExtensionName hname) hname hgap rest

/-- A call begins with the first character, where no word goes on, or it is one of the rest. -/
theorem isCallFrom_cons {inWord : Bool} {c : Char} {rest : List Char} {cut : CallCut} :
    IsCallFrom inWord (c :: rest) cut ↔
      (cut.before = [] ∧
        (if inWord then none else callHead? (c :: rest)) = some (cut.head, cut.list)) ∨
        ∃ inner, IsCallFrom (isWordChar c) rest inner ∧ cut = inner.prepend [c] := by
  obtain ⟨before, head, list⟩ := cut
  constructor
  · rintro ⟨hwhole, hboundary, hhead, hlist⟩
    cases before with
    | nil =>
        obtain rfl : inWord = false := hboundary
        exact .inl ⟨rfl, callHead?_eq_some_iff.mpr ⟨hwhole, hhead, hlist⟩⟩
    | cons d before =>
        obtain ⟨rfl, hrest⟩ := List.cons.inj hwhole
        have hinner : wordGoesOn (isWordChar d) before = false :=
          (wordGoesOn_cons inWord d before).symm.trans hboundary
        exact .inr ⟨⟨before, head, list⟩, ⟨hrest, hinner, hhead, hlist⟩, rfl⟩
  · rintro (⟨hbefore, hcall⟩ | ⟨inner, ⟨hwhole, hboundary, hhead, hlist⟩, hcut⟩)
    · obtain rfl : before = [] := hbefore
      split at hcall
      case isTrue => cases hcall
      case isFalse hword =>
        obtain ⟨hwhole, hhead, hlist⟩ := callHead?_eq_some_iff.mp hcall
        exact ⟨hwhole, by simpa using hword, hhead, hlist⟩
    · rw [hcut]
      refine ⟨congrArg (c :: ·) hwhole, ?_, hhead, hlist⟩
      exact (wordGoesOn_cons inWord c inner.before).trans hboundary

theorem isCallFrom_cons_of_none {inWord : Bool} {c : Char} {rest : List Char} {cut : CallCut}
    (hstart : (if inWord then none else callHead? (c :: rest)) = none) :
    IsCallFrom inWord (c :: rest) cut ↔
      ∃ inner, IsCallFrom (isWordChar c) rest inner ∧ cut = inner.prepend [c] := by
  rw [isCallFrom_cons, hstart]
  simp

theorem not_isCallFrom_nil (inWord : Bool) (cut : CallCut) : ¬IsCallFrom inWord [] cut := by
  rintro ⟨hwhole, -, -, hlist⟩
  rw [(List.append_eq_nil_iff.mp hwhole).2] at hlist
  cases hlist

theorem firstCallFrom_eq_none_iff {inWord : Bool} {source : List Char} :
    firstCallFrom inWord source = none ↔ ∀ cut, ¬IsCallFrom inWord source cut := by
  induction source generalizing inWord with
  | nil => exact iff_of_true rfl (not_isCallFrom_nil inWord)
  | cons c rest ih =>
      cases hstart : if inWord then none else callHead? (c :: rest) with
      | some start =>
          rw [firstCallFrom, hstart]
          refine iff_of_false (Option.some_ne_none _) fun hnone => ?_
          exact hnone ⟨[], start.1, start.2⟩ (isCallFrom_cons.mpr (.inl ⟨rfl, hstart⟩))
      | none =>
          rw [firstCallFrom, hstart]
          simp only [Option.map_eq_none_iff, ih, isCallFrom_cons_of_none hstart]
          constructor
          · rintro hnone cut ⟨inner, hinner, -⟩
            exact hnone inner hinner
          · exact fun hnone inner hinner => hnone _ ⟨inner, hinner, rfl⟩

/-- The search finds the call that begins first. -/
theorem firstCallFrom_eq_some_iff {inWord : Bool} {source : List Char} {cut : CallCut} :
    firstCallFrom inWord source = some cut ↔ IsFirstCallFrom inWord source cut := by
  induction source generalizing inWord cut with
  | nil => exact iff_of_false (Option.some_ne_none cut).symm fun h => not_isCallFrom_nil _ _ h.1
  | cons c rest ih =>
      cases hstart : if inWord then none else callHead? (c :: rest) with
      | some start =>
          have hcall : IsCallFrom inWord (c :: rest) ⟨[], start.1, start.2⟩ :=
            isCallFrom_cons.mpr (.inl ⟨rfl, hstart⟩)
          rw [firstCallFrom, hstart]
          constructor
          · rintro ⟨⟩
            exact ⟨hcall, fun other _ => Nat.zero_le _⟩
          · rintro ⟨hcut, hfirst⟩
            rcases isCallFrom_cons.mp hcut with ⟨hbefore, hhead⟩ | ⟨inner, -, rfl⟩
            · obtain ⟨before, head, list⟩ := cut
              obtain rfl : before = [] := hbefore
              obtain rfl := Option.some.inj (hstart.symm.trans hhead)
              rfl
            · exact absurd (hfirst _ hcall) (Nat.not_succ_le_zero _)
      | none =>
          rw [firstCallFrom, hstart]
          constructor
          · intro h
            obtain ⟨inner, hinner, rfl⟩ := Option.map_eq_some_iff.mp h
            obtain ⟨hcall, hfirst⟩ := ih.mp hinner
            refine ⟨(isCallFrom_cons_of_none hstart).mpr ⟨inner, hcall, rfl⟩,
              fun other hother => ?_⟩
            obtain ⟨behind, hbehind, rfl⟩ := (isCallFrom_cons_of_none hstart).mp hother
            exact Nat.succ_le_succ (hfirst behind hbehind)
          · rintro ⟨hcut, hfirst⟩
            obtain ⟨inner, hinner, rfl⟩ := (isCallFrom_cons_of_none hstart).mp hcut
            refine Option.map_eq_some_iff.mpr
              ⟨inner, ih.mpr ⟨hinner, fun other hother => ?_⟩, rfl⟩
            have hbehind := (isCallFrom_cons_of_none hstart).mpr ⟨other, hother, rfl⟩
            exact Nat.le_of_succ_le_succ (hfirst _ hbehind)

theorem firstCall?_eq_none_iff {source : List Char} : firstCall? source = none ↔ ¬HasCall source :=
  firstCallFrom_eq_none_iff.trans not_exists.symm

/-! ### In front of a word -/

def StartsWord (text : List Char) : Prop := ∃ c ∈ text.head?, isWordChar c = true

theorem startsWord_append {word : List Char} (hne : word ≠ [])
    (hword : ∀ c ∈ word, isWordChar c = true) (rest : List Char) : StartsWord (word ++ rest) := by
  obtain ⟨c, word, rfl⟩ := List.exists_cons_of_ne_nil hne
  exact ⟨c, rfl, hword c List.mem_cons_self⟩

theorem StartsWord.head?_ne {text : List Char} (h : StartsWord text) : text.head? ≠ some '(' := by
  obtain ⟨c, hc, hword⟩ := h
  rintro hparen
  obtain rfl : '(' = c := Option.some.inj (hparen.symm.trans hc)
  exact absurd hword (by decide)

/-- A head does not reach from a text that ends between words into a word behind it. -/
theorem StartsWord.not_isCallHead_append {text rest : List Char} (hrest : StartsWord rest)
    (hne : text ≠ []) (htext : wordGoesOn false text = false) : ¬IsCallHead (text ++ rest) := by
  rintro ⟨name, gap, hsplit, hname, hgap⟩
  obtain ⟨c, hc, hword⟩ := hrest
  obtain ⟨rest, rfl⟩ := List.head?_eq_some_iff.mp hc
  rcases List.append_eq_append_iff.mp hsplit with ⟨more, rfl, -⟩ | ⟨blanks, -, rfl⟩
  · -- The name would hold the last character of the text.
    obtain ⟨d, hd⟩ := Option.ne_none_iff_exists'.mp (mt List.getLast?_eq_none_iff.mp hne)
    have hmem : d ∈ text ++ more := List.mem_append_left _ (List.mem_of_getLast? hd)
    rw [wordGoesOn, hd] at htext
    exact Bool.false_ne_true (htext.symm.trans (isWordChar_of_isExtensionName hname d hmem))
  · -- The blanks would hold the first character of the word.
    have hblank := hgap c (by simp)
    rw [isWordChar_of_isBlank hblank] at hword
    cases hword

theorem callHead?_append_of_none {text rest : List Char} (hne : text ≠ [])
    (hnone : callHead? text = none) (htext : wordGoesOn false text = false)
    (hrest : StartsWord rest) : callHead? (text ++ rest) = none := by
  rw [Option.eq_none_iff_forall_ne_some]
  rintro ⟨head, list⟩ hfound
  obtain ⟨hwhole, hhead, hlist⟩ := callHead?_eq_some_iff.mp hfound
  rcases List.append_eq_append_iff.mp hwhole with ⟨more, rfl, rfl⟩ | ⟨more, rfl, rfl⟩
  · -- The whole head stands in the text, and so does the parenthesis.
    cases more with
    | nil => exact hrest.head?_ne hlist
    | cons d more =>
        have hfound : callHead? (head ++ d :: more) = some (head, d :: more) :=
          callHead?_eq_some_iff.mpr ⟨rfl, hhead, hlist⟩
        rw [hnone] at hfound
        cases hfound
  · cases more with
    | nil => exact hrest.head?_ne hlist
    | cons d more =>
        have hmore : StartsWord (d :: more) := hrest
        exact hmore.not_isCallHead_append hne htext hhead

/-- A text without calls is passed over in front of a word, if no word goes on behind it. -/
theorem firstCallFrom_append_of_startsWord {inWord : Bool} {before rest : List Char}
    (hnone : firstCallFrom inWord before = none) (hbefore : wordGoesOn inWord before = false)
    (hrest : StartsWord rest) :
    firstCallFrom inWord (before ++ rest) = (firstCall? rest).map (CallCut.prepend before) := by
  induction before generalizing inWord with
  | nil =>
      obtain rfl : inWord = false := hbefore
      rw [List.nil_append, ← firstCall?]
      cases firstCall? rest <;> rfl
  | cons c before ih =>
      have hstart : (if inWord then none else callHead? (c :: before)) = none := by
        rw [firstCallFrom] at hnone
        split at hnone
        · cases hnone
        case h_2 hstart => exact hstart
      have hnext : (if inWord then none else callHead? (c :: (before ++ rest))) = none := by
        cases inWord with
        | true => rfl
        | false => exact callHead?_append_of_none (List.cons_ne_nil c before) hstart hbefore hrest
      rw [firstCallFrom, hstart, Option.map_eq_none_iff] at hnone
      rw [wordGoesOn_cons] at hbefore
      rw [List.cons_append, firstCallFrom, hnext]
      simp only [ih hnone hbefore]
      cases firstCall? rest <;> rfl

/-! ### Taking calls out -/

section
variable {source before name gap word inner after : List Char} {cut : CallCut}

/-- A call with a paired list becomes a space, and the text behind it is read as one of its own. -/
theorem dropExtensions_call (hbefore : ¬HasCall before) (hend : wordGoesOn false before = false)
    (hname : isExtensionName name = true) (hgap : ∀ c ∈ gap, isBlank c = true)
    (hinner : IsPaired '(' ')' inner) :
    dropExtensions (before ++ (name ++ (gap ++ '(' :: (inner ++ ')' :: after))))
      = (fun others => before ++ ' ' :: others) <$> dropExtensions after := by
  have hword := isWordChar_of_isExtensionName hname
  have hne : name ≠ [] := by
    rintro rfl
    exact absurd hname (by decide +kernel)
  have hpassed := firstCallFrom_append_of_startsWord (firstCall?_eq_none_iff.mpr hbefore) hend
    (startsWord_append hne hword (gap ++ '(' :: (inner ++ ')' :: after)))
  have hfirst := firstCall?_call hword hname hgap (inner ++ ')' :: after)
  have hclose : closingGroup? '(' ')' ('(' :: (inner ++ ')' :: after))
      = some ('(' :: (inner ++ [')']), after) :=
    (closingGroup?_eq_some_iff (by decide) rfl rfl).mpr ⟨inner, hinner, rfl, rfl⟩
  rw [dropExtensions_append hpassed, dropExtensions_of_closed hfirst hclose, ← comp_map]
  rfl

/-- Behind a call whose list is not closed nothing is taken out. -/
theorem dropExtensions_unclosed (hfirst : IsFirstCallFrom false source cut)
    (hopen : ∀ inner after, IsPaired '(' ')' inner → cut.list ≠ '(' :: (inner ++ ')' :: after)) :
    dropExtensions source
      = { value := source, events := [.unbalancedCall (String.ofList cut.head)] } := by
  refine dropExtensions_of_open (firstCallFrom_eq_some_iff.mpr hfirst) ?_
  obtain ⟨list, hlist⟩ := List.head?_eq_some_iff.mp hfirst.1.list
  rw [hlist, Option.eq_none_iff_forall_ne_some]
  rintro ⟨group, after⟩ hclose
  obtain ⟨inner, hinner, -, rfl⟩ := (closingGroup?_eq_some_iff (by decide) rfl rfl).mp hclose
  exact hopen inner after hinner hlist

theorem dropExtensions_word (hbefore : ¬HasCall before) (hend : wordGoesOn false before = false)
    (hne : word ≠ []) (hword : ∀ c ∈ word, isWordChar c = true)
    (hname : isExtensionName word = false) (hafter : ∀ c ∈ after.head?, isWordChar c = false) :
    dropExtensions (before ++ (word ++ after))
      = (fun others => before ++ (word ++ others)) <$> dropExtensions after := by
  have hpassed := firstCallFrom_append_of_startsWord (firstCall?_eq_none_iff.mpr hbefore) hend
    (startsWord_append hne hword after)
  rw [dropExtensions_append hpassed, dropExtensions_append (firstCall?_word hword hafter hname),
    ← comp_map]
  rfl

end

/-- Calls are taken out from the left. A call whose list is closed becomes a space, and what stands
behind it is read as a text of its own; from the first call whose list is not closed on all stays,
and so does a text without calls. A word that is no name of an extension stays, whatever it ends
with. -/
theorem dropExtensions_leftToRight :
    (∀ before name gap inner after : List Char, ¬HasCall before →
      wordGoesOn false before = false → isExtensionName name = true →
      (∀ c ∈ gap, isBlank c = true) → IsPaired '(' ')' inner →
      dropExtensions (before ++ (name ++ (gap ++ '(' :: (inner ++ ')' :: after))))
        = (fun others => before ++ ' ' :: others) <$> dropExtensions after) ∧
    (∀ (source : List Char) (cut : CallCut), IsFirstCallFrom false source cut →
      (∀ inner after, IsPaired '(' ')' inner → cut.list ≠ '(' :: (inner ++ ')' :: after)) →
      dropExtensions source
        = { value := source, events := [.unbalancedCall (String.ofList cut.head)] }) ∧
    (∀ source : List Char, ¬HasCall source → dropExtensions source = { value := source }) ∧
    ∀ before word after : List Char, ¬HasCall before → wordGoesOn false before = false →
      word ≠ [] → (∀ c ∈ word, isWordChar c = true) → isExtensionName word = false →
      (∀ c ∈ after.head?, isWordChar c = false) →
      dropExtensions (before ++ (word ++ after))
        = (fun others => before ++ (word ++ others)) <$> dropExtensions after :=
  ⟨fun _ _ _ _ _ hbefore hend hname hgap hinner =>
      dropExtensions_call hbefore hend hname hgap hinner,
    fun _ _ hfirst hopen => dropExtensions_unclosed hfirst hopen,
    fun _ hnone => dropExtensions_of_none (firstCall?_eq_none_iff.mpr hnone),
    fun _ _ _ hbefore hend hne hword hname hafter =>
      dropExtensions_word hbefore hend hne hword hname hafter⟩

/-- Parentheses in literals do not close a list, and a call behind a closed one may be open. -/
theorem dropExtensions_leftToRight_literals :
    let before := "int g_asm(int a) ".toList
    let inner := "(annotate(\")\"), f(')'))".toList
    let after := "; int asm (g(;".toList
    ¬HasCall before ∧ IsPaired '(' ')' inner ∧
      IsFirstCallFrom false after ⟨"; int ".toList, "asm ".toList, "(g(;".toList⟩ ∧
      dropExtensions (before ++ ("__attribute__".toList ++ (" \n".toList ++
          '(' :: (inner ++ ')' :: after))))
        = { value := before ++ ' ' :: after, events := [.unbalancedCall "asm "] } ∧
      dropExtensions ("int ".toList ++ ("g_asm".toList ++ "(int a)".toList))
        = { value := "int g_asm(int a)".toList } := by
  intro before inner after
  have hnone {text : List Char} (h : firstCall? text = none) : ¬HasCall text :=
    firstCall?_eq_none_iff.mp h
  have hbefore : ¬HasCall before := hnone (by decide +kernel)
  have hinner : IsPaired '(' ')' inner := by decide +kernel
  have hfirst : IsFirstCallFrom false after ⟨"; int ".toList, "asm ".toList, "(g(;".toList⟩ :=
    firstCallFrom_eq_some_iff.mp (by decide +kernel)
  refine ⟨hbefore, hinner, hfirst, ?_, ?_⟩
  · rw [dropExtensions_leftToRight.1 before "__attribute__".toList " \n".toList inner after hbefore
      (by decide +kernel) (by decide +kernel) (List.all_eq_true.mp (by decide +kernel)) hinner,
      dropExtensions_leftToRight.2.1 after _ hfirst]
    · rfl
    · intro inner rest hpaired hlist
      have hopen : closingGroup? '(' ')' "(g(;".toList = none := by decide +kernel
      have hlist : "(g(;".toList = '(' :: (inner ++ ')' :: rest) := hlist
      rw [hlist, (closingGroup?_eq_some_iff (by decide) rfl rfl).mpr ⟨inner, hpaired, rfl, rfl⟩]
        at hopen
      cases hopen
  · have hafter : ∀ c ∈ "(int a)".toList.head?, isWordChar c = false := by
      rintro _ ⟨⟩
      decide +kernel
    rw [dropExtensions_leftToRight.2.2.2 "int ".toList "g_asm".toList "(int a)".toList
      (hnone (by decide +kernel)) (by decide +kernel) (by decide +kernel)
      (List.all_eq_true.mp (by decide +kernel)) (by decide +kernel) hafter,
      dropExtensions_leftToRight.2.2.1 "(int a)".toList (hnone (by decide +kernel))]
    rfl

end HeaderBindings.Source
