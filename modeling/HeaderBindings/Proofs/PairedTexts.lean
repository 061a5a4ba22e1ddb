import HeaderBindings.Source.Quoting

/-!
Texts between a left and a right delimiter. A paired text closes every delimiter that it opens and
none that it does not open, literals aside. The search for the delimiter that closes a group goes
over paired texts and stops behind them, so it finds a group exactly when a paired text and the
right delimiter follow the left one.
-/

namespace HeaderBindings.Source

/-- Whether a text closes the delimiters that it opens, none before it is opened, and ends outside
literals, when it starts in the given state behind `depth` open ones. Delimiters in literals do not
count. -/
def isPairedFrom (left right : Char) (state : Quoting) (depth : Nat) : List Char → Bool
  | [] => state == .code && depth == 0
  | c :: rest =>
      if !state.isCode c then isPairedFrom left right (state.step c) depth rest
      else if c = left then isPairedFrom left right (state.step c) (depth + 1) rest
      else if c = right then depth != 0 && isPairedFrom left right (state.step c) (depth - 1) rest
      else isPairedFrom left right (state.step c) depth rest

/-- A text that closes the delimiters that it opens, and no others. -/
def IsPaired (left right : Char) (text : List Char) : Prop :=
  isPairedFrom left right .code 0 text = true

instance (left right : Char) : DecidablePred (IsPaired left right) :=
  fun _ => inferInstanceAs (Decidable (_ = true))

section
variable {left right : Char} {state : Quoting} {depth : Nat} {text : List Char}

/-- A paired text is passed over in the search for the closing delimiter. -/
theorem closeFrom_of_isPairedFrom (hne : left ≠ right) (hquote : isQuote right = false)
    (h : isPairedFrom left right state depth text = true) (rest : List Char) :
    closeFrom left right state (depth + 1) (text ++ right :: rest)
      = some (text ++ [right], rest) := by
  induction text generalizing state depth with
  | nil =>
      simp only [isPairedFrom, Bool.and_eq_true, beq_iff_eq] at h
      obtain ⟨rfl, rfl⟩ := h
      rw [List.nil_append, closeFrom, if_pos (Quoting.isCode_code hquote), if_neg hne.symm,
        if_pos rfl, if_pos (Nat.le_refl 1)]
      rfl
  | cons c text ih =>
      simp only [List.cons_append, closeFrom]
      rw [isPairedFrom] at h
      split at h
      case isTrue hcode =>
        rw [if_neg (by simpa using hcode), ih h]
        rfl
      case isFalse hcode =>
        rw [if_pos (by simpa using hcode)]
        split at h
        case isTrue hopen =>
          rw [if_pos hopen, ih h]
          rfl
        case isFalse hopen =>
          rw [if_neg hopen]
          split at h
          case isTrue hclose =>
            obtain ⟨hdepth, h⟩ := Bool.and_eq_true_iff.mp h
            have hpos : depth ≠ 0 := by simpa using hdepth
            have hnext : depth + 1 - 1 = depth - 1 + 1 := by omega
            rw [if_pos hclose, if_neg (by omega), hnext, ih h]
            rfl
          case isFalse hclose =>
            rw [if_neg hclose, ih h]
            rfl

/-- What the search for the closing delimiter has passed over is a paired text. -/
theorem exists_isPairedFrom_of_closeFrom {group rest : List Char}
    (h : closeFrom left right state (depth + 1) text = some (group, rest)) :
    ∃ inner, group = inner ++ [right] ∧ text = inner ++ right :: rest ∧
      isPairedFrom left right state depth inner = true := by
  induction text generalizing state depth group with
  | nil => cases h
  | cons c text ih =>
      -- A character that takes the search on to another depth stands in front of the rest.
      have hfurther {next : Nat} (hcut : (closeFrom left right (state.step c) (next + 1) text).map
          (fun cut => (c :: cut.1, cut.2)) = some (group, rest))
          (hstep : ∀ inner, isPairedFrom left right (state.step c) next inner = true →
            isPairedFrom left right state depth (c :: inner) = true) :
          ∃ inner, group = inner ++ [right] ∧ c :: text = inner ++ right :: rest ∧
            isPairedFrom left right state depth inner = true := by
        obtain ⟨⟨found, behind⟩, hfound, hsame⟩ := Option.map_eq_some_iff.mp hcut
        obtain ⟨rfl, rfl⟩ := Prod.mk.inj hsame
        obtain ⟨inner, rfl, rfl, hinner⟩ := ih hfound
        exact ⟨c :: inner, rfl, rfl, hstep inner hinner⟩
      rw [closeFrom] at h
      simp only at h
      split at h
      case isTrue hcode =>
        split at h
        case isTrue hopen =>
          refine hfurther h fun inner hinner => ?_
          rw [isPairedFrom, if_neg (by simp [hcode]), if_pos hopen, hinner]
        case isFalse hopen =>
          split at h
          case isTrue hclose =>
            split at h
            case isTrue hdepth =>
              obtain ⟨rfl, rfl⟩ := Prod.mk.inj (Option.some.inj h)
              obtain rfl : depth = 0 := by omega
              exact ⟨[], by rw [hclose, List.nil_append], by rw [hclose, List.nil_append],
                by simp [isPairedFrom, Quoting.eq_code_of_isCode hcode]⟩
            case isFalse hdepth =>
              obtain ⟨outer, rfl⟩ := Nat.exists_eq_succ_of_ne_zero (by omega : depth ≠ 0)
              refine hfurther h fun inner hinner => ?_
              rw [isPairedFrom, if_neg (by simp [hcode]), if_neg hopen, if_pos hclose]
              simpa using hinner
          case isFalse hclose =>
            refine hfurther h fun inner hinner => ?_
            rw [isPairedFrom, if_neg (by simp [hcode]), if_neg hopen, if_neg hclose, hinner]
      case isFalse hcode =>
        refine hfurther h fun inner hinner => ?_
        rw [isPairedFrom, if_pos (by simp [hcode]), hinner]

/-- The search behind the left delimiter. -/
theorem closingGroup?_cons (hleft : isQuote left = false) (text : List Char) :
    closingGroup? left right (left :: text)
      = (closeFrom left right .code 1 text).map fun cut => (left :: cut.1, cut.2) := by
  rw [closingGroup?, closeFrom, if_pos (Quoting.isCode_code hleft), if_pos rfl,
    Quoting.step_of_isCode (Quoting.isCode_code hleft)]

/-- A group is found exactly when a paired text and the right delimiter follow the left one. -/
theorem closingGroup?_eq_some_iff (hne : left ≠ right) (hleft : isQuote left = false)
    (hright : isQuote right = false) {group rest : List Char} :
    closingGroup? left right (left :: text) = some (group, rest) ↔
      ∃ inner, IsPaired left right inner ∧ group = left :: (inner ++ [right]) ∧
        text = inner ++ right :: rest := by
  rw [closingGroup?_cons hleft, Option.map_eq_some_iff]
  constructor
  · rintro ⟨⟨found, behind⟩, hfound, hsame⟩
    obtain ⟨rfl, rfl⟩ := Prod.mk.inj hsame
    have hclose : closeFrom left right .code (0 + 1) text = some (found, behind) := hfound
    obtain ⟨inner, rfl, htext, hinner⟩ := exists_isPairedFrom_of_closeFrom hclose
    exact ⟨inner, hinner, rfl, htext⟩
  · rintro ⟨inner, hinner, rfl, rfl⟩
    exact ⟨_, closeFrom_of_isPairedFrom hne hright hinner rest, rfl⟩

end

/-! ### The search for a closing delimiter over two texts -/

section
variable {left right : Char} {state : Quoting} {depth : Nat} {text : List Char}

/-- A character ends the search or takes it on to a depth that does not depend on the rest. -/
theorem closeFrom_cons_cases (left right : Char) (state : Quoting) (depth : Nat) (c : Char) :
    (∀ rest, closeFrom left right state depth (c :: rest) = some ([c], rest)) ∨
    ∃ next, ∀ rest, closeFrom left right state depth (c :: rest)
      = (closeFrom left right (state.step c) next rest).map fun cut => (c :: cut.1, cut.2) := by
  by_cases hcode : state.isCode c = true
  · by_cases hleft : c = left
    · refine .inr ⟨depth + 1, fun rest => ?_⟩
      rw [closeFrom, if_pos hcode, if_pos hleft]
    · by_cases hright : c = right
      · by_cases hdepth : depth ≤ 1
        · refine .inl fun rest => ?_
          rw [closeFrom, if_pos hcode, if_neg hleft, if_pos hright, if_pos hdepth]
        · refine .inr ⟨depth - 1, fun rest => ?_⟩
          rw [closeFrom, if_pos hcode, if_neg hleft, if_pos hright, if_neg hdepth]
      · refine .inr ⟨depth, fun rest => ?_⟩
        rw [closeFrom, if_pos hcode, if_neg hleft, if_neg hright]
  · refine .inr ⟨depth, fun rest => ?_⟩
    rw [closeFrom, if_neg hcode]

theorem closeFrom_append_of_some {group rest : List Char}
    (h : closeFrom left right state depth text = some (group, rest)) (more : List Char) :
    closeFrom left right state depth (text ++ more) = some (group, rest ++ more) := by
  induction text generalizing state depth group with
  | nil => simp [closeFrom] at h
  | cons c text ih =>
      rcases closeFrom_cons_cases left right state depth c with hends | ⟨next, hnext⟩
      · rw [hends] at h
        obtain ⟨rfl, rfl⟩ := Prod.mk.inj (Option.some.inj h)
        rw [List.cons_append, hends]
      · rw [hnext] at h
        obtain ⟨⟨inner, after⟩, hfound, hsame⟩ := Option.map_eq_some_iff.mp h
        obtain ⟨rfl, rfl⟩ := Prod.mk.inj hsame
        rw [List.cons_append, hnext, ih hfound]
        rfl

/-- No group is closed in front of its end. -/
theorem closeFrom_eq_none_of_append {more rest : List Char} (hmore : more ≠ [])
    (h : closeFrom left right state depth (text ++ more ++ rest) = some (text ++ more, rest)) :
    closeFrom left right state depth text = none := by
  cases hfound : closeFrom left right state depth text with
  | none => rfl
  | some cut =>
      have hlonger := closeFrom_append_of_some hfound (more ++ rest)
      rw [← List.append_assoc, h] at hlonger
      obtain ⟨hgroup, -⟩ := Prod.mk.inj (Option.some.inj hlonger)
      have htext := congrArg List.length (closeFrom_append hfound)
      have hpos := List.length_pos_iff.mpr hmore
      rw [← hgroup] at htext
      simp only [List.length_append] at htext
      omega

/-- A search that has found nothing goes on behind the text. -/
theorem closeFrom_append_of_none (h : closeFrom left right state depth text = none) :
    ∃ next, ∀ more, closeFrom left right state depth (text ++ more)
      = (closeFrom left right (state.after text) next more).map
          fun cut => (text ++ cut.1, cut.2) := by
  induction text generalizing state depth with
  | nil => exact ⟨depth, fun more => by simp⟩
  | cons c text ih =>
      rcases closeFrom_cons_cases left right state depth c with hends | ⟨next, hnext⟩
      · simp [hends] at h
      · rw [hnext, Option.map_eq_none_iff] at h
        obtain ⟨last, hlast⟩ := ih h
        refine ⟨last, fun more => ?_⟩
        rw [List.cons_append, hnext, hlast, Option.map_map]
        rfl

/-- Nothing is closed inside a literal that is not. -/
theorem closeFrom_inside {quote : Char} (hquote : quote ∉ text) (hescape : '\\' ∉ text) :
    closeFrom left right (.inside quote) depth text = none := by
  induction text with
  | nil => rfl
  | cons c text ih =>
      obtain ⟨hc, hquote⟩ := not_or.mp (mt List.mem_cons.mpr hquote)
      obtain ⟨hbackslash, hescape⟩ := not_or.mp (mt List.mem_cons.mpr hescape)
      have hstay : (Quoting.inside quote).step c = .inside quote := by
        rw [Quoting.step, if_neg (Ne.symm hbackslash), if_neg (Ne.symm hc)]
      have hcode : ¬(Quoting.inside quote).isCode c = true := by simp [Quoting.isCode]
      rw [closeFrom, if_neg hcode, hstay]
      exact Option.map_eq_none_iff.mpr (ih hquote hescape)

end

end HeaderBindings.Source
