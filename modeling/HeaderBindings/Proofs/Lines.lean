import HeaderBindings.Text.Lines

/-!
Cutting a text into pieces and lines. Pieces that hold no separator are found again when they are
joined with it, and no line holds a line feed.
-/

namespace HeaderBindings.Text

/-! ### Pieces -/

theorem consFirst_eq_modifyHead (c : Char) {pieces : List (List Char)} (h : pieces ≠ []) :
    consFirst c pieces = pieces.modifyHead (c :: ·) := by
  cases pieces with
  | nil => exact absurd rfl h
  | cons piece pieces => rfl

theorem mem_consFirst {c d : Char} {pieces : List (List Char)} {piece : List Char}
    (h : piece ∈ consFirst c pieces) (hd : d ∈ piece) : d = c ∨ ∃ other ∈ pieces, d ∈ other := by
  cases pieces with
  | nil =>
      obtain rfl := List.mem_singleton.mp h
      exact .inl (List.mem_singleton.mp hd)
  | cons first others =>
      rcases List.mem_cons.mp h with rfl | hmem
      · exact (List.mem_cons.mp hd).imp_right fun hfirst => ⟨first, List.mem_cons_self, hfirst⟩
      · exact .inr ⟨piece, List.mem_cons_of_mem first hmem, hd⟩

theorem cutAt_eq_splitOn (separator : Char) (text : List Char) :
    cutAt separator text = text.splitOn separator := by
  induction text with
  | nil => exact (List.splitOn_nil separator).symm
  | cons c rest ih =>
      rw [cutAt, consFirst_eq_modifyHead c (cutAt_ne_nil separator rest), ih,
        List.splitOn_cons_eq_if_modifyHead]
      simp only [beq_iff_eq]

/-- The pieces joined with the separator are the text again. -/
theorem intercalate_cutAt (separator : Char) (text : List Char) :
    [separator].intercalate (cutAt separator text) = text := by
  rw [cutAt_eq_splitOn, List.intercalate_splitOn]

theorem cutAt_of_not_mem {separator : Char} {text : List Char} (h : separator ∉ text) :
    cutAt separator text = [text] := by
  rw [cutAt_eq_splitOn, List.splitOn_eq_singleton h]

theorem mem_of_mem_cutAt {separator : Char} {text piece : List Char} {c : Char}
    (hpiece : piece ∈ cutAt separator text) (hc : c ∈ piece) : c ∈ text := by
  induction text generalizing piece with
  | nil =>
      obtain rfl := List.mem_singleton.mp hpiece
      exact hc
  | cons first rest ih =>
      rw [cutAt] at hpiece
      split at hpiece
      · rcases List.mem_cons.mp hpiece with rfl | hpiece
        · cases hc
        · exact List.mem_cons_of_mem first (ih hpiece hc)
      · rcases mem_consFirst hpiece hc with rfl | ⟨other, hother, hc⟩
        · exact List.mem_cons_self
        · exact List.mem_cons_of_mem first (ih hother hc)

/-- No piece holds the separator. -/
theorem separator_not_mem_cutAt {separator : Char} {text piece : List Char}
    (h : piece ∈ cutAt separator text) : separator ∉ piece := by
  induction text generalizing piece with
  | nil =>
      obtain rfl := List.mem_singleton.mp h
      exact List.not_mem_nil
  | cons c rest ih =>
      rw [cutAt] at h
      split at h
      case isTrue =>
        rcases List.mem_cons.mp h with rfl | h
        · exact List.not_mem_nil
        · exact ih h
      case isFalse hc =>
        intro hmem
        rcases mem_consFirst h hmem with heq | ⟨other, hother, hmem⟩
        · exact hc heq.symm
        · exact ih hother hmem

/-- What stands behind a separator is cut on its own. -/
theorem cutAt_append_cons (separator : Char) (before behind : List Char) :
    cutAt separator (before ++ separator :: behind)
      = cutAt separator before ++ cutAt separator behind := by
  rw [cutAt_eq_splitOn, cutAt_eq_splitOn, cutAt_eq_splitOn]
  exact List.splitOnP_append_cons _ _ (beq_self_eq_true separator)

/-- Pieces that are ended by a separator are found again, with nothing behind the last one. -/
theorem cutAt_lines {separator : Char} {pieces : List (List Char)}
    (h : ∀ piece ∈ pieces, separator ∉ piece) :
    cutAt separator (pieces.flatMap (· ++ [separator])) = pieces ++ [[]] := by
  induction pieces with
  | nil => rfl
  | cons piece rest ih =>
      obtain ⟨hpiece, hrest⟩ := List.forall_mem_cons.mp h
      rw [List.flatMap_cons, List.append_assoc, List.singleton_append, cutAt_append_cons,
        ih hrest, cutAt_of_not_mem hpiece]
      rfl

theorem cutAt_intercalate {separator : Char} {pieces : List (List Char)} (hne : pieces ≠ [])
    (h : ∀ piece ∈ pieces, separator ∉ piece) :
    cutAt separator ([separator].intercalate pieces) = pieces := by
  rw [cutAt_eq_splitOn, List.splitOn_intercalate separator h hne]

/-- What holds of a text without the separator, and of a text that begins with such a piece if it
holds of what stands behind the separator, holds of every text. -/
@[elab_as_elim]
theorem cutAt_induction {separator : Char} {motive : List Char → Prop}
    (last : ∀ piece, separator ∉ piece → motive piece)
    (next : ∀ piece rest, separator ∉ piece → motive rest → motive (piece ++ separator :: rest))
    (text : List Char) : motive text := by
  have hpieces (pieces : List (List Char)) (h : ∀ piece ∈ pieces, separator ∉ piece) :
      motive ([separator].intercalate pieces) := by
    induction pieces with
    | nil => exact last [] List.not_mem_nil
    | cons piece rest ih =>
        obtain ⟨hpiece, hrest⟩ := List.forall_mem_cons.mp h
        by_cases hlast : rest = []
        · subst hlast
          rw [List.intercalate_singleton]
          exact last piece hpiece
        · rw [List.intercalate_cons_of_ne_nil hlast, List.append_assoc]
          exact next piece _ hpiece (ih hrest)
  have htext := hpieces (cutAt separator text) fun _ => separator_not_mem_cutAt
  rwa [intercalate_cutAt] at htext

theorem mem_intercalate {α : Type} {separator : List α} {pieces : List (List α)} {a : α}
    (h : a ∈ separator.intercalate pieces) : a ∈ separator ∨ ∃ piece ∈ pieces, a ∈ piece := by
  induction pieces with
  | nil => simp at h
  | cons piece rest ih =>
      by_cases hrest : rest = []
      · subst hrest
        rw [List.intercalate_singleton] at h
        exact Or.inr ⟨piece, List.mem_cons_self, h⟩
      · rw [List.intercalate_cons_of_ne_nil hrest, List.append_assoc] at h
        rcases List.mem_append.mp h with h | h
        · exact Or.inr ⟨piece, List.mem_cons_self, h⟩
        · rcases List.mem_append.mp h with h | h
          · exact Or.inl h
          · exact (ih h).imp_right fun ⟨other, hmem, ha⟩ =>
              ⟨other, List.mem_cons_of_mem piece hmem, ha⟩

/-! ### Lines -/

/-- No line holds a line feed. -/
theorem newline_not_mem_lines (text : List Char) : ∀ line ∈ lines text, '\n' ∉ line := by
  fun_induction lines text with
  | case1 => simp
  | case2 rest ih => exact List.forall_mem_cons.mpr ⟨by simp, ih⟩
  | case3 rest _ ih => exact List.forall_mem_cons.mpr ⟨by simp, ih⟩
  | case4 c rest _ hc ih =>
      intro line hmem hnewline
      rcases mem_consFirst hmem hnewline with rfl | ⟨other, hother, hnewline⟩
      · exact hc rfl
      · exact ih other hother hnewline

/-- A text without a line feed is one line, unless it is empty. -/
theorem lines_of_not_mem {text : List Char} (h : '\n' ∉ text) (hne : text ≠ []) :
    lines text = [text] := by
  induction text with
  | nil => exact absurd rfl hne
  | cons c rest ih =>
      obtain ⟨hc, hrest⟩ := not_or.mp (mt List.mem_cons.mpr h)
      have hline : lines (c :: rest) = consFirst c (lines rest) := by
        rw [lines, if_neg (Ne.symm hc)]
        rintro behind rfl rfl
        exact hrest List.mem_cons_self
      rw [hline]
      by_cases hempty : rest = []
      · subst hempty
        rfl
      · rw [ih hrest hempty]
        rfl

/-- What stands in front of a line feed is a line, without a carriage return at its end. -/
theorem exists_lines_append_cons {front : List Char} (h : '\n' ∉ front) (rest : List Char) :
    ∃ line, (front = line ∨ front = line ++ ['\r']) ∧
      lines (front ++ '\n' :: rest) = line :: lines rest := by
  induction front with
  | nil => exact ⟨[], .inl rfl, rfl⟩
  | cons c front ih =>
      obtain ⟨hc, hfront⟩ := not_or.mp (mt List.mem_cons.mpr h)
      by_cases hreturn : c = '\r' ∧ front = []
      · obtain ⟨rfl, rfl⟩ := hreturn
        exact ⟨[], .inr rfl, rfl⟩
      · obtain ⟨line, hends, hlines⟩ := ih hfront
        refine ⟨c :: line, ?_, ?_⟩
        · exact hends.imp (congrArg (c :: ·)) (congrArg (c :: ·))
        · rw [List.cons_append, lines, if_neg (Ne.symm hc), hlines]
          · rfl
          · intro behind hreturn' hbehind
            cases front with
            | nil => exact hreturn ⟨hreturn', rfl⟩
            | cons d front =>
                obtain ⟨rfl, -⟩ := List.cons.inj hbehind
                exact hfront List.mem_cons_self

end HeaderBindings.Text
