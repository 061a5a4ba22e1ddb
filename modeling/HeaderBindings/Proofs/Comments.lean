import HeaderBindings.Source.Comments

/-!
Taking comments out of a text that is read in parts. The region in which a text ends says how the
text behind it is read; a block comment is left at the first end in it, and a line comment at the
first line feed.
-/

namespace HeaderBindings.Source

/-! ### Single characters -/

/-- A character of code or of a literal stays unless it starts a comment. -/
theorem dropCommentsFrom_text_cons {state : Quoting} {c : Char} {rest : List Char}
    (h : state = .code → c = '/' → rest.head? ≠ some '*' ∧ rest.head? ≠ some '/') :
    dropCommentsFrom (.text state) (c :: rest)
      = c :: dropCommentsFrom (.text (state.step c)) rest := by
  rw [dropCommentsFrom]
  · rintro more hstate hc rfl
    exact (h hstate hc).1 rfl
  · rintro more hstate hc rfl
    exact (h hstate hc).2 rfl

/-- A character of a block comment is dropped unless it starts the end of the comment. -/
theorem dropCommentsFrom_blockComment_cons {c : Char} {rest : List Char}
    (h : ¬(c = '*' ∧ rest.head? = some '/')) :
    dropCommentsFrom .blockComment (c :: rest) = dropCommentsFrom .blockComment rest := by
  rw [dropCommentsFrom]
  rintro more hc rfl
  exact h ⟨hc, rfl⟩

/-- A character of a line comment is dropped unless it ends the line. -/
theorem dropCommentsFrom_lineComment_cons {c : Char} {rest : List Char} (h : c ≠ '\n') :
    dropCommentsFrom .lineComment (c :: rest) = dropCommentsFrom .lineComment rest := by
  rw [dropCommentsFrom]
  exact h

/-! ### Whole comments -/

/-- A text without the end of a block comment. -/
def IsCommentBody (text : List Char) : Prop := ¬ ['*', '/'] <:+: text

instance : DecidablePred IsCommentBody := fun text =>
  inferInstanceAs (Decidable (¬ ['*', '/'] <:+: text))

theorem isCommentBody_cons {c : Char} {rest : List Char} :
    IsCommentBody (c :: rest) ↔ ¬(c = '*' ∧ rest.head? = some '/') ∧ IsCommentBody rest := by
  rw [IsCommentBody, List.infix_cons_iff, not_or, IsCommentBody]
  refine and_congr_left fun _ => not_congr ?_
  cases rest <;> simp [eq_comm]

/-- A block comment goes on to its first end. -/
theorem dropCommentsFrom_blockComment {body : List Char} (hbody : IsCommentBody body)
    (rest : List Char) :
    dropCommentsFrom .blockComment (body ++ '*' :: '/' :: rest)
      = dropCommentsFrom (.text .code) rest := by
  induction body with
  | nil => rw [List.nil_append, dropCommentsFrom]
  | cons c body ih =>
      obtain ⟨hc, hrest⟩ := isCommentBody_cons.mp hbody
      rw [List.cons_append, dropCommentsFrom_blockComment_cons, ih hrest]
      rintro ⟨rfl, hhead⟩
      cases body with
      | nil => simp at hhead
      | cons d more => exact hc ⟨rfl, by simpa using hhead⟩

/-- A block comment without an end takes all the rest. -/
theorem dropCommentsFrom_blockComment_open {body : List Char} (hbody : IsCommentBody body) :
    dropCommentsFrom .blockComment body = [] := by
  induction body with
  | nil => rfl
  | cons c body ih =>
      obtain ⟨hc, hrest⟩ := isCommentBody_cons.mp hbody
      rw [dropCommentsFrom_blockComment_cons hc, ih hrest]

/-- A line comment goes on to the end of its line. -/
theorem dropCommentsFrom_lineComment {body : List Char} (hbody : '\n' ∉ body) (rest : List Char) :
    dropCommentsFrom .lineComment (body ++ '\n' :: rest)
      = '\n' :: dropCommentsFrom (.text .code) rest := by
  induction body with
  | nil => rw [List.nil_append, dropCommentsFrom]
  | cons c body ih =>
      obtain ⟨hc, hrest⟩ := not_or.mp (mt List.mem_cons.mpr hbody)
      rw [List.cons_append, dropCommentsFrom_lineComment_cons (Ne.symm hc), ih hrest]

/-! ### Two texts one after the other -/

/-- The region in which a text ends that is read from a region on. -/
def Region.after : Region → List Char → Region
  | .text .code, '/' :: '*' :: rest => after .blockComment rest
  | .text .code, '/' :: '/' :: rest => after .lineComment rest
  | .text state, c :: rest => after (.text (state.step c)) rest
  | .blockComment, '*' :: '/' :: rest => after (.text .code) rest
  | .blockComment, _ :: rest => after .blockComment rest
  | .lineComment, '\n' :: rest => after (.text .code) rest
  | .lineComment, _ :: rest => after .lineComment rest
  | region, [] => region

/-- Two texts are read one after the other when the first ends in code and its last character starts
no comment together with the second text. -/
theorem dropCommentsFrom_append {region : Region} {first second : List Char}
    (hcode : region.after first = .text .code)
    (hslash : ['/'] <:+ first → second.head? ≠ some '*' ∧ second.head? ≠ some '/') :
    dropCommentsFrom region (first ++ second)
      = dropCommentsFrom region first ++ dropCommentsFrom (.text .code) second := by
  fun_induction Region.after region first with
  | case1 rest ih =>
      have hrest (h : ['/'] <:+ rest) := hslash (h.trans ⟨['/', '*'], rfl⟩)
      simp only [List.cons_append, dropCommentsFrom, ih hcode hrest]
  | case2 rest ih =>
      have hrest (h : ['/'] <:+ rest) := hslash (h.trans ⟨['/', '/'], rfl⟩)
      simp only [List.cons_append, dropCommentsFrom, ih hcode hrest]
  | case3 state c rest hblock hline ih =>
      have hrest (h : ['/'] <:+ rest) := hslash (h.trans (List.suffix_cons c rest))
      have hhead (hstate : state = .code) (hc : c = '/') :
          (rest ++ second).head? ≠ some '*' ∧ (rest ++ second).head? ≠ some '/' := by
        cases rest with
        | nil => exact hslash ⟨[], by simp [hc]⟩
        | cons d others =>
            refine ⟨?_, ?_⟩ <;> intro heq <;> obtain rfl := Option.some.inj heq
            · exact hblock others hstate hc rfl
            · exact hline others hstate hc rfl
      have hkept : dropCommentsFrom (.text state) (c :: rest)
          = c :: dropCommentsFrom (.text (state.step c)) rest := by
        rw [dropCommentsFrom]
        · exact hblock
        · exact hline
      rw [List.cons_append, dropCommentsFrom_text_cons hhead, hkept, ih hcode hrest,
        List.cons_append]
  | case4 rest ih =>
      have hrest (h : ['/'] <:+ rest) := hslash (h.trans ⟨['*', '/'], rfl⟩)
      simp only [List.cons_append, dropCommentsFrom, ih hcode hrest]
  | case5 c rest hend ih =>
      have hrest (h : ['/'] <:+ rest) := hslash (h.trans (List.suffix_cons c rest))
      have hne : rest ≠ [] := by
        rintro rfl
        simp [Region.after] at hcode
      have hhead (more : List Char) : ¬(c = '*' ∧ (rest ++ more).head? = some '/') := by
        rintro ⟨hc, heq⟩
        obtain ⟨d, others, rfl⟩ := List.exists_cons_of_ne_nil hne
        obtain rfl := Option.some.inj heq
        exact hend others hc rfl
      have hkept := dropCommentsFrom_blockComment_cons (hhead [])
      rw [List.append_nil] at hkept
      rw [List.cons_append, dropCommentsFrom_blockComment_cons (hhead second), hkept,
        ih hcode hrest]
  | case6 rest ih =>
      have hrest (h : ['/'] <:+ rest) := hslash (h.trans (List.suffix_cons _ rest))
      simp only [List.cons_append, dropCommentsFrom, ih hcode hrest]
  | case7 c rest hend ih =>
      have hrest (h : ['/'] <:+ rest) := hslash (h.trans (List.suffix_cons c rest))
      rw [List.cons_append, dropCommentsFrom_lineComment_cons hend,
        dropCommentsFrom_lineComment_cons hend, ih hcode hrest]
  | case8 region =>
      subst hcode
      rfl

end HeaderBindings.Source
