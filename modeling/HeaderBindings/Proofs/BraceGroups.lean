import HeaderBindings.Proofs.Nesting
import HeaderBindings.Proofs.PairedTexts

/-!
Brace groups in the scan for statements. Counting the braces of a group comes to the same as looking
for the brace that closes it: a group that is closed ends the statement in front of it or belongs to
its statement as a whole, and one that is not closed takes all the rest with it. So the body of a
function does as a semicolon does, whatever stands in it.
-/

namespace HeaderBindings.Source
open Text

namespace StatementScan

/-! ### Inside a group -/

section
variable {scan : StatementScan} {text group behind : List Char}

/-- A character in a brace group either is the brace that closes it, or takes the search for that
brace on. -/
theorem step_of_braces (hbraces : scan.braces ≠ 0) (c : Char) :
    (∃ next, scan.step c = (next, none) ∧ next.braces ≠ 0 ∧ next.head = scan.head ∧
      next.pending = c :: scan.pending ∧ next.parentheses = scan.parentheses ∧
      ∀ rest, closeFrom '\x7b' '\x7d' scan.quoting scan.braces (c :: rest)
        = (closeFrom '\x7b' '\x7d' next.quoting next.braces rest).map
            fun cut => (c :: cut.1, cut.2)) ∨
    ((∀ rest, closeFrom '\x7b' '\x7d' scan.quoting scan.braces (c :: rest) = some ([c], rest)) ∧
      scan.step c = if endsList scan.head then ({}, some (trim scan.head.reverse))
        else ({ scan with
          quoting := .code, braces := 0, head := [], pending := c :: scan.pending }, none)) := by
  by_cases hcode : scan.quoting.isCode c = true
  · have hstep : scan.step c = if c = '\x7b' then
          ({ scan.push c with braces := scan.braces + 1 }, none)
        else if c = '\x7d' then
          if scan.braces ≠ 1 then ({ scan.push c with braces := scan.braces - 1 }, none)
          else if endsList scan.head then ({}, some (trim scan.head.reverse))
          else ({ scan.push c with braces := 0, head := [] }, none)
        else (scan.push c, none) := by
      rw [step, if_neg (by simp [hcode]), if_neg hbraces]
    by_cases hopen : c = '\x7b'
    · refine .inl ⟨{ scan.push c with braces := scan.braces + 1 }, ?_, by simp, rfl, rfl, rfl,
        fun rest => ?_⟩
      · rw [hstep, if_pos hopen]
      · rw [closeFrom, if_pos hcode, if_pos hopen]
        rfl
    · rw [if_neg hopen] at hstep
      by_cases hclose : c = '\x7d'
      · rw [if_pos hclose] at hstep
        by_cases hone : scan.braces = 1
        · refine .inr ⟨fun rest => ?_, ?_⟩
          · rw [closeFrom, if_pos hcode, if_neg hopen, if_pos hclose, if_pos (by omega)]
          · rw [hstep, if_neg (by simp [hone]), push, Quoting.step_of_isCode hcode]
        · refine .inl ⟨{ scan.push c with braces := scan.braces - 1 }, ?_, ?_, rfl, rfl, rfl,
            fun rest => ?_⟩
          · rw [hstep, if_pos hone]
          · show scan.braces - 1 ≠ 0
            omega
          · rw [closeFrom, if_pos hcode, if_neg hopen, if_pos hclose, if_neg (by omega)]
            rfl
      · rw [if_neg hclose] at hstep
        refine .inl ⟨scan.push c, hstep, hbraces, rfl, rfl, rfl, fun rest => ?_⟩
        rw [closeFrom, if_pos hcode, if_neg hopen, if_neg hclose]
        rfl
  · have hstep : scan.step c = (scan.push c, none) := by
      rw [step, if_pos (by simp [hcode])]
    refine .inl ⟨scan.push c, hstep, hbraces, rfl, rfl, rfl, fun rest => ?_⟩
    rw [closeFrom, if_neg hcode]
    rfl

/-- In a group that is not closed no statement ends. -/
theorem ended_of_closeFrom_eq_none (hbraces : scan.braces ≠ 0)
    (h : closeFrom '\x7b' '\x7d' scan.quoting scan.braces text = none) :
    (scan.after text).braces ≠ 0 ∧ scan.ended text = [] := by
  induction text generalizing scan with
  | nil => exact ⟨hbraces, rfl⟩
  | cons c text ih =>
      rcases step_of_braces hbraces c with ⟨next, hstep, hnext, -, -, -, hclose⟩ | ⟨hclose, -⟩
      · rw [hclose, Option.map_eq_none_iff] at h
        rw [after, ended, hstep]
        exact ih hnext h
      · rw [hclose] at h
        cases h

/-- A group that is closed ends the statement in front of it, or the statement goes on behind it. -/
theorem after_of_closeFrom_eq_some (hbraces : scan.braces ≠ 0)
    (h : closeFrom '\x7b' '\x7d' scan.quoting scan.braces text = some (group, behind)) :
    (scan.after group, scan.ended group)
      = if endsList scan.head then ({}, [trim scan.head.reverse])
        else ({ scan with
          quoting := .code, braces := 0, head := [], pending := group.reverse ++ scan.pending },
            []) := by
  induction text generalizing scan group with
  | nil => cases h
  | cons c text ih =>
      rcases step_of_braces hbraces c with
        ⟨next, hstep, hnext, hhead, hpending, hparentheses, hclose⟩ | ⟨hclose, hstep⟩
      · rw [hclose] at h
        obtain ⟨⟨inner, rest⟩, hfound, hsame⟩ := Option.map_eq_some_iff.mp h
        obtain ⟨rfl, rfl⟩ := Prod.mk.inj hsame
        have hinner := ih hnext hfound
        rw [hhead, hpending, hparentheses] at hinner
        rw [after, ended, hstep, List.reverse_cons, List.append_assoc]
        exact hinner
      · rw [hclose] at h
        obtain ⟨rfl, rfl⟩ := Prod.mk.inj (Option.some.inj h)
        rw [after, ended, hstep]
        split
        · rfl
        · rfl

/-- The statements behind a position inside a brace group. -/
theorem statementsFrom_of_braces (hbraces : scan.braces ≠ 0) (text : List Char) :
    statementsFrom scan text
      = match closeFrom '\x7b' '\x7d' scan.quoting scan.braces text with
        | none => [trim (scan.pending.reverse ++ text)]
        | some (group, behind) =>
            if endsList scan.head then trim scan.head.reverse :: statementsFrom {} behind
            else statementsFrom { scan with
              quoting := .code, braces := 0, head := [], pending := group.reverse ++ scan.pending }
                behind := by
  cases hclose : closeFrom '\x7b' '\x7d' scan.quoting scan.braces text with
  | none =>
      have hended := (ended_of_closeFrom_eq_none hbraces hclose).2
      rw [statementsFrom_eq, hended, statement, pending_of_ended hended, List.reverse_append,
        List.reverse_reverse]
      rfl
  | some cut =>
      have hafter := after_of_closeFrom_eq_some hbraces hclose
      rw [← closeFrom_append hclose, statementsFrom_after]
      simp only
      split at hafter
      case isTrue hlist =>
        obtain ⟨hafter, hended⟩ := Prod.mk.inj hafter
        rw [hafter, hended, if_pos hlist]
        rfl
      case isFalse hlist =>
        obtain ⟨hafter, hended⟩ := Prod.mk.inj hafter
        rw [hafter, hended, if_neg hlist]
        rfl

end

/-! ### A group behind a statement -/

/-- A character of code outside brace groups. -/
theorem step_of_code {c : Char} (hquote : isQuote c = false) (parentheses : Nat)
    (head pending : List Char) :
    step { parentheses, head, pending } c
      = if c = '(' then ({ parentheses := parentheses + 1, head, pending := c :: pending }, none)
        else if c = ')' then
          ({ parentheses := parentheses - 1, head, pending := c :: pending }, none)
        else if c = ';' && parentheses == 0 then ({}, some (trim pending.reverse))
        else if c = '\x7b' && parentheses == 0 then
          ({ parentheses, braces := 1, head := pending, pending := c :: pending }, none)
        else ({ parentheses, head, pending := c :: pending }, none) := by
  have hcode := Quoting.isCode_code hquote
  rw [step, if_neg (by simp [hcode]), if_pos rfl]
  simp only [push, Quoting.step_of_isCode hcode, statement]

/-- The scan behind a brace that opens a group. -/
def opened (pending : List Char) : StatementScan :=
  { braces := 1, head := pending, pending := '\x7b' :: pending }

theorem step_brace (head pending : List Char) :
    step { head, pending } '\x7b' = (opened pending, none) := rfl

theorem ended_opened_of_closeFrom_eq_none {text : List Char} (pending : List Char)
    (h : closeFrom '\x7b' '\x7d' .code 1 text = none) :
    ((opened pending).after text).braces ≠ 0 ∧ (opened pending).ended text = [] :=
  @ended_of_closeFrom_eq_none (opened pending) text Nat.one_ne_zero h

theorem after_opened_of_closeFrom_eq_some {text group behind : List Char} (pending : List Char)
    (h : closeFrom '\x7b' '\x7d' .code 1 text = some (group, behind)) :
    ((opened pending).after group, (opened pending).ended group)
      = if endsList pending then ({}, [trim pending.reverse])
        else ({ pending := group.reverse ++ '\x7b' :: pending }, []) :=
  @after_of_closeFrom_eq_some (opened pending) text group behind Nat.one_ne_zero h

theorem statementsFrom_brace (head pending rest : List Char) :
    statementsFrom { head, pending } ('\x7b' :: rest)
      = match closeFrom '\x7b' '\x7d' .code 1 rest with
        | none => [trim (pending.reverse ++ '\x7b' :: rest)]
        | some (group, behind) =>
            if endsList pending then trim pending.reverse :: statementsFrom {} behind
            else statementsFrom { pending := group.reverse ++ '\x7b' :: pending } behind := by
  have hbraces := @statementsFrom_of_braces (opened pending) Nat.one_ne_zero rest
  rw [opened, List.reverse_cons, List.append_assoc] at hbraces
  rw [statementsFrom_cons, step_brace, opened]
  exact hbraces

/-! ### Lists -/

theorem head?_trimStart_append_blanks (text : List Char) {blanks : List Char}
    (hblanks : ∀ c ∈ blanks, isBlank c = true) :
    (trimStart (text ++ blanks)).head? = (trimStart text).head? := by
  have hnone : blanks.dropWhile isBlank = [] := List.dropWhile_eq_nil_iff.mpr hblanks
  rw [trimStart, trimStart, List.dropWhile_append, hnone]
  split
  case isTrue hempty =>
    rw [List.isEmpty_iff.mp hempty]
  case isFalse hne =>
    rw [List.head?_append]
    cases htext : text.dropWhile isBlank with
    | nil => simp [htext] at hne
    | cons c rest => rfl

theorem endsList_reverse (text : List Char) :
    endsList text.reverse = ((trim text).getLast? == some ')') := by
  have hreverse : text.reverse = (trimStart text).reverse ++ (text.takeWhile isBlank).reverse := by
    rw [trimStart, ← List.reverse_append, List.takeWhile_append_dropWhile]
  have hblanks : ∀ c ∈ (text.takeWhile isBlank).reverse, isBlank c = true := fun c hmem =>
    List.mem_takeWhile_imp (List.mem_reverse.mp hmem)
  rw [endsList, hreverse, head?_trimStart_append_blanks _ hblanks, trim, trimEnd,
    List.getLast?_reverse]

end StatementScan

/-! ### Function definitions -/

/-- A function definition is split as its prototype: its body, whatever stands in it, ends the
statement in front of it as a semicolon does. -/
theorem statements_definition {head body : List Char} (houtside : IsOutside head)
    (hlist : (trim (pendingText head)).getLast? = some ')') (hbody : IsPaired '\x7b' '\x7d' body)
    (rest : List Char) :
    statements (head ++ '\x7b' :: (body ++ '\x7d' :: rest)) = statements (head ++ ';' :: rest) := by
  obtain ⟨outer, hscan⟩ := houtside.exists_after
  have hends : StatementScan.endsList (pendingText head).reverse = true := by
    rw [StatementScan.endsList_reverse, hlist]
    rfl
  have hgroup : closeFrom '\x7b' '\x7d' .code 1 (body ++ '\x7d' :: rest)
      = some (body ++ ['\x7d'], rest) :=
    closeFrom_of_isPairedFrom (by decide) rfl hbody rest
  have hsemicolon : statementsFrom { head := outer, pending := (pendingText head).reverse }
      (';' :: rest) = trim (pendingText head).reverse.reverse :: statementsFrom {} rest := rfl
  rw [statements, statements, StatementScan.statementsFrom_after, hscan,
    StatementScan.statementsFrom_brace, hgroup, StatementScan.statementsFrom_after, hscan,
    hsemicolon]
  simp only [if_pos hends]

/-- Braces in literals, parentheses that are not closed and semicolons in a body are passed over. -/
theorem statements_definition_literals :
    let head := "struct s \x7b int a; \x7d x; int f(char *p)\n".toList
    let body := " if (*p == '\x7b') \x7b p = \"\\\"\x7d\"; ((; \x7d ".toList
    let rest := "int g(int b);".toList
    IsOutside head ∧ (trim (pendingText head)).getLast? = some ')' ∧
      IsPaired '\x7b' '\x7d' body ∧
      statements (head ++ '\x7b' :: (body ++ '\x7d' :: rest))
        = statements (head ++ ';' :: rest) := by
  intro head body rest
  have houtside : IsOutside head := by decide +kernel
  have hlist : (trim (pendingText head)).getLast? = some ')' := by decide +kernel
  have hbody : IsPaired '\x7b' '\x7d' body := by decide +kernel
  exact ⟨houtside, hlist, hbody, statements_definition houtside hlist hbody rest⟩

end HeaderBindings.Source
