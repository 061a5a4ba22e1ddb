import HeaderBindings.Proofs.BraceGroups
import HeaderBindings.Proofs.Offsets.Groups

/-!
Splitting source into statements by offsets. A brace group is passed over as a whole, which comes to
the same as counting its braces; what stands between the start of a statement and the offset that has
been reached is the statement so far.
-/

namespace HeaderBindings.Offsets
open Source Text

/-! ### Rounds -/

section
variable {text : List Char} {offset : Nat} {byte : UInt8} {split : Split}

theorem splitTurn_of_quote {closing : Nat} (split : Split)
    (helement : element (bytesOf text) offset = .ok byte) (hquote : isQuoteByte byte = true)
    (hliteral : literalEnd (bytesOf text) offset = .ok closing) :
    splitTurn text offset split = .ok (.next (closing + 1) split) := by
  have hparentheses : byte ≠ '('.toUInt8 ∧ byte ≠ ')'.toUInt8 := by
    rw [isQuoteByte, Bool.or_eq_true, beq_iff_eq, beq_iff_eq] at hquote
    rcases hquote with rfl | rfl <;> decide
  rw [splitTurn, helement]
  simp only [bind, Except.bind, if_neg hparentheses.1, if_neg hparentheses.2, hquote, if_true,
    hliteral]
  rfl

theorem splitTurn_of_plain (helement : element (bytesOf text) offset = .ok byte)
    (hquote : isQuoteByte byte = false) (hopen : byte ≠ '('.toUInt8) (hclose : byte ≠ ')'.toUInt8)
    (hend : ¬(byte = ';'.toUInt8 ∧ split.parentheses = 0))
    (hbrace : ¬(byte = '\x7b'.toUInt8 ∧ split.parentheses = 0)) :
    splitTurn text offset split = .ok (.next (offset + 1) split) := by
  rw [splitTurn, helement]
  simp only [bind, Except.bind, if_neg hopen, if_neg hclose, hquote, Bool.false_eq_true, if_false,
    if_neg hend, if_neg hbrace]
  rfl

theorem splitTurn_of_end {statement : List Char}
    (helement : element (bytesOf text) offset = .ok ';'.toUInt8) (hdepth : split.parentheses = 0)
    (hslice : slice text split.start offset = .ok statement) :
    splitTurn text offset split = .ok (.next (offset + 1)
      { split with start := offset + 1, found := split.found ++ [trim statement] }) := by
  rw [splitTurn, helement]
  simp only [bind, Except.bind, hslice]
  rw [if_neg (by decide), if_neg (by decide), if_neg (by decide), if_pos ⟨trivial, hdepth⟩]
  rfl

theorem splitTurn_of_open_brace (helement : element (bytesOf text) offset = .ok '\x7b'.toUInt8)
    (hdepth : split.parentheses = 0)
    (hgroup : groupEnd? (bytesOf text) '\x7b'.toUInt8 '\x7d'.toUInt8 offset = .ok none)
    {statements : List (List Char)} (hrest : splitRest text split = .ok statements) :
    splitTurn text offset split = .ok (.done statements) := by
  rw [splitTurn, helement]
  simp only [bind, Except.bind, hgroup, hrest]
  rw [if_neg (by decide), if_neg (by decide), if_neg (by decide),
    if_neg fun hend => absurd hend.1 (by decide), if_pos ⟨trivial, hdepth⟩]
  rfl

theorem splitTurn_of_closed_brace {closing : Nat} {head : List Char}
    (helement : element (bytesOf text) offset = .ok '\x7b'.toUInt8)
    (hdepth : split.parentheses = 0)
    (hgroup : groupEnd? (bytesOf text) '\x7b'.toUInt8 '\x7d'.toUInt8 offset = .ok (some closing))
    (hslice : slice text split.start offset = .ok head) :
    splitTurn text offset split = .ok (.next closing
      (if (trim head).getLast? = some ')' then
        { split with start := closing, found := split.found ++ [trim head] }
      else split)) := by
  rw [splitTurn, helement]
  simp only [bind, Except.bind, hgroup, hslice]
  rw [if_neg (by decide), if_neg (by decide), if_neg (by decide),
    if_neg fun hend => absurd hend.1 (by decide), if_pos ⟨trivial, hdepth⟩]
  split
  · rfl
  · rfl

end

/-! ### Splitting -/

/-- Of a text, what stands behind `done` and `pending` is split into statements, when `pending` is the
statement so far; statements of nothing but blanks do not count. -/
def Splits (text done pending : List Char) (found : List (List Char)) (parentheses : Nat)
    (rest : List Char) : Prop :=
  ∃ all, loop (size text) (splitTurn text) (splitRest text) (size (done ++ pending))
      ⟨size done, parentheses, found⟩ = .ok all ∧
    all.filter (!·.isEmpty) = (found
      ++ statementsFrom { parentheses, pending := pending.reverse } rest).filter (!·.isEmpty)

namespace Splits
variable {text done pending rest : List Char} {found : List (List Char)} {parentheses : Nat}
  {c : Char}

theorem splitRest_eq (htext : text = done ++ pending) (parentheses : Nat)
    (found : List (List Char)) :
    ∃ all, splitRest text ⟨size done, parentheses, found⟩ = .ok all ∧
      all.filter (!·.isEmpty) = (found ++ [trim pending]).filter (!·.isEmpty) := by
  rw [splitRest]
  cases pending with
  | nil =>
      rw [htext, List.append_nil, if_neg (Nat.lt_irrefl _)]
      exact ⟨found, rfl, by simp [trim, trimEnd, trimStart]⟩
  | cons c rest =>
      have hslice : slice text (size done) (size text) = .ok (c :: rest) := by
        rw [htext, slice_end]
      rw [if_pos (size_lt htext), hslice]
      exact ⟨_, rfl, rfl⟩

theorem nil (htext : text = done ++ pending) : Splits text done pending found parentheses [] := by
  obtain ⟨all, hall, hfilter⟩ := splitRest_eq htext parentheses found
  refine ⟨all, ?_, ?_⟩
  · rw [← htext, loop_of_le (Nat.le_refl _), hall]
  · rw [hfilter, statementsFrom, StatementScan.statement, List.reverse_reverse]

/-- Splitting goes on from another point, which comes to the same by offsets and by characters. -/
theorem of_next {done' pending' rest' : List Char} {found' : List (List Char)} {parentheses' : Nat}
    (hloop : loop (size text) (splitTurn text) (splitRest text) (size (done ++ pending))
        ⟨size done, parentheses, found⟩
      = loop (size text) (splitTurn text) (splitRest text) (size (done' ++ pending'))
        ⟨size done', parentheses', found'⟩)
    (hstatements : found ++ statementsFrom { parentheses, pending := pending.reverse } rest
      = found' ++ statementsFrom { parentheses := parentheses', pending := pending'.reverse } rest')
    (hnext : Splits text done' pending' found' parentheses' rest') :
    Splits text done pending found parentheses rest := by
  obtain ⟨all, hall, hfilter⟩ := hnext
  exact ⟨all, hloop.trans hall, by rw [hfilter, hstatements]⟩

theorem statementsFrom_of_code_or_nil {state : Quoting} {behind : List Char}
    (h : state = .code ∨ behind = []) (parentheses : Nat) (pending : List Char) :
    statementsFrom { quoting := state, parentheses, pending } behind
      = statementsFrom { parentheses, pending } behind := by
  rcases h with rfl | rfl
  · rfl
  · rfl

theorem literal (found : List (List Char)) (parentheses : Nat) (hquote : isQuote c = true)
    (htext : text = done ++ (pending ++ c :: rest)) :
    ∃ literal behind, rest = literal ++ behind ∧
      (Splits text done (pending ++ c :: literal) found parentheses behind →
        Splits text done pending found parentheses (c :: rest)) := by
  have hbefore : text = (done ++ pending) ++ c :: rest := by simp [htext]
  obtain ⟨literal, behind, rfl, hcovers, hbehind, hloop⟩ :=
    loop_literal (splitTurn text) (splitRest text) ⟨size done, parentheses, found⟩ hquote hbefore
      fun closing helement hliteral =>
        splitTurn_of_quote _ helement (isQuoteByte_of_isQuote hquote) hliteral
  refine ⟨literal, behind, rfl, of_next ?_ ?_⟩
  · rw [List.append_assoc] at hloop
    exact hloop
  · obtain ⟨hafter, hended⟩ :=
      @StatementScan.after_of_covers { parentheses, pending := pending.reverse } _ hcovers
    rw [← List.cons_append, StatementScan.statementsFrom_after, hended, hafter,
      statementsFrom_of_code_or_nil hbehind, List.nil_append, List.reverse_append]

/-- A character that belongs to the statement. -/
theorem mark {parentheses' : Nat}
    (hloop : loop (size text) (splitTurn text) (splitRest text) (size (done ++ pending))
        ⟨size done, parentheses, found⟩
      = loop (size text) (splitTurn text) (splitRest text) (size (done ++ pending ++ [c]))
        ⟨size done, parentheses', found⟩)
    (hstep : StatementScan.step { parentheses, pending := pending.reverse } c
      = ({ parentheses := parentheses', pending := c :: pending.reverse }, none)) :
    Splits text done (pending ++ [c]) found parentheses' rest →
      Splits text done pending found parentheses (c :: rest) := by
  refine of_next ?_ ?_
  · rw [List.append_assoc] at hloop
    exact hloop
  · rw [StatementScan.statementsFrom_cons, hstep, List.reverse_append]
    rfl

theorem parenthesis (found : List (List Char)) (parentheses : Nat) (hc : c = '(' ∨ c = ')')
    (htext : text = done ++ (pending ++ c :: rest)) :
    ∃ parentheses', Splits text done (pending ++ [c]) found parentheses' rest →
      Splits text done pending found parentheses (c :: rest) := by
  have hbefore : text = (done ++ pending) ++ c :: rest := by simp [htext]
  rcases hc with rfl | rfl
  · refine ⟨parentheses + 1, mark (loop_mark (by decide) hbefore fun helement => ?_) rfl⟩
    rw [splitTurn, helement]
    rfl
  · refine ⟨parentheses - 1, mark (loop_mark (by decide) hbefore fun helement => ?_) rfl⟩
    rw [splitTurn, helement]
    rfl

theorem semicolon (htext : text = done ++ (pending ++ ';' :: rest)) :
    Splits text (done ++ pending ++ [';']) [] (found ++ [trim pending]) 0 rest →
      Splits text done pending found 0 (';' :: rest) := by
  have hbefore : text = (done ++ pending) ++ ';' :: rest := by simp [htext]
  have hslice : slice text (size done) (size (done ++ pending)) = .ok pending := by
    rw [htext, slice_middle]
  refine of_next ?_ ?_
  · rw [List.append_nil, size_snoc_of_ascii (by decide : ';'.toNat < 0x80)]
    exact loop_of_next (size_lt hbefore)
      (splitTurn_of_end (element_of_ascii (by decide) hbefore) rfl hslice) (Nat.lt_succ_self _)
  · rw [StatementScan.statementsFrom_cons, StatementScan.step_of_code rfl, List.reverse_reverse,
      List.append_assoc]
    rfl

theorem groupEnd?_brace {before : List Char} (htext : text = before ++ '\x7b' :: rest) :
    groupEnd? (bytesOf text) '\x7b'.toUInt8 '\x7d'.toUInt8 (size before)
      = .ok ((closeFrom '\x7b' '\x7d' .code 1 rest).map fun cut =>
          size (before ++ '\x7b' :: cut.1)) := by
  have hopen : closingGroup? '\x7b' '\x7d' ('\x7b' :: rest)
      = (closeFrom '\x7b' '\x7d' .code 1 rest).map fun cut => ('\x7b' :: cut.1, cut.2) := rfl
  rw [groupEnd?_eq (by decide) (by decide) htext, hopen, Option.map_map]
  rfl

/-- A brace group that is not closed. -/
theorem openBrace (htext : text = done ++ (pending ++ '\x7b' :: rest))
    (hclose : closeFrom '\x7b' '\x7d' .code 1 rest = none) :
    Splits text done pending found 0 ('\x7b' :: rest) := by
  have hbefore : text = (done ++ pending) ++ '\x7b' :: rest := by simp [htext]
  have hgroup : groupEnd? (bytesOf text) '\x7b'.toUInt8 '\x7d'.toUInt8 (size (done ++ pending))
      = .ok none := by
    rw [groupEnd?_brace hbefore, hclose]
    rfl
  obtain ⟨all, hall, hfilter⟩ := splitRest_eq htext 0 found
  refine ⟨all, loop_of_done (size_lt hbefore) ?_, ?_⟩
  · exact splitTurn_of_open_brace (element_of_ascii (by decide) hbefore) rfl hgroup hall
  · rw [hfilter, StatementScan.statementsFrom_brace, hclose, List.reverse_reverse]

/-- A brace group that is closed: the body of a function, or a part of the statement. -/
theorem closedBrace {group behind : List Char}
    (htext : text = done ++ (pending ++ '\x7b' :: rest))
    (hclose : closeFrom '\x7b' '\x7d' .code 1 rest = some (group, behind)) :
    ∃ done' pending' found', text = done' ++ (pending' ++ behind) ∧
      (Splits text done' pending' found' 0 behind →
        Splits text done pending found 0 ('\x7b' :: rest)) := by
  have hbefore : text = (done ++ pending) ++ '\x7b' :: rest := by simp [htext]
  have hrest : group ++ behind = rest := closeFrom_append hclose
  have hslice : slice text (size done) (size (done ++ pending)) = .ok pending := by
    rw [htext, slice_middle]
  have hgroup : groupEnd? (bytesOf text) '\x7b'.toUInt8 '\x7d'.toUInt8 (size (done ++ pending))
      = .ok (some (size (done ++ pending ++ '\x7b' :: group))) := by
    rw [groupEnd?_brace hbefore, hclose]
    rfl
  have hturn := @splitTurn_of_closed_brace text _ ⟨size done, 0, found⟩ _ _
    (element_of_ascii (by decide) hbefore) rfl hgroup hslice
  have hstatements : statementsFrom { pending := pending.reverse } ('\x7b' :: rest)
      = if (trim pending).getLast? = some ')' then trim pending :: statementsFrom {} behind
        else statementsFrom { pending := (pending ++ '\x7b' :: group).reverse } behind := by
    rw [StatementScan.statementsFrom_brace, hclose]
    simp only [StatementScan.endsList_reverse, List.reverse_reverse, beq_iff_eq,
      List.reverse_append, List.reverse_cons, List.append_assoc, List.singleton_append]
  by_cases hlast : (trim pending).getLast? = some ')'
  · refine ⟨done ++ pending ++ '\x7b' :: group, [], found ++ [trim pending],
      by simp [htext, ← hrest], of_next ?_ ?_⟩
    · rw [if_pos hlast] at hturn
      rw [List.append_nil]
      exact loop_of_next (size_lt hbefore) hturn (size_lt rfl)
    · rw [hstatements, if_pos hlast, List.append_assoc]
      rfl
  · refine ⟨done, pending ++ '\x7b' :: group, found, by simp [htext, ← hrest], of_next ?_ ?_⟩
    · rw [if_neg hlast] at hturn
      rw [← List.append_assoc]
      exact loop_of_next (size_lt hbefore) hturn (size_lt rfl)
    · rw [hstatements, if_neg hlast]

theorem plain (hquote : isQuote c = false) (hopen : c ≠ '(') (hclose : c ≠ ')')
    (hend : c = ';' → parentheses ≠ 0) (hbrace : c = '\x7b' → parentheses ≠ 0)
    (htext : text = done ++ (pending ++ c :: rest)) :
    Splits text done (pending ++ [c]) found parentheses rest →
      Splits text done pending found parentheses (c :: rest) := by
  have hbefore : text = (done ++ pending) ++ c :: rest := by simp [htext]
  have hbyte {mark : Char} (hmark : mark.toNat < 0x80) (hne : c = mark → parentheses ≠ 0)
      {byte : UInt8} (hmem : byte ∈ String.utf8EncodeChar c) :
      ¬(byte = mark.toUInt8 ∧ parentheses = 0) := by
    rintro ⟨rfl, hdepth⟩
    exact hne ((toUInt8_mem_utf8EncodeChar_iff hmark).mp hmem) hdepth
  refine mark (loop_char hbefore fun offset byte hmem helement => ?_) ?_
  · exact splitTurn_of_plain helement (isQuoteByte_of_mem hquote hmem)
      (ne_of_mem_utf8EncodeChar (by decide) hopen hmem)
      (ne_of_mem_utf8EncodeChar (by decide) hclose hmem)
      (hbyte (by decide) hend hmem) (hbyte (by decide) hbrace hmem)
  · rw [StatementScan.step_of_code hquote, if_neg hopen, if_neg hclose,
      if_neg (by simpa using hend), if_neg (by simpa using hbrace)]

/-- Each round goes on behind a literal, a brace group or a single character, or ends the split. -/
theorem step (htext : text = done ++ (pending ++ c :: rest)) :
    Splits text done pending found parentheses (c :: rest) ∨
    ∃ done' pending' found' parentheses' rest', text = done' ++ (pending' ++ rest') ∧
      rest'.length ≤ rest.length ∧
      (Splits text done' pending' found' parentheses' rest' →
        Splits text done pending found parentheses (c :: rest)) := by
  have hsnoc : text = done ++ (pending ++ [c] ++ rest) := by simp [htext]
  cases hquote : isQuote c with
  | true =>
      obtain ⟨literal, behind, rfl, hnext⟩ := literal found parentheses hquote htext
      exact .inr ⟨done, _, found, parentheses, behind, by simp [htext], by simp, hnext⟩
  | false =>
      by_cases hparenthesis : c = '(' ∨ c = ')'
      · obtain ⟨parentheses', hnext⟩ := parenthesis found parentheses hparenthesis htext
        exact .inr ⟨done, _, found, parentheses', rest, hsnoc, Nat.le_refl _, hnext⟩
      · obtain ⟨hopen, hclose⟩ := not_or.mp hparenthesis
        by_cases hend : c = ';' ∧ parentheses = 0
        · obtain ⟨rfl, rfl⟩ := hend
          exact .inr ⟨_, [], _, 0, rest, by simp [htext], Nat.le_refl _, semicolon htext⟩
        · by_cases hbrace : c = '\x7b' ∧ parentheses = 0
          · obtain ⟨rfl, rfl⟩ := hbrace
            cases hgroup : closeFrom '\x7b' '\x7d' .code 1 rest with
            | none => exact .inl (openBrace htext hgroup)
            | some cut =>
                obtain ⟨done', pending', found', htext', hnext⟩ := closedBrace htext hgroup
                exact .inr ⟨done', pending', found', 0, cut.2, htext',
                  Nat.le_of_lt (length_lt_of_closeFrom hgroup), hnext⟩
          · exact .inr ⟨done, _, found, parentheses, rest, hsnoc, Nat.le_refl _,
              plain hquote hopen hclose (not_and.mp hend) (not_and.mp hbrace) htext⟩

end Splits

theorem splits {text done pending rest : List Char} (htext : text = done ++ (pending ++ rest))
    (found : List (List Char)) (parentheses : Nat) :
    Splits text done pending found parentheses rest := by
  -- On the length of the rest: a literal and a brace group are passed over as a whole.
  induction hlength : rest.length using Nat.strong_induction_on
    generalizing done pending rest found parentheses with
  | _ length ih =>
    cases rest with
    | nil => exact Splits.nil (by simpa using htext)
    | cons c rest =>
        rcases Splits.step htext with
          hends | ⟨done', pending', found', parentheses', rest', htext', hshort, hnext⟩
        · exact hends
        · refine hnext (ih rest'.length ?_ htext' found' parentheses' rfl)
          rw [← hlength, List.length_cons]
          omega

/-- The statements of a text. -/
theorem statements_eq (text : List Char) : statements text = .ok (Source.statements text) := by
  obtain ⟨all, hall, hfilter⟩ := @splits text [] [] text rfl [] 0
  rw [statements, show loop (size text) (splitTurn text) (splitRest text) 0 {} = .ok all from hall]
  exact congrArg Except.ok hfilter

end HeaderBindings.Offsets
