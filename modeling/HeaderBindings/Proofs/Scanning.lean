import HeaderBindings.Proofs.Statements

/-!
Scans for statements that go side by side. Where a statement ends depends on the characters behind a
position and on what is counted in front of it, but hardly on the text of the statement so far. So
two scans that have counted the same end their statements at the same places: the statement that
they are in may differ, and all behind it is the same.
-/

namespace HeaderBindings.Source
open Text

namespace StatementScan

/-! ### One scan -/

/-- The scan after a text. -/
def after (scan : StatementScan) : List Char → StatementScan
  | [] => scan
  | c :: rest => (scan.step c).1.after rest

/-- The statements that end in a text. -/
def ended (scan : StatementScan) : List Char → List (List Char)
  | [] => []
  | c :: rest => (scan.step c).2.toList ++ (scan.step c).1.ended rest

theorem statementsFrom_cons (scan : StatementScan) (c : Char) (rest : List Char) :
    statementsFrom scan (c :: rest)
      = (scan.step c).2.toList ++ statementsFrom (scan.step c).1 rest := by
  rw [statementsFrom]
  rcases scan.step c with ⟨next, _ | statement⟩ <;> rfl

theorem statementsFrom_after (scan : StatementScan) (first second : List Char) :
    statementsFrom scan (first ++ second)
      = scan.ended first ++ statementsFrom (scan.after first) second := by
  induction first generalizing scan with
  | nil => rfl
  | cons c first ih =>
      rw [List.cons_append, statementsFrom_cons, ih, ended, List.append_assoc, after]

theorem statementsFrom_eq (scan : StatementScan) (text : List Char) :
    statementsFrom scan text = scan.ended text ++ [(scan.after text).statement] := by
  have hsplit := statementsFrom_after scan text []
  rwa [List.append_nil] at hsplit

/-- What a character does: the statement goes on with it, or it ends a statement. -/
theorem step_cases (scan : StatementScan) (c : Char) :
    (∃ next, scan.step c = (next, none) ∧ next.quoting = scan.quoting.step c ∧
      next.pending = c :: scan.pending ∧ (next.braces ≠ 0 → scan.braces ≠ 0 ∨ c = '\x7b')) ∨
    (c = ';' ∧ scan.step c = ({}, some scan.statement)) ∨
    (c = '\x7d' ∧ scan.step c = ({}, some (trim scan.head.reverse))) := by
  rw [step]
  split
  · exact .inl ⟨_, rfl, rfl, rfl, fun h => .inl h⟩
  · split
    · split
      · exact .inl ⟨_, rfl, rfl, rfl, fun h => .inl h⟩
      · split
        · exact .inl ⟨_, rfl, rfl, rfl, fun h => .inl h⟩
        · split
          case isTrue hends => exact .inr (.inl ⟨by simp_all, rfl⟩)
          case isFalse =>
            split
            case isTrue hopen => exact .inl ⟨_, rfl, rfl, rfl, fun _ => .inr (by simp_all)⟩
            case isFalse => exact .inl ⟨_, rfl, rfl, rfl, fun h => .inl h⟩
    case isFalse hbraces =>
      split
      · exact .inl ⟨_, rfl, rfl, rfl, fun _ => .inl hbraces⟩
      · split
        case isTrue hclose =>
          split
          · exact .inl ⟨_, rfl, rfl, rfl, fun _ => .inl hbraces⟩
          · split
            · exact .inr (.inr ⟨hclose, rfl⟩)
            · exact .inl ⟨_, rfl, rfl, rfl, fun _ => .inl hbraces⟩
        case isFalse => exact .inl ⟨_, rfl, rfl, rfl, fun h => .inl h⟩

/-- As long as no statement ends, all characters belong to the one that the scan is in. -/
theorem pending_of_ended {scan : StatementScan} {text : List Char} (h : scan.ended text = []) :
    (scan.after text).pending = text.reverse ++ scan.pending := by
  induction text generalizing scan with
  | nil => rfl
  | cons c text ih =>
      rw [ended, List.append_eq_nil_iff] at h
      obtain ⟨next, hnext, -, hpending, -⟩ | ⟨-, hnext⟩ | ⟨-, hnext⟩ := step_cases scan c
      · rw [hnext] at h
        rw [after, hnext, ih h.2, hpending, List.reverse_cons, List.append_assoc,
          List.singleton_append]
      · rw [hnext] at h
        cases h.1
      · rw [hnext] at h
        cases h.1

end StatementScan

/-! ### Two scans side by side -/

/-- Texts, given with their last characters first, that go on alike behind `front` and `back`. -/
def GoOnAlike (front back first second : List Char) : Prop :=
  ∃ text, first = text ++ front ∧ second = text ++ back

theorem GoOnAlike.cons {front back first second : List Char}
    (h : GoOnAlike front back first second) (c : Char) :
    GoOnAlike front back (c :: first) (c :: second) := by
  obtain ⟨text, rfl, rfl⟩ := h
  exact ⟨c :: text, rfl, rfl⟩

/-- Two scans that have counted the same. Their statements go on alike, and what stands in front of
their brace groups is related. -/
structure StatementScan.InStep (front back : List Char) (heads : List Char → List Char → Prop)
    (first second : StatementScan) : Prop where
  quoting : first.quoting = second.quoting
  parentheses : first.parentheses = second.parentheses
  braces : first.braces = second.braces
  pending : GoOnAlike front back first.pending second.pending
  head : first.braces ≠ 0 → heads first.head second.head

namespace StatementScan
section
variable {front back : List Char} {heads : List Char → List Char → Prop}
  {first second : StatementScan}

/-- A character either takes both scans on in step, or ends a statement in both, behind which they
are the same. -/
theorem InStep.step (hpending : ∀ a b, GoOnAlike front back a b → heads a b)
    (hlist : ∀ a b, heads a b → endsList a = endsList b)
    (h : InStep front back heads first second) (c : Char) :
    (∃ next next', first.step c = (next, none) ∧ second.step c = (next', none) ∧
      InStep front back heads next next') ∨
    ∃ a b, heads a b ∧ first.step c = ({}, some (trim a.reverse)) ∧
      second.step c = ({}, some (trim b.reverse)) := by
  obtain ⟨quoting, parentheses, braces, head, pending⟩ := first
  obtain ⟨_, _, _, head', pending'⟩ := second
  obtain ⟨rfl, rfl, rfl, hpend, hhead⟩ := h
  simp only at hpend hhead
  have hon (parentheses braces : Nat) {head head' : List Char}
      (hhead : braces ≠ 0 → heads head head') : InStep front back heads
        ⟨quoting.step c, parentheses, braces, head, c :: pending⟩
        ⟨quoting.step c, parentheses, braces, head', c :: pending'⟩ :=
    ⟨rfl, rfl, rfl, hpend.cons c, hhead⟩
  simp only [StatementScan.step, push, statement]
  split
  · exact .inl ⟨_, _, rfl, rfl, hon _ _ hhead⟩
  · by_cases hbraces : braces = 0
    · -- Outside brace groups the statements themselves may end, or become the heads of groups.
      subst hbraces
      simp only [if_true]
      split
      · exact .inl ⟨_, _, rfl, rfl, hon _ _ hhead⟩
      · split
        · exact .inl ⟨_, _, rfl, rfl, hon _ _ hhead⟩
        · split
          · exact .inr ⟨_, _, hpending _ _ hpend, rfl, rfl⟩
          · split
            · exact .inl ⟨_, _, rfl, rfl, hon _ _ fun _ => hpending _ _ hpend⟩
            · exact .inl ⟨_, _, rfl, rfl, hon _ _ hhead⟩
    · -- Inside a group the heads decide what its end does, and they end alike.
      have hheads := hhead hbraces
      simp only [if_neg hbraces]
      split
      · exact .inl ⟨_, _, rfl, rfl, hon _ _ fun _ => hheads⟩
      · split
        · split
          · exact .inl ⟨_, _, rfl, rfl, hon _ _ fun _ => hheads⟩
          · rw [hlist _ _ hheads]
            split
            · exact .inr ⟨_, _, hheads, rfl, rfl⟩
            · exact .inl ⟨_, _, rfl, rfl, hon _ _ fun hne => absurd rfl hne⟩
        · exact .inl ⟨_, _, rfl, rfl, hon _ _ hhead⟩

/-- Two scans in step end the same statements but for the one that they are in. -/
theorem InStep.statementsFrom (hpending : ∀ a b, GoOnAlike front back a b → heads a b)
    (hlist : ∀ a b, heads a b → endsList a = endsList b)
    (h : InStep front back heads first second) (text : List Char) :
    ∃ a b rest, heads a b ∧ Source.statementsFrom first text = trim a.reverse :: rest ∧
      Source.statementsFrom second text = trim b.reverse :: rest := by
  induction text generalizing first second with
  | nil => exact ⟨_, _, [], hpending _ _ h.pending, rfl, rfl⟩
  | cons c text ih =>
      simp only [statementsFrom_cons]
      rcases h.step hpending hlist c with ⟨next, next', hfirst, hsecond, hnext⟩ |
        ⟨a, b, hheads, hfirst, hsecond⟩
      · rw [hfirst, hsecond]
        exact ih hnext
      · rw [hfirst, hsecond]
        exact ⟨a, b, _, hheads, rfl, rfl⟩

end
end StatementScan

/-! ### Blanks pass the scan -/

theorem not_mem_scannedMarks_of_isBlank {c : Char} (h : isBlank c = true) : c ∉ scannedMarks := by
  have hmarks : scannedMarks.all (fun c => !isBlank c) = true := by decide +kernel
  intro hmem
  have hc := List.all_eq_true.mp hmarks c hmem
  simp [h] at hc

namespace StatementScan

theorem endsList_cons (c : Char) (reversed : List Char) :
    endsList (c :: reversed) = if isBlank c then endsList reversed else c == ')' := by
  rw [endsList, trimStart, List.dropWhile_cons]
  split
  · rfl
  · rfl

theorem after_blanks (scan : StatementScan) {blanks : List Char}
    (hblanks : ∀ c ∈ blanks, isBlank c = true) :
    scan.ended blanks = [] ∧ (scan.after blanks).pending = blanks.reverse ++ scan.pending := by
  induction blanks generalizing scan with
  | nil => exact ⟨rfl, rfl⟩
  | cons c blanks ih =>
      have hmarks : ∀ d ∈ [';', '\x7d'], c ≠ d := by
        rintro d hd rfl
        have hmark := not_mem_scannedMarks_of_isBlank (hblanks c List.mem_cons_self)
        simp only [List.mem_cons, List.not_mem_nil, or_false] at hd
        rcases hd with rfl | rfl <;> exact hmark (by decide)
      obtain ⟨next, hnext, -, hpending, -⟩ | ⟨hc, -⟩ | ⟨hc, -⟩ := step_cases scan c
      · obtain ⟨hended, hafter⟩ := ih next fun d hd => hblanks d (List.mem_cons_of_mem c hd)
        rw [ended, after, hnext, hended, hafter, hpending]
        simp
      · exact absurd hc (hmarks _ (by simp))
      · exact absurd hc (hmarks _ (by simp))

end StatementScan

theorem GoOnAlike.endsList {front back first second : List Char}
    (h : GoOnAlike front back first second)
    (hsame : StatementScan.endsList front = StatementScan.endsList back) :
    StatementScan.endsList first = StatementScan.endsList second := by
  obtain ⟨text, rfl, rfl⟩ := h
  induction text with
  | nil => exact hsame
  | cons c text ih =>
      rw [List.cons_append, List.cons_append, StatementScan.endsList_cons,
        StatementScan.endsList_cons, ih]

namespace StatementScan

theorem statementsFrom_blanks_append {blanks : List Char} (hblanks : ∀ c ∈ blanks, isBlank c = true)
    (rest : List Char) : statementsFrom {} (blanks ++ rest) = statementsFrom {} rest := by
  have hmarks : ∀ c ∈ blanks, c ∉ scannedMarks := fun c hmem =>
    not_mem_scannedMarks_of_isBlank (hblanks c hmem)
  have hsame : endsList [] = endsList blanks.reverse := by
    have hnone : blanks.reverse.dropWhile isBlank = [] :=
      List.dropWhile_eq_nil_iff.mpr (by simpa using hblanks)
    rw [endsList, endsList, trimStart, trimStart, hnone]
    rfl
  have hstep : InStep [] blanks.reverse (GoOnAlike [] blanks.reverse) {}
      { pending := blanks.reverse ++ [] } :=
    ⟨rfl, rfl, rfl, ⟨[], rfl, by simp⟩, fun hbraces => absurd rfl hbraces⟩
  obtain ⟨_, _, others, ⟨text, rfl, rfl⟩, hfirst, hsecond⟩ :=
    hstep.statementsFrom (fun _ _ h => h) (fun _ _ h => h.endsList hsame) rest
  rw [statementsFrom_append hmarks 0 [], hfirst, hsecond, List.append_nil, List.reverse_append,
    List.reverse_reverse, trim_blanks_append hblanks]

theorem statementsFrom_append_blanks (text : List Char) {blanks : List Char}
    (hblanks : ∀ c ∈ blanks, isBlank c = true) :
    statementsFrom {} (text ++ blanks) = statementsFrom {} text := by
  obtain ⟨hended, hpending⟩ := after_blanks (after {} text) hblanks
  rw [statementsFrom_after, statementsFrom_eq _ blanks, statementsFrom_eq _ text, hended, statement,
    hpending, List.reverse_append, List.reverse_reverse, trim_append_blanks _ hblanks,
    List.nil_append]
  rfl

theorem statementsFrom_trim (text : List Char) :
    statementsFrom {} (trim text) = statementsFrom {} text := by
  obtain ⟨lead, trail, htext, hlead, htrail⟩ := exists_blanks_trim text
  rw [← statementsFrom_append_blanks _ htrail, ← statementsFrom_blanks_append hlead, ← htext]

/-- Inside a brace group the statement holds the brace that opened it. -/
theorem mem_pending_of_braces {scan : StatementScan}
    (h : scan.braces ≠ 0 → '\x7b' ∈ scan.pending) (text : List Char) :
    (scan.after text).braces ≠ 0 → '\x7b' ∈ (scan.after text).pending := by
  induction text generalizing scan with
  | nil => exact h
  | cons c text ih =>
      rw [after]
      refine ih ?_
      obtain ⟨next, hnext, -, hpending, hbraces⟩ | ⟨-, hnext⟩ | ⟨-, hnext⟩ := step_cases scan c
      · rw [hnext, hpending, List.mem_cons]
        intro hne
        rcases hbraces hne with hopen | hopen
        · exact .inr (h hopen)
        · exact .inl hopen.symm
      · rw [hnext]
        exact fun hne => absurd rfl hne
      · rw [hnext]
        exact fun hne => absurd rfl hne

/-- Whether a text ends with a list is seen in the statement in which it ends. -/
theorem endsList_pending (scan : StatementScan) (text : List Char) :
    endsList (scan.after text).pending = endsList (text.reverse ++ scan.pending) := by
  induction text generalizing scan with
  | nil => rfl
  | cons c text ih =>
      have hended (hc : c = ';' ∨ c = '\x7d') :
          endsList (text.reverse ++ []) = endsList (text.reverse ++ c :: scan.pending) := by
        refine GoOnAlike.endsList ⟨_, rfl, rfl⟩ ?_
        rw [endsList_cons]
        rcases hc with rfl | rfl <;> rfl
      rw [after, ih, List.reverse_cons, List.append_assoc, List.singleton_append]
      obtain ⟨next, hnext, -, hpending, -⟩ | ⟨hc, hnext⟩ | ⟨hc, hnext⟩ := step_cases scan c
      · rw [hnext, hpending]
      · rw [hnext]
        exact hended (.inl hc)
      · rw [hnext]
        exact hended (.inr hc)

end StatementScan

/-! ### Reading statements -/

theorem value_readStatements_cons (filter : NameFilter) (statement : List Char)
    (rest : List (List Char)) :
    (readStatements filter (statement :: rest)).value
      = (readStatement filter statement).value ++ (readStatements filter rest).value := rfl

theorem value_readStatements_append (filter : NameFilter) (first second : List (List Char)) :
    (readStatements filter (first ++ second)).value
      = (readStatements filter first).value ++ (readStatements filter second).value := by
  induction first with
  | nil => rfl
  | cons statement first ih =>
      rw [List.cons_append, value_readStatements_cons, ih, value_readStatements_cons,
        Header.append_assoc]

theorem value_readStatement_of_not_looksLikeFunction {statement : List Char}
    (h : looksLikeFunction statement = false) (filter : NameFilter) :
    (readStatement filter statement).value = {} := by
  rw [readStatement, h]
  rfl

/-- A statement with a brace group is passed over. -/
theorem value_readStatement_of_brace {text : List Char} (h : '\x7b' ∈ text) (filter : NameFilter) :
    (readStatement filter (trim text)).value = {} := by
  have hmem : '\x7b' ∈ trim text := by
    obtain ⟨lead, trail, htext, hlead, htrail⟩ := exists_blanks_trim text
    rw [htext, List.mem_append, List.mem_append] at h
    rcases h with h | h | h
    · exact absurd (hlead _ h) (by decide)
    · exact h
    · exact absurd (htrail _ h) (by decide)
  refine value_readStatement_of_not_looksLikeFunction ?_ filter
  simp [looksLikeFunction, hmem]

theorem value_readStatements_filter (filter : NameFilter) (found : List (List Char)) :
    (readStatements filter (found.filter (!·.isEmpty))).value
      = (readStatements filter found).value := by
  induction found with
  | nil => rfl
  | cons statement rest ih =>
      cases statement with
      | nil =>
          rw [value_readStatements_cons, value_readStatement_of_not_looksLikeFunction rfl,
            Header.empty_append, ← ih]
          rfl
      | cons c statement =>
          rw [List.filter_cons_of_pos rfl, value_readStatements_cons, ih, value_readStatements_cons]

end HeaderBindings.Source
