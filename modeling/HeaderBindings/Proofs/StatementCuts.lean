import HeaderBindings.Proofs.Nesting

/-!
Where a text is cut into statements. At a cut the scan is where it was at the start, so what stands
in front of a semicolon that ends a statement and what stands behind it are cut on their own. And no
statement has a cut within it, so cutting a statement gives the statement again.
-/

namespace HeaderBindings.Source
open Text

/-! ### Closed texts -/

/-- Whether a text leaves no literal, parenthesis or brace group open, and closes no parenthesis that
is not open, when it starts behind `parentheses` and `braces` open ones. Inside a brace group only
braces count, and inside parentheses only parentheses. -/
def isClosedFrom (state : Quoting) (parentheses braces : Nat) : List Char → Bool
  | [] => state == .code && parentheses == 0 && braces == 0
  | c :: rest =>
      let further := fun parentheses braces => isClosedFrom (state.step c) parentheses braces rest
      if !state.isCode c then further parentheses braces
      else if braces = 0 then
        if c = '(' then further (parentheses + 1) 0
        else if c = ')' then parentheses != 0 && further (parentheses - 1) 0
        else if c = '\x7b' && parentheses == 0 then further 0 1
        else further parentheses 0
      else if c = '\x7b' then further parentheses (braces + 1)
      else if c = '\x7d' then further parentheses (braces - 1)
      else further parentheses braces

/-- A text that leaves nothing open and closes nothing that is not open. -/
def IsClosed (text : List Char) : Prop := isClosedFrom .code 0 0 text = true

instance : DecidablePred IsClosed := fun _ => inferInstanceAs (Decidable (_ = true))

namespace StatementScan

theorem after_append (scan : StatementScan) (first second : List Char) :
    scan.after (first ++ second) = (scan.after first).after second := by
  induction first generalizing scan with
  | nil => rfl
  | cons c first ih => exact ih _

theorem ended_append (scan : StatementScan) (first second : List Char) :
    scan.ended (first ++ second) = scan.ended first ++ (scan.after first).ended second := by
  induction first generalizing scan with
  | nil => rfl
  | cons c first ih => rw [List.cons_append, ended, ih, ended, List.append_assoc, after]

end StatementScan

/-- What is open is counted as in a closed text. -/
theorem Nesting.isClosedFrom_step {nesting : Nesting} {c : Char} {rest : List Char}
    (h : isClosedFrom nesting.quoting nesting.parentheses nesting.braces (c :: rest) = true) :
    isClosedFrom (nesting.step c).quoting (nesting.step c).parentheses (nesting.step c).braces rest
      = true := by
  have hcode (hc : nesting.quoting.isCode c = true) :
      nesting.quoting.step c = nesting.quoting :=
    (Quoting.step_of_isCode hc).trans (Quoting.eq_code_of_isCode hc).symm
  grind [isClosedFrom, Nesting.step]

theorem Nesting.after_of_isClosedFrom {nesting : Nesting} {text : List Char}
    (h : isClosedFrom nesting.quoting nesting.parentheses nesting.braces text = true) :
    nesting.after text = {} := by
  induction text generalizing nesting with
  | nil =>
      obtain ⟨quoting, parentheses, braces⟩ := nesting
      simp only [isClosedFrom, Bool.and_eq_true, beq_iff_eq] at h
      obtain ⟨⟨rfl, rfl⟩, rfl⟩ := h
      rfl
  | cons c text ih => exact ih (isClosedFrom_step h)

namespace StatementScan

/-- Behind a closed text a scan has nothing open. -/
theorem after_of_isClosedFrom {scan : StatementScan} {text : List Char}
    (hbraces : scan.braces ≠ 0 → scan.parentheses = 0)
    (h : isClosedFrom scan.quoting scan.parentheses scan.braces text = true) :
    (scan.after text).quoting = .code ∧ (scan.after text).parentheses = 0 ∧
      (scan.after text).braces = 0 := by
  have hnone : scan.nesting.after text = {} := Nesting.after_of_isClosedFrom h
  rw [← nesting_after hbraces] at hnone
  exact Nesting.mk.inj hnone

/-! ### Texts without a cut -/

/-- What stands in front of a brace group is the start of the statement. -/
theorem head_suffix_step {scan : StatementScan} (h : scan.head <:+ scan.pending) (c : Char) :
    (scan.step c).1.head <:+ (scan.step c).1.pending := by
  have hon : scan.head <:+ c :: scan.pending := h.trans (List.suffix_cons c scan.pending)
  simp only [step, push]
  split
  · exact hon
  · split
    · split
      · exact hon
      · split
        · exact hon
        · split
          · exact List.suffix_refl []
          · split
            · exact List.suffix_cons c scan.pending
            · exact hon
    · split
      · exact hon
      · split
        · split
          · exact hon
          · split
            · exact List.suffix_refl []
            · exact List.nil_suffix
        · exact hon

/-- A scan that has come from the start to where it is without a cut. -/
structure IsUncut (scan : StatementScan) : Prop where
  ended : ended {} scan.pending.reverse = []
  after : after {} scan.pending.reverse = scan
  head : scan.head <:+ scan.pending

theorem isUncut_empty : IsUncut {} := ⟨rfl, rfl, List.suffix_refl []⟩

/-- Each character goes on without a cut, or it ends a statement that has none, and the scan is back
at the start. -/
theorem IsUncut.step {scan : StatementScan} (h : scan.IsUncut) (c : Char) :
    (∃ next, scan.step c = (next, none) ∧ next.IsUncut) ∨
      ∃ text, scan.step c = ({}, some (trim text)) ∧ StatementScan.ended {} text = [] := by
  have hhead := head_suffix_step h.head c
  obtain ⟨next, hnext, -, hpending, -⟩ | ⟨-, hnext⟩ | ⟨-, hnext⟩ := step_cases scan c
  · refine .inl ⟨next, hnext, ?_, ?_, ?_⟩
    · rw [hpending, List.reverse_cons, ended_append, h.ended, h.after, StatementScan.ended, hnext]
      rfl
    · rw [hpending, List.reverse_cons, after_append, h.after, StatementScan.after, hnext]
      rfl
    · rwa [hnext] at hhead
  · exact .inr ⟨scan.pending.reverse, hnext, h.ended⟩
  · obtain ⟨text, hsplit⟩ := List.reverse_prefix.mpr h.head
    have hended := h.ended
    rw [← hsplit, ended_append] at hended
    exact .inr ⟨scan.head.reverse, hnext, (List.append_eq_nil_iff.mp hended).1⟩

/-- A statement is a text without a cut, trimmed. -/
theorem exists_uncut_of_mem {scan : StatementScan} (h : scan.IsUncut) {text statement : List Char}
    (hmem : statement ∈ statementsFrom scan text) :
    ∃ uncut, StatementScan.ended {} uncut = [] ∧ statement = trim uncut := by
  induction text generalizing scan with
  | nil => exact ⟨scan.pending.reverse, h.ended, List.mem_singleton.mp hmem⟩
  | cons c text ih =>
      rw [statementsFrom_cons] at hmem
      rcases h.step c with ⟨next, hnext, huncut⟩ | ⟨uncut, hnext, hended⟩
      · rw [hnext] at hmem
        exact ih huncut hmem
      · rw [hnext] at hmem
        rcases List.mem_cons.mp hmem with rfl | hmem
        · exact ⟨uncut, hended, rfl⟩
        · exact ih isUncut_empty hmem

end StatementScan

/-- A text without a cut is one statement. -/
theorem statementsFrom_of_ended {text : List Char} (h : StatementScan.ended {} text = []) :
    statementsFrom {} text = [trim text] := by
  rw [StatementScan.statementsFrom_eq, h, StatementScan.statement,
    StatementScan.pending_of_ended h, List.append_nil, List.reverse_reverse, List.nil_append]

/-- A closed text and what stands behind a semicolon after it are cut into their own statements. And
whatever the text, its statements are trimmed, not empty, and not cut any further. -/
theorem statements_at_cuts :
    (∀ first second : List Char, IsClosed first →
      statements (first ++ ';' :: second) = statements first ++ statements second) ∧
    ∀ text statement : List Char, statement ∈ statements text →
      trim statement = statement ∧ statement ≠ [] ∧ statements statement = [statement] := by
  refine ⟨fun first second hclosed => ?_, fun text statement hmem => ?_⟩
  · have hstart : ({} : StatementScan).braces ≠ 0 → ({} : StatementScan).parentheses = 0 := fun _ => rfl
    obtain ⟨hquoting, hparentheses, hbraces⟩ :=
      StatementScan.after_of_isClosedFrom hstart hclosed
    have hcut : (StatementScan.after {} first).step ';'
        = ({}, some (StatementScan.after {} first).statement) := by
      simp [StatementScan.step, hquoting, hparentheses, hbraces, Quoting.isCode_code (c := ';') rfl]
    rw [statements, statements, statements, StatementScan.statementsFrom_after,
      StatementScan.statementsFrom_cons, hcut, StatementScan.statementsFrom_eq {} first]
    simp only [Option.toList_some, List.filter_append, List.append_assoc]
  · obtain ⟨hmem, hne⟩ := List.mem_filter.mp hmem
    obtain ⟨uncut, hended, rfl⟩ :=
      StatementScan.exists_uncut_of_mem StatementScan.isUncut_empty hmem
    refine ⟨trim_trim uncut, by simpa using hne, ?_⟩
    rw [statements, StatementScan.statementsFrom_trim, statementsFrom_of_ended hended]
    exact List.filter_cons_of_pos hne

/-- A brace in a literal leaves nothing open, and the semicolon behind a body ends nothing. -/
theorem statements_at_cuts_body :
    let first := "struct s \x7b int a; \x7d x; int f(char *p) \x7b p = \"\x7b;\"; \x7d".toList
    let second := "char c = ';'; \x7b".toList
    IsClosed first ∧
      statements (first ++ ';' :: second)
        = ["struct s \x7b int a; \x7d x", "int f(char *p)", "char c = ';'", "\x7b"].map String.toList ∧
      statements "int f(char *p)".toList = ["int f(char *p)".toList] := by
  intro first second
  have hclosed : IsClosed first := by decide +kernel
  refine ⟨hclosed, ?_, ?_⟩
  · rw [statements_at_cuts.1 first second hclosed]
    decide +kernel
  · exact (statements_at_cuts.2 first "int f(char *p)".toList (by decide +kernel)).2.2

end HeaderBindings.Source
