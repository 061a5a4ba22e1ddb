import HeaderBindings.Proofs.Literals

/-!
String literals in function bodies. What such a literal says has no influence on what is read of the
text, unless it begins a call that it does not close: calls are looked for in literals too, and the
search for the end of a call that began in one takes the closing quote for an opening one.
-/

namespace HeaderBindings.Source
open Text

/-! ### The place of the literal -/

/-- The scan for statements at the end of a text that is cleaned on its own. -/
def scanBehind (text : List Char) : StatementScan :=
  StatementScan.after {} (plainText (dropExtensions (dropComments (blankMarkers text))).value)

/-- The list of the call in which a text ends. -/
def listBehind? (text : List Char) : Option (List Char) :=
  openList? (dropComments (blankMarkers text))

/-- The text ends in code, behind an opening brace of its last statement. Calls that begin in
literals may move the bounds of the literals behind them: this has not happened. -/
structure EndsInBody (text : List Char) : Prop extends EndsInCode text where
  list : ∀ list ∈ listBehind? text, Quoting.code.after list = .code
  quoting : (scanBehind text).quoting = .code
  brace : '\x7b' ∈ (scanBehind text).pending

/-- A position inside a brace group is behind the brace that opened it. -/
theorem EndsInBody.of_braces {text : List Char} (hcode : EndsInCode text)
    (hlist : ∀ list ∈ listBehind? text, Quoting.code.after list = .code)
    (hquoting : (scanBehind text).quoting = .code) (hbraces : (scanBehind text).braces ≠ 0) :
    EndsInBody text :=
  ⟨hcode, hlist, hquoting, StatementScan.mem_pending_of_braces (by simp) _ hbraces⟩

/-! ### Cleaning -/

theorem dropComments_stringLiteral {before content : List Char} (after : List Char)
    (hbefore : EndsInCode before) (hcontent : IsLiteralContent content) :
    dropComments (blankMarkers (before ++ (stringLiteral content ++ after)))
      = dropComments (blankMarkers before)
        ++ (stringLiteral content ++ dropComments (blankMarkersFrom .inside after)) := by
  have hline : isMarkerLine (lastLine before ++ '"' :: (content ++ '"' :: after)) = false := by
    rw [isMarkerLine_append (isMarkerLine_cons_other (by decide) _)]
    exact hbefore.line
  have hnewline : '\n' ∉ content ++ ['"'] := by simp [hcontent.newline]
  have hinside := blankMarkersFrom_inside_append hnewline after
  rw [List.append_assoc, List.singleton_append, List.append_assoc, List.singleton_append] at hinside
  obtain ⟨hcovers, hafter⟩ := hcontent.covers
  rw [stringLiteral_append, blankMarkers_append_cons (by decide) hline, hinside,
    ← stringLiteral_append, dropComments, dropCommentsFrom_append hbefore.region,
    dropCommentsFrom_of_covers hcovers, hafter]
  · rfl
  · simp [stringLiteral]

/-- In front of a literal that closes the calls that it begins, a text outside calls is read on its
own. -/
theorem value_dropExtensions_stringLiteral {before content : List Char} (after : List Char)
    (hbefore : openList? before = none) (hcontent : openList? content = none) :
    (dropExtensions (before ++ (stringLiteral content ++ after))).value
      = (dropExtensions before).value
        ++ (stringLiteral (dropExtensions content).value ++ (dropExtensions after).value) := by
  have hmark : isWordChar '"' = false ∧ isBlank '"' = false ∧ '"' ≠ '(' := by decide +kernel
  rw [stringLiteral_append, stringLiteral_append,
    value_dropExtensions_append_cons hmark.1 hmark.2.1 hmark.2.2 hbefore,
    value_dropExtensions_append_cons hmark.1 hmark.2.1 hmark.2.2 hcontent]

/-- In a call a literal goes with the call, or stays with all behind it, whatever it says. -/
theorem value_dropExtensions_stringLiteral_in_call {before list : List Char} (after : List Char)
    (hbefore : openList? before = some list) (hlist : Quoting.code.after list = .code) :
    (∃ whole, ∀ content, IsLiteralContent content →
      (dropExtensions (before ++ (stringLiteral content ++ after))).value = whole) ∨
    ∀ content, IsLiteralContent content →
      (dropExtensions (before ++ (stringLiteral content ++ after))).value
        = (dropExtensions before).value ++ (stringLiteral content ++ after) := by
  have hmark : isWordChar '"' = false ∧ isBlank '"' = false ∧ '"' ≠ '(' := by decide +kernel
  obtain ⟨front, hfront⟩ :=
    exists_value_dropExtensions_append_cons hmark.1 hmark.2.1 hmark.2.2 hbefore
  obtain ⟨depth, hdepth⟩ := closeFrom_append_of_none (of_openList? hbefore).2
  have hsearch {content : List Char} (hcontent : IsLiteralContent content) :
      closingGroup? '(' ')' (list ++ (stringLiteral content ++ after))
        = (closeFrom '(' ')' .code depth after).map
            fun cut => (list ++ (stringLiteral content ++ cut.1), cut.2) := by
    obtain ⟨hcovers, hafter⟩ := hcontent.covers
    rw [closingGroup?, hdepth, hlist, closeFrom_of_covers hcovers, hafter, Option.map_map]
    rfl
  cases hclose : closeFrom '(' ')' .code depth after with
  | none =>
      refine .inr fun content hcontent => ?_
      have hnone := hsearch hcontent
      rw [hclose, stringLiteral_append] at hnone
      rw [stringLiteral_append, (hfront _).1 hnone]
  | some cut =>
      refine .inl ⟨front ++ ' ' :: (dropExtensions cut.2).value, fun content hcontent => ?_⟩
      have hsome := hsearch hcontent
      rw [hclose, stringLiteral_append] at hsome
      rw [stringLiteral_append, (hfront _).2 _ _ hsome]

theorem plainText_stringLiteral (before content after : List Char) :
    plainText (before ++ (stringLiteral content ++ after))
      = plainText before ++ (stringLiteral (plainText content) ++ plainText after) := by
  have hmark : isWordChar '"' = false ∧ isBlank '"' = false := by decide +kernel
  rw [stringLiteral_append, stringLiteral_append, plainText_append_cons hmark.1 hmark.2,
    plainText_append_cons hmark.1 hmark.2]

/-! ### Statements -/

/-- The statement of a literal is passed over when it has a brace in front of the literal, and all
other statements are the same whatever the literal says. -/
theorem value_readStatements_stringLiteral {before content other : List Char} (after : List Char)
    (hquoting : (StatementScan.after {} before).quoting = .code)
    (hbrace : '\x7b' ∈ (StatementScan.after {} before).pending)
    (hcontent : IsLiteralContent content) (hother : IsLiteralContent other) (filter : NameFilter) :
    (readStatements filter (statementsFrom {} (before ++ (stringLiteral content ++ after)))).value
      = (readStatements filter
          (statementsFrom {} (before ++ (stringLiteral other ++ after)))).value := by
  rw [StatementScan.statementsFrom_after {} before, StatementScan.statementsFrom_after {} before,
    hcontent.statementsFrom hquoting, hother.statementsFrom hquoting, value_readStatements_append,
    value_readStatements_append]
  generalize StatementScan.after {} before = scan at hbrace
  congr 1
  -- Up to the end of the brace group the two statements have the same head in front of them.
  have hstep : StatementScan.InStep ((stringLiteral content).reverse ++ scan.pending)
      ((stringLiteral other).reverse ++ scan.pending)
      (fun a b => a = b ∨ GoOnAlike ((stringLiteral content).reverse ++ scan.pending)
        ((stringLiteral other).reverse ++ scan.pending) a b)
      { scan with pending := (stringLiteral content).reverse ++ scan.pending }
      { scan with pending := (stringLiteral other).reverse ++ scan.pending } :=
    ⟨rfl, rfl, rfl, ⟨[], rfl, rfl⟩, fun _ => .inl rfl⟩
  have hends (content : List Char) :
      StatementScan.endsList ((stringLiteral content).reverse ++ scan.pending) = false := by
    simp [stringLiteral, StatementScan.endsList_cons, show isBlank '"' = false by decide]
  have hsame := (hends content).trans (hends other).symm
  obtain ⟨a, b, rest, hheads, hfirst, hsecond⟩ := hstep.statementsFrom (fun _ _ h => .inr h)
    (fun _ _ h => h.elim (congrArg _) fun h => h.endsList hsame) after
  rw [hfirst, hsecond, value_readStatements_cons, value_readStatements_cons]
  rcases hheads with rfl | ⟨text, rfl, rfl⟩
  · rfl
  · have hpassed (content : List Char) : (readStatement filter
        (trim (text ++ ((stringLiteral content).reverse ++ scan.pending)).reverse)).value = {} :=
      value_readStatement_of_brace (by simp [hbrace]) filter
    rw [hpassed, hpassed]

/-! ### A call that begins in the literal -/

theorem after_of_not_mem {state : Quoting} (h : state = .code ∨ state = .inside '\'')
    {text : List Char} (hquote : '"' ∉ text) (hescape : '\\' ∉ text) :
    state.after text = .code ∨ state.after text = .inside '\'' := by
  induction text generalizing state with
  | nil => exact h
  | cons c text ih =>
      obtain ⟨hc, hquote⟩ := not_or.mp (mt List.mem_cons.mpr hquote)
      obtain ⟨hbackslash, hescape⟩ := not_or.mp (mt List.mem_cons.mpr hescape)
      rw [Quoting.after_cons]
      refine ih ?_ hquote hescape
      by_cases hsingle : c = '\''
      · rcases h with rfl | rfl <;> simp [Quoting.step, isQuote, hsingle]
      · rcases h with rfl | rfl <;>
          simp [Quoting.step, isQuote, hsingle, Ne.symm hc, Ne.symm hbackslash]

/-- Behind a call that began in a literal, nothing is closed without further quotes, since the quote
behind the literal starts one or belongs to a character literal. -/
theorem closingGroup?_behind_literal {list after : List Char}
    (hlist : '"' ∉ list ∧ '\\' ∉ list) (hafter : '"' ∉ after ∧ '\'' ∉ after ∧ '\\' ∉ after)
    (hopen : closingGroup? '(' ')' list = none) :
    closingGroup? '(' ')' (list ++ '"' :: after) = none := by
  obtain ⟨depth, hdepth⟩ := closeFrom_append_of_none hopen
  rw [closingGroup?, hdepth, Option.map_eq_none_iff]
  rcases after_of_not_mem (.inl rfl) hlist.1 hlist.2 with hcode | hinside
  · have hstring : closeFrom '(' ')' (.inside '"') depth after = none :=
      closeFrom_inside hafter.1 hafter.2.2
    have hstep : closeFrom '(' ')' .code depth ('"' :: after)
        = (closeFrom '(' ')' (.inside '"') depth after).map fun cut => ('"' :: cut.1, cut.2) := rfl
    rw [hcode, hstep, hstring]
    rfl
  · rw [hinside]
    refine closeFrom_inside ?_ ?_
    · simpa using hafter.2.1
    · simpa using hafter.2.2

theorem value_dropExtensions_of_literal {before content after list : List Char}
    (hbefore : openList? before = none) (hcontent : IsLiteralContent content)
    (hopen : openList? content = some list)
    (hafter : '"' ∉ after ∧ '\'' ∉ after ∧ '\\' ∉ after) :
    (dropExtensions (before ++ (stringLiteral content ++ after))).value
      = (dropExtensions before).value
        ++ (stringLiteral (dropExtensions content).value ++ after) := by
  have hmark : isWordChar '"' = false ∧ isBlank '"' = false ∧ '"' ≠ '(' := by decide +kernel
  obtain ⟨hsuffix, hnone⟩ := of_openList? hopen
  have hlist : '"' ∉ list ∧ '\\' ∉ list :=
    ⟨fun hmem => hcontent.quote (hsuffix.subset hmem),
      fun hmem => hcontent.escape (hsuffix.subset hmem)⟩
  obtain ⟨front, hfront⟩ :=
    exists_value_dropExtensions_append_cons hmark.1 hmark.2.1 hmark.2.2 hopen
  rw [stringLiteral_append, stringLiteral_append,
    value_dropExtensions_append_cons hmark.1 hmark.2.1 hmark.2.2 hbefore,
    (hfront after).1 (closingGroup?_behind_literal hlist hafter hnone)]

/-! ### The whole reading -/

/-- A literal that begins a call and does not close it. -/
def LeavesCallOpen (content : List Char) : Prop := openList? content ≠ none

instance (content : List Char) : Decidable (LeavesCallOpen content) :=
  inferInstanceAs (Decidable (openList? content ≠ none))

theorem toList_literal (before content after : String) :
    (before ++ "\"" ++ content ++ "\"" ++ after).toList
      = before.toList ++ (stringLiteral content.toList ++ after.toList) := by
  simp [stringLiteral]

/-- In a body, literals that leave no call open are read alike, and in a call all literals are. -/
theorem value_readHeader_stringLiteral {before content other : String} (after : String)
    (hbefore : EndsInBody before.toList) (hcontent : IsLiteralContent content.toList)
    (hother : IsLiteralContent other.toList)
    (hcalls : listBehind? before.toList ≠ none ∨
      ¬LeavesCallOpen content.toList ∧ ¬LeavesCallOpen other.toList) (filter : NameFilter) :
    (readHeader filter (before ++ "\"" ++ content ++ "\"" ++ after)).value
      = (readHeader filter (before ++ "\"" ++ other ++ "\"" ++ after)).value := by
  have hread (rest : List Char) {content other : List Char} (hcontent : IsLiteralContent content)
      (hother : IsLiteralContent other) :=
    value_readStatements_stringLiteral (plainText rest) hbefore.quoting hbefore.brace
      hcontent.plainText hother.plainText filter
  rw [value_readHeader, value_readHeader, toList_literal, toList_literal,
    dropComments_stringLiteral _ hbefore.toEndsInCode hcontent,
    dropComments_stringLiteral _ hbefore.toEndsInCode hother]
  cases hlist : listBehind? before.toList with
  | none =>
      obtain ⟨hclosed, hclosed'⟩ := hcalls.resolve_left fun h => h hlist
      rw [value_dropExtensions_stringLiteral _ hlist (not_not.mp hclosed),
        value_dropExtensions_stringLiteral _ hlist (not_not.mp hclosed'),
        plainText_stringLiteral, plainText_stringLiteral]
      exact hread _ hcontent.value_dropExtensions hother.value_dropExtensions
  | some list =>
      rcases value_dropExtensions_stringLiteral_in_call
        (dropComments (blankMarkersFrom .inside after.toList)) hlist (hbefore.list list hlist) with
        ⟨whole, hwhole⟩ | hkept
      · rw [hwhole _ hcontent, hwhole _ hother]
      · rw [hkept _ hcontent, hkept _ hother, plainText_stringLiteral, plainText_stringLiteral]
        exact hread _ hcontent hother

/-- In this text a literal that leaves a call open keeps the call behind it from being taken out. -/
theorem functions_of_leavesCallOpen {content : String} (hcontent : IsLiteralContent content.toList)
    (hopen : LeavesCallOpen content.toList) :
    (readHeader {} ("int f(int a) \x7b" ++ "\"" ++ content ++ "\""
        ++ "\x7d int g(int b) __attribute__((pure));")).value.functions.map (·.name) = ["f"] := by
  obtain ⟨list, hlist⟩ := Option.ne_none_iff_exists'.mp hopen
  have hbefore : EndsInCode "int f(int a) \x7b".toList := ⟨by decide +kernel, by decide +kernel⟩
  have hfront : dropComments (blankMarkers "int f(int a) \x7b".toList)
      = "int f(int a) \x7b".toList := by decide +kernel
  have hback : dropComments
      (blankMarkersFrom .inside "\x7d int g(int b) __attribute__((pure));".toList)
        = "\x7d int g(int b) __attribute__((pure));".toList := by decide +kernel
  have hcalls : (dropExtensions "int f(int a) \x7b".toList).value
      = "int f(int a) \x7b".toList := by decide +kernel
  have hwords : plainText "int f(int a) \x7b".toList = "int f(int a) \x7b".toList := by
    decide +kernel
  have hwords' : plainText "\x7d int g(int b) __attribute__((pure));".toList
      = "\x7d int g(int b) __attribute__((pure));".toList := by decide +kernel
  have hstatements (pending : List Char) :
      statementsFrom { StatementScan.after {} "int f(int a) \x7b".toList with pending }
          "\x7d int g(int b) __attribute__((pure));".toList
        = "int f(int a)".toList
          :: statementsFrom {} " int g(int b) __attribute__((pure));".toList := by
    rfl
  rw [value_readHeader, toList_literal, dropComments_stringLiteral _ hbefore hcontent, hfront,
    hback, value_dropExtensions_of_literal (by decide +kernel) hcontent hlist (by decide +kernel), hcalls,
    plainText_stringLiteral, hwords, hwords',
    StatementScan.statementsFrom_after {} "int f(int a) \x7b".toList,
    hcontent.value_dropExtensions.plainText.statementsFrom rfl, hstatements]
  decide +kernel

/-- What a string literal in a function body says makes no difference to what is read, compared with
literals that leave no call open, exactly when it leaves none open itself. In a call it makes none
in any case. -/
theorem literal_in_body_unread_iff {content : String} (hcontent : IsLiteralContent content.toList) :
    ((∀ (filter : NameFilter) (before other after : String), EndsInBody before.toList →
        IsLiteralContent other.toList → ¬LeavesCallOpen other.toList →
        (readHeader filter (before ++ "\"" ++ content ++ "\"" ++ after)).value
          = (readHeader filter (before ++ "\"" ++ other ++ "\"" ++ after)).value)
      ↔ ¬LeavesCallOpen content.toList) ∧
    ∀ (filter : NameFilter) (before other after : String), EndsInBody before.toList →
      IsLiteralContent other.toList → listBehind? before.toList ≠ none →
      (readHeader filter (before ++ "\"" ++ content ++ "\"" ++ after)).value
        = (readHeader filter (before ++ "\"" ++ other ++ "\"" ++ after)).value := by
  refine ⟨⟨?_, ?_⟩, ?_⟩
  · intro hsame hopen
    have hbefore : EndsInBody "int f(int a) \x7b".toList :=
      .of_braces ⟨by decide +kernel, by decide +kernel⟩ (by decide +kernel) (by decide +kernel)
        (by decide +kernel)
    have hread := hsame {} "int f(int a) \x7b" "" "\x7d int g(int b) __attribute__((pure));" hbefore
      (by decide +kernel) (by decide +kernel)
    have hnames := congrArg (fun header : Header => header.functions.map (·.name)) hread
    rw [functions_of_leavesCallOpen hcontent hopen] at hnames
    exact absurd hnames (by decide +kernel)
  · intro hclosed filter before other after hbefore hother hclosed'
    apply value_readHeader_stringLiteral after hbefore hcontent hother
    exact .inr ⟨hclosed, hclosed'⟩
  · intro filter before other after hbefore hother hlist
    apply value_readHeader_stringLiteral after hbefore hcontent hother
    exact .inl hlist

/-- A literal with a closed call, a brace and an apostrophe. -/
theorem literal_in_body_unread_closed_call :
    IsLiteralContent "asm(1) \x7d don't".toList ∧ ¬LeavesCallOpen "asm(1) \x7d don't".toList ∧
    EndsInBody "int f(int a) \x7b puts(".toList ∧
    (readHeader {} ("int f(int a) \x7b puts(" ++ "\"" ++ "asm(1) \x7d don't" ++ "\""
        ++ "); \x7d int g(int b);")).value
      = (readHeader {} ("int f(int a) \x7b puts(" ++ "\"" ++ "" ++ "\""
        ++ "); \x7d int g(int b);")).value := by
  have hcontent : IsLiteralContent "asm(1) \x7d don't".toList := by decide +kernel
  have hclosed : ¬LeavesCallOpen "asm(1) \x7d don't".toList := by decide +kernel
  have hbefore : EndsInBody "int f(int a) \x7b puts(".toList :=
    .of_braces ⟨by decide +kernel, by decide +kernel⟩ (by decide +kernel) (by decide +kernel)
      (by decide +kernel)
  exact ⟨hcontent, hclosed, hbefore, (literal_in_body_unread_iff hcontent).1.mpr hclosed {}
    "int f(int a) \x7b puts(" "" "); \x7d int g(int b);" hbefore (by decide +kernel)
    (by decide +kernel)⟩

/-- A name of an extension with a parenthesis in a literal keeps the call in the declaration behind
the body from being taken out. -/
theorem literal_in_body_loses_declaration :
    EndsInBody "int f(int a) \x7b puts(".toList ∧ IsLiteralContent "asm(".toList ∧
    IsLiteralContent "".toList ∧
    (readHeader {} ("int f(int a) \x7b puts(" ++ "\"" ++ "asm(" ++ "\""
        ++ "); \x7d int g(int b) __attribute__((pure));")).value.functions.map (·.name) = ["f"] ∧
    (readHeader {} ("int f(int a) \x7b puts(" ++ "\"" ++ "" ++ "\""
        ++ "); \x7d int g(int b) __attribute__((pure));")).value.functions.map (·.name)
      = ["f", "g"] :=
  ⟨.of_braces ⟨by decide +kernel, by decide +kernel⟩ (by decide +kernel) (by decide +kernel)
      (by decide +kernel),
    by decide +kernel, by decide +kernel, by decide +kernel, by decide +kernel⟩

end HeaderBindings.Source
