import HeaderBindings.Proofs.BraceGroups
import HeaderBindings.Proofs.Cleaning

/-!
Declarations behind function definitions. The body of a definition ends the statement in front of it
only if that statement ends with a list in parentheses. Otherwise the braces stay inside a statement
that goes on to the end of the next declaration, and such a statement is passed over.
-/

namespace HeaderBindings.Source
open Text StatementScan

/-! ### Bodies -/

theorem isPairedFrom_cons {c : Char} (hc : isQuote c = false) (left right : Char) (depth : Nat)
    (text : List Char) :
    isPairedFrom left right .code depth (c :: text)
      = if c = left then isPairedFrom left right .code (depth + 1) text
        else if c = right then depth != 0 && isPairedFrom left right .code (depth - 1) text
        else isPairedFrom left right .code depth text := by
  have hcode := Quoting.isCode_code hc
  rw [isPairedFrom, if_neg (by simp [hcode]), Quoting.step_of_isCode hcode]

/-- In a text without literals only the delimiters count. -/
theorem isPairedFrom_filter {text : List Char} (hquote : ∀ c ∈ text, isQuote c = false)
    (left right : Char) (depth : Nat) :
    isPairedFrom left right .code depth (text.filter fun c => c == left || c == right)
      = isPairedFrom left right .code depth text := by
  induction text generalizing depth with
  | nil => rfl
  | cons c text ih =>
      obtain ⟨hc, hquote⟩ := List.forall_mem_cons.mp hquote
      by_cases hmark : c = left ∨ c = right
      · rw [List.filter_cons_of_pos (by simpa using hmark), isPairedFrom_cons hc,
          isPairedFrom_cons hc]
        simp only [ih hquote]
      · obtain ⟨hleft, hright⟩ := not_or.mp hmark
        rw [List.filter_cons_of_neg (by simp [hleft, hright]), ih hquote, isPairedFrom_cons hc,
          if_neg hleft, if_neg hright]

theorem isPairedFrom_plainText {text : List Char} (hquote : ∀ c ∈ text, isQuote c = false)
    {left right : Char} (hword : isWordChar left = false ∧ isWordChar right = false)
    (hblank : isBlank left = false ∧ isBlank right = false) (depth : Nat) :
    isPairedFrom left right .code depth (plainText text)
      = isPairedFrom left right .code depth text := by
  have hother {p : Char → Bool} (hp : p left = false ∧ p right = false) (c : Char)
      (hc : p c = true) : (c == left || c == right) = false := by
    rw [Bool.or_eq_false_iff, beq_eq_false_iff_ne, beq_eq_false_iff_ne]
    refine ⟨?_, ?_⟩
    · rintro rfl
      simp [hp.1] at hc
    · rintro rfl
      simp [hp.2] at hc
  rw [← isPairedFrom_filter (isQuote_plainText hquote),
    filter_plainText (hother hword) (hother hblank), isPairedFrom_filter hquote]

/-- A head without braces ends outside parentheses if it closes those that it opens. -/
theorem after_head_text {text : List Char} (hquote : ∀ c ∈ text, isQuote c = false)
    (hleft : '\x7b' ∉ text) {depth : Nat} (h : isPairedFrom '(' ')' .code depth text = true)
    (head pending : List Char) :
    (after { parentheses := depth, head, pending } text).parentheses = 0 ∧
      (after { parentheses := depth, head, pending } text).braces = 0 := by
  induction text generalizing depth head pending with
  | nil =>
      obtain rfl : depth = 0 := by simpa [isPairedFrom] using h
      exact ⟨rfl, rfl⟩
  | cons c text ih =>
      obtain ⟨hc, hrest⟩ := List.forall_mem_cons.mp hquote
      obtain ⟨hbrace, hnone⟩ := not_or.mp (mt List.mem_cons.mpr hleft)
      rw [after]
      rw [isPairedFrom_cons hc] at h
      split at h
      case isTrue hopen =>
        subst hopen
        exact ih hrest hnone h _ _
      case isFalse hopen =>
        split at h
        case isTrue hclose =>
          subst hclose
          exact ih hrest hnone (Bool.and_eq_true_iff.mp h).2 _ _
        case isFalse hclose =>
          have hstep : (step { parentheses := depth, head, pending } c).1
              = { parentheses := depth, head, pending := c :: pending } ∨
              depth = 0 ∧ (step { parentheses := depth, head, pending } c).1 = {} := by
            by_cases hends : c = ';' ∧ depth = 0
            · obtain ⟨rfl, rfl⟩ := hends
              exact .inr ⟨rfl, rfl⟩
            · refine .inl ?_
              simp [step, push, Quoting.isCode, Quoting.step, hc, hopen, hclose,
                Ne.symm hbrace, hends]
          rcases hstep with hstep | ⟨rfl, hstep⟩
          · rw [hstep]
            exact ih hrest hnone h _ _
          · rw [hstep]
            exact ih hrest hnone h _ _

theorem quoting_after {scan : StatementScan} {text : List Char}
    (hscan : scan.quoting = .code) (hquote : ∀ c ∈ text, isQuote c = false) :
    (scan.after text).quoting = .code := by
  induction text generalizing scan with
  | nil => exact hscan
  | cons c text ih =>
      obtain ⟨hc, hquote⟩ := List.forall_mem_cons.mp hquote
      rw [after]
      refine ih ?_ hquote
      obtain ⟨next, hnext, hquoting, -, -⟩ | ⟨-, hnext⟩ | ⟨-, hnext⟩ := step_cases scan c
      · rw [hnext, hquoting, hscan, Quoting.step, hc]
        rfl
      · rw [hnext]
      · rw [hnext]

/-- A body ends the statement in front of it if that ends with a list, and stays in it otherwise. -/
theorem statementsFrom_body {body : List Char}
    (hbraced : IsPaired '\x7b' '\x7d' body) (head pending rest : List Char) :
    statementsFrom { head, pending } ('\x7b' :: (body ++ '\x7d' :: rest))
      = if endsList pending then trim pending.reverse :: statementsFrom {} rest
        else statementsFrom { pending := '\x7d' :: (body.reverse ++ '\x7b' :: pending) } rest := by
  have hgroup := closeFrom_of_isPairedFrom (by decide) rfl hbraced rest
  rw [statementsFrom_brace, hgroup]
  simp only [List.reverse_append, List.reverse_singleton, List.cons_append, List.nil_append]

/-- With a body in front of it that did not end its statement, a text loses its first statement. -/
theorem value_readStatements_behind_body (filter : NameFilter) (body pending text : List Char) :
    (readStatements filter (statementsFrom
        { pending := '\x7d' :: (body ++ '\x7b' :: pending) } text)).value
      = (readStatements filter (statementsFrom {} text).tail).value := by
  have hstep : InStep [] ('\x7d' :: (body ++ '\x7b' :: pending))
      (GoOnAlike [] ('\x7d' :: (body ++ '\x7b' :: pending))) {}
      { pending := '\x7d' :: (body ++ '\x7b' :: pending) } :=
    ⟨rfl, rfl, rfl, ⟨[], rfl, rfl⟩, fun hbraces => absurd rfl hbraces⟩
  have hsame : endsList [] = endsList ('\x7d' :: (body ++ '\x7b' :: pending)) := rfl
  obtain ⟨_, _, others, ⟨front, rfl, rfl⟩, hfirst, hsecond⟩ :=
    hstep.statementsFrom (fun _ _ h => h) (fun _ _ h => h.endsList hsame) text
  have hpassed : (readStatement filter
      (trim (front ++ '\x7d' :: (body ++ '\x7b' :: pending)).reverse)).value = {} :=
    value_readStatement_of_brace (by simp) filter
  rw [hfirst, hsecond, value_readStatements_cons, hpassed, Header.empty_append, List.tail_cons]

/-! ### Definitions -/

/-- A function definition without number signs, literals, comments and calls. The head is all in
front of the body: a list of parameters, declarations of parameters behind it, words left of
macros. -/
structure FunctionDefinition where
  head : String
  body : String
  isBare : IsBare (head ++ "\x7b" ++ body ++ "\x7d").toList
  parentheses : (after {} (plainText head.toList)).parentheses = 0
  braces : (after {} (plainText head.toList)).braces = 0
  isBraced : IsPaired '\x7b' '\x7d' body.toList

/-- The declarations in a text behind its first statement. -/
def readBehindFirst (filter : NameFilter) (source : String) : Header :=
  (readStatements filter (statementsFrom {} (clean source.toList).value).tail).value

namespace FunctionDefinition

def text (definition : FunctionDefinition) : String :=
  definition.head ++ "\x7b" ++ definition.body ++ "\x7d"

/-- Whether the body stands right behind a closing parenthesis. -/
def endsWithList (definition : FunctionDefinition) : Bool :=
  endsList (plainText definition.head.toList).reverse

/-- The definition with a head that has no braces and closes its parentheses. -/
def ofHead (head body : String) (isBare : IsBare (head ++ "\x7b" ++ body ++ "\x7d").toList)
    (hleft : '\x7b' ∉ head.toList) (hlists : IsPaired '(' ')' head.toList)
    (isBraced : IsPaired '\x7b' '\x7d' body.toList) : FunctionDefinition :=
  have hquote : ∀ c ∈ head.toList, isQuote c = false := fun c hmem =>
    isBare.isQuote_eq_false c (by simp [hmem])
  have hnone : '\x7b' ∉ plainText head.toList := by
    rwa [mem_plainText_iff (by decide +kernel) (by decide)]
  have hnested : IsPaired '(' ')' (plainText head.toList) := by
    rwa [IsPaired, isPairedFrom_plainText hquote (by decide +kernel) (by decide)]
  have houtside := after_head_text (isQuote_plainText hquote) hnone hnested [] []
  ⟨head, body, isBare, houtside.1, houtside.2, isBraced⟩

theorem toList_text (definition : FunctionDefinition) : definition.text.toList
    = definition.head.toList ++ '\x7b' :: (definition.body.toList ++ ['\x7d']) := by
  simp [text]

theorem isBare_text (definition : FunctionDefinition) : IsBare definition.text.toList :=
  definition.isBare

theorem isQuote_eq_false (definition : FunctionDefinition) :
    (∀ c ∈ definition.head.toList, isQuote c = false) ∧
      ∀ c ∈ definition.body.toList, isQuote c = false := by
  have hquote := definition.isBare_text.isQuote_eq_false
  rw [toList_text] at hquote
  refine ⟨fun c hmem => hquote c ?_, fun c hmem => hquote c ?_⟩
  · exact List.mem_append_left _ hmem
  · exact List.mem_append_right _ (List.mem_cons_of_mem _ (List.mem_append_left _ hmem))

theorem after_head (definition : FunctionDefinition) :
    ∃ head pending, after {} (plainText definition.head.toList) = { head, pending } ∧
      endsList pending = definition.endsWithList := by
  have hquoting : (after {} (plainText definition.head.toList)).quoting = .code :=
    quoting_after rfl (isQuote_plainText definition.isQuote_eq_false.1)
  have hends : endsList (after {} (plainText definition.head.toList)).pending
      = definition.endsWithList := by
    rw [endsList_pending, List.append_nil, endsWithList]
  have hparentheses := definition.parentheses
  have hbraces := definition.braces
  cases hscan : after {} (plainText definition.head.toList) with
  | mk quoting parentheses braces head pending =>
      simp only [hscan] at hquoting hends hparentheses hbraces
      subst hquoting hparentheses hbraces
      exact ⟨head, pending, rfl, hends⟩

/-- What is read of a definition depends on the text behind it only in what is read of that. -/
theorem exists_value_readStatements (definition : FunctionDefinition) (filter : NameFilter) :
    ∃ own, ∀ source : List Char,
      (readStatements filter (statementsFrom {} (plainText (definition.head.toList
          ++ '\x7b' :: (definition.body.toList ++ '\x7d' :: source))))).value
        = own ++ if definition.endsWithList then
            (readStatements filter (statementsFrom {} (plainText source))).value
          else (readStatements filter (statementsFrom {} (plainText source)).tail).value := by
  obtain ⟨head, pending, hscan, hends⟩ := definition.after_head
  have hword : isWordChar '\x7b' = false ∧ isWordChar '\x7d' = false := by decide +kernel
  have hbraced : IsPaired '\x7b' '\x7d' (plainText definition.body.toList) := by
    rw [IsPaired, isPairedFrom_plainText definition.isQuote_eq_false.2 hword (by decide)]
    exact definition.isBraced
  have hscanned (source : List Char) :
      statementsFrom {} (plainText (definition.head.toList
          ++ '\x7b' :: (definition.body.toList ++ '\x7d' :: source)))
        = ended {} (plainText definition.head.toList) ++ statementsFrom { head, pending }
            ('\x7b' :: (plainText definition.body.toList ++ '\x7d' :: plainText source)) := by
    rw [plainText_append_cons hword.1 (by decide), plainText_append_cons hword.2 (by decide),
      statementsFrom_after, hscan]
  by_cases hlist : definition.endsWithList = true
  · refine ⟨(readStatements filter (ended {} (plainText definition.head.toList)
      ++ [trim pending.reverse])).value, fun source => ?_⟩
    rw [hscanned, statementsFrom_body hbraced, hends, if_pos hlist, if_pos hlist,
      ← value_readStatements_append, List.append_assoc, List.singleton_append]
  · refine ⟨(readStatements filter (ended {} (plainText definition.head.toList))).value,
      fun source => ?_⟩
    rw [hscanned, statementsFrom_body hbraced, hends, if_neg hlist, if_neg hlist,
      value_readStatements_append, value_readStatements_behind_body]

theorem value_readHeader_append (definition : FunctionDefinition) (filter : NameFilter)
    {source : String} (hsource : IsBare source.toList) :
    (readHeader filter (definition.text ++ source)).value
      = (readHeader filter definition.text).value ++
        if definition.endsWithList then (readHeader filter source).value
        else readBehindFirst filter source := by
  obtain ⟨own, hown⟩ := definition.exists_value_readStatements filter
  have hbare : IsBare (definition.head.toList
      ++ '\x7b' :: (definition.body.toList ++ '\x7d' :: source.toList)) := by
    have hfront :
        IsBare (definition.head.toList ++ '\x7b' :: definition.body.toList ++ ['\x7d']) := by
      have htext := definition.isBare_text
      rw [toList_text] at htext
      simpa using htext
    simpa using hfront.append hsource
  have hwhole : (definition.text ++ source).toList = definition.head.toList
      ++ '\x7b' :: (definition.body.toList ++ '\x7d' :: source.toList) := by
    simp [text]
  have halone : (readHeader filter definition.text).value = own := by
    rw [definition.isBare_text.value_readHeader, toList_text, hown]
    split <;> exact Header.append_empty own
  rw [halone, IsBare.value_readHeader (hwhole ▸ hbare), hwhole, hown, hsource.value_readHeader,
    readBehindFirst, hsource.value_clean, statementsFrom_trim]

end FunctionDefinition

/-! ### What becomes of the declaration behind a definition -/

/-- A declaration behind a definition is found exactly when the text in front of the body ends with
a list, unless the definition itself declares the same or the declaration has a statement in front
of it. -/
theorem mem_functions_behind_definition_iff (definition : FunctionDefinition) {filter : NameFilter}
    {source : String} {signature : Signature} (hsource : IsBare source.toList)
    (halone : (readHeader filter source).value = ⟨[signature], []⟩) :
    signature ∈ (readHeader filter (definition.text ++ source)).value.functions ↔
      definition.endsWithList = true ∨
        signature ∈ (readHeader filter definition.text).value.functions ∨
        signature ∈ (readBehindFirst filter source).functions := by
  rw [definition.value_readHeader_append filter hsource, Header.append_def, List.mem_append]
  by_cases hlist : definition.endsWithList = true
  · simp [hlist, halone]
  · simp [hlist]

/-- A body with a brace group of its own behind a list. -/
theorem mem_functions_behind_list_body :
    let signature : Signature := ⟨"g", .named [] "int", [⟨"b", .named [] "int"⟩]⟩
    ∃ definition : FunctionDefinition,
      definition.text = "static int f(int a) \x7b if (a) \x7b return 1; \x7d return 0; \x7d" ∧
      IsBare " int g(int b);".toList ∧ definition.endsWithList = true ∧
      (readHeader {} " int g(int b);").value = ⟨[signature], []⟩ ∧
      signature ∈ (readHeader {} (definition.text ++ " int g(int b);")).value.functions := by
  intro signature
  have hsource : IsBare " int g(int b);".toList := by decide +kernel
  have halone : (readHeader {} " int g(int b);").value = ⟨[signature], []⟩ := by decide +kernel
  let definition := FunctionDefinition.ofHead "static int f(int a) "
    " if (a) \x7b return 1; \x7d return 0; " (by decide +kernel) (by decide +kernel)
    (by decide +kernel) (by decide +kernel)
  have htext : definition.text = "static int f(int a) " ++ "\x7b"
      ++ " if (a) \x7b return 1; \x7d return 0; " ++ "\x7d" := rfl
  have hlist : definition.endsWithList = true := by
    show endsList (plainText "static int f(int a) ".toList).reverse = true
    decide +kernel
  refine ⟨definition, htext.trans (by decide +kernel), hsource, hlist, halone, ?_⟩
  exact (mem_functions_behind_definition_iff definition hsource halone).mpr (.inl hlist)

/-- A definition with declarations of its parameters behind their list, or with a word left of a
macro there, takes the declaration behind its body along. -/
theorem body_behind_other_head_loses_declaration :
    let signature : Signature := ⟨"g", .named [] "int", [⟨"b", .named [] "int"⟩]⟩
    let lost (head body : String) : Prop :=
      IsBare (head ++ "\x7b" ++ body ++ "\x7d").toList ∧ '\x7b' ∉ head.toList ∧
      IsPaired '(' ')' head.toList ∧ IsPaired '\x7b' '\x7d' body.toList ∧
      (readHeader {} (head ++ "\x7b" ++ body ++ "\x7d" ++ " int g(int b);")).value.functions = []
    IsBare " int g(int b);".toList ∧
    (readHeader {} " int g(int b);").value = ⟨[signature], []⟩ ∧
    lost "int f(a) int a; " " return a; " ∧ lost "int f(int a) API " " return a; " := by
  intro signature lost
  refine ⟨by decide +kernel, by decide +kernel, ?_, ?_⟩
  · refine ⟨?_, ?_, ?_, ?_, ?_⟩ <;> decide +kernel
  · refine ⟨?_, ?_, ?_, ?_, ?_⟩ <;> decide +kernel

end HeaderBindings.Source
