import HeaderBindings.Preprocess
import HeaderBindings.Proofs.Encoding

/-!
The runs of external programs that expanding source takes. The work is laid out as a plan, which does
not know the programs: at each run it waits for the output or the failure, and goes on accordingly.
From the plan it is read off which runs are made, in which order, and what comes of them. Nothing that
the programs would do in any other run makes a difference.
-/

namespace HeaderBindings
open Text

/-! ### Words -/

namespace Text

/-- A text consists of words in their order, with blanks between them and any blanks around them. -/
inductive AreWords : List (List Char) → List Char → Prop where
  | blanks {text : List Char} (hblanks : ∀ c ∈ text, isBlank c = true) : AreWords [] text
  | word {gap word rest : List Char} {others : List (List Char)}
      (hgap : ∀ c ∈ gap, isBlank c = true) (hne : word ≠ [])
      (hword : ∀ c ∈ word, isBlank c = false) (hend : ∀ c ∈ rest.head?, isBlank c = true)
      (hrest : AreWords others rest) : AreWords (word :: others) (gap ++ (word ++ rest))

theorem AreWords.cons_blank {found : List (List Char)} {c : Char} {text : List Char}
    (hc : isBlank c = true) (h : AreWords found text) : AreWords found (c :: text) := by
  cases h with
  | blanks hblanks => exact .blanks (List.forall_mem_cons.mpr ⟨hc, hblanks⟩)
  | word hgap hne hword hend hrest =>
      exact .word (List.forall_mem_cons.mpr ⟨hc, hgap⟩) hne hword hend hrest

theorem areWords_wordsFrom {pending : List Char} (hpending : ∀ c ∈ pending, isBlank c = false)
    (text : List Char) : AreWords (wordsFrom pending text) (pending.reverse ++ text) := by
  have hword {pending rest : List Char} {others : List (List Char)}
      (hpending : ∀ c ∈ pending, isBlank c = false) (hne : ¬ pending.isEmpty = true)
      (hend : ∀ c ∈ rest.head?, isBlank c = true) (hrest : AreWords others rest) :
      AreWords (pending.reverse :: others) (pending.reverse ++ rest) := by
    have hgap : ∀ c ∈ [], isBlank c = true := by simp
    exact .word hgap (by simpa using hne) (by simpa using hpending) hend hrest
  induction text generalizing pending with
  | nil =>
      rw [wordsFrom]
      split
      case isTrue hempty =>
        obtain rfl := List.isEmpty_iff.mp hempty
        exact .blanks (by simp)
      case isFalse hne => exact hword hpending hne (by simp) (.blanks (by simp))
  | cons c text ih =>
      rw [wordsFrom]
      split
      case isTrue hc =>
        have hbehind : AreWords (wordsFrom [] text) (c :: text) := (ih (by simp)).cons_blank hc
        split
        case isTrue hempty =>
          obtain rfl := List.isEmpty_iff.mp hempty
          exact hbehind
        case isFalse hne => exact hword hpending hne (by simpa using hc) hbehind
      case isFalse hc =>
        have hnext := ih (List.forall_mem_cons.mpr ⟨Bool.eq_false_iff.mpr hc, hpending⟩)
        rwa [List.reverse_cons, List.append_assoc, List.singleton_append] at hnext

theorem wordsFrom_blanks_append {gap : List Char} (hgap : ∀ c ∈ gap, isBlank c = true)
    (rest : List Char) : wordsFrom [] (gap ++ rest) = wordsFrom [] rest := by
  induction gap with
  | nil => rfl
  | cons c gap ih =>
      obtain ⟨hc, hgap⟩ := List.forall_mem_cons.mp hgap
      rw [List.cons_append, wordsFrom, if_pos hc]
      exact ih hgap

theorem wordsFrom_append {word : List Char} (hword : ∀ c ∈ word, isBlank c = false)
    (pending rest : List Char) :
    wordsFrom pending (word ++ rest) = wordsFrom (word.reverse ++ pending) rest := by
  induction word generalizing pending with
  | nil => rfl
  | cons c word ih =>
      obtain ⟨hc, hword⟩ := List.forall_mem_cons.mp hword
      rw [List.cons_append, wordsFrom, if_neg (by simp [hc]), ih hword, List.reverse_cons,
        List.append_assoc, List.singleton_append]

/-- Splitting a text finds the words that it consists of. -/
theorem words_eq_iff {text : List Char} {found : List (List Char)} :
    words text = found ↔ AreWords found text := by
  constructor
  · rintro rfl
    exact areWords_wordsFrom (by simp) text
  · intro h
    induction h with
    | blanks hblanks =>
        have hnone := wordsFrom_blanks_append hblanks []
        rwa [List.append_nil] at hnone
    | @word gap word rest others hgap hne hword hend _ ih =>
        have hpending : ¬ (word.reverse ++ []).isEmpty = true := by simpa using hne
        rw [words, wordsFrom_blanks_append hgap, wordsFrom_append hword, ← ih]
        cases rest with
        | nil => rw [wordsFrom, if_neg hpending, List.append_nil, List.reverse_reverse]; rfl
        | cons c rest =>
            have hc : isBlank c = true := hend c rfl
            rw [wordsFrom, if_pos hc, if_neg hpending, List.append_nil, List.reverse_reverse, words,
              wordsFrom, if_pos hc]
            rfl

end Text

/-! ### Single runs -/

/-- A run is announced, and its output or its failure depends on its outcome alone. -/
theorem Tools.outcome_output (tools : Tools) (invocation : Invocation) :
    (tools.output invocation).outcome
      = { value := tools.outputOf invocation (tools.run invocation)
          events := [.running (invocation.command tools.temporaryPath)] } := by
  rw [Tools.output, Attempt.outcome, ExceptT.run_bind, ExceptT.run_lift, bind_map_left, Tools.start,
    bind_assoc]
  simp only [pure_bind]
  cases tools.outputOf invocation (tools.run invocation) with
  | ok text => rfl
  | error failure => rfl

/-- A run whose end is awaited, which has exit code 0, and which writes a text in UTF-8. -/
def Tools.Writes (tools : Tools) (invocation : Invocation) (text : String) : Prop :=
  ∃ output errors, tools.run invocation = .finished (some 0) output errors ∧
    tools.waitFailure? invocation = none ∧ decodeUtf8 output = .ok text

/-- A run that fails: the program does not start, its end cannot be awaited, it ends in another way, or
it writes no UTF-8. -/
def Tools.Fails (tools : Tools) (invocation : Invocation) (reason : ToolFailure) : Prop :=
  tools.outputOf invocation (tools.run invocation) = .error reason

theorem Tools.outputOf_eq_ok_iff {tools : Tools} {invocation : Invocation} {text : String} :
    tools.outputOf invocation (tools.run invocation) = .ok text ↔ tools.Writes invocation text := by
  rw [Writes]
  generalize tools.run invocation = outcome
  cases outcome with
  | notStarted reason => simp [outputOf]
  | finished exitCode output errors =>
      rw [outputOf]
      cases tools.waitFailure? invocation with
      | some reason => simp
      | none =>
          fun_cases outputAfter tools invocation exitCode output errors with
          | case1 output errors => simp [mapError_eq_ok_iff]
          | case2 exitCode output errors hexit => simp_all

/-! ### Plans -/

/-- The command that an event tells of. -/
def Event.command? : Event → Option String
  | running command => some command
  | _ => none

/-- Work with programs, step by step. -/
inductive ToolPlan (α : Type) where
  | done (result : α)
  | report (event : Event) (next : ToolPlan α)
  /-- Has a program run, and goes on with its output or the failure of the run. -/
  | run (invocation : Invocation) (next : Except ToolFailure String → ToolPlan α)

namespace ToolPlan
variable {α : Type}

/-- The work done with given programs. -/
def perform (tools : Tools) : ToolPlan α → Logged α
  | done result => pure result
  | report event next => do
      Logged.report event
      next.perform tools
  | run invocation next => do
      let result ← (tools.output invocation).outcome
      (next result).perform tools

/-- The runs that are made with given programs, in their order. -/
def runs (tools : Tools) : ToolPlan α → List Invocation
  | done _ => []
  | report _ next => next.runs tools
  | run invocation next =>
      invocation :: (next (tools.output invocation).outcome.value).runs tools

/-- Whether only runs tell of commands. -/
def IsQuiet : ToolPlan α → Prop
  | done _ => True
  | report event next => event.command? = none ∧ next.IsQuiet
  | run _ next => ∀ result, (next result).IsQuiet

/-- The commands that are told of are those of the runs, in their order. -/
theorem commands_perform (tools : Tools) {plan : ToolPlan α} (h : plan.IsQuiet) :
    (plan.perform tools).events.filterMap Event.command?
      = (plan.runs tools).map (·.command tools.temporaryPath) := by
  induction plan with
  | done result => rfl
  | report event next ih =>
      change List.filterMap Event.command? (event :: (next.perform tools).events) = _
      rw [List.filterMap_cons_none h.1, ih h.2, runs]
  | run invocation next ih =>
      rw [perform, Logged.events_bind, runs, List.map_cons, List.filterMap_append,
        ih _ (h _), Tools.outcome_output]
      rfl

/-- Programs that do the same in the runs that are made lead to the same runs and the same result. -/
theorem perform_congr {tools others : Tools} (plan : ToolPlan α)
    (hpath : others.temporaryPath = tools.temporaryPath)
    (hruns : ∀ invocation ∈ plan.runs tools, others.run invocation = tools.run invocation ∧
      others.waitFailure? invocation = tools.waitFailure? invocation) :
    plan.runs others = plan.runs tools ∧ plan.perform others = plan.perform tools := by
  induction plan with
  | done result => exact ⟨rfl, rfl⟩
  | report event next ih =>
      obtain ⟨hnext, hperform⟩ := ih hruns
      refine ⟨hnext, ?_⟩
      rw [perform, perform, hperform]
  | run invocation next ih =>
      have hfirst : (others.output invocation).outcome = (tools.output invocation).outcome := by
        obtain ⟨hrun, hwait⟩ := hruns invocation List.mem_cons_self
        have hafter : others.outputAfter invocation = tools.outputAfter invocation := by
          unfold Tools.outputAfter
          rw [hpath]
        have hsame (outcome : Outcome) :
            others.outputOf invocation outcome = tools.outputOf invocation outcome := by
          unfold Tools.outputOf
          rw [hafter, hwait]
        rw [Tools.outcome_output, Tools.outcome_output, hpath, hsame, hrun]
      obtain ⟨hnext, hperform⟩ := ih (tools.output invocation).outcome.value
        fun other hmem => hruns other (List.mem_cons_of_mem invocation hmem)
      refine ⟨?_, ?_⟩
      · rw [runs, runs, hfirst, hnext]
      · simp only [perform, hfirst, bind, hperform]

end ToolPlan

namespace Preprocess

/-- The run that asks for the flags of a package. -/
def query (options : PreprocessOptions) (package : String) : Invocation :=
  { program := options.packageConfig, arguments := ["--cflags", package] }

/-- The run that expands the source, with the flags of the package found. -/
def translation (options : PreprocessOptions) (source : String) (found : List String) : Invocation :=
  { program := options.preprocessor, arguments := found ++ options.flags, source := some source }

/-- The work behind the flags of the package. -/
def translationPlan (options : PreprocessOptions) (source : String) (found : List String) :
    ToolPlan (Except PreprocessError Expansion) :=
  .report (.preprocessing source.utf8ByteSize (found ++ options.flags).length)
    (.run (translation options source found) fun
      | .ok expanded => .done (.ok { flags := found ++ options.flags, expanded })
      | .error reason => .done (.error (.preprocessor options.preprocessor reason)))

/-- The work of expanding source. -/
def plan (options : PreprocessOptions) (source : String) :
    ToolPlan (Except PreprocessError Expansion) :=
  match options.package with
  | none => translationPlan options source []
  | some package =>
      .run (query options package) fun
        | .ok output => translationPlan options source ((words output.toList).map String.ofList)
        | .error reason => .done (.error (.packageFlags package options.packageConfig reason))

/-- A run in an attempt, with an account of its failure, is one in a plan. -/
theorem outcome_bind_output {ε α : Type} {tools : Tools} {invocation : Invocation}
    {account : ToolFailure → ε} {next : String → Attempt ε α}
    {after : Except ToolFailure String → ToolPlan (Except ε α)}
    (houtput : ∀ text, (next text).outcome = (after (.ok text)).perform tools)
    (hfailure : ∀ reason, after (.error reason) = .done (.error (account reason))) :
    ((tools.output invocation).mapError account >>= next).outcome
      = (ToolPlan.run invocation after).perform tools := by
  rw [Attempt.outcome, ExceptT.run_bind, ToolPlan.perform]
  change (Except.mapError account <$> (tools.output invocation).outcome) >>= _ = _
  rw [bind_map_left]
  refine bind_congr fun result => ?_
  cases result with
  | ok text => exact houtput text
  | error reason =>
      rw [hfailure]
      rfl

/-- The work behind the flags is that of the plan. -/
theorem outcome_translate (tools : Tools) (options : PreprocessOptions) (source : String)
    (found : List String) :
    (translate tools options source (found ++ options.flags)).outcome
      = (translationPlan options source found).perform tools := by
  rw [translationPlan, ToolPlan.perform, translate, Attempt.outcome, ExceptT.run_bind,
    Attempt.report, ExceptT.run_lift, bind_map_left]
  refine bind_congr fun _ => ?_
  exact outcome_bind_output (fun text => rfl) fun reason => rfl

/-- Expanding source is the work of the plan. -/
theorem outcome_expand (tools : Tools) (options : PreprocessOptions) (source : String) :
    (expand tools options source).outcome = (plan options source).perform tools := by
  rw [expand, allFlags, requestedFlags, plan]
  cases options.package with
  | none => exact outcome_translate tools options source []
  | some package =>
      simp only [packageFlags, bind_assoc, pure_bind]
      refine outcome_bind_output (fun text => ?_) fun reason => rfl
      exact outcome_translate tools options source ((words text.toList).map String.ofList)

/-- The flags in front of the given ones: the words that the program for packages writes, or none when
no package is given. -/
def FindsFlags (tools : Tools) (options : PreprocessOptions) (found : List String) : Prop :=
  match options.package with
  | none => found = []
  | some package =>
      ∃ text, tools.Writes (query options package) text ∧
        AreWords (found.map String.toList) text.toList

/-- The run that is made for a package. -/
def asked (options : PreprocessOptions) : List Invocation :=
  (options.package.map (query options)).toList

theorem findsFlags_iff {tools : Tools} {options : PreprocessOptions} {package : String}
    (hpackage : options.package = some package) {found : List String} :
    FindsFlags tools options found ↔
      ∃ text, tools.outputOf (query options package) (tools.run (query options package)) = .ok text ∧
        found = (words text.toList).map String.ofList := by
  have hwords (text : String) : AreWords (found.map String.toList) text.toList ↔
      found = (words text.toList).map String.ofList := by
    rw [← words_eq_iff]
    constructor
    · intro h
      rw [h, List.map_map]
      simp [Function.comp_def]
    · rintro rfl
      rw [List.map_map]
      simp [Function.comp_def]
  rw [FindsFlags, hpackage]
  simp only [hwords, Tools.outputOf_eq_ok_iff]

theorem isQuiet_translationPlan (options : PreprocessOptions) (source : String)
    (found : List String) : (translationPlan options source found).IsQuiet := by
  refine ⟨rfl, fun result => ?_⟩
  cases result with
  | ok expanded => trivial
  | error reason => trivial

theorem isQuiet_plan (options : PreprocessOptions) (source : String) :
    (plan options source).IsQuiet := by
  rw [plan]
  split
  · exact isQuiet_translationPlan options source []
  · intro result
    cases result with
    | ok output => exact isQuiet_translationPlan options source _
    | error reason => trivial

/-- What comes of the work behind the flags of the package. -/
theorem perform_translationPlan (tools : Tools) (options : PreprocessOptions) (source : String)
    (found : List String) :
    (translationPlan options source found).runs tools = [translation options source found] ∧
    ((translationPlan options source found).perform tools).value
      = match tools.outputOf (translation options source found)
            (tools.run (translation options source found)) with
        | .ok expanded => .ok { flags := found ++ options.flags, expanded }
        | .error reason => .error (.preprocessor options.preprocessor reason) := by
  simp only [translationPlan, ToolPlan.runs, ToolPlan.perform, Logged.value_bind,
    Tools.outcome_output]
  cases tools.outputOf (translation options source found)
      (tools.run (translation options source found)) with
  | ok expanded => exact ⟨rfl, rfl⟩
  | error reason => exact ⟨rfl, rfl⟩

/-- What comes of the whole work: it gets as far as the second program, or the first one fails. -/
theorem perform_plan_cases (tools : Tools) (options : PreprocessOptions) (source : String) :
    (∃ found, (∀ other, FindsFlags tools options other ↔ other = found) ∧
      (plan options source).runs tools = asked options ++ [translation options source found] ∧
      ((plan options source).perform tools).value
        = ((translationPlan options source found).perform tools).value) ∨
    ∃ package reason, options.package = some package ∧
      tools.outputOf (query options package) (tools.run (query options package)) = .error reason ∧
      (∀ other, ¬ FindsFlags tools options other) ∧
      (plan options source).runs tools = asked options ∧
      ((plan options source).perform tools).value
        = .error (.packageFlags package options.packageConfig reason) := by
  cases hpackage : options.package with
  | none =>
      have hplan : plan options source = translationPlan options source [] := by rw [plan, hpackage]
      refine .inl ⟨[], fun other => by rw [FindsFlags, hpackage], ?_, by rw [hplan]⟩
      rw [hplan, (perform_translationPlan tools options source []).1, asked, hpackage]
      rfl
  | some package =>
      cases houtput : tools.outputOf (query options package) (tools.run (query options package)) with
      | ok text =>
          refine .inl ⟨(words text.toList).map String.ofList, fun other => ?_, ?_, ?_⟩
          · simp [findsFlags_iff hpackage, houtput]
          · rw [plan, hpackage, ToolPlan.runs, Tools.outcome_output, houtput, asked, hpackage,
              (perform_translationPlan tools options source _).1]
            rfl
          · rw [plan, hpackage, ToolPlan.perform, Tools.outcome_output, houtput]
            rfl
      | error reason =>
          refine .inr ⟨package, reason, rfl, houtput, fun other => ?_, ?_, ?_⟩
          · simp [findsFlags_iff hpackage, houtput]
          · rw [plan, hpackage, ToolPlan.runs, Tools.outcome_output, houtput, asked, hpackage]
            rfl
          · rw [plan, hpackage, ToolPlan.perform, Tools.outcome_output, houtput]
            rfl

section
variable {tools : Tools} {options : PreprocessOptions} {source : String}

theorem runs_of_findsFlags {found : List String} (h : FindsFlags tools options found) :
    (plan options source).runs tools = asked options ++ [translation options source found] := by
  obtain ⟨known, hflags, hruns, -⟩ | ⟨_, _, -, -, hnone, -, -⟩ :=
    perform_plan_cases tools options source
  · rw [(hflags found).mp h, hruns]
  · exact absurd h (hnone found)

theorem runs_of_not_findsFlags (h : ∀ found, ¬ FindsFlags tools options found) :
    (plan options source).runs tools = asked options := by
  obtain ⟨known, hflags, -, -⟩ | ⟨_, _, -, -, -, hruns, -⟩ :=
    perform_plan_cases tools options source
  · exact absurd ((hflags known).mpr rfl) (h known)
  · exact hruns

theorem value_perform_eq_ok_iff {result : Expansion} :
    ((plan options source).perform tools).value = .ok result ↔
      ∃ found, FindsFlags tools options found ∧
        tools.Writes (translation options source found) result.expanded ∧
        result.flags = found ++ options.flags := by
  obtain ⟨known, hflags, -, hvalue⟩ | ⟨package, reason, -, -, hnone, -, hvalue⟩ :=
    perform_plan_cases tools options source
  · simp only [hflags, exists_eq_left, ← Tools.outputOf_eq_ok_iff]
    rw [hvalue, (perform_translationPlan tools options source known).2]
    cases tools.outputOf (translation options source known)
        (tools.run (translation options source known)) with
    | ok expanded =>
        constructor
        · intro h
          obtain rfl := Except.ok.inj h
          exact ⟨rfl, rfl⟩
        · rintro ⟨hexpanded, hresult⟩
          rw [Except.ok.inj hexpanded, ← hresult]
    | error reason => simp
  · simp [hvalue, hnone]

theorem value_perform_eq_error_iff {error : PreprocessError} :
    ((plan options source).perform tools).value = .error error ↔
      (∃ package reason, options.package = some package ∧
        tools.Fails (query options package) reason ∧
        error = .packageFlags package options.packageConfig reason) ∨
      ∃ found reason, FindsFlags tools options found ∧
        tools.Fails (translation options source found) reason ∧
        error = .preprocessor options.preprocessor reason := by
  obtain ⟨known, hflags, -, hvalue⟩ | ⟨package, reason, hpackage, hfails, hnone, -, hvalue⟩ :=
    perform_plan_cases tools options source
  · -- The flags are known, so the first run, if there is one, has not failed.
    have hasked : ¬ ∃ package reason, options.package = some package ∧
        tools.Fails (query options package) reason ∧
        error = .packageFlags package options.packageConfig reason := by
      rintro ⟨package, reason, hpackage, hfails, -⟩
      obtain ⟨text, hwrites, -⟩ := (findsFlags_iff hpackage).mp ((hflags known).mpr rfl)
      rw [Tools.Fails, hwrites] at hfails
      cases hfails
    rw [or_iff_right hasked, hvalue, (perform_translationPlan tools options source known).2]
    cases houtput : tools.outputOf (translation options source known)
        (tools.run (translation options source known)) with
    | ok expanded => simp [hflags, Tools.Fails, houtput]
    | error reason => simp [hflags, Tools.Fails, houtput, eq_comm]
  · rw [hvalue]
    simp only [hnone, false_and, exists_false, or_false, hpackage, Tools.Fails]
    constructor
    · intro h
      exact ⟨package, reason, rfl, hfails, (Except.error.inj h).symm⟩
    · rintro ⟨other, found, hother, hfound, rfl⟩
      obtain rfl := Option.some.inj hother
      rw [hfails] at hfound
      rw [Except.error.inj hfound]

end

/-- Expanding source asks for the flags of a package exactly when one is given, and before all else.
Then the source is expanded by one run with these flags and the given ones, unless there are no flags
because the first run failed. There is a result exactly when the second run succeeds as well, and the
failure of a run is reported as that of the program it was for. Nothing else is run: the commands told
of are those of these runs, and programs that do the same in them lead to the same. -/
theorem expand_in_order (tools : Tools) (options : PreprocessOptions) (source : String) :
    let expansion := (expand tools options source).outcome
    let runs := (plan options source).runs tools
    (∀ found, FindsFlags tools options found →
      runs = asked options ++ [translation options source found]) ∧
    ((∀ found, ¬ FindsFlags tools options found) → runs = asked options) ∧
    (∀ result, expansion.value = .ok result ↔
      ∃ found, FindsFlags tools options found ∧
        tools.Writes (translation options source found) result.expanded ∧
        result.flags = found ++ options.flags) ∧
    (∀ error, expansion.value = .error error ↔
      (∃ package reason, options.package = some package ∧
        tools.Fails (query options package) reason ∧
        error = .packageFlags package options.packageConfig reason) ∨
      ∃ found reason, FindsFlags tools options found ∧
        tools.Fails (translation options source found) reason ∧
        error = .preprocessor options.preprocessor reason) ∧
    expansion = (plan options source).perform tools ∧
    expansion.events.filterMap Event.command? = runs.map (·.command tools.temporaryPath) ∧
    ∀ others : Tools, others.temporaryPath = tools.temporaryPath →
      (∀ invocation ∈ runs, others.run invocation = tools.run invocation ∧
        others.waitFailure? invocation = tools.waitFailure? invocation) →
      (expand others options source).outcome = expansion := by
  intro expansion runs
  have hexpansion : expansion = (plan options source).perform tools :=
    outcome_expand tools options source
  refine ⟨fun found hfound => ?_, fun hnone => ?_, fun result => ?_, fun error => ?_, hexpansion,
    ?_, fun others hpath hruns => ?_⟩
  · exact runs_of_findsFlags hfound
  · exact runs_of_not_findsFlags hnone
  · rw [hexpansion]
    exact value_perform_eq_ok_iff
  · rw [hexpansion]
    exact value_perform_eq_error_iff
  · rw [hexpansion]
    exact ToolPlan.commands_perform tools (isQuiet_plan options source)
  · rw [hexpansion, outcome_expand]
    exact (ToolPlan.perform_congr (plan options source) hpath hruns).2

/-- The words stand in front of the given flags, whatever blanks there are between them. -/
theorem expand_in_order_flags :
    let tools : Tools :=
      { temporaryPath := "/tmp/in.h"
        run := fun invocation =>
          if invocation.program = "pkg-config" then
            .finished (some 0) (encodeUtf8 "-Ia\t -Db\n") []
          else .finished (some 0) (encodeUtf8 "int f(void);") [] }
    let options : PreprocessOptions :=
      { package := some "a", preprocessor := "cpp", packageConfig := "pkg-config", flags := ["-P"] }
    FindsFlags tools options ["-Ia", "-Db"] ∧
      (plan options "F").runs tools
        = [{ program := "pkg-config", arguments := ["--cflags", "a"] },
          { program := "cpp", arguments := ["-Ia", "-Db", "-P"], source := some "F" }] ∧
      (expand tools options "F").outcome.value
        = .ok { flags := ["-Ia", "-Db", "-P"], expanded := "int f(void);" } := by
  intro tools options
  have hfound : FindsFlags tools options ["-Ia", "-Db"] :=
    ⟨"-Ia\t -Db\n", ⟨_, [], rfl, rfl, decodeUtf8_encodeUtf8 _⟩, words_eq_iff.mp (by decide +kernel)⟩
  have hexpanded : tools.Writes (translation options "F" ["-Ia", "-Db"]) "int f(void);" :=
    ⟨_, [], rfl, rfl, decodeUtf8_encodeUtf8 _⟩
  obtain ⟨hruns, -, hresult, -⟩ := expand_in_order tools options "F"
  exact ⟨hfound, hruns _ hfound, (hresult _).mpr ⟨_, hfound, hexpanded, rfl⟩⟩

end Preprocess

end HeaderBindings
