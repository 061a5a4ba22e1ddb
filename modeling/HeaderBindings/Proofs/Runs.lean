import HeaderBindings.CommandLine.Report

/-!
What the parts of a run do. A part that succeeds goes on from the state that the part before it left,
so what a run yields can be taken apart into what its parts yield. Most parts only report events; a
part that comes last may print, and one that is to save a source may print that, if the path it is
given leads to the standard output.
-/

namespace HeaderBindings

/-! ### States -/

def Message.diagnostic? : Message → Option Diagnostic
  | diagnostic error => some error
  | _ => none

theorem Message.filterMap_diagnostic?_event (events : List Event) :
    (events.map Message.event).filterMap Message.diagnostic? = [] := by
  rw [List.filterMap_map, List.filterMap_eq_nil_iff]
  intro reported _
  rfl

namespace RunState

def diagnostics (state : RunState) : List Diagnostic :=
  state.messages.filterMap Message.diagnostic?

/-- One state comes from another by reporting events, and nothing else. -/
def Reports (before after : RunState) : Prop :=
  ∃ events : List Event, after = { before with messages := before.messages ++ events.map .event }

/-- On the way from one state to another a text is printed, and no diagnostic is written. -/
structure Prints (text : String) (before after : RunState) : Prop where
  output : after.output = before.output ++ text
  diagnostics : after.diagnostics = before.diagnostics

variable {before between after : RunState} {first second : String}

theorem Reports.refl (state : RunState) : Reports state state := ⟨[], by simp⟩

theorem Reports.trans (hfirst : Reports before between) (hsecond : Reports between after) :
    Reports before after := by
  obtain ⟨events, rfl⟩ := hfirst
  obtain ⟨others, rfl⟩ := hsecond
  exact ⟨events ++ others, by simp⟩

theorem Reports.files (h : Reports before after) : after.files = before.files := by
  obtain ⟨events, rfl⟩ := h
  rfl

theorem Reports.prints (h : Reports before after) : Prints "" before after := by
  obtain ⟨events, rfl⟩ := h
  refine ⟨String.append_empty.symm, ?_⟩
  rw [RunState.diagnostics, List.filterMap_append, Message.filterMap_diagnostic?_event,
    List.append_nil]
  rfl

theorem Prints.trans (hfirst : Prints first before between)
    (hsecond : Prints second between after) : Prints (first ++ second) before after where
  output := by rw [hsecond.output, hfirst.output, String.append_assoc]
  diagnostics := hsecond.diagnostics.trans hfirst.diagnostics

theorem Reports.trans_prints (hfirst : Reports before between)
    (hsecond : Prints second between after) : Prints second before after :=
  (String.empty_append (s := second)) ▸ hfirst.prints.trans hsecond

theorem Prints.trans_reports (hfirst : Prints first before between)
    (hsecond : Reports between after) : Prints first before after :=
  (String.append_empty (s := first)) ▸ hfirst.trans hsecond.prints

end RunState

namespace Run
open RunState

variable {α β ε : Type} {before after : RunState}

/-! ### Single parts -/

@[simp] theorem start_pure (value : α) : start (pure value) before = (.ok value, before) := rfl

@[simp] theorem start_ofLogged (logged : Logged α) :
    start (ofLogged logged) before
      = (.ok logged.value,
          { before with messages := before.messages ++ logged.events.map .event }) := rfl

@[simp] theorem start_ofExcept (account : ε → RunError) (result : Except ε α) :
    start (ofExcept account result) before = (result.mapError account, before) := by
  cases result with
  | ok value => rfl
  | error error => rfl

/-- A part of a run succeeds with a value, and leaves a state behind. -/
def Yields (part : Run α) (before : RunState) (value : α) (after : RunState) : Prop :=
  start part before = (.ok value, after)

theorem yields_or_fails (part : Run α) (before : RunState) :
    (∃ value after, Yields part before value after) ∨
      ∃ error after, start part before = (.error error, after) := by
  rcases h : start part before with ⟨error | value, after⟩
  · exact .inr ⟨error, after, rfl⟩
  · exact .inl ⟨value, after, h⟩

/-- What a run comes to once its first part has succeeded. -/
theorem start_bind_of_yields {first : Run α} {found : α} {between : RunState}
    (h : Yields first before found between) (next : α → Run β) :
    start (first >>= next) before = start (next found) between := by
  have hrun : StateT.run (ExceptT.run first) before = (.ok found, between) := h
  rw [start, ExceptT.run_bind, StateT.run_bind, hrun]
  rfl

/-- What a run comes to once its first part has failed. -/
theorem start_bind_of_fails {first : Run α} {error : RunError}
    (h : start first before = (.error error, after)) (next : α → Run β) :
    start (first >>= next) before = (.error error, after) := by
  have hrun : StateT.run (ExceptT.run first) before = (.error error, after) := h
  rw [start, ExceptT.run_bind, StateT.run_bind, hrun]
  rfl

@[simp] theorem start_ofAttempt (account : ε → RunError) (attempt : Attempt ε α)
    (before : RunState) :
    start (ofAttempt account attempt) before
      = (attempt.outcome.value.mapError account,
          { before with messages := before.messages ++ attempt.outcome.events.map .event }) := by
  rw [ofAttempt, start_bind_of_yields (start_ofLogged attempt.outcome)]
  exact start_ofExcept account attempt.outcome.value

@[simp] theorem start_ofChange (account : ε → RunError) (change : FileChange ε α) :
    start (ofChange account change) before
      = ((change.run.run before.files).1.mapError account,
          { before with files := (change.run.run before.files).2 }) := by
  have hsteps : start (ofChange account change) before
      = start (ofExcept account (change.run.run before.files).1)
          { before with files := (change.run.run before.files).2 } := rfl
  rw [hsteps, start_ofExcept]

/-! ### Parts that succeed -/

theorem yields_bind {first : Run α} {next : α → Run β} {value : β} :
    Yields (first >>= next) before value after ↔
      ∃ found between, Yields first before found between ∧
        Yields (next found) between value after := by
  constructor
  · intro h
    obtain ⟨found, between, hfirst⟩ | ⟨error, between, hfirst⟩ := yields_or_fails first before
    · rw [Yields, start_bind_of_yields hfirst] at h
      exact ⟨found, between, hfirst, h⟩
    · rw [Yields, start_bind_of_fails hfirst] at h
      cases h
  · rintro ⟨found, between, hfirst, hnext⟩
    rw [Yields, start_bind_of_yields hfirst]
    exact hnext

theorem yields_pure {given value : α} :
    Yields (pure given) before value after ↔ value = given ∧ after = before := by
  rw [Yields, start_pure, Prod.mk.injEq, Except.ok.injEq, eq_comm, @eq_comm _ before]

theorem yields_ofExcept {account : ε → RunError} {result : Except ε α} {value : α} :
    Yields (ofExcept account result) before value after ↔
      result = .ok value ∧ after = before := by
  rw [Yields, start_ofExcept, Prod.mk.injEq, mapError_eq_ok_iff, @eq_comm _ before]

theorem value_of_yields_ofAttempt {account : ε → RunError} {attempt : Attempt ε α} {value : α}
    (h : Yields (ofAttempt account attempt) before value after) :
    attempt.outcome.value = .ok value := by
  rw [Yields, start_ofAttempt] at h
  cases hvalue : attempt.outcome.value with
  | ok found =>
      rw [hvalue] at h
      cases h
      rfl
  | error error =>
      rw [hvalue] at h
      cases h

/-! ### Parts that only report events -/

/-- Whether it succeeds or fails, the part does nothing but report events. -/
def OnlyReports (part : Run α) : Prop := ∀ before, Reports before (start part before).2

namespace OnlyReports

theorem bind {first : Run α} {next : α → Run β} (hfirst : OnlyReports first)
    (hnext : ∀ found, OnlyReports (next found)) : OnlyReports (first >>= next) := by
  intro before
  have hbefore := hfirst before
  obtain ⟨found, between, hstart⟩ | ⟨error, between, hstart⟩ := yields_or_fails first before
  · rw [hstart] at hbefore
    rw [start_bind_of_yields hstart]
    exact hbefore.trans (hnext found between)
  · rw [hstart] at hbefore
    rw [start_bind_of_fails hstart]
    exact hbefore

theorem of_pure (value : α) : OnlyReports (pure value) := Reports.refl

theorem of_throw (error : RunError) : OnlyReports (throw error : Run α) := Reports.refl

theorem of_logged (logged : Logged α) : OnlyReports (ofLogged logged) :=
  fun _ => ⟨logged.events, rfl⟩

theorem of_report (event : Event) : OnlyReports (report event) := of_logged _

theorem of_except (account : ε → RunError) (result : Except ε α) :
    OnlyReports (ofExcept account result) := by
  intro before
  rw [start_ofExcept]
  exact Reports.refl before

theorem of_attempt (account : ε → RunError) (attempt : Attempt ε α) :
    OnlyReports (ofAttempt account attempt) := by
  intro before
  rw [start_ofAttempt]
  exact ⟨attempt.outcome.events, rfl⟩

theorem reports_of_yields {part : Run α} {value : α} (hpart : OnlyReports part)
    (h : Yields part before value after) : Reports before after := by
  have hafter := hpart before
  rwa [h] at hafter

end OnlyReports

/-! ### Parts that print at their end -/

/-- The part writes no diagnostic, and when it fails it has printed nothing. -/
def PrintsLast (part : Run α) : Prop :=
  ∀ before, ∃ text, Prints text before (start part before).2 ∧
    ∀ error, (start part before).1 = .error error → text = ""

namespace PrintsLast

theorem of_print (text : String) : PrintsLast (print text) :=
  fun _ => ⟨text, ⟨rfl, rfl⟩, fun _ h => nomatch h⟩

end PrintsLast

/-- The part cannot fail. -/
def Succeeds (part : Run α) : Prop := ∀ before, ∃ value, (start part before).1 = .ok value

theorem Succeeds.bind {first : Run α} {next : α → Run β} (hfirst : Succeeds first)
    (hnext : ∀ found, Succeeds (next found)) : Succeeds (first >>= next) := by
  intro before
  obtain ⟨value, hvalue⟩ := hfirst before
  obtain ⟨found, between, hstart⟩ | ⟨error, between, hstart⟩ := yields_or_fails first before
  · rw [start_bind_of_yields hstart]
    exact hnext found between
  · rw [hstart] at hvalue
    cases hvalue

/-- What saving a text under a path prints: the text, if the path leads to the standard output. -/
def printedBySaving (files : FileTree) (path text : String) : String :=
  if files.stream? path = some .output then text else ""

/-- The text is written to the file, and then on the stream that the path led to. -/
theorem start_save (path text : String) (before : RunState) :
    start (save path text) before
      = match (FileChange.writeText path text).run.run before.files with
        | (.error reason, files) => (.error (.file reason), { before with files })
        | (.ok _, files) =>
            start (match before.files.stream? path with
              | some stream => write stream text
              | none => pure ()) { before with files } := by
  have hsave : start (save path text) before
      = start (do
          ofChange .file (FileChange.writeText path text)
          match before.files.stream? path with
          | some stream => write stream text
          | none => pure ()) before := rfl
  have hchange : start (ofChange .file (FileChange.writeText path text)) before = _ :=
    start_ofChange .file (FileChange.writeText path text)
  rcases hwrite : (FileChange.writeText path text).run.run before.files with ⟨reason | _, files⟩
  · rw [hwrite] at hchange
    exact hsave.trans (start_bind_of_fails hchange _)
  · rw [hwrite] at hchange
    exact hsave.trans (start_bind_of_yields hchange _)

/-- Writing to a stream leaves the files alone. -/
theorem files_start_save (path text : String) (before : RunState) :
    (start (save path text) before).2.files
      = ((FileChange.writeText path text).run.run before.files).2 := by
  rw [start_save]
  rcases (FileChange.writeText path text).run.run before.files with ⟨reason | _, files⟩
  · rfl
  · rcases before.files.stream? path with _ | _ | _
    · rfl
    · rfl
    · rfl

theorem exists_start_save (path text : String) (before : RunState) :
    (∃ after, Yields (save path text) before () after ∧
      Prints (printedBySaving before.files path text) before after) ∨
    ∃ error after, start (save path text) before = (.error error, after) ∧
      Prints "" before after := by
  have hstart := start_save path text before
  rcases hwrite : (FileChange.writeText path text).run.run before.files with ⟨reason | _, files⟩
  · rw [hwrite] at hstart
    exact .inr ⟨.file reason, _, hstart, String.append_empty.symm, rfl⟩
  · rw [hwrite] at hstart
    refine .inl ?_
    rw [printedBySaving]
    rcases hstream : before.files.stream? path with _ | _ | _
    · rw [hstream] at hstart
      exact ⟨_, hstart, String.append_empty.symm, rfl⟩
    · rw [hstream] at hstart
      exact ⟨_, hstart, rfl, rfl⟩
    · rw [hstream] at hstart
      refine ⟨_, hstart, String.append_empty.symm, ?_⟩
      rw [diagnostics, List.filterMap_append]
      exact List.append_nil _

end Run

namespace CommandLine
open Run RunState

variable {before after : RunState}

/-! ### What stands in front of the output -/

theorem onlyReports_configuration (host : Host) (named : Option String) :
    OnlyReports (configuration host named) := by
  refine .bind (.of_except _ _) fun _ => .bind (.of_logged _) fun config => ?_
  cases named with
  | none => exact .of_pure config
  | some path => exact .bind (.of_except _ _) fun found => .of_pure _

theorem EnumArguments.onlyReports_source (host : Host) (arguments : EnumArguments) :
    OnlyReports (arguments.source host) := by
  rw [EnumArguments.source]
  cases arguments.preset with
  | some preset => exact .of_pure _
  | none => exact .bind (.of_except _ _) fun text => .of_pure _

theorem SourceArguments.onlyReports_accepts (host : Host) (arguments : SourceArguments) :
    OnlyReports (arguments.accepts host) := by
  rw [SourceArguments.accepts]
  split
  · exact .of_pure none
  · split
    · exact .of_pure _
    · exact .of_throw _

theorem SourceArguments.onlyReports_options (host : Host) (config : Config)
    (arguments : SourceArguments) : OnlyReports (arguments.options host config) :=
  .bind (.bind (arguments.onlyReports_accepts host) fun _ => .of_pure _) fun _ => .of_pure _

theorem StubArguments.onlyReports_options (host : Host) (config : Config)
    (arguments : StubArguments) : OnlyReports (arguments.options host config) :=
  .bind (arguments.source.onlyReports_options host config) fun _ => .of_pure _

theorem onlyReports_sourceToRead (host : Host) (options : Option PreprocessOptions)
    (input : String) : OnlyReports (sourceToRead host options input) := by
  cases options with
  | none => exact .of_pure input
  | some options =>
      exact .bind (.bind (.of_attempt _ _) fun flags => .bind (.of_except _ _) fun _ =>
        .of_attempt _ _) fun expansion => .of_pure _

theorem SourceArguments.onlyReports_declarations (host : Host) (arguments : SourceArguments)
    (options : StubOptions) : OnlyReports (arguments.declarations host options) :=
  .bind (.of_except _ _) fun input =>
    .bind (onlyReports_sourceToRead host options.preprocess input) fun _ => .of_logged _

/-- A source that is expanded by way of the temporary file is the one that the library expands. -/
theorem value_expand_of_yields {host : Host} {options : PreprocessOptions} {source : String}
    {expansion : Expansion} (h : Yields (expand host options source) before expansion after) :
    (Preprocess.expand host.tools options source).outcome.value = .ok expansion := by
  rw [expand, yields_bind] at h
  obtain ⟨flags, between, hflags, h⟩ := h
  obtain ⟨-, written, -, h⟩ := yields_bind.mp h
  rw [Preprocess.expand, Attempt.value_bind_eq_ok_iff]
  exact ⟨flags, value_of_yields_ofAttempt hflags, value_of_yields_ofAttempt h⟩

theorem value_sourceToRead_of_yields {host : Host} {options : Option PreprocessOptions}
    {input source : String} (h : Yields (sourceToRead host options input) before source after) :
    (Stubs.sourceToRead host.tools options input).outcome.value = .ok source := by
  cases options with
  | none =>
      obtain ⟨rfl, -⟩ := yields_pure.mp h
      rfl
  | some options =>
      rw [sourceToRead, yields_bind] at h
      obtain ⟨expansion, between, hexpansion, h⟩ := h
      obtain ⟨rfl, -⟩ := yields_pure.mp h
      rw [Stubs.sourceToRead, Attempt.value_bind_eq_ok_iff]
      exact ⟨expansion, value_expand_of_yields hexpansion, rfl⟩

/-- The declarations that a run reads are those that the library reads from the same input. -/
theorem SourceArguments.declarations_of_yields {host : Host} {arguments : SourceArguments}
    {options : StubOptions} {found : Declarations}
    (h : Yields (arguments.declarations host options) before found after) :
    ∃ input, givenOrInput host.input arguments.input = .ok input ∧
      (Stubs.declarations host.tools options input).outcome.value = .ok found := by
  rw [SourceArguments.declarations, yields_bind] at h
  obtain ⟨input, between, hinput, h⟩ := h
  obtain ⟨source, read, hsource, h⟩ := yields_bind.mp h
  refine ⟨input, (yields_ofExcept.mp hinput).1, ?_⟩
  rw [Stubs.declarations, Attempt.value_bind_eq_ok_iff]
  refine ⟨source, value_sourceToRead_of_yields hsource, ?_⟩
  rw [Yields, start_ofLogged] at h
  cases h
  exact Attempt.value_lift _

/-! ### Saving the source -/

/-- What saving a source prints. -/
def SourceArguments.printedBySaving (arguments : SourceArguments) (files : FileTree)
    (source : String) : String :=
  match arguments.savePath with
  | some path => Run.printedBySaving files path source
  | none => ""

theorem SourceArguments.saveSource_cases (arguments : SourceArguments) (source : String)
    (before : RunState) :
    (∃ after, Yields (arguments.saveSource source) before () after ∧
      Prints (arguments.printedBySaving before.files source) before after) ∨
    ∃ error after, start (arguments.saveSource source) before = (.error error, after) ∧
      Prints "" before after := by
  rw [SourceArguments.saveSource, SourceArguments.printedBySaving]
  cases arguments.savePath with
  | none => exact .inl ⟨before, rfl, (Reports.refl before).prints⟩
  | some path => exact exists_start_save path source before

theorem StubArguments.saveSource_cases (arguments : StubArguments) (source : String)
    (before : RunState) :
    (∃ after, Yields (arguments.saveSource source) before () after ∧
      Prints (arguments.source.printedBySaving before.files source) before after) ∨
    ∃ error after, start (arguments.saveSource source) before = (.error error, after) ∧
      Prints "" before after := by
  obtain ⟨saved, hyields, hprints⟩ | ⟨error, after, hfails, hprints⟩ :=
    arguments.source.saveSource_cases source before
  · have hsave : start (arguments.saveSource source) before
        = start (match arguments.source.savePath with
          | some path => Run.report (.wroteExpanded path)
          | none => pure ()) saved := start_bind_of_yields hyields _
    left
    cases hpath : arguments.source.savePath with
    | none =>
        rw [hpath] at hsave
        exact ⟨saved, hsave, hprints⟩
    | some path =>
        rw [hpath] at hsave
        exact ⟨_, hsave, hprints.trans_reports (OnlyReports.of_report _ saved)⟩
  · exact .inr ⟨error, after, start_bind_of_fails hfails _, hprints⟩

/-! ### The output -/

theorem onlyReports_reportLeftOut (skipped : List WrapperError) :
    OnlyReports (reportLeftOut skipped) := by
  rw [reportLeftOut]
  split
  · exact .of_pure ()
  · exact .of_report _

theorem succeeds_reportLeftOut (skipped : List WrapperError) :
    Succeeds (reportLeftOut skipped) := by
  rw [reportLeftOut]
  split
  · exact fun _ => ⟨(), rfl⟩
  · exact fun _ => ⟨(), rfl⟩

/-- Without a stub for each function nothing is printed, and otherwise everything is. -/
theorem printStubs_cases (options : StubOptions) (found : Declarations) (before : RunState) :
    (∃ output after, (Stubs.render options found).outcome.value = .ok output ∧
      Yields (printStubs options found) before () after ∧ Prints output.text before after ∧
      after.files = before.files) ∨
    ∃ error after, (Stubs.render options found).outcome.value = .error error ∧
      start (printStubs options found) before = (.error (.wrapper error), after) ∧
      Reports before after := by
  have hreports := OnlyReports.of_attempt .wrapper (Stubs.render options found) before
  have hstart := start_ofAttempt .wrapper (Stubs.render options found) before
  rw [hstart] at hreports
  cases hrender : (Stubs.render options found).outcome.value with
  | error error =>
      rw [hrender] at hstart
      exact .inr ⟨error, _, rfl, start_bind_of_fails hstart _, hreports⟩
  | ok output =>
      rw [hrender] at hstart
      have hleft := onlyReports_reportLeftOut output.batch.skipped
        { before with
          messages := before.messages ++
            (Stubs.render options found).outcome.events.map .event }
      obtain ⟨_, hsucceeds⟩ := succeeds_reportLeftOut output.batch.skipped
        { before with
          messages := before.messages ++
            (Stubs.render options found).outcome.events.map .event }
      left
      refine ⟨output, _, rfl, (start_bind_of_yields hstart _).trans
        (start_bind_of_yields (Prod.ext hsucceeds rfl) _), ?_, ?_⟩
      · exact (hreports.trans hleft).trans_prints ⟨rfl, rfl⟩
      · exact (hreports.trans hleft).files

theorem exists_batch_of_render {options : StubOptions} {declarations : Declarations}
    {output : StubOutput} (h : (Stubs.render options declarations).outcome.value = .ok output) :
    ∃ batch, (Wrapper.renderAll options.style options.keepGoing
        declarations.header.functions).outcome.value = .ok batch ∧
      output.text = Stubs.echo options declarations.source ++ Stubs.stubLines batch.stubs := by
  rw [Stubs.render, Attempt.value_bind_eq_ok_iff] at h
  obtain ⟨-, -, h⟩ := h
  rw [Attempt.value_bind_eq_ok_iff] at h
  obtain ⟨batch, hbatch, h⟩ := h
  cases h
  exact ⟨batch, hbatch, rfl⟩

/-- The style of the stubs is that of the arguments over that of the configuration. -/
theorem StubArguments.style_of_yields {host : Host} {config : Config} {arguments : StubArguments}
    {options : StubOptions} (h : Yields (arguments.options host config) before options after) :
    options.style = arguments.style config.wrapperStyle ∧
      options.keepGoing = arguments.keepGoing := by
  rw [StubArguments.options, yields_bind] at h
  obtain ⟨given, between, hgiven, h⟩ := h
  obtain ⟨rfl, -⟩ := yields_pure.mp h
  rw [SourceArguments.options, yields_bind] at hgiven
  obtain ⟨filter, read, -, hgiven⟩ := hgiven
  obtain ⟨rfl, -⟩ := yields_pure.mp hgiven
  exact ⟨rfl, rfl⟩

/-- The text that the command for stubs prints at its end consists of the stubs of the declarations
that were read, in the style that the arguments and the configuration make up together. -/
theorem exists_batch_of_runStubs {host : Host} {config : Config} {arguments : StubArguments}
    (h : Yields (runStubs host config arguments) before () after) :
    ∃ options input declarations batch,
      options.style = arguments.style config.wrapperStyle ∧
      options.keepGoing = arguments.keepGoing ∧
      givenOrInput host.input arguments.source.input = .ok input ∧
      (Stubs.declarations host.tools options input).outcome.value = .ok declarations ∧
      (Wrapper.renderAll options.style options.keepGoing
        declarations.header.functions).outcome.value = .ok batch ∧
      Prints (arguments.source.printedBySaving before.files declarations.source
          ++ (Stubs.echo options declarations.source ++ Stubs.stubLines batch.stubs))
        before after := by
  rw [runStubs, yields_bind] at h
  obtain ⟨options, first, hoptions, h⟩ := h
  obtain ⟨declarations, second, hdeclarations, h⟩ := yields_bind.mp h
  obtain ⟨_, third, hsave, hprint⟩ := yields_bind.mp h
  have hreports : Reports before second :=
    ((arguments.onlyReports_options host config).reports_of_yields hoptions).trans
      ((arguments.source.onlyReports_declarations host options).reports_of_yields hdeclarations)
  have hsaved : Prints (arguments.source.printedBySaving before.files declarations.source)
      before third := by
    rw [← hreports.files]
    obtain ⟨other, hother, hprints⟩ | ⟨error, other, hfails, -⟩ :=
      arguments.saveSource_cases declarations.source second
    · cases hsave.symm.trans hother
      exact hreports.trans_prints hprints
    · cases hsave.symm.trans hfails
  obtain ⟨output, other, hrender, hother, hprints, -⟩ | ⟨error, other, -, hfails, -⟩ :=
    printStubs_cases options declarations third
  · cases hprint.symm.trans hother
    obtain ⟨batch, hbatch, htext⟩ := exists_batch_of_render hrender
    obtain ⟨input, hinput, hvalue⟩ := arguments.source.declarations_of_yields hdeclarations
    obtain ⟨hstyle, hkeep⟩ := arguments.style_of_yields hoptions
    rw [htext] at hprints
    exact ⟨options, input, declarations, batch, hstyle, hkeep, hinput, hvalue, hbatch,
      hsaved.trans hprints⟩
  · cases hprint.symm.trans hfails

end CommandLine

end HeaderBindings
