import HeaderBindings.Proofs.Outcomes
import HeaderBindings.Proofs.WrittenFiles

/-!
What a run does to the files. It leaves all of them alone but for the one that a source is to be
saved to, and a source that was saved is read back, with the same declarations.
-/

namespace HeaderBindings
open Run CommandLine Text

/-! ### Parts of a run -/

namespace Run
variable {α β : Type} {saving : Option String}

/-- What the part does to the files, whether it succeeds or fails. -/
def ChangesFiles (change : FileTree → FileTree → Prop) (part : Run α) : Prop :=
  ∀ before, change before.files (start part before).2.files

/-- What a first part and the parts behind it do to the files. -/
theorem ChangesFiles.bind {first : Run α} {next : α → Run β}
    {change change' whole : FileTree → FileTree → Prop} (hfirst : ChangesFiles change first)
    (hnext : ∀ found, ChangesFiles change' (next found))
    (hstop : ∀ before after, change before after → whole before after)
    (hon : ∀ before between after, change before between → change' between after →
      whole before after) : ChangesFiles whole (first >>= next) := by
  intro before
  have hbetween := hfirst before
  obtain ⟨found, between, hstart⟩ | ⟨error, between, hstart⟩ := yields_or_fails first before
  · rw [hstart] at hbetween
    rw [start_bind_of_yields hstart]
    exact hon _ _ _ hbetween (hnext found between)
  · rw [hstart] at hbetween
    rw [start_bind_of_fails hstart]
    exact hstop _ _ hbetween

/-- The part leaves the files alone. -/
def KeepsFiles (part : Run α) : Prop := ChangesFiles Eq part

/-- The part leaves the files alone, or saves one text under the path that is given. -/
def SavesAtMost (saving : Option String) (part : Run α) : Prop :=
  ChangesFiles (fun before after => after = before ∨
    ∃ path text, saving = some path ∧
      after = ((FileChange.writeText path text).run.run before).2) part

theorem OnlyReports.keepsFiles {part : Run α} (h : OnlyReports part) : KeepsFiles part :=
  fun before => (h before).files.symm

namespace KeepsFiles

theorem of_print (text : String) : KeepsFiles (print text) := fun _ => rfl

theorem bind {first : Run α} {next : α → Run β} (hfirst : KeepsFiles first)
    (hnext : ∀ found, KeepsFiles (next found)) : KeepsFiles (first >>= next) :=
  ChangesFiles.bind hfirst hnext (fun _ _ h => h) fun _ _ _ h hbehind => h.trans hbehind

theorem savesAtMost {part : Run α} (h : KeepsFiles part) : SavesAtMost saving part :=
  fun before => .inl (h before).symm

theorem bind_savesAtMost {first : Run α} {next : α → Run β} (hfirst : KeepsFiles first)
    (hnext : ∀ found, SavesAtMost saving (next found)) : SavesAtMost saving (first >>= next) :=
  ChangesFiles.bind hfirst hnext (fun _ _ h => .inl h.symm) fun _ _ _ h hbehind => h ▸ hbehind

end KeepsFiles

namespace SavesAtMost

theorem bind {first : Run α} {next : α → Run β} (hfirst : SavesAtMost saving first)
    (hnext : ∀ found, KeepsFiles (next found)) : SavesAtMost saving (first >>= next) :=
  ChangesFiles.bind hfirst hnext (fun _ _ h => h) fun _ _ _ h hbehind => hbehind ▸ h

theorem of_save (path text : String) : SavesAtMost (some path) (save path text) :=
  fun before => .inr ⟨path, text, rfl, files_start_save path text before⟩

end SavesAtMost

theorem writeText_of_yields_save {path text : String} {before after : RunState}
    (h : Yields (save path text) before () after) :
    (FileChange.writeText path text).run.run before.files = (.ok (), after.files) := by
  have hfiles := files_start_save path text before
  rw [h] at hfiles
  rw [Yields, start_save] at h
  rcases hwrite : (FileChange.writeText path text).run.run before.files with ⟨reason | _, files⟩
  · rw [hwrite] at h
    cases h
  · rw [hwrite] at hfiles
    rw [show after.files = files from hfiles]

end Run

/-! ### Commands -/

namespace CommandLine

theorem EnumArguments.keepsFiles_run (host : Host) (config : Config) (arguments : EnumArguments) :
    KeepsFiles (runEnumeration host config arguments) :=
  .bind (arguments.onlyReports_source host).keepsFiles fun _ =>
    .bind (OnlyReports.of_attempt _ _).keepsFiles fun text => .of_print text

theorem keepsFiles_printStatements (functions : List Signature) :
    KeepsFiles (printStatements functions) := by
  induction functions with
  | nil => exact (OnlyReports.of_pure ()).keepsFiles
  | cons function rest ih => exact .bind (.of_print _) fun _ => ih

theorem keepsFiles_printHeader (json : Bool) (header : Header) :
    KeepsFiles (printHeader json header) := by
  cases json with
  | true => exact .of_print _
  | false =>
      exact .bind (keepsFiles_printStatements header.functions) fun _ =>
        (onlyReports_listSkipped header.skipped).keepsFiles

theorem keepsFiles_printStubs (options : StubOptions) (found : Declarations) :
    KeepsFiles (printStubs options found) :=
  .bind (OnlyReports.of_attempt _ _).keepsFiles fun output =>
    .bind (onlyReports_reportLeftOut output.batch.skipped).keepsFiles fun _ => .of_print _

theorem SourceArguments.savesAtMost_saveSource (arguments : SourceArguments) (source : String) :
    SavesAtMost arguments.savePath (arguments.saveSource source) := by
  rw [SourceArguments.saveSource]
  cases arguments.savePath with
  | none => exact (OnlyReports.of_pure ()).keepsFiles.savesAtMost
  | some path => exact .of_save path source

theorem StubArguments.savesAtMost_saveSource (arguments : StubArguments) (source : String) :
    SavesAtMost arguments.source.savePath (arguments.saveSource source) := by
  refine .bind (arguments.source.savesAtMost_saveSource source) fun _ => ?_
  split
  · exact (OnlyReports.of_report _).keepsFiles
  · exact (OnlyReports.of_pure ()).keepsFiles

theorem savesAtMost_runCommand (host : Host) (config : Config) (command : Command) :
    SavesAtMost (command.source?.bind SourceArguments.savePath)
      (runCommand host config command) := by
  cases command with
  | enumeration arguments => exact (arguments.keepsFiles_run host config).savesAtMost
  | completions shell => exact (KeepsFiles.of_print _).savesAtMost
  | stubs arguments =>
      exact (arguments.onlyReports_options host config).keepsFiles.bind_savesAtMost fun options =>
        (arguments.source.onlyReports_declarations host options).keepsFiles.bind_savesAtMost
          fun found => .bind (arguments.savesAtMost_saveSource found.source) fun _ =>
            keepsFiles_printStubs options found
  | parse arguments =>
      exact (arguments.source.onlyReports_options host config).keepsFiles.bind_savesAtMost
        fun options =>
          (arguments.source.onlyReports_declarations host options).keepsFiles.bind_savesAtMost
            fun found => .bind (arguments.source.savesAtMost_saveSource found.source) fun _ =>
              keepsFiles_printHeader arguments.json found.header

/-! ### Whole runs -/

variable {host : Host} {line : CommandLine}

/-- The path that a source is to be saved to. -/
def savePath? (line : CommandLine) : Option String :=
  line.command.source?.bind SourceArguments.savePath

theorem files_report (line : CommandLine) (host : Host) :
    (line.report host).files
      = (start (line.execute host) { files := host.files }).2.files := by
  rw [report, finish]
  rcases start (line.execute host) { files := host.files } with ⟨error | _, state⟩
  · rfl
  · rfl

/-- A run does nothing to the files but save one text under the path that is named for that. -/
theorem files_report_cases (line : CommandLine) (host : Host) :
    (line.report host).files = host.files ∨
      ∃ path text, line.savePath? = some path ∧
        (line.report host).files = ((FileChange.writeText path text).run.run host.files).2 := by
  rw [files_report]
  exact (onlyReports_configuration host line.config).keepsFiles.bind_savesAtMost
    (fun config => savesAtMost_runCommand host config line.command) { files := host.files }

/-- Whether it succeeds or fails, a run takes nothing away and changes nothing but what the path
leads to that a source is to be saved to. -/
theorem find_report_of_ne {other : String} {node : FileNode}
    (hfind : host.files.find other = .ok node)
    (hne : ∀ path, line.savePath? = some path →
      (line.report host).files.locate other ≠ (line.report host).files.locate path) :
    (line.report host).files.find other = .ok node := by
  obtain hfiles | ⟨path, text, hpath, hfiles⟩ := line.files_report_cases host
  · rw [hfiles, hfind]
  · have hdifferent := hne path hpath
    rw [hfiles] at hdifferent ⊢
    exact FileChange.find_writeText_of_ne hfind hdifferent

end CommandLine

/-! ### Saved sources -/

/-- Declarations are read again from the source that was read, which needs no further expansion. -/
theorem Stubs.value_declarations_again {tools : Tools} {options : StubOptions} {input : String}
    {found : Declarations}
    (h : (Stubs.declarations tools options input).outcome.value = .ok found) :
    (Stubs.declarations tools { options with preprocess := none } found.source).outcome.value
      = .ok found := by
  rw [Stubs.declarations, Attempt.value_bind_eq_ok_iff] at h
  obtain ⟨source, -, h⟩ := h
  rw [Attempt.value_lift] at h
  obtain rfl := Except.ok.inj h
  rfl

namespace CommandLine
variable {host : Host} {line : CommandLine} {arguments : StubArguments} {options : StubOptions}
  {found : Declarations} {saved : RunState} {path : String}

/-- A source that was saved to a file is read back, and what is read without expanding it has the
declarations that stubs were made for. -/
theorem exists_readText_report (h : line.RendersStubs host arguments options found saved)
    (hpath : arguments.source.savePath = some path)
    (hfile : ∀ old sink, (line.report host).files.find path ≠ .ok (.device old sink))
    (hread : (line.report host).files.MayRead path) :
    ∃ text, (line.report host).files.readText path = .ok text ∧
      (Stubs.declarations host.tools { options with preprocess := none } text).outcome.value
        = .ok found := by
  obtain ⟨hstart, -⟩ := start_of_rendersStubs h
  obtain ⟨config, first, second, third, -, -, -, hfound, hsaved⟩ := h
  have hfiles : (line.report host).files = saved.files := by
    rw [files_report, hstart]
    exact (keepsFiles_printStubs options found saved).symm
  obtain ⟨_, between, hsave, hreport⟩ := yields_bind.mp hsaved
  rw [SourceArguments.saveSource, hpath] at hsave
  rw [hpath] at hreport
  have hbetween : saved.files = between.files :=
    ((OnlyReports.of_report _).reports_of_yields hreport).files
  rw [hfiles, hbetween] at hfile hread ⊢
  obtain ⟨executable, hwritten⟩ | ⟨old, sink, hdevice⟩ :=
    FileChange.find_of_writeText (writeText_of_yields_save hsave)
  · obtain ⟨input, -, hvalue⟩ := arguments.source.declarations_of_yields hfound
    exact ⟨found.source, FileTree.readText_of_find hread hwritten,
      Stubs.value_declarations_again hvalue⟩
  · exact absurd hdevice (hfile old sink)

end CommandLine
end HeaderBindings
