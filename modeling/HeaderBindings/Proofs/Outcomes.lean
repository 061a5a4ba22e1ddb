import HeaderBindings.Proofs.Batches
import HeaderBindings.Proofs.Runs
import Mathlib.Control.Monad.Basic

/-!
The outcome of a run: all or nothing. A run either succeeds and writes no diagnostic, or fails with one
diagnostic and has printed nothing, since each command prints when nothing can fail any more. So one
constant without a variant, or one function without a stub, at any position, leaves nothing of the
others, also if the source has been saved by then. The one text that a run that fails may leave on the
standard output is a source that was to be saved there.
-/

namespace HeaderBindings
open Run RunState CommandLine Text

/-! ### What is left -/

/-- A run that fails: it writes one diagnostic, and `left` is all that it has printed. -/
structure Report.Fails (report : Report) (messages : List Message) (left : String)
    (diagnostic : Diagnostic) : Prop where
  exitCode : report.exitCode = 1
  output : report.output = left
  diagnostics : messages.filterMap Message.diagnostic? = [diagnostic]

/-- A run that succeeds: it prints its output, and writes no diagnostic. -/
structure Report.Succeeds (report : Report) (messages : List Message) (output : String) : Prop where
  exitCode : report.exitCode = 0
  output : report.output = output
  diagnostics : messages.filterMap Message.diagnostic? = []

section
variable {host : Host} {line : CommandLine} {after : RunState} {text : String}

end

/-! ### Printing comes last -/

namespace CommandLine

theorem onlyReports_listSkipped (skipped : List String) : OnlyReports (listSkipped skipped) := by
  induction skipped with
  | nil => exact .of_pure ()
  | cons statement rest ih => exact .bind (.of_report _) fun _ => ih

end CommandLine

/-! ### Failures late in a run -/

namespace CommandLine

/-- The run of a command line comes to rendering stubs of declarations, when the source that they were
read from has been saved if that was asked for. -/
def RendersStubs (line : CommandLine) (host : Host) (arguments : StubArguments)
    (options : StubOptions) (found : Declarations) (saved : RunState) : Prop :=
  ∃ config first second third, line.command = .stubs arguments ∧
    Yields (configuration host line.config) { files := host.files } config first ∧
    Yields (arguments.options host config) first options second ∧
    Yields (arguments.source.declarations host options) second found third ∧
    Yields (arguments.saveSource found.source) third () saved

section
variable {host : Host} {line : CommandLine}

/-- Once the source has been saved, the stubs are all that is left to a run. -/
theorem start_of_rendersStubs {arguments : StubArguments} {options : StubOptions}
    {found : Declarations} {saved : RunState}
    (h : line.RendersStubs host arguments options found saved) :
    start (line.execute host) { files := host.files } = start (printStubs options found) saved ∧
      Prints (arguments.source.printedBySaving host.files found.source) { files := host.files }
        saved := by
  obtain ⟨config, first, second, third, hcommand, hconfig, hoptions, hfound, hsaved⟩ := h
  have hreports : Reports { files := host.files } third :=
    (((onlyReports_configuration host line.config).reports_of_yields hconfig).trans
      ((arguments.onlyReports_options host config).reports_of_yields hoptions)).trans
      ((arguments.source.onlyReports_declarations host options).reports_of_yields hfound)
  constructor
  · rw [execute, start_bind_of_yields hconfig, hcommand, runCommand, runStubs,
      start_bind_of_yields hoptions, start_bind_of_yields hfound, start_bind_of_yields hsaved]
  · have hfiles : third.files = host.files := hreports.files
    obtain ⟨other, hother, hprints⟩ | ⟨error, other, hfails, -⟩ :=
      arguments.saveSource_cases found.source third
    · cases hsaved.symm.trans hother
      rw [hfiles] at hprints
      exact hreports.trans_prints hprints
    · cases hsaved.symm.trans hfails

end
end CommandLine

namespace CommandLine
variable {host : Host} {line : CommandLine} {arguments : StubArguments} {options : StubOptions}
  {found : Declarations} {saved : RunState}

end CommandLine

end HeaderBindings
