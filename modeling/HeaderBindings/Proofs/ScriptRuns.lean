import HeaderBindings.Shell.Evaluation

/-!
Running scripts. A run writes behind what it has written, and once the script has ended it writes no
more. The bound on the number of steps does not show in a run that it does not end.
-/

namespace HeaderBindings.Shell

namespace Run

/-- The state with another exit code of the last command. -/
def withStatus (run : Run) (status : Nat) : Run :=
  { run with effect := { run.effect with status } }

variable {files : FileTree} {run before between after : Run} {command : Command} {fuel : Nat}

/-! ### Single commands -/

theorem execute_of_ended (h : run.ended.isSome) (files : FileTree) (fuel : Nat)
    (command : Command) : execute files (fuel + 1) command run = run := if_pos h

section
variable (h : ¬run.ended.isSome) (fuel : Nat)
include h

theorem execute_sequence (first second : Command) :
    execute files (fuel + 1) (.sequence first second) run
      = execute files fuel second (execute files fuel first run) := if_neg h

theorem execute_andThen (first second : Command) :
    execute files (fuel + 1) (.andThen first second) run
      = if (execute files fuel first run).effect.status = 0 then
          execute files fuel second (execute files fuel first run)
        else execute files fuel first run := if_neg h

theorem execute_orElse (first second : Command) :
    execute files (fuel + 1) (.orElse first second) run
      = if (execute files fuel first run).effect.status = 0 then execute files fuel first run
        else execute files fuel second (execute files fuel first run) := if_neg h

theorem execute_negated (command : Command) :
    execute files (fuel + 1) (.negated command) run
      = (execute files fuel command run).withStatus
          (if (execute files fuel command run).effect.status = 0 then 1 else 0) := if_neg h

theorem execute_conditional (test thenPart elsePart : Command) :
    execute files (fuel + 1) (.conditional test thenPart elsePart) run
      = if (execute files fuel test run).effect.status = 0 then
          execute files fuel thenPart (execute files fuel test run)
        else execute files fuel elsePart ((execute files fuel test run).withStatus 0) := if_neg h

theorem execute_loop (whileSuccess : Bool) (test body : Command) :
    execute files (fuel + 1) (.loop whileSuccess test body) run
      = if ((execute files fuel test run).effect.status == 0) == whileSuccess then
          execute files fuel (.loop whileSuccess test body)
            (execute files fuel body (execute files fuel test run))
        else (execute files fuel test run).withStatus 0 := if_neg h

theorem execute_forEach (name : String) (words : List Word) (body : Command) :
    execute files (fuel + 1) (.forEach name words body) run
      = (run.fields words).foldl
          (fun run field => execute files fuel body (run.assign name field)) run := if_neg h

end

/-! ### What every step preserves -/

/-- One state of a run comes behind another. -/
structure GoesOn (before after : Run) : Prop where
  output : before.effect.output <+: after.effect.output
  errors : before.effect.errors <+: after.effect.errors
  /-- Once the script has ended, nothing more is written. -/
  silent : before.ended.isSome → after.effect.output = before.effect.output ∧
    after.effect.errors = before.effect.errors ∧ after.ended.isSome
  stopped : before.ended = some none → after.ended = some none

namespace GoesOn

/-- The state changes, but not what was written nor whether the script has ended. -/
theorem of_eq (houtput : after.effect.output = before.effect.output)
    (herrors : after.effect.errors = before.effect.errors) (hended : after.ended = before.ended) :
    GoesOn before after where
  output := houtput ▸ List.prefix_rfl
  errors := herrors ▸ List.prefix_rfl
  silent h := ⟨houtput, herrors, by rwa [hended]⟩
  stopped h := by rw [hended, h]

theorem refl (run : Run) : GoesOn run run := of_eq rfl rfl rfl

theorem trans (hfirst : GoesOn before between) (hsecond : GoesOn between after) :
    GoesOn before after where
  output := hfirst.output.trans hsecond.output
  errors := hfirst.errors.trans hsecond.errors
  silent h := by
    obtain ⟨houtput, herrors, hended⟩ := hfirst.silent h
    obtain ⟨houtput', herrors', hended'⟩ := hsecond.silent hended
    exact ⟨houtput'.trans houtput, herrors'.trans herrors, hended'⟩
  stopped h := hsecond.stopped (hfirst.stopped h)

/-- As long as the script has not ended, more may be written. -/
theorem of_prefix (hended : before.ended = none)
    (houtput : before.effect.output <+: after.effect.output)
    (herrors : before.effect.errors <+: after.effect.errors) : GoesOn before after where
  output := houtput
  errors := herrors
  silent h := by rw [hended] at h; cases h
  stopped h := by rw [hended] at h; cases h

theorem of_finish_none (run : Run) : GoesOn run (run.finish none) where
  output := List.prefix_rfl
  errors := List.prefix_rfl
  silent _ := ⟨rfl, rfl, rfl⟩
  stopped _ := rfl

theorem of_finish (h : run.ended = none) (exitCode : Option Nat) :
    GoesOn run (run.finish exitCode) := of_prefix h List.prefix_rfl List.prefix_rfl

theorem of_assign (run : Run) (name value : String) : GoesOn run (run.assign name value) :=
  of_eq rfl rfl rfl

theorem of_withStatus (run : Run) (status : Nat) : GoesOn run (run.withStatus status) :=
  of_eq rfl rfl rfl

theorem of_record (h : run.ended = none) (redirections : List Redirection) (effect : Effect) :
    GoesOn run (run.record redirections effect) :=
  of_prefix h (List.prefix_append _ _) (List.prefix_append _ _)

theorem of_perform (h : run.ended = none) (files : FileTree) (redirections : List Redirection)
    (name : String) (arguments : List String) :
    GoesOn run (run.perform files redirections name arguments) := by
  rw [perform.eq_def]
  split
  · exact of_finish h _
  · exact of_eq rfl rfl rfl
  · split
    · exact of_finish h none
    · exact of_record h redirections _
  · exact of_eq rfl rfl rfl
  · split
    · exact of_record h redirections _
    · exact of_record h redirections _

theorem of_foldl {α : Type} {next : Run → α → Run} (hnext : ∀ run item, GoesOn run (next run item))
    (items : List α) (run : Run) : GoesOn run (items.foldl next run) := by
  induction items generalizing run with
  | nil => exact refl run
  | cons item items ih => exact (hnext run item).trans (ih (next run item))

end GoesOn

/-- A run writes behind what it has written. -/
theorem goesOn_execute (files : FileTree) (fuel : Nat) (command : Command) (run : Run) :
    GoesOn run (execute files fuel command run) := by
  induction fuel generalizing command run with
  | zero => exact .of_finish_none run
  | succ fuel ih =>
      by_cases hended : run.ended.isSome
      · rw [execute_of_ended hended]
        exact .refl run
      · have hnone : run.ended = none := Option.not_isSome_iff_eq_none.mp hended
        cases command with
        | nothing =>
            rw [execute, if_neg hended]
            exact .refl run
        | simple words redirections =>
            rw [execute, if_neg hended]
            split
            · exact .of_assign run _ _
            · split
              · exact .refl run
              · exact .of_perform hnone files redirections _ _
        | sequence first second =>
            rw [execute_sequence hended]
            exact (ih first run).trans (ih second _)
        | andThen first second =>
            rw [execute_andThen hended]
            split
            · exact (ih first run).trans (ih second _)
            · exact ih first run
        | orElse first second =>
            rw [execute_orElse hended]
            split
            · exact ih first run
            · exact (ih first run).trans (ih second _)
        | negated command =>
            rw [execute_negated hended]
            exact (ih command run).trans (.of_withStatus _ _)
        | conditional test thenPart elsePart =>
            rw [execute_conditional hended]
            split
            · exact (ih test run).trans (ih thenPart _)
            · exact ((ih test run).trans (.of_withStatus _ 0)).trans (ih elsePart _)
        | loop whileSuccess test body =>
            rw [execute_loop hended]
            split
            · exact ((ih test run).trans (ih body _)).trans (ih _ _)
            · exact (ih test run).trans (.of_withStatus _ 0)
        | forEach name words body =>
            rw [execute_forEach hended]
            exact .of_foldl
              (fun run field => (GoesOn.of_assign run name field).trans (ih body _)) _ run

/-! ### The number of steps -/

/-- The script was not ended from outside. -/
def Finishes (run : Run) : Prop := run.ended ≠ some none

theorem GoesOn.finishes (h : GoesOn before after) (hafter : after.Finishes) : before.Finishes :=
  fun hbefore => hafter (h.stopped hbefore)

theorem foldl_congr_of_finishes {α : Type} {next next' : Run → α → Run}
    (hgoesOn : ∀ run item, GoesOn run (next run item))
    (hsame : ∀ run item, (next run item).Finishes → next' run item = next run item)
    (items : List α) (run : Run) (h : (items.foldl next run).Finishes) :
    items.foldl next' run = items.foldl next run := by
  induction items generalizing run with
  | nil => rfl
  | cons item items ih =>
      rw [List.foldl_cons] at h
      rw [List.foldl_cons, List.foldl_cons,
        hsame run item ((GoesOn.of_foldl hgoesOn items _).finishes h), ih _ h]

/-- One more step changes nothing in a run that has been able to finish. -/
theorem execute_succ (h : (execute files fuel command run).Finishes) :
    execute files (fuel + 1) command run = execute files fuel command run := by
  -- A part that is ended from outside ends the whole, so every part has been able to finish.
  induction fuel generalizing command run with
  | zero => exact absurd rfl h
  | succ fuel ih =>
      have hgoesOn := goesOn_execute files fuel
      by_cases hended : run.ended.isSome
      · rw [execute_of_ended hended, execute_of_ended hended]
      · cases command with
        | nothing => rfl
        | simple words redirections => rfl
        | sequence first second =>
            rw [execute_sequence hended] at h
            rw [execute_sequence hended fuel, execute_sequence hended (fuel + 1),
              ih ((hgoesOn second _).finishes h), ih h]
        | andThen first second =>
            rw [execute_andThen hended] at h
            rw [execute_andThen hended fuel, execute_andThen hended (fuel + 1)]
            split at h
            · rename_i hstatus
              rw [ih ((hgoesOn second _).finishes h), if_pos hstatus, if_pos hstatus, ih h]
            · rename_i hstatus
              rw [ih h, if_neg hstatus, if_neg hstatus]
        | orElse first second =>
            rw [execute_orElse hended] at h
            rw [execute_orElse hended fuel, execute_orElse hended (fuel + 1)]
            split at h
            · rename_i hstatus
              rw [ih h, if_pos hstatus, if_pos hstatus]
            · rename_i hstatus
              rw [ih ((hgoesOn second _).finishes h), if_neg hstatus, if_neg hstatus, ih h]
        | negated command =>
            rw [execute_negated hended] at h
            rw [execute_negated hended fuel, execute_negated hended (fuel + 1),
              ih ((GoesOn.of_withStatus _ _).finishes h)]
        | conditional test thenPart elsePart =>
            rw [execute_conditional hended] at h
            rw [execute_conditional hended fuel, execute_conditional hended (fuel + 1)]
            split at h
            · rename_i hstatus
              rw [ih ((hgoesOn thenPart _).finishes h), if_pos hstatus, if_pos hstatus, ih h]
            · rename_i hstatus
              have htest := (GoesOn.of_withStatus _ 0).finishes ((hgoesOn elsePart _).finishes h)
              rw [ih htest, if_neg hstatus, if_neg hstatus, ih h]
        | loop whileSuccess test body =>
            rw [execute_loop hended] at h
            rw [execute_loop hended fuel, execute_loop hended (fuel + 1)]
            split at h
            · rename_i hstatus
              have hbody := (hgoesOn _ _).finishes h
              rw [ih ((hgoesOn body _).finishes hbody), if_pos hstatus, if_pos hstatus, ih hbody,
                ih h]
            · rename_i hstatus
              rw [ih ((GoesOn.of_withStatus _ 0).finishes h), if_neg hstatus, if_neg hstatus]
        | forEach name words body =>
            rw [execute_forEach hended] at h
            rw [execute_forEach hended fuel, execute_forEach hended (fuel + 1)]
            exact foldl_congr_of_finishes
              (fun run field => (GoesOn.of_assign run name field).trans (hgoesOn body _))
              (fun run field => ih) _ run h

theorem execute_of_le {more : Nat} (hle : fuel ≤ more)
    (h : (execute files fuel command run).Finishes) :
    execute files more command run = execute files fuel command run := by
  induction hle with
  | refl => rfl
  | step hle ih => rw [execute_succ (by rw [ih]; exact h), ih]

end Run

/-- A script that finishes in fewer steps than the bound leaves what it leaves then. -/
theorem runScript_of_finishes {script : String} {command : Command}
    (hscript : script? script = some command) {fuel : Nat} (hle : fuel ≤ longestRun)
    {files : FileTree} {name : String} {arguments : List String}
    (h : (Run.execute files fuel command { name, arguments }).Finishes) :
    let run := Run.execute files fuel command { name, arguments }
    runScript files name script arguments
      = (run.ended.getD (some run.effect.status), run.effect.output, run.effect.errors) := by
  intro run
  rw [runScript, hscript]
  dsimp only
  rw [Run.execute_of_le hle h]

end HeaderBindings.Shell
