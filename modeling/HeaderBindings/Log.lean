/-!
What the library reports while it works. An event says what happened; its level and its wording are
functions of it. Results come with the list of events in the order in which they happened, so that a
statement about a run can speak of its events.
-/

namespace HeaderBindings

inductive Level where
  | debug
  | info
  | warn
  deriving DecidableEq

def Level.name : Level → String
  | .debug => "DEBUG"
  | .info => "INFO"
  | .warn => "WARN"

inductive Event where
  /-- A call of a compiler extension has no closing parenthesis. -/
  | unbalancedCall (call : String)
  /-- A declaration was read and passed the filters. -/
  | foundFunction (name : String)
  /-- A statement looked like a declaration and could not be read. -/
  | skippedStatement (statement reason : String)
  /-- Reading ended with so many declarations and so many skipped statements. -/
  | readHeader (functions skipped : Nat)
  | noFunctions
  /-- What to try when there is nothing to wrap. -/
  | noFunctionsHelp
  /-- A function was left out because it cannot be wrapped. -/
  | cannotWrap (message : String)
  | leftOut (functions : Nat)
  /-- A skipped statement, listed after the declarations. -/
  | listedSkipped (statement : String)
  | noConstants (enumeration : String)
  | rendering (enumeration : String) (variants : Nat)
  | preprocessing (bytes flags : Nat)
  | running (command : String)
  | wroteExpanded (path : String)
  | ignoredConfig (path reason : String)
  deriving DecidableEq

namespace Event

def level : Event → Level
  | readHeader .. | leftOut .. => .info
  | noFunctions | noFunctionsHelp | cannotWrap .. | noConstants .. | ignoredConfig .. => .warn
  | _ => .debug

def message : Event → String
  | unbalancedCall call => "unbalanced `" ++ call ++ "` left in place"
  | foundFunction name => "found function `" ++ name ++ "`"
  | skippedStatement statement reason => "skipping `" ++ statement ++ "`: " ++ reason
  | readHeader functions skipped =>
      "found " ++ toString functions ++ " functions (" ++ toString skipped
        ++ " declarations skipped)"
  | noFunctions => "no function declarations found"
  | noFunctionsHelp =>
      "help: Check `--match`/`--include` or run `gibind parse` to see what was found"
  | cannotWrap message => message
  | leftOut functions => "skipped " ++ toString functions ++ " functions"
  | listedSkipped statement => "skipped: " ++ statement
  | noConstants enumeration => "no constants given for `" ++ enumeration ++ "`"
  | rendering enumeration variants =>
      "rendering `" ++ enumeration ++ "` with " ++ toString variants ++ " variants"
  | preprocessing bytes flags =>
      "preprocessing " ++ toString bytes ++ " bytes with " ++ toString flags ++ " flags"
  | running command => "running `" ++ command ++ "`"
  | wroteExpanded path => "wrote expanded source to " ++ path
  | ignoredConfig path reason => "Failed to load config from " ++ path ++ ": " ++ reason

end Event

/-- A value with the events of its computation, in the order in which they happened. -/
structure Logged (α : Type) where
  value : α
  events : List Event := []

namespace Logged

def report (event : Event) : Logged Unit := { value := (), events := [event] }

instance : Monad Logged where
  pure value := { value }
  bind first next :=
    { value := (next first.value).value, events := first.events ++ (next first.value).events }

@[simp] theorem value_pure {α : Type} (value : α) : (pure value : Logged α).value = value := rfl

@[simp] theorem value_bind {α β : Type} (first : Logged α) (next : α → Logged β) :
    (first >>= next).value = (next first.value).value := rfl

@[simp] theorem events_bind {α β : Type} (first : Logged α) (next : α → Logged β) :
    (first >>= next).events = first.events ++ (next first.value).events := rfl

instance : LawfulMonad Logged := LawfulMonad.mk' Logged
  (fun logged => congrArg (Logged.mk logged.value) (List.append_nil logged.events))
  (fun _ _ => rfl)
  (fun _ _ _ => congrArg (Logged.mk _) (List.append_assoc _ _ _))

@[simp] theorem value_map {α β : Type} (f : α → β) (logged : Logged α) :
    (f <$> logged).value = f logged.value := rfl

@[simp] theorem events_map {α β : Type} (f : α → β) (logged : Logged α) :
    (f <$> logged).events = logged.events := List.append_nil logged.events

end Logged

theorem mapError_eq_ok_iff {ε δ α : Type} {account : ε → δ} {result : Except ε α} {value : α} :
    result.mapError account = .ok value ↔ result = .ok value := by
  cases result with
  | ok found => exact ⟨fun h => congrArg Except.ok (Except.ok.inj h), fun h => h ▸ rfl⟩
  | error error => exact ⟨nofun, nofun⟩

/-- A computation that reports events and may fail; the events before a failure are kept. -/
abbrev Attempt (ε α : Type) := ExceptT ε Logged α

namespace Attempt

def report {ε : Type} (event : Event) : Attempt ε Unit := ExceptT.lift (Logged.report event)

/-- The result and the events of a computation. -/
def outcome {ε α : Type} (attempt : Attempt ε α) : Logged (Except ε α) := attempt.run

/-- The same computation with another account of the failure. -/
def mapError {ε δ α : Type} (account : ε → δ) (attempt : Attempt ε α) : Attempt δ α :=
  ExceptT.adapt account attempt

variable {α β ε δ : Type}

theorem value_bind (first : Attempt ε α) (next : α → Attempt ε β) :
    (first >>= next).outcome.value
      = match first.outcome.value with
        | .ok found => (next found).outcome.value
        | .error error => .error error := by
  rw [outcome, ExceptT.run_bind, Logged.value_bind, outcome]
  cases (ExceptT.run first).value with
  | ok found => rfl
  | error error => rfl

/-- What was reported before a failure stays reported. -/
theorem events_bind (first : Attempt ε α) (next : α → Attempt ε β) :
    (first >>= next).outcome.events
      = first.outcome.events ++
        match first.outcome.value with
        | .ok found => (next found).outcome.events
        | .error _ => [] := by
  rw [outcome, ExceptT.run_bind, Logged.events_bind, outcome]
  cases (ExceptT.run first).value with
  | ok found => rfl
  | error error => rfl

theorem value_lift (logged : Logged α) :
    (outcome (ExceptT.lift logged : Attempt ε α)).value = .ok logged.value := rfl

theorem value_mapError (account : ε → δ) (attempt : Attempt ε α) :
    (attempt.mapError account).outcome.value = attempt.outcome.value.mapError account := rfl

theorem events_mapError (account : ε → δ) (attempt : Attempt ε α) :
    (attempt.mapError account).outcome.events = attempt.outcome.events := Logged.events_map _ _

theorem value_bind_eq_ok_iff {first : Attempt ε α} {next : α → Attempt ε β} {value : β} :
    (first >>= next).outcome.value = .ok value ↔
      ∃ found, first.outcome.value = .ok found ∧ (next found).outcome.value = .ok value := by
  rw [outcome, ExceptT.run_bind, Logged.value_bind]
  generalize hfirst : (ExceptT.run first).value = result
  cases result with
  | error error =>
      constructor
      · intro h
        cases h
      · rintro ⟨found, hfound, -⟩
        rw [outcome, hfirst] at hfound
        cases hfound
  | ok found =>
      constructor
      · intro h
        exact ⟨found, hfirst, h⟩
      · rintro ⟨other, hfound, hnext⟩
        rw [outcome, hfirst] at hfound
        cases hfound
        exact hnext

end Attempt

end HeaderBindings
