import HeaderBindings.Proofs.FirstErrors
import HeaderBindings.Stubs

/-!
The stubs of several functions, of which any may have none. Unless such functions are left out, there
is a stub for each or the first error. When they are left out, each leaves a warning, and the two
modes agree: nothing is left out exactly when there is a stub for each, and otherwise the first
function that is left out is the one that fails.
-/

namespace HeaderBindings

namespace Wrapper

def stub? (style : WrapperStyle) (signature : Signature) : Option String :=
  match render style signature with
  | .ok stub => some stub
  | .error _ => none

def failure? (style : WrapperStyle) (signature : Signature) : Option WrapperError :=
  match render style signature with
  | .ok _ => none
  | .error error => some error

/-- Unless functions without a stub are left out, there is a stub for each or none at all. -/
theorem value_renderAll_strict (style : WrapperStyle) (functions : List Signature) :
    (renderAll style false functions).outcome.value
      = (functions.mapM (render style)).map fun stubs => { stubs } := by
  induction functions with
  | nil => rfl
  | cons signature rest ih =>
      rw [renderAll, List.mapM_cons]
      cases hrender : render style signature with
      | error error => rfl
      | ok stub =>
          simp only [Attempt.value_bind, ih]
          cases rest.mapM (render style) with
          | error error => rfl
          | ok stubs => rfl

theorem value_renderAll_keepGoing (style : WrapperStyle) (functions : List Signature) :
    (renderAll style true functions).outcome.value
      = .ok { stubs := functions.filterMap (stub? style)
              skipped := functions.filterMap (failure? style) } := by
  induction functions with
  | nil => rfl
  | cons signature rest ih =>
      rw [renderAll, List.filterMap_cons, List.filterMap_cons, stub?, failure?]
      cases hrender : render style signature with
      | error error =>
          simp only [if_true, Attempt.value_bind, ih]
          rfl
      | ok stub =>
          simp only [Attempt.value_bind, ih]
          rfl

/-- Each function either has a stub or an error. -/
theorem length_stubs_add_length_failures (style : WrapperStyle) (functions : List Signature) :
    (functions.filterMap (stub? style)).length + (functions.filterMap (failure? style)).length
      = functions.length := by
  induction functions with
  | nil => rfl
  | cons signature rest ih =>
      rw [List.filterMap_cons, List.filterMap_cons, stub?, failure?]
      cases render style signature with
      | error error =>
          simp only [List.length_cons]
          omega
      | ok stub =>
          simp only [List.length_cons]
          omega

/-- Each function that is left out is warned of, in order. -/
theorem events_renderAll_keepGoing (style : WrapperStyle) (functions : List Signature) :
    (renderAll style true functions).outcome.events
      = (functions.filterMap (failure? style)).map fun error => .cannotWrap error.message := by
  induction functions with
  | nil => rfl
  | cons signature rest ih =>
      rw [renderAll, List.filterMap_cons, failure?]
      cases render style signature with
      | error error =>
          simp only [if_true, Attempt.events_bind, ih, value_renderAll_keepGoing]
          exact congrArg (List.cons (Event.cannotWrap error.message)) (List.append_nil _)
      | ok stub =>
          simp only [Attempt.events_bind, ih, value_renderAll_keepGoing]
          exact List.append_nil _

/-- The first function without a stub decides the outcome for all. -/
theorem mapM_render_eq (style : WrapperStyle) (functions : List Signature) :
    functions.mapM (render style)
      = match functions.filterMap (failure? style) with
        | [] => .ok (functions.filterMap (stub? style))
        | error :: _ => .error error := by
  induction functions with
  | nil => rfl
  | cons signature rest ih =>
      rw [List.mapM_cons, List.filterMap_cons, List.filterMap_cons, stub?, failure?, ih]
      cases render style signature with
      | error error => rfl
      | ok stub =>
          cases rest.filterMap (failure? style) with
          | nil => rfl
          | cons error others => rfl

/-- Rendering with functions left out never fails. It gives the stubs and the errors of the functions
one by one, each in order, and one warning for each error; without leaving any out it gives the same
stubs if there is no error, and the first of the errors otherwise. -/
theorem renderAll_modes_agree (style : WrapperStyle) (functions : List Signature) :
    let kept := (renderAll style true functions).outcome
    let strict := (renderAll style false functions).outcome
    ∃ batch, kept.value = .ok batch ∧
      batch.stubs = functions.filterMap (stub? style) ∧
      batch.skipped = functions.filterMap (failure? style) ∧
      batch.stubs.length + batch.skipped.length = functions.length ∧
      kept.events.map (fun event => (event.level, event.message))
        = batch.skipped.map (fun error => (.warn, error.message)) ∧
      ((∃ rendered, strict.value = .ok rendered) ↔ batch.skipped = []) ∧
      strict.value = match batch.skipped with
        | [] => .ok batch
        | error :: _ => .error error := by
  refine ⟨_, value_renderAll_keepGoing style functions, rfl, rfl,
    length_stubs_add_length_failures style functions, ?_, ?_, ?_⟩
  · rw [events_renderAll_keepGoing, List.map_map]
    rfl
  · rw [value_renderAll_strict, mapM_render_eq]
    cases functions.filterMap (failure? style) with
    | nil => simp [Except.map]
    | cons error others => simp [Except.map]
  · rw [value_renderAll_strict, mapM_render_eq]
    cases functions.filterMap (failure? style) with
    | nil => rfl
    | cons error others => rfl

end Wrapper

namespace Stubs

theorem value_warnIfNone (functions : List Signature) :
    (warnIfNone functions).outcome.value = .ok () := by
  rw [warnIfNone]
  split
  · rfl
  · rfl

/-- Stubs are rendered when the batch is, from the declarations that were given. -/
theorem value_render (options : StubOptions) (found : Declarations) :
    (render options found).outcome.value
      = (Wrapper.renderAll options.style options.keepGoing
          found.header.functions).outcome.value.map fun batch =>
            ⟨found, batch, echo options found.source ++ stubLines batch.stubs⟩ := by
  rw [render, Attempt.value_bind, value_warnIfNone]
  simp only [Attempt.value_bind]
  cases (Wrapper.renderAll options.style options.keepGoing found.header.functions).outcome.value with
  | error error => rfl
  | ok batch => rfl

theorem events_render (options : StubOptions) (found : Declarations) :
    (render options found).outcome.events
      = (warnIfNone found.header.functions).outcome.events
        ++ (Wrapper.renderAll options.style options.keepGoing
          found.header.functions).outcome.events := by
  rw [render, Attempt.events_bind, value_warnIfNone]
  simp only [Attempt.events_bind]
  cases (Wrapper.renderAll options.style options.keepGoing found.header.functions).outcome.value with
  | error error => rw [List.append_nil]
  | ok batch => exact congrArg _ (List.append_nil _)

end Stubs

end HeaderBindings
