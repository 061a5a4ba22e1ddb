import HeaderBindings.Proofs.Batches
import HeaderBindings.Proofs.Scanning

/-!
Filters select. What is read with filters is what is read without them, less the functions that are
not wanted: the functions left stand in the same order and as often, and what was skipped stays
skipped. Each function that was read then has a stub or is left out, so stubs and functions without
one make up the functions in number.
-/

namespace HeaderBindings

theorem NameFilter.admits_iff (filter : NameFilter) (name : String) :
    filter.admits name = true ↔
      name ∉ filter.excluded ∧ filter.accepts.all (fun accepts => accepts name) = true ∧
        (filter.included = [] ∨ name ∈ filter.included) := by
  rw [admits]
  cases filter.accepts with
  | none => simp
  | some accepts => simp [and_assoc]

theorem NameFilter.admits_empty (name : String) : ({} : NameFilter).admits name = true := rfl

/-- The header with only the functions that a filter admits. -/
def Header.select (header : Header) (filter : NameFilter) : Header :=
  { header with functions := header.functions.filter fun signature => filter.admits signature.name }

theorem Header.append_select (first second : Header) (filter : NameFilter) :
    (first ++ second).select filter = first.select filter ++ second.select filter := by
  rw [Header.append_def, Header.append_def, select, List.filter_append]
  rfl

namespace Source

/-- A filter has no say in how a statement is read, only in whether the function counts. -/
theorem value_readStatement_eq_select (filter : NameFilter) (statement : List Char) :
    (readStatement filter statement).value = (readStatement {} statement).value.select filter := by
  rw [readStatement, readStatement]
  split
  · cases declaration statement with
    | error reason => rfl
    | ok signature =>
        simp only [NameFilter.admits_empty, if_true]
        cases hadmits : filter.admits signature.name with
        | true => simp [Header.select, hadmits]
        | false => simp [Header.select, hadmits]
  · rfl

theorem value_readStatements_eq_select (filter : NameFilter) (found : List (List Char)) :
    (readStatements filter found).value = (readStatements {} found).value.select filter := by
  induction found with
  | nil => rfl
  | cons statement rest ih =>
      rw [value_readStatements_cons, value_readStatements_cons, Header.append_select,
        ← value_readStatement_eq_select, ih]

/-- The text is cleaned and split without regard to the filter. -/
theorem value_readHeader_eq_select (filter : NameFilter) (source : String) :
    (readHeader filter source).value = (readHeader {} source).value.select filter :=
  value_readStatements_eq_select filter _

end Source

namespace Stubs

theorem exists_output_of_keepGoing (options : StubOptions) (found : Declarations)
    (h : options.keepGoing = true) :
    ∃ output, (render options found).outcome.value = .ok output ∧
      output.declarations = found ∧
      output.batch.stubs.length + output.batch.skipped.length = found.header.functions.length := by
  have hlength := Wrapper.length_stubs_add_length_failures options.style found.header.functions
  rw [value_render, h, Wrapper.value_renderAll_keepGoing]
  exact ⟨_, rfl, rfl, hlength⟩

end Stubs

namespace Source

/-- The functions read with filters are those read without them of which the name is not excluded,
meets the condition if there is one, and is included if any is. What is skipped is the same. So with
functions that cannot be wrapped left out, the stubs and the functions without one are in number the
functions that are read with the same filters. -/
theorem readHeader_filtered (filter : NameFilter) (source : String) :
    let all := (readHeader {} source).value
    let found := (readHeader filter source).value
    (∃ wanted : String → Bool,
      (∀ name, wanted name = true ↔
        name ∉ filter.excluded ∧ filter.accepts.all (fun accepts => accepts name) = true ∧
          (filter.included = [] ∨ name ∈ filter.included)) ∧
      found.functions = all.functions.filter fun signature => wanted signature.name) ∧
    found.skipped = all.skipped ∧
    ∀ (tools : Tools) (options : StubOptions) (style : WrapperStyle) (echoInput : Bool)
      (input : String),
      (Stubs.generate tools { options with style, echoInput, filter, keepGoing := true }
          input).outcome.value.map
        (fun output => (output.declarations,
          output.batch.stubs.length + output.batch.skipped.length))
      = ((Stubs.declarations tools { options with filter } input).outcome.value.mapError
          StubError.preprocess).map
        fun declarations => (declarations, declarations.header.functions.length) := by
  intro all found
  have hfound : found = all.select filter := value_readHeader_eq_select filter source
  have hskipped : found.skipped = all.skipped := by
    rw [hfound]
    rfl
  refine ⟨⟨filter.admits, filter.admits_iff, congrArg Header.functions hfound⟩, hskipped, ?_⟩
  intro tools options style echoInput input
  rw [Stubs.generate, Attempt.value_bind, Attempt.value_mapError]
  have hsame : (Stubs.declarations tools
        { options with style, echoInput, filter, keepGoing := true } input).outcome.value
      = (Stubs.declarations tools { options with filter } input).outcome.value := rfl
  rw [hsame]
  cases (Stubs.declarations tools { options with filter } input).outcome.value with
  | error error => rfl
  | ok declarations =>
      obtain ⟨output, houtput, hdeclarations, hlength⟩ := Stubs.exists_output_of_keepGoing
        { options with style, echoInput, filter, keepGoing := true } declarations rfl
      simp only [Except.mapError, Except.map, Attempt.value_mapError, houtput, hdeclarations,
        hlength]

end Source

end HeaderBindings
