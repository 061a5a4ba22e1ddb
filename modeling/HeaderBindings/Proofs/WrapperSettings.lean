import HeaderBindings.Proofs.Merging
import HeaderBindings.Proofs.Runs

/-!
The style of stubs that many configurations and the arguments of one command line make up together.
An argument counts before every configuration, of the configurations the last one that gives a
setting counts, and a setting that nobody gives has its default. The names of types follow the same
rule name by name, with the builtin types below all configurations.
-/

namespace HeaderBindings.CommandLine
open Config

theorem setting_of_layers {α : Type} (layers : List Config) (setting : StubSettings → Option α)
    (hempty : setting {} = none)
    (hmerge : ∀ lower upper : StubSettings,
      setting (lower.merge upper) = (setting upper).or (setting lower))
    (given : Option α) (default : α) :
    given.getD ((setting (mergeAll layers).stubs).getD default)
      = (given.or (layers.reverse.findSome? fun layer => setting layer.stubs)).getD default := by
  rw [Option.getD_or]
  congr 2
  exact mergeAll_eq_findSome? (fun config => setting config.stubs) hempty
    (fun lower upper => hmerge lower.stubs upper.stubs) layers

/-- The name of a type comes from the last configuration that has one for it. -/
theorem map_of_layers (layers : List Config) (name : String) :
    (mergeAll layers).wrapperStyle.types.map name
      = ((layers.reverse.findSome? (·.types.find? name)).or
          (TypeMap.builtin.find? name)).getD name := by
  have hname : (mergeAll layers).types.find? name
      = layers.reverse.findSome? (·.types.find? name) :=
    mergeAll_eq_findSome? (·.types.find? name) rfl (find?_merge · · name) layers
  have hstyle : (mergeAll layers).wrapperStyle.types.find? name
      = ((mergeAll layers).types.find? name).or (TypeMap.builtin.find? name) :=
    TypeMap.find?_withEntries .builtin (mergeAll layers).types.entries name
  rw [TypeMap.map, hstyle, hname]

/-- Each setting of the style in which stubs are rendered is that of the arguments, or else of the
last configuration that gives it, or else the default, and so is the name of each type, which stands
for itself when nobody gives it another one. In this style the stubs are rendered that are printed,
behind the source if it is saved to the standard output. -/
theorem style_of_layers (layers : List Config) (arguments : StubArguments) :
    let config := layers.foldl merge {}
    let style := arguments.style config.wrapperStyle
    style.stripPrefixes
        = (if arguments.stripPrefixes = [] then
            (layers.reverse.findSome? (·.stubs.stripPrefixes)).getD ["g_", "gi_"]
          else arguments.stripPrefixes) ∧
      style.receiver
        = (arguments.receiver.or (layers.reverse.findSome? (·.stubs.receiver))).getD "self" ∧
      style.receiverType
        = (arguments.receiverType.or
            (layers.reverse.findSome? (·.stubs.receiverType))).getD "Self" ∧
      style.rawField
        = (arguments.rawField.or (layers.reverse.findSome? (·.stubs.rawField))).getD "raw" ∧
      style.space
        = (arguments.space.or (layers.reverse.findSome? (·.stubs.space))).getD "C" ∧
      (∀ name, style.types.map name
        = ((layers.reverse.findSome? (·.types.find? name)).or
            (TypeMap.builtin.find? name)).getD name) ∧
      ∀ host before after, Run.Yields (runStubs host config arguments) before () after →
        ∃ options input declarations batch,
          options.style = style ∧ options.keepGoing = arguments.keepGoing ∧
          givenOrInput host.input arguments.source.input = .ok input ∧
          (Stubs.declarations host.tools options input).outcome.value = .ok declarations ∧
          (Wrapper.renderAll options.style options.keepGoing
            declarations.header.functions).outcome.value = .ok batch ∧
          after.output = before.output
            ++ (arguments.source.printedBySaving before.files declarations.source
              ++ (Stubs.echo options declarations.source ++ Stubs.stubLines batch.stubs)) := by
  intro config style
  refine ⟨?_, setting_of_layers layers (·.receiver) rfl (fun _ _ => rfl) arguments.receiver "self",
    setting_of_layers layers (·.receiverType) rfl (fun _ _ => rfl) arguments.receiverType "Self",
    setting_of_layers layers (·.rawField) rfl (fun _ _ => rfl) arguments.rawField "raw",
    setting_of_layers layers (·.space) rfl (fun _ _ => rfl) arguments.space "C",
    map_of_layers layers, fun host before after h => ?_⟩
  rotate_left
  · obtain ⟨options, input, declarations, batch, hstyle, hkeep, hinput, hfound, hbatch, hprints⟩ :=
      exists_batch_of_runStubs h
    exact ⟨options, input, declarations, batch, hstyle, hkeep, hinput, hfound, hbatch,
      hprints.output⟩
  -- A list of prefixes is given by the arguments when it is not empty, so this is no `Option.or`.
  have hprefixes : config.stubs.stripPrefixes
      = layers.reverse.findSome? (·.stubs.stripPrefixes) :=
    mergeAll_eq_findSome? (·.stubs.stripPrefixes) rfl (fun _ _ => rfl) layers
  rw [← hprefixes]
  cases hgiven : arguments.stripPrefixes with
  | nil => simp [style, StubArguments.style, wrapperStyle, hgiven]
  | cons => simp [style, StubArguments.style, hgiven]

/-- An argument over two configurations that disagree, a list that is set to nothing, and names of
types from both of them. -/
theorem style_of_layers_two :
    let first : Config :=
      { stubs := { stripPrefixes := some ["gtk_"], receiver := some "it", space := some "c" }
        types := ⟨[("gboolean", "u8"), ("int", "i32")]⟩ }
    let second : Config :=
      { stubs := { stripPrefixes := some [], receiver := some "object" }
        types := ⟨[("gboolean", "bool")]⟩ }
    let source : SourceArguments :=
      { input := some "int gtk_show(GtkWidget *w, gboolean all, int depth, long id);"
        package := none, withoutPreprocess := true, preprocessor := none, packageConfig := none
        flags := [], savePath := none, pattern := none, included := [], excluded := [] }
    let arguments : StubArguments :=
      { source, stripPrefixes := [], receiver := none, receiverType := some "*Widget"
        rawField := none, space := none, echoInput := false, keepGoing := false }
    let host : Host :=
      { files := {}
        tools := { temporaryPath := "/tmp/source.c", run := fun _ => .notStarted .notFound }
        home := "/home", decode := fun _ => none, property := fun _ => none }
    let config := [first, second].foldl merge {}
    let style := arguments.style config.wrapperStyle
    let text := "pub fn gtkShow(object: *Widget, all: bool, depth: i32, id: c_long) i32 \x7b\n"
      ++ "\treturn c.gtk_show(object.raw, all, depth, id);\n\x7d\n"
    let ran := Run.start (runStubs host config arguments) { files := {} }
    ran.1 = .ok () ∧ ran.2.output = text ∧
      style.stripPrefixes = [] ∧ style.receiver = "object" ∧ style.receiverType = "*Widget" ∧
      style.rawField = "raw" ∧ style.space = "c" ∧ style.types.map "gboolean" = "bool" ∧
      ∃ options input declarations batch,
        options.style = style ∧ options.keepGoing = arguments.keepGoing ∧
        givenOrInput host.input arguments.source.input = .ok input ∧
        (Stubs.declarations host.tools options input).outcome.value = .ok declarations ∧
        (Wrapper.renderAll options.style options.keepGoing
          declarations.header.functions).outcome.value = .ok batch ∧
        text = "" ++ (arguments.source.printedBySaving {} declarations.source
          ++ (Stubs.echo options declarations.source ++ Stubs.stubLines batch.stubs)) := by
  intro first second source arguments host config style text ran
  have hvalue : ran.1 = .ok () := by decide +kernel
  have houtput : ran.2.output = text := by decide +kernel
  have hrun : Run.Yields (runStubs host config arguments) { files := {} } () ran.2 :=
    Prod.ext hvalue rfl
  obtain ⟨hprefixes, hreceiver, hreceiverType, hrawField, hspace, htypes, hruns⟩ :=
    style_of_layers [first, second] arguments
  have hstubs := hruns host { files := {} } ran.2 hrun
  rw [houtput] at hstubs
  exact ⟨hvalue, houtput, hprefixes, hreceiver, hreceiverType, hrawField, hspace,
    htypes "gboolean", hstubs⟩

end HeaderBindings.CommandLine
