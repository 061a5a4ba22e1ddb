import HeaderBindings.Config
import HeaderBindings.Toml.Reading

/-!
Settings from the text of a configuration file. A section is a table with a setting under each key,
or an array with the settings in order. Keys that mean nothing are passed over, and a setting with a
value of the wrong kind makes the whole text invalid.
-/

namespace HeaderBindings.Config
open Toml

/-! ### Values -/

def text? : Value → Option String
  | .text text => some text
  | _ => none

def boolean? : Value → Option Bool
  | .boolean value => some value
  | _ => none

/-- The number without a sign that a value is. -/
def count? : Value → Option Nat
  | .integer value => if 0 ≤ value then some value.toNat else none
  | _ => none

def texts? : Value → Option (List String)
  | .array items => items.mapM text?
  | _ => none

/-- The texts under the keys of a table. -/
def namedTexts? : Value → Option (List (String × String))
  | .table _ entries | .inlineTable entries =>
      entries.mapM fun entry => (text? entry.2).map (entry.1, ·)
  | _ => none

/-! ### Sections -/

/-- The settings of a section with the given keys. A date or a time has none. -/
def members? (keys : List String) : Value → Option Entries
  | .table _ entries | .inlineTable entries => some entries
  | .array items => some (keys.zip items)
  | .moment => some []
  | _ => none

/-- A setting that may be missing. -/
def optional? {α : Type} (read : Value → Option α) (key : String) (entries : Entries) :
    Option (Option α) :=
  match entries.find? key with
  | some value => (read value).map some
  | none => some none

/-- A setting, or the value that stands in when it is missing. -/
def setting? {α : Type} (read : Value → Option α) (default : α) (key : String) (entries : Entries) :
    Option α :=
  (optional? read key entries).map (·.getD default)

def preprocess? (value : Value) : Option PreprocessSettings := do
  let entries ← members? ["package", "cpp", "pkg_config", "cflags"] value
  pure
    { package := ← optional? text? "package" entries
      preprocessor := ← optional? text? "cpp" entries
      packageConfig := ← optional? text? "pkg_config" entries
      flags := ← setting? texts? [] "cflags" entries }

def stubs? (value : Value) : Option StubSettings := do
  let entries ←
    members? ["strip_prefixes", "receiver", "receiver_type", "raw_field", "namespace"] value
  pure
    { stripPrefixes := ← optional? texts? "strip_prefixes" entries
      receiver := ← optional? text? "receiver" entries
      receiverType := ← optional? text? "receiver_type" entries
      rawField := ← optional? text? "raw_field" entries
      space := ← optional? text? "namespace" entries }

def enums? (value : Value) : Option EnumSettings := do
  let entries ← members? ["namespace", "bare", "backing_type", "indent"] value
  pure
    { space := ← optional? text? "namespace" entries
      bare := ← setting? boolean? false "bare" entries
      backingType := ← optional? text? "backing_type" entries
      indent := ← optional? count? "indent" entries }

def ofEntries? (entries : Entries) : Option Config := do
  pure
    { preprocess := ← setting? preprocess? {} "preprocess" entries
      stubs := ← setting? stubs? {} "stubs" entries
      enums := ← setting? enums? {} "enums" entries
      types := ⟨← setting? namedTexts? [] "types" entries⟩ }

/-- The settings of a text, which `reader` has to take for a document. -/
def decoder (reader : String → Option Entries) (text : String) : Option Config :=
  (reader text).bind ofEntries?

def ofText? : String → Option Config := decoder document?

end HeaderBindings.Config
