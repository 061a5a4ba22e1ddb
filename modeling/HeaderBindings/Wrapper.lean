import HeaderBindings.Diagnostic
import HeaderBindings.Identifier
import HeaderBindings.Log
import HeaderBindings.Signature
import HeaderBindings.TypeMap

/-!
Stubs that wrap C functions as methods. The first parameter of the function is replaced by the
receiver, whose raw handle is passed in its place, and the other parameters are forwarded by name:

    pub fn objectGetName(self: Self, x: c_int) *char {
    	return C.g_object_get_name(self.raw, x);
    }

A stub is rendered as a whole or not at all: a type without a rendering anywhere in the declaration
is an error.
-/

namespace HeaderBindings

structure WrapperStyle where
  /-- The literal prefixes of which the first matching one is removed from the name. -/
  stripPrefixes : List String := ["g_", "gi_"]
  receiver : String := "self"
  receiverType : String := "Self"
  /-- The field of the receiver with the raw handle. -/
  rawField : String := "raw"
  /-- The namespace through which the function is called. -/
  space : String := "C"
  types : TypeMap := .builtin
  deriving DecidableEq

/-- The part of a declaration that an unsupported shape was found in. -/
inductive DeclarationPart where
  | returnType
  /-- The parameter at a position, counted from 1, which is named only if it has no name. -/
  | parameter (name : String) (position : Nat)
  deriving DecidableEq

def DeclarationPart.describe : DeclarationPart → String
  | returnType => "return type"
  | parameter name position =>
      if name.isEmpty then "parameter #" ++ toString position else "parameter `" ++ name ++ "`"

inductive WrapperError where
  | unsupportedType (function : String) (part : DeclarationPart) (shape : String)
  | missingReceiver (function : String)
  deriving DecidableEq

namespace WrapperError

def function : WrapperError → String
  | unsupportedType name .. => name
  | missingReceiver name => name

def message : WrapperError → String
  | unsupportedType function part shape =>
      "cannot wrap `" ++ function ++ "`: " ++ part.describe ++ " has an unsupported type shape ("
        ++ shape ++ ")"
  | missingReceiver function =>
      "cannot wrap `" ++ function ++ "`: it takes no parameters to use as the receiver"

def code : WrapperError → String
  | unsupportedType .. => "gibind::wrapper::unsupported_type"
  | missingReceiver .. => "gibind::wrapper::missing_receiver"

def help : WrapperError → String
  | unsupportedType function .. =>
      "write this wrapper by hand or leave `" ++ function ++ "` out with `--exclude`"
  | missingReceiver .. =>
      "only functions taking the wrapped handle as their first argument can become methods"

def context : WrapperError → List String
  | unsupportedType .. =>
      ["function pointers, arrays and variadic arguments have no stub form"]
  | missingReceiver .. => []

def diagnostic (error : WrapperError) : Diagnostic where
  message := error.message
  context := error.context
  suggestions :=
    ["Exclude it: `--exclude " ++ error.function ++ "`",
     "Pass `--keep-going` to skip functions that cannot be wrapped"]

end WrapperError

/-- The type in the notation of the generated source, or its unsupported shape: one star for each
pointer, then the qualifiers and the mapped base name. -/
def CType.render (types : TypeMap) : CType → Except String String
  | named qualifiers name => .ok (String.intercalate " " (qualifiers ++ [types.map name]))
  | pointer pointee => (pointee.render types).map ("*" ++ ·)
  | unsupported shape => .error shape

namespace Wrapper

/-- The name of the stub: the prefix removed, in camel case. -/
def name (stripPrefixes : List String) (function : String) : String :=
  Identifier.camelCase (Identifier.stripFirst stripPrefixes function)

/-- The type of a part of the declaration in the notation of the generated source. -/
def renderPart (style : WrapperStyle) (function : String) (part : DeclarationPart) (type : CType) :
    Except WrapperError String :=
  (type.render style.types).mapError (.unsupportedType function part)

/-- The name under which a parameter after the first is forwarded. One without a name, or with that
of the receiver, is named after its position, counted from 0. -/
def forwardedName (style : WrapperStyle) (index : Nat) (parameter : Parameter) : String :=
  if parameter.name.isEmpty || parameter.name == style.receiver then "arg" ++ toString index
  else parameter.name

/-- The name and the type of each parameter after the first, in the generated source, when `index`
is the position of the first of them. -/
def forwarded (style : WrapperStyle) (function : String) (index : Nat) :
    List Parameter → Except WrapperError (List (String × String))
  | [] => pure []
  | parameter :: rest => do
      let type ← renderPart style function (.parameter parameter.name (index + 1)) parameter.type
      let others ← forwarded style function (index + 1) rest
      pure ((forwardedName style index parameter, type) :: others)

/-- The text of a stub with the given parameters after the receiver. -/
def stubText (style : WrapperStyle) (function returnType : String)
    (parameters : List (String × String)) : String :=
  let declared := (style.receiver, style.receiverType) :: parameters
  let arguments := (style.receiver ++ "." ++ style.rawField) :: parameters.map (·.1)
  "pub fn " ++ name style.stripPrefixes function ++ "("
    ++ String.intercalate ", " (declared.map fun entry => entry.1 ++ ": " ++ entry.2)
    ++ ") " ++ returnType ++ " \x7b\n\treturn " ++ style.space ++ "." ++ function ++ "("
    ++ String.intercalate ", " arguments ++ ");\n\x7d"

/-- The stub for a declaration. The return type is rendered first, then the parameters in order, the
replaced one included, and the first that has no rendering is the error. -/
def render (style : WrapperStyle) (signature : Signature) : Except WrapperError String := do
  let returnType ← renderPart style signature.name .returnType signature.returnType
  match signature.parameters with
  | [] => .error (.missingReceiver signature.name)
  | replaced :: others =>
      let _ ← renderPart style signature.name (.parameter replaced.name 1) replaced.type
      let parameters ← forwarded style signature.name 1 others
      pure (stubText style signature.name returnType parameters)

/-- The stubs of several declarations and the errors of those that have none, each in order. -/
structure Batch where
  stubs : List String := []
  skipped : List WrapperError := []
  deriving DecidableEq

/-- Renders every declaration in order. When `keepGoing` is set, one that cannot be wrapped is left
out with a warning; otherwise the first such is the error. -/
def renderAll (style : WrapperStyle) (keepGoing : Bool) :
    List Signature → Attempt WrapperError Batch
  | [] => pure {}
  | signature :: rest =>
      match render style signature with
      | .ok stub => do
          let batch ← renderAll style keepGoing rest
          pure { batch with stubs := stub :: batch.stubs }
      | .error error =>
          if keepGoing then do
            Attempt.report (.cannotWrap error.message)
            let batch ← renderAll style keepGoing rest
            pure { batch with skipped := error :: batch.skipped }
          else throw error

end Wrapper

end HeaderBindings
