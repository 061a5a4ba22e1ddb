import HeaderBindings.CType

/-!
Function declarations, and the declarations of one header together with the statements in it that
looked like declarations and could not be read.
-/

namespace HeaderBindings

/-- A parameter; its name is empty when the declaration gives none. -/
structure Parameter where
  name : String
  type : CType
  deriving DecidableEq

structure Signature where
  name : String
  returnType : CType
  parameters : List Parameter := []
  deriving DecidableEq

/-- What was read of one header, in the order in which it stands there. -/
structure Header where
  functions : List Signature := []
  skipped : List String := []
  deriving DecidableEq

namespace Parameter

/-- The parameter in C notation. -/
def display (parameter : Parameter) : String :=
  if parameter.name.isEmpty then parameter.type.display
  else parameter.type.display ++ " " ++ parameter.name

def toJson (parameter : Parameter) : List String :=
  JsonText.object [("name", JsonText.string parameter.name), ("ty", parameter.type.toJson)]

end Parameter

namespace Signature

/-- The declaration with one more parameter at the end. -/
def withParameter (signature : Signature) (parameter : Parameter) : Signature :=
  { signature with parameters := signature.parameters ++ [parameter] }

/-- The declaration in C notation, without the semicolon. -/
def display (signature : Signature) : String :=
  signature.returnType.display ++ " " ++ signature.name ++ "("
    ++ String.intercalate ", " (signature.parameters.map Parameter.display) ++ ")"

def statement (signature : Signature) : String := signature.display ++ ";"

def toJson (signature : Signature) : List String :=
  JsonText.object
    [("name", JsonText.string signature.name),
     ("return_type", signature.returnType.toJson),
     ("params", JsonText.array (signature.parameters.map Parameter.toJson))]

end Signature

namespace Header

def function? (header : Header) (name : String) : Option Signature :=
  header.functions.find? (·.name == name)

def toJson (header : Header) : List String :=
  JsonText.object
    [("functions", JsonText.array (header.functions.map Signature.toJson)),
     ("skipped", JsonText.array (header.skipped.map JsonText.string))]

/-- Headers one after the other. -/
instance : Append Header where
  append first second :=
    ⟨first.functions ++ second.functions, first.skipped ++ second.skipped⟩

theorem append_def (first second : Header) :
    first ++ second = ⟨first.functions ++ second.functions, first.skipped ++ second.skipped⟩ := rfl

@[simp] theorem empty_append (header : Header) : ({} : Header) ++ header = header := rfl

@[simp] theorem append_empty (header : Header) : header ++ ({} : Header) = header := by
  simp [append_def]

theorem append_assoc (first second third : Header) :
    first ++ second ++ third = first ++ (second ++ third) := by
  simp [append_def]

end Header

end HeaderBindings
