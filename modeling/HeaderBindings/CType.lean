import HeaderBindings.JsonText

/-!
The types of C declarations, as far as the generated source can express them: a base name with its
qualifiers, behind any number of pointers. Any other shape is kept with a description of it, so that
it can be reported by name.
-/

namespace HeaderBindings

/-- The shape of a C type. -/
inductive CType where
  /-- A base name of one or more words, such as `unsigned long`, with qualifiers such as `const`. -/
  | named (qualifiers : List String) (name : String)
  | pointer (pointee : CType)
  /-- A shape that cannot be rendered. -/
  | unsupported (shape : String)
  deriving DecidableEq

namespace CType

/-- A type behind `depth` pointers. -/
def behindPointers : Nat → CType → CType
  | 0, type => type
  | depth + 1, type => pointer (behindPointers depth type)

/-- The first unsupported shape in a type. -/
def unsupportedShape? : CType → Option String
  | named _ _ => none
  | pointer pointee => pointee.unsupportedShape?
  | unsupported shape => some shape

/-- The type in C notation, with the stars after the name. -/
def display : CType → String
  | named qualifiers name => String.join (qualifiers.map (· ++ " ")) ++ name
  | pointer pointee => pointee.display ++ "*"
  | unsupported shape => "<" ++ shape ++ ">"

def toJson : CType → List String
  | named qualifiers name =>
      JsonText.object
        [("named", JsonText.object
          [("qualifiers", JsonText.array (qualifiers.map JsonText.string)), ("name", JsonText.string name)])]
  | pointer pointee => JsonText.object [("pointer", pointee.toJson)]
  | unsupported shape => JsonText.object [("unsupported", JsonText.string shape)]

@[simp] theorem unsupportedShape?_behindPointers (depth : Nat) (type : CType) :
    (behindPointers depth type).unsupportedShape? = type.unsupportedShape? := by
  induction depth with
  | zero => rfl
  | succ depth ih => simpa [behindPointers, unsupportedShape?] using ih

end CType

end HeaderBindings
