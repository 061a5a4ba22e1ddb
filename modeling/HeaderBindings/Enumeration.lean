import HeaderBindings.Diagnostic
import HeaderBindings.Identifier
import HeaderBindings.Text.Blank

/-!
Enumerations whose variants refer to prefixed constants of a header:

    const TypeTag = enum(c_int) {
        Void = C.GI_TYPE_TAG_VOID,
        Boolean = C.GI_TYPE_TAG_BOOLEAN,
    };

Each constant becomes one variant, named by what follows the shared prefix. Rendering fails at the
first constant that does not give a name and then yields nothing.
-/

namespace HeaderBindings
open Text

/-- How a variant refers to its constant. -/
inductive ConstantStyle where
  /-- Through a namespace, as in `Void = C.GI_TYPE_TAG_VOID`. -/
  | qualified (space : String)
  /-- By its name alone, as in `Void = GI_TYPE_TAG_VOID`. -/
  | bare
  deriving DecidableEq

def ConstantStyle.reference : ConstantStyle → String → String
  | .qualified space, constant => space ++ "." ++ constant
  | .bare, constant => constant

/-- How an enumeration is written: the references, the integer type behind it and the number of
spaces in front of a variant. -/
structure EnumStyle where
  constants : ConstantStyle := .qualified "C"
  backingType : String := "c_int"
  indent : Nat := 4
  deriving DecidableEq

inductive EnumError where
  /-- The constant does not start with the shared prefix. -/
  | prefixMismatch (constant enumeration sharedPrefix : String)
  /-- Nothing but underscores follows the shared prefix. -/
  | emptyVariant (constant enumeration sharedPrefix : String)
  deriving DecidableEq

namespace EnumError

def message : EnumError → String
  | prefixMismatch constant enumeration sharedPrefix =>
      "variant `" ++ constant ++ "` of `" ++ enumeration ++ "` doesn't start with `"
        ++ sharedPrefix ++ "`"
  | emptyVariant constant enumeration sharedPrefix =>
      "variant `" ++ constant ++ "` of `" ++ enumeration ++ "` is empty once `" ++ sharedPrefix
        ++ "` is removed"

/-- The code under which the error is documented. -/
def code : EnumError → String
  | prefixMismatch .. => "gibind::enums::prefix_mismatch"
  | emptyVariant .. => "gibind::enums::empty_variant"

/-- The short advice that goes with the code. -/
def help : EnumError → String
  | prefixMismatch _ enumeration sharedPrefix =>
      "every constant listed for `" ++ enumeration ++ "` must start with `" ++ sharedPrefix ++ "`"
  | emptyVariant .. => "use a shorter prefix than the constant itself"

def diagnostic (error : EnumError) : Diagnostic :=
  match error with
  | prefixMismatch constant enumeration sharedPrefix =>
      { message := error.message
        context := ["`" ++ enumeration ++ "` expects the prefix `" ++ sharedPrefix ++ "`"]
        suggestions :=
          ["Remove `" ++ constant ++ "` from the constant list",
           "Pass the prefix the constants actually share with `--prefix`"] }
  | emptyVariant _ enumeration _ =>
      { message := error.message
        context := ["while rendering `" ++ enumeration ++ "`"]
        suggestions := ["Drop the trailing word from `--prefix`"] }

end EnumError

namespace Enumeration

/-- The name of the variant for a constant: the prefix removed, in pascal case, quoted if needed. -/
def variantName (enumeration sharedPrefix constant : String) : Except EnumError String :=
  match Identifier.remainder? sharedPrefix.toList constant.toList with
  | none => .error (.prefixMismatch constant enumeration sharedPrefix)
  | some rest =>
      let name := Identifier.pascalCase (String.ofList rest)
      if name.isEmpty then .error (.emptyVariant constant enumeration sharedPrefix)
      else .ok (Identifier.escape name)

def variantLine (style : EnumStyle) (variant constant : String) : String :=
  String.ofList (List.replicate style.indent ' ') ++ variant ++ " = "
    ++ style.constants.reference constant ++ ","

def headerLine (style : EnumStyle) (enumeration : String) : String :=
  "const " ++ enumeration ++ " = enum(" ++ style.backingType ++ ") \x7b"

def constantLine (style : EnumStyle) (enumeration sharedPrefix constant : String) :
    Except EnumError String := do
  let variant ← variantName enumeration sharedPrefix constant
  pure (variantLine style variant constant)

/-- The enumeration as text, one line for each constant in order. The first constant that gives no
variant is the error. -/
def render (style : EnumStyle) (enumeration sharedPrefix : String) (constants : List String) :
    Except EnumError String := do
  let variantLines ← constants.mapM (constantLine style enumeration sharedPrefix)
  let allLines := headerLine style enumeration :: variantLines ++ ["\x7d;"]
  pure (String.join (allLines.map (· ++ "\n")))

/-- The constants listed in a text, one on each line; blanks around them and blank lines do not
count. -/
def constantsOfText (text : String) : List String :=
  (((lines text.toList).map trim).filter (!·.isEmpty)).map String.ofList

end Enumeration

end HeaderBindings
