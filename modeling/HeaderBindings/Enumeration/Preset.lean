/-!
The lists of constants that come with the program: the kinds of introspection entries and the tags
of their types. Each has an identifier by which it is asked for, and the name and prefix that are
used when none is given.
-/

namespace HeaderBindings

/-- A list of constants that share a prefix. -/
structure Preset where
  id : String
  enumeration : String
  sharedPrefix : String
  constants : List String
  deriving DecidableEq

namespace Preset

def infoType : Preset where
  id := "info-type"
  enumeration := "InfoType"
  sharedPrefix := "GI_INFO_TYPE"
  constants :=
    ["GI_INFO_TYPE_INVALID", "GI_INFO_TYPE_FUNCTION", "GI_INFO_TYPE_CALLBACK",
     "GI_INFO_TYPE_STRUCT", "GI_INFO_TYPE_BOXED", "GI_INFO_TYPE_ENUM", "GI_INFO_TYPE_FLAGS",
     "GI_INFO_TYPE_OBJECT", "GI_INFO_TYPE_INTERFACE", "GI_INFO_TYPE_CONSTANT",
     "GI_INFO_TYPE_UNION", "GI_INFO_TYPE_VALUE", "GI_INFO_TYPE_SIGNAL", "GI_INFO_TYPE_VFUNC",
     "GI_INFO_TYPE_PROPERTY", "GI_INFO_TYPE_FIELD", "GI_INFO_TYPE_ARG", "GI_INFO_TYPE_TYPE",
     "GI_INFO_TYPE_UNRESOLVED"]

def typeTag : Preset where
  id := "type-tag"
  enumeration := "TypeTag"
  sharedPrefix := "GI_TYPE_TAG"
  constants :=
    ["GI_TYPE_TAG_VOID", "GI_TYPE_TAG_BOOLEAN", "GI_TYPE_TAG_INT8", "GI_TYPE_TAG_UINT8",
     "GI_TYPE_TAG_INT16", "GI_TYPE_TAG_UINT16", "GI_TYPE_TAG_INT32", "GI_TYPE_TAG_UINT32",
     "GI_TYPE_TAG_INT64", "GI_TYPE_TAG_UINT64", "GI_TYPE_TAG_FLOAT", "GI_TYPE_TAG_DOUBLE",
     "GI_TYPE_TAG_GTYPE", "GI_TYPE_TAG_UTF8", "GI_TYPE_TAG_FILENAME", "GI_TYPE_TAG_ARRAY",
     "GI_TYPE_TAG_INTERFACE", "GI_TYPE_TAG_GLIST", "GI_TYPE_TAG_GSLIST", "GI_TYPE_TAG_GHASH",
     "GI_TYPE_TAG_ERROR", "GI_TYPE_TAG_UNICHAR"]

def all : List Preset := [infoType, typeTag]

def find? (id : String) : Option Preset := all.find? (·.id == id)

/-- The error for an identifier that no preset has; it lists those that there are. -/
def unknownMessage (id : String) : String :=
  "unknown preset `" ++ id ++ "` (expected one of: " ++ String.intercalate ", " (all.map (·.id))
    ++ ")"

end Preset

end HeaderBindings
