/-!
The names that base types of C have in the generated source. A map is a list of entries in the order
in which they were written; of several entries for one name the last one counts, and a name without
an entry stands for itself.
-/

namespace HeaderBindings

/-- Entries from C names to names of the generated source, in the order in which they were
written. -/
structure TypeMap where
  entries : List (String × String) := []
  deriving DecidableEq

namespace TypeMap

/-- The usual spellings of the builtin types, and the types of the same size and sign. -/
def builtinEntries : List (String × String) :=
  [("int", "c_int"), ("signed", "c_int"), ("signed int", "c_int"),
   ("unsigned", "c_uint"), ("unsigned int", "c_uint"),
   ("short", "c_short"), ("short int", "c_short"), ("signed short", "c_short"),
   ("unsigned short", "c_ushort"), ("unsigned short int", "c_ushort"),
   ("long", "c_long"), ("long int", "c_long"), ("signed long", "c_long"),
   ("unsigned long", "c_ulong"), ("unsigned long int", "c_ulong"),
   ("long long", "c_longlong"), ("long long int", "c_longlong"),
   ("signed long long", "c_longlong"),
   ("unsigned long long", "c_ulonglong"), ("unsigned long long int", "c_ulonglong"),
   ("long double", "c_longdouble"), ("float", "f32"), ("double", "f64"), ("_Bool", "bool")]

def builtin : TypeMap := ⟨builtinEntries⟩

def identity : TypeMap := ⟨[]⟩

/-- The map with further entries, which override those it has. -/
def withEntries (types : TypeMap) (entries : List (String × String)) : TypeMap :=
  ⟨types.entries ++ entries⟩

/-- The last entry for a name. -/
def find? (types : TypeMap) (name : String) : Option String := types.entries.reverse.lookup name

/-- The name in the generated source. -/
def map (types : TypeMap) (name : String) : String := (types.find? name).getD name

/-- The entries that count, in the order in which they were written. -/
def effective (types : TypeMap) : List (String × String) :=
  go types.entries
where
  go : List (String × String) → List (String × String)
    | [] => []
    | entry :: rest => if rest.any (·.1 == entry.1) then go rest else entry :: go rest

theorem find?_withEntries (types : TypeMap) (entries : List (String × String)) (name : String) :
    (types.withEntries entries).find? name
      = (entries.reverse.lookup name).or (types.find? name) := by
  simp [find?, withEntries, List.lookup_append]

end TypeMap

end HeaderBindings
