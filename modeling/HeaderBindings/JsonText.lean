/-!
JSON text in its indented form. A value is a block of lines; an array or an object sets the blocks
of its items two spaces further in, one below the other, and one without items stands on a single
line.
-/

namespace HeaderBindings.JsonText

/-- The spelling of a character inside a JSON string. -/
def escaped (c : Char) : String :=
  if c = '"' then "\\\""
  else if c = '\\' then "\\\\"
  else if c = '\x08' then "\\b"
  else if c = '\x0c' then "\\f"
  else if c = '\n' then "\\n"
  else if c = '\r' then "\\r"
  else if c = '\t' then "\\t"
  else if c.toNat < 0x10 then "\\u000" ++ String.ofList (Nat.toDigits 16 c.toNat)
  else if c.toNat < 0x20 then "\\u00" ++ String.ofList (Nat.toDigits 16 c.toNat)
  else String.singleton c

def quoted (text : String) : String := "\"" ++ String.join (text.toList.map escaped) ++ "\""

def string (text : String) : List String := [quoted text]

/-- The lines with a comma after the last one. -/
def endComma : List String → List String
  | [] => []
  | [line] => [line ++ ","]
  | line :: rest => line :: endComma rest

/-- The blocks below each other, with commas between them. -/
def separated : List (List String) → List String
  | [] => []
  | [block] => block
  | block :: rest => endComma block ++ separated rest

def bracketed (opening closing : String) (blocks : List (List String)) : List String :=
  if blocks.isEmpty then [opening ++ closing]
  else opening :: (separated blocks).map ("  " ++ ·) ++ [closing]

def array (items : List (List String)) : List String := bracketed "[" "]" items

def member (key : String) : List String → List String
  | [] => []
  | first :: rest => (quoted key ++ ": " ++ first) :: rest

def object (members : List (String × List String)) : List String :=
  bracketed "\x7b" "\x7d" (members.map fun entry => member entry.1 entry.2)

def text (block : List String) : String := String.intercalate "\n" block

end HeaderBindings.JsonText
