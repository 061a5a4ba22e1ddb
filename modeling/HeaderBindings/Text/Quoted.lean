import HeaderBindings.Text.VisibleTable

/-!
Quoted characters and texts, as they appear inside messages. A quote, a backslash and the common
controls are escaped by a backslash; a character that leaves no visible mark of its own, or would
attach to the one before it, is spelled by its code point in lower-case hexadecimal digits.
-/

namespace HeaderBindings.Text

/-- Whether a character leaves no visible mark; the space alone among the blanks counts as one that
does. -/
def isInvisible (c : Char) : Bool :=
  if c.toNat < 0x80 then c.toNat < 0x20 || c.toNat == 0x7F
  else withinBoundaries invisibleBoundaries c.toNat

/-- Whether a character attaches to the one before it. -/
def isAttaching (c : Char) : Bool := withinBoundaries attachingBoundaries c.toNat

/-- The spelling of a character by its code point. -/
def byCodePoint (c : Char) : String :=
  "\\u\x7b" ++ String.ofList (Nat.toDigits 16 c.toNat) ++ "\x7d"

/-- The spelling of a character inside quotes of the kind `quote`. -/
def escaped (quote c : Char) : String :=
  if c = '\x00' then "\\0"
  else if c = '\t' then "\\t"
  else if c = '\r' then "\\r"
  else if c = '\n' then "\\n"
  else if c = '\\' then "\\\\"
  else if c = quote then String.ofList ['\\', c]
  else if isAttaching c || isInvisible c then byCodePoint c
  else String.singleton c

/-- A character between single quotes. -/
def quotedChar (c : Char) : String := "'" ++ escaped '\'' c ++ "'"

/-- A text between double quotes. -/
def quotedText (text : String) : String :=
  "\"" ++ String.join (text.toList.map (escaped '"')) ++ "\""

end HeaderBindings.Text
