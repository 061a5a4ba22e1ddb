import HeaderBindings.Offsets.Access
import HeaderBindings.Source.Extensions

/-!
The scans over source, by offsets. They go through the bytes of a text and know only the bytes of the
marks that they look for, so they may stop within a character; but a part of the text is only ever
taken between characters. All that is taken is checked.
-/

namespace HeaderBindings.Offsets
open Source Text

/-! ### Literals and groups -/

def isQuoteByte (byte : UInt8) : Bool := byte == '"'.toUInt8 || byte == '\''.toUInt8

def literalTurn (bytes : List UInt8) (quote : UInt8) (offset : Nat) (_ : Unit) :
    Checked (Turn Unit Nat) := do
  let byte ← element bytes offset
  -- The next byte may be the first of a longer character, and the scan then goes on within it.
  if byte = '\\'.toUInt8 then pure (.next (offset + 2) ())
  else if byte = quote then pure (.done offset)
  else pure (.next (offset + 1) ())

/-- The offset of the quote that closes the literal which starts at an offset, or else the end of the
text. -/
def literalEnd (bytes : List UInt8) (start : Nat) : Checked Nat := do
  let quote ← element bytes start
  loop bytes.length (literalTurn bytes quote) (fun _ => .ok bytes.length) (start + 1) ()

def groupTurn (bytes : List UInt8) (left right : UInt8) (offset depth : Nat) :
    Checked (Turn Nat (Option Nat)) := do
  let byte ← element bytes offset
  if isQuoteByte byte then
    let closing ← literalEnd bytes offset
    pure (.next (closing + 1) depth)
  else if byte = left then pure (.next (offset + 1) (depth + 1))
  else if byte = right then
    -- A delimiter that closes nothing ends the group as well.
    if depth - 1 = 0 then pure (.done (some (offset + 1)))
    else pure (.next (offset + 1) (depth - 1))
  else pure (.next (offset + 1) depth)

/-- The offset behind the delimiter that closes the one at an offset. -/
def groupEnd? (bytes : List UInt8) (left right : UInt8) (start : Nat) : Checked (Option Nat) :=
  loop bytes.length (groupTurn bytes left right) (fun _ => .ok none) start 0

/-! ### Comments -/

/-- The text without comments so far, and the offset from which on the text has not been copied. -/
structure Copy where
  copied : Nat := 0
  out : List Char := []

/-- The offset behind the comment that starts at the offset of a byte, if one does. The line feed
behind a line comment is none of it. -/
def commentEnd? (text : List Char) (byte : UInt8) (offset : Nat) : Checked (Option Nat) :=
  let next := (bytesOf text)[offset + 1]?
  if byte = '/'.toUInt8 ∧ next = some '*'.toUInt8 then do
    let behind ← slice text (offset + 2) (size text)
    pure (some (((offsetOf? ['*', '/'] behind).map (offset + 2 + · + 2)).getD (size text)))
  else if byte = '/'.toUInt8 ∧ next = some '/'.toUInt8 then do
    let behind ← slice text offset (size text)
    pure (some (((offsetOf? ['\n'] behind).map (offset + ·)).getD (size text)))
  else pure none

def commentTurn (text : List Char) (offset : Nat) (copy : Copy) :
    Checked (Turn Copy (List Char)) := do
  let byte ← element (bytesOf text) offset
  if isQuoteByte byte then
    let closing ← literalEnd (bytesOf text) offset
    pure (.next (closing + 1) copy)
  else
    match ← commentEnd? text byte offset with
    | some stop =>
        let kept ← slice text copy.copied offset
        pure (.next stop { copied := stop, out := copy.out ++ kept ++ [' '] })
    | none => pure (.next (offset + 1) copy)

def copyRest (text : List Char) (copy : Copy) : Checked (List Char) := do
  let kept ← slice text (min copy.copied (size text)) (size text)
  pure (copy.out ++ kept)

def dropComments (text : List Char) : Checked (List Char) :=
  loop (size text) (commentTurn text) (copyRest text) 0 {}

/-! ### Calls of extensions -/

/-- A fault ends what is attempted. -/
def attempt {α : Type} : Checked α → Attempt Fault α
  | .ok value => pure value
  | .error fault => throw fault

/-- The offset at which a call starts. -/
def callStart (cut : CallCut) : Nat := size cut.before

/-- The offset behind the parenthesis that opens the list of a call. -/
def callStop (cut : CallCut) : Nat := size (cut.before ++ cut.head ++ ['('])

def dropExtensions (source : List Char) : Attempt Fault (List Char) :=
  match firstCall? source with
  | none => pure source
  | some cut => do
      let opening ← attempt (minus (callStop cut) 1)
      match ← attempt (groupEnd? (bytesOf source) '('.toUInt8 ')'.toUInt8 opening) with
      | none => do
          Attempt.report (.unbalancedCall (String.ofList cut.head))
          pure source
      | some closing => do
          let front ← attempt (slice source 0 (callStart cut))
          let rest ← attempt (slice source closing (size source))
          if rest.length < source.length then
            let others ← dropExtensions rest
            pure (front ++ ' ' :: others)
          else throw .stalled
termination_by source.length

/-! ### Statements -/

/-- The statements so far, the offset at which the current one starts, and its open parentheses. -/
structure Split where
  start : Nat := 0
  parentheses : Nat := 0
  found : List (List Char) := []

/-- What is left is one more statement. -/
def splitRest (text : List Char) (split : Split) : Checked (List (List Char)) :=
  if split.start < size text then do
    let last ← slice text split.start (size text)
    pure (split.found ++ [trim last])
  else pure split.found

def splitTurn (text : List Char) (offset : Nat) (split : Split) :
    Checked (Turn Split (List (List Char))) := do
  let byte ← element (bytesOf text) offset
  if byte = '('.toUInt8 then
    pure (.next (offset + 1) { split with parentheses := split.parentheses + 1 })
  else if byte = ')'.toUInt8 then
    pure (.next (offset + 1) { split with parentheses := split.parentheses - 1 })
  else if isQuoteByte byte then
    let closing ← literalEnd (bytesOf text) offset
    pure (.next (closing + 1) split)
  else if byte = ';'.toUInt8 ∧ split.parentheses = 0 then
    let statement ← slice text split.start offset
    pure (.next (offset + 1)
      { split with start := offset + 1, found := split.found ++ [trim statement] })
  else if byte = '\x7b'.toUInt8 ∧ split.parentheses = 0 then
    match ← groupEnd? (bytesOf text) '\x7b'.toUInt8 '\x7d'.toUInt8 offset with
    | none => do
        -- A body that is not closed belongs to the last statement.
        let statements ← splitRest text split
        pure (.done statements)
    | some closing => do
        let head ← slice text split.start offset
        if (trim head).getLast? = some ')' then
          pure (.next closing { split with start := closing, found := split.found ++ [trim head] })
        else pure (.next closing split)
  else pure (.next (offset + 1) split)

def statements (text : List Char) : Checked (List (List Char)) := do
  let found ← loop (size text) (splitTurn text) (splitRest text) 0 {}
  pure (found.filter (!·.isEmpty))

end HeaderBindings.Offsets
