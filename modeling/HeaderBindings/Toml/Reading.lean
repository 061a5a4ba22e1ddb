import HeaderBindings.Toml.Document
import HeaderBindings.Toml.Number
import HeaderBindings.Toml.Text

/-!
Reading a document of TOML: values, then the lines, each of which adds a value or opens a table. A
text that breaks a rule anywhere is no document.
-/

namespace HeaderBindings.Toml

/-- The text behind a word that it has to start with. -/
def behindWord? (word : String) (text : List Char) : Option (List Char) :=
  if word.toList.isPrefixOf text then some (text.drop word.length) else none

/-- A value that holds no other values. -/
def scalar? (text : List Char) : Option (Value × List Char) :=
  match text with
  | [] => none
  | c :: _ =>
      if c = '"' || c = '\'' then (string? text).map fun (value, rest) => (.text value, rest)
      else if c.isDigit || c = '+' || c = '-' then
        match dateTime? text, float? text with
        | some rest, _ => some (.moment, rest)
        | none, some rest => some (.float, rest)
        | none, none => (integer? text).map fun (value, rest) => (.integer value, rest)
      else if c = 't' then (behindWord? "true" text).map (.boolean true, ·)
      else if c = 'f' then (behindWord? "false" text).map (.boolean false, ·)
      else if c = 'i' then (behindWord? "inf" text).map (.float, ·)
      else if c = 'n' then (behindWord? "nan" text).map (.float, ·)
      else none

mutual

/-- A value below `depth` arrays and tables in braces, read in at most `fuel` steps. -/
def value? : Nat → Nat → List Char → Option (Value × List Char)
  | 0, _, _ => none
  | fuel + 1, depth, text =>
      match text with
      | '[' :: rest =>
          if deepest ≤ depth + 1 then none
          else
            (items? fuel (depth + 1) (skipLines rest.length rest)).map fun (items, after) =>
              (.array items, after)
      | '\x7b' :: rest =>
          if deepest ≤ depth + 1 then none
          else
            match skipSpaces rest with
            | '\x7d' :: after => some (.inlineTable [], after)
            | start =>
                (inlineEntries? fuel (depth + 1) [] start).map fun (entries, after) =>
                  (.inlineTable entries, after)
      | _ => scalar? text

/-- The rest of the items of an array and its closing bracket. -/
def items? : Nat → Nat → List Char → Option (List Value × List Char)
  | 0, _, _ => none
  | fuel + 1, depth, text =>
      match text with
      | ']' :: rest => some ([], rest)
      | _ =>
          (value? fuel depth text).bind fun (item, rest) =>
            match skipLines rest.length rest with
            | ',' :: after =>
                (items? fuel depth (skipLines after.length after)).map fun (items, behind) =>
                  (item :: items, behind)
            | ']' :: after => some ([item], after)
            | _ => none

/-- The rest of the entries of a table in braces and its closing brace. -/
def inlineEntries? : Nat → Nat → Entries → List Char → Option (Entries × List Char)
  | 0, _, _, _ => none
  | fuel + 1, depth, entries, text =>
      match key? text with
      | some (key, '=' :: behindKey) =>
          (value? fuel depth (skipSpaces behindKey)).bind fun (value, rest) =>
            (entries.addAt? key value).bind fun entries =>
              match skipSpaces rest with
              | ',' :: after => inlineEntries? fuel depth entries after
              | '\x7d' :: after => some (entries, after)
              | _ => none
      | _ => none

end

/-- A document while it is read: its entries so far and the header that is open. -/
structure Draft where
  entries : Entries := []
  header : List String := []

/-- Reads a header; the text starts behind its first bracket. -/
def header? (draft : Draft) (text : List Char) : Option (Draft × List Char) :=
  let (next, start) : Bool × List Char := match text with
    | '[' :: rest => (true, rest)
    | _ => (false, text)
  (key? start).bind fun (header, rest) =>
    let after? := match next, rest with
      | true, ']' :: ']' :: after => some after
      | false, ']' :: after => some after
      | _, _ => none
    after?.bind fun after =>
      (draft.entries.openAt? next header).map fun entries => ({ entries, header }, after)

def entry? (draft : Draft) (text : List Char) : Option (Draft × List Char) :=
  match key? text with
  | some (key, '=' :: behindKey) =>
      let start := skipSpaces behindKey
      (value? (2 * start.length + 2) 0 start).bind fun (value, rest) =>
        (draft.entries.addBelow? draft.header key value).map fun entries =>
          ({ draft with entries }, rest)
  | _ => none

/-- Reads the lines of a document, of which there are at most `fuel`. -/
def lines? : Nat → Draft → List Char → Option Draft
  | 0, _, _ => none
  | fuel + 1, draft, text =>
      match endOfLine? text with
      | some [] => some draft
      | some rest => lines? fuel draft rest
      | none =>
          let read? := match skipSpaces text with
            | '[' :: rest => header? draft rest
            | start => entry? draft start
          read?.bind fun (next, rest) =>
            (endOfLine? rest).bind fun after =>
              if after.isEmpty then some next else lines? fuel next after

/-- The text without the mark that a file may start with. -/
def skipByteOrderMark : List Char → List Char
  | '\uFEFF' :: rest => rest
  | text => text

/-- The entries of a document. A line takes at least one character. -/
def document? (text : String) : Option Entries :=
  (lines? (text.length + 1) {} (skipByteOrderMark text.toList)).map (·.entries)

end HeaderBindings.Toml
