/-!
Documents of TOML as trees. What a table may still take depends on how it came about: one that a
header names is complete once the next header starts, one that only stands on the way to a named
table may be named once later, and one made by a dotted key takes further dotted keys only.
-/

namespace HeaderBindings.Toml

/-- How a table came about. -/
inductive TableOrigin where
  /-- A header names it. -/
  | header
  /-- A header names a table in it. -/
  | onTheWay
  /-- A dotted key goes through it. -/
  | dottedKey
  deriving DecidableEq

inductive Value where
  | text (text : String)
  | integer (value : Int)
  | boolean (value : Bool)
  /-- A number with a fraction or an exponent, or a special one. -/
  | float
  /-- A date, a time or both. -/
  | moment
  | array (items : List Value)
  /-- A table in braces, which takes nothing more. -/
  | inlineTable (entries : List (String × Value))
  | table (origin : TableOrigin) (entries : List (String × Value))
  /-- Tables with one name, each of which a header started. -/
  | tables (items : List (List (String × Value)))

/-- The entries of a table, in the order in which they were written. -/
abbrev Entries := List (String × Value)

namespace Entries

def find? (entries : Entries) (key : String) : Option Value := entries.lookup key

/-- The entries with another value for a key that is there, or with a new entry at the end. -/
def put (entries : Entries) (key : String) (value : Value) : Entries :=
  match entries with
  | [] => [(key, value)]
  | entry :: rest => if entry.1 = key then (key, value) :: rest else entry :: put rest key value

/-- Changes the table that a path leads to from a table, and makes the tables on the way that are
missing. With `dotted` the path belongs to a key: it may not lead through a table that a header
named. The change is told whether a dotted key made the table. -/
def change? (dotted : Bool) (change : Bool → Entries → Option Entries) (made : Bool)
    (entries : Entries) : List String → Option Entries
  | [] => change made entries
  | key :: rest =>
      match entries.find? key with
      | none =>
          (change? dotted change dotted [] rest).map fun inner =>
            entries.put key (.table (if dotted then .dottedKey else .onTheWay) inner)
      | some (.table origin inner) =>
          if dotted && origin == .header then none
          else
            (change? dotted change (origin == .dottedKey) inner rest).map fun inner =>
              entries.put key (.table origin inner)
      | some (.tables items) =>
          match items.getLast? with
          | none => none
          | some last =>
              (change? dotted change false last rest).map fun inner =>
                entries.put key (.tables (items.dropLast ++ [inner]))
      | some _ => none

/-- Adds a value under a key of one part. A key through dots may only add to a table made by dotted
keys, and one without dots only to the table of the header. -/
def add? (dotted : Bool) (key : String) (value : Value) (made : Bool) (entries : Entries) :
    Option Entries :=
  if made != dotted || (entries.find? key).isSome then none else some (entries.put key value)

/-- Adds a value under a key of several parts to a table that is no part of a dotted key itself. -/
def addAt? (entries : Entries) (key : List String) (value : Value) : Option Entries :=
  match key.getLast? with
  | none => none
  | some last =>
      let path := key.dropLast
      change? true (add? (!path.isEmpty) last value) false entries path

/-- Names a table by a header, which may be done once. -/
def openTable? (key : String) (_ : Bool) (entries : Entries) : Option Entries :=
  match entries.find? key with
  | none => some (entries.put key (.table .header []))
  | some (.table .onTheWay inner) => some (entries.put key (.table .header inner))
  | some _ => none

/-- Starts another one of the tables with one name. -/
def openNextTable? (key : String) (_ : Bool) (entries : Entries) : Option Entries :=
  match entries.find? key with
  | none => some (entries.put key (.tables [[]]))
  | some (.tables items) => some (entries.put key (.tables (items ++ [[]])))
  | some _ => none

/-- Opens the table that a header names; `next` tells whether it is one of several. -/
def openAt? (entries : Entries) (next : Bool) (header : List String) : Option Entries :=
  match header.getLast? with
  | none => none
  | some last =>
      change? false (if next then openNextTable? last else openTable? last) false entries
        header.dropLast

/-- Adds a value under a key below the table that a header opened. -/
def addBelow? (entries : Entries) (header key : List String) (value : Value) : Option Entries :=
  change? false (fun _ table => table.addAt? key value) false entries header

end Entries

end HeaderBindings.Toml
