/-!
# TOML values

A document is a table of tables and values. Every table remembers how it came about, because that
decides what may still be added to it: a table with a header of its own is closed to dotted keys,
one that a dotted key made cannot get a header, and one written in braces is finished.
-/

namespace PageCheck

/-- How a table came about. -/
inductive Toml.Origin
  /-- It has a header, or it is the document. -/
  | header
  /-- It lies on the way to a header. -/
  | implied
  /-- A dotted key leads through it. -/
  | dotted
deriving Repr, DecidableEq

/-- A value, a table, or a list of tables that have headers. -/
inductive Toml
  | string (text : String)
  | integer (value : Int)
  /-- A number with a fraction or an exponent, or no finite number, as it is written. -/
  | float (text : String)
  | bool (value : Bool)
  /-- A date, a time, or both, in its normal form. -/
  | date (text : String)
  | array (items : List Toml)
  /-- A table in braces. -/
  | braces (entries : List (String × Toml))
  /-- A table that stands in the document itself. -/
  | table (origin : Toml.Origin) (entries : List (String × Toml))
  /-- The tables of one doubly bracketed header. -/
  | tables (elements : List (List (String × Toml)))
deriving Repr

namespace Toml

/-- The entries of a table in order. -/
abbrev Entries := List (String × Toml)

/-- The value under a key. -/
def find? (key : String) (entries : Entries) : Option Toml :=
  (entries.find? fun entry => entry.1 == key).map (·.2)

/-- Put a value under a key, in place of the one that is there. -/
def put (key : String) (value : Toml) : Entries → Entries
  | [] => [(key, value)]
  | entry :: rest => if entry.1 == key then (key, value) :: rest else entry :: put key value rest

/-- Change the table that a path leads to. Tables that are missing on the way are made, and of a
list of tables the last one is entered. A dotted path may not enter a table with a header. -/
def alter (making : Origin) (change : Origin → Entries → Option Entries) :
    List String → Origin → Entries → Option Entries
  | [], origin, entries => change origin entries
  | key :: path, _, entries =>
    match find? key entries with
    | none => do
      return put key (.table making (← alter making change path making [])) entries
    | some (.table origin inner) =>
      if making = .dotted && origin = .header then none
      else do return put key (.table origin (← alter making change path origin inner)) entries
    | some (.tables elements) =>
      match elements.getLast? with
      | some last => do
        let last ← alter making change path .header last
        return put key (.tables (elements.dropLast ++ [last])) entries
      | none => none
    | some _ => none

/-- Add a value under a dotted key to a table. The table in which it ends up must be one of its own
kind: made by dotted keys if the key has dots, and otherwise not. -/
def addValue (path : List String) (key : String) (value : Toml) (origin : Origin)
    (entries : Entries) : Option Entries :=
  alter .dotted (fun origin entries =>
    if (origin == .dotted) == path.isEmpty || (find? key entries).isSome then none
    else some (entries ++ [(key, value)])) path origin entries

/-- Open the table of a header. -/
def openTable (path : List String) (key : String) (document : Entries) : Option Entries :=
  alter .implied (fun _ entries =>
    match find? key entries with
    | none => some (entries ++ [(key, .table .header [])])
    | some (.table .implied inner) => some (put key (.table .header inner) entries)
    | some _ => none) path .header document

/-- Open a new table in the list of a doubly bracketed header. -/
def openElement (path : List String) (key : String) (document : Entries) : Option Entries :=
  alter .implied (fun _ entries =>
    match find? key entries with
    | none => some (entries ++ [(key, .tables [[]])])
    | some (.tables elements) => some (put key (.tables (elements ++ [[]])) entries)
    | some _ => none) path .header document

end Toml

end PageCheck
