/-!
# TOML documents

Values, and the rules for putting tables together. A table can come about in four
ways: by a header of its own, by the header of a table inside it, by a dotted key,
or inline. Which way decides what may still be added to it.
-/

namespace Schemata.Toml

/-- How a table came about. -/
inductive TableOrigin where
  /-- By a header of its own; the whole document counts as such. -/
  | header
  /-- By the header of a table inside it. -/
  | implied
  /-- By a dotted key. -/
  | dotted
  /-- Between braces. -/
  | inline
  deriving DecidableEq, Repr

/-- A value. Of floats and moments only their form matters here. -/
inductive Value where
  | text (content : String)
  | integer (value : Int)
  | float
  | bool (value : Bool)
  | moment
  | array (items : List Value)
  | table (origin : TableOrigin) (entries : List (String × Value))
  /-- Tables that share a header; the last one is still open. -/
  | tables (earlier : List Value) (last : List (String × Value))
  deriving Repr

/-- The keys of a table with their values. -/
abbrev Entries := List (String × Value)

/-- Entries with the value of a key exchanged. -/
def Entries.replace (entries : Entries) (key : String) (value : Value) : Entries :=
  entries.map fun entry => if entry.1 = key then (key, value) else entry

/-- A change to the entries of a table that may depend on how the table came about. -/
abbrev Edit := TableOrigin → Entries → Option Entries

/--
Change the table at the end of a path. Tables that are missing on the way are made;
an inline table cannot be entered, and a dotted key cannot enter a table that has a
header of its own.
-/
def editAt (byKey : Bool) : List String → Edit → Edit
  | [], edit => edit
  | key :: path, edit => fun _ entries =>
    match entries.lookup key with
    | none =>
      let origin := if byKey then TableOrigin.dotted else .implied
      (editAt byKey path edit origin []).map fun inner => entries ++ [(key, .table origin inner)]
    | some (.table origin inner) =>
      if origin = .inline || (byKey && origin = .header) then none
      else (editAt byKey path edit origin inner).map fun inner =>
        Entries.replace entries key (.table origin inner)
    | some (.tables earlier last) =>
      (editAt byKey path edit .header last).map fun last =>
        Entries.replace entries key (.tables earlier last)
    | some _ => none

/-- Add a value under a new key; a dotted key adds only to a table made by dotted keys. -/
def addEntry (isDotted : Bool) (key : String) (value : Value) : Edit := fun origin entries =>
  if isDotted != (origin == .dotted) then none
  else if (entries.lookup key).isSome then none
  else some (entries ++ [(key, value)])

/-- Add a value under a path of keys. -/
def assign (path : List String) (key : String) (value : Value) : Edit :=
  editAt true path (addEntry (!path.isEmpty) key value)

/-- Open a table by its header. -/
def openTable (key : String) : Edit := fun _ entries =>
  match entries.lookup key with
  | none => some (entries ++ [(key, .table .header [])])
  | some (.table .implied inner) => some (Entries.replace entries key (.table .header inner))
  | some _ => none

/-- Open one more table of those that share a header. -/
def openNextTable (key : String) : Edit := fun _ entries =>
  match entries.lookup key with
  | none => some (entries ++ [(key, .tables [] [])])
  | some (.tables earlier last) =>
    some (Entries.replace entries key (.tables (earlier ++ [.table .header last]) []))
  | some _ => none

end Schemata.Toml
