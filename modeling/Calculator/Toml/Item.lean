import Calculator.Number.Binary64

/-!
What a document holds: values, and tables that grow as the document is read. How a table came about
decides what may still be added to it.
-/

namespace Calculator.Toml

/-- How a table came about. -/
inductive Origin where
  /-- It has a header of its own. -/
  | header
  /-- It is on the way to a table with a header. -/
  | implied
  /-- It is on the way to a key with points in it. -/
  | dotted
deriving DecidableEq, Repr

inductive Item where
  | string (text : String)
  | integer (n : Int)
  | float (x : Binary64)
  | boolean (b : Bool)
  /-- A date or a time. -/
  | moment
  | array (items : List Item)
  /-- A table in braces, to which nothing is added. -/
  | inline (entries : List (String × Item))
  | table (origin : Origin) (entries : List (String × Item))
  /-- The elements of an array that have headers of their own. -/
  | tables (elements : List (List (String × Item)))

abbrev Entries := List (String × Item)

namespace Entries

/-- Puts another item in the place of a key's item, or adds it. -/
def set (entries : Entries) (key : String) (item : Item) : Entries :=
  if (entries.lookup key).isSome then
    entries.map fun entry => if entry.1 = key then (key, item) else entry
  else entries ++ [(key, item)]

/-- Adds an item under a key that is not there yet. -/
def add? (entries : Entries) (key : String) (item : Item) : Option Entries :=
  if (entries.lookup key).isSome then none else some (entries ++ [(key, item)])

/-- Changes the table that a path leads to, by way of the last element of an array of tables. Tables
that are missing on the way come about as given. A path with points leads through no table that has a
header of its own. -/
def alter (origin : Origin) (change : Origin → Entries → Option Entries) :
    List String → Origin → Entries → Option Entries
  | [], here, entries => change here entries
  | key :: path, _, entries =>
    match entries.lookup key with
    | none => do
      let inner ← alter origin change path origin []
      return entries.set key (.table origin inner)
    | some (.table there inner) =>
      if origin = .dotted ∧ there = .header then none
      else do
        let inner ← alter origin change path there inner
        return entries.set key (.table there inner)
    | some (.tables elements) => do
      let last ← elements.getLast?
      let last ← alter origin change path .header last
      return entries.set key (.tables (elements.dropLast ++ [last]))
    | some _ => none

/-- Adds an item under a key with points. The table it goes to must have come about by such a key. -/
def addDotted? (path : List String) (key : String) (item : Item) (entries : Entries) :
    Option Entries :=
  alter .dotted (fun origin table =>
    if path.isEmpty ∨ origin = .dotted then add? table key item else none) path .header entries

/-- Opens the table of a header. One that is there already must be implied. -/
def openTable? (path : List String) (key : String) (entries : Entries) : Option Entries :=
  alter .implied (fun _ table =>
    match table.lookup key with
    | none => some (table.set key (.table .header []))
    | some (.table .implied inner) => some (table.set key (.table .header inner))
    | some _ => none) path .header entries

/-- Opens the next element of an array of tables. -/
def openElement? (path : List String) (key : String) (entries : Entries) : Option Entries :=
  alter .implied (fun _ table =>
    match table.lookup key with
    | none => some (table.set key (.tables [[]]))
    | some (.tables elements) => some (table.set key (.tables (elements ++ [[]])))
    | some _ => none) path .header entries

/-- Adds an item to the table that was opened last. -/
def addIn? (opened path : List String) (key : String) (item : Item) (entries : Entries) :
    Option Entries :=
  alter .implied (fun _ table => addDotted? path key item table) opened .header entries

end Entries

end Calculator.Toml
