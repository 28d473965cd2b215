import Calculator.History.Sheet
import Calculator.History.Summary
import Calculator.Files.Tree
import Calculator.Time.Calendar

/-!
The history: entries in the order of their recording, and the file that they go to by default. A file
is saved by writing a sibling and giving it the name of the file, so that the file is never half
written; it is loaded whole or not at all.
-/

namespace Calculator

open Files (FileError Tree)

structure History where
  entries : List History.Entry := []
  defaultPath : String
deriving Repr

namespace History

inductive StoreError where
  | file (error : FileError)
  | notFound (path : String)
  | sheet (error : SheetError)
deriving DecidableEq, Repr

namespace StoreError

def message : StoreError → String
  | file error => "IO error: " ++ error.message
  | notFound path => "history file not found: " ++ path
  | sheet error => error.message

/-- The kind of an error in the log. -/
def kind : StoreError → String
  | file _ => "io_error"
  | notFound _ => "not_found"
  | sheet (.missingColumn _) => "invalid_schema"
  | sheet (.malformed _) => "parse_error"

end StoreError

def push (h : History) (e : Entry) : History := { h with entries := h.entries ++ [e] }

/-- Records a calculation at a time. -/
def add (h : History) (time : Int) (operation inputs result : String) : History :=
  h.push ⟨Time.stamp time, operation, inputs, result⟩

def clear (h : History) : History := { h with entries := [] }

/-- The history without the entry at an index, and that entry. -/
def delete? (h : History) (index : Nat) : Option (Entry × History) :=
  h.entries[index]?.map fun e => (e, { h with entries := h.entries.eraseIdx index })

/-- The path of the file that is written first. -/
def sibling (path : String) : String := Files.Path.withExtension path "csv.tmp"

/-- Puts a text in place of a file by way of its sibling. -/
def replaceFile (tree : Tree) (path text : String) : Files.Outcome Unit :=
  match tree.write (sibling path) text.toUTF8 with
  | (.error e, tree) => (.error e, tree)
  | (.ok (), tree) =>
    match tree.rename (sibling path) path with
    | (.error e, tree) => (.error e, (tree.remove (sibling path)).2)
    | (.ok (), tree) => (.ok (), tree)

/-- Makes the folder that a path lies in. -/
def makeParent (tree : Tree) (path : String) : Files.Outcome Unit :=
  match Files.Path.parent? path with
  | none => (.ok (), tree)
  | some parent => tree.makeFolders parent

/-- Saves entries to a file. -/
def saveEntries (tree : Tree) (path : String) (entries : List Entry) : Files.Outcome Unit :=
  match makeParent tree path with
  | (.error e, tree) => (.error e, tree)
  | (.ok (), tree) => replaceFile tree path (encode entries)

/-- Saves to a path, or to the default path, and gives the path back. -/
def save (h : History) (tree : Tree) (path? : Option String) : Except StoreError String × Tree :=
  let path := path?.getD h.defaultPath
  match saveEntries tree path h.entries with
  | (.error e, tree) => (.error (.file e), tree)
  | (.ok (), tree) => (.ok path, tree)

/-- The entries in a file. -/
def loadEntries (tree : Tree) (path : String) : Except StoreError (List Entry) :=
  if !tree.exists? path then .error (.notFound path)
  else
    match tree.readText path with
    | .error e => .error (.file e)
    | .ok text => (decode text).mapError .sheet

/-- Loads from a path, or from the default path, in place of all entries, and gives the path back. -/
def load (h : History) (tree : Tree) (path? : Option String) : Except StoreError (String × History) :=
  let path := path?.getD h.defaultPath
  (loadEntries tree path).map fun entries => (path, { h with entries := entries })

end History

end Calculator
