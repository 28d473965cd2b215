import Calculator.Command.Script
import Calculator.Number.Whole

/-!
The commands on recorded calculations: showing, saving, loading, clearing, deleting, counting and
searching them. An error in a file is named in the log and not in the reply.
-/

namespace Calculator.Command.Recorded

open History (Entry)

/-- A file name given as an argument, with its extension. -/
def sheetPath (arg : String) : String :=
  if ".csv".toList.isSuffixOf arg.toList then arg else arg ++ ".csv"

def sheetPath? (args : List String) : Option String := args.head?.map sheetPath

def lines (entries : List (Nat × Entry)) : List String :=
  entries.map fun (index, entry) => entry.line index

/-- Entries with their indexes, without those before a start. -/
def lastFrom (start : Nat) (entries : List Entry) : List (Nat × Entry) :=
  (entries.zipIdx.drop start).map fun (entry, index) => (index, entry)

def shownText (start : Nat) (entries : List Entry) : String :=
  "\n".intercalate ("\n=== Calculation History ===" :: lines (lastFrom start entries) ++
    [s!"\nShowing {entries.length - start} of {entries.length} entries.",
     "Use 'history <number>' to limit entries shown.",
     "Use 'history-save' to save history to a file."])

/-- How many entries an argument asks for, or what is wrong with it. -/
def readLimit (arg : String) : Except String Nat :=
  match Whole.read? arg with
  | none => .error s!"Invalid argument: '{arg}' - must be a positive number."
  | some n => if n ≤ 0 then .error "Number of entries must be positive." else .ok n.toNat

/-- How many of the entries are to be shown. -/
def limit (args : List String) (entries : List Entry) : Except String Nat :=
  match args with
  | [] => .ok entries.length
  | arg :: _ => readLimit arg

/-- Shows all entries, or the last of them. -/
def display : Command := .plain fun args _ desk =>
  let entries := desk.history.entries
  if entries.isEmpty then (.ok "No calculation history available.", desk)
  else
    match limit args entries with
    | .error text => (.ok text, desk)
    | .ok limit =>
      (.ok (shownText (entries.length - limit) entries),
        desk.note .info .recorded "Displayed history entries"
          [("shown", toString (entries.length - (entries.length - limit)))])

/-- What the log says of an error in a file. -/
def errorDetails (e : History.StoreError) : List Log.Detail := [("error", e.message), ("kind", e.kind)]

def saved (desk : Desk) : Except History.StoreError String → Outcome × Desk
  | .ok path => (.ok s!"History saved to {path}", desk.noteSaved path)
  | .error e =>
    (.ok "Error saving history. See logs for details.",
      desk.note .error .recorded "Failed to save history" (errorDetails e))

/-- Saves to the file that is given, or to the default one. -/
def save : Command := .plain fun args _ desk =>
  if desk.history.entries.isEmpty then (.ok "No history to save.", desk)
  else
    let (result, files) := desk.history.save desk.files (sheetPath? args)
    saved { desk with files := files } result

def loadFailed (desk : Desk) (e : History.StoreError) : Outcome × Desk :=
  let desk :=
    match e with
    | .notFound path => desk.noteMissing path
    | _ => desk
  (.ok "Error loading history. See logs for details.",
    desk.note .error .recorded "Failed to load history" (errorDetails e))

def loadFrom (path? : Option String) (desk : Desk) : Outcome × Desk :=
  match desk.history.load desk.files path? with
  | .error e => loadFailed desk e
  | .ok (path, history) =>
    (.ok s!"Loaded {history.entries.length} history entries from {path}",
      { desk with history := history }.noteLoaded path)

/-- Loads the file that is given, or the default one. -/
def load : Command := .plain fun args _ desk =>
  match sheetPath? args with
  | none => loadFrom none desk
  | some path =>
    if desk.files.exists? path then loadFrom (some path) desk
    else (.ok s!"File not found: {path}", desk)

def clear : Command := .plain fun _ _ desk =>
  if desk.history.entries.isEmpty then (.ok "History is already empty.", desk)
  else
    (.ok "History cleared.",
      { desk with history := desk.history.clear }.note .info .history "History cleared")

/-- Deletes the entry at an index, if there is one. -/
def deleteAt (index : Nat) (desk : Desk) : Outcome × Desk :=
  match desk.history.delete? index with
  | some (_, history) =>
    (.ok s!"Deleted history entry at index {index}.",
      { desk with history := history }.note .info .history "Deleted history entry"
        [("index", toString index)])
  | none =>
    (.ok s!"Error: Entry {index} not found.",
      desk.note .warn .history "Cannot delete history entry: index out of range"
        [("index", toString index)])

def deleteNamed (arg : String) (desk : Desk) : Outcome × Desk :=
  match Whole.read? arg with
  | none => (.ok s!"Error: Invalid index '{arg}'. Please provide a numeric index.", desk)
  | some index =>
    if index < 0 then (.ok s!"Error: Entry {index} not found.", desk)
    else deleteAt index.toNat desk

def delete : Command := .plain fun args _ desk =>
  match args with
  | [] => (.ok "Error: Please specify an entry index to delete.", desk)
  | arg :: _ => deleteNamed arg desk

def summaryText (summary : History.Summary) : String :=
  "\n".intercalate
    (["\n=== History Statistics ===",
      s!"Total entries: {summary.total}",
      "\nOperation counts:"] ++
     (summary.counts.map fun (operation, count) => s!"  - {operation}: {count}") ++
     ["\nFirst entry: " ++ summary.first.getD "", "Last entry: " ++ summary.last.getD ""])

def stats : Command := .saying fun _ _ desk =>
  if desk.history.entries.isEmpty then "No history entries available for statistics."
  else summaryText (History.summary desk.history.entries)

def foundText (term : String) (found : List (Nat × Entry)) : String :=
  "\n".intercalate (s!"\n=== Search Results for '{term}' ===" :: lines found ++
    [s!"\nFound {found.length} matching entries."])

def searchFor (term : String) (desk : Desk) : Outcome × Desk :=
  let found := History.search desk.history.entries term
  if found.isEmpty then (.ok s!"No history entries found matching '{term}'.", desk)
  else
    (.ok (foundText term found),
      desk.note .info .recorded "Searched history"
        [("term", term), ("matches", toString found.length)])

/-- The arguments are one term with blanks in it. -/
def search : Command := .plain fun args _ desk =>
  if args.isEmpty then (.ok "Error: Please provide a search term.", desk)
  else searchFor (" ".intercalate args) desk

end Calculator.Command.Recorded
