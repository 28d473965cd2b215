import Calculator.Files.Tree
import Calculator.Toml.Document

/-!
The configuration of the program in three sections, each field with a default, and how it is read from
a file. A section is a table of its fields or an array of them in their order; what is not known is
passed over.
-/

namespace Calculator.Settings

open Toml (Item Entries)

/-- Where the history is kept. -/
structure HistorySection where
  /-- The file that is saved and loaded where none is named. -/
  path : String := "data/history.csv"
  /-- Whether the file is loaded at the start, if it is there. -/
  autoload : Bool := false
  /-- Whether a history with entries is saved at the end. -/
  autosave : Bool := false
deriving DecidableEq, Repr

/-- Where the log is kept. -/
structure LoggingSection where
  directory : String := "logs"
  file : String := "calculator.log"
  /-- The filter of the log where the environment names none. -/
  level : String := "info"
deriving DecidableEq, Repr

/-- How lines are asked for. -/
structure PromptSection where
  prompt : String := "calc> "
  /-- How many lines can be called back for editing. -/
  maxLineHistory : Nat := 100
deriving DecidableEq, Repr

structure Config where
  history : HistorySection := {}
  logging : LoggingSection := {}
  repl : PromptSection := {}
deriving DecidableEq, Repr

/-- A field that may be missing. -/
def readField {α : Type} (read : Item → Option α) (default : α) : Option Item → Option α
  | none => some default
  | some item => read item

def readText : Item → Option String
  | .string text => some text
  | _ => none

def readFlag : Item → Option Bool
  | .boolean flag => some flag
  | _ => none

def readCount : Item → Option Nat
  | .integer n => if n < 0 then none else some n.toNat
  | _ => none

/-- The fields of a section, found by their names or by their places. A date has none of them. -/
def fieldsOf (names : List String) : Item → Option (List (Option Item))
  | .table _ entries => some (names.map fun name => entries.lookup name)
  | .inline entries => some (names.map fun name => entries.lookup name)
  | .moment => some (names.map fun _ => none)
  | .array items => some (names.zipIdx.map fun (_, place) => items[place]?)
  | .tables elements => some (names.zipIdx.map fun (_, place) =>
      elements[place]?.map (Item.table .header))
  | _ => none

def HistorySection.read? (item : Item) : Option HistorySection := do
  match ← fieldsOf ["path", "autoload", "autosave"] item with
  | [path, autoload, autosave] =>
    return { path := ← readField readText "data/history.csv" path
             autoload := ← readField readFlag false autoload
             autosave := ← readField readFlag false autosave }
  | _ => none

def LoggingSection.read? (item : Item) : Option LoggingSection := do
  match ← fieldsOf ["directory", "file", "level"] item with
  | [directory, file, level] =>
    return { directory := ← readField readText "logs" directory
             file := ← readField readText "calculator.log" file
             level := ← readField readText "info" level }
  | _ => none

def PromptSection.read? (item : Item) : Option PromptSection := do
  match ← fieldsOf ["prompt", "max_line_history"] item with
  | [prompt, count] =>
    return { prompt := ← readField readText "calc> " prompt
             maxLineHistory := ← readField readCount 100 count }
  | _ => none

inductive ConfigError where
  | file (error : Files.FileError)
  | malformed
deriving DecidableEq, Repr

namespace ConfigError

def message : ConfigError → String
  | file e => "failed to read config file: " ++ e.message
  | malformed => "failed to parse config"

end ConfigError

namespace Config

def ofEntries? (entries : Entries) : Option Config := do
  return { history := ← readField HistorySection.read? {} (entries.lookup "history")
           logging := ← readField LoggingSection.read? {} (entries.lookup "logging")
           repl := ← readField PromptSection.read? {} (entries.lookup "repl") }

def read? (document : String) : Option Config := (Toml.read? document).bind ofEntries?

/-- The configuration in a file. -/
def load (files : Files.Tree) (path : String) : Except ConfigError Config :=
  match files.readText path with
  | .error e => .error (.file e)
  | .ok text => (read? text).elim (.error .malformed) .ok

/-- The configuration in a file, if it is there. -/
def loadOrDefault (files : Files.Tree) (path : String) : Except ConfigError Config :=
  if files.exists? path then load files path else .ok {}

end Config

end Calculator.Settings
