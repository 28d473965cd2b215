import Calculator.Log.Level
import Calculator.Time.Calendar

/-!
Notes for the log: what happened, how severe it is, which part of the program it is about, and the runs
of commands that it happened in.
-/

namespace Calculator.Log

/-- A part of the program. -/
inductive Topic where
  | program
  | session
  | loop
  | dispatch
  | guide
  | recorded
  | tools
  | history
  | operations
  | faults
deriving DecidableEq, Repr

namespace Topic

/-- The topic as the log names it: the program, then what a topic is part of. -/
def path : Topic → List String
  | program => ["abacus"]
  | session => ["abacus", "app"]
  | loop => ["abacus", "repl"]
  | dispatch => ["abacus", "handlers", "core", "registry"]
  | guide => ["abacus", "handlers", "help"]
  | recorded => ["abacus", "handlers", "history"]
  | tools => ["abacus", "handlers", "utility"]
  | history => ["abacus", "history"]
  | operations => ["abacus", "operations", "registry"]
  | faults => ["abacus", "telemetry"]

def name (topic : Topic) : String := "::".intercalate topic.path

end Topic

/-- A name and a value that a note gives beside its text. -/
abbrev Detail := String × String

/-- What the log knows of a run. -/
inductive Value where
  | text (text : String)
  | number (n : Nat)
deriving DecidableEq, Repr

def Value.written : Value → String
  | text s => s
  | number n => toString n

/-- The run of a command, as the log knows it. -/
structure Run where
  command : String
  /-- The number of arguments. -/
  count : Nat
deriving DecidableEq, Repr

namespace Run

/-- What the log calls every run. -/
def kind : String := "command"

def topic : Topic := .dispatch

/-- A run is known to the log only where notes of this level could be taken. -/
def level : Level := .debug

def values (run : Run) : List (String × Value) :=
  [("command", .text run.command), ("argc", .number run.count)]

def details (run : Run) : List Detail := run.values.map fun (name, value) => (name, value.written)

end Run

structure Note where
  level : Level
  topic : Topic
  text : String
  details : List Detail := []
  /-- The runs that the note was made in, the innermost first. -/
  runs : List Run := []
deriving DecidableEq, Repr

namespace Note

/-- The names that a note has values for. The text is one of them. -/
def names (note : Note) : List String := "message" :: note.details.map Prod.fst

def detailsText (details : List Detail) : String :=
  " ".intercalate (details.map fun (name, value) => s!"{name}={value}")

/-- The line of a note in a log, written at a time. -/
def line (note : Note) (seconds : Int) : String :=
  let date := String.ofList (Time.Date.ofDays (seconds / 86400)).text
  let time := String.ofList (Time.timeOfDay seconds)
  let blank := String.ofList (List.replicate (5 - note.level.label.length) ' ')
  let runs := note.runs.reverse.map fun run => Run.kind ++ "\x7b" ++ detailsText run.details ++ "\x7d:"
  let runs := if runs.isEmpty then "" else String.join runs ++ " "
  let details := note.details.map fun detail => " " ++ detailsText [detail]
  s!"{date}T{time}.000000Z {blank}{note.level.label} {runs}{note.topic.name}: " ++
    note.text ++ String.join details ++ "\n"

end Note

end Calculator.Log
