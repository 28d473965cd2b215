import Calculator.Command.Reply
import Calculator.Command.Usage
import Calculator.History.Basic
import Calculator.Log.Note
import Calculator.Operation.Catalogue
import Calculator.Settings.Environment

/-!
Commands as scripts. A script looks at what it may know, changes what it may change, has other
commands run, and ends with an outcome. What is not in its hands, the clock and the usage of commands,
a script cannot change.
-/

namespace Calculator.Command

/-- The machine and the process that the program runs in, as it describes them. -/
structure Host where
  version : String
  platform : String
  architecture : String
  processId : String
  workingFolder : String
deriving Repr

/-- What a command may know. -/
structure View where
  operations : Operation.Catalogue
  environment : Settings.Environment
  host : Host
  usage : Usage
  /-- The time on the wall. -/
  now : Int

/-- What a command may change. -/
structure Desk where
  history : History
  files : Files.Tree
  /-- What is noted for the log, the latest note first. -/
  notes : List Log.Note := []
  /-- The runs that the desk is used in, the innermost first. -/
  runs : List Log.Run := []

def Desk.note (desk : Desk) (level : Log.Level) (topic : Log.Topic) (text : String)
    (details : List Log.Detail := []) : Desk :=
  { desk with notes := { level, topic, text, details, runs := desk.runs } :: desk.notes }

namespace Desk

def entriesDetail (desk : Desk) : Log.Detail := ("entries", toString desk.history.entries.length)

def noteSaved (desk : Desk) (path : String) : Desk :=
  desk.note .info .history "History saved" [("path", path), desk.entriesDetail]

def noteLoaded (desk : Desk) (path : String) : Desk :=
  desk.note .info .history "History loaded" [("path", path), desk.entriesDetail]

def noteMissing (desk : Desk) (path : String) : Desk :=
  desk.note .warn .history "History file not found" [("path", path)]

end Desk

/-- How a command is asked for by name. -/
inductive Policy where
  /-- The name is looked up before anything is tried. -/
  | checked
  /-- The command is tried at once, and a reply to an unknown name says where help is. -/
  | unchecked
deriving DecidableEq, Repr

inductive Script where
  | finish (outcome : Outcome)
  | look (next : View → Desk → Script)
  | change (desk : Desk) (next : Script)
  | ask (policy : Policy) (name : String) (args : List String) (next : Reply → Script)

end Calculator.Command

namespace Calculator

/-- A command is a script for every list of arguments. -/
abbrev Command := List String → Command.Script

namespace Command

/-- The command that looks once, changes the desk once and asks for nothing. -/
def plain (act : List String → View → Desk → Outcome × Desk) : Command := fun args =>
  .look fun view desk =>
    let (outcome, desk) := act args view desk
    .change desk (.finish outcome)

/-- The command that only says something. -/
def saying (text : List String → View → Desk → String) : Command :=
  plain fun args view desk => (.ok (text args view desk), desk)

end Command

end Calculator
