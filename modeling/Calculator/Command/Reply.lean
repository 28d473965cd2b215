import Calculator.Fault
import Calculator.Files.Error

/-!
What a command gives back: a text, or why it broke off. Whoever asked for the command gets a reply in
either case.
-/

namespace Calculator.Command

inductive CommandError where
  | file (error : Files.FileError)
  | fault (fault : Fault)
deriving DecidableEq, Repr

namespace CommandError

def message : CommandError → String
  | file e => e.message
  | fault f => f.message

/-- The kind of an error in the log. -/
def kind : CommandError → String
  | file _ => "io_error"
  | fault _ => "panicked"

end CommandError

/-- A text may still describe a mistake of the user. -/
abbrev Outcome := Except CommandError String

inductive Status where
  | completed
  /-- There is no command of that name. -/
  | unknown
  | failed
deriving DecidableEq, Repr

structure Reply where
  status : Status
  text : String
deriving DecidableEq, Repr

namespace Reply

def isCompleted (reply : Reply) : Bool := reply.status = .completed

/-- The reply to the outcome of a command. -/
def ofOutcome (name : String) : Outcome → Reply
  | .ok text => ⟨.completed, text⟩
  | .error e => ⟨.failed, s!"Error executing command '{name}': {e.message}"⟩

end Reply

end Calculator.Command
