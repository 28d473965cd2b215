import Calculator.Text.Blank
import Calculator.Text.Lowercase

/-!
Log levels by severity, and their names.
-/

namespace Calculator.Log

inductive Level where
  | error
  | warn
  | info
  | debug
  | trace
deriving DecidableEq, Repr

namespace Level

/-- All levels, the most severe first. -/
def all : List Level := [error, warn, info, debug, trace]

/-- How much is let through when this is the least severe level that is written. -/
def rank : Level → Nat
  | error => 1
  | warn => 2
  | info => 3
  | debug => 4
  | trace => 5

def name : Level → String
  | error => "error"
  | warn => "warn"
  | info => "info"
  | debug => "debug"
  | trace => "trace"

/-- The name of a level as it stands in the log. -/
def label (level : Level) : String := Text.asciiUpper level.name

/-- The level that a name in the environment stands for, in any case and with blanks around it. -/
def ofName? (name : String) : Option Level :=
  match Text.asciiUpper (String.ofList (Text.trim name.toList)) with
  | "TRACE" => some trace
  | "DEBUG" => some debug
  | "INFO" => some info
  | "WARNING" => some warn
  | "WARN" => some warn
  | "ERROR" => some error
  | "CRITICAL" => some error
  | _ => none

end Level

end Calculator.Log
