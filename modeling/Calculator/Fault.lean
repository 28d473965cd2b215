/-!
Faults: failures inside a computation that break it off. The command that runs it reports them; outside
commands they end the program.
-/

namespace Calculator

inductive Fault where
  | said (message : String)
  /-- A fault that carries no text. -/
  | unexplained
deriving DecidableEq, Repr

namespace Fault

def message : Fault → String
  | said text => text
  | unexplained => "unknown panic"

/-- The status of a program that a fault ends. -/
def status : Nat := 101

end Fault

end Calculator
