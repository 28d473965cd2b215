import Calculator.Register
import Calculator.Time.Calendar
import Calculator.Number.Fixed

/-!
How often each command has run, for how long, and when last.
-/

namespace Calculator.Command

/-- The runs of one command. -/
structure Runs where
  count : Nat
  /-- Nanoseconds of all runs together. -/
  total : Nat
  /-- The time on the wall when the latest run ended. -/
  last : Int
deriving DecidableEq, Repr

namespace Runs

/-- Whole nanoseconds of one run on the average. More runs than 32 bits can count are taken for the
greatest number that they can. -/
def average (runs : Runs) : Nat := runs.total / min runs.count (UInt32.size - 1)

/-- Adds a run of the given length, ended at the given time. -/
def add (elapsed : Nat) (time : Int) : Option Runs → Runs
  | none => ⟨1, elapsed, time⟩
  | some runs => ⟨runs.count + 1, runs.total + elapsed, time⟩

end Runs

/-- Nanoseconds as milliseconds, by way of seconds. -/
def milliseconds (nanoseconds : Nat) : Binary64 :=
  (Binary64.ofNat (nanoseconds / 1000000000) +
      Binary64.ofNat (nanoseconds % 1000000000) / Binary64.ofNat 1000000000) * Binary64.ofNat 1000

namespace Runs

/-- A line about the runs of a command. -/
def line (name : String) (runs : Runs) : String :=
  let total := String.ofList ((milliseconds runs.total).fixed 3)
  let average := String.ofList ((milliseconds runs.average).fixed 3)
  let last := String.ofList (Time.timeOfDay runs.last)
  s!"{name}: {runs.count} calls, {total} ms total, {average} ms avg, last at {last}"

end Runs

/-- The runs of every command that has run. -/
structure Usage where
  runs : Register Runs := {}

namespace Usage

def get? (usage : Usage) (name : String) : Option Runs := usage.runs.get? name

def record (usage : Usage) (name : String) (elapsed : Nat) (time : Int) : Usage :=
  ⟨usage.runs.insert name (Runs.add elapsed time (usage.get? name))⟩

/-- All of them by name. -/
def all (usage : Usage) : List (String × Runs) := usage.runs.entries

theorem get?_record_self (usage : Usage) (name : String) (elapsed : Nat) (time : Int) :
    (usage.record name elapsed time).get? name = some (Runs.add elapsed time (usage.get? name)) :=
  Register.get?_insert_self ..

theorem get?_record_of_ne (usage : Usage) {name other : String} (elapsed : Nat) (time : Int)
    (h : other ≠ name) : (usage.record name elapsed time).get? other = usage.get? other :=
  Register.get?_insert_of_ne _ _ h

end Usage

end Calculator.Command
