import Calculator.History.Entry

/-!
Summaries of a table of entries: how often each operation occurs, and the earliest and the latest
timestamp.
-/

namespace Calculator.History

structure Summary where
  total : Nat
  /-- The most frequent operations first, equally frequent ones by name. -/
  counts : List (String × Nat)
  first : Option String
  last : Option String
deriving DecidableEq, Repr

/-- The order of the counts. -/
def precedes (x y : String × Nat) : Bool :=
  decide (y.2 < x.2) || (x.2 == y.2 && decide (x.1 ≤ y.1))

/-- Each operation with the number of its entries. -/
def operationCounts (entries : List Entry) : List (String × Nat) :=
  let operations := entries.map Entry.operation
  (operations.eraseDups.map fun operation => (operation, operations.count operation)).mergeSort precedes

/-- The first text that `better` keeps against all others. -/
def choose? (better : String → String → Bool) : List String → Option String
  | [] => none
  | text :: rest => some (rest.foldl (fun best next => if better next best then next else best) text)

def least? (texts : List String) : Option String := choose? (fun x y => decide (x < y)) texts

def greatest? (texts : List String) : Option String := choose? (fun x y => decide (y < x)) texts

def summary (entries : List Entry) : Summary where
  total := entries.length
  counts := operationCounts entries
  first := least? (entries.map Entry.timestamp)
  last := greatest? (entries.map Entry.timestamp)

end Calculator.History
