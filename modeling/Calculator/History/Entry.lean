import Calculator.Text.Lowercase
import Calculator.Text.Blank

/-!
Recorded calculations. All fields are text, since a file may hold what was never calculated here.
-/

namespace Calculator.History

structure Entry where
  timestamp : String
  operation : String
  inputs : String
  result : String
deriving DecidableEq, Repr, Inhabited

/-- The names of the columns, in the order in which they are written. -/
def columns : List String := ["timestamp", "operation", "inputs", "result"]

namespace Entry

/-- The fields in the order of the columns. -/
def fields (e : Entry) : List String := [e.timestamp, e.operation, e.inputs, e.result]

/-- Whether the lowercase of a field holds a text. -/
def matchesText (e : Entry) (needle : String) : Bool :=
  e.fields.any fun field => Text.contains needle.toList (Text.lower field.toList)

/-- The entry as it is listed under an index. -/
def line (e : Entry) (index : Nat) : String :=
  s!"{index}: [{e.timestamp}] {e.operation} {e.inputs} = {e.result}"

end Entry

/-- The entries that hold a term in any case, with their indexes. -/
def search (entries : List Entry) (term : String) : List (Nat × Entry) :=
  (entries.zipIdx.filter fun (e, _) => e.matchesText (Text.lowercase term)).map fun (e, index) =>
    (index, e)

end Calculator.History
