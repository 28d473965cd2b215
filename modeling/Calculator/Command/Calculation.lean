import Calculator.Command.Script
import Calculator.Expression.Evaluate

/-!
The commands that calculate: one for each operation, and one for expressions.
-/

namespace Calculator.Command.Calculation

/-- The outcome of an operation. Only a fault in it breaks the command off. -/
def outcome (op : Operation) (args : List String) : Outcome :=
  (op.execute args).mapError .fault

/-- The operation that has a name when the command runs. -/
def operation (name : String) : Command := .plain fun args view desk =>
  match view.operations.create? name with
  | some op => (outcome op args, desk)
  | none =>
    (.ok s!"Error: No such operation: {name}",
      desk.note .warn .operations "Operation not found" [("operation", name)])

def expressionText (text : String) : String :=
  match Expression.evaluate text with
  | .ok value => value.text
  | .error e => s!"Error evaluating expression: {e.message}"

/-- Arguments are evaluated as one text, since blanks do not matter in an expression. -/
def expression : Command := .saying fun args _ _ => expressionText (String.join args)

/-- The name under which expressions are evaluated. -/
def expressionName : String := "expression"

end Calculator.Command.Calculation
