import Calculator.Fault
import Calculator.Number.Numeral
import Calculator.Number.Written

/-!
Operations: named calculations on arguments given as text. What goes wrong in one becomes its result
text.
-/

namespace Calculator

inductive OperationError where
  | tooFewArguments (message : String)
  | invalidNumber (position : Nat) (text : String)
  | divisionByZero
  | overflow (label : String)
deriving DecidableEq, Repr

namespace OperationError

def message : OperationError → String
  | tooFewArguments message => message
  | invalidNumber position text =>
    s!"Invalid argument at position {position}: '{text}' is not a valid number"
  | divisionByZero => "Error: Division by zero is not allowed"
  | overflow label => s!"Error during {label}: numeric overflow"

end OperationError

/-- Why a calculation has no value. -/
inductive NoValue where
  | error (error : OperationError)
  | fault (fault : Fault)
deriving DecidableEq, Repr

structure Operation where
  description : String
  /-- What an overflow of the operation is reported as. -/
  label : String
  /-- Reads the arguments, or refuses them. -/
  operands : List String → Except OperationError (List Binary64)
  compute : List Binary64 → Except NoValue Binary64

namespace Operation

/-- Reads arguments counted from `position`, up to the first that is not a numeral. -/
def readOperands (position : Nat) : List String → Except OperationError (List Binary64)
  | [] => .ok []
  | arg :: args =>
    match Numeral.read? arg.toList with
    | none => .error (.invalidNumber position arg)
    | some x => (readOperands (position + 1) args).map (x :: ·)

/-- Their number is checked before any argument is read. -/
def parseOperands (args : List String) (least : Nat) (tooFew : String) :
    Except OperationError (List Binary64) :=
  if args.length < least then .error (.tooFewArguments tooFew) else readOperands 1 args

/-- The text of a value: finite operands must not give an infinite result or a NaN. -/
def render (label : String) (values : List Binary64) (result : Binary64) : String :=
  if !result.isFinite && values.all Binary64.isFinite then (OperationError.overflow label).message
  else result.text

/-- The result text. Only a fault in the computation leaves none. -/
def execute (op : Operation) (args : List String) : Except Fault String :=
  match op.operands args with
  | .error e => .ok e.message
  | .ok values =>
    match op.compute values with
    | .ok result => .ok (render op.label values result)
    | .error (.error e) => .ok e.message
    | .error (.fault f) => .error f

end Operation

end Calculator
