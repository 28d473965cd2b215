import Calculator.Operation.Basic

/-!
The seven standard operations: four of arithmetic, folded from left to right, and three of
descriptive statistics.
-/

namespace Calculator.Operation

inductive Standard where
  | add
  | subtract
  | multiply
  | divide
  | mean
  | median
  | stddev
deriving DecidableEq, Repr

namespace Standard

def arithmetic : List Standard := [add, subtract, multiply, divide]

def statistics : List Standard := [mean, median, stddev]

def all : List Standard := arithmetic ++ statistics

def name : Standard → String
  | add => "add"
  | subtract => "subtract"
  | multiply => "multiply"
  | divide => "divide"
  | mean => "mean"
  | median => "median"
  | stddev => "stddev"

def ofName? (name : String) : Option Standard := all.find? (·.name = name)

def description : Standard → String
  | add => "Addition operation that sums multiple numeric values."
  | subtract => "Subtraction operation that subtracts subsequent numbers from the first."
  | multiply => "Multiplication operation that multiplies multiple numbers together."
  | divide => "Division operation that performs sequential division of numbers."
  | mean => "Mean operation that calculates the arithmetic mean (average) of multiple numbers."
  | median => "Median operation that calculates the median value of multiple numbers."
  | stddev =>
    "Standard Deviation operation that calculates the standard deviation of multiple numbers."

def label : Standard → String
  | add => "addition operation"
  | subtract => "subtraction operation"
  | multiply => "multiplication operation"
  | divide => "division operation"
  | mean => "mean calculation"
  | median => "median calculation"
  | stddev => "standard deviation calculation"

/-- The least number of arguments. -/
def leastArguments : Standard → Nat
  | median => 3
  | _ => 2

def tooFew : Standard → String
  | add => "Addition requires at least two numbers"
  | subtract => "Subtraction requires at least two numbers"
  | multiply => "Multiplication requires at least two numbers"
  | divide => "Division requires at least two numbers"
  | mean => "Mean calculation requires at least two numbers"
  | median => "Median calculation requires at least three numbers for meaningful results"
  | stddev => "Standard deviation calculation requires at least two numbers"

/-- Divides by each number in turn, and stops at the first zero of either sign. -/
def quotient (dividend : Binary64) : List Binary64 → Except OperationError Binary64
  | [] => .ok dividend
  | divisor :: rest =>
    if divisor.isZero then .error .divisionByZero else quotient (dividend / divisor) rest

def average (values : List Binary64) : Binary64 :=
  Binary64.sum values / .ofNat values.length

/-- The values from the least rank to the greatest. -/
def sorted (values : List Binary64) : List Binary64 :=
  values.mergeSort fun x y => decide (x.rank ≤ y.rank)

/-- The middle of the sorted values, or half the sum of the two in the middle. There is none among no
values. -/
def middle (values : List Binary64) : Option Binary64 :=
  let half := values.length / 2
  if values.length % 2 = 1 then (sorted values)[half]?
  else if half = 0 then none
  else do return ((← (sorted values)[half - 1]?) + (← (sorted values)[half]?)) / .two

/-- The sum of the squared distances from the average. -/
def squares (values : List Binary64) : Binary64 :=
  Binary64.sum (values.map fun x => (x - average values) * (x - average values))

/-- The sample deviation divides by one less than the number of values. -/
def deviation : List Binary64 → Option Binary64
  | [] => none
  | x :: rest => some (squares (x :: rest) / .ofNat rest.length).sqrt

/-- The fault of looking for a value where there is none. -/
def outOfRange : NoValue := .fault (.said "index out of range")

def compute : Standard → List Binary64 → Except NoValue Binary64
  | add, values => .ok (Binary64.sum values)
  | subtract, [] => .error (.error (.tooFewArguments subtract.tooFew))
  | subtract, x :: rest => .ok (rest.foldl (· - ·) x)
  | multiply, values => .ok (Binary64.product values)
  | divide, [] => .error (.error (.tooFewArguments divide.tooFew))
  | divide, x :: rest => (quotient x rest).mapError .error
  | mean, values => .ok (average values)
  | median, values => (middle values).elim (.error outOfRange) .ok
  | stddev, values => (deviation values).elim (.error outOfRange) .ok

def operation (kind : Standard) : Operation where
  description := kind.description
  label := kind.label
  operands args := parseOperands args kind.leastArguments kind.tooFew
  compute := kind.compute

end Standard

end Calculator.Operation
