import Calculator.Expression.Basic
import Calculator.Number.Numeral

/-!
The terms of a text without groups, and their value from left to right. A term is a numeral with the
operator directly before it, if there is one; characters that belong to no term are passed over.
-/

namespace Calculator.Expression

inductive Operator where
  | plus
  | minus
  | times
  | divided
deriving DecidableEq, Repr

namespace Operator

def ofChar? : Char → Option Operator
  | '+' => some plus
  | '-' => some minus
  | '*' => some times
  | '/' => some divided
  | _ => none

def toChar : Operator → Char
  | plus => '+'
  | minus => '-'
  | times => '*'
  | divided => '/'

/-- Division by a zero of either sign gives a NaN. -/
def apply : Operator → Binary64 → Binary64 → Binary64
  | plus, x, y => x + y
  | minus, x, y => x - y
  | times, x, y => x * y
  | divided, x, y => if y.isZero then .nan false else x / y

theorem ofChar?_eq_some_iff {c : Char} {op : Operator} : ofChar? c = some op ↔ c = op.toChar := by
  constructor
  · intro h
    unfold ofChar? at h
    split at h <;> simp at h <;> subst h <;> rfl
  · rintro rfl
    cases op <;> rfl

end Operator

structure Term where
  operator : Option Operator
  numeral : List Char
deriving DecidableEq, Repr

/-- The rest of a numeral after its first digit, and what follows the numeral. -/
def numeralTail (cs : List Char) : List Char × List Char :=
  match cs.dropWhile Char.isDigit with
  | '.' :: rest =>
    (cs.takeWhile Char.isDigit ++ '.' :: rest.takeWhile Char.isDigit, rest.dropWhile Char.isDigit)
  | rest => (cs.takeWhile Char.isDigit, rest)

theorem numeralTail_append (cs : List Char) : (numeralTail cs).1 ++ (numeralTail cs).2 = cs := by
  unfold numeralTail
  split
  next rest h =>
    simp only [List.append_assoc, List.cons_append, List.takeWhile_append_dropWhile, ← h]
  next => exact List.takeWhile_append_dropWhile

theorem numeralTail_length (cs : List Char) : (numeralTail cs).2.length ≤ cs.length := by
  have := congrArg List.length (numeralTail_append cs)
  simp only [List.length_append] at this
  omega

/-- The terms of a text from left to right, each as long as it can be. -/
def terms : List Char → List Term
  | [] => []
  | c :: cs =>
    if c.isDigit then ⟨none, c :: (numeralTail cs).1⟩ :: terms (numeralTail cs).2
    else match cs with
      | [] => []
      | d :: ds =>
        match Operator.ofChar? c, d.isDigit with
        | some op, true => ⟨some op, d :: (numeralTail ds).1⟩ :: terms (numeralTail ds).2
        | _, _ => terms (d :: ds)
termination_by cs => cs.length
decreasing_by
  · have := numeralTail_length cs
    simp only [List.length_cons]
    omega
  · have := numeralTail_length ds
    simp only [List.length_cons]
    omega
  · simp

/-- The number that a text denotes as a whole. -/
def readNumber (cs : List Char) : Except ExpressionError Binary64 :=
  match Numeral.read? cs with
  | some x => .ok x
  | none => .error (.invalidNumber (String.ofList cs))

namespace Term

/-- The characters of a term. -/
def chars (t : Term) : List Char := (t.operator.map Operator.toChar).toList ++ t.numeral

/-- The first term stands for itself, so its operator can only be a sign. -/
def leading (t : Term) : Except ExpressionError Binary64 := readNumber t.chars

/-- A later term without an operator is added. -/
def applyTo (t : Term) (x : Binary64) : Except ExpressionError Binary64 :=
  (readNumber t.numeral).map (t.operator.getD .plus |>.apply x)

end Term

/-- The value of a text without groups: its terms, strictly from left to right. -/
def fold (cs : List Char) : Except ExpressionError Binary64 :=
  match terms cs with
  | [] => .error .noTerms
  | first :: rest => first.leading.bind fun x => rest.foldlM (fun x t => t.applyTo x) x

end Calculator.Expression
