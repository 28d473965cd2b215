import Calculator.Text.Blank

/-!
What an expression may be made of, and how it can fail.
-/

namespace Calculator

inductive ExpressionError where
  | invalidCharacters
  | mismatchedParentheses
  | noTerms
  | tooDeeplyNested
  | invalidNumber (text : String)
deriving DecidableEq, Repr

namespace Expression

/-- The deepest nesting of parentheses that is evaluated. -/
def maxNesting : Nat := 500

/-- Digits, the four operators, parentheses and the point. -/
def isAllowed (c : Char) : Bool :=
  c.isDigit || c == '+' || c == '-' || c == '*' || c == '/' || c == '(' || c == ')' || c == '.'

/-- Every text that is evaluated, at the start and after each group, holds allowed characters only. -/
def check (cs : List Char) : Except ExpressionError Unit :=
  if cs.isEmpty then .error .noTerms
  else if cs.all isAllowed then .ok ()
  else .error .invalidCharacters

theorem check_eq_ok_iff {cs : List Char} : check cs = .ok () ↔ cs ≠ [] ∧ ∀ c ∈ cs, isAllowed c := by
  unfold check
  cases cs with
  | nil => simp
  | cons c cs => simp only [List.isEmpty_cons, Bool.false_eq_true, ↓reduceIte, ne_eq]; split <;> simp_all

end Expression

namespace ExpressionError

def message : ExpressionError → String
  | invalidCharacters => "Invalid characters in expression"
  | mismatchedParentheses => "Mismatched parentheses"
  | noTerms => "No valid terms found"
  | tooDeeplyNested => s!"maximum nesting depth of {Expression.maxNesting} exceeded"
  | invalidNumber text => s!"could not convert string to float: '{text}'"

end ExpressionError

end Calculator
