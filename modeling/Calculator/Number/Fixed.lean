import Calculator.Number.Binary64
import Calculator.Number.Rounding

/-!
Finite numbers with a fixed number of decimal places, rounded from the exact value; a half goes to the
even neighbour.
-/

namespace Calculator

/-- A quotient rounded to the nearest natural number, a half to the even one. -/
def divideToEven (numerator denominator : Nat) : Nat :=
  let quotient := numerator / denominator
  let twice := 2 * (numerator % denominator)
  if twice < denominator ∨ (twice = denominator ∧ quotient % 2 = 0) then quotient else quotient + 1

namespace Binary64

/-- The text of a finite number with `places` digits after the point. -/
def fixed (places : Nat) (x : Binary64) : List Char :=
  let digits := Nat.toDigits 10 (divideToEven (units x.magnitude * 10 ^ places) (2 ^ (1074 : Nat)))
  let padded := List.replicate (places + 1 - digits.length) '0' ++ digits
  (if x.isNegative then ['-'] else []) ++ padded.take (padded.length - places) ++
    '.' :: padded.drop (padded.length - places)

end Binary64

end Calculator
