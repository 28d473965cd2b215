import Calculator.Number.Shortest

/-!
The written form of a result: the shortest digits that read back, positional from `0.0001` up to
below `10 ^ 16` and with a signed exponent elsewhere.
-/

namespace Calculator

/-- How a finite number is laid out. -/
structure Layout where
  /-- The least decimal exponent that is written positionally. -/
  leastPositional : Int
  /-- The greatest decimal exponent that is written positionally. -/
  greatestPositional : Int
  /-- The least number of digits of a written exponent. -/
  exponentDigits : Nat

/-- Results are positional from `1e-4` to below `1e16`; an exponent has at least two digits. -/
def Layout.result : Layout := ⟨-4, 15, 2⟩

namespace Decimal

/-- The exponent of the first digit. -/
def leadingExponent (d : Decimal) : Int := (Nat.toDigits 10 d.digits).length - 1 + d.exponent

/-- Digits around a point, with at least one digit on either side of it. -/
def positional (d : Decimal) : List Char :=
  let digits := Nat.toDigits 10 d.digits
  if 0 ≤ d.exponent then digits ++ List.replicate d.exponent.toNat '0' ++ ['.', '0']
  else
    let places := (-d.exponent).toNat
    let padded := List.replicate (places + 1 - digits.length) '0' ++ digits
    padded.take (padded.length - places) ++ '.' :: padded.drop (padded.length - places)

/-- One digit, the others after a point, and the exponent with its sign. -/
def scientific (d : Decimal) (exponentDigits : Nat) : List Char :=
  let exponent := Nat.toDigits 10 d.leadingExponent.natAbs
  let mantissa := match Nat.toDigits 10 d.digits with
    | first :: second :: rest => first :: '.' :: second :: rest
    | short => short
  mantissa ++ 'e' :: (if d.leadingExponent < 0 then '-' else '+') ::
    List.replicate (exponentDigits - exponent.length) '0' ++ exponent

/-- Lays out a decimal whose last digit is not zero. -/
def write (layout : Layout) (d : Decimal) : List Char :=
  if layout.leastPositional ≤ d.leadingExponent ∧ d.leadingExponent ≤ layout.greatestPositional then
    d.positional
  else d.scientific layout.exponentDigits

end Decimal

namespace Binary64

/-- The text of a result. -/
def written (x : Binary64) : List Char :=
  if x.isNaN then "nan".toList
  else
    let sign := if x.isNegative then ['-'] else []
    if x.isInfinite then sign ++ "inf".toList
    else if x.isZero then sign ++ "0.0".toList
    else sign ++ (shortest x.magnitude).write Layout.result

def text (x : Binary64) : String := String.ofList x.written

end Binary64

end Calculator
