import Calculator.Number.Rounding

/-!
The shortest decimal that reads back as a given magnitude. A grid of spacing `10 ^ k` is tried after
the next coarser one; the first that has a point in the magnitude's rounding range gives the digits,
of two such points the nearer, on a tie the upper.
-/

namespace Calculator

open scoped Binary64

/-- The number `digits * 10 ^ exponent`. -/
structure Decimal where
  digits : Nat
  exponent : Int
deriving DecidableEq, Inhabited, Repr

namespace Decimal

/-- A decimal over `10 ^ 0`, as numerator and denominator. -/
def fraction (d : Decimal) : Nat × Nat :=
  if 0 ≤ d.exponent then (d.digits * 10 ^ d.exponent.toNat, 1)
  else (d.digits, 10 ^ (-d.exponent).toNat)

end Decimal

namespace Binary64

/-- Whether a decimal lies in the range of fractions that round to the magnitude `m`. -/
def roundsTo (m : Nat) (d : Decimal) : Bool :=
  let (numerator, denominator) := d.fraction
  reaches (numerator <<< 1075) denominator m && !reaches (numerator <<< 1075) denominator (m + 1)

/-- The greatest multiple of `10 ^ exponent` that is at most the value of `m`. -/
def below (m : Nat) (exponent : Int) : Decimal :=
  if 0 ≤ exponent then ⟨(units m >>> 1074) / 10 ^ exponent.toNat, exponent⟩
  else ⟨(units m * 10 ^ (-exponent).toNat) >>> 1074, exponent⟩

/-- Whether the value of `m` lies nearer to `d` than to the next multiple of `d`'s power of ten. -/
def nearerBelow (m : Nat) (d : Decimal) : Bool :=
  let (numerator, denominator) := Decimal.fraction ⟨2 * d.digits + 1, d.exponent⟩
  decide (units m * denominator * 2 < numerator <<< 1074)

/-- The point of the grid `10 ^ exponent` that rounds to `m` and is nearest to it. -/
def gridPoint? (m : Nat) (exponent : Int) : Option Decimal :=
  let lower := below m exponent
  let upper : Decimal := ⟨lower.digits + 1, exponent⟩
  match decide (0 < lower.digits) && roundsTo m lower, roundsTo m upper with
  | true, true => some (if nearerBelow m lower then lower else upper)
  | true, false => some lower
  | false, true => some upper
  | false, false => none

/-- Tries `grids` grids from `10 ^ exponent` down. On the grid `10 ^ -1074` every value has a point. -/
def coarsest (m : Nat) : Nat → Int → Decimal
  | 0, _ => ⟨units m * 5 ^ (1074 : Nat), -1074⟩
  | grids + 1, exponent => (gridPoint? m exponent).getD (coarsest m grids (exponent - 1))

/-- A power of ten above the value of `m`: it has fewer than `2 ^ bits` units and `2 ^ 10 > 10 ^ 3`. -/
def topExponent (m : Nat) : Int := ((units m).log2 - 1073 : Int) * 30103 / 100000 + 2

/-- The shortest decimal in the rounding range of a positive magnitude. -/
def shortest (m : Nat) : Decimal :=
  coarsest m (topExponent m + 1074).toNat (topExponent m)

end Binary64

end Calculator
