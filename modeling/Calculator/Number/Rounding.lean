import Calculator.Number.Binary64

/-!
Rounding a fraction to the nearest binary64, ties to the even one. Magnitudes are counted in units
of `2 ^ -1074`, the least positive number, so all comparisons are between natural numbers.
-/

namespace Calculator.Binary64

/-- The value of magnitude bits in units of `2 ^ -1074`. The infinite magnitude stands for `2 ^ 1024`,
the first power of two out of range. -/
def units (m : Nat) : Nat :=
  if m / 2 ^ (52 : Nat) = 0 then m % 2 ^ (52 : Nat)
  else (2 ^ (52 : Nat) + m % 2 ^ (52 : Nat)) <<< (m / 2 ^ (52 : Nat) - 1)

/-- The value halfway between `m` and the magnitude before it, in units of `2 ^ -1075`. -/
def border (m : Nat) : Nat := units (m - 1) + units m

/-- Whether `numerator / denominator`, in units of `2 ^ -1075`, rounds to `m` or above. On the border
itself an even magnitude wins. -/
def reaches (numerator denominator m : Nat) : Bool :=
  if m % 2 = 0 then decide (border m * denominator ≤ numerator)
  else decide (border m * denominator < numerator)

/-- The greatest number below `2 ^ n` above `base` that `p` holds of, found from its highest bit
down. -/
def climb (p : Nat → Bool) : Nat → Nat → Nat
  | 0, base => base
  | n + 1, base => climb p n (if p (base + 2 ^ n) then base + 2 ^ n else base)

/-- The magnitude nearest to `numerator / denominator`; out of range it is the infinite one. -/
def nearest (numerator denominator : Nat) : Nat :=
  climb (fun m => decide (m ≤ infiniteMagnitude) && reaches (numerator <<< 1075) denominator m) 63 0

/-- The binary64 nearest to `digits * 10 ^ exponent`. Exponents so large or small that every digit
string overflows or vanishes are settled without computing the power. -/
def ofDecimal (negative : Bool) (digits : Nat) (exponent : Int) : Binary64 :=
  if digits = 0 then ofMagnitude negative 0
  else if 310 ≤ exponent then infinity negative
  else if exponent + digits.log2 + 1 ≤ -324 then ofMagnitude negative 0
  else if 0 ≤ exponent then ofMagnitude negative (nearest (digits * 10 ^ exponent.toNat) 1)
  else ofMagnitude negative (nearest digits (10 ^ (-exponent).toNat))

end Calculator.Binary64
