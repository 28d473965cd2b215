/-!
Binary64 numbers as their 64 bits, so that both zeros and NaNs of both signs stay apart. Arithmetic
is that of `Float`; `rank` is the order in which the numbers lie when every bit counts.
-/

namespace Calculator

structure Binary64 where
  bits : UInt64
deriving DecidableEq, Inhabited

namespace Binary64

/-- Powers of natural numbers are the core library's here, whatever else is in scope. An instance is
looked for once the type of the exponent is known, so numerals in exponents carry theirs. -/
scoped instance (priority := 20000) natPow : Pow Nat Nat := instPowNat

def toFloat (x : Binary64) : Float := Float.ofBits x.bits

def ofFloat (x : Float) : Binary64 := ⟨x.toBits⟩

instance : Add Binary64 := ⟨fun x y => ofFloat (x.toFloat + y.toFloat)⟩
instance : Sub Binary64 := ⟨fun x y => ofFloat (x.toFloat - y.toFloat)⟩
instance : Mul Binary64 := ⟨fun x y => ofFloat (x.toFloat * y.toFloat)⟩
instance : Div Binary64 := ⟨fun x y => ofFloat (x.toFloat / y.toFloat)⟩

def sqrt (x : Binary64) : Binary64 := ofFloat x.toFloat.sqrt

/-- The magnitude bits of the infinities; those of a NaN are larger. -/
def infiniteMagnitude : Nat := 2047 * 2 ^ (52 : Nat)

/-- All bits but the sign. -/
def magnitude (x : Binary64) : Nat := x.bits.toNat % 2 ^ (63 : Nat)

def isNegative (x : Binary64) : Bool := decide (2 ^ (63 : Nat) ≤ x.bits.toNat)

def isNaN (x : Binary64) : Bool := decide (infiniteMagnitude < x.magnitude)

def isInfinite (x : Binary64) : Bool := decide (x.magnitude = infiniteMagnitude)

def isFinite (x : Binary64) : Bool := decide (x.magnitude < infiniteMagnitude)

/-- Zero of either sign. -/
def isZero (x : Binary64) : Bool := decide (x.magnitude = 0)

/-- The number with the given sign and magnitude bits. -/
def ofMagnitude (negative : Bool) (magnitude : Nat) : Binary64 :=
  ⟨UInt64.ofNat (if negative then 2 ^ (63 : Nat) + magnitude else magnitude)⟩

def zero : Binary64 := ofMagnitude false 0
def negativeZero : Binary64 := ofMagnitude true 0
def one : Binary64 := ofMagnitude false (1023 * 2 ^ (52 : Nat))
def two : Binary64 := ofMagnitude false (1024 * 2 ^ (52 : Nat))

/-- A quiet NaN with the given sign. -/
def nan (negative : Bool) : Binary64 := ofMagnitude negative (infiniteMagnitude + 2 ^ (51 : Nat))

def infinity (negative : Bool) : Binary64 := ofMagnitude negative infiniteMagnitude

/-- The binary64 nearest to a count. -/
def ofNat (n : Nat) : Binary64 := ofFloat (Float.ofNat n)

/-- Negative numbers lie by falling magnitude below all others, so `-0.0` lies just below `0.0`. -/
def rank (x : Binary64) : Int :=
  if x.isNegative then -(x.magnitude : Int) - 1 else x.magnitude

/-- Sums begin at `-0.0`, the only start that leaves every number unchanged. -/
def sum (values : List Binary64) : Binary64 := values.foldl (· + ·) negativeZero

def product (values : List Binary64) : Binary64 := values.foldl (· * ·) one

theorem magnitude_lt (x : Binary64) : x.magnitude < 2 ^ (63 : Nat) :=
  Nat.mod_lt _ (by decide)

theorem isFinite_iff (x : Binary64) : x.isFinite = true ↔ ¬ x.isNaN ∧ ¬ x.isInfinite := by
  simp only [isFinite, isNaN, isInfinite, decide_eq_true_eq]
  omega

theorem bits_toNat (x : Binary64) :
    x.bits.toNat = (if x.isNegative then 2 ^ (63 : Nat) else 0) + x.magnitude := by
  have h := x.bits.toNat_lt
  simp only [isNegative, magnitude, decide_eq_true_eq]
  split <;> omega

/-- No two numbers share a rank. -/
theorem rank_inj {x y : Binary64} (h : x.rank = y.rank) : x = y := by
  have hx := bits_toNat x
  have hy := bits_toNat y
  have hb : x.bits.toNat = y.bits.toNat := by
    cases hn : x.isNegative <;> cases hm : y.isNegative <;>
      simp only [rank, hn, hm, Bool.false_eq_true, ↓reduceIte] at h hx hy <;> omega
  cases x
  cases y
  exact congrArg mk (UInt64.toNat.inj hb)

end Binary64

end Calculator
