/-!
Reading whole numbers of 64 bits: an optional sign and decimal digits.
-/

namespace Calculator.Whole

/-- The least and the greatest number that has 64 bits and a sign. -/
def least : Int := Int64.minValue.toInt
def greatest : Int := Int64.maxValue.toInt

def readDigits? (cs : List Char) : Option Nat :=
  if !cs.isEmpty && cs.all Char.isDigit then some (Nat.ofDigitChars 10 cs 0) else none

def inRange? (n : Int) : Option Int := if least ≤ n ∧ n ≤ greatest then some n else none

/-- The number that a text denotes, if it is a numeral of a number in range. -/
def read? (s : String) : Option Int :=
  match s.toList with
  | '-' :: cs => (readDigits? cs).bind fun n => inRange? (-n)
  | '+' :: cs => (readDigits? cs).bind fun n => inRange? n
  | cs => (readDigits? cs).bind fun n => inRange? n

/-- The greatest number that has 64 bits and no sign. -/
def greatestUnsigned : Nat := UInt64.size - 1

/-- The number that a numeral without a minus sign denotes. -/
def readUnsigned? (s : String) : Option Nat :=
  let digits :=
    match s.toList with
    | '+' :: cs => cs
    | cs => cs
  (readDigits? digits).filter (· ≤ greatestUnsigned)

end Calculator.Whole
