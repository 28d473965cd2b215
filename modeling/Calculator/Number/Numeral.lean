import Calculator.Number.Rounding

/-!
Reading numerals: an optional sign, then digits with at most one point among them and an optional
exponent, or one of the words `inf`, `infinity` and `nan` in any case.
-/

namespace Calculator.Numeral

/-- The number that a string of decimal digits denotes. -/
def digitsValue (cs : List Char) : Nat := Nat.ofDigitChars 10 cs 0

def readSign : List Char → Bool × List Char
  | '-' :: cs => (true, cs)
  | '+' :: cs => (false, cs)
  | cs => (false, cs)

/-- An exponent part, or nothing at all. -/
def readExponent? : List Char → Option Int
  | [] => some 0
  | mark :: cs =>
    let (negative, digits) := readSign cs
    if (mark = 'e' ∨ mark = 'E') ∧ digits ≠ [] ∧ digits.all Char.isDigit then
      some (if negative then -(digitsValue digits : Int) else digitsValue digits)
    else none

/-- The digits after a point, and what follows them. -/
def readPlaces : List Char → List Char × List Char
  | '.' :: cs => (cs.takeWhile Char.isDigit, cs.dropWhile Char.isDigit)
  | cs => ([], cs)

def readDecimal? (negative : Bool) (cs : List Char) : Option Binary64 :=
  let whole := cs.takeWhile Char.isDigit
  let (places, afterPlaces) := readPlaces (cs.dropWhile Char.isDigit)
  if whole.isEmpty && places.isEmpty then none
  else (readExponent? afterPlaces).map fun exponent =>
    .ofDecimal negative (digitsValue (whole ++ places)) (exponent - places.length)

/-- The value of a numeral, the nearest binary64 to it. -/
def read? (cs : List Char) : Option Binary64 :=
  let (negative, unsigned) := readSign cs
  let word := unsigned.map Char.toLower
  if word = "nan".toList then some (.nan negative)
  else if word = "inf".toList ∨ word = "infinity".toList then some (.infinity negative)
  else readDecimal? negative unsigned

end Calculator.Numeral
