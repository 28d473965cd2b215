import Calculator.Proofs.Number.Literal
import Calculator.Proofs.Number.Whole

/-!
Numerals with an exponent part. It moves the literal before it by as many places as it says, and the zeros
that its digits begin with say nothing.
-/

namespace Calculator

open Whole (IsDigits)

namespace Numeral

theorem digitsValue_zeros_toDigits (zeros n : Nat) :
    digitsValue (List.replicate zeros '0' ++ Nat.toDigits 10 n) = n := by
  rw [digitsValue, Nat.ofDigitChars_append, Nat.ofDigitChars_replicate_zero, Nat.mul_zero,
    Nat.ofDigitChars_ten_toDigits]

end Numeral

/-- An exponent part with a sign. -/
structure Exponent where
  negative : Bool
  digits : List Char
  isDigits : IsDigits digits

namespace Exponent

def chars (e : Exponent) : List Char := 'e' :: (if e.negative then '-' else '+') :: e.digits

def value (e : Exponent) : Int :=
  if e.negative then -(Numeral.digitsValue e.digits : Int) else Numeral.digitsValue e.digits

/-- The exponent part for a number, with zeros before it up to a least number of digits. -/
def padded (n : Int) (least : Nat) : Exponent where
  negative := decide (n < 0)
  digits := List.replicate (least - (Nat.toDigits 10 n.natAbs).length) '0' ++ Nat.toDigits 10 n.natAbs
  isDigits := by
    have hd := Whole.isDigits_toDigits n.natAbs
    constructor
    · exact List.append_ne_nil_of_right_ne_nil _ hd.ne_nil
    · exact List.forall_mem_append.mpr ⟨fun _ => Decimal.isDigit_of_mem_replicate, hd.all⟩

theorem length_padded (n : Int) (least : Nat) : least ≤ (padded n least).digits.length := by
  simp only [padded, List.length_append, List.length_replicate]
  omega

theorem value_padded (n : Int) (least : Nat) : (padded n least).value = n := by
  have hv : Numeral.digitsValue (padded n least).digits = n.natAbs :=
    Numeral.digitsValue_zeros_toDigits _ _
  rw [value, hv]
  simp only [padded, decide_eq_true_eq]
  split <;> omega

end Exponent

namespace Literal

/-- A literal moved by an exponent part. -/
def scaled (l : Literal) (e : Exponent) : Decimal := ⟨l.decimal.digits, e.value + l.decimal.exponent⟩

end Literal

namespace Numeral

variable (l : Literal) (e : Exponent)

theorem readExponent?_chars : readExponent? e.chars = some e.value := by
  have hall : e.digits.all Char.isDigit = true := List.all_eq_true.mpr e.isDigits.all
  unfold Exponent.chars Exponent.value
  cases e.negative with
  | true => simp [readExponent?, readSign, e.isDigits.ne_nil, hall]
  | false => simp [readExponent?, readSign, e.isDigits.ne_nil, hall]

theorem readDecimal?_scaled (negative : Bool) :
    readDecimal? negative (l.chars ++ e.chars) =
      some (.ofDecimal negative (l.scaled e).digits (l.scaled e).exponent) := by
  have hmark : e.chars.head? = some 'e' := rfl
  rw [readDecimal?_append l negative (by simp [hmark]) (by simp [hmark]), readExponent?_chars]
  rfl

end Numeral

end Calculator
