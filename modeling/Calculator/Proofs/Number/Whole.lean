import Calculator.Number.Whole

/-!
Numerals of whole numbers. A numeral may denote any number, however large; it is read as the number
that it denotes if that is in range, and as nothing if it is not.
-/

namespace Calculator.Whole

/-- Decimal digits, at least one of them. -/
structure IsDigits (cs : List Char) : Prop where
  ne_nil : cs ≠ []
  all : ∀ c ∈ cs, c.isDigit = true

/-- A numeral of a number: digits, with a sign or without. -/
inductive Denotes : List Char → Int → Prop where
  | plain {cs : List Char} (h : IsDigits cs) : Denotes cs (Nat.ofDigitChars 10 cs 0 : Nat)
  | plus {cs : List Char} (h : IsDigits cs) : Denotes ('+' :: cs) (Nat.ofDigitChars 10 cs 0 : Nat)
  | minus {cs : List Char} (h : IsDigits cs) : Denotes ('-' :: cs) (-(Nat.ofDigitChars 10 cs 0 : Nat))

variable {s : String} {cs : List Char} {n : Int}

theorem readDigits?_of_isDigits (h : IsDigits cs) :
    readDigits? cs = some (Nat.ofDigitChars 10 cs 0) := by
  have ha : cs.all Char.isDigit = true := List.all_eq_true.mpr h.all
  simp [readDigits?, h.ne_nil, ha]

theorem read?_of_denotes (h : Denotes s.toList n) : read? s = inRange? n := by
  unfold read?
  generalize s.toList = cs at h
  cases h with
  | plus h => simp only [readDigits?_of_isDigits h, Option.bind_some]
  | minus h => simp only [readDigits?_of_isDigits h, Option.bind_some]
  | plain h =>
    split
    next => exact absurd (h.all '-' List.mem_cons_self) (by decide)
    next => exact absurd (h.all '+' List.mem_cons_self) (by decide)
    next => rw [readDigits?_of_isDigits h, Option.bind_some]

theorem read?_eq_some (h : Denotes s.toList n) (hl : least ≤ n) (hg : n ≤ greatest) :
    read? s = some n := by
  rw [read?_of_denotes h, inRange?, if_pos ⟨hl, hg⟩]

theorem read?_of_nonneg (h : Denotes s.toList n) (hp : 0 ≤ n) (hg : n ≤ greatest) :
    read? s = some n := by
  have hleast : least ≤ 0 := by decide
  exact read?_eq_some h (by omega) hg

theorem read?_eq_none (h : Denotes s.toList n) (hn : n < least ∨ greatest < n) : read? s = none := by
  rw [read?_of_denotes h, inRange?, if_neg (by omega)]

theorem isDigits_toDigits (n : Nat) : IsDigits (Nat.toDigits 10 n) where
  ne_nil := Nat.toDigits_ne_nil
  all := fun c hc => Nat.isDigit_of_mem_toDigits (by decide) (by decide) hc

/-- A number is written as a numeral of itself. -/
theorem denotes_toString (n : Nat) : Denotes (toString n).toList n := by
  have hd := Denotes.plain (isDigits_toDigits n)
  rw [Nat.ofDigitChars_ten_toDigits] at hd
  rwa [Nat.toString_eq_ofList_toDigits, String.toList_ofList]

end Calculator.Whole
