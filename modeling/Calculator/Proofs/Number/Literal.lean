import Calculator.Number.Numeral
import Calculator.Proofs.Number.Shortest
import Calculator.Proofs.Number.Written

/-!
Numerals without an exponent, as they are typed and as most results are written.
-/

namespace Calculator

/-- Digits, and then perhaps a point and more digits. -/
structure Literal where
  whole : List Char
  places : Option (List Char)
  whole_ne_nil : whole ≠ []
  isDigit_whole : ∀ c ∈ whole, c.isDigit = true
  isDigit_places : ∀ c ∈ places.getD [], c.isDigit = true

namespace Literal

/-- What follows the whole part. -/
def tail (l : Literal) : List Char :=
  match l.places with
  | none => []
  | some cs => '.' :: cs

def chars (l : Literal) : List Char := l.whole ++ l.tail

/-- The number that a literal denotes exactly. -/
def decimal (l : Literal) : Decimal :=
  ⟨Numeral.digitsValue (l.whole ++ l.places.getD []), -(l.places.getD []).length⟩

/-- The binary64 nearest to a literal with a sign. -/
def value (l : Literal) (negative : Bool) : Binary64 :=
  .ofDecimal negative l.decimal.digits l.decimal.exponent

theorem chars_eq_cons (l : Literal) : ∃ d ds, l.whole = d :: ds ∧ d.isDigit = true ∧
    (∀ c ∈ ds, c.isDigit = true) ∧ l.chars = d :: (ds ++ l.tail) := by
  obtain ⟨d, ds, hw⟩ := List.exists_cons_of_ne_nil l.whole_ne_nil
  refine ⟨d, ds, hw, l.isDigit_whole d (by simp [hw]), ?_, by simp [chars, hw]⟩
  intro c hc
  exact l.isDigit_whole c (by simp [hw, hc])

theorem mem_chars {l : Literal} {c : Char} (h : c ∈ l.chars) : c.isDigit = true ∨ c = '.' := by
  rcases List.mem_append.mp h with h | h
  · exact .inl (l.isDigit_whole c h)
  · have hp := l.isDigit_places
    unfold tail at h
    split at h
    next => contradiction
    next cs hcs =>
      rcases List.mem_cons.mp h with rfl | h
      · exact .inr rfl
      · exact .inl (hp c (by simpa [hcs] using h))

end Literal

namespace Numeral

theorem toLower_of_isDigit {c : Char} (h : c.isDigit = true) : c.toLower = c := by
  unfold Char.toLower
  refine dif_neg ?_
  rintro ⟨hA, -⟩
  simp only [Char.isDigit, Bool.and_eq_true, decide_eq_true_eq, ge_iff_le,
    UInt32.le_iff_toNat_le] at h hA
  have h9 : '9'.val.toNat < 'A'.val.toNat := by decide
  omega

theorem takeWhile_append_ended {ds after : List Char} (hds : ∀ c ∈ ds, c.isDigit = true)
    (ha : ∀ c ∈ after.head?, c.isDigit = false) :
    (ds ++ after).takeWhile Char.isDigit = ds ∧ (ds ++ after).dropWhile Char.isDigit = after := by
  rw [List.takeWhile_append_of_pos hds, List.dropWhile_append_of_pos hds]
  cases after with
  | nil => simp
  | cons c cs => simp [ha c rfl]

/-- What begins with a digit is none of the words. -/
theorem read?_of_digit {cs ds : List Char} {negative : Bool} {d : Char}
    (h : readSign cs = (negative, d :: ds)) (hd : d.isDigit = true) :
    read? cs = readDecimal? negative (d :: ds) := by
  have hword : ∀ c cs, c.isDigit = false → (d :: ds).map Char.toLower ≠ c :: cs := by
    intro c cs hc he
    rw [List.map_cons, toLower_of_isDigit hd] at he
    rw [(List.cons.inj he).1, hc] at hd
    cases hd
  have hnan : (d :: ds).map Char.toLower ≠ "nan".toList := hword 'n' _ rfl
  have hinf : (d :: ds).map Char.toLower ≠ "inf".toList := hword 'i' _ rfl
  have hinfinity : (d :: ds).map Char.toLower ≠ "infinity".toList := hword 'i' _ rfl
  simp only [read?, h, hnan, hinf, hinfinity, or_self, ↓reduceIte]

/-- A digit is no sign, so before it a minus sign is read, or nothing. -/
theorem readSign_of_digit {d : Char} (hd : d.isDigit = true) (negative : Bool) (ds : List Char) :
    readSign ((if negative then ['-'] else []) ++ d :: ds) = (negative, d :: ds) := by
  cases negative with
  | true => rfl
  | false =>
    change readSign (d :: ds) = _
    unfold readSign
    split
    next h => cases h; exact absurd hd (by decide)
    next h => cases h; exact absurd hd (by decide)
    next => rfl

variable (l : Literal)

/-- The places after a point end where neither a digit follows nor a point that could be the literal's
own. -/
theorem readPlaces_tail {after : List Char} (ha : ∀ c ∈ after.head?, c.isDigit = false)
    (hp : l.places = none → after.head? ≠ some '.') :
    readPlaces (l.tail ++ after) = (l.places.getD [], after) := by
  have hd := l.isDigit_places
  unfold Literal.tail
  cases h : l.places with
  | none =>
    rw [List.nil_append, Option.getD_none]
    unfold readPlaces
    split
    next => exact absurd rfl (hp h)
    next => rfl
  | some cs =>
    rw [h, Option.getD_some] at hd
    obtain ⟨htake, hdrop⟩ := takeWhile_append_ended hd ha
    simp only [List.cons_append, readPlaces, htake, hdrop, Option.getD_some]

/-- A literal is read for what it denotes, moved by the exponent part that follows it. -/
theorem readDecimal?_append (negative : Bool) {after : List Char}
    (ha : ∀ c ∈ after.head?, c.isDigit = false) (hp : l.places = none → after.head? ≠ some '.') :
    readDecimal? negative (l.chars ++ after) = (readExponent? after).map fun exponent =>
      .ofDecimal negative l.decimal.digits (exponent + l.decimal.exponent) := by
  have htail : ∀ c ∈ (l.tail ++ after).head?, c.isDigit = false := by
    unfold Literal.tail
    cases l.places with
    | none => simpa using ha
    | some cs => simp
  obtain ⟨hwhole, hrest⟩ := takeWhile_append_ended l.isDigit_whole htail
  have hne : l.whole.isEmpty = false := by simpa using l.whole_ne_nil
  simp only [readDecimal?, Literal.chars, List.append_assoc, hwhole, hrest, readPlaces_tail l ha hp, hne,
    Bool.false_and, Bool.false_eq_true, ↓reduceIte, Literal.decimal, Int.sub_eq_add_neg]

theorem readDecimal?_literal (negative : Bool) :
    readDecimal? negative l.chars = some (l.value negative) := by
  have h := @readDecimal?_append l negative [] (by simp) (by simp)
  rw [List.append_nil, readExponent?, Option.map_some, Int.zero_add] at h
  exact h

theorem read?_of_readSign {cs after : List Char} {negative : Bool}
    (h : readSign cs = (negative, l.chars ++ after)) :
    read? cs = readDecimal? negative (l.chars ++ after) := by
  obtain ⟨d, ds, -, hd, -, hc⟩ := l.chars_eq_cons
  rw [hc, List.cons_append] at h ⊢
  exact read?_of_digit h hd

/-- Before a literal a minus sign is read, or nothing. -/
theorem read?_signed (negative : Bool) (after : List Char) :
    read? ((if negative then ['-'] else []) ++ (l.chars ++ after)) =
      readDecimal? negative (l.chars ++ after) := by
  apply read?_of_readSign
  obtain ⟨d, ds, -, hd, -, hc⟩ := l.chars_eq_cons
  rw [hc, List.cons_append]
  exact readSign_of_digit hd negative _

theorem read?_signed_literal (negative : Bool) :
    read? ((if negative then ['-'] else []) ++ l.chars) = some (l.value negative) := by
  have h := read?_signed l negative []
  rwa [List.append_nil, readDecimal?_literal] at h

theorem read?_literal : read? l.chars = some (l.value false) := read?_signed_literal l false

theorem read?_minus_literal : read? ('-' :: l.chars) = some (l.value true) := read?_signed_literal l true

theorem read?_plus_literal : read? ('+' :: l.chars) = some (l.value false) := by
  have hsign : readSign ('+' :: l.chars) = (false, l.chars ++ []) := by
    rw [List.append_nil]
    rfl
  rw [read?_of_readSign l hsign, List.append_nil, readDecimal?_literal]

end Numeral

end Calculator
