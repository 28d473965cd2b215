import Calculator.Proofs.Number.Exponent

/-!
A finite result is written with a point or with an exponent, and in either form it is read back as the
same number.
-/

namespace Calculator

open scoped Binary64

namespace Literal

/-- There are digits on both sides of a point. -/
def IsPointed (l : Literal) : Prop := ∃ places, l.places = some places ∧ places ≠ []

/-- There is one digit, and a point only with digits after it. -/
def IsLeading (l : Literal) : Prop := l.whole.length = 1 ∧ l.places ≠ some []

end Literal

namespace Numeral

/-- A minus sign or none, and digits around a point. -/
def IsPositional (cs : List Char) : Prop :=
  ∃ (negative : Bool) (l : Literal), l.IsPointed ∧
    cs = (if negative then ['-'] else []) ++ l.chars

/-- A minus sign or none, one digit, perhaps a point and more digits, and an exponent part of a sign and at
least two digits. -/
def IsScientific (cs : List Char) : Prop :=
  ∃ (negative : Bool) (l : Literal) (e : Exponent), l.IsLeading ∧ 2 ≤ e.digits.length ∧
    cs = (if negative then ['-'] else []) ++ (l.chars ++ e.chars)

theorem digitsValue_toDigits_zeros (n zeros : Nat) :
    digitsValue (Nat.toDigits 10 n ++ List.replicate zeros '0') = n * 10 ^ zeros := by
  rw [digitsValue, Nat.ofDigitChars_append, Nat.ofDigitChars_replicate_zero,
    Nat.ofDigitChars_ten_toDigits, Nat.mul_comm]

end Numeral

namespace Decimal

open Whole (isDigits_toDigits)

theorem isDigit_zero : ∀ c ∈ ['0'], c.isDigit = true := by
  intro c hc
  rw [List.mem_singleton.mp hc]
  rfl

/-- The positional form of a decimal is a literal for the same number. -/
theorem exists_literal (d : Decimal) :
    ∃ l : Literal, l.IsPointed ∧ d.positional = l.chars ∧ l.decimal.SameValue d := by
  by_cases he : 0 ≤ d.exponent
  · refine ⟨⟨Nat.toDigits 10 d.digits ++ List.replicate d.exponent.toNat '0', some ['0'], ?_, ?_, ?_⟩,
      ⟨_, rfl, List.cons_ne_nil _ _⟩, ?_, ?_⟩
    · exact List.append_ne_nil_of_left_ne_nil Nat.toDigits_ne_nil _
    · exact List.forall_mem_append.mpr ⟨(isDigits_toDigits _).all, fun _ => isDigit_of_mem_replicate⟩
    · exact isDigit_zero
    · simp [Literal.chars, Literal.tail, positional, he]
    · have hv : Numeral.digitsValue (Nat.toDigits 10 d.digits ++
          List.replicate d.exponent.toNat '0' ++ ['0']) = d.digits * 10 ^ (d.exponent.toNat + 1) := by
        rw [List.append_assoc, ← List.replicate_succ', Numeral.digitsValue_toDigits_zeros]
      simp only [SameValue, Literal.decimal, Option.getD_some, hv, fraction, he, ↓reduceIte,
        List.length_singleton]
      simp [Nat.pow_succ, Nat.mul_assoc]
  · let places := (-d.exponent).toNat
    let padded := List.replicate (places + 1 - (Nat.toDigits 10 d.digits).length) '0' ++
      Nat.toDigits 10 d.digits
    have hd : ∀ c ∈ padded, c.isDigit = true :=
      List.forall_mem_append.mpr ⟨fun _ => isDigit_of_mem_replicate, (isDigits_toDigits _).all⟩
    have hl : places < padded.length := by
      simp only [padded, List.length_append, List.length_replicate]
      omega
    have hlen : padded.length - (padded.length - places) = places := by omega
    have hp : (-(places : Int)) = d.exponent := by omega
    refine ⟨⟨padded.take (padded.length - places), some (padded.drop (padded.length - places)),
      ?_, ?_, ?_⟩, ⟨_, rfl, ?_⟩, ?_, ?_⟩
    · rw [Ne, ← List.length_eq_zero_iff, List.length_take]
      omega
    · exact fun c hc => hd c (List.mem_of_mem_take hc)
    · exact fun c hc => hd c (List.mem_of_mem_drop hc)
    · rw [Ne, ← List.length_eq_zero_iff, List.length_drop]
      omega
    · simp only [Literal.chars, Literal.tail, positional, he, ↓reduceIte, padded, places]
    · have hv : Numeral.digitsValue padded = d.digits := Numeral.digitsValue_zeros_toDigits _ _
      simp only [SameValue, Literal.decimal, Option.getD_some, List.take_append_drop, hv,
        List.length_drop, hlen, hp]

/-- Digits with a point after the first one, if there are more. -/
def pointed : List Char → List Char
  | first :: second :: rest => first :: '.' :: second :: rest
  | short => short

theorem scientific_eq (d : Decimal) (least : Nat) :
    d.scientific least =
      pointed (Nat.toDigits 10 d.digits) ++ (Exponent.padded d.leadingExponent least).chars := by
  simp only [scientific, Exponent.chars, Exponent.padded, decide_eq_true_eq, List.append_assoc,
    List.cons_append]
  rfl

theorem exists_leading {digits : List Char} (h : Whole.IsDigits digits) :
    ∃ l : Literal, l.IsLeading ∧ l.chars = pointed digits ∧
      l.decimal = ⟨Numeral.digitsValue digits, 1 - digits.length⟩ := by
  cases digits with
  | nil => exact absurd rfl h.ne_nil
  | cons first rest =>
    obtain ⟨hfirst, hrest⟩ := List.forall_mem_cons.mp h.all
    cases rest with
    | nil =>
      exact ⟨⟨[first], none, List.cons_ne_nil _ _, by simpa using hfirst, by simp⟩, ⟨rfl, by simp⟩, rfl,
        rfl⟩
    | cons second rest =>
      refine ⟨⟨[first], some (second :: rest), List.cons_ne_nil _ _, by simpa using hfirst, hrest⟩,
        ⟨rfl, by simp⟩, rfl, ?_⟩
      have hexponent : -((second :: rest).length : Int) = 1 - (first :: second :: rest).length := by
        simp only [List.length_cons]
        omega
      simp only [Literal.decimal, Option.getD_some, List.singleton_append, hexponent]

/-- The scientific form of a decimal is a literal with an exponent part that gives the decimal back. -/
theorem exists_scientific (d : Decimal) (least : Nat) :
    ∃ (l : Literal) (e : Exponent), l.IsLeading ∧ least ≤ e.digits.length ∧
      d.scientific least = l.chars ++ e.chars ∧ l.scaled e = d := by
  obtain ⟨l, hl, hc, hd⟩ := exists_leading (isDigits_toDigits d.digits)
  refine ⟨l, .padded d.leadingExponent least, hl, Exponent.length_padded _ _, ?_, ?_⟩
  · rw [hc, scientific_eq]
  · have hvalue : Numeral.digitsValue (Nat.toDigits 10 d.digits) = d.digits :=
      Nat.ofDigitChars_ten_toDigits
    have hexponent : d.leadingExponent + (1 - (Nat.toDigits 10 d.digits).length) = d.exponent := by
      rw [leadingExponent]
      omega
    simp only [Literal.scaled, hd, Exponent.value_padded, hvalue, hexponent]

end Decimal

namespace Binary64

theorem ofMagnitude_magnitude (x : Binary64) : ofMagnitude x.isNegative x.magnitude = x := by
  have hb : (if x.isNegative then 2 ^ 63 + x.magnitude else x.magnitude) = x.bits.toNat := by
    rw [bits_toNat]
    split <;> omega
  unfold ofMagnitude
  rw [hb, UInt64.ofNat_toNat]

/-- The forms of a written magnitude, with numerals that are read as it. -/
inductive WrittenAs (m : Nat) : List Char → Prop where
  | positional (l : Literal) (hl : l.IsPointed)
      (hv : ∀ negative, l.value negative = ofMagnitude negative m) : WrittenAs m l.chars
  | scientific (l : Literal) (e : Exponent) (hl : l.IsLeading) (he : 2 ≤ e.digits.length)
      (hv : ∀ negative, ofDecimal negative (l.scaled e).digits (l.scaled e).exponent =
        ofMagnitude negative m) : WrittenAs m (l.chars ++ e.chars)

theorem writtenAs_writtenMagnitude {m : Nat} (hi : m < infiniteMagnitude) :
    WrittenAs m (writtenMagnitude m) := by
  unfold writtenMagnitude
  rw [if_neg (Nat.ne_of_lt hi)]
  by_cases h0 : m = 0
  · subst h0
    exact .positional ⟨['0'], some ['0'], List.cons_ne_nil _ _, Decimal.isDigit_zero, Decimal.isDigit_zero⟩
      ⟨_, rfl, List.cons_ne_nil _ _⟩ fun _ => rfl
  have hm : 0 < m := Nat.pos_of_ne_zero h0
  rw [if_neg h0, Decimal.write]
  split
  · obtain ⟨l, hl, hw, hv⟩ := (shortest m).exists_literal
    rw [hw]
    refine .positional l hl fun negative => ofDecimal_of_roundsTo negative hm hi ?_
    rw [roundsTo_congr hv]
    exact roundsTo_shortest hm
  · obtain ⟨l, e, hl, he, hw, hd⟩ := (shortest m).exists_scientific Layout.result.exponentDigits
    rw [hw]
    refine .scientific l e hl he fun negative => ofDecimal_of_roundsTo negative hm hi ?_
    rw [hd]
    exact roundsTo_shortest hm

variable {x : Binary64}

theorem exists_writtenAs (hf : x.isFinite = true) :
    ∃ cs, x.written = (if x.isNegative then ['-'] else []) ++ cs ∧ WrittenAs x.magnitude cs := by
  have hn : x.isNaN = false := by simpa using ((isFinite_iff x).mp hf).1
  exact ⟨_, written_eq hn, writtenAs_writtenMagnitude (by simpa [isFinite] using hf)⟩

/-- A finite number that is written without an exponent is written as a literal with its value. -/
theorem exists_literal (hf : x.isFinite = true) (he : 'e' ∉ x.written) :
    ∃ l : Literal, x.written = (if x.isNegative then ['-'] else []) ++ l.chars ∧
      ∀ negative, l.value negative = ofMagnitude negative x.magnitude := by
  obtain ⟨cs, hw, h⟩ := exists_writtenAs hf
  rw [hw] at he ⊢
  cases h with
  | positional l _ hv => exact ⟨l, rfl, hv⟩
  | scientific l e => exact absurd (by simp [Exponent.chars]) he

theorem form_of_written (hf : x.isFinite = true) :
    Numeral.IsPositional x.written ∨ Numeral.IsScientific x.written := by
  obtain ⟨cs, hw, h⟩ := exists_writtenAs hf
  rw [hw]
  cases h with
  | positional l hl => exact .inl ⟨_, l, hl, rfl⟩
  | scientific l e hl he => exact .inr ⟨_, l, e, hl, he, rfl⟩

/-- Whatever a finite number is written as, it is read as that number. -/
theorem read?_written (hf : x.isFinite = true) : Numeral.read? x.written = some x := by
  obtain ⟨cs, hw, h⟩ := exists_writtenAs hf
  rw [hw]
  cases h with
  | positional l _ hv => rw [Numeral.read?_signed_literal, hv, ofMagnitude_magnitude]
  | scientific l e _ _ hv =>
    rw [Numeral.read?_signed, Numeral.readDecimal?_scaled, hv, ofMagnitude_magnitude]

end Binary64

end Calculator
